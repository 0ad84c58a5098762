import Mathlib.Data.List.Basic

/-!
# Att1.Lib.Pipe — a message on its way through a byte stream

The sender hands a message over in chunks and the receiver takes it in chunks; the sizes of the two need not match.
Whatever the chunks, the message is what has arrived, then what is under way, then what has still to be sent
(`all_send`, `all_recv`), so a receiver that has as many cells as the message has the message (`Pipe.arrived`).
-/

namespace Att1.Lib

variable {α : Type*}

/-- What has still to be sent, what is under way and what has arrived. -/
structure Pipe (α : Type*) where
  rest : List α := []
  flight : List α := []
  got : List α := []

namespace Pipe

/-- The sender hands over the next `k` cells. -/
def send (p : Pipe α) (k : ℕ) : Pipe α :=
  { p with rest := p.rest.drop k, flight := p.flight ++ p.rest.take k }

/-- The receiver takes the next `k` cells. -/
def recv (p : Pipe α) (k : ℕ) : Pipe α :=
  { p with flight := p.flight.drop k, got := p.got ++ p.flight.take k }

/-- The receiver has done with what has arrived. -/
def clear (p : Pipe α) : Pipe α := { p with got := [] }

/-- The message. -/
def all (p : Pipe α) : List α := p.got ++ p.flight ++ p.rest

@[simp] theorem all_send (p : Pipe α) (k : ℕ) : (p.send k).all = p.all := by
  unfold all send
  simp only [List.append_assoc, List.take_append_drop]

@[simp] theorem all_recv (p : Pipe α) (k : ℕ) : (p.recv k).all = p.all := by
  unfold all recv
  rw [List.append_assoc p.got, List.take_append_drop]

@[simp] theorem send_rest_all (p : Pipe α) : (p.send p.rest.length).rest = [] := List.drop_length

@[simp] theorem recv_flight_all (p : Pipe α) : (p.recv p.flight.length).flight = [] := List.drop_length

theorem all_eq_nil {p : Pipe α} (h : p.all = []) : p.got = [] ∧ p.flight = [] ∧ p.rest = [] := by
  unfold all at h
  rw [List.append_eq_nil_iff, List.append_eq_nil_iff] at h
  exact ⟨h.1.1, h.1.2, h.2⟩

/-- A receiver that has as many cells as the message has the message. -/
theorem arrived {p : Pipe α} (h : p.got.length = p.all.length) : p.got = p.all ∧ p.flight = [] ∧ p.rest = [] := by
  have hlength : p.all.length = p.got.length + p.flight.length + p.rest.length := by
    unfold all
    rw [List.length_append, List.length_append]
  have hflight : p.flight = [] := List.length_eq_zero_iff.mp (by omega)
  have hrest : p.rest = [] := List.length_eq_zero_iff.mp (by omega)
  refine ⟨?_, hflight, hrest⟩
  unfold all
  rw [hflight, hrest, List.append_nil, List.append_nil]

end Pipe

end Att1.Lib
