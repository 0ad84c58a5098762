import Mathlib.Data.List.Basic

/-!
# Att1.Lib.Relay — a relay between two queues

Messages enter the queue `p` at its end, a relay moves the head of `p`, changed by `f`, to the end of `q`, and
receivers take messages from the head of `q`.

* `Conserved f p₀ entered q₀ taken p q`: what was in `p` or entered it has, in order and each message once, either
  been moved to `q` or is still in `p`; and `q` holds, behind what was taken, exactly what was moved.
* `Conserved.enter`, `Conserved.take`, `Conserved.move`: the three steps keep it.
* `Conserved.loss`: a message that leaves `p` without reaching `q` breaks it.
-/

namespace Att1.Lib

variable {α β : Type*} {f : α → β} {p₀ entered p : List α} {q₀ taken q : List β} {a : α} {b : β}

/-- Nothing is lost, doubled or reordered between the two queues. -/
def Conserved (f : α → β) (p₀ entered : List α) (q₀ taken : List β) (p : List α) (q : List β) : Prop :=
  ∃ moved, p₀ ++ entered = moved ++ p ∧ q₀ ++ moved.map f = taken ++ q

theorem Conserved.start (f : α → β) (p : List α) (q : List β) : Conserved f p [] q [] p q :=
  ⟨[], List.append_nil p, List.append_nil q⟩

theorem Conserved.enter (h : Conserved f p₀ entered q₀ taken p q) (a : α) :
    Conserved f p₀ (entered ++ [a]) q₀ taken (p ++ [a]) q := by
  obtain ⟨moved, hp, hq⟩ := h
  refine ⟨moved, ?_, hq⟩
  rw [← List.append_assoc, hp, List.append_assoc]

theorem Conserved.take (h : Conserved f p₀ entered q₀ taken p (b :: q)) :
    Conserved f p₀ entered q₀ (taken ++ [b]) p q := by
  obtain ⟨moved, hp, hq⟩ := h
  refine ⟨moved, hp, ?_⟩
  rw [hq, List.append_assoc]
  rfl

theorem Conserved.move (h : Conserved f p₀ entered q₀ taken (a :: p) q) :
    Conserved f p₀ entered q₀ taken p (q ++ [f a]) := by
  obtain ⟨moved, hp, hq⟩ := h
  refine ⟨moved ++ [a], ?_, ?_⟩
  · rw [hp, List.append_assoc]
    rfl
  · rw [List.map_append, ← List.append_assoc, hq, List.append_assoc]
    rfl

/-- The lengths of both queues tell how much has been moved. -/
theorem Conserved.length_eq (h : Conserved f p₀ entered q₀ taken p q) :
    p₀.length + entered.length + q₀.length = p.length + taken.length + q.length := by
  obtain ⟨moved, hp, hq⟩ := h
  have h1 := congrArg List.length hp
  have h2 := congrArg List.length hq
  simp only [List.length_append, List.length_map] at h1 h2
  omega

theorem Conserved.loss (h : Conserved f p₀ entered q₀ taken (a :: p) q) :
    ¬ Conserved f p₀ entered q₀ taken p q := by
  intro h'
  have h1 := h.length_eq
  have h2 := h'.length_eq
  rw [List.length_cons] at h1
  omega

end Att1.Lib
