import Mathlib.Logic.Function.Iterate
import Att1.Fabric.Queue

/-!
# Att1.Fabric.Timeout — how long `att1_fabric_receive_timeout` waits

The loop counts its ticks in a `size_t` and goes on while the tick is at most `timeout_ticks`, so for the largest
bound the test never fails.

* `EmptyFor`: a receive finds the queue of the tile empty.
* `AnswersInTime`: the call returns what `att1_fabric_receive` returns, after one attempt, or times out after
  `timeout_ticks + 1` attempts on an empty queue, each of which the fabric has counted.
* `receiveTimeout_iff`: it does unless the queue is empty and the bound is the largest `size_t`.
-/

namespace Att1.Fabric

variable {f : Fabric} {tile : ℕ} {outPacket outPayload : Bool} {outPayloadCapacity timeoutTicks : ℕ}

/-- A receive with these arguments gets as far as the queue, and the queue is empty. -/
def EmptyFor (f : Fabric) (tile : ℕ) (outPacket : Bool) : Prop :=
  outPacket = true ∧ f.validTile tile = true ∧ (f.queues tile).count = 0

theorem receive_emptyFor (h : EmptyFor f tile outPacket) :
    f.receive tile outPacket outPayload outPayloadCapacity = (f.countEmpty, .queueEmpty, none) := by
  obtain ⟨rfl, hvalid, hcount⟩ := h
  unfold receive
  rw [if_neg (by simp), if_neg (not_not.mpr hvalid)]
  exact if_pos hcount

theorem receive_queueEmpty :
    (f.receive tile outPacket outPayload outPayloadCapacity).2.1 = .queueEmpty ↔ EmptyFor f tile outPacket := by
  constructor
  · intro h
    unfold receive at h
    simp only at h
    split_ifs at h with h1 h2 h3 h4
    exact ⟨by simpa using h1, h2, h3⟩
  · intro h
    rw [receive_emptyFor h]

theorem EmptyFor.countEmpty (h : EmptyFor f tile outPacket) : EmptyFor f.countEmpty tile outPacket := h

/-- A call that does not find the queue empty returns what the first attempt returned. -/
theorem receiveTimeoutLoop_first (h : ¬ EmptyFor f tile outPacket) :
    receiveTimeoutLoop tile outPacket outPayload outPayloadCapacity timeoutTicks 1 0 f =
      some (f.receive tile outPacket outPayload outPayloadCapacity) := by
  unfold receiveTimeoutLoop
  rw [if_neg (Nat.not_lt_zero _)]
  exact if_pos fun hempty => h (receive_queueEmpty.mp hempty)

/-- On an empty queue each round is one attempt and one tick, up to the bound. -/
theorem receiveTimeoutLoop_empty (n : ℕ) {tick : ℕ} (h : EmptyFor f tile outPacket) (hmax : timeoutTicks < sizeMax)
    (htick : tick + n = timeoutTicks + 1) :
    receiveTimeoutLoop tile outPacket outPayload outPayloadCapacity timeoutTicks (n + 1) tick f =
      some (Fabric.countEmpty^[n] f, .timeout, none) := by
  induction n generalizing tick f with
  | zero =>
    unfold receiveTimeoutLoop
    exact if_pos (by omega)
  | succ n ih =>
    have hnext : sizeT (tick + 1) = tick + 1 := sizeT_eq (by omega)
    unfold receiveTimeoutLoop
    rw [if_neg (by omega), receive_emptyFor h, hnext]
    exact ih h.countEmpty (by omega)

/-- With the largest bound the test never fails. -/
theorem receiveTimeoutLoop_forever (fuel : ℕ) {tick : ℕ} (h : EmptyFor f tile outPacket) (htick : tick ≤ sizeMax) :
    receiveTimeoutLoop tile outPacket outPayload outPayloadCapacity sizeMax fuel tick f = none := by
  induction fuel generalizing tick f with
  | zero => rfl
  | succ fuel ih =>
    have hnext : sizeT (tick + 1) ≤ sizeMax := by
      unfold sizeT sizeMax
      omega
    unfold receiveTimeoutLoop
    rw [if_neg (by omega), receive_emptyFor h]
    exact ih h.countEmpty hnext

/-- The call returns within `timeout_ticks + 1` attempts: with the result of a receive, or with a timeout when the
queue is empty. -/
def AnswersInTime (f : Fabric) (tile : ℕ) (outPacket outPayload : Bool) (outPayloadCapacity timeoutTicks : ℕ) : Prop :=
  (¬ EmptyFor f tile outPacket →
    receiveTimeoutLoop tile outPacket outPayload outPayloadCapacity timeoutTicks 1 0 f =
      some (f.receive tile outPacket outPayload outPayloadCapacity)) ∧
  (EmptyFor f tile outPacket →
    receiveTimeoutLoop tile outPacket outPayload outPayloadCapacity timeoutTicks (timeoutTicks + 2) 0 f =
      some (Fabric.countEmpty^[timeoutTicks + 1] f, .timeout, none))

/-- **Waiting ends** within its bound, unless the queue is empty and the bound is the largest `size_t`; then it never
does. -/
theorem receiveTimeout_iff (f : Fabric) (tile : ℕ) (outPacket outPayload : Bool) (outPayloadCapacity timeoutTicks : ℕ)
    (hbound : timeoutTicks ≤ sizeMax) :
    (AnswersInTime f tile outPacket outPayload outPayloadCapacity timeoutTicks ↔
      ¬ (EmptyFor f tile outPacket ∧ timeoutTicks = sizeMax)) ∧
    (EmptyFor f tile outPacket ∧ timeoutTicks = sizeMax →
      ∀ fuel, receiveTimeoutLoop tile outPacket outPayload outPayloadCapacity timeoutTicks fuel 0 f = none) := by
  have hforever : EmptyFor f tile outPacket ∧ timeoutTicks = sizeMax →
      ∀ fuel, receiveTimeoutLoop tile outPacket outPayload outPayloadCapacity timeoutTicks fuel 0 f = none := by
    rintro ⟨h, rfl⟩ fuel
    exact receiveTimeoutLoop_forever fuel h (Nat.zero_le _)
  refine ⟨⟨fun hans hbad => ?_, fun hgood => ⟨receiveTimeoutLoop_first, fun h => ?_⟩⟩, hforever⟩
  · have hreturns := hans.2 hbad.1
    rw [hforever hbad] at hreturns
    cases hreturns
  · have hmax : timeoutTicks ≠ sizeMax := fun heq => hgood ⟨h, heq⟩
    exact receiveTimeoutLoop_empty (timeoutTicks + 1) h (by omega) (by omega)

theorem receiveTimeout_zero_ticks : ∃ f, create .generous ⟨2, 1, 4⟩ = .ok f ∧ AnswersInTime f 0 true true 4 0 := by
  obtain ⟨f, hc⟩ : ∃ f, create .generous ⟨2, 1, 4⟩ = .ok f := ⟨_, rfl⟩
  refine ⟨f, hc, (receiveTimeout_iff f 0 true true 4 0 (by decide)).1.mpr ?_⟩
  rintro ⟨-, hmax⟩
  exact absurd hmax (by decide)

/-- A receive from an empty queue with the largest bound never returns. -/
theorem receiveTimeout_never_returns : ∃ f, create .generous ⟨2, 1, 4⟩ = .ok f ∧
    (∀ fuel, receiveTimeoutLoop 0 true true 4 sizeMax fuel 0 f = none) ∧ ¬ AnswersInTime f 0 true true 4 sizeMax := by
  obtain ⟨f, hc, hempty⟩ : ∃ f, create .generous ⟨2, 1, 4⟩ = .ok f ∧ EmptyFor f 0 true :=
    ⟨_, rfl, rfl, rfl, rfl⟩
  have hforever (fuel : ℕ) : receiveTimeoutLoop 0 true true 4 sizeMax fuel 0 f = none :=
    receiveTimeoutLoop_forever fuel hempty (Nat.zero_le _)
  refine ⟨f, hc, hforever, fun hans => ?_⟩
  have hreturns := hans.2 hempty
  rw [hforever] at hreturns
  cases hreturns

end Att1.Fabric
