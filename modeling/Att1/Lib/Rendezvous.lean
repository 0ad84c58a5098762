import Mathlib.Data.Finset.Card
import Mathlib.Data.List.Count

/-!
# Att1.Lib.Rendezvous — counting the arrivals at a meeting point

A rendezvous has a set of members and a list of those that have arrived so far.  As long as nobody outside the
set and nobody twice is let in (`Gathering`), a count of the arrivals decides whether everybody is there.
-/

namespace Att1.Lib

variable {α : Type*} {members : Finset α} {arrived : List α} {a : α}

/-- The arrivals are distinct members. -/
structure Gathering (members : Finset α) (arrived : List α) : Prop where
  nodup : arrived.Nodup
  mem : ∀ a ∈ arrived, a ∈ members

namespace Gathering

theorem nil (members : Finset α) : Gathering members [] :=
  ⟨List.nodup_nil, fun _ ha => absurd ha List.not_mem_nil⟩

theorem cons (h : Gathering members arrived) (ha : a ∈ members) (hn : a ∉ arrived) :
    Gathering members (a :: arrived) :=
  ⟨List.nodup_cons.mpr ⟨hn, h.nodup⟩, List.forall_mem_cons.mpr ⟨ha, h.mem⟩⟩

variable [DecidableEq α]

theorem toFinset_subset (h : Gathering members arrived) : arrived.toFinset ⊆ members := by
  intro a ha
  exact h.mem a (List.mem_toFinset.mp ha)

theorem card_toFinset (h : Gathering members arrived) : arrived.toFinset.card = arrived.length :=
  List.toFinset_card_of_nodup h.nodup

theorem length_le (h : Gathering members arrived) : arrived.length ≤ members.card := by
  rw [← h.card_toFinset]
  exact Finset.card_le_card h.toFinset_subset

/-- As many arrivals as members: everybody is there. -/
theorem length_eq_iff (h : Gathering members arrived) :
    arrived.length = members.card ↔ ∀ a ∈ members, a ∈ arrived := by
  constructor
  · intro hlen a ha
    have heq : arrived.toFinset = members := by
      apply Finset.eq_of_subset_of_card_le h.toFinset_subset
      rw [h.card_toFinset, hlen]
    rw [← heq] at ha
    exact List.mem_toFinset.mp ha
  · intro hall
    have hsub : members ⊆ arrived.toFinset := by
      intro a ha
      exact List.mem_toFinset.mpr (hall a ha)
    have hle := Finset.card_le_card hsub
    rw [h.card_toFinset] at hle
    exact le_antisymm h.length_le hle

/-- Everybody is there, and then everybody arrived exactly once. -/
theorem mem_iff_count_eq_one (h : Gathering members arrived) :
    (∀ a ∈ members, a ∈ arrived) ↔ ∀ a ∈ members, arrived.count a = 1 := by
  apply forall₂_congr
  intro a _
  constructor
  · intro ha
    exact List.count_eq_one_of_mem h.nodup ha
  · intro ha
    apply List.count_pos_iff.mp
    rw [ha]
    exact Nat.one_pos

end Gathering

/-! ### Two sides that meet in pairs -/

/-- Who waits after `side` has come; the side that waits already is turned away. -/
def waitingNext (waiting : Option Bool) (side : Bool) : Option Bool :=
  match waiting with
  | none => some side
  | some w => if w = side then some w else none

/-- Who waits after all these have come, in this order. -/
def waitingAfter (sides : List Bool) : Option Bool := sides.foldl waitingNext none

@[simp] theorem waitingAfter_nil : waitingAfter [] = none := rfl

theorem waitingAfter_concat (sides : List Bool) (side : Bool) :
    waitingAfter (sides ++ [side]) = waitingNext (waitingAfter sides) side := by
  unfold waitingAfter
  rw [List.foldl_append]
  rfl

@[simp] theorem waitingNext_same (side : Bool) : waitingNext (some side) side = some side := if_pos rfl

@[simp] theorem waitingNext_other (side : Bool) : waitingNext (some !side) side = none := by
  cases side <;> rfl

/-- The waiting side is the side that comes, the other one, or none. -/
theorem waiting_cases (waiting : Option Bool) (side : Bool) :
    waiting = none ∨ waiting = some side ∨ waiting = some !side := by
  rcases waiting with - | w
  · exact Or.inl rfl
  · cases w <;> cases side <;> simp

/-- Where everybody but the waiting side is let in, and the one who finds the other waiting completes the pair, each
side has been let in once for each pair, and once more while it waits. -/
theorem paired_next {waiting : Option Bool} {side : Bool} {admitted met : Bool} {s : Bool} {count pairs : ℕ}
    (hadmitted : admitted = true ↔ waiting ≠ some side) (hmet : met = true ↔ waiting = some !side)
    (h : count = pairs + if waiting = some s then 1 else 0) :
    (count + if side = s ∧ admitted = true then 1 else 0) =
      (pairs + if met = true then 1 else 0) + if waitingNext waiting side = some s then 1 else 0 := by
  simp only [hadmitted, hmet]
  subst h
  rcases waiting with - | w
  · cases side <;> cases s <;> simp [waitingNext]
  · cases w <;> cases side <;> cases s <;> simp [waitingNext]

end Att1.Lib
