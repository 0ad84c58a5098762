import Mathlib.Logic.Function.Basic
import Att1.Lib.Table

/-!
# Att1.Lib.Slots — a small table of entries that belong to jobs

A table of `n` slots, each empty or with an entry.  `owner` says to which job an entry belongs.

* `findEntry`: the first entry that satisfies a predicate.
* `allocSlot`: the first empty slot, and slot 0 where there is none.
* `Holds n t x`: the entry `x` is in the table.  What clearing a slot and storing an entry do to it.
* `OneEach`: a job has one entry at most.
-/

namespace Att1.Lib

variable {α : Type*} {n i j : ℕ} {t : ℕ → Option α} {p : α → Bool} {x y : α} {owner : α → ℕ}

/-- The first empty slot. -/
def freeSlot (n : ℕ) (t : ℕ → Option α) : Option ℕ := findSlot n fun i => (t i).isNone

def allocSlot (n : ℕ) (t : ℕ → Option α) : ℕ := (freeSlot n t).getD 0

def findEntry (n : ℕ) (t : ℕ → Option α) (p : α → Bool) : Option (ℕ × α) :=
  (findSlot n fun i => (t i).any p).bind fun i => (t i).map fun x => (i, x)

def Holds (n : ℕ) (t : ℕ → Option α) (x : α) : Prop := ∃ i < n, t i = some x

def OneEach (owner : α → ℕ) (n : ℕ) (t : ℕ → Option α) : Prop :=
  ∀ i < n, ∀ j < n, ∀ x y, t i = some x → t j = some y → owner x = owner y → i = j

/-- The table is full, and `x` makes room. -/
def Displaced (n : ℕ) (t : ℕ → Option α) (x : α) : Prop := freeSlot n t = none ∧ t 0 = some x

theorem freeSlot_some (h : freeSlot n t = some i) : i < n ∧ t i = none := by
  obtain ⟨hi, hnone⟩ := findSlot_some h
  exact ⟨hi, Option.isNone_iff_eq_none.mp hnone⟩

theorem freeSlot_eq_none : freeSlot n t = none ↔ ∀ i < n, ∃ x, t i = some x := by
  unfold freeSlot
  rw [findSlot_eq_none]
  refine forall_congr' fun i => forall_congr' fun _ => ?_
  cases t i with
  | none => simp
  | some x => simp

theorem allocSlot_lt (hn : 0 < n) (t : ℕ → Option α) : allocSlot n t < n := by
  unfold allocSlot
  cases h : freeSlot n t with
  | none => exact hn
  | some i => exact (freeSlot_some h).1

/-- The chosen slot is empty, or it is slot 0 of a full table. -/
theorem allocSlot_cases (t : ℕ → Option α) :
    t (allocSlot n t) = none ∨ freeSlot n t = none ∧ allocSlot n t = 0 := by
  unfold allocSlot
  cases h : freeSlot n t with
  | none => exact Or.inr ⟨rfl, rfl⟩
  | some i => exact Or.inl (freeSlot_some h).2

theorem findEntry_some (h : findEntry n t p = some (i, x)) : i < n ∧ t i = some x ∧ p x = true := by
  obtain ⟨j, hj, hx⟩ := Option.bind_eq_some_iff.mp h
  obtain ⟨y, hy, heq⟩ := Option.map_eq_some_iff.mp hx
  obtain ⟨rfl, rfl⟩ := Prod.mk.inj heq
  obtain ⟨hlt, hany⟩ := findSlot_some hj
  rw [hy] at hany
  exact ⟨hlt, hy, hany⟩

theorem findEntry_none (h : findEntry n t p = none) (hx : Holds n t x) : p x = false := by
  obtain ⟨i, hi, hti⟩ := hx
  cases hfind : findSlot n fun i => (t i).any p with
  | none =>
    have hfail := findSlot_eq_none.mp hfind i hi
    rw [hti] at hfail
    exact hfail
  | some j =>
    obtain ⟨-, hany⟩ := findSlot_some hfind
    unfold findEntry at h
    rw [hfind] at h
    cases htj : t j with
    | none =>
      rw [htj] at hany
      cases hany
    | some y =>
      rw [Option.bind_some, htj] at h
      cases h

/-- A search finds an entry of its job if it holds of these entries only. -/
theorem findEntry_owner {o : ℕ} (h : ∀ y, Holds n t y → (p y = true ↔ owner y = o)) (hx : Holds n t x)
    (ho : owner x = o) (hone : OneEach owner n t) : ∃ i, findEntry n t p = some (i, x) := by
  cases hfind : findEntry n t p with
  | none =>
    have hfail := findEntry_none hfind hx
    rw [(h x hx).mpr ho] at hfail
    cases hfail
  | some r =>
    obtain ⟨i, y⟩ := r
    obtain ⟨hi, hy, hp⟩ := findEntry_some hfind
    obtain ⟨j, hj, htj⟩ := hx
    have hoy := (h y ⟨i, hi, hy⟩).mp hp
    obtain rfl := hone i hi j hj y x hy htj (hoy.trans ho.symm)
    obtain rfl := Option.some.inj (hy.symm.trans htj)
    exact ⟨i, rfl⟩

/-! ### Clearing a slot -/

theorem Holds.of_clear (h : Holds n (Function.update t i none) y) : Holds n t y := by
  obtain ⟨j, hj, hy⟩ := h
  by_cases hji : j = i
  · rw [hji, Function.update_self] at hy
    cases hy
  · rw [Function.update_of_ne hji] at hy
    exact ⟨j, hj, hy⟩

theorem Holds.clear (owner : α → ℕ) (h : Holds n t y) (hx : ∀ x, t i = some x → owner y ≠ owner x) :
    Holds n (Function.update t i none) y := by
  obtain ⟨j, hj, hy⟩ := h
  refine ⟨j, hj, ?_⟩
  by_cases hji : j = i
  · exact absurd rfl (hx y (hji ▸ hy))
  · rw [Function.update_of_ne hji]
    exact hy

theorem OneEach.clear (h : OneEach owner n t) (i : ℕ) : OneEach owner n (Function.update t i none) := by
  intro j hj k hk x y hx hy ho
  by_cases hji : j = i
  · rw [hji, Function.update_self] at hx
    cases hx
  · by_cases hki : k = i
    · rw [hki, Function.update_self] at hy
      cases hy
    · rw [Function.update_of_ne hji] at hx
      rw [Function.update_of_ne hki] at hy
      exact h j hj k hk x y hx hy ho

/-- A job whose entry is cleared has none left. -/
theorem OneEach.owner_ne (h : OneEach owner n t) (hi : i < n) (hx : t i = some x)
    (hy : Holds n (Function.update t i none) y) : owner y ≠ owner x := by
  obtain ⟨j, hj, hy⟩ := hy
  intro ho
  by_cases hji : j = i
  · rw [hji, Function.update_self] at hy
    cases hy
  · rw [Function.update_of_ne hji] at hy
    exact hji (h j hj i hi y x hy hx ho)

/-! ### Storing an entry -/

theorem Holds.of_put (h : Holds n (Function.update t i (some x)) y) : y = x ∨ Holds n t y := by
  obtain ⟨j, hj, hy⟩ := h
  by_cases hji : j = i
  · rw [hji, Function.update_self] at hy
    exact Or.inl (Option.some.inj hy).symm
  · rw [Function.update_of_ne hji] at hy
    exact Or.inr ⟨j, hj, hy⟩

theorem Holds.put (owner : α → ℕ) (h : Holds n t y) (hx : ∀ z, t i = some z → owner y ≠ owner z) (x : α) :
    Holds n (Function.update t i (some x)) y := by
  obtain ⟨j, hj, hy⟩ := h
  refine ⟨j, hj, ?_⟩
  by_cases hji : j = i
  · exact absurd rfl (hx y (hji ▸ hy))
  · rw [Function.update_of_ne hji]
    exact hy

theorem holds_put (t : ℕ → Option α) (hi : i < n) (x : α) : Holds n (Function.update t i (some x)) x :=
  ⟨i, hi, Function.update_self i _ t⟩

theorem OneEach.put (h : OneEach owner n t) (hx : ∀ y, Holds n t y → owner y ≠ owner x) (i : ℕ) :
    OneEach owner n (Function.update t i (some x)) := by
  intro j hj k hk y z hy hz ho
  by_cases hji : j = i
  · by_cases hki : k = i
    · exact hji.trans hki.symm
    · rw [hji, Function.update_self] at hy
      rw [Function.update_of_ne hki] at hz
      obtain rfl := Option.some.inj hy
      exact absurd ho.symm (hx z ⟨k, hk, hz⟩)
  · rw [Function.update_of_ne hji] at hy
    by_cases hki : k = i
    · rw [hki, Function.update_self] at hz
      obtain rfl := Option.some.inj hz
      exact absurd ho (hx y ⟨j, hj, hy⟩)
    · rw [Function.update_of_ne hki] at hz
      exact h j hj k hk y z hy hz ho

theorem oneEach_empty : OneEach owner n fun _ => (none : Option α) := by
  intro i _ j _ x y hx
  cases hx

end Att1.Lib
