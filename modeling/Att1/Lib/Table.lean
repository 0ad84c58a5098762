import Mathlib.Data.List.Induction

/-!
# Att1.Lib.Table — linear search in a table of slots

`findSlot n p` is the first of the slots `0 … n - 1` that satisfies `p`.  In a table whose keys are unique the
search finds the one slot that holds the key (`findSlot_of_unique`).  `FirstAt p xs i x` and `LastAt p xs i x` say
which entry of a list with repeated keys a search finds: the first one for `List.find?`, the last one for a table
filled in order (`lastMatch`).
-/

namespace Att1.Lib

variable {n i : ℕ} {p : ℕ → Bool}

/-- The first slot below `n` that satisfies `p`. -/
def findSlot (n : ℕ) (p : ℕ → Bool) : Option ℕ := (List.range n).find? p

theorem findSlot_some (h : findSlot n p = some i) : i < n ∧ p i = true :=
  ⟨List.mem_range.mp (List.mem_of_find?_eq_some h), List.find?_some h⟩

theorem findSlot_eq_none : findSlot n p = none ↔ ∀ i < n, p i = false := by
  unfold findSlot
  rw [List.find?_eq_none]
  exact ⟨fun h i hi => by simpa using h i (List.mem_range.mpr hi),
    fun h i hi => by simp [h i (List.mem_range.mp hi)]⟩

theorem findSlot_isSome : (findSlot n p).isSome ↔ ∃ i < n, p i = true := by
  rw [← not_iff_not, Option.not_isSome_iff_eq_none, findSlot_eq_none]
  simp

/-- Where at most one slot satisfies `p`, the search finds it. -/
theorem findSlot_of_unique (hi : i < n) (hp : p i = true)
    (huniq : ∀ j < n, p j = true → j = i) : findSlot n p = some i := by
  obtain ⟨j, hj⟩ := Option.isSome_iff_exists.mp (findSlot_isSome.mpr ⟨i, hi, hp⟩)
  obtain ⟨hlt, hpj⟩ := findSlot_some hj
  rw [hj, huniq j hlt hpj]

/-- The first slot past an initial stretch in which `p` fails. -/
theorem findSlot_of_first (hi : i < n) (hp : p i = true) (hbefore : ∀ j < i, p j = false) :
    findSlot n p = some i := by
  unfold findSlot
  rw [List.find?_range_eq_some]
  exact ⟨hp, List.mem_range.mpr hi, fun j hj => by simp [hbefore j hj]⟩

/-- A property of every entry, checked entry by entry. -/
theorem forall_mem_of_all {α : Type*} {q : α → Prop} [DecidablePred q] {xs : List α}
    (h : (xs.all fun x => q x) = true) : ∀ x ∈ xs, q x := by
  simpa only [List.all_eq_true, decide_eq_true_eq] using h

/-- Where one property implies another, equal counts make them the same. -/
theorem forall_of_countP_eq {α : Type*} {p q : α → Bool} {xs : List α} (himp : ∀ x ∈ xs, p x = true → q x = true)
    (h : xs.countP p = xs.countP q) : ∀ x ∈ xs, q x = true → p x = true := by
  induction xs with
  | nil => exact fun _ hx => absurd hx List.not_mem_nil
  | cons x xs ih =>
    obtain ⟨hx, hxs⟩ := List.forall_mem_cons.mp himp
    have hle := List.countP_mono_left hxs
    rw [List.countP_cons, List.countP_cons] at h
    have hrest : xs.countP p = xs.countP q ∧ (q x = true → p x = true) := by
      cases hp : p x with
      | true => simp_all
      | false =>
        cases hq : q x with
        | true =>
          simp only [hp, hq] at h
          simp at h
          omega
        | false => simp_all
    exact List.forall_mem_cons.mpr ⟨hrest.2, ih hxs hrest.1⟩

/-- Where every entry yields a part of what it yields otherwise, lists of one length make the two the same. -/
theorem forall_eq_of_flatMap_length {α β : Type*} {f g : α → List β} {xs : List α}
    (hsub : ∀ x ∈ xs, (f x).Sublist (g x)) (h : (xs.flatMap f).length = (xs.flatMap g).length) :
    ∀ x ∈ xs, f x = g x := by
  have hle : ∀ ys ⊆ xs, (ys.flatMap f).length ≤ (ys.flatMap g).length := by
    intro ys hys
    induction ys with
    | nil => exact Nat.le_refl _
    | cons y ys ih =>
      obtain ⟨hy, hys⟩ := List.cons_subset.mp hys
      have hlength := (hsub y hy).length_le
      have hrest := ih hys
      rw [List.flatMap_cons, List.flatMap_cons, List.length_append, List.length_append]
      omega
  induction xs with
  | nil => exact fun _ hx => absurd hx List.not_mem_nil
  | cons x xs ih =>
    obtain ⟨hx, hxs⟩ := List.forall_mem_cons.mp hsub
    have hrest := hle xs (List.subset_cons_self x xs)
    have hlength := hx.length_le
    simp only [List.flatMap_cons, List.length_append] at h
    exact List.forall_mem_cons.mpr
      ⟨hx.eq_of_length (by omega), ih hxs (by omega) fun ys hys =>
        hle ys (List.Subset.trans hys (List.subset_cons_self x xs))⟩

/-! ### Repeated keys -/

section Matches

variable {α : Type*} {q : α → Bool} {xs : List α} {x : α}

/-- `x` is the first entry that satisfies `q`, at index `i`. -/
def FirstAt (q : α → Bool) (xs : List α) (i : ℕ) (x : α) : Prop :=
  xs[i]? = some x ∧ q x = true ∧ ∀ j y, j < i → xs[j]? = some y → q y = false

/-- `x` is the last entry that satisfies `q`, at index `i`. -/
def LastAt (q : α → Bool) (xs : List α) (i : ℕ) (x : α) : Prop :=
  xs[i]? = some x ∧ q x = true ∧ ∀ j y, i < j → xs[j]? = some y → q y = false

/-- The entry that a key has once all entries are stored in order, each over the one before it. -/
def lastMatch (q : α → Bool) (xs : List α) : Option α :=
  xs.foldl (fun found x => if q x then some x else found) none

theorem find?_eq_some_iff_firstAt : xs.find? q = some x ↔ ∃ i, FirstAt q xs i x := by
  rw [List.find?_eq_some_iff_getElem]
  constructor
  · rintro ⟨hq, i, hi, rfl, hbefore⟩
    refine ⟨i, List.getElem?_eq_getElem hi, hq, fun j y hj hy => ?_⟩
    obtain ⟨hlt, rfl⟩ := List.getElem?_eq_some_iff.mp hy
    simpa using hbefore j hj
  · rintro ⟨i, hi, hq, hbefore⟩
    obtain ⟨hlt, rfl⟩ := List.getElem?_eq_some_iff.mp hi
    refine ⟨hq, i, hlt, rfl, fun j hj => ?_⟩
    rw [hbefore j _ hj (List.getElem?_eq_getElem (Nat.lt_trans hj hlt))]
    rfl

theorem lastMatch_concat : lastMatch q (xs ++ [x]) = if q x then some x else lastMatch q xs := by
  simp [lastMatch]

theorem lastMatch_eq_some : lastMatch q xs = some x ↔ ∃ i, LastAt q xs i x := by
  induction xs using List.reverseRecOn with
  | nil => simp [lastMatch, LastAt]
  | append_singleton xs y ih =>
    rw [lastMatch_concat]
    have hlen : (xs ++ [y])[xs.length]? = some y := by simp
    by_cases hy : q y = true
    · rw [if_pos hy, Option.some.injEq]
      constructor
      · rintro rfl
        refine ⟨xs.length, hlen, hy, fun j z hj hz => ?_⟩
        have hlt := (List.getElem?_eq_some_iff.mp hz).1
        rw [List.length_append, List.length_singleton] at hlt
        omega
      · rintro ⟨i, hi, -, hafter⟩
        by_cases hlt : i < xs.length
        · rw [hafter xs.length y hlt hlen] at hy
          cases hy
        · have hi' := (List.getElem?_eq_some_iff.mp hi).1
          rw [List.length_append, List.length_singleton] at hi'
          rw [show i = xs.length by omega, hlen] at hi
          exact Option.some.inj hi
    · rw [if_neg hy, ih]
      refine exists_congr fun i => ⟨fun ⟨hi, hx, hafter⟩ => ?_, fun ⟨hi, hx, hafter⟩ => ?_⟩
      · have hlt := (List.getElem?_eq_some_iff.mp hi).1
        refine ⟨by rwa [List.getElem?_append_left hlt], hx, fun j z hj hz => ?_⟩
        by_cases hj' : j < xs.length
        · rw [List.getElem?_append_left hj'] at hz
          exact hafter j z hj hz
        · have hlt' := (List.getElem?_eq_some_iff.mp hz).1
          rw [List.length_append, List.length_singleton] at hlt'
          rw [show j = xs.length by omega, hlen] at hz
          rw [← Option.some.inj hz]
          simpa using hy
      · have hne : i ≠ xs.length := by
          rintro rfl
          rw [hlen] at hi
          rw [Option.some.inj hi] at hy
          exact hy hx
        have hi' := (List.getElem?_eq_some_iff.mp hi).1
        rw [List.length_append, List.length_singleton] at hi'
        have hlt : i < xs.length := by omega
        rw [List.getElem?_append_left hlt] at hi
        refine ⟨hi, hx, fun j z hj hz => hafter j z hj ?_⟩
        rwa [List.getElem?_append_left (List.getElem?_eq_some_iff.mp hz).1]

theorem lastMatch_eq_none : lastMatch q xs = none ↔ ∀ x ∈ xs, q x = false := by
  induction xs using List.reverseRecOn with
  | nil => simp [lastMatch]
  | append_singleton xs y ih =>
    rw [lastMatch_concat]
    by_cases hy : q y = true
    · rw [if_pos hy]
      simp [hy]
    · rw [if_neg hy, ih]
      simp only [List.mem_append, List.mem_singleton, or_imp, forall_and, forall_eq]
      simp [hy]

end Matches

/-- What stands under a key that stands there once. -/
theorem lookup_of_mem {α β : Type} [BEq α] [LawfulBEq α] {entries : List (α × β)} {k : α} {v : β}
    (hnodup : (entries.map Prod.fst).Nodup) (h : (k, v) ∈ entries) : entries.lookup k = some v := by
  induction entries with
  | nil => cases h
  | cons entry entries ih =>
    obtain ⟨hnot, hnodup⟩ := List.nodup_cons.mp hnodup
    rcases List.mem_cons.mp h with rfl | h
    · exact List.lookup_cons_self
    · have hne : k ≠ entry.1 := by
        rintro rfl
        exact hnot (List.mem_map.mpr ⟨_, h, rfl⟩)
      rw [List.lookup_cons, beq_eq_false_iff_ne.mpr hne]
      exact ih hnodup h

end Att1.Lib
