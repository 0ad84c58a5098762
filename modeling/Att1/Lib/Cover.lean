import Mathlib.Algebra.BigOperators.Intervals
import Mathlib.Algebra.BigOperators.Ring.Finset
import Mathlib.Algebra.Order.Ring.Int
import Mathlib.Tactic.Ring
import Mathlib.Algebra.Order.BigOperators.Group.Finset
import Mathlib.Order.Interval.Finset.Defs
import Mathlib.Data.Int.ConditionallyCompleteOrder
import Mathlib.Data.Int.Interval
import Att1.Lib.Extents

/-!
# Att1.Lib.Cover — lists of integer ranges that cover a range once

* `Covers n l`: each point of `[0, n)` is in exactly one range of `l`, and no other point is in one.
* `covers_iff_forall`, `covers_iff_sum`: ranges within `[0, n)` that are apart cover it once exactly when they leave no
  gap, and exactly when their lengths add up to `n`.
-/

namespace Att1.Lib

variable {n x : ℤ} {l : List (ℤ × ℤ)} {r : ℤ × ℤ}

/-- The range has the point. -/
def inRange (x : ℤ) (r : ℤ × ℤ) : Bool := decide (r.1 ≤ x ∧ x < r.2)

/-- Each point of `[0, n)` is in one range, and no other point is. -/
def Covers (n : ℤ) (l : List (ℤ × ℤ)) : Prop := ∀ x : ℤ, l.countP (inRange x) = if 0 ≤ x ∧ x < n then 1 else 0

theorem inRange_iff : inRange x r = true ↔ r.1 ≤ x ∧ x < r.2 := decide_eq_true_iff

/-- At most one of the ranges that are apart has a given point. -/
theorem countP_inRange_le_one (h : l.Pairwise (Apart Prod.fst Prod.snd)) (x : ℤ) : l.countP (inRange x) ≤ 1 := by
  induction h with
  | nil => exact Nat.zero_le 1
  | @cons a l ha _ ih =>
    rw [List.countP_cons]
    by_cases hx : inRange x a = true
    · have hnone : l.countP (inRange x) = 0 := by
        refine List.countP_eq_zero.mpr fun b hb hxb => ?_
        have hax := inRange_iff.mp hx
        have hbx := inRange_iff.mp hxb
        rcases ha b hb with h | h <;> omega
      rw [hnone, if_pos hx]
    · rw [if_neg hx]
      exact ih

/-- A point outside is in none of the ranges within `[0, n)`. -/
theorem countP_inRange_outside (hin : ∀ r ∈ l, 0 ≤ r.1 ∧ r.2 ≤ n) (hx : ¬ (0 ≤ x ∧ x < n)) :
    l.countP (inRange x) = 0 := by
  refine List.countP_eq_zero.mpr fun r hr hxr => hx ?_
  have hbounds := hin r hr
  have hrange := inRange_iff.mp hxr
  omega

/-- Ranges that are apart cover the range they are in when they leave no gap. -/
theorem covers_iff_forall (h : l.Pairwise (Apart Prod.fst Prod.snd)) (hin : ∀ r ∈ l, 0 ≤ r.1 ∧ r.2 ≤ n) :
    Covers n l ↔ ∀ x, 0 ≤ x → x < n → ∃ r ∈ l, inRange x r = true := by
  constructor
  · intro hcover x h0 hn
    have hone := hcover x
    rw [if_pos ⟨h0, hn⟩] at hone
    exact List.countP_pos_iff.mp (by omega)
  · intro hgapless x
    by_cases hx : 0 ≤ x ∧ x < n
    · rw [if_pos hx]
      have hle := countP_inRange_le_one h x
      have hpos := List.countP_pos_iff.mpr (hgapless x hx.1 hx.2)
      omega
    · rw [if_neg hx]
      exact countP_inRange_outside hin hx

theorem sum_ones (hn : 0 ≤ n) : (∑ x ∈ Finset.Ico 0 n, (1 : ℤ)) = n := by
  rw [Finset.sum_const, Int.card_Ico]
  simp [hn]

/-- The points of `[0, n)`, counted in every range, are as many as the lengths of the ranges add up to. -/
theorem sum_countP_inRange (hin : ∀ r ∈ l, 0 ≤ r.1 ∧ r.1 ≤ r.2 ∧ r.2 ≤ n) :
    (∑ x ∈ Finset.Ico 0 n, (l.countP (inRange x) : ℤ)) = (l.map fun r => r.2 - r.1).sum := by
  induction l with
  | nil => simp
  | cons r l ih =>
    have hr := hin r List.mem_cons_self
    have hone : (∑ x ∈ Finset.Ico 0 n, if inRange x r = true then (1 : ℤ) else 0) = r.2 - r.1 := by
      have hfilter : (Finset.Ico 0 n).filter (fun x => inRange x r = true) = Finset.Ico r.1 r.2 := by
        ext x
        simp only [Finset.mem_filter, Finset.mem_Ico, inRange_iff]
        omega
      rw [Finset.sum_boole, hfilter, Int.card_Ico]
      omega
    simp only [List.countP_cons, Nat.cast_add, Nat.cast_ite, Nat.cast_one, Nat.cast_zero]
    rw [Finset.sum_add_distrib, ih fun r hr => hin r (List.mem_cons_of_mem _ hr), hone, List.map_cons, List.sum_cons]
    ring

/-- Ranges that cover `[0, n)` once have lengths that add up to it. -/
theorem Covers.sum_eq (hcover : Covers n l) (hn : 0 ≤ n) (hin : ∀ r ∈ l, 0 ≤ r.1 ∧ r.1 ≤ r.2 ∧ r.2 ≤ n) :
    (l.map fun r => r.2 - r.1).sum = n := by
  have hone : ∀ x ∈ Finset.Ico 0 n, (l.countP (inRange x) : ℤ) = 1 := by
    intro x hx
    rw [hcover x, if_pos (Finset.mem_Ico.mp hx)]
    rfl
  rw [← sum_countP_inRange hin]
  exact (Finset.sum_congr rfl hone).trans (sum_ones hn)

/-- Ranges that are apart cover the range they are in when their lengths add up to it. -/
theorem covers_iff_sum (hn : 0 ≤ n) (h : l.Pairwise (Apart Prod.fst Prod.snd))
    (hin : ∀ r ∈ l, 0 ≤ r.1 ∧ r.1 ≤ r.2 ∧ r.2 ≤ n) : Covers n l ↔ (l.map fun r => r.2 - r.1).sum = n := by
  refine ⟨fun hcover => hcover.sum_eq hn hin, fun hsum x => ?_⟩
  rw [← sum_countP_inRange hin] at hsum
  by_cases hx : 0 ≤ x ∧ x < n
  · rw [if_pos hx]
    have hle : ∀ y ∈ Finset.Ico 0 n, (l.countP (inRange y) : ℤ) ≤ 1 := by
      intro y _
      exact_mod_cast countP_inRange_le_one h y
    have hall := (Finset.sum_eq_sum_iff_of_le hle).mp (hsum.trans (sum_ones hn).symm) x (Finset.mem_Ico.mpr hx)
    exact_mod_cast hall
  · rw [if_neg hx]
    exact countP_inRange_outside (fun r hr => ⟨(hin r hr).1, (hin r hr).2.2⟩) hx

end Att1.Lib
