import Mathlib.Order.Basic
import Mathlib.Data.Nat.Basic

/-!
# Att1.Lib.Word — unsigned arithmetic with a largest value

`mulChecked max` is the usual guarded product of two unsigned values: it tests `rhs > max / lhs` before it
multiplies.  It yields exactly the products that fit (`mulChecked_eq_some`).  `addChecked` is the guarded sum.
-/

namespace Att1.Lib

/-- The product of two unsigned values up to `max`, or nothing when it does not fit. -/
def mulChecked (max lhs rhs : ℕ) : Option ℕ :=
  if lhs ≠ 0 ∧ max / lhs < rhs then none else some (lhs * rhs % (max + 1))

theorem mulChecked_eq_some {max lhs rhs out : ℕ} :
    mulChecked max lhs rhs = some out ↔ out = lhs * rhs ∧ lhs * rhs ≤ max := by
  have hfit : (lhs ≠ 0 ∧ max / lhs < rhs) ↔ max < lhs * rhs := by
    rcases Nat.eq_zero_or_pos lhs with h0 | hpos
    · simp [h0]
    · rw [Nat.div_lt_iff_lt_mul hpos, Nat.mul_comm rhs lhs]
      exact ⟨fun h => h.2, fun h => ⟨by omega, h⟩⟩
  unfold mulChecked
  by_cases h : max < lhs * rhs
  · rw [if_pos (hfit.mpr h)]
    simp
    omega
  · rw [if_neg (fun hc => h (hfit.mp hc)), Nat.mod_eq_of_lt (by omega), Option.some.injEq]
    constructor
    · rintro rfl
      exact ⟨rfl, by omega⟩
    · exact fun h => h.1.symm

theorem mulChecked_eq_none {max lhs rhs : ℕ} : mulChecked max lhs rhs = none ↔ max < lhs * rhs := by
  cases h : mulChecked max lhs rhs with
  | none =>
    simp only [true_iff]
    by_contra hle
    rw [mulChecked_eq_some.mpr ⟨rfl, by omega⟩] at h
    cases h
  | some out =>
    have := (mulChecked_eq_some.mp h).2
    simp only [reduceCtorEq, false_iff]
    omega

/-- The sum of two unsigned values up to `max`, or nothing when it does not fit. -/
def addChecked (max lhs rhs : ℕ) : Option ℕ :=
  if max - lhs < rhs then none else some ((lhs + rhs) % (max + 1))

theorem addChecked_eq_some {max lhs rhs out : ℕ} (hl : lhs ≤ max) :
    addChecked max lhs rhs = some out ↔ out = lhs + rhs ∧ lhs + rhs ≤ max := by
  unfold addChecked
  by_cases h : max - lhs < rhs
  · rw [if_pos h]
    simp
    omega
  · rw [if_neg h, Nat.mod_eq_of_lt (by omega), Option.some.injEq]
    constructor
    · rintro rfl
      exact ⟨rfl, by omega⟩
    · exact fun h => h.1.symm

end Att1.Lib
