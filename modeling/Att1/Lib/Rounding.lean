import Mathlib.Algebra.Order.Field.Basic
import Mathlib.Algebra.Order.Floor.Ring
import Mathlib.Algebra.Order.Round
import Mathlib.Tactic.Linarith
import Mathlib.Tactic.Ring

/-!
# Att1.Lib.Rounding — nearest integers of a fraction

Mathlib's `round` takes a half upwards.  Here are the two other conventions that programs use:

* `roundAway`: a half goes away from zero (`lroundf`).
* `roundEven`: a half goes to the even neighbour (Python's `round`).

Both are nearest integers (`abs_roundAway_sub_le`, `abs_roundEven_sub_le`), so they differ at halves only: exactly where
the neighbour nearer to zero is even (`roundEven_eq_roundAway_iff`).
-/

namespace Att1.Lib

/-- The numeral 2 of every field stands on this one proof. -/
instance two_atLeastTwo : Nat.AtLeastTwo 2 := ⟨Nat.le_refl 2⟩

variable {R : Type*} [Field R] [LinearOrder R] [IsStrictOrderedRing R] [FloorRing R] {x : R} {n : ℤ}

/-- The nearest integer, halves away from zero. -/
def roundAway (x : R) : ℤ := if 0 ≤ x then ⌊x + 1 / 2⌋ else ⌈x - 1 / 2⌉

/-- The nearest integer, halves to the even one. -/
def roundEven (x : R) : ℤ :=
  if 2 * Int.fract x < 1 then ⌊x⌋
  else if 1 < 2 * Int.fract x then ⌊x⌋ + 1
  else if ⌊x⌋ % 2 = 0 then ⌊x⌋ else ⌊x⌋ + 1

/-! ### Nearest integers -/

theorem abs_roundAway_sub_le (x : R) : |(roundAway x : R) - x| ≤ 1 / 2 := by
  unfold roundAway
  split_ifs
  · have h1 := Int.floor_le (x + 1 / 2)
    have h2 := Int.lt_floor_add_one (x + 1 / 2)
    exact abs_le.mpr ⟨by linarith, by linarith⟩
  · have h1 := Int.le_ceil (x - 1 / 2)
    have h2 := Int.ceil_lt_add_one (x - 1 / 2)
    exact abs_le.mpr ⟨by linarith, by linarith⟩

theorem abs_roundEven_sub_le (x : R) : |(roundEven x : R) - x| ≤ 1 / 2 := by
  have hx : x = ⌊x⌋ + Int.fract x := (Int.floor_add_fract x).symm
  have h0 := Int.fract_nonneg x
  have h1 := Int.fract_lt_one x
  unfold roundEven
  split_ifs with hlow hhigh heven
  all_goals
    push_cast
    exact abs_le.mpr ⟨by linarith, by linarith⟩

/-- A nearest integer of a fraction between two integers is between them. -/
theorem abs_le_of_nearest {q : ℤ} (hq : |(q : R) - x| ≤ 1 / 2) (hx : |x| ≤ n) : |q| ≤ n := by
  have h := (abs_sub_abs_le_abs_sub (q : R) x).trans hq
  have hlt : ((|q| : ℤ) : R) < ((n + 1 : ℤ) : R) := by
    push_cast
    linarith
  have := Int.cast_lt.mp hlt
  omega

@[simp] theorem roundAway_zero : roundAway (0 : R) = 0 := by
  have h : |roundAway (0 : R)| ≤ 0 := abs_le_of_nearest (abs_roundAway_sub_le 0) (by simp)
  exact abs_nonpos_iff.mp h

/-- Two nearest integers of a fraction that is no half are equal. -/
theorem nearest_unique {q r : ℤ} (hq : |(q : R) - x| ≤ 1 / 2) (hr : |(r : R) - x| ≤ 1 / 2)
    (hhalf : ∀ k : ℤ, x ≠ k + 1 / 2) : q = r := by
  have hq := abs_le.mp hq
  have hr := abs_le.mp hr
  rcases lt_trichotomy q r with hlt | heq | hgt
  · have hle : (q : R) + 1 ≤ r := by exact_mod_cast hlt
    exact absurd (by linarith) (hhalf q)
  · exact heq
  · have hle : (r : R) + 1 ≤ q := by exact_mod_cast hgt
    exact absurd (by linarith) (hhalf r)

/-! ### Halves -/

theorem roundAway_half (k : ℤ) : roundAway (k + 1 / 2 : R) = if 0 ≤ k then k + 1 else k := by
  have hsign : (0 : R) ≤ k + 1 / 2 ↔ 0 ≤ k := by
    constructor
    · intro h
      have hlt : ((-1 : ℤ) : R) < (k : R) := by
        push_cast
        linarith
      have := Int.cast_lt.mp hlt
      omega
    · intro h
      have hk : (0 : R) ≤ k := Int.cast_nonneg h
      linarith
  unfold roundAway
  by_cases hk : 0 ≤ k
  · rw [if_pos (hsign.mpr hk), if_pos hk]
    have heq : (k + 1 / 2 + 1 / 2 : R) = ((k + 1 : ℤ) : R) := by
      push_cast
      ring
    rw [heq, Int.floor_intCast]
  · rw [if_neg (hsign.not.mpr hk), if_neg hk]
    have heq : (k + 1 / 2 - 1 / 2 : R) = (k : R) := by ring
    rw [heq, Int.ceil_intCast]

theorem roundEven_half (k : ℤ) : roundEven (k + 1 / 2 : R) = if k % 2 = 0 then k else k + 1 := by
  have hfloor : ⌊(k + 1 / 2 : R)⌋ = k := by
    rw [Int.floor_eq_iff]
    constructor <;> linarith
  have hfract : Int.fract (k + 1 / 2 : R) = 1 / 2 := by
    rw [Int.fract, hfloor]
    ring
  unfold roundEven
  rw [hfract, hfloor, if_neg (by norm_num), if_neg (by norm_num)]

/-- The fraction is halfway between an even integer and the next one away from zero. -/
def HalfAboveEven (x : R) : Prop := ∃ k : ℕ, |x| = 2 * k + 1 / 2

theorem halfAboveEven_half (k : ℤ) :
    HalfAboveEven (k + 1 / 2 : R) ↔ 0 ≤ k ∧ k % 2 = 0 ∨ k < 0 ∧ k % 2 = 1 := by
  have hcast : ∀ a b : ℤ, (a : R) + 1 / 2 = b + 1 / 2 ↔ a = b := fun a b => by
    rw [add_left_inj, Int.cast_inj]
  have htwice : ∀ j : ℕ, (2 * j + 1 / 2 : R) = ((2 * j : ℤ) : R) + 1 / 2 := fun j => by push_cast; rfl
  unfold HalfAboveEven
  simp only [htwice]
  rcases lt_or_ge k 0 with hk | hk
  · have hle : (k : R) + 1 ≤ 0 := by exact_mod_cast hk
    have habs : |(k : R) + 1 / 2| = ((-k - 1 : ℤ) : R) + 1 / 2 := by
      rw [abs_of_neg (by linarith)]
      push_cast
      ring
    simp only [habs, hcast]
    constructor
    · rintro ⟨j, hj⟩
      omega
    · intro h
      exact ⟨((-k - 1) / 2).toNat, by omega⟩
  · have hle : (0 : R) ≤ k := Int.cast_nonneg hk
    have habs : |(k : R) + 1 / 2| = k + 1 / 2 := abs_of_nonneg (by linarith)
    simp only [habs, hcast]
    constructor
    · rintro ⟨j, hj⟩
      omega
    · intro h
      exact ⟨(k / 2).toNat, by omega⟩

/-- The two conventions differ exactly halfway between an even integer and the next one away from zero. -/
theorem roundEven_eq_roundAway_iff (x : R) : roundEven x = roundAway x ↔ ¬ HalfAboveEven x := by
  by_cases hhalf : ∃ k : ℤ, x = k + 1 / 2
  · obtain ⟨k, rfl⟩ := hhalf
    rw [roundEven_half, roundAway_half, halfAboveEven_half]
    split_ifs <;> omega
  · rw [not_exists] at hhalf
    refine iff_of_true (nearest_unique (abs_roundEven_sub_le x) (abs_roundAway_sub_le x) hhalf) ?_
    rintro ⟨k, hk⟩
    rcases abs_choice x with h | h
    · exact hhalf (2 * k) (by push_cast; linarith)
    · exact hhalf (-(2 * k) - 1) (by push_cast; linarith)

end Att1.Lib
