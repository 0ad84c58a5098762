import Mathlib

/-!
# Att1.Lib.Rotation — plane rotations of consecutive pairs of components

`rotatePairs angle v` turns the components at `i` and `i + 1`, for every even `i`, by `angle i`.  Two choices of angles
are the same map on vectors exactly where their angles differ by whole turns (`rotatePairs_eq_iff`).
-/

namespace Att1.Lib

open Real

/-- The pairs of `v` at `(0, 1)`, `(2, 3)`, … turned by the angles at their first components. -/
noncomputable def rotatePairs (angle v : ℕ → ℝ) : ℕ → ℝ := fun j =>
  let i := 2 * (j / 2)
  if j % 2 = 0 then v i * cos (angle i) - v (i + 1) * sin (angle i)
  else v i * sin (angle i) + v (i + 1) * cos (angle i)

theorem rotatePairs_even (angle v : ℕ → ℝ) {i : ℕ} (h : i % 2 = 0) :
    rotatePairs angle v i = v i * cos (angle i) - v (i + 1) * sin (angle i) := by
  have hi : 2 * (i / 2) = i := by omega
  simp only [rotatePairs, hi, if_pos h]

theorem rotatePairs_odd (angle v : ℕ → ℝ) {i : ℕ} (h : i % 2 = 0) :
    rotatePairs angle v (i + 1) = v i * sin (angle i) + v (i + 1) * cos (angle i) := by
  have hi : 2 * ((i + 1) / 2) = i := by omega
  have hodd : ¬ (i + 1) % 2 = 0 := by omega
  simp only [rotatePairs, hi, if_neg hodd]

/-- A pair that is turned by no angle stays. -/
theorem rotatePairs_of_zero {angle : ℕ → ℝ} (v : ℕ → ℝ) {j : ℕ} (h : angle (2 * (j / 2)) = 0) :
    rotatePairs angle v j = v j := by
  unfold rotatePairs
  by_cases hj : j % 2 = 0
  · have hi : 2 * (j / 2) = j := by omega
    rw [hi] at h
    simp only [hi, if_pos hj, h, cos_zero, sin_zero, mul_one, mul_zero, sub_zero]
  · have hi : 2 * (j / 2) + 1 = j := by omega
    simp only [if_neg hj, h, cos_zero, sin_zero, mul_one, mul_zero, zero_add, hi]

theorem cos_sin_eq_iff {a b : ℝ} : cos a = cos b ∧ sin a = sin b ↔ ∃ k : ℤ, a - b = 2 * π * k := by
  rw [← Angle.angle_eq_iff_two_pi_dvd_sub]
  constructor
  · intro h
    exact Angle.cos_sin_inj h.1 h.2
  · intro h
    rw [← Angle.cos_coe, ← Angle.sin_coe, h]
    exact ⟨rfl, rfl⟩

theorem rotatePairs_eq_iff {a b : ℕ → ℝ} {n : ℕ} (hn : n % 2 = 0) :
    (∀ v, ∀ j < n, rotatePairs a v j = rotatePairs b v j) ↔
      ∀ i < n, i % 2 = 0 → ∃ k : ℤ, a i - b i = 2 * π * k := by
  constructor
  · intro h i hi heven
    -- the unit vector of the first component of the pair shows its cosine and its sine
    have hcos : cos (a i) = cos (b i) := by
      simpa [rotatePairs_even _ _ heven] using h (Pi.single i 1) i hi
    have hsin : sin (a i) = sin (b i) := by
      simpa [rotatePairs_odd _ _ heven] using h (Pi.single i 1) (i + 1) (by omega)
    exact cos_sin_eq_iff.mp ⟨hcos, hsin⟩
  · intro h v j hj
    obtain ⟨hcos, hsin⟩ := cos_sin_eq_iff.mpr (h (2 * (j / 2)) (by omega) (by omega))
    simp only [rotatePairs, hcos, hsin]

end Att1.Lib
