import Att1.Lib.Loops
import Att1.Reader.Model

/-!
# Att1.Reader.Weights — the same payload gives the same matrix

`dequantizeQ8_eq` and `dequantizeQ4_eq`: where the reader's payload bytes, shape and group size are those a C view was
built from, `dequantize` yields the weights the C matrix product reads through the view.
-/

open Att1.Lib Att1.ModelFile

namespace Att1.Reader

variable {F : Type} {scaled : ℤ → List UInt8 → F} {data : List UInt8} {base rows cols : ℕ} {p : Att1Tensor}

theorem matrixOf_eq_map (rows cols : ℕ) (element : ℕ → ℕ → F) :
    matrixOf rows cols element = (List.range (rows * cols)).map fun k => element (k / cols) (k % cols) :=
  flatMap_range_blocks rows cols element

theorem getD_matrixOf {element : ℕ → ℕ → F} {row col : ℕ} (hrow : row < rows) (hcol : col < cols) (d : F) :
    (matrixOf rows cols element).getD (row * cols + col) d = element row col := by
  rw [matrixOf_eq_map, List.getD_eq_getElem?_getD, List.getElem?_map, List.getElem?_range (block_lt hrow hcol),
    Option.map_some, Option.getD_some, block_div hcol, block_mod hcol]

theorem lt_of_row_col {row col : ℕ} (hrow : row < rows) (hcol : col < cols) : row * cols + col < rows * cols := by
  have hle : (row + 1) * cols ≤ rows * cols := Nat.mul_le_mul_right cols hrow
  rw [Nat.succ_mul] at hle
  omega

theorem dequantizeQ8_eq (hshape : p.shape = [rows, cols]) (hraw : p.raw = slice data base (rows * cols + 4 * rows))
    (hinside : base + (rows * cols + 4 * rows) ≤ data.length) :
    p.dequantizeQ8 scaled =
      some (Q8Matrix.weights scaled data ⟨rows, cols, some base, some (base + rows * cols)⟩) := by
  have hlen : p.raw.length = rows * cols + 4 * rows := by rw [hraw, length_slice hinside]
  unfold Att1Tensor.dequantizeQ8
  rw [hshape]
  show ((guard ((p.raw.take (rows * cols)).length = rows * cols) : Option Unit) >>= _) = _
  rw [guard_bind_eq_some]
  refine ⟨by rw [List.length_take]; omega, ?_⟩
  rw [guard_bind_eq_some]
  refine ⟨length_slice (by omega), congrArg some (matrixOf_congr fun row hrow col hcol => ?_)⟩
  have hlt := lt_of_row_col hrow hcol
  rw [hraw, getD_slice _ (by omega), slice_slice (by omega), ← Nat.add_assoc base (rows * cols)]
  rfl

/-! ### Nibbles -/

theorem signExtend_low (b : UInt8) : Att1Tensor.signExtend (b.toNat &&& 0x0F) = int4Value (b &&& 0x0F) := by
  obtain ⟨⟨n⟩⟩ := b
  revert n
  decide +kernel

theorem signExtend_high (b : UInt8) :
    Att1Tensor.signExtend ((b.toNat >>> 4) &&& 0x0F) = int4Value ((b >>> 4) &&& 0x0F) := by
  obtain ⟨⟨n⟩⟩ := b
  revert n
  decide +kernel

/-- The group sizes the loader accepts are even. -/
theorem even_of_groupSizeOk {t : ModelTensor} (h : t.GroupSizeOk) : t.q4GroupSize % 2 = 0 := by
  have hall : ∀ g < 129, 16 ≤ g → g &&& (g - 1) = 0 → g % 2 = 0 := by decide +kernel
  obtain ⟨hmin, hmax, hpow⟩ := h
  unfold q4GroupSizeMin at hmin
  unfold q4GroupSizeMax at hmax
  exact hall _ (by omega) hmin hpow

/-- Element `col` of row `row` has the same byte and nibble whether it is counted through the matrix or through the
groups of its row. -/
theorem nibble_position (row col : ℕ) {gs : ℕ} (heven : gs % 2 = 0) (hdvd : cols % gs = 0) :
    (row * cols + col) / 2 = row * (cols / 2) + col / gs * (gs / 2) + col % gs / 2 ∧
      (row * cols + col) % 2 = col % gs % 2 := by
  obtain ⟨k, rfl⟩ := Nat.dvd_of_mod_eq_zero heven
  obtain ⟨n, rfl⟩ := Nat.dvd_of_mod_eq_zero hdvd
  have hcol := Nat.div_add_mod col (2 * k)
  have hrows : row * (2 * k * n) = 2 * (row * (k * n)) := by
    rw [Nat.mul_assoc, Nat.mul_left_comm]
  have hhalf : 2 * k * n / 2 = k * n := by
    rw [Nat.mul_assoc]
    omega
  have hgroup : 2 * k * (col / (2 * k)) = 2 * (col / (2 * k) * k) := by
    rw [Nat.mul_assoc, Nat.mul_comm k]
  rw [hrows, hhalf, Nat.mul_div_cancel_left k (by omega)]
  omega

theorem dequantizeQ4_eq {gs : ℕ} (hshape : p.shape = [rows, cols]) (hgs : p.q4GroupSize = gs) (heven : gs % 2 = 0)
    (hdvd : cols % gs = 0) (hraw : p.raw = slice data base (rows * cols / 2 + 4 * (rows * (cols / gs))))
    (hinside : base + (rows * cols / 2 + 4 * (rows * (cols / gs))) ≤ data.length) :
    p.dequantizeQ4 scaled =
      some (Q4Matrix.weights scaled data ⟨rows, cols, gs, some base, some (base + rows * cols / 2)⟩) := by
  have hlen : p.raw.length = rows * cols / 2 + 4 * (rows * (cols / gs)) := by rw [hraw, length_slice hinside]
  unfold Att1Tensor.dequantizeQ4
  rw [hshape, hgs]
  show ((guard (cols % gs = 0) : Option Unit) >>= _) = _
  rw [guard_bind_eq_some]
  refine ⟨hdvd, ?_⟩
  rw [guard_bind_eq_some]
  refine ⟨by omega, ?_⟩
  rw [guard_bind_eq_some]
  refine ⟨by omega, congrArg some (matrixOf_congr fun row hrow col hcol => ?_)⟩
  obtain ⟨hbyte, hnibble⟩ := nibble_position row col heven hdvd
  have hgroup : col / gs < cols / gs := Nat.div_lt_div_of_lt_of_dvd (Nat.dvd_of_mod_eq_zero hdvd) hcol
  have hscale := lt_of_row_col hrow hgroup
  have hscales : 0 < rows * (cols / gs) := Nat.lt_of_le_of_lt (Nat.zero_le _) hscale
  have hpos : (row * cols + col) / 2 ≤ rows * cols / 2 := Nat.div_le_div_right (lt_of_row_col hrow hcol).le
  dsimp only
  rw [hraw, getD_slice _ (by omega), slice_slice (by omega)]
  congr 1
  · -- the integer: the same byte, and the same half of it
    unfold q4UnpackGroup
    rw [hnibble, hbyte, ← Nat.add_assoc base]
    by_cases hlow : col % gs % 2 = 0
    · rw [if_pos hlow, if_pos hlow]
      exact signExtend_low _
    · rw [if_neg hlow, if_neg hlow]
      exact signExtend_high _
  · rw [← Nat.add_assoc base (rows * cols / 2)]
    rfl

end Att1.Reader
