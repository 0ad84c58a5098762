import Att1.ModelFile.View

/-!
# Att1.ModelFile.Quant — the weights that a quantized view stands for (`src/quant.c`, `src/matmul_q8.c`)

The matrix products read a q8 or q4 matrix through one pointer to the integers and one to the scales.  `scaled q s`
is the product `(float)q * s` of an integer and the float with the bytes `s`; the number type is left open.  A matrix
is the list of its elements, row by row.
-/

open Att1.Lib

namespace Att1.ModelFile

variable {F : Type}

/-- The value of a byte as an `int8_t`. -/
def int8Value (b : UInt8) : ℤ := if b.toNat < 128 then b.toNat else b.toNat - 256

/-- The sign extension of a nibble in `att1_q4_unpack_group`. -/
def int4Value (nibble : UInt8) : ℤ := if nibble &&& 0x08 ≠ 0 then int8Value (nibble ||| 0xF0) else int8Value nibble

/-- `att1_q4_unpack_group`: element `i` of the group whose bytes start at `p`. -/
def q4UnpackGroup (data : List UInt8) (p i : ℕ) : ℤ :=
  let byte := data.getD (p + i / 2) 0
  if i % 2 = 0 then int4Value (byte &&& 0x0F) else int4Value ((byte >>> 4) &&& 0x0F)

/-- All elements of a matrix, row by row. -/
def matrixOf (rows cols : ℕ) (element : ℕ → ℕ → F) : List F :=
  (List.range rows).flatMap fun row => (List.range cols).map fun col => element row col

theorem matrixOf_congr {rows cols : ℕ} {f g : ℕ → ℕ → F} (h : ∀ row < rows, ∀ col < cols, f row col = g row col) :
    matrixOf rows cols f = matrixOf rows cols g := by
  refine List.flatMap_congr fun row hrow => List.map_congr_left fun col hcol => ?_
  exact h row (List.mem_range.mp hrow) col (List.mem_range.mp hcol)

/-- The weights `att1_matmul_q8xf32` reads through a q8 matrix. -/
def Q8Matrix.weights (scaled : ℤ → List UInt8 → F) (data : List UInt8) (m : Q8Matrix) : List F :=
  matrixOf m.rows m.cols fun row col =>
    scaled (int8Value (data.getD (m.values.getD 0 + (row * m.cols + col)) 0))
      (slice data (m.scales.getD 0 + row * sizeofFloat) sizeofFloat)

/-- The weights `att1_matmul_q4xf32` reads through a q4 matrix: group after group of each row. -/
def Q4Matrix.weights (scaled : ℤ → List UInt8 → F) (data : List UInt8) (m : Q4Matrix) : List F :=
  matrixOf m.rows m.cols fun row col =>
    let g := col / m.groupSize
    let nGroupsPerRow := m.cols / m.groupSize
    let packedOff := row * (m.cols / 2) + g * (m.groupSize / 2)
    let scaleIdx := row * nGroupsPerRow + g
    scaled (q4UnpackGroup data (m.packed.getD 0 + packedOff) (col % m.groupSize))
      (slice data (m.scales.getD 0 + scaleIdx * sizeofFloat) sizeofFloat)

end Att1.ModelFile
