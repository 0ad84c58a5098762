import Mathlib
import Att1.Base
import Att1.Lib.Loops
import Att1.ModelFile.Quant

/-!
# Att1.Decoder.Kernels — the numeric kernels in exact arithmetic

`src/norm.c`, `src/rope.c`, `src/ffn.c`, `src/matmul.c`, `src/matmul_q8.c`, `src/quant.c` and the operation tables of
the CPU backends.

A float is an element of an ordered field `R`, and `MathFns R` has the functions of `math.h`.  A float array is a
function on indices; a kernel returns the array that it fills, or nothing where it returns -1.
-/

open Att1.Lib

namespace Att1.Decoder

/-- The functions of `math.h` that the kernels call. -/
structure MathFns (R : Type) where
  sqrt : R → R
  exp : R → R
  sin : R → R
  cos : R → R
  pow : R → R → R

/-- The functions over the real numbers. -/
noncomputable def MathFns.real : MathFns ℝ where
  sqrt := Real.sqrt
  exp := Real.exp
  sin := Real.sin
  cos := Real.cos
  pow x y := x ^ y

variable {R : Type} [Field R] [LinearOrder R]

section Kernels

variable (fns : MathFns R)

/-! ### Elementwise kernels -/

/-- `att1_rmsnorm_f32`. -/
def rmsnormF32 (src weight : ℕ → R) (count : ℕ) (epsilon : R) : Option (ℕ → R) :=
  if count = 0 ∨ epsilon ≤ 0 then none
  else
    let sumSquares := sumLoop count (fun i => src i * src i) 0
    let scale := 1 / fns.sqrt (sumSquares / count + epsilon)
    some (array count fun i => src i * scale * weight i)

/-- The greatest of the first `count` values, as `att1_softmax_f32` finds it. -/
def maxValue (values : ℕ → R) (count : ℕ) : R :=
  (List.range (count - 1)).foldl (fun m i => if m < values (i + 1) then values (i + 1) else m) (values 0)

/-- `att1_softmax_f32`. -/
def softmaxF32 (values : ℕ → R) (count : ℕ) : Option (ℕ → R) :=
  if count = 0 then none
  else
    let m := maxValue values count
    let sum := sumLoop count (fun i => fns.exp (values i - m)) 0
    if sum = 0 then none else some (array count fun i => fns.exp (values i - m) / sum)

/-- The angle of the pair of components at `i` and `i + 1` in `att1_rope_f32`. -/
def ropeAngle (count position : ℕ) (theta : R) (i : ℕ) : R :=
  let exponent : R := i / count
  let frequency := 1 / fns.pow theta exponent
  position * frequency

/-- `att1_rope_f32`. -/
def ropeF32 (values : ℕ → R) (count position : ℕ) (theta : R) : Option (ℕ → R) :=
  if count = 0 ∨ count % 2 ≠ 0 ∨ theta ≤ 0 then none
  else
    some (array count fun j =>
      let i := 2 * (j / 2)
      let c := fns.cos (ropeAngle fns count position theta i)
      let s := fns.sin (ropeAngle fns count position theta i)
      let x0 := values i
      let x1 := values (i + 1)
      if j % 2 = 0 then x0 * c - x1 * s else x0 * s + x1 * c)

/-- `att1_silu_f32`. -/
def siluF32 (value : R) : R := value / (1 + fns.exp (-value))

/-- `att1_swiglu_f32`. -/
def swigluF32 (gate value : ℕ → R) (count : ℕ) : Option (ℕ → R) :=
  if count = 0 then none else some (array count fun i => siluF32 fns (gate i) * value i)

end Kernels

/-! ### Matrix products -/

/-- `att1_matmul_f32`. -/
def matmulF32 (lhs rhs : ℕ → R) (rows cols inner : ℕ) : Option (ℕ → R) :=
  if rows = 0 ∨ cols = 0 ∨ inner = 0 then none
  else
    some (array (rows * cols) fun i =>
      let row := i / cols
      let col := i % cols
      sumLoop inner (fun k => lhs (row * inner + k) * rhs (k * cols + col)) 0)

/-- `att1_q8_matrix`. -/
structure Q8Matrix (R : Type) where
  rows : ℕ
  cols : ℕ
  values : ℕ → UInt8
  scales : ℕ → R

/-- `(float)qvalue * scale` at a row and a column. -/
def Q8Matrix.weight (weights : Q8Matrix R) (out col : ℕ) : R :=
  (ModelFile.int8Value (weights.values (out * weights.cols + col)) : R) * weights.scales out

/-- `att1_matmul_q8xf32`. -/
def matmulQ8xf32 (lhs : ℕ → R) (lhsRows lhsCols : ℕ) (weights : Q8Matrix R) : Option (ℕ → R) :=
  if lhsRows = 0 ∨ lhsCols = 0 ∨ weights.rows = 0 ∨ weights.cols = 0 ∨ lhsCols ≠ weights.cols then none
  else
    some (array (lhsRows * weights.rows) fun i =>
      let row := i / weights.rows
      let out := i % weights.rows
      sumLoop lhsCols (fun col => lhs (row * lhsCols + col) * weights.weight out col) 0)

/-- `q4_group_size_valid`. -/
def q4GroupSizeValid (groupSize : UInt32) : Bool :=
  16 ≤ groupSize && groupSize ≤ 128 && groupSize &&& (groupSize - 1) == 0

/-- `att1_q4_matrix`, with what `att1_q4_matrix_alloc` requires of the group size. -/
structure Q4Matrix (R : Type) where
  rows : ℕ
  cols : ℕ
  groupSize : UInt32
  packed : List UInt8
  scales : ℕ → R
  valid : q4GroupSizeValid groupSize = true
  grouped : cols % groupSize.toNat = 0

namespace Q4Matrix

variable (weights : Q4Matrix R)

/-- The groups of a row. -/
def nGroupsPerRow : ℕ := weights.cols / weights.groupSize.toNat

/-- `(float)int4_buf[j] * scale` in a group of a row. -/
def groupWeight (row g j : ℕ) : R :=
  let packedOff := row * (weights.cols / 2) + g * (weights.groupSize.toNat / 2)
  let scaleIdx := row * weights.nGroupsPerRow + g
  (ModelFile.q4UnpackGroup weights.packed packedOff j : R) * weights.scales scaleIdx

end Q4Matrix

/-- `att1_matmul_q4xf32`. -/
def matmulQ4xf32 (lhs : ℕ → R) (lhsRows lhsCols : ℕ) (weights : Q4Matrix R) : Option (ℕ → R) :=
  if lhsRows = 0 ∨ lhsCols = 0 ∨ weights.rows = 0 ∨ weights.cols = 0 ∨ lhsCols ≠ weights.cols then none
  else
    some (array (lhsRows * weights.rows) fun i =>
      let lhsRow := i / weights.rows
      let weightRow := i % weights.rows
      (List.range weights.nGroupsPerRow).foldl (fun sum g =>
        let actOff := lhsRow * lhsCols + g * weights.groupSize.toNat
        sumLoop weights.groupSize.toNat (fun j => lhs (actOff + j) * weights.groupWeight weightRow g j) sum) 0)

/-! ### Backends -/

/-- `att1_backend_ops`: the tables of the CPU backends differ in their matrix products. -/
structure BackendOps (R : Type) where
  alloc : ℕ → Bool
  matmulF32 : Option ((lhs rhs : ℕ → R) → (rows cols inner : ℕ) → Option (ℕ → R))
  matmulQ8xf32 : Option ((lhs : ℕ → R) → (lhsRows lhsCols : ℕ) → Q8Matrix R → Option (ℕ → R))
  matmulQ4xf32 : Option ((lhs : ℕ → R) → (lhsRows lhsCols : ℕ) → Q4Matrix R → Option (ℕ → R))
  rmsnormF32 : (src weight : ℕ → R) → (count : ℕ) → (epsilon : R) → Option (ℕ → R)
  softmaxF32 : (values : ℕ → R) → (count : ℕ) → Option (ℕ → R)
  ropeF32 : (values : ℕ → R) → (count position : ℕ) → (theta : R) → Option (ℕ → R)
  ffnSwigluF32 : (gate value : ℕ → R) → (count : ℕ) → Option (ℕ → R)

/-- `cpu_f32_ops`. -/
def cpuF32Ops (host : Host) (fns : MathFns R) : BackendOps R where
  alloc := host.malloc
  matmulF32 := some matmulF32
  matmulQ8xf32 := some fun _ _ _ _ => none
  matmulQ4xf32 := none
  rmsnormF32 := rmsnormF32 fns
  softmaxF32 := softmaxF32 fns
  ropeF32 := ropeF32 fns
  ffnSwigluF32 := swigluF32 fns

/-- `cpu_q8_ops`. -/
def cpuQ8Ops (host : Host) (fns : MathFns R) : BackendOps R :=
  { cpuF32Ops host fns with matmulQ8xf32 := some matmulQ8xf32 }

/-- `cpu_q4_ops`. -/
def cpuQ4Ops (host : Host) (fns : MathFns R) : BackendOps R :=
  { cpuF32Ops host fns with matmulQ8xf32 := none }

end Att1.Decoder
