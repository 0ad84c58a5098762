import Att1.Lib.Bytes
import Att1.Lib.Checked
import Att1.Lib.Loops
import Att1.ModelFile.Types

/-!
# Att1.Converter.Tensors — the tensor constructors of the converter (`compiler/convert_llama_to_att1.py`)

* `PyTensor`: the dict of one tensor, with its payload bytes.
* `makeTensor`, `tensorFromValues`, `makeQ8TensorFromF32`, `makeQ4TensorFromF32`: the constructors, over any number
  type with the operations of `Floats`.  They raise an error of `ConvertError`.
* `Constructed`: the tensors that come out of them, q4 ones with the default group size.
-/

open Att1.Lib Att1.ModelFile

namespace Att1.Converter

/-- The exceptions of the converter, one constructor for each place that raises one. -/
inductive ConvertError
  | valueCount (name : List UInt8) (expected : ℕ) (shape : List ℕ) (got : ℕ)
  | nonFinite (name : List UInt8)
  | q8Rank (name : List UInt8)
  | unpackShape (name : List UInt8)
  | tensorCount (expected got : ℕ)
  | notQ8Eligible (name : List UInt8)
  | notQ4Eligible (name : List UInt8)
  | nameMismatch (i : ℕ) (expected got : List UInt8)
  | shapeMismatch (name : List UInt8) (expected got : List ℕ)
  | byteSize (name : List UInt8) (expected got : ℕ)
  | nameTooLong (name : List UInt8)
  | indexError
  | structError
  | bytesTooLong
  | gqaShape (nHeads nKvHeads : ℕ)
  | gqaRows (sourceRows nKvHeads : ℕ)
  | gqaDimensions (dModel nHeads headDim : ℕ)
  deriving DecidableEq, Repr

/-- A tensor dict; the names are ASCII, and flags that are absent count as 0. -/
structure PyTensor where
  name : List UInt8
  shape : List ℕ
  dtype : ℕ
  data : List UInt8
  flags : ℕ := 0
  deriving DecidableEq, Repr

/-- The float operations of the constructors. -/
structure Floats (F : Type) where
  /-- element `i` of `_synthetic_values` for a tensor index -/
  synthetic : ℕ → ℕ → F
  /-- `math.isfinite` -/
  isFinite : F → Bool
  /-- `struct.pack("<f", v)`, which fails for a value too large for a float -/
  pack : F → Option (List UInt8)
  /-- `struct.unpack("<f", b)` -/
  unpack : List UInt8 → F
  /-- `max(abs(v) for v in values)` -/
  maxAbs : List F → F
  /-- the scale of a q8 row, from its largest absolute value -/
  scaleQ8 : F → F
  /-- the byte of a q8 value for a scale -/
  quantQ8 : F → F → UInt8
  /-- the scale of a q4 group, from its largest absolute value -/
  scaleQ4 : F → F
  /-- the nibble of a q4 value for a scale -/
  quantQ4 : F → F → UInt8

section Constructors

variable {F : Type} (ops : Floats F)

/-- `_pack_f32_values`. -/
def packF32Values (name : List UInt8) (values : List F) : Except ConvertError (List UInt8) := do
  let packed ← values.mapM fun v => do
    rejectIf (¬ ops.isFinite v) (.nonFinite name)
    orFail (ops.pack v) .structError
  .ok packed.flatten

/-- `_make_tensor`. -/
def makeTensor (name : List UInt8) (shape : List ℕ) (tensorIndex : ℕ) : Except ConvertError PyTensor := do
  let packed ← (List.range shape.prod).mapM fun i => orFail (ops.pack (ops.synthetic tensorIndex i)) .structError
  .ok { name, shape, dtype := dtypeF32, data := packed.flatten }

/-- `_tensor_from_values`. -/
def tensorFromValues (name : List UInt8) (shape : List ℕ) (values : List F) : Except ConvertError PyTensor := do
  rejectIf (values.length ≠ shape.prod) (.valueCount name shape.prod shape values.length)
  let data ← packF32Values ops name values
  .ok { name, shape, dtype := dtypeF32, data }

/-- `_transpose_2d`. -/
def transpose2d (values : List F) (rows cols : ℕ) : Except ConvertError (List F) :=
  ((List.range cols).flatMap fun c => (List.range rows).map fun r => r * cols + c).mapM fun k =>
    orFail values[k]? .indexError

omit ops in
theorem transpose2d_eq [Zero F] {values : List F} {rows cols : ℕ} (hlen : values.length = rows * cols) :
    transpose2d values rows cols =
      .ok ((List.range (cols * rows)).map fun i => values.getD (i % rows * cols + i / rows) 0) := by
  unfold transpose2d
  rw [flatMap_range_blocks, List.mapM_map]
  refine mapM_eq_ok_map fun i hi => orFail_eq_ok.mpr ?_
  have hi := List.mem_range.mp hi
  have hlt := block_lt (mod_lt_of_lt_mul hi) (div_lt_of_lt_mul hi)
  rw [← hlen] at hlt
  rw [List.getD_eq_getElem?_getD, List.getElem?_eq_getElem hlt, Option.getD_some]

/-- Scales as floats, one after the other. -/
def packScales (scales : List F) : Except ConvertError (List UInt8) := do
  let packed ← scales.mapM fun s => orFail (ops.pack s) .structError
  .ok packed.flatten

/-- One row of `_make_q8_tensor_from_f32`: its scale and its bytes. -/
def q8Row (name : List UInt8) (rowValues : List F) : Except ConvertError (F × List UInt8) := do
  rejectIf (¬ rowValues.all ops.isFinite) (.nonFinite name)
  let scale := ops.scaleQ8 (ops.maxAbs rowValues)
  .ok (scale, rowValues.map fun value => ops.quantQ8 value scale)

/-- `_make_q8_tensor_from_f32`. -/
def makeQ8TensorFromF32 (name : List UInt8) (shape : List ℕ) (values : List F) : Except ConvertError PyTensor :=
  match shape with
  | [inDim, outDim] => do
    let q8Values ← transpose2d values inDim outDim
    let rows ← (List.range outDim).mapM fun row => q8Row ops name (slice q8Values (row * inDim) inDim)
    let scaleBytes ← packScales ops (rows.map Prod.fst)
    .ok { name, shape := [outDim, inDim], dtype := dtypeQ8, data := (rows.map Prod.snd).flatten ++ scaleBytes }
  | _ => .error (.q8Rank name)

/-- `_q4_quantize`: the packed bytes and the scale bytes. -/
def q4Quantize (name : List UInt8) (floatValues : List F) (rows cols groupSize : ℕ) :
    Except ConvertError (List UInt8 × List UInt8) := do
  let nGroupsPerRow := cols / groupSize
  let group (r g : ℕ) : List F := slice floatValues (r * cols + g * groupSize) groupSize
  let groups := (List.range rows).flatMap fun r => (List.range nGroupsPerRow).map fun g => group r g
  rejectIf (¬ groups.all fun values => values.all ops.isFinite) (.nonFinite name)
  let scale (values : List F) : F := ops.scaleQ4 (ops.maxAbs values)
  let nibble (values : List F) (j : ℕ) : UInt8 :=
    (values[j]?).elim 0 fun v => ops.quantQ4 v (scale values) &&& 0x0F
  -- byte `p` belongs to row `p / (cols / 2)`; bytes that no group covers keep the zero of the new bytearray
  let packed := (List.range (rows * cols / 2)).map fun p =>
    let r := p / (cols / 2)
    let g := p % (cols / 2) / (groupSize / 2)
    let j := p % (cols / 2) % (groupSize / 2) * 2
    if r < rows ∧ g < nGroupsPerRow then nibble (group r g) j ||| (nibble (group r g) (j + 1) <<< 4) else 0
  let scaleBytes ← packScales ops (groups.map scale)
  .ok (packed, scaleBytes)

/-- `_make_q4_tensor_from_f32`. -/
def makeQ4TensorFromF32 (name : List UInt8) (shape : List ℕ) (values : List F) (groupSize : ℕ) :
    Except ConvertError PyTensor :=
  match shape with
  | [f32Rows, f32Cols] => do
    let q4Rows := f32Cols
    let q4Cols := f32Rows
    let transposed ← transpose2d values f32Rows f32Cols
    let (packedData, scaleData) ← q4Quantize ops name transposed q4Rows q4Cols groupSize
    .ok { name, shape := [q4Rows, q4Cols], dtype := dtypeQ4, data := packedData ++ scaleData,
          flags := groupSize &&& 0xFF }
  | _ => .error (.unpackShape name)

/-- The tensors the constructors build, q4 with the default group size. -/
inductive Constructed : PyTensor → Prop
  | synthetic {name shape tensorIndex t} (h : makeTensor ops name shape tensorIndex = .ok t) : Constructed t
  | f32 {name shape values t} (h : tensorFromValues ops name shape values = .ok t) : Constructed t
  | q8 {name shape values t} (h : makeQ8TensorFromF32 ops name shape values = .ok t) : Constructed t
  | q4 {name shape values t} (h : makeQ4TensorFromF32 ops name shape values q4GroupSizeDefault = .ok t) :
      Constructed t

end Constructors

/-- The dtypes and flags that come out of the constructors. -/
def DefaultForm (t : PyTensor) : Prop :=
  t.dtype = dtypeF32 ∧ t.flags = 0 ∨ t.dtype = dtypeQ8 ∧ t.flags = 0 ∨
    t.dtype = dtypeQ4 ∧ t.flags = q4GroupSizeDefault

section Forms

variable {F : Type} {ops : Floats F} {name : List UInt8} {shape : List ℕ} {values : List F} {t : PyTensor}

theorem makeTensor_form {tensorIndex : ℕ} (h : makeTensor ops name shape tensorIndex = .ok t) :
    t.name = name ∧ t.shape = shape ∧ t.dtype = dtypeF32 ∧ t.flags = 0 := by
  obtain ⟨data, -, h⟩ := bind_eq_ok.mp h
  cases h
  exact ⟨rfl, rfl, rfl, rfl⟩

theorem tensorFromValues_form (h : tensorFromValues ops name shape values = .ok t) :
    t.name = name ∧ t.shape = shape ∧ t.dtype = dtypeF32 ∧ t.flags = 0 := by
  obtain ⟨-, h⟩ := rejectIf_bind_eq_ok.mp h
  obtain ⟨data, -, h⟩ := bind_eq_ok.mp h
  cases h
  exact ⟨rfl, rfl, rfl, rfl⟩

theorem makeQ8TensorFromF32_form (h : makeQ8TensorFromF32 ops name shape values = .ok t) :
    t.name = name ∧ t.dtype = dtypeQ8 ∧ t.flags = 0 := by
  unfold makeQ8TensorFromF32 at h
  split at h
  · obtain ⟨_, -, h⟩ := bind_eq_ok.mp h
    obtain ⟨_, -, h⟩ := bind_eq_ok.mp h
    obtain ⟨_, -, h⟩ := bind_eq_ok.mp h
    cases h
    exact ⟨rfl, rfl, rfl⟩
  · cases h

theorem makeQ4TensorFromF32_form {groupSize : ℕ} (h : makeQ4TensorFromF32 ops name shape values groupSize = .ok t) :
    t.name = name ∧ t.dtype = dtypeQ4 ∧ t.flags = groupSize &&& 0xFF := by
  unfold makeQ4TensorFromF32 at h
  split at h
  · obtain ⟨_, -, h⟩ := bind_eq_ok.mp h
    obtain ⟨_, -, h⟩ := bind_eq_ok.mp h
    cases h
    exact ⟨rfl, rfl, rfl⟩
  · cases h

theorem Constructed.form (h : Constructed ops t) : DefaultForm t := by
  cases h with
  | synthetic h => exact .inl (makeTensor_form h).2.2
  | f32 h => exact .inl (tensorFromValues_form h).2.2
  | q8 h => exact .inr (.inl (makeQ8TensorFromF32_form h).2)
  | q4 h =>
    obtain ⟨-, hdtype, hflags⟩ := makeQ4TensorFromF32_form h
    exact .inr (.inr ⟨hdtype, hflags⟩)

end Forms

end Att1.Converter
