import Att1.Converter.Tensors

/-!
# Att1.Converter.Model — from a Llama config to model bytes (`compiler/convert_llama_to_att1.py`)

* `Att1Dict`, `validateAtt1Config`: the resolved config and its validation.
* `tensorNamePlan`: names and shapes of the tensors, in file order.
* `buildAtt1BytesFromTensors`: the bytes of the file, with or without shard metadata.
* `buildTensors`: the tensors of one weight format, from the f32 values of each tensor.
-/

open Att1.Lib Att1.ModelFile

namespace Att1.Converter

/-! ### The config -/

/-- The `att1` dict.  Its fields are counts except `rope_dim`, which the config file gives as it likes. -/
structure Att1Dict where
  vocabSize : ℕ
  nLayers : ℕ
  nHeads : ℕ
  nKvHeads : ℕ
  dModel : ℕ
  dFf : ℕ
  maxSeqLen : ℕ
  ropeDim : ℤ
  nTiles : ℕ
  shardCount : ℕ
  deriving DecidableEq, Repr

/-- The messages of `validate_att1_config`. -/
inductive ConfigError
  | headsDivide (dModel nHeads : ℕ)
  | kvHeadsPositive (nKvHeads : ℕ)
  | kvHeadsDivide (nHeads nKvHeads : ℕ)
  | ropeDimLarge (ropeDim : ℤ) (headDim : ℕ)
  | ropeDimOdd (ropeDim : ℤ)
  | positive (key : String) (value : ℕ)
  deriving DecidableEq, Repr

/-- `validate_att1_config`; `none` where Python raises `ZeroDivisionError`. -/
def validateAtt1Config (att1 : Att1Dict) : Option (List ConfigError) :=
  if att1.nHeads = 0 then none
  else
    let headDim := att1.dModel / att1.nHeads
    some <|
      (if att1.dModel % att1.nHeads ≠ 0 then [.headsDivide att1.dModel att1.nHeads] else []) ++
      (if att1.nKvHeads = 0 then [.kvHeadsPositive att1.nKvHeads]
        else if att1.nHeads % att1.nKvHeads ≠ 0 then [.kvHeadsDivide att1.nHeads att1.nKvHeads] else []) ++
      (if (headDim : ℤ) < att1.ropeDim then [.ropeDimLarge att1.ropeDim headDim] else []) ++
      (if att1.ropeDim % 2 ≠ 0 then [.ropeDimOdd att1.ropeDim] else []) ++
      [("vocab_size", att1.vocabSize), ("n_layers", att1.nLayers), ("n_heads", att1.nHeads),
        ("d_model", att1.dModel), ("d_ff", att1.dFf), ("max_seq_len", att1.maxSeqLen)].flatMap
        fun (key, value) => if value = 0 then [.positive key value] else []

/-- The configs the converter goes on with. -/
structure ValidConfig (att1 : Att1Dict) : Prop where
  vocabSize : att1.vocabSize ≠ 0
  nLayers : att1.nLayers ≠ 0
  nHeads : att1.nHeads ≠ 0
  dModel : att1.dModel ≠ 0
  dFf : att1.dFf ≠ 0
  maxSeqLen : att1.maxSeqLen ≠ 0
  heads : att1.dModel % att1.nHeads = 0

theorem validConfig_of_validate {att1 : Att1Dict} (h : validateAtt1Config att1 = some []) : ValidConfig att1 := by
  unfold validateAtt1Config at h
  by_cases hheads : att1.nHeads = 0
  · rw [if_pos hheads] at h
    cases h
  · rw [if_neg hheads, Option.some.injEq] at h
    simp only [List.append_eq_nil_iff, List.flatMap_cons, List.flatMap_nil, List.append_nil] at h
    obtain ⟨⟨⟨⟨hdiv, -⟩, -⟩, -⟩, hvocab, hlayers, -, hmodel, hff, hseq⟩ := h
    have hne {key : String} {value : ℕ} (h : (if value = 0 then [ConfigError.positive key value] else []) = []) :
        value ≠ 0 := by
      intro h0
      rw [if_pos h0] at h
      cases h
    refine ⟨hne hvocab, hne hlayers, hheads, hne hmodel, hne hff, hne hseq, ?_⟩
    by_contra hmod
    rw [if_pos hmod] at hdiv
    cases hdiv

/-! ### Names and shapes -/

/-- The prefix `layers.<layer>`. -/
def layerPrefix (layer : ℕ) : List UInt8 := ascii "layers." ++ decimal layer

/-- The tensors of one layer. -/
def layerPlan (d ff layer : ℕ) : List (List UInt8 × List ℕ) :=
  [(layerPrefix layer ++ ascii ".attention_norm.weight", [d]),
   (layerPrefix layer ++ ascii ".attention.wq.weight", [d, d]),
   (layerPrefix layer ++ ascii ".attention.wk.weight", [d, d]),
   (layerPrefix layer ++ ascii ".attention.wv.weight", [d, d]),
   (layerPrefix layer ++ ascii ".attention.wo.weight", [d, d]),
   (layerPrefix layer ++ ascii ".ffn_norm.weight", [d]),
   (layerPrefix layer ++ ascii ".ffn.w_gate.weight", [d, ff]),
   (layerPrefix layer ++ ascii ".ffn.w_up.weight", [d, ff]),
   (layerPrefix layer ++ ascii ".ffn.w_down.weight", [ff, d])]

/-- `tensor_name_plan`. -/
def tensorNamePlan (att1 : Att1Dict) : List (List UInt8 × List ℕ) :=
  (ascii "tok_embeddings.weight", [att1.vocabSize, att1.dModel]) ::
    ((List.range att1.nLayers).flatMap (layerPlan att1.dModel att1.dFf) ++
      [(ascii "output_norm.weight", [att1.dModel]),
       (ascii "output.weight", [att1.dModel, att1.vocabSize])])

/-- `_is_q8_eligible`. -/
def isQ8Eligible (name : List UInt8) (shape : List ℕ) : Bool :=
  shape.length == 2 && name != ascii "tok_embeddings.weight"

/-- `_is_q4_eligible`. -/
def isQ4Eligible (name : List UInt8) (shape : List ℕ) (groupSize : ℕ) : Bool :=
  if shape.length ≠ 2 ∨ name = ascii "tok_embeddings.weight" then false
  else
    let q4Cols := shape.getD 0 0
    groupSize ≤ q4Cols && q4Cols % groupSize == 0

/-! ### Packing -/

/-- `struct.pack` of unsigned little-endian fields, each with its width. -/
def structPack (fields : List (ℕ × ℕ)) : Except ConvertError (List UInt8) := do
  rejectIf (¬ fields.all fun field => field.2 < 256 ^ field.1) .structError
  .ok (packFields fields)

/-- A shape filled up with ones to four dimensions. -/
def padShape (shape : List ℕ) : List ℕ := shape ++ List.replicate (modelMaxDims - shape.length) 1

/-- `name_padded`: the name, filled up with NULs. -/
def namePadded (name : List UInt8) : List UInt8 := name ++ List.replicate (modelNameSize - name.length) 0

/-- The fields that `_descriptor` packs behind the name. -/
def descriptorFields (tensor : PyTensor) (offset : ℕ) : List (ℕ × ℕ) :=
  let shape := padShape tensor.shape
  [(4, tensor.dtype), (4, tensor.shape.length), (8, shape.getD 0 0), (8, shape.getD 1 0), (8, shape.getD 2 0),
   (8, shape.getD 3 0), (8, offset), (8, tensor.data.length), (4, 0), (4, tensor.flags)]

/-- `_descriptor`. -/
def descriptor (tensor : PyTensor) (offset : ℕ) : Except ConvertError (List UInt8) := do
  rejectIf (modelNameSize ≤ tensor.name.length) (.nameTooLong tensor.name)
  let fields ← structPack (descriptorFields tensor offset)
  .ok (namePadded tensor.name ++ fields)

/-- The loop over the tensors that emits one block for each, with its index and its byte offset in the data. -/
def emitBlocks (emit : ℕ → PyTensor → ℕ → Except ConvertError (List UInt8)) :
    List PyTensor → ℕ → ℕ → Except ConvertError (List (List UInt8))
  | [], _, _ => .ok []
  | tensor :: tensors, i, byteOffset => do
    let block ← emit i tensor byteOffset
    let blocks ← emitBlocks emit tensors (i + 1) (byteOffset + tensor.data.length)
    .ok (block :: blocks)

/-! ### Shard metadata -/

/-- `_layer_tile_assignment`. -/
def layerTileAssignment (nLayers nTiles : ℕ) : List ℕ :=
  ((List.range nTiles).foldl
    (fun (state : List ℕ × ℕ) tile =>
      let remainingLayers := nLayers - state.2
      let remainingTiles := nTiles - tile
      let count := (remainingLayers + remainingTiles - 1) / remainingTiles
      (state.1 ++ List.replicate count tile, state.2 + count))
    ([], 0)).1

/-- `int` of a decimal number; the names of the plan have no other text in front of their second dot. -/
def pyInt (text : List UInt8) : Option ℕ :=
  if text ≠ [] ∧ text.all fun c => 48 ≤ c.toNat ∧ c.toNat < 58 then
    some (text.foldl (fun n c => n * 10 + (c.toNat - 48)) 0)
  else none

/-- The tile of a tensor in `_build_shard_meta_blob`: that of its layer, or tile 0. -/
def tileOf (nLayers : ℕ) (assignment : List ℕ) (name : List UInt8) : Except ConvertError ℕ :=
  if ¬ (ascii "layers.").isPrefixOf name then .ok 0
  else
    let rest := name.drop (ascii "layers.").length
    let dot := rest.takeWhile fun c => c ≠ 0x2e
    if dot = [] ∨ dot = rest then .ok 0
    else
      match pyInt dot with
      | none => .ok 0
      | some layerId => if layerId < nLayers then orFail assignment[layerId]? .indexError else .ok 0

/-- The fields of a shard record. -/
def shardRecordFields (tensorIndex : ℕ) (shape : List ℕ) (dtype tileId byteOffset : ℕ) : List (ℕ × ℕ) :=
  let ps := padShape shape
  [(4, tensorIndex), (4, tileId), (8, byteOffset), (8, ps.getD 0 0), (8, ps.getD 1 0), (8, ps.getD 2 0),
   (8, ps.getD 3 0), (4, dtype), (4, if dtype = dtypeQ8 ∨ dtype = dtypeQ4 then 1 else 0), (4, tileId), (4, 0),
   (4, 0), (4, 0), (4, 0), (4, 0), (4, 0), (4, 0), (4, 0), (4, 0), (4, 0), (4, 0), (4, 0), (4, 0), (8, 0)]

/-- `_shard_record_bytes`. -/
def shardRecordBytes (tensorIndex : ℕ) (shape : List ℕ) (dtype tileId byteOffset : ℕ) :
    Except ConvertError (List UInt8) :=
  structPack (shardRecordFields tensorIndex shape dtype tileId byteOffset)

/-- One turn of the loop of `_build_shard_meta_blob`. -/
def shardRecord (att1 : Att1Dict) (i : ℕ) (tensor : PyTensor) (byteOffset : ℕ) : Except ConvertError (List UInt8) := do
  let tileId ← tileOf att1.nLayers (layerTileAssignment att1.nLayers att1.nTiles) tensor.name
  shardRecordBytes i tensor.shape tensor.dtype tileId byteOffset

/-- `_build_shard_meta_blob`. -/
def buildShardMetaBlob (att1 : Att1Dict) (tensors : List PyTensor) : Except ConvertError (List UInt8) := do
  let blocks ← emitBlocks (shardRecord att1) tensors 0 0
  .ok blocks.flatten

/-! ### The file -/

/-- The payload size that the builder expects of a tensor. -/
def expectedNbytes (tensor : PyTensor) : ℕ :=
  let rows := tensor.shape.getD 0 0
  let cols := tensor.shape.getD 1 0
  if tensor.dtype = dtypeQ8 then rows * cols + rows * 4
  else if tensor.dtype = dtypeQ4 then
    let gs := if tensor.flags &&& 0xFF = 0 then q4GroupSizeDefault else tensor.flags &&& 0xFF
    rows * cols / 2 + rows * (cols / gs) * 4
  else tensor.shape.prod * 4

/-- The shape that the builder expects of a tensor with the given dtype: quantized ones are stored transposed. -/
def expectedShape (dtype : ℕ) (shape : List ℕ) : List ℕ :=
  if dtype = dtypeQ8 ∨ dtype = dtypeQ4 then [shape.getD 1 0, shape.getD 0 0] else shape

/-- One turn of the loop that checks the tensors against the plan. -/
def checkTensor (entry : ((List UInt8 × List ℕ) × PyTensor) × ℕ) : Except ConvertError Unit := do
  let expectedName := entry.1.1.1
  let planShape := entry.1.1.2
  let tensor := entry.1.2
  rejectIf (tensor.dtype = dtypeQ8 ∧ ¬ isQ8Eligible expectedName planShape) (.notQ8Eligible expectedName)
  rejectIf (tensor.dtype = dtypeQ4 ∧ ¬ isQ4Eligible expectedName planShape q4GroupSizeDefault)
    (.notQ4Eligible expectedName)
  let shapeToCheck := expectedShape tensor.dtype planShape
  rejectIf (tensor.name ≠ expectedName) (.nameMismatch entry.2 expectedName tensor.name)
  rejectIf (tensor.shape ≠ shapeToCheck) (.shapeMismatch tensor.name shapeToCheck tensor.shape)
  rejectIf (tensor.data.length ≠ expectedNbytes tensor)
    (.byteSize tensor.name (expectedNbytes tensor) tensor.data.length)

/-- The largest length of a Python object, `sys.maxsize`. -/
def pyMaxSize : ℕ := 2 ^ 63 - 1

/-- `desc_offset`: behind the header and the config block. -/
def descOffset : ℕ := modelHeaderSize + modelConfigSize

/-- `data_offset`: behind the descriptor table. -/
def dataOffset (tensorCount : ℕ) : ℕ := descOffset + tensorCount * modelTensorDescSize

/-- The fields of the header behind the magic: version, header size and the section table. -/
def headerFieldList (tensorCount dataSize shardOffset shardSize : ℕ) : List (ℕ × ℕ) :=
  [(4, 1), (4, modelHeaderSize), (8, modelHeaderSize), (8, modelConfigSize), (8, descOffset), (8, tensorCount),
   (8, dataOffset tensorCount), (8, dataSize), (8, shardOffset), (8, shardSize)]

/-- The header. -/
def headerBytes (tensorCount dataSize shardOffset shardSize : ℕ) : Except ConvertError (List UInt8) := do
  let fields ← structPack (headerFieldList tensorCount dataSize shardOffset shardSize)
  .ok (modelMagic ++ fields)

/-- The fields of the config block. -/
def configFieldList (att1 : Att1Dict) : List (ℕ × ℕ) :=
  [(4, att1.vocabSize), (4, att1.nLayers), (4, att1.nHeads), (4, att1.dModel), (4, att1.dFf), (4, att1.maxSeqLen),
   (4, att1.ropeDim.toNat), (4, att1.nTiles), (4, att1.shardCount)]

/-- The config block; `struct.pack` refuses a negative value. -/
def configBytes (att1 : Att1Dict) : Except ConvertError (List UInt8) := do
  rejectIf (att1.ropeDim < 0) .structError
  structPack (configFieldList att1)

/-- `_build_att1_bytes_from_tensors`. -/
def buildAtt1BytesFromTensors (att1 : Att1Dict) (tensors : List PyTensor) (emitShardMeta : Bool) :
    Except ConvertError (List UInt8) := do
  let expected := 3 + att1.nLayers * 9
  rejectIf (tensors.length ≠ expected) (.tensorCount expected tensors.length)
  let _ ← ((tensorNamePlan att1).zip tensors).zipIdx.mapM checkTensor
  let descs ← emitBlocks (fun _ tensor byteOffset => descriptor tensor byteOffset) tensors 0 0
  let dataBlob := (tensors.map PyTensor.data).flatten
  let shardBlob ← (if emitShardMeta then buildShardMetaBlob att1 tensors else .ok [])
  let shardOffset := if emitShardMeta then dataOffset tensors.length + dataBlob.length else 0
  let header ← headerBytes tensors.length dataBlob.length shardOffset shardBlob.length
  let configBlob ← configBytes att1
  let bytes := header ++ (configBlob ++ (descs.flatten ++ (dataBlob ++ shardBlob)))
  rejectIf (pyMaxSize < bytes.length) .bytesTooLong
  .ok bytes

/-! ### Weight formats -/

/-- The choices of `--weight-format`. -/
inductive WeightFormat
  | f32
  | q8
  | q4
  deriving DecidableEq, Repr

section Formats

variable {F : Type} (ops : Floats F)

/-- `build_real_f32_tensors`; `values i` are the values of tensor `i`, loaded, transposed and expanded. -/
def buildRealF32Tensors (att1 : Att1Dict) (values : ℕ → List F) : Except ConvertError (List PyTensor) :=
  (tensorNamePlan att1).zipIdx.mapM fun entry => tensorFromValues ops entry.1.1 entry.1.2 (values entry.2)

/-- The values of an f32 tensor, unpacked again. -/
def unpackF32 (tensor : PyTensor) : List F :=
  (List.range tensor.shape.prod).map fun k => ops.unpack (slice tensor.data (k * 4) 4)

/-- `build_real_q8_tensors`. -/
def buildRealQ8Tensors (att1 : Att1Dict) (values : ℕ → List F) : Except ConvertError (List PyTensor) := do
  let tensors ← buildRealF32Tensors ops att1 values
  tensors.mapM fun tensor =>
    if isQ8Eligible tensor.name tensor.shape then
      makeQ8TensorFromF32 ops tensor.name tensor.shape (unpackF32 ops tensor)
    else .ok tensor

/-- `build_real_q4_tensors` with the default group size. -/
def buildRealQ4Tensors (att1 : Att1Dict) (values : ℕ → List F) : Except ConvertError (List PyTensor) := do
  let tensors ← buildRealF32Tensors ops att1 values
  tensors.mapM fun tensor =>
    if isQ4Eligible tensor.name tensor.shape q4GroupSizeDefault then
      makeQ4TensorFromF32 ops tensor.name tensor.shape (unpackF32 ops tensor) q4GroupSizeDefault
    else .ok tensor

/-- `build_synthetic_tensors`. -/
def buildSyntheticTensors (att1 : Att1Dict) : Except ConvertError (List PyTensor) :=
  (tensorNamePlan att1).zipIdx.mapM fun entry => makeTensor ops entry.1.1 entry.1.2 entry.2

/-- Where the tensors come from: synthetic values in f32, or the values of a source file in a weight format. -/
inductive TensorSource (F : Type)
  | synthetic
  | real (format : WeightFormat) (values : ℕ → List F)

/-- The weight format of the file that is emitted. -/
def TensorSource.format {F : Type} : TensorSource F → WeightFormat
  | .synthetic => .f32
  | .real format _ => format

/-- The tensors that `emit_att1` hands to the builder. -/
def buildTensors (att1 : Att1Dict) : TensorSource F → Except ConvertError (List PyTensor)
  | .synthetic => buildSyntheticTensors ops att1
  | .real .f32 values => buildRealF32Tensors ops att1 values
  | .real .q8 values => buildRealQ8Tensors ops att1 values
  | .real .q4 values => buildRealQ4Tensors ops att1 values

end Formats

end Att1.Converter
