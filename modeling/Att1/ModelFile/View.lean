import Att1.ModelFile.Types

/-!
# Att1.ModelFile.View — typed views of the tensors of a model (`src/model_view.c`)

* `findTensor`: the first tensor with a name (`att1_model_find_tensor` of `src/model_loader.c`).
* `viewTensorF32`, `viewTensorQ8`, `viewTensorQ4`: a tensor of a given dtype and shape, as pointers into its payload.
* `viewValidateDecoder`, `viewValidateDecoderQ4`, `viewLoadLayerWeights`: the checks of a decoder model.

An output argument is the value of the call; a call that fails stores nothing that is read later.
-/

open Att1.Lib

namespace Att1.ModelFile

/-! ### Tensors by name -/

/-- `att1_model_find_tensor`. -/
def findTensor (model : Model) (name : List UInt8) : Option ModelTensor :=
  model.tensors.find? fun tensor => strncmpEq modelNameSize tensor.name name

/-- `att1_q8_matrix`. -/
structure Q8Matrix where
  rows : ℕ
  cols : ℕ
  values : Option ℕ
  scales : Option ℕ
  deriving DecidableEq, Inhabited, Repr

/-- `att1_q4_matrix`. -/
structure Q4Matrix where
  rows : ℕ
  cols : ℕ
  groupSize : ℕ
  packed : Option ℕ
  scales : Option ℕ
  deriving DecidableEq, Inhabited, Repr

/-- `tensor_is_f32_shape`. -/
def tensorIsF32Shape (tensor : ModelTensor) (ndims dim0 dim1 : ℕ) : Bool :=
  tensor.dtype == dtypeF32 && tensor.ndims == ndims && tensor.shape 0 == dim0 &&
    !(1 < ndims && tensor.shape 1 != dim1)

/-- `tensor_is_q8_shape`. -/
def tensorIsQ8Shape (tensor : ModelTensor) (rows cols : ℕ) : Bool :=
  tensor.dtype == dtypeQ8 && tensor.ndims == 2 && tensor.shape 0 == rows && tensor.shape 1 == cols

/-- `tensor_is_q4_shape`. -/
def tensorIsQ4Shape (tensor : ModelTensor) (rows cols : ℕ) : Bool :=
  tensor.dtype == dtypeQ4 && tensor.ndims == 2 && tensor.shape 0 == rows && tensor.shape 1 == cols

/-- `tensor_is_output_weight_shape`. -/
def tensorIsOutputWeightShape (tensor : ModelTensor) (dModel vocabSize : ℕ) : Bool :=
  tensorIsF32Shape tensor 2 dModel vocabSize || tensorIsQ8Shape tensor vocabSize dModel

/-- `layer_name`: `snprintf` into a buffer of `ATT1_MODEL_NAME_SIZE` chars. -/
def layerName (layer : ℕ) (suffix : List UInt8) : Except Status (List UInt8) :=
  let name := ascii "layers." ++ decimal layer ++ ascii "." ++ suffix
  if modelNameSize ≤ name.length then .error .invalidArg else .ok name

/-! ### Views -/

/-- `att1_model_view_tensor_f32`. -/
def viewTensorF32 (model : Model) (name : List UInt8) (ndims dim0 dim1 : ℕ) : Except Status (Option ℕ) := do
  rejectIf (ndims = 0 ∨ modelMaxDims < ndims) .invalidArg
  let tensor ← orFail (findTensor model name) .notFound
  rejectIf (¬ tensorIsF32Shape tensor ndims dim0 dim1) .shape
  .ok tensor.data

/-- `att1_model_view_tensor_q8`. -/
def viewTensorQ8 (model : Model) (name : List UInt8) (rows cols : ℕ) : Except Status Q8Matrix := do
  rejectIf (rows = 0 ∨ cols = 0) .invalidArg
  let tensor ← orFail (findTensor model name) .notFound
  rejectIf (¬ tensorIsQ8Shape tensor rows cols) .shape
  let valueBytes := sizeT (rows * cols)
  .ok ⟨rows, cols, tensor.data, tensor.data.map (· + valueBytes)⟩

/-- `att1_model_view_tensor_q4`. -/
def viewTensorQ4 (model : Model) (name : List UInt8) (rows cols : ℕ) : Except Status Q4Matrix := do
  rejectIf (rows = 0 ∨ cols = 0) .invalidArg
  let tensor ← orFail (findTensor model name) .notFound
  rejectIf (¬ tensorIsQ4Shape tensor rows cols) .shape
  let packedBytes := sizeT (rows * cols) / 2
  .ok ⟨rows, cols, tensor.q4GroupSize, tensor.data, tensor.data.map (· + packedBytes)⟩

/-- `att1_model_view_token_embedding`. -/
def viewTokenEmbedding (model : Model) : Except Status (Option ℕ) :=
  viewTensorF32 model (ascii "tok_embeddings.weight") 2 model.config.vocabSize model.config.dModel

/-- `att1_model_view_output_norm`. -/
def viewOutputNorm (model : Model) : Except Status (Option ℕ) :=
  viewTensorF32 model (ascii "output_norm.weight") 1 model.config.dModel 1

/-- `att1_model_view_output_weight`. -/
def viewOutputWeight (model : Model) : Except Status (Option ℕ) :=
  viewTensorF32 model (ascii "output.weight") 2 model.config.dModel model.config.vocabSize

/-! ### Decoders -/

/-- The test of the config in both validations. -/
def decoderConfigBad (config : ModelConfig) : Prop :=
  let headDim := if config.nHeads ≠ 0 then config.dModel / config.nHeads else 0
  config.vocabSize = 0 ∨ config.nLayers = 0 ∨ config.nHeads = 0 ∨ config.dModel = 0 ∨ config.dFf = 0 ∨
    config.maxSeqLen = 0 ∨ config.dModel % config.nHeads ≠ 0 ∨ headDim % 2 ≠ 0

instance (config : ModelConfig) : Decidable (decoderConfigBad config) :=
  inferInstanceAs (Decidable (_ ∨ _ ∨ _ ∨ _ ∨ _ ∨ _ ∨ _ ∨ _))

/-- `att1_model_view_validate_decoder`. -/
def viewValidateDecoder (model : Model) : Except Status Unit := do
  -- no q4 tensor at all may be in the model
  rejectIf (model.tensors.any fun tensor => tensor.dtype == dtypeQ4) .unsupported
  rejectIf (decoderConfigBad model.config) .invalidArg
  let _ ← viewTokenEmbedding model
  let _ ← viewOutputNorm model
  let outputWeight ← orFail (findTensor model (ascii "output.weight")) .notFound
  rejectIf (¬ tensorIsOutputWeightShape outputWeight model.config.dModel model.config.vocabSize) .shape

/-- `att1_transformer_block_weights`: the nine f32 tensors of a layer. -/
structure TransformerBlockWeights where
  attentionNorm : Option ℕ
  wq : Option ℕ
  wk : Option ℕ
  wv : Option ℕ
  wo : Option ℕ
  ffnNorm : Option ℕ
  wGate : Option ℕ
  wUp : Option ℕ
  wDown : Option ℕ
  deriving DecidableEq, Repr

/-- The macros `LOAD_LAYER_TENSOR` and `CHK_F32`. -/
def layerTensorF32 (model : Model) (layer : ℕ) (suffix : String) (ndims dim0 dim1 : ℕ) :
    Except Status (Option ℕ) := do
  let name ← layerName layer (ascii suffix)
  viewTensorF32 model name ndims dim0 dim1

/-- The macro `CHK_Q4`. -/
def layerTensorQ4 (model : Model) (layer : ℕ) (suffix : String) (rows cols : ℕ) : Except Status Q4Matrix := do
  let name ← layerName layer (ascii suffix)
  viewTensorQ4 model name rows cols

/-- `att1_model_view_load_layer_weights`. -/
def viewLoadLayerWeights (model : Model) (layer : ℕ) : Except Status TransformerBlockWeights := do
  let dModel := model.config.dModel
  let dFf := model.config.dFf
  rejectIf (model.config.nLayers ≤ layer) .invalidArg
  let attentionNorm ← layerTensorF32 model layer "attention_norm.weight" 1 dModel 1
  let wq ← layerTensorF32 model layer "attention.wq.weight" 2 dModel dModel
  let wk ← layerTensorF32 model layer "attention.wk.weight" 2 dModel dModel
  let wv ← layerTensorF32 model layer "attention.wv.weight" 2 dModel dModel
  let wo ← layerTensorF32 model layer "attention.wo.weight" 2 dModel dModel
  let ffnNorm ← layerTensorF32 model layer "ffn_norm.weight" 1 dModel 1
  let wGate ← layerTensorF32 model layer "ffn.w_gate.weight" 2 dModel dFf
  let wUp ← layerTensorF32 model layer "ffn.w_up.weight" 2 dModel dFf
  let wDown ← layerTensorF32 model layer "ffn.w_down.weight" 2 dFf dModel
  .ok ⟨attentionNorm, wq, wk, wv, wo, ffnNorm, wGate, wUp, wDown⟩

/-- One turn of the layer loop of the q4 validation. -/
def validateLayerQ4 (model : Model) (layer : ℕ) : Except Status Unit := do
  let dModel := model.config.dModel
  let dFf := model.config.dFf
  let _ ← layerTensorF32 model layer "attention_norm.weight" 1 dModel 1
  let _ ← layerTensorQ4 model layer "attention.wq.weight" dModel dModel
  let _ ← layerTensorQ4 model layer "attention.wk.weight" dModel dModel
  let _ ← layerTensorQ4 model layer "attention.wv.weight" dModel dModel
  let _ ← layerTensorQ4 model layer "attention.wo.weight" dModel dModel
  let _ ← layerTensorF32 model layer "ffn_norm.weight" 1 dModel 1
  let _ ← layerTensorQ4 model layer "ffn.w_gate.weight" dFf dModel
  let _ ← layerTensorQ4 model layer "ffn.w_up.weight" dFf dModel
  let _ ← layerTensorQ4 model layer "ffn.w_down.weight" dModel dFf
  .ok ()

/-- `att1_model_view_validate_decoder_q4`. -/
def viewValidateDecoderQ4 (model : Model) : Except Status Unit := do
  rejectIf (decoderConfigBad model.config) .invalidArg
  let _ ← viewTokenEmbedding model
  let _ ← viewOutputNorm model
  let _ ← viewTensorQ4 model (ascii "output.weight") model.config.vocabSize model.config.dModel
  let _ ← (List.range model.config.nLayers).mapM (validateLayerQ4 model)
  .ok ()

/-! ### What a view shows -/

section Views

variable {model : Model} {name : List UInt8} {tensor : ModelTensor} {ndims dim0 dim1 rows cols : ℕ}

theorem findTensor_some (h : findTensor model name = some tensor) :
    tensor ∈ model.tensors ∧ strncmpEq modelNameSize tensor.name name = true :=
  ⟨List.mem_of_find?_eq_some h, by simpa using List.find?_some h⟩

theorem tensorIsF32Shape_iff :
    tensorIsF32Shape tensor ndims dim0 dim1 = true ↔
      tensor.dtype = dtypeF32 ∧ tensor.ndims = ndims ∧ tensor.shape 0 = dim0 ∧ (1 < ndims → tensor.shape 1 = dim1) := by
  simp [tensorIsF32Shape, and_assoc, imp_iff_not_or]

theorem tensorIsQ8Shape_iff :
    tensorIsQ8Shape tensor rows cols = true ↔
      tensor.dtype = dtypeQ8 ∧ tensor.ndims = 2 ∧ tensor.shape 0 = rows ∧ tensor.shape 1 = cols := by
  simp [tensorIsQ8Shape, and_assoc]

theorem tensorIsQ4Shape_iff :
    tensorIsQ4Shape tensor rows cols = true ↔
      tensor.dtype = dtypeQ4 ∧ tensor.ndims = 2 ∧ tensor.shape 0 = rows ∧ tensor.shape 1 = cols := by
  simp [tensorIsQ4Shape, and_assoc]

theorem viewTensorF32_eq_ok {out : Option ℕ} :
    viewTensorF32 model name ndims dim0 dim1 = .ok out ↔
      (0 < ndims ∧ ndims ≤ modelMaxDims) ∧
        ∃ tensor, findTensor model name = some tensor ∧ tensorIsF32Shape tensor ndims dim0 dim1 = true ∧
          tensor.data = out := by
  unfold viewTensorF32
  simp only [rejectIf_bind_eq_ok, orFail_bind_eq_ok, not_not, not_or, Nat.not_lt, Nat.pos_iff_ne_zero,
    Except.ok.injEq, ne_eq]

theorem viewTensorQ8_eq_ok {out : Q8Matrix} :
    viewTensorQ8 model name rows cols = .ok out ↔
      (rows ≠ 0 ∧ cols ≠ 0) ∧
        ∃ tensor, findTensor model name = some tensor ∧ tensorIsQ8Shape tensor rows cols = true ∧
          ⟨rows, cols, tensor.data, tensor.data.map (· + sizeT (rows * cols))⟩ = out := by
  unfold viewTensorQ8
  simp only [rejectIf_bind_eq_ok, orFail_bind_eq_ok, not_not, not_or, Except.ok.injEq, ne_eq]

theorem viewTensorQ4_eq_ok {out : Q4Matrix} :
    viewTensorQ4 model name rows cols = .ok out ↔
      (rows ≠ 0 ∧ cols ≠ 0) ∧
        ∃ tensor, findTensor model name = some tensor ∧ tensorIsQ4Shape tensor rows cols = true ∧
          ⟨rows, cols, tensor.q4GroupSize, tensor.data, tensor.data.map (· + sizeT (rows * cols) / 2)⟩ = out := by
  unfold viewTensorQ4
  simp only [rejectIf_bind_eq_ok, orFail_bind_eq_ok, not_not, not_or, Except.ok.injEq, ne_eq]

end Views

end Att1.ModelFile
