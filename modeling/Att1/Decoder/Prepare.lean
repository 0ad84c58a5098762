import Att1.Decoder.Infer
import Att1.Decoder.Quantize

/-!
# Att1.Decoder.Prepare — the weights of a q8 context (`src/infer.c`)

* `inferPrepareQ8`: views of the q8 tensors of a file, or its f32 tensors, transposed and quantized.
* `q8Transposed`: the matrix that quantizing an f32 tensor leaves (`inferQuantizeTransposed_eq_some`).
-/

open Att1.Lib Att1.ModelFile

namespace Att1.Decoder

/-! ### Views of a file -/

section

variable {R : Type} [Field R] (host : Host) (unpack : List UInt8 → R)

/-- A q8 matrix in the file, with its values and scales behind two pointers. -/
def q8At (model : Model) (view : ModelFile.Q8Matrix) : Q8Matrix R where
  rows := view.rows
  cols := view.cols
  values := fun i => model.fileData.getD (view.values.getD 0 + i) 0
  scales := floatsAt unpack model view.scales

/-- The macro `LOAD_Q8`; `infer_layer_q8_name` is `layer_name` of `src/model_view.c`. -/
def layerTensorQ8 (model : Model) (layer : ℕ) (suffix : String) (rows cols : ℕ) : Except Status (Q8Matrix R) := do
  let name ← layerName layer (ascii suffix)
  let view ← viewTensorQ8 model name rows cols
  .ok (q8At unpack model view)

/-- `infer_load_file_q8_layer`. -/
def inferLoadFileQ8Layer (model : Model) (layer : ℕ) : Except Status (BlockWeights R (Q8Matrix R)) := do
  let dModel := model.config.dModel
  let dFf := model.config.dFf
  let attentionNorm ← layerTensorF32 model layer "attention_norm.weight" 1 dModel 1
  let wq ← layerTensorQ8 unpack model layer "attention.wq.weight" dModel dModel
  let wk ← layerTensorQ8 unpack model layer "attention.wk.weight" dModel dModel
  let wv ← layerTensorQ8 unpack model layer "attention.wv.weight" dModel dModel
  let wo ← layerTensorQ8 unpack model layer "attention.wo.weight" dModel dModel
  let ffnNorm ← layerTensorF32 model layer "ffn_norm.weight" 1 dModel 1
  let wGate ← layerTensorQ8 unpack model layer "ffn.w_gate.weight" dFf dModel
  let wUp ← layerTensorQ8 unpack model layer "ffn.w_up.weight" dFf dModel
  let wDown ← layerTensorQ8 unpack model layer "ffn.w_down.weight" dModel dFf
  let attentionNorm := floatsAt unpack model attentionNorm
  let ffnNorm := floatsAt unpack model ffnNorm
  .ok { attentionNorm, ffnNorm, wq, wk, wv, wo, wGate, wUp, wDown }

/-- `sizeof(att1_infer_q8_layer)`. -/
def inferQ8LayerSize : ℕ := 240

/-- A layer as `calloc` leaves it. -/
def q8LayerZero : BlockWeights R (Q8Matrix R) :=
  let matrix := ⟨0, 0, fun _ => 0, fun _ => 0⟩
  ⟨fun _ => 0, fun _ => 0, matrix, matrix, matrix, matrix, matrix, matrix, matrix⟩

/-- The layer loop of both preparations, over the layers that `calloc` grants. -/
def prepareLayers (model : Model) (load : ℕ → Except Status (BlockWeights R (Q8Matrix R))) :
    Except Status (ℕ → BlockWeights R (Q8Matrix R)) := do
  rejectIf (¬ host.calloc model.config.nLayers inferQ8LayerSize) .oom
  let layers ← (List.range model.config.nLayers).mapM load
  .ok fun layer => layers.getD layer q8LayerZero

/-- `infer_prepare_file_q8`. -/
def inferPrepareFileQ8 (model : Model) : Except Status (QuantizedWeights R (Q8Matrix R)) := do
  let layers ← prepareLayers host model (inferLoadFileQ8Layer unpack model)
  let outputNorm ← viewOutputNorm model
  let view ← viewTensorQ8 model (ascii "output.weight") model.config.vocabSize model.config.dModel
  .ok { layers, outputNorm := floatsAt unpack model outputNorm, outputWeight := q8At unpack model view }

/-- `infer_model_has_file_q8`. -/
def inferModelHasFileQ8 (model : Model) : Bool :=
  (findTensor model (ascii "output.weight")).any fun tensor => tensor.dtype == dtypeQ8

/-! ### Quantizing on load -/

variable [LinearOrder R] [FloorRing R]

/-- `infer_quantize_transposed`; cell `output * input_count + input` of the transposed matrix is a weight of the file. -/
def inferQuantizeTransposed (weights : ℕ → R) (inputCount outputCount : ℕ) : Option (Q8Matrix R) :=
  if inputCount = 0 ∨ outputCount = 0 then none
  else if sizeMax / outputCount < inputCount then none
  else do
    guard (host.malloc (sizeT (inputCount * outputCount * 4)))
    let transposed := array (outputCount * inputCount) fun i => weights (i % inputCount * outputCount + i / inputCount)
    quantizeQ8PerRow host transposed outputCount inputCount

/-- One turn of the layer loop of `infer_prepare_q8`. -/
def inferQuantizeLayer (model : Model) (layer : ℕ) : Except Status (BlockWeights R (Q8Matrix R)) := do
  let weights ← viewLoadLayerWeights model layer
  let dModel := model.config.dModel
  let dFf := model.config.dFf
  let quantize (pointer : Option ℕ) (inputCount outputCount : ℕ) :=
    orFail (inferQuantizeTransposed host (floatsAt unpack model pointer) inputCount outputCount) Status.oom
  let wq ← quantize weights.wq dModel dModel
  let wk ← quantize weights.wk dModel dModel
  let wv ← quantize weights.wv dModel dModel
  let wo ← quantize weights.wo dModel dModel
  let wGate ← quantize weights.wGate dModel dFf
  let wUp ← quantize weights.wUp dModel dFf
  let wDown ← quantize weights.wDown dFf dModel
  let attentionNorm := floatsAt unpack model weights.attentionNorm
  let ffnNorm := floatsAt unpack model weights.ffnNorm
  .ok { attentionNorm, ffnNorm, wq, wk, wv, wo, wGate, wUp, wDown }

/-- `infer_prepare_q8`; `ready` are the weights of a context that has been prepared before. -/
def inferPrepareQ8 (model : Model) (ready : Option (QuantizedWeights R (Q8Matrix R))) :
    Except Status (QuantizedWeights R (Q8Matrix R)) :=
  match ready with
  | some weights => .ok weights
  | none =>
    if inferModelHasFileQ8 model then inferPrepareFileQ8 host unpack model
    else do
      let layers ← prepareLayers host model (inferQuantizeLayer host unpack model)
      let outputNorm ← viewOutputNorm model
      let pointer ← viewOutputWeight model
      let outputWeight ← orFail (inferQuantizeTransposed host (floatsAt unpack model pointer) model.config.dModel
        model.config.vocabSize) Status.oom
      .ok { layers, outputNorm := floatsAt unpack model outputNorm, outputWeight }

end

/-! ### What they leave -/

section

variable {R : Type} [Field R] {host : Host} {model : Model}

/-- Layers that are loaded one way are loaded another way too, where each of them is. -/
theorem prepareLayers_of_related {load load' : ℕ → Except Status (BlockWeights R (Q8Matrix R))} {model' : Model}
    {P : BlockWeights R (Q8Matrix R) → BlockWeights R (Q8Matrix R) → Prop} {layers : ℕ → BlockWeights R (Q8Matrix R)}
    (hcount : model'.config.nLayers = model.config.nLayers)
    (hload : ∀ layer < model.config.nLayers, ∀ weights, load layer = .ok weights →
      ∃ weights', load' layer = .ok weights' ∧ P weights weights')
    (h : prepareLayers host model load = .ok layers) : ∃ layers', prepareLayers host model' load' = .ok layers' ∧
      ∀ layer < model.config.nLayers, P (layers layer) (layers' layer) := by
  obtain ⟨halloc, h⟩ := rejectIf_bind_eq_ok.mp h
  obtain ⟨blocks, hblocks, h⟩ := bind_eq_ok.mp h
  cases h
  obtain ⟨hlen, hall⟩ := getElem?_of_mapM hblocks
  rw [List.length_range] at hlen
  have hexists : ∀ layer ∈ List.range model.config.nLayers, ∃ weights', load' layer = .ok weights' := by
    intro layer hmem
    have hlt := List.mem_range.mp hmem
    obtain ⟨weights, -, hweights⟩ := hall layer layer (List.getElem?_range hlt)
    obtain ⟨weights', hweights', -⟩ := hload layer hlt weights hweights
    exact ⟨weights', hweights'⟩
  obtain ⟨blocks', hblocks'⟩ := exists_forall₂_iff.mpr hexists
  have hmap := mapM_eq_ok.mpr hblocks'
  refine ⟨fun layer => blocks'.getD layer q8LayerZero, ?_, fun layer hlt => ?_⟩
  · unfold prepareLayers
    rw [hcount]
    exact rejectIf_bind_eq_ok.mpr ⟨halloc, bind_eq_ok.mpr ⟨_, hmap, rfl⟩⟩
  · obtain ⟨weights, hget, hweights⟩ := hall layer layer (List.getElem?_range hlt)
    obtain ⟨weights', hget', hweights'⟩ := (getElem?_of_mapM hmap).2 layer layer (List.getElem?_range hlt)
    obtain ⟨weights'', heq, hP⟩ := hload layer hlt weights hweights
    rw [hweights', Except.ok.injEq] at heq
    subst heq
    simp only [List.getD_eq_getElem?_getD, hget, hget', Option.getD_some]
    exact hP

variable [LinearOrder R] [FloorRing R] {weights : ℕ → R} {inputCount outputCount : ℕ} {m : Q8Matrix R}

/-- The q8 matrix of the transpose of an f32 tensor. -/
def q8Transposed (weights : ℕ → R) (inputCount outputCount : ℕ) : Q8Matrix R :=
  q8Filled (array (outputCount * inputCount) fun i => weights (i % inputCount * outputCount + i / inputCount)) outputCount
    inputCount

theorem inferQuantizeTransposed_eq_some (h : inferQuantizeTransposed host weights inputCount outputCount = some m) :
    inputCount ≠ 0 ∧ outputCount ≠ 0 ∧ m = q8Transposed weights inputCount outputCount := by
  unfold inferQuantizeTransposed at h
  split_ifs at h with hzero
  obtain ⟨-, h⟩ := guard_bind_eq_some.mp h
  obtain ⟨-, rfl⟩ := quantizeQ8PerRow_eq_some.mp h
  exact ⟨by tauto, by tauto, rfl⟩

end

end Att1.Decoder
