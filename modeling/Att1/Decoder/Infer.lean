import Att1.Decoder.Attention
import Att1.ModelFile.View

/-!
# Att1.Decoder.Infer — decoding one token after the other (`src/infer.c`)

* `Infer`: the inference context; `create`.
* `decodeToken`: one token through the embedding, the blocks of all layers, the output norm and the output product.

`unpack` is the float with the given four bytes.  The weights of a q8 or q4 context are there as its preparation left
them; the trace, which nothing is read from, is left out.
-/

open Att1.Lib Att1.Lib.Fallible Att1.ModelFile

namespace Att1.Decoder

/-- The prepared weights of a quantized context. -/
structure QuantizedWeights (R M : Type) where
  layers : ℕ → BlockWeights R M
  outputNorm : ℕ → R
  outputWeight : M

/-- The weights that the backend of a context reads; a quantized backend may have none ready. -/
inductive InferWeights (R : Type)
  | f32
  | q8 (ready : Option (QuantizedWeights R (Q8Matrix R)))
  | q4 (ready : Option (QuantizedWeights R (Q4Matrix R)))

/-- `att1_infer`. -/
structure Infer (R : Type) where
  model : Model
  layerKv : ℕ → KvCache R
  hidden : ℕ → R
  nextHidden : ℕ → R
  norm : ℕ → R
  logits : ℕ → R
  weights : InferWeights R
  position : ℕ

/-- A call on a context. -/
abbrev InferM (R α : Type) := Fallible (Infer R) Status α

variable {R : Type} [Field R] [LinearOrder R]

/-- The `head_dim` of `att1_infer_create` and of a decode. -/
def inferHeadDim (config : ModelConfig) : ℕ := if config.nHeads ≠ 0 then config.dModel / config.nHeads else 0

/-- `sizeof(att1_infer_t)`. -/
def inferSize : ℕ := 192

/-- `sizeof(att1_kv_cache)`. -/
def kvCacheSize : ℕ := 48

/-- `att1_infer_create`. -/
def create (host : Host) (model : Model) : Except Status (Infer R) := do
  let config := model.config
  viewValidateDecoder model
  rejectIf (¬ (host.calloc 1 inferSize ∧ host.calloc config.nLayers kvCacheSize ∧ host.calloc config.dModel 4 ∧
    host.calloc config.vocabSize 4 ∧ host.calloc 1 16)) .oom
  -- every cache is made with the same arguments
  let cache ← orFail (KvCache.init host config.maxSeqLen config.nHeads (inferHeadDim config)).toOption .oom
  let zero := fun _ => 0
  .ok ⟨model, fun _ => cache, zero, zero, zero, zero, .f32, 0⟩

section

variable (host : Host) (fns : MathFns R) (unpack : List UInt8 → R)

/-- The floats at a pointer into the file. -/
def floatsAt (model : Model) (pointer : Option ℕ) : ℕ → R :=
  fun i => unpack (slice model.fileData (pointer.getD 0 + i * 4) 4)

/-- The weights of a block behind the pointers of a layer. -/
def blockWeights (model : Model) (weights : TransformerBlockWeights) : BlockWeights R (ℕ → R) where
  attentionNorm := floatsAt unpack model weights.attentionNorm
  ffnNorm := floatsAt unpack model weights.ffnNorm
  wq := floatsAt unpack model weights.wq
  wk := floatsAt unpack model weights.wk
  wv := floatsAt unpack model weights.wv
  wo := floatsAt unpack model weights.wo
  wGate := floatsAt unpack model weights.wGate
  wUp := floatsAt unpack model weights.wUp
  wDown := floatsAt unpack model weights.wDown

/-- The `block_config` of `att1_infer_decode_token`. -/
def blockConfig (config : ModelConfig) : BlockConfig R where
  modelDim := config.dModel
  numHeads := config.nHeads
  headDim := config.dModel / config.nHeads
  ffnDim := config.dFf
  rmsEpsilon := 1 / 1000000
  ropeTheta := 10000

/-- The operations of the backend that the weights of a context are for. -/
def InferWeights.ops : InferWeights R → BackendOps R
  | .f32 => cpuF32Ops host fns
  | .q8 _ => cpuQ8Ops host fns
  | .q4 _ => cpuQ4Ops host fns

/-- What a decode takes from the backend and its weights. -/
structure Pass (R : Type) where
  outputNorm : ℕ → R
  block : ℕ → Except Status (BlockConfig R → ℕ → (ℕ → R) → ForwardM R (ℕ → R))
  output : (ℕ → R) → Option (ℕ → R)

/-- The branches on `use_q4` and `use_q8` in `att1_infer_decode_token`. -/
def inferPass (model : Model) (outputNorm : Option ℕ) (weights : InferWeights R) : Except Status (Pass R) :=
  let ops := weights.ops host fns
  match weights with
  | .f32 => do
    let outputWeight ← viewOutputWeight model
    .ok
      { outputNorm := floatsAt unpack model outputNorm
        block := fun layer => do
          let weights ← viewLoadLayerWeights model layer
          .ok (transformerBlockForward fns ops (blockWeights unpack model weights))
        output := fun norm => matmulF32 norm (floatsAt unpack model outputWeight) 1 model.config.vocabSize model.config.dModel }
  | .q8 ready => do
    let weights ← orFail ready .state
    .ok
      { outputNorm := weights.outputNorm
        block := fun layer => .ok (transformerBlockForwardQ8 fns ops (weights.layers layer))
        output := fun norm => matmulQ8xf32 norm 1 model.config.dModel weights.outputWeight }
  | .q4 ready => do
    let weights ← orFail ready .state
    .ok
      { outputNorm := weights.outputNorm
        block := fun layer => .ok (transformerBlockForwardQ4 fns ops (weights.layers layer))
        output := fun norm => matmulQ4xf32 norm 1 model.config.dModel weights.outputWeight }

/-- One turn of the layer loop of `att1_infer_decode_token`. -/
def decodeLayer (pass : Pass R) (layer : ℕ) : InferM R Unit := do
  let infer ← get
  let forward ← ofExcept (pass.block layer)
  let (result, cache) := (forward (blockConfig infer.model.config) infer.position infer.hidden).exec (infer.layerKv layer)
  set { infer with layerKv := Function.update infer.layerKv layer cache }
  let nextHidden ← ofExcept (result.mapError fun _ => .state)
  modify fun infer => { infer with nextHidden := nextHidden, hidden := nextHidden }

/-- `att1_sampler_greedy_f32`; no value of an ordered field is a NaN. -/
def samplerGreedyF32 (logits : ℕ → R) (count : ℕ) : Option ℕ :=
  if count = 0 then none
  else
    let best := (List.range (count - 1)).foldl (fun best i => if logits best < logits (i + 1) then i + 1 else best) 0
    if uint32Max < best then none else some best

/-- `att1_infer_decode_token`: the token it returns. -/
def decodeToken (tokenId : ℕ) : InferM R ℕ := do
  let infer ← get
  let model := infer.model
  let config := model.config
  failIf (config.vocabSize ≤ tokenId ∨ config.maxSeqLen ≤ infer.position) .invalidArg
  let embedding ← ofExcept (viewTokenEmbedding model)
  let outputNorm ← ofExcept (viewOutputNorm model)
  let pass ← ofExcept (inferPass host fns unpack model outputNorm infer.weights)
  set { infer with hidden := array config.dModel fun i => floatsAt unpack model embedding (tokenId * config.dModel + i) }
  (List.range config.nLayers).forM (decodeLayer pass)
  let infer ← get
  let norm ← ofExcept (orFail (rmsnormF32 fns infer.hidden pass.outputNorm config.dModel (1 / 1000000)) .state)
  set { infer with norm := norm }
  let logits ← ofExcept (orFail (pass.output norm) .state)
  modify fun infer => { infer with logits := logits }
  let token ← ofExcept (orFail (samplerGreedyF32 logits config.vocabSize) .state)
  modify fun infer => { infer with position := infer.position + 1 }
  pure token

end

end Att1.Decoder
