import Att1.Cluster.Model

/-!
# Att1.Cluster.Single — decoding on one device (`src/infer.c`)

* `SingleInfer`: the inference context; `create`, `createQ4`, `setBackend`.
* `decodeToken`: one token through all layers.
* `generate`: a prompt and the tokens that follow it, for both kinds of context.

The numeric code is the parameter that it is for a cluster: `Kernels` and `Quantizer`.  The functions that prepare
quantized weights are copies of the ones of the cluster and are taken from there.  The trace, which nothing is read
from, is left out.
-/

open Att1.Lib Att1.Lib.Fallible Att1.ModelFile

namespace Att1

/-- `att1_infer`; the quantized weights are there where their `ready` flag is set. -/
structure SingleInfer (K : Type) where
  model : Model
  layerKv : ℕ → K
  hidden : ℕ → UInt8
  nextHidden : ℕ → UInt8
  norm : ℕ → UInt8
  logits : ℕ → UInt8
  backend : Backend
  q8 : Option (QuantModel Q8Matrix)
  q4 : Option (QuantModel Q4Matrix)
  position : ℕ

/-- A call on a context. -/
abbrev SingleM (K α : Type) := Fallible (SingleInfer K) Status α

namespace SingleInfer

variable {K : Type}

/-! ### Creation -/

/-- `infer_prepare_q8`. -/
def prepareQ8 (host : Host) (quantize : Quantizer) : SingleM K Unit := do
  let infer ← get
  if infer.q8.isSome then pure ()
  else
    let q8 ← ofExcept
      (if hasFileQ8 infer.model then prepareFileQ8 host infer.model else prepareRuntimeQ8 host quantize infer.model)
    modify fun infer => { infer with q8 := some q8 }

/-- `infer_prepare_q4`. -/
def prepareQ4 (host : Host) : SingleM K Unit := do
  let infer ← get
  if infer.q4.isSome then pure ()
  else
    let q4 ← ofExcept (ClusterInfer.loadQ4 host infer.model)
    modify fun infer => { infer with q4 := some q4 }

/-- `sizeof(att1_infer_t)`. -/
def inferSize : ℕ := 192

/-- The common part of both constructors; `kvInit` is `att1_kv_cache_init` on the cache of a layer. -/
def build [Inhabited K] (host : Host) (kvInit : ℕ → ℕ → ℕ → ℕ → Option K) (backend : Except Status Backend)
    (model : Model) : Except Status (SingleInfer K) := do
  let config := model.config
  rejectIf (¬ host.calloc 1 inferSize) .oom
  let backend ← backend
  rejectIf
    (¬ (host.calloc config.nLayers ClusterInfer.kvCacheSize ∧ host.calloc config.dModel sizeofFloat ∧
      host.calloc config.vocabSize sizeofFloat)) .oom
  let layerKv ← (List.range config.nLayers).mapM fun layer =>
    orFail (kvInit layer config.maxSeqLen config.nHeads (config.dModel / config.nHeads)) .oom
  .ok
    { model := model
      layerKv := fun layer => layerKv.getD layer default
      hidden := fun _ => 0
      nextHidden := fun _ => 0
      norm := fun _ => 0
      logits := fun _ => 0
      backend := backend
      q8 := none
      q4 := none
      position := 0 }

/-- `att1_infer_create`; `backend` is what `att1_backend_default_create` returns. -/
def create [Inhabited K] (host : Host) (kvInit : ℕ → ℕ → ℕ → ℕ → Option K) (backend : Except Status Backend)
    (model : Model) : Except Status (SingleInfer K) := do
  viewValidateDecoder model
  build host kvInit backend model

/-- `att1_infer_create_q4`; `backend` is what `att1_backend_cpu_q4_create` returns. -/
def createQ4 [Inhabited K] (host : Host) (kvInit : ℕ → ℕ → ℕ → ℕ → Option K) (backend : Except Status Backend)
    (model : Model) : Except Status (SingleInfer K) := do
  viewValidateDecoderQ4 model
  let infer ← build host kvInit backend model
  let q4 ← ClusterInfer.loadQ4 host model
  .ok { infer with q4 := some q4 }

/-- `att1_infer_set_backend`; `none` is a null backend, or one without operations. -/
def setBackend (host : Host) (quantize : Quantizer) : Option Backend → SingleM K Unit
  | none => throw .invalidArg
  | some backend => do
    if backend.isQ4 then
      failIf (¬ backend.supportsQ4) .unsupported
      prepareQ4 host
    else if backend.isQ8 then
      failIf (¬ backend.supportsQ8) .unsupported
      prepareQ8 host quantize
    modify fun infer => { infer with backend := backend }

/-! ### Decoding -/

/-- The copy of the embedding of a token into `hidden`. -/
def embedToken (infer : SingleInfer K) (embedding : Option ℕ) (tokenId : ℕ) : SingleInfer K :=
  let dModel := infer.model.config.dModel
  let start := embedding.getD 0 + sizeT (tokenId * dModel) * sizeofFloat
  { infer with
    hidden := copyInto infer.hidden 0 (fun i => infer.model.fileData.getD i 0) start (dModel * sizeofFloat) }

/-- The norm and the matrix that the last step of a decode uses, by the backend. -/
def outputWeights (infer : SingleInfer K) : Except Status (Option ℕ × OutputWeight) := do
  let outputNorm ← viewOutputNorm infer.model
  if infer.backend.isQ4 then
    match infer.q4 with
    | none => .error .state
    | some q4 => if ¬ infer.backend.supportsQ4 then .error .state else .ok (q4.outputNorm, .q4 q4.outputWeight)
  else if infer.backend.isQ8 then
    match infer.q8 with
    | none => .error .state
    | some q8 => if ¬ infer.backend.supportsQ8 then .error .state else .ok (q8.outputNorm, .q8 q8.outputWeight)
  else do
    let outputWeight ← viewOutputWeight infer.model
    .ok (outputNorm, .f32 outputWeight)

/-- The weights of a layer, by the backend. -/
def layerWeights (infer : SingleInfer K) (layer : ℕ) : Except Status BlockWeights :=
  if infer.backend.isQ4 then
    match infer.q4 with
    | none => .error .state
    | some q4 => .ok (.q4 (q4.layers layer))
  else if infer.backend.isQ8 then
    match infer.q8 with
    | none => .error .state
    | some q8 => .ok (.q8 (q8.layers layer))
  else (viewLoadLayerWeights infer.model layer).map .f32

def blockConfig (infer : SingleInfer K) : TransformerBlockConfig where
  modelDim := infer.model.config.dModel
  numHeads := infer.model.config.nHeads
  headDim := infer.model.config.dModel / infer.model.config.nHeads
  ffnDim := infer.model.config.dFf
  rmsEpsilon := ClusterInfer.rmsEpsilon
  ropeTheta := 10000

/-- One turn of the layer loop. -/
def runLayer (kernels : Kernels K) (layer : ℕ) : SingleM K Unit := do
  let infer ← get
  let weights ← ofExcept (infer.layerWeights layer)
  let r := kernels.blockForward weights infer.blockConfig infer.position (infer.layerKv layer) infer.hidden
  set { infer with layerKv := Function.update infer.layerKv layer r.kv, nextHidden := r.nextHidden }
  failIf (r.ok = false) .state
  modify fun infer =>
    let dModelBytes := sizeT (infer.model.config.dModel * sizeofFloat)
    { infer with hidden := copyInto infer.hidden 0 infer.nextHidden 0 dModelBytes }

/-- What follows the layers, up to the logits. -/
def runOutput (kernels : Kernels K) (outputNorm : Option ℕ) (outputWeight : OutputWeight) : SingleM K Unit := do
  let infer ← get
  let config := infer.model.config
  let normed := kernels.rmsnormF32 infer.hidden outputNorm config.dModel ClusterInfer.rmsEpsilon
  set { infer with norm := normed.1 }
  failIf (normed.2 = false) .state
  let product := kernels.matmul outputWeight normed.1 config.vocabSize config.dModel
  modify fun infer => { infer with logits := product.1 }
  failIf (product.2 = false) .state
  failIf (infer.backend.has .sync ∧ kernels.sync = false) .state

/-- `att1_infer_decode_token` with the layers in the order `layers`, and the token it stores. -/
def decodeThrough (layers : List ℕ) (kernels : Kernels K) (tokenId : ℕ) : SingleM K ℕ := do
  let infer ← get
  let config := infer.model.config
  failIf (config.vocabSize ≤ tokenId ∨ config.maxSeqLen ≤ infer.position) .invalidArg
  let embedding ← ofExcept (viewTokenEmbedding infer.model)
  let output ← ofExcept infer.outputWeights
  modify fun infer => infer.embedToken embedding tokenId
  layers.forM (runLayer kernels)
  runOutput kernels output.1 output.2
  let infer ← get
  match kernels.samplerGreedyF32 infer.logits config.vocabSize with
  | none => throw .state
  | some token =>
    modify fun infer => { infer with position := sizeT (infer.position + 1) }
    pure token

/-- `att1_infer_decode_token`. -/
def decodeToken (kernels : Kernels K) (tokenId : ℕ) : SingleM K ℕ := do
  let infer ← get
  decodeThrough (List.range infer.model.config.nLayers) kernels tokenId

end SingleInfer

/-! ### Generation -/

/-- The second loop of `att1_infer_generate`, from the turn with the given number of tokens to go: a token is stored
before the next one is decoded, and after the last one nothing is. -/
def generateTokens {σ : Type} (decode : ℕ → Fallible σ Status ℕ) : ℕ → ℕ → Fallible σ Status (List ℕ)
  | 0, _ => pure []
  | 1, token => pure [token]
  | remaining + 2, token => do
    let next ← decode token
    let tokens ← generateTokens decode (remaining + 1) next
    pure (token :: tokens)

/-- `att1_infer_generate` and `att1_cluster_infer_generate`, with the tokens they store. -/
def generate {σ : Type} (decode : ℕ → Fallible σ Status ℕ) (prompt : List UInt8)
    (generatedTokenCount outTokenCapacity : ℕ) : Fallible σ Status (List ℕ) := do
  failIf (prompt.length = 0 ∨ outTokenCapacity < generatedTokenCount) .invalidArg
  let token ← prompt.foldlM (fun _ byte => decode byte.toNat) 0
  generateTokens decode generatedTokenCount token

end Att1
