import Mathlib.Algebra.Order.Ring.Rat
import Att1.Fabric.Model
import Att1.Lib.Fallible
import Att1.ModelFile.View
import Att1.Shard.Model

/-!
# Att1.Cluster.Model — decoding over several tiles (`src/cluster_infer.c`)

* `ClusterInfer`: the inference context, with the fabric it owns; `create`, `createQ4`, `setBackend`.
* `decodeToken`: one token, carried from the host through every tile and back by the fabric.

What the numeric code does (blocks, norms, matrix products, the sampler, quantization) is a parameter of every call
(`Kernels`, `Quantizer`): it may return anything and fail anywhere.  A float array is the bytes it occupies, and a
cache of keys and values is of a type `K` of its own.  The trace, which nothing is read from, is left out.
-/

open Att1.Lib Att1.Lib.Fallible Att1.ModelFile

namespace Att1

/-! ### Backends -/

/-- The entries of `att1_backend_ops` that are tested for NULL. -/
inductive BackendOp
  | alloc
  | free
  | sync
  | matmulQ8xf32
  | rmsnormF32
  | softmaxF32
  | ropeF32
  | ffnSwigluF32
  deriving DecidableEq, Repr

/-- `att1_backend`: the name of its operations and which of them are there. -/
structure Backend where
  name : Option String
  has : BackendOp → Bool

namespace Backend

variable (b : Backend)

/-- `cluster_backend_is_q8`. -/
def isQ8 : Bool := b.name == some "cpu-q8" || b.name == some "cuda-q8"

/-- `cluster_backend_supports_q8`. -/
def supportsQ8 : Bool :=
  b.isQ8 && b.has .alloc && b.has .free && b.has .matmulQ8xf32 && b.has .rmsnormF32 && b.has .softmaxF32 &&
    b.has .ropeF32 && b.has .ffnSwigluF32

/-- `cluster_backend_is_q4`. -/
def isQ4 : Bool := b.name == some "cpu-q4" || b.name == some "cuda-q4"

/-- `cluster_backend_supports_q4`. -/
def supportsQ4 : Bool :=
  b.isQ4 && b.has .alloc && b.has .free && b.has .rmsnormF32 && b.has .softmaxF32 && b.has .ropeF32 &&
    b.has .ffnSwigluF32

end Backend

/-! ### Data -/

/-- `att1_transformer_block_config`. -/
structure TransformerBlockConfig where
  modelDim : ℕ
  numHeads : ℕ
  headDim : ℕ
  ffnDim : ℕ
  rmsEpsilon : ℚ
  ropeTheta : ℚ

/-- `att1_cluster_q8_layer` and `att1_cluster_q4_layer`: two norms and seven quantized matrices. -/
structure QuantLayer (M : Type) where
  attentionNorm : Option ℕ
  ffnNorm : Option ℕ
  wq : M
  wk : M
  wv : M
  wo : M
  wGate : M
  wUp : M
  wDown : M
  deriving Inhabited

/-- The quantized weights of a context, once they are ready. -/
structure QuantModel (M : Type) where
  layers : ℕ → QuantLayer M
  outputNorm : Option ℕ
  outputWeight : M

/-- The weights of one layer as a forward pass takes them. -/
inductive BlockWeights
  | f32 (w : TransformerBlockWeights)
  | q8 (w : QuantLayer Q8Matrix)
  | q4 (w : QuantLayer Q4Matrix)

/-- The output matrix as the last product takes it. -/
inductive OutputWeight
  | f32 (w : Option ℕ)
  | q8 (w : Q8Matrix)
  | q4 (w : Q4Matrix)

/-- `att1_cluster_tile_counters`. -/
structure ClusterTileCounters where
  activationsReceived : UInt64 := 0
  activationsSent : UInt64 := 0
  layersRun : UInt64 := 0
  logitsSent : UInt64 := 0
  layerStart : ℕ := 0
  layerEnd : ℕ := 0

/-- `att1_shard_plan_mode`. -/
inductive ShardPlanMode
  | runtime
  | metadata
  deriving DecidableEq, Repr

/-- `att1_cluster_infer_config`. -/
structure ClusterInferConfig where
  tileCount : ℕ
  fabricQueueCapacity : ℕ := 0
  fabricMaxPayloadBytes : ℕ := 0
  shardPlanMode : ShardPlanMode := .runtime

/-- `att1_cluster_infer`; the quantized weights are there where their `ready` flag is set. -/
structure ClusterInfer (K : Type) where
  model : Model
  shardPlan : ShardPlan
  fabric : Fabric
  hostTileId : ℕ
  layerKv : ℕ → K
  hidden : ℕ → UInt8
  nextHidden : ℕ → UInt8
  norm : ℕ → UInt8
  logits : ℕ → UInt8
  backend : Backend
  q8 : Option (QuantModel Q8Matrix)
  q4 : Option (QuantModel Q4Matrix)
  tileCounters : ℕ → ClusterTileCounters
  position : ℕ

/-- What a block forward pass leaves and whether it returned 0. -/
structure BlockResult (K : Type) where
  kv : K
  nextHidden : ℕ → UInt8
  ok : Bool

/-- What the numeric calls of one decode do with the memory they are given. -/
structure Kernels (K : Type) where
  blockForward : BlockWeights → TransformerBlockConfig → ℕ → K → (ℕ → UInt8) → BlockResult K
  rmsnormF32 : (ℕ → UInt8) → Option ℕ → ℕ → ℚ → (ℕ → UInt8) × Bool
  matmul : OutputWeight → (ℕ → UInt8) → ℕ → ℕ → (ℕ → UInt8) × Bool
  sync : Bool
  samplerGreedyF32 : (ℕ → UInt8) → ℕ → Option ℕ

/-- What `cluster_quantize_transposed` does in one call: the matrix it allocates, if it succeeds. -/
abbrev Quantizer := Option ℕ → ℕ → ℕ → Option Q8Matrix

/-- A call on a context. -/
abbrev ClusterM (K α : Type) := Fallible (ClusterInfer K) Status α

/-- The bytes of a received payload stored at the start of an array. -/
def storePayload (buffer : ℕ → UInt8) (payload : List UInt8) : ℕ → UInt8 := fun i => payload.getD i (buffer i)

/-! ### Quantized weights -/

/-- The macro `LOAD_Q8`. -/
def layerTensorQ8 (model : Model) (layer : ℕ) (suffix : String) (rows cols : ℕ) : Except Status Q8Matrix := do
  let name ← layerName layer (ascii suffix)
  viewTensorQ8 model name rows cols

/-- `cluster_load_file_q8_layer`, and the same loop body of `cluster_prepare_q4`. -/
def loadQuantLayer {M : Type} (tensor : ℕ → String → ℕ → ℕ → Except Status M) (model : Model) (layer : ℕ) :
    Except Status (QuantLayer M) := do
  let dModel := model.config.dModel
  let dFf := model.config.dFf
  let attentionNorm ← layerTensorF32 model layer "attention_norm.weight" 1 dModel 1
  let wq ← tensor layer "attention.wq.weight" dModel dModel
  let wk ← tensor layer "attention.wk.weight" dModel dModel
  let wv ← tensor layer "attention.wv.weight" dModel dModel
  let wo ← tensor layer "attention.wo.weight" dModel dModel
  let ffnNorm ← layerTensorF32 model layer "ffn_norm.weight" 1 dModel 1
  let wGate ← tensor layer "ffn.w_gate.weight" dFf dModel
  let wUp ← tensor layer "ffn.w_up.weight" dFf dModel
  let wDown ← tensor layer "ffn.w_down.weight" dModel dFf
  .ok ⟨attentionNorm, ffnNorm, wq, wk, wv, wo, wGate, wUp, wDown⟩

/-- `sizeof(att1_cluster_q8_layer)`. -/
def clusterQ8LayerSize : ℕ := 240

/-- `sizeof(att1_cluster_q4_layer)`. -/
def clusterQ4LayerSize : ℕ := 296

/-- `cluster_prepare_file_q8`. -/
def prepareFileQ8 (host : Host) (model : Model) : Except Status (QuantModel Q8Matrix) := do
  rejectIf (¬ host.calloc model.config.nLayers clusterQ8LayerSize) .oom
  let layers ← (List.range model.config.nLayers).mapM (loadQuantLayer (layerTensorQ8 model) model)
  let outputNorm ← viewOutputNorm model
  let outputWeight ← viewTensorQ8 model (ascii "output.weight") model.config.vocabSize model.config.dModel
  .ok ⟨fun layer => layers.getD layer default, outputNorm, outputWeight⟩

/-- One turn of the layer loop of `cluster_prepare_runtime_q8`. -/
def quantizeLayer (quantize : Quantizer) (model : Model) (layer : ℕ) : Except Status (QuantLayer Q8Matrix) := do
  let dModel := model.config.dModel
  let dFf := model.config.dFf
  let weights ← viewLoadLayerWeights model layer
  let wq ← orFail (quantize weights.wq dModel dModel) .oom
  let wk ← orFail (quantize weights.wk dModel dModel) .oom
  let wv ← orFail (quantize weights.wv dModel dModel) .oom
  let wo ← orFail (quantize weights.wo dModel dModel) .oom
  let wGate ← orFail (quantize weights.wGate dModel dFf) .oom
  let wUp ← orFail (quantize weights.wUp dModel dFf) .oom
  let wDown ← orFail (quantize weights.wDown dFf dModel) .oom
  .ok ⟨weights.attentionNorm, weights.ffnNorm, wq, wk, wv, wo, wGate, wUp, wDown⟩

/-- `cluster_prepare_runtime_q8`. -/
def prepareRuntimeQ8 (host : Host) (quantize : Quantizer) (model : Model) :
    Except Status (QuantModel Q8Matrix) := do
  rejectIf (¬ host.calloc model.config.nLayers clusterQ8LayerSize) .oom
  let layers ← (List.range model.config.nLayers).mapM (quantizeLayer quantize model)
  let outputNorm ← viewOutputNorm model
  let outputWeight ← viewOutputWeight model
  let quantized ← orFail (quantize outputWeight model.config.dModel model.config.vocabSize) .oom
  .ok ⟨fun layer => layers.getD layer default, outputNorm, quantized⟩

/-- `cluster_model_has_file_q8`. -/
def hasFileQ8 (model : Model) : Bool :=
  (findTensor model (ascii "output.weight")).any fun tensor => tensor.dtype == dtypeQ8

namespace ClusterInfer

variable {K : Type}

/-- `cluster_prepare_q8`. -/
def prepareQ8 (host : Host) (quantize : Quantizer) : ClusterM K Unit := do
  let infer ← get
  if infer.q8.isSome then pure ()
  else
    let q8 ← ofExcept
      (if hasFileQ8 infer.model then prepareFileQ8 host infer.model else prepareRuntimeQ8 host quantize infer.model)
    modify fun infer => { infer with q8 := some q8 }

/-- `cluster_prepare_q4`, on the model. -/
def loadQ4 (host : Host) (model : Model) : Except Status (QuantModel Q4Matrix) := do
  rejectIf (¬ host.calloc model.config.nLayers clusterQ4LayerSize) .oom
  let layers ← (List.range model.config.nLayers).mapM (loadQuantLayer (layerTensorQ4 model) model)
  let outputNorm ← viewOutputNorm model
  let outputWeight ← viewTensorQ4 model (ascii "output.weight") model.config.vocabSize model.config.dModel
  .ok ⟨fun layer => layers.getD layer default, outputNorm, outputWeight⟩

/-- `cluster_prepare_q4`. -/
def prepareQ4 (host : Host) : ClusterM K Unit := do
  let infer ← get
  if infer.q4.isSome then pure ()
  else
    let q4 ← ofExcept (loadQ4 host infer.model)
    modify fun infer => { infer with q4 := some q4 }

/-! ### Creation -/

/-- `sizeof(att1_cluster_infer)`. -/
def inferSize : ℕ := 392

/-- `sizeof(att1_kv_cache)`. -/
def kvCacheSize : ℕ := 48

/-- `sizeof(att1_cluster_tile_counters)`. -/
def tileCountersSize : ℕ := 40

/-- The fabric that a context asks for: one endpoint for each tile and one for the host. -/
def fabricConfig (model : ModelConfig) (config : ClusterInferConfig) : Except Status FabricBusConfig := do
  rejectIf (config.tileCount = 0 ∨ uint32Max - 1 < config.tileCount) .invalidArg
  let queueCapacity := if config.fabricQueueCapacity ≠ 0 then config.fabricQueueCapacity else 4
  let requiredPayloadBytes :=
    if model.dModel < model.vocabSize then sizeT (model.vocabSize * sizeofFloat) else sizeT (model.dModel * sizeofFloat)
  let maxPayloadBytes :=
    if config.fabricMaxPayloadBytes ≠ 0 then config.fabricMaxPayloadBytes else requiredPayloadBytes
  rejectIf (maxPayloadBytes < requiredPayloadBytes) .invalidArg
  .ok ⟨sizeT (config.tileCount + 1), queueCapacity, maxPayloadBytes⟩

/-- The part of both constructors from the fabric on; `kvInit` is `att1_kv_cache_init` on the cache of a layer. -/
def build [Inhabited K] (host : Host) (kvInit : ℕ → ℕ → ℕ → ℕ → Option K) (backend : Except Status Backend)
    (model : Model) (tileCount : ℕ) (bus : FabricBusConfig) (plan : ShardPlan) : Except Status (ClusterInfer K) := do
  let config := model.config
  let fabric ← Fabric.create host bus
  let backend ← backend
  rejectIf
    (¬ (host.calloc config.nLayers kvCacheSize ∧ host.calloc config.dModel sizeofFloat ∧
      host.calloc config.vocabSize sizeofFloat ∧ host.calloc tileCount tileCountersSize)) .oom
  let layerKv ← (List.range config.nLayers).mapM fun layer =>
    orFail (kvInit layer config.maxSeqLen config.nHeads (config.dModel / config.nHeads)) .oom
  .ok
    { model := model
      shardPlan := plan
      fabric := fabric
      hostTileId := uint32 tileCount
      layerKv := fun layer => layerKv.getD layer default
      hidden := fun _ => 0
      nextHidden := fun _ => 0
      norm := fun _ => 0
      logits := fun _ => 0
      backend := backend
      q8 := none
      q4 := none
      tileCounters := fun tile =>
        { layerStart := (plan.tiles tile).layerStart, layerEnd := (plan.tiles tile).layerEnd }
      position := 0 }

/-- The plan of `att1_cluster_infer_create`. -/
def createPlan (host : Host) (model : Model) (config : ClusterInferConfig) : Except Status ShardPlan :=
  match config.shardPlanMode with
  | .metadata => do
    rejectIf (model.shardMeta.length = 0) .invalidArg
    let proposed ← metaPlanBuild host model
    shardPlanFromMeta host proposed model.config.nLayers config.tileCount
  | .runtime => shardPlanBuild host model.config config.tileCount

/-- `att1_cluster_infer_create`; `backend` is what `att1_backend_default_create` returns. -/
def create [Inhabited K] (host : Host) (kvInit : ℕ → ℕ → ℕ → ℕ → Option K) (backend : Except Status Backend)
    (model : Model) (config : ClusterInferConfig) : Except Status (ClusterInfer K) := do
  viewValidateDecoder model
  let bus ← fabricConfig model.config config
  rejectIf (¬ host.calloc 1 inferSize) .oom
  let plan ← createPlan host model config
  build host kvInit backend model config.tileCount bus plan

/-- `att1_cluster_infer_create_q4`; `backend` is what `att1_backend_cpu_q4_create` returns. -/
def createQ4 [Inhabited K] (host : Host) (kvInit : ℕ → ℕ → ℕ → ℕ → Option K) (backend : Except Status Backend)
    (model : Model) (config : ClusterInferConfig) : Except Status (ClusterInfer K) := do
  viewValidateDecoderQ4 model
  rejectIf (config.tileCount = 0 ∨ uint32Max - 1 < config.tileCount) .invalidArg
  rejectIf (config.shardPlanMode = .metadata) .unsupported
  let bus ← fabricConfig model.config config
  rejectIf (¬ host.calloc 1 inferSize) .oom
  let plan ← shardPlanBuild host model.config config.tileCount
  let infer ← build host kvInit backend model config.tileCount bus plan
  let q4 ← loadQ4 host model
  .ok { infer with q4 := some q4 }

/-- `att1_cluster_infer_set_backend`; `none` is a null backend, or one without operations. -/
def setBackend (host : Host) (quantize : Quantizer) : Option Backend → ClusterM K Unit
  | none => throw .invalidArg
  | some backend => do
    if backend.isQ4 then
      failIf (¬ backend.supportsQ4) .unsupported
      prepareQ4 host
    else if backend.isQ8 then
      failIf (¬ backend.supportsQ8) .unsupported
      prepareQ8 host quantize
    modify fun infer => { infer with backend := backend }

/-! ### Decoding -/

/-- The two inner loops of `cluster_plan_complete` for one tile. -/
def markLayers (plan : ShardPlan) (seen : ℕ → Bool) (tile : ℕ) : Option (ℕ → Bool) :=
  let shard := plan.tiles tile
  if shard.tileId ≠ tile ∨ shard.layerEnd < shard.layerStart ∨ plan.layerCount < shard.layerEnd then none
  else
    (List.range' shard.layerStart (shard.layerEnd - shard.layerStart)).foldlM
      (fun seen layer =>
        if seen layer ∨ plan.layerToTile layer ≠ tile then none else some (Function.update seen layer true))
      seen

/-- `cluster_plan_complete`. -/
def planComplete (infer : ClusterInfer K) (host : Host) : Bool :=
  let plan := infer.shardPlan
  if plan.tileCount = 0 ∨ plan.layerCount ≠ infer.model.config.nLayers then false
  else if ¬ host.calloc plan.layerCount 1 then false
  else
    match (List.range plan.tileCount).foldlM (markLayers plan) (fun _ => false) with
    | none => false
    | some seen => (List.range plan.layerCount).all seen

/-- A send on the fabric of the context; the tag is the position. -/
def sendPayload (source target : ℕ) (type : PacketType) (payload : ClusterInfer K → ℕ → UInt8) (payloadBytes : ℕ) :
    ClusterM K Unit := do
  let infer ← get
  let r := infer.fabric.send source target type (some (payload infer)) payloadBytes infer.position
  set { infer with fabric := r.1 }
  failIf (r.2 ≠ .ok) r.2

/-- `receive_payload`; `store` puts the payload where it belongs. -/
def receivePayload (tile : ℕ) (type : PacketType) (payloadBytes : ℕ)
    (store : ClusterInfer K → List UInt8 → ClusterInfer K) : ClusterM K Unit := do
  let infer ← get
  let r := infer.fabric.receive tile true true payloadBytes
  set { infer with fabric := r.1 }
  match r.2 with
  | (.ok, some delivery) =>
    modify fun infer => store infer delivery.payload
    failIf (delivery.packet.type ≠ type ∨ delivery.packet.payloadBytes ≠ payloadBytes) .badFormat
  | (status, _) => throw status

def storeHidden (infer : ClusterInfer K) (payload : List UInt8) : ClusterInfer K :=
  { infer with hidden := storePayload infer.hidden payload }

def storeLogits (infer : ClusterInfer K) (payload : List UInt8) : ClusterInfer K :=
  { infer with logits := storePayload infer.logits payload }

def countTile (infer : ClusterInfer K) (tile : ℕ) (count : ClusterTileCounters → ClusterTileCounters) :
    ClusterInfer K :=
  { infer with tileCounters := Function.update infer.tileCounters tile (count (infer.tileCounters tile)) }

/-- The copy of the embedding of a token into `hidden`. -/
def embedToken (infer : ClusterInfer K) (embedding : Option ℕ) (tokenId : ℕ) : ClusterInfer K :=
  let dModel := infer.model.config.dModel
  let start := embedding.getD 0 + sizeT (tokenId * dModel) * sizeofFloat
  { infer with
    hidden := copyInto infer.hidden 0 (fun i => infer.model.fileData.getD i 0) start (dModel * sizeofFloat) }

/-- The norm and the matrix that the last step of a decode uses, by the backend. -/
def outputWeights (infer : ClusterInfer K) : Except Status (Option ℕ × OutputWeight) := do
  let outputNorm ← viewOutputNorm infer.model
  if infer.backend.isQ4 then
    match infer.q4 with
    | none => .error .state
    | some q4 => if ¬ infer.backend.supportsQ4 then .error .state else .ok (q4.outputNorm, .q4 q4.outputWeight)
  else if infer.backend.isQ8 then
    match infer.q8 with
    | none => .error .state
    | some q8 => if ¬ infer.backend.supportsQ8 then .error .state else .ok (q8.outputNorm, .q8 q8.outputWeight)
  else do
    let outputWeight ← viewOutputWeight infer.model
    .ok (outputNorm, .f32 outputWeight)

/-- The weights of a layer, by the backend. -/
def layerWeights (infer : ClusterInfer K) (layer : ℕ) : Except Status BlockWeights :=
  if infer.backend.isQ4 then
    match infer.q4 with
    | none => .error .state
    | some q4 => .ok (.q4 (q4.layers layer))
  else if infer.backend.isQ8 then
    match infer.q8 with
    | none => .error .state
    | some q8 => .ok (.q8 (q8.layers layer))
  else (viewLoadLayerWeights infer.model layer).map .f32

def dModelBytes (infer : ClusterInfer K) : ℕ := sizeT (infer.model.config.dModel * sizeofFloat)

def logitsBytes (infer : ClusterInfer K) : ℕ := sizeT (infer.model.config.vocabSize * sizeofFloat)

def rmsEpsilon : ℚ := 1 / 1000000

def blockConfig (infer : ClusterInfer K) : TransformerBlockConfig where
  modelDim := infer.model.config.dModel
  numHeads := infer.model.config.nHeads
  headDim := infer.model.config.dModel / infer.model.config.nHeads
  ffnDim := infer.model.config.dFf
  rmsEpsilon := rmsEpsilon
  ropeTheta := 10000

/-- One turn of the layer loop. -/
def runLayer (kernels : Kernels K) (tile layer : ℕ) : ClusterM K Unit := do
  let infer ← get
  let weights ← ofExcept (infer.layerWeights layer)
  let r := kernels.blockForward weights infer.blockConfig infer.position (infer.layerKv layer) infer.hidden
  set { infer with layerKv := Function.update infer.layerKv layer r.kv, nextHidden := r.nextHidden }
  failIf (r.ok = false) .state
  modify fun infer =>
    { infer with hidden := copyInto infer.hidden 0 infer.nextHidden 0 infer.dModelBytes }.countTile tile
      fun c => { c with layersRun := c.layersRun + 1 }

/-- What the last tile does after its layers, up to the logits. -/
def runOutput (kernels : Kernels K) (outputNorm : Option ℕ) (outputWeight : OutputWeight) : ClusterM K Unit := do
  let infer ← get
  let config := infer.model.config
  let normed := kernels.rmsnormF32 infer.hidden outputNorm config.dModel rmsEpsilon
  set { infer with norm := normed.1 }
  failIf (normed.2 = false) .state
  let product := kernels.matmul outputWeight normed.1 config.vocabSize config.dModel
  modify fun infer => { infer with logits := product.1 }
  failIf (product.2 = false) .state
  failIf (infer.backend.has .sync ∧ kernels.sync = false) .state

/-- One turn of the tile loop. -/
def runTile (kernels : Kernels K) (outputNorm : Option ℕ) (outputWeight : OutputWeight) (tile : ℕ) :
    ClusterM K Unit := do
  let infer ← get
  receivePayload (uint32 tile) .activation infer.dModelBytes storeHidden
  modify fun infer => infer.countTile tile fun c => { c with activationsReceived := c.activationsReceived + 1 }
  let shard := infer.shardPlan.tiles tile
  (List.range' shard.layerStart (shard.layerEnd - shard.layerStart)).forM (runLayer kernels tile)
  if tile + 1 < infer.shardPlan.tileCount then
    sendPayload (uint32 tile) (uint32 (tile + 1)) .activation hidden infer.dModelBytes
    modify fun infer => infer.countTile tile fun c => { c with activationsSent := c.activationsSent + 1 }
  else
    runOutput kernels outputNorm outputWeight
    sendPayload (uint32 tile) infer.hostTileId .logits logits infer.logitsBytes
    modify fun infer => infer.countTile tile fun c => { c with logitsSent := c.logitsSent + 1 }

/-- `att1_cluster_infer_decode_token`, with the token it stores. -/
def decodeToken (host : Host) (kernels : Kernels K) (tokenId : ℕ) : ClusterM K ℕ := do
  let infer ← get
  let config := infer.model.config
  failIf (config.vocabSize ≤ tokenId ∨ config.maxSeqLen ≤ infer.position) .invalidArg
  failIf (¬ infer.planComplete host) .state
  let embedding ← ofExcept (viewTokenEmbedding infer.model)
  let output ← ofExcept infer.outputWeights
  modify fun infer => infer.embedToken embedding tokenId
  sendPayload infer.hostTileId 0 .activation hidden infer.dModelBytes
  (List.range infer.shardPlan.tileCount).forM (runTile kernels output.1 output.2)
  receivePayload infer.hostTileId .logits infer.logitsBytes storeLogits
  let infer ← get
  match kernels.samplerGreedyF32 infer.logits config.vocabSize with
  | none => throw .state
  | some token =>
    modify fun infer => { infer with position := sizeT (infer.position + 1) }
    pure token

end ClusterInfer

end Att1
