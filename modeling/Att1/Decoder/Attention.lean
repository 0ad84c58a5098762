import Att1.Decoder.Kernels
import Att1.Lib.Buffer
import Att1.Lib.Fallible

/-!
# Att1.Decoder.Attention — the KV cache, attention and the transformer block

`src/kv_cache.c`, `src/attention.c` and `src/transformer_block.c`.

The f32, q8 and q4 versions of attention and of the block are copies of one text that differ in the matrix product:
`attentionForward` and `blockForward` take it as a parameter, with the number of outputs and the number of inputs that
the call site gives.  A computation on a cache keeps the cache it reached when it fails.
-/

open Att1.Lib Att1.Lib.Fallible

namespace Att1.Decoder

variable {R : Type}

/-- The bytes of `n` floats, as a `size_t` product. -/
def floatBytes (n : ℕ) : ℕ := sizeT (n * 4)

/-! ### The cache -/

/-- `att1_kv_cache`. -/
structure KvCache (R : Type) where
  maxPositions : ℕ
  numHeads : ℕ
  headDim : ℕ
  length : ℕ
  keys : ℕ → R
  values : ℕ → R

/-- `att1_kv_cache_slot`, as an offset. -/
def kvCacheSlot (headDim numHeads position head : ℕ) : ℕ := (position * numHeads + head) * headDim

namespace KvCache

/-- `att1_kv_cache_init`. -/
def init [Zero R] (host : Host) (maxPositions numHeads headDim : ℕ) : Except Status (KvCache R) := do
  rejectIf (maxPositions = 0 ∨ numHeads = 0 ∨ headDim = 0) .invalidArg
  let vectors ← orFail (mulSize maxPositions numHeads) .invalidArg
  let elements ← orFail (mulSize vectors headDim) .invalidArg
  rejectIf (¬ host.calloc elements 4) .oom
  .ok ⟨maxPositions, numHeads, headDim, 0, fun _ => 0, fun _ => 0⟩

variable (cache : KvCache R)

/-- `att1_kv_cache_append`. -/
def append (key value : ℕ → R) : Option (KvCache R) := do
  guard (cache.length < cache.maxPositions)
  let elements ← mulSize cache.numHeads cache.headDim
  let slot := kvCacheSlot cache.headDim cache.numHeads cache.length 0
  some
    { cache with
      keys := copyInto cache.keys slot key 0 elements
      values := copyInto cache.values slot value 0 elements
      length := cache.length + 1 }

/-- `att1_kv_cache_key`. -/
def key (position head : ℕ) : Option (ℕ → R) :=
  if cache.length ≤ position ∨ cache.numHeads ≤ head then none
  else some fun i => cache.keys (kvCacheSlot cache.headDim cache.numHeads position head + i)

/-- `att1_kv_cache_value`. -/
def value (position head : ℕ) : Option (ℕ → R) :=
  if cache.length ≤ position ∨ cache.numHeads ≤ head then none
  else some fun i => cache.values (kvCacheSlot cache.headDim cache.numHeads position head + i)

end KvCache

/-- A forward pass on a cache. -/
abbrev ForwardM (R α : Type) := Fallible (KvCache R) Unit α

/-- A call that returned -1 ends the pass. -/
def orCleanup {α : Type} (x : Option α) : ForwardM R α := ofExcept (orFail x ())

/-- A matrix product with a matrix, its number of outputs and of inputs, and the vector on its left. -/
abbrev Product (R M : Type) := M → (cols inner : ℕ) → (ℕ → R) → Option (ℕ → R)

variable [Field R] [LinearOrder R]

/-! ### Attention -/

/-- `att1_attention_config`. -/
structure AttentionConfig (R : Type) where
  modelDim : ℕ
  numHeads : ℕ
  headDim : ℕ
  ropeTheta : R

/-- `att1_attention_weights` and its q8 and q4 copies. -/
structure AttentionWeights (M : Type) where
  wq : M
  wk : M
  wv : M
  wo : M

/-- `att1_attention_config_valid`. -/
def AttentionConfig.Valid (config : AttentionConfig R) (cache : KvCache R) : Prop :=
  config.modelDim ≠ 0 ∧ config.numHeads ≠ 0 ∧ config.headDim ≠ 0 ∧ 0 < config.ropeTheta ∧
    sizeT (config.numHeads * config.headDim) = config.modelDim ∧
    cache.numHeads = config.numHeads ∧ cache.headDim = config.headDim

instance (config : AttentionConfig R) (cache : KvCache R) : Decidable (config.Valid cache) :=
  inferInstanceAs (Decidable (_ ∧ _))

section

variable (fns : MathFns R) (ops : BackendOps R)

/-- One of the two rotations of `att1_attention_apply_rope`, over all heads. -/
def ropeHeads (values : ℕ → R) (config : AttentionConfig R) (position : ℕ) : Option (ℕ → R) :=
  blocksM config.numHeads config.headDim fun head =>
    ops.ropeF32 (fun i => values (head * config.headDim + i)) config.headDim position config.ropeTheta

/-- `att1_attention_apply_rope`. -/
def attentionApplyRope (query key : ℕ → R) (config : AttentionConfig R) (position : ℕ) :
    Option ((ℕ → R) × (ℕ → R)) := do
  guard (config.headDim % 2 = 0)
  let query ← ropeHeads ops query config position
  let key ← ropeHeads ops key config position
  some (query, key)

/-- `att1_dot_f32`. -/
def dotF32 (lhs rhs : ℕ → R) (count : ℕ) : R := sumLoop count (fun i => lhs i * rhs i) 0

/-- What one head adds to the context: its scores, their softmax and the weighted values. -/
def contextHead (config : AttentionConfig R) (cache : KvCache R) (query : ℕ → R) (head : ℕ) : Option (ℕ → R) := do
  let invSqrtHeadDim := 1 / fns.sqrt config.headDim
  let qHead := fun i => query (head * config.headDim + i)
  let scores ← arrayM cache.length fun pos => do
    let kHead ← cache.key pos head
    some (dotF32 qHead kHead config.headDim * invSqrtHeadDim)
  let scores ← ops.softmaxF32 scores cache.length
  arrayM config.headDim fun dim =>
    (List.range cache.length).foldlM (fun sum pos => do
      let vHead ← cache.value pos head
      some (sum + scores pos * vHead dim)) 0

/-- `att1_attention_forward_backend` and its q8 and q4 copies. -/
def attentionForward {M : Type} (matmul : Option (Product R M)) (weights : AttentionWeights M)
    (config : AttentionConfig R) (position : ℕ) (input : ℕ → R) : ForwardM R (ℕ → R) := do
  let matmul ← orCleanup matmul
  let cache ← get
  failIf (¬ config.Valid cache) ()
  failIf (position ≠ cache.length) ()
  failIf (¬ (ops.alloc (floatBytes config.modelDim) ∧ ops.alloc (floatBytes (cache.length + 1)))) ()
  let query ← orCleanup (matmul weights.wq config.modelDim config.modelDim input)
  let key ← orCleanup (matmul weights.wk config.modelDim config.modelDim input)
  let value ← orCleanup (matmul weights.wv config.modelDim config.modelDim input)
  let (query, key) ← orCleanup (attentionApplyRope ops query key config position)
  let cache ← orCleanup (cache.append key value)
  set cache
  let context ← orCleanup (blocksM config.numHeads config.headDim (contextHead fns ops config cache query))
  orCleanup (matmul weights.wo config.modelDim config.modelDim context)

end

/-! ### The block -/

/-- `att1_transformer_block_config`. -/
structure BlockConfig (R : Type) where
  modelDim : ℕ
  numHeads : ℕ
  headDim : ℕ
  ffnDim : ℕ
  rmsEpsilon : R
  ropeTheta : R

/-- `att1_transformer_block_weights` and its q8 and q4 copies. -/
structure BlockWeights (R M : Type) where
  attentionNorm : ℕ → R
  ffnNorm : ℕ → R
  wq : M
  wk : M
  wv : M
  wo : M
  wGate : M
  wUp : M
  wDown : M

/-- `att1_block_config_valid`. -/
def BlockConfig.Valid (config : BlockConfig R) (cache : KvCache R) : Prop :=
  config.modelDim ≠ 0 ∧ config.numHeads ≠ 0 ∧ config.headDim ≠ 0 ∧ config.ffnDim ≠ 0 ∧ 0 < config.rmsEpsilon ∧
    0 < config.ropeTheta ∧ sizeT (config.numHeads * config.headDim) = config.modelDim ∧
    cache.numHeads = config.numHeads ∧ cache.headDim = config.headDim

instance (config : BlockConfig R) (cache : KvCache R) : Decidable (config.Valid cache) :=
  inferInstanceAs (Decidable (_ ∧ _))

/-- The `attention_config` of a block. -/
def BlockConfig.attention (config : BlockConfig R) : AttentionConfig R :=
  ⟨config.modelDim, config.numHeads, config.headDim, config.ropeTheta⟩

/-- The `attention_weights` of a block. -/
def BlockWeights.attention {M : Type} (weights : BlockWeights R M) : AttentionWeights M :=
  ⟨weights.wq, weights.wk, weights.wv, weights.wo⟩

/-- `att1_add_f32`. -/
def addF32 (lhs rhs : ℕ → R) (count : ℕ) : ℕ → R := array count fun i => lhs i + rhs i

section

variable (fns : MathFns R) (ops : BackendOps R)

/-- `att1_transformer_block_forward_backend` and its q8 and q4 copies. -/
def blockForward {M : Type} (matmul : Option (Product R M)) (weights : BlockWeights R M) (config : BlockConfig R)
    (position : ℕ) (input : ℕ → R) : ForwardM R (ℕ → R) := do
  let product ← orCleanup matmul
  failIf (¬ config.Valid (← get)) ()
  failIf (¬ (ops.alloc (floatBytes config.modelDim) ∧ ops.alloc (floatBytes config.ffnDim))) ()
  let attentionInput ← orCleanup (ops.rmsnormF32 input weights.attentionNorm config.modelDim config.rmsEpsilon)
  let attentionOutput ← attentionForward fns ops matmul weights.attention config.attention position attentionInput
  let attentionResidual := addF32 input attentionOutput config.modelDim
  let ffnInput ← orCleanup (ops.rmsnormF32 attentionResidual weights.ffnNorm config.modelDim config.rmsEpsilon)
  let ffnGate ← orCleanup (product weights.wGate config.ffnDim config.modelDim ffnInput)
  let ffnUp ← orCleanup (product weights.wUp config.ffnDim config.modelDim ffnInput)
  let ffnHidden ← orCleanup (ops.ffnSwigluF32 ffnGate ffnUp config.ffnDim)
  let ffnOutput ← orCleanup (product weights.wDown config.modelDim config.ffnDim ffnHidden)
  pure (addF32 attentionResidual ffnOutput config.modelDim)

/-- The product of the f32 forward passes: a matrix of `inner` rows and `cols` columns. -/
def productF32 : Option (Product R (ℕ → R)) :=
  ops.matmulF32.map fun matmul rhs cols inner lhs => matmul lhs rhs 1 cols inner

/-- The product of the q8 forward passes, which takes the number of outputs from the matrix. -/
def productQ8 : Option (Product R (Q8Matrix R)) :=
  ops.matmulQ8xf32.map fun matmul weights _ lhsCols lhs => matmul lhs 1 lhsCols weights

/-- `attention_q4_matmul` and `block_q4_matmul`. -/
def productQ4 : Option (Product R (Q4Matrix R)) :=
  some fun weights _ lhsCols lhs =>
    match ops.matmulQ4xf32 with
    | some matmul => matmul lhs 1 lhsCols weights
    | none => matmulQ4xf32 lhs 1 lhsCols weights

/-- `att1_transformer_block_forward_backend`. -/
def transformerBlockForward (weights : BlockWeights R (ℕ → R)) (config : BlockConfig R) (position : ℕ)
    (input : ℕ → R) : ForwardM R (ℕ → R) :=
  blockForward fns ops (productF32 ops) weights config position input

/-- `att1_transformer_block_forward_backend_q8`. -/
def transformerBlockForwardQ8 (weights : BlockWeights R (Q8Matrix R)) (config : BlockConfig R) (position : ℕ)
    (input : ℕ → R) : ForwardM R (ℕ → R) :=
  blockForward fns ops (productQ8 ops) weights config position input

/-- `att1_transformer_block_forward_backend_q4`. -/
def transformerBlockForwardQ4 (weights : BlockWeights R (Q4Matrix R)) (config : BlockConfig R) (position : ℕ)
    (input : ℕ → R) : ForwardM R (ℕ → R) :=
  blockForward fns ops (productQ4 ops) weights config position input

end

end Att1.Decoder
