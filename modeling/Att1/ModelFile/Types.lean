import Mathlib.Data.List.OfFn
import Att1.Base
import Att1.Lib.Bytes
import Att1.Lib.Checked

/-!
# Att1.ModelFile.Types — a loaded model (`include/att1_model.h`, `att1_shard_meta.h`, `att1_tok_meta.h`)

An array with its element count is a list, so `Model` has no field for `tensor_count` or `shard_meta.count`.  A
pointer into the loaded file is a position in `fileData`, with `none` for NULL.
-/

open Att1.Lib

namespace Att1.ModelFile

/-! ### Constants of the format -/

/-- `ATT1_MODEL_MAGIC`, the text `ATT1MODL`. -/
def modelMagic : List UInt8 := [0x41, 0x54, 0x54, 0x31, 0x4d, 0x4f, 0x44, 0x4c]

/-- `ATT1_MODEL_NAME_SIZE`. -/
def modelNameSize : ℕ := 64

/-- `ATT1_MODEL_MAX_DIMS`. -/
def modelMaxDims : ℕ := 4

/-- `ATT1_MODEL_HEADER_SIZE`. -/
def modelHeaderSize : ℕ := 80

/-- `ATT1_MODEL_HEADER_SIZE_V2`. -/
def modelHeaderSizeV2 : ℕ := 96

/-- `ATT1_MODEL_CONFIG_SIZE`. -/
def modelConfigSize : ℕ := 36

/-- `ATT1_MODEL_TENSOR_DESC_SIZE`. -/
def modelTensorDescSize : ℕ := 128

/-- `ATT1_MODEL_DTYPE_F32`. -/
def dtypeF32 : ℕ := 1

/-- `ATT1_MODEL_DTYPE_Q8`. -/
def dtypeQ8 : ℕ := 2

/-- `ATT1_MODEL_DTYPE_Q4`. -/
def dtypeQ4 : ℕ := 3

/-- `sizeof(float)`. -/
def sizeofFloat : ℕ := 4

/-- `ATT1_Q4_GROUP_SIZE_DEFAULT`. -/
def q4GroupSizeDefault : ℕ := 32

/-- `ATT1_Q4_GROUP_SIZE_MIN`. -/
def q4GroupSizeMin : ℕ := 16

/-- `ATT1_Q4_GROUP_SIZE_MAX`. -/
def q4GroupSizeMax : ℕ := 128

/-- `ATT1_Q4_FLAGS_GROUP_MASK`. -/
def q4FlagsGroupMask : ℕ := 0xFF

/-! ### Data -/

/-- `att1_model_config`. -/
structure ModelConfig where
  vocabSize : ℕ := 0
  nLayers : ℕ := 0
  nHeads : ℕ := 0
  dModel : ℕ := 0
  dFf : ℕ := 0
  maxSeqLen : ℕ := 0
  ropeDim : ℕ := 0
  nTiles : ℕ := 0
  shardCount : ℕ := 0
  deriving DecidableEq, Repr

/-- A numeral indexes the four shape entries of a tensor through this one proof. -/
instance shapeEntries_neZero : NeZero 4 := ⟨Nat.succ_ne_zero 3⟩

/-- `att1_model_tensor`. -/
structure ModelTensor where
  name : List UInt8
  dtype : ℕ
  ndims : ℕ
  shape : Fin 4 → ℕ
  offset : ℕ
  nbytes : ℕ
  shardId : ℕ
  flags : ℕ
  data : Option ℕ

/-- `att1_shard_meta_record`. -/
structure ShardMetaRecord where
  tensorId : ℕ
  tileId : ℕ
  byteOffset : ℕ
  shape : Fin 4 → ℕ
  dtype : ℕ
  quantization : ℕ
  ownerAimu : ℕ
  replicationPolicy : ℕ
  dependencyGraph : Fin 8 → ℕ
  allowedOps : ℕ
  routingRequirements : ℕ
  reductionBehavior : ℕ
  checksum : ℕ

/-- `att1_tok_meta`. -/
structure TokMeta where
  present : Bool := false
  schemaVersion : ℕ := 0
  tokenizerType : ℕ := 0
  vocabSize : ℕ := 0
  bosTokenId : ℤ := 0
  eosTokenId : ℤ := 0
  padTokenId : ℤ := 0
  unkTokenId : ℤ := 0
  byteFallback : ℕ := 0
  normalizationPolicy : ℕ := 0
  pretokenizerPolicy : ℕ := 0
  assetHashKind : ℕ := 0
  flags : ℕ := 0
  assetHash : List UInt8 := []
  assetOffset : ℕ := 0
  assetSize : ℕ := 0

/-- `att1_model`; the default value is the all-zero model. -/
structure Model where
  config : ModelConfig := {}
  tensors : List ModelTensor := []
  fileData : List UInt8 := []
  shardMeta : List ShardMetaRecord := []
  tokMeta : TokMeta := {}

/-! ### Little-endian reads -/

/-- `att1_read_u32le` at `data[off]`. -/
def readU32 (data : List UInt8) (off : ℕ) : ℕ := readLe data off 4

/-- `att1_read_u64le` at `data[off]`. -/
def readU64 (data : List UInt8) (off : ℕ) : ℕ := readLe data off 8

theorem readU32_le (data : List UInt8) (off : ℕ) : readU32 data off ≤ uint32Max := by
  have h := readLe_lt data off 4
  unfold readU32 uint32Max
  omega

theorem readU64_le (data : List UInt8) (off : ℕ) : readU64 data off ≤ sizeMax := by
  have h := readLe_lt data off 8
  unfold readU64 sizeMax
  omega

/-! ### Tensors -/

namespace ModelTensor

variable (t : ModelTensor)

/-- The dimensions in use, `shape[0 .. ndims)`. -/
def dims : List ℕ := (List.ofFn t.shape).take t.ndims

/-- The group size that the flags of a q4 tensor stand for. -/
def q4GroupSize : ℕ :=
  if t.flags &&& q4FlagsGroupMask = 0 then q4GroupSizeDefault else t.flags &&& q4FlagsGroupMask

/-- The test of a q4 group size in the loader: a power of two between the two bounds. -/
def GroupSizeOk : Prop :=
  q4GroupSizeMin ≤ t.q4GroupSize ∧ t.q4GroupSize ≤ q4GroupSizeMax ∧ t.q4GroupSize &&& (t.q4GroupSize - 1) = 0

instance : Decidable t.GroupSizeOk := inferInstanceAs (Decidable (_ ∧ _ ∧ _))

end ModelTensor

end Att1.ModelFile
