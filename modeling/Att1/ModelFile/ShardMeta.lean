import Att1.ModelFile.Types

/-!
# Att1.ModelFile.ShardMeta — shard metadata records (`src/shard_meta.c`)

`shardMetaParse` reads one 120-byte record for each tensor descriptor and rejects the section at the first record
that breaks a rule.  A failed parse frees its records, so only the status is left of it.
`shardMetaParse_eq_ok` says which sections are accepted.
-/

open Att1.Lib

namespace Att1.ModelFile

/-- `ATT1_SHARD_META_RECORD_SIZE`, which is also `sizeof(att1_shard_meta_record)`. -/
def shardMetaRecordSize : ℕ := 120

/-- `ATT1_SHARD_TILE_UNASSIGNED`. -/
def shardTileUnassigned : ℕ := 0xFFFFFFFF

/-- `shard_dtype_valid`: `ATT1_SHARD_DTYPE_F32` or `ATT1_SHARD_DTYPE_Q8`. -/
def shardDtypeValid (dtype : ℕ) : Bool := dtype == 1 || dtype == 2

/-- `shard_quant_valid`: `NONE` or `PER_ROW_Q8`. -/
def shardQuantValid (quant : ℕ) : Bool := quant == 0 || quant == 1

/-- `shard_repl_valid`: `NONE`, `READ` or `WRITE_BCAST`. -/
def shardReplValid (repl : ℕ) : Bool := repl == 0 || repl == 1 || repl == 2

/-- `shard_reduce_valid`: `NONE`, `SUM`, `MAX` or `CONCAT`. -/
def shardReduceValid (reduce : ℕ) : Bool := reduce == 0 || reduce == 1 || reduce == 2 || reduce == 3

/-- The record whose wire form starts at `p`. -/
def shardMetaRecordAt (sectionData : List UInt8) (p : ℕ) : ShardMetaRecord where
  tensorId := readU32 sectionData (p + 0)
  tileId := readU32 sectionData (p + 4)
  byteOffset := readU64 sectionData (p + 8)
  shape j := readU64 sectionData (p + (16 + j * 8))
  dtype := readU32 sectionData (p + 48)
  quantization := readU32 sectionData (p + 52)
  ownerAimu := readU32 sectionData (p + 56)
  replicationPolicy := readU32 sectionData (p + 60)
  dependencyGraph j := readU32 sectionData (p + (64 + j * 4))
  allowedOps := readU32 sectionData (p + 96)
  routingRequirements := readU32 sectionData (p + 100)
  reductionBehavior := readU32 sectionData (p + 104)
  checksum := readU64 sectionData (p + 112)

/-- The `_reserved` field, which is checked but not stored. -/
def shardMetaReservedAt (sectionData : List UInt8) (p : ℕ) : ℕ := readU32 sectionData (p + 108)

/-- One turn of the record loop: the record of tensor `i`. -/
def shardMetaRecord (sectionData : List UInt8) (i : ℕ) (tensor : ModelTensor) : Except Status ShardMetaRecord := do
  let p := i * shardMetaRecordSize
  let record := shardMetaRecordAt sectionData p
  rejectIf (record.tensorId ≠ uint32 i) .badFormat
  rejectIf (shardMetaReservedAt sectionData p ≠ 0) .badFormat
  rejectIf (¬ shardDtypeValid record.dtype) .badFormat
  rejectIf (¬ shardQuantValid record.quantization) .badFormat
  rejectIf (¬ shardReplValid record.replicationPolicy) .badFormat
  rejectIf (¬ shardReduceValid record.reductionBehavior) .badFormat
  rejectIf (∃ d, record.shape d ≠ tensor.shape d) .badFormat
  .ok record

/-- `att1_shard_meta_parse`. -/
def shardMetaParse (host : Host) (sectionData : List UInt8) (sectionSize : ℕ) (tensors : List ModelTensor) :
    Except Status (List ShardMetaRecord) := do
  rejectIf (sectionSize % shardMetaRecordSize ≠ 0) .badFormat
  rejectIf (sectionSize / shardMetaRecordSize ≠ tensors.length) .badFormat
  if tensors.length = 0 then .ok []
  else
    rejectIf (sizeMax / shardMetaRecordSize < tensors.length) .oom
    rejectIf (¬ host.calloc tensors.length shardMetaRecordSize) .oom
    tensors.zipIdx.mapM fun (tensor, i) => shardMetaRecord sectionData i tensor

/-! ### What is accepted -/

/-- The rules for the record of tensor `i`. -/
structure ShardRecordOk (sectionData : List UInt8) (i : ℕ) (tensor : ModelTensor) (record : ShardMetaRecord) :
    Prop where
  read : record = shardMetaRecordAt sectionData (i * shardMetaRecordSize)
  reserved : shardMetaReservedAt sectionData (i * shardMetaRecordSize) = 0
  tensorId : record.tensorId = uint32 i
  dtype : shardDtypeValid record.dtype
  quantization : shardQuantValid record.quantization
  replicationPolicy : shardReplValid record.replicationPolicy
  reductionBehavior : shardReduceValid record.reductionBehavior
  shape : record.shape = tensor.shape

theorem shardMetaRecord_eq_ok {sectionData : List UInt8} {i : ℕ} {tensor : ModelTensor} {record : ShardMetaRecord} :
    shardMetaRecord sectionData i tensor = .ok record ↔ ShardRecordOk sectionData i tensor record := by
  unfold shardMetaRecord
  simp only [rejectIf_bind_eq_ok, not_not, not_exists, Except.ok.injEq]
  constructor
  · rintro ⟨hid, hres, hdt, hq, hrepl, hred, hshape, rfl⟩
    exact ⟨rfl, hres, hid, hdt, hq, hrepl, hred, funext hshape⟩
  · rintro ⟨rfl, hres, hid, hdt, hq, hrepl, hred, hshape⟩
    exact ⟨hid, hres, hdt, hq, hrepl, hred, congrFun hshape, rfl⟩

/-- **The accepted sections**: one lawful record for each tensor, in order. -/
theorem shardMetaParse_eq_ok {host : Host} {sectionData : List UInt8} {sectionSize : ℕ}
    {tensors : List ModelTensor} {records : List ShardMetaRecord} (hne : tensors ≠ []) :
    shardMetaParse host sectionData sectionSize tensors = .ok records ↔
      sectionSize = tensors.length * shardMetaRecordSize ∧ host.calloc tensors.length shardMetaRecordSize ∧
        List.Forall₂ (fun x record => ShardRecordOk sectionData x.2 x.1 record) tensors.zipIdx records := by
  have hlen : tensors.length ≠ 0 := fun h => hne (List.length_eq_zero_iff.mp h)
  have hsize : sectionSize % shardMetaRecordSize = 0 ∧ sectionSize / shardMetaRecordSize = tensors.length ↔
      sectionSize = tensors.length * shardMetaRecordSize := by
    unfold shardMetaRecordSize
    omega
  unfold shardMetaParse
  rw [if_neg hlen]
  simp only [rejectIf_bind_eq_ok, not_not, mapM_eq_ok, shardMetaRecord_eq_ok]
  rw [← and_assoc, hsize]
  refine and_congr_right fun _ => ⟨fun h => h.2, fun h => ⟨?_, h⟩⟩
  -- a granted block fits, so the size test in front of the allocation cannot have failed
  have hfits := host.calloc_fits _ _ h.1
  rw [Nat.not_lt, Nat.le_div_iff_mul_le (by decide)]
  exact hfits

end Att1.ModelFile
