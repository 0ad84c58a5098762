import Att1.Converter.Load

/-!
# Att1.Converter.Formats — which tensors a weight format quantizes, and which shard records are accepted

* `plannedDtype`: the dtype of a tensor in a weight format; `buildTensors_getElem?`.
* `Built.loadShardMeta_iff`: the shard records are accepted where no tensor is q4.
-/

open Att1.Lib Att1.ModelFile

namespace Att1.Converter

/-! ### Dtypes -/

/-- The dtype of a tensor with the given name and shape in the plan. -/
def plannedDtype (format : WeightFormat) (name : List UInt8) (shape : List ℕ) : ℕ :=
  match format with
  | .f32 => dtypeF32
  | .q8 => if isQ8Eligible name shape then dtypeQ8 else dtypeF32
  | .q4 => if isQ4Eligible name shape q4GroupSizeDefault then dtypeQ4 else dtypeF32

section Dtypes

variable {F : Type} {ops : Floats F} {att1 : Att1Dict} {tensors : List PyTensor}

theorem buildRealF32Tensors_getElem? {values : ℕ → List F} (h : buildRealF32Tensors ops att1 values = .ok tensors)
    {i : ℕ} {entry : List UInt8 × List ℕ} (hi : (tensorNamePlan att1)[i]? = some entry) :
    ∃ t, tensors[i]? = some t ∧ tensorFromValues ops entry.1 entry.2 (values i) = .ok t := by
  obtain ⟨-, hall⟩ := getElem?_of_mapM h
  exact hall i (entry, i) (by rw [List.getElem?_zipIdx, hi]; simp)

/-- The tensor at one place of the plan has the dtype of the format. -/
theorem buildTensors_getElem? {source : TensorSource F} (h : buildTensors ops att1 source = .ok tensors) {i : ℕ}
    {entry : List UInt8 × List ℕ} (hi : (tensorNamePlan att1)[i]? = some entry) :
    ∃ t, tensors[i]? = some t ∧ t.dtype = plannedDtype source.format entry.1 entry.2 ∧ DefaultForm t := by
  match source with
  | .synthetic =>
    obtain ⟨-, hall⟩ := getElem?_of_mapM h
    obtain ⟨t, ht, hmake⟩ := hall i (entry, i) (by rw [List.getElem?_zipIdx, hi]; simp)
    exact ⟨t, ht, (makeTensor_form hmake).2.2.1, (Constructed.synthetic hmake).form⟩
  | .real .f32 values =>
    obtain ⟨t, ht, hmake⟩ := buildRealF32Tensors_getElem? h hi
    exact ⟨t, ht, (tensorFromValues_form hmake).2.2.1, (Constructed.f32 hmake).form⟩
  | .real .q8 values =>
    obtain ⟨f32Tensors, hf32, h⟩ := bind_eq_ok.mp h
    obtain ⟨t, ht, hmake⟩ := buildRealF32Tensors_getElem? hf32 hi
    obtain ⟨hname, hshape, hdtype, -⟩ := tensorFromValues_form hmake
    obtain ⟨u, hu, hquant⟩ := (getElem?_of_mapM h).2 i t ht
    rw [hname, hshape] at hquant
    show ∃ u, tensors[i]? = some u ∧ u.dtype = (if isQ8Eligible entry.1 entry.2 then dtypeQ8 else dtypeF32) ∧
      DefaultForm u
    by_cases helig : isQ8Eligible entry.1 entry.2 = true
    · rw [if_pos helig] at hquant ⊢
      exact ⟨u, hu, (makeQ8TensorFromF32_form hquant).2.1, (Constructed.q8 hquant).form⟩
    · rw [if_neg helig] at hquant ⊢
      cases hquant
      exact ⟨t, hu, hdtype, (Constructed.f32 hmake).form⟩
  | .real .q4 values =>
    obtain ⟨f32Tensors, hf32, h⟩ := bind_eq_ok.mp h
    obtain ⟨t, ht, hmake⟩ := buildRealF32Tensors_getElem? hf32 hi
    obtain ⟨hname, hshape, hdtype, -⟩ := tensorFromValues_form hmake
    obtain ⟨u, hu, hquant⟩ := (getElem?_of_mapM h).2 i t ht
    rw [hname, hshape] at hquant
    show ∃ u, tensors[i]? = some u ∧
      u.dtype = (if isQ4Eligible entry.1 entry.2 q4GroupSizeDefault then dtypeQ4 else dtypeF32) ∧ DefaultForm u
    by_cases helig : isQ4Eligible entry.1 entry.2 q4GroupSizeDefault = true
    · rw [if_pos helig] at hquant ⊢
      exact ⟨u, hu, (makeQ4TensorFromF32_form hquant).2.1, (Constructed.q4 hquant).form⟩
    · rw [if_neg helig] at hquant ⊢
      cases hquant
      exact ⟨t, hu, hdtype, (Constructed.f32 hmake).form⟩

end Dtypes

/-! ### Shard records -/

/-- A record of the converter is lawful where the dtype is one of shard metadata. -/
theorem shardRecordOk_iff {shardBlob : List UInt8} {i : ℕ} {t : PyTensor} {tileId off n : ℕ}
    (h : ShardRecordAt shardBlob i (shardRecordFields i t.shape t.dtype tileId off)) {record : ShardMetaRecord} :
    ShardRecordOk shardBlob i (loadedTensor n t off) record ↔
      record = shardMetaRecordAt shardBlob (i * shardMetaRecordSize) ∧ shardDtypeValid t.dtype = true := by
  have hid : readU32 shardBlob (i * shardMetaRecordSize + 0) = i := h.read 0 rfl
  have hdtype : readU32 shardBlob (i * shardMetaRecordSize + 48) = t.dtype := h.read 7 rfl
  have hquant : readU32 shardBlob (i * shardMetaRecordSize + 52) =
      if t.dtype = dtypeQ8 ∨ t.dtype = dtypeQ4 then 1 else 0 := h.read 8 rfl
  have hrepl : readU32 shardBlob (i * shardMetaRecordSize + 60) = 0 := h.read 10 rfl
  have hreduce : readU32 shardBlob (i * shardMetaRecordSize + 104) = 0 := h.read 21 rfl
  have hreserved : readU32 shardBlob (i * shardMetaRecordSize + 108) = 0 := h.read 22 rfl
  have hshape (k : Fin 4) : readU64 shardBlob (i * shardMetaRecordSize + (16 + k * 8)) = (padShape t.shape).getD k 0 := by
    match k with
    | 0 => exact h.read 3 rfl
    | 1 => exact h.read 4 rfl
    | 2 => exact h.read 5 rfl
    | 3 => exact h.read 6 rfl
  have hsmall : i ≤ uint32Max := hid ▸ readU32_le shardBlob (i * shardMetaRecordSize + 0)
  constructor
  · intro hok
    have hvalid := hok.dtype
    rw [hok.read] at hvalid
    refine ⟨hok.read, ?_⟩
    rw [← hdtype]
    exact hvalid
  · rintro ⟨rfl, hvalid⟩
    refine
      { read := rfl
        reserved := hreserved
        tensorId := hid.trans (uint32_eq hsmall).symm
        dtype := ?_
        quantization := ?_
        replicationPolicy := ?_
        reductionBehavior := ?_
        shape := funext hshape }
    · show shardDtypeValid (readU32 shardBlob (i * shardMetaRecordSize + 48)) = true
      rw [hdtype]
      exact hvalid
    · show shardQuantValid (readU32 shardBlob (i * shardMetaRecordSize + 52)) = true
      rw [hquant]
      split
      · rfl
      · rfl
    · show shardReplValid (readU32 shardBlob (i * shardMetaRecordSize + 60)) = true
      rw [hrepl]
      rfl
    · show shardReduceValid (readU32 shardBlob (i * shardMetaRecordSize + 104)) = true
      rw [hreduce]
      rfl

theorem shardDtypeValid_iff {t : PyTensor} (hform : DefaultForm t) :
    shardDtypeValid t.dtype = true ↔ t.dtype ≠ dtypeQ4 := by
  obtain ⟨hdtype, -⟩ | ⟨hdtype, -⟩ | ⟨hdtype, -⟩ := hform <;> rw [hdtype] <;> decide

namespace Built

variable {att1 : Att1Dict} {tensors : List PyTensor} {emitShardMeta : Bool} {descs : List (List UInt8)}
  {shardBlob bytes : List UInt8} (hb : Built att1 tensors emitShardMeta descs shardBlob bytes)
include hb

/-- **The shard metadata stage** accepts the file where it has no such section, or no q4 tensor. -/
theorem loadShardMeta_iff {host : Host} (hform : ∀ t ∈ tensors, DefaultForm t)
    (hcalloc : host.calloc tensors.length shardMetaRecordSize = true) :
    (∃ records, loadShardMeta host bytes (headerFields bytes) (loadedTensors tensors) = .ok records) ↔
      emitShardMeta = false ∨ ∀ t ∈ tensors, t.dtype ≠ dtypeQ4 := by
  have hcount := hb.count
  have hlength : (loadedTensors tensors).length = tensors.length := List.length_mapIdx
  have hne : loadedTensors tensors ≠ [] := by
    rw [← List.length_pos_iff, hlength]
    omega
  rw [hb.headerFields_eq]
  unfold loadShardMeta parsedHeader
  obtain ⟨hemit, -, rfl⟩ | ⟨hemit, hoffset, hsize⟩ := hb.shard_cases
  · exact ⟨fun _ => .inl hemit, fun _ => ⟨[], if_pos rfl⟩⟩
  have hnonzero : shardBlob.length ≠ 0 := by
    unfold shardMetaRecordSize at hsize
    omega
  have hshard := hb.shard
  rw [hemit, if_pos rfl] at hshard
  obtain ⟨-, hall⟩ := buildShardMetaBlob_eq_ok hshard
  dsimp only
  rw [if_neg hnonzero, hb.shard_eq hemit]
  simp only [shardMetaParse_eq_ok hne, hlength, hsize, hcalloc, true_and, hemit, Bool.true_eq_false, false_or]
  rw [exists_forall₂_iff]
  -- the record of a tensor exists where its dtype is accepted
  have hrecord {i : ℕ} {t : PyTensor} (hi : tensors[i]? = some t) :
      (∃ record, ShardRecordOk shardBlob i (loadedTensor tensors.length t (blockStart (payloads tensors) i)) record) ↔
        t.dtype ≠ dtypeQ4 := by
    obtain ⟨tileId, -, hat⟩ := hall i t hi
    rw [← shardDtypeValid_iff (hform t (List.mem_of_getElem? hi))]
    simp only [shardRecordOk_iff hat, exists_eq_left]
  constructor
  · intro h t ht
    obtain ⟨i, hi⟩ := List.mem_iff_getElem?.mp ht
    refine (hrecord hi).mp (h (_, i) ?_)
    exact List.mem_zipIdx_iff_getElem?.mpr (getElem?_loadedTensors hi)
  · rintro h ⟨t', i⟩ hmem
    have hget : (loadedTensors tensors)[i]? = some t' := List.mem_zipIdx_iff_getElem?.mp hmem
    obtain ⟨t, hi, rfl⟩ := getElem?_of_loadedTensors hget
    exact (hrecord hi).mpr (h t (List.mem_of_getElem? hi))

/-- The records that were accepted are those of the section. -/
theorem shardMeta_eq {host : Host} {records : List ShardMetaRecord} (hemit : emitShardMeta = true)
    (h : loadShardMeta host bytes (headerFields bytes) (loadedTensors tensors) = .ok records) :
    records = (List.range tensors.length).map fun i => shardMetaRecordAt shardBlob (i * shardMetaRecordSize) := by
  have hcount := hb.count
  have hlength : (loadedTensors tensors).length = tensors.length := List.length_mapIdx
  have hne : loadedTensors tensors ≠ [] := by
    rw [← List.length_pos_iff, hlength]
    omega
  obtain ⟨hemit', -, -⟩ | ⟨-, -, hsize⟩ := hb.shard_cases
  · rw [hemit] at hemit'
    cases hemit'
  · have hnonzero : shardBlob.length ≠ 0 := by
      unfold shardMetaRecordSize at hsize
      omega
    rw [hb.headerFields_eq] at h
    unfold loadShardMeta parsedHeader at h
    dsimp only at h
    rw [if_neg hnonzero, hb.shard_eq hemit, shardMetaParse_eq_ok hne] at h
    obtain ⟨-, -, hall⟩ := h
    obtain ⟨hlen, hget⟩ := List.forall₂_iff_get.mp hall
    rw [List.length_zipIdx, hlength] at hlen
    refine List.ext_getElem (by simp [hlen]) fun i h₁ h₂ => ?_
    have hok := hget i (by rw [List.length_zipIdx, hlength, hlen]; exact h₁) h₁
    simp only [List.get_eq_getElem, List.getElem_zipIdx, Nat.zero_add] at hok
    rw [hok.read, List.getElem_map, List.getElem_range]

end Built

end Att1.Converter
