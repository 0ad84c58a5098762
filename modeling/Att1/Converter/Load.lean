import Att1.Converter.Names
import Att1.ModelFile.Loader

/-!
# Att1.Converter.Load — the loader accepts the file of a config without zero dimensions

* `NonzeroDims`: the dimensions of all tensors of the plan are nonzero.
* `Checked.valid`: a tensor the builder accepted has the shape and size that the loader asks for.
* `loadedModel`: the model that is loaded.  `Built.loaded` leaves only the shard metadata to be checked.
-/

open Att1.Lib Att1.ModelFile

namespace Att1.Converter

/-! ### The model -/

/-- What the loader makes of a tensor whose payload starts at `offset` of the data section. -/
def loadedTensor (tensorCount : ℕ) (t : PyTensor) (offset : ℕ) : ModelTensor :=
  { parsedTensor t offset with data := some (dataOffset tensorCount + offset) }

/-- What the loader makes of all tensors. -/
def loadedTensors (tensors : List PyTensor) : List ModelTensor :=
  tensors.mapIdx fun i t => loadedTensor tensors.length t (blockStart (payloads tensors) i)

/-- The model that is loaded, with the given shard records. -/
def loadedModel (att1 : Att1Dict) (tensors : List PyTensor) (bytes : List UInt8) (records : List ShardMetaRecord) :
    Model where
  config := att1.config
  tensors := loadedTensors tensors
  fileData := bytes
  shardMeta := records

theorem getElem?_loadedTensors {tensors : List PyTensor} {i : ℕ} {t : PyTensor} (hi : tensors[i]? = some t) :
    (loadedTensors tensors)[i]? = some (loadedTensor tensors.length t (blockStart (payloads tensors) i)) := by
  unfold loadedTensors
  rw [List.getElem?_mapIdx, hi]
  rfl

theorem getElem?_of_loadedTensors {tensors : List PyTensor} {i : ℕ} {t' : ModelTensor}
    (hi : (loadedTensors tensors)[i]? = some t') :
    ∃ t, tensors[i]? = some t ∧ t' = loadedTensor tensors.length t (blockStart (payloads tensors) i) := by
  unfold loadedTensors at hi
  rw [List.getElem?_mapIdx, Option.map_eq_some_iff] at hi
  obtain ⟨t, ht, rfl⟩ := hi
  exact ⟨t, ht, rfl⟩

/-! ### Shapes -/

/-- No dimension of the plan is zero. -/
structure NonzeroDims (att1 : Att1Dict) : Prop where
  vocabSize : att1.vocabSize ≠ 0
  dModel : att1.dModel ≠ 0
  dFf : att1.nLayers ≠ 0 → att1.dFf ≠ 0

theorem ValidConfig.nonzeroDims {att1 : Att1Dict} (h : ValidConfig att1) : NonzeroDims att1 :=
  ⟨h.vocabSize, h.dModel, fun _ => h.dFf⟩

/-- The shapes of a plan have one or two dimensions, all of them nonzero. -/
theorem NonzeroDims.shape {att1 : Att1Dict} (h : NonzeroDims att1) {entry : List UInt8 × List ℕ}
    (hentry : entry ∈ tensorNamePlan att1) :
    (entry.2.length = 1 ∨ entry.2.length = 2) ∧ ∀ dim ∈ entry.2, dim ≠ 0 := by
  have hv := h.vocabSize
  have hd := h.dModel
  obtain rfl | hentry := List.mem_cons.mp hentry
  · simp [hv, hd]
  obtain hentry | hentry := List.mem_append.mp hentry
  · obtain ⟨layer, hlayer, hentry⟩ := List.mem_flatMap.mp hentry
    have hlt := List.mem_range.mp hlayer
    have hf := h.dFf (by omega)
    simp only [layerPlan, List.mem_cons, List.not_mem_nil, or_false] at hentry
    rcases hentry with rfl | rfl | rfl | rfl | rfl | rfl | rfl | rfl | rfl <;> simp [hd, hf]
  · simp only [List.mem_cons, List.not_mem_nil, or_false] at hentry
    rcases hentry with rfl | rfl <;> simp [hv, hd]

theorem ofFn_shape {t : PyTensor} (h : t.shape.length ≤ modelMaxDims) (off : ℕ) :
    List.ofFn (parsedTensor t off).shape = padShape t.shape := by
  have hlength : (padShape t.shape).length = 4 := by
    unfold padShape
    rw [List.length_append, List.length_replicate]
    exact Nat.add_sub_cancel' h
  refine List.ext_getElem (by rw [List.length_ofFn, hlength]) fun i h₁ h₂ => ?_
  rw [List.getElem_ofFn]
  show (padShape t.shape).getD i 0 = _
  rw [List.getD_eq_getElem?_getD, List.getElem?_eq_getElem h₂, Option.getD_some]

theorem dims_parsedTensor {t : PyTensor} (h : t.shape.length ≤ modelMaxDims) (off : ℕ) :
    (parsedTensor t off).dims = t.shape := by
  unfold ModelTensor.dims
  rw [ofFn_shape h]
  exact List.take_left

section Valid

variable {entry : List UInt8 × List ℕ} {t : PyTensor}

/-- A quantized tensor is stored transposed. -/
theorem Checked.transposed (hc : Checked entry t) (hlen : entry.2.length = 2)
    (hdtype : t.dtype = dtypeQ8 ∨ t.dtype = dtypeQ4) :
    ∃ rows cols, entry.2 = [cols, rows] ∧ t.shape = [rows, cols] := by
  obtain ⟨cols, rows, heq⟩ := List.length_eq_two.mp hlen
  refine ⟨rows, cols, heq, ?_⟩
  rw [hc.shape, expectedShape, if_pos hdtype, heq]
  rfl

theorem isQ8Eligible_length {name : List UInt8} {shape : List ℕ} (h : isQ8Eligible name shape = true) :
    shape.length = 2 := by
  unfold isQ8Eligible at h
  simp at h
  exact h.1

theorem isQ4Eligible_iff {name : List UInt8} {shape : List ℕ} {groupSize : ℕ} :
    isQ4Eligible name shape groupSize = true ↔
      shape.length = 2 ∧ name ≠ ascii "tok_embeddings.weight" ∧ groupSize ≤ shape.getD 0 0 ∧
        shape.getD 0 0 % groupSize = 0 := by
  unfold isQ4Eligible
  by_cases h : shape.length ≠ 2 ∨ name = ascii "tok_embeddings.weight"
  · rw [if_pos h]
    simp only [Bool.false_eq_true, false_iff]
    tauto
  · rw [if_neg h, not_or, not_not] at *
    simp [h.1, h.2]

/-- The loader agrees with the builder on a tensor. -/
structure LoaderAgrees (t : PyTensor) (off : ℕ) : Prop where
  shape : (parsedTensor t off).ValidShape
  nbytes : (parsedTensor t off).exactNbytes = t.data.length
  elements : (parsedTensor t off).dims.prod ≤ 2 * t.data.length + 1

theorem Checked.agrees_f32 (hc : Checked entry t) (hdtype : t.dtype = dtypeF32)
    (hlen : entry.2.length = 1 ∨ entry.2.length = 2) (hne : ∀ dim ∈ entry.2, dim ≠ 0) (off : ℕ) :
    LoaderAgrees t off := by
  have hshape : t.shape = entry.2 := by
    rw [hc.shape, expectedShape, hdtype]
    rfl
  have hndims : (parsedTensor t off).ndims = entry.2.length := congrArg List.length hshape
  have hdims := dims_parsedTensor (t := t) (by rw [hshape]; unfold modelMaxDims; omega) off
  have hexact : (parsedTensor t off).exactNbytes = 4 * t.shape.prod := by
    rw [← hdims]
    exact if_pos hdtype
  have hexpected : expectedNbytes t = t.shape.prod * 4 := by
    rw [expectedNbytes, hdtype]
    rfl
  have hbytes := hc.nbytes
  refine ⟨⟨by omega, ?_, ?_, .inl hdtype⟩, by omega, by rw [hdims]; omega⟩
  · unfold modelMaxDims
    omega
  · rw [hdims, hshape]
    exact hne

/-- A matrix as the loader parses it. -/
theorem parsedTensor_matrix {rows cols : ℕ} (hshape : t.shape = [rows, cols]) (off : ℕ) :
    (parsedTensor t off).ndims = 2 ∧ (parsedTensor t off).shape 0 = rows ∧ (parsedTensor t off).shape 1 = cols := by
  unfold parsedTensor
  rw [hshape]
  exact ⟨rfl, rfl, rfl⟩

theorem Checked.agrees_q8 (hc : Checked entry t) (hdtype : t.dtype = dtypeQ8) (hne : ∀ dim ∈ entry.2, dim ≠ 0)
    (off : ℕ) : LoaderAgrees t off := by
  obtain ⟨rows, cols, hentry, hshape⟩ := hc.transposed (isQ8Eligible_length (hc.q8 hdtype)) (.inl hdtype)
  obtain ⟨hndims, hrows, hcols⟩ := parsedTensor_matrix hshape off
  have hdims := ModelTensor.dims_of_two hndims
  have hprod := ModelTensor.prod_dims_of_two hndims
  have hexact := ModelTensor.exactNbytes_q8 (t := parsedTensor t off) hdtype
  rw [hrows, hcols] at hexact hdims hprod
  have hexpected : expectedNbytes t = rows * cols + rows * 4 := by
    rw [expectedNbytes, hdtype, hshape]
    rfl
  have hbytes := hc.nbytes
  refine ⟨⟨by omega, ?_, ?_, .inr (.inl ⟨hdtype, hndims⟩)⟩, by omega, by omega⟩
  · rw [hndims]
    decide
  · rw [hdims]
    rw [hentry] at hne
    simpa [and_comm] using hne

theorem Checked.agrees_q4 (hc : Checked entry t) (hdtype : t.dtype = dtypeQ4) (hflags : t.flags = q4GroupSizeDefault)
    (hne : ∀ dim ∈ entry.2, dim ≠ 0) (off : ℕ) : LoaderAgrees t off := by
  obtain ⟨hlen, -, -, hmod⟩ := isQ4Eligible_iff.mp (hc.q4 hdtype)
  obtain ⟨rows, cols, hentry, hshape⟩ := hc.transposed hlen (.inr hdtype)
  obtain ⟨hndims, hrows, hcols⟩ := parsedTensor_matrix hshape off
  have hgroup : (parsedTensor t off).q4GroupSize = 32 := by
    show (if t.flags &&& q4FlagsGroupMask = 0 then q4GroupSizeDefault else t.flags &&& q4FlagsGroupMask) = 32
    rw [hflags]
    decide
  have hdims := ModelTensor.dims_of_two hndims
  have hprod := ModelTensor.prod_dims_of_two hndims
  have hexact := ModelTensor.exactNbytes_q4 (t := parsedTensor t off) hdtype
  rw [hrows, hcols] at hexact hdims hprod
  rw [hgroup] at hexact
  have hexpected : expectedNbytes t = rows * cols / 2 + rows * (cols / 32) * 4 := by
    rw [expectedNbytes, hdtype, hshape, hflags]
    rfl
  rw [hentry] at hmod
  have hmod : cols % 32 = 0 := hmod
  have hbytes := hc.nbytes
  have hq : (parsedTensor t off).Q4Shape := by
    refine ⟨hndims, ?_, ?_, by omega, by rw [hgroup, hcols, hmod]⟩
    · show t.flags &&& 0xFFFFFF00 = 0
      rw [hflags]
      rfl
    · unfold ModelTensor.GroupSizeOk
      rw [hgroup]
      decide
  refine ⟨⟨by omega, ?_, ?_, .inr (.inr ⟨hdtype, hq⟩)⟩, by omega, by omega⟩
  · rw [hndims]
    decide
  · rw [hdims]
    rw [hentry] at hne
    simpa [and_comm] using hne

/-- **The two size formulas agree** on every tensor that the builder accepts. -/
theorem Checked.agrees (hc : Checked entry t) (hform : DefaultForm t) (hlen : entry.2.length = 1 ∨ entry.2.length = 2)
    (hne : ∀ dim ∈ entry.2, dim ≠ 0) (off : ℕ) : LoaderAgrees t off := by
  obtain ⟨hdtype, -⟩ | ⟨hdtype, -⟩ | ⟨hdtype, hflags⟩ := hform
  · exact hc.agrees_f32 hdtype hlen hne off
  · exact hc.agrees_q8 hdtype hne off
  · exact hc.agrees_q4 hdtype hflags hne off

end Valid

/-! ### The file -/

section Shard

variable {att1 : Att1Dict} {tensors : List PyTensor} {shardBlob : List UInt8}

/-- The bytes of record `i` are the packed fields. -/
def ShardRecordAt (shardBlob : List UInt8) (i : ℕ) (fields : List (ℕ × ℕ)) : Prop :=
  (∀ field ∈ fields, field.2 < 256 ^ field.1) ∧ ∃ a b, a.length = i * shardMetaRecordSize ∧
    shardBlob = a ++ (packFields fields ++ b)

theorem ShardRecordAt.read {i : ℕ} {fields : List (ℕ × ℕ)} (h : ShardRecordAt shardBlob i fields) (k : ℕ)
    {width value : ℕ} (hk : fields[k]? = some (width, value)) :
    readLe shardBlob (i * shardMetaRecordSize + ((fields.take k).map Prod.fst).sum) width = value := by
  obtain ⟨hbounds, a, b, hlength, rfl⟩ := h
  rw [← hlength]
  exact readLe_field hbounds hk a b

/-- The shard metadata section: one record for each tensor, with the tile of the tensor. -/
theorem buildShardMetaBlob_eq_ok (h : buildShardMetaBlob att1 tensors = .ok shardBlob) :
    shardBlob.length = tensors.length * shardMetaRecordSize ∧ ∀ (i : ℕ) t, tensors[i]? = some t → ∃ tileId,
      tileOf att1.nLayers (layerTileAssignment att1.nLayers att1.nTiles) t.name = .ok tileId ∧
      ShardRecordAt shardBlob i (shardRecordFields i t.shape t.dtype tileId (blockStart (payloads tensors) i)) := by
  obtain ⟨blocks, hblocks, h⟩ := bind_eq_ok.mp h
  cases h
  obtain ⟨hlength, hall⟩ := emitBlocks_eq_ok hblocks
  have hrecord (i : ℕ) (t : PyTensor) (hi : tensors[i]? = some t) : ∃ tileId,
      tileOf att1.nLayers (layerTileAssignment att1.nLayers att1.nTiles) t.name = .ok tileId ∧
      (∀ field ∈ shardRecordFields i t.shape t.dtype tileId (blockStart (payloads tensors) i),
        field.2 < 256 ^ field.1) ∧
      blocks[i]? = some (packFields (shardRecordFields i t.shape t.dtype tileId (blockStart (payloads tensors) i))) := by
    obtain ⟨b, hb, hemit⟩ := hall i t hi
    obtain ⟨tileId, htile, hpack⟩ := bind_eq_ok.mp hemit
    rw [Nat.zero_add, Nat.zero_add] at hpack
    obtain ⟨hbounds, rfl⟩ := structPack_eq_ok.mp hpack
    exact ⟨tileId, htile, hbounds, hb⟩
  have hwidth : ∀ b ∈ blocks, b.length = shardMetaRecordSize := by
    intro b hb
    obtain ⟨i, hi⟩ := List.mem_iff_getElem?.mp hb
    have hlt : i < tensors.length := hlength ▸ (List.getElem?_eq_some_iff.mp hi).1
    obtain ⟨tileId, -, -, hi'⟩ := hrecord i tensors[i] (List.getElem?_eq_getElem hlt)
    rw [hi, Option.some.injEq] at hi'
    rw [hi', length_packFields]
    rfl
  refine ⟨by rw [length_flatten_of_width hwidth, hlength], fun i t hi => ?_⟩
  obtain ⟨tileId, htile, hbounds, hi'⟩ := hrecord i t hi
  have hstart := blockStart_of_width hwidth (List.getElem?_eq_some_iff.mp hi').1.le
  have hinside := blockStart_add_le hi'
  have hsplit := eq_append_slice blocks.flatten (blockStart blocks i)
    (packFields (shardRecordFields i t.shape t.dtype tileId (blockStart (payloads tensors) i))).length
  rw [slice_flatten hi'] at hsplit
  refine ⟨tileId, htile, hbounds, _, _, ?_, hsplit⟩
  rw [List.length_take, hstart]
  omega

end Shard

namespace Built

variable {att1 : Att1Dict} {tensors : List PyTensor} {emitShardMeta : Bool} {descs : List (List UInt8)}
  {shardBlob bytes : List UInt8} (hb : Built att1 tensors emitShardMeta descs shardBlob bytes)
include hb

theorem exists_entry {i : ℕ} {t : PyTensor} (hi : tensors[i]? = some t) :
    ∃ entry ∈ tensorNamePlan att1, (tensorNamePlan att1)[i]? = some entry ∧ Checked entry t := by
  have hlt : i < (tensorNamePlan att1).length := by
    rw [length_tensorNamePlan, ← hb.count]
    exact (List.getElem?_eq_some_iff.mp hi).1
  have hget := List.getElem?_eq_getElem hlt
  exact ⟨_, List.getElem_mem hlt, hget, hb.checked i _ t hget hi⟩

/-- The shard metadata section is absent, or stands at the end of the file with one record for each tensor. -/
theorem shard_cases :
    emitShardMeta = false ∧ shardOffset tensors emitShardMeta = 0 ∧ shardBlob = [] ∨
    emitShardMeta = true ∧
      shardOffset tensors emitShardMeta = dataOffset tensors.length + (payloads tensors).flatten.length ∧
      shardBlob.length = tensors.length * shardMetaRecordSize := by
  have hshard := hb.shard
  cases hemit : emitShardMeta with
  | false =>
    rw [hemit] at hshard
    cases hshard
    exact .inl ⟨rfl, rfl, rfl⟩
  | true =>
    rw [hemit, if_pos rfl] at hshard
    exact .inr ⟨rfl, rfl, (buildShardMetaBlob_eq_ok hshard).1⟩

theorem sectionValid_shard : sectionValid bytes.length (shardOffset tensors emitShardMeta) shardBlob.length = true := by
  rw [sectionValid_iff]
  have hlength := hb.length_bytes
  have hcount := hb.count
  obtain ⟨-, hoffset, rfl⟩ | ⟨-, hoffset, hsize⟩ := hb.shard_cases
  · rw [hoffset]
    simp
  · have hpos : dataOffset tensors.length ≠ 0 := by
      unfold dataOffset descOffset modelHeaderSize
      omega
    unfold shardMetaRecordSize at hsize
    omega

/-- The shard metadata section starts behind every other section. -/
theorem not_overlaps_shard {offset size : ℕ} (h : shardBlob.length ≠ 0)
    (hend : offset + size ≤ dataOffset tensors.length + (payloads tensors).flatten.length) :
    ¬ rangesOverlap (shardOffset tensors emitShardMeta) shardBlob.length offset size = true := by
  have hlength := hb.length_bytes
  have hsize := hb.size
  obtain ⟨-, -, rfl⟩ | ⟨-, hoffset, -⟩ := hb.shard_cases
  · exact absurd rfl h
  · have hsmall : offset + size ≤ sizeMax := by
      unfold pyMaxSize at hsize
      unfold sizeMax
      omega
    unfold rangesOverlap
    rw [hoffset, sizeT_eq hsmall, Bool.and_eq_true, decide_eq_true_iff]
    omega

theorem headerOk : HeaderOk bytes (headerFields bytes) := by
  have hlength := hb.length_bytes
  have hfile : modelHeaderSize + modelConfigSize + tensors.length * modelTensorDescSize ≤ bytes.length := by
    rw [hlength]
    exact Nat.le_add_right _ _
  have hheader := hb.headerFields_eq
  rw [hheader]
  refine
    { size := by omega
      magic := ?_
      version := checkVersion_eq_ok.mpr (.inl ⟨hb.readHeader 0 rfl, hb.readHeader 1 rfl⟩)
      configSize := rfl
      config := (Nat.le_add_right _ _).trans hfile
      payload := ?_
      shard := hb.sectionValid_shard
      tokMeta := rfl
      desc := hfile
      shardDesc := fun h => hb.not_overlaps_shard h (Nat.le_add_right _ _)
      shardData := fun h => hb.not_overlaps_shard h le_rfl }
  · rw [hb.file, List.append_assoc]
    exact slice_append_head rfl
  · rw [hlength]
    exact Nat.add_le_add_left (Nat.le_add_right _ _) _

theorem tensorOk (hdims : NonzeroDims att1) (hform : ∀ t ∈ tensors, DefaultForm t) {i : ℕ} {t' : ModelTensor}
    (hi : (loadedTensors tensors)[i]? = some t') : TensorOk bytes (headerFields bytes) i t' := by
  obtain ⟨t, ht, rfl⟩ := getElem?_of_loadedTensors hi
  obtain ⟨entry, hmem, -, hc⟩ := hb.exists_entry ht
  obtain ⟨hlen, hne⟩ := hdims.shape hmem
  have hagrees := hc.agrees (hform t (List.mem_of_getElem? ht)) hlen hne (blockStart (payloads tensors) i)
  have hinside := blockStart_add_le (getElem?_payloads ht)
  have hlength := hb.length_bytes
  have hsize := hb.size
  rw [hb.headerFields_eq]
  refine ⟨(hb.parseTensor_eq ht).symm, rfl, hagrees.shape.withData _, ?_, hagrees.nbytes.symm, hinside⟩
  refine hagrees.elements.trans ?_
  unfold pyMaxSize at hsize
  unfold sizeMax
  omega

/-- The host grants what the loader allocates for the file and its tensors. -/
theorem loaded {host : Host} {records : List ShardMetaRecord} (hdims : NonzeroDims att1)
    (hform : ∀ t ∈ tensors, DefaultForm t) (hmalloc : host.malloc bytes.length = true)
    (hcalloc : host.calloc tensors.length modelTensorSize = true)
    (hrecords : loadShardMeta host bytes (headerFields bytes) (loadedTensors tensors) = .ok records) :
    Loaded host bytes (loadedModel att1 tensors bytes records) := by
  have hheader := hb.headerFields_eq
  refine ⟨hb.size, .inl hmalloc, .inl ?_, hb.headerOk, ?_, rfl, ?_, fun i t' hi => hb.tensorOk hdims hform hi, hrecords,
    ?_⟩
  · rw [hheader]
    exact hcalloc
  · rw [hheader]
    exact hb.parseConfig_eq.symm
  · rw [hheader]
    exact List.length_mapIdx
  · rw [hheader]
    rfl

end Built

end Att1.Converter
