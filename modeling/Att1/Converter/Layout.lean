import Att1.Converter.Model
import Att1.ModelFile.Loader
import Att1.ModelFile.View

/-!
# Att1.Converter.Layout — what the loader reads in the bytes of the converter

* `Built`: the parts of a file the builder returned, and what the builder has checked.
* `Built.headerFields_eq`, `Built.parseConfig_eq`, `Built.parseTensor_eq`, `Built.payload_eq`: whatever the C loader
  reads in the file is what the converter wrote.
-/

open Att1.Lib Att1.ModelFile

namespace Att1.Converter

/-! ### Packed fields -/

theorem structPack_eq_ok {fields : List (ℕ × ℕ)} {b : List UInt8} :
    structPack fields = .ok b ↔ (∀ field ∈ fields, field.2 < 256 ^ field.1) ∧ b = packFields fields := by
  unfold structPack
  rw [rejectIf_bind_eq_ok, not_not, List.all_eq_true, Except.ok.injEq, eq_comm (a := b)]
  simp only [decide_eq_true_iff]

/-- The blocks the loop emits: one for each tensor, at its index and byte offset. -/
theorem emitBlocks_eq_ok {emit : ℕ → PyTensor → ℕ → Except ConvertError (List UInt8)} {tensors : List PyTensor}
    {i off : ℕ} {blocks : List (List UInt8)} (h : emitBlocks emit tensors i off = .ok blocks) :
    blocks.length = tensors.length ∧ ∀ k t, tensors[k]? = some t → ∃ b, blocks[k]? = some b ∧
      emit (i + k) t (off + blockStart (tensors.map PyTensor.data) k) = .ok b := by
  induction tensors generalizing i off blocks with
  | nil =>
    cases h
    exact ⟨rfl, fun k t hk => by simp at hk⟩
  | cons tensor tensors ih =>
    obtain ⟨block, hblock, h⟩ := bind_eq_ok.mp h
    obtain ⟨rest, hrest, h⟩ := bind_eq_ok.mp h
    cases h
    obtain ⟨hlength, hall⟩ := ih hrest
    refine ⟨by rw [List.length_cons, List.length_cons, hlength], fun k t hk => ?_⟩
    cases k with
    | zero =>
      rw [List.getElem?_cons_zero, Option.some.injEq] at hk
      subst hk
      rw [blockStart_zero]
      exact ⟨block, rfl, hblock⟩
    | succ k =>
      rw [List.getElem?_cons_succ] at hk
      obtain ⟨b, hb, hemit⟩ := hall k t hk
      rw [List.map_cons, blockStart_cons_succ, ← Nat.add_assoc off, show i + (k + 1) = i + 1 + k by omega]
      exact ⟨b, hb, hemit⟩

/-! ### Descriptors -/

/-- The tensor the loader parses in a descriptor of the converter. -/
def parsedTensor (t : PyTensor) (offset : ℕ) : ModelTensor where
  name := namePadded t.name
  dtype := t.dtype
  ndims := t.shape.length
  shape k := (padShape t.shape).getD k 0
  offset := offset
  nbytes := t.data.length
  shardId := 0
  flags := t.flags
  data := none

/-- A descriptor is read from its 128 bytes. -/
theorem parseTensor_slice (data : List UInt8) (p : ℕ) :
    parseTensor (slice data p modelTensorDescSize) 0 = parseTensor data p := by
  have hfield (k width : ℕ) (h : k + width ≤ modelTensorDescSize) :
      readLe (slice data p modelTensorDescSize) (0 + k) width = readLe data (p + k) width := by
    rw [Nat.zero_add, readLe_slice h]
  have hshape (i : Fin 4) : readLe (slice data p modelTensorDescSize) (0 + (72 + i * 8)) 8 =
      readLe data (p + (72 + i * 8)) 8 := by
    have hi := i.isLt
    exact hfield _ 8 (by unfold modelTensorDescSize; omega)
  unfold parseTensor readU32 readU64
  rw [ModelTensor.mk.injEq, slice_slice (by decide)]
  exact ⟨rfl, hfield 64 4 (by decide), hfield 68 4 (by decide), funext hshape, hfield 104 8 (by decide),
    hfield 112 8 (by decide), hfield 120 4 (by decide), hfield 124 4 (by decide), rfl⟩

theorem length_namePadded {name : List UInt8} (h : name.length ≤ modelNameSize) :
    (namePadded name).length = modelNameSize := by
  unfold namePadded
  rw [List.length_append, List.length_replicate]
  omega

/-- The loader drops the last of the NULs and appends one. -/
theorem slice_namePadded {name rest : List UInt8} (h : name.length < modelNameSize) :
    slice (namePadded name ++ rest) 0 (modelNameSize - 1) ++ [0] = namePadded name := by
  have hsplit : namePadded name = (name ++ List.replicate (modelNameSize - 1 - name.length) 0) ++ [0] := by
    unfold namePadded
    rw [List.append_assoc, ← List.replicate_succ']
    congr 2
    omega
  conv_lhs => rw [hsplit, List.append_assoc]
  rw [slice_append_head, ← hsplit]
  rw [List.length_append, List.length_replicate]
  omega

theorem descriptor_eq_ok {t : PyTensor} {off : ℕ} {d : List UInt8} (h : descriptor t off = .ok d) :
    t.name.length < modelNameSize ∧ d.length = modelTensorDescSize ∧ parseTensor d 0 = parsedTensor t off := by
  obtain ⟨hname, h⟩ := rejectIf_bind_eq_ok.mp h
  obtain ⟨fields, hfields, h⟩ := bind_eq_ok.mp h
  cases h
  obtain ⟨hbounds, rfl⟩ := structPack_eq_ok.mp hfields
  rw [Nat.not_le] at hname
  have hpadded := length_namePadded hname.le
  refine ⟨hname, ?_, ?_⟩
  · rw [List.length_append, hpadded, length_packFields]
    rfl
  have hread (k : ℕ) {width value : ℕ} (hk : (descriptorFields t off)[k]? = some (width, value)) :
      readLe (namePadded t.name ++ packFields (descriptorFields t off))
        (64 + (((descriptorFields t off).take k).map Prod.fst).sum) width = value := by
    have h := readLe_field hbounds hk (namePadded t.name) []
    rwa [hpadded, List.append_nil] at h
  have hshape (i : Fin 4) : readU64 (namePadded t.name ++ packFields (descriptorFields t off)) (0 + (72 + i * 8)) =
      (padShape t.shape).getD i 0 := by
    match i with
    | 0 => exact hread 2 rfl
    | 1 => exact hread 3 rfl
    | 2 => exact hread 4 rfl
    | 3 => exact hread 5 rfl
  unfold parseTensor parsedTensor
  rw [ModelTensor.mk.injEq, slice_namePadded hname]
  exact ⟨rfl, hread 0 rfl, hread 1 rfl, funext hshape, hread 6 rfl, hread 7 rfl, hread 8 rfl, hread 9 rfl, rfl⟩

/-! ### The parts of a file -/

/-- What the builder has checked of the tensor at one place of the plan. -/
structure Checked (entry : List UInt8 × List ℕ) (t : PyTensor) : Prop where
  q8 : t.dtype = dtypeQ8 → isQ8Eligible entry.1 entry.2 = true
  q4 : t.dtype = dtypeQ4 → isQ4Eligible entry.1 entry.2 q4GroupSizeDefault = true
  name : t.name = entry.1
  shape : t.shape = expectedShape t.dtype entry.2
  nbytes : t.data.length = expectedNbytes t

theorem checkTensor_eq_ok {entry : List UInt8 × List ℕ} {t : PyTensor} {i : ℕ} {u : Unit} :
    checkTensor ((entry, t), i) = .ok u ↔ Checked entry t := by
  unfold checkTensor
  simp only [rejectIf_bind_eq_ok, rejectIf_eq_ok, not_and, not_not]
  constructor
  · rintro ⟨hq8, hq4, hname, hshape, hbytes⟩
    exact ⟨hq8, hq4, hname, hshape, hbytes⟩
  · intro h
    exact ⟨h.q8, h.q4, h.name, h.shape, h.nbytes⟩

/-- The payloads of the tensors. -/
def payloads (tensors : List PyTensor) : List (List UInt8) := tensors.map PyTensor.data

/-- `shard_offset`. -/
def shardOffset (tensors : List PyTensor) (emitShardMeta : Bool) : ℕ :=
  if emitShardMeta then dataOffset tensors.length + (payloads tensors).flatten.length else 0

/-- The header fields of a file. -/
def fileHeader (tensors : List PyTensor) (emitShardMeta : Bool) (shardBlob : List UInt8) : List (ℕ × ℕ) :=
  headerFieldList tensors.length (payloads tensors).flatten.length (shardOffset tensors emitShardMeta)
    shardBlob.length

/-- A file the builder returned: its parts in order, and what the builder has checked. -/
structure Built (att1 : Att1Dict) (tensors : List PyTensor) (emitShardMeta : Bool) (descs : List (List UInt8))
    (shardBlob bytes : List UInt8) : Prop where
  count : tensors.length = 3 + att1.nLayers * 9
  checked : ∀ (i : ℕ) entry t, (tensorNamePlan att1)[i]? = some entry → tensors[i]? = some t → Checked entry t
  descs_length : descs.length = tensors.length
  descriptors : ∀ (i : ℕ) t, tensors[i]? = some t →
    ∃ d, descs[i]? = some d ∧ descriptor t (blockStart (payloads tensors) i) = .ok d
  shard : (if emitShardMeta then buildShardMetaBlob att1 tensors else .ok []) = .ok shardBlob
  header : ∀ field ∈ fileHeader tensors emitShardMeta shardBlob, field.2 < 256 ^ field.1
  ropeDim : 0 ≤ att1.ropeDim
  config : ∀ field ∈ configFieldList att1, field.2 < 256 ^ field.1
  file : bytes = (modelMagic ++ packFields (fileHeader tensors emitShardMeta shardBlob)) ++
    (packFields (configFieldList att1) ++ (descs.flatten ++ ((payloads tensors).flatten ++ shardBlob)))
  size : bytes.length ≤ pyMaxSize

theorem built_of_build {att1 : Att1Dict} {tensors : List PyTensor} {emitShardMeta : Bool} {bytes : List UInt8}
    (h : buildAtt1BytesFromTensors att1 tensors emitShardMeta = .ok bytes) :
    ∃ descs shardBlob, Built att1 tensors emitShardMeta descs shardBlob bytes := by
  obtain ⟨hcount, h⟩ := rejectIf_bind_eq_ok.mp h
  obtain ⟨us, hcheck, h⟩ := bind_eq_ok.mp h
  obtain ⟨descs, hdescs, h⟩ := bind_eq_ok.mp h
  obtain ⟨shardBlob, hshard, h⟩ := bind_eq_ok.mp h
  obtain ⟨header, hheader, h⟩ := bind_eq_ok.mp h
  obtain ⟨fields, hfields, hheader⟩ := bind_eq_ok.mp hheader
  obtain ⟨hheaderBounds, rfl⟩ := structPack_eq_ok.mp hfields
  cases hheader
  obtain ⟨configBlob, hconfig, h⟩ := bind_eq_ok.mp h
  obtain ⟨hrope, hconfig⟩ := rejectIf_bind_eq_ok.mp hconfig
  obtain ⟨hconfigBounds, rfl⟩ := structPack_eq_ok.mp hconfig
  obtain ⟨hsize, h⟩ := rejectIf_bind_eq_ok.mp h
  cases h
  obtain ⟨hlength, hall⟩ := emitBlocks_eq_ok hdescs
  refine ⟨descs, shardBlob, not_not.mp hcount, fun i entry t hentry ht => ?_, hlength, fun i t ht => ?_, hshard,
    hheaderBounds, not_lt.mp hrope, hconfigBounds, rfl, not_lt.mp hsize⟩
  · obtain ⟨-, hcheck⟩ := getElem?_of_mapM hcheck
    have hzip : ((tensorNamePlan att1).zip tensors).zipIdx[i]? = some ((entry, t), i) := by
      rw [List.getElem?_zipIdx, (List.getElem?_zip_eq_some (z := (entry, t))).mpr ⟨hentry, ht⟩]
      simp
    obtain ⟨u, -, hu⟩ := hcheck i _ hzip
    exact checkTensor_eq_ok.mp hu
  · obtain ⟨d, hd, hdesc⟩ := hall i t ht
    rw [Nat.zero_add] at hdesc
    exact ⟨d, hd, hdesc⟩

/-! ### What the loader reads -/

/-- The config the loader parses; `Built.ropeDim` says that `toNat` loses nothing. -/
def Att1Dict.config (att1 : Att1Dict) : ModelConfig where
  vocabSize := att1.vocabSize
  nLayers := att1.nLayers
  nHeads := att1.nHeads
  dModel := att1.dModel
  dFf := att1.dFf
  maxSeqLen := att1.maxSeqLen
  ropeDim := att1.ropeDim.toNat
  nTiles := att1.nTiles
  shardCount := att1.shardCount

/-- The header the loader parses. -/
def parsedHeader (tensors : List PyTensor) (emitShardMeta : Bool) (shardBlob : List UInt8) : Header where
  configOffset := modelHeaderSize
  configSize := modelConfigSize
  descOffset := descOffset
  tensorCount := tensors.length
  dataOffset := dataOffset tensors.length
  dataSize := (payloads tensors).flatten.length
  shardOffset := shardOffset tensors emitShardMeta
  shardSize := shardBlob.length
  tokMetaOffset := 0
  tokMetaSize := 0

theorem length_header (tensors : List PyTensor) (emitShardMeta : Bool) (shardBlob : List UInt8) :
    (modelMagic ++ packFields (fileHeader tensors emitShardMeta shardBlob)).length = 80 := by
  rw [List.length_append, length_packFields]
  rfl

theorem length_config (att1 : Att1Dict) : (packFields (configFieldList att1)).length = 36 := by
  rw [length_packFields]
  rfl

theorem getElem?_payloads {tensors : List PyTensor} {i : ℕ} {t : PyTensor} (hi : tensors[i]? = some t) :
    (payloads tensors)[i]? = some t.data := by
  unfold payloads
  rw [List.getElem?_map, hi]
  rfl

namespace Built

variable {att1 : Att1Dict} {tensors : List PyTensor} {emitShardMeta : Bool} {descs : List (List UInt8)}
  {shardBlob bytes : List UInt8} (hb : Built att1 tensors emitShardMeta descs shardBlob bytes)
include hb

theorem readHeader (k : ℕ) {width value : ℕ}
    (hk : (fileHeader tensors emitShardMeta shardBlob)[k]? = some (width, value)) :
    readLe bytes (8 + (((fileHeader tensors emitShardMeta shardBlob).take k).map Prod.fst).sum) width = value := by
  have h := readLe_field hb.header hk modelMagic
    (packFields (configFieldList att1) ++ (descs.flatten ++ ((payloads tensors).flatten ++ shardBlob)))
  rw [← List.append_assoc, ← hb.file] at h
  exact h

theorem headerFields_eq : headerFields bytes = parsedHeader tensors emitShardMeta shardBlob := by
  have hversion : readU32 bytes 8 = 1 := hb.readHeader 0 rfl
  unfold headerFields parsedHeader
  rw [hversion, if_pos rfl, if_pos rfl, Header.mk.injEq]
  exact ⟨hb.readHeader 2 rfl, hb.readHeader 3 rfl, hb.readHeader 4 rfl, hb.readHeader 5 rfl, hb.readHeader 6 rfl,
    hb.readHeader 7 rfl, hb.readHeader 8 rfl, hb.readHeader 9 rfl, rfl, rfl⟩

theorem parseConfig_eq : parseConfig bytes modelHeaderSize = att1.config := by
  have hread (k : ℕ) {width value : ℕ} (hk : (configFieldList att1)[k]? = some (width, value)) :
      readLe bytes (80 + (((configFieldList att1).take k).map Prod.fst).sum) width = value := by
    have h := readLe_field hb.config hk (modelMagic ++ packFields (fileHeader tensors emitShardMeta shardBlob))
      (descs.flatten ++ ((payloads tensors).flatten ++ shardBlob))
    rwa [← hb.file, length_header] at h
  unfold parseConfig Att1Dict.config
  rw [ModelConfig.mk.injEq]
  exact ⟨hread 0 rfl, hread 1 rfl, hread 2 rfl, hread 3 rfl, hread 4 rfl, hread 5 rfl, hread 6 rfl, hread 7 rfl,
    hread 8 rfl⟩

/-- The bytes behind header and config. -/
theorem slice_tables (off len : ℕ) :
    slice bytes (descOffset + off) len = slice (descs.flatten ++ ((payloads tensors).flatten ++ shardBlob)) off len := by
  have hfront : (modelMagic ++ packFields (fileHeader tensors emitShardMeta shardBlob) ++
      packFields (configFieldList att1)).length = descOffset := by
    rw [List.length_append, length_header, length_config]
    rfl
  rw [hb.file, ← List.append_assoc (modelMagic ++ _), slice_append_right (by omega), hfront, Nat.add_sub_cancel_left]

theorem descriptor_length {d : List UInt8} (hd : d ∈ descs) : d.length = modelTensorDescSize := by
  obtain ⟨i, hi⟩ := List.mem_iff_getElem?.mp hd
  obtain ⟨hlt, -⟩ := List.getElem?_eq_some_iff.mp hi
  have hlt' : i < tensors.length := hb.descs_length ▸ hlt
  obtain ⟨d', hd', hdesc⟩ := hb.descriptors i tensors[i] (List.getElem?_eq_getElem hlt')
  rw [hd', Option.some.injEq] at hi
  rw [← hi]
  exact (descriptor_eq_ok hdesc).2.1

theorem length_descs : descs.flatten.length = tensors.length * modelTensorDescSize := by
  rw [length_flatten_of_width fun d hd => hb.descriptor_length hd, hb.descs_length]

theorem length_bytes : bytes.length =
    dataOffset tensors.length + ((payloads tensors).flatten.length + shardBlob.length) := by
  have hheader := length_header tensors emitShardMeta shardBlob
  have hconfig := length_config att1
  have hdescs := hb.length_descs
  have hfile := congrArg List.length hb.file
  simp only [List.length_append] at hfile hheader
  unfold dataOffset descOffset modelHeaderSize modelConfigSize
  omega

/-- The bytes of descriptor `i`. -/
theorem slice_descriptors {i : ℕ} {d : List UInt8} (hd : descs[i]? = some d) :
    slice bytes (descOffset + i * modelTensorDescSize) modelTensorDescSize = d := by
  have hlength := hb.descriptor_length (List.mem_of_getElem? hd)
  have hstart : blockStart descs i = i * modelTensorDescSize :=
    blockStart_of_width (fun d hd => hb.descriptor_length hd) (List.getElem?_eq_some_iff.mp hd).1.le
  have hinside := blockStart_add_le hd
  rw [hstart, hlength] at hinside
  rw [hb.slice_tables, slice_append_left hinside, ← hstart, ← hlength, slice_flatten hd]

/-- Descriptor `i` is read back. -/
theorem parseTensor_eq {i : ℕ} {t : PyTensor} (hi : tensors[i]? = some t) :
    parseTensor bytes (descOffset + i * modelTensorDescSize) = parsedTensor t (blockStart (payloads tensors) i) := by
  obtain ⟨d, hd, hdesc⟩ := hb.descriptors i t hi
  rw [← parseTensor_slice, hb.slice_descriptors hd, (descriptor_eq_ok hdesc).2.2]

/-- Payload `i` is read back. -/
theorem payload_eq {i : ℕ} {t : PyTensor} (hi : tensors[i]? = some t) :
    slice bytes (dataOffset tensors.length + blockStart (payloads tensors) i) t.data.length = t.data := by
  have hget := getElem?_payloads hi
  have hinside := blockStart_add_le hget
  have hdescs := hb.length_descs
  unfold dataOffset
  rw [Nat.add_assoc, hb.slice_tables, slice_append_right (by omega), hdescs, Nat.add_sub_cancel_left,
    slice_append_left hinside, slice_flatten hget]

/-- The shard metadata section. -/
theorem shard_eq (h : emitShardMeta = true) :
    slice bytes (shardOffset tensors emitShardMeta) shardBlob.length = shardBlob := by
  have hdescs := hb.length_descs
  subst h
  unfold shardOffset dataOffset
  rw [if_pos rfl, Nat.add_assoc, hb.slice_tables, slice_append_right (by omega), hdescs, Nat.add_sub_cancel_left,
    slice_append_right le_rfl, Nat.sub_self, slice_all]

end Built

end Att1.Converter
