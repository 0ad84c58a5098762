import Att1.ModelFile.ShardValidate
import Att1.Shard.Agree

/-!
# Att1.Shard.Validated — the converter's shard metadata under validation

* `tileOf_lt`: the converter assigns tiles of the model only.
* `Built.validate_iff`: the metadata of a loaded file has no violation exactly where every tensor is f32.
* `shardMetaValidate_broken_iff`: when the violations are the broken rules.
-/

open Att1.Lib Att1.ModelFile

namespace Att1.Converter

theorem tileOf_lt {nLayers nTiles : ℕ} {name : List UInt8} {tileId : ℕ} (htiles : 0 < nTiles)
    (h : tileOf nLayers (layerTileAssignment nLayers nTiles) name = .ok tileId) : tileId < nTiles := by
  have hassigned {layer : ℕ} (hlayer : layer < nLayers)
      (hget : (layerTileAssignment nLayers nTiles)[layer]? = some tileId) : tileId < nTiles := by
    have howner := (contiguous_shares nLayers htiles).owner_lt layer hlayer
    rwa [← getD_layerTileAssignment, List.getD_eq_getElem?_getD, hget] at howner
  have hzero (h : (.ok 0 : Except ConvertError ℕ) = .ok tileId) : tileId < nTiles := by
    cases h
    exact htiles
  unfold tileOf at h
  dsimp only at h
  by_cases hprefix : ¬ (ascii "layers.").isPrefixOf name = true
  · rw [if_pos hprefix] at h
    exact hzero h
  · rw [if_neg hprefix] at h
    split_ifs at h
    · exact hzero h
    · split at h
      · exact hzero h
      · split_ifs at h with hlayer
        · exact hassigned hlayer (orFail_eq_ok.mp h)
        · exact hzero h

namespace Built

variable {att1 : Att1Dict} {tensors : List PyTensor} {descs : List (List UInt8)} {shardBlob bytes : List UInt8}
  (hb : Built att1 tensors true descs shardBlob bytes)
include hb

/-- Of a record of the converter, only a dtype other than f32 is reported. -/
theorem reported_record {i : ℕ} {t : PyTensor} (hi : tensors[i]? = some t) :
    reported att1.config (loadedTensors tensors) (shardMetaRecordAt shardBlob (i * shardMetaRecordSize)) =
      if t.dtype = dtypeF32 then [] else [(i, ascii "dtype")] := by
  have hshard := hb.shard
  rw [if_pos rfl] at hshard
  obtain ⟨tileId, htile, hat⟩ := (buildShardMetaBlob_eq_ok hshard).2 i t hi
  have htileId : readU32 shardBlob (i * shardMetaRecordSize + 4) = tileId := hat.read 1 rfl
  have hoffset : readU64 shardBlob (i * shardMetaRecordSize + 8) = blockStart (payloads tensors) i := hat.read 2 rfl
  have hdtype : readU32 shardBlob (i * shardMetaRecordSize + 48) = t.dtype := hat.read 7 rfl
  have howner : readU32 shardBlob (i * shardMetaRecordSize + 56) = tileId := hat.read 9 rfl
  obtain ⟨hid, -, -⟩ := hb.record_fields hi
  have hcount := hb.count_le
  have hlt := (List.getElem?_eq_some_iff.mp hi).1
  have hlength : (loadedTensors tensors).length = tensors.length := List.length_mapIdx
  have hrange : ¬ (0 < att1.nTiles ∧ att1.nTiles ≤ tileId) := fun ⟨hpos, hle⟩ =>
    absurd (tileOf_lt hpos htile) (by omega)
  have htileRule : ¬ Reports att1.config (loadedTensors tensors)
      (shardMetaRecordAt shardBlob (i * shardMetaRecordSize)) .tileId := fun h =>
    hrange ⟨h.2.1, htileId ▸ h.2.2⟩
  have hownerRule : ¬ Reports att1.config (loadedTensors tensors)
      (shardMetaRecordAt shardBlob (i * shardMetaRecordSize)) .ownerAimu := fun h =>
    hrange ⟨h.1, howner ▸ h.2⟩
  have hoffsetRule : ¬ Reports att1.config (loadedTensors tensors)
      (shardMetaRecordAt shardBlob (i * shardMetaRecordSize)) .byteOffset := by
    rintro ⟨-, t', ht', hne⟩
    rw [hid, getElem?_loadedTensors hi, Option.mem_some_iff] at ht'
    exact hne (ht' ▸ hoffset)
  have hdtypeRule : Reports att1.config (loadedTensors tensors)
      (shardMetaRecordAt shardBlob (i * shardMetaRecordSize)) .dtype ↔ ¬ t.dtype = dtypeF32 := by
    unfold Reports
    rw [hid, hlength, uint32_eq hcount, and_iff_right hlt, getElem?_loadedTensors hi]
    simp only [Option.mem_some_iff, exists_eq_left']
    show ¬ (readU32 shardBlob (i * shardMetaRecordSize + 48) = shardDtypeF32 ∧ t.dtype = dtypeF32) ↔ _
    rw [hdtype]
    exact not_congr and_self_iff
  unfold reported
  rw [map_filter_all, if_neg htileRule, if_neg hownerRule, if_neg hoffsetRule, hid]
  simp only [hdtypeRule, List.nil_append, List.append_nil, ite_not]

/-- **The metadata of a loaded file** has no violation exactly where every tensor is f32. -/
theorem validate_iff {host : Host} {m : Model} (hl : Loaded host bytes m)
    (hgrants : GrantsViolations host (4 * tensors.length)) :
    shardMetaValidate host m.shardMeta (some m.config) m.tensors = .ok [] ↔ ∀ t ∈ tensors, t.dtype = dtypeF32 := by
  have htensors := hb.tensors_eq hl
  have hconfig : m.config = att1.config := by
    rw [hl.config, hb.headerFields_eq]
    exact hb.parseConfig_eq
  have hrecords := hb.shardMeta_eq rfl (htensors ▸ hl.shardMeta)
  have hlength : m.shardMeta.length = tensors.length := by rw [hrecords, List.length_map, List.length_range]
  obtain ⟨violations, hok, hnamed⟩ :=
    @shardMetaValidate_eq_ok host m.config m.tensors m.shardMeta (by rwa [hlength])
  have hempty : shardMetaValidate host m.shardMeta (some m.config) m.tensors = .ok [] ↔
      m.shardMeta.flatMap (reported m.config m.tensors) = [] := by
    rw [hok, Except.ok.injEq, ← hnamed, List.map_eq_nil_iff]
  rw [hempty, List.flatMap_eq_nil_iff, hconfig, htensors, hrecords]
  constructor
  · intro h t ht
    obtain ⟨i, hi⟩ := List.mem_iff_getElem?.mp ht
    have hlt := (List.getElem?_eq_some_iff.mp hi).1
    have hreported := h _ (List.mem_map_of_mem (List.mem_range.mpr hlt))
    rw [hb.reported_record hi] at hreported
    by_contra hne
    rw [if_neg hne] at hreported
    cases hreported
  · intro h record hrecord
    obtain ⟨i, hi, rfl⟩ := List.mem_map.mp hrecord
    have hget := List.getElem?_eq_getElem (List.mem_range.mp hi)
    rw [hb.reported_record hget, if_pos (h _ (List.getElem_mem _))]

end Built

/-- **When the violations are the broken rules**: exactly where every record is judged by its checks.  The shard
metadata of an emitted file that loads has no violation exactly where every tensor is f32. -/
theorem shardMetaValidate_broken_iff (host : Host) :
    (∀ (config : ModelConfig) (tensors : List ModelTensor) (records : List ShardMetaRecord),
      GrantsViolations host (4 * records.length) →
        ((∃ violations, shardMetaValidate host records (some config) tensors = .ok violations ∧
            violations.map ShardMetaViolation.named = records.flatMap (broken config tensors)) ↔
          ∀ record ∈ records, Judged tensors record)) ∧
    ∀ (att1 : Att1Dict) (tensors : List PyTensor) (bytes : List UInt8),
      buildAtt1BytesFromTensors att1 tensors true = .ok bytes → (load host (some bytes)).status = .ok →
        GrantsViolations host (4 * tensors.length) →
          (shardMetaValidate host (load host (some bytes)).model.shardMeta (some (load host (some bytes)).model.config)
              (load host (some bytes)).model.tensors = .ok [] ↔
            ∀ t ∈ tensors, t.dtype = dtypeF32) := by
  constructor
  · intro config tensors records hgrants
    obtain ⟨violations, hok, hnamed⟩ := @shardMetaValidate_eq_ok host config tensors records hgrants
    rw [← @reported_eq_broken_iff config, ← hnamed]
    constructor
    · rintro ⟨violations', hok', hnamed'⟩
      rw [hok, Except.ok.injEq] at hok'
      rw [hok', hnamed']
    · exact fun h => ⟨violations, hok, h⟩
  · intro att1 tensors bytes hbuild hload hgrants
    obtain ⟨descs, shardBlob, hb⟩ := built_of_build hbuild
    exact hb.validate_iff (loaded_of_ok hload) hgrants

/-- A tensor of one element with the given dtype, in a model of one tile. -/
def oneElement (dtype : ℕ) : ModelTensor := ⟨ascii "w", dtype, 1, fun _ => 1, 0, 4, 0, 0, none⟩

/-- The record of that tensor. -/
def oneRecord (dtype : ℕ) : ShardMetaRecord := ⟨0, 0, 0, fun _ => 1, dtype, 0, 0, 0, fun _ => 0, 0, 0, 0, 0⟩

theorem grantsViolations_generous {n : ℕ} (h : n ≤ 1000) : GrantsViolations .generous n := fun count hcount =>
  Host.generous_malloc (by
    unfold sizeMax shardMetaViolationSize
    omega)

/-- A sample file with shard metadata loads in each format that the section can express. -/
theorem load_sampleFile {format : WeightFormat} (hformat : format ≠ .q4)
    (hfile : (sampleFile (sampleConfig 1 2 1) format true).isSome = true) : ∃ tensors bytes,
      sampleFile (sampleConfig 1 2 1) format true = some (tensors, bytes) ∧ tensors.length = 12 ∧
      buildTensors sampleFloats (sampleConfig 1 2 1) (.real format (sampleValues (sampleConfig 1 2 1))) = .ok tensors ∧
      buildAtt1BytesFromTensors (sampleConfig 1 2 1) tensors true = .ok bytes ∧
      (load .generous (some bytes)).status = .ok := by
  obtain ⟨⟨tensors, bytes⟩, hsome⟩ := Option.isSome_iff_exists.mp hfile
  obtain ⟨htensors, hbuild⟩ := sampleFile_eq_some hsome
  obtain ⟨descs, shardBlob, hb⟩ := built_of_build hbuild
  have hcount : tensors.length = 12 := hb.count
  have hmalloc : Host.generous.malloc bytes.length = true := Host.generous_malloc (hb.size.trans (by decide))
  refine ⟨tensors, bytes, hsome, hcount, htensors, hbuild, ?_⟩
  refine (hb.runs htensors (validConfig_of_validate (by decide)) hmalloc ?_ ?_ ⟨by decide, fun h => absurd h hformat⟩).1
  · rw [hcount]
    decide
  · rw [hcount]
    decide

/-- The record of an f32 tensor is judged, and the metadata of an f32 file has no violation. -/
theorem shardMetaValidate_broken_f32 :
    (∃ violations, shardMetaValidate .generous [oneRecord dtypeF32] (some { nTiles := 1 }) [oneElement dtypeF32] =
        .ok violations ∧
      violations.map ShardMetaViolation.named =
        [oneRecord dtypeF32].flatMap (broken { nTiles := 1 } [oneElement dtypeF32])) ∧
    ∃ tensors bytes, sampleFile (sampleConfig 1 2 1) .f32 true = some (tensors, bytes) ∧
      shardMetaValidate .generous (load .generous (some bytes)).model.shardMeta
        (some (load .generous (some bytes)).model.config) (load .generous (some bytes)).model.tensors = .ok [] := by
  constructor
  · refine ((shardMetaValidate_broken_iff .generous).1 { nTiles := 1 } [oneElement dtypeF32] [oneRecord dtypeF32]
      (grantsViolations_generous (by decide))).mpr ?_
    intro record hrecord t ht
    obtain rfl := List.mem_singleton.mp hrecord
    obtain rfl : oneElement dtypeF32 = t := Option.some.inj ht
    exact fun _ => rfl
  · obtain ⟨tensors, bytes, hsome, hcount, htensors, hbuild, hload⟩ :=
      @load_sampleFile .f32 (by decide) (by decide +kernel)
    refine ⟨tensors, bytes, hsome, ((shardMetaValidate_broken_iff .generous).2 _ tensors bytes hbuild hload
      (grantsViolations_generous (by omega))).mpr fun t ht => ?_⟩
    obtain ⟨descs, shardBlob, hb⟩ := built_of_build hbuild
    obtain ⟨-, entry, -, hdtype⟩ := hb.dtype_of_mem htensors ht
    exact hdtype

/-- The record of a q8 tensor breaks no rule and is reported: the metadata of a q8 file has violations. -/
theorem shardMetaValidate_q8 :
    (shardMetaValidate .generous [oneRecord dtypeQ8] (some { nTiles := 1 }) [oneElement dtypeQ8] =
        .ok [⟨0, ascii "dtype", ascii "dtype mismatch: shard=2 tensor=2"⟩] ∧
      [oneRecord dtypeQ8].flatMap (broken { nTiles := 1 } [oneElement dtypeQ8]) = []) ∧
    ∃ tensors bytes, sampleFile (sampleConfig 1 2 1) .q8 true = some (tensors, bytes) ∧
      (load .generous (some bytes)).status = .ok ∧
      shardMetaValidate .generous (load .generous (some bytes)).model.shardMeta
        (some (load .generous (some bytes)).model.config) (load .generous (some bytes)).model.tensors ≠ .ok [] := by
  refine ⟨by decide, ?_⟩
  obtain ⟨tensors, bytes, hsome, hcount, htensors, hbuild, hload⟩ := @load_sampleFile .q8 (by decide) (by decide +kernel)
  obtain ⟨descs, shardBlob, hb⟩ := built_of_build hbuild
  refine ⟨tensors, bytes, hsome, hload, fun hnil => ?_⟩
  have hall := (hb.validate_iff (loaded_of_ok hload) (grantsViolations_generous (by omega))).mp hnil
  have hmem : (ascii "output.weight", [2, 1]) ∈ tensorNamePlan (sampleConfig 1 2 1) := by decide
  obtain ⟨i, hi⟩ := List.mem_iff_getElem?.mp hmem
  obtain ⟨t, ht, hdtype, -⟩ := buildTensors_getElem? htensors hi
  have hf32 := hall t (List.mem_of_getElem? ht)
  rw [hdtype] at hf32
  revert hf32
  decide

end Att1.Converter
