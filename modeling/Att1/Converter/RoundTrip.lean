import Att1.Converter.Load
import Att1.Lib.Table

/-!
# Att1.Converter.RoundTrip — what is encoded is loaded

* `RoundTrip att1 tensors bytes m`: `m` holds the config and the tensors, by index and by name, and its payloads tile
  the data section of the file.
* `load_build`: loading the bytes that the builder returns without shard metadata.
-/

open Att1.Lib Att1.ModelFile

namespace Att1.Converter

/-- The loaded config is the one that was encoded. -/
structure SameConfig (config : ModelConfig) (att1 : Att1Dict) : Prop where
  vocabSize : config.vocabSize = att1.vocabSize
  nLayers : config.nLayers = att1.nLayers
  nHeads : config.nHeads = att1.nHeads
  dModel : config.dModel = att1.dModel
  dFf : config.dFf = att1.dFf
  maxSeqLen : config.maxSeqLen = att1.maxSeqLen
  ropeDim : (config.ropeDim : ℤ) = att1.ropeDim
  nTiles : config.nTiles = att1.nTiles
  shardCount : config.shardCount = att1.shardCount

/-- The loaded tensor is the one that was encoded. -/
structure SameTensor (m : Model) (t' : ModelTensor) (t : PyTensor) : Prop where
  name : cString t'.name = t.name
  dtype : t'.dtype = t.dtype
  rank : t'.ndims = t.shape.length
  shape : List.ofFn t'.shape = padShape t.shape
  flags : t'.flags = t.flags
  payload : ∃ start, t'.data = some start ∧ slice m.fileData start t'.nbytes = t.data

/-- The file positions of the payloads. -/
def payloadRanges (m : Model) : List (ℕ × ℕ) := m.tensors.map fun t => (t.data.getD 0, t.nbytes)

/-- A model holds what was encoded. -/
structure RoundTrip (att1 : Att1Dict) (tensors : List PyTensor) (bytes : List UInt8) (m : Model) : Prop where
  config : SameConfig m.config att1
  count : m.tensors.length = tensors.length
  tensors : ∀ (i : ℕ) t, tensors[i]? = some t →
    ∃ t', m.tensors[i]? = some t' ∧ findTensor m t.name = some t' ∧ SameTensor m t' t
  tiles : Tiles (headerFields bytes).dataOffset (payloadRanges m)
    ((headerFields bytes).dataOffset + (headerFields bytes).dataSize)

namespace Built

variable {att1 : Att1Dict} {tensors : List PyTensor} {emitShardMeta : Bool} {descs : List (List UInt8)}
  {shardBlob bytes : List UInt8} {records : List ShardMetaRecord}
  (hb : Built att1 tensors emitShardMeta descs shardBlob bytes)
include hb

/-- The name of tensor `i` is that of the plan. -/
theorem planName {i : ℕ} {t : PyTensor} (hi : tensors[i]? = some t) : (planNames att1.nLayers)[i]? = some t.name := by
  obtain ⟨entry, -, hget, hc⟩ := hb.exists_entry hi
  rw [← map_fst_tensorNamePlan, List.getElem?_map, hget, hc.name]
  rfl

theorem name_short {i : ℕ} {t : PyTensor} (hi : tensors[i]? = some t) : t.name.length < modelNameSize := by
  obtain ⟨d, -, hdesc⟩ := hb.descriptors i t hi
  exact (descriptor_eq_ok hdesc).1

theorem name_ne_zero {i : ℕ} {t : PyTensor} (hi : tensors[i]? = some t) : ∀ c ∈ t.name, c ≠ 0 :=
  ne_zero_of_mem_planNames (List.mem_of_getElem? (hb.planName hi))

/-- The loader finds tensor `i` under its name. -/
theorem findTensor_eq {i : ℕ} {t : PyTensor} (hi : tensors[i]? = some t) :
    findTensor (loadedModel att1 tensors bytes records) t.name =
      some (loadedTensor tensors.length t (blockStart (payloads tensors) i)) := by
  have hcompare {j : ℕ} {u : PyTensor} (hj : tensors[j]? = some u) :
      strncmpEq modelNameSize (namePadded u.name) t.name = true ↔ u.name = t.name :=
    strncmpEq_namePadded (hb.name_ne_zero hj) (hb.name_ne_zero hi) (hb.name_short hj) (hb.name_short hi)
  unfold findTensor
  rw [find?_eq_some_iff_firstAt]
  refine ⟨i, getElem?_loadedTensors hi, (hcompare hi).mpr rfl, fun j t' hlt hj => ?_⟩
  obtain ⟨u, hu, rfl⟩ := getElem?_of_loadedTensors hj
  rw [Bool.eq_false_iff]
  intro hmatch
  -- two places of the plan have one name
  have hname := (hcompare hu).mp hmatch
  have hj' := hb.planName hu
  rw [hname] at hj'
  have hlen := (List.getElem?_eq_some_iff.mp (hb.planName hu)).1
  have heq := (List.getElem?_inj hlen (nodup_planNames _)).mp (hj'.trans (hb.planName hi).symm)
  omega

theorem sameConfig : SameConfig att1.config att1 :=
  ⟨rfl, rfl, rfl, rfl, rfl, rfl, Int.toNat_of_nonneg hb.ropeDim, rfl, rfl⟩

theorem sameTensor {i : ℕ} {t : PyTensor} (hi : tensors[i]? = some t) (hrank : t.shape.length ≤ modelMaxDims) :
    SameTensor (loadedModel att1 tensors bytes records)
      (loadedTensor tensors.length t (blockStart (payloads tensors) i)) t :=
  ⟨cString_append_replicate (hb.name_ne_zero hi) _, rfl, rfl, ofFn_shape hrank (blockStart (payloads tensors) i), rfl, _, rfl, hb.payload_eq hi⟩

theorem tiles : Tiles (headerFields bytes).dataOffset (payloadRanges (loadedModel att1 tensors bytes records))
    ((headerFields bytes).dataOffset + (headerFields bytes).dataSize) := by
  have htiles := tiles_blockStart (payloads tensors) (dataOffset tensors.length)
  have hranges : payloadRanges (loadedModel att1 tensors bytes records) =
      (payloads tensors).mapIdx fun i b => (dataOffset tensors.length + blockStart (payloads tensors) i, b.length) := by
    unfold payloadRanges loadedModel loadedTensors payloads
    refine List.ext_getElem? fun i => ?_
    simp only [List.getElem?_map, List.getElem?_mapIdx, Option.map_map]
    rfl
  rw [hb.headerFields_eq, hranges]
  exact htiles

theorem rank_le {i : ℕ} {t : PyTensor} (hdims : NonzeroDims att1) (hi : tensors[i]? = some t) :
    t.shape.length ≤ modelMaxDims := by
  obtain ⟨entry, hmem, -, hc⟩ := hb.exists_entry hi
  obtain ⟨hlen, -⟩ := hdims.shape hmem
  rw [hc.shape]
  unfold expectedShape modelMaxDims
  split
  · simp
  · omega

theorem roundTrip (hdims : NonzeroDims att1) : RoundTrip att1 tensors bytes (loadedModel att1 tensors bytes records) :=
  ⟨hb.sameConfig, List.length_mapIdx, fun _ _ hi =>
    ⟨_, getElem?_loadedTensors hi, hb.findTensor_eq hi, hb.sameTensor hi (hb.rank_le hdims hi)⟩, hb.tiles⟩

end Built

/-- A file without shard metadata is loaded. -/
theorem Built.load_eq {att1 : Att1Dict} {tensors : List PyTensor} {descs : List (List UInt8)} {shardBlob bytes : List UInt8}
    {host : Host} (hb : Built att1 tensors false descs shardBlob bytes) (hdims : NonzeroDims att1)
    (hform : ∀ t ∈ tensors, DefaultForm t) (hmalloc : host.malloc bytes.length = true)
    (hcalloc : host.calloc tensors.length modelTensorSize = true) :
    ∃ live, load host (some bytes) = ⟨.ok, loadedModel att1 tensors bytes [], live⟩ := by
  have hrecords : loadShardMeta host bytes (headerFields bytes) (loadedTensors tensors) = .ok [] := by
    obtain ⟨-, -, rfl⟩ | ⟨hemit, -⟩ := hb.shard_cases
    · unfold loadShardMeta
      rw [hb.headerFields_eq]
      exact if_pos rfl
    · cases hemit
  exact load_of_loaded (hb.loaded hdims hform hmalloc hcalloc hrecords)

/-- **Encode, then load**: every file that the builder returns without shard metadata is loaded, and holds what was
encoded. -/
theorem load_build {F : Type} (ops : Floats F) (host : Host) {att1 : Att1Dict} {tensors : List PyTensor}
    {bytes : List UInt8} (hdims : NonzeroDims att1) (hconstructed : ∀ t ∈ tensors, Constructed ops t)
    (hbuild : buildAtt1BytesFromTensors att1 tensors false = .ok bytes) (hmalloc : host.malloc bytes.length = true)
    (hcalloc : host.calloc tensors.length modelTensorSize = true) :
    (load host (some bytes)).status = .ok ∧ RoundTrip att1 tensors bytes (load host (some bytes)).model := by
  obtain ⟨descs, shardBlob, hb⟩ := built_of_build hbuild
  obtain ⟨live, hload⟩ := hb.load_eq hdims (fun t ht => (hconstructed t ht).form) hmalloc hcalloc
  rw [hload]
  exact ⟨rfl, hb.roundTrip hdims⟩

/-! ### Samples -/

/-- The floats 0 and 1; a value that is neither is taken for 1. -/
def sampleFloats : Floats Bool where
  synthetic _ _ := true
  isFinite _ := true
  pack v := some (if v then [0, 0, 0x80, 0x3f] else [0, 0, 0, 0])
  unpack bytes := bytes != [0, 0, 0, 0]
  maxAbs values := values.any id
  scaleQ8 _ := true
  quantQ8 v _ := if v then 127 else 0
  scaleQ4 _ := true
  quantQ4 v _ := if v then 7 else 0

/-- A config with one head, one token and one position. -/
def sampleConfig (nLayers dModel dFf : ℕ) : Att1Dict where
  vocabSize := 1
  nLayers := nLayers
  nHeads := 1
  nKvHeads := 1
  dModel := dModel
  dFf := dFf
  maxSeqLen := 1
  ropeDim := 0
  nTiles := 1
  shardCount := 0

/-- The f32 tensors of a config, with the value 0 everywhere. -/
def sampleTensors (att1 : Att1Dict) : List PyTensor :=
  (tensorNamePlan att1).map fun entry =>
    { name := entry.1, shape := entry.2, dtype := dtypeF32, data := List.replicate (entry.2.prod * 4) 0 }

theorem packF32Values_zero (name : List UInt8) (n : ℕ) :
    packF32Values sampleFloats name (List.replicate n false) = .ok (List.replicate (n * 4) 0) := by
  have hpacked : (List.replicate n false).mapM (fun v => do
      rejectIf (¬ sampleFloats.isFinite v) (ConvertError.nonFinite name)
      orFail (sampleFloats.pack v) ConvertError.structError) = .ok (List.replicate n (List.replicate 4 0)) := by
    rw [mapM_eq_ok]
    induction n with
    | zero => exact .nil
    | succ n ih => exact .cons rfl ih
  rw [← List.flatten_replicate_replicate]
  exact bind_eq_ok.mpr ⟨_, hpacked, rfl⟩

theorem tensorFromValues_zero (name : List UInt8) (shape : List ℕ) :
    tensorFromValues sampleFloats name shape (List.replicate shape.prod false) =
      .ok { name := name, shape := shape, dtype := dtypeF32, data := List.replicate (shape.prod * 4) 0 } :=
  rejectIf_bind_eq_ok.mpr ⟨by rw [List.length_replicate]; simp, bind_eq_ok.mpr ⟨_, packF32Values_zero name _, rfl⟩⟩

theorem constructed_sampleTensors (att1 : Att1Dict) {t : PyTensor} (h : t ∈ sampleTensors att1) :
    Constructed sampleFloats t := by
  obtain ⟨entry, -, rfl⟩ := List.mem_map.mp h
  exact .f32 (tensorFromValues_zero entry.1 entry.2)

/-- The file of a config whose dimensions are all 1. -/
theorem load_build_sampleConfig : ∃ bytes,
    buildAtt1BytesFromTensors (sampleConfig 1 1 1) (sampleTensors (sampleConfig 1 1 1)) false = .ok bytes ∧
    (load Host.generous (some bytes)).status = .ok ∧
    RoundTrip (sampleConfig 1 1 1) (sampleTensors (sampleConfig 1 1 1)) bytes (load Host.generous (some bytes)).model := by
  have hok : (buildAtt1BytesFromTensors (sampleConfig 1 1 1) (sampleTensors (sampleConfig 1 1 1)) false).toOption.isSome =
      true := by decide +kernel
  obtain ⟨bytes, hbuild⟩ := Option.isSome_iff_exists.mp hok
  rw [toOption_eq_some] at hbuild
  obtain ⟨descs, shardBlob, hb⟩ := built_of_build hbuild
  have hsize := hb.size
  refine ⟨bytes, hbuild, load_build sampleFloats Host.generous ⟨by decide, by decide, fun _ => by decide⟩
    (fun t ht => constructed_sampleTensors _ ht) hbuild ?_ (by decide)⟩
  exact Host.generous_malloc (hsize.trans (by decide))

/-- Without a model dimension the builder returns a file of three empty tensors, which is not loaded. -/
theorem load_build_zero_dim : (∀ t ∈ sampleTensors (sampleConfig 0 0 1), Constructed sampleFloats t) ∧ ∃ bytes,
    buildAtt1BytesFromTensors (sampleConfig 0 0 1) (sampleTensors (sampleConfig 0 0 1)) false = .ok bytes ∧
    (load Host.generous (some bytes)).status = .shape := by
  have hstatus : (buildAtt1BytesFromTensors (sampleConfig 0 0 1) (sampleTensors (sampleConfig 0 0 1)) false).toOption.map
      (fun bytes => (load Host.generous (some bytes)).status) = some .shape := by decide +kernel
  obtain ⟨bytes, hbuild, hload⟩ := Option.map_eq_some_iff.mp hstatus
  exact ⟨fun t ht => constructed_sampleTensors _ ht, bytes, toOption_eq_some.mp hbuild, hload⟩

end Att1.Converter
