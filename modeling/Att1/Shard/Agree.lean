import Att1.Converter.Runnable
import Att1.Shard.FromMeta
import Att1.Shard.Summary

/-!
# Att1.Shard.Agree — the converter and the runtime shard alike

* `layerTileAssignment_eq`: the converter deals the layers out by shares, as the runtime does.
* `parseLayerId_layer`, `tileOf_layer`: both sides read the layer of a tensor off its name.
* `metaPlanBuild_eq`: the proposal read from the records of the converter names the owner of every layer.
* `shard_plans_agree`: the plan of the metadata is the plan of the runtime.
-/

open Att1.Lib Att1.ModelFile

namespace Att1.Converter

/-! ### The assignment -/

theorem layerTileAssignment_eq (nLayers nTiles : ℕ) :
    layerTileAssignment nLayers nTiles = owners 0 (shares nTiles nLayers) := by
  have hfold : ∀ r tile next (acc : List ℕ), tile + r = nTiles →
      ((List.range' tile r).foldl
        (fun (state : List ℕ × ℕ) tile =>
          let remainingLayers := nLayers - state.2
          let remainingTiles := nTiles - tile
          let count := (remainingLayers + remainingTiles - 1) / remainingTiles
          (state.1 ++ List.replicate count tile, state.2 + count))
        (acc, next)).1 = acc ++ owners tile (shares r (nLayers - next)) := by
    intro r
    induction r with
    | zero => simp [shares, owners]
    | succ r ih =>
      intro tile next acc htiles
      have hleft : nTiles - tile = r + 1 := by omega
      rw [List.range'_succ, List.foldl_cons]
      simp only [hleft]
      rw [ih (tile + 1) _ _ (by omega), shares, owners, List.append_assoc, Nat.sub_sub]
      rfl
  unfold layerTileAssignment
  rw [List.range_eq_range', hfold nTiles 0 0 [] (Nat.zero_add nTiles), List.nil_append, Nat.sub_zero]

theorem getD_layerTileAssignment (nLayers nTiles layer : ℕ) :
    (layerTileAssignment nLayers nTiles).getD layer 0 = shareOwner nLayers nTiles layer := by
  rw [layerTileAssignment_eq]
  rfl

/-! ### The layer in a name -/

theorem head?_of_mem_layerSuffixes : ∀ suffix ∈ layerSuffixes, suffix.head? = some 0x2e := by decide

theorem drop_layerPrefix (layer : ℕ) (suffix : List UInt8) :
    (layerPrefix layer ++ suffix).drop (ascii "layers.").length = decimal layer ++ suffix := by
  unfold layerPrefix
  rw [List.append_assoc, List.drop_left]

theorem isPrefixOf_layerPrefix (layer : ℕ) (suffix : List UInt8) :
    (ascii "layers.").isPrefixOf (layerPrefix layer ++ suffix) = true := by
  unfold layerPrefix
  rw [List.isPrefixOf_iff_prefix, List.append_assoc]
  exact List.prefix_append _ _

/-- The C reader finds the layer in a layer name. -/
theorem parseLayerId_layer {layer : ℕ} {suffix : List UInt8} (hs : suffix ∈ layerSuffixes)
    (hlayer : layer ≤ uint32Max) : parseLayerId (layerPrefix layer ++ suffix) = some layer := by
  obtain ⟨rest, rfl⟩ := List.head?_eq_some_iff.mp (head?_of_mem_layerSuffixes suffix hs)
  have hname : layerPrefix layer ++ 0x2e :: rest = ascii "layers." ++ (decimal layer ++ 0x2e :: rest) :=
    List.append_assoc _ _ _
  exact parseLayerId_eq_some.mpr ⟨layer, ⟨decimal layer, rest, isNumeral_decimal layer, hname, digitsValue_decimal layer⟩,
    (uint32_eq hlayer).symm⟩

/-- The converter gives a layer tensor the tile of its layer. -/
theorem tileOf_layer {nLayers layer : ℕ} {suffix : List UInt8} (hs : suffix ∈ layerSuffixes)
    (hlayer : layer < nLayers) {tiles : List ℕ} {tileId : ℕ}
    (h : tileOf nLayers tiles (layerPrefix layer ++ suffix) = .ok tileId) : tileId = tiles.getD layer 0 := by
  obtain ⟨rest, rfl⟩ := List.head?_eq_some_iff.mp (head?_of_mem_layerSuffixes suffix hs)
  have hall : ∀ c ∈ decimal layer, decide (c ≠ 0x2e) = true := by
    intro c hc
    rw [decide_eq_true_iff]
    rintro rfl
    have hdigit := (mem_decimal hc).1
    simp at hdigit
  have htake : (decimal layer ++ 0x2e :: rest).takeWhile (fun c => c ≠ 0x2e) = decimal layer := by
    rw [List.takeWhile_append_of_pos hall, List.takeWhile_cons_of_neg (by simp), List.append_nil]
  have hint : pyInt (decimal layer) = some layer := by
    unfold pyInt
    rw [if_pos ⟨decimal_ne_nil layer, List.all_eq_true.mpr fun c hc => by simpa using mem_decimal hc⟩, foldl_decimal]
  unfold tileOf at h
  rw [if_neg (by simp [isPrefixOf_layerPrefix]), drop_layerPrefix] at h
  dsimp only at h
  rw [htake, if_neg (by simp [decimal_ne_nil]), hint] at h
  simp only [if_pos hlayer] at h
  rw [List.getD_eq_getElem?_getD, orFail_eq_ok.mp h, Option.getD_some]

/-- No other name of a plan names a layer. -/
theorem parseLayerId_of_mem_planNames {nLayers layer : ℕ} {name : List UInt8} (hname : name ∈ planNames nLayers)
    (hn : nLayers ≤ uint32Max) (h : parseLayerId name = some layer) :
    layer < nLayers ∧ ∃ suffix ∈ layerSuffixes, name = layerPrefix layer ++ suffix := by
  have hends : ∀ name ∈ [ascii "tok_embeddings.weight", ascii "output_norm.weight", ascii "output.weight"],
      parseLayerId name = none := by decide
  have hnone : name ∈ [ascii "tok_embeddings.weight", ascii "output_norm.weight", ascii "output.weight"] →
      parseLayerId name ≠ some layer := fun hmem heq => by simp [hends name hmem] at heq
  obtain rfl | hname := List.mem_cons.mp hname
  · exact absurd h (hnone (by simp))
  obtain hname | hname := List.mem_append.mp hname
  · obtain ⟨layer', hlayer', hname⟩ := List.mem_flatMap.mp hname
    obtain ⟨suffix, hs, rfl⟩ := List.mem_map.mp hname
    have hlt := List.mem_range.mp hlayer'
    rw [parseLayerId_layer hs (by omega), Option.some.injEq] at h
    exact h ▸ ⟨hlt, suffix, hs, rfl⟩
  · exact absurd h (hnone (List.mem_cons_of_mem _ hname))

/-! ### The records of a file -/

namespace Built

variable {att1 : Att1Dict} {tensors : List PyTensor} {descs : List (List UInt8)} {shardBlob bytes : List UInt8}
  (hb : Built att1 tensors true descs shardBlob bytes)
include hb

theorem nLayers_le : att1.nLayers ≤ uint32Max := by
  have h : att1.nLayers < 256 ^ 4 := hb.config (4, att1.nLayers) (by simp [configFieldList])
  unfold uint32Max
  omega

theorem nTiles_le : att1.nTiles ≤ uint32Max := by
  have h : att1.nTiles < 256 ^ 4 := hb.config (4, att1.nTiles) (by simp [configFieldList])
  unfold uint32Max
  omega

/-- The fields of a record that the planner reads. -/
theorem record_fields {i : ℕ} {t : PyTensor} (hi : tensors[i]? = some t) :
    (shardMetaRecordAt shardBlob (i * shardMetaRecordSize)).tensorId = i ∧ i ≤ uint32Max ∧
      tileOf att1.nLayers (layerTileAssignment att1.nLayers att1.nTiles) t.name =
        .ok (shardMetaRecordAt shardBlob (i * shardMetaRecordSize)).tileId := by
  have hshard := hb.shard
  rw [if_pos rfl] at hshard
  obtain ⟨tileId, htile, hat⟩ := (buildShardMetaBlob_eq_ok hshard).2 i t hi
  have hid : readU32 shardBlob (i * shardMetaRecordSize + 0) = i := hat.read 0 rfl
  have htile' : readU32 shardBlob (i * shardMetaRecordSize + 4) = tileId := hat.read 1 rfl
  refine ⟨hid, hid ▸ readU32_le shardBlob (i * shardMetaRecordSize + 0), ?_⟩
  show _ = Except.ok (readU32 shardBlob (i * shardMetaRecordSize + 4))
  rw [htile', htile]

/-- There are fewer tensors than 32-bit numbers. -/
theorem count_le : tensors.length ≤ uint32Max := by
  have hcount := hb.count
  have hlast : tensors.length - 1 < tensors.length := by omega
  obtain ⟨-, hle, -⟩ := hb.record_fields (List.getElem?_eq_getElem hlast)
  unfold uint32Max at hle ⊢
  omega

/-- The layer that the record of a tensor is about is the one in its name. -/
theorem recordLayer_eq {m : Model} (htensors : m.tensors = loadedTensors tensors) (hconfig : m.config = att1.config)
    {i : ℕ} {t : PyTensor} (hi : tensors[i]? = some t) :
    recordLayer m (shardMetaRecordAt shardBlob (i * shardMetaRecordSize)) = parseLayerId t.name := by
  obtain ⟨hid, -, -⟩ := hb.record_fields hi
  have hcount := hb.count_le
  have hlt := (List.getElem?_eq_some_iff.mp hi).1
  have hlength : (loadedTensors tensors).length = tensors.length := List.length_mapIdx
  have hname : cString (loadedTensor tensors.length t (blockStart (payloads tensors) i)).name = t.name :=
    cString_append_replicate (hb.name_ne_zero hi) _
  have hlayers : m.config.nLayers = att1.nLayers := by
    rw [hconfig]
    rfl
  unfold recordLayer
  rw [hid, htensors, hlength, uint32_eq hcount, if_neg (by omega), getElem?_loadedTensors hi]
  dsimp only
  rw [hname, hlayers]
  cases hparse : parseLayerId t.name with
  | none => rfl
  | some layer =>
    have hmem : t.name ∈ planNames att1.nLayers := List.mem_of_getElem? (hb.planName hi)
    obtain ⟨hlayer, -⟩ := parseLayerId_of_mem_planNames hmem hb.nLayers_le hparse
    exact if_neg (by omega)

end Built

/-! ### Agreement -/

/-- The host grants what the two planners allocate. -/
structure GrantsPlans (host : Host) (nLayers nTiles : ℕ) : Prop where
  slots : host.calloc nLayers 12 = true
  entries : host.calloc nLayers metaPlanEntrySize = true
  layerToTile : host.calloc nLayers 4 = true
  tiles : host.calloc nTiles layerShardSize = true

/-- Two plans run the same layers on every tile. -/
structure SamePlan (nLayers nTiles : ℕ) (plan plan' : ShardPlan) : Prop where
  layerToTile : ∀ layer < nLayers, plan.layerToTile layer = plan'.layerToTile layer
  tiles : ∀ tile < nTiles, ∀ layer,
    (plan.tiles tile).layerStart ≤ layer ∧ layer < (plan.tiles tile).layerEnd ↔
      (plan'.tiles tile).layerStart ≤ layer ∧ layer < (plan'.tiles tile).layerEnd

theorem samePlan_of_deals {nLayers nTiles : ℕ} {start owner : ℕ → ℕ} {plan plan' : ShardPlan}
    (h : Deals plan nLayers nTiles start owner) (h' : Deals plan' nLayers nTiles start owner) :
    SamePlan nLayers nTiles plan plan' where
  layerToTile layer hlayer := (h.layerToTile_eq layer hlayer).trans (h'.layerToTile_eq layer hlayer).symm
  tiles tile htile layer := (h.mem_iff tile htile layer).trans (h'.mem_iff tile htile layer).symm

/-- The records of a loaded file make a proposal that names the owner of every layer. -/
theorem Built.proposal {att1 : Att1Dict} {tensors : List PyTensor} {descs : List (List UInt8)}
    {shardBlob bytes : List UInt8} (hb : Built att1 tensors true descs shardBlob bytes) {host : Host} {m : Model}
    (hl : Loaded host bytes m) (hlayers : att1.nLayers ≠ 0) (htiles : att1.nTiles ≠ 0)
    (hgrants : GrantsPlans host att1.nLayers att1.nTiles) :
    m.config = att1.config ∧ ∃ proposed, metaPlanBuild host m = .ok proposed ∧
      proposed.entries = (List.range att1.nLayers).map (ownerEntry (shareOwner att1.nLayers att1.nTiles)) ∧
      proposed.conflict = 0 := by
  have htensors := hb.tensors_eq hl
  have hconfig : m.config = att1.config := by
    rw [hl.config, hb.headerFields_eq]
    exact hb.parseConfig_eq
  have hrecords := hb.shardMeta_eq rfl (htensors ▸ hl.shardMeta)
  have hcontiguous := contiguous_shares att1.nLayers (Nat.pos_of_ne_zero htiles)
  refine ⟨hconfig, ?_⟩
  have hnLayers : m.config.nLayers = att1.nLayers := by rw [hconfig]; rfl
  rw [← hnLayers]
  refine metaPlanBuild_eq ?_ ?_ ?_ ?_ (hnLayers ▸ hgrants.slots) (hnLayers ▸ hgrants.entries)
  · omega
  · rw [hrecords, List.length_map, List.length_range]
    exact hb.count_le
  · intro record hrecord layer hlayer
    rw [hrecords] at hrecord
    obtain ⟨i, hi, rfl⟩ := List.mem_map.mp hrecord
    have hget := List.getElem?_eq_getElem (List.mem_range.mp hi)
    rw [hb.recordLayer_eq htensors hconfig hget] at hlayer
    obtain ⟨hlt, suffix, hs, hname⟩ :=
      parseLayerId_of_mem_planNames (List.mem_of_getElem? (hb.planName hget)) hb.nLayers_le hlayer
    obtain ⟨-, -, htile⟩ := hb.record_fields hget
    rw [hname] at htile
    have howner := hcontiguous.owner_lt layer hlt
    have hmax := hb.nTiles_le
    refine ⟨?_, ?_⟩
    · rw [tileOf_layer hs hlt htile, getD_layerTileAssignment, hnLayers]
    · unfold uint32Max at hmax
      unfold shardTileUnassigned
      rw [hnLayers]
      omega
  · intro layer hlayer
    have hmem : layerPrefix layer ++ ascii ".attention_norm.weight" ∈ planNames att1.nLayers := by
      refine List.mem_cons_of_mem _ (List.mem_append_left _ (List.mem_flatMap.mpr ⟨layer, ?_, ?_⟩))
      · exact List.mem_range.mpr (hnLayers ▸ hlayer)
      · exact List.mem_map.mpr ⟨_, by simp [layerSuffixes], rfl⟩
    obtain ⟨i, hi⟩ := List.mem_iff_getElem?.mp hmem
    have hlt : i < tensors.length := by
      rw [hb.count, ← length_tensorNamePlan, ← List.length_map Prod.fst, map_fst_tensorNamePlan]
      exact (List.getElem?_eq_some_iff.mp hi).1
    have hget := List.getElem?_eq_getElem hlt
    have hname := hb.planName hget
    rw [hi, Option.some.injEq] at hname
    have hle := hb.nLayers_le
    refine ⟨_, hrecords ▸ List.mem_map_of_mem (List.mem_range.mpr hlt), ?_⟩
    rw [hb.recordLayer_eq htensors hconfig hget, ← hname]
    exact parseLayerId_layer (by simp [layerSuffixes]) (by omega)

/-- **The converter and the runtime shard alike.**  The shard metadata of an emitted f32 or q8 file is loaded, makes a
proposal and is accepted as a plan; that plan is the one the runtime makes for as many tiles, and the comparison finds
every layer matching. -/
theorem shard_plans_agree {F : Type} (ops : Floats F) (host : Host) {att1 : Att1Dict} {source : TensorSource F}
    {tensors : List PyTensor} {bytes : List UInt8} (hvalid : validateAtt1Config att1 = some [])
    (hformat : source.format ≠ .q4) (hshards : att1.shardCount = 0) (htiles : 1 ≤ att1.nTiles)
    (htensors : buildTensors ops att1 source = .ok tensors)
    (hbuild : buildAtt1BytesFromTensors att1 tensors true = .ok bytes)
    (hmalloc : host.malloc bytes.length = true) (hcalloc : host.calloc tensors.length modelTensorSize = true)
    (hrecords : host.calloc tensors.length shardMetaRecordSize = true)
    (hgrants : GrantsPlans host att1.nLayers att1.nTiles) :
    ∃ proposed fromMeta runtime, (load host (some bytes)).status = .ok ∧
      metaPlanBuild host (load host (some bytes)).model = .ok proposed ∧
      shardPlanFromMeta host proposed att1.nLayers att1.nTiles = .ok fromMeta ∧
      shardPlanBuild host (load host (some bytes)).model.config att1.nTiles = .ok runtime ∧
      SamePlan att1.nLayers att1.nTiles fromMeta runtime ∧
      metaPlanCompare proposed runtime =
        { matching := att1.nLayers, mismatch := 0, missing := 0, extra := proposed.extra, conflict := 0 } := by
  obtain ⟨descs, shardBlob, hb⟩ := built_of_build hbuild
  have hv := validConfig_of_validate hvalid
  have hform : ∀ t ∈ tensors, DefaultForm t := fun t ht => (hb.dtype_of_mem htensors ht).1
  obtain ⟨records, hmeta⟩ := (hb.loadShardMeta_iff hform hrecords).mpr (.inr fun t ht => hb.noQ4 htensors hformat ht)
  have hl := hb.loaded hv.nonzeroDims hform hmalloc hcalloc hmeta
  obtain ⟨live, hload⟩ := load_of_loaded hl
  have hpos : 0 < att1.nLayers := Nat.pos_of_ne_zero hv.nLayers
  have hcontiguous := contiguous_shares att1.nLayers htiles
  obtain ⟨hconfig, proposed, hproposed, hentries, hconflict⟩ := hb.proposal hl hv.nLayers (by omega) hgrants
  obtain ⟨fromMeta, hfrom, hdeals⟩ := shardPlanFromMeta_eq hcontiguous htiles hb.nTiles_le hpos hb.nLayers_le hentries
    hconflict hgrants.layerToTile hgrants.tiles
  obtain ⟨runtime, hruntime, hshared⟩ := @shardPlanBuild_shared host att1.config att1.nTiles htiles hb.nTiles_le hpos
    hb.nLayers_le hshards hgrants.tiles hgrants.layerToTile
  have hdeals' := hshared.deals
  rw [hload]
  refine ⟨proposed, fromMeta, runtime, rfl, hproposed, hfrom, ?_, samePlan_of_deals hdeals hdeals', ?_⟩
  · show shardPlanBuild host (loadedModel att1 tensors bytes records).config att1.nTiles = _
    rw [hconfig]
    exact hruntime
  · rw [metaPlanCompare_eq hb.nLayers_le hentries hdeals'.tileCount_eq hdeals'.layerCount_eq hdeals'.layerToTile_eq
      hcontiguous.owner_lt, hconflict]

/-- Two layers on three tiles. -/
def sampleTiles : Att1Dict := { sampleConfig 2 2 1 with nTiles := 3 }

theorem shard_plans_agree_sampleTiles : ∃ tensors bytes, sampleFile sampleTiles .f32 true = some (tensors, bytes) ∧
    ∃ proposed fromMeta runtime, (load .generous (some bytes)).status = .ok ∧
      metaPlanBuild .generous (load .generous (some bytes)).model = .ok proposed ∧
      shardPlanFromMeta .generous proposed 2 3 = .ok fromMeta ∧
      shardPlanBuild .generous (load .generous (some bytes)).model.config 3 = .ok runtime ∧
      SamePlan 2 3 fromMeta runtime ∧
      metaPlanCompare proposed runtime =
        { matching := 2, mismatch := 0, missing := 0, extra := proposed.extra, conflict := 0 } := by
  have hfile : (sampleFile sampleTiles .f32 true).isSome = true := by decide +kernel
  obtain ⟨⟨tensors, bytes⟩, hsome⟩ := Option.isSome_iff_exists.mp hfile
  obtain ⟨htensors, hbuild⟩ := sampleFile_eq_some hsome
  obtain ⟨descs, shardBlob, hb⟩ := built_of_build hbuild
  have hcount : tensors.length = 21 := hb.count
  have hmalloc : Host.generous.malloc bytes.length = true := Host.generous_malloc (hb.size.trans (by decide))
  refine ⟨tensors, bytes, hsome, shard_plans_agree sampleFloats .generous (by decide) (fun h => by cases h) rfl (by decide)
    htensors hbuild hmalloc ?_ ?_ ⟨by decide, by decide, by decide, by decide⟩⟩
  · rw [hcount]
    decide
  · rw [hcount]
    decide

end Att1.Converter
