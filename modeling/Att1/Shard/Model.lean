import Mathlib.Logic.Function.Basic
import Att1.ModelFile.ShardMeta

/-!
# Att1.Shard.Model — which tile runs which layers (`src/shard.c`)

* `shardPlanBuild`: the contiguous plan of `att1_shard_plan_build`.
* `metaPlanBuild`, `shardPlanFromMeta`: the plan that shard metadata proposes, and its conversion.
* `metaPlanCompare`: the comparison of the two.

The arrays of a plan are functions of the index, of which the first `tileCount` or `layerCount` entries are in use.
-/

open Att1.Lib Att1.ModelFile

namespace Att1

/-- `att1_layer_shard`. -/
structure LayerShard where
  tileId : ℕ := 0
  layerStart : ℕ := 0
  layerEnd : ℕ := 0
  deriving DecidableEq, Repr

/-- `att1_shard_plan`. -/
structure ShardPlan where
  tileCount : ℕ
  layerCount : ℕ
  tiles : ℕ → LayerShard
  layerToTile : ℕ → ℕ

/-- `att1_meta_plan_entry`. -/
structure MetaPlanEntry where
  layerId : ℕ
  tileId : ℕ
  deriving DecidableEq, Repr

/-- `att1_meta_plan`; `count` is the length of `entries`. -/
structure MetaPlan where
  entries : List MetaPlanEntry := []
  extra : ℕ := 0
  conflict : ℕ := 0
  deriving DecidableEq, Repr

/-- `att1_meta_plan_diff`. -/
structure MetaPlanDiff where
  matching : ℕ := 0
  mismatch : ℕ := 0
  missing : ℕ := 0
  extra : ℕ := 0
  conflict : ℕ := 0
  deriving DecidableEq, Repr

/-- `sizeof(att1_layer_shard)`. -/
def layerShardSize : ℕ := 12

/-- `sizeof(att1_meta_plan_entry)`. -/
def metaPlanEntrySize : ℕ := 8

/-! ### The contiguous plan -/

/-- How many of the layers from `nextLayer` on the next tile takes: its share of what is left, rounded up. -/
def nextShare (nLayers remainingTiles nextLayer : ℕ) : ℕ :=
  let remainingLayers := uint32 (nLayers + 2 ^ 32 - nextLayer)
  uint32 (sizeT (remainingLayers + remainingTiles - 1) / remainingTiles)

/-- The ranges of the tiles from `tile` on. -/
def assignRanges (nLayers : ℕ) : ℕ → ℕ → ℕ → List LayerShard
  | 0, _, _ => []
  | remainingTiles + 1, tile, nextLayer =>
    let count := nextShare nLayers (remainingTiles + 1) nextLayer
    ⟨uint32 tile, nextLayer, uint32 (nextLayer + count)⟩ ::
      assignRanges nLayers remainingTiles (tile + 1) (uint32 (nextLayer + count))

/-- The inner loop that enters the layers of one tile in `layer_to_tile`. -/
def fillLayers (nLayers : ℕ) (shard : LayerShard) (layerToTile : ℕ → ℕ) : Except Status (ℕ → ℕ) :=
  (List.range' shard.layerStart (shard.layerEnd - shard.layerStart)).foldlM
    (fun layerToTile layer =>
      if nLayers ≤ layer then .error .state else .ok (Function.update layerToTile layer shard.tileId))
    layerToTile

/-- `att1_shard_plan_build`, on the config of the model. -/
def shardPlanBuild (host : Host) (config : ModelConfig) (tileCount : ℕ) : Except Status ShardPlan := do
  rejectIf (tileCount = 0 ∨ uint32Max < tileCount ∨ config.nLayers = 0) .invalidArg
  rejectIf (config.shardCount ≠ 0) .unsupported
  rejectIf (¬ (host.calloc tileCount layerShardSize ∧ host.calloc config.nLayers 4)) .oom
  let ranges := assignRanges config.nLayers tileCount 0 0
  let layerToTile ← ranges.foldlM (fun layerToTile shard => fillLayers config.nLayers shard layerToTile) fun _ => 0
  .ok
    { tileCount := tileCount
      layerCount := config.nLayers
      tiles := fun tile => ranges.getD tile {}
      layerToTile := layerToTile }

/-- `att1_shard_plan_layer_tile`. -/
def ShardPlan.layerTile (plan : ShardPlan) (layerId : ℕ) : Except Status ℕ :=
  if plan.layerCount ≤ layerId then .error .invalidArg
  else if plan.tileCount ≤ plan.layerToTile layerId then .error .state
  else .ok (plan.layerToTile layerId)

/-! ### The plan of the metadata -/

/-- The digits loop of `parse_layer_id`: the number, in 32 bits, and what follows the digits. -/
def parseDigits : List UInt8 → ℕ → ℕ × List UInt8
  | [], layer => (layer, [])
  | c :: rest, layer =>
    if 48 ≤ c.toNat ∧ c.toNat ≤ 57 then parseDigits rest (uint32 (uint32 (layer * 10) + (c.toNat - 48)))
    else (layer, c :: rest)

/-- `parse_layer_id`, on the text of a name. -/
def parseLayerId (name : List UInt8) : Option ℕ :=
  if ¬ (ascii "layers.").isPrefixOf name then none
  else
    let p := name.drop 7
    match p with
    | [] => none
    | c :: _ =>
      if ¬ (48 ≤ c.toNat ∧ c.toNat ≤ 57) then none
      else
        let r := parseDigits p 0
        if r.2.head? = some 0x2e then some r.1 else none

/-- `struct layer_slot`. -/
structure LayerSlot where
  seen : Bool := false
  tileId : ℕ := 0
  conflict : Bool := false
  deriving DecidableEq, Repr

/-- What pass 1 of `att1_meta_plan_build` carries. -/
structure MetaScan where
  slots : ℕ → LayerSlot := fun _ => {}
  extra : ℕ := 0
  conflict : ℕ := 0

/-- The layer that a record is about, if it is about one. -/
def recordLayer (model : Model) (record : ShardMetaRecord) : Option ℕ :=
  if uint32 model.tensors.length ≤ record.tensorId then none
  else
    match model.tensors[record.tensorId]? with
    | none => none
    | some tensor =>
      match parseLayerId (cString tensor.name) with
      | none => none
      | some layerId => if model.config.nLayers ≤ layerId then none else some layerId

/-- One turn of pass 1. -/
def MetaScan.step (model : Model) (scan : MetaScan) (record : ShardMetaRecord) : MetaScan :=
  match recordLayer model record with
  | none => { scan with extra := uint32 (scan.extra + 1) }
  | some layerId =>
    let slot := scan.slots layerId
    if record.tileId = shardTileUnassigned then scan
    else if slot.seen = false then
      { scan with slots := Function.update scan.slots layerId { slot with seen := true, tileId := record.tileId } }
    else if slot.tileId ≠ record.tileId ∧ slot.conflict = false then
      { scan with
        slots := Function.update scan.slots layerId { slot with conflict := true }
        conflict := uint32 (scan.conflict + 1) }
    else scan

/-- `att1_meta_plan_build`. -/
def metaPlanBuild (host : Host) (model : Model) : Except Status MetaPlan :=
  let nLayers := model.config.nLayers
  if model.shardMeta.length = 0 ∨ nLayers = 0 then .ok {}
  else if ¬ host.calloc nLayers 12 then .error .oom
  else
    let scan := (model.shardMeta.take (uint32 model.shardMeta.length)).foldl (MetaScan.step model) {}
    let entries :=
      ((List.range nLayers).filter fun layer => (scan.slots layer).seen).map fun layer =>
        ⟨layer, (scan.slots layer).tileId⟩
    if entries.length ≠ 0 ∧ ¬ host.calloc entries.length metaPlanEntrySize then .error .oom
    else .ok ⟨entries, scan.extra, scan.conflict⟩

/-! ### From the metadata plan to a shard plan -/

/-- One turn of the loop of `att1_shard_plan_from_meta`: entry `i` extends the range of its tile. -/
def placeEntry (nLayers tileCount : ℕ) (plan : ShardPlan) (x : MetaPlanEntry × ℕ) : Except Status ShardPlan := do
  let entry := x.1
  rejectIf (entry.layerId ≠ x.2) .invalidArg
  rejectIf (tileCount ≤ entry.tileId) .invalidArg
  let shard := plan.tiles entry.tileId
  let shard ←
    (if shard.layerStart = nLayers then
      .ok { shard with layerStart := entry.layerId, layerEnd := uint32 (entry.layerId + 1) }
    else if shard.layerEnd = entry.layerId then .ok { shard with layerEnd := uint32 (entry.layerId + 1) }
    else .error .invalidArg : Except Status LayerShard)
  .ok
    { plan with
      tiles := Function.update plan.tiles entry.tileId shard
      layerToTile := Function.update plan.layerToTile entry.layerId entry.tileId }

/-- A tile that got no layer has the empty range at 0. -/
def fixEmpty (nLayers : ℕ) (shard : LayerShard) : LayerShard :=
  if shard.layerStart = nLayers then { shard with layerStart := 0, layerEnd := 0 } else shard

/-- `att1_shard_plan_from_meta`; both loops over the tiles count to `(uint32_t)tile_count`. -/
def shardPlanFromMeta (host : Host) (proposed : MetaPlan) (nLayers tileCount : ℕ) : Except Status ShardPlan := do
  rejectIf (tileCount = 0 ∨ nLayers = 0) .invalidArg
  rejectIf (proposed.entries.length ≠ nLayers) .invalidArg
  rejectIf (0 < proposed.conflict) .invalidArg
  rejectIf (uint32 (sizeMax / 4) < nLayers) .oom
  rejectIf (¬ (host.calloc nLayers 4 ∧ host.calloc tileCount layerShardSize)) .oom
  let initial : ShardPlan :=
    { tileCount := tileCount
      layerCount := nLayers
      tiles := fun tile => if tile < uint32 tileCount then ⟨tile, nLayers, 0⟩ else {}
      layerToTile := fun _ => 0 }
  let plan ← proposed.entries.zipIdx.foldlM (placeEntry nLayers tileCount) initial
  .ok
    { plan with
      tiles := fun tile => if tile < uint32 tileCount then fixEmpty nLayers (plan.tiles tile) else plan.tiles tile }

/-! ### The comparison -/

/-- One turn of the loop of `att1_meta_plan_compare`. -/
def compareLayer (proposed : MetaPlan) (runtime : ShardPlan) (diff : MetaPlanDiff) (layerId : ℕ) : MetaPlanDiff :=
  match proposed.entries.find? fun entry => entry.layerId = layerId with
  | none => { diff with missing := uint32 (diff.missing + 1) }
  | some entry =>
    let runtimeTile :=
      match runtime.layerTile layerId with
      | .ok tile => tile
      | .error _ => 0
    if entry.tileId = runtimeTile then { diff with matching := uint32 (diff.matching + 1) }
    else { diff with mismatch := uint32 (diff.mismatch + 1) }

/-- `att1_meta_plan_compare`. -/
def metaPlanCompare (proposed : MetaPlan) (runtime : ShardPlan) : MetaPlanDiff :=
  (List.range (uint32 runtime.layerCount)).foldl (compareLayer proposed runtime)
    { extra := proposed.extra, conflict := proposed.conflict }

/-! ### The number of tiles -/

theorem shardPlanBuild_tileCount {host : Host} {config : ModelConfig} {tileCount : ℕ} {plan : ShardPlan}
    (h : shardPlanBuild host config tileCount = .ok plan) : plan.tileCount = tileCount := by
  unfold shardPlanBuild at h
  simp only [rejectIf_bind_eq_ok] at h
  obtain ⟨-, -, -, h⟩ := h
  obtain ⟨_, -, h⟩ := bind_eq_ok.mp h
  cases h
  rfl

theorem placeEntry_tileCount {nLayers tileCount : ℕ} {plan plan' : ShardPlan} {x : MetaPlanEntry × ℕ}
    (h : placeEntry nLayers tileCount plan x = .ok plan') : plan'.tileCount = plan.tileCount := by
  unfold placeEntry at h
  simp only [rejectIf_bind_eq_ok] at h
  obtain ⟨-, -, h⟩ := h
  obtain ⟨_, -, h⟩ := bind_eq_ok.mp h
  cases h
  rfl

theorem shardPlanFromMeta_tileCount {host : Host} {proposed : MetaPlan} {nLayers tileCount : ℕ} {plan : ShardPlan}
    (h : shardPlanFromMeta host proposed nLayers tileCount = .ok plan) : plan.tileCount = tileCount := by
  unfold shardPlanFromMeta at h
  simp only [rejectIf_bind_eq_ok] at h
  obtain ⟨-, -, -, -, -, h⟩ := h
  obtain ⟨placed, hplaced, h⟩ := bind_eq_ok.mp h
  cases h
  let P : ShardPlan → Prop := fun plan => plan.tileCount = tileCount
  have hstep : ∀ plan x plan', x ∈ proposed.entries.zipIdx → P plan →
      placeEntry nLayers tileCount plan x = .ok plan' → P plan' :=
    fun _ _ _ _ hp hx => (placeEntry_tileCount hx).trans hp
  have hplan : P placed := foldlM_invariant rfl hstep hplaced
  exact hplan

end Att1
