import Att1.Lib.Partition
import Att1.Shard.Model

/-!
# Att1.Shard.Plan — the plans of `src/shard.c` as contiguous partitions

* `shardPlanBuild_shared`: the plan gives every tile in turn its share of the layers that are left (`Lib.shares`).
* `Deals`: what a plan of a contiguous partition says.
-/

open Att1.Lib Att1.ModelFile

namespace Att1

/-! ### The contiguous plan -/

/-- The ranges of consecutive tiles that take `counts` layers from layer `start` on. -/
def rangesOf : ℕ → ℕ → List ℕ → List LayerShard
  | _, _, [] => []
  | tile, start, c :: cs => ⟨tile, start, start + c⟩ :: rangesOf (tile + 1) (start + c) cs

theorem getElem?_rangesOf {tile start j : ℕ} {counts : List ℕ} (hj : j < counts.length) :
    (rangesOf tile start counts)[j]? =
      some ⟨tile + j, start + startOf counts j, start + startOf counts (j + 1)⟩ := by
  induction counts generalizing tile start j with
  | nil => simp at hj
  | cons c cs ih =>
    cases j with
    | zero => simp [rangesOf]
    | succ j =>
      rw [rangesOf, List.getElem?_cons_succ, ih (by simpa using hj), startOf_cons_succ, startOf_cons_succ]
      congr 2
      · omega
      · omega
      · omega

theorem nextShare_eq {nLayers remainingTiles nextLayer : ℕ} (hn : nLayers ≤ uint32Max) (hnext : nextLayer ≤ nLayers)
    (ht : remainingTiles + 1 ≤ uint32Max) :
    nextShare nLayers (remainingTiles + 1) nextLayer = (nLayers - nextLayer + remainingTiles) / (remainingTiles + 1) := by
  unfold uint32Max at hn ht
  have hleft : uint32 (nLayers + 2 ^ 32 - nextLayer) = nLayers - nextLayer := by
    unfold uint32
    omega
  have hsum : sizeT (nLayers - nextLayer + (remainingTiles + 1) - 1) = nLayers - nextLayer + remainingTiles :=
    sizeT_eq (by unfold sizeMax; omega)
  have hle := share_le remainingTiles (nLayers - nextLayer)
  unfold nextShare
  dsimp only
  rw [hleft, hsum]
  exact uint32_eq (by unfold uint32Max; omega)

/-- The ranges that the builder assigns are those of the shares. -/
theorem assignRanges_eq {nLayers remainingTiles tile nextLayer : ℕ} (hn : nLayers ≤ uint32Max)
    (hnext : nextLayer ≤ nLayers) (ht : tile + remainingTiles ≤ uint32Max) :
    assignRanges nLayers remainingTiles tile nextLayer =
      rangesOf tile nextLayer (shares remainingTiles (nLayers - nextLayer)) := by
  induction remainingTiles generalizing tile nextLayer with
  | zero => rfl
  | succ r ih =>
    have hshare := nextShare_eq hn hnext (show r + 1 ≤ uint32Max by omega)
    have hle := share_le r (nLayers - nextLayer)
    rw [assignRanges, shares, rangesOf, hshare, uint32_eq (show tile ≤ uint32Max by omega),
      uint32_eq (show nextLayer + (nLayers - nextLayer + r) / (r + 1) ≤ uint32Max by omega),
      ih (by omega) (by omega)]
    congr 3
    omega

/-- The layers of one tile are entered. -/
theorem fillLayers_eq {nLayers : ℕ} {shard : LayerShard} (hle : shard.layerEnd ≤ nLayers) (layerToTile : ℕ → ℕ) :
    fillLayers nLayers shard layerToTile =
      .ok fun layer => if shard.layerStart ≤ layer ∧ layer < shard.layerEnd then shard.tileId else layerToTile layer := by
  unfold fillLayers
  obtain ⟨tile, start, stop⟩ := shard
  simp only at hle ⊢
  obtain ⟨count, hcount⟩ : ∃ count, count = stop - start := ⟨_, rfl⟩
  rw [← hcount]
  induction count generalizing start layerToTile with
  | zero =>
    have hnone : ∀ layer, ¬ (start ≤ layer ∧ layer < stop) := fun layer h => by omega
    simp only [hnone, if_false]
    rfl
  | succ count ih =>
    rw [List.range'_succ, List.foldlM_cons, if_neg (by omega)]
    show List.foldlM _ (Function.update layerToTile start tile) (List.range' (start + 1) count) = _
    rw [ih _ _ (by omega)]
    congr 1
    ext layer
    rcases eq_or_ne layer start with rfl | hne
    · rw [if_neg (by omega), Function.update_self, if_pos (by omega)]
    · rw [Function.update_of_ne hne]
      exact if_congr (by omega) rfl rfl

/-- All ranges are entered. -/
theorem foldlM_fillLayers {nLayers tile start : ℕ} {counts : List ℕ} (hle : start + counts.sum ≤ nLayers)
    (layerToTile : ℕ → ℕ) :
    (rangesOf tile start counts).foldlM (fun layerToTile shard => fillLayers nLayers shard layerToTile) layerToTile =
      .ok fun layer =>
        if start ≤ layer ∧ layer < start + counts.sum then (owners tile counts).getD (layer - start) 0
        else layerToTile layer := by
  induction counts generalizing tile start layerToTile with
  | nil =>
    have hnone : ∀ layer, ¬ (start ≤ layer ∧ layer < start + [].sum) := fun layer h => by simp at h; omega
    simp only [hnone, if_false]
    rfl
  | cons c cs ih =>
    rw [List.sum_cons] at hle ⊢
    rw [rangesOf, List.foldlM_cons, fillLayers_eq (by show start + c ≤ nLayers; omega)]
    show List.foldlM _ _ (rangesOf (tile + 1) (start + c) cs) = _
    rw [ih (by omega)]
    congr 1
    ext layer
    simp only [owners, List.getD_eq_getElem?_getD]
    by_cases hin : start ≤ layer ∧ layer < start + (c + cs.sum)
    · rw [if_pos hin]
      by_cases hc : layer < start + c
      · rw [if_neg (by omega), if_pos ⟨hin.1, hc⟩, List.getElem?_append_left (by simp; omega),
          List.getElem?_replicate, if_pos (by omega)]
        rfl
      · rw [if_pos (by omega), List.getElem?_append_right (by simp; omega), List.length_replicate, Nat.sub_sub]
    · rw [if_neg hin, if_neg (by omega), if_neg (by omega)]

/-- The plan deals the layers out to the tiles by their shares. -/
structure Deals (plan : ShardPlan) (nLayers tileCount : ℕ) (start owner : ℕ → ℕ) : Prop where
  tileCount_eq : plan.tileCount = tileCount
  layerCount_eq : plan.layerCount = nLayers
  layerToTile_eq : ∀ layer < nLayers, plan.layerToTile layer = owner layer
  mem_iff : ∀ tile < tileCount, ∀ layer,
    (plan.tiles tile).layerStart ≤ layer ∧ layer < (plan.tiles tile).layerEnd ↔
      start tile ≤ layer ∧ layer < start (tile + 1)

/-- Where the layers of a tile start in the plan of the builder. -/
def shareStart (nLayers tileCount tile : ℕ) : ℕ := startOf (shares tileCount nLayers) tile

/-- The tile of a layer in the plan of the builder. -/
def shareOwner (nLayers tileCount layer : ℕ) : ℕ := (owners 0 (shares tileCount nLayers)).getD layer 0

theorem contiguous_shares (nLayers : ℕ) {tileCount : ℕ} (h : 0 < tileCount) :
    Contiguous nLayers tileCount (shareStart nLayers tileCount) (shareOwner nLayers tileCount) := by
  obtain ⟨t, rfl⟩ := Nat.exists_eq_succ_of_ne_zero h.ne'
  have hcontiguous := contiguous_owners (sum_shares t nLayers)
  rw [length_shares] at hcontiguous
  exact hcontiguous

/-- The plan of the shares. -/
structure Shared (plan : ShardPlan) (nLayers tileCount : ℕ) : Prop where
  tileCount_eq : plan.tileCount = tileCount
  layerCount_eq : plan.layerCount = nLayers
  tiles_eq : ∀ tile < tileCount,
    plan.tiles tile = ⟨tile, shareStart nLayers tileCount tile, shareStart nLayers tileCount (tile + 1)⟩
  layerToTile_eq : ∀ layer < nLayers, plan.layerToTile layer = shareOwner nLayers tileCount layer

theorem Shared.deals {plan : ShardPlan} {nLayers tileCount : ℕ} (h : Shared plan nLayers tileCount) :
    Deals plan nLayers tileCount (shareStart nLayers tileCount) (shareOwner nLayers tileCount) := by
  refine ⟨h.tileCount_eq, h.layerCount_eq, h.layerToTile_eq, fun tile htile layer => ?_⟩
  rw [h.tiles_eq tile htile]

/-- **The builder deals by shares.** -/
theorem shardPlanBuild_shared {host : Host} {config : ModelConfig} {tileCount : ℕ} (htiles : 0 < tileCount)
    (htiles' : tileCount ≤ uint32Max) (hlayers : 0 < config.nLayers) (hlayers' : config.nLayers ≤ uint32Max)
    (hshards : config.shardCount = 0) (hcalloc : host.calloc tileCount layerShardSize = true)
    (hcalloc' : host.calloc config.nLayers 4 = true) :
    ∃ plan, shardPlanBuild host config tileCount = .ok plan ∧ Shared plan config.nLayers tileCount := by
  obtain ⟨t, rfl⟩ := Nat.exists_eq_succ_of_ne_zero htiles.ne'
  have hsum : (shares (t + 1) config.nLayers).sum = config.nLayers := sum_shares t config.nLayers
  have hranges : assignRanges config.nLayers (t + 1) 0 0 = rangesOf 0 0 (shares (t + 1) config.nLayers) :=
    assignRanges_eq hlayers' (Nat.zero_le _) (by omega)
  have hfill := @foldlM_fillLayers config.nLayers 0 0 (shares (t + 1) config.nLayers) (by omega) fun _ => 0
  refine ⟨_, rejectIf_bind_eq_ok.mpr ⟨by omega, rejectIf_bind_eq_ok.mpr ⟨by simp [hshards],
    rejectIf_bind_eq_ok.mpr ⟨by simp [hcalloc, hcalloc'], bind_eq_ok.mpr ⟨_, hranges ▸ hfill, rfl⟩⟩⟩⟩, ?_⟩
  refine ⟨rfl, rfl, fun tile htile => ?_, fun layer hlayer => ?_⟩
  · have hget := @getElem?_rangesOf 0 0 tile (shares (t + 1) config.nLayers) (by rwa [length_shares])
    show (assignRanges config.nLayers (t + 1) 0 0).getD tile {} = _
    rw [hranges, List.getD_eq_getElem?_getD, hget, Option.getD_some]
    simp only [Nat.zero_add]
    rfl
  · show (if 0 ≤ layer ∧ layer < 0 + _ then _ else _) = _
    rw [if_pos ⟨Nat.zero_le _, by omega⟩, Nat.sub_zero]
    rfl

/-! ### The proposal of the records -/

/-- The entry that names the owner of a layer. -/
def ownerEntry (owner : ℕ → ℕ) (layer : ℕ) : MetaPlanEntry := ⟨layer, owner layer⟩

end Att1
