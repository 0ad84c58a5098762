import Att1.Shard.Plan

/-!
# Att1.Shard.Balance — the default plan is a balanced partition

* `Balanced`: consecutive ranges from layer 0 to the last, whose sizes differ by at most one and do not increase.
* `shardPlanBuild_balanced`: every plan that is built is balanced, and which arguments a plan is built for.
-/

open Att1.Lib Att1.ModelFile

namespace Att1

/-- The size of the range of a tile. -/
def LayerShard.size (shard : LayerShard) : ℕ := shard.layerEnd - shard.layerStart

/-- A plan that partitions the layers evenly: the ranges follow one another from layer 0 to the last, an earlier tile
has as many layers as a later one or one more, and `layer_to_tile` is the inverse of the ranges. -/
structure Balanced (plan : ShardPlan) (nLayers tileCount : ℕ) : Prop where
  tileCount_eq : plan.tileCount = tileCount
  layerCount_eq : plan.layerCount = nLayers
  tileId : ∀ tile < tileCount, (plan.tiles tile).tileId = tile
  first : (plan.tiles 0).layerStart = 0
  next : ∀ tile, tile + 1 < tileCount → (plan.tiles (tile + 1)).layerStart = (plan.tiles tile).layerEnd
  last : (plan.tiles (tileCount - 1)).layerEnd = nLayers
  ordered : ∀ tile < tileCount, (plan.tiles tile).layerStart ≤ (plan.tiles tile).layerEnd
  even : ∀ i j, i ≤ j → j < tileCount →
    (plan.tiles j).size ≤ (plan.tiles i).size ∧ (plan.tiles i).size ≤ (plan.tiles j).size + 1
  covered : ∀ layer < nLayers,
    ∃! tile, tile < tileCount ∧ (plan.tiles tile).layerStart ≤ layer ∧ layer < (plan.tiles tile).layerEnd
  inverse : ∀ layer < nLayers, ∀ tile < tileCount,
    plan.layerToTile layer = tile ↔ (plan.tiles tile).layerStart ≤ layer ∧ layer < (plan.tiles tile).layerEnd

theorem Shared.size_eq {plan : ShardPlan} {nLayers tileCount tile : ℕ} (h : Shared plan nLayers tileCount)
    (htile : tile < tileCount) :
    (plan.tiles tile).size = nLayers / tileCount + if tile < nLayers % tileCount then 1 else 0 := by
  have hlen : tile < (shares tileCount nLayers).length := by rwa [length_shares]
  rw [h.tiles_eq tile htile]
  show startOf (shares tileCount nLayers) (tile + 1) - startOf (shares tileCount nLayers) tile = _
  rw [startOf_succ hlen, Nat.add_sub_cancel_left, getElem_shares]

theorem Shared.balanced {plan : ShardPlan} {nLayers tileCount : ℕ} (h : Shared plan nLayers tileCount)
    (htiles : 0 < tileCount) : Balanced plan nLayers tileCount := by
  have hc := contiguous_shares nLayers htiles
  have hd := h.deals
  have hinverse : ∀ layer < nLayers, ∀ tile < tileCount, plan.layerToTile layer = tile ↔
      (plan.tiles tile).layerStart ≤ layer ∧ layer < (plan.tiles tile).layerEnd := by
    intro layer hlayer tile htile
    rw [hd.layerToTile_eq layer hlayer, hc.owner_eq layer hlayer tile htile, hd.mem_iff tile htile]
  refine ⟨h.tileCount_eq, h.layerCount_eq, fun tile htile => ?_, ?_, fun tile htile => ?_, ?_, fun tile htile => ?_,
    fun i j hij hj => ?_, fun layer hlayer => ?_, hinverse⟩
  · rw [h.tiles_eq tile htile]
  · rw [h.tiles_eq 0 htiles]
    exact startOf_zero (shares tileCount nLayers)
  · rw [h.tiles_eq _ htile, h.tiles_eq tile (by omega)]
  · obtain ⟨t, rfl⟩ := Nat.exists_eq_succ_of_ne_zero htiles.ne'
    rw [h.tiles_eq _ (by omega)]
    show startOf (shares (t + 1) nLayers) (t + 1) = _
    have hlast := startOf_length (shares (t + 1) nLayers)
    rwa [length_shares, sum_shares] at hlast
  · rw [h.tiles_eq tile htile]
    exact hc.start_le tile htile
  · rw [h.size_eq hj, h.size_eq (by omega)]
    split_ifs <;> omega
  · refine ⟨plan.layerToTile layer, ⟨?_, ?_⟩, fun tile htile => ?_⟩
    · show plan.layerToTile layer < tileCount
      rw [hd.layerToTile_eq layer hlayer]
      exact hc.owner_lt layer hlayer
    · have hlt : plan.layerToTile layer < tileCount := by
        rw [hd.layerToTile_eq layer hlayer]
        exact hc.owner_lt layer hlayer
      exact (hinverse layer hlayer _ hlt).mp rfl
    · exact ((hinverse layer hlayer tile htile.1).mpr htile.2).symm

/-- What the builder asks of its arguments and of the allocator. -/
structure Buildable (host : Host) (config : ModelConfig) (tileCount : ℕ) : Prop where
  tiles : 1 ≤ tileCount ∧ tileCount ≤ uint32Max
  layers : 1 ≤ config.nLayers
  unsharded : config.shardCount = 0
  granted : host.calloc tileCount layerShardSize = true ∧ host.calloc config.nLayers 4 = true

theorem Buildable.of_ok {host : Host} {config : ModelConfig} {tileCount : ℕ} {plan : ShardPlan}
    (h : shardPlanBuild host config tileCount = .ok plan) : Buildable host config tileCount := by
  unfold shardPlanBuild at h
  simp only [rejectIf_bind_eq_ok] at h
  obtain ⟨hargs, hshards, hcalloc, -⟩ := h
  rw [not_not] at hshards hcalloc
  exact ⟨by omega, by omega, hshards, hcalloc⟩

/-- **The default shard plan is a balanced partition.** -/
theorem shardPlanBuild_balanced (host : Host) (config : ModelConfig) (tileCount : ℕ)
    (hlayers : config.nLayers ≤ uint32Max) :
    ((∃ plan, shardPlanBuild host config tileCount = .ok plan) ↔ Buildable host config tileCount) ∧
    ∀ plan, shardPlanBuild host config tileCount = .ok plan → Balanced plan config.nLayers tileCount := by
  have hbuild (h : Buildable host config tileCount) :
      ∃ plan, shardPlanBuild host config tileCount = .ok plan ∧ Shared plan config.nLayers tileCount :=
    shardPlanBuild_shared h.tiles.1 h.tiles.2 h.layers hlayers h.unsharded h.granted.1 h.granted.2
  refine ⟨⟨fun ⟨plan, hplan⟩ => .of_ok hplan, fun h => ?_⟩, fun plan hplan => ?_⟩
  · obtain ⟨plan, hplan, -⟩ := hbuild h
    exact ⟨plan, hplan⟩
  · have h := Buildable.of_ok hplan
    obtain ⟨plan', hplan', hshared⟩ := hbuild h
    obtain rfl : plan = plan' := Except.ok.inj (hplan.symm.trans hplan')
    exact hshared.balanced h.tiles.1

/-- A tile count that does not fit in 32 bits is refused. -/
theorem shardPlanBuild_large_count : 1 ≤ ({ nLayers := 1 } : ModelConfig).nLayers ∧ 1 ≤ 2 ^ 32 ∧
    shardPlanBuild .generous { nLayers := 1 } (2 ^ 32) = .error .invalidArg :=
  ⟨by decide, by decide, rfl⟩

/-- Five layers on two tiles. -/
theorem shardPlanBuild_balanced_five : ∃ plan, shardPlanBuild .generous { nLayers := 5 } 2 = .ok plan ∧
    Balanced plan 5 2 := by
  obtain ⟨hbuild, hbalanced⟩ := shardPlanBuild_balanced .generous { nLayers := 5 } 2 (by decide)
  obtain ⟨plan, hplan⟩ := hbuild.mpr ⟨by decide, by decide, rfl, rfl, rfl⟩
  exact ⟨plan, hplan, hbalanced plan hplan⟩

end Att1
