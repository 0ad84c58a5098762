import Att1.Cluster.Model
import Att1.Shard.FromMeta
import Mathlib.Data.List.Sort

/-!
# Att1.Cluster.Visits — in which order the tiles of a plan run the layers

* `ShardPlan.Complete`: every layer belongs to one tile, and the range of a tile is made of its layers.
  `planComplete_iff`: this is what the check in front of every decode finds out.
* `ShardPlan.visited`: the layers in the order in which the tiles run them.  Each is there once (`Complete.perm`), and
  they are in their own order exactly when later layers are on later tiles (`Complete.visited_eq_iff`).
-/

open Att1.Lib Att1.ModelFile

namespace Att1

namespace ShardPlan

/-- The layers that a tile runs, in order. -/
def layersOf (plan : ShardPlan) (tile : ℕ) : List ℕ :=
  List.range' (plan.tiles tile).layerStart ((plan.tiles tile).layerEnd - (plan.tiles tile).layerStart)

/-- The layers in the order in which a decode visits them. -/
def visited (plan : ShardPlan) : List ℕ := (List.range plan.tileCount).flatMap plan.layersOf

/-- Every layer has one tile, and the range of a tile is made of its layers. -/
structure Complete (plan : ShardPlan) (nLayers : ℕ) : Prop where
  tileCount_pos : 0 < plan.tileCount
  layerCount_eq : plan.layerCount = nLayers
  tileId_eq : ∀ tile < plan.tileCount, (plan.tiles tile).tileId = tile
  range : ∀ tile < plan.tileCount,
    (plan.tiles tile).layerStart ≤ (plan.tiles tile).layerEnd ∧ (plan.tiles tile).layerEnd ≤ nLayers
  owner_lt : ∀ layer < nLayers, plan.layerToTile layer < plan.tileCount
  mem_iff : ∀ tile < plan.tileCount, ∀ layer < nLayers, layer ∈ plan.layersOf tile ↔ plan.layerToTile layer = tile

variable {plan : ShardPlan} {nLayers tile layer : ℕ}

theorem mem_layersOf :
    layer ∈ plan.layersOf tile ↔ (plan.tiles tile).layerStart ≤ layer ∧ layer < (plan.tiles tile).layerEnd := by
  unfold layersOf
  rw [List.mem_range'_1]
  omega

namespace Complete

variable (h : plan.Complete nLayers)

include h

theorem lt_of_mem (htile : tile < plan.tileCount) (hlayer : layer ∈ plan.layersOf tile) : layer < nLayers := by
  have hlt := (mem_layersOf.mp hlayer).2
  have hle := (h.range tile htile).2
  omega

theorem owner_eq (htile : tile < plan.tileCount) (hlayer : layer ∈ plan.layersOf tile) :
    plan.layerToTile layer = tile :=
  (h.mem_iff tile htile layer (h.lt_of_mem htile hlayer)).mp hlayer

theorem mem_visited : layer ∈ plan.visited ↔ layer < nLayers := by
  unfold visited
  rw [List.mem_flatMap]
  constructor
  · rintro ⟨tile, htile, hlayer⟩
    exact h.lt_of_mem (List.mem_range.mp htile) hlayer
  · intro hlayer
    have howner := h.owner_lt layer hlayer
    exact ⟨_, List.mem_range.mpr howner, (h.mem_iff _ howner layer hlayer).mpr rfl⟩

/-- Later in the order of visits: on a later tile, or after it on the same one. -/
theorem pairwise_visited : plan.visited.Pairwise fun i j =>
    plan.layerToTile i < plan.layerToTile j ∨ plan.layerToTile i = plan.layerToTile j ∧ i < j := by
  unfold visited
  rw [List.pairwise_flatMap]
  refine ⟨fun tile htile => ?_, ?_⟩
  · have hlt := List.mem_range.mp htile
    refine (List.pairwise_lt_range' (s := (plan.tiles tile).layerStart)).imp_of_mem fun hi hj hij => ?_
    exact .inr ⟨(h.owner_eq hlt hi).trans (h.owner_eq hlt hj).symm, hij⟩
  · refine List.pairwise_lt_range.imp_of_mem fun ha hb hab i hi j hj => ?_
    rw [h.owner_eq (List.mem_range.mp ha) hi, h.owner_eq (List.mem_range.mp hb) hj]
    exact .inl hab

theorem nodup_visited : plan.visited.Nodup :=
  h.pairwise_visited.imp fun hij heq => by
    subst heq
    omega

/-- **Every layer is run once.** -/
theorem perm_visited : plan.visited.Perm (List.range nLayers) := by
  rw [List.perm_ext_iff_of_nodup h.nodup_visited List.nodup_range]
  exact fun layer => h.mem_visited.trans List.mem_range.symm

/-- **When the layers are run in order**: if no layer is on an earlier tile than a layer before it. -/
theorem visited_eq_iff : plan.visited = List.range nLayers ↔
    ∀ i j, i ≤ j → j < nLayers → plan.layerToTile i ≤ plan.layerToTile j := by
  constructor
  · intro heq i j hij hj
    have hpair := h.pairwise_visited
    rw [heq, List.pairwise_iff_getElem] at hpair
    rcases hij.eq_or_lt with rfl | hlt
    · exact le_rfl
    · have hij' := hpair i j (by simpa using by omega) (by simpa using hj) hlt
      rw [List.getElem_range, List.getElem_range] at hij'
      omega
  · intro hmono
    have hsorted : plan.visited.Pairwise (· < ·) := by
      refine h.pairwise_visited.imp_of_mem fun {i j} hi hj hij => ?_
      by_contra hle
      have hback := hmono j i (by omega) (h.mem_visited.mp hi)
      omega
    exact h.perm_visited.eq_of_pairwise (fun a b _ _ hab hba => absurd (hab.trans hba) (lt_irrefl _)) hsorted
      List.pairwise_lt_range

end Complete

end ShardPlan

/-! ### The plans that are made -/

/-- The plan of shares is complete. -/
theorem Shared.complete {plan : ShardPlan} {nLayers tileCount : ℕ} (h : Shared plan nLayers tileCount)
    (htiles : 0 < tileCount) : plan.Complete nLayers := by
  have hc := contiguous_shares nLayers htiles
  obtain ⟨htileCount, hlayerCount, htilesEq, howner⟩ := h
  subst htileCount
  refine ⟨htiles, hlayerCount, fun tile htile => by rw [htilesEq tile htile], fun tile htile => ?_,
    fun layer hlayer => ?_, fun tile htile layer hlayer => ?_⟩
  · rw [htilesEq tile htile]
    exact ⟨hc.start_le tile htile, hc.start_le_items (tile + 1) htile⟩
  · rw [howner layer hlayer]
    exact hc.owner_lt layer hlayer
  · rw [ShardPlan.mem_layersOf, htilesEq tile htile, howner layer hlayer]
    exact (hc.owner_eq layer hlayer tile htile).symm

/-- Its tiles are in the order of their layers. -/
theorem Shared.visited_eq {plan : ShardPlan} {nLayers tileCount : ℕ} (h : Shared plan nLayers tileCount)
    (htiles : 0 < tileCount) : plan.visited = List.range nLayers := by
  rw [(h.complete htiles).visited_eq_iff]
  intro i j hij hj
  have hc := contiguous_shares nLayers htiles
  rw [h.layerToTile_eq i (by omega), h.layerToTile_eq j hj]
  have hi' := (hc.owner_eq i (by omega) _ (hc.owner_lt i (by omega))).mp rfl
  have hj' := (hc.owner_eq j hj _ (hc.owner_lt j hj)).mp rfl
  by_contra hlt
  -- the layers of the tile of `j` all come before those of the tile of `i`
  have hmono : shareStart nLayers tileCount (shareOwner nLayers tileCount j + 1) ≤
      shareStart nLayers tileCount (shareOwner nLayers tileCount i) := startOf_mono _ (by omega)
  omega

/-- A plan that metadata proposed is complete. -/
theorem Owned.complete {plan : ShardPlan} {nLayers tileCount : ℕ} {owner : ℕ → ℕ}
    (h : Owned plan nLayers tileCount owner) (htiles : 0 < tileCount)
    (hlt : ∀ layer < nLayers, owner layer < tileCount) : plan.Complete nLayers := by
  obtain ⟨rfl, hlayerCount, howner, htileId, hmem, hunused⟩ := h
  refine ⟨htiles, hlayerCount, htileId, fun tile htile => ?_, fun layer hlayer => ?_, fun tile htile layer hlayer => ?_⟩
  · by_cases hused : ∃ layer < nLayers, owner layer = tile
    · obtain ⟨layer, hlayer, heq⟩ := hused
      have hin := (hmem tile htile layer).mpr ⟨hlayer, heq⟩
      have hlast := (hmem tile htile ((plan.tiles tile).layerEnd - 1)).mp (by omega)
      omega
    · rw [hunused tile htile fun layer hlayer heq => hused ⟨layer, hlayer, heq⟩]
      exact ⟨le_rfl, Nat.zero_le _⟩
  · rw [howner layer hlayer]
    exact hlt layer hlayer
  · rw [ShardPlan.mem_layersOf, hmem tile htile layer, howner layer hlayer]
    exact and_iff_right hlayer

namespace ClusterInfer

/-! ### The check -/

variable {K : Type} {infer : ClusterInfer K} {host : Host} {plan : ShardPlan} {seen seen' : ℕ → Bool} {tile : ℕ}

/-- The inner loop marks the range of a tile, if no layer of it is marked and all are owned by the tile. -/
theorem foldlM_mark {start len : ℕ} :
    (List.range' start len).foldlM
        (fun seen layer =>
          if seen layer ∨ plan.layerToTile layer ≠ tile then none else some (Function.update seen layer true))
        seen = some seen' ↔
      (∀ layer ∈ List.range' start len, seen layer = false ∧ plan.layerToTile layer = tile) ∧
        seen' = fun layer => seen layer || decide (layer ∈ List.range' start len) := by
  induction len generalizing start seen with
  | zero =>
    rw [List.range'_zero, List.foldlM_nil]
    have hsame : (fun layer => seen layer || decide (layer ∈ ([] : List ℕ))) = seen := by
      funext layer
      rw [decide_eq_false List.not_mem_nil, Bool.or_false]
    rw [hsame]
    exact ⟨fun h => ⟨fun _ hlayer => absurd hlayer List.not_mem_nil, (Option.some.inj h).symm⟩,
      fun h => congrArg some h.2.symm⟩
  | succ len ih =>
    rw [List.range'_succ, List.foldlM_cons]
    by_cases hbad : seen start = true ∨ plan.layerToTile start ≠ tile
    · rw [if_pos hbad]
      refine iff_of_false (by simp) ?_
      rintro ⟨hall, -⟩
      obtain ⟨hnew, howner⟩ := hall start List.mem_cons_self
      rcases hbad with hseen | hne
      · rw [hnew] at hseen
        cases hseen
      · exact hne howner
    · rw [if_neg hbad]
      obtain ⟨hnew, howner⟩ := not_or.mp hbad
      show (List.range' (start + 1) len).foldlM _ (Function.update seen start true) = some seen' ↔ _
      rw [ih]
      have hfresh : ∀ layer ∈ List.range' (start + 1) len, Function.update seen start true layer = seen layer :=
        fun layer hlayer => Function.update_of_ne (by have := List.mem_range'_1.mp hlayer; omega) _ _
      constructor
      · rintro ⟨hall, rfl⟩
        refine ⟨fun layer hlayer => ?_, funext fun layer => ?_⟩
        · rcases List.mem_cons.mp hlayer with rfl | hrest
          · exact ⟨Bool.not_eq_true _ ▸ hnew, not_not.mp howner⟩
          · have hl := hall layer hrest
            rwa [hfresh layer hrest] at hl
        · by_cases heq : layer = start
          · subst heq
            simp
          · simp [heq]
      · rintro ⟨hall, rfl⟩
        refine ⟨fun layer hlayer => ?_, funext fun layer => ?_⟩
        · rw [hfresh layer hlayer]
          exact hall layer (List.mem_cons_of_mem _ hlayer)
        · by_cases heq : layer = start
          · subst heq
            simp
          · simp [heq]

/-- The turn of a tile. -/
theorem markLayers_iff : markLayers plan seen tile = some seen' ↔
    ((plan.tiles tile).tileId = tile ∧ (plan.tiles tile).layerStart ≤ (plan.tiles tile).layerEnd ∧
      (plan.tiles tile).layerEnd ≤ plan.layerCount ∧
      ∀ layer ∈ plan.layersOf tile, seen layer = false ∧ plan.layerToTile layer = tile) ∧
    seen' = fun layer => seen layer || decide (layer ∈ plan.layersOf tile) := by
  unfold markLayers ShardPlan.layersOf
  dsimp only
  by_cases hbad : (plan.tiles tile).tileId ≠ tile ∨ (plan.tiles tile).layerEnd < (plan.tiles tile).layerStart ∨
      plan.layerCount < (plan.tiles tile).layerEnd
  · rw [if_pos hbad]
    refine iff_of_false (by simp) ?_
    rintro ⟨⟨hid, hle, hcount, -⟩, -⟩
    omega
  · rw [if_neg hbad, foldlM_mark]
    have hgood : (plan.tiles tile).tileId = tile ∧ (plan.tiles tile).layerStart ≤ (plan.tiles tile).layerEnd ∧
        (plan.tiles tile).layerEnd ≤ plan.layerCount := by omega
    rw [and_iff_right hgood.1, and_iff_right hgood.2.1, and_iff_right hgood.2.2]

/-- The turns of the first `n` tiles: what is marked is what belongs to one of them. -/
theorem foldlM_markLayers {n : ℕ} :
    (List.range n).foldlM (markLayers plan) (fun _ => false) = some seen ↔
      (∀ tile < n, (plan.tiles tile).tileId = tile ∧ (plan.tiles tile).layerStart ≤ (plan.tiles tile).layerEnd ∧
        (plan.tiles tile).layerEnd ≤ plan.layerCount ∧ ∀ layer ∈ plan.layersOf tile, plan.layerToTile layer = tile) ∧
      seen = fun layer => decide (∃ tile < n, layer ∈ plan.layersOf tile) := by
  induction n generalizing seen with
  | zero => simp [eq_comm]
  | succ n ih =>
    rw [List.range_succ, List.foldlM_append]
    simp only [List.foldlM_cons, List.foldlM_nil, bind_pure]
    rw [Option.bind_eq_bind, Option.bind_eq_some_iff]
    have hmarked : (fun layer => decide (∃ tile < n, layer ∈ plan.layersOf tile) || decide (layer ∈ plan.layersOf n)) =
        fun layer => decide (∃ tile < n + 1, layer ∈ plan.layersOf tile) := by
      funext layer
      rw [← Bool.decide_or, decide_eq_decide]
      simp only [Nat.lt_succ_iff_lt_or_eq, or_and_right, exists_or, exists_eq_left]
    constructor
    · rintro ⟨mid, hmid, hlast⟩
      obtain ⟨hall, rfl⟩ := ih.mp hmid
      obtain ⟨⟨hid, hle, hcount, hlayers⟩, rfl⟩ := markLayers_iff.mp hlast
      refine ⟨fun tile htile => ?_, hmarked⟩
      rcases Nat.lt_succ_iff_lt_or_eq.mp htile with hlt | rfl
      · exact hall tile hlt
      · exact ⟨hid, hle, hcount, fun layer hlayer => (hlayers layer hlayer).2⟩
    · rintro ⟨hall, rfl⟩
      obtain ⟨hid, hle, hcount, hlayers⟩ := hall n (Nat.lt_succ_self n)
      refine ⟨_, ih.mpr ⟨fun tile htile => hall tile (by omega), rfl⟩,
        markLayers_iff.mpr ⟨⟨hid, hle, hcount, fun layer hlayer => ⟨?_, hlayers layer hlayer⟩⟩, hmarked.symm⟩⟩
      -- a layer of this tile is owned by it, so by no tile before it
      refine decide_eq_false fun ⟨tile, htile, hmem⟩ => ?_
      have hother := (hall tile (by omega)).2.2.2 layer hmem
      rw [hlayers layer hlayer] at hother
      omega

/-- **The check in front of a decode** finds exactly the complete plans, if its array is granted. -/
theorem planComplete_iff : infer.planComplete host = true ↔
    infer.shardPlan.Complete infer.model.config.nLayers ∧ host.calloc infer.shardPlan.layerCount 1 = true := by
  unfold planComplete
  dsimp only
  by_cases hbad : infer.shardPlan.tileCount = 0 ∨ infer.shardPlan.layerCount ≠ infer.model.config.nLayers
  · rw [if_pos hbad]
    refine iff_of_false (by simp) ?_
    rintro ⟨h, -⟩
    have := h.tileCount_pos
    have := h.layerCount_eq
    omega
  · rw [if_neg hbad]
    by_cases hcalloc : host.calloc infer.shardPlan.layerCount 1 = true
    · rw [if_neg (not_not.mpr hcalloc), and_iff_left hcalloc]
      cases hfold : (List.range infer.shardPlan.tileCount).foldlM (markLayers infer.shardPlan) fun _ => false with
      | none =>
        refine iff_of_false (by simp) fun h => ?_
        refine Option.some_ne_none _ ((foldlM_markLayers.mpr ⟨fun tile htile => ?_, rfl⟩).symm.trans hfold)
        obtain ⟨hle, hend⟩ := h.range tile htile
        exact ⟨h.tileId_eq tile htile, hle, h.layerCount_eq ▸ hend, fun layer hlayer => h.owner_eq htile hlayer⟩
      | some seen =>
        obtain ⟨hall, rfl⟩ := foldlM_markLayers.mp hfold
        simp only [List.all_eq_true, List.mem_range, decide_eq_true_eq]
        obtain ⟨hpos, hcount⟩ := not_or.mp hbad
        rw [not_not] at hcount
        constructor
        · intro hcovered
          rw [hcount] at hcovered hall
          refine ⟨by omega, hcount, fun tile htile => (hall tile htile).1,
            fun tile htile => ⟨(hall tile htile).2.1, (hall tile htile).2.2.1⟩, fun layer hlayer => ?_,
            fun tile htile layer hlayer => ⟨(hall tile htile).2.2.2 layer, fun howner => ?_⟩⟩
          · obtain ⟨tile, htile, hmem⟩ := hcovered layer hlayer
            rw [(hall tile htile).2.2.2 layer hmem]
            exact htile
          · obtain ⟨tile', htile', hmem⟩ := hcovered layer hlayer
            rw [(hall tile' htile').2.2.2 layer hmem] at howner
            rwa [← howner]
        · intro h layer hlayer
          rw [hcount] at hlayer
          have howner := h.owner_lt layer hlayer
          exact ⟨_, howner, (h.mem_iff _ howner layer hlayer).mpr rfl⟩
    · rw [if_pos hcalloc]
      exact iff_of_false (by simp) fun h => hcalloc h.2

end ClusterInfer

end Att1
