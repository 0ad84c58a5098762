import Mathlib.Data.List.GetD
import Mathlib.Data.List.Sort
import Att1.Shard.Plan

/-!
# Att1.Shard.FromMeta — the plan of a proposal

* `Ranged`: the first layers have been placed, and every tile has the range of its layers.  Every accepted entry keeps
  this (`Ranged.step`), and an entry is accepted while the layers of each tile are unbroken (`Ranged.step_accepted`).
* `shardPlanFromMeta_iff`: the proposals that are accepted, and the plan that is made of them.
* `shardPlanFromMeta_eq`: a contiguous partition is accepted.
* `metaPlanCompare_eq`: two plans with the same owners match on every layer.
-/

open Att1.Lib Att1.ModelFile

namespace Att1

variable {nLayers tileCount : ℕ} {owner : ℕ → ℕ}

/-! ### One entry after the other -/

/-- The first `k` layers have been placed: every tile has the range of its layers. -/
structure Ranged (nLayers tileCount : ℕ) (owner : ℕ → ℕ) (k : ℕ) (plan : ShardPlan) : Prop where
  tileCount_eq : plan.tileCount = tileCount
  layerCount_eq : plan.layerCount = nLayers
  layerToTile_eq : ∀ layer < k, plan.layerToTile layer = owner layer
  range : ∀ tile < tileCount,
    (plan.tiles tile = ⟨tile, nLayers, 0⟩ ∧ ∀ layer < k, owner layer ≠ tile) ∨
      ∃ start stop, plan.tiles tile = ⟨tile, start, stop⟩ ∧ start < stop ∧ stop ≤ k ∧
        ∀ layer < k, owner layer = tile ↔ start ≤ layer ∧ layer < stop

/-- The plan with layer `k` in its tile. -/
def placeIn (plan : ShardPlan) (k tile : ℕ) (shard : LayerShard) : ShardPlan :=
  { plan with
    tiles := Function.update plan.tiles tile shard
    layerToTile := Function.update plan.layerToTile k tile }

theorem placeEntry_eq_ok {plan plan' : ShardPlan} {k tile : ℕ} (hk : k < uint32Max) :
    placeEntry nLayers tileCount plan (⟨k, tile⟩, k) = .ok plan' ↔ tile < tileCount ∧
      ((plan.tiles tile).layerStart = nLayers ∧
          plan' = placeIn plan k tile { plan.tiles tile with layerStart := k, layerEnd := k + 1 } ∨
        (plan.tiles tile).layerStart ≠ nLayers ∧ (plan.tiles tile).layerEnd = k ∧
          plan' = placeIn plan k tile { plan.tiles tile with layerEnd := k + 1 }) := by
  have hcast : uint32 (k + 1) = k + 1 := uint32_eq hk
  unfold placeEntry
  simp only [rejectIf_bind_eq_ok, ne_eq, not_true, not_false_iff, true_and, Nat.not_le, hcast]
  refine and_congr_right fun _ => ?_
  by_cases hfirst : (plan.tiles tile).layerStart = nLayers
  · rw [if_pos hfirst]
    simp only [hfirst, true_and, not_true, false_and, or_false]
    exact ⟨fun h => (Except.ok.inj h).symm, fun h => by rw [h]; rfl⟩
  · rw [if_neg hfirst]
    simp only [hfirst, false_and, false_or, not_false_iff, true_and]
    by_cases hnext : (plan.tiles tile).layerEnd = k
    · rw [if_pos hnext]
      simp only [hnext, true_and]
      exact ⟨fun h => (Except.ok.inj h).symm, fun h => by rw [h]; rfl⟩
    · rw [if_neg hnext]
      simp only [hnext, false_and, iff_false]
      intro h
      cases h

/-- A tile that gets layer `k` has the range that `shard` says; the others keep theirs. -/
theorem Ranged.place {k : ℕ} {plan : ShardPlan} (h : Ranged nLayers tileCount owner k plan) {start : ℕ}
    (hstart : start ≤ k) (hrange : ∀ layer < k, owner layer = owner k ↔ start ≤ layer) :
    Ranged nLayers tileCount owner (k + 1) (placeIn plan k (owner k) ⟨owner k, start, k + 1⟩) := by
  refine ⟨h.tileCount_eq, h.layerCount_eq, fun layer hlayer => ?_, fun tile htile => ?_⟩
  · show Function.update plan.layerToTile k (owner k) layer = _
    rcases eq_or_ne layer k with rfl | hne
    · exact Function.update_self _ _ _
    · rw [Function.update_of_ne hne]
      exact h.layerToTile_eq layer (by omega)
  · show Function.update plan.tiles (owner k) _ tile = _ ∧ _ ∨ ∃ _ _, Function.update plan.tiles (owner k) _ tile = _ ∧ _
    rcases eq_or_ne tile (owner k) with rfl | hne
    · refine .inr ⟨start, k + 1, Function.update_self _ _ _, by omega, le_rfl, fun layer hlayer => ?_⟩
      rcases eq_or_ne layer k with rfl | hlayer'
      · exact iff_of_true rfl ⟨hstart, hlayer⟩
      · rw [hrange layer (by omega)]
        omega
    · rw [Function.update_of_ne hne]
      obtain ⟨htiles, hnone⟩ | ⟨first, stop, htiles, hlt, hle, hall⟩ := h.range tile htile
      · refine .inl ⟨htiles, fun layer hlayer => ?_⟩
        rcases eq_or_ne layer k with rfl | hlayer'
        · exact hne.symm
        · exact hnone layer (by omega)
      · refine .inr ⟨first, stop, htiles, hlt, by omega, fun layer hlayer => ?_⟩
        rcases eq_or_ne layer k with rfl | hlayer'
        · exact iff_of_false hne.symm fun hmem => by omega
        · exact hall layer (by omega)

/-- One accepted entry. -/
theorem Ranged.step {k : ℕ} {plan plan' : ShardPlan} (h : Ranged nLayers tileCount owner k plan) (hk : k < nLayers)
    (hn : nLayers ≤ uint32Max) (hstep : placeEntry nLayers tileCount plan (ownerEntry owner k, k) = .ok plan') :
    Ranged nLayers tileCount owner (k + 1) plan' := by
  obtain ⟨hlt, hcases⟩ := (placeEntry_eq_ok (by omega)).mp hstep
  obtain ⟨htiles, hnone⟩ | ⟨start, stop, htiles, hltstop, hle, hall⟩ := h.range (owner k) hlt
  · rw [htiles] at hcases
    obtain ⟨-, rfl⟩ | ⟨hne, -⟩ := hcases
    · refine h.place le_rfl fun layer hlayer => ?_
      exact iff_of_false (hnone layer hlayer) (Nat.not_le.mpr hlayer)
    · exact absurd rfl hne
  · rw [htiles] at hcases
    obtain ⟨heq, -⟩ | ⟨-, hstop, rfl⟩ := hcases
    · exact absurd heq (show ¬ start = nLayers by omega)
    · obtain rfl : stop = k := hstop
      refine h.place hltstop.le fun layer hlayer => ?_
      rw [hall layer hlayer]
      exact and_iff_left hlayer

/-- An entry is accepted if its tile exists and the layers of the tile are unbroken. -/
theorem Ranged.step_accepted {k : ℕ} {plan : ShardPlan} (h : Ranged nLayers tileCount owner k plan) (hk : k < nLayers)
    (hn : nLayers ≤ uint32Max) (hlt : owner k < tileCount) (hu : Unbroken nLayers owner) :
    ∃ plan', placeEntry nLayers tileCount plan (ownerEntry owner k, k) = .ok plan' := by
  obtain ⟨htiles, -⟩ | ⟨start, stop, htiles, hltstop, hle, hall⟩ := h.range (owner k) hlt
  · exact ⟨_, (placeEntry_eq_ok (by omega)).mpr ⟨hlt, .inl ⟨by rw [htiles], rfl⟩⟩⟩
  · have hstop : stop = k := by
      by_contra hne
      -- the layer behind the range lies between two layers of the tile
      have hlast := (hall (stop - 1) (by omega)).mpr (by omega)
      have hgap := hu (stop - 1) stop k (by omega) (by omega) hk hlast
      have hbehind := (hall stop (by omega)).mp (hgap.trans hlast)
      omega
    refine ⟨_, (placeEntry_eq_ok (by omega)).mpr ⟨hlt, .inr ⟨?_, ?_, rfl⟩⟩⟩
    · rw [htiles]
      show start ≠ nLayers
      omega
    · rw [htiles, hstop]

/-- The entries of the layers from `k` on. -/
def entriesFrom (owner : ℕ → ℕ) (k m : ℕ) : List (MetaPlanEntry × ℕ) :=
  ((List.range' k m).map (ownerEntry owner)).zipIdx k

theorem entriesFrom_succ (k m : ℕ) :
    entriesFrom owner k (m + 1) = (ownerEntry owner k, k) :: entriesFrom owner (k + 1) m := by
  unfold entriesFrom
  rw [List.range'_succ, List.map_cons, List.zipIdx_cons]

/-- All entries. -/
theorem Ranged.run {k m : ℕ} {plan plan' : ShardPlan} (h : Ranged nLayers tileCount owner k plan) (hkm : k + m = nLayers)
    (hn : nLayers ≤ uint32Max)
    (hrun : (entriesFrom owner k m).foldlM (placeEntry nLayers tileCount) plan = .ok plan') :
    Ranged nLayers tileCount owner nLayers plan' := by
  induction m generalizing k plan with
  | zero =>
    obtain rfl : k = nLayers := by omega
    cases hrun
    exact h
  | succ m ih =>
    rw [entriesFrom_succ, List.foldlM_cons] at hrun
    obtain ⟨next, hstep, hrest⟩ := bind_eq_ok.mp hrun
    exact ih (h.step (by omega) hn hstep) (by omega) hrest

theorem Ranged.run_accepted {k m : ℕ} {plan : ShardPlan} (h : Ranged nLayers tileCount owner k plan)
    (hkm : k + m = nLayers) (hn : nLayers ≤ uint32Max) (hlt : ∀ layer < nLayers, owner layer < tileCount)
    (hu : Unbroken nLayers owner) :
    ∃ plan', (entriesFrom owner k m).foldlM (placeEntry nLayers tileCount) plan = .ok plan' := by
  induction m generalizing k plan with
  | zero => exact ⟨plan, rfl⟩
  | succ m ih =>
    obtain ⟨next, hstep⟩ := h.step_accepted (by omega) hn (hlt k (by omega)) hu
    obtain ⟨plan', hrest⟩ := ih (h.step (by omega) hn hstep) (by omega)
    rw [entriesFrom_succ, List.foldlM_cons]
    exact ⟨plan', bind_eq_ok.mpr ⟨next, hstep, hrest⟩⟩

/-- A plan of ranges has unbroken layers. -/
theorem Ranged.unbroken {plan : ShardPlan} (h : Ranged nLayers tileCount owner nLayers plan)
    (hlt : ∀ layer < nLayers, owner layer < tileCount) : Unbroken nLayers owner := by
  intro i j k hij hjk hk hik
  obtain ⟨-, hnone⟩ | ⟨start, stop, -, -, -, hall⟩ := h.range (owner i) (hlt i (by omega))
  · exact absurd rfl (hnone i (by omega))
  · have hi := (hall i (by omega)).mp rfl
    have hk' := (hall k hk).mp hik.symm
    exact (hall j (by omega)).mpr (by omega)

/-! ### The plan -/

/-- Every layer has the given owner, and the range of a tile is made of its layers. -/
structure Owned (plan : ShardPlan) (nLayers tileCount : ℕ) (owner : ℕ → ℕ) : Prop where
  tileCount_eq : plan.tileCount = tileCount
  layerCount_eq : plan.layerCount = nLayers
  layerToTile_eq : ∀ layer < nLayers, plan.layerToTile layer = owner layer
  tileId_eq : ∀ tile < tileCount, (plan.tiles tile).tileId = tile
  mem_iff : ∀ tile < tileCount, ∀ layer,
    (plan.tiles tile).layerStart ≤ layer ∧ layer < (plan.tiles tile).layerEnd ↔ layer < nLayers ∧ owner layer = tile
  unused : ∀ tile < tileCount, (∀ layer < nLayers, owner layer ≠ tile) → plan.tiles tile = ⟨tile, 0, 0⟩

/-- The plan without the sentinels of the empty tiles. -/
def ShardPlan.fixEmpties (nLayers tileCount : ℕ) (plan : ShardPlan) : ShardPlan :=
  { plan with
    tiles := fun tile => if tile < uint32 tileCount then fixEmpty nLayers (plan.tiles tile) else plan.tiles tile }

theorem Ranged.owned {plan : ShardPlan} (h : Ranged nLayers tileCount owner nLayers plan)
    (htiles : tileCount ≤ uint32Max) :
    Owned (plan.fixEmpties nLayers tileCount) nLayers tileCount owner := by
  have hfixed : ∀ tile < tileCount,
      ((plan.fixEmpties nLayers tileCount).tiles tile = ⟨tile, 0, 0⟩ ∧ ∀ layer < nLayers, owner layer ≠ tile) ∨
      ∃ start stop, (plan.fixEmpties nLayers tileCount).tiles tile = ⟨tile, start, stop⟩ ∧ start < stop ∧
        stop ≤ nLayers ∧ ∀ layer < nLayers, owner layer = tile ↔ start ≤ layer ∧ layer < stop := by
    intro tile htile
    unfold ShardPlan.fixEmpties fixEmpty
    dsimp only
    rw [uint32_eq htiles, if_pos htile]
    obtain ⟨heq, hnone⟩ | ⟨start, stop, heq, hlt, hle, hall⟩ := h.range tile htile
    · rw [heq, if_pos rfl]
      exact .inl ⟨rfl, hnone⟩
    · rw [heq, if_neg (show ¬ start = nLayers by omega)]
      exact .inr ⟨start, stop, rfl, hlt, hle, hall⟩
  refine ⟨h.tileCount_eq, h.layerCount_eq, h.layerToTile_eq, fun tile htile => ?_, fun tile htile layer => ?_,
    fun tile htile hunused => ?_⟩
  · obtain ⟨heq, -⟩ | ⟨start, stop, heq, -⟩ := hfixed tile htile
    · rw [heq]
    · rw [heq]
  · obtain ⟨heq, hnone⟩ | ⟨start, stop, heq, hlt, hle, hall⟩ := hfixed tile htile
    · rw [heq]
      exact iff_of_false (by simp) fun hmem => hnone layer hmem.1 hmem.2
    · rw [heq]
      show start ≤ layer ∧ layer < stop ↔ _
      constructor
      · intro hmem
        exact ⟨by omega, (hall layer (by omega)).mpr hmem⟩
      · rintro ⟨hlayer, howner⟩
        exact (hall layer hlayer).mp howner
  · obtain ⟨heq, -⟩ | ⟨start, stop, -, hlt, hle, hall⟩ := hfixed tile htile
    · exact heq
    · exact absurd ((hall start (by omega)).mpr ⟨le_rfl, hlt⟩) (hunused start (by omega))

section Accept

variable {host : Host} {proposed : MetaPlan}

/-- What the conversion starts from. -/
def emptyPlan (nLayers tileCount : ℕ) : ShardPlan where
  tileCount := tileCount
  layerCount := nLayers
  tiles := fun tile => if tile < uint32 tileCount then ⟨tile, nLayers, 0⟩ else {}
  layerToTile := fun _ => 0

theorem ranged_emptyPlan (owner : ℕ → ℕ) (htiles : tileCount ≤ uint32Max) :
    Ranged nLayers tileCount owner 0 (emptyPlan nLayers tileCount) := by
  refine ⟨rfl, rfl, fun layer hlayer => absurd hlayer (Nat.not_lt_zero _), fun tile htile => .inl ⟨?_, ?_⟩⟩
  · exact if_pos (by rwa [uint32_eq htiles])
  · exact fun layer hlayer => absurd hlayer (Nat.not_lt_zero _)

/-- The checks in front of the loop, and the loop. -/
theorem shardPlanFromMeta_eq_ok {plan : ShardPlan} (hn : nLayers ≤ uint32Max)
    (hcalloc : host.calloc nLayers 4 = true) (hcalloc' : host.calloc tileCount layerShardSize = true) :
    shardPlanFromMeta host proposed nLayers tileCount = .ok plan ↔
      tileCount ≠ 0 ∧ nLayers ≠ 0 ∧ proposed.entries.length = nLayers ∧ proposed.conflict = 0 ∧
        ∃ placed, proposed.entries.zipIdx.foldlM (placeEntry nLayers tileCount) (emptyPlan nLayers tileCount) =
          .ok placed ∧ placed.fixEmpties nLayers tileCount = plan := by
  have hfits : nLayers ≤ uint32 (sizeMax / 4) := by
    have hmax : uint32 (sizeMax / 4) = uint32Max := rfl
    rw [hmax]
    exact hn
  unfold shardPlanFromMeta
  simp only [rejectIf_bind_eq_ok, not_or, not_not, Nat.not_lt, Nat.le_zero, hcalloc, hcalloc', and_self, true_and, hfits,
    and_assoc]
  rw [bind_eq_ok]
  simp only [Except.ok.injEq]
  rfl

/-- Entries that are numbered by their layers. -/
theorem entries_eq_of_ids {entries : List MetaPlanEntry} (h : ∀ i (hi : i < entries.length), entries[i].layerId = i) :
    entries = (List.range entries.length).map (ownerEntry fun layer => (entries.getD layer ⟨0, 0⟩).tileId) := by
  refine List.ext_getElem (by simp) fun i hi _ => ?_
  rw [List.getElem_map, List.getElem_range, ownerEntry, List.getD_eq_getElem _ _ hi]
  show (⟨entries[i].layerId, entries[i].tileId⟩ : MetaPlanEntry) = _
  rw [h i hi]

/-- The entries of a proposal that is accepted are those of the layers, in order. -/
theorem entries_eq_of_placed {plan plan' : ShardPlan} {entries : List MetaPlanEntry}
    (h : entries.zipIdx.foldlM (placeEntry nLayers tileCount) plan = .ok plan') :
    entries = (List.range entries.length).map (ownerEntry fun layer => (entries.getD layer ⟨0, 0⟩).tileId) ∧
      ∀ entry ∈ entries, entry.tileId < tileCount := by
  have hall : ∀ x ∈ entries.zipIdx, x.1.layerId = x.2 ∧ x.1.tileId < tileCount := by
    refine forall_of_foldlM (fun a x b hx => ?_) h
    unfold placeEntry at hx
    simp only [rejectIf_bind_eq_ok, not_not, Nat.not_le] at hx
    exact ⟨hx.1, hx.2.1⟩
  have hget : ∀ i (hi : i < entries.length), entries[i].layerId = i ∧ entries[i].tileId < tileCount :=
    fun i hi => hall (entries[i], i) (List.mem_zipIdx_iff_getElem?.mpr (List.getElem?_eq_getElem hi))
  refine ⟨entries_eq_of_ids fun i hi => (hget i hi).1, fun entry hentry => ?_⟩
  obtain ⟨i, hi, rfl⟩ := List.getElem_of_mem hentry
  exact (hget i hi).2

/-- **The plan of the owners**: a proposal of all layers in order is accepted if there is no conflict, all tiles exist
and the layers of each are unbroken; and every layer then has its owner. -/
theorem shardPlanFromMeta_owners (htiles : 0 < tileCount) (htiles' : tileCount ≤ uint32Max) (hlayers : 0 < nLayers)
    (hn : nLayers ≤ uint32Max) (hentries : proposed.entries = (List.range nLayers).map (ownerEntry owner))
    (hcalloc : host.calloc nLayers 4 = true) (hcalloc' : host.calloc tileCount layerShardSize = true) :
    ((∃ plan, shardPlanFromMeta host proposed nLayers tileCount = .ok plan) ↔
      proposed.conflict = 0 ∧ (∀ layer < nLayers, owner layer < tileCount) ∧ Unbroken nLayers owner) ∧
    ∀ plan, shardPlanFromMeta host proposed nLayers tileCount = .ok plan → Owned plan nLayers tileCount owner := by
  have hfrom : proposed.entries.zipIdx = entriesFrom owner 0 nLayers := by
    rw [hentries, List.range_eq_range']
    rfl
  have hinit := @ranged_emptyPlan nLayers tileCount owner htiles'
  refine ⟨⟨?_, ?_⟩, fun plan hplan => ?_⟩
  · rintro ⟨plan, hplan⟩
    obtain ⟨-, -, -, hconflict, placed, hplaced, -⟩ := (shardPlanFromMeta_eq_ok hn hcalloc hcalloc').mp hplan
    have hlt : ∀ layer < nLayers, owner layer < tileCount := fun layer hlayer =>
      (entries_eq_of_placed hplaced).2 (ownerEntry owner layer)
        (hentries ▸ List.mem_map_of_mem (List.mem_range.mpr hlayer))
    rw [hfrom] at hplaced
    exact ⟨hconflict, hlt, (hinit.run (Nat.zero_add _) hn hplaced).unbroken hlt⟩
  · rintro ⟨hconflict, hlt, hu⟩
    obtain ⟨placed, hplaced⟩ := hinit.run_accepted (Nat.zero_add _) hn hlt hu
    rw [← hfrom] at hplaced
    exact ⟨_, (shardPlanFromMeta_eq_ok hn hcalloc hcalloc').mpr
      ⟨htiles.ne', hlayers.ne', by simp [hentries], hconflict, placed, hplaced, rfl⟩⟩
  · obtain ⟨-, -, -, -, placed, hplaced, rfl⟩ := (shardPlanFromMeta_eq_ok hn hcalloc hcalloc').mp hplan
    rw [hfrom] at hplaced
    exact (hinit.run (Nat.zero_add _) hn hplaced).owned htiles'

/-- A contiguous partition is accepted, and the plan deals the layers out so. -/
theorem shardPlanFromMeta_eq {start : ℕ → ℕ} (hc : Contiguous nLayers tileCount start owner) (htiles : 0 < tileCount)
    (htiles' : tileCount ≤ uint32Max) (hlayers : 0 < nLayers) (hn : nLayers ≤ uint32Max)
    (hentries : proposed.entries = (List.range nLayers).map (ownerEntry owner)) (hconflict : proposed.conflict = 0)
    (hcalloc : host.calloc nLayers 4 = true) (hcalloc' : host.calloc tileCount layerShardSize = true) :
    ∃ plan, shardPlanFromMeta host proposed nLayers tileCount = .ok plan ∧
      Deals plan nLayers tileCount start owner := by
  obtain ⟨hiff, hall⟩ := shardPlanFromMeta_owners htiles htiles' hlayers hn hentries hcalloc hcalloc'
  obtain ⟨plan, hplan⟩ := hiff.mpr ⟨hconflict, hc.owner_lt, hc.unbroken⟩
  have howned := hall plan hplan
  refine ⟨plan, hplan, howned.tileCount_eq, howned.layerCount_eq, howned.layerToTile_eq, fun tile htile layer => ?_⟩
  rw [howned.mem_iff tile htile]
  have hlast := hc.start_le_items (tile + 1) htile
  constructor
  · rintro ⟨hlayer, howner⟩
    exact (hc.owner_eq layer hlayer tile htile).mp howner
  · intro hmem
    exact ⟨by omega, (hc.owner_eq layer (by omega) tile htile).mpr hmem⟩

end Accept

/-! ### The comparison -/

theorem find?_ownerEntry {layer : ℕ} (hlayer : layer < nLayers) :
    (((List.range nLayers).map (ownerEntry owner)).find? fun entry => entry.layerId = layer) =
      some (ownerEntry owner layer) := by
  rw [List.find?_map]
  have hfind : (List.range nLayers).find? (fun l => decide (l = layer)) = some layer := by
    rw [List.find?_range_eq_some]
    refine ⟨by simp, List.mem_range.mpr hlayer, fun j hj => ?_⟩
    simp only [Bool.not_eq_true', decide_eq_false_iff_not]
    omega
  show ((List.range nLayers).find? fun l => decide (l = layer)).map (ownerEntry owner) = _
  rw [hfind]
  rfl

/-- **Plans with the same owners match** on every layer. -/
theorem metaPlanCompare_eq {proposed : MetaPlan} {runtime : ShardPlan} (hn : nLayers ≤ uint32Max)
    (hentries : proposed.entries = (List.range nLayers).map (ownerEntry owner))
    (htiles : runtime.tileCount = tileCount) (hlayers : runtime.layerCount = nLayers)
    (howner : ∀ layer < nLayers, runtime.layerToTile layer = owner layer)
    (hlt : ∀ layer < nLayers, owner layer < tileCount) :
    metaPlanCompare proposed runtime =
      { matching := nLayers, mismatch := 0, missing := 0, extra := proposed.extra, conflict := proposed.conflict } := by
  have hstep : ∀ k m diff, k + m = nLayers → diff.matching = k →
      (List.range' k m).foldl (compareLayer proposed runtime) diff = { diff with matching := nLayers } := by
    intro k m diff hkm hdiff
    induction m generalizing k diff with
    | zero =>
      obtain rfl : k = nLayers := by omega
      rw [← hdiff]
      rfl
    | succ m ih =>
      have hk : k < nLayers := by omega
      have htile : runtime.layerTile k = .ok (owner k) := by
        unfold ShardPlan.layerTile
        rw [hlayers, htiles, howner k hk, if_neg (by omega),
          if_neg (Nat.not_le.mpr (hlt k hk))]
      have hone : compareLayer proposed runtime diff k = { diff with matching := k + 1 } := by
        unfold compareLayer
        rw [hentries, find?_ownerEntry hk]
        simp only [htile]
        rw [hdiff, uint32_eq (show k + 1 ≤ uint32Max by omega)]
        exact if_pos rfl
      rw [List.range'_succ, List.foldl_cons, hone, ih (k + 1) _ (by omega) rfl]
  unfold metaPlanCompare
  rw [hlayers, uint32_eq hn, List.range_eq_range']
  exact hstep 0 nLayers _ (Nat.zero_add _) rfl

/-! ### The accepted proposals -/

/-- The requirements that `att1_shard.h` documents. -/
structure Acceptable (proposed : MetaPlan) (nLayers tileCount : ℕ) : Prop where
  covered : proposed.entries.length = nLayers ∧ ∀ layer < nLayers, ∃ entry ∈ proposed.entries, entry.layerId = layer
  agreed : proposed.conflict = 0
  tiles : ∀ entry ∈ proposed.entries, entry.tileId < tileCount
  ranges : ∀ first ∈ proposed.entries, ∀ between ∈ proposed.entries, ∀ last ∈ proposed.entries,
    first.layerId ≤ between.layerId → between.layerId ≤ last.layerId → first.tileId = last.tileId →
      between.tileId = first.tileId

/-- The plan that a proposal describes. -/
structure Realises (plan : ShardPlan) (proposed : MetaPlan) (nLayers tileCount : ℕ) : Prop where
  tileCount_eq : plan.tileCount = tileCount
  layerCount_eq : plan.layerCount = nLayers
  layerToTile_eq : ∀ entry ∈ proposed.entries, plan.layerToTile entry.layerId = entry.tileId
  tileId_eq : ∀ tile < tileCount, (plan.tiles tile).tileId = tile
  mem_iff : ∀ tile < tileCount, ∀ layer,
    (plan.tiles tile).layerStart ≤ layer ∧ layer < (plan.tiles tile).layerEnd ↔ ⟨layer, tile⟩ ∈ proposed.entries
  unused : ∀ tile < tileCount, (∀ entry ∈ proposed.entries, entry.tileId ≠ tile) →
    (plan.tiles tile).layerStart = 0 ∧ (plan.tiles tile).layerEnd = 0

/-- Entries in layer order that cover the layers are those of the layers, in order. -/
theorem entries_eq_of_covered {entries : List MetaPlanEntry}
    (hsorted : entries.Pairwise fun e e' => e.layerId < e'.layerId) (hlength : entries.length = nLayers)
    (hcovered : ∀ layer < nLayers, ∃ entry ∈ entries, entry.layerId = layer) :
    ∃ owner, entries = (List.range nLayers).map (ownerEntry owner) := by
  have hids : (entries.map MetaPlanEntry.layerId).Pairwise (· < ·) := List.pairwise_map.mpr hsorted
  have hsubset : List.range nLayers ⊆ entries.map MetaPlanEntry.layerId := by
    intro layer hlayer
    obtain ⟨entry, hentry, rfl⟩ := hcovered layer (List.mem_range.mp hlayer)
    exact List.mem_map_of_mem hentry
  have hperm : (List.range nLayers).Perm (entries.map MetaPlanEntry.layerId) :=
    (List.subperm_of_subset List.nodup_range hsubset).perm_of_length_le (by simp [hlength])
  have heq : List.range nLayers = entries.map MetaPlanEntry.layerId :=
    hperm.eq_of_pairwise (fun a b _ _ hab hba => absurd (hab.trans hba) (lt_irrefl _)) List.pairwise_lt_range hids
  subst hlength
  refine ⟨_, entries_eq_of_ids fun i hi => ?_⟩
  have hget : (List.range entries.length)[i]? = (entries.map MetaPlanEntry.layerId)[i]? := by rw [← heq]
  rw [List.getElem?_range hi, List.getElem?_map, List.getElem?_eq_getElem hi] at hget
  exact (Option.some.inj hget).symm

section Iff

variable {host : Host} {proposed : MetaPlan}

theorem mem_ownerEntries {entry : MetaPlanEntry} (hentries : proposed.entries = (List.range nLayers).map (ownerEntry owner)) :
    entry ∈ proposed.entries ↔ entry.layerId < nLayers ∧ owner entry.layerId = entry.tileId := by
  rw [hentries, List.mem_map]
  constructor
  · rintro ⟨layer, hlayer, rfl⟩
    exact ⟨List.mem_range.mp hlayer, rfl⟩
  · rintro ⟨hlayer, howner⟩
    exact ⟨entry.layerId, List.mem_range.mpr hlayer, by rw [ownerEntry, howner]⟩

theorem acceptable_iff (hentries : proposed.entries = (List.range nLayers).map (ownerEntry owner)) :
    Acceptable proposed nLayers tileCount ↔
      proposed.conflict = 0 ∧ (∀ layer < nLayers, owner layer < tileCount) ∧ Unbroken nLayers owner := by
  have hmem (layer : ℕ) (hlayer : layer < nLayers) : ownerEntry owner layer ∈ proposed.entries :=
    (mem_ownerEntries hentries).mpr ⟨hlayer, rfl⟩
  constructor
  · intro h
    refine ⟨h.agreed, fun layer hlayer => h.tiles _ (hmem layer hlayer), fun i j k hij hjk hk hik => ?_⟩
    exact h.ranges _ (hmem i (by omega)) _ (hmem j (by omega)) _ (hmem k hk) hij hjk hik
  · rintro ⟨hconflict, hlt, hu⟩
    refine ⟨⟨by simp [hentries], fun layer hlayer => ⟨_, hmem layer hlayer, rfl⟩⟩, hconflict, fun entry hentry => ?_,
      fun first hfirst between hbetween last hlast hle hle' htile => ?_⟩
    · obtain ⟨hlayer, howner⟩ := (mem_ownerEntries hentries).mp hentry
      rw [← howner]
      exact hlt _ hlayer
    · obtain ⟨-, hfirst⟩ := (mem_ownerEntries hentries).mp hfirst
      obtain ⟨-, hbetween⟩ := (mem_ownerEntries hentries).mp hbetween
      obtain ⟨hlayer, hlast⟩ := (mem_ownerEntries hentries).mp hlast
      rw [← hfirst, ← hlast] at htile
      rw [← hbetween, ← hfirst]
      exact hu _ _ _ hle hle' hlayer htile

theorem Owned.realises {plan : ShardPlan} (h : Owned plan nLayers tileCount owner)
    (hentries : proposed.entries = (List.range nLayers).map (ownerEntry owner)) :
    Realises plan proposed nLayers tileCount := by
  refine ⟨h.tileCount_eq, h.layerCount_eq, fun entry hentry => ?_, h.tileId_eq, fun tile htile layer => ?_,
    fun tile htile hunused => ?_⟩
  · obtain ⟨hlayer, howner⟩ := (mem_ownerEntries hentries).mp hentry
    exact (h.layerToTile_eq _ hlayer).trans howner
  · rw [h.mem_iff tile htile, mem_ownerEntries hentries]
  · have htiles := h.unused tile htile fun layer hlayer =>
      hunused (ownerEntry owner layer) ((mem_ownerEntries hentries).mpr ⟨hlayer, rfl⟩)
    rw [htiles]
    exact ⟨rfl, rfl⟩

/-- **Which proposals are accepted**, and what is made of them: those that meet the documented requirements.  The plan
has the proposed owners and ranges, and the comparison with the proposal finds a match on every layer. -/
theorem shardPlanFromMeta_iff (host : Host) (proposed : MetaPlan)
    (hsorted : proposed.entries.Pairwise fun e e' => e.layerId < e'.layerId) (hlayers : 1 ≤ nLayers)
    (hn : nLayers ≤ uint32Max) (htiles : 1 ≤ tileCount) (htiles' : tileCount ≤ uint32Max)
    (hcalloc : host.calloc nLayers 4 = true) (hcalloc' : host.calloc tileCount layerShardSize = true) :
    ((∃ plan, shardPlanFromMeta host proposed nLayers tileCount = .ok plan) ↔ Acceptable proposed nLayers tileCount) ∧
    ∀ plan, shardPlanFromMeta host proposed nLayers tileCount = .ok plan →
      Realises plan proposed nLayers tileCount ∧
      metaPlanCompare proposed plan = { matching := nLayers, extra := proposed.extra, conflict := proposed.conflict } := by
  have hall {owner : ℕ → ℕ} (hentries : proposed.entries = (List.range nLayers).map (ownerEntry owner)) :=
    @shardPlanFromMeta_owners nLayers tileCount owner host proposed htiles htiles' hlayers hn hentries hcalloc hcalloc'
  have hsome {plan : ShardPlan} (h : shardPlanFromMeta host proposed nLayers tileCount = .ok plan) :
      ∃ owner, proposed.entries = (List.range nLayers).map (ownerEntry owner) := by
    obtain ⟨-, -, hlength, -, placed, hplaced, -⟩ := (shardPlanFromMeta_eq_ok hn hcalloc hcalloc').mp h
    have hentries := (entries_eq_of_placed hplaced).1
    rw [hlength] at hentries
    exact ⟨_, hentries⟩
  refine ⟨⟨fun ⟨plan, hplan⟩ => ?_, fun h => ?_⟩, fun plan hplan => ?_⟩
  · obtain ⟨owner, hentries⟩ := hsome hplan
    exact (acceptable_iff hentries).mpr ((hall hentries).1.mp ⟨plan, hplan⟩)
  · obtain ⟨owner, hentries⟩ := entries_eq_of_covered hsorted h.covered.1 h.covered.2
    exact (hall hentries).1.mpr ((acceptable_iff hentries).mp h)
  · obtain ⟨owner, hentries⟩ := hsome hplan
    have howned := (hall hentries).2 plan hplan
    obtain ⟨-, hlt, -⟩ := (hall hentries).1.mp ⟨plan, hplan⟩
    exact ⟨howned.realises hentries,
      metaPlanCompare_eq hn hentries howned.tileCount_eq howned.layerCount_eq howned.layerToTile_eq hlt⟩

/-- Two layers whose tiles are the other way round. -/
theorem shardPlanFromMeta_iff_swapped : ∃ plan,
    shardPlanFromMeta .generous { entries := [⟨0, 1⟩, ⟨1, 0⟩] } 2 2 = .ok plan ∧
      Realises plan { entries := [⟨0, 1⟩, ⟨1, 0⟩] } 2 2 := by
  obtain ⟨hiff, hall⟩ := @shardPlanFromMeta_iff 2 2 .generous { entries := [⟨0, 1⟩, ⟨1, 0⟩] } (by decide) (by decide)
    (by decide) (by decide) (by decide) rfl rfl
  obtain ⟨plan, hplan⟩ := hiff.mpr ⟨⟨rfl, by decide⟩, rfl, by decide, by decide⟩
  exact ⟨plan, hplan, (hall plan hplan).1⟩

end Iff

end Att1
