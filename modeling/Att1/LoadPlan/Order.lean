import Att1.LoadPlan.Complete

/-!
# Att1.LoadPlan.Order — the summary of the load-phase plan, and the order of the records

* `buildSummary_total`: the bytes of the summary are those of the placed records.
* `buildCommands_perm`: the commands do not depend on the order of the records.
* `load_plan`: what a report without tensor errors gives.
-/

open Att1.Lib

namespace Att1.LoadPlan

variable {tileCount : ℤ} {strict : Bool} {s : Session}

/-! ### The order of the records -/

/-- Records on numbered tiles that differ in their tile, their id or the start of their slice. -/
structure Distinct (placed : List Fields) : Prop where
  owner : ∀ t ∈ placed, ∃ k, dictGet t "owner_tile" = .int k
  key : (placed.map fun t => (ownerOf t, idOf t, sliceOf t)).Nodup

/-- The step of the planner for a tile of these records. -/
def planOwner (s : Session) (placed : List Fields) (b : Builder) (k : ℤ) : Py Builder :=
  planTile s b (.num k, .int k, placed.filter fun t => ownerKey t = .num k)

theorem planTile_congr {b : Builder} {g g' : Json.Key × Json × List Fields} (hname : g.2.1 = g'.2.1)
    (hsorted : sortedBy tensorKey g.2.2 = sortedBy tensorKey g'.2.2) : planTile s b g = planTile s b g' := by
  unfold planTile
  rw [hname, hsorted]

theorem planOwner_perm {placed placed' : List Fields} (hperm : placed'.Perm placed)
    (hread : ∀ t ∈ placed, Readable t) (hdistinct : Distinct placed) : planOwner s placed' = planOwner s placed := by
  funext b k
  refine planTile_congr rfl ?_
  have hmem : ∀ t ∈ placed'.filter (fun t => ownerKey t = .num k), t ∈ placed ∧ ownerOf t = k := by
    intro t ht
    obtain ⟨hplaced, hkey⟩ := List.mem_filter.mp ht
    have hkey := of_decide_eq_true hkey
    rw [ownerKey, Json.Key.num.injEq, Int.cast_inj] at hkey
    exact ⟨hperm.mem_iff.mp hplaced, hkey⟩
  refine sortedBy_eq_of_perm (hperm.filter _) (fun t ht t' ht' => lt_tensorKey (hread t (hmem t ht).1)
    (hread t' (hmem t' ht').1)) fun t ht t' ht' heq => ?_
  obtain ⟨hid, hslice⟩ := Prod.mk.inj (toLex_inj.mp heq)
  refine List.inj_on_of_nodup_map hdistinct.key (hmem t ht).1 (hmem t' ht').1 ?_
  rw [(hmem t ht).2, (hmem t' ht').2, Int.cast_inj.mp hid, hslice]

theorem foldlM_planTile {tensors : List Json} {c : Collected} (h : Collects tileCount tensors c)
    (howner : ∀ t ∈ placedRecords tensors, ∃ k, dictGet t "owner_tile" = .int k) {tiles : Groups Fields}
    (htiles : ∀ g ∈ tiles, g ∈ c.byTile) (b : Builder) :
    tiles.foldlM (planTile s) b = (tiles.map nameOf).foldlM (planOwner s (placedRecords tensors)) b := by
  rw [List.foldlM_map]
  induction tiles generalizing b with
  | nil => rfl
  | cons g tiles ih =>
    have hg := htiles g List.mem_cons_self
    have hstep : planTile s b g = planOwner s (placedRecords tensors) b (nameOf g) := by
      obtain ⟨t, ht, -, hname⟩ := h.byTile.named g hg
      obtain ⟨k, hk⟩ := howner t ht
      have hint : g.2.1 = .int (nameOf g) := by
        rw [nameOf, ← hname, hk]
        rfl
      refine planTile_congr hint ?_
      rw [h.byTile.under g hg, (h.name_eq hg).2.1]
    rw [List.foldlM_cons, List.foldlM_cons, hstep]
    congr 1
    funext b'
    exact ih (fun g' hg' => htiles g' (List.mem_cons_of_mem _ hg')) b'

theorem placedRecords_perm {tensors tensors' : List Json} (hperm : tensors'.Perm tensors) :
    (placedRecords tensors').Perm (placedRecords tensors) := hperm.filterMap _

/-- **The order of the records** does not matter. -/
theorem buildCommands_perm {tensors tensors' : List Json} {warnings : List FString} {c : Collected}
    (hcollect : collectTensors tileCount strict warnings tensors = .ok c) (hno : c.errors = [])
    (hread : ∀ t ∈ placedRecords tensors, Readable t) (hdistinct : Distinct (placedRecords tensors))
    (hperm : tensors'.Perm tensors) {commands : List Command} {warnings₁ : List FString}
    (hbuild : buildCommands tileCount strict s warnings tensors = .ok (.plan commands warnings₁)) :
    ∃ warnings', buildCommands tileCount strict s warnings tensors' = .ok (.plan commands warnings') := by
  have hnoError := noError_of_collectTensors hcollect hno
  obtain ⟨c₀, hc₀, h⟩ := collects_of_noError warnings hnoError
  obtain rfl : c = c₀ := Except.ok.inj (hcollect.symm.trans hc₀)
  obtain ⟨c', hcollect', h'⟩ := @collects_of_noError tileCount strict tensors' warnings fun tensor htensor =>
    hnoError tensor (hperm.mem_iff.mp htensor)
  obtain ⟨tiles, hsorted⟩ := h.exists_sorted
  obtain ⟨tiles', hsorted'⟩ := h'.exists_sorted
  have hplaced := placedRecords_perm hperm
  have hnames : tiles'.map nameOf = tiles.map nameOf := by
    have hsame : (tiles'.map nameOf).Perm (tiles.map nameOf) := by
      refine (List.perm_ext_iff_of_nodup (hsorted'.increasing.imp fun h => h.ne)
        (hsorted.increasing.imp fun h => h.ne)).mpr fun k => ?_
      rw [h'.mem_names hsorted'.perm, h.mem_names hsorted.perm]
      exact exists_congr fun t => and_congr_left fun _ => hplaced.mem_iff
    exact List.Perm.eq_of_pairwise (fun a b _ _ hab hba => absurd (hab.trans hba) (lt_irrefl a)) hsorted'.increasing
      hsorted.increasing hsame
  have hloop : tiles'.foldlM (planTile s) {} = tiles.foldlM (planTile s) {} := by
    rw [foldlM_planTile h hdistinct.owner fun g hg => hsorted.perm.mem_iff.mp hg,
      foldlM_planTile h' (fun t ht => hdistinct.owner t (hplaced.mem_iff.mp ht)) fun g hg =>
        hsorted'.perm.mem_iff.mp hg, hnames, planOwner_perm hplaced hread hdistinct]
  unfold buildCommands at hbuild ⊢
  rw [hcollect] at hbuild
  rw [hcollect']
  change (if (!c.errors.isEmpty) = true then _ else _) = _ at hbuild
  rw [if_neg (by rw [h.errors]; decide)] at hbuild
  show ∃ warnings', (if (!c'.errors.isEmpty) = true then _ else _) = _
  rw [if_neg (by rw [h'.errors]; decide), hsorted'.sorted]
  rw [hsorted.sorted] at hbuild
  change (tiles.foldlM (planTile s) {} >>= _) = _ at hbuild
  show ∃ warnings', (tiles'.foldlM (planTile s) {} >>= _) = _
  rw [hloop]
  obtain ⟨b, hb, hend⟩ := bind_eq_ok.mp hbuild
  obtain ⟨hcommands, -⟩ := Outcome.plan.inj (Except.ok.inj hend)
  exact ⟨c'.warnings, bind_eq_ok.mpr ⟨b, hb, congrArg Except.ok (congrArg (Outcome.plan · c'.warnings) hcommands)⟩⟩

/-! ### The summary -/

theorem number_of_key {value : Json} {q : ℚ} (h : value.key = .ok (.num q)) : value.number? = some q := by
  cases value <;> simp_all [Json.key, Json.number?]

/-- The bytes of a command. -/
def bytesOf (c : Command) : ℤ := (c.totalBytes.asInt?).getD 0

/-- What the loop over the commands counts. -/
structure Counted (cmds : List Command) (counts : Counts) : Prop where
  total : counts.totalTensorBytes = .int ((ofType .loadTensorTile cmds).map bytesOf).sum
  tile : ∀ g ∈ counts.byTile, ∃ q, g.2.1.number? = some q

theorem countCommand_counted {cmds : List Command} {counts : Counts} (h : Counted cmds counts) {c : Command} {k : ℤ}
    (htile : c.tileId.key = .ok (.num k)) (htotal : c.commandType = .loadTensorTile → ∃ m, c.totalBytes = .int m) :
    ∃ counts', countCommand counts c = .ok counts' ∧ Counted (cmds ++ [c]) counts' := by
  have hnull : c.tileId.isNone = false := by
    cases hvalue : c.tileId with
    | null =>
      rw [hvalue] at htile
      cases htile
    | _ => rfl
  have hbyTile : ∀ g ∈ counts.byTile.appendAt (.num k) c.tileId (), ∃ q, g.2.1.number? = some q := by
    intro g hg
    rcases Groups.mem_appendAt hg with hold | ⟨xs, hxs, -⟩ | rfl
    · exact h.tile g hold
    · exact h.tile (.num k, g.2.1, xs) hxs
    · exact ⟨k, number_of_key htile⟩
  unfold countCommand
  rw [if_neg (by rw [hnull]; decide), htile]
  by_cases hload : c.commandType = .loadTensorTile
  · obtain ⟨m, hm⟩ := htotal hload
    have hadd : counts.totalTensorBytes.add c.totalBytes =
        .ok (.int (((ofType .loadTensorTile (cmds ++ [c])).map bytesOf).sum)) := by
      rw [h.total, hm, Json.add_of_asInt _ (show Json.asInt? (.int m) = some m from rfl), ofType_append,
        ofType_eq_self (List.forall_mem_singleton.mpr hload)]
      simp [bytesOf, hm, Json.asInt?]
    refine ⟨_, bind_eq_ok.mpr ⟨_, rfl, (if_pos hload).trans (bind_eq_ok.mpr ⟨_, hadd, rfl⟩)⟩, ?_, ?_⟩
    · split_ifs <;> rfl
    · split_ifs <;> exact hbyTile
  · refine ⟨_, bind_eq_ok.mpr ⟨_, rfl, if_neg hload⟩, ?_, hbyTile⟩
    rw [ofType_append, ofType_eq_nil (List.forall_mem_singleton.mpr hload), List.append_nil]
    exact h.total

theorem countCommands_counted {cmds : List Command} (htile : ∀ c ∈ cmds, ∃ k : ℤ, c.tileId.key = .ok (.num k))
    (htotal : ∀ c ∈ cmds, c.commandType = .loadTensorTile → ∃ m, c.totalBytes = .int m) :
    ∃ counts, cmds.foldlM countCommand {} = .ok counts ∧ Counted cmds counts := by
  induction cmds using List.reverseRecOn with
  | nil => exact ⟨{}, rfl, rfl, by simp⟩
  | append_singleton cmds c ih =>
    obtain ⟨counts, hloop, h⟩ := ih (fun c' hc' => htile c' (List.mem_append_left _ hc'))
      fun c' hc' => htotal c' (List.mem_append_left _ hc')
    obtain ⟨k, hk⟩ := htile c (by simp)
    obtain ⟨counts', hstep, h'⟩ := countCommand_counted h hk (htotal c (by simp))
    refine ⟨counts', ?_, h'⟩
    rw [List.foldlM_append, hloop]
    show (countCommand counts c >>= _) = _
    rw [hstep]
    rfl

/-- **The summary** adds up the bytes of the placed records. -/
theorem buildSummary_total {placed : List Fields} {commands : List Command} (h : CompletePlan s placed commands)
    (hread : ∀ t ∈ placed, Readable t) {reportTiles : List Json}
    (htiles : ∀ tile ∈ reportTiles, ∃ fields, tile = .obj fields) :
    ∃ summary, buildSummary commands reportTiles = .ok summary ∧
      summary.totalTensorBytes = .int (placed.map totalOf).sum := by
  obtain ⟨issued, hperm, hloads, -, hmade⟩ := h.tensors
  have htotal : ∀ i ∈ issued, i.load.totalBytes = .int (totalOf i.record) := by
    intro i hi
    obtain ⟨-, -, -, -, hadd⟩ := fields_of_load (hmade i hi).1.load
    rw [add_of_readable (hread _ (hperm.mem_iff.mp (List.mem_map_of_mem hi)))] at hadd
    exact (Except.ok.inj hadd).symm
  obtain ⟨counts, hloop, hcounted⟩ := countCommands_counted h.tile fun c hc hload => by
    have hmem : c ∈ ofType .loadTensorTile commands := List.mem_filter.mpr ⟨hc, decide_eq_true hload⟩
    rw [hloads] at hmem
    obtain ⟨i, hi, rfl⟩ := List.mem_map.mp hmem
    exact ⟨_, htotal i hi⟩
  obtain ⟨tiles, hobjs⟩ : ∃ tiles, reportTiles.mapM Json.asObj = .ok tiles := by
    simp only [mapM_eq_ok, exists_forall₂_iff]
    intro tile htile
    obtain ⟨fields, rfl⟩ := htiles tile htile
    exact ⟨fields, rfl⟩
  obtain ⟨byTile, hsorted, -⟩ := @sortedBy_of_order _
    (fun tile : Json.Key × Json × List Unit => .arr [tile.2.1, .int tile.2.2.length]) _ _
    (fun tile => toLex (tile.2.1.number?.getD 0, (tile.2.2.length : ℚ))) counts.byTile fun g hg g' hg' => by
      obtain ⟨q, hq⟩ := hcounted.tile g hg
      obtain ⟨q', hq'⟩ := hcounted.tile g' hg'
      simp only [hq, hq', Option.getD_some]
      exact Json.lt_pair hq (by simp [Json.number?]) hq' (by simp [Json.number?])
  refine ⟨_, bind_eq_ok.mpr ⟨_, hloop, bind_eq_ok.mpr ⟨_, hobjs, bind_eq_ok.mpr ⟨_, hsorted, rfl⟩⟩⟩, ?_⟩
  show counts.totalTensorBytes = _
  rw [hcounted.total, hloads, ← (hperm.map totalOf).sum_eq, List.map_map, List.map_map]
  congr 2
  refine List.map_congr_left fun i hi => ?_
  show bytesOf i.load = totalOf i.record
  rw [bytesOf, htotal i hi]
  rfl

/-! ### A report -/

/-- **The load-phase plan** of a report without tensor errors, whose records have readable ids, slices and sizes. -/
theorem load_plan {tensors : List Json} {warnings : List FString} {c : Collected}
    (hcollect : collectTensors tileCount strict warnings tensors = .ok c) (hno : c.errors = [])
    (hread : ∀ t ∈ placedRecords tensors, Readable t) :
    ∃ commands, buildCommands tileCount strict s warnings tensors = .ok (.plan commands c.warnings) ∧
      CompletePlan s (placedRecords tensors) commands ∧
      (∀ reportTiles : List Json, (∀ tile ∈ reportTiles, ∃ fields, tile = .obj fields) →
        ∃ summary, buildSummary commands reportTiles = .ok summary ∧
          summary.totalTensorBytes = .int ((placedRecords tensors).map totalOf).sum) ∧
      (Distinct (placedRecords tensors) → ∀ tensors' : List Json, tensors'.Perm tensors →
        ∃ warnings', buildCommands tileCount strict s warnings tensors' = .ok (.plan commands warnings')) := by
  obtain ⟨c₀, hc₀, h⟩ := collects_of_noError warnings (noError_of_collectTensors hcollect hno)
  obtain rfl : c = c₀ := Except.ok.inj (hcollect.symm.trans hc₀)
  obtain ⟨tiles, hsorted⟩ := h.exists_sorted
  obtain ⟨commands, hbuild, hplan⟩ := @buildCommands_of_collects tileCount strict s _ _ _ hcollect h hread _ hsorted
  exact ⟨commands, hbuild, hplan, fun reportTiles htiles => buildSummary_total hplan hread htiles,
    fun hdistinct tensors' hperm => buildCommands_perm hcollect hno hread hdistinct hperm hbuild⟩

/-! ### Samples -/

def sampleRecord (id : ℤ) (name : String) (owner slice packed : Json) : Fields :=
  [("tensor_id", .int id), ("tensor_name", .str name), ("placement_status", .str "placed"), ("owner_tile", owner),
    ("dtype", .str "q8"), ("slice_start", slice), ("packed_bytes", packed), ("scale_bytes", .int 4)]

def sampleSession : Session := ⟨.str "tiny", "session_0"⟩

def sampleReport : List Fields :=
  [sampleRecord 7 "wq" (.int 1) (.int 16) (.int 64), sampleRecord 7 "wq" (.int 1) .null (.int 64),
    sampleRecord 3 "embed" (.int 0) .null (.int 128)]

theorem readable_sampleRecord (id : ℤ) (name : String) {owner slice packed : Json} {q : ℚ} {m : ℤ}
    (hslice : (slice.orElse (.int 0)).number? = some q) (hpacked : (packed.orElse (.int 0)).asInt? = some m) :
    Readable (sampleRecord id name owner slice packed) := ⟨⟨id, rfl⟩, ⟨q, hslice⟩, ⟨m, hpacked⟩, ⟨4, rfl⟩⟩

/-- Three records on two tiles, in their order and in the other. -/
theorem load_plan_sample :
    ∃ commands, buildCommands 2 true sampleSession [] (sampleReport.map .obj) = .ok (.plan commands []) ∧
      CompletePlan sampleSession sampleReport commands ∧
      (∃ summary, buildSummary commands [] = .ok summary ∧ summary.totalTensorBytes = .int 268) ∧
      ∃ warnings, buildCommands 2 true sampleSession [] (sampleReport.map .obj).reverse =
        .ok (.plan commands warnings) := by
  have hread : ∀ t ∈ sampleReport, Readable t := by
    intro t ht
    simp only [sampleReport, List.mem_cons, List.not_mem_nil, or_false] at ht
    rcases ht with rfl | rfl | rfl
    · exact readable_sampleRecord 7 "wq" (rfl : _ = some (16 : ℚ)) (rfl : _ = some (64 : ℤ))
    · exact readable_sampleRecord 7 "wq" (rfl : _ = some (0 : ℚ)) (rfl : _ = some (64 : ℤ))
    · exact readable_sampleRecord 3 "embed" (rfl : _ = some (0 : ℚ)) (rfl : _ = some (128 : ℤ))
  have hdistinct : Distinct sampleReport := by
    refine ⟨?_, by decide⟩
    intro t ht
    simp only [sampleReport, List.mem_cons, List.not_mem_nil, or_false] at ht
    rcases ht with rfl | rfl | rfl
    · exact ⟨1, rfl⟩
    · exact ⟨1, rfl⟩
    · exact ⟨0, rfl⟩
  obtain ⟨commands, hbuild, hplan, hsummary, horder⟩ := @load_plan 2 true sampleSession (sampleReport.map .obj) [] _ rfl
    rfl hread
  obtain ⟨summary, hok, htotal⟩ := hsummary [] (by simp)
  exact ⟨commands, hbuild, hplan, ⟨summary, hok, htotal⟩, horder hdistinct _ (List.reverse_perm _)⟩

/-- The plan of these records on two tiles. -/
def samplePlan (records : List Fields) : Py Outcome := buildCommands 2 true sampleSession [] (records.map .obj)

/-- The commands of a plan, if there is one. -/
def Outcome.commands : Py Outcome → List Command
  | .ok (.plan commands _) => commands
  | _ => []

/-- Without tensor errors: a size that is a text raises, so do slices of one tensor that are a number and a text; the
slices `null` and `0` of one tensor are taken in the order of the report, and so is the name of a tile that is `true` in
one record and `1` in another. -/
theorem accepted_without_plan :
    (∃ c, collectTensors 2 true [] [.obj (sampleRecord 7 "wq" (.int 1) .null (.str "64"))] = .ok c ∧ c.errors = []) ∧
      samplePlan [sampleRecord 7 "wq" (.int 1) .null (.str "64")] = .error .typeError ∧
      samplePlan [sampleRecord 7 "wq" (.int 1) (.int 8) (.int 64), sampleRecord 7 "wq" (.int 1) (.str "0") (.int 64)] =
        .error .typeError ∧
      samplePlan [sampleRecord 7 "wq" (.int 1) .null (.int 64), sampleRecord 7 "wq" (.int 1) (.int 0) (.int 32)] ≠
        samplePlan [sampleRecord 7 "wq" (.int 1) (.int 0) (.int 32), sampleRecord 7 "wq" (.int 1) .null (.int 64)] ∧
      samplePlan [sampleRecord 7 "wq" (.int 1) .null (.int 64), sampleRecord 8 "wk" (.bool true) .null (.int 64)] ≠
        samplePlan [sampleRecord 8 "wk" (.bool true) .null (.int 64), sampleRecord 7 "wq" (.int 1) .null (.int 64)] := by
  refine ⟨⟨_, rfl, rfl⟩, rfl, rfl, fun h => ?_, fun h => ?_⟩
  · have hbytes : [Json.int 68, .int 36] = [.int 36, .int 68] := congrArg (fun outcome =>
      (ofType .loadTensorTile (Outcome.commands outcome)).map Command.totalBytes) h
    cases hbytes
  · have htiles : [Json.int 1] = [.bool true] := congrArg (fun outcome =>
      (ofType .tileBarrier (Outcome.commands outcome)).map Command.tileId) h
    cases htiles

end Att1.LoadPlan
