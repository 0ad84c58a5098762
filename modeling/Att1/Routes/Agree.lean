import Att1.Routes.Report
import Att1.Routes.Replay

/-!
# Att1.Routes.Agree — what the routes of a builder are replayed to

* `tally`: the counters of a tile, as sums over the routes.
* `replayRoute_fields`: one record adds its route to the tally; `replayRoutes_report`: so does the whole report.
-/

open Att1.Lib

namespace Att1.Routes

variable {n : ℕ} {parse : String → Option ℤ} {strict : Bool}

/-! ### Tiles -/

section Tiles

variable {tile : Json} {t : ℕ} (h : tile.asInt? = some (t : ℤ)) (ht : t < n)

include h ht

theorem inTileRange_of_asInt : inTileRange n tile = .ok true := by
  unfold inTileRange Json.ge
  rw [Json.lt_of_asInt h (show Json.asInt? (.int 0) = some 0 from rfl),
    Json.lt_of_asInt h (show Json.asInt? (.int n) = some (n : ℤ) from rfl), decide_eq_false (by omega),
    decide_eq_true (by omega)]
  rfl

theorem tileWithKey_of_asInt : tileWithKey n tile = .ok (some t) := by
  unfold tileWithKey
  rw [Json.key_of_asInt h]
  show Except.ok _ = Except.ok _
  congr 1
  rw [List.find?_range_eq_some]
  refine ⟨by simp, by simpa using ht, fun u hu => ?_⟩
  simp only [Json.Key.num.injEq, Bool.not_eq_true', decide_eq_false_iff_not]
  intro heq
  have heq : u = t := by exact_mod_cast heq
  omega

theorem changeTile_of_asInt {f : TileReplayCounters → Py TileReplayCounters} {ctrs : TileCtrs}
    {c : TileReplayCounters} (hf : f (ctrs t) = .ok c) : changeTile n tile f ctrs = .ok (Function.update ctrs t c) := by
  unfold changeTile
  rw [inTileRange_of_asInt h ht, tileWithKey_of_asInt h ht]
  show (f (ctrs t) >>= _) = _
  rw [hf]
  rfl

end Tiles

/-- A change that never fails, at different tiles. -/
theorem changeTiles_eq {f : TileReplayCounters → TileReplayCounters} {g : TileReplayCounters → Py TileReplayCounters}
    (hg : ∀ c, g c = .ok (f c)) {tiles : List ℕ} (htiles : ∀ t ∈ tiles, t < n) (hnodup : tiles.Nodup)
    (ctrs : TileCtrs) :
    (tiles.map fun d : ℕ => Json.int d).foldlM (fun ctrs dt => changeTile n dt g ctrs) ctrs =
      .ok fun t => if t ∈ tiles then f (ctrs t) else ctrs t := by
  induction tiles generalizing ctrs with
  | nil => simp [pure, Except.pure]
  | cons s tiles ih =>
    obtain ⟨hs, hnodup⟩ := List.nodup_cons.mp hnodup
    rw [List.map_cons, List.foldlM_cons,
      changeTile_of_asInt (show Json.asInt? (.int s) = some (s : ℤ) from rfl) (htiles s List.mem_cons_self) (hg _)]
    show List.foldlM _ (Function.update ctrs s (f (ctrs s))) _ = _
    rw [ih (fun t ht => htiles t (List.mem_cons_of_mem s ht)) hnodup]
    congr 1
    ext1 t
    rcases eq_or_ne t s with rfl | hne
    · simp [hs]
    · simp [hne]

/-! ### One route -/

def Route.isTrace (r : Route) : Bool := r.routeType == "TRACE_EVENT"

def barriersFrom (routes : List Route) (t : ℕ) : ℕ := routes.countP fun r => r.isBarrier && r.isFrom t

def tracesFrom (routes : List Route) (t : ℕ) : ℕ := routes.countP fun r => r.isTrace && r.isFrom t

/-- The counters of a tile after these routes, with no reduction completed. -/
def tally (routes : List Route) (t : ℕ) : TileReplayCounters where
  tileId := t
  packetsSent := packetsOut routes t
  packetsReceived := packetsIn routes t
  payloadBytesSent := bytesOut routes t
  payloadBytesReceived := bytesIn routes t
  reductionsStarted := reductionsFrom routes t
  barriersStarted := barriersFrom routes t
  barriersCompleted := barriersFrom routes t
  traceEvents := tracesFrom routes t

/-- What the replay has done with the records of these routes. -/
structure Replays (n : ℕ) (routes : List Route) (state : ReplayState) : Prop where
  ctrs : ∀ t < n, state.tileCtrs t = tally routes t
  groups : (state.reductionGroups.flatMap fun g => g.2.2).Perm ((routes.filter Route.isReduce).map Route.fields)
  replayed : state.replayed = routes.map Route.fields
  notes : state.notes = []

section OneRoute

variable {r : Route} (h : r.Valid n)

include h

/-- The packets that the replay counts are those that the builder counted. -/
theorem effPkts_eq : effPkts (.str r.routeType) r.packetCountEstimate = r.packetCountEstimate := by
  unfold effPkts
  by_cases hbarrier : r.routeType = "TILE_BARRIER"
  · have hpayload : r.payload = 0 := by
      rcases h.shaped.kind with ⟨ht | ht, -⟩ | ⟨-, hp, -⟩ | ⟨ht, -⟩ | ⟨ht, -⟩
      · simp [ht] at hbarrier
      · simp [ht] at hbarrier
      · unfold Route.payload
        rw [hp]
        rfl
      · simp [ht] at hbarrier
      · simp [ht] at hbarrier
    rw [if_pos (by simpa [Json.eqStr] using hbarrier), h.packets, hpayload]
    rfl
  · rw [if_neg (by simpa [Json.eqStr] using hbarrier), h.packets, if_pos (payload_pos h hbarrier)]
    rfl

/-- What the source of a route counts. -/
def sourceCounted (r : Route) (c : TileReplayCounters) : TileReplayCounters :=
  { c with
    packetsSent := c.packetsSent + r.packetCountEstimate
    payloadBytesSent := c.payloadBytesSent + r.payload
    reductionsStarted := c.reductionsStarted + if r.isReduce then 1 else 0
    barriersStarted := c.barriersStarted + if r.isBarrier then 1 else 0
    barriersCompleted := c.barriersCompleted + if r.isBarrier then 1 else 0
    traceEvents := c.traceEvents + if r.isTrace then 1 else 0 }

/-- What a destination of a route counts. -/
def destCounted (r : Route) (c : TileReplayCounters) : TileReplayCounters :=
  { c with
    packetsReceived := c.packetsReceived + r.packetCountEstimate
    payloadBytesReceived := c.payloadBytesReceived + r.payload }

theorem inSet_reduction : (Json.str r.routeType).inSet reductionRouteTypes = .ok r.isReduce := by
  rw [inSet_str]
  rcases h.shaped.kind with ⟨ht | ht, -⟩ | ⟨ht, -⟩ | ⟨ht, -⟩ | ⟨ht, -⟩ <;>
    simp [Route.isReduce, ht, reductionRouteTypes]

theorem countSource_eq (c : TileReplayCounters) :
    countSource (.str r.routeType) r.packetCountEstimate r.payload c = .ok (sourceCounted r c) := by
  unfold countSource
  rw [inSet_reduction h, inSet_str]
  unfold sourceCounted Route.isReduce Route.isBarrier Route.isTrace
  rcases h.shaped.kind with ⟨ht | ht, -⟩ | ⟨ht, -⟩ | ⟨ht, -⟩ | ⟨ht, -⟩ <;> rw [ht] <;> rfl

omit h in
theorem countDest_eq (c : TileReplayCounters) :
    countDest (.str r.routeType) r.packetCountEstimate r.payload c = .ok (destCounted r c) := by
  unfold countDest
  rw [inSet_str]
  rfl

omit h in
theorem trackFailure_fields (ctrs : TileCtrs) : trackFailure n strict r.fields ctrs = .ok (ctrs, []) := by
  unfold trackFailure
  rw [show dictGetD r.fields "route_status" (.str "ok") = .str "ok" from rfl]
  simp [Json.inTuple, Json.eqStr]

omit h in
theorem tally_concat (routes : List Route) {s t : ℕ} (hs : r.sourceTile.asInt? = some (s : ℤ)) :
    tally (routes ++ [r]) t =
      (if t ∈ r.destinationTiles then destCounted r else id)
        ((if t = s then sourceCounted r else id) (tally routes t)) := by
  have hfrom : r.isFrom t = decide (t = s) := eqInt_tile hs t
  unfold tally
  rw [packetsOut_concat, packetsIn_concat, bytesOut_concat, bytesIn_concat]
  unfold reductionsFrom barriersFrom tracesFrom
  rw [List.countP_append, List.countP_append, List.countP_append, List.countP_singleton, List.countP_singleton,
    List.countP_singleton, hfrom]
  unfold Route.isTo
  rcases eq_or_ne t s with rfl | hsource
  · by_cases hdest : t ∈ r.destinationTiles <;> simp [hdest, sourceCounted, destCounted]
  · by_cases hdest : t ∈ r.destinationTiles <;> simp [hsource, hdest, destCounted]

/-- **One record** adds its route to the tally. -/
theorem replayRoute_fields {routes : List Route} {state : ReplayState} (hstate : Replays n routes state) :
    ∃ state', replayRoute parse n strict state (.obj r.fields) = .ok state' ∧ Replays n (routes ++ [r]) state' := by
  obtain ⟨s, hs, hint⟩ := h.shaped.source
  set ctrs := Function.update state.tileCtrs s (sourceCounted r (state.tileCtrs s)) with hctrs
  set groups := if r.isReduce then
      state.reductionGroups.appendAt (.num (r.reductionId : ℤ)) (.int r.reductionId) r.fields
    else state.reductionGroups with hgroups_def
  have hdests : (Json.arr (r.destinationTiles.map fun d : ℕ => .int d)).orElse (.arr [])
      = .arr (r.destinationTiles.map fun d : ℕ => .int d) := by
    unfold Json.orElse
    split
    · rfl
    · next hempty => simp_all [Json.truthy]
  have hiter : ((dictGetD r.fields "destination_tiles" (.arr [])).orElse (.arr [])).iter
      = .ok (r.destinationTiles.map fun d : ℕ => .int d) := by
    rw [show dictGetD r.fields "destination_tiles" (.arr [])
      = .arr (r.destinationTiles.map fun d : ℕ => .int d) from rfl, hdests]
    rfl
  have hsource : changeTile n r.sourceTile
      (countSource (.str r.routeType) (effPkts (.str r.routeType) r.packetCountEstimate) r.payload) state.tileCtrs
      = .ok ctrs := by
    rw [effPkts_eq h]
    exact changeTile_of_asInt hint hs (countSource_eq h _)
  have hfold : (r.destinationTiles.map fun d : ℕ => Json.int d).foldlM
      (fun ctrs dt => changeTile n dt
        (countDest (.str r.routeType) (effPkts (.str r.routeType) r.packetCountEstimate) r.payload) ctrs) ctrs
      = .ok fun t => if t ∈ r.destinationTiles then destCounted r (ctrs t) else ctrs t := by
    rw [effPkts_eq h]
    exact changeTiles_eq (fun c => countDest_eq c) h.shaped.dest_lt h.shaped.nodup ctrs
  have hgroups : trackReduction (.str r.routeType) (.int r.reductionId) r.fields state.reductionGroups
      = .ok groups := by
    unfold trackReduction
    rw [inSet_reduction h, hgroups_def]
    show (if r.isReduce = true then _ else _) = _
    split <;> rfl
  refine ⟨
    { tileCtrs := fun t => if t ∈ r.destinationTiles then destCounted r (ctrs t) else ctrs t
      reductionGroups := groups
      replayed := state.replayed ++ [r.fields]
      notes := state.notes ++ [] }, ?_, ?_, ?_, ?_, ?_⟩
  · unfold replayRoute
    simp only [bind_eq_ok]
    exact ⟨r.fields, rfl, r.payload, Json.toInt_of_asInt parse h.size, _, rfl, _, trackFailure_fields _, ctrs,
      hsource, r.destinationTiles.map fun d : ℕ => .int d, hiter, _, hfold, groups, hgroups, rfl⟩
  · intro t ht
    rw [tally_concat routes hint, ← hstate.ctrs t ht]
    rcases eq_or_ne t s with rfl | hne
    · by_cases hdest : t ∈ r.destinationTiles <;> simp [hctrs, hdest]
    · by_cases hdest : t ∈ r.destinationTiles <;> simp [hctrs, hdest, hne]
  · show (groups.flatMap fun g => g.2.2).Perm _
    rw [List.filter_append, List.map_append, hgroups_def]
    by_cases hreduce : r.isReduce = true
    · rw [if_pos hreduce, List.filter_cons_of_pos hreduce]
      refine (Groups.appendAt_perm _ _ _ _).trans ((hstate.groups.cons _).trans ?_)
      exact @List.perm_append_comm _ [r.fields] _
    · rw [if_neg hreduce, List.filter_cons_of_neg hreduce]
      simpa using hstate.groups
  · show state.replayed ++ [r.fields] = _
    rw [hstate.replayed, List.map_append]
    rfl
  · show state.notes ++ [] = _
    rw [hstate.notes]
    rfl

end OneRoute

/-! ### The loop over the routes -/

theorem replays_start : Replays n [] { tileCtrs := fun tid => { tileId := tid } } :=
  ⟨fun _ _ => rfl, List.Perm.refl _, rfl, rfl⟩

theorem replayLoop_fields {routes : List Route} (hvalid : ∀ r ∈ routes, r.Valid n) :
    ∃ state, (routes.map fun r => Json.obj r.fields).foldlM (replayRoute parse n strict)
      { tileCtrs := fun tid => { tileId := tid } } = .ok state ∧ Replays n routes state := by
  induction routes using List.reverseRecOn with
  | nil => exact ⟨_, rfl, replays_start⟩
  | append_singleton routes r ih =>
    obtain ⟨state, hloop, hstate⟩ := ih fun r' hr' => hvalid r' (List.mem_append_left _ hr')
    obtain ⟨state', hstep, hstate'⟩ := replayRoute_fields (hvalid r (by simp)) hstate
    refine ⟨state', ?_, hstate'⟩
    rw [List.map_append, List.foldlM_append, hloop]
    show (replayRoute parse n strict state (.obj r.fields) >>= _) = _
    rw [hstep]
    rfl

/-- Records with increasing ids are replayed in the order of the report. -/
theorem sortRoutes_fields {routes : List Route} (hids : routes.map (·.routeId) = List.range' 1 routes.length) :
    sortRoutes parse (.arr (routes.map fun r => .obj r.fields)) = .ok (routes.map fun r => .obj r.fields) := by
  have hkeys : ∀ routes : List Route, (routes.map fun r => Json.obj r.fields).mapM (routeKey parse) =
      .ok (routes.map fun r => (r.routeId : ℤ)) := by
    intro routes
    induction routes with
    | nil => rfl
    | cons r routes ih =>
      rw [List.map_cons, List.mapM_cons, ih]
      rfl
  have hsorted : sortedBy (fun pair : ℤ × Json => .int pair.1)
      ((routes.map fun r => (r.routeId : ℤ)).zip (routes.map fun r => Json.obj r.fields)) =
      .ok ((routes.map fun r => (r.routeId : ℤ)).zip (routes.map fun r => Json.obj r.fields)) := by
    apply sortedBy_of_sorted
    rw [List.zip_map', List.pairwise_map]
    have hlt : (routes.map (·.routeId)).Pairwise (· < ·) := by
      rw [hids]
      exact List.pairwise_lt_range'
    refine (List.pairwise_map.mp hlt).imp fun {r₁ r₂} h => ?_
    rw [Json.lt_of_asInt (show Json.asInt? (.int r₂.routeId) = some (r₂.routeId : ℤ) from rfl)
      (show Json.asInt? (.int r₁.routeId) = some (r₁.routeId : ℤ) from rfl), decide_eq_false (by omega)]
  have hsnd : ((routes.map fun r => (r.routeId : ℤ)).zip (routes.map fun r => Json.obj r.fields)).map Prod.snd =
      routes.map fun r => Json.obj r.fields := by
    apply List.map_snd_zip
    simp
  unfold sortRoutes
  simp only [Json.iter]
  rw [show (do
      let routes ← (Except.ok (routes.map fun r => Json.obj r.fields) : Py (List Json))
      let keys ← routes.mapM (routeKey parse)
      let pairs ← sortedBy (fun pair : ℤ × Json => .int pair.1) (keys.zip routes)
      Except.ok (pairs.map Prod.snd)) = Except.ok (routes.map fun r => Json.obj r.fields) from ?_]
  rw [bind_eq_ok]
  refine ⟨_, rfl, ?_⟩
  rw [hkeys, bind_eq_ok]
  refine ⟨_, rfl, ?_⟩
  rw [hsorted, bind_eq_ok]
  exact ⟨_, rfl, by rw [hsnd]⟩

/-! ### Completed reductions -/

/-- Groups whose members are explicit are complete; the others have no members. -/
theorem completedGroups_eq {groups : Groups Fields}
    (hexplicit : ∀ r ∈ groups.flatMap fun g => g.2.2,
      ∃ rb ∈ explicitReductionBehaviors, dictGet r "reduction_behavior" = .str rb) :
    ∃ completed, completedGroups groups = .ok completed ∧
      (completed.flatMap fun g => g.2.2) = groups.flatMap fun g => g.2.2 := by
  induction groups with
  | nil => exact ⟨[], rfl, rfl⟩
  | cons group groups ih =>
    obtain ⟨k, n', members⟩ := group
    rw [List.flatMap_cons] at hexplicit
    obtain ⟨rest, hrest, hflat⟩ := ih fun r hr => hexplicit r (List.mem_append_right _ hr)
    unfold completedGroups
    rw [hrest]
    cases members with
    | nil =>
      refine ⟨rest, rfl, ?_⟩
      rw [hflat]
      rfl
    | cons r members =>
      obtain ⟨rb, hrb, hget⟩ := hexplicit r (by simp)
      have hgroup : hasExplicit (r :: members) = .ok true := by
        unfold hasExplicit
        rw [hget, inSet_str]
        simp [hrb, bind, Except.bind]
      refine ⟨(k, n', r :: members) :: rest, ?_, ?_⟩
      · show (hasExplicit (r :: members) >>= _) = _
        rw [hgroup]
        rfl
      · rw [List.flatMap_cons, List.flatMap_cons, hflat]

/-- The groups are gone through one after the other. -/
theorem completeGroups_flatMap (groups : Groups Fields) (ctrs : TileCtrs) :
    groups.foldlM (fun ctrs group => completeGroup n group.2.2 ctrs) ctrs =
      completeGroup n (groups.flatMap fun g => g.2.2) ctrs := by
  induction groups generalizing ctrs with
  | nil => rfl
  | cons group groups ih =>
    unfold completeGroup at ih ⊢
    rw [List.foldlM_cons, List.flatMap_cons, List.foldlM_append]
    congr 1
    ext1 ctrs'
    exact ih ctrs'

/-- Every member of a group completes a reduction at its source. -/
theorem completeGroup_eq {members : List Fields}
    (hsource : ∀ r ∈ members, ∃ s < n, (dictGetD r "source_tile" (.int (-1))).asInt? = some (s : ℤ))
    (ctrs : TileCtrs) :
    ∃ ctrs', completeGroup n members ctrs = .ok ctrs' ∧ ∀ t < n, ctrs' t =
      { ctrs t with
        reductionsCompleted := (ctrs t).reductionsCompleted +
          members.countP fun r => (dictGetD r "source_tile" (.int (-1))).eqInt t } := by
  induction members generalizing ctrs with
  | nil => exact ⟨ctrs, rfl, fun t _ => rfl⟩
  | cons r members ih =>
    obtain ⟨s, hs, hint⟩ := hsource r List.mem_cons_self
    set ctrs₁ := Function.update ctrs s
      { ctrs s with reductionsCompleted := (ctrs s).reductionsCompleted + 1 } with hctrs₁
    have hfirst : changeTile n (dictGetD r "source_tile" (.int (-1))) countCompleted ctrs = .ok ctrs₁ :=
      changeTile_of_asInt hint hs rfl
    obtain ⟨ctrs', hrest, hcount⟩ := ih (fun r' hr' => hsource r' (List.mem_cons_of_mem _ hr')) ctrs₁
    refine ⟨ctrs', ?_, fun t ht => ?_⟩
    · unfold completeGroup at hrest ⊢
      rw [List.foldlM_cons, bind_eq_ok]
      exact ⟨ctrs₁, hfirst, hrest⟩
    · rw [hcount t ht, List.countP_cons, eqInt_tile hint]
      rcases eq_or_ne t s with rfl | hne
      · simp [hctrs₁, Nat.add_assoc, Nat.add_comm]
      · simp [hctrs₁, hne]

/-! ### The whole report -/

variable {b : Builder} {report : Fields}

/-- The counters of a tile after these routes. -/
def replayedTo (routes : List Route) (t : ℕ) : TileReplayCounters :=
  { tally routes t with reductionsCompleted := reductionsFrom routes t }

theorem dictGetD_of_dictGet_arr {key : String} {items : List Json} (default : Json)
    (h : dictGet report key = .arr items) : dictGetD report key default = .arr items := by
  unfold dictGet dictGetD at h
  unfold dictGetD
  cases hl : report.lookup key with
  | none => simp [hl] at h
  | some v => simpa [hl] using h

/-- **The routes of a builder** are replayed to their tally, with every reduction completed at its source. -/
theorem replayRoutes_report (h : Ledger n b) (hs : Sized b.routes)
    (hroutes : dictGet report "routes" = .arr (b.routes.map fun r => .obj r.fields)) :
    ∃ result, replayRoutes parse report n strict = .ok result ∧
      result.tileCounters = (List.range n).map (replayedTo b.routes) := by
  obtain ⟨state, hloop, hstate⟩ := @replayLoop_fields n parse strict b.routes (h.valid hs)
  have hmember : ∀ f ∈ state.reductionGroups.flatMap fun g => g.2.2,
      ∃ r ∈ b.routes, r.isReduce = true ∧ f = r.fields := by
    intro f hf
    obtain ⟨r, hr, rfl⟩ := List.mem_map.mp (hstate.groups.subset hf)
    exact ⟨r, List.mem_of_mem_filter hr, (List.mem_filter.mp hr).2, rfl⟩
  have hexplicit : ∀ f ∈ state.reductionGroups.flatMap fun g => g.2.2,
      ∃ rb ∈ explicitReductionBehaviors, dictGet f "reduction_behavior" = .str rb := by
    intro f hf
    obtain ⟨r, hr, hreduce, rfl⟩ := hmember f hf
    refine ⟨r.reductionBehavior, ?_, rfl⟩
    have htype : r.routeType = "PARTIAL_REDUCE" := by simpa [Route.isReduce] using hreduce
    rcases (h.traffic.shaped r hr).kind with ⟨ht | ht, -⟩ | ⟨ht, -⟩ | ⟨ht, -⟩ | ⟨-, -, -, hrb⟩
    · simp [ht] at htype
    · simp [ht] at htype
    · simp [ht] at htype
    · simp [ht] at htype
    · exact hrb
  obtain ⟨completed, hcompleted, hflat⟩ := completedGroups_eq hexplicit
  have hsource : ∀ f ∈ completed.flatMap fun g => g.2.2,
      ∃ s < n, (dictGetD f "source_tile" (.int (-1))).asInt? = some (s : ℤ) := by
    intro f hf
    rw [hflat] at hf
    obtain ⟨r, hr, -, rfl⟩ := hmember f hf
    exact (h.traffic.shaped r hr).source
  obtain ⟨ctrs, hctrs, hcount⟩ := completeGroup_eq hsource state.tileCtrs
  refine ⟨⟨state.replayed, (List.range n).map ctrs, state.reductionGroups, state.notes⟩, ?_, ?_⟩
  · unfold replayRoutes
    rw [dictGetD_of_dictGet_arr _ hroutes, sortRoutes_fields h.traffic.ids]
    simp only [bind_eq_ok]
    exact ⟨_, rfl, state, hloop, completed, hcompleted, ctrs, (completeGroups_flatMap completed _).trans hctrs, rfl⟩
  · show (List.range n).map ctrs = _
    apply List.map_congr_left
    intro t ht
    rw [List.mem_range] at ht
    have hfrom : (completed.flatMap fun g => g.2.2).countP (fun r => (dictGetD r "source_tile" (.int (-1))).eqInt t) =
        reductionsFrom b.routes t := by
      rw [hflat, hstate.groups.countP_eq, List.countP_map, List.countP_filter]
      unfold reductionsFrom
      congr 1
      ext1 r
      exact Bool.and_comm _ _
    rw [hcount t ht, hstate.ctrs t ht, hfrom]
    unfold replayedTo
    simp [tally]

end Att1.Routes
