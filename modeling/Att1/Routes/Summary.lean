import Att1.Routes.Agree

/-!
# Att1.Routes.Summary — the replay of a report against its own summaries

The builder counts a barrier at every tile and a reduction at every tile that it reaches; the replay counts both at
the tile where they start.  Packets, bytes and started reductions are counted alike.
-/

open Att1.Lib

namespace Att1.Routes

variable {n : ℕ} {strict : Bool} {ctx : FString}

/-! ### What the gate of the replay lets through -/

theorem errorsOf_append (xs ys : List Diag) :
    errorsOf strict (xs ++ ys) = errorsOf strict xs ++ errorsOf strict ys := by
  unfold errorsOf
  cases strict <;> simp

theorem errorsOf_diagError (rule : String) (message : FString) : errorsOf strict [diagError rule message] ≠ [] := by
  unfold errorsOf diagError
  cases strict <;> simp

theorem isSize_of_isNegative {payload : Json} (h : isNegative payload = false) : IsSize payload := by
  unfold isNegative at h
  cases hint : payload.asInt? with
  | none => simp [hint] at h
  | some p =>
    have hp : 0 ≤ p := by simpa [hint] using h
    exact ⟨p.toNat, by rw [hint, Int.toNat_of_nonneg hp]⟩

/-- A payload without an error is an integer not below 0. -/
theorem isNegative_of_checkPayloadBytes {rtype : Json} {route : Fields} {diags : List Diag}
    (hok : checkPayloadBytes ctx rtype route = .ok diags) (hno : errorsOf strict diags = []) :
    isNegative (dictGet route "payload_bytes") = false := by
  unfold checkPayloadBytes at hok
  by_cases hnone : (dictGet route "payload_bytes").isNone = true
  · rw [if_pos hnone] at hok
    obtain rfl := Except.ok.inj hok
    exact absurd hno (errorsOf_diagError _ _)
  · rw [if_neg hnone] at hok
    by_cases hneg : isNegative (dictGet route "payload_bytes") = true
    · rw [if_pos hneg] at hok
      obtain rfl := Except.ok.inj hok
      exact absurd hno (errorsOf_diagError _ _)
    · simpa using hneg

theorem isNegative_of_checkRoute {seen seen' : List ℤ} {route : Fields} {diags : List Diag}
    (hok : checkRoute ctx n seen route = .ok (seen', diags)) (hno : errorsOf strict diags = []) :
    isNegative (dictGet route "payload_bytes") = false := by
  unfold checkRoute at hok
  obtain ⟨⟨rtype, types⟩, -, hok⟩ := bind_eq_ok.mp hok
  obtain ⟨dests, -, hok⟩ := bind_eq_ok.mp hok
  obtain ⟨payload, hpayload, hok⟩ := bind_eq_ok.mp hok
  obtain ⟨packets, -, hok⟩ := bind_eq_ok.mp hok
  obtain ⟨behavior, -, hok⟩ := bind_eq_ok.mp hok
  obtain ⟨reduction, -, hok⟩ := bind_eq_ok.mp hok
  obtain ⟨ordering, -, hok⟩ := bind_eq_ok.mp hok
  obtain ⟨status, -, hok⟩ := bind_eq_ok.mp hok
  obtain ⟨-, rfl⟩ := Prod.mk.inj (Except.ok.inj hok)
  simp only [errorsOf_append, List.append_eq_nil_iff] at hno
  exact isNegative_of_checkPayloadBytes hpayload hno.1.1.1.1.1.2

theorem sized_of_checkRoutes {routes : List Route} {seen : List ℤ} {idx : ℕ} {valid : List Fields} {diags : List Diag}
    (hok : checkRoutes n seen idx (routes.map fun r => .obj r.fields) = .ok (valid, diags))
    (hno : errorsOf strict diags = []) : Sized routes := by
  induction routes generalizing seen idx valid diags with
  | nil => simp [Sized]
  | cons r routes ih =>
    rw [List.map_cons] at hok
    unfold checkRoutes at hok
    obtain ⟨⟨seen', first⟩, hfirst, hok⟩ := bind_eq_ok.mp hok
    obtain ⟨⟨valid', rest⟩, hrest, hok⟩ := bind_eq_ok.mp hok
    obtain ⟨-, rfl⟩ := Prod.mk.inj (Except.ok.inj hok)
    rw [errorsOf_append, List.append_eq_nil_iff] at hno
    have hneg : isNegative r.payloadBytes = false := isNegative_of_checkRoute hfirst hno.1
    intro r' hr'
    rcases List.mem_cons.mp hr' with rfl | hr'
    · exact payload_of_isSize (isSize_of_isNegative hneg)
    · exact ih hrest hno.2 r' hr'

/-- What an assembled report holds, whatever the payloads are. -/
theorem assembleReport_inv {plan : Fields} (p : AcceptedPlan plan) {b : Builder} (h : Ledger p.tileCount b)
    {args : ReportArgs} {ws : List FString} {report : Fields} (hok : assembleReport plan b args ws = .ok report) :
    (∃ header, dictGet report "header" = .obj header ∧ dictGet header "tile_count" = p.tileCountField) ∧
      dictGet report "routes" = .arr (b.routes.map fun r => .obj r.fields) := by
  unfold assembleReport at hok
  rw [item_of_lookup p.header_eq, tileSummaries_eq h] at hok
  obtain ⟨header, hheader, hok⟩ := bind_eq_ok.mp hok
  obtain rfl := Except.ok.inj hheader
  obtain ⟨fields, hfields, hok⟩ := bind_eq_ok.mp hok
  obtain rfl : p.header = fields := Except.ok.inj hfields
  obtain ⟨tileCount, htiles, hok⟩ := bind_eq_ok.mp hok
  rw [item_of_lookup p.tileCountField_eq] at htiles
  obtain rfl := Except.ok.inj htiles
  obtain ⟨estimate, -, hok⟩ := bind_eq_ok.mp hok
  obtain rfl := Except.ok.inj hok
  exact ⟨⟨_, rfl, rfl⟩, rfl⟩

/-- The replay goes through exactly the tiles of the plan, and all payloads are sizes. -/
theorem sized_of_accepts {plan : Fields} (p : AcceptedPlan plan) {b : Builder} (h : Ledger p.tileCount b)
    {args : ReportArgs} {ws : List FString} {report : Fields} (hok : assembleReport plan b args ws = .ok report)
    (haccepts : Accepts strict report n) : n = p.tileCount ∧ Sized b.routes := by
  obtain ⟨⟨header, hheader, htiles⟩, hroutes⟩ := assembleReport_inv p h hok
  obtain ⟨hdiags, valid, rdiags, hvalidate, hcheck, hno⟩ := haccepts
  rw [errorsOf_append, List.append_eq_nil_iff] at hno
  constructor
  · unfold validateHeader at hvalidate
    rw [hheader] at hvalidate
    have hcount : checkTileCount header = (p.tileCount, []) :=
      checkTileCount_of_asInt (by rw [htiles, p.tileCount_eq]) p.tileCount_pos
    obtain ⟨fields, hfields, hvalidate⟩ := bind_eq_ok.mp hvalidate
    obtain rfl : header = fields := Except.ok.inj hfields
    obtain ⟨status, -, hvalidate⟩ := bind_eq_ok.mp hvalidate
    have hn : (checkTileCount header).1 = n := (Prod.mk.inj (Except.ok.inj hvalidate)).1
    rw [hcount] at hn
    exact hn.symm
  · unfold validateRoutes at hcheck
    rw [hroutes] at hcheck
    exact sized_of_checkRoutes hcheck hno.2

/-- A report of routes with sizes is let through. -/
theorem accepts_report {b : Builder} {report : Fields} (hreport : ReportOf n b report) (hn : 0 < n) (h : Ledger n b)
    (hs : Sized b.routes) : Accepts false report n :=
  ⟨[], _, [], validateHeader_report hreport hn hs, validateRoutes_report hreport h hs, rfl⟩

/-! ### Where barriers and reductions are counted -/

/-- Every route leaves one tile. -/
theorem sum_countP_from {routes : List Route} (hsource : ∀ r ∈ routes, ∃ s < n, r.sourceTile.asInt? = some (s : ℤ))
    (keep : Route → Bool) :
    ∑ t ∈ Finset.range n, routes.countP (fun r => keep r && r.isFrom t) = routes.countP keep := by
  induction routes with
  | nil => simp
  | cons r routes ih =>
    obtain ⟨s, hs, hint⟩ := hsource r List.mem_cons_self
    have hone : ∑ t ∈ Finset.range n, (if (keep r && r.isFrom t) = true then 1 else 0) =
        if keep r = true then 1 else 0 := by
      have hfrom : ∀ t : ℕ, r.isFrom t = decide (t = s) := eqInt_tile hint
      by_cases hkeep : keep r = true
      · simp [hkeep, hfrom, hs]
      · simp [hkeep]
    simp only [List.countP_cons]
    rw [Finset.sum_add_distrib, ih fun r' hr' => hsource r' (List.mem_cons_of_mem _ hr'), hone]

/-- A reduction reaches the tiles that it does not leave. -/
theorem reductionsInto_add_from {routes : List Route} (hshaped : ∀ r ∈ routes, r.Shaped n) {t : ℕ} (ht : t < n) :
    reductionsInto routes t + reductionsFrom routes t = routes.countP Route.isReduce := by
  unfold reductionsInto reductionsFrom
  induction routes with
  | nil => simp
  | cons r routes ih =>
    have hrest := ih fun r' hr' => hshaped r' (List.mem_cons_of_mem _ hr')
    have hr := hshaped r List.mem_cons_self
    have hto : r.isReduce = true → r.isTo t = !r.isFrom t := by
      intro hreduce
      have htype : (r.routeType == "TILE_BARRIER") = false := by
        have : r.routeType = "PARTIAL_REDUCE" := by simpa [Route.isReduce] using hreduce
        simp [this]
      unfold Route.isTo Route.isFrom
      rw [hr.dests, htype]
      simp [ht]
    simp only [List.countP_cons]
    by_cases hreduce : r.isReduce = true
    · rw [hto hreduce]
      cases r.isFrom t <;> simp [hreduce] <;> omega
    · simp only [hreduce, Bool.false_and]
      simpa using hrest

theorem barriersFrom_le (routes : List Route) (t : ℕ) : barriersFrom routes t ≤ barriers routes :=
  List.countP_mono_left fun r _ h => by
    simp only [Bool.and_eq_true] at h
    exact h.1

/-- All tiles count all barriers only if there is one tile, or none of them. -/
theorem barriersFrom_eq_iff {routes : List Route} (hshaped : ∀ r ∈ routes, r.Shaped n) :
    (∀ t < n, barriersFrom routes t = barriers routes) ↔ n = 1 ∨ barriers routes = 0 := by
  have hsum : ∑ t ∈ Finset.range n, barriersFrom routes t = barriers routes :=
    sum_countP_from (fun r hr => (hshaped r hr).source) Route.isBarrier
  constructor
  · intro hall
    rw [Finset.sum_congr rfl fun t ht => hall t (Finset.mem_range.mp ht), Finset.sum_const, Finset.card_range,
      smul_eq_mul] at hsum
    rcases Nat.eq_zero_or_pos (barriers routes) with hzero | hpos
    · exact Or.inr hzero
    · exact Or.inl (Nat.eq_of_mul_eq_mul_right hpos (by rw [hsum, Nat.one_mul]))
  · rintro (rfl | hzero) t ht
    · obtain rfl : t = 0 := by omega
      simpa using hsum
    · have hle := barriersFrom_le routes t
      omega

/-- All tiles count as many reductions in as out only if there are none, or two tiles that exchange equally many. -/
theorem reductionsFrom_eq_iff {routes : List Route} (hshaped : ∀ r ∈ routes, r.Shaped n) (hn : 0 < n) :
    (∀ t < n, reductionsFrom routes t = reductionsInto routes t) ↔
      routes.countP Route.isReduce = 0 ∨ n = 2 ∧ reductionsFrom routes 0 = reductionsFrom routes 1 := by
  have hsum : ∑ t ∈ Finset.range n, reductionsFrom routes t = routes.countP Route.isReduce :=
    sum_countP_from (fun r hr => (hshaped r hr).source) Route.isReduce
  have hadd := fun t (ht : t < n) => reductionsInto_add_from hshaped ht
  constructor
  · intro hall
    rcases Nat.eq_zero_or_pos (routes.countP Route.isReduce) with hzero | hpos
    · exact Or.inl hzero
    · have hhalf : ∀ t < n, 2 * reductionsFrom routes t = routes.countP Route.isReduce := by
        intro t ht
        have := hadd t ht
        have := hall t ht
        omega
      have hdouble : n * routes.countP Route.isReduce = 2 * routes.countP Route.isReduce := by
        calc n * routes.countP Route.isReduce
          _ = ∑ t ∈ Finset.range n, routes.countP Route.isReduce := by simp
          _ = ∑ t ∈ Finset.range n, 2 * reductionsFrom routes t :=
            Finset.sum_congr rfl fun t ht => (hhalf t (Finset.mem_range.mp ht)).symm
          _ = 2 * routes.countP Route.isReduce := by rw [← Finset.mul_sum, hsum]
      obtain rfl : n = 2 := Nat.eq_of_mul_eq_mul_right hpos hdouble
      have hzero := hhalf 0 (by omega)
      have hone := hhalf 1 (by omega)
      exact Or.inr ⟨rfl, by omega⟩
  · rintro (hzero | ⟨rfl, hequal⟩) t ht
    · have := hadd t ht
      omega
    · rw [Finset.sum_range_succ, Finset.sum_range_one] at hsum
      have := hadd t ht
      interval_cases t <;> omega

/-! ### The replay of a generated report -/

variable {parse : String → Option ℤ}

/-- The fields of a tile summary that the replay counts in the same way. -/
def sharedFields : List (String × (TileReplayCounters → ℤ)) :=
  [("tile_id", fun c => c.tileId),
    ("outbound_packet_count", fun c => c.packetsSent),
    ("inbound_packet_count", fun c => c.packetsReceived),
    ("outbound_payload_bytes", fun c => c.payloadBytesSent),
    ("inbound_payload_bytes", fun c => c.payloadBytesReceived),
    ("reductions_started", fun c => c.reductionsStarted),
    ("route_failures", fun c => c.routeFailures)]

/-- The fields that the replay counts at the source. -/
def sourceFields : List (String × (TileReplayCounters → ℤ)) :=
  [("reductions_completed", fun c => c.reductionsCompleted),
    ("barriers_started", fun c => c.barriersStarted),
    ("barriers_completed", fun c => c.barriersCompleted)]

/-- The counters equal these fields of the summary. -/
def Agrees (fields : List (String × (TileReplayCounters → ℤ))) (tile : TileSummary) (c : TileReplayCounters) : Prop :=
  ∀ field ∈ fields, dictGet tile.fields field.1 = .int (field.2 c)

/-- What the replay counts at a tile, beside what its summary says. -/
structure ReplaysSummary (routes : List Route) (tile : TileSummary) (c : TileReplayCounters) : Prop where
  shared : Agrees sharedFields tile c
  reductionsCompleted : c.reductionsCompleted = reductionsFrom routes tile.tileId
  reductionsSummary : tile.reductionsCompleted = reductionsInto routes tile.tileId
  barriersStarted : c.barriersStarted = barriersFrom routes tile.tileId
  barriersCompleted : c.barriersCompleted = barriersFrom routes tile.tileId
  barriersSummary : tile.barriersStarted = barriers routes ∧ tile.barriersCompleted = barriers routes

variable {b : Builder}

theorem replaysSummary_of_ledger (h : Ledger n b) (hs : Sized b.routes) {t : ℕ} (ht : t < n) :
    ReplaysSummary b.routes (b.tileSummary t) (replayedTo b.routes t) := by
  refine ⟨?_, rfl, h.events.reductionsCompleted t ht, rfl, rfl, h.events.barriersStarted t ht,
    h.events.barriersCompleted t ht⟩
  intro field hfield
  simp only [sharedFields, List.mem_cons, List.not_mem_nil, or_false] at hfield
  rcases hfield with rfl | rfl | rfl | rfl | rfl | rfl | rfl
  · rfl
  · exact congrArg (fun k : ℕ => Json.int k) (h.traffic.outPackets t ht)
  · exact congrArg (fun k : ℕ => Json.int k) (h.traffic.inPackets t ht)
  · exact h.traffic.outBytes hs.ints t ht
  · exact h.traffic.inBytes hs.ints t ht
  · exact congrArg (fun k : ℕ => Json.int k) (h.events.reductionsStarted t ht)
  · rfl

/-- The other fields agree when nothing is counted in two ways at this tile. -/
theorem agrees_source_iff {routes : List Route} {tile : TileSummary} {c : TileReplayCounters}
    (h : ReplaysSummary routes tile c) :
    Agrees sourceFields tile c ↔ reductionsFrom routes tile.tileId = reductionsInto routes tile.tileId ∧
      barriersFrom routes tile.tileId = barriers routes := by
  have hreductions : dictGet tile.fields "reductions_completed" = .int tile.reductionsCompleted := rfl
  have hstarted : dictGet tile.fields "barriers_started" = .int tile.barriersStarted := rfl
  have hcompleted : dictGet tile.fields "barriers_completed" = .int tile.barriersCompleted := rfl
  unfold Agrees sourceFields
  simp only [List.forall_mem_cons, List.not_mem_nil, false_imp_iff, implies_true, and_true, hreductions, hstarted,
    hcompleted, Json.int.injEq, Nat.cast_inj, h.reductionsCompleted, h.reductionsSummary, h.barriersStarted,
    h.barriersCompleted, h.barriersSummary.1, h.barriersSummary.2]
  constructor
  · rintro ⟨hr, hb, -⟩
    exact ⟨hr.symm, hb.symm⟩
  · rintro ⟨hr, hb⟩
    exact ⟨hr.symm, hb.symm, hb.symm⟩

/-- **Replaying a generated report** reproduces the packets, bytes, started reductions and failures of its summaries,
and counts barriers and completed reductions where they start.  That is the same for all tiles exactly when there is
one tile or no barrier, and there is no reduction or two tiles reduce equally often. -/
theorem replay_summary {plan : Fields} {ws : List FString} {args : ReportArgs} {tensorBytes : TensorBytes}
    {report : Fields} (hplan : validatePlan plan args.strict = .ok ws)
    (hroutes : mapPlanToRoutes plan tensorBytes = .ok b) (hreport : assembleReport plan b args ws = .ok report) (haccepts : Accepts strict report n) :
    ∃ result counters, replayRoutes parse report n strict = .ok result ∧
      result.tileCounters = (List.range n).map counters ∧
      dictGet report "tiles" = .arr ((List.range n).map fun t => .obj (b.tileSummary t).fields) ∧
      (∀ t < n, ReplaysSummary b.routes (b.tileSummary t) (counters t)) ∧
      ((∀ t < n, Agrees (sharedFields ++ sourceFields) (b.tileSummary t) (counters t)) ↔
        (n = 1 ∨ barriers b.routes = 0) ∧ (b.routes.countP Route.isReduce = 0 ∨
          n = 2 ∧ reductionsFrom b.routes 0 = reductionsFrom b.routes 1)) := by
  obtain ⟨p⟩ := acceptedPlan_of_validatePlan hplan
  obtain ⟨h, -⟩ := mapPlan_emitted p hroutes
  obtain ⟨rfl, hs⟩ := sized_of_accepts p h hreport haccepts
  obtain ⟨report', hassemble, hof⟩ := assembleReport_ok p h hs args ws
  obtain rfl : report' = report := Except.ok.inj (hassemble.symm.trans hreport)
  obtain ⟨result, hreplay, hcounters⟩ := @replayRoutes_report _ parse strict _ _ h hs hof.routes
  have htiles := fun t (ht : t < p.tileCount) => replaysSummary_of_ledger h hs ht
  refine ⟨result, replayedTo b.routes, hreplay, hcounters, ?_, htiles, ?_⟩
  · rw [hof.tiles, List.map_map]
    rfl
  · have hagree : (∀ t < p.tileCount,
        Agrees (sharedFields ++ sourceFields) (b.tileSummary t) (replayedTo b.routes t)) ↔
        ∀ t < p.tileCount, reductionsFrom b.routes t = reductionsInto b.routes t ∧
          barriersFrom b.routes t = barriers b.routes := by
      refine forall₂_congr fun t ht => ?_
      refine Iff.trans ?_ (agrees_source_iff (htiles t ht))
      unfold Agrees
      rw [List.forall_mem_append]
      exact and_iff_right (htiles t ht).shared
    rw [hagree, ← barriersFrom_eq_iff h.traffic.shaped, ← reductionsFrom_eq_iff h.traffic.shaped p.tileCount_pos]
    constructor
    · intro hall
      exact ⟨fun t ht => (hall t ht).2, fun t ht => (hall t ht).1⟩
    · rintro ⟨hbarriers, hreductions⟩ t ht
      exact ⟨hreductions t ht, hbarriers t ht⟩

theorem replay_summary_routedPlan :
    ∃ b report result counters, mapPlanToRoutes routedPlan (fun _ => some 512) = .ok b ∧
      assembleReport routedPlan b sampleArgs [] = .ok report ∧
      replayRoutes (fun _ => none) report 2 false = .ok result ∧ result.tileCounters = (List.range 2).map counters ∧
      ∀ t < 2, ReplaysSummary b.routes (b.tileSummary t) (counters t) := by
  have hplan : validatePlan routedPlan sampleArgs.strict = .ok [] := rfl
  obtain ⟨p⟩ := acceptedPlan_of_validatePlan hplan
  have htwo : p.tileCount = 2 := by
    have hint := p.tileCount_eq
    rw [← p.planTileCount_eq] at hint
    exact (Nat.cast_injective (Option.some.inj hint)).symm
  have hcommands : ∀ cmd, .obj cmd ∈ p.commands → Sizable cmd ∧ (dictGet cmd "tensor_name").isContainer = false := by
    rw [← p.planCommands_eq]
    exact sizable_routedPlan
  obtain ⟨b, hroutes⟩ : ∃ b, mapPlanToRoutes routedPlan (fun _ => some 512) = .ok b :=
    (mapPlan_ok_iff p fun cmd hmem => (hcommands cmd hmem).1).mpr fun cmd hmem _ _ => (hcommands cmd hmem).2
  obtain ⟨h, hemitted⟩ := mapPlan_emitted p hroutes
  have hs := hemitted.sized fun cmd hmem => (hcommands cmd hmem).1
  obtain ⟨report, hreport, hof⟩ := assembleReport_ok p h hs sampleArgs []
  have haccepts : Accepts false report 2 := htwo ▸ accepts_report hof p.tileCount_pos h hs
  obtain ⟨result, counters, hreplay, hcounters, -, hsummaries, -⟩ :=
    @replay_summary _ _ (fun _ => none) _ _ _ _ _ _ hplan hroutes hreport haccepts
  exact ⟨b, report, result, counters, hroutes, hreport, hreplay, hcounters, hsummaries⟩

/-- A plan with one barrier. -/
def barrierPlan : Fields := samplePlan [sampleCommand 1 "TILE_BARRIER" []]

/-- The barrier of the plan, with its replay at the second tile. -/
theorem replayRoutes_barrierPlan :
    ∃ b report result, validatePlan barrierPlan false = .ok [] ∧
      mapPlanToRoutes barrierPlan (fun _ => none) = .ok b ∧ assembleReport barrierPlan b sampleArgs [] = .ok report ∧
      Accepts false report 2 ∧ replayRoutes (fun _ => none) report 2 false = .ok result ∧
      dictGet report "tiles" = .arr [.obj (b.tileSummary 0).fields, .obj (b.tileSummary 1).fields] ∧
      dictGet (b.tileSummary 1).fields "barriers_started" = .int 1 ∧
      result.tileCounters.map (·.barriersStarted) = [1, 0] :=
  ⟨_, _, _, rfl, rfl, rfl, ⟨_, _, _, rfl, rfl, rfl⟩, rfl, rfl, rfl, rfl⟩

end Att1.Routes
