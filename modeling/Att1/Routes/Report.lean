import Att1.Routes.Sizes
import Att1.Routes.Validate

/-!
# Att1.Routes.Report — the report of a plan passes the validator

The validator reads JSON records and adds up the packets once more.  Each check is run on the record of a route that
the builder made, then the loops on the records of all routes and tiles, then the comparison of the sums with the
ledger.
-/

open Att1.Lib

namespace Att1.Routes

variable {n : ℕ} {ctx : FString} {seen : List ℤ} {idx : ℕ}

/-! ### Texts in sets -/

theorem unknownIn_str (text : String) (texts : List String) :
    unknownIn (.str text) texts = .ok (!decide (text ∈ texts)) := by
  unfold unknownIn
  rw [inSet_str]
  rfl

/-! ### The checks of a route -/

/-- A route with a size, as the builder counts its packets. -/
structure Route.Valid (n : ℕ) (r : Route) : Prop where
  shaped : r.Shaped n
  size : r.payloadBytes.asInt? = some r.payload
  nonneg : 0 ≤ r.payload
  packets : r.packetCountEstimate = if 0 < r.payload then 1 else 0

theorem isOutside_of_asInt {tile : Json} {t : ℕ} (h : tile.asInt? = some (t : ℤ)) (ht : t < n) :
    isOutside n tile = false := by
  unfold isOutside
  rw [h]
  simp [ht]

theorem isNegative_of_asInt {value : Json} {k : ℤ} (h : value.asInt? = some k) (hk : 0 ≤ k) :
    isNegative value = false := by
  unfold isNegative
  rw [h]
  simpa using hk

section Checks

variable {r : Route}

theorem checkRouteId_fields (hfresh : (r.routeId : ℤ) ∉ seen) :
    checkRouteId ctx seen r.fields = ((r.routeId : ℤ) :: seen, []) := by
  unfold checkRouteId
  rw [show dictGet r.fields "route_id" = .int r.routeId from rfl]
  simp [Json.isNone, Json.asInt?, hfresh]

variable (h : r.Valid n)

include h

theorem checkRouteType_fields : checkRouteType ctx r.fields = .ok (.str r.routeType, []) := by
  have hmem : r.routeType ∈ validRouteTypes := by
    rcases h.shaped.kind with ⟨ht | ht, -⟩ | ⟨ht, -⟩ | ⟨ht, -⟩ | ⟨ht, -⟩ <;> rw [ht] <;> simp [validRouteTypes]
  unfold checkRouteType
  rw [show dictGet r.fields "route_type" = .str r.routeType from rfl]
  simp only [Json.isNone, unknownIn_str, hmem]
  rfl

theorem checkSourceTile_fields : checkSourceTile ctx n r.fields = (r.sourceTile, []) := by
  obtain ⟨s, hs, hint⟩ := h.shaped.source
  unfold checkSourceTile
  rw [show dictGet r.fields "source_tile" = r.sourceTile from rfl]
  simp [Json.isNone_of_asInt hint, isOutside_of_asInt hint hs]

/-- Only a barrier reaches its own source, and a barrier may. -/
theorem checkDestinationTiles_fields :
    checkDestinationTiles ctx n (.str r.routeType) r.sourceTile r.fields = .ok [] := by
  obtain ⟨s, hs, hint⟩ := h.shaped.source
  have hself : r.routeType ∉ selfDestAllowedTypes → ∀ d ∈ r.destinationTiles, r.sourceTile.eqInt d = false := by
    intro hbanned d hd
    have hbarrier : (r.routeType == "TILE_BARRIER") = false := by
      rw [beq_eq_false_iff_ne]
      rintro heq
      exact hbanned (by simp [heq, selfDestAllowedTypes])
    rw [h.shaped.dests, hbarrier] at hd
    simpa using (List.mem_filter.mp hd).2
  have hne := h.shaped.dests_ne
  unfold checkDestinationTiles
  rw [show dictGet r.fields "destination_tiles" = .arr (r.destinationTiles.map fun d : ℕ => .int d) from rfl]
  cases hdests : r.destinationTiles with
  | nil => exact absurd hdests hne
  | cons d ds =>
    rw [List.map_cons]
    show checkDests ctx n _ _ (.int d :: ds.map fun d : ℕ => .int d) = _
    rw [← @List.map_cons _ _ (fun d : ℕ => Json.int d), ← hdests]
    unfold checkDests
    rw [unknownIn_str]
    have houtside : ∀ dest ∈ (r.destinationTiles.map fun d : ℕ => Json.int d).zipIdx, isOutside n dest.1 = false := by
      intro dest hdest
      obtain ⟨d, hd, heq⟩ := List.mem_map.mp (List.fst_mem_of_mem_zipIdx hdest)
      rw [← heq]
      exact isOutside_of_asInt rfl (h.shaped.dest_lt d hd)
    show Except.ok (_ ++ _) = Except.ok []
    congr 1
    rw [List.append_eq_nil_iff]
    constructor
    · rw [List.flatMap_eq_nil_iff]
      intro dest hdest
      rw [houtside dest hdest]
      rfl
    · by_cases hallowed : r.routeType ∈ selfDestAllowedTypes
      · simp [hallowed]
      · simp only [hallowed, decide_false, Bool.not_false, if_true]
        rw [List.flatMap_eq_nil_iff]
        intro dest hdest
        obtain ⟨d, hd, rfl⟩ := List.mem_map.mp hdest
        have hd_ne := hself hallowed d hd
        rw [Json.eqInt_of_asInt hint] at hd_ne
        rw [Json.eq_int_of_asInt _ hint]
        simp only [decide_eq_false_iff_not] at hd_ne
        simp [Ne.symm hd_ne]

/-- A route that is no barrier has a payload. -/
theorem payload_pos (hbarrier : r.routeType ≠ "TILE_BARRIER") : 0 < r.payload := by
  have hne : r.payloadBytes.eqInt 0 = false := by
    rcases h.shaped.kind with ⟨-, hp, -⟩ | ⟨ht, -⟩ | ⟨-, hne, -⟩ | ⟨-, hne, -⟩
    · simp [hp, Json.eqInt, Json.number?]
    · exact absurd ht hbarrier
    · exact hne
    · exact hne
  rw [Json.eqInt_of_asInt h.size] at hne
  have hnonneg := h.nonneg
  simp only [decide_eq_false_iff_not] at hne
  omega

theorem payload_pos_of_data (hdata : r.routeType ∈ dataRouteTypes) : 0 < r.payload := by
  apply payload_pos h
  rintro ht
  simp [ht, dataRouteTypes] at hdata

theorem checkPayloadBytes_fields : checkPayloadBytes ctx (.str r.routeType) r.fields = .ok [] := by
  unfold checkPayloadBytes
  rw [show dictGet r.fields "payload_bytes" = r.payloadBytes from rfl]
  simp only [Json.isNone_of_asInt h.size, isNegative_of_asInt h.size h.nonneg, inSet_str, Json.eqInt_of_asInt h.size]
  show Except.ok _ = Except.ok []
  congr 1
  by_cases hdata : r.routeType ∈ dataRouteTypes
  · have hpos := payload_pos_of_data h hdata
    simp [show r.payload ≠ 0 by omega]
  · simp [hdata]

theorem checkPacketCount_fields : checkPacketCount ctx (.str r.routeType) r.fields = .ok [] := by
  have hint : Json.asInt? (.int r.packetCountEstimate) = some (r.packetCountEstimate : ℤ) := rfl
  unfold checkPacketCount
  rw [show dictGet r.fields "packet_count_estimate" = .int r.packetCountEstimate from rfl]
  simp only [Json.isNone_of_asInt hint, isNegative_of_asInt hint (Int.natCast_nonneg _), inSet_str,
    Json.eqInt_of_asInt hint]
  show Except.ok _ = Except.ok []
  congr 1
  by_cases hdata : r.routeType ∈ dataRouteTypes
  · have hpos := payload_pos_of_data h hdata
    simp [h.packets, hpos]
  · simp [hdata]

theorem checkReductionBehavior_fields : checkReductionBehavior ctx (.str r.routeType) r.fields = .ok [] := by
  have hvalid : r.reductionBehavior ∈ validReductionBehaviors ∧
      (r.routeType ∈ reductionRouteTypes → r.reductionBehavior ∈ explicitReductionBehaviors) := by
    rcases h.shaped.kind with ⟨ht | ht, -, -, hb⟩ | ⟨ht, -, -, hb⟩ | ⟨ht, -, -, hb⟩ | ⟨ht, -, -, hb⟩
    · simp [ht, hb, validReductionBehaviors, reductionRouteTypes]
    · simp [ht, hb, validReductionBehaviors, reductionRouteTypes]
    · simp [ht, hb, validReductionBehaviors, reductionRouteTypes]
    · simp [ht, hb, validReductionBehaviors, reductionRouteTypes]
    · refine ⟨?_, fun _ => hb⟩
      simp only [validReductionBehaviors, List.mem_cons, List.not_mem_nil, or_false] at hb ⊢
      tauto
  unfold checkReductionBehavior
  rw [show dictGet r.fields "reduction_behavior" = .str r.reductionBehavior from rfl]
  simp only [Json.isNone, unknownIn_str, inSet_str, hvalid.1]
  show Except.ok _ = Except.ok []
  congr 1
  by_cases hreduce : r.routeType ∈ reductionRouteTypes
  · simp [hvalid.2 hreduce]
  · simp [hreduce]

omit h in
theorem checkReductionId_fields : checkReductionId ctx (.str r.routeType) r.fields = .ok [] := by
  have hint : Json.asInt? (.int r.reductionId) = some (r.reductionId : ℤ) := rfl
  unfold checkReductionId
  rw [show dictGet r.fields "reduction_id" = .int r.reductionId from rfl]
  simp only [Json.isNone_of_asInt hint, isNegative_of_asInt hint (Int.natCast_nonneg _), inSet_str]
  show Except.ok _ = Except.ok []
  congr 1
  split <;> rfl

theorem checkOrderingPolicy_fields : checkOrderingPolicy ctx (.str r.routeType) r.fields = .ok [] := by
  have hvalid : r.orderingPolicy ∈ validOrderingPolicies ∧
      (r.routeType ∈ barrierRouteTypes → r.orderingPolicy = "barriered") := by
    rcases h.shaped.kind with ⟨ht | ht, -, ho, -⟩ | ⟨ht, -, ho, -⟩ | ⟨ht, -, ho, -⟩ | ⟨ht, -, ho, -⟩ <;>
      simp [ht, ho, validOrderingPolicies, barrierRouteTypes]
  unfold checkOrderingPolicy
  rw [show dictGet r.fields "ordering_policy" = .str r.orderingPolicy from rfl]
  simp only [Json.isNone, unknownIn_str, inSet_str, hvalid.1]
  show Except.ok _ = Except.ok []
  congr 1
  by_cases hbarrier : r.routeType ∈ barrierRouteTypes
  · simp [hvalid.2 hbarrier, Json.eqStr]
  · simp [hbarrier]

omit h in
theorem checkRouteStatus_fields : checkRouteStatus ctx r.fields = .ok [] := by
  unfold checkRouteStatus
  rw [show dictGet r.fields "route_status" = .str "ok" from rfl]
  simp only [Json.isNone, unknownIn_str]
  rfl

/-- **The record of a route** passes all checks. -/
theorem checkRoute_fields (hfresh : (r.routeId : ℤ) ∉ seen) :
    checkRoute ctx n seen r.fields = .ok ((r.routeId : ℤ) :: seen, []) := by
  unfold checkRoute
  rw [checkRouteId_fields hfresh, checkRouteType_fields h, checkSourceTile_fields h]
  show (checkDestinationTiles ctx n (.str r.routeType) r.sourceTile r.fields >>= _) = _
  rw [checkDestinationTiles_fields h, checkPayloadBytes_fields h, checkPacketCount_fields h,
    checkReductionBehavior_fields h, checkReductionId_fields, checkOrderingPolicy_fields h, checkRouteStatus_fields]
  rfl

end Checks

/-- The records of routes with different ids pass the loop. -/
theorem checkRoutes_fields {routes : List Route} (hvalid : ∀ r ∈ routes, r.Valid n)
    (hnodup : (routes.map (·.routeId)).Nodup) (hfresh : ∀ r ∈ routes, (r.routeId : ℤ) ∉ seen) :
    checkRoutes n seen idx (routes.map fun r => .obj r.fields) = .ok (routes.map Route.fields, []) := by
  induction routes generalizing seen idx with
  | nil => rfl
  | cons r routes ih =>
    rw [List.map_cons] at hnodup
    obtain ⟨hnew, hnodup⟩ := List.nodup_cons.mp hnodup
    have hrest : ∀ r' ∈ routes, (r'.routeId : ℤ) ∉ (r.routeId : ℤ) :: seen := by
      intro r' hr' hmem
      rcases List.mem_cons.mp hmem with heq | hmem
      · exact hnew (List.mem_map.mpr ⟨r', hr', by exact_mod_cast heq⟩)
      · exact hfresh r' (List.mem_cons_of_mem _ hr') hmem
    rw [List.map_cons]
    unfold checkRoutes
    rw [checkRoute_fields (hvalid r List.mem_cons_self) (hfresh r List.mem_cons_self)]
    show (checkRoutes n _ _ _ >>= _) = _
    rw [ih (fun r' hr' => hvalid r' (List.mem_cons_of_mem _ hr')) hnodup hrest]
    rfl

/-! ### The checks of a tile -/

/-- A summary of a tile of the plan whose sums of bytes are sizes. -/
structure TileSummary.Valid (n : ℕ) (tile : TileSummary) : Prop where
  tile_lt : tile.tileId < n
  outBytes : ∃ p : ℕ, tile.outboundPayloadBytes = .int p
  inBytes : ∃ p : ℕ, tile.inboundPayloadBytes = .int p

section Tiles

variable {tile : TileSummary}

theorem checkSummaryId_fields (h : tile.Valid n) (hfresh : (tile.tileId : ℤ) ∉ seen) :
    checkSummaryId ctx n seen tile.fields = ((tile.tileId : ℤ) :: seen, []) := by
  have hint : Json.asInt? (.int tile.tileId) = some (tile.tileId : ℤ) := rfl
  unfold checkSummaryId
  rw [show dictGet tile.fields "tile_id" = .int tile.tileId from rfl]
  simp only [Json.isNone_of_asInt hint, isOutside_of_asInt hint h.tile_lt, hint, hfresh]
  rfl

/-- Every count of a summary is there and not below 0. -/
theorem checkNonNeg_fields (h : tile.Valid n) : nonNegFields.flatMap (checkNonNeg ctx tile.fields) = [] := by
  obtain ⟨hlt, ⟨p, hp⟩, ⟨q, hq⟩⟩ := h
  have hcount : ∀ field ∈ nonNegFields, ∃ k : ℕ, dictGet tile.fields field = .int k := by
    intro field hfield
    simp only [nonNegFields, List.mem_cons, List.not_mem_nil, or_false] at hfield
    rcases hfield with rfl | rfl | rfl | rfl | rfl | rfl | rfl | rfl | rfl
    · exact ⟨tile.outboundPacketCount, rfl⟩
    · exact ⟨tile.inboundPacketCount, rfl⟩
    · exact ⟨p, hp⟩
    · exact ⟨q, hq⟩
    · exact ⟨tile.reductionsStarted, rfl⟩
    · exact ⟨tile.reductionsCompleted, rfl⟩
    · exact ⟨tile.barriersStarted, rfl⟩
    · exact ⟨tile.barriersCompleted, rfl⟩
    · exact ⟨0, rfl⟩
  rw [List.flatMap_eq_nil_iff]
  intro field hfield
  obtain ⟨k, hk⟩ := hcount field hfield
  have hint : Json.asInt? (.int k) = some (k : ℤ) := rfl
  unfold checkNonNeg
  simp [hk, Json.isNone_of_asInt hint, isNegative_of_asInt hint (Int.natCast_nonneg k)]

theorem checkBandwidth_fields : checkBandwidth ctx tile.fields = .ok [] := by
  unfold checkBandwidth
  rw [show dictGet tile.fields "estimated_bandwidth_gib_sec" = .null from rfl]
  rfl

end Tiles

/-- The records of summaries of different tiles pass the loop. -/
theorem checkTiles_fields {tiles : List TileSummary} (hvalid : ∀ tile ∈ tiles, tile.Valid n)
    (hnodup : (tiles.map (·.tileId)).Nodup) (hfresh : ∀ tile ∈ tiles, (tile.tileId : ℤ) ∉ seen) :
    checkTiles n seen idx (tiles.map fun tile => .obj tile.fields) = .ok (tiles.map TileSummary.fields, []) := by
  induction tiles generalizing seen idx with
  | nil => rfl
  | cons tile tiles ih =>
    rw [List.map_cons] at hnodup
    obtain ⟨hnew, hnodup⟩ := List.nodup_cons.mp hnodup
    have hrest : ∀ other ∈ tiles, (other.tileId : ℤ) ∉ (tile.tileId : ℤ) :: seen := by
      intro other hother hmem
      rcases List.mem_cons.mp hmem with heq | hmem
      · exact hnew (List.mem_map.mpr ⟨other, hother, by exact_mod_cast heq⟩)
      · exact hfresh other (List.mem_cons_of_mem _ hother) hmem
    have hfirst := hvalid tile List.mem_cons_self
    rw [List.map_cons]
    unfold checkTiles
    simp only [checkSummaryId_fields hfirst (hfresh tile List.mem_cons_self), checkNonNeg_fields hfirst,
      checkBandwidth_fields, ih (fun other ho => hvalid other (List.mem_cons_of_mem _ ho)) hnodup hrest]
    rfl

/-! ### The sums over the records -/

theorem addAt_of_asInt {sums : Sums} {tile value : Json} {t : ℕ} (h : tile.asInt? = some (t : ℤ)) :
    addAt sums tile value = addBytes sums (tileKey t) value := by
  unfold addAt addBytes tileKey
  rw [h]
  simp

theorem addAll_eq {sums : Sums} {tiles : List ℕ} {value : Json} :
    (tiles.map fun d : ℕ => Json.int d).foldlM (fun sums d => addAt sums d value) sums =
      addBytesAll sums tiles value := by
  unfold addBytesAll
  rw [List.foldlM_map]
  rfl

/-- The validator adds up the packets of the records to what leaves and what reaches each tile. -/
theorem packetSums_fields {routes : List Route} (hshaped : ∀ r ∈ routes, r.Shaped n) :
    ∃ sums, packetSums (routes.map Route.fields) = .ok sums ∧
      SumsTo n sums.1 (fun t => packetsOut routes t) ∧ SumsTo n sums.2 (fun t => packetsIn routes t) := by
  induction routes using List.reverseRecOn with
  | nil => exact ⟨_, rfl, fun _ _ => rfl, fun _ _ => rfl⟩
  | append_singleton routes r ih =>
    obtain ⟨sums, hsums, hout, hin⟩ := ih fun r' hr' => hshaped r' (List.mem_append_left _ hr')
    have hr := hshaped r (by simp)
    obtain ⟨s, hs, hint⟩ := hr.source
    have hvalue : Json.asInt? (.int r.packetCountEstimate) = some (r.packetCountEstimate : ℤ) := rfl
    have hdests : (Json.arr (r.destinationTiles.map fun d : ℕ => .int d)).orElse (.arr [])
        = .arr (r.destinationTiles.map fun d : ℕ => .int d) := by
      unfold Json.orElse
      have hne := hr.dests_ne
      rw [if_pos (by simpa [Json.truthy] using hne)]
    obtain ⟨out, hadd_out, hout'⟩ := hout.add hs hvalue
    obtain ⟨inn, hadd_in, hin'⟩ := hin.addAll hr.dest_lt hr.nodup hvalue
    refine ⟨(out, inn), ?_, fun t ht => ?_, fun t ht => ?_⟩
    · unfold packetSums at hsums ⊢
      rw [List.map_append, List.foldlM_append, bind_eq_ok]
      refine ⟨sums, hsums, ?_⟩
      rw [List.map_singleton, List.foldlM_cons, bind_eq_ok]
      refine ⟨(out, inn), ?_, rfl⟩
      rw [show dictGetD r.fields "packet_count_estimate" (.int 0) = .int r.packetCountEstimate from rfl,
        show dictGet r.fields "destination_tiles" = .arr (r.destinationTiles.map fun d : ℕ => .int d) from rfl,
        show dictGet r.fields "source_tile" = r.sourceTile from rfl]
      simp only [Json.orElse_zero, hdests, addAt_of_asInt hint, hadd_out, Json.iter, bind_eq_ok]
      exact ⟨_, rfl, out, rfl, inn, addAll_eq.trans hadd_in, rfl⟩
    · show out _ = .int (packetsOut (routes ++ [r]) t : ℕ)
      have hfrom : r.isFrom t = decide (t = s) := eqInt_tile hint t
      rw [hout' t ht, packetsOut_concat, hfrom]
      by_cases hts : t = s <;> simp [hts]
    · show inn _ = .int (packetsIn (routes ++ [r]) t : ℕ)
      rw [hin' t ht, packetsIn_concat]
      by_cases hmem : t ∈ r.destinationTiles <;> simp [Route.isTo, hmem]

/-! ### The report -/

variable {b : Builder}

/-- The header says what the routes are. -/
structure HeaderOf (n : ℕ) (routes : List Route) (header : Fields) : Prop where
  version : dictGet header "route_report_version" = .int 1
  tileCount : (dictGet header "tile_count").asInt? = some (n : ℤ)
  routeCount : dictGet header "route_count" = .int routes.length
  packetCount : dictGet header "packet_count_estimate" = .int ((routes.map (·.packetCountEstimate)).sum : ℕ)
  payloadBytes : dictGet header "payload_bytes_estimate" = .int (routes.map Route.payload).sum
  status : ∃ status ∈ validReportStatuses, dictGet header "status" = .str status

/-- The report of a builder. -/
structure ReportOf (n : ℕ) (b : Builder) (report : Fields) : Prop where
  header : ∃ header, dictGet report "header" = .obj header ∧ HeaderOf n b.routes header
  routes : dictGet report "routes" = .arr (b.routes.map fun r => .obj r.fields)
  tiles : dictGet report "tiles" = .arr (((List.range n).map b.tileSummary).map fun tile => .obj tile.fields)
  warnings : (dictGet report "warnings").asList?.isSome
  failures : (dictGet report "failures").asList?.isSome

theorem payloadBytesEstimate_eq (h : Sized b.routes) :
    b.payloadBytesEstimate = .ok (.int (b.routes.map Route.payload).sum) := by
  have hfold : ∀ (routes : List Route) (m : ℤ), Sized routes →
      routes.foldlM (fun sum r => sum.add r.payloadBytes) (Json.int m) =
        .ok (.int (m + (routes.map Route.payload).sum)) := by
    intro routes
    induction routes with
    | nil =>
      intro m _
      simp [pure, Except.pure]
    | cons r routes ih =>
      intro m hsized
      have hr := (hsized r List.mem_cons_self).1
      rw [List.foldlM_cons, Json.add_of_asInt m hr]
      show routes.foldlM _ (Json.int (m + r.payload)) = _
      rw [ih _ fun r' hr' => hsized r' (List.mem_cons_of_mem _ hr'), List.map_cons, List.sum_cons, add_assoc]
  unfold Builder.payloadBytesEstimate
  rw [hfold b.routes 0 h, zero_add]

theorem tileSummaries_eq (h : Ledger n b) : b.tileSummaries = .ok ((List.range n).map b.tileSummary) := by
  unfold Builder.tileSummaries
  rw [allTiles_eq h.traffic.tileCount]
  rfl

/-- A report can be assembled, whatever the arguments and the warnings are. -/
theorem assembleReport_ok {plan : Fields} (p : AcceptedPlan plan) (h : Ledger p.tileCount b) (hs : Sized b.routes)
    (args : ReportArgs) (ws : List FString) :
    ∃ report, assembleReport plan b args ws = .ok report ∧ ReportOf p.tileCount b report := by
  unfold assembleReport
  rw [item_of_lookup p.header_eq, payloadBytesEstimate_eq hs, tileSummaries_eq h]
  simp only [bind_eq_ok]
  refine ⟨_, ⟨_, rfl, p.header, rfl, _, item_of_lookup p.tileCountField_eq, _, rfl, _, rfl, rfl⟩, ?_⟩
  refine ⟨⟨_, rfl, rfl, p.tileCount_eq, rfl, rfl, rfl, ?_⟩, rfl, rfl, rfl, rfl⟩
  refine ⟨_, ?_, rfl⟩
  split
  · simp [validReportStatuses]
  · split <;> simp [validReportStatuses]

theorem Ledger.valid (h : Ledger n b) (hs : Sized b.routes) : ∀ r ∈ b.routes, r.Valid n := by
  intro r hr
  obtain ⟨hsize, hnonneg⟩ := hs r hr
  obtain ⟨positive, hpositive, hpackets⟩ := h.traffic.packets r hr
  refine ⟨h.traffic.shaped r hr, hsize, hnonneg, ?_⟩
  rw [Json.lt_of_asInt rfl hsize] at hpositive
  obtain rfl := Except.ok.inj hpositive
  simpa using hpackets

theorem sum_payload_nonneg {routes : List Route} (hs : Sized routes) : 0 ≤ (routes.map Route.payload).sum := by
  apply List.sum_nonneg
  intro p hp
  obtain ⟨r, hr, rfl⟩ := List.mem_map.mp hp
  exact (hs r hr).2

theorem Sized.filter {routes : List Route} (hs : Sized routes) (keep : Route → Bool) : Sized (routes.filter keep) :=
  fun r hr => hs r (List.mem_of_mem_filter hr)

theorem Ledger.tileSummary_valid (h : Ledger n b) (hs : Sized b.routes) {t : ℕ} (ht : t < n) :
    (b.tileSummary t).Valid n := by
  have hout : 0 ≤ bytesOut b.routes t := sum_payload_nonneg (hs.filter _)
  have hin : 0 ≤ bytesIn b.routes t := sum_payload_nonneg (hs.filter _)
  refine ⟨ht, ⟨(bytesOut b.routes t).toNat, ?_⟩, ⟨(bytesIn b.routes t).toNat, ?_⟩⟩
  · rw [Int.toNat_of_nonneg hout]
    exact h.traffic.outBytes hs.ints t ht
  · rw [Int.toNat_of_nonneg hin]
    exact h.traffic.inBytes hs.ints t ht

theorem checkTileCount_of_asInt {header : Fields} (h : (dictGet header "tile_count").asInt? = some (n : ℤ))
    (hn : 0 < n) : checkTileCount header = (n, []) := by
  unfold checkTileCount
  simp only [Json.isNone_of_asInt h, h]
  simp [show n ≠ 0 by omega]

section Phases

variable {report : Fields} (hreport : ReportOf n b report)

include hreport

theorem validateHeader_report (hn : 0 < n) (hs : Sized b.routes) : validateHeader false report = .ok (n, []) := by
  obtain ⟨header, hheader, hof⟩ := hreport.header
  obtain ⟨status, hstatus, heq⟩ := hof.status
  have hversion : checkVersion header = [] := by
    unfold checkVersion
    rw [hof.version]
    rfl
  have htiles := checkTileCount_of_asInt hof.tileCount hn
  have hcounts : checkCounts header = [] := by
    have hcount : ∀ k : ℕ, isNegative (.int k) = false := fun k => isNegative_of_asInt rfl (Int.natCast_nonneg k)
    have hbytes : isNegative (.int (b.routes.map Route.payload).sum) = false :=
      isNegative_of_asInt rfl (sum_payload_nonneg hs)
    unfold checkCounts
    rw [hof.routeCount, hof.packetCount, hof.payloadBytes]
    simp only [hcount, hbytes, Json.isNone]
    rfl
  have hknown : checkStatus false header = .ok [] := by
    unfold checkStatus
    rw [heq]
    simp only [Json.isNone, unknownIn_str, hstatus]
    rfl
  unfold validateHeader
  rw [hheader]
  show (checkStatus false header >>= fun status => Except.ok ((checkTileCount header).1,
    checkVersion header ++ (checkTileCount header).2 ++ checkCounts header ++ status)) = _
  rw [hknown, hversion, htiles, hcounts]
  rfl

theorem validateRoutes_report (h : Ledger n b) (hs : Sized b.routes) :
    validateRoutes report n = .ok (b.routes.map Route.fields, []) := by
  unfold validateRoutes
  rw [hreport.routes]
  refine checkRoutes_fields (h.valid hs) ?_ (by simp)
  rw [h.traffic.ids]
  exact List.nodup_range'

theorem validateTiles_report (h : Ledger n b) (hs : Sized b.routes) :
    validateTiles report n = .ok (((List.range n).map b.tileSummary).map TileSummary.fields, []) := by
  have hids : ((List.range n).map b.tileSummary).map (·.tileId) = List.range n := by
    rw [List.map_map]
    exact List.map_id _
  unfold validateTiles
  rw [hreport.tiles]
  refine checkTiles_fields ?_ ?_ (by simp)
  · intro tile htile
    obtain ⟨t, ht, rfl⟩ := List.mem_map.mp htile
    exact h.tileSummary_valid hs (List.mem_range.mp ht)
  · rw [hids]
    exact List.nodup_range

/-- The packets of every tile agree with those of the records. -/
theorem validateConsistency_report (h : Ledger n b) :
    validateConsistency report (b.routes.map Route.fields) (((List.range n).map b.tileSummary).map TileSummary.fields)
      = .ok [] := by
  obtain ⟨header, hheader, hof⟩ := hreport.header
  obtain ⟨sums, hsums, hout, hin⟩ := packetSums_fields h.traffic.shaped
  have htiles : (((List.range n).map b.tileSummary).map TileSummary.fields).flatMap (checkTileSums sums) = [] := by
    rw [List.flatMap_eq_nil_iff]
    intro tile htile
    rw [List.map_map] at htile
    obtain ⟨t, ht, rfl⟩ := List.mem_map.mp htile
    rw [List.mem_range] at ht
    have hsum : ∀ (rule field : String) (tid : Json) (k : ℕ),
        dictGetD (b.tileSummary t).fields field (.int 0) = .int k →
          checkTileSum rule field tid (b.tileSummary t).fields (.int k) = [] := by
      intro rule field tid k hk
      unfold checkTileSum
      rw [hk]
      simp only [Json.orElse_zero]
      rw [Json.eq_int_of_asInt _ (show Json.asInt? (.int k) = some (k : ℤ) from rfl)]
      simp
    have hout_t : sums.1 (tileKey t) = .int (b.tileOutPackets (tileKey t) : ℕ) := by
      rw [h.traffic.outPackets t ht]
      exact hout t ht
    have hin_t : sums.2 (tileKey t) = .int (b.tileInPackets (tileKey t) : ℕ) := by
      rw [h.traffic.inPackets t ht]
      exact hin t ht
    show checkTileSum _ _ _ _ (sums.1 (tileKey t)) ++ checkTileSum _ _ _ _ (sums.2 (tileKey t)) = []
    rw [hout_t, hin_t]
    exact congrArg₂ (· ++ ·) (hsum _ _ _ _ rfl) (hsum _ _ _ _ rfl)
  have hlength : lengthOf (.arr (b.routes.map fun r => .obj r.fields)) = .ok b.routes.length := by
    unfold lengthOf Json.orElse
    cases b.routes with
    | nil => rfl
    | cons r routes => simp [Json.truthy]
  have hor : (Json.obj header).orElse (.obj []) = .obj header := by
    cases header <;> rfl
  have hwarnings := hreport.warnings
  have hfailures := hreport.failures
  unfold validateConsistency
  rw [hheader, hreport.routes, hlength, hsums, hor]
  show Except.ok (_ ++ (((List.range n).map b.tileSummary).map TileSummary.fields).flatMap (checkTileSums sums) ++ _)
    = Except.ok []
  rw [htiles, hof.routeCount]
  simp [Json.asInt?, hwarnings, hfailures]

/-- **The report of a builder** passes all phases without an error or a warning. -/
theorem validateReport_report (hn : 0 < n) (h : Ledger n b) (hs : Sized b.routes) :
    validateReport false report = .ok [] := by
  unfold validateReport
  rw [validateHeader_report hreport hn hs]
  show (validateRoutes report n >>= _) = _
  rw [validateRoutes_report hreport h hs, validateTiles_report hreport h hs]
  show (validateConsistency report _ _ >>= _) = _
  rw [validateConsistency_report hreport h]
  rfl

end Phases

/-! ### Every generated report -/

/-- `plan["commands"]`. -/
def planCommands (plan : Fields) : List Json := ((dictGet plan "commands").asList?).getD []

/-- `plan["header"]["tile_count"]`. -/
def planTileCount (plan : Fields) : Json :=
  match dictGet plan "header" with
  | .obj header => dictGet header "tile_count"
  | _ => .null

/-- The totals of a tile are the sums over the routes. -/
structure TileTotals (routes : List Route) (tile : TileSummary) : Prop where
  outPackets : tile.outboundPacketCount = packetsOut routes tile.tileId
  inPackets : tile.inboundPacketCount = packetsIn routes tile.tileId
  outBytes : tile.outboundPayloadBytes = .int (bytesOut routes tile.tileId)
  inBytes : tile.inboundPayloadBytes = .int (bytesIn routes tile.tileId)

/-- A report of these routes that passes the validator, with ids in the order of the commands and all totals right. -/
structure FaithfulReport (plan : Fields) (routes : List Route) (report : Fields) : Prop where
  passes : validateReport false report = .ok []
  records : dictGet report "routes" = .arr (routes.map fun r => .obj r.fields)
  ids : routes.map (·.routeId) = List.range' 1 routes.length
  inOrder : (routes.map (·.sourceCommandId)).Sublist ((planCommands plan).map commandIdOf)
  sizes : Sized routes
  totals : ∃ (n : ℕ) (header : Fields) (tiles : List TileSummary), (planTileCount plan).asInt? = some (n : ℤ) ∧
    dictGet report "header" = .obj header ∧ HeaderOf n routes header ∧
    dictGet report "tiles" = .arr (tiles.map fun tile => .obj tile.fields) ∧
    tiles.map (·.tileId) = List.range n ∧ ∀ tile ∈ tiles, TileTotals routes tile

theorem dictGet_of_lookup {fields : Fields} {key : String} {v : Json} (h : fields.lookup key = some v) :
    dictGet fields key = v := by
  simp [dictGet, dictGetD, h]

theorem AcceptedPlan.planCommands_eq {plan : Fields} (p : AcceptedPlan plan) : planCommands plan = p.commands := by
  unfold planCommands
  rw [dictGet_of_lookup p.commands_eq]
  rfl

theorem AcceptedPlan.planTileCount_eq {plan : Fields} (p : AcceptedPlan plan) :
    planTileCount plan = p.tileCountField := by
  unfold planTileCount
  rw [dictGet_of_lookup p.header_eq]
  exact dictGet_of_lookup p.tileCountField_eq

theorem faithfulReport_of_emitted {plan : Fields} {tensorBytes : TensorBytes} (p : AcceptedPlan plan)
    (h : Ledger p.tileCount b)
    (hemitted : Emitted tensorBytes p.commands { tileCount := p.tileCountField } b b.routes) (hs : Sized b.routes) {report : Fields} (hreport : ReportOf p.tileCount b report) :
    FaithfulReport plan b.routes report := by
  obtain ⟨header, hheader, hof⟩ := hreport.header
  refine ⟨validateReport_report hreport p.tileCount_pos h hs, hreport.routes, h.traffic.ids, ?_, hs, ?_⟩
  · rw [p.planCommands_eq]
    exact hemitted.inOrder
  · refine ⟨p.tileCount, header, _, ?_, hheader, hof, hreport.tiles, ?_, ?_⟩
    · rw [p.planTileCount_eq, p.tileCount_eq]
    · rw [List.map_map]
      exact List.map_id _
    · intro tile htile
      obtain ⟨t, ht, rfl⟩ := List.mem_map.mp htile
      rw [List.mem_range] at ht
      exact ⟨h.traffic.outPackets t ht, h.traffic.inPackets t ht, h.traffic.outBytes hs.ints t ht,
        h.traffic.inBytes hs.ints t ht⟩

/-- **Every generated report validates**: an accepted plan of sizable commands has routes exactly when its transfers
can be looked up, and the report on them passes the validator and repeats their sums. -/
theorem report_validates {plan : Fields} {ws : List FString} (args : ReportArgs) (tensorBytes : TensorBytes)
    (hplan : validatePlan plan args.strict = .ok ws)
    (hsizable : ∀ cmd, .obj cmd ∈ planCommands plan → Sizable cmd) :
    ((∃ b, mapPlanToRoutes plan tensorBytes = .ok b) ↔
        ∀ cmd, .obj cmd ∈ planCommands plan → NameUsable tensorBytes cmd) ∧
      ∀ b, mapPlanToRoutes plan tensorBytes = .ok b →
        ∃ report, assembleReport plan b args ws = .ok report ∧ FaithfulReport plan b.routes report := by
  obtain ⟨p⟩ := acceptedPlan_of_validatePlan hplan
  have hcommands : ∀ cmd, .obj cmd ∈ p.commands → Sizable cmd := by
    rw [← p.planCommands_eq]
    exact hsizable
  refine ⟨?_, fun b hok => ?_⟩
  · rw [p.planCommands_eq]
    exact mapPlan_ok_iff p hcommands
  · obtain ⟨hledger, hemitted⟩ := mapPlan_emitted p hok
    have hs := hemitted.sized hcommands
    obtain ⟨report, hassemble, hreport⟩ := assembleReport_ok p hledger hs args ws
    exact ⟨report, hassemble, faithfulReport_of_emitted p hledger hemitted hs hreport⟩

/-- A command for the first of two tiles. -/
def sampleCommand (id : ℤ) (ctype : String) (fields : Fields) : Json :=
  .obj ([("command_id", .int id), ("command_type", .str ctype), ("tile_id", .int 0), ("fence_id", .int 0)] ++ fields)

/-- A plan for two tiles. -/
def samplePlan (commands : List Json) : Fields :=
  [("command_plan_version", .int 1),
    ("header", .obj [("tile_count", .int 2), ("command_count", .int commands.length)]),
    ("commands", .arr commands)]

/-- A plan with routes. -/
def routedPlan : Fields :=
  samplePlan
    [sampleCommand 1 "VALIDATE_TENSOR" [], sampleCommand 2 "TILE_BARRIER" [],
      sampleCommand 3 "FABRIC_SEND" [("total_bytes", .int 256)],
      sampleCommand 4 "FABRIC_REDUCE" [("tensor_id", .int 7), ("notes", .str "max")]]

/-- The name of the tensor to send is a list. -/
def unhashablePlan : Fields := samplePlan [sampleCommand 1 "FABRIC_SEND" [("tensor_name", .arr [])]]

def sampleArgs : ReportArgs where
  planPath := "plan.json"
  placementPath := none
  strict := false
  nowIso := ""
  render := fun _ => ""

theorem sizable_routedPlan :
    ∀ cmd, .obj cmd ∈ planCommands routedPlan → Sizable cmd ∧ (dictGet cmd "tensor_name").isContainer = false := by
  intro cmd hmem
  change Json.obj cmd ∈ [sampleCommand _ _ _, sampleCommand _ _ _, sampleCommand _ _ _, sampleCommand _ _ _] at hmem
  simp only [sampleCommand, List.mem_cons, Json.obj.injEq, List.not_mem_nil, or_false] at hmem
  rcases hmem with rfl | rfl | rfl | rfl
  · exact ⟨⟨Or.inl rfl, rfl, Or.inl rfl⟩, rfl⟩
  · exact ⟨⟨Or.inl rfl, rfl, Or.inl rfl⟩, rfl⟩
  · exact ⟨⟨Or.inr ⟨256, rfl⟩, rfl, Or.inl rfl⟩, rfl⟩
  · exact ⟨⟨Or.inl rfl, rfl, Or.inr ⟨_, rfl⟩⟩, rfl⟩

theorem report_validates_routedPlan :
    ∃ b report, mapPlanToRoutes routedPlan (fun _ => some 512) = .ok b ∧
      assembleReport routedPlan b sampleArgs [] = .ok report ∧ FaithfulReport routedPlan b.routes report := by
  have hplan : validatePlan routedPlan sampleArgs.strict = .ok [] := rfl
  obtain ⟨hroutes, hreport⟩ :=
    report_validates sampleArgs (fun _ => some 512) hplan fun cmd hmem => (sizable_routedPlan cmd hmem).1
  obtain ⟨b, hb⟩ := hroutes.mpr fun cmd hmem _ _ => (sizable_routedPlan cmd hmem).2
  obtain ⟨report, hassemble, hfaithful⟩ := hreport b hb
  exact ⟨b, report, hb, hassemble, hfaithful⟩

/-- A name that cannot be looked up stops the mapper. -/
theorem mapPlanToRoutes_unhashablePlan :
    validatePlan unhashablePlan false = .ok [] ∧
      (∀ cmd, .obj cmd ∈ planCommands unhashablePlan → Sizable cmd) ∧
      mapPlanToRoutes unhashablePlan (fun _ => none) = .error .typeError := by
  refine ⟨rfl, fun cmd hmem => ?_, rfl⟩
  change Json.obj cmd ∈ [sampleCommand _ _ _] at hmem
  simp only [sampleCommand, List.mem_cons, Json.obj.injEq, List.not_mem_nil, or_false] at hmem
  obtain rfl := hmem
  exact ⟨Or.inl rfl, rfl, Or.inl rfl⟩

end Att1.Routes
