import Att1.Routes.Carried
import Att1.Routes.Simulate

/-!
# Att1.Routes.Bandwidth — the replay and the bandwidth simulator see the same traffic

* `simulateRoutes_flow`: the results of the simulator are what the routes carry, and it has results exactly if these can
  be converted to floats (`Converts`).
* `replay_agrees`: the counters of the replay and the results of the simulator agree, for the routes in any order.
-/

open Att1.Lib

namespace Att1.Routes

variable {n : ℕ} {parse : String → Option ℤ} {route : Fields} {routes : List Fields}

/-- The bytes of a route on the wire, with an overhead for each packet. -/
def wireOf (overhead : ℤ) (route : Fields) : ℤ := bytesOf route + overhead * packetsOf route

/-- The two rules for the packets of a route are the same. -/
theorem simPackets_eq (rt : Json) (pktEst : ℤ) : simPackets rt pktEst = effPkts rt pktEst := rfl

/-! ### One route of the simulator -/

section Simulator

variable {F : Type} {ops : FloatOps F} {args : SimArgs F} {rr : RouteResult F}

/-- What the result of a route says of its traffic. -/
structure ResultOf (overhead : ℤ) (route : Fields) (rr : RouteResult F) : Prop where
  source : rr.sourceTile.asInt? = some (sourceOf route)
  dests : rr.destinationTiles = .arr (destsOf route)
  payload : rr.effectivePayloadBytes = bytesOf route
  wire : rr.totalWireBytes = wireOf overhead route

theorem bandwidth_eq_ok {wire : ℤ} : (∃ bw, bandwidth ops args wire = .ok bw) ↔ fitsFloat wire = true := by
  unfold bandwidth FloatOps.intMul
  by_cases h : fitsFloat wire = true
  · rw [if_pos h]
    exact iff_of_true ⟨_, rfl⟩ h
  · rw [if_neg h]
    refine iff_of_false ?_ h
    rintro ⟨bw, hbw⟩
    cases hbw

theorem hopLatency_ok (zeroHop : Bool) (x : F) : ∃ latency, ops.intMul (if zeroHop then 0 else 1) x = .ok latency := by
  unfold FloatOps.intMul
  cases zeroHop with
  | true => exact ⟨_, if_pos (by decide +kernel)⟩
  | false => exact ⟨_, if_pos (by decide +kernel)⟩

theorem hopsForRoute_accepted (h : AcceptedRoute n route) :
    ∃ zeroHop : Bool, hopsForRoute (dictGetD route "route_type" (.str "UNKNOWN")) = .ok (if zeroHop then 0 else 1) := by
  obtain ⟨zeroHop, hzero⟩ := exists_inSet h zeroHopRouteTypes
  refine ⟨zeroHop, ?_⟩
  unfold hopsForRoute
  rw [h.type_eq, hzero]
  rfl

theorem wireOf_eq (h : AcceptedRoute n route) (overhead : ℤ) :
    bytesOf route + overhead * simPackets (dictGetD route "route_type" (.str "UNKNOWN")) (estimateOf route) =
      wireOf overhead route := by
  rw [simPackets_eq, h.type_eq]
  rfl

/-- **One route** of the simulator has a result if its bytes on the wire can be converted to a float. -/
theorem simulateRoute_ok (h : AcceptedRoute n route) (hest : HasEstimate route) (hdests : HasDests route) :
    ((∃ rr, simulateRoute ops parse args route = .ok rr) ↔ fitsFloat (wireOf args.packetOverheadBytes route) = true) ∧
      ∀ rr, simulateRoute ops parse args route = .ok rr → ResultOf args.packetOverheadBytes route rr := by
  obtain ⟨zeroHop, hhops⟩ := hopsForRoute_accepted h
  obtain ⟨latency, hlatency⟩ := @hopLatency_ok _ ops zeroHop args.perHopLatencyNs
  unfold simulateRoute
  simp only [bind_eq_ok, Json.toInt_of_asInt parse h.bytes_eq, Json.toInt_of_asInt parse hest.estimateOf_eq, hhops,
    Except.ok.injEq, exists_eq_left', wireOf_eq h, hlatency, hdests.dests_eq]
  refine ⟨⟨?_, fun hfits => ?_⟩, ?_⟩
  · rintro ⟨rr, bw, hbw, -⟩
    exact bandwidth_eq_ok.mp ⟨bw, hbw⟩
  · obtain ⟨bw, hbw⟩ := (@bandwidth_eq_ok _ ops args _).mpr hfits
    exact ⟨_, bw, hbw, rfl⟩
  · rintro rr ⟨bw, -, rfl⟩
    exact ⟨h.source_eq _, rfl, rfl, rfl⟩

theorem simulateRoute_overflow (h : AcceptedRoute n route) (hest : HasEstimate route)
    (hfits : fitsFloat (wireOf args.packetOverheadBytes route) = false) :
    simulateRoute ops parse args route = .error overflowError := by
  obtain ⟨zeroHop, hhops⟩ := hopsForRoute_accepted h
  have hbw : bandwidth ops args (wireOf args.packetOverheadBytes route) = .error overflowError := by
    unfold bandwidth FloatOps.intMul
    rw [hfits]
    rfl
  unfold simulateRoute
  simp only [Json.toInt_of_asInt parse h.bytes_eq, Json.toInt_of_asInt parse hest.estimateOf_eq, hhops, wireOf_eq h,
    hbw, bind, Except.bind]

/-! ### The sums of the tiles -/

theorem changeSums_int {tile : Json} {s : ℤ} (h : tile.asInt? = some s) (f : TileSums → TileSums)
    (sums : ℕ → TileSums) : ∃ sums', changeSums n tile f sums = .ok sums' ∧
      ∀ t < n, sums' t = if s = t then f (sums t) else sums t := by
  unfold changeSums
  rw [inTileRange_int h, h]
  by_cases hin : 0 ≤ s ∧ s < n
  · obtain ⟨t, rfl⟩ := Int.eq_ofNat_of_zero_le hin.1
    refine ⟨_, by rw [decide_eq_true hin]; rfl, fun u _ => ?_⟩
    rcases eq_or_ne u t with rfl | hne
    · rw [Int.toNat_natCast, Function.update_self, if_pos rfl]
    · rw [Int.toNat_natCast, Function.update_of_ne hne, if_neg (by exact_mod_cast hne.symm)]
  · refine ⟨sums, by rw [decide_eq_false hin]; rfl, fun t ht => ?_⟩
    rw [if_neg]
    rintro rfl
    exact hin ⟨Int.natCast_nonneg t, by exact_mod_cast ht⟩

theorem changeAllSums_int {tiles : List Json} (h : ∀ tile ∈ tiles, IsTile n tile) {f : TileSums → TileSums}
    (sums : ℕ → TileSums) : ∃ sums', tiles.foldlM (fun sums dt => changeSums n dt f sums) sums = .ok sums' ∧
      ∀ t < n, sums' t = f^[(tiles.map fun d => (d.asInt?).getD 0).count (t : ℤ)] (sums t) := by
  induction tiles generalizing sums with
  | nil => exact ⟨sums, rfl, fun t _ => rfl⟩
  | cons tile tiles ih =>
    obtain ⟨s, hs, -⟩ := h tile List.mem_cons_self
    obtain ⟨sums', hfirst, hat⟩ := @changeSums_int n tile s hs f sums
    obtain ⟨sums'', hrest, hat'⟩ := ih (fun d hd => h d (List.mem_cons_of_mem _ hd)) sums'
    refine ⟨sums'', ?_, fun t ht => ?_⟩
    · rw [List.foldlM_cons, hfirst]
      exact hrest
    · rw [hat' t ht, hat t ht, List.map_cons, hs, Option.getD_some, List.count_cons]
      by_cases hst : s = t
      · rw [if_pos hst, if_pos (beq_iff_eq.mpr hst), Function.iterate_succ_apply]
      · rw [if_neg hst, if_neg fun heq => hst (beq_iff_eq.mp heq), add_zero]

/-- A sum to which the result of each route adds, at its source and at its destinations. -/
structure SumReading (F : Type) (overhead : ℤ) (obs : TileSums → ℤ) (ws wd : Fields → ℤ) : Prop where
  source : ∀ (route : Fields) (rr : RouteResult F), ResultOf overhead route rr →
    ∀ s, obs (addOut rr s) = obs s + ws route
  dest : ∀ (route : Fields) (rr : RouteResult F), ResultOf overhead route rr → ∀ s, obs (addIn rr s) = obs s + wd route

theorem SumReading.iterate {overhead : ℤ} {obs : TileSums → ℤ} {ws wd : Fields → ℤ}
    (hread : SumReading F overhead obs ws wd) (hresult : ResultOf overhead route rr) (k : ℕ) (s : TileSums) :
    obs ((addIn rr)^[k] s) = obs s + k * wd route := by
  induction k generalizing s with
  | zero => simp
  | succ k ih =>
    rw [Function.iterate_succ_apply, ih, hread.dest route rr hresult]
    push_cast
    ring

theorem sumReading_outPayload (F : Type) (overhead : ℤ) :
    SumReading F overhead TileSums.outPayload bytesOf fun _ => 0 where
  source _ _ h _ := by rw [← h.payload]; rfl
  dest _ _ _ _ := by rw [add_zero]; rfl

theorem sumReading_inPayload (F : Type) (overhead : ℤ) :
    SumReading F overhead TileSums.inPayload (fun _ => 0) bytesOf where
  source _ _ _ _ := by rw [add_zero]; rfl
  dest _ _ h _ := by rw [← h.payload]; rfl

theorem sumReading_outWire (F : Type) (overhead : ℤ) :
    SumReading F overhead TileSums.outWire (wireOf overhead) fun _ => 0 where
  source _ _ h _ := by rw [← h.wire]; rfl
  dest _ _ _ _ := by rw [add_zero]; rfl

theorem sumReading_inWire (F : Type) (overhead : ℤ) :
    SumReading F overhead TileSums.inWire (fun _ => 0) (wireOf overhead) where
  source _ _ _ _ := by rw [add_zero]; rfl
  dest _ _ h _ := by rw [← h.wire]; rfl

/-- What every reading of the sums of the tiles gives for these routes. -/
def SumsRead (F : Type) (overhead : ℤ) (n : ℕ) (routes : List Fields) (start sums : ℕ → TileSums) : Prop :=
  ∀ obs ws wd, SumReading F overhead obs ws wd → ∀ t < n,
    obs (sums t) = obs (start t) + sentFrom sourceOf ws routes (t : ℤ) + receivedAt destTilesOf wd routes (t : ℤ)

theorem sumRoutes_int {overhead : ℤ} {results : List (RouteResult F)}
    (h : List.Forall₂ (ResultOf overhead) routes results) (hroutes : ∀ r ∈ routes, AcceptedRoute n r)
    (start : ℕ → TileSums) :
    ∃ sums, results.foldlM (sumRoute n) start = .ok sums ∧ SumsRead F overhead n routes start sums := by
  induction h generalizing start with
  | nil => exact ⟨start, rfl, fun _ _ _ _ _ _ => by simp⟩
  | @cons route rr routes results hresult hrest ih =>
    obtain ⟨sums₁, hsource, hat₁⟩ := @changeSums_int n _ _ hresult.source (addOut rr) start
    obtain ⟨sums₂, hdest, hat₂⟩ := @changeAllSums_int n _ (hroutes route List.mem_cons_self).dest (addIn rr) sums₁
    obtain ⟨sums, hloop, hobs⟩ := ih (fun r hr => hroutes r (List.mem_cons_of_mem _ hr)) sums₂
    refine ⟨sums, ?_, fun obs ws wd hread t ht => ?_⟩
    · have hstep : sumRoute n start rr = .ok sums₂ := by
        unfold sumRoute
        rw [hresult.dests]
        exact bind_eq_ok.mpr ⟨_, hsource, bind_eq_ok.mpr ⟨_, rfl, hdest⟩⟩
      rw [List.foldlM_cons, hstep]
      exact hloop
    · have hfirst : obs (sums₁ t) = obs (start t) + if sourceOf route = t then ws route else 0 := by
        rw [hat₁ t ht]
        split_ifs
        · exact hread.source route rr hresult _
        · rw [add_zero]
      rw [hobs obs ws wd hread t ht, hat₂ t ht, hread.iterate hresult, hfirst, sentFrom_cons, receivedAt_cons]
      unfold destTilesOf
      ring

/-! ### The simulator -/

/-- What the simulator converts to floats: the bytes on the wire of each route, of each tile in each direction, and of
all routes. -/
structure Converts (n : ℕ) (overhead : ℤ) (routes : List Fields) : Prop where
  route : ∀ r ∈ routes, fitsFloat (wireOf overhead r) = true
  outbound : ∀ t < n, fitsFloat (sentFrom sourceOf (wireOf overhead) routes (t : ℤ)) = true
  inbound : ∀ t < n, fitsFloat (receivedAt destTilesOf (wireOf overhead) routes (t : ℤ)) = true
  total : fitsFloat (routes.map (wireOf overhead)).sum = true

theorem Converts.perm {overhead : ℤ} {routes' : List Fields} (h : Converts n overhead routes)
    (hperm : routes'.Perm routes) : Converts n overhead routes' where
  route r hr := h.route r (hperm.mem_iff.mp hr)
  outbound t ht := by
    rw [sentFrom_perm hperm]
    exact h.outbound t ht
  inbound t ht := by
    rw [receivedAt_perm hperm]
    exact h.inbound t ht
  total := by
    rw [(hperm.map _).sum_eq]
    exact h.total

/-- The result of a tile. -/
structure TileOf (overhead : ℤ) (routes : List Fields) (t : ℕ) (tr : TileResult F) : Prop where
  tile : tr.tileId = t
  outPayload : tr.outboundPayloadBytesPerToken = sentFrom sourceOf bytesOf routes (t : ℤ)
  inPayload : tr.inboundPayloadBytesPerToken = receivedAt destTilesOf bytesOf routes (t : ℤ)
  outWire : tr.outboundWireBytesPerToken = sentFrom sourceOf (wireOf overhead) routes (t : ℤ)
  inWire : tr.inboundWireBytesPerToken = receivedAt destTilesOf (wireOf overhead) routes (t : ℤ)

theorem simulateTile_ok {overhead : ℤ} {sums : ℕ → TileSums} (hsums : SumsRead F overhead n routes (fun _ => {}) sums)
    {t : ℕ} (ht : t < n) :
    ((∃ tr, simulateTile ops args sums t = .ok tr) ↔
        fitsFloat (sentFrom sourceOf (wireOf overhead) routes (t : ℤ)) = true ∧
          fitsFloat (receivedAt destTilesOf (wireOf overhead) routes (t : ℤ)) = true) ∧
      ∀ tr, simulateTile ops args sums t = .ok tr → TileOf overhead routes t tr := by
  have houtPayload := hsums _ _ _ (sumReading_outPayload F overhead) t ht
  have hinPayload := hsums _ _ _ (sumReading_inPayload F overhead) t ht
  have houtWire := hsums _ _ _ (sumReading_outWire F overhead) t ht
  have hinWire := hsums _ _ _ (sumReading_inWire F overhead) t ht
  simp only [sentFrom_zero, receivedAt_zero, zero_add, add_zero] at houtPayload hinPayload houtWire hinWire
  unfold simulateTile
  rw [houtWire, hinWire]
  simp only [bind_eq_ok, ← @bandwidth_eq_ok _ ops args]
  refine ⟨⟨?_, ?_⟩, ?_⟩
  · rintro ⟨tr, outBw, hout, inBw, hin, -⟩
    exact ⟨⟨outBw, hout⟩, ⟨inBw, hin⟩⟩
  · rintro ⟨⟨outBw, hout⟩, ⟨inBw, hin⟩⟩
    exact ⟨_, outBw, hout, inBw, hin, rfl⟩
  · rintro tr ⟨outBw, hout, inBw, hin, heq⟩
    obtain rfl := Except.ok.inj heq
    exact ⟨rfl, houtPayload, hinPayload, rfl, rfl⟩

theorem simulateTiles_ok {overhead : ℤ} {results : List (RouteResult F)}
    (h : List.Forall₂ (ResultOf overhead) routes results) (hroutes : ∀ r ∈ routes, AcceptedRoute n r) :
    ((∃ tiles, simulateTiles ops args results n = .ok tiles) ↔
        ∀ t < n, fitsFloat (sentFrom sourceOf (wireOf overhead) routes (t : ℤ)) = true ∧
          fitsFloat (receivedAt destTilesOf (wireOf overhead) routes (t : ℤ)) = true) ∧
      ∀ tiles, simulateTiles ops args results n = .ok tiles →
        List.Forall₂ (TileOf overhead routes) (List.range n) tiles := by
  obtain ⟨sums, hloop, hsums⟩ := sumRoutes_int h hroutes fun _ => {}
  have hunfold : simulateTiles ops args results n = (List.range n).mapM (simulateTile ops args sums) := by
    unfold simulateTiles
    rw [hloop]
    rfl
  have htile : ∀ t ∈ List.range n, _ := fun t ht =>
    @simulateTile_ok n routes F ops args overhead sums hsums t (List.mem_range.mp ht)
  rw [hunfold]
  simp only [mapM_eq_ok, exists_forall₂_iff]
  refine ⟨?_, fun tiles htiles => ?_⟩
  · constructor
    · exact fun hall t ht => (htile t (List.mem_range.mpr ht)).1.mp (hall t (List.mem_range.mpr ht))
    · exact fun hall t ht => (htile t ht).1.mpr (hall t (List.mem_range.mp ht))
  · have hboth := (List.forall₂_and_left _ _).mpr ⟨fun t ht => (htile t ht).2, htiles⟩
    exact hboth.imp fun t tr htr => htr.1 tr htr.2

theorem simulateAggregate_ok {results : List (RouteResult F)} {tiles : List (TileResult F)} :
    (∃ agg, simulateAggregate ops args results tiles = .ok agg) ↔
      fitsFloat (results.map RouteResult.totalWireBytes).sum = true := by
  rw [← @bandwidth_eq_ok _ ops args]
  unfold simulateAggregate
  constructor
  · rintro ⟨agg, hagg⟩
    obtain ⟨bw, hbw, -⟩ := bind_eq_ok.mp hagg
    exact ⟨bw, hbw⟩
  · rintro ⟨bw, hbw⟩
    exact ⟨_, bind_eq_ok.mpr ⟨bw, hbw, rfl⟩⟩

/-- **The simulator** has results exactly if what it converts to floats can be converted; the results of the tiles are
what the routes carry. -/
theorem simulateRoutes_flow (hroutes : ∀ r ∈ routes, AcceptedRoute n r) (hest : ∀ r ∈ routes, HasEstimate r)
    (hdests : ∀ r ∈ routes, HasDests r) :
    ((∃ out, simulateRoutes ops parse args routes n = .ok out) ↔ Converts n args.packetOverheadBytes routes) ∧
      ∀ out, simulateRoutes ops parse args routes n = .ok out →
        List.Forall₂ (TileOf args.packetOverheadBytes routes) (List.range n) out.tiles := by
  have hroute : ∀ r ∈ routes, _ := fun r hr =>
    @simulateRoute_ok n parse r F ops args (hroutes r hr) (hest r hr) (hdests r hr)
  have hresults : ∀ results, routes.mapM (simulateRoute ops parse args) = .ok results →
      List.Forall₂ (ResultOf args.packetOverheadBytes) routes results := fun results hmap =>
    ((List.forall₂_and_left _ _).mpr ⟨fun r hr => (hroute r hr).2, mapM_eq_ok.mp hmap⟩).imp fun _ rr hrr =>
      hrr.1 rr hrr.2
  have htotal : ∀ results : List (RouteResult F), List.Forall₂ (ResultOf args.packetOverheadBytes) routes results →
      results.map RouteResult.totalWireBytes = routes.map (wireOf args.packetOverheadBytes) := fun results hall => by
    rw [← List.forall₂_eq_eq_eq, List.forall₂_map_left_iff, List.forall₂_map_right_iff]
    exact (List.Forall₂.flip hall).imp fun _ _ hresult => hresult.wire
  unfold simulateRoutes
  simp only [bind_eq_ok]
  refine ⟨⟨?_, fun hfits => ?_⟩, ?_⟩
  · rintro ⟨out, results, hmap, tiles, htiles, agg, hagg, -⟩
    have hall := hresults results hmap
    have heach := (simulateTiles_ok hall hroutes).1.mp ⟨tiles, htiles⟩
    refine ⟨?_, fun t ht => (heach t ht).1, fun t ht => (heach t ht).2, ?_⟩
    · have hok := exists_forall₂_iff.mp ⟨results, mapM_eq_ok.mp hmap⟩
      exact fun r hr => (hroute r hr).1.mp (hok r hr)
    · rw [← htotal results hall]
      exact simulateAggregate_ok.mp ⟨agg, hagg⟩
  · obtain ⟨results, hmap⟩ := exists_forall₂_iff.mpr fun r hr => (hroute r hr).1.mpr (hfits.route r hr)
    have hall := hresults results (mapM_eq_ok.mpr hmap)
    obtain ⟨tiles, htiles⟩ := (@simulateTiles_ok _ _ _ ops args _ _ hall hroutes).1.mpr fun t ht =>
      ⟨hfits.outbound t ht, hfits.inbound t ht⟩
    obtain ⟨agg, hagg⟩ := (@simulateAggregate_ok _ ops args results tiles).mpr (htotal results hall ▸ hfits.total)
    exact ⟨_, results, mapM_eq_ok.mpr hmap, tiles, htiles, agg, hagg, rfl⟩
  · rintro out ⟨results, hmap, tiles, htiles, agg, -, heq⟩
    obtain rfl := Except.ok.inj heq
    exact (simulateTiles_ok (hresults results hmap) hroutes).2 tiles htiles

end Simulator

/-! ### Agreement -/

/-- The replay and the simulator say the same of a tile. -/
structure SameTraffic {F : Type} (overhead : ℤ) (c : TileReplayCounters) (tr : TileResult F) : Prop where
  tile : tr.tileId = c.tileId
  outPayload : tr.outboundPayloadBytesPerToken = c.payloadBytesSent
  inPayload : tr.inboundPayloadBytesPerToken = c.payloadBytesReceived
  outWire : tr.outboundWireBytesPerToken = c.payloadBytesSent + overhead * c.packetsSent
  inWire : tr.inboundWireBytesPerToken = c.payloadBytesReceived + overhead * c.packetsReceived

/-- What a reading of the counters gives for a tile. -/
theorem Reads.counters {ctrs : TileCtrs} (h : Reads n routes ctrs) {t : ℕ} (ht : t < n) :
    (ctrs t).tileId = t ∧
      (ctrs t).packetsSent = sentFrom sourceOf packetsOf routes (t : ℤ) ∧
      (ctrs t).payloadBytesSent = sentFrom sourceOf bytesOf routes (t : ℤ) ∧
      (ctrs t).packetsReceived = receivedAt destTilesOf packetsOf routes (t : ℤ) ∧
      (ctrs t).payloadBytesReceived = receivedAt destTilesOf bytesOf routes (t : ℤ) := by
  have hid := h _ _ _ reading_tileId t ht
  have hpackets := h _ _ _ reading_packetsSent t ht
  have hbytes := h _ _ _ reading_payloadBytesSent t ht
  have hpackets' := h _ _ _ reading_packetsReceived t ht
  have hbytes' := h _ _ _ reading_payloadBytesReceived t ht
  simp only [sentFrom_zero, receivedAt_zero, zero_add, add_zero] at hid hpackets hbytes hpackets' hbytes'
  exact ⟨by exact_mod_cast hid, hpackets, hbytes, hpackets', hbytes'⟩

theorem sameTraffic {F : Type} {overhead : ℤ} {ctrs : TileCtrs} (h : Reads n routes ctrs) {routes' : List Fields}
    (hperm : routes'.Perm routes) {t : ℕ} (ht : t < n) {tr : TileResult F} (htr : TileOf overhead routes' t tr) :
    SameTraffic overhead (ctrs t) tr := by
  obtain ⟨hid, hpackets, hbytes, hpackets', hbytes'⟩ := h.counters ht
  refine ⟨htr.tile.trans hid.symm, ?_, ?_, ?_, ?_⟩
  · rw [htr.outPayload, hbytes, sentFrom_perm hperm]
  · rw [htr.inPayload, hbytes', receivedAt_perm hperm]
  · rw [htr.outWire, hbytes, hpackets, sentFrom_perm hperm]
    exact sentFrom_linear overhead
  · rw [htr.inWire, hbytes', hpackets', receivedAt_perm hperm]
    exact receivedAt_linear overhead

/-- What all tiles receive. -/
theorem received_total (hn : 0 < n) (hroutes : ∀ r ∈ routes, AcceptedRoute n r) (w : Fields → ℤ) :
    ((List.range n).map fun t : ℕ => receivedAt destTilesOf w routes (t : ℤ)).sum =
      (routes.map fun r => ((destTilesOf r).length : ℤ) * w r).sum := by
  have hnodes : ∀ r ∈ routes, ∀ d ∈ destTilesOf r, d ∈ (Finset.range n).map Nat.castEmbedding := by
    intro r hr d hd
    obtain ⟨tile, htile, rfl⟩ := List.mem_map.mp hd
    obtain ⟨s, hs, hrange⟩ := (hroutes r hr).dest tile htile
    obtain ⟨hlow, hhigh⟩ := hrange hn
    obtain ⟨t, rfl⟩ := Int.eq_ofNat_of_zero_le hlow
    rw [hs, Finset.mem_map]
    exact ⟨t, Finset.mem_range.mpr (by exact_mod_cast hhigh), rfl⟩
  rw [← sum_receivedAt _ hnodes, Finset.sum_map]
  rfl

/-- **The replay and the simulator agree**, on the accepted routes of a report with integer estimates and lists of
destinations, in any order. -/
theorem replay_agrees {report : Fields} {valid : List Fields} {diags : List Diag} {strict strict' : Bool}
    (hvalid : validateRoutes report n = .ok (valid, diags)) (haccept : errorsOf strict diags = [])
    (hest : ∀ r ∈ valid, HasEstimate r) (hdests : ∀ r ∈ valid, HasDests r) :
    ∃ replayed, replayRoutes parse report n strict' = .ok replayed ∧
      (∀ (report' : Fields) (routes' : List Fields), dictGet report' "routes" = .arr (routes'.map .obj) →
        routes'.Perm valid → replayRoutes parse report' n strict' = .ok replayed) ∧
      (∀ (F : Type) (ops : FloatOps F) (args : SimArgs F) (routes' : List Fields), routes'.Perm valid →
        ((∃ out, simulateRoutes ops parse args routes' n = .ok out) ↔ Converts n args.packetOverheadBytes valid) ∧
        ∀ out, simulateRoutes ops parse args routes' n = .ok out →
          List.Forall₂ (SameTraffic args.packetOverheadBytes) replayed.tileCounters out.tiles) ∧
      (0 < n →
        (replayed.tileCounters.map TileReplayCounters.packetsReceived).sum =
            (valid.map fun r => ((destTilesOf r).length : ℤ) * packetsOf r).sum ∧
          (replayed.tileCounters.map TileReplayCounters.payloadBytesReceived).sum =
            (valid.map fun r => ((destTilesOf r).length : ℤ) * bytesOf r).sum) := by
  have haccepted := acceptedRoutes_of_validateRoutes hvalid haccept
  obtain ⟨replayed, hreplay, ctrs, hctrs, hreads⟩ := @replayRoutes_flow n parse strict' valid report haccepted hest
  refine ⟨replayed, hreplay, fun report' routes' hlist hperm => ?_, fun F ops args routes' hperm => ?_, fun hn => ?_⟩
  · rw [replayRoutes_perm haccepted hlist hperm, hreplay]
  · obtain ⟨hiff, htiles⟩ := @simulateRoutes_flow n parse routes' F ops args
      (fun r hr => haccepted.route r (hperm.mem_iff.mp hr)) (fun r hr => hest r (hperm.mem_iff.mp hr))
      fun r hr => hdests r (hperm.mem_iff.mp hr)
    refine ⟨hiff.trans ⟨fun h => h.perm hperm.symm, fun h => h.perm hperm⟩, fun out hout => ?_⟩
    rw [hctrs, List.forall₂_map_left_iff]
    have hboth := (List.forall₂_and_left _ _).mpr
      ⟨fun t (ht : t ∈ List.range n) => List.mem_range.mp ht, htiles out hout⟩
    exact hboth.imp fun t tr htr => sameTraffic hreads hperm htr.1 htr.2
  · rw [hctrs, List.map_map, List.map_map, ← received_total hn haccepted.route, ← received_total hn haccepted.route]
    constructor
    · congr 1
      exact List.map_congr_left fun t ht => (hreads.counters (List.mem_range.mp ht)).2.2.2.1
    · congr 1
      exact List.map_congr_left fun t ht => (hreads.counters (List.mem_range.mp ht)).2.2.2.2

/-! ### Two reports -/

/-- A packet of `payload` bytes from a tile to a tile. -/
def sendRoute (id source dest payload : ℤ) : Fields :=
  [("route_id", .int id), ("route_type", .str "ACTIVATION_SEND"), ("source_tile", .int source),
    ("destination_tiles", .arr [.int dest]), ("payload_bytes", .int payload), ("packet_count_estimate", .int 1),
    ("reduction_behavior", .str "none"), ("ordering_policy", .str "ordered"), ("route_status", .str "ok")]

def routesReport (routes : List Fields) : Fields := [("routes", .arr (routes.map .obj))]

/-- The arguments where none is given. -/
def defaultArgs : SimArgs ℚ where
  targetTokensPerSec := 1
  fabricGibSec := none
  baseLatencyNs := 100
  perHopLatencyNs := 50
  packetOverheadBytes := 64

def thereAndBack : List Fields := [sendRoute 2 1 0 16, sendRoute 1 0 1 8]

theorem converts_thereAndBack : Converts 2 64 thereAndBack := by
  refine ⟨?_, ?_, ?_, ?_⟩ <;> decide +kernel

/-- Two routes, in the order of their ids and in the other. -/
theorem replay_agrees_there_and_back :
    ∃ replayed, replayRoutes (fun _ => none) (routesReport thereAndBack) 2 true = .ok replayed ∧
      replayRoutes (fun _ => none) (routesReport thereAndBack.reverse) 2 true = .ok replayed ∧
      ∃ out, simulateRoutes rationalFloats (fun _ => none) defaultArgs thereAndBack 2 = .ok out ∧
        List.Forall₂ (SameTraffic 64) replayed.tileCounters out.tiles := by
  obtain ⟨replayed, hreplay, hperm, hsim, -⟩ := @replay_agrees 2 (fun _ => none) (routesReport thereAndBack)
    thereAndBack [] true true rfl rfl (by simp [thereAndBack, HasEstimate]; exact ⟨⟨1, rfl⟩, ⟨1, rfl⟩⟩)
    (by simp [thereAndBack, HasDests]; exact ⟨⟨_, rfl⟩, ⟨_, rfl⟩⟩)
  obtain ⟨hiff, hagree⟩ := hsim ℚ rationalFloats defaultArgs thereAndBack (.refl _)
  obtain ⟨out, hout⟩ := hiff.mpr converts_thereAndBack
  exact ⟨replayed, hreplay, hperm _ _ rfl (List.reverse_perm _), out, hout, hagree out hout⟩

/-- More bytes than a float can hold. -/
def hugePayload : ℤ := 10 ^ 200 * 10 ^ 109

/-- A payload of `10 ^ 309` bytes is accepted and cannot be simulated, and without tiles nothing is received. -/
theorem accepted_without_results :
    (validateRoutes (routesReport [sendRoute 1 0 1 hugePayload]) 2 = .ok ([sendRoute 1 0 1 hugePayload], []) ∧
        simulateRoutes rationalFloats (fun _ => none) defaultArgs [sendRoute 1 0 1 hugePayload] 2 =
          .error overflowError) ∧
      validateRoutes (routesReport [sendRoute 1 0 1 8]) 0 = .ok ([sendRoute 1 0 1 8], []) ∧
      ∃ replayed, replayRoutes (fun _ => none) (routesReport [sendRoute 1 0 1 8]) 0 true = .ok replayed ∧
        (replayed.tileCounters.map TileReplayCounters.packetsReceived).sum ≠
          ([sendRoute 1 0 1 8].map fun r => ((destTilesOf r).length : ℤ) * packetsOf r).sum := by
  have haccept : validateRoutes (routesReport [sendRoute 1 0 1 hugePayload]) 2 =
      .ok ([sendRoute 1 0 1 hugePayload], []) := rfl
  have hroute : AcceptedRoute 2 (sendRoute 1 0 1 hugePayload) :=
    (@acceptedRoutes_of_validateRoutes 2 true _ _ _ haccept rfl).route _ List.mem_cons_self
  have hoverflow : simulateRoute rationalFloats (fun _ => none) defaultArgs (sendRoute 1 0 1 hugePayload) =
      .error overflowError := simulateRoute_overflow hroute ⟨1, rfl⟩ (by decide +kernel)
  refine ⟨⟨haccept, ?_⟩, rfl, ⟨_, rfl, ?_⟩⟩
  · unfold simulateRoutes
    rw [List.mapM_cons, hoverflow]
    rfl
  · decide

end Att1.Routes
