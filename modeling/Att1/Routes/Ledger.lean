import Att1.Lib.Checked
import Att1.Routes.Mapper

/-!
# Att1.Routes.Ledger — what the accumulators of the route builder hold

* `packetsOut`, `bytesOut` and so on: sums over a list of routes.
* `Ledger n b`: the routes of a builder for `n` tiles are numbered and shaped as the mapper makes them, and its
  accumulators hold the sums over its routes.
* `add_inv`: what adding one route does; the lemmas `add..._ledger` say that each `add_...` keeps the ledger.
-/

open Att1.Lib

namespace Att1.Routes

/-! ### Sums over routes -/

/-- The route leaves this tile. -/
def Route.isFrom (r : Route) (t : ℕ) : Bool := r.sourceTile.eqInt t

/-- The route reaches this tile. -/
def Route.isTo (r : Route) (t : ℕ) : Bool := decide (t ∈ r.destinationTiles)

def Route.isReduce (r : Route) : Bool := r.routeType == "PARTIAL_REDUCE"

def Route.isBarrier (r : Route) : Bool := r.routeType == "TILE_BARRIER"

/-- The payload of a route whose payload is an integer. -/
def Route.payload (r : Route) : ℤ := r.payloadBytes.asInt?.getD 0

def packetsOut (routes : List Route) (t : ℕ) : ℕ := ((routes.filter (·.isFrom t)).map (·.packetCountEstimate)).sum

def packetsIn (routes : List Route) (t : ℕ) : ℕ := ((routes.filter (·.isTo t)).map (·.packetCountEstimate)).sum

def bytesOut (routes : List Route) (t : ℕ) : ℤ := ((routes.filter (·.isFrom t)).map Route.payload).sum

def bytesIn (routes : List Route) (t : ℕ) : ℤ := ((routes.filter (·.isTo t)).map Route.payload).sum

def reductionsFrom (routes : List Route) (t : ℕ) : ℕ := routes.countP fun r => r.isReduce && r.isFrom t

def reductionsInto (routes : List Route) (t : ℕ) : ℕ := routes.countP fun r => r.isReduce && r.isTo t

def barriers (routes : List Route) : ℕ := routes.countP Route.isBarrier

/-- The payloads of the routes are integers. -/
def IntPayloads (routes : List Route) : Prop := ∀ r ∈ routes, r.payloadBytes.asInt? = some r.payload

theorem sum_filter_concat {α : Type} {M : Type} [AddCommMonoid M] (p : α → Bool) (f : α → M) (xs : List α) (x : α) :
    (((xs ++ [x]).filter p).map f).sum = ((xs.filter p).map f).sum + if p x then f x else 0 := by
  rw [List.filter_append, List.map_append, List.sum_append]
  by_cases hp : p x = true
  · simp [hp]
  · simp [hp]

section Concat

variable (routes : List Route) (r : Route) (t : ℕ)

theorem packetsOut_concat :
    packetsOut (routes ++ [r]) t = packetsOut routes t + if r.isFrom t then r.packetCountEstimate else 0 :=
  sum_filter_concat _ _ routes r

theorem packetsIn_concat :
    packetsIn (routes ++ [r]) t = packetsIn routes t + if r.isTo t then r.packetCountEstimate else 0 :=
  sum_filter_concat _ _ routes r

theorem bytesOut_concat : bytesOut (routes ++ [r]) t = bytesOut routes t + if r.isFrom t then r.payload else 0 :=
  sum_filter_concat _ _ routes r

theorem bytesIn_concat : bytesIn (routes ++ [r]) t = bytesIn routes t + if r.isTo t then r.payload else 0 :=
  sum_filter_concat _ _ routes r

end Concat

/-! ### Accumulators -/

theorem tileKey_injective : Function.Injective tileKey := by
  intro s t h
  unfold tileKey at h
  exact_mod_cast Json.Key.num.inj h

theorem tileKey_of_asInt {value : Json} {s : ℕ} (h : value.asInt? = some (s : ℤ)) : value.key = .ok (tileKey s) := by
  rw [Json.key_of_asInt h]
  simp [tileKey]

theorem eqInt_tile {src : Json} {s : ℕ} (h : src.asInt? = some (s : ℤ)) (t : ℕ) :
    src.eqInt t = decide (t = s) := by
  rw [Json.eqInt_of_asInt h]
  simp [eq_comm]

theorem bump_tileKey (counts : Json.Key → ℕ) (s t k : ℕ) :
    bump counts (tileKey s) k (tileKey t) = counts (tileKey t) + if t = s then k else 0 := by
  unfold bump
  rcases eq_or_ne t s with rfl | hne
  · simp
  · rw [Function.update_of_ne (tileKey_injective.ne hne), if_neg hne, Nat.add_zero]

theorem bumpAll_tileKey (counts : Json.Key → ℕ) {tiles : List ℕ} (hnodup : tiles.Nodup) (t k : ℕ) :
    bumpAll counts tiles k (tileKey t) = counts (tileKey t) + if t ∈ tiles then k else 0 := by
  induction tiles generalizing counts with
  | nil => simp [bumpAll]
  | cons s tiles ih =>
    obtain ⟨hs, hnodup⟩ := List.nodup_cons.mp hnodup
    have hrest := ih (bump counts (tileKey s) k) hnodup
    unfold bumpAll at hrest ⊢
    rw [List.foldl_cons, hrest, bump_tileKey]
    rcases eq_or_ne t s with rfl | hne
    · simp [hs]
    · simp [hne]

/-- The sums under the ids of the tiles are these integers. -/
def SumsTo (n : ℕ) (sums : Json.Key → Json) (f : ℕ → ℤ) : Prop := ∀ t < n, sums (tileKey t) = .int (f t)

variable {n : ℕ}

section Sums

variable {sums : Json.Key → Json} {f : ℕ → ℤ} {value : Json} {p : ℤ}

theorem SumsTo.add (h : SumsTo n sums f) {s : ℕ} (hs : s < n) (hv : value.asInt? = some p) :
    ∃ sums', addBytes sums (tileKey s) value = .ok sums' ∧ SumsTo n sums' fun t => f t + if t = s then p else 0 := by
  unfold addBytes
  rw [h s hs, Json.add_of_asInt (f s) hv]
  refine ⟨_, rfl, fun t ht => ?_⟩
  rcases eq_or_ne t s with rfl | hne
  · simp
  · rw [Function.update_of_ne (tileKey_injective.ne hne), h t ht]
    simp [hne]

theorem SumsTo.addAll (h : SumsTo n sums f) {tiles : List ℕ} (htiles : ∀ t ∈ tiles, t < n) (hnodup : tiles.Nodup)
    (hv : value.asInt? = some p) :
    ∃ sums', addBytesAll sums tiles value = .ok sums' ∧ SumsTo n sums' fun t => f t + if t ∈ tiles then p else 0 := by
  induction tiles generalizing sums f with
  | nil => exact ⟨sums, rfl, fun t ht => by simp [h t ht]⟩
  | cons s tiles ih =>
    obtain ⟨hs, hnodup⟩ := List.nodup_cons.mp hnodup
    obtain ⟨sums₁, hadd, h₁⟩ := h.add (htiles s List.mem_cons_self) hv
    obtain ⟨sums₂, hrest, h₂⟩ := ih h₁ (fun t ht => htiles t (List.mem_cons_of_mem s ht)) hnodup
    refine ⟨sums₂, ?_, fun t ht => ?_⟩
    · unfold addBytesAll at hrest ⊢
      rw [List.foldlM_cons, bind_eq_ok]
      exact ⟨sums₁, hadd, hrest⟩
    · rw [h₂ t ht]
      rcases eq_or_ne t s with rfl | hne
      · simp [hs]
      · simp [hne]

end Sums

/-! ### Shapes -/

/-- What the fields of a route are, by its type. -/
def RouteSpec.Kind (spec : RouteSpec) : Prop :=
  ((spec.routeType = "CONTROL_ACK" ∨ spec.routeType = "TRACE_EVENT") ∧ spec.payloadBytes = .int 64 ∧
      spec.orderingPolicy = "ordered" ∧ spec.reductionBehavior = "none") ∨
    (spec.routeType = "TILE_BARRIER" ∧ spec.payloadBytes = .int 0 ∧ spec.orderingPolicy = "barriered" ∧
      spec.reductionBehavior = "none") ∨
    (spec.routeType = "ACTIVATION_SEND" ∧ spec.payloadBytes.eqInt 0 = false ∧ spec.orderingPolicy = "ordered" ∧
      spec.reductionBehavior = "none") ∨
    (spec.routeType = "PARTIAL_REDUCE" ∧ spec.payloadBytes.eqInt 0 = false ∧ spec.orderingPolicy = "ordered" ∧
      spec.reductionBehavior ∈ ["sum", "concat", "max", "topk"])

/-- A route leaves a tile of the plan for all others; a barrier reaches its own tile as well. -/
structure RouteSpec.Shaped (n : ℕ) (spec : RouteSpec) : Prop where
  source : ∃ s < n, spec.sourceTile.asInt? = some (s : ℤ)
  dests : spec.destinationTiles =
    (List.range n).filter fun t : ℕ => spec.routeType == "TILE_BARRIER" || !spec.sourceTile.eqInt t
  dests_ne : spec.destinationTiles ≠ []
  kind : spec.Kind

theorem RouteSpec.Shaped.dest_lt {spec : RouteSpec} (h : spec.Shaped n) : ∀ t ∈ spec.destinationTiles, t < n := by
  intro t ht
  rw [h.dests] at ht
  exact List.mem_range.mp (List.mem_filter.mp ht).1

theorem RouteSpec.Shaped.nodup {spec : RouteSpec} (h : spec.Shaped n) : spec.destinationTiles.Nodup := by
  rw [h.dests]
  exact List.nodup_range.filter _

/-! ### The ledger -/

/-- Numbers, shapes and traffic of the routes. -/
structure Traffic (n : ℕ) (b : Builder) : Prop where
  tileCount : b.tileCount.asInt? = some (n : ℤ)
  ids : b.routes.map (·.routeId) = List.range' 1 b.routes.length
  nextId : b.nextId = b.routes.length + 1
  shaped : ∀ r ∈ b.routes, r.Shaped n
  packets : ∀ r ∈ b.routes, ∃ positive, Json.lt (.int 0) r.payloadBytes = .ok positive ∧
    r.packetCountEstimate = if positive then 1 else 0
  outPackets : ∀ t < n, b.tileOutPackets (tileKey t) = packetsOut b.routes t
  inPackets : ∀ t < n, b.tileInPackets (tileKey t) = packetsIn b.routes t
  outBytes : IntPayloads b.routes → SumsTo n b.tileOutBytes (bytesOut b.routes)
  inBytes : IntPayloads b.routes → SumsTo n b.tileInBytes (bytesIn b.routes)

/-- What the other accumulators hold. -/
structure Events (n : ℕ) (b : Builder) : Prop where
  reductionsStarted : ∀ t < n, b.tileReductionsStarted (tileKey t) = reductionsFrom b.routes t
  reductionsCompleted : ∀ t < n, b.tileReductionsCompleted (tileKey t) = reductionsInto b.routes t
  barriersStarted : ∀ t < n, b.tileBarriersStarted (tileKey t) = barriers b.routes
  barriersCompleted : ∀ t < n, b.tileBarriersCompleted (tileKey t) = barriers b.routes

structure Ledger (n : ℕ) (b : Builder) : Prop where
  traffic : Traffic n b
  events : Events n b

variable {b b' : Builder} {spec : RouteSpec}

theorem ledger_start {tileCount : Json} (h : tileCount.asInt? = some (n : ℤ)) :
    Ledger n { tileCount := tileCount } := by
  refine ⟨⟨h, rfl, rfl, by simp, by simp, fun _ _ => rfl, fun _ _ => rfl, fun _ _ _ => rfl, fun _ _ _ => rfl⟩, ?_⟩
  exact ⟨fun _ _ => rfl, fun _ _ => rfl, fun _ _ => rfl, fun _ _ => rfl⟩

/-- What `_add` does when it does not raise. -/
theorem add_inv (h : b.add spec = .ok b') : ∃ positive source outBytes inBytes,
    Json.lt (.int 0) spec.payloadBytes = .ok positive ∧ spec.sourceTile.key = .ok source ∧
    addBytes b.tileOutBytes source spec.payloadBytes = .ok outBytes ∧
    addBytesAll b.tileInBytes spec.destinationTiles spec.payloadBytes = .ok inBytes ∧
    b' =
      { b with
        routes := b.routes ++ [{ spec with routeId := b.nextId, packetCountEstimate := if positive then 1 else 0 }]
        nextId := b.nextId + 1
        tileOutPackets := bump b.tileOutPackets source (if positive then 1 else 0)
        tileInPackets := bumpAll b.tileInPackets spec.destinationTiles (if positive then 1 else 0)
        tileOutBytes := outBytes
        tileInBytes := inBytes } := by
  unfold Builder.add at h
  obtain ⟨positive, hpositive, h⟩ := bind_eq_ok.mp h
  obtain ⟨source, hsource, h⟩ := bind_eq_ok.mp h
  obtain ⟨outBytes, hout, h⟩ := bind_eq_ok.mp h
  obtain ⟨inBytes, hin, h⟩ := bind_eq_ok.mp h
  injection h with h
  exact ⟨positive, source, outBytes, inBytes, hpositive, hsource, hout, hin, h.symm⟩

/-- Adding a shaped route keeps the traffic, and touches no other accumulator. -/
theorem Traffic.add (h : Traffic n b) (hs : spec.Shaped n) (hadd : b.add spec = .ok b') :
    Traffic n b' ∧ (∃ r : Route, r.toRouteSpec = spec ∧ b'.routes = b.routes ++ [r]) ∧
      b'.tileReductionsStarted = b.tileReductionsStarted ∧
      b'.tileReductionsCompleted = b.tileReductionsCompleted ∧
      b'.tileBarriersStarted = b.tileBarriersStarted ∧ b'.tileBarriersCompleted = b.tileBarriersCompleted := by
  obtain ⟨positive, source, outBytes, inBytes, hpositive, hsource, hout, hin, rfl⟩ := add_inv hadd
  obtain ⟨s, hs_lt, hs_int⟩ := hs.source
  obtain rfl : tileKey s = source := by
    rw [tileKey_of_asInt hs_int] at hsource
    exact Except.ok.inj hsource
  have hfrom : ∀ t : ℕ, spec.sourceTile.eqInt t = decide (t = s) := eqInt_tile hs_int
  set r : Route := { spec with routeId := b.nextId, packetCountEstimate := if positive then 1 else 0 } with hr
  refine ⟨⟨h.tileCount, ?_, ?_, ?_, ?_, ?_, ?_, ?_, ?_⟩, ⟨r, rfl, rfl⟩, rfl, rfl, rfl, rfl⟩
  · simp only [List.map_append, h.ids, List.map_cons, List.map_nil, List.length_append, List.length_singleton]
    rw [List.range'_concat, hr]
    simp [h.nextId, Nat.add_comm]
  · simp [h.nextId]
  · intro r' hr'
    rcases List.mem_append.mp hr' with hold | hnew
    · exact h.shaped r' hold
    · obtain rfl := List.mem_singleton.mp hnew
      exact hs
  · intro r' hr'
    rcases List.mem_append.mp hr' with hold | hnew
    · exact h.packets r' hold
    · obtain rfl := List.mem_singleton.mp hnew
      exact ⟨positive, hpositive, rfl⟩
  · intro t ht
    show bump _ _ _ _ = _
    rw [bump_tileKey, h.outPackets t ht, packetsOut_concat]
    simp [Route.isFrom, hr, hfrom]
  · intro t ht
    show bumpAll _ _ _ _ = _
    rw [bumpAll_tileKey _ hs.nodup, h.inPackets t ht, packetsIn_concat]
    simp [Route.isTo, hr]
  · intro hints t ht
    have hold := h.outBytes fun r' hr' => hints r' (List.mem_append_left _ hr')
    have hv : spec.payloadBytes.asInt? = some r.payload := hints r (by simp)
    obtain ⟨sums, hsums, hto⟩ := hold.add hs_lt hv
    obtain rfl : sums = outBytes := Except.ok.inj (hsums.symm.trans hout)
    show sums (tileKey t) = .int (bytesOut (b.routes ++ [r]) t)
    rw [hto t ht, bytesOut_concat]
    simp [Route.isFrom, hr, hfrom]
  · intro hints t ht
    have hold := h.inBytes fun r' hr' => hints r' (List.mem_append_left _ hr')
    have hv : spec.payloadBytes.asInt? = some r.payload := hints r (by simp)
    obtain ⟨sums, hsums, hto⟩ := hold.addAll hs.dest_lt hs.nodup hv
    obtain rfl : sums = inBytes := Except.ok.inj (hsums.symm.trans hin)
    show sums (tileKey t) = .int (bytesIn (b.routes ++ [r]) t)
    rw [hto t ht, bytesIn_concat]
    simp [Route.isTo, hr]

/-- A shaped route can be added when all payloads are integers. -/
theorem Traffic.exists_add (h : Traffic n b) (hs : spec.Shaped n) (hints : IntPayloads b.routes) {p : ℤ}
    (hv : spec.payloadBytes.asInt? = some p) : ∃ b', b.add spec = .ok b' := by
  obtain ⟨s, hs_lt, hs_int⟩ := hs.source
  obtain ⟨outBytes, hout, -⟩ := (h.outBytes hints).add hs_lt hv
  obtain ⟨inBytes, hin, -⟩ := (h.inBytes hints).addAll hs.dest_lt hs.nodup hv
  unfold Builder.add
  simp only [bind_eq_ok]
  exact ⟨_, _, Json.lt_of_asInt rfl hv, _, tileKey_of_asInt hs_int, _, hout, _, hin, rfl⟩

/-! ### Events -/

theorem isReduce_of_spec {r : Route} (h : r.toRouteSpec = spec) :
    r.isReduce = (spec.routeType == "PARTIAL_REDUCE") := h ▸ rfl

theorem isBarrier_of_spec {r : Route} (h : r.toRouteSpec = spec) :
    r.isBarrier = (spec.routeType == "TILE_BARRIER") := h ▸ rfl

/-- A route that is neither a reduction nor a barrier changes no event count. -/
theorem Ledger.add (h : Ledger n b) (hs : spec.Shaped n) (hreduce : spec.routeType ≠ "PARTIAL_REDUCE")
    (hbarrier : spec.routeType ≠ "TILE_BARRIER") (hadd : b.add spec = .ok b') :
    Ledger n b' ∧ ∃ r : Route, r.toRouteSpec = spec ∧ b'.routes = b.routes ++ [r] := by
  obtain ⟨htraffic, ⟨r, hspec, hroutes⟩, hrs, hrc, hbs, hbc⟩ := h.traffic.add hs hadd
  have hr : r.isReduce = false := by
    rw [isReduce_of_spec hspec]
    simpa using hreduce
  have hb : r.isBarrier = false := by
    rw [isBarrier_of_spec hspec]
    simpa using hbarrier
  refine ⟨⟨htraffic, ?_, ?_, ?_, ?_⟩, r, hspec, hroutes⟩ <;> intro t ht
  · rw [hrs, hroutes, h.events.reductionsStarted t ht]
    simp [reductionsFrom, hr]
  · rw [hrc, hroutes, h.events.reductionsCompleted t ht]
    simp [reductionsInto, hr]
  · rw [hbs, hroutes, h.events.barriersStarted t ht]
    simp [barriers, hb]
  · rw [hbc, hroutes, h.events.barriersCompleted t ht]
    simp [barriers, hb]

theorem Ledger.warnings (h : Ledger n b) (ws : List FString) : Ledger n { b with warnings := ws } := by
  obtain ⟨ht, he⟩ := h
  exact ⟨⟨ht.tileCount, ht.ids, ht.nextId, ht.shaped, ht.packets, ht.outPackets, ht.inPackets, ht.outBytes,
    ht.inBytes⟩, ⟨he.reductionsStarted, he.reductionsCompleted, he.barriersStarted, he.barriersCompleted⟩⟩

theorem Ledger.warn (h : Ledger n b) (warning : FString) : Ledger n (b.warn warning) := h.warnings _

/-- What the command with this id adds: nothing, or one route with this payload. -/
def Adds (b b' : Builder) (cid payload : Json) : Prop :=
  b'.routes = b.routes ∨
    ∃ r : Route, b'.routes = b.routes ++ [r] ∧ r.sourceCommandId = cid ∧ r.payloadBytes = payload

theorem adds_of_spec {r : Route} (hroutes : b'.routes = b.routes ++ [r]) (hspec : r.toRouteSpec = spec) :
    Adds b b' spec.sourceCommandId spec.payloadBytes :=
  Or.inr ⟨r, hroutes, hspec ▸ rfl, hspec ▸ rfl⟩

/-! ### Route records -/

section Emit

variable {src cid fence trace payload name : Json}

theorem allTiles_eq {tileCount : Json} (h : tileCount.asInt? = some (n : ℤ)) :
    Builder.allTiles tileCount = .ok (List.range n) := by
  unfold Builder.allTiles Json.rangeLength
  rw [h]
  rfl

/-- The tiles of the plan but the source. -/
def others (n : ℕ) (src : Json) : List ℕ := (List.range n).filter fun t : ℕ => !src.eqInt t

theorem otherTiles_eq {tileCount : Json} (h : tileCount.asInt? = some (n : ℤ)) (src : Json) :
    Builder.otherTiles tileCount src = .ok (others n src) := by
  unfold Builder.otherTiles
  rw [allTiles_eq h]
  rfl

/-- A route to the other tiles, if there are any. -/
theorem shaped_of_others {spec : RouteSpec} (hsrc : ∃ s < n, spec.sourceTile.asInt? = some (s : ℤ))
    (hdests : spec.destinationTiles = others n spec.sourceTile) (hne : spec.destinationTiles.isEmpty = false)
    (htype : spec.routeType ≠ "TILE_BARRIER") (hkind : spec.Kind) : spec.Shaped n := by
  have hbarrier : (spec.routeType == "TILE_BARRIER") = false := by simpa using htype
  refine ⟨hsrc, ?_, by simpa using hne, hkind⟩
  rw [hdests, hbarrier]
  simp only [Bool.false_or]
  rfl

variable (hsrc : ∃ s < n, src.asInt? = some (s : ℤ))

include hsrc

theorem shaped_controlAck (hne : (others n src).isEmpty = false) :
    (controlAckRoute src (others n src) cid fence).Shaped n :=
  shaped_of_others hsrc rfl hne (by simp [controlAckRoute]) (Or.inl ⟨Or.inl rfl, rfl, rfl, rfl⟩)

theorem shaped_traceEvent (hne : (others n src).isEmpty = false) :
    (traceEventRoute src (others n src) cid fence trace).Shaped n :=
  shaped_of_others hsrc rfl hne (by simp [traceEventRoute]) (Or.inl ⟨Or.inr rfl, rfl, rfl, rfl⟩)

theorem shaped_tileBarrier : (tileBarrierRoute src (List.range n) cid fence).Shaped n := by
  refine ⟨hsrc, by simp [tileBarrierRoute], ?_, Or.inr (Or.inl ⟨rfl, rfl, rfl, rfl⟩)⟩
  obtain ⟨s, hs, -⟩ := hsrc
  exact List.ne_nil_of_mem (List.mem_range.mpr hs)

theorem shaped_activationSend (hne : (others n src).isEmpty = false) (hpayload : payload.eqInt 0 = false) :
    (activationSendRoute src (others n src) payload cid name fence).Shaped n :=
  shaped_of_others hsrc rfl hne (by simp [activationSendRoute]) (Or.inr (Or.inr (Or.inl ⟨rfl, hpayload, rfl, rfl⟩)))

theorem shaped_partialReduce {rid : ℕ} {behavior : String} (hne : (others n src).isEmpty = false)
    (hpayload : payload.eqInt 0 = false) (hbehavior : behavior ∈ ["sum", "concat", "max", "topk"]) :
    (partialReduceRoute src (others n src) payload cid name fence rid behavior).Shaped n :=
  shaped_of_others hsrc rfl hne (by simp [partialReduceRoute])
    (Or.inr (Or.inr (Or.inr ⟨rfl, hpayload, rfl, hbehavior⟩)))

theorem addControlAck_ledger (h : Ledger n b) (hok : b.addControlAck src cid fence = .ok b') :
    Ledger n b' ∧ Adds b b' cid (.int 64) := by
  unfold Builder.addControlAck at hok
  rw [otherTiles_eq h.traffic.tileCount] at hok
  obtain ⟨dests, hdests, hok⟩ := bind_eq_ok.mp hok
  obtain rfl := Except.ok.inj hdests
  by_cases hempty : (others n src).isEmpty = true
  · rw [if_pos hempty] at hok
    obtain rfl := Except.ok.inj hok
    exact ⟨h.warn _, Or.inl rfl⟩
  · rw [if_neg hempty] at hok
    have hshaped : (controlAckRoute src (others n src) cid fence).Shaped n :=
      shaped_controlAck hsrc (by simpa using hempty)
    obtain ⟨hledger, r, hr, hroutes⟩ := h.add hshaped (by simp [controlAckRoute]) (by simp [controlAckRoute]) hok
    exact ⟨hledger, adds_of_spec hroutes hr⟩

theorem addTraceEvent_ledger (h : Ledger n b) (hok : b.addTraceEvent src cid fence trace = .ok b') :
    Ledger n b' ∧ Adds b b' cid (.int 64) := by
  unfold Builder.addTraceEvent at hok
  rw [otherTiles_eq h.traffic.tileCount] at hok
  obtain ⟨dests, hdests, hok⟩ := bind_eq_ok.mp hok
  obtain rfl := Except.ok.inj hdests
  by_cases hempty : (others n src).isEmpty = true
  · rw [if_pos hempty] at hok
    obtain rfl := Except.ok.inj hok
    exact ⟨h.warn _, Or.inl rfl⟩
  · rw [if_neg hempty] at hok
    have hshaped : (traceEventRoute src (others n src) cid fence trace).Shaped n :=
      shaped_traceEvent hsrc (by simpa using hempty)
    obtain ⟨hledger, r, hr, hroutes⟩ := h.add hshaped (by simp [traceEventRoute]) (by simp [traceEventRoute]) hok
    exact ⟨hledger, adds_of_spec hroutes hr⟩

/-- A barrier is counted at every tile. -/
theorem addTileBarrier_ledger (h : Ledger n b) (hok : b.addTileBarrier src cid fence = .ok b') :
    Ledger n b' ∧ Adds b b' cid (.int 0) := by
  unfold Builder.addTileBarrier at hok
  rw [allTiles_eq h.traffic.tileCount] at hok
  obtain ⟨dests, hdests, hok⟩ := bind_eq_ok.mp hok
  obtain rfl := Except.ok.inj hdests
  obtain ⟨b₁, hadd, hok⟩ := bind_eq_ok.mp hok
  obtain rfl := Except.ok.inj hok
  obtain ⟨ht, ⟨r, hr, hroutes⟩, hrs, hrc, hbs, hbc⟩ := h.traffic.add (shaped_tileBarrier hsrc) hadd
  have hreduce : r.isReduce = false := isReduce_of_spec hr
  have hbarrier : r.isBarrier = true := isBarrier_of_spec hr
  have hcount : ∀ (counts : Json.Key → ℕ), ∀ t < n,
      bumpAll counts (List.range n) 1 (tileKey t) = counts (tileKey t) + 1 := by
    intro counts t ht
    rw [bumpAll_tileKey counts List.nodup_range, if_pos (List.mem_range.mpr ht)]
  refine ⟨⟨⟨ht.tileCount, ht.ids, ht.nextId, ht.shaped, ht.packets, ht.outPackets, ht.inPackets, ht.outBytes,
    ht.inBytes⟩, ?_, ?_, ?_, ?_⟩, adds_of_spec hroutes hr⟩ <;> intro t htn
  · show b₁.tileReductionsStarted _ = reductionsFrom b₁.routes t
    rw [hrs, hroutes, h.events.reductionsStarted t htn]
    simp [reductionsFrom, hreduce]
  · show b₁.tileReductionsCompleted _ = reductionsInto b₁.routes t
    rw [hrc, hroutes, h.events.reductionsCompleted t htn]
    simp [reductionsInto, hreduce]
  · show bumpAll b₁.tileBarriersStarted _ _ _ = barriers b₁.routes
    rw [hcount _ t htn, hbs, hroutes, h.events.barriersStarted t htn]
    simp [barriers, hbarrier]
  · show bumpAll b₁.tileBarriersCompleted _ _ _ = barriers b₁.routes
    rw [hcount _ t htn, hbc, hroutes, h.events.barriersCompleted t htn]
    simp [barriers, hbarrier]

theorem addActivationSend_ledger (h : Ledger n b) (hpayload : payload.eqInt 0 = false)
    (hne : (others n src).isEmpty = false)
    (hok : b.addActivationSend src (others n src) payload cid name fence = .ok b') :
    Ledger n b' ∧ Adds b b' cid payload := by
  have hshaped : (activationSendRoute src (others n src) payload cid name fence).Shaped n :=
    shaped_activationSend hsrc hne hpayload
  obtain ⟨hledger, r, hr, hroutes⟩ :=
    h.add hshaped (by simp [activationSendRoute]) (by simp [activationSendRoute]) hok
  exact ⟨hledger, adds_of_spec hroutes hr⟩

/-- A reduction is started at its source and completed at the tiles it reaches. -/
theorem addPartialReduce_ledger {rid : ℕ} {behavior : String} (h : Ledger n b) (hpayload : payload.eqInt 0 = false)
    (hbehavior : behavior ∈ ["sum", "concat", "max", "topk"]) (hne : (others n src).isEmpty = false)
    (hok : b.addPartialReduce src (others n src) payload cid name fence rid behavior = .ok b') :
    Ledger n b' ∧ Adds b b' cid payload := by
  unfold Builder.addPartialReduce at hok
  have hshaped : (partialReduceRoute src (others n src) payload cid name fence rid behavior).Shaped n :=
    shaped_partialReduce hsrc hne hpayload hbehavior
  obtain ⟨s, hs, hint⟩ := hsrc
  rw [tileKey_of_asInt hint] at hok
  obtain ⟨source, hsource, hok⟩ := bind_eq_ok.mp hok
  obtain rfl := Except.ok.inj hsource
  have ht := h.traffic
  have htraffic : Traffic n
      { b with
        tileReductionsStarted := bump b.tileReductionsStarted (tileKey s) 1
        tileReductionsCompleted := bumpAll b.tileReductionsCompleted (others n src) 1 } :=
    ⟨ht.tileCount, ht.ids, ht.nextId, ht.shaped, ht.packets, ht.outPackets, ht.inPackets, ht.outBytes, ht.inBytes⟩
  obtain ⟨ht, ⟨r, hr, hroutes⟩, hrs, hrc, hbs, hbc⟩ := htraffic.add hshaped hok
  replace hroutes : b'.routes = b.routes ++ [r] := hroutes
  replace hrs : b'.tileReductionsStarted = bump b.tileReductionsStarted (tileKey s) 1 := hrs
  replace hrc : b'.tileReductionsCompleted = bumpAll b.tileReductionsCompleted (others n src) 1 := hrc
  replace hbs : b'.tileBarriersStarted = b.tileBarriersStarted := hbs
  replace hbc : b'.tileBarriersCompleted = b.tileBarriersCompleted := hbc
  have hnodup : (others n src).Nodup := hshaped.nodup
  have hreduce : r.isReduce = true := isReduce_of_spec hr
  have hbarrier : r.isBarrier = false := isBarrier_of_spec hr
  have hfrom : ∀ t : ℕ, r.isFrom t = decide (t = s) := by
    intro t
    unfold Route.isFrom
    rw [hr]
    exact eqInt_tile hint t
  have hto : ∀ t : ℕ, r.isTo t = decide (t ∈ others n src) := by
    intro t
    unfold Route.isTo
    rw [hr]
    rfl
  refine ⟨⟨ht, ?_, ?_, ?_, ?_⟩, adds_of_spec hroutes hr⟩ <;> intro t htn
  · rw [hrs, hroutes, bump_tileKey, h.events.reductionsStarted t htn]
    simp [reductionsFrom, List.countP_append, List.countP_singleton, hreduce, hfrom]
  · rw [hrc, hroutes, bumpAll_tileKey _ hnodup, h.events.reductionsCompleted t htn]
    simp [reductionsInto, List.countP_append, List.countP_singleton, hreduce, hto]
  · rw [hbs, hroutes, h.events.barriersStarted t htn]
    simp [barriers, hbarrier]
  · rw [hbc, hroutes, h.events.barriersCompleted t htn]
    simp [barriers, hbarrier]

/-! ### Without an exception -/

variable (h : Ledger n b) (hints : IntPayloads b.routes)

include h hints

theorem exists_addControlAck : ∃ b', b.addControlAck src cid fence = .ok b' := by
  unfold Builder.addControlAck
  rw [otherTiles_eq h.traffic.tileCount]
  show ∃ b', (if (others n src).isEmpty = true then _ else _) = Except.ok b'
  by_cases hempty : (others n src).isEmpty = true
  · rw [if_pos hempty]
    exact ⟨_, rfl⟩
  · rw [if_neg hempty]
    exact h.traffic.exists_add (shaped_controlAck hsrc (by simpa using hempty)) hints rfl

theorem exists_addTraceEvent : ∃ b', b.addTraceEvent src cid fence trace = .ok b' := by
  unfold Builder.addTraceEvent
  rw [otherTiles_eq h.traffic.tileCount]
  show ∃ b', (if (others n src).isEmpty = true then _ else _) = Except.ok b'
  by_cases hempty : (others n src).isEmpty = true
  · rw [if_pos hempty]
    exact ⟨_, rfl⟩
  · rw [if_neg hempty]
    exact h.traffic.exists_add (shaped_traceEvent hsrc (by simpa using hempty)) hints rfl

theorem exists_addTileBarrier : ∃ b', b.addTileBarrier src cid fence = .ok b' := by
  unfold Builder.addTileBarrier
  rw [allTiles_eq h.traffic.tileCount]
  obtain ⟨b₁, hadd⟩ :=
    h.traffic.exists_add (@shaped_tileBarrier n src cid fence hsrc) hints
      (show Json.asInt? (.int 0) = some 0 from rfl)
  simp only [bind_eq_ok]
  exact ⟨_, _, rfl, b₁, hadd, rfl⟩

theorem exists_addActivationSend {p : ℤ} (hpayload : payload.eqInt 0 = false) (hint : payload.asInt? = some p)
    (hne : (others n src).isEmpty = false) :
    ∃ b', b.addActivationSend src (others n src) payload cid name fence = .ok b' :=
  h.traffic.exists_add (shaped_activationSend hsrc hne hpayload) hints hint

theorem exists_addPartialReduce {p : ℤ} {rid : ℕ} {behavior : String} (hpayload : payload.eqInt 0 = false)
    (hint : payload.asInt? = some p) (hbehavior : behavior ∈ ["sum", "concat", "max", "topk"])
    (hne : (others n src).isEmpty = false) :
    ∃ b', b.addPartialReduce src (others n src) payload cid name fence rid behavior = .ok b' := by
  have hshaped : (partialReduceRoute src (others n src) payload cid name fence rid behavior).Shaped n :=
    shaped_partialReduce hsrc hne hpayload hbehavior
  obtain ⟨s, hs, hsrcint⟩ := hsrc
  unfold Builder.addPartialReduce
  rw [tileKey_of_asInt hsrcint]
  have ht := h.traffic
  have htraffic : Traffic n
      { b with
        tileReductionsStarted := bump b.tileReductionsStarted (tileKey s) 1
        tileReductionsCompleted := bumpAll b.tileReductionsCompleted (others n src) 1 } :=
    ⟨ht.tileCount, ht.ids, ht.nextId, ht.shaped, ht.packets, ht.outPackets, ht.inPackets, ht.outBytes, ht.inBytes⟩
  exact htraffic.exists_add hshaped hints hint

end Emit

end Att1.Routes
