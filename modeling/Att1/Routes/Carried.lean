import Att1.Lib.Flow
import Att1.Routes.Accepted
import Att1.Routes.Agree

/-!
# Att1.Routes.Carried — the replay counts what the routes carry

* `packetsOf`, `bytesOf`: what an accepted route carries, from `sourceOf` to each of `destTilesOf`.
* `Reading`: a counter to which each route adds, at its source and at its destinations.
* `replayRoute_flow`, `replayLoop_flow`, `replayRoutes_flow`: after the replay each such counter is what leaves a tile
  or reaches it.
* `replayRoutes_perm`: the order of the routes in the report does not matter.
-/

open Att1.Lib

namespace Att1.Routes

variable {n : ℕ} {parse : String → Option ℤ} {strict : Bool} {route : Fields} {routes : List Fields}

/-! ### What a route carries -/

def sourceOf (route : Fields) : ℤ := number route "source_tile"

def destTilesOf (route : Fields) : List ℤ := (destsOf route).map fun d => (d.asInt?).getD 0

/-- The estimate of a route, 0 where there is none. -/
def estimateOf (route : Fields) : ℤ := number route "packet_count_estimate"

def packetsOf (route : Fields) : ℤ := effPkts (dictGet route "route_type") (estimateOf route)

def bytesOf (route : Fields) : ℤ := number route "payload_bytes"

/-- An integer estimate, or none. -/
def HasEstimate (route : Fields) : Prop := ∃ k, (dictGetD route "packet_count_estimate" (.int 0)).asInt? = some k

/-- A list of destinations, or none. -/
def HasDests (route : Fields) : Prop := ∃ ds, dictGetD route "destination_tiles" (.arr []) = .arr ds

/-! ### Fields -/

section Fields

variable {field : String} {default : Json}

theorem dictGetD_of_asInt {k : ℤ} (h : (dictGet route field).asInt? = some k) :
    dictGetD route field default = dictGet route field :=
  dictGetD_of_not_none (Json.isNone_of_asInt h)

theorem dictGetD_of_oneOf {texts : List String} (h : OneOf texts (dictGet route field)) :
    dictGetD route field default = dictGet route field := by
  obtain ⟨text, -, htext⟩ := h
  exact dictGetD_of_not_none (by rw [htext]; rfl)

theorem number_of_asInt {k : ℤ} (h : (dictGet route field).asInt? = some k) : number route field = k := by
  unfold number
  rw [h]
  rfl

theorem HasEstimate.estimateOf_eq (h : HasEstimate route) :
    (dictGetD route "packet_count_estimate" (.int 0)).asInt? = some (estimateOf route) := by
  obtain ⟨k, hk⟩ := h
  unfold estimateOf number
  rcases dictGet_of_dictGetD route "packet_count_estimate" (.int 0) with heq | ⟨hnull, hdefault⟩
  · rw [heq, hk]
    rfl
  · rw [hnull, hdefault]
    rfl

theorem AcceptedRoute.source_eq (h : AcceptedRoute n route) (default : Json) :
    (dictGetD route "source_tile" default).asInt? = some (sourceOf route) := by
  obtain ⟨s, hs, -⟩ := h.source
  rw [dictGetD_of_asInt hs, sourceOf, number_of_asInt hs]
  exact hs

theorem AcceptedRoute.bytes_eq (h : AcceptedRoute n route) :
    (dictGetD route "payload_bytes" (.int 0)).asInt? = some (bytesOf route) := by
  obtain ⟨k, hk, -⟩ := h.payload
  rw [dictGetD_of_asInt hk, bytesOf, number_of_asInt hk]
  exact hk

theorem AcceptedRoute.type_eq (h : AcceptedRoute n route) (default : Json) :
    dictGetD route "route_type" default = dictGet route "route_type" := dictGetD_of_oneOf h.type

/-- The destinations that the replay goes through. -/
theorem AcceptedRoute.dests_eq (h : AcceptedRoute n route) :
    ((dictGetD route "destination_tiles" (.arr [])).orElse (.arr [])).iter = .ok (destsOf route) := by
  rcases h.dests with hnone | hlist
  · have hempty : destsOf route = [] := by
      unfold destsOf
      cases hd : dictGet route "destination_tiles" with
      | null => rfl
      | _ =>
        rw [hd] at hnone
        cases hnone
    rw [hempty]
    unfold dictGet dictGetD at hnone
    unfold dictGetD
    cases hlookup : route.lookup "destination_tiles" with
    | none => rfl
    | some value =>
      rw [hlookup] at hnone
      cases value with
      | null => rfl
      | _ => cases hnone
  · rw [dictGetD_of_not_none (by rw [hlist]; rfl), hlist]
    cases destsOf route with
    | nil => rfl
    | cons d ds => rfl

/-- The destinations that the simulator goes through. -/
theorem HasDests.dests_eq (h : HasDests route) :
    dictGetD route "destination_tiles" (.arr []) = .arr (destsOf route) := by
  obtain ⟨ds, hds⟩ := h
  unfold destsOf
  rcases dictGet_of_dictGetD route "destination_tiles" (.arr []) with heq | ⟨hnull, hdefault⟩
  · rw [heq, hds]
    rfl
  · rw [hnull, hdefault]
    rfl

end Fields

/-! ### Tiles -/

section Tiles

variable {tile : Json} {s : ℤ}

theorem inTileRange_int (h : tile.asInt? = some s) : inTileRange n tile = .ok (decide (0 ≤ s ∧ s < n)) := by
  unfold inTileRange Json.ge
  rw [Json.lt_of_asInt h (show Json.asInt? (.int 0) = some 0 from rfl),
    Json.lt_of_asInt h (show Json.asInt? (.int n) = some (n : ℤ) from rfl)]
  by_cases h0 : s < 0
  · simp [h0, bind, Except.bind]
  · simp [h0, not_lt.mp h0, bind, Except.bind]

/-- A change of a counter by `f` adds `w` to what `obs` reads. -/
def AddsTo (f : TileReplayCounters → Py TileReplayCounters) (obs : TileReplayCounters → ℤ) (w : ℤ) : Prop :=
  ∀ c c', f c = .ok c' → obs c' = obs c + w

/-- A change at a tile that is an integer. -/
theorem changeTile_int {f : TileReplayCounters → Py TileReplayCounters} (h : tile.asInt? = some s)
    (hf : ∀ c, ∃ c', f c = .ok c') (ctrs : TileCtrs) :
    ∃ ctrs', changeTile n tile f ctrs = .ok ctrs' ∧ ∀ obs w, AddsTo f obs w →
      ∀ t < n, obs (ctrs' t) = obs (ctrs t) + if s = t then w else 0 := by
  by_cases hin : 0 ≤ s ∧ s < n
  · obtain ⟨t, rfl⟩ := Int.eq_ofNat_of_zero_le hin.1
    have ht : t < n := by exact_mod_cast hin.2
    obtain ⟨c', hc'⟩ := hf (ctrs t)
    refine ⟨_, changeTile_of_asInt h ht hc', fun obs w hadds u hu => ?_⟩
    rcases eq_or_ne u t with rfl | hne
    · rw [Function.update_self, if_pos rfl, hadds _ _ hc']
    · rw [Function.update_of_ne hne, if_neg (by exact_mod_cast hne.symm), add_zero]
  · refine ⟨ctrs, ?_, fun obs w _ t ht => ?_⟩
    · unfold changeTile
      rw [inTileRange_int h, decide_eq_false hin]
      rfl
    · rw [if_neg, add_zero]
      rintro rfl
      exact hin ⟨Int.natCast_nonneg t, by exact_mod_cast ht⟩

theorem changeTiles_int {f : TileReplayCounters → Py TileReplayCounters} {tiles : List Json}
    (h : ∀ tile ∈ tiles, IsTile n tile) (hf : ∀ c, ∃ c', f c = .ok c') (ctrs : TileCtrs) :
    ∃ ctrs', tiles.foldlM (fun ctrs dt => changeTile n dt f ctrs) ctrs = .ok ctrs' ∧ ∀ obs w, AddsTo f obs w →
      ∀ t < n, obs (ctrs' t) = obs (ctrs t) + ((tiles.map fun d => (d.asInt?).getD 0).count (t : ℤ) : ℤ) * w := by
  induction tiles generalizing ctrs with
  | nil => exact ⟨ctrs, rfl, fun obs w _ t _ => by simp⟩
  | cons tile tiles ih =>
    obtain ⟨s, hs, -⟩ := h tile List.mem_cons_self
    obtain ⟨ctrs', hfirst, hobs⟩ := changeTile_int hs hf ctrs
    obtain ⟨ctrs'', hrest, hobs'⟩ := ih (fun d hd => h d (List.mem_cons_of_mem _ hd)) ctrs'
    refine ⟨ctrs'', ?_, fun obs w hadds t ht => ?_⟩
    · rw [List.foldlM_cons, hfirst]
      exact hrest
    · rw [hobs' obs w hadds t ht, hobs obs w hadds t ht, List.map_cons, hs, Option.getD_some, List.count_cons]
      by_cases hst : s = t
      · rw [if_pos hst, if_pos (beq_iff_eq.mpr hst)]
        push_cast
        ring
      · rw [if_neg hst, if_neg fun heq => hst (beq_iff_eq.mp heq)]
        push_cast
        ring

end Tiles

/-! ### One route of the replay -/

/-- A reading of the counters that each route adds to, at its source and at its destinations, and nothing else. -/
structure Reading (obs : TileReplayCounters → ℤ) (ws wd : Fields → ℤ) : Prop where
  source : ∀ route, AddsTo (countSource (dictGet route "route_type") (packetsOf route) (bytesOf route)) obs (ws route)
  dest : ∀ route, AddsTo (countDest (dictGet route "route_type") (packetsOf route) (bytesOf route)) obs (wd route)
  failure : ∀ c, obs (countFailure c) = obs c
  completed : AddsTo countCompleted obs 0

theorem countSource_cases {rtype : Json} {e p : ℤ} {c c' : TileReplayCounters} (h : countSource rtype e p c = .ok c') :
    c'.packetsSent = c.packetsSent + e ∧ c'.payloadBytesSent = c.payloadBytesSent + p ∧
      c'.packetsReceived = c.packetsReceived ∧ c'.payloadBytesReceived = c.payloadBytesReceived ∧
      c'.tileId = c.tileId := by
  unfold countSource at h
  obtain ⟨isBarrier, -, h⟩ := bind_eq_ok.mp h
  by_cases hb : isBarrier = true
  · rw [if_pos hb] at h
    obtain rfl := Except.ok.inj h
    exact ⟨rfl, rfl, rfl, rfl, rfl⟩
  rw [if_neg hb] at h
  by_cases ht : rtype.eqStr "TRACE_EVENT" = true
  · rw [if_pos ht] at h
    obtain rfl := Except.ok.inj h
    exact ⟨rfl, rfl, rfl, rfl, rfl⟩
  rw [if_neg ht] at h
  obtain ⟨isReduction, -, h⟩ := bind_eq_ok.mp h
  obtain rfl := Except.ok.inj h
  split_ifs
  · exact ⟨rfl, rfl, rfl, rfl, rfl⟩
  · exact ⟨rfl, rfl, rfl, rfl, rfl⟩

theorem countDest_cases {rtype : Json} {e p : ℤ} {c c' : TileReplayCounters} (h : countDest rtype e p c = .ok c') :
    c' = { c with
      packetsReceived := c.packetsReceived + e, payloadBytesReceived := c.payloadBytesReceived + p } := by
  unfold countDest at h
  obtain ⟨-, -, h⟩ := bind_eq_ok.mp h
  exact (Except.ok.inj h).symm

theorem reading_tileId : Reading (fun c => (c.tileId : ℤ)) (fun _ => 0) fun _ => 0 where
  source _ _ _ h := by
    dsimp only
    rw [(countSource_cases h).2.2.2.2, add_zero]
  dest _ _ _ h := by rw [countDest_cases h, add_zero]
  failure _ := rfl
  completed _ _ h := by rw [← Except.ok.inj h, add_zero]

theorem reading_packetsSent : Reading TileReplayCounters.packetsSent packetsOf fun _ => 0 where
  source _ _ _ h := (countSource_cases h).1
  dest _ _ _ h := by rw [countDest_cases h, add_zero]
  failure _ := rfl
  completed _ _ h := by rw [← Except.ok.inj h, add_zero]

theorem reading_payloadBytesSent : Reading TileReplayCounters.payloadBytesSent bytesOf fun _ => 0 where
  source _ _ _ h := (countSource_cases h).2.1
  dest _ _ _ h := by rw [countDest_cases h, add_zero]
  failure _ := rfl
  completed _ _ h := by rw [← Except.ok.inj h, add_zero]

theorem reading_packetsReceived : Reading TileReplayCounters.packetsReceived (fun _ => 0) packetsOf where
  source _ _ _ h := by rw [(countSource_cases h).2.2.1, add_zero]
  dest _ _ _ h := by rw [countDest_cases h]
  failure _ := rfl
  completed _ _ h := by rw [← Except.ok.inj h, add_zero]

theorem reading_payloadBytesReceived : Reading TileReplayCounters.payloadBytesReceived (fun _ => 0) bytesOf where
  source _ _ _ h := by rw [(countSource_cases h).2.2.2.1, add_zero]
  dest _ _ _ h := by rw [countDest_cases h]
  failure _ := rfl
  completed _ _ h := by rw [← Except.ok.inj h, add_zero]

/-- What every reading of the counters gives after these routes. -/
def Reads (n : ℕ) (routes : List Fields) (ctrs : TileCtrs) : Prop :=
  ∀ obs ws wd, Reading obs ws wd → ∀ t < n,
    obs (ctrs t) =
      obs { tileId := t } + sentFrom sourceOf ws routes (t : ℤ) + receivedAt destTilesOf wd routes (t : ℤ)

/-- What the replay has done with these routes. -/
structure Flows (n : ℕ) (routes : List Fields) (state : ReplayState) : Prop where
  reads : Reads n routes state.tileCtrs
  groups : ∀ group ∈ state.reductionGroups, ∀ r ∈ group.2.2, AcceptedRoute n r

section OneRoute

variable (h : AcceptedRoute n route)

include h

theorem exists_inSet (texts : List String) : ∃ b, (dictGet route "route_type").inSet texts = .ok b := by
  obtain ⟨text, -, htext⟩ := h.type
  rw [htext, inSet_str]
  exact ⟨_, rfl⟩

theorem exists_countSource (e p : ℤ) (c : TileReplayCounters) :
    ∃ c', countSource (dictGet route "route_type") e p c = .ok c' := by
  obtain ⟨barrier, hbarrier⟩ := exists_inSet h barrierRouteTypes
  obtain ⟨reduction, hreduction⟩ := exists_inSet h reductionRouteTypes
  unfold countSource
  rw [hbarrier, hreduction]
  cases barrier with
  | true => exact ⟨_, rfl⟩
  | false =>
    by_cases htrace : (dictGet route "route_type").eqStr "TRACE_EVENT" = true
    · exact ⟨_, if_pos htrace⟩
    · exact ⟨_, if_neg htrace⟩

theorem exists_countDest (e p : ℤ) (c : TileReplayCounters) :
    ∃ c', countDest (dictGet route "route_type") e p c = .ok c' := by
  obtain ⟨barrier, hbarrier⟩ := exists_inSet h barrierRouteTypes
  unfold countDest
  rw [hbarrier]
  exact ⟨_, rfl⟩

theorem trackFailure_ok (ctrs : TileCtrs) : ∃ r, trackFailure n strict route ctrs = .ok r ∧
    ∀ t, r.1 t = ctrs t ∨ r.1 t = countFailure (ctrs t) := by
  unfold trackFailure
  simp only
  split_ifs
  all_goals
    first
    | exact ⟨_, rfl, fun t => Or.inl rfl⟩
    | unfold tileWithKey
      rw [Json.key_of_asInt (h.source_eq _)]
      refine ⟨_, rfl, fun t => ?_⟩
      cases (List.range n).find? fun t : ℕ => decide (Json.Key.num t = .num (sourceOf route : ℚ)) with
      | none => exact Or.inl rfl
      | some u =>
        rcases eq_or_ne t u with rfl | hne
        · exact Or.inr (Function.update_self ..)
        · exact Or.inl (Function.update_of_ne hne ..)

theorem trackReduction_ok {groups : Groups Fields} (hgroups : ∀ group ∈ groups, ∀ r ∈ group.2.2, AcceptedRoute n r) :
    ∃ groups', trackReduction (dictGet route "route_type") (dictGetD route "reduction_id" (.int 0)) route groups =
      .ok groups' ∧ ∀ group ∈ groups', ∀ r ∈ group.2.2, AcceptedRoute n r := by
  obtain ⟨reduction, hreduction⟩ := exists_inSet h reductionRouteTypes
  unfold trackReduction
  rw [hreduction]
  cases reduction with
  | false => exact ⟨groups, rfl, hgroups⟩
  | true =>
    obtain ⟨k, hk⟩ := h.reduction (oneOf_of_inSet hreduction)
    have hkey : (dictGetD route "reduction_id" (.int 0)).key = .ok (.num k) := by
      rw [dictGetD_of_asInt hk]
      exact Json.key_of_asInt hk
    refine ⟨_, by simp only [bind, Except.bind, hkey, if_true]; rfl, fun group hgroup r hr => ?_⟩
    rcases Groups.mem_appendAt hgroup with hold | ⟨xs, hxs, heq⟩ | rfl
    · exact hgroups group hold r hr
    · rw [heq] at hr
      rcases List.mem_append.mp hr with hr | hr
      · exact hgroups _ hxs r hr
      · exact List.mem_singleton.mp hr ▸ h
    · exact List.mem_singleton.mp hr ▸ h

/-- **One route** adds what it carries. -/
theorem replayRoute_flow (hest : HasEstimate route) {state : ReplayState} (hstate : Flows n routes state) :
    ∃ state', replayRoute parse n strict state (.obj route) = .ok state' ∧ Flows n (routes ++ [route]) state' := by
  obtain ⟨⟨ctrs₁, notes⟩, hfailure, hkeep⟩ := @trackFailure_ok _ strict _ h state.tileCtrs
  obtain ⟨ctrs₂, hsource, hobs₂⟩ :=
    changeTile_int (h.source_eq (.int (-1))) (exists_countSource h (packetsOf route) (bytesOf route)) ctrs₁
  obtain ⟨ctrs₃, hdests, hobs₃⟩ :=
    changeTiles_int h.dest (exists_countDest h (packetsOf route) (bytesOf route)) ctrs₂
  obtain ⟨groups, hgroups, hmembers⟩ := trackReduction_ok h hstate.groups
  refine ⟨⟨ctrs₃, groups, state.replayed ++ [route], state.notes ++ notes⟩, ?_, ?_, hmembers⟩
  · have hest' := hest.estimateOf_eq
    unfold packetsOf at hsource hdests
    unfold replayRoute
    simp only [bind_eq_ok]
    rw [← h.type_eq (.str "UNKNOWN")] at hsource hdests hgroups
    exact ⟨route, rfl, bytesOf route, Json.toInt_of_asInt parse h.bytes_eq, estimateOf route,
      Json.toInt_of_asInt parse hest', _, hfailure, ctrs₂, hsource, destsOf route, h.dests_eq, ctrs₃, hdests, groups,
      hgroups, rfl⟩
  · intro obs ws wd hread t ht
    have hfail : obs (ctrs₁ t) = obs (state.tileCtrs t) := by
      rcases hkeep t with heq | heq
      · exact congrArg obs heq
      · exact (congrArg obs heq).trans (hread.failure _)
    rw [hobs₃ obs _ (hread.dest route) t ht, hobs₂ obs _ (hread.source route) t ht, hfail,
      hstate.reads obs ws wd hread t ht, sentFrom_concat, receivedAt_concat]
    unfold destTilesOf
    ring

end OneRoute

/-! ### The replay -/

theorem flows_start (n : ℕ) : Flows n [] { tileCtrs := fun tid => { tileId := tid } } :=
  ⟨fun _ _ _ _ _ _ => by simp, by simp⟩

theorem replayLoop_flow (hroutes : ∀ r ∈ routes, AcceptedRoute n r) (hest : ∀ r ∈ routes, HasEstimate r) :
    ∃ state, (routes.map Json.obj).foldlM (replayRoute parse n strict) { tileCtrs := fun tid => { tileId := tid } } =
      .ok state ∧ Flows n routes state := by
  induction routes using List.reverseRecOn with
  | nil => exact ⟨_, rfl, flows_start n⟩
  | append_singleton routes r ih =>
    obtain ⟨state, hloop, hstate⟩ := ih (fun r' hr' => hroutes r' (List.mem_append_left _ hr'))
      fun r' hr' => hest r' (List.mem_append_left _ hr')
    obtain ⟨state', hstep, hstate'⟩ := replayRoute_flow (hroutes r (by simp)) (hest r (by simp)) hstate
    refine ⟨state', ?_, hstate'⟩
    rw [List.map_append, List.foldlM_append, hloop]
    show (replayRoute parse n strict state (.obj r) >>= _) = _
    rw [hstep]
    rfl

theorem hasExplicit_ok {group : List Fields} (h : ∀ r ∈ group, AcceptedRoute n r) :
    ∃ b, hasExplicit group = .ok b := by
  induction group with
  | nil => exact ⟨false, rfl⟩
  | cons r group ih =>
    obtain ⟨text, -, htext⟩ := (h r List.mem_cons_self).behavior
    obtain ⟨b, hb⟩ := ih fun r' hr' => h r' (List.mem_cons_of_mem _ hr')
    unfold hasExplicit
    rw [htext, inSet_str]
    show ∃ b, (if decide (text ∈ explicitReductionBehaviors) = true then _ else _) = _
    split_ifs
    · exact ⟨true, rfl⟩
    · exact ⟨b, hb⟩

theorem completedGroups_ok {groups : Groups Fields} (h : ∀ g ∈ groups, ∀ r ∈ g.2.2, AcceptedRoute n r) :
    ∃ completed, completedGroups groups = .ok completed ∧ ∀ g ∈ completed, ∀ r ∈ g.2.2, AcceptedRoute n r := by
  induction groups with
  | nil => exact ⟨[], rfl, by simp⟩
  | cons group groups ih =>
    obtain ⟨b, hb⟩ := hasExplicit_ok (h group List.mem_cons_self)
    obtain ⟨rest, hrest, hmembers⟩ := ih fun g hg => h g (List.mem_cons_of_mem _ hg)
    unfold completedGroups
    rw [hb, hrest]
    refine ⟨_, rfl, ?_⟩
    cases b with
    | true => exact List.forall_mem_cons.mpr ⟨h group List.mem_cons_self, hmembers⟩
    | false => exact hmembers

/-- Counting completed reductions leaves the traffic alone. -/
theorem completeGroup_ok {group : List Fields} (h : ∀ r ∈ group, AcceptedRoute n r) {ctrs : TileCtrs}
    (hreads : Reads n routes ctrs) : ∃ ctrs', completeGroup n group ctrs = .ok ctrs' ∧ Reads n routes ctrs' := by
  induction group generalizing ctrs with
  | nil => exact ⟨ctrs, rfl, hreads⟩
  | cons r group ih =>
    obtain ⟨ctrs₁, hfirst, hobs⟩ := changeTile_int ((h r List.mem_cons_self).source_eq (.int (-1)))
      (fun c => ⟨_, (rfl : countCompleted c = .ok _)⟩) ctrs
    obtain ⟨ctrs', hrest, hreads'⟩ := @ih (fun r' hr' => h r' (List.mem_cons_of_mem _ hr')) ctrs₁
      fun obs ws wd hread t ht => by
        rw [hobs obs 0 hread.completed t ht, ite_self, add_zero]
        exact hreads obs ws wd hread t ht
    refine ⟨ctrs', ?_, hreads'⟩
    unfold completeGroup at hrest ⊢
    rw [List.foldlM_cons, hfirst]
    exact hrest

theorem completeGroups_ok {groups : Groups Fields} (h : ∀ g ∈ groups, ∀ r ∈ g.2.2, AcceptedRoute n r)
    {ctrs : TileCtrs} (hreads : Reads n routes ctrs) :
    ∃ ctrs', groups.foldlM (fun ctrs group => completeGroup n group.2.2 ctrs) ctrs = .ok ctrs' ∧
      Reads n routes ctrs' := by
  induction groups generalizing ctrs with
  | nil => exact ⟨ctrs, rfl, hreads⟩
  | cons group groups ih =>
    obtain ⟨ctrs₁, hfirst, hreads₁⟩ := completeGroup_ok (h group List.mem_cons_self) hreads
    obtain ⟨ctrs', hrest, hreads'⟩ := ih (fun g hg => h g (List.mem_cons_of_mem _ hg)) hreads₁
    refine ⟨ctrs', ?_, hreads'⟩
    rw [List.foldlM_cons, hfirst]
    exact hrest

/-! ### Order -/

theorem routeKey_of_accepted (h : AcceptedRoute n route) : routeKey parse (.obj route) = .ok (routeId route) := by
  have hid := h.routeId_eq
  show (dictGetD route "route_id" (.int 0)).toInt parse = _
  rw [dictGetD_of_asInt hid]
  exact Json.toInt_of_asInt parse hid

theorem routeKeys_of_accepted (h : ∀ r ∈ routes, AcceptedRoute n r) :
    (routes.map Json.obj).mapM (routeKey parse) = .ok (routes.map routeId) := by
  rw [mapM_eq_ok, List.forall₂_map_left_iff, List.forall₂_map_right_iff, List.forall₂_same]
  exact fun r hr => routeKey_of_accepted (h r hr)

theorem lt_int_keys (p q : ℤ × Json) : Json.lt (.int p.1) (.int q.1) = .ok (decide (p.1 < q.1)) :=
  Json.lt_of_asInt rfl rfl

/-- A permutation of the images is the image of a permutation. -/
theorem exists_perm_map {α β : Type} {f : α → β} {xs : List α} {ys : List β} (h : ys.Perm (xs.map f)) :
    ∃ zs : List α, zs.Perm xs ∧ zs.map f = ys := by
  have hall : List.Forall₂ (fun y x => y = f x) (xs.map f) xs := by
    rw [List.forall₂_map_left_iff, List.forall₂_same]
    exact fun _ _ => rfl
  obtain ⟨zs, hzs, hperm⟩ := List.perm_comp_forall₂ h hall
  refine ⟨zs, hperm, ?_⟩
  rw [← List.forall₂_eq_eq_eq, List.forall₂_map_left_iff]
  exact (List.Forall₂.flip hzs).imp fun _ _ heq => heq.symm

/-- The pairs that the replay sorts. -/
def keyedRoute (route : Fields) : ℤ × Json := (routeId route, .obj route)

theorem sortRoutes_eq (h : ∀ r ∈ routes, AcceptedRoute n r) {pairs : List (ℤ × Json)}
    (hpairs : sortedBy (fun pair : ℤ × Json => .int pair.1) (routes.map keyedRoute) = .ok pairs) :
    sortRoutes parse (.arr (routes.map .obj)) = .ok (pairs.map Prod.snd) := by
  have hzip : (routes.map routeId).zip (routes.map Json.obj) = routes.map keyedRoute := List.zip_map' ..
  have hattempt : (do
      let routes ← Except.ok (routes.map Json.obj)
      let keys ← routes.mapM (routeKey parse)
      let pairs ← sortedBy (fun pair : ℤ × Json => .int pair.1) (keys.zip routes)
      Except.ok (pairs.map Prod.snd) : Py (List Json)) = .ok (pairs.map Prod.snd) :=
    bind_eq_ok.mpr ⟨_, rfl, bind_eq_ok.mpr ⟨_, routeKeys_of_accepted h,
      bind_eq_ok.mpr ⟨pairs, hzip ▸ hpairs, rfl⟩⟩⟩
  unfold sortRoutes
  simp only [Json.iter]
  rw [hattempt]

/-- The routes in the order of their ids. -/
theorem sortRoutes_accepted (h : ∀ r ∈ routes, AcceptedRoute n r) :
    ∃ sorted : List Fields, sorted.Perm routes ∧ sortRoutes parse (.arr (routes.map .obj)) = .ok (sorted.map .obj) := by
  obtain ⟨pairs, hpairs, hperm, -⟩ := @sortedBy_of_order _ (fun pair : ℤ × Json => .int pair.1) _ _ Prod.fst
    (routes.map keyedRoute) fun p _ q _ => lt_int_keys p q
  obtain ⟨sorted, hsorted, rfl⟩ := exists_perm_map hperm
  refine ⟨sorted, hsorted, ?_⟩
  rw [sortRoutes_eq h hpairs, List.map_map]
  rfl

theorem sortRoutes_perm {routes' : List Fields} (h : ∀ r ∈ routes, AcceptedRoute n r)
    (hids : (routes.map routeId).Nodup) (hperm : routes'.Perm routes) :
    sortRoutes parse (.arr (routes'.map .obj)) = sortRoutes parse (.arr (routes.map .obj)) := by
  have hsame : sortedBy (fun pair : ℤ × Json => .int pair.1) (routes'.map keyedRoute) =
      sortedBy (fun pair : ℤ × Json => .int pair.1) (routes.map keyedRoute) := by
    refine @sortedBy_eq_of_perm _ _ _ _ Prod.fst _ _ (hperm.map keyedRoute) (fun p _ q _ => lt_int_keys p q) ?_
    intro p hp q hq heq
    obtain ⟨r, hr, rfl⟩ := List.mem_map.mp hp
    obtain ⟨r', hr', rfl⟩ := List.mem_map.mp hq
    rw [List.inj_on_of_nodup_map hids (hperm.mem_iff.mp hr) (hperm.mem_iff.mp hr') heq]
  obtain ⟨pairs, hpairs, -⟩ := @sortedBy_of_order _ (fun pair : ℤ × Json => .int pair.1) _ _ Prod.fst
    (routes.map keyedRoute) fun p _ q _ => lt_int_keys p q
  rw [sortRoutes_eq h hpairs, sortRoutes_eq (fun r hr => h r (hperm.mem_iff.mp hr)) (hsame.trans hpairs)]

theorem dictGetD_routes {report : Fields} {items : List Json} (h : dictGet report "routes" = .arr items) :
    dictGetD report "routes" (.arr []) = .arr items := by
  rw [dictGetD_of_not_none (by rw [h]; rfl), h]

/-- **The replay** counts what the routes carry. -/
theorem replayRoutes_flow {report : Fields} (h : AcceptedRoutes report n routes)
    (hest : ∀ r ∈ routes, HasEstimate r) :
    ∃ replayed, replayRoutes parse report n strict = .ok replayed ∧
      ∃ ctrs, replayed.tileCounters = (List.range n).map ctrs ∧ Reads n routes ctrs := by
  obtain ⟨sorted, hperm, hsort⟩ := @sortRoutes_accepted _ parse _ h.route
  obtain ⟨state, hloop, hstate⟩ := @replayLoop_flow n parse strict sorted (fun r hr => h.route r (hperm.mem_iff.mp hr))
    fun r hr => hest r (hperm.mem_iff.mp hr)
  obtain ⟨completed, hcompleted, hmembers⟩ := completedGroups_ok hstate.groups
  obtain ⟨ctrs, hctrs, hreads⟩ := completeGroups_ok hmembers hstate.reads
  refine ⟨⟨state.replayed, (List.range n).map ctrs, state.reductionGroups, state.notes⟩, ?_, ctrs, rfl,
    fun obs ws wd hread t ht => ?_⟩
  · unfold replayRoutes
    rw [dictGetD_routes h.list]
    exact bind_eq_ok.mpr ⟨_, hsort, bind_eq_ok.mpr ⟨_, hloop, bind_eq_ok.mpr ⟨_, hcompleted,
      bind_eq_ok.mpr ⟨_, hctrs, rfl⟩⟩⟩⟩
  · rw [hreads obs ws wd hread t ht, sentFrom_perm hperm, receivedAt_perm hperm]

/-- **The order of the routes** in a report does not matter. -/
theorem replayRoutes_perm {report report' : Fields} {routes' : List Fields} (h : AcceptedRoutes report n routes)
    (hlist : dictGet report' "routes" = .arr (routes'.map .obj)) (hperm : routes'.Perm routes) :
    replayRoutes parse report' n strict = replayRoutes parse report n strict := by
  unfold replayRoutes
  rw [dictGetD_routes hlist, dictGetD_routes h.list, sortRoutes_perm h.route h.ids hperm]

end Att1.Routes
