import Att1.Lib.Returns
import Att1.Routes.Accepted

/-!
# Att1.Routes.Returns — the route reports that the validator decides

* `ReportScalars`: the fields that the validator looks up in sets, the list of routes that it takes the length of, and
  the bandwidths that it converts to floats.
* `validateReport_returns`: nothing else can raise.
-/

open Att1.Lib

namespace Att1.Routes

variable {strict : Bool} {report route tile : Fields} {ctx : FString} {n : ℕ} {rtype src : Json}

/-! ### What the validator relies on -/

/-- The fields of a route that are looked up. -/
def RouteScalars (route : Fields) : Prop :=
  Scalars ["route_type", "reduction_behavior", "ordering_policy", "route_status"] route

/-- The header is absent, or an object whose status is looked up. -/
def HeaderScalars (report : Fields) : Prop :=
  (dictGet report "header").isNone = true ∨
    ∃ header, dictGet report "header" = .obj header ∧ Scalars ["status"] header

/-- A value with a length. -/
def IsSized : Json → Bool
  | .str _ => true
  | .arr _ => true
  | .obj _ => true
  | _ => false

/-- An integer bandwidth can be converted to a float. -/
def BandwidthFits (tile : Fields) : Prop :=
  ∀ k, dictGet tile "estimated_bandwidth_gib_sec" = .int k → fitsFloat k = true

/-- What the validator relies on in a report. -/
structure ReportScalars (report : Fields) : Prop where
  header : HeaderScalars report
  routes : ∀ route ∈ objectsOf (dictGet report "routes"), RouteScalars route
  sized : (dictGet report "routes").truthy = true → IsSized (dictGet report "routes") = true
  tiles : ∀ tile ∈ objectsOf (dictGet report "tiles"), BandwidthFits tile

/-! ### Header -/

@[simp] theorem returns_unknownIn {value : Json} {texts : List String} :
    Returns (unknownIn value texts) ↔ value.isContainer = false := by
  unfold unknownIn
  rw [returns_bind_ok, returns_inSet]

theorem checkStatus_returns {header : Fields} :
    Returns (checkStatus strict header) ↔ (dictGet header "status").isContainer = false := by
  unfold checkStatus
  simp only [bind_of_ok]
  exact returns_lookup_ok returns_unknownIn

theorem validateHeader_returns : Returns (validateHeader strict report) ↔ HeaderScalars report := by
  unfold validateHeader HeaderScalars
  cases hheader : dictGet report "header" with
  | null => exact iff_of_true (returns_ok _) (Or.inl rfl)
  | obj header =>
    show Returns (checkStatus strict header >>= _) ↔ _
    rw [returns_bind_ok, checkStatus_returns]
    simp [Json.isNone]
  | _ => exact iff_of_false (not_returns_error _) (by simp [Json.isNone])

/-! ### Route records -/

section Checks

variable (htype : rtype.isContainer = false)

include htype

theorem checkDestinationTiles_returns : Returns (checkDestinationTiles ctx n rtype src route) := by
  unfold checkDestinationTiles
  have hunknown : ∀ texts, Returns (unknownIn rtype texts) := fun _ => returns_unknownIn.mpr htype
  cases dictGet route "destination_tiles" with
  | null => exact returns_bind_ok.mpr (hunknown _)
  | arr dests =>
    cases dests with
    | nil => exact returns_bind_ok.mpr (hunknown _)
    | cons d ds => exact returns_bind_ok.mpr (hunknown _)
  | _ => exact returns_ok _

theorem checkPayloadBytes_returns : Returns (checkPayloadBytes ctx rtype route) := by
  unfold checkPayloadBytes
  simp [returns_ite, htype]

theorem checkPacketCount_returns : Returns (checkPacketCount ctx rtype route) := by
  unfold checkPacketCount
  simp [returns_ite, htype]

theorem checkReductionId_returns : Returns (checkReductionId ctx rtype route) := by
  unfold checkReductionId
  simp [htype]

theorem checkReductionBehavior_returns :
    Returns (checkReductionBehavior ctx rtype route) ↔ (dictGet route "reduction_behavior").isContainer = false := by
  unfold checkReductionBehavior
  rw [returns_lookup returns_unknownIn (fun _ => iff_true_intro (returns_ok _)) fun unknown hunknown => ?_, and_true]
  have hrb : (dictGet route "reduction_behavior").isContainer = false := returns_unknownIn.mp ⟨unknown, hunknown⟩
  refine iff_true_intro (returns_ite_left.mpr fun _ => ?_)
  rw [returns_bind_iff fun _ _ => returns_bind_ok, returns_inSet, returns_unknownIn]
  exact ⟨htype, hrb⟩

theorem checkOrderingPolicy_returns :
    Returns (checkOrderingPolicy ctx rtype route) ↔ (dictGet route "ordering_policy").isContainer = false := by
  unfold checkOrderingPolicy
  rw [returns_lookup returns_unknownIn (fun _ => iff_true_intro (returns_ok _)) fun _ _ => ?_, and_true]
  exact iff_true_intro (returns_ite_left.mpr fun _ => returns_bind_ok.mpr (returns_inSet.mpr htype))

end Checks

theorem checkRouteType_returns :
    Returns (checkRouteType ctx route) ↔ (dictGet route "route_type").isContainer = false := by
  unfold checkRouteType
  exact returns_lookup_ok returns_unknownIn

/-- The type that the other checks go by can be looked up. -/
theorem isContainer_of_checkRouteType {r : Json × List Diag} (h : checkRouteType ctx route = .ok r) :
    r.1.isContainer = false := by
  have hscalar := checkRouteType_returns.mp ⟨r, h⟩
  unfold checkRouteType at h
  by_cases hnone : (dictGet route "route_type").isNone = true
  · rw [if_pos hnone] at h
    rw [← Except.ok.inj h]
    rfl
  · rw [if_neg hnone] at h
    obtain ⟨unknown, -, h⟩ := bind_eq_ok.mp h
    rw [← Except.ok.inj h]
    exact hscalar

theorem checkRouteStatus_returns :
    Returns (checkRouteStatus ctx route) ↔ (dictGet route "route_status").isContainer = false := by
  unfold checkRouteStatus
  exact returns_lookup_ok returns_unknownIn

theorem checkRoute_returns {seen : List ℤ} : Returns (checkRoute ctx n seen route) ↔ RouteScalars route := by
  unfold checkRoute RouteScalars
  rw [scalars_cons, ← @checkRouteType_returns route ctx]
  refine returns_bind_iff fun r hr => ?_
  have htype := isContainer_of_checkRouteType hr
  rw [returns_bind_iff fun _ _ => returns_bind_iff fun _ _ => returns_bind_iff fun _ _ => returns_bind_iff fun _ _ =>
    returns_bind_iff fun _ _ => returns_bind_iff fun _ _ => returns_bind_ok,
    checkReductionBehavior_returns htype, checkOrderingPolicy_returns htype, checkRouteStatus_returns,
    and_iff_right (checkDestinationTiles_returns htype), and_iff_right (checkPayloadBytes_returns htype),
    and_iff_right (checkPacketCount_returns htype), and_iff_right (checkReductionId_returns htype)]
  simp

theorem checkRoutes_returns {items : List Json} {seen : List ℤ} {idx : ℕ} :
    Returns (checkRoutes n seen idx items) ↔ ∀ route ∈ objectsOf (.arr items), RouteScalars route := by
  induction items generalizing seen idx with
  | nil => exact iff_of_true (returns_ok _) (by simp)
  | cons item items ih =>
    cases item with
    | obj route =>
      unfold checkRoutes
      rw [returns_bind_iff fun _ _ => returns_bind_ok.trans ih, checkRoute_returns, objectsOf_arr_obj,
        List.forall_mem_cons]
    | _ =>
      unfold checkRoutes
      exact returns_bind_ok.trans ih

theorem validateRoutes_returns :
    Returns (validateRoutes report n) ↔ ∀ route ∈ objectsOf (dictGet report "routes"), RouteScalars route := by
  unfold validateRoutes
  cases dictGet report "routes" with
  | arr routes => exact checkRoutes_returns
  | _ => exact iff_of_true (returns_ok _) (by simp [objectsOf, Json.asList?])

/-! ### Tile records -/

theorem checkBandwidth_returns : Returns (checkBandwidth ctx tile) ↔ BandwidthFits tile := by
  unfold checkBandwidth BandwidthFits
  cases dictGet tile "estimated_bandwidth_gib_sec" with
  | int k => simp [Json.isNone, Json.number?, Json.isFinite, returns_ite]
  | bool b => exact iff_of_true (returns_bind_ok.mpr (returns_ok _)) (by simp)
  | float q => exact iff_of_true (returns_bind_ok.mpr (returns_ok _)) (by simp)
  | _ => exact iff_of_true (returns_ok _) (by simp)

theorem checkTiles_returns {items : List Json} {seen : List ℤ} {idx : ℕ} :
    Returns (checkTiles n seen idx items) ↔ ∀ tile ∈ objectsOf (.arr items), BandwidthFits tile := by
  induction items generalizing seen idx with
  | nil => exact iff_of_true (returns_ok _) (by simp)
  | cons item items ih =>
    cases item with
    | obj tile =>
      unfold checkTiles
      simp only
      rw [returns_bind_iff fun _ _ => returns_bind_ok.trans ih, checkBandwidth_returns, objectsOf_arr_obj,
        List.forall_mem_cons]
    | _ =>
      unfold checkTiles
      exact returns_bind_ok.trans ih

theorem validateTiles_returns :
    Returns (validateTiles report n) ↔ ∀ tile ∈ objectsOf (dictGet report "tiles"), BandwidthFits tile := by
  unfold validateTiles
  cases dictGet report "tiles" with
  | arr tiles => exact checkTiles_returns
  | _ => exact iff_of_true (returns_ok _) (by simp [objectsOf, Json.asList?])

/-! ### Consistency -/

/-- Sums that are integers. -/
def IntSums (sums : Sums) : Prop := ∀ key, ∃ k, sums key = .int k

theorem IntSums.addAt {sums : Sums} {value : Json} {k : ℤ} (h : IntSums sums) (hvalue : value.asInt? = some k)
    (tile : Json) : ∃ sums', addAt sums tile value = .ok sums' ∧ IntSums sums' := by
  unfold Routes.addAt
  cases tile.asInt? with
  | none => exact ⟨sums, rfl, h⟩
  | some t =>
    by_cases ht : 0 ≤ t
    · obtain ⟨m, hm⟩ := h (.num t)
      simp only
      rw [if_pos ht, hm, Json.add_of_asInt m hvalue]
      refine ⟨_, rfl, fun key => ?_⟩
      rcases eq_or_ne key (.num t) with rfl | hne
      · exact ⟨m + k, Function.update_self ..⟩
      · rw [Function.update_of_ne hne]
        exact h key
    · exact ⟨sums, if_neg ht, h⟩

/-- The list that the loop over the destinations goes through. -/
theorem AcceptedRoute.destList (h : AcceptedRoute n route) :
    (dictGet route "destination_tiles").orElse (.arr []) = .arr (destsOf route) := by
  rcases h.dests with hnone | hlist
  · unfold destsOf
    cases hdests : dictGet route "destination_tiles" with
    | null => rfl
    | _ =>
      rw [hdests] at hnone
      cases hnone
  · rw [hlist]
    cases destsOf route with
    | nil => rfl
    | cons d ds => rfl

theorem packetSums_returns {routes : List Fields} (h : ∀ route ∈ routes, AcceptedRoute n route) :
    Returns (packetSums routes) := by
  have hzero : IntSums fun _ => .int 0 := fun _ => ⟨0, rfl⟩
  refine (returns_foldlM_of_invariant (I := fun sums : Sums × Sums => IntSums sums.1 ∧ IntSums sums.2)
    (fun sums hsums route hroute => ?_) ⟨hzero, hzero⟩).imp fun _ h => h.1
  have hvalue := value_of_numeric (h route hroute).packets
  obtain ⟨outbound, hout, houtSums⟩ := hsums.1.addAt hvalue (dictGet route "source_tile")
  obtain ⟨inbound, hin, hinSums⟩ : ∃ inbound, (destsOf route).foldlM (fun inbound d => addAt inbound d
      ((dictGetD route "packet_count_estimate" (.int 0)).orElse (.int 0))) sums.2 = .ok inbound ∧ IntSums inbound :=
    returns_foldlM_of_invariant (fun _ hsums d _ => hsums.addAt hvalue d) hsums.2
  refine ⟨(outbound, inbound), ?_, houtSums, hinSums⟩
  simp only [(h route hroute).destList, Json.iter, hout, hin, bind_of_ok]

/-- The routes without a diagnostic, whatever else is recorded. -/
theorem acceptedRoute_of_checkRoutes {items : List Json} {seen : List ℤ} {idx : ℕ} {valid : List Fields}
    {diags : List Diag} (h : checkRoutes n seen idx items = .ok (valid, diags)) :
    ∀ route ∈ valid, AcceptedRoute n route := by
  induction items generalizing seen idx valid diags with
  | nil =>
    cases h
    simp
  | cons item items ih =>
    cases item with
    | obj route =>
      unfold checkRoutes at h
      obtain ⟨⟨seen', first⟩, hfirst, h⟩ := bind_eq_ok.mp h
      obtain ⟨⟨valid', rest⟩, hrest, h⟩ := bind_eq_ok.mp h
      obtain ⟨rfl, -⟩ := Prod.mk.inj (Except.ok.inj h)
      cases first with
      | nil => exact List.forall_mem_cons.mpr ⟨(acceptedRoute_of_checkRoute hfirst).1, ih hrest⟩
      | cons d ds => exact ih hrest
    | _ =>
      unfold checkRoutes at h
      obtain ⟨⟨valid', rest⟩, hrest, h⟩ := bind_eq_ok.mp h
      obtain ⟨rfl, -⟩ := Prod.mk.inj (Except.ok.inj h)
      exact ih hrest

theorem acceptedRoute_of_validateRoutes {valid : List Fields} {diags : List Diag}
    (h : validateRoutes report n = .ok (valid, diags)) : ∀ route ∈ valid, AcceptedRoute n route := by
  unfold validateRoutes at h
  cases hroutes : dictGet report "routes" with
  | arr items =>
    rw [hroutes] at h
    exact acceptedRoute_of_checkRoutes h
  | _ =>
    rw [hroutes] at h
    obtain ⟨rfl, -⟩ := Prod.mk.inj (Except.ok.inj h)
    simp

theorem lengthOf_returns {value : Json} :
    Returns (lengthOf value) ↔ (value.truthy = true → IsSized value = true) := by
  unfold lengthOf Json.orElse
  by_cases htruthy : value.truthy = true
  · rw [if_pos htruthy]
    cases value <;> simp [htruthy, IsSized]
  · rw [if_neg htruthy]
    simp [htruthy]

theorem validateConsistency_returns {routes tiles : List Fields} (hheader : HeaderScalars report)
    (hroutes : ∀ route ∈ routes, AcceptedRoute n route) :
    Returns (validateConsistency report routes tiles) ↔
      ((dictGet report "routes").truthy = true → IsSized (dictGet report "routes") = true) := by
  have hobj : Returns ((dictGet report "header").orElse (.obj [])).asObj := by
    rcases hheader with hnone | ⟨header, hheader, -⟩
    · cases hvalue : dictGet report "header" with
      | null => exact returns_ok _
      | _ =>
        rw [hvalue] at hnone
        cases hnone
    · rw [hheader]
      cases header with
      | nil => exact returns_ok _
      | cons field fields => exact returns_ok _
  unfold validateConsistency
  rw [returns_bind_iff fun _ _ => returns_bind_iff fun _ _ => returns_bind_ok, and_iff_right hobj,
    and_iff_left (packetSums_returns hroutes), lengthOf_returns]

/-! ### The validator -/

/-- **The validator returns** exactly where the report has what it relies on. -/
theorem validateReport_returns : Returns (validateReport strict report) ↔ ReportScalars report := by
  unfold validateReport
  constructor
  · intro h
    obtain ⟨⟨tileCount, header⟩, hheader, h⟩ := returns_bind.mp h
    obtain ⟨⟨validRoutes, routes⟩, hroutes, h⟩ := returns_bind.mp h
    obtain ⟨⟨validTiles, tiles⟩, htiles, h⟩ := returns_bind.mp h
    have hscalars := validateHeader_returns.mp ⟨_, hheader⟩
    exact ⟨hscalars, validateRoutes_returns.mp ⟨_, hroutes⟩,
      (validateConsistency_returns hscalars (acceptedRoute_of_validateRoutes hroutes)).mp (returns_bind_ok.mp h),
      validateTiles_returns.mp ⟨_, htiles⟩⟩
  · intro h
    obtain ⟨⟨tileCount, header⟩, hheader⟩ := (@validateHeader_returns strict _).mpr h.header
    obtain ⟨⟨validRoutes, routes⟩, hroutes⟩ := (@validateRoutes_returns _ tileCount).mpr h.routes
    obtain ⟨⟨validTiles, tiles⟩, htiles⟩ := (@validateTiles_returns _ tileCount).mpr h.tiles
    refine returns_bind.mpr ⟨_, hheader, returns_bind.mpr ⟨_, hroutes, returns_bind.mpr ⟨_, htiles, ?_⟩⟩⟩
    rw [returns_bind_ok]
    exact (validateConsistency_returns h.header (acceptedRoute_of_validateRoutes hroutes)).mpr h.sized

end Att1.Routes
