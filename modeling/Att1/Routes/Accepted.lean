import Att1.Routes.Traffic

/-!
# Att1.Routes.Accepted — what the validator guarantees of a route

`validate_routes` records nothing but errors (`validateRoutes_onlyErrors`), so the routes of an accepted report are
records without a diagnostic: `AcceptedRoute` lists what the tools behind the validator rely on.
-/

open Att1.Lib

namespace Att1.Routes

variable {n : ℕ} {strict : Bool} {ctx : FString} {rtype src : Json} {route : Fields} {diags : List Diag}

/-! ### Errors -/

/-- No warning among the diagnostics. -/
def OnlyErrors (diags : List Diag) : Prop := ∀ d ∈ diags, d.severity = .error

@[simp] theorem onlyErrors_nil : OnlyErrors [] := by simp [OnlyErrors]

@[simp] theorem onlyErrors_diagError (rule : String) (message : FString) : OnlyErrors [diagError rule message] := by
  simp [OnlyErrors, diagError]

@[simp] theorem onlyErrors_append {xs ys : List Diag} : OnlyErrors (xs ++ ys) ↔ OnlyErrors xs ∧ OnlyErrors ys := by
  simp [OnlyErrors, or_imp, forall_and]

theorem onlyErrors_cons {d : Diag} {ds : List Diag} : OnlyErrors (d :: ds) ↔ d.severity = .error ∧ OnlyErrors ds := by
  simp [OnlyErrors]

@[simp] theorem onlyErrors_ite {p : Prop} [Decidable p] {xs ys : List Diag} (hx : OnlyErrors xs) (hy : OnlyErrors ys) :
    OnlyErrors (if p then xs else ys) := by
  split_ifs
  · exact hx
  · exact hy

theorem onlyErrors_flatMap {α : Type} {xs : List α} {f : α → List Diag} (h : ∀ x ∈ xs, OnlyErrors (f x)) :
    OnlyErrors (xs.flatMap f) := by
  intro d hd
  obtain ⟨x, hx, hmem⟩ := List.mem_flatMap.mp hd
  exact h x hx d hmem

/-- Without warnings the strict mode changes nothing. -/
theorem OnlyErrors.errorsOf (h : OnlyErrors diags) : errorsOf strict diags = diags := by
  unfold Routes.errorsOf
  cases strict with
  | true => rfl
  | false => exact List.filter_eq_self.mpr fun d hd => by simp [h d hd]

/-- A step that returns only errors, if it returns. -/
def ReturnsErrors (x : Py (List Diag)) : Prop := ∀ diags, x = .ok diags → OnlyErrors diags

theorem returnsErrors_ok (h : OnlyErrors diags) : ReturnsErrors (.ok diags) := by
  rintro _ ⟨⟩
  exact h

theorem returnsErrors_bind {α : Type} {x : Py α} {k : α → Py (List Diag)} (h : ∀ a, ReturnsErrors (k a)) :
    ReturnsErrors (x >>= k) := by
  intro diags hd
  obtain ⟨a, -, hk⟩ := bind_eq_ok.mp hd
  exact h a diags hk

theorem returnsErrors_ite {p : Prop} [Decidable p] {x y : Py (List Diag)} (hx : ReturnsErrors x)
    (hy : ReturnsErrors y) : ReturnsErrors (if p then x else y) := by
  split_ifs
  · exact hx
  · exact hy

theorem checkRouteId_onlyErrors (ctx : FString) (seen : List ℤ) (route : Fields) :
    OnlyErrors (checkRouteId ctx seen route).2 := by
  unfold checkRouteId
  simp only
  split_ifs
  · exact onlyErrors_diagError _ _
  · cases (dictGet route "route_id").asInt? with
    | none => exact onlyErrors_diagError _ _
    | some k =>
      simp only
      split_ifs
      · exact onlyErrors_diagError _ _
      · exact onlyErrors_nil

theorem checkRouteType_onlyErrors {r : Json × List Diag} (h : checkRouteType ctx route = .ok r) : OnlyErrors r.2 := by
  unfold checkRouteType at h
  simp only at h
  split_ifs at h
  · obtain rfl := Except.ok.inj h
    exact onlyErrors_diagError _ _
  · obtain ⟨unknown, -, h⟩ := bind_eq_ok.mp h
    obtain rfl := Except.ok.inj h
    exact onlyErrors_ite (onlyErrors_diagError _ _) onlyErrors_nil

theorem checkSourceTile_onlyErrors : OnlyErrors (checkSourceTile ctx n route).2 := by
  unfold checkSourceTile
  simp only
  split_ifs
  · exact onlyErrors_diagError _ _
  · exact onlyErrors_diagError _ _
  · exact onlyErrors_nil

theorem checkDests_returnsErrors (dests : List Json) : ReturnsErrors (checkDests ctx n rtype src dests) := by
  unfold checkDests
  refine returnsErrors_bind fun banned => returnsErrors_ok ?_
  refine onlyErrors_append.mpr ⟨?_, onlyErrors_ite (onlyErrors_flatMap fun d _ => ?_) onlyErrors_nil⟩
  · exact onlyErrors_flatMap fun dest _ => onlyErrors_ite (onlyErrors_diagError _ _) onlyErrors_nil
  · exact onlyErrors_ite (onlyErrors_diagError _ _) onlyErrors_nil

theorem checkDestinationTiles_returnsErrors : ReturnsErrors (checkDestinationTiles ctx n rtype src route) := by
  unfold checkDestinationTiles
  refine returnsErrors_ite (returnsErrors_bind fun required => returnsErrors_ok ?_) ?_
  · exact onlyErrors_ite (onlyErrors_diagError _ _) onlyErrors_nil
  · cases dictGet route "destination_tiles" with
    | arr dests => exact checkDests_returnsErrors dests
    | _ => exact returnsErrors_ok (onlyErrors_diagError _ _)

theorem checkPayloadBytes_returnsErrors : ReturnsErrors (checkPayloadBytes ctx rtype route) := by
  unfold checkPayloadBytes
  refine returnsErrors_ite (returnsErrors_ok (onlyErrors_diagError _ _))
    (returnsErrors_ite (returnsErrors_ok (onlyErrors_diagError _ _)) (returnsErrors_bind fun isData => ?_))
  exact returnsErrors_ok (onlyErrors_ite (onlyErrors_diagError _ _) onlyErrors_nil)

theorem checkPacketCount_returnsErrors : ReturnsErrors (checkPacketCount ctx rtype route) := by
  unfold checkPacketCount
  refine returnsErrors_ite (returnsErrors_ok onlyErrors_nil)
    (returnsErrors_ite (returnsErrors_ok (onlyErrors_diagError _ _)) (returnsErrors_bind fun isData => ?_))
  exact returnsErrors_ok (onlyErrors_ite (onlyErrors_diagError _ _) onlyErrors_nil)

theorem checkReductionBehavior_returnsErrors : ReturnsErrors (checkReductionBehavior ctx rtype route) := by
  unfold checkReductionBehavior
  refine returnsErrors_ite (returnsErrors_ok (onlyErrors_diagError _ _)) (returnsErrors_bind fun unknown => ?_)
  refine returnsErrors_ite (returnsErrors_ok (onlyErrors_diagError _ _))
    (returnsErrors_bind fun isReduction => returnsErrors_bind fun implicit => ?_)
  exact returnsErrors_ok (onlyErrors_ite (onlyErrors_diagError _ _) onlyErrors_nil)

theorem checkReductionId_returnsErrors : ReturnsErrors (checkReductionId ctx rtype route) := by
  unfold checkReductionId
  refine returnsErrors_bind fun isReduction => returnsErrors_ok (onlyErrors_ite ?_ onlyErrors_nil)
  exact onlyErrors_ite (onlyErrors_diagError _ _) (onlyErrors_ite (onlyErrors_diagError _ _) onlyErrors_nil)

theorem checkOrderingPolicy_returnsErrors : ReturnsErrors (checkOrderingPolicy ctx rtype route) := by
  unfold checkOrderingPolicy
  refine returnsErrors_ite (returnsErrors_ok (onlyErrors_diagError _ _)) (returnsErrors_bind fun unknown => ?_)
  refine returnsErrors_ite (returnsErrors_ok (onlyErrors_diagError _ _)) (returnsErrors_bind fun isBarrier => ?_)
  exact returnsErrors_ok (onlyErrors_ite (onlyErrors_diagError _ _) onlyErrors_nil)

theorem checkRouteStatus_returnsErrors : ReturnsErrors (checkRouteStatus ctx route) := by
  unfold checkRouteStatus
  refine returnsErrors_ite (returnsErrors_ok (onlyErrors_diagError _ _)) (returnsErrors_bind fun unknown => ?_)
  exact returnsErrors_ok (onlyErrors_ite (onlyErrors_diagError _ _) onlyErrors_nil)

theorem checkRoute_onlyErrors {seen : List ℤ} {r : List ℤ × List Diag} (h : checkRoute ctx n seen route = .ok r) :
    OnlyErrors r.2 := by
  unfold checkRoute at h
  obtain ⟨⟨rtype, types⟩, htypes, h⟩ := bind_eq_ok.mp h
  obtain ⟨dests, hdests, h⟩ := bind_eq_ok.mp h
  obtain ⟨payload, hpayload, h⟩ := bind_eq_ok.mp h
  obtain ⟨packets, hpackets, h⟩ := bind_eq_ok.mp h
  obtain ⟨behavior, hbehavior, h⟩ := bind_eq_ok.mp h
  obtain ⟨reduction, hreduction, h⟩ := bind_eq_ok.mp h
  obtain ⟨ordering, hordering, h⟩ := bind_eq_ok.mp h
  obtain ⟨status, hstatus, h⟩ := bind_eq_ok.mp h
  obtain rfl := Except.ok.inj h
  simp only [onlyErrors_append]
  exact ⟨⟨⟨⟨⟨⟨⟨⟨⟨checkRouteId_onlyErrors _ _ _, checkRouteType_onlyErrors htypes⟩, checkSourceTile_onlyErrors⟩,
    checkDestinationTiles_returnsErrors _ hdests⟩, checkPayloadBytes_returnsErrors _ hpayload⟩,
    checkPacketCount_returnsErrors _ hpackets⟩, checkReductionBehavior_returnsErrors _ hbehavior⟩,
    checkReductionId_returnsErrors _ hreduction⟩, checkOrderingPolicy_returnsErrors _ hordering⟩,
    checkRouteStatus_returnsErrors _ hstatus⟩

theorem checkRoutes_onlyErrors {items : List Json} {seen : List ℤ} {idx : ℕ} {valid : List Fields}
    (h : checkRoutes n seen idx items = .ok (valid, diags)) : OnlyErrors diags := by
  induction items generalizing seen idx valid diags with
  | nil =>
    cases h
    exact onlyErrors_nil
  | cons item items ih =>
    cases item with
    | obj route =>
      unfold checkRoutes at h
      obtain ⟨⟨seen', first⟩, hfirst, h⟩ := bind_eq_ok.mp h
      obtain ⟨⟨valid', rest⟩, hrest, h⟩ := bind_eq_ok.mp h
      obtain ⟨-, rfl⟩ := Prod.mk.inj (Except.ok.inj h)
      exact onlyErrors_append.mpr ⟨checkRoute_onlyErrors hfirst, ih hrest⟩
    | _ =>
      unfold checkRoutes at h
      obtain ⟨⟨valid', rest⟩, hrest, h⟩ := bind_eq_ok.mp h
      obtain ⟨-, rfl⟩ := Prod.mk.inj (Except.ok.inj h)
      exact onlyErrors_cons.mpr ⟨rfl, ih hrest⟩

/-- `validate_routes` never warns. -/
theorem validateRoutes_onlyErrors {report : Fields} {valid : List Fields}
    (h : validateRoutes report n = .ok (valid, diags)) : OnlyErrors diags := by
  unfold validateRoutes at h
  cases hroutes : dictGet report "routes" with
  | arr items =>
    rw [hroutes] at h
    exact checkRoutes_onlyErrors h
  | null =>
    rw [hroutes] at h
    obtain ⟨-, rfl⟩ := Prod.mk.inj (Except.ok.inj h)
    exact onlyErrors_diagError _ _
  | _ =>
    rw [hroutes] at h
    obtain ⟨-, rfl⟩ := Prod.mk.inj (Except.ok.inj h)
    exact onlyErrors_diagError _ _

/-! ### A route without an error -/

/-- An integer that is a tile, as far as there are tiles. -/
def IsTile (n : ℕ) (tile : Json) : Prop := ∃ t : ℤ, tile.asInt? = some t ∧ (0 < n → 0 ≤ t ∧ t < n)

/-- A field that holds one of the texts. -/
def OneOf (texts : List String) (value : Json) : Prop := ∃ text ∈ texts, value = .str text

/-- What a route without an error has. -/
structure AcceptedRoute (n : ℕ) (route : Fields) : Prop where
  id : ∃ k, (dictGet route "route_id").asInt? = some k
  type : OneOf validRouteTypes (dictGet route "route_type")
  source : IsTile n (dictGet route "source_tile")
  dests : (dictGet route "destination_tiles").isNone = true ∨ dictGet route "destination_tiles" = .arr (destsOf route)
  dest : ∀ d ∈ destsOf route, IsTile n d
  packets : Numeric route "packet_count_estimate"
  payload : ∃ k, (dictGet route "payload_bytes").asInt? = some k ∧ 0 ≤ k
  behavior : OneOf validReductionBehaviors (dictGet route "reduction_behavior")
  reduction : OneOf reductionRouteTypes (dictGet route "route_type") →
    ∃ k, (dictGet route "reduction_id").asInt? = some k
  status : OneOf validRouteStatuses (dictGet route "route_status")

theorem isTile_of_isOutside {tile : Json} (h : isOutside n tile = false) : IsTile n tile := by
  unfold isOutside at h
  cases hint : tile.asInt? with
  | none => simp [hint] at h
  | some t =>
    rw [hint] at h
    exact ⟨t, hint, fun hn => not_not.mp fun hout => of_decide_eq_false h ⟨hn, hout⟩⟩

theorem nonneg_of_isNegative {value : Json} (h : isNegative value = false) : ∃ k, value.asInt? = some k ∧ 0 ≤ k := by
  obtain ⟨k, hk⟩ := asInt_of_isNegative h
  unfold isNegative at h
  rw [hk] at h
  exact ⟨k, hk, by simpa using h⟩

/-- A value that is in a set of texts. -/
theorem oneOf_of_inSet {value : Json} {texts : List String} (h : value.inSet texts = .ok true) : OneOf texts value := by
  obtain ⟨k, hk, h⟩ := bind_eq_ok.mp h
  obtain ⟨text, htext, heq⟩ := List.any_eq_true.mp (Except.ok.inj h)
  obtain rfl := of_decide_eq_true heq
  cases value with
  | str s =>
    obtain rfl : s = text := by simpa [Json.key] using hk
    exact ⟨s, htext, rfl⟩
  | _ => cases hk

theorem inSet_of_oneOf {value : Json} {texts : List String} (h : OneOf texts value) : value.inSet texts = .ok true := by
  obtain ⟨text, htext, rfl⟩ := h
  rw [inSet_str]
  simpa using htext

theorem oneOf_of_unknownIn {value : Json} {texts : List String} (h : unknownIn value texts = .ok false) :
    OneOf texts value := by
  obtain ⟨known, hknown, h⟩ := bind_eq_ok.mp h
  obtain rfl : known = true := by simpa using Except.ok.inj h
  exact oneOf_of_inSet hknown

theorem id_of_checkRouteId {seen seen' : List ℤ} (h : checkRouteId ctx seen route = (seen', [])) :
    ∃ k, (dictGet route "route_id").asInt? = some k ∧ k ∉ seen ∧ seen' = k :: seen := by
  unfold checkRouteId at h
  by_cases hnone : (dictGet route "route_id").isNone = true
  · rw [if_pos hnone] at h
    cases h
  rw [if_neg hnone] at h
  cases hint : (dictGet route "route_id").asInt? with
  | none =>
    rw [hint] at h
    cases h
  | some k =>
    rw [hint] at h
    by_cases hseen : k ∈ seen
    · simp only [if_pos hseen] at h
      cases h
    · simp only [if_neg hseen] at h
      obtain ⟨rfl, -⟩ := Prod.mk.inj h
      exact ⟨k, rfl, hseen, rfl⟩

theorem type_of_checkRouteType (h : checkRouteType ctx route = .ok (rtype, [])) :
    rtype = dictGet route "route_type" ∧ OneOf validRouteTypes (dictGet route "route_type") := by
  unfold checkRouteType at h
  by_cases hnone : (dictGet route "route_type").isNone = true
  · rw [if_pos hnone] at h
    cases h
  rw [if_neg hnone] at h
  obtain ⟨unknown, hunknown, h⟩ := bind_eq_ok.mp h
  obtain ⟨rfl, hnil⟩ := Prod.mk.inj (Except.ok.inj h)
  cases unknown with
  | true => cases hnil
  | false => exact ⟨rfl, oneOf_of_unknownIn hunknown⟩

theorem isTile_of_checkSourceTile (h : (checkSourceTile ctx n route).2 = []) :
    IsTile n (dictGet route "source_tile") := by
  unfold checkSourceTile at h
  by_cases hnone : (dictGet route "source_tile").isNone = true
  · rw [if_pos hnone] at h
    cases h
  rw [if_neg hnone] at h
  by_cases hout : isOutside n (dictGet route "source_tile") = true
  · simp only [if_pos hout] at h
    cases h
  · exact isTile_of_isOutside (by simpa using hout)

theorem isTile_of_checkDests {dests : List Json} (h : checkDests ctx n rtype src dests = .ok []) :
    ∀ d ∈ dests, IsTile n d := by
  intro d hd
  unfold checkDests at h
  obtain ⟨banned, -, h⟩ := bind_eq_ok.mp h
  have hnil := (List.append_eq_nil_iff.mp (Except.ok.inj h)).1
  rw [List.flatMap_eq_nil_iff] at hnil
  obtain ⟨i, hi, rfl⟩ := List.mem_iff_getElem.mp hd
  have hfirst := hnil (dests[i], i) (List.mem_zipIdx_iff_getElem?.mpr (List.getElem?_eq_getElem hi))
  by_cases hout : isOutside n dests[i] = true
  · rw [if_pos hout] at hfirst
    cases hfirst
  · exact isTile_of_isOutside (by simpa using hout)

theorem isTile_of_checkDestinationTiles (h : checkDestinationTiles ctx n rtype src route = .ok []) :
    ((dictGet route "destination_tiles").isNone = true ∨ dictGet route "destination_tiles" = .arr (destsOf route)) ∧
      ∀ d ∈ destsOf route, IsTile n d := by
  unfold checkDestinationTiles at h
  unfold destsOf
  cases hdests : dictGet route "destination_tiles" with
  | null => exact ⟨Or.inl rfl, by simp [Json.asList?]⟩
  | arr items =>
    rw [hdests] at h
    cases items with
    | nil => exact ⟨Or.inr rfl, by simp [Json.asList?]⟩
    | cons d ds => exact ⟨Or.inr rfl, isTile_of_checkDests h⟩
  | _ =>
    rw [hdests] at h
    cases h

theorem behavior_of_checkReductionBehavior (h : checkReductionBehavior ctx rtype route = .ok []) :
    OneOf validReductionBehaviors (dictGet route "reduction_behavior") := by
  unfold checkReductionBehavior at h
  by_cases hnone : (dictGet route "reduction_behavior").isNone = true
  · rw [if_pos hnone] at h
    cases h
  rw [if_neg hnone] at h
  obtain ⟨unknown, hunknown, h⟩ := bind_eq_ok.mp h
  cases unknown with
  | true => cases h
  | false => exact oneOf_of_unknownIn hunknown

theorem reduction_of_checkReductionId (h : checkReductionId ctx rtype route = .ok [])
    (htype : OneOf reductionRouteTypes rtype) : ∃ k, (dictGet route "reduction_id").asInt? = some k := by
  unfold checkReductionId at h
  rw [inSet_of_oneOf htype] at h
  have hnil : (if (dictGet route "reduction_id").isNone = true then
      [diagError "MISSING_REDUCTION_ID" (ctx ++ [.lit ": reduction_id is required for ", .repr rtype])]
    else if isNegative (dictGet route "reduction_id") = true then
      [diagError "INVALID_REDUCTION_ID" (ctx ++ [.lit ": reduction_id must be a non-negative integer"])]
    else []) = [] := Except.ok.inj h
  split_ifs at hnil with hnone hneg
  exact asInt_of_isNegative (by simpa using hneg)

theorem status_of_checkRouteStatus (h : checkRouteStatus ctx route = .ok []) :
    OneOf validRouteStatuses (dictGet route "route_status") := by
  unfold checkRouteStatus at h
  by_cases hnone : (dictGet route "route_status").isNone = true
  · rw [if_pos hnone] at h
    cases h
  rw [if_neg hnone] at h
  obtain ⟨unknown, hunknown, h⟩ := bind_eq_ok.mp h
  cases unknown with
  | true => cases h
  | false => exact oneOf_of_unknownIn hunknown

theorem payload_of_checkPayloadBytes (h : checkPayloadBytes ctx rtype route = .ok []) :
    ∃ k, (dictGet route "payload_bytes").asInt? = some k ∧ 0 ≤ k :=
  nonneg_of_isNegative (@isNegative_of_checkPayloadBytes true _ _ _ _ h rfl)

/-- A record without a diagnostic has a new id and is as the tools expect. -/
theorem acceptedRoute_of_checkRoute {seen seen' : List ℤ} (h : checkRoute ctx n seen route = .ok (seen', [])) :
    AcceptedRoute n route ∧
      ∃ k, (dictGet route "route_id").asInt? = some k ∧ k ∉ seen ∧ seen' = k :: seen := by
  unfold checkRoute at h
  obtain ⟨⟨rtype, types⟩, htypes, h⟩ := bind_eq_ok.mp h
  obtain ⟨dests, hdests, h⟩ := bind_eq_ok.mp h
  obtain ⟨payload, hpayload, h⟩ := bind_eq_ok.mp h
  obtain ⟨packets, hpackets, h⟩ := bind_eq_ok.mp h
  obtain ⟨behavior, hbehavior, h⟩ := bind_eq_ok.mp h
  obtain ⟨reduction, hreduction, h⟩ := bind_eq_ok.mp h
  obtain ⟨ordering, -, h⟩ := bind_eq_ok.mp h
  obtain ⟨status, hstatus, h⟩ := bind_eq_ok.mp h
  obtain ⟨hseen, hnil⟩ := Prod.mk.inj (Except.ok.inj h)
  simp only [List.append_eq_nil_iff] at hnil
  obtain ⟨⟨⟨⟨⟨⟨⟨⟨⟨hids, rfl⟩, hsource⟩, rfl⟩, rfl⟩, rfl⟩, rfl⟩, rfl⟩, -⟩, rfl⟩ := hnil
  obtain ⟨k, hk, hfresh, hseen'⟩ := id_of_checkRouteId (Prod.ext rfl hids)
  obtain ⟨rfl, htype⟩ := type_of_checkRouteType htypes
  obtain ⟨hlist, hdest⟩ := isTile_of_checkDestinationTiles hdests
  exact ⟨⟨⟨k, hk⟩, htype, isTile_of_checkSourceTile hsource, hlist, hdest, packets_of_checkPacketCount hpackets,
    payload_of_checkPayloadBytes hpayload, behavior_of_checkReductionBehavior hbehavior,
    reduction_of_checkReductionId hreduction, status_of_checkRouteStatus hstatus⟩, k, hk, hfresh, hseen ▸ hseen'⟩

/-- The id of a route. -/
def routeId (route : Fields) : ℤ := number route "route_id"

theorem AcceptedRoute.routeId_eq (h : AcceptedRoute n route) :
    (dictGet route "route_id").asInt? = some (routeId route) := by
  obtain ⟨k, hk⟩ := h.id
  unfold routeId number
  rw [hk]
  rfl

theorem checkRoutes_accepted {items : List Json} {seen : List ℤ} {idx : ℕ} {valid : List Fields}
    (h : checkRoutes n seen idx items = .ok (valid, [])) :
    items = valid.map .obj ∧ (∀ route ∈ valid, AcceptedRoute n route) ∧ (valid.map routeId).Nodup ∧
      ∀ route ∈ valid, routeId route ∉ seen := by
  induction items generalizing seen idx valid with
  | nil =>
    cases h
    exact ⟨rfl, by simp, by simp, by simp⟩
  | cons item items ih =>
    cases item with
    | obj route =>
      unfold checkRoutes at h
      obtain ⟨⟨seen', first⟩, hfirst, h⟩ := bind_eq_ok.mp h
      obtain ⟨⟨valid', rest⟩, hrest, h⟩ := bind_eq_ok.mp h
      obtain ⟨rfl, hnil⟩ := Prod.mk.inj (Except.ok.inj h)
      obtain ⟨rfl, rfl⟩ := List.append_eq_nil_iff.mp hnil
      obtain ⟨haccepted, k, hk, hfresh, rfl⟩ := acceptedRoute_of_checkRoute hfirst
      obtain ⟨rfl, hall, hnodup, hnew⟩ := ih hrest
      obtain rfl : routeId route = k := Option.some.inj (haccepted.routeId_eq.symm.trans hk)
      refine ⟨rfl, List.forall_mem_cons.mpr ⟨haccepted, hall⟩, ?_, List.forall_mem_cons.mpr ⟨hfresh, fun r hr => ?_⟩⟩
      · refine List.nodup_cons.mpr ⟨fun hmem => ?_, hnodup⟩
        obtain ⟨r, hr, heq⟩ := List.mem_map.mp hmem
        exact hnew r hr (heq ▸ List.mem_cons_self)
      · exact fun hmem => hnew r hr (List.mem_cons_of_mem _ hmem)
    | _ =>
      unfold checkRoutes at h
      obtain ⟨⟨valid', rest⟩, -, h⟩ := bind_eq_ok.mp h
      cases h

/-- The routes of a report that `validate_routes` accepts. -/
structure AcceptedRoutes (report : Fields) (n : ℕ) (routes : List Fields) : Prop where
  list : dictGet report "routes" = .arr (routes.map .obj)
  route : ∀ route ∈ routes, AcceptedRoute n route
  ids : (routes.map routeId).Nodup

theorem acceptedRoutes_of_validateRoutes {report : Fields} {valid : List Fields}
    (h : validateRoutes report n = .ok (valid, diags)) (hno : errorsOf strict diags = []) :
    AcceptedRoutes report n valid := by
  rw [(validateRoutes_onlyErrors h).errorsOf] at hno
  subst hno
  unfold validateRoutes at h
  cases hroutes : dictGet report "routes" with
  | arr items =>
    rw [hroutes] at h
    obtain ⟨rfl, hall, hnodup, -⟩ := checkRoutes_accepted h
    exact ⟨hroutes, hall, hnodup⟩
  | null =>
    rw [hroutes] at h
    cases h
  | _ =>
    rw [hroutes] at h
    cases h

end Att1.Routes
