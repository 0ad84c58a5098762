import Att1.Placement.Returns
import Att1.Planner.Returns
import Att1.Routes.Consumers
import Att1.Routes.Returns

/-!
# Att1.Validators — the documents that the validators decide

* `Decided`: the validators of execution plans, of route reports and of placement reports return on a document.
* `Usable`: a route report that `validate_header` and `validate_routes` accept can be replayed and simulated.
* `decided_iff`: what a document needs for both.
-/

open Att1.Lib

namespace Att1.Validators

/-- Each validator returns its diagnostics. -/
structure Decided (strict : Bool) (doc : Fields) : Prop where
  plan : Returns (Planner.validatePlan strict doc)
  routes : Returns (Routes.validateReport strict doc)
  placement : Returns (Placement.validate strict doc)

/-- What `validate_header` and `validate_routes` accept can be replayed and simulated. -/
def Usable {F : Type} (ops : Routes.FloatOps F) (parse : String → Option ℤ) (args : Routes.SimArgs F)
    (strict : Bool) (doc : Fields) : Prop :=
  ∀ n header valid routes, Routes.validateHeader strict doc = .ok (n, header) →
    Routes.validateRoutes doc n = .ok (valid, routes) → Routes.errorsOf strict (header ++ routes) = [] →
    (∀ strict', Returns (Routes.replayRoutes parse doc n strict')) ∧
      Returns (Routes.simulateRoutes ops parse args valid n)

/-- What the validators rely on in a document. -/
structure Regular (doc : Fields) : Prop where
  plan : Planner.PlanScalars doc
  routes : Routes.ReportScalars doc
  placement : Placement.ReportScalars doc

/-- The routes have what the replay and the simulator use: integer estimates and lists of destinations where they are
given, and sums that a float can hold. -/
structure Consumable (n : ℕ) (overhead : ℤ) (routes : List Fields) : Prop where
  fields : ∀ r ∈ routes, Routes.HasEstimate r ∧ Routes.HasDests r
  converts : Routes.Converts n overhead routes

variable {F : Type} {ops : Routes.FloatOps F} {parse : String → Option ℤ} {args : Routes.SimArgs F} {strict : Bool}
  {doc : Fields}

theorem decided_iff_regular (hunique : (Json.obj doc).Unique) : Decided strict doc ↔ Regular doc := by
  constructor
  · rintro ⟨hplan, hroutes, hplacement⟩
    exact ⟨Planner.validatePlan_returns.mp hplan, Routes.validateReport_returns.mp hroutes,
      (Placement.validate_returns hunique).mp hplacement⟩
  · rintro ⟨hplan, hroutes, hplacement⟩
    exact ⟨Planner.validatePlan_returns.mpr hplan, Routes.validateReport_returns.mpr hroutes,
      (Placement.validate_returns hunique).mpr hplacement⟩

theorem usable_iff : Usable ops parse args strict doc ↔
    ∀ n, Routes.Accepts strict doc n → Consumable n args.packetOverheadBytes (Routes.records doc "routes") := by
  have haccepted : ∀ {n header valid routes}, Routes.validateHeader strict doc = .ok (n, header) →
      Routes.validateRoutes doc n = .ok (valid, routes) → Routes.errorsOf strict (header ++ routes) = [] →
      Routes.AcceptedRoutes doc n valid := by
    intro n header valid routes _ hroutes hno
    rw [Routes.errorsOf_append, List.append_eq_nil_iff] at hno
    exact Routes.acceptedRoutes_of_validateRoutes hroutes hno.2
  constructor
  · rintro h n ⟨header, valid, routes, hheader, hroutes, hno⟩
    have hvalid := haccepted hheader hroutes hno
    obtain ⟨hreplay, hsim⟩ := h n header valid routes hheader hroutes hno
    rw [Routes.records_of_arr hvalid.list]
    obtain ⟨hfields, hconverts⟩ := (Routes.simulateRoutes_returns hvalid.route).mp hsim
    exact ⟨hfields, hconverts⟩
  · intro h n header valid routes hheader hroutes hno
    have hvalid := haccepted hheader hroutes hno
    obtain ⟨hfields, hconverts⟩ := h n ⟨header, valid, routes, hheader, hroutes, hno⟩
    rw [Routes.records_of_arr hvalid.list] at hfields hconverts
    exact ⟨fun _ => (Routes.replayRoutes_returns hvalid).mpr fun r hr => (hfields r hr).1,
      (Routes.simulateRoutes_returns hvalid.route).mpr ⟨hfields, hconverts⟩⟩

/-- **The validators decide** a document, and an accepted route report can be used, exactly where it is regular and what
is accepted is consumable. -/
theorem decided_iff (hunique : (Json.obj doc).Unique) :
    (Decided strict doc ∧ Usable ops parse args strict doc) ↔
      Regular doc ∧ ∀ n, Routes.Accepts strict doc n →
        Consumable n args.packetOverheadBytes (Routes.records doc "routes") :=
  and_congr (decided_iff_regular hunique) usable_iff

/-! ### Documents -/

/-- A report of routes between two tiles. -/
def twoTileReport (routes : List Fields) : Fields :=
  [("header", .obj [("route_report_version", .int 1), ("tile_count", .int 2), ("route_count", .int routes.length),
      ("status", .str "pass")]),
    ("routes", .arr (routes.map .obj)), ("tiles", .arr [])]

/-- A report that all validators decide, accepted and consumable. -/
theorem decided_there_and_back :
    Decided true (twoTileReport Routes.thereAndBack) ∧
      Usable Routes.rationalFloats (fun _ => none) Routes.defaultArgs true (twoTileReport Routes.thereAndBack) := by
  have hunique : (Json.obj (twoTileReport Routes.thereAndBack)).Unique := by
    simp [twoTileReport, Routes.thereAndBack, Routes.sendRoute]
  have hplan : Planner.PlanScalars (twoTileReport Routes.thereAndBack) :=
    ⟨scalars_cons.mpr ⟨rfl, scalars_cons.mpr ⟨rfl, scalars_cons.mpr ⟨rfl, scalars_nil⟩⟩⟩, by rintro _ ⟨⟩⟩
  have hroutes : Routes.ReportScalars (twoTileReport Routes.thereAndBack) := by
    refine ⟨Or.inr ⟨_, rfl, scalars_cons.mpr ⟨rfl, scalars_nil⟩⟩, ?_, fun _ => rfl, by rintro _ ⟨⟩⟩
    show ∀ route ∈ Routes.thereAndBack, Routes.RouteScalars route
    simp [Routes.thereAndBack, Routes.RouteScalars, Routes.sendRoute, dictGet, dictGetD, Json.isContainer,
      List.lookup]
  have hplacement : Placement.ReportScalars (twoTileReport Routes.thereAndBack) := by
    refine ⟨Or.inr ⟨_, rfl, scalars_cons.mpr ⟨rfl, scalars_nil⟩, ?_⟩, ?_, by rintro _ ⟨⟩, fun tid h => ?_⟩
    · exact scalars_cons.mpr ⟨rfl, scalars_cons.mpr ⟨rfl, scalars_nil⟩⟩
    · rintro tile ⟨before, after, t, hnil, -⟩
      cases before <;> cases hnil
    · cases h
  refine (decided_iff hunique).mpr ⟨⟨hplan, hroutes, hplacement⟩, ?_⟩
  rintro n ⟨header, valid, routes, hheader, -⟩
  obtain rfl : 2 = n := congrArg Prod.fst (Except.ok.inj hheader)
  refine ⟨?_, Routes.converts_thereAndBack⟩
  show ∀ r ∈ Routes.thereAndBack, Routes.HasEstimate r ∧ Routes.HasDests r
  refine List.forall_mem_cons.mpr ⟨⟨⟨1, rfl⟩, ⟨_, rfl⟩⟩, List.forall_mem_singleton.mpr ⟨⟨1, rfl⟩, ⟨_, rfl⟩⟩⟩

/-- A route whose estimate is `null`. -/
def nullEstimateRoute : Fields :=
  [("route_id", .int 1), ("route_type", .str "ACTIVATION_SEND"), ("source_tile", .int 0),
    ("destination_tiles", .arr [.int 1]), ("payload_bytes", .int 8), ("packet_count_estimate", .null),
    ("reduction_behavior", .str "none"), ("ordering_policy", .str "ordered"), ("route_status", .str "ok")]

/-- Lists where the validators look up texts. -/
def listsForTexts : Fields :=
  [("token_phase", .arr []), ("header", .obj [("status", .arr []), ("dtype", .arr [])])]

/-- No validator returns on lists for texts, and a report with a `null` estimate is accepted and cannot be replayed. -/
theorem undecided_documents :
    (Planner.validatePlan false listsForTexts = .error .typeError ∧
        Routes.validateReport false listsForTexts = .error .typeError ∧
        Placement.validate false listsForTexts = .error .typeError) ∧
      Routes.Accepts true (twoTileReport [nullEstimateRoute]) 2 ∧
      Routes.replayRoutes (fun _ => none) (twoTileReport [nullEstimateRoute]) 2 true = .error .typeError := by
  refine ⟨⟨rfl, rfl, rfl⟩, ⟨_, _, _, rfl, rfl, rfl⟩, ?_⟩
  rfl

end Att1.Validators
