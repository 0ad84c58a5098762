import Att1.Lib.Returns
import Att1.Routes.Bandwidth

/-!
# Att1.Routes.Consumers — the accepted reports that can be replayed and simulated

The validator lets `packet_count_estimate` and `destination_tiles` be `null`; the tools behind it use an integer and a
list, or a default.  `replayRoutes_returns` and `simulateRoutes_returns` say what an accepted report needs besides.
-/

open Att1.Lib

namespace Att1.Routes

variable {n : ℕ} {parse : String → Option ℤ} {strict : Bool} {report route : Fields} {routes : List Fields}

/-! ### Fields that may be null -/

/-- An accepted route whose estimate `int` reads has one, or none. -/
theorem AcceptedRoute.hasEstimate (h : AcceptedRoute n route)
    (hread : Returns ((dictGetD route "packet_count_estimate" (.int 0)).toInt parse)) : HasEstimate route := by
  rcases dictGet_of_dictGetD route "packet_count_estimate" (.int 0) with heq | ⟨-, hdefault⟩
  · rcases h.packets with hnone | ⟨k, hk⟩
    · cases hvalue : dictGet route "packet_count_estimate" with
      | null =>
        rw [← heq, hvalue] at hread
        exact absurd hread (not_returns_error _)
      | _ =>
        rw [hvalue] at hnone
        cases hnone
    · exact ⟨k, heq ▸ hk⟩
  · exact ⟨0, by rw [hdefault]; rfl⟩

/-- An accepted route whose destinations a loop can go through has a list of them, or none. -/
theorem AcceptedRoute.hasDests (h : AcceptedRoute n route)
    (hiter : Returns (dictGetD route "destination_tiles" (.arr [])).iter) : HasDests route := by
  rcases dictGet_of_dictGetD route "destination_tiles" (.arr []) with heq | ⟨-, hdefault⟩
  · rcases h.dests with hnone | hlist
    · cases hvalue : dictGet route "destination_tiles" with
      | null =>
        rw [← heq, hvalue] at hiter
        exact absurd hiter (not_returns_error _)
      | _ =>
        rw [hvalue] at hnone
        cases hnone
    · exact ⟨_, heq ▸ hlist⟩
  · exact ⟨[], hdefault⟩

/-! ### The replay -/

theorem estimate_of_replayRoute {state state' : ReplayState}
    (h : replayRoute parse n strict state (.obj route) = .ok state') :
    Returns ((dictGetD route "packet_count_estimate" (.int 0)).toInt parse) := by
  obtain ⟨_, hroute, h⟩ := bind_eq_ok.mp h
  obtain rfl := Except.ok.inj hroute
  obtain ⟨_, -, h⟩ := bind_eq_ok.mp h
  obtain ⟨pktEst, hpktEst, -⟩ := bind_eq_ok.mp h
  exact ⟨pktEst, hpktEst⟩

/-- **The replay** of an accepted report returns exactly where no estimate is `null`. -/
theorem replayRoutes_returns (h : AcceptedRoutes report n routes) :
    Returns (replayRoutes parse report n strict) ↔ ∀ r ∈ routes, HasEstimate r := by
  constructor
  · rintro ⟨replayed, hreplay⟩ r hr
    obtain ⟨sorted, hperm, hsort⟩ := @sortRoutes_accepted _ parse _ h.route
    unfold replayRoutes at hreplay
    rw [dictGetD_routes h.list] at hreplay
    obtain ⟨items, hitems, hreplay⟩ := bind_eq_ok.mp hreplay
    obtain rfl := Except.ok.inj (hitems.symm.trans hsort)
    obtain ⟨state, hloop, -⟩ := bind_eq_ok.mp hreplay
    have hturns := forall_of_foldlM
      (P := fun item : Json => ∀ fields, item = .obj fields →
        Returns ((dictGetD fields "packet_count_estimate" (.int 0)).toInt parse))
      (fun _ _ _ hstep _ heq => estimate_of_replayRoute (heq ▸ hstep)) hloop
    exact (h.route r hr).hasEstimate
      (hturns _ (List.mem_map_of_mem (hperm.mem_iff.mpr hr)) r rfl)
  · intro hest
    obtain ⟨replayed, hreplay, -⟩ := replayRoutes_flow h hest
    exact ⟨replayed, hreplay⟩

/-! ### The simulator -/

variable {F : Type} {ops : FloatOps F} {args : SimArgs F}

theorem estimate_of_simulateRoute {rr : RouteResult F} (h : simulateRoute ops parse args route = .ok rr) :
    Returns ((dictGetD route "packet_count_estimate" (.int 0)).toInt parse) ∧
      rr.destinationTiles = dictGetD route "destination_tiles" (.arr []) := by
  obtain ⟨_, -, h⟩ := bind_eq_ok.mp h
  obtain ⟨pktEst, hpktEst, h⟩ := bind_eq_ok.mp h
  obtain ⟨_, -, h⟩ := bind_eq_ok.mp h
  obtain ⟨_, -, h⟩ := bind_eq_ok.mp h
  obtain ⟨_, -, h⟩ := bind_eq_ok.mp h
  obtain rfl := Except.ok.inj h
  exact ⟨⟨pktEst, hpktEst⟩, rfl⟩

/-- **The simulator** has results for accepted routes exactly where no estimate and no list of destinations is `null`
and what it converts to floats can be converted. -/
theorem simulateRoutes_returns (hroutes : ∀ r ∈ routes, AcceptedRoute n r) :
    Returns (simulateRoutes ops parse args routes n) ↔
      (∀ r ∈ routes, HasEstimate r ∧ HasDests r) ∧ Converts n args.packetOverheadBytes routes := by
  constructor
  · rintro ⟨out, hout⟩
    obtain ⟨results, hresults, hrest⟩ := bind_eq_ok.mp hout
    obtain ⟨tiles, htiles, -⟩ := bind_eq_ok.mp hrest
    obtain ⟨sums, hsums, -⟩ := bind_eq_ok.mp htiles
    have hiters := forall_of_foldlM (P := fun rr : RouteResult F => Returns rr.destinationTiles.iter)
      (fun _ rr _ hstep => by
        obtain ⟨_, -, hstep⟩ := bind_eq_ok.mp hstep
        obtain ⟨dests, hdests, -⟩ := bind_eq_ok.mp hstep
        exact ⟨dests, hdests⟩) hsums
    have hfields : ∀ r ∈ routes, HasEstimate r ∧ HasDests r := by
      intro r hr
      obtain ⟨rr, hrr, hsim⟩ := exists_of_mem_left (mapM_eq_ok.mp hresults) hr
      obtain ⟨hest, hdests⟩ := estimate_of_simulateRoute hsim
      exact ⟨(hroutes r hr).hasEstimate hest, (hroutes r hr).hasDests (hdests ▸ hiters rr hrr)⟩
    exact ⟨hfields, (simulateRoutes_flow hroutes (fun r hr => (hfields r hr).1) fun r hr => (hfields r hr).2).1.mp
      ⟨out, hout⟩⟩
  · rintro ⟨hfields, hconverts⟩
    exact (simulateRoutes_flow hroutes (fun r hr => (hfields r hr).1) fun r hr => (hfields r hr).2).1.mpr hconverts

end Att1.Routes
