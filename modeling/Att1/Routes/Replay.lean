import Att1.Routes.Validate

/-!
# Att1.Routes.Replay — the route replay simulator (`compiler/replay_fabric_routes.py`)

`replayRoutes` is `_replay_routes`: the routes of a report in the order of their ids, with counters for every tile.
`Accepts` is what `main` checks before it replays a report.  `parse` is what `int` reads from a text.
-/

open Att1.Lib

namespace Att1.Routes

/-- `TileReplayCounters`. -/
@[ext]
structure TileReplayCounters where
  tileId : ℕ
  packetsSent : ℤ := 0
  packetsReceived : ℤ := 0
  payloadBytesSent : ℤ := 0
  payloadBytesReceived : ℤ := 0
  reductionsStarted : ℕ := 0
  reductionsCompleted : ℕ := 0
  barriersStarted : ℕ := 0
  barriersCompleted : ℕ := 0
  traceEvents : ℕ := 0
  routeFailures : ℕ := 0

/-- `tile_ctrs`, by the ids of the tiles. -/
abbrev TileCtrs := ℕ → TileReplayCounters

/-- What the loop over the routes changes. -/
structure ReplayState where
  tileCtrs : TileCtrs
  reductionGroups : Groups Fields := []
  replayed : List Fields := []
  notes : List FString := []

/-! ### Order -/

/-- `int(r.get("route_id", 0))`. -/
def routeKey (parse : String → Option ℤ) (route : Json) : Py ℤ := do
  let fields ← route.asObj
  (dictGetD fields "route_id" (.int 0)).toInt parse

/-- The routes sorted by their ids; as they are, if an id cannot be read. -/
def sortRoutes (parse : String → Option ℤ) (raw : Json) : Py (List Json) :=
  let sorted : Py (List Json) := do
    let routes ← raw.iter
    let keys ← routes.mapM (routeKey parse)
    let pairs ← sortedBy (fun pair : ℤ × Json => .int pair.1) (keys.zip routes)
    .ok (pairs.map Prod.snd)
  match sorted with
  | .ok routes => .ok routes
  | .error .typeError => raw.iter
  | .error (.raised exception message) =>
    if exception = "ValueError" then raw.iter else .error (.raised exception message)
  | .error e => .error e

/-! ### Tiles -/

/-- `0 <= tile < tile_count`. -/
def inTileRange (tileCount : ℕ) (tile : Json) : Py Bool := do
  let low ← Json.ge tile (.int 0)
  if low then Json.lt tile (.int tileCount) else .ok false

/-- The tile of `tile_ctrs` that this value is a key of. -/
def tileWithKey (tileCount : ℕ) (tile : Json) : Py (Option ℕ) := do
  let key ← tile.key
  .ok ((List.range tileCount).find? fun t => Json.Key.num t = key)

/-- `tile_ctrs[tile]`, changed by `f`, if the tile is in range. -/
def changeTile (tileCount : ℕ) (tile : Json) (f : TileReplayCounters → Py TileReplayCounters) (ctrs : TileCtrs) :
    Py TileCtrs := do
  let inside ← inTileRange tileCount tile
  if inside then do
    let found ← tileWithKey tileCount tile
    match found with
    | some t => do
      let c ← f (ctrs t)
      .ok (Function.update ctrs t c)
    | none => .error .keyError
  else .ok ctrs

/-! ### Replay -/

/-- `eff_pkts`. -/
def effPkts (rtype : Json) (pktEst : ℤ) : ℤ :=
  if rtype.eqStr "TILE_BARRIER" then 0 else if 0 < pktEst then pktEst else 1

/-- What a route does to the counters of its source. -/
def countSource (rtype : Json) (effPkts payload : ℤ) (c : TileReplayCounters) : Py TileReplayCounters := do
  let c := { c with packetsSent := c.packetsSent + effPkts, payloadBytesSent := c.payloadBytesSent + payload }
  let isBarrier ← rtype.inSet barrierRouteTypes
  if isBarrier then
    .ok { c with barriersStarted := c.barriersStarted + 1, barriersCompleted := c.barriersCompleted + 1 }
  else if rtype.eqStr "TRACE_EVENT" then .ok { c with traceEvents := c.traceEvents + 1 }
  else do
    let isReduction ← rtype.inSet reductionRouteTypes
    .ok (if isReduction then { c with reductionsStarted := c.reductionsStarted + 1 } else c)

/-- What a route does to the counters of a destination. -/
def countDest (rtype : Json) (effPkts payload : ℤ) (c : TileReplayCounters) : Py TileReplayCounters := do
  let _ ← rtype.inSet barrierRouteTypes
  .ok
    { c with
      packetsReceived := c.packetsReceived + effPkts, payloadBytesReceived := c.payloadBytesReceived + payload }

def countFailure (c : TileReplayCounters) : TileReplayCounters := { c with routeFailures := c.routeFailures + 1 }

/-- The failure tracking of a route: the counters, and the note. -/
def trackFailure (tileCount : ℕ) (strict : Bool) (route : Fields) (ctrs : TileCtrs) : Py (TileCtrs × List FString) :=
  let status := dictGetD route "route_status" (.str "ok")
  let isFailed := !status.inTuple ["ok", "warn", "skipped"]
  if isFailed || strict && status.inTuple ["warn", "fail"] then do
    let found ← tileWithKey tileCount (dictGetD route "source_tile" (.int (-1)))
    let ctrs := match found with
      | some t => Function.update ctrs t (countFailure (ctrs t))
      | none => ctrs
    .ok (ctrs, [[.lit "route_id=", .val (dictGetD route "route_id" (.str "?")), .lit ": route_status=", .repr status,
      .lit (if strict then " (strict)" else "")]])
  else .ok (ctrs, [])

/-- The reduction group tracking of a route. -/
def trackReduction (rtype redId : Json) (route : Fields) (groups : Groups Fields) : Py (Groups Fields) := do
  let isReduction ← rtype.inSet reductionRouteTypes
  if isReduction then do
    let key ← redId.key
    .ok (groups.appendAt key redId route)
  else .ok groups

/-- The body of the loop over the routes. -/
def replayRoute (parse : String → Option ℤ) (tileCount : ℕ) (strict : Bool) (state : ReplayState) (route : Json) :
    Py ReplayState := do
  let route ← route.asObj
  let rtype := dictGetD route "route_type" (.str "UNKNOWN")
  let src := dictGetD route "source_tile" (.int (-1))
  let payload ← (dictGetD route "payload_bytes" (.int 0)).toInt parse
  let pktEst ← (dictGetD route "packet_count_estimate" (.int 0)).toInt parse
  let redId := dictGetD route "reduction_id" (.int 0)
  let (ctrs, notes) ← trackFailure tileCount strict route state.tileCtrs
  let ctrs ← changeTile tileCount src (countSource rtype (effPkts rtype pktEst) payload) ctrs
  let dests ← ((dictGetD route "destination_tiles" (.arr [])).orElse (.arr [])).iter
  let ctrs ← dests.foldlM
    (fun ctrs dt => changeTile tileCount dt (countDest rtype (effPkts rtype pktEst) payload) ctrs) ctrs
  let groups ← trackReduction rtype redId route state.reductionGroups
  .ok
    { tileCtrs := ctrs
      reductionGroups := groups
      replayed := state.replayed ++ [route]
      notes := state.notes ++ notes }

/-- `has_explicit`. -/
def hasExplicit : List Fields → Py Bool
  | [] => .ok false
  | r :: group => do
    let isExplicit ← (dictGet r "reduction_behavior").inSet explicitReductionBehaviors
    if isExplicit then .ok true else hasExplicit group

def countCompleted (c : TileReplayCounters) : Py TileReplayCounters :=
  .ok { c with reductionsCompleted := c.reductionsCompleted + 1 }

/-- The groups of `reduction_completed_ids`. -/
def completedGroups : Groups Fields → Py (Groups Fields)
  | [] => .ok []
  | group :: groups => do
    let isComplete ← hasExplicit group.2.2
    let rest ← completedGroups groups
    .ok (if isComplete then group :: rest else rest)

/-- Distribute `reductions_completed` back to the source tiles of a group. -/
def completeGroup (tileCount : ℕ) (group : List Fields) (ctrs : TileCtrs) : Py TileCtrs :=
  group.foldlM (fun ctrs r => changeTile tileCount (dictGetD r "source_tile" (.int (-1))) countCompleted ctrs) ctrs

/-- What `_replay_routes` returns, with the notes. -/
structure Replayed where
  routes : List Fields
  tileCounters : List TileReplayCounters
  reductionGroups : Groups Fields
  notes : List FString

/-- `_replay_routes`. -/
def replayRoutes (parse : String → Option ℤ) (report : Fields) (tileCount : ℕ) (strict : Bool) : Py Replayed := do
  let routes ← sortRoutes parse (dictGetD report "routes" (.arr []))
  let state ← routes.foldlM (replayRoute parse tileCount strict) { tileCtrs := fun tid => { tileId := tid } }
  let completed ← completedGroups state.reductionGroups
  let ctrs ← completed.foldlM (fun ctrs group => completeGroup tileCount group.2.2 ctrs) state.tileCtrs
  .ok
    { routes := state.replayed
      tileCounters := (List.range tileCount).map ctrs
      reductionGroups := state.reductionGroups
      notes := state.notes }

/-- What `main` checks of a report before it replays it with this tile count. -/
def Accepts (strict : Bool) (report : Fields) (tileCount : ℕ) : Prop :=
  ∃ header valid routes, validateHeader strict report = .ok (tileCount, header) ∧
    validateRoutes report tileCount = .ok (valid, routes) ∧ errorsOf strict (header ++ routes) = []

end Att1.Routes
