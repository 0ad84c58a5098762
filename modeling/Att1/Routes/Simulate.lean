import Att1.Routes.Replay

/-!
# Att1.Routes.Simulate — the bandwidth simulator (`compiler/simulate_fabric_bandwidth.py`)

`simulateRoutes` is what `main` makes of the routes of a report: a result for each route, for each tile, and for all of
them.  The counts are integers; the bandwidths and the latency are floats, whose arithmetic is a parameter
(`FloatOps`), apart from the range in which Python converts an integer to a float (`fitsFloat`).
-/

open Att1.Lib

namespace Att1.Routes

/-- The floats of the interpreter. -/
structure FloatOps (F : Type) where
  /-- the nearest float -/
  ofRat : ℚ → F
  add : F → F → F
  mul : F → F → F
  div : F → F → F
  le : F → F → Bool
  lt : F → F → Bool

variable {F : Type}

/-- `n * x` of an integer and a float. -/
def FloatOps.intMul (ops : FloatOps F) (n : ℤ) (x : F) : Py F :=
  if fitsFloat n then .ok (ops.mul (ops.ofRat n) x) else .error overflowError

/-- `max(a, b)`. -/
def FloatOps.max (ops : FloatOps F) (a b : F) : F := if ops.lt a b then b else a

/-- `max(xs, key=key)`: the first of the greatest. -/
def FloatOps.maxBy {α : Type} (ops : FloatOps F) (key : α → F) : List α → Option α
  | [] => none
  | x :: xs => some (xs.foldl (fun best y => if ops.lt (key best) (key y) then y else best) x)

/-! ### Constants and arguments -/

/-- `GIB`. -/
def gib : ℚ := 1024 ^ 3

/-- `PASS_THRESHOLD`. -/
def passThreshold : ℚ := 4 / 5

/-- `WARN_THRESHOLD`. -/
def warnThreshold : ℚ := 1

/-- `ZERO_HOP_ROUTE_TYPES`. -/
def zeroHopRouteTypes : List String := ["TILE_BARRIER", "CONTROL_ACK"]

/-- The arguments that the simulation reads. -/
structure SimArgs (F : Type) where
  targetTokensPerSec : F
  fabricGibSec : Option F
  baseLatencyNs : F
  perHopLatencyNs : F
  packetOverheadBytes : ℤ

inductive BandwidthStatus
  | pass
  | warn
  | fail
  | unknown
  deriving DecidableEq, Repr

/-! ### Results -/

structure RouteResult (F : Type) where
  routeId : Json
  routeType : Json
  sourceTile : Json
  destinationTiles : Json
  effectivePayloadBytes : ℤ
  packetCount : ℤ
  packetOverheadBytes : ℤ
  totalWireBytes : ℤ
  hops : ℤ
  estimatedBandwidthGibSec : F
  estimatedLatencyNs : F
  bandwidthStatus : BandwidthStatus

structure TileResult (F : Type) where
  tileId : ℕ
  outboundPayloadBytesPerToken : ℤ
  inboundPayloadBytesPerToken : ℤ
  outboundWireBytesPerToken : ℤ
  inboundWireBytesPerToken : ℤ
  outboundBandwidthGibSec : F
  inboundBandwidthGibSec : F
  bottleneckStatus : BandwidthStatus

structure AggregateResult (F : Type) where
  totalPayloadBytesPerToken : ℤ
  totalWireBytesPerToken : ℤ
  requiredFabricGibSec : F
  fabricGibSecTarget : Option F
  utilizationPercent : Option F
  status : BandwidthStatus
  bottleneckRouteId : Option Json
  bottleneckTileId : Option ℕ

/-! ### Routes -/

section Simulation

variable (ops : FloatOps F) (parse : String → Option ℤ) (args : SimArgs F)

/-- `_bandwidth_status`. -/
def bandwidthStatus (requiredGibSec : F) (target : Option F) : BandwidthStatus :=
  match target with
  | none => .unknown
  | some target =>
    if ops.le target (ops.ofRat 0) then .fail
    else
      let util := ops.div requiredGibSec target
      if ops.le util (ops.ofRat passThreshold) then .pass
      else if ops.le util (ops.ofRat warnThreshold) then .warn
      else .fail

/-- `_hops_for_route`. -/
def hopsForRoute (routeType : Json) : Py ℤ := do
  let zeroHop ← routeType.inSet zeroHopRouteTypes
  .ok (if zeroHop then 0 else 1)

/-- `(wire * args.target_tokens_per_sec) / GIB`. -/
def bandwidth (wire : ℤ) : Py F := do
  let rate ← ops.intMul wire args.targetTokensPerSec
  .ok (ops.div rate (ops.ofRat gib))

/-- `eff_pkts` of the simulator. -/
def simPackets (rt : Json) (pktEst : ℤ) : ℤ :=
  if rt.eqStr "TILE_BARRIER" then 0
  else if pktEst > 0 then pktEst
  else 1

/-- `_simulate_route`. -/
def simulateRoute (route : Fields) : Py (RouteResult F) := do
  let rid := dictGetD route "route_id" (.int 0)
  let rt := dictGetD route "route_type" (.str "UNKNOWN")
  let src := dictGetD route "source_tile" (.int 0)
  let dests := dictGetD route "destination_tiles" (.arr [])
  let payload ← (dictGetD route "payload_bytes" (.int 0)).toInt parse
  let pktEst ← (dictGetD route "packet_count_estimate" (.int 0)).toInt parse
  let effPkts := simPackets rt pktEst
  let overhead := args.packetOverheadBytes * effPkts
  let totalWire := payload + overhead
  let hops ← hopsForRoute rt
  let bw ← bandwidth ops args totalWire
  let hopLatency ← ops.intMul hops args.perHopLatencyNs
  .ok
    { routeId := rid
      routeType := rt
      sourceTile := src
      destinationTiles := dests
      effectivePayloadBytes := payload
      packetCount := effPkts
      packetOverheadBytes := overhead
      totalWireBytes := totalWire
      hops := hops
      estimatedBandwidthGibSec := bw
      estimatedLatencyNs := ops.add args.baseLatencyNs hopLatency
      bandwidthStatus := bandwidthStatus ops bw args.fabricGibSec }

/-! ### Tiles -/

/-- The four sums of a tile. -/
structure TileSums where
  outPayload : ℤ := 0
  inPayload : ℤ := 0
  outWire : ℤ := 0
  inWire : ℤ := 0

/-- The entries of the four lists at `tile`, changed by `f`, if the tile is in range: an integer is an index, a float is
none. -/
def changeSums (tileCount : ℕ) (tile : Json) (f : TileSums → TileSums) (sums : ℕ → TileSums) : Py (ℕ → TileSums) := do
  let inside ← inTileRange tileCount tile
  if inside then
    match tile.asInt? with
    | some t => .ok (Function.update sums t.toNat (f (sums t.toNat)))
    | none => .error .typeError
  else .ok sums

/-- What a route adds to the sums of its source. -/
def addOut (rr : RouteResult F) (s : TileSums) : TileSums :=
  { s with outPayload := s.outPayload + rr.effectivePayloadBytes, outWire := s.outWire + rr.totalWireBytes }

/-- What a route adds to the sums of a destination. -/
def addIn (rr : RouteResult F) (s : TileSums) : TileSums :=
  { s with inPayload := s.inPayload + rr.effectivePayloadBytes, inWire := s.inWire + rr.totalWireBytes }

/-- The body of the loop of `_simulate_tiles`. -/
def sumRoute (tileCount : ℕ) (sums : ℕ → TileSums) (rr : RouteResult F) : Py (ℕ → TileSums) := do
  let sums ← changeSums tileCount rr.sourceTile (addOut rr) sums
  let dests ← rr.destinationTiles.iter
  dests.foldlM (fun sums dt => changeSums tileCount dt (addIn rr) sums) sums

/-- The result of a tile. -/
def simulateTile (sums : ℕ → TileSums) (tid : ℕ) : Py (TileResult F) := do
  let outBw ← bandwidth ops args (sums tid).outWire
  let inBw ← bandwidth ops args (sums tid).inWire
  .ok
    { tileId := tid
      outboundPayloadBytesPerToken := (sums tid).outPayload
      inboundPayloadBytesPerToken := (sums tid).inPayload
      outboundWireBytesPerToken := (sums tid).outWire
      inboundWireBytesPerToken := (sums tid).inWire
      outboundBandwidthGibSec := outBw
      inboundBandwidthGibSec := inBw
      bottleneckStatus := bandwidthStatus ops (ops.max outBw inBw) args.fabricGibSec }

/-- `_simulate_tiles`. -/
def simulateTiles (routeResults : List (RouteResult F)) (tileCount : ℕ) : Py (List (TileResult F)) := do
  let sums ← routeResults.foldlM (sumRoute tileCount) fun _ => {}
  (List.range tileCount).mapM (simulateTile ops args sums)

/-! ### All routes -/

/-- `_simulate_aggregate`. -/
def simulateAggregate (routeResults : List (RouteResult F)) (tileResults : List (TileResult F)) :
    Py (AggregateResult F) := do
  let totalPayload := (routeResults.map RouteResult.effectivePayloadBytes).sum
  let totalWire := (routeResults.map RouteResult.totalWireBytes).sum
  let requiredBw ← bandwidth ops args totalWire
  let zero := ops.ofRat 0
  let util := match args.fabricGibSec with
    | some target =>
      if ops.lt zero target then some (ops.mul (ops.div requiredBw target) (ops.ofRat 100)) else none
    | none => none
  let tileBw := fun t : TileResult F => ops.max t.outboundBandwidthGibSec t.inboundBandwidthGibSec
  .ok
    { totalPayloadBytesPerToken := totalPayload
      totalWireBytesPerToken := totalWire
      requiredFabricGibSec := requiredBw
      fabricGibSecTarget := args.fabricGibSec
      utilizationPercent := util
      status := bandwidthStatus ops requiredBw args.fabricGibSec
      bottleneckRouteId :=
        match ops.maxBy RouteResult.estimatedBandwidthGibSec routeResults with
        | some br => if ops.lt zero br.estimatedBandwidthGibSec then some br.routeId else none
        | none => none
      bottleneckTileId :=
        match ops.maxBy tileBw tileResults with
        | some bt => if ops.lt zero (tileBw bt) then some bt.tileId else none
        | none => none }

/-- What `main` makes of the routes: the results of the routes, of the tiles, and of all together. -/
structure Simulated (F : Type) where
  routes : List (RouteResult F)
  tiles : List (TileResult F)
  aggregate : AggregateResult F

def simulateRoutes (routes : List Fields) (tileCount : ℕ) : Py (Simulated F) := do
  let routeResults ← routes.mapM (simulateRoute ops parse args)
  let tileResults ← simulateTiles ops args routeResults tileCount
  let agg ← simulateAggregate ops args routeResults tileResults
  .ok ⟨routeResults, tileResults, agg⟩

end Simulation

/-- Floats without rounding. -/
def rationalFloats : FloatOps ℚ where
  ofRat := id
  add a b := a + b
  mul a b := a * b
  div a b := a / b
  le a b := decide (a ≤ b)
  lt a b := decide (a < b)

end Att1.Routes
