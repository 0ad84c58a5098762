import Att1.Lib.Json

/-!
# Att1.Routes.Mapper — from a command plan to fabric routes (`compiler/map_commands_to_fabric_routes.py`)

* `validatePlan`: the checks of `_validate_plan`, with the warnings.
* `Builder`: `RouteBuilder`; its `defaultdict(int)`s are functions of what a `dict` keeps of a tile id.
* `mapPlanToRoutes`: `_map_plan_to_routes`; `assembleReport`: `_assemble_report`.

A plan is JSON of any shape, and the mapper raises where Python does.  `render` is the text that an f-string gives.
-/

open Att1.Lib

namespace Att1.Routes

/-! ### Constants -/

/-- `CMD_TYPES_WITH_ROUTES`. -/
def cmdTypesWithRoutes : List String :=
  ["VALIDATE_TENSOR", "TILE_BARRIER", "QUERY_COUNTERS", "TRACE_SNAPSHOT", "FABRIC_SEND", "FABRIC_REDUCE"]

/-- `CMD_TYPES_LOCAL_ONLY`. -/
def cmdTypesLocalOnly : List String :=
  ["LOAD_TENSOR_TILE", "EXEC_MATMUL", "EXEC_SOFTMAX", "EXEC_RMSNORM", "EXEC_ROPE", "EXEC_ATTENTION", "EXEC_FFN",
    "KV_APPEND", "KV_READ", "NOP", "RESET_TILE"]

/-- `ALL_KNOWN_CMD_TYPES`. -/
def allKnownCmdTypes : List String := cmdTypesWithRoutes ++ cmdTypesLocalOnly

/-- `CONTROL_PAYLOAD_BYTES`. -/
def controlPayloadBytes : ℤ := 64

/-- `TRACE_PAYLOAD_BYTES`. -/
def tracePayloadBytes : ℤ := 64

/-- `DEFAULT_ACTIVATION_PAYLOAD_BYTES`. -/
def defaultActivationPayloadBytes : ℤ := 1024

/-! ### Command plan validation -/

/-- `raise ParseError(message)`. -/
def parseError {α : Type} (message : FString) : Py α := .error (.raised "ParseError" message)

/-- `raise MappingError(message)`. -/
def mappingError {α : Type} (message : FString) : Py α := .error (.raised "MappingError" message)

/-- `commands[idx]` in a message. -/
def commandLabel (idx : ℕ) : FString := [.lit "commands[", .val (.int idx), .lit "]"]

/-- The checks for required keys: the first key that is missing. -/
def missingKey (fields : Fields) (keys : List String) : Option String :=
  keys.find? fun key => (fields.lookup key).isNone

/-- `_validate_plan`: the tile count of the header. -/
def checkHeader (plan : Fields) (strict : Bool) : Py ℤ := do
  match missingKey plan ["command_plan_version", "header", "commands"] with
  | some key => parseError [.lit "command plan missing required top-level key: '", .lit key, .lit "'"]
  | none =>
    let ver := dictGet plan "command_plan_version"
    if !ver.eqInt 1 then
      parseError [.lit "command_plan_version=", .repr ver, .lit " is not supported (expected 1)"]
    else
      let header ← (Json.obj plan).item "header"
      let hasTiles ← header.contains "tile_count"
      if !hasTiles then parseError [.lit "command plan header missing required key: 'tile_count'"]
      else
        let hasCount ← header.contains "command_count"
        if !hasCount then parseError [.lit "command plan header missing required key: 'command_count'"]
        else
          let fields ← header.asObj
          let tileCount := dictGet fields "tile_count"
          let positive : FString := [.lit "header.tile_count=", .repr tileCount, .lit " must be a positive integer"]
          match tileCount.asInt? with
          | none => parseError positive
          | some n =>
            if n ≤ 0 then parseError positive
            else
              match (dictGet plan "commands").asList? with
              | none => parseError [.lit "'commands' must be a JSON array"]
              | some _ =>
                let status := dictGetD fields "status" (.str "ok")
                if strict && !status.eqStr "ok" then
                  mappingError [.lit "--strict: command plan header.status=", .repr status, .lit " is not 'ok'"]
                else .ok n

/-- `_validate_plan`: the body of the loop over the commands, with the ids seen and the warnings. -/
def checkCommand (tileCount : ℤ) (seenIds : List ℤ) (idx : ℕ) : Json → Py (List ℤ × List FString)
  | .obj cmd =>
    match missingKey cmd ["command_id", "command_type", "tile_id", "fence_id"] with
    | some key => parseError (commandLabel idx ++ [.lit ": missing required field '", .lit key, .lit "'"])
    | none =>
      match (dictGet cmd "command_id").asInt? with
      | none => parseError (commandLabel idx ++ [.lit ".command_id must be an integer"])
      | some cid => do
        let ids := if cid ∈ seenIds then seenIds else cid :: seenIds
        let duplicate : List FString :=
          if cid ∈ seenIds then
            [commandLabel idx ++ [.lit ": duplicate command_id=", .val (dictGet cmd "command_id")]]
          else []
        let ctype := dictGet cmd "command_type"
        let known ← ctype.inSet allKnownCmdTypes
        let unknown : List FString :=
          if known then []
          else
            [commandLabel idx ++ [.lit ": unknown command_type=", .repr ctype,
              .lit " — no fabric route will be emitted"]]
        let tid := dictGet cmd "tile_id"
        let outside : FString :=
          commandLabel idx ++ [.lit ": tile_id=", .repr tid, .lit " out of range [0, ", .val (.int tileCount), .lit ")"]
        match tid.asInt? with
        | none => mappingError outside
        | some t => if 0 ≤ t ∧ t < tileCount then .ok (ids, duplicate ++ unknown) else mappingError outside
  | _ => parseError (commandLabel idx ++ [.lit " is not an object"])

/-- `_validate_plan`: the loop over the commands, from index `idx` on. -/
def checkCommands (tileCount : ℤ) : List ℤ → ℕ → List Json → Py (List FString)
  | _, _, [] => .ok []
  | seenIds, idx, cmd :: cmds => do
    let (seenIds, warnings) ← checkCommand tileCount seenIds idx cmd
    let rest ← checkCommands tileCount seenIds (idx + 1) cmds
    .ok (warnings ++ rest)

/-- `_validate_plan`. -/
def validatePlan (plan : Fields) (strict : Bool) : Py (List FString) := do
  let tileCount ← checkHeader plan strict
  match dictGet plan "commands" with
  | .arr commands => checkCommands tileCount [] 0 commands
  | _ => .ok []

/-! ### Route generation -/

/-- What `_add` is called with. -/
structure RouteSpec where
  routeType : String
  sourceTile : Json
  destinationTiles : List ℕ
  payloadBytes : Json
  sourceTensor : Json := .null
  sourceCommandId : Json := .null
  destinationTensor : Json := .null
  destinationCommandId : Json := .null
  payloadType : String := "activation"
  dependencyFence : Json := .int 0
  reductionId : ℕ := 0
  reductionBehavior : String := "none"
  orderingPolicy : String := "ordered"
  traceId : Json := .int 0

/-- A route record. -/
structure Route extends RouteSpec where
  routeId : ℕ
  packetCountEstimate : ℕ

def Route.fields (r : Route) : Fields :=
  [("route_id", .int r.routeId),
    ("route_type", .str r.routeType),
    ("source_tile", r.sourceTile),
    ("destination_tiles", .arr (r.destinationTiles.map fun d : ℕ => .int d)),
    ("source_tensor", r.sourceTensor),
    ("source_command_id", r.sourceCommandId),
    ("destination_tensor", r.destinationTensor),
    ("destination_command_id", r.destinationCommandId),
    ("payload_type", .str r.payloadType),
    ("payload_bytes", r.payloadBytes),
    ("packet_count_estimate", .int r.packetCountEstimate),
    ("dependency_fence", r.dependencyFence),
    ("reduction_id", .int r.reductionId),
    ("reduction_behavior", .str r.reductionBehavior),
    ("ordering_policy", .str r.orderingPolicy),
    ("trace_id", r.traceId),
    ("route_status", .str "ok")]

/-- `RouteBuilder`. -/
structure Builder where
  tileCount : Json
  routes : List Route := []
  nextId : ℕ := 1
  tileOutPackets : Json.Key → ℕ := fun _ => 0
  tileInPackets : Json.Key → ℕ := fun _ => 0
  tileOutBytes : Json.Key → Json := fun _ => .int 0
  tileInBytes : Json.Key → Json := fun _ => .int 0
  tileReductionsStarted : Json.Key → ℕ := fun _ => 0
  tileReductionsCompleted : Json.Key → ℕ := fun _ => 0
  tileBarriersStarted : Json.Key → ℕ := fun _ => 0
  tileBarriersCompleted : Json.Key → ℕ := fun _ => 0
  warnings : List FString := []

/-- What a `dict` keeps of the id of a tile. -/
def tileKey (t : ℕ) : Json.Key := .num t

/-- `counts[key] += n`. -/
def bump (counts : Json.Key → ℕ) (key : Json.Key) (n : ℕ) : Json.Key → ℕ :=
  Function.update counts key (counts key + n)

/-- `for t in tiles: counts[t] += n`. -/
def bumpAll (counts : Json.Key → ℕ) (tiles : List ℕ) (n : ℕ) : Json.Key → ℕ :=
  tiles.foldl (fun counts t => bump counts (tileKey t) n) counts

/-- `sums[key] += value`. -/
def addBytes (sums : Json.Key → Json) (key : Json.Key) (value : Json) : Py (Json.Key → Json) := do
  let sum ← (sums key).add value
  .ok (Function.update sums key sum)

/-- `for t in tiles: sums[t] += value`. -/
def addBytesAll (sums : Json.Key → Json) (tiles : List ℕ) (value : Json) : Py (Json.Key → Json) :=
  tiles.foldlM (fun sums t => addBytes sums (tileKey t) value) sums

/-- The route that `add_control_ack` adds. -/
def controlAckRoute (sourceTile : Json) (dests : List ℕ) (sourceCommandId fenceId : Json) : RouteSpec where
  routeType := "CONTROL_ACK"
  sourceTile := sourceTile
  destinationTiles := dests
  payloadBytes := .int controlPayloadBytes
  sourceCommandId := sourceCommandId
  payloadType := "control"
  dependencyFence := fenceId

/-- The route that `add_trace_event` adds. -/
def traceEventRoute (sourceTile : Json) (dests : List ℕ) (sourceCommandId fenceId traceId : Json) : RouteSpec where
  routeType := "TRACE_EVENT"
  sourceTile := sourceTile
  destinationTiles := dests
  payloadBytes := .int tracePayloadBytes
  sourceCommandId := sourceCommandId
  payloadType := "trace_event"
  dependencyFence := fenceId
  traceId := traceId

/-- The route that `add_tile_barrier` adds. -/
def tileBarrierRoute (sourceTile : Json) (dests : List ℕ) (sourceCommandId fenceId : Json) : RouteSpec where
  routeType := "TILE_BARRIER"
  sourceTile := sourceTile
  destinationTiles := dests
  payloadBytes := .int 0
  sourceCommandId := sourceCommandId
  payloadType := "barrier_token"
  dependencyFence := fenceId
  orderingPolicy := "barriered"

/-- The route that `add_activation_send` adds. -/
def activationSendRoute (sourceTile : Json) (destTiles : List ℕ)
    (payloadBytes sourceCommandId tensorName fenceId : Json) : RouteSpec where
  routeType := "ACTIVATION_SEND"
  sourceTile := sourceTile
  destinationTiles := destTiles
  payloadBytes := payloadBytes
  sourceTensor := tensorName
  sourceCommandId := sourceCommandId
  dependencyFence := fenceId

/-- The route that `add_partial_reduce` adds. -/
def partialReduceRoute (sourceTile : Json) (destTiles : List ℕ)
    (payloadBytes sourceCommandId tensorName fenceId : Json) (reductionId : ℕ) (reductionBehavior : String) :
    RouteSpec where
  routeType := "PARTIAL_REDUCE"
  sourceTile := sourceTile
  destinationTiles := destTiles
  payloadBytes := payloadBytes
  sourceTensor := tensorName
  sourceCommandId := sourceCommandId
  payloadType := "partial_result"
  dependencyFence := fenceId
  reductionId := reductionId
  reductionBehavior := reductionBehavior

namespace Builder

/-- `self.warnings.append(warning)`. -/
def warn (b : Builder) (warning : FString) : Builder := { b with warnings := b.warnings ++ [warning] }

/-- `_add`. -/
def add (b : Builder) (spec : RouteSpec) : Py Builder := do
  let positive ← Json.lt (.int 0) spec.payloadBytes
  let pce := if positive then 1 else 0
  let source ← spec.sourceTile.key
  let outBytes ← addBytes b.tileOutBytes source spec.payloadBytes
  let inBytes ← addBytesAll b.tileInBytes spec.destinationTiles spec.payloadBytes
  .ok
    { b with
      routes := b.routes ++ [{ spec with routeId := b.nextId, packetCountEstimate := pce }]
      nextId := b.nextId + 1
      tileOutPackets := bump b.tileOutPackets source pce
      tileInPackets := bumpAll b.tileInPackets spec.destinationTiles pce
      tileOutBytes := outBytes
      tileInBytes := inBytes }

/-- `list(range(self.tile_count))`. -/
def allTiles (tileCount : Json) : Py (List ℕ) := do
  let n ← tileCount.rangeLength
  .ok (List.range n)

/-- `[t for t in range(self.tile_count) if t != source_tile]`. -/
def otherTiles (tileCount sourceTile : Json) : Py (List ℕ) := do
  let tiles ← allTiles tileCount
  .ok (tiles.filter fun t => !sourceTile.eqInt t)

/-- `add_control_ack`. -/
def addControlAck (b : Builder) (sourceTile sourceCommandId fenceId : Json) : Py Builder := do
  let dests ← otherTiles b.tileCount sourceTile
  if dests.isEmpty then
    .ok (b.warn [.lit "CONTROL_ACK for command_id=", .val sourceCommandId,
      .lit " on single-tile plan has no remote destinations; route omitted"])
  else
    b.add (controlAckRoute sourceTile dests sourceCommandId fenceId)

/-- `add_trace_event`. -/
def addTraceEvent (b : Builder) (sourceTile sourceCommandId fenceId traceId : Json) : Py Builder := do
  let dests ← otherTiles b.tileCount sourceTile
  if dests.isEmpty then
    .ok (b.warn [.lit "TRACE_EVENT for command_id=", .val sourceCommandId,
      .lit " on single-tile plan has no remote destinations; route omitted"])
  else
    b.add (traceEventRoute sourceTile dests sourceCommandId fenceId traceId)

/-- `add_tile_barrier`. -/
def addTileBarrier (b : Builder) (sourceTile sourceCommandId fenceId : Json) : Py Builder := do
  let dests ← allTiles b.tileCount
  let b ← b.add (tileBarrierRoute sourceTile dests sourceCommandId fenceId)
  .ok
    { b with
      tileBarriersStarted := bumpAll b.tileBarriersStarted dests 1
      tileBarriersCompleted := bumpAll b.tileBarriersCompleted dests 1 }

/-- `add_activation_send`. -/
def addActivationSend (b : Builder) (sourceTile : Json) (destTiles : List ℕ)
    (payloadBytes sourceCommandId tensorName fenceId : Json) : Py Builder :=
  b.add (activationSendRoute sourceTile destTiles payloadBytes sourceCommandId tensorName fenceId)

/-- `add_partial_reduce`. -/
def addPartialReduce (b : Builder) (sourceTile : Json) (destTiles : List ℕ)
    (payloadBytes sourceCommandId tensorName fenceId : Json) (reductionId : ℕ) (reductionBehavior : String) :
    Py Builder := do
  let source ← sourceTile.key
  let b :=
    { b with
      tileReductionsStarted := bump b.tileReductionsStarted source 1
      tileReductionsCompleted := bumpAll b.tileReductionsCompleted destTiles 1 }
  b.add
    (partialReduceRoute sourceTile destTiles payloadBytes sourceCommandId tensorName fenceId reductionId
      reductionBehavior)

end Builder

/-! ### Mapping logic -/

/-- `tensor_bytes`: the sizes that a placement report gives. -/
abbrev TensorBytes := Json.Key → Option ℕ

/-- `if payload_bytes == 0 and name is not None: payload_bytes = tensor_bytes.get(name, 0)`. -/
def lookupBytes (tensorBytes : TensorBytes) (payloadBytes name : Json) : Py Json :=
  if payloadBytes.eqInt 0 && !name.isNone then do
    let key ← name.key
    .ok (.int ((tensorBytes key).getD 0 : ℕ))
  else .ok payloadBytes

/-- The payload of a `FABRIC_SEND` or a `FABRIC_REDUCE`, with the warning if it is unknown. -/
def payloadOf (tensorBytes : TensorBytes) (ctype : String) (cmd : Fields) (commandId : Json) :
    Py (Json × List FString) := do
  let payload := (dictGet cmd "total_bytes").orElse (.int 0)
  let payload ← lookupBytes tensorBytes payload (dictGet cmd "tensor_id")
  let payload ← lookupBytes tensorBytes payload (dictGet cmd "tensor_name")
  if payload.eqInt 0 then
    .ok (.int defaultActivationPayloadBytes,
      [[.lit (ctype ++ " command_id="), .val commandId, .lit ": payload_bytes unknown; using default 1024"]])
  else .ok (payload, [])

/-- The first of these that stands in the notes, or `"sum"`. -/
def firstNamed (notes : Json) : List String → Py String
  | [] => .ok "sum"
  | rb :: rbs => do
    let named ← notes.contains rb
    if named then .ok rb else firstNamed notes rbs

/-- The reduction behaviour that the notes of a command name. -/
def reductionBehaviorOf (cmd : Fields) : Py String :=
  firstNamed ((dictGet cmd "notes").orElse (.str "")) ["sum", "concat", "max", "topk"]

/-- The warning of a command with no tile to send to. -/
def noDestinations (ctype : String) (commandId : Json) : FString :=
  [.lit (ctype ++ " command_id="), .val commandId, .lit ": no destination tiles (single-tile plan); route omitted"]

/-- `_map_plan_to_routes`: the branch of a `FABRIC_SEND`. -/
def mapSend (tensorBytes : TensorBytes) (tileCount : Json) (b : Builder) (cmd : Fields) (tileId commandId : Json) :
    Py Builder := do
  let (payload, unknown) ← payloadOf tensorBytes "FABRIC_SEND" cmd commandId
  let b := { b with warnings := b.warnings ++ unknown }
  let dests ← Builder.otherTiles tileCount tileId
  if dests.isEmpty then .ok (b.warn (noDestinations "FABRIC_SEND" commandId))
  else
    b.addActivationSend tileId dests payload commandId (dictGet cmd "tensor_name") (dictGetD cmd "fence_id" (.int 0))

/-- `_map_plan_to_routes`: the branch of a `FABRIC_REDUCE`; the number is `reduction_counter`. -/
def mapReduce (tensorBytes : TensorBytes) (tileCount : Json) (b : Builder) (reductionCounter : ℕ) (cmd : Fields)
    (tileId commandId : Json) : Py (Builder × ℕ) := do
  let (payload, unknown) ← payloadOf tensorBytes "FABRIC_REDUCE" cmd commandId
  let b := { b with warnings := b.warnings ++ unknown }
  let reductionBehavior ← reductionBehaviorOf cmd
  let dests ← Builder.otherTiles tileCount tileId
  if dests.isEmpty then .ok (b.warn (noDestinations "FABRIC_REDUCE" commandId), reductionCounter)
  else do
    let b ← b.addPartialReduce tileId dests payload commandId (dictGet cmd "tensor_name")
      (dictGetD cmd "fence_id" (.int 0)) (reductionCounter + 1) reductionBehavior
    .ok (b, reductionCounter + 1)

/-- The body of the loop of `_map_plan_to_routes`; the number is `reduction_counter`. -/
def mapCommand (tensorBytes : TensorBytes) (tileCount : Json) (state : Builder × ℕ) (command : Json) :
    Py (Builder × ℕ) := do
  let (b, reductionCounter) := state
  let ctype ← command.item "command_type"
  let tileId ← command.item "tile_id"
  let commandId ← command.item "command_id"
  let cmd ← command.asObj
  let fenceId := dictGetD cmd "fence_id" (.int 0)
  let isLocal ← ctype.inSet cmdTypesLocalOnly
  if isLocal then .ok (b, reductionCounter)
  else if ctype.eqStr "VALIDATE_TENSOR" then do
    let b ← b.addControlAck tileId commandId fenceId
    .ok (b, reductionCounter)
  else if ctype.eqStr "TILE_BARRIER" then do
    let b ← b.addTileBarrier tileId commandId fenceId
    .ok (b, reductionCounter)
  else if ctype.eqStr "QUERY_COUNTERS" then do
    let b ← b.addControlAck tileId commandId fenceId
    .ok (b, reductionCounter)
  else if ctype.eqStr "TRACE_SNAPSHOT" then do
    let b ← b.addTraceEvent tileId commandId fenceId commandId
    .ok (b, reductionCounter)
  else if ctype.eqStr "FABRIC_SEND" then do
    let b ← mapSend tensorBytes tileCount b cmd tileId commandId
    .ok (b, reductionCounter)
  else if ctype.eqStr "FABRIC_REDUCE" then mapReduce tensorBytes tileCount b reductionCounter cmd tileId commandId
  else
    .ok (b.warn [.lit "command_id=", .val commandId, .lit ": unrecognized command_type=", .repr ctype,
      .lit "; route omitted"], reductionCounter)

/-- `_map_plan_to_routes`. -/
def mapPlanToRoutes (plan : Fields) (tensorBytes : TensorBytes) : Py Builder := do
  let header ← (Json.obj plan).item "header"
  let tileCount ← header.item "tile_count"
  let commands ← (Json.obj plan).item "commands"
  let commands ← commands.iter
  let (b, _) ← commands.foldlM (mapCommand tensorBytes tileCount) (({ tileCount := tileCount } : Builder), 0)
  .ok b

/-! ### Report assembly -/

/-- A record of `tile_summaries`. -/
structure TileSummary where
  tileId : ℕ
  outboundPacketCount : ℕ
  inboundPacketCount : ℕ
  outboundPayloadBytes : Json
  inboundPayloadBytes : Json
  reductionsStarted : ℕ
  reductionsCompleted : ℕ
  barriersStarted : ℕ
  barriersCompleted : ℕ

def TileSummary.fields (tile : TileSummary) : Fields :=
  [("tile_id", .int tile.tileId),
    ("outbound_packet_count", .int tile.outboundPacketCount),
    ("inbound_packet_count", .int tile.inboundPacketCount),
    ("outbound_payload_bytes", tile.outboundPayloadBytes),
    ("inbound_payload_bytes", tile.inboundPayloadBytes),
    ("reductions_started", .int tile.reductionsStarted),
    ("reductions_completed", .int tile.reductionsCompleted),
    ("barriers_started", .int tile.barriersStarted),
    ("barriers_completed", .int tile.barriersCompleted),
    ("route_failures", .int 0),
    ("estimated_bandwidth_gib_sec", .null)]

def Builder.tileSummary (b : Builder) (tid : ℕ) : TileSummary where
  tileId := tid
  outboundPacketCount := b.tileOutPackets (tileKey tid)
  inboundPacketCount := b.tileInPackets (tileKey tid)
  outboundPayloadBytes := b.tileOutBytes (tileKey tid)
  inboundPayloadBytes := b.tileInBytes (tileKey tid)
  reductionsStarted := b.tileReductionsStarted (tileKey tid)
  reductionsCompleted := b.tileReductionsCompleted (tileKey tid)
  barriersStarted := b.tileBarriersStarted (tileKey tid)
  barriersCompleted := b.tileBarriersCompleted (tileKey tid)

/-- `tile_summaries`. -/
def Builder.tileSummaries (b : Builder) : Py (List TileSummary) := do
  let tiles ← Builder.allTiles b.tileCount
  .ok (tiles.map b.tileSummary)

/-- `packet_count_estimate`. -/
def Builder.packetCountEstimate (b : Builder) : ℕ := (b.routes.map (·.packetCountEstimate)).sum

/-- `payload_bytes_estimate`. -/
def Builder.payloadBytesEstimate (b : Builder) : Py Json :=
  b.routes.foldlM (fun sum r => sum.add r.payloadBytes) (.int 0)

/-- The arguments of the tool that a report repeats. -/
structure ReportArgs where
  planPath : String
  placementPath : Option String
  strict : Bool
  nowIso : String
  render : FString → String

/-- `_assemble_report`. -/
def assembleReport (plan : Fields) (b : Builder) (args : ReportArgs) (mapWarnings : List FString) : Py Fields := do
  let header ← (Json.obj plan).item "header"
  let header ← header.asObj
  let modelName := ((dictGet header "model_name").orElse (dictGet header "model_id")).orElse (.str "unknown")
  let modelId := (dictGet header "model_id").orElse (.str "unknown")
  let sessionId := (dictGet header "session_id").orElse (.str "session_0")
  let tileCount ← (Json.obj header).item "tile_count"
  let reportWarnings := (mapWarnings ++ b.warnings).map fun w =>
    Json.obj [("severity", .str "warning"), ("message", .str (args.render w))]
  let reportStatus :=
    if !reportWarnings.isEmpty && args.strict then "fail" else if !reportWarnings.isEmpty then "warn" else "pass"
  let payloadBytesEstimate ← b.payloadBytesEstimate
  let tiles ← b.tileSummaries
  .ok
    [("header", .obj
        [("route_report_version", .int 1),
          ("source_placement_report", match args.placementPath with
            | some path => .str path
            | none => .null),
          ("source_command_plan", .str args.planPath),
          ("model_name", modelName),
          ("model_id", modelId),
          ("session_id", sessionId),
          ("tile_count", tileCount),
          ("route_count", .int b.routes.length),
          ("packet_count_estimate", .int b.packetCountEstimate),
          ("payload_bytes_estimate", payloadBytesEstimate),
          ("fabric_policy", .str "layer_wise"),
          ("status", .str reportStatus),
          ("report_timestamp", .str args.nowIso)]),
      ("routes", .arr (b.routes.map fun r => .obj r.fields)),
      ("tiles", .arr (tiles.map fun tile => .obj tile.fields)),
      ("warnings", .arr reportWarnings),
      ("failures", .arr [])]

end Att1.Routes
