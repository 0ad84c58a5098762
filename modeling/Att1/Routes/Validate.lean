import Att1.Lib.Json

/-!
# Att1.Routes.Validate — the fabric-route validator (`compiler/validate_fabric_routes.py`)

A check returns the diagnostics it records, in order; a warning of the strict mode is recorded as an error as well.
`validateReport` runs the four phases of `main`.
-/

open Att1.Lib

namespace Att1.Routes

/-! ### Constants -/

/-- `VALID_ROUTE_TYPES`. -/
def validRouteTypes : List String :=
  ["ACTIVATION_SEND", "ACTIVATION_BROADCAST", "PARTIAL_REDUCE", "LOGITS_REDUCE", "KV_TRANSFER", "TILE_BARRIER",
    "TRACE_EVENT", "CONTROL_ACK"]

/-- `DATA_ROUTE_TYPES`. -/
def dataRouteTypes : List String :=
  ["ACTIVATION_SEND", "ACTIVATION_BROADCAST", "PARTIAL_REDUCE", "LOGITS_REDUCE", "KV_TRANSFER"]

/-- `REDUCTION_ROUTE_TYPES`. -/
def reductionRouteTypes : List String := ["PARTIAL_REDUCE", "LOGITS_REDUCE"]

/-- `BARRIER_ROUTE_TYPES`. -/
def barrierRouteTypes : List String := ["TILE_BARRIER"]

/-- `VALID_REDUCTION_BEHAVIORS`. -/
def validReductionBehaviors : List String := ["none", "sum", "concat", "max", "topk", "pass_through"]

/-- `EXPLICIT_REDUCTION_BEHAVIORS`. -/
def explicitReductionBehaviors : List String := ["sum", "concat", "max", "topk"]

/-- `VALID_ORDERING_POLICIES`. -/
def validOrderingPolicies : List String := ["ordered", "unordered", "barriered"]

/-- `VALID_ROUTE_STATUSES`. -/
def validRouteStatuses : List String := ["ok", "warn", "fail", "skipped"]

/-- `VALID_REPORT_STATUSES`. -/
def validReportStatuses : List String := ["pass", "warn", "fail"]

/-- `SELF_DEST_ALLOWED_TYPES`. -/
def selfDestAllowedTypes : List String := ["TILE_BARRIER", "TRACE_EVENT", "CONTROL_ACK"]

/-- The types that may have no destination. -/
def noDestAllowedTypes : List String := ["TRACE_EVENT", "CONTROL_ACK"]

/-! ### Result collector -/

inductive DiagSeverity
  | warning
  | error
  deriving DecidableEq

/-- A record of `ValidationResult`. -/
structure Diag where
  severity : DiagSeverity
  rule : String
  message : FString

/-- `res.error`. -/
def diagError (rule : String) (message : FString) : Diag := ⟨.error, rule, message⟩

/-- `res.warn`. -/
def diagWarn (rule : String) (message : FString) : Diag := ⟨.warning, rule, message⟩

/-- `res.errors`: in the strict mode all records. -/
def errorsOf (strict : Bool) (diags : List Diag) : List Diag :=
  if strict then diags else diags.filter (·.severity = .error)

/-- `not isinstance(value, int) or value < 0`. -/
def isNegative (value : Json) : Bool :=
  match value.asInt? with
  | some n => n < 0
  | none => true

/-- `value is not None and not value in texts`, for a set. -/
def unknownIn (value : Json) (texts : List String) : Py Bool := do
  let known ← value.inSet texts
  .ok (!known)

/-! ### Header -/

/-- `validate_header`: the diagnostics of the version. -/
def checkVersion (header : Fields) : List Diag :=
  let ver := dictGet header "route_report_version"
  let unsupported := [diagError "UNSUPPORTED_VERSION"
    [.lit "header.route_report_version=", .repr ver, .lit " is not supported (supported: [1])"]]
  if ver.isNone then [diagError "MISSING_VERSION" [.lit "header.route_report_version is missing"]]
  else
    match ver.asInt? with
    | some n => if n = 1 then [] else unsupported
    | none => unsupported

/-- `validate_header`: the tile count, 0 on error, and its diagnostics. -/
def checkTileCount (header : Fields) : ℕ × List Diag :=
  let tileCount := dictGet header "tile_count"
  let invalid := [diagError "INVALID_TILE_COUNT"
    [.lit "header.tile_count=", .repr tileCount, .lit " must be a positive integer"]]
  if tileCount.isNone then (0, [diagError "MISSING_TILE_COUNT" [.lit "header.tile_count is missing"]])
  else
    match tileCount.asInt? with
    | some n => if n ≤ 0 then (0, invalid) else (n.toNat, [])
    | none => (0, invalid)

/-- `validate_header`: the diagnostics of the counts. -/
def checkCounts (header : Fields) : List Diag :=
  let routeCount := dictGet header "route_count"
  let pce := dictGet header "packet_count_estimate"
  let pbe := dictGet header "payload_bytes_estimate"
  let routes :=
    if routeCount.isNone then [diagError "MISSING_ROUTE_COUNT" [.lit "header.route_count is missing"]]
    else if isNegative routeCount then
      [diagError "INVALID_ROUTE_COUNT"
        [.lit "header.route_count=", .repr routeCount, .lit " must be a non-negative integer"]]
    else []
  let packets :=
    if !pce.isNone && isNegative pce then
      [diagError "INVALID_PACKET_COUNT_ESTIMATE"
        [.lit "header.packet_count_estimate=", .repr pce, .lit " must be non-negative"]]
    else []
  let bytes :=
    if !pbe.isNone && isNegative pbe then
      [diagError "INVALID_PAYLOAD_BYTES_ESTIMATE"
        [.lit "header.payload_bytes_estimate=", .repr pbe, .lit " must be non-negative"]]
    else []
  routes ++ packets ++ bytes

/-- `validate_header`: the diagnostics of the status. -/
def checkStatus (strict : Bool) (header : Fields) : Py (List Diag) := do
  let status := dictGet header "status"
  let known ←
    if status.isNone then .ok [diagError "MISSING_STATUS" [.lit "header.status is missing"]]
    else do
      let unknown ← unknownIn status validReportStatuses
      .ok <|
        if unknown then
          [diagError "INVALID_STATUS"
            [.lit "header.status=", .repr status, .lit " is not recognized (valid: ['fail', 'pass', 'warn'])"]]
        else []
  let notPass :=
    if strict && !status.eqStr "pass" then
      [diagError "STRICT_STATUS_NOT_PASS"
        [.lit "--strict: header.status=", .repr (if status.isNone then .str "unknown" else status),
          .lit " is not 'pass'"]]
    else []
  .ok (known ++ notPass)

/-- `validate_header`: the tile count and the diagnostics. -/
def validateHeader (strict : Bool) (report : Fields) : Py (ℕ × List Diag) :=
  let header := dictGet report "header"
  if header.isNone then .ok (0, [diagError "MISSING_HEADER" [.lit "Missing top-level 'header' key"]])
  else do
    let header ← header.asObj
    let (tileCount, tiles) := checkTileCount header
    let status ← checkStatus strict header
    .ok (tileCount, checkVersion header ++ tiles ++ checkCounts header ++ status)

/-! ### Route records -/

/-- `not isinstance(tile, int) or (tile_count > 0 and not (0 <= tile < tile_count))`. -/
def isOutside (tileCount : ℕ) (tile : Json) : Bool :=
  match tile.asInt? with
  | some t => decide (0 < tileCount ∧ ¬ (0 ≤ t ∧ t < tileCount))
  | none => true

/-- The checks of `route_id`: the ids seen from now on, and the diagnostics. -/
def checkRouteId (ctx : FString) (seenIds : List ℤ) (route : Fields) : List ℤ × List Diag :=
  let rid := dictGet route "route_id"
  if rid.isNone then (seenIds, [diagError "MISSING_ROUTE_ID" (ctx ++ [.lit ": route_id is missing"])])
  else
    match rid.asInt? with
    | none =>
      (seenIds, [diagError "INVALID_ROUTE_ID" (ctx ++ [.lit ": route_id must be an integer, got ", .repr rid])])
    | some n =>
      if n ∈ seenIds then
        (seenIds, [diagError "DUPLICATE_ROUTE_ID" (ctx ++ [.lit ": route_id=", .val rid, .lit " is duplicated"])])
      else (n :: seenIds, [])

/-- The checks of `route_type`: the type that the other checks go by, and the diagnostics. -/
def checkRouteType (ctx : FString) (route : Fields) : Py (Json × List Diag) :=
  let rtype := dictGet route "route_type"
  if rtype.isNone then
    .ok (.str "__unknown__", [diagError "MISSING_ROUTE_TYPE" (ctx ++ [.lit ": route_type is missing"])])
  else do
    let unknown ← unknownIn rtype validRouteTypes
    .ok (rtype,
      if unknown then
        [diagError "UNSUPPORTED_PACKET_TYPE" (ctx ++ [.lit ": route_type=", .repr rtype, .lit " is not recognized"])]
      else [])

/-- The checks of `source_tile`: the source that the other checks go by, and the diagnostics. -/
def checkSourceTile (ctx : FString) (tileCount : ℕ) (route : Fields) : Json × List Diag :=
  let src := dictGet route "source_tile"
  if src.isNone then (.int (-1), [diagError "MISSING_SOURCE_TILE" (ctx ++ [.lit ": source_tile is missing"])])
  else
    (src,
      if isOutside tileCount src then
        [diagError "INVALID_TILE_TARGET"
          (ctx ++ [.lit ": source_tile=", .repr src, .lit " is out of range [0, ", .val (.int tileCount), .lit ")"])]
      else [])

/-- The checks of the entries of `destination_tiles`. -/
def checkDests (ctx : FString) (tileCount : ℕ) (rtype src : Json) (dests : List Json) : Py (List Diag) := do
  let outside := dests.zipIdx.flatMap fun dest =>
    if isOutside tileCount dest.1 then
      [diagError "INVALID_TILE_TARGET"
        (ctx ++ [.lit ": destination_tiles[", .val (.int dest.2), .lit "]=", .repr dest.1,
          .lit " is out of range [0, ", .val (.int tileCount), .lit ")"])]
    else []
  let selfBanned ← unknownIn rtype selfDestAllowedTypes
  let self :=
    if selfBanned then
      dests.flatMap fun d =>
        if src.asInt?.isSome && d.eq src then
          [diagError "SELF_ROUTE"
            (ctx ++ [.lit ": source_tile=", .val src, .lit " appears in destination_tiles for route_type=", .repr rtype,
              .lit " (self-routing not permitted for this type)"])]
        else []
    else []
  .ok (outside ++ self)

/-- The checks of `destination_tiles`. -/
def checkDestinationTiles (ctx : FString) (tileCount : ℕ) (rtype src : Json) (route : Fields) : Py (List Diag) :=
  let dests := dictGet route "destination_tiles"
  let empty := match dests with
    | .null => true
    | .arr [] => true
    | _ => false
  if empty then do
    let required ← unknownIn rtype noDestAllowedTypes
    .ok <|
      if required then
        [diagError "EMPTY_DESTINATION"
          (ctx ++ [.lit ": destination_tiles is missing or empty for route_type=", .repr rtype])]
      else []
  else
    match dests with
    | .arr dests => checkDests ctx tileCount rtype src dests
    | _ => .ok [diagError "INVALID_DEST_TYPE" (ctx ++ [.lit ": destination_tiles must be a JSON array"])]

/-- The checks of `payload_bytes`. -/
def checkPayloadBytes (ctx : FString) (rtype : Json) (route : Fields) : Py (List Diag) :=
  let pbytes := dictGet route "payload_bytes"
  if pbytes.isNone then .ok [diagError "MISSING_PAYLOAD_BYTES" (ctx ++ [.lit ": payload_bytes is missing"])]
  else if isNegative pbytes then
    .ok [diagError "INVALID_PAYLOAD_BYTES" (ctx ++ [.lit ": payload_bytes must be a non-negative integer"])]
  else do
    let isData ← rtype.inSet dataRouteTypes
    .ok <|
      if isData && pbytes.eqInt 0 then
        [diagError "ZERO_PAYLOAD" (ctx ++ [.lit ": payload_bytes=0 for data route_type=", .repr rtype])]
      else []

/-- The checks of `packet_count_estimate`. -/
def checkPacketCount (ctx : FString) (rtype : Json) (route : Fields) : Py (List Diag) :=
  let pce := dictGet route "packet_count_estimate"
  if pce.isNone then .ok []
  else if isNegative pce then
    .ok [diagError "INVALID_ROUTE_PACKET_COUNT" (ctx ++ [.lit ": packet_count_estimate must be non-negative"])]
  else do
    let isData ← rtype.inSet dataRouteTypes
    .ok <|
      if isData && pce.eqInt 0 then
        [diagError "ZERO_PACKET_COUNT" (ctx ++ [.lit ": packet_count_estimate=0 for data route_type=", .repr rtype])]
      else []

/-- The checks of `reduction_behavior`. -/
def checkReductionBehavior (ctx : FString) (rtype : Json) (route : Fields) : Py (List Diag) :=
  let rb := dictGet route "reduction_behavior"
  if rb.isNone then
    .ok [diagError "MISSING_REDUCTION_BEHAVIOR" (ctx ++ [.lit ": reduction_behavior is missing"])]
  else do
    let unknown ← unknownIn rb validReductionBehaviors
    if unknown then
      .ok [diagError "UNKNOWN_REDUCTION_BEHAVIOR"
        (ctx ++ [.lit ": reduction_behavior=", .repr rb, .lit " is not recognized"])]
    else do
      let isReduction ← rtype.inSet reductionRouteTypes
      let implicit ← unknownIn rb explicitReductionBehaviors
      .ok <|
        if isReduction && implicit then
          [diagError "REDUCTION_NOT_EXPLICIT"
            (ctx ++ [.lit ": route_type=", .repr rtype, .lit " requires an explicit reduction_behavior (got ", .repr rb,
              .lit "; expected one of ['concat', 'max', 'sum', 'topk'])"])]
        else []

/-- The checks of `reduction_id`. -/
def checkReductionId (ctx : FString) (rtype : Json) (route : Fields) : Py (List Diag) := do
  let rid := dictGet route "reduction_id"
  let isReduction ← rtype.inSet reductionRouteTypes
  .ok <|
    if isReduction then
      if rid.isNone then
        [diagError "MISSING_REDUCTION_ID" (ctx ++ [.lit ": reduction_id is required for ", .repr rtype])]
      else if isNegative rid then
        [diagError "INVALID_REDUCTION_ID" (ctx ++ [.lit ": reduction_id must be a non-negative integer"])]
      else []
    else []

/-- The checks of `ordering_policy`. -/
def checkOrderingPolicy (ctx : FString) (rtype : Json) (route : Fields) : Py (List Diag) :=
  let op := dictGet route "ordering_policy"
  if op.isNone then .ok [diagError "MISSING_ORDERING_POLICY" (ctx ++ [.lit ": ordering_policy is missing"])]
  else do
    let unknown ← unknownIn op validOrderingPolicies
    if unknown then
      .ok [diagError "UNKNOWN_ORDERING_POLICY"
        (ctx ++ [.lit ": ordering_policy=", .repr op, .lit " is not recognized"])]
    else do
      let isBarrier ← rtype.inSet barrierRouteTypes
      .ok <|
        if isBarrier && !op.eqStr "barriered" then
          [diagError "BARRIER_ORDERING"
            (ctx ++ [.lit ": route_type=", .repr rtype, .lit " must have ordering_policy='barriered', got ", .repr op])]
        else []

/-- The checks of `route_status`. -/
def checkRouteStatus (ctx : FString) (route : Fields) : Py (List Diag) :=
  let rs := dictGet route "route_status"
  if rs.isNone then .ok [diagError "MISSING_ROUTE_STATUS" (ctx ++ [.lit ": route_status is missing"])]
  else do
    let unknown ← unknownIn rs validRouteStatuses
    .ok <|
      if unknown then
        [diagError "UNKNOWN_ROUTE_STATUS" (ctx ++ [.lit ": route_status=", .repr rs, .lit " is not recognized"])]
      else []

/-- The body of the loop of `validate_routes`. -/
def checkRoute (ctx : FString) (tileCount : ℕ) (seenIds : List ℤ) (route : Fields) : Py (List ℤ × List Diag) := do
  let (seenIds, ids) := checkRouteId ctx seenIds route
  let (rtype, types) ← checkRouteType ctx route
  let (src, sources) := checkSourceTile ctx tileCount route
  let dests ← checkDestinationTiles ctx tileCount rtype src route
  let payload ← checkPayloadBytes ctx rtype route
  let packets ← checkPacketCount ctx rtype route
  let behavior ← checkReductionBehavior ctx rtype route
  let reduction ← checkReductionId ctx rtype route
  let ordering ← checkOrderingPolicy ctx rtype route
  let status ← checkRouteStatus ctx route
  .ok (seenIds, ids ++ types ++ sources ++ dests ++ payload ++ packets ++ behavior ++ reduction ++ ordering ++ status)

/-- The loop of `validate_routes` from index `idx` on: the routes for which nothing was recorded (`route_ok`), and the
diagnostics. -/
def checkRoutes (tileCount : ℕ) : List ℤ → ℕ → List Json → Py (List Fields × List Diag)
  | _, _, [] => .ok ([], [])
  | seenIds, idx, .obj route :: routes => do
    let (seenIds, diags) ← checkRoute [.lit "routes[", .val (.int idx), .lit "]"] tileCount seenIds route
    let (valid, rest) ← checkRoutes tileCount seenIds (idx + 1) routes
    .ok (if diags.isEmpty then route :: valid else valid, diags ++ rest)
  | seenIds, idx, _ :: routes => do
    let (valid, rest) ← checkRoutes tileCount seenIds (idx + 1) routes
    .ok (valid,
      diagError "INVALID_ROUTE_ITEM" [.lit "routes[", .val (.int idx), .lit "] is not an object"] :: rest)

/-- `validate_routes`. -/
def validateRoutes (report : Fields) (tileCount : ℕ) : Py (List Fields × List Diag) :=
  match dictGet report "routes" with
  | .null => .ok ([], [diagError "MISSING_ROUTES" [.lit "Missing top-level 'routes' key"]])
  | .arr routes => checkRoutes tileCount [] 0 routes
  | _ => .ok ([], [diagError "INVALID_ROUTES_TYPE" [.lit "'routes' must be a JSON array"]])

/-! ### Per-tile summaries -/

/-- `non_neg_fields`. -/
def nonNegFields : List String :=
  ["outbound_packet_count", "inbound_packet_count", "outbound_payload_bytes", "inbound_payload_bytes",
    "reductions_started", "reductions_completed", "barriers_started", "barriers_completed", "route_failures"]

/-- The checks of `tile_id`: the ids seen from now on, and the diagnostics. -/
def checkSummaryId (ctx : FString) (tileCount : ℕ) (seenIds : List ℤ) (tile : Fields) : List ℤ × List Diag :=
  let tid := dictGet tile "tile_id"
  let outside := [diagError "INVALID_TILE_ID"
    (ctx ++ [.lit ": tile_id=", .repr tid, .lit " out of range [0, ", .val (.int tileCount), .lit ")"])]
  if tid.isNone then (seenIds, [diagError "MISSING_TILE_ID" (ctx ++ [.lit ": tile_id is missing"])])
  else if isOutside tileCount tid then (seenIds, outside)
  else
    match tid.asInt? with
    | none => (seenIds, outside)
    | some n =>
      if n ∈ seenIds then
        (seenIds, [diagError "DUPLICATE_TILE_ID" (ctx ++ [.lit ": tile_id=", .val tid, .lit " is duplicated"])])
      else (n :: seenIds, [])

/-- The check of one of the fields that must not be negative. -/
def checkNonNeg (ctx : FString) (tile : Fields) (field : String) : List Diag :=
  let val := dictGet tile field
  if val.isNone then [diagError "MISSING_TILE_FIELD" (ctx ++ [.lit (": " ++ field ++ " is missing")])]
  else if isNegative val then
    [diagError "INVALID_TILE_FIELD"
      (ctx ++ [.lit (": " ++ field ++ "="), .repr val, .lit " must be a non-negative integer"])]
  else []

/-- The check of `estimated_bandwidth_gib_sec`. -/
def checkBandwidth (ctx : FString) (tile : Fields) : Py (List Diag) :=
  let bw := dictGet tile "estimated_bandwidth_gib_sec"
  let invalid := [diagError "INVALID_BANDWIDTH"
    (ctx ++ [.lit ": estimated_bandwidth_gib_sec=", .repr bw, .lit " must be finite and non-negative"])]
  if bw.isNone then .ok []
  else
    match bw.number? with
    | some q => do
      let finite ← bw.isFinite
      .ok (if !finite || q < 0 then invalid else [])
    | none => .ok invalid

/-- The loop of `validate_tiles` from index `idx` on: the tiles for which nothing was recorded (`tile_ok`), and the
diagnostics. -/
def checkTiles (tileCount : ℕ) : List ℤ → ℕ → List Json → Py (List Fields × List Diag)
  | _, _, [] => .ok ([], [])
  | seenIds, idx, .obj tile :: tiles => do
    let ctx : FString := [.lit "tiles[", .val (.int idx), .lit "]"]
    let (seenIds, ids) := checkSummaryId ctx tileCount seenIds tile
    let bandwidth ← checkBandwidth ctx tile
    let diags := ids ++ nonNegFields.flatMap (checkNonNeg ctx tile) ++ bandwidth
    let (valid, rest) ← checkTiles tileCount seenIds (idx + 1) tiles
    .ok (if diags.isEmpty then tile :: valid else valid, diags ++ rest)
  | seenIds, idx, _ :: tiles => do
    let (valid, rest) ← checkTiles tileCount seenIds (idx + 1) tiles
    .ok (valid, diagError "INVALID_TILE_ITEM" [.lit "tiles[", .val (.int idx), .lit "] is not an object"] :: rest)

/-- `validate_tiles`. -/
def validateTiles (report : Fields) (tileCount : ℕ) : Py (List Fields × List Diag) :=
  match dictGet report "tiles" with
  | .null => .ok ([], [diagError "MISSING_TILES" [.lit "Missing top-level 'tiles' key"]])
  | .arr tiles => checkTiles tileCount [] 0 tiles
  | _ => .ok ([], [diagError "INVALID_TILES_TYPE" [.lit "'tiles' must be a JSON array"]])

/-! ### Consistency -/

/-- A `defaultdict(int)` under tile ids. -/
abbrev Sums := Json.Key → Json

/-- `if isinstance(tile, int) and tile >= 0: sums[tile] += value`. -/
def addAt (sums : Sums) (tile value : Json) : Py Sums :=
  match tile.asInt? with
  | some t =>
    if 0 ≤ t then do
      let sum ← (sums (.num t)).add value
      .ok (Function.update sums (.num t) sum)
    else .ok sums
  | none => .ok sums

/-- The packets that the routes send out of and into each tile. -/
def packetSums (routes : List Fields) : Py (Sums × Sums) :=
  routes.foldlM (fun sums route => do
    let pce := (dictGetD route "packet_count_estimate" (.int 0)).orElse (.int 0)
    let dests ← ((dictGet route "destination_tiles").orElse (.arr [])).iter
    let outbound ← addAt sums.1 (dictGet route "source_tile") pce
    let inbound ← dests.foldlM (fun inbound d => addAt inbound d pce) sums.2
    .ok (outbound, inbound)) (fun _ => .int 0, fun _ => .int 0)

/-- The comparison of a count that a tile reports with the sum over the routes. -/
def checkTileSum (rule field : String) (tid : Json) (tile : Fields) (expected : Json) : List Diag :=
  let reported := (dictGetD tile field (.int 0)).orElse (.int 0)
  if reported.eq expected then []
  else
    [diagWarn rule [.lit "tiles[tile_id=", .val tid, .lit ("]: " ++ field ++ "="), .val reported,
      .lit " but sum from route records=", .val expected]]

/-- `validate_consistency`: the diagnostics of the tiles. -/
def checkTileSums (sums : Sums × Sums) (tile : Fields) : List Diag :=
  let tid := dictGet tile "tile_id"
  match tid.asInt? with
  | none => []
  | some t =>
    checkTileSum "TILE_OUTBOUND_MISMATCH" "outbound_packet_count" tid tile (sums.1 (.num t)) ++
      checkTileSum "TILE_INBOUND_MISMATCH" "inbound_packet_count" tid tile (sums.2 (.num t))

/-- `len(value or [])`. -/
def lengthOf (value : Json) : Py ℕ :=
  match value.orElse (.arr []) with
  | .str text => .ok text.length
  | .arr items => .ok items.length
  | .obj fields => .ok fields.length
  | _ => .error .typeError

/-- `validate_consistency`. -/
def validateConsistency (report : Fields) (routes tiles : List Fields) : Py (List Diag) := do
  let header ← ((dictGet report "header").orElse (.obj [])).asObj
  let declared := dictGet header "route_count"
  let actual ← lengthOf (dictGet report "routes")
  let counts :=
    match declared.asInt? with
    | some n =>
      if n ≠ actual then
        [diagError "ROUTE_COUNT_MISMATCH"
          [.lit "header.route_count=", .val declared, .lit " does not match actual route list length=",
            .val (.int actual)]]
      else []
    | none => []
  let sums ← packetSums routes
  let lists := ["warnings", "failures"].flatMap fun key =>
    let lst := dictGet report key
    if lst.isNone || lst.asList?.isSome then []
    else [diagError "INVALID_DIAG_LIST" [.lit ("Top-level '" ++ key ++ "' must be a JSON array")]]
  .ok (counts ++ tiles.flatMap (checkTileSums sums) ++ lists)

/-- The four phases of `main`, with all diagnostics. -/
def validateReport (strict : Bool) (report : Fields) : Py (List Diag) := do
  let (tileCount, header) ← validateHeader strict report
  let (validRoutes, routes) ← validateRoutes report tileCount
  let (validTiles, tiles) ← validateTiles report tileCount
  let consistency ← validateConsistency report validRoutes validTiles
  .ok (header ++ routes ++ tiles ++ consistency)

end Att1.Routes
