import Att1.Lib.Fallible
import Att1.Lib.Json

/-!
# Att1.Planner.Plan — the execution planner (`compiler/plan_tensor_execution.py`)

`plan` turns a placement report into the commands of one token step.  A report is JSON of any shape; the planner raises
where Python does.

The commands of a layer, and those of the LM head, are a chain: each waits for the fence of the one before.  `layerSpecs`
and `lmHeadSpecs` list them, `chain` issues them.
-/

open Att1.Lib

namespace Att1.Planner

/-- `SUPPORTED_PLACEMENT_POLICIES`. -/
def supportedPlacementPolicies : List String :=
  ["layer_wise", "tensor_wise", "row_split", "column_split", "head_wise", "lm_head_split", "embedding_split"]

/-! ### Commands -/

/-- A command, as `_make_cmd` returns it. -/
structure PlanCommand where
  planCommandId : ℕ
  tileId : Json
  layerId : ℤ
  tokenPhase : String
  executionPhase : String
  commandType : String
  tensorDependencies : List Json
  inputBuffers : List Json
  outputBuffers : List Json
  requiredRoutes : List Json
  requiredReductions : List Json
  fenceId : ℕ
  dependencyFenceId : ℕ
  expectedStatus : String
  traceFlags : ℤ

def PlanCommand.fields (cmd : PlanCommand) : Fields :=
  [("plan_command_id", .int cmd.planCommandId),
    ("tile_id", cmd.tileId),
    ("layer_id", .int cmd.layerId),
    ("token_phase", .str cmd.tokenPhase),
    ("execution_phase", .str cmd.executionPhase),
    ("command_type", .str cmd.commandType),
    ("tensor_dependencies", .arr cmd.tensorDependencies),
    ("input_buffers", .arr cmd.inputBuffers),
    ("output_buffers", .arr cmd.outputBuffers),
    ("required_routes", .arr cmd.requiredRoutes),
    ("required_reductions", .arr cmd.requiredReductions),
    ("fence_id", .int cmd.fenceId),
    ("dependency_fence_id", .int cmd.dependencyFenceId),
    ("expected_status", .str cmd.expectedStatus),
    ("trace_flags", .int cmd.traceFlags)]

/-- What a command does, apart from its place in the plan. -/
structure CommandSpec where
  executionPhase : String
  commandType : String
  tensorDeps : List Json := []
  inputBufs : List Json := []
  outputBufs : List Json := []
  requiredRoutes : List Json := []
  requiredReductions : List Json := []
  traceFlags : ℤ := 0

/-- `next_id`, `next_fence` and `notes`. -/
structure PlannerState where
  nextId : ℕ
  nextFence : ℕ
  notes : List FString

abbrev PlanM := Fallible PlannerState PyError

/-- `f = next_fence[0]; next_fence[0] += 1`. -/
def takeFence : PlanM ℕ := do
  let s ← get
  set { s with nextFence := s.nextFence + 1 }
  pure s.nextFence

/-- `notes.append(note)`. -/
def addNote (note : FString) : PlanM Unit := modify fun s => { s with notes := s.notes ++ [note] }

/-- `_make_cmd`. -/
def makeCmd (tileId : Json) (layerId : ℤ) (tokenPhase : String) (spec : CommandSpec) (fenceId depFenceId : ℕ) :
    PlanM PlanCommand := do
  let s ← get
  set { s with nextId := s.nextId + 1 }
  pure
    { planCommandId := s.nextId
      tileId := tileId
      layerId := layerId
      tokenPhase := tokenPhase
      executionPhase := spec.executionPhase
      commandType := spec.commandType
      tensorDependencies := spec.tensorDeps
      inputBuffers := spec.inputBufs
      outputBuffers := spec.outputBufs
      requiredRoutes := spec.requiredRoutes
      requiredReductions := spec.requiredReductions
      fenceId := fenceId
      dependencyFenceId := depFenceId
      expectedStatus := "ok"
      traceFlags := spec.traceFlags }

/-- `_buf`. -/
def buf (regionType : String) (byteSize dtype : Json) : Json :=
  .obj [("region_type", .str regionType), ("byte_size", byteSize), ("dtype", dtype)]

/-- `_dtype_bytes`. -/
def dtypeBytes (dtype : Json) : Py ℤ := do
  let key ← dtype.key
  .ok (if key = .str "f32" then 4 else if key = .str "q8" ∨ key = .str "q4" then 1 else 4)

/-- One command for each spec, each with a fence of its own and no dependency. -/
def independent (tileId : Json) (tokenPhase : String) : List CommandSpec → PlanM (List PlanCommand)
  | [] => pure []
  | spec :: specs => do
    let f ← takeFence
    let cmd ← makeCmd tileId (-1) tokenPhase spec f 0
    let cmds ← independent tileId tokenPhase specs
    pure (cmd :: cmds)

/-- One command for each spec, each with a fence of its own, that depends on the fence before. -/
def chain (tileId : Json) (layerId : ℤ) (tokenPhase : String) : ℕ → List CommandSpec → PlanM (List PlanCommand)
  | _, [] => pure []
  | depFence, spec :: specs => do
    let f ← takeFence
    let cmd ← makeCmd tileId layerId tokenPhase spec f depFence
    let cmds ← chain tileId layerId tokenPhase f specs
    pure (cmd :: cmds)

/-- One command on every tile, all with one fence. -/
def onTiles (layerId : ℤ) (tokenPhase : String) (spec : CommandSpec) (fenceId depFenceId : ℕ) :
    List ℕ → PlanM (List PlanCommand)
  | [] => pure []
  | tileId :: tiles => do
    let cmd ← makeCmd (.int tileId) layerId tokenPhase spec fenceId depFenceId
    let cmds ← onTiles layerId tokenPhase spec fenceId depFenceId tiles
    pure (cmd :: cmds)

/-! ### Tensor placements -/

/-- The body of the loop of `_validate_placement`: the errors and the notes of a tensor. -/
def checkTensor (tileCount : Json) (tensor : Json) : Py (List FString × List FString) := do
  let t ← tensor.asObj
  let name := dictGet t "tensor_name"
  let owner := dictGet t "owner_tile"
  let ownerErrors ←
    if owner.isNone then .ok [[.lit "tensor '", .val name, .lit "': missing owner_tile"]]
    else do
      let outside ← Json.ge owner tileCount
      .ok <|
        if outside then
          [[.lit "tensor '", .val name, .lit "': owner_tile ", .val owner, .lit " >= tile_count ", .val tileCount]]
        else []
  let status := dictGetD t "placement_status" (.str "placed")
  let notes : List FString :=
    if status.inTuple ["placed"] then []
    else
      [[.lit "WARN: tensor '", .val name, .lit "': placement_status=", .repr status, .lit " (expected 'placed')"]]
  let reduction := dictGetD t "reduction_behavior" (.str "none")
  let routeReq := dictGetD t "routing_requirements" (.str "none")
  let routeErrors : List FString :=
    if !routeReq.inTuple ["none"] && !reduction.inTuple ["none", "sum", "concat", "max", "topk", "pass_through"] then
      [[.lit "tensor '", .val name, .lit "': routing_requirements=", .repr routeReq, .lit " but reduction_behavior=",
        .repr reduction, .lit " is unrecognised"]]
    else []
  .ok (ownerErrors ++ routeErrors, notes)

/-- `_validate_placement`. -/
def validatePlacement (tensors : List Json) (tileCount : Json) : Py (List FString × List FString) := do
  let checked ← tensors.mapM (checkTensor tileCount)
  .ok (checked.flatMap Prod.fst, checked.flatMap Prod.snd)

/-- The entries of `tensors_by_name`, in the order in which they are made. -/
abbrev TensorsByName := List (Json.Key × Fields)

def tensorsByName (tensors : List Json) : Py TensorsByName := do
  let entries ← tensors.mapM fun tensor => do
    let t ← tensor.asObj
    let name := dictGet t "tensor_name"
    if name.truthy then do
      let key ← name.key
      .ok [(key, t)]
    else .ok []
  .ok entries.flatten

/-- `tensors_by_name.get(name)`: a later entry replaces an earlier one. -/
def TensorsByName.find (index : TensorsByName) (name : String) : Option Fields :=
  (index.reverse.find? fun entry => entry.1 = .str name).map Prod.snd

/-! ### Phases of a plan -/

/-- `_generate_load_phase`, for the tensors of one tile. -/
def tileLoadPhase (tokenPhase : String) (tileId : Json) (tileTensors : List Fields) : PlanM (List PlanCommand) := do
  let sorted ← ofExcept (sortedBy (fun t => dictGetD t "tensor_id" (.int 0)) tileTensors)
  let buffer := fun t => buf "TENSOR" (dictGetD t "packed_bytes" (.int 0)) (dictGetD t "dtype" (.str "f32"))
  let loads ← independent tileId tokenPhase <| sorted.map fun t =>
    { executionPhase := "LOAD_TENSOR_TILE"
      commandType := "LOAD_TENSOR_TILE"
      tensorDeps := [dictGetD t "tensor_name" (.str "")]
      outputBufs := [buffer t] }
  let validates ← independent tileId tokenPhase <| sorted.map fun t =>
    { executionPhase := "VALIDATE_TENSOR_TILE"
      commandType := "VALIDATE_TENSOR"
      tensorDeps := [dictGetD t "tensor_name" (.str "")]
      inputBufs := [buffer t] }
  pure (loads ++ validates)

/-- The phases of all tiles, one after the other. -/
def tilesLoadPhase (tokenPhase : String) : Groups Fields → PlanM (List PlanCommand)
  | [] => pure []
  | (_, tileId, tileTensors) :: tiles => do
    let cmds ← tileLoadPhase tokenPhase tileId tileTensors
    let rest ← tilesLoadPhase tokenPhase tiles
    pure (cmds ++ rest)

/-- `_generate_load_phase`. -/
def generateLoadPhase (tensors : List Json) (tokenPhase : String) : PlanM (List PlanCommand) := do
  let records ← ofExcept (tensors.mapM Json.asObj)
  let byTile ← ofExcept (groupBy (fun t => dictGetD t "owner_tile" (.int 0)) records)
  let tiles ← ofExcept (sortedBy (fun group => group.2.1) byTile)
  tilesLoadPhase tokenPhase tiles

/-- The route ids of a route report, by route type. -/
abbrev RouteIndex := Groups Json

/-- `_build_route_index`. -/
def buildRouteIndex (routeReport : Json) : Py (Groups Json) := do
  let report ← routeReport.asObj
  let routes ← (dictGetD report "routes" (.arr [])).iter
  let records ← routes.mapM Json.asObj
  let named := records.filter fun route => (dictGet route "route_type").truthy && !(dictGet route "route_id").isNone
  let groups ← groupBy (fun route => dictGet route "route_type") named
  .ok (groups.map fun group => (group.1, group.2.1, group.2.2.map fun route => dictGet route "route_id"))

/-- `_generate_prefill_setup`. -/
def generatePrefillSetup (tileCount : Json) (tokenPhase : String) (routes : RouteIndex) :
    PlanM (List PlanCommand) := do
  let f ← takeFence
  let tiles ← ofExcept (tileCount.rangeLength)
  let barriers ← onTiles (-1) tokenPhase
    { executionPhase := "PREFILL_SETUP", commandType := "TILE_BARRIER", requiredRoutes := routes.under "TILE_BARRIER" }
    f 0 (List.range tiles)
  let f2 ← takeFence
  let traces ← onTiles (-1) tokenPhase
    { executionPhase := "TRACE_SNAPSHOT", commandType := "TRACE_SNAPSHOT", traceFlags := 1 } f2 f (List.range tiles)
  pure (barriers ++ traces)

/-- `exec_phase`. -/
def execPhase (tokenPhase : String) : String :=
  if tokenPhase = "prefill" then "PREFILL_EXECUTION_PLAN" else "DECODE_STEP_PLAN"

def attentionNormName (layerId : ℕ) : String := s!"layers.{layerId}.attention_norm.weight"
def wqName (layerId : ℕ) : String := s!"layers.{layerId}.attention.wq.weight"
def wkName (layerId : ℕ) : String := s!"layers.{layerId}.attention.wk.weight"
def wvName (layerId : ℕ) : String := s!"layers.{layerId}.attention.wv.weight"
def woName (layerId : ℕ) : String := s!"layers.{layerId}.attention.wo.weight"
def ffnNormName (layerId : ℕ) : String := s!"layers.{layerId}.ffn_norm.weight"
def w1Name (layerId : ℕ) : String := s!"layers.{layerId}.feed_forward.w1.weight"
def w2Name (layerId : ℕ) : String := s!"layers.{layerId}.feed_forward.w2.weight"
def w3Name (layerId : ℕ) : String := s!"layers.{layerId}.feed_forward.w3.weight"

/-- The tile of the commands of a layer: the owner of the attention norm, or else the layers take turns. -/
def layerTile (tileCount : Json) (tensors : TensorsByName) (layerId : ℕ) : Py Json :=
  match tensors.find (attentionNormName layerId) with
  | some attnNorm => .ok (dictGetD attnNorm "owner_tile" (.int 0))
  | none =>
    match tileCount.asInt? with
    | some n => .ok (.int (layerId % max n 1))
    | none => .error .typeError

/-- The commands of a layer. -/
@[irreducible] def layerSpecs (layerId : ℕ) (dtype actBytes ffnBytes policy : Json) (tokenPhase : String) (routes : RouteIndex) :
    List CommandSpec :=
  let exec := execPhase tokenPhase
  let act := buf "STAGING" actBytes dtype
  let ffn := buf "STAGING" ffnBytes dtype
  let kv := buf "KV_CACHE" actBytes dtype
  let partialReduceRoutes := routes.under "PARTIAL_REDUCE"
  let activationRoutes := routes.under "ACTIVATION_SEND"
  let matmul := fun (name : String) (input output : Json) =>
    ({  executionPhase := exec
        commandType := "EXEC_MATMUL"
        tensorDeps := [.str name]
        inputBufs := [input]
        outputBufs := [output] } : CommandSpec)
  let rmsnorm := fun (name : String) =>
    ({  executionPhase := exec
        commandType := "EXEC_RMSNORM"
        tensorDeps := [.str name]
        inputBufs := [act]
        outputBufs := [act] } : CommandSpec)
  let rope : CommandSpec :=
    { executionPhase := exec, commandType := "EXEC_ROPE", inputBufs := [act], outputBufs := [act] }
  [ -- the attention sublayer
    rmsnorm (attentionNormName layerId),
    matmul (wqName layerId) act act,
    matmul (wkName layerId) act act,
    matmul (wvName layerId) act act,
    rope,
    rope,
    { executionPhase := "KV_APPEND", commandType := "KV_APPEND", inputBufs := [act], outputBufs := [kv] },
    { executionPhase := "KV_READ", commandType := "KV_READ", inputBufs := [kv], outputBufs := [act] },
    { executionPhase := exec
      commandType := "EXEC_ATTENTION"
      inputBufs := [act]
      outputBufs := [act]
      requiredRoutes := if policy.eqStr "head_wise" then partialReduceRoutes else []
      requiredReductions := if policy.eqStr "head_wise" then [.int 1] else [] },
    matmul (woName layerId) act act,
    { executionPhase := exec
      commandType := "EXEC_RESIDUAL"
      inputBufs := [act, act]
      outputBufs := [act]
      requiredRoutes := if policy.eqStr "layer_wise" then activationRoutes else [] },
    -- the FFN sublayer
    rmsnorm (ffnNormName layerId),
    matmul (w1Name layerId) act ffn,
    matmul (w3Name layerId) act ffn,
    { executionPhase := exec, commandType := "EXEC_SWIGLU", inputBufs := [ffn, ffn], outputBufs := [ffn] },
    { matmul (w2Name layerId) ffn act with
      requiredRoutes := if policy.eqStr "row_split" then partialReduceRoutes else [] },
    { executionPhase := exec, commandType := "EXEC_RESIDUAL", inputBufs := [act, act], outputBufs := [act] },
    { executionPhase := exec, commandType := "TILE_BARRIER" } ]

/-- The note of a head-wise split that has no routes. -/
def headWiseNote (layerId : ℕ) (policy : Json) (routes : RouteIndex) : PlanM Unit :=
  if policy.eqStr "head_wise" && (routes.under "PARTIAL_REDUCE").isEmpty then
    addNote [.lit "WARN layer ", .val (.int layerId),
      .lit ": head_wise split but no PARTIAL_REDUCE routes found in route report"]
  else pure ()

/-- `_generate_layer_plan`. -/
def generateLayerPlan (layerId : ℕ) (header : Fields) (tileCount : Json) (tensors : TensorsByName) (policy : Json)
    (tokenPhase : String) (routes : RouteIndex) : PlanM (List PlanCommand) := do
  let dtype := dictGetD header "dtype" (.str "f32")
  let db ← ofExcept (dtypeBytes dtype)
  let actBytes ← ofExcept ((dictGetD header "d_model" (.int 64)).mulInt db)
  let tileId ← ofExcept (layerTile tileCount tensors layerId)
  let ffnBytes ← ofExcept ((dictGetD header "ffn_hidden" (.int 128)).mulInt db)
  headWiseNote layerId policy routes
  chain tileId layerId tokenPhase 0 (layerSpecs layerId dtype actBytes ffnBytes policy tokenPhase routes)

/-- The tile of the LM head: the owner of the output norm, or else the first. -/
def lmHeadTile (tensors : TensorsByName) : Json :=
  match tensors.find "norm.weight", tensors.find "output_norm.weight" with
  | some norm, _ => dictGetD norm "owner_tile" (.int 0)
  | none, some norm => dictGetD norm "owner_tile" (.int 0)
  | none, none => .int 0

/-- The commands of the LM head. -/
@[irreducible] def lmHeadSpecs (dtype actBytes logitBytes policy : Json) (tokenPhase : String) (routes : RouteIndex) :
    List CommandSpec :=
  let exec := execPhase tokenPhase
  let act := buf "STAGING" actBytes dtype
  let logits := buf "STAGING" logitBytes dtype
  [ { executionPhase := exec
      commandType := "EXEC_RMSNORM"
      tensorDeps := [.str "norm.weight"]
      inputBufs := [act]
      outputBufs := [act] },
    { executionPhase := exec
      commandType := "EXEC_MATMUL"
      tensorDeps := [.str "lm_head.weight"]
      inputBufs := [act]
      outputBufs := [logits]
      requiredRoutes := if policy.eqStr "lm_head_split" then routes.under "LOGITS_REDUCE" else [] },
    { executionPhase := exec
      commandType := "EXEC_SOFTMAX"
      inputBufs := [logits]
      outputBufs := [logits]
      traceFlags := 2 } ]

/-- `_generate_lm_head_plan`. -/
def generateLmHeadPlan (header : Fields) (tensors : TensorsByName) (policy : Json) (tokenPhase : String)
    (routes : RouteIndex) : PlanM (List PlanCommand) := do
  let dtype := dictGetD header "dtype" (.str "f32")
  let db ← ofExcept (dtypeBytes dtype)
  let actBytes ← ofExcept ((dictGetD header "d_model" (.int 64)).mulInt db)
  let logitBytes ← ofExcept ((dictGetD header "vocab_size" (.int 256)).mulInt db)
  chain (lmHeadTile tensors) (-1) tokenPhase 0 (lmHeadSpecs dtype actBytes logitBytes policy tokenPhase routes)

/-- The body of the loop over the layers: the layer, and a trace after every fourth layer and after the last. -/
def layerStep (header : Fields) (tileCount : Json) (tiles nLayers : ℕ) (tensors : TensorsByName) (policy : Json)
    (tokenPhase : String) (routes : RouteIndex) (layerId : ℕ) : PlanM (List PlanCommand) := do
  let cmds ← generateLayerPlan layerId header tileCount tensors policy tokenPhase routes
  if (layerId + 1) % 4 = 0 ∨ layerId + 1 = nLayers then do
    let f ← takeFence
    let traces ← onTiles layerId tokenPhase
      { executionPhase := "TRACE_SNAPSHOT", commandType := "TRACE_SNAPSHOT", traceFlags := 1 } f 0 (List.range tiles)
    pure (cmds ++ traces)
  else pure cmds

/-- Run the body for every layer of a list. -/
def layersPlan (body : ℕ → PlanM (List PlanCommand)) : List ℕ → PlanM (List PlanCommand)
  | [] => pure []
  | layerId :: layers => do
    let cmds ← body layerId
    let rest ← layersPlan body layers
    pure (cmds ++ rest)

/-- All commands of a plan. -/
def generateCommands (tensors : List Json) (header : Fields) (tileCount : Json) (index : TensorsByName)
    (policy : Json) (tokenPhase : String) (routes : RouteIndex) : PlanM (List PlanCommand) := do
  let loads ← generateLoadPhase tensors tokenPhase
  let setup ← generatePrefillSetup tileCount tokenPhase routes
  let tiles ← ofExcept (tileCount.rangeLength)
  let nLayers ← ofExcept ((dictGetD header "n_layers" (.int 0)).rangeLength)
  let layers ← layersPlan (layerStep header tileCount tiles nLayers index policy tokenPhase routes)
    (List.range nLayers)
  let lmHead ← generateLmHeadPlan header index policy tokenPhase routes
  let fq ← takeFence
  let queries ← onTiles (-1) tokenPhase { executionPhase := "QUERY_COUNTERS", commandType := "QUERY_COUNTERS" } fq 0
    (List.range tiles)
  pure (loads ++ setup ++ layers ++ lmHead ++ queries)

/-! ### The plan -/

/-- The dict that `plan` returns. -/
structure ExecutionPlan where
  modelId : String
  sessionId : String
  tokenPhase : String
  tileCount : Json
  layerCount : Json
  placementReportPath : Json
  commandPlanPath : Json
  routeReportPath : Json
  status : String
  notes : List FString
  commands : List PlanCommand

/-- The plan as JSON, with `fmt` for the text of an f-string. -/
def ExecutionPlan.fields (fmt : FString → String) (p : ExecutionPlan) : Fields :=
  [("execution_plan_version", .int 1),
    ("model_id", .str p.modelId),
    ("session_id", .str p.sessionId),
    ("token_phase", .str p.tokenPhase),
    ("tile_count", p.tileCount),
    ("layer_count", p.layerCount),
    ("command_count", .int p.commands.length),
    ("placement_report_path", p.placementReportPath),
    ("command_plan_path", p.commandPlanPath),
    ("route_report_path", p.routeReportPath),
    ("status", .str p.status),
    ("notes", .arr (p.notes.map fun note => .str (fmt note))),
    ("commands", .arr (p.commands.map fun cmd => .obj cmd.fields))]

/-- The status of a plan with these errors and notes. -/
def planStatus (errors notes : List FString) (strict : Bool) : String :=
  if !errors.isEmpty then "fail"
  else if notes.any fun note => note.startsWith "WARN" then if !strict then "warn" else "fail"
  else "pass"

/-- `placement_report["header"]`, whose `get` is called. -/
def headerOf (report : Fields) : Py Fields :=
  match report.lookup "header" with
  | some header => header.asObj
  | none => .error .keyError

/-- `route_ids_by_type`. -/
def routeIds (routeReport : Json) : Py RouteIndex := if routeReport.truthy then buildRouteIndex routeReport else .ok []

/-- `command_plan_path`. -/
def planPath (commandPlan : Json) : Py Json :=
  if commandPlan.truthy then do
    let fields ← commandPlan.asObj
    .ok (dictGetD fields "_path" (.str ""))
  else .ok .null

/-- `route_report_path`. -/
def routePath (routeReport : Json) : Py Json :=
  if routeReport.truthy then do
    let fields ← routeReport.asObj
    let header ← (dictGetD fields "header" (.obj [])).asObj
    .ok (dictGet header "source_placement_report")
  else .ok .null

/-- The commands that are issued from a state, and the state they leave. -/
def runPlanner (commands : PlanM (List PlanCommand)) (s : PlannerState) : Py (List PlanCommand × PlannerState) :=
  match commands.exec s with
  | (.ok cmds, s) => .ok (cmds, s)
  | (.error e, _) => .error e

/-- `plan`.  A report that is not given is `null`. -/
def plan (placementReport : Fields) (commandPlan routeReport : Json) (modelId sessionId tokenPhase : String)
    (strict : Bool) : Py ExecutionPlan := do
  let header ← headerOf placementReport
  let tileCount := dictGetD header "tile_count" (.int 1)
  let policy := dictGetD header "placement_policy" (.str "layer_wise")
  let known ← policy.inSet supportedPlacementPolicies
  let policyNotes : List FString :=
    if known then []
    else [[.lit "WARN: unknown placement_policy=", .repr policy, .lit "; treating as layer_wise"]]
  let tensors ← (dictGetD placementReport "tensors" (.arr [])).iter
  let (errors, placementNotes) ← validatePlacement tensors tileCount
  let index ← tensorsByName tensors
  let routes ← routeIds routeReport
  let (commands, s) ←
    runPlanner (generateCommands tensors header tileCount index policy tokenPhase routes)
      ⟨1, 1, policyNotes ++ placementNotes⟩
  let commandPlanPath ← planPath commandPlan
  let routeReportPath ← routePath routeReport
  .ok
    { modelId := modelId
      sessionId := sessionId
      tokenPhase := tokenPhase
      tileCount := tileCount
      layerCount := dictGetD header "n_layers" (.int 0)
      placementReportPath := dictGetD placementReport "_path" (.str "")
      commandPlanPath := commandPlanPath
      routeReportPath := routeReportPath
      status := planStatus errors s.notes strict
      notes := (errors.reverse.map fun error => .lit "ERROR: " :: error) ++ s.notes
      commands := commands }

end Att1.Planner
