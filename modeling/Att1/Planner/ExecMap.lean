import Att1.Lib.Json

/-!
# Att1.Planner.ExecMap — from an execution plan to a command plan (`compiler/map_execution_plan_to_commands.py`)

* `checkCommands`: the checks of `_check_command`, with the errors and the warnings.
* `mapCommand`: `_map_command`; `mapPlan`: `map_plan`.

A plan is JSON of any shape, and the mapper raises where Python does.
-/

open Att1.Lib

namespace Att1.ExecMap

/-! ### Constants -/

/-- `STATUS_OK`. -/
def statusOk : String := "ATT1_AIMU_ERR_OK"

/-- `STATUS_UNSUPPORTED`. -/
def statusUnsupported : String := "ATT1_AIMU_ERR_UNSUPPORTED_OP"

/-- `VALID_EXECUTION_PHASES`. -/
def validExecutionPhases : List String :=
  ["DEVICE_PROBE", "TILE_ENUMERATION", "MEMORY_ALLOCATE", "LOAD_TENSOR_TILE", "VALIDATE_TENSOR_TILE", "PREFILL_SETUP",
    "PREFILL_EXECUTION_PLAN", "DECODE_STEP_PLAN", "KV_APPEND", "KV_READ", "FABRIC_SEND", "FABRIC_REDUCE",
    "TRACE_SNAPSHOT", "QUERY_COUNTERS", "CLEANUP", "RESET"]

/-- `ADVISORY_PHASES`. -/
def advisoryPhases : List String := ["DEVICE_PROBE", "TILE_ENUMERATION", "MEMORY_ALLOCATE", "PREFILL_SETUP"]

/-- `EXEC_CMD_TYPES`. -/
def execCmdTypes : List String :=
  ["EXEC_MATMUL", "EXEC_RMSNORM", "EXEC_ROPE", "EXEC_ATTENTION", "EXEC_SWIGLU", "EXEC_SOFTMAX", "EXEC_RESIDUAL"]

/-- `PASSTHROUGH_CMD_TYPES`. -/
def passthroughCmdTypes : List String :=
  ["LOAD_TENSOR_TILE", "VALIDATE_TENSOR", "KV_APPEND", "KV_READ", "FABRIC_SEND", "FABRIC_REDUCE", "TILE_BARRIER",
    "TRACE_SNAPSHOT", "QUERY_COUNTERS"]

/-- `RESET_MAPPING`. -/
def resetMapping : String := "RESET_TILE"

/-- `_ADVISORY_NOTE`. -/
def advisoryNote : List (String × String) :=
  [("DEVICE_PROBE", "advisory: DEVICE_PROBE has no direct M105 command; use M121 API"),
    ("TILE_ENUMERATION", "advisory: TILE_ENUMERATION maps to QUERY_COUNTERS for M105"),
    ("MEMORY_ALLOCATE", "advisory: MEMORY_ALLOCATE handled by M124 allocator; no M105 command"),
    ("PREFILL_SETUP", "advisory: PREFILL_SETUP barrier — replayed as TILE_BARRIER")]

/-- `_ADVISORY_CMD_TYPE`. -/
def advisoryCmdType : List (String × String) :=
  [("TILE_ENUMERATION", "QUERY_COUNTERS"), ("PREFILL_SETUP", "TILE_BARRIER")]

/-- `raise MappingError(message)`. -/
def mappingError {α : Type} (message : FString) : Py α := .error (.raised "MappingError" message)

/-- The text of a value in a set of texts. -/
def textIn (value : Json) (texts : List String) : Py (Option String) := do
  let known ← value.inSet texts
  .ok <|
    match known, value with
    | true, .str text => some text
    | _, _ => none

/-! ### Header -/

/-- What `_validate_header` returns, and the list of the commands. -/
structure PlanHeader where
  tileCount : Json
  modelId : Json
  sessionId : Json
  commands : List Json

/-- `_validate_header`: the checks of `tile_count` and `commands`. -/
def headerBody (plan : Fields) : Py PlanHeader :=
  let tileCount := dictGet plan "tile_count"
  let positive : FString := [.lit "tile_count must be a positive integer; got ", .repr tileCount]
  match tileCount.asInt? with
  | none => mappingError positive
  | some n =>
    if n ≤ 0 then mappingError positive
    else
      match (dictGet plan "commands").asList? with
      | none => mappingError [.lit "missing or invalid 'commands' list"]
      | some commands => .ok ⟨tileCount, dictGet plan "model_id", dictGet plan "session_id", commands⟩

/-- `_validate_header`. -/
def validateHeader (plan : Fields) : Py PlanHeader :=
  let ver := dictGet plan "execution_plan_version"
  if ver.isNone then mappingError [.lit "missing 'execution_plan_version'"]
  else do
    let key ← ver.key
    if key ≠ .num 1 then
      mappingError [.lit "unsupported execution_plan_version=", .repr ver, .lit "; supported: [1]"]
    else if !(dictGet plan "model_id").truthy then mappingError [.lit "missing or empty 'model_id'"]
    else if !(dictGet plan "session_id").truthy then mappingError [.lit "missing or empty 'session_id'"]
    else headerBody plan

/-! ### Command checks -/

/-- The issues of a command. -/
structure Issues where
  errors : List FString := []
  warnings : List FString := []

/-- What the loop keeps: `seen_ids`, and the keys of `fence_map`. -/
structure Seen where
  ids : List ℤ := []
  fences : List ℤ := []

/-- `commands[idx]: ` before a message. -/
def labelled (idx : ℕ) (message : FString) : FString := [.lit "commands[", .val (.int idx), .lit "]: "] ++ message

/-- `_check_command`: the check of `plan_command_id`, with the ids seen from now on. -/
def checkId (seenIds : List ℤ) (cmd : Fields) : List ℤ × List FString :=
  let cid := dictGet cmd "plan_command_id"
  match cid.asInt? with
  | none => (seenIds, [[.lit "plan_command_id must be an integer; got ", .repr cid]])
  | some n =>
    if n ∈ seenIds then (seenIds, [[.lit "duplicate plan_command_id=", .val cid]]) else (n :: seenIds, [])

/-- `_check_command`: the check of `tile_id`. -/
def checkTile (tileCount : Json) (cmd : Fields) : List FString :=
  let tid := dictGet cmd "tile_id"
  let tiles := tileCount.asInt?.getD 0
  let negative : List FString := [[.lit "tile_id must be a non-negative integer; got ", .repr tid]]
  match tid.asInt? with
  | none => negative
  | some n =>
    if n < 0 then negative
    else if 0 < tiles ∧ tiles ≤ n then [[.lit "tile_id=", .val tid, .lit " >= tile_count=", .val tileCount]]
    else []

/-- `_check_command`: the check of `execution_phase`. -/
def checkPhase (cmd : Fields) : Py (List FString) :=
  let phase := dictGet cmd "execution_phase"
  if phase.isNone then .ok [[.lit "missing 'execution_phase'"]]
  else do
    let known ← phase.inSet validExecutionPhases
    .ok (if known then [] else [[.lit "unknown execution_phase=", .repr phase]])

/-- `_check_command`: the check of `command_type`. -/
def checkType (cmd : Fields) : List FString :=
  let ct := dictGet cmd "command_type"
  let empty := match dictGetD cmd "tensor_dependencies" (.arr []) with
    | .arr deps => deps.isEmpty
    | _ => true
  if ct.isNone then [[.lit "missing 'command_type'"]]
  else if ct.inTuple ["LOAD_TENSOR_TILE", "VALIDATE_TENSOR", "EXEC_MATMUL", "EXEC_RMSNORM"] && empty then
    [[.lit "command_type=", .val ct, .lit " requires at least one tensor_dependency"]]
  else []

/-- `_check_command`: the check of `dependency_fence_id`. -/
def checkDependency (fences : List ℤ) (cmd : Fields) : List FString :=
  let dep := dictGet cmd "dependency_fence_id"
  if dep.isNone || dep.eqInt 0 then []
  else
    match dep.asInt? with
    | none => [[.lit "dependency_fence_id must be an integer; got ", .repr dep]]
    | some n =>
      if n ∈ fences then []
      else
        [[.lit "dependency_fence_id=", .val dep,
          .lit " does not match any fence_id seen so far (dependency on future command?)"]]

/-- `fence_map[fid] = idx`. -/
def recordFence (fences : List ℤ) (cmd : Fields) : List ℤ :=
  match (dictGet cmd "fence_id").asInt? with
  | some n => if n = 0 then fences else n :: fences
  | none => fences

/-- `_check_command`: the buffers of a `FABRIC_SEND`. -/
def checkSend (strict : Bool) (cmd : Fields) : Issues :=
  let empty := match dictGetD cmd "input_buffers" (.arr []) with
    | .arr bufs => bufs.isEmpty
    | _ => true
  if (dictGetD cmd "command_type" (.str "")).eqStr "FABRIC_SEND" && empty then
    if strict then { errors := [[.lit "FABRIC_SEND requires at least one input_buffer in --strict mode"]] }
    else { warnings := [[.lit "FABRIC_SEND has no input_buffers"]] }
  else {}

/-- `_check_command`. -/
def checkCommand (strict : Bool) (tileCount : Json) (seen : Seen) (idx : ℕ) : Json → Py (Seen × Issues)
  | .obj cmd => do
    let (ids, idErrors) := checkId seen.ids cmd
    let phaseErrors ← checkPhase cmd
    let send := checkSend strict cmd
    let errors :=
      idErrors ++ checkTile tileCount cmd ++ phaseErrors ++ checkType cmd ++ checkDependency seen.fences cmd ++
        send.errors
    .ok (⟨ids, recordFence seen.fences cmd⟩, ⟨errors.map (labelled idx), send.warnings.map (labelled idx)⟩)
  | _ => .ok (seen, { errors := [labelled idx [.lit "not a JSON object"]] })

/-- The loop of checks in `map_plan`, from index `idx` on. -/
def checkCommands (strict : Bool) (tileCount : Json) : Seen → ℕ → List Json → Py Issues
  | _, _, [] => .ok {}
  | seen, idx, cmd :: cmds => do
    let (seen, issues) ← checkCommand strict tileCount seen idx cmd
    let rest ← checkCommands strict tileCount seen (idx + 1) cmds
    .ok ⟨issues.errors ++ rest.errors, issues.warnings ++ rest.warnings⟩

/-! ### Command records -/

/-- A record that `_null_cmd` returns, with the descriptors of `_map_command`. -/
structure MappedCommand where
  commandId : ℕ
  commandType : String
  tileId : Json
  sessionId : Json
  modelId : Json
  tensorId : Json := .null
  tensorName : Json := .null
  dtype : Json := .null
  quantization : Json := .null
  quantizationGroupSize : Json := .null
  byteCount : ℤ := 0
  srcDescriptor : Option FString := none
  dstDescriptor : Option FString := none
  fenceId : Json
  dependencyFenceId : Json
  expectedStatus : String
  notes : FString

/-- A descriptor as JSON. -/
def descriptor (fmt : FString → String) : Option FString → Json
  | some text => .str (fmt text)
  | none => .null

def MappedCommand.fields (fmt : FString → String) (cmd : MappedCommand) : Fields :=
  [("command_id", .int cmd.commandId),
    ("command_type", .str cmd.commandType),
    ("tile_id", cmd.tileId),
    ("aimu_id", cmd.tileId),
    ("session_id", cmd.sessionId),
    ("model_id", cmd.modelId),
    ("tensor_id", cmd.tensorId),
    ("tensor_name", cmd.tensorName),
    ("dtype", cmd.dtype),
    ("quantization", cmd.quantization),
    ("quantization_group_size", cmd.quantizationGroupSize),
    ("packed_bytes", .int cmd.byteCount),
    ("scale_bytes", .int 0),
    ("total_bytes", .int cmd.byteCount),
    ("src_descriptor", descriptor fmt cmd.srcDescriptor),
    ("dst_descriptor", descriptor fmt cmd.dstDescriptor),
    ("fence_id", cmd.fenceId),
    ("dependency_fence_id", cmd.dependencyFenceId),
    ("expected_status", .str cmd.expectedStatus),
    ("checksum", .null),
    ("notes", .str (fmt cmd.notes))]

/-- What the loop over the buffers keeps. -/
structure BufferTotals where
  dtype : Json := .null
  quantization : Json := .null
  qgs : Json := .null
  byteCount : ℤ := 0

/-- `_null_cmd`, with the tile and the fences of a command. -/
def nullCmd (src : Fields) (cmdId : ℕ) (modelId sessionId : Json) (type status : String) (notes : FString) :
    MappedCommand where
  commandId := cmdId
  commandType := type
  tileId := dictGetD src "tile_id" (.int 0)
  sessionId := sessionId
  modelId := modelId
  fenceId := dictGetD src "fence_id" (.int 0)
  dependencyFenceId := dictGetD src "dependency_fence_id" (.int 0)
  expectedStatus := status
  notes := notes

/-- The record with what is known of a tensor. -/
def MappedCommand.withTensor (cmd : MappedCommand) (tensorName : Json) (totals : BufferTotals) : MappedCommand :=
  { cmd with
    tensorName := tensorName
    dtype := totals.dtype
    quantization := totals.quantization
    quantizationGroupSize := totals.qgs
    byteCount := totals.byteCount }

/-- The body of the loop over the buffers. -/
def addBuffer (totals : BufferTotals) : Json → BufferTotals
  | .obj buf =>
    let dtype := dictGet buf "dtype"
    let named :=
      if totals.dtype.isNone && dtype.truthy then
        { totals with
          dtype := dtype
          quantization := if dtype.inTuple ["f32", "bf16"] then .str "none" else dtype
          qgs := dictGet buf "q4_group_size" }
      else totals
    match (dictGet buf "byte_size").asInt? with
    | some n => { named with byteCount := named.byteCount + n }
    | none => named
  | _ => totals

/-- The tensor of a command: its name, and what its buffers hold. -/
def tensorOf (src : Fields) : Py (Json × BufferTotals) := do
  let tdeps := (dictGet src "tensor_dependencies").orElse (.arr [])
  let tensorName ← if tdeps.truthy then tdeps.first else .ok .null
  let ibufs := (dictGet src "input_buffers").orElse (.arr [])
  let obufs := (dictGet src "output_buffers").orElse (.arr [])
  let allBufs ← ibufs.add obufs
  let bufs ← allBufs.iter
  .ok (tensorName, bufs.foldl addBuffer {})

/-- The descriptors of a command that passes through. -/
def descriptorsOf (src : Fields) (ct : String) (tid tensorName : Json) : Option FString × Option FString :=
  if ct = "LOAD_TENSOR_TILE" ∧ tensorName.truthy then
    (some [.lit "host_buf:", .val tensorName], some [.lit "tile", .val tid, .lit "_local:", .val tensorName])
  else if ct = "VALIDATE_TENSOR" ∧ tensorName.truthy then
    (some [.lit "tile", .val tid, .lit "_local:", .val tensorName], none)
  else if ct = "TRACE_SNAPSHOT" then (none, some [.lit "host_trace_buf:snapshot"])
  else if ct = "QUERY_COUNTERS" then (none, some [.lit "host_counter_buf:counters"])
  else if ct = "FABRIC_SEND" ∨ ct = "FABRIC_REDUCE" then
    let dstTile := dictGet src "dst_tile"
    (none, if dstTile.isNone then none else some [.lit "tile", .val dstTile, .lit "_fabric_buf:payload"])
  else (none, none)

/-- The note of a command that passes through. -/
def passthroughNote (phase tdeps : Json) : FString :=
  [.lit "exec-plan phase=", .val phase] ++ if tdeps.truthy then [.lit "; ", .lit "tensor_deps=", .val tdeps] else []

/-- `_map_command`: the record and the warnings. -/
def mapCommand (src : Fields) (cmdId : ℕ) (modelId sessionId : Json) (strict : Bool) :
    Py (MappedCommand × List FString) := do
  let phase := dictGetD src "execution_phase" (.str "")
  let ct := dictGetD src "command_type" (.str "")
  let tdeps := (dictGet src "tensor_dependencies").orElse (.arr [])
  let (tensorName, totals) ← tensorOf src
  let record := nullCmd src cmdId modelId sessionId
  match ← textIn phase advisoryPhases with
  | some name =>
    .ok (record ((advisoryCmdType.lookup name).getD "NOP") statusOk
      [.lit ((advisoryNote.lookup name).getD ("advisory phase: " ++ name))], [])
  | none =>
    match ← textIn ct execCmdTypes with
    | some name =>
      if strict then
        mappingError [.lit "command_type=", .repr ct,
          .lit <| " is an EXEC_* type not supported by the current M105 simulator; remove from plan or use non-strict " ++
            "mode to emit with expected_status=UNSUPPORTED"]
      else
        let notes : FString := [.lit "exec-plan phase=", .val phase, .lit " op=", .val ct, .lit "; tensor_deps=",
          .val tdeps, .lit "; UNSUPPORTED in current M105 simulator"]
        .ok ((record name statusUnsupported notes).withTensor tensorName totals,
          [[.lit "command_type=", .repr ct,
            .lit " mapped with expected_status=UNSUPPORTED (M105 simulator does not execute tensor math)"]])
    | none =>
      if ct.eqStr "RESET" || phase.eqStr "RESET" then
        .ok (record resetMapping statusOk [.lit "tile reset; exec-plan phase=", .val phase], [])
      else if phase.eqStr "CLEANUP" && ct.eqStr "QUERY_COUNTERS" then
        .ok (record "QUERY_COUNTERS" statusOk [.lit "cleanup phase: read counters before teardown"], [])
      else
        match ← textIn ct passthroughCmdTypes with
        | some name =>
          let (srcDesc, dstDesc) := descriptorsOf src name (dictGetD src "tile_id" (.int 0)) tensorName
          .ok ({ (record name statusOk (passthroughNote phase tdeps)).withTensor tensorName totals with
              tensorId := dictGet src "tensor_id"
              srcDescriptor := srcDesc
              dstDescriptor := dstDesc }, [])
        | none =>
          mappingError [.lit "command_type=", .repr ct,
            .lit " is not recognised by the M129 mapper; check the execution plan was generated by M125"]

/-- The loop of `map_plan` over the commands, from `cmd_id` on: what is no dict is left out. -/
def mapCommands (modelId sessionId : Json) (strict : Bool) : ℕ → List Json → Py (List MappedCommand × List FString)
  | _, [] => .ok ([], [])
  | cmdId, .obj src :: srcs => do
    let (mapped, warnings) ← mapCommand src cmdId modelId sessionId strict
    let (rest, more) ← mapCommands modelId sessionId strict (cmdId + 1) srcs
    .ok (mapped :: rest, warnings ++ more)
  | cmdId, _ :: srcs => mapCommands modelId sessionId strict cmdId srcs

/-! ### The command plan -/

/-- The dict that `map_plan` returns. -/
structure CommandPlan where
  sourceExecutionPlan : Json
  modelId : Json
  sessionId : Json
  tileCount : Json
  commands : List MappedCommand
  warnings : List FString

/-- The counts of a `defaultdict(int)` that goes up for each of the keys. -/
def countsOf (keys : List String) : Json := .obj (keys.eraseDups.map fun key => (key, .int (keys.count key)))

/-- `summary`. -/
def CommandPlan.summary (fmt : FString → String) (p : CommandPlan) : Fields :=
  [("commands_by_type", countsOf (p.commands.map (·.commandType))),
    ("commands_by_tile", countsOf (p.commands.map fun cmd => fmt [.val cmd.tileId])),
    ("total_tensor_bytes", .int (p.commands.map (·.byteCount)).sum),
    ("f32_tensor_count", .int (p.commands.countP fun cmd => cmd.dtype.eqStr "f32")),
    ("q8_tensor_count", .int (p.commands.countP fun cmd => cmd.dtype.eqStr "q8")),
    ("q4_tensor_count", .int (p.commands.countP fun cmd => cmd.dtype.eqStr "q4")),
    ("warnings_observed", .int p.warnings.length),
    ("unsupported_exec_commands", .int (p.commands.countP fun cmd => cmd.expectedStatus == statusUnsupported))]

/-- The plan as JSON, with `fmt` for the text of an f-string. -/
def CommandPlan.fields (fmt : FString → String) (p : CommandPlan) : Fields :=
  [("command_plan_version", .int 1),
    ("source_execution_plan", p.sourceExecutionPlan),
    ("header", .obj
      [("command_plan_version", .int 1),
        ("source_execution_plan", .null),
        ("model_name", p.modelId),
        ("model_id", p.modelId),
        ("session_id", p.sessionId),
        ("tile_count", p.tileCount),
        ("tensor_count", .int 0),
        ("command_count", .int p.commands.length),
        ("status", .str "ok")]),
    ("commands", .arr (p.commands.map fun cmd => .obj (cmd.fields fmt))),
    ("summary", .obj (p.summary fmt)),
    ("warnings", .arr (p.warnings.map fun warning => .str (fmt warning)))]

/-- The message about the errors of a plan. -/
def errorsMessage (errors : List FString) : FString :=
  [.val (.int errors.length), .lit " validation error(s) in execution plan:\n"] ++
    ((errors.map fun error => [.lit "  "] ++ error).intersperse [.lit "\n"]).flatten

/-- `map_plan`.  An override that is not given is `null`. -/
def mapPlan (plan : Fields) (overrideModelId overrideSessionId : Json) (strict : Bool) : Py CommandPlan := do
  let header ← validateHeader plan
  let modelId := overrideModelId.orElse header.modelId
  let sessionId := overrideSessionId.orElse header.sessionId
  let issues ← checkCommands strict header.tileCount {} 0 header.commands
  if !issues.errors.isEmpty then mappingError (errorsMessage issues.errors)
  else do
    let (commands, warnings) ← mapCommands modelId sessionId strict 1 header.commands
    .ok
      { sourceExecutionPlan := dictGet plan "placement_report_path"
        modelId := modelId
        sessionId := sessionId
        tileCount := header.tileCount
        commands := commands
        warnings := issues.warnings ++ warnings }

end Att1.ExecMap
