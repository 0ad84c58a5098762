import Att1.Lib.Cycle
import Att1.Lib.Json

/-!
# Att1.Planner.Validate — the execution-plan validator (`compiler/validate_tensor_execution_plan.py`)

A check returns the issues it records, in order; the strict mode records errors for warnings.  `validatePlan` runs the
five checks of `main`.
-/

open Att1.Lib

namespace Att1.Planner

/-! ### Constants -/

/-- `VALID_EXECUTION_PHASES`. -/
def validExecutionPhases : List String :=
  ["DEVICE_PROBE", "TILE_ENUMERATION", "MEMORY_ALLOCATE", "LOAD_TENSOR_TILE", "VALIDATE_TENSOR_TILE", "PREFILL_SETUP",
    "PREFILL_EXECUTION_PLAN", "DECODE_STEP_PLAN", "KV_APPEND", "KV_READ", "FABRIC_SEND", "FABRIC_REDUCE",
    "TRACE_SNAPSHOT", "QUERY_COUNTERS", "CLEANUP", "RESET"]

/-- `VALID_COMMAND_TYPES`. -/
def validCommandTypes : List String :=
  ["LOAD_TENSOR_TILE", "VALIDATE_TENSOR", "EXEC_MATMUL", "EXEC_RMSNORM", "EXEC_ROPE", "EXEC_ATTENTION", "EXEC_SWIGLU",
    "EXEC_SOFTMAX", "EXEC_RESIDUAL", "KV_APPEND", "KV_READ", "FABRIC_SEND", "FABRIC_REDUCE", "TILE_BARRIER",
    "TRACE_SNAPSHOT", "QUERY_COUNTERS"]

/-- `TENSOR_DEP_REQUIRED`. -/
def tensorDepRequired : List String := ["LOAD_TENSOR_TILE", "VALIDATE_TENSOR", "EXEC_MATMUL", "EXEC_RMSNORM"]

/-- `INPUT_BUF_REQUIRED`. -/
def inputBufRequired : List String :=
  ["EXEC_MATMUL", "EXEC_RMSNORM", "EXEC_ROPE", "EXEC_ATTENTION", "EXEC_SWIGLU", "EXEC_SOFTMAX", "EXEC_RESIDUAL",
    "VALIDATE_TENSOR", "KV_APPEND", "KV_READ", "FABRIC_SEND"]

/-- `OUTPUT_BUF_REQUIRED`. -/
def outputBufRequired : List String :=
  ["EXEC_MATMUL", "EXEC_RMSNORM", "EXEC_ROPE", "EXEC_ATTENTION", "EXEC_SWIGLU", "EXEC_SOFTMAX", "EXEC_RESIDUAL",
    "LOAD_TENSOR_TILE", "KV_APPEND", "KV_READ", "FABRIC_REDUCE"]

/-- `VALID_DTYPES`. -/
def validDtypes : List String := ["f32", "q8", "q4", "bf16"]

/-- `VALID_REGION_TYPES`. -/
def validRegionTypes : List String :=
  ["TENSOR", "KV_CACHE", "STAGING", "DMA_BUFFER", "COMMAND_QUEUE", "COMPLETION_QUEUE", "TRACE_BUFFER", "FABRIC_BUFFER",
    "RESERVED"]

/-- `VALID_EXPECTED_STATUSES`. -/
def validExpectedStatuses : List String :=
  ["ok", "error", "warn", "ATT1_AIMU_ERR_OK", "ATT1_AIMU_ERR_UNSUPPORTED_OP", "ATT1_AIMU_ERR_INVALID_ARG",
    "ATT1_AIMU_ERR_TIMEOUT", "ATT1_AIMU_ERR_BUS_FAULT", "ATT1_AIMU_ERR_NO_MEM"]

/-- `VALID_PLAN_STATUSES`. -/
def validPlanStatuses : List String := ["pass", "fail", "warn", "ok", "error"]

/-- `VALID_TOKEN_PHASES`. -/
def validTokenPhases : List String := ["prefill", "decode"]

/-- `VALID_REDUCTION_BEHAVIORS`. -/
def validReductionBehaviors : List String := ["sum", "concat", "max", "pass_through", "topk"]

/-- `PHASE_ORDER_CONSTRAINTS`. -/
def phaseOrderConstraints : List (String × String) :=
  [("DEVICE_PROBE", "TILE_ENUMERATION"),
    ("DEVICE_PROBE", "MEMORY_ALLOCATE"),
    ("TILE_ENUMERATION", "MEMORY_ALLOCATE"),
    ("MEMORY_ALLOCATE", "LOAD_TENSOR_TILE"),
    ("LOAD_TENSOR_TILE", "VALIDATE_TENSOR_TILE"),
    ("VALIDATE_TENSOR_TILE", "PREFILL_SETUP"),
    ("VALIDATE_TENSOR_TILE", "PREFILL_EXECUTION_PLAN"),
    ("VALIDATE_TENSOR_TILE", "DECODE_STEP_PLAN"),
    ("PREFILL_SETUP", "PREFILL_EXECUTION_PLAN"),
    ("PREFILL_SETUP", "KV_APPEND"),
    ("PREFILL_SETUP", "KV_READ"),
    ("PREFILL_EXECUTION_PLAN", "CLEANUP"),
    ("DECODE_STEP_PLAN", "CLEANUP"),
    ("PREFILL_EXECUTION_PLAN", "RESET"),
    ("DECODE_STEP_PLAN", "RESET"),
    ("CLEANUP", "RESET")]

/-! ### Issues -/

inductive Severity
  | warning
  | error
  deriving DecidableEq

/-- A record of `ValidationResult`. -/
structure Issue where
  severity : Severity
  rule : ℕ
  message : FString

/-- `res.error`. -/
def err (rule : ℕ) (message : FString) : Issue := ⟨.error, rule, message⟩

/-- `res.issue("warning", ..)`. -/
def issue (strict : Bool) (rule : ℕ) (message : FString) : Issue :=
  ⟨if strict then .error else .warning, rule, message⟩

/-- `res.errors`. -/
def errorsOf (issues : List Issue) : List Issue := issues.filter (·.severity = .error)

/-! ### Header -/

/-- `validate_header`: the issues of `execution_plan_version`. -/
def checkVersion (plan : Fields) : Py (List Issue) :=
  let ver := dictGet plan "execution_plan_version"
  if ver.isNone then .ok [err 1 [.lit "Missing 'execution_plan_version'"]]
  else do
    let key ← ver.key
    .ok <|
      if key = .num 1 then []
      else [err 1 [.lit "Unsupported execution_plan_version=", .repr ver, .lit "; supported: [1]"]]

/-- `validate_header`: the issues of `model_id`, `session_id` and `token_phase`. -/
def checkIds (plan : Fields) : Py (List Issue) := do
  let model := if (dictGet plan "model_id").truthy then [] else [err 1 [.lit "Missing or empty 'model_id'"]]
  let session := if (dictGet plan "session_id").truthy then [] else [err 1 [.lit "Missing or empty 'session_id'"]]
  let tp := dictGet plan "token_phase"
  let phase ←
    if tp.isNone then .ok []
    else do
      let known ← tp.inSet validTokenPhases
      .ok <|
        if known then []
        else [err 1 [.lit "Invalid token_phase=", .repr tp, .lit "; expected one of ['decode', 'prefill']"]]
  .ok (model ++ session ++ phase)

/-- `validate_header`: the tile count, 0 on error, and its issues. -/
def checkTileCount (plan : Fields) : ℕ × List Issue :=
  let tileCount := dictGet plan "tile_count"
  if tileCount.isNone then (0, [err 1 [.lit "Missing 'tile_count'"]])
  else
    match tileCount.asInt? with
    | some n =>
      if n ≤ 0 then (0, [err 1 [.lit "tile_count must be a positive integer; got ", .repr tileCount]]) else (n.toNat, [])
    | none => (0, [err 1 [.lit "tile_count must be a positive integer; got ", .repr tileCount]])

/-- `validate_header`: the issues of `layer_count`. -/
def checkLayerCount (plan : Fields) : List Issue :=
  let lc := dictGet plan "layer_count"
  let issues := [err 1 [.lit "layer_count must be a non-negative integer; got ", .repr lc]]
  if lc.isNone then []
  else
    match lc.asInt? with
    | some n => if n < 0 then issues else []
    | none => issues

/-- `validate_header`: the issues of `commands`, `command_count` and `phases`. -/
def checkCommandCount (plan : Fields) : List Issue :=
  let commands := dictGet plan "commands"
  let declared := dictGet plan "command_count"
  let counts :=
    if commands.isNone then [err 1 [.lit "Missing 'commands' list"]]
    else
      match commands.asList? with
      | none => [err 1 [.lit "'commands' must be a JSON array"]]
      | some cmds =>
        if !declared.isNone && !declared.eqInt cmds.length then
          [err 1 [.lit "command_count=", .val declared, .lit " does not match actual len(commands)=",
            .val (.int cmds.length)]]
        else []
  let phases := dictGet plan "phases"
  let lists :=
    if phases.isNone || phases.asList?.isSome then [] else [err 1 [.lit "'phases' must be a JSON array when present"]]
  counts ++ lists

/-- `validate_header`: the issues of `status`. -/
def checkPlanStatus (strict : Bool) (plan : Fields) : Py (List Issue) :=
  let status := dictGet plan "status"
  if status.isNone then .ok []
  else do
    let known ← status.inSet validPlanStatuses
    .ok <|
      if known then []
      else
        [issue strict 1 [.lit "plan status=", .repr status, .lit " not in ['error', 'fail', 'ok', 'pass', 'warn']"]]

/-- `validate_header`: the tile count and the issues. -/
def validateHeader (strict : Bool) (plan : Fields) : Py (ℕ × List Issue) := do
  let version ← checkVersion plan
  let ids ← checkIds plan
  let (tileCount, tiles) := checkTileCount plan
  let status ← checkPlanStatus strict plan
  .ok (tileCount, version ++ ids ++ tiles ++ checkLayerCount plan ++ checkCommandCount plan ++ status)

/-! ### Buffers -/

/-- `type(value).__name__`. -/
def typeName : Json → String
  | .null => "NoneType"
  | .bool _ => "bool"
  | .int _ => "int"
  | .float _ => "float"
  | .str _ => "str"
  | .arr _ => "list"
  | .obj _ => "dict"

/-- The body of the loop of `_validate_buffer_list`, for the buffer that `label` names. -/
def checkBuffer (strict : Bool) (label : FString) (rule : ℕ) : Json → Py (List Issue)
  | .obj buf => do
    let rt := dictGet buf "region_type"
    let region ←
      if rt.isNone then .ok [err rule (label ++ [.lit " missing 'region_type'"])]
      else do
        let known ← rt.inSet validRegionTypes
        .ok (if known then [] else [err rule (label ++ [.lit " unknown region_type=", .repr rt])])
    let bs := dictGet buf "byte_size"
    let positive := [err rule (label ++ [.lit " byte_size must be a positive integer; got ", .repr bs])]
    let size :=
      if bs.isNone then [err rule (label ++ [.lit " missing 'byte_size'"])]
      else
        match bs.asInt? with
        | some n => if n ≤ 0 then positive else []
        | none => positive
    let dt := dictGet buf "dtype"
    let dtype ←
      if dt.isNone then .ok []
      else do
        let known ← dt.inSet validDtypes
        .ok (if known then [] else [err rule (label ++ [.lit " unknown dtype=", .repr dt])])
    let q4 :=
      if dt.eqStr "q4" && (dictGet buf "q4_group_size").isNone && (dictGet buf "q4_scale_bytes").isNone then
        [issue strict rule
          (label ++ [.lit " dtype=q4 but neither 'q4_group_size' nor 'q4_scale_bytes' is present"])]
      else []
    .ok (region ++ size ++ dtype ++ q4)
  | _ => .ok [err rule (label ++ [.lit " must be an object"])]

/-- `_validate_buffer_list`. -/
def validateBufferList (strict : Bool) (bufs : Json) (label : FString) (rule : ℕ) : Py (List Issue) :=
  match bufs with
  | .arr items => do
    let checked ← items.zipIdx.mapM fun item =>
      checkBuffer strict (label ++ [.lit "[", .val (.int item.2), .lit "]"]) rule item.1
    .ok checked.flatten
  | bufs => .ok [err rule (label ++ [.lit " must be a JSON array; got ", .lit (typeName bufs)])]

/-- The checks of `input_buffers` or `output_buffers`, required of the types of a set. -/
def checkBuffers (strict : Bool) (label : FString) (ct : Json) (required : List String) (name kind : String)
    (cmd : Fields) : Py (List Issue) := do
  let bufs := dictGetD cmd name (.arr [])
  let need ← ct.inSet required
  let empty := match bufs with
    | .arr items => items.isEmpty
    | _ => true
  let missing :=
    if need && empty then
      [err 7 (label ++ [.lit " command_type=", .val ct, .lit (" requires at least one " ++ kind)])]
    else []
  let checked ← if empty then .ok [] else validateBufferList strict bufs (label ++ [.lit ("." ++ name)]) 7
  .ok (missing ++ checked)

/-! ### Commands -/

/-- `_validate_fabric_send`. -/
def validateFabricSend (label : FString) (cmd : Fields) (tileCount : ℕ) : List Issue :=
  let dst := dictGet cmd "dst_tile"
  let routed := match dictGetD cmd "required_routes" (.arr []) with
    | .arr routes => !routes.isEmpty
    | _ => false
  let missing :=
    if dst.isNone && !routed then
      [err 12 (label ++ [.lit " FABRIC_SEND: missing 'dst_tile' or non-empty 'required_routes'"])]
    else []
  let negative := [err 12 (label ++ [.lit " FABRIC_SEND: dst_tile must be a non-negative integer; got ", .repr dst])]
  let range :=
    if dst.isNone then []
    else
      match dst.asInt? with
      | some n =>
        if n < 0 then negative
        else if 0 < tileCount ∧ (tileCount : ℤ) ≤ n then
          [err 12 (label ++ [.lit " FABRIC_SEND: dst_tile=", .val dst, .lit " >= tile_count=", .val (.int tileCount)])]
        else []
      | none => negative
  missing ++ range

/-- `_validate_fabric_reduce`. -/
def validateFabricReduce (label : FString) (cmd : Fields) : Py (List Issue) :=
  let rb := dictGet cmd "reduction_behavior"
  if rb.isNone then .ok [err 13 (label ++ [.lit " FABRIC_REDUCE: missing 'reduction_behavior'"])]
  else do
    let known ← rb.inSet validReductionBehaviors
    .ok <|
      if known then []
      else
        [err 13 (label ++ [.lit " FABRIC_REDUCE: unknown reduction_behavior=", .repr rb,
          .lit "; expected one of ['concat', 'max', 'pass_through', 'sum', 'topk']"])]

/-- The check of `tile_id`. -/
def checkTileId (label : FString) (tileCount : ℕ) (cmd : Fields) : List Issue :=
  let tid := dictGet cmd "tile_id"
  let negative := [err 3 (label ++ [.lit ".tile_id must be a non-negative integer; got ", .repr tid])]
  if tid.isNone then [err 3 (label ++ [.lit " missing 'tile_id'"])]
  else
    match tid.asInt? with
    | some n =>
      if n < 0 then negative
      else if 0 < tileCount ∧ (tileCount : ℤ) ≤ n then
        [err 3 (label ++ [.lit ".tile_id=", .val tid, .lit " >= tile_count=", .val (.int tileCount)])]
      else []
    | none => negative

/-- The check of `layer_id`. -/
def checkLayerId (label : FString) (layerCount : Json) (cmd : Fields) : List Issue :=
  let lid := dictGet cmd "layer_id"
  let negative := [err 3 (label ++ [.lit ".layer_id must be -1 or a non-negative integer; got ", .repr lid])]
  if lid.isNone then []
  else
    match lid.asInt?, layerCount.asInt? with
    | some n, some count =>
      if n < -1 then negative
      else if 0 ≤ n ∧ count ≤ n then
        [err 3 (label ++ [.lit ".layer_id=", .val lid, .lit " >= layer_count=", .val layerCount])]
      else []
    | some n, none => if n < -1 then negative else []
    | none, _ => negative

/-- The check of `execution_phase`: the phase, where it is known, and the issues. -/
def checkPhase (label : FString) (cmd : Fields) : Py (Option String × List Issue) :=
  let phase := dictGet cmd "execution_phase"
  if phase.isNone then .ok (none, [err 4 (label ++ [.lit " missing 'execution_phase'"])])
  else do
    let known ← phase.inSet validExecutionPhases
    .ok <|
      match known, phase with
      | true, .str name => (some name, [])
      | _, _ => (none, [err 4 (label ++ [.lit " unknown execution_phase=", .repr phase])])

/-- An entry of `tensor_dependencies` that is no string or empty. -/
def isBadName : Json → Bool
  | .str name => name == ""
  | _ => true

/-- The check of `tensor_dependencies`, for a type that requires them. -/
def checkTensorDeps (label : FString) (ct : Json) (cmd : Fields) : List Issue :=
  match dictGetD cmd "tensor_dependencies" (.arr []) with
  | .arr (dep :: deps) =>
    if (dep :: deps).any isBadName then
      [err 6 (label ++ [.lit " tensor_dependencies contains a non-string or empty entry"])]
    else []
  | _ => [err 6 (label ++ [.lit " command_type=", .val ct, .lit " requires at least one tensor_dependency"])]

/-- The check of `command_type`, with those of the fields that a type asks for. -/
def checkCommandType (label : FString) (tileCount : ℕ) (cmd : Fields) : Py (List Issue) :=
  let ct := dictGet cmd "command_type"
  if ct.isNone then .ok [err 5 (label ++ [.lit " missing 'command_type'"])]
  else do
    let known ← ct.inSet validCommandTypes
    if !known then .ok [err 5 (label ++ [.lit " unknown command_type=", .repr ct])]
    else do
      let need ← ct.inSet tensorDepRequired
      let deps := if need then checkTensorDeps label ct cmd else []
      let send := if ct.eqStr "FABRIC_SEND" then validateFabricSend label cmd tileCount else []
      let reduce ← if ct.eqStr "FABRIC_REDUCE" then validateFabricReduce label cmd else .ok []
      .ok (deps ++ send ++ reduce)

/-- The check of `expected_status`. -/
def checkExpectedStatus (strict : Bool) (label : FString) (cmd : Fields) : Py (List Issue) :=
  let es := dictGet cmd "expected_status"
  if es.isNone then .ok [issue strict 8 (label ++ [.lit " missing 'expected_status'"])]
  else do
    let known ← es.inSet validExpectedStatuses
    .ok (if known then [] else [err 8 (label ++ [.lit " unknown expected_status=", .repr es])])

/-- The check of `trace_flags`. -/
def checkTraceFlags (label : FString) (cmd : Fields) : List Issue :=
  let tf := dictGet cmd "trace_flags"
  let negative := [err 9 (label ++ [.lit ".trace_flags must be a non-negative integer; got ", .repr tf])]
  if tf.isNone then []
  else
    match tf.asInt? with
    | some n => if n < 0 then negative else []
    | none => negative

/-- The check of `required_routes` or `required_reductions`. -/
def checkList (label : FString) (name : String) (cmd : Fields) : List Issue :=
  let value := dictGet cmd name
  if value.isNone || value.asList?.isSome then []
  else [err 11 (label ++ [.lit ("." ++ name ++ " must be a list; got " ++ typeName value)])]

/-- What the loop of `validate_commands` keeps: the ids seen, `fence_to_cmd_idx` with the latest entry first, and
`cmd_idx_to_phase`. -/
structure Seen where
  ids : List ℤ
  fenceToCmdIdx : List (ℤ × ℕ)
  cmdIdxToPhase : List (ℕ × String)

/-- The check of `plan_command_id`: the ids seen from now on, and the issues. -/
def checkId (label : FString) (seenIds : List ℤ) (cmd : Fields) : List ℤ × List Issue :=
  let cid := dictGet cmd "plan_command_id"
  if cid.isNone then (seenIds, [err 2 (label ++ [.lit " missing 'plan_command_id'"])])
  else
    match cid.asInt? with
    | none => (seenIds, [err 2 (label ++ [.lit ".plan_command_id must be an integer; got ", .repr cid])])
    | some n =>
      if n ∈ seenIds then (seenIds, [err 2 (label ++ [.lit " duplicate plan_command_id=", .val cid])])
      else (n :: seenIds, [])

/-- The check of `fence_id`: the fences seen from now on, and the issues. -/
def checkFence (strict : Bool) (label : FString) (i : ℕ) (fences : List (ℤ × ℕ)) (cmd : Fields) :
    List (ℤ × ℕ) × List Issue :=
  let fid := dictGet cmd "fence_id"
  let negative := [err 10 (label ++ [.lit ".fence_id must be a non-negative integer; got ", .repr fid])]
  if fid.isNone then (fences, [issue strict 10 (label ++ [.lit " missing 'fence_id'"])])
  else
    match fid.asInt? with
    | none => (fences, negative)
    | some n =>
      if n < 0 then (fences, negative)
      else if n = 0 then ((n, i) :: fences, [])
      else
        match fences.lookup n with
        | some first =>
          (fences, [issue strict 10 (label ++ [.lit " fence_id=", .val fid, .lit " already used by commands[",
            .val (.int first), .lit "]"])])
        | none => ((n, i) :: fences, [])

/-- `commands[i]` in a message. -/
def commandLabel (i : ℕ) : FString := [.lit "commands[", .val (.int i), .lit "]"]

/-- The body of the loop of `validate_commands`. -/
def checkCommand (strict : Bool) (tileCount : ℕ) (layerCount : Json) (seen : Seen) (i : ℕ) (cmd : Json) :
    Py (Seen × List Issue) :=
  let label := commandLabel i
  match cmd with
  | .obj cmd => do
    let (ids, idIssues) := checkId label seen.ids cmd
    let (phase, phaseIssues) ← checkPhase label cmd
    let typeIssues ← checkCommandType label tileCount cmd
    let ct := dictGet cmd "command_type"
    let inputIssues ← checkBuffers strict label ct inputBufRequired "input_buffers" "input_buffer" cmd
    let outputIssues ← checkBuffers strict label ct outputBufRequired "output_buffers" "output_buffer" cmd
    let statusIssues ← checkExpectedStatus strict label cmd
    let (fences, fenceIssues) := checkFence strict label i seen.fenceToCmdIdx cmd
    let phases := match phase with
      | some name => seen.cmdIdxToPhase ++ [(i, name)]
      | none => seen.cmdIdxToPhase
    .ok
      (⟨ids, fences, phases⟩,
        idIssues ++ checkTileId label tileCount cmd ++ checkLayerId label layerCount cmd ++ phaseIssues ++ typeIssues ++
          inputIssues ++ outputIssues ++ statusIssues ++ checkTraceFlags label cmd ++ fenceIssues ++
          checkList label "required_routes" cmd ++ checkList label "required_reductions" cmd)
  | _ => .ok (seen, [err 2 (label ++ [.lit " is not a JSON object"])])

/-- The loop of `validate_commands`, from index `i` on. -/
def checkCommands (strict : Bool) (tileCount : ℕ) (layerCount : Json) : Seen → ℕ → List Json → Py (Seen × List Issue)
  | seen, _, [] => .ok (seen, [])
  | seen, i, cmd :: cmds => do
    let (seen, issues) ← checkCommand strict tileCount layerCount seen i cmd
    let (seen, rest) ← checkCommands strict tileCount layerCount seen (i + 1) cmds
    .ok (seen, issues ++ rest)

/-- `validate_commands`. -/
def validateCommands (strict : Bool) (plan : Fields) (tileCount : ℕ) : Py (Seen × List Issue) :=
  match dictGet plan "commands" with
  | .arr commands => checkCommands strict tileCount (dictGet plan "layer_count") ⟨[], [], []⟩ 0 commands
  | _ => .ok (⟨[], [], []⟩, [])

/-! ### Phase order -/

/-- `phase_first`: the index of the first command of a phase. -/
def phaseFirst (cmdIdxToPhase : List (ℕ × String)) (phase : String) : Option ℕ :=
  (cmdIdxToPhase.find? fun entry => entry.2 = phase).map Prod.fst

/-- `validate_phase_ordering`. -/
def validatePhaseOrdering (cmdIdxToPhase : List (ℕ × String)) : List Issue :=
  phaseOrderConstraints.flatMap fun constraint =>
    match phaseFirst cmdIdxToPhase constraint.1, phaseFirst cmdIdxToPhase constraint.2 with
    | some before, some after =>
      if after < before then
        [err 20 [.lit "Phase ordering violation: first '", .lit constraint.1, .lit "' command (index ",
          .val (.int before), .lit ") appears after first '", .lit constraint.2, .lit "' command (index ",
          .val (.int after), .lit ")"]]
      else []
    | _, _ => []

/-! ### Dependencies -/

/-- The body of the first loop of `validate_dependencies`: the command that the command depends on, and the issues. -/
def checkDependency (fences : List (ℤ × ℕ)) (i : ℕ) (cmd : Json) : Option ℕ × List Issue :=
  match cmd with
  | .obj cmd =>
    let dep := dictGet cmd "dependency_fence_id"
    if dep.isNone || dep.eqInt 0 then (none, [])
    else
      match dep.asInt? with
      | none =>
        (none, [err 10 (commandLabel i ++ [.lit ".dependency_fence_id must be an integer; got ", .repr dep])])
      | some n =>
        match fences.lookup n with
        | none =>
          (none, [err 10 (commandLabel i ++ [.lit ".dependency_fence_id=", .val dep,
            .lit " does not match any fence_id in the plan"])])
        | some idx =>
          if i ≤ idx then
            (none, [err 10 (commandLabel i ++ [.lit " (plan_command_id=",
              .val (dictGetD cmd "plan_command_id" (.str "?")), .lit ") has dependency_fence_id=", .val dep,
              .lit " which belongs to commands[", .val (.int idx),
              .lit "] — a command that has not yet appeared (dependency on future command)"])])
          else (some idx, [])
  | _ => (none, [])

/-- `dep_graph`. -/
def depGraph (fences : List (ℤ × ℕ)) (commands : List Json) (i : ℕ) : List ℕ :=
  match commands[i]? with
  | some cmd => (checkDependency fences i cmd).1.toList
  | none => []

/-- `validate_dependencies`. -/
def validateDependencies (plan : Fields) (fences : List (ℤ × ℕ)) : List Issue :=
  match dictGet plan "commands" with
  | .arr commands =>
    let deps := commands.zipIdx.flatMap fun cmd => (checkDependency fences cmd.2 cmd.1).2
    let cycles := Search.findCycles (depGraph fences commands) commands.length
    deps ++ cycles.map fun edge =>
      err 10 [.lit "Cyclic dependency detected: commands[", .val (.int edge.1), .lit "] and commands[",
        .val (.int edge.2), .lit "] form a cycle"]
  | _ => []

/-! ### Reductions -/

/-- `cmd.get("command_type") == name` of a command that is an object. -/
def hasType (name : String) : Json → Bool
  | .obj cmd => (dictGet cmd "command_type").eqStr name
  | _ => false

/-- The command declares `required_reductions`. -/
def requiresReduction : Json → Bool
  | .obj cmd =>
    match dictGetD cmd "required_reductions" (.arr []) with
    | .arr reductions => !reductions.isEmpty
    | _ => false
  | _ => false

/-- `validate_split_reductions`. -/
def validateSplitReductions (plan : Fields) : List Issue :=
  match dictGet plan "commands" with
  | .arr commands =>
    let hasReduce := commands.any (hasType "FABRIC_REDUCE")
    commands.zipIdx.flatMap fun cmd =>
      if hasType "EXEC_MATMUL" cmd.1 && requiresReduction cmd.1 && !hasReduce then
        [err 13 (commandLabel cmd.2 ++
          [.lit " EXEC_MATMUL has required_reductions but no FABRIC_REDUCE command found in the plan"])]
      else []
  | _ => []

/-! ### The validator -/

/-- The checks of `main`. -/
def validatePlan (strict : Bool) (plan : Fields) : Py (List Issue) := do
  let (tileCount, header) ← validateHeader strict plan
  let (seen, commands) ← validateCommands strict plan tileCount
  .ok (header ++ commands ++ validatePhaseOrdering seen.cmdIdxToPhase ++
    validateDependencies plan seen.fenceToCmdIdx ++ validateSplitReductions plan)

/-- The plan passes: zero errors. -/
def Passes (strict : Bool) (plan : Fields) : Prop := ∃ issues, validatePlan strict plan = .ok issues ∧ errorsOf issues = []

end Att1.Planner
