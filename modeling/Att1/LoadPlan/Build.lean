import Att1.Lib.Checked
import Att1.Lib.Json

/-!
# Att1.LoadPlan.Build — the load-phase command planner (`compiler/map_placement_to_commands.py`)

`buildCommands` turns the tensor records of a placement report into the commands that load and check them, tile by tile;
`buildSummary` counts them.  A record is JSON of any shape.
-/

open Att1.Lib

namespace Att1.LoadPlan

/-! ### Constants -/

/-- `SUPPORTED_DTYPES`. -/
def supportedDtypes : List String := ["f32", "q8", "q4"]

/-- `VALID_Q4_GROUP_SIZES`. -/
def validQ4GroupSizes : List ℚ := [32, 64]

/-- `EXPECTED_STATUS_OK`. -/
def expectedStatusOk : String := "ATT1_AIMU_ERR_OK"

inductive CommandType
  | loadTensorTile
  | validateTensor
  | tileBarrier
  | queryCounters
  | traceSnapshot
  deriving DecidableEq

def CommandType.text : CommandType → String
  | .loadTensorTile => "LOAD_TENSOR_TILE"
  | .validateTensor => "VALIDATE_TENSOR"
  | .tileBarrier => "TILE_BARRIER"
  | .queryCounters => "QUERY_COUNTERS"
  | .traceSnapshot => "TRACE_SNAPSHOT"

/-! ### Records -/

/-- What `_validate_tensor` makes of a record: it is returned, or `None` with a warning or an error. -/
inductive Verdict
  | validated (t : Fields)
  | skipped (warning : FString)
  | rejected (error : FString)

/-- `_validate_tensor`: the checks of the dtype and of the group size. -/
def validateDtype (label : FString) (t : Fields) : Py Verdict :=
  let dtype := dictGet t "dtype"
  if dtype.isNone then .ok (.rejected (label ++ [.lit ": missing 'dtype'"]))
  else do
    let supported ← dtype.inSet supportedDtypes
    if !supported then
      .ok (.rejected (label ++ [.lit ": unsupported dtype=", .repr dtype, .lit "; supported: ['f32', 'q4', 'q8']"]))
    else if dtype.eqStr "q4" then
      let qgs := dictGet t "quantization_group_size"
      if qgs.isNone then
        .ok (.rejected (label ++ [.lit ": dtype=q4 requires 'quantization_group_size'; field is missing or null"]))
      else do
        let key ← qgs.key
        if validQ4GroupSizes.any fun size => key = .num size then .ok (.validated t)
        else
          .ok (.rejected (label ++
            [.lit ": q4 quantization_group_size=", .val qgs, .lit " is not supported; valid: [32, 64]"]))
    else .ok (.validated t)

/-- `_validate_tensor`: the checks of the owner tile, and those after it. -/
def validateOwner (tileCount : ℤ) (label : FString) (t : Fields) : Py Verdict :=
  let ownerTile := dictGet t "owner_tile"
  if ownerTile.isNone then .ok (.rejected (label ++ [.lit ": missing 'owner_tile'"]))
  else
    match ownerTile.asInt? with
    | some tile =>
      if tile < 0 ∨ tile ≥ tileCount then
        .ok (.rejected (label ++
          [.lit ": owner_tile=", .repr ownerTile, .lit " out of range [0, ", .val (.int (tileCount - 1)), .lit "]"]))
      else validateDtype label t
    | none =>
      .ok (.rejected (label ++
        [.lit ": owner_tile=", .repr ownerTile, .lit " out of range [0, ", .val (.int (tileCount - 1)), .lit "]"]))

/-- `_validate_tensor`: the checks after that of the id. -/
def validateRecord (tileCount : ℤ) (strict : Bool) (t : Fields) : Py Verdict :=
  let tensorId := dictGet t "tensor_id"
  let tensorName := dictGet t "tensor_name"
  if tensorName.isNone then
    .ok (.rejected [.lit "tensor_id=", .val tensorId, .lit ": missing 'tensor_name'"])
  else
    let label : FString := [.lit "tensor ", .val tensorId, .lit " (", .repr tensorName, .lit ")"]
    let placementStatus := dictGet t "placement_status"
    if placementStatus.isNone then .ok (.rejected (label ++ [.lit ": missing 'placement_status'"]))
    else if !placementStatus.eqStr "placed" then
      if strict then
        .ok (.rejected (label ++
          [.lit ": placement_status=", .repr placementStatus,
            .lit "; only 'placed' tensors are accepted in --strict mode"]))
      else .ok (.skipped (label ++ [.lit ": skipped (placement_status=", .repr placementStatus, .lit ")"]))
    else validateOwner tileCount label t

/-- `_validate_tensor`. -/
def validateTensor (tileCount : ℤ) (strict : Bool) (index : ℕ) (t : Json) : Py Verdict :=
  match t with
  | .obj t =>
    if (dictGet t "tensor_id").isNone then
      .ok (.rejected [.lit "tensors[", .val (.int index), .lit "]: missing 'tensor_id'"])
    else validateRecord tileCount strict t
  | _ => .ok (.rejected [.lit "tensors[", .val (.int index), .lit "] is not a JSON object"])

/-! ### Commands -/

structure Command where
  commandId : ℕ
  commandType : CommandType
  tileId : Json
  aimuId : Json
  sessionId : String
  modelId : Json
  tensorId : Json := .null
  tensorName : Json := .null
  dtype : Json := .null
  quantization : Json := .null
  quantizationGroupSize : Json := .null
  packedBytes : Json := .int 0
  scaleBytes : Json := .int 0
  totalBytes : Json := .int 0
  srcDescriptor : Option FString := none
  dstDescriptor : Option FString := none
  fenceId : ℕ
  expectedStatus : String := expectedStatusOk
  checksum : Json := .null
  notes : FString

/-- The arguments that every command repeats. -/
structure Session where
  modelId : Json
  sessionId : String

/-- `t.get("packed_bytes") or 0`. -/
def packedBytes (t : Fields) : Json := (dictGet t "packed_bytes").orElse (.int 0)

/-- `t.get("scale_bytes") or 0`. -/
def scaleBytes (t : Fields) : Json := (dictGet t "scale_bytes").orElse (.int 0)

section Make

variable (s : Session)

/-- `_make_load_cmd`. -/
def makeLoadCmd (cmdId : ℕ) (t : Fields) : Py Command := do
  let tensorId ← Json.item (.obj t) "tensor_id"
  let dtype := dictGetD t "dtype" (.str "f32")
  let qgs := dictGet t "quantization_group_size"
  let ownerTile := dictGetD t "owner_tile" (.int 0)
  let layer := dictGet t "layer"
  let totalBytes ← (packedBytes t).add (scaleBytes t)
  .ok
    { commandId := cmdId
      commandType := .loadTensorTile
      tileId := ownerTile
      aimuId := dictGetD t "owner_aimu" ownerTile
      sessionId := s.sessionId
      modelId := s.modelId
      tensorId := tensorId
      tensorName := dictGetD t "tensor_name" (.str "")
      dtype := dtype
      quantization := (dictGet t "quantization").orElse (.str "none")
      quantizationGroupSize := qgs
      packedBytes := packedBytes t
      scaleBytes := scaleBytes t
      totalBytes := totalBytes
      srcDescriptor := some [.lit "host_buf:tensor_", .val tensorId]
      dstDescriptor := some [.lit "tile", .val ownerTile, .lit "_local:tensor_", .val tensorId]
      fenceId := 0
      checksum := dictGetD t "checksum" (.str "0x0000000000000000")
      notes :=
        [.lit "category=", .val (dictGetD t "tensor_category" (.str "other"))] ++
          (if layer.isNone then [] else [.lit "; layer=", .val layer]) ++
          (if dtype.eqStr "q4" && !qgs.isNone then
            [.lit "; q4_group_size=", .val qgs, .lit " packed_bytes=", .val (packedBytes t), .lit " scale_bytes=",
              .val (scaleBytes t)]
          else []) }

/-- `_make_validate_cmd`. -/
def makeValidateCmd (cmdId : ℕ) (t : Fields) (loadCmdId : ℕ) : Py Command := do
  let tensorId ← Json.item (.obj t) "tensor_id"
  let ownerTile := dictGetD t "owner_tile" (.int 0)
  let totalBytes ← (packedBytes t).add (scaleBytes t)
  .ok
    { commandId := cmdId
      commandType := .validateTensor
      tileId := ownerTile
      aimuId := dictGetD t "owner_aimu" ownerTile
      sessionId := s.sessionId
      modelId := s.modelId
      tensorId := tensorId
      tensorName := dictGetD t "tensor_name" (.str "")
      dtype := dictGetD t "dtype" (.str "f32")
      quantization := (dictGet t "quantization").orElse (.str "none")
      quantizationGroupSize := dictGet t "quantization_group_size"
      packedBytes := packedBytes t
      scaleBytes := scaleBytes t
      totalBytes := totalBytes
      srcDescriptor := some [.lit "tile", .val ownerTile, .lit "_local:tensor_", .val tensorId]
      fenceId := loadCmdId
      checksum := dictGetD t "checksum" (.str "0x0000000000000000")
      notes := [.lit "validate checksum of tensor ", .val tensorId, .lit " on tile ", .val ownerTile] }

/-- `_make_barrier_cmd`. -/
def makeBarrierCmd (cmdId : ℕ) (tileId : Json) (lastValidateId : ℕ) : Command where
  commandId := cmdId
  commandType := .tileBarrier
  tileId := tileId
  aimuId := tileId
  sessionId := s.sessionId
  modelId := s.modelId
  fenceId := lastValidateId
  notes := [.lit "synchronisation barrier: tile ", .val tileId, .lit " tensor load phase complete"]

/-- `_make_query_counters_cmd`. -/
def makeQueryCountersCmd (cmdId lastBarrierId : ℕ) : Command where
  commandId := cmdId
  commandType := .queryCounters
  tileId := .int 0
  aimuId := .int 0
  sessionId := s.sessionId
  modelId := s.modelId
  dstDescriptor := some [.lit "host_counter_buf:counters"]
  fenceId := lastBarrierId
  notes := [.lit "read command-queue counters after tensor load phase"]

/-- `_make_trace_snapshot_cmd`. -/
def makeTraceSnapshotCmd (cmdId lastBarrierId : ℕ) : Command where
  commandId := cmdId
  commandType := .traceSnapshot
  tileId := .int 0
  aimuId := .int 0
  sessionId := s.sessionId
  modelId := s.modelId
  dstDescriptor := some [.lit "host_trace_buf:snapshot"]
  fenceId := lastBarrierId
  notes := [.lit "capture trace snapshot after tensor load phase"]

end Make

/-! ### The plan -/

/-- `by_tile`, `warnings` and `errors`. -/
structure Collected where
  byTile : Groups Fields
  warnings : List FString
  errors : List FString

/-- The body of the loop that collects the placed tensors. -/
def collectTensor (tileCount : ℤ) (strict : Bool) (c : Collected) (entry : Json × ℕ) : Py Collected := do
  match ← validateTensor tileCount strict entry.2 entry.1 with
  | .validated t =>
    let owner ← Json.item (.obj t) "owner_tile"
    let key ← owner.key
    .ok { c with byTile := c.byTile.appendAt key owner t }
  | .skipped warning => .ok { c with warnings := c.warnings ++ [warning] }
  | .rejected error => .ok { c with errors := c.errors ++ [error] }

def collectTensors (tileCount : ℤ) (strict : Bool) (warnings : List FString) (tensors : List Json) : Py Collected :=
  tensors.zipIdx.foldlM (collectTensor tileCount strict) ⟨[], warnings, []⟩

/-- `commands`, `cmd_id` and `last_barrier_id`. -/
structure Builder where
  commands : List Command := []
  cmdId : ℕ := 1
  lastBarrierId : ℕ := 0

/-- `commands.append(cmd)` and `cmd_id += 1`. -/
def Builder.emit (b : Builder) (cmd : Command) : Builder :=
  { b with commands := b.commands ++ [cmd], cmdId := b.cmdId + 1 }

/-- A loop that appends a command for each element; it returns their ids too. -/
def emitAll {α : Type} (make : ℕ → α → Py Command) (b : Builder) (xs : List α) : Py (Builder × List ℕ) :=
  xs.foldlM
    (fun acc x => do
      let cmd ← make acc.1.cmdId x
      .ok (acc.1.emit cmd, acc.2 ++ [acc.1.cmdId])) (b, [])

/-- The key of `tile_tensors`. -/
def tensorKey (t : Fields) : Json :=
  .arr [dictGetD t "tensor_id" (.int 0), (dictGet t "slice_start").orElse (.int 0)]

/-- The body of the loop over the tiles. -/
def planTile (s : Session) (b : Builder) (tile : Json.Key × Json × List Fields) : Py Builder := do
  let tileTensors ← sortedBy tensorKey tile.2.2
  let (b, loadIds) ← emitAll (makeLoadCmd s) b tileTensors
  let (b, validateIds) ← emitAll (fun cmdId entry => makeValidateCmd s cmdId entry.1 entry.2) b
    (tileTensors.zip loadIds)
  .ok
    { b.emit (makeBarrierCmd s b.cmdId tile.2.1 (validateIds.getLast?.getD 0)) with
      lastBarrierId := b.cmdId }

/-- How `_build_commands` ends: with `sys.exit(1)` after printing the errors, or with the commands. -/
inductive Outcome
  | exit (errors : List FString)
  | plan (commands : List Command) (warnings : List FString)

/-- `_build_commands`. -/
def buildCommands (tileCount : ℤ) (strict : Bool) (s : Session) (warnings : List FString) (tensors : List Json) :
    Py Outcome := do
  let c ← collectTensors tileCount strict warnings tensors
  if !c.errors.isEmpty then .ok (.exit c.errors)
  else
    let tiles ← sortedBy (fun tile : Json.Key × Json × List Fields => tile.2.1) c.byTile
    let b ← tiles.foldlM (planTile s) {}
    let b := b.emit (makeQueryCountersCmd s b.cmdId b.lastBarrierId)
    .ok (.plan (b.commands ++ [makeTraceSnapshotCmd s b.cmdId b.lastBarrierId]) c.warnings)

/-! ### The summary -/

structure Summary where
  commandsByType : List (CommandType × ℕ)
  commandsByTile : List (FString × ℕ)
  totalTensorBytes : Json
  f32TensorCount : ℕ
  q8TensorCount : ℕ
  q4TensorCount : ℕ
  capacityFailuresObserved : ℕ
  warningsObserved : ℕ

/-- The counts of the loop over the commands. -/
structure Counts where
  byType : List (CommandType × ℕ) := []
  byTile : Groups Unit := []
  totalTensorBytes : Json := .int 0
  f32Count : ℕ := 0
  q8Count : ℕ := 0
  q4Count : ℕ := 0

/-- `counts[type] += 1`. -/
def countType (type : CommandType) : List (CommandType × ℕ) → List (CommandType × ℕ)
  | [] => [(type, 1)]
  | (t, n) :: counts => if t = type then (t, n + 1) :: counts else (t, n) :: countType type counts

/-- The body of the loop over the commands. -/
def countCommand (counts : Counts) (cmd : Command) : Py Counts := do
  let byTile ←
    if cmd.tileId.isNone then .ok counts.byTile
    else do
      let key ← cmd.tileId.key
      .ok (counts.byTile.appendAt key cmd.tileId ())
  let counts := { counts with byType := countType cmd.commandType counts.byType, byTile := byTile }
  if cmd.commandType = .loadTensorTile then do
    let total ← counts.totalTensorBytes.add cmd.totalBytes
    let counts := { counts with totalTensorBytes := total }
    .ok <|
      if cmd.dtype.eqStr "f32" then { counts with f32Count := counts.f32Count + 1 }
      else if cmd.dtype.eqStr "q8" then { counts with q8Count := counts.q8Count + 1 }
      else if cmd.dtype.eqStr "q4" then { counts with q4Count := counts.q4Count + 1 }
      else counts
  else .ok counts

/-- `_build_summary`. -/
def buildSummary (commands : List Command) (reportTiles : List Json) : Py Summary := do
  let counts ← commands.foldlM countCommand {}
  let tiles ← reportTiles.mapM Json.asObj
  let byTile ← sortedBy (fun tile : Json.Key × Json × List Unit => .arr [tile.2.1, .int tile.2.2.length]) counts.byTile
  .ok
    { commandsByType := counts.byType
      commandsByTile := byTile.map fun tile => ([.val tile.2.1], tile.2.2.length)
      totalTensorBytes := counts.totalTensorBytes
      f32TensorCount := counts.f32Count
      q8TensorCount := counts.q8Count
      q4TensorCount := counts.q4Count
      capacityFailuresObserved := tiles.countP fun tile =>
        (dictGetD tile "capacity_status" (.str "UNKNOWN")).eqStr "FAIL"
      warningsObserved := tiles.countP fun tile =>
        (dictGetD tile "bandwidth_status" (.str "UNKNOWN")).inTuple ["WARN", "FAIL"] }

end Att1.LoadPlan
