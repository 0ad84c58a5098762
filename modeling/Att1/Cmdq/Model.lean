import Mathlib.Logic.Function.Basic
import Att1.Base
import Att1.Cmdq.Crc

/-!
# Att1.Cmdq.Model — the AIMU command queue (`src/aimu_cmdq.c`)

Commands go through a command ring into `dispatchOne` and come back as completions through a second ring.  Both
rings are indexed by free-running `size_t` counters masked with the power-of-two depth.  An exec hook is a function
of its context and of the popped descriptor, which it may also overwrite.
-/

namespace Att1

/-- `att1_aimu_cmd_type`. -/
inductive AimuCmdType
  | nop
  | loadTensorTile
  | validateTensor
  | execMatmul
  | execRmsnorm
  | execRope
  | execAttention
  | execFfn
  | kvAppend
  | kvRead
  | fabricSend
  | fabricReduce
  | traceSnapshot
  | tileBarrier
  | resetTile
  | queryCounters
  deriving DecidableEq, Repr

/-- The command type with a code, if there is one. -/
def AimuCmdType.ofCode (code : UInt8) : Option AimuCmdType :=
  if code = 0x00 then some .nop
  else if code = 0x01 then some .loadTensorTile
  else if code = 0x02 then some .validateTensor
  else if code = 0x10 then some .execMatmul
  else if code = 0x11 then some .execRmsnorm
  else if code = 0x12 then some .execRope
  else if code = 0x13 then some .execAttention
  else if code = 0x14 then some .execFfn
  else if code = 0x20 then some .kvAppend
  else if code = 0x21 then some .kvRead
  else if code = 0x30 then some .fabricSend
  else if code = 0x31 then some .fabricReduce
  else if code = 0x40 then some .traceSnapshot
  else if code = 0x41 then some .tileBarrier
  else if code = 0x50 then some .resetTile
  else if code = 0x51 then some .queryCounters
  else none

/-- `att1_aimu_result`. -/
inductive AimuResult
  | ok
  | busy
  | pending
  | errInvalidCommand
  | errInvalidTensor
  | errInvalidDtype
  | errInvalidShape
  | errInvalidSession
  | errOutOfMemory
  | errQueueFull
  | errKvOverflow
  | errFabric
  | errFabricTimeout
  | errBarrierTimeout
  | errChecksum
  | errDmaFault
  | errAlignment
  | errTimeout
  | errFenceDeadlock
  | errUnsupportedOp
  | errUnsupportedDtype
  | errInternal
  | errFatal
  deriving DecidableEq, Repr

def AimuResult.code : AimuResult → UInt8
  | .ok => 0x00
  | .busy => 0x01
  | .pending => 0x02
  | .errInvalidCommand => 0x10
  | .errInvalidTensor => 0x11
  | .errInvalidDtype => 0x12
  | .errInvalidShape => 0x13
  | .errInvalidSession => 0x14
  | .errOutOfMemory => 0x20
  | .errQueueFull => 0x21
  | .errKvOverflow => 0x22
  | .errFabric => 0x30
  | .errFabricTimeout => 0x31
  | .errBarrierTimeout => 0x32
  | .errChecksum => 0x40
  | .errDmaFault => 0x41
  | .errAlignment => 0x42
  | .errTimeout => 0x50
  | .errFenceDeadlock => 0x51
  | .errUnsupportedOp => 0x60
  | .errUnsupportedDtype => 0x61
  | .errInternal => 0xF0
  | .errFatal => 0xFF

/-- `att1_aimu_cmd`. -/
structure AimuCmd where
  inputBufAddr : UInt64 := 0
  outputBufAddr : UInt64 := 0
  commandId : UInt32 := 0
  inputBufBytes : UInt32 := 0
  outputBufBytes : UInt32 := 0
  kvPosition : UInt32 := 0
  opParam0 : UInt32 := 0
  opParam1 : UInt32 := 0
  checksum : UInt32 := 0
  modelId : UInt16 := 0
  tensorId : UInt16 := 0
  fenceId : UInt16 := 0
  completionFenceId : UInt16 := 0
  timeoutMs : UInt16 := 0
  commandType : UInt8 := 0
  tileId : UInt8 := 0
  sessionId : UInt8 := 0
  dtype : UInt8 := 0
  traceFlags : UInt8 := 0
  priority : UInt8 := 0
  status : UInt8 := 0
  deriving DecidableEq, Repr

/-- `att1_aimu_completion`. -/
structure AimuCompletion where
  commandId : UInt32 := 0
  tileId : UInt8 := 0
  sessionId : UInt8 := 0
  resultCode : UInt8 := 0
  latencyUs : UInt32 := 0
  fenceValue : UInt32 := 0
  bytesRead : UInt32 := 0
  bytesWritten : UInt32 := 0
  packetsSent : UInt32 := 0
  packetsReceived : UInt32 := 0
  traceEventCount : UInt32 := 0
  deriving DecidableEq, Repr

/-- `att1_aimu_cmdq_counters`. -/
structure CmdqCounters where
  commandsSubmitted : UInt64 := 0
  commandsCompleted : UInt64 := 0
  commandsFailed : UInt64 := 0
  queueFullCount : UInt64 := 0
  compqFullCount : UInt64 := 0
  resets : UInt64 := 0
  unsupportedCommands : UInt64 := 0
  fenceValue : UInt64 := 0
  deriving DecidableEq, Repr

/-- `att1_aimu_cmdq_config`. -/
structure CmdqConfig where
  tileCount : UInt64
  cmdRingDepth : UInt64
  compRingDepth : UInt64
  deriving DecidableEq, Repr

/-- `att1_aimu_cmdq_exec_hook_fn`: the context it leaves, the descriptor it leaves and the result. -/
abbrev ExecHook (Ctx : Type) := Ctx → AimuCmd → Ctx × AimuCmd × AimuResult

/-- `att1_aimu_cmdq`. -/
structure Cmdq (Ctx : Type) where
  config : CmdqConfig
  counters : CmdqCounters
  cmdRing : ℕ → AimuCmd
  cmdHead : UInt64
  cmdTail : UInt64
  compRing : ℕ → AimuCompletion
  compHead : UInt64
  compTail : UInt64
  nextCommandId : UInt32
  execHook : Option (ExecHook Ctx)
  execHookCtx : Ctx

namespace Cmdq

variable {Ctx : Type}

/-- The bytes of the descriptor up to its checksum field, in memory order on a little-endian machine. -/
def checksummedBytes (cmd : AimuCmd) : List UInt8 :=
  let bytes (width n : ℕ) : List UInt8 := (List.range width).map fun i => UInt8.ofNat (n / 256 ^ i)
  bytes 8 cmd.inputBufAddr.toNat ++ bytes 8 cmd.outputBufAddr.toNat ++ bytes 4 cmd.commandId.toNat ++
    bytes 4 cmd.inputBufBytes.toNat ++ bytes 4 cmd.outputBufBytes.toNat ++ bytes 4 cmd.kvPosition.toNat ++
    bytes 4 cmd.opParam0.toNat ++ bytes 4 cmd.opParam1.toNat

/-- `cmd_checksum`. -/
def cmdChecksum (cmd : AimuCmd) : UInt32 := crc32Update 0 (checksummedBytes cmd)

def isPowerOfTwo (n : UInt64) : Bool := decide (1 ≤ n) && decide (n &&& (n - 1) = 0)

/-- `cmdq_used`: how many commands are in the command ring. -/
def cmdqUsed (q : Cmdq Ctx) : UInt64 := (q.cmdTail - q.cmdHead) &&& (q.config.cmdRingDepth - 1)

/-- `compq_used`: how many completions are in the completion ring. -/
def compqUsed (q : Cmdq Ctx) : UInt64 := (q.compTail - q.compHead) &&& (q.config.compRingDepth - 1)

/-- `ATT1_AIMU_CMDQ_MAX_TILES`. -/
def maxTiles : UInt64 := 16

/-- `ATT1_AIMU_CMDQ_MAX_DEPTH`. -/
def maxDepth : UInt64 := 4096

/-- The configuration used when none is given. -/
def defaultConfig : CmdqConfig := ⟨1, 256, 256⟩

/-- `att1_aimu_cmdq_create`; the hook context of a new queue is the null pointer `nullCtx`. -/
def create (host : Host) (nullCtx : Ctx) (config : Option CmdqConfig) : Except Status (Cmdq Ctx) :=
  let cfg := config.getD defaultConfig
  if cfg.tileCount = 0 ∨ maxTiles < cfg.tileCount then .error .invalidArg
  else if ¬ isPowerOfTwo cfg.cmdRingDepth ∨ maxDepth < cfg.cmdRingDepth then .error .invalidArg
  else if ¬ isPowerOfTwo cfg.compRingDepth ∨ maxDepth < cfg.compRingDepth then .error .invalidArg
  else if ¬ host.calloc 1 168 then .error .oom
  else if ¬ host.calloc cfg.cmdRingDepth.toNat 64 then .error .oom
  else if ¬ host.calloc cfg.compRingDepth.toNat 40 then .error .oom
  else .ok
    { config := cfg
      counters := {}
      cmdRing := fun _ => {}
      cmdHead := 0
      cmdTail := 0
      compRing := fun _ => {}
      compHead := 0
      compTail := 0
      nextCommandId := 1
      execHook := none
      execHookCtx := nullCtx }

/-- `att1_aimu_cmdq_set_exec_hook`. -/
def setExecHook (q : Cmdq Ctx) (fn : Option (ExecHook Ctx)) (hookCtx : Ctx) : Cmdq Ctx :=
  { q with execHook := fn, execHookCtx := hookCtx }

/-- `att1_aimu_cmdq_submit`; the last component is the caller's descriptor afterwards. -/
def submit (q : Cmdq Ctx) (cmd : Option AimuCmd) : Cmdq Ctx × Status × Option AimuCmd :=
  match cmd with
  | none => (q, .invalidArg, none)
  | some cmd =>
    if q.config.tileCount ≤ cmd.tileId.toUInt64 then
      ({ q with counters := { q.counters with commandsFailed := q.counters.commandsFailed + 1 } },
        .invalidArg, some cmd)
    else if q.config.cmdRingDepth ≤ q.cmdqUsed + 1 then
      ({ q with counters := { q.counters with queueFullCount := q.counters.queueFullCount + 1 } },
        .queueFull, some cmd)
    else
      let cmd := { cmd with commandId := q.nextCommandId, status := AimuResult.pending.code }
      let cmd := { cmd with checksum := cmdChecksum cmd }
      let slot := q.cmdTail &&& (q.config.cmdRingDepth - 1)
      ({ q with
          nextCommandId := q.nextCommandId + 1
          cmdRing := Function.update q.cmdRing slot.toNat cmd
          cmdTail := q.cmdTail + 1
          counters := { q.counters with commandsSubmitted := q.counters.commandsSubmitted + 1 } },
        .ok, some cmd)

/-- `write_completion`. -/
def writeCompletion (q : Cmdq Ctx) (cmd : AimuCmd) (result : AimuResult) : Cmdq Ctx × Status :=
  if q.config.compRingDepth ≤ q.compqUsed + 1 then
    ({ q with counters := { q.counters with compqFullCount := q.counters.compqFullCount + 1 } }, .queueFull)
  else
    let fence := if cmd.completionFenceId ≠ 0 then q.counters.fenceValue + 1 else q.counters.fenceValue
    let comp : AimuCompletion :=
      { commandId := cmd.commandId
        tileId := cmd.tileId
        sessionId := cmd.sessionId
        resultCode := result.code
        fenceValue := if cmd.completionFenceId ≠ 0 then fence.toUInt32 else 0 }
    let slot := q.compTail &&& (q.config.compRingDepth - 1)
    ({ q with
        compRing := Function.update q.compRing slot.toNat comp
        compTail := q.compTail + 1
        counters := { q.counters with fenceValue := fence } }, .ok)

/-- The command types a hook may execute. -/
def hooked : AimuCmdType → Bool
  | .nop | .traceSnapshot | .tileBarrier | .queryCounters | .resetTile => false
  | _ => true

/-- What running a command leaves: the hook context, the descriptor and the result. -/
def runCmd (hook : Option (ExecHook Ctx)) (ctx : Ctx) (cmd : AimuCmd) : Ctx × AimuCmd × AimuResult :=
  match AimuCmdType.ofCode cmd.commandType with
  | none => (ctx, cmd, .errInvalidCommand)
  | some ctype =>
    if hooked ctype then
      match hook with
      | some hook => hook ctx cmd
      | none => (ctx, cmd, .errUnsupportedOp)
    else (ctx, cmd, .ok)

/-- The counters the switch of `att1_aimu_cmdq_dispatch_one` bumps. -/
def countRun (cmd : AimuCmd) (result : AimuResult) (counters : CmdqCounters) : CmdqCounters :=
  match AimuCmdType.ofCode cmd.commandType with
  | none =>
    { counters with
      unsupportedCommands := counters.unsupportedCommands + 1
      commandsFailed := counters.commandsFailed + 1 }
  | some ctype =>
    if ctype = .resetTile then { counters with resets := counters.resets + 1 }
    else if hooked ctype ∧ result = .errUnsupportedOp then
      { counters with unsupportedCommands := counters.unsupportedCommands + 1 }
    else counters

/-- The counters bumped once the completion is written. -/
def countResult (result : AimuResult) (counters : CmdqCounters) : CmdqCounters :=
  let counters :=
    if result = .ok then { counters with commandsCompleted := counters.commandsCompleted + 1 }
    else if result ≠ .errUnsupportedOp then { counters with commandsFailed := counters.commandsFailed + 1 }
    else counters
  if result = .errUnsupportedOp then { counters with commandsCompleted := counters.commandsCompleted + 1 }
  else counters

/-- The end of `att1_aimu_cmdq_dispatch_one`: nothing more happens when the completion was not written. -/
def finishDispatch (result : AimuResult) : Cmdq Ctx × Status → Cmdq Ctx × Status
  | (q, .ok) => ({ q with counters := countResult result q.counters }, .ok)
  | (q, st) => (q, st)

/-- `att1_aimu_cmdq_dispatch_one`: the head moves before the completion is written. -/
def dispatchOne (q : Cmdq Ctx) : Cmdq Ctx × Status :=
  if q.cmdqUsed = 0 then (q, .queueEmpty)
  else
    let slot := q.cmdHead &&& (q.config.cmdRingDepth - 1)
    let cmd := q.cmdRing slot.toNat
    let r := runCmd q.execHook q.execHookCtx cmd
    let q :=
      { q with
        cmdHead := q.cmdHead + 1
        execHookCtx := r.1
        cmdRing := Function.update q.cmdRing slot.toNat r.2.1
        counters := countRun cmd r.2.2 q.counters }
    finishDispatch r.2.2 (q.writeCompletion r.2.1 r.2.2)

/-- The loop of `att1_aimu_cmdq_dispatch_all`, for at most `fuel` rounds. -/
def dispatchAllLoop : ℕ → Cmdq Ctx → Option (Cmdq Ctx × Status)
  | 0, _ => none
  | fuel + 1, q =>
    match q.dispatchOne with
    | (q, .queueEmpty) => some (q, .ok)
    | (q, .ok) => dispatchAllLoop fuel q
    | (q, st) => some (q, st)

/-- `att1_aimu_cmdq_poll_completion`; `out` says whether the output pointer is non-null. -/
def pollCompletion (q : Cmdq Ctx) (out : Bool) : Cmdq Ctx × Status × Option AimuCompletion :=
  if out = false then (q, .invalidArg, none)
  else if q.compqUsed = 0 then (q, .queueEmpty, none)
  else
    let slot := q.compHead &&& (q.config.compRingDepth - 1)
    ({ q with compHead := q.compHead + 1 }, .ok, some (q.compRing slot.toNat))

end Cmdq

/-- `att1_aimu_result_to_status`, on the code of a completion. -/
def resultToStatus (code : UInt8) : Status :=
  if code = AimuResult.ok.code ∨ code = AimuResult.busy.code ∨ code = AimuResult.pending.code then .ok
  else if code = AimuResult.errInvalidCommand.code then .invalidArg
  else if code = AimuResult.errInvalidTensor.code then .notFound
  else if code = AimuResult.errInvalidDtype.code then .unsupported
  else if code = AimuResult.errInvalidShape.code then .shape
  else if code = AimuResult.errInvalidSession.code then .invalidArg
  else if code = AimuResult.errOutOfMemory.code then .oom
  else if code = AimuResult.errQueueFull.code then .queueFull
  else if code = AimuResult.errKvOverflow.code then .state
  else if code = AimuResult.errFabric.code then .io
  else if code = AimuResult.errFabricTimeout.code then .timeout
  else if code = AimuResult.errBarrierTimeout.code then .timeout
  else if code = AimuResult.errChecksum.code then .badFormat
  else if code = AimuResult.errDmaFault.code then .io
  else if code = AimuResult.errAlignment.code then .invalidArg
  else if code = AimuResult.errTimeout.code then .timeout
  else if code = AimuResult.errFenceDeadlock.code then .state
  else if code = AimuResult.errUnsupportedOp.code then .unsupported
  else if code = AimuResult.errUnsupportedDtype.code then .unsupported
  else .state

/-- Success is read off the three codes that are no errors. -/
theorem resultToStatus_ok (result : AimuResult) :
    resultToStatus result.code = .ok ↔ result = .ok ∨ result = .busy ∨ result = .pending := by
  cases result <;> decide

end Att1
