import Att1.Aimu.Device
import Att1.Aimu.Dma
import Att1.Cmdq.Model

/-!
# Att1.Aimu.Trace — counter snapshots (`src/aimu_trace.c`)
-/

namespace Att1

/-- `att1_aimu_trace_cmdq_counters`. -/
structure TraceCmdqCounters where
  commandsSubmitted : UInt64 := 0
  commandsCompleted : UInt64 := 0
  commandsFailed : UInt64 := 0
  queueFullCount : UInt64 := 0
  unsupportedCommands : UInt64 := 0
  fenceValue : UInt64 := 0
  deriving DecidableEq, Repr

/-- `att1_aimu_trace_device_counters`. -/
structure TraceDeviceCounters where
  deviceResets : UInt64 := 0
  tileResets : UInt64 := 0
  tileErrors : UInt64 := 0
  deriving DecidableEq, Repr

/-- `att1_aimu_trace_fabric_counters`: nothing writes them. -/
structure TraceFabricCounters where
  packetsSent : UInt64 := 0
  packetsReceived : UInt64 := 0
  payloadBytesSent : UInt64 := 0
  payloadBytesReceived : UInt64 := 0
  congestionEvents : UInt64 := 0
  deriving DecidableEq, Repr

/-- `ATT1_AIMU_TRACE_STATUS_OK`, `_PARTIAL` and `_EMPTY`. -/
inductive TraceStatus
  | ok
  | partialSnapshot
  | empty
  deriving DecidableEq, Repr

/-- `ATT1_AIMU_TRACE_VERSION`. -/
def traceVersion : UInt32 := 0x00010000

/-- `att1_aimu_trace_meta`. -/
structure TraceMeta where
  traceVersion : UInt32 := traceVersion
  snapshotId : UInt32 := 0
  deviceId : UInt32 := 0
  tileCount : UInt32 := 0
  eventCount : UInt64 := 0
  droppedEvents : UInt64 := 0
  status : TraceStatus := .empty
  deriving DecidableEq, Repr

/-- `att1_aimu_trace`: its snapshot, which starts empty. -/
structure AimuTrace where
  info : TraceMeta := {}
  cmdq : TraceCmdqCounters := {}
  device : TraceDeviceCounters := {}
  dma : DmaCounters := {}
  fabric : TraceFabricCounters := {}
  deriving DecidableEq, Repr

namespace AimuTrace

/-- `att1_aimu_trace_snapshot_cmdq`. -/
def snapshotCmdq (t : AimuTrace) (c : CmdqCounters) : AimuTrace :=
  { t with
    cmdq :=
      { commandsSubmitted := c.commandsSubmitted
        commandsCompleted := c.commandsCompleted
        commandsFailed := c.commandsFailed
        queueFullCount := c.queueFullCount
        unsupportedCommands := c.unsupportedCommands
        fenceValue := c.fenceValue } }

/-- `att1_aimu_trace_snapshot_device`. -/
def snapshotDevice (t : AimuTrace) (dev : AimuDevice) : AimuTrace :=
  let tiles := (List.range dev.tileCount).map dev.tiles
  { t with
    device :=
      { deviceResets := dev.resetCount.toUInt64
        tileResets := tiles.foldl (fun n tile => n + tile.resetCount.toUInt64) 0
        tileErrors := UInt64.ofNat (tiles.countP fun tile => tile.state = .error) }
    info := { t.info with tileCount := UInt32.ofNat dev.tileCount } }

/-- `att1_aimu_trace_snapshot_dma`. -/
def snapshotDma (t : AimuTrace) (c : DmaCounters) : AimuTrace := { t with dma := c }

/-- `att1_aimu_trace_snapshot_all`; a source that is null keeps its old values. -/
def snapshotAll (t : AimuTrace) (q : Option CmdqCounters) (dev : Option AimuDevice) (dma : Option DmaCounters) :
    AimuTrace :=
  let t := match q with
    | some c => t.snapshotCmdq c
    | none => t
  let t := match dev with
    | some d => t.snapshotDevice d
    | none => t
  let t := match dma with
    | some c => t.snapshotDma c
    | none => t
  { t with
    info :=
      { t.info with
        snapshotId := t.info.snapshotId + 1
        status := if q.isSome ∧ dev.isSome ∧ dma.isSome then .ok else .partialSnapshot } }

end AimuTrace

end Att1
