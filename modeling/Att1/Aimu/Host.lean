import Att1.Aimu.Control
import Att1.Lib.Checked

/-!
# Att1.Aimu.Host — the control-plane harness (`src/aimu_host.c`)

A host owns a device, a command queue, a DMA simulator, a trace and a register file, and brings them up in a fixed
order: probe, enumerate, set the queue up, submit.

* `AimuHost`: the harness; `view` is its register file with what is attached to it, `through` carries the effects of
  a register access back to the simulators.
* `HostCall`, `perform`: the calls on a host, and the accesses its users make to its DMA simulator and registers.
-/

open Att1.Lib

namespace Att1

open Mmio

/-- `att1_aimu_host_config`; zero fields mean the defaults. -/
structure HostConfig where
  tileCount : ℕ := 0
  tileMemoryBytes : UInt64 := 0
  tileKvBytes : UInt64 := 0
  supportedDtypes : UInt32 := 0
  supportedOps : UInt32 := 0
  cmdRingDepth : UInt64 := 0
  deriving DecidableEq, Repr

/-- `att1_aimu_host_tile_info`. -/
structure HostTileInfo where
  tileId : UInt8
  memoryCapacityBytes : UInt64
  kvCapacityBytes : UInt64
  supportedDtypes : UInt32
  supportedOps : UInt32
  state : UInt8
  deriving DecidableEq, Repr

/-- `att1_aimu_host_summary`, less the status of the harness, which is always `ATT1_AIMU_OK`. -/
structure HostSummary where
  deviceId : UInt32 := 0
  registerMapVersion : UInt32 := 0
  tileCount : UInt32 := 0
  commandsSubmitted : UInt64 := 0
  commandsCompleted : UInt64 := 0
  commandsFailed : UInt64 := 0
  dmaSubmitted : UInt64 := 0
  dmaCompleted : UInt64 := 0
  dmaFailed : UInt64 := 0
  doorbellCount : UInt32 := 0
  snapshotTriggerCount : UInt32 := 0
  fenceValue : UInt64 := 0
  traceEventCount : UInt64 := 0
  traceSnapshotId : UInt32 := 0
  traceStatus : TraceStatus := .empty
  deriving DecidableEq, Repr

/-- `att1_aimu_host`; `cmdqAttached` says whether the register file has the queue. -/
structure AimuHost (Ctx : Type) where
  device : AimuDevice
  cmdq : Cmdq Ctx
  dma : AimuDma := {}
  trace : AimuTrace := {}
  mmio : AimuMmio
  cmdqAttached : Bool := false
  probe : HostProbe := {}
  probed : Bool := false
  cmdqReady : Bool := false

namespace AimuHost

variable {Ctx : Type}

/-- The register file with the simulators attached to it. -/
def view (h : AimuHost Ctx) : MmioState Ctx where
  mmio := h.mmio
  sims := ⟨some h.device, if h.cmdqAttached then some h.cmdq else none, some h.trace⟩

/-- The host after an access to its register file. -/
def through (h : AimuHost Ctx) (s : MmioState Ctx) : AimuHost Ctx :=
  { h with
    mmio := s.mmio
    device := s.sims.device.getD h.device
    trace := s.sims.trace.getD h.trace }

/-- `att1_aimu_mmio_sync` on the registers of the host. -/
def sync (h : AimuHost Ctx) : AimuHost Ctx := h.through h.view.sync

/-- `att1_aimu_host_create`. -/
def create (host : Host) (nullCtx : Ctx) (config : Option HostConfig) : Except Status (AimuHost Ctx) := do
  let cfg := config.getD {}
  let tiles := if cfg.tileCount = 0 then 4 else cfg.tileCount
  let depth := if cfg.cmdRingDepth = 0 then 64 else cfg.cmdRingDepth
  rejectIf (¬ host.calloc 1 88) .oom
  let device ← AimuDevice.create host <| some
    { tileCount := tiles
      tileMemoryBytes := cfg.tileMemoryBytes
      tileKvBytes := cfg.tileKvBytes
      supportedDtypes := cfg.supportedDtypes
      supportedOps := cfg.supportedOps }
  let cmdq ← Cmdq.create host nullCtx (some ⟨UInt64.ofNat tiles, depth, depth⟩)
  rejectIf (¬ host.calloc 1 360) .oom
  rejectIf (¬ host.calloc 1 232) .oom
  let s ← @MmioState.create Ctx host
  return { device := device, cmdq := cmdq, mmio := s.mmio : AimuHost Ctx }.sync

/-- `att1_aimu_host_probe_device`. -/
def probeDevice (h : AimuHost Ctx) : AimuHost Ctx × Except Status HostProbe :=
  match h.sync.view.probe with
  | .error st => (h.sync, .error st)
  | .ok probe => ({ h.sync with probe := probe, probed := true }, .ok probe)

/-- What `enumerate_tiles` copies of a tile. -/
def tileInfo (t : AimuTileInfo) : HostTileInfo :=
  ⟨t.tileId, t.memoryCapacityBytes, t.kvCapacityBytes, t.supportedDtypes, t.supportedOps, t.state.code.toUInt8⟩

/-- `att1_aimu_device_query_tile`. -/
def queryTile (dev : AimuDevice) (tileId : UInt8) : Option AimuTileInfo :=
  if dev.tileCount ≤ tileId.toNat then none else some (dev.tiles tileId.toNat)

/-- The loop of `att1_aimu_host_enumerate_tiles`: the tiles that are left, and the infos stored so far. -/
def enumerateLoop (dev : AimuDevice) : List ℕ → List HostTileInfo → Status × List HostTileInfo
  | [], infos => (.ok, infos)
  | i :: rest, infos =>
    match queryTile dev (UInt8.ofNat i) with
    | none => (.invalidArg, infos)
    | some t => enumerateLoop dev rest (infos ++ [tileInfo t])

/-- `att1_aimu_host_enumerate_tiles`, with room for `count` infos. -/
def enumerateTiles (h : AimuHost Ctx) (count : ℕ) : Status × List HostTileInfo :=
  if h.probed = false then (.state, [])
  else enumerateLoop h.device (List.range (min h.probe.tileCount.toNat count)) []

/-- `att1_aimu_host_setup_cmdq`. -/
def setupCmdq (h : AimuHost Ctx) : AimuHost Ctx × Status :=
  if h.probed = false then (h, .state)
  else ({ ({ h with cmdqAttached := true } : AimuHost Ctx).sync with cmdqReady := true }, .ok)

/-- `att1_aimu_host_submit_cmd`. -/
def submitCmd (h : AimuHost Ctx) (cmd : AimuCmd) : AimuHost Ctx × Status × Option AimuCmd :=
  if h.cmdqReady = false then (h, .state, some cmd)
  else
    let r := h.cmdq.submit (some cmd)
    ({ h with cmdq := r.1 }, r.2)

/-- `att1_aimu_mmio_write32` on the registers of the host. -/
def write32 (h : AimuHost Ctx) (offset value : UInt32) : AimuHost Ctx × Status :=
  let r := h.view.write32 offset value
  (h.through r.1, r.2)

/-- `att1_aimu_host_ring_doorbell`. -/
def ringDoorbell (h : AimuHost Ctx) : AimuHost Ctx × Status :=
  if h.cmdqReady = false then (h, .state) else h.write32 cqDoorbell h.cmdq.cmdTail.toUInt32

/-- `att1_aimu_host_process_one`. -/
def processOne (h : AimuHost Ctx) : AimuHost Ctx × Status :=
  let r := h.cmdq.dispatchOne
  ({ h with cmdq := r.1 }, r.2)

/-- `att1_aimu_host_drain`, for at most `fuel` commands. -/
def drain (fuel : ℕ) (h : AimuHost Ctx) : Option (AimuHost Ctx × Status) :=
  (Cmdq.dispatchAllLoop fuel h.cmdq).map fun r => ({ h with cmdq := r.1 }, r.2)

/-- `att1_aimu_host_read_completion`. -/
def readCompletion (h : AimuHost Ctx) : AimuHost Ctx × Status × Option AimuCompletion :=
  let r := h.cmdq.pollCompletion true
  ({ h with cmdq := r.1 }, r.2)

/-- `att1_aimu_host_snapshot_counters`. -/
def snapshotCounters (h : AimuHost Ctx) : AimuHost Ctx :=
  h.through (h.view.snapshotCounters (if h.cmdqReady then some h.cmdq.counters else none) (some h.dma.counters))

/-- `att1_aimu_host_get_summary`. -/
def getSummary (h : AimuHost Ctx) : HostSummary :=
  let queue := if h.cmdqReady then h.cmdq.counters else {}
  { deviceId := h.probe.deviceId
    registerMapVersion := h.probe.registerMapVersion
    tileCount := h.probe.tileCount
    commandsSubmitted := queue.commandsSubmitted
    commandsCompleted := queue.commandsCompleted
    commandsFailed := queue.commandsFailed
    fenceValue := queue.fenceValue
    dmaSubmitted := h.dma.counters.dmaSubmitted
    dmaCompleted := h.dma.counters.dmaCompleted
    dmaFailed := h.dma.counters.dmaFailed
    doorbellCount := h.mmio.doorbellWriteCount
    snapshotTriggerCount := h.mmio.snapshotTriggerCount
    traceEventCount := h.trace.info.eventCount
    traceSnapshotId := h.trace.info.snapshotId
    traceStatus := h.trace.info.status }

/-- `att1_aimu_host_reset`: neither the queue nor its place in the register file is touched. -/
def reset (h : AimuHost Ctx) : AimuHost Ctx :=
  { ({ h with
        device := h.device.reset
        mmio := h.view.reset.mmio
        trace := {}
        dma := h.dma.resetCounters } : AimuHost Ctx).sync with
    probed := false
    cmdqReady := false
    probe := {} }

end AimuHost

/-- A call on a host, or an access of its user to the DMA simulator or the registers it owns. -/
inductive HostCall
  | probeDevice
  | enumerateTiles (count : ℕ)
  | setupCmdq
  | validateDma (desc : DmaDesc)
  | submitCmd (cmd : AimuCmd)
  | ringDoorbell
  | processOne
  | drain
  | readCompletion
  | snapshotCounters
  | getSummary
  | reset
  | dmaSubmit (desc : DmaDesc)
  | registerHostRegion (base size : UInt64)
  | registerDeviceRegion (base size : UInt64)
  | read32 (offset : UInt32)
  | write32 (offset value : UInt32)

/-- What a call returns: its status, the caller's descriptor after a submit, and what it stored for the caller. -/
structure HostAnswer where
  status : Status := .ok
  submitted : Option AimuCmd := none
  completion : Option AimuCompletion := none
  probe : Option HostProbe := none
  tiles : List HostTileInfo := []
  summary : Option HostSummary := none
  value : Option UInt32 := none

namespace AimuHost

variable {Ctx : Type}

/-- One call; `fuel` bounds the commands that a drain dispatches. -/
def perform (fuel : ℕ) (h : AimuHost Ctx) : HostCall → Option (AimuHost Ctx × HostAnswer)
  | .probeDevice =>
    let r := h.probeDevice
    some (r.1, { status := statusOf r.2, probe := r.2.toOption })
  | .enumerateTiles count =>
    let r := h.enumerateTiles count
    some (h, { status := r.1, tiles := r.2 })
  | .setupCmdq => some (h.setupCmdq.map id fun st => { status := st })
  | .validateDma desc => some (h, { status := h.dma.validate desc })
  | .submitCmd cmd => some ((h.submitCmd cmd).map id fun r => { status := r.1, submitted := r.2 })
  | .ringDoorbell => some (h.ringDoorbell.map id fun st => { status := st })
  | .processOne => some (h.processOne.map id fun st => { status := st })
  | .drain => (h.drain fuel).map fun r => r.map id fun st => { status := st }
  | .readCompletion => some (h.readCompletion.map id fun r => { status := r.1, completion := r.2 })
  | .snapshotCounters => some (h.snapshotCounters, {})
  | .getSummary => some (h, { summary := some h.getSummary })
  | .reset => some (h.reset, {})
  | .dmaSubmit desc =>
    let r := h.dma.submit desc
    some ({ h with dma := r.1 }, { status := r.2 })
  | .registerHostRegion base size =>
    let r := h.dma.registerHostRegion base size
    some ({ h with dma := r.1 }, { status := r.2 })
  | .registerDeviceRegion base size =>
    let r := h.dma.registerDeviceRegion base size
    some ({ h with dma := r.1 }, { status := r.2 })
  | .read32 offset =>
    let r := h.view.read32 offset
    some (h, { status := statusOf r, value := r.toOption })
  | .write32 offset value => some ((h.write32 offset value).map id fun st => { status := st })

end AimuHost

/-- A call with its answer. -/
structure HostEvent extends HostAnswer where
  call : HostCall

/-- One call. -/
def HostStep {Ctx : Type} (h : AimuHost Ctx) (e : HostEvent) (h' : AimuHost Ctx) : Prop :=
  ∃ fuel, h.perform fuel e.call = some (h', e.toHostAnswer)

end Att1
