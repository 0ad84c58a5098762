import Att1.Aimu.Trace
import Att1.Lib.Table

/-!
# Att1.Aimu.Mmio — the register file (`src/aimu_mmio.c`)

A register is named by its byte offset in BAR0.  The three simulators a register file is attached to belong to its
owner; `Sims` is what the three pointers lead to.
-/

namespace Att1

/-- The registers, by byte offset. -/
abbrev RegFile := UInt32 → UInt32

/-- Assign a list of registers, in order. -/
def RegFile.store (regs : RegFile) (cells : List (UInt32 × UInt32)) : RegFile :=
  cells.foldl (fun r c => Function.update r c.1 c.2) regs

theorem RegFile.store_of_not_mem {regs : RegFile} {cells : List (UInt32 × UInt32)} {off : UInt32}
    (h : ∀ c ∈ cells, c.1 ≠ off) : regs.store cells off = regs off := by
  induction cells generalizing regs with
  | nil => rfl
  | cons c cells ih =>
    have hne : off ≠ c.1 := (h c List.mem_cons_self).symm
    have hrest := @ih (Function.update regs c.1 c.2) fun d hd => h d (List.mem_cons_of_mem _ hd)
    exact hrest.trans (Function.update_of_ne hne _ _)

theorem RegFile.store_append (regs : RegFile) (cells cells' : List (UInt32 × UInt32)) :
    regs.store (cells ++ cells') = (regs.store cells).store cells' :=
  List.foldl_append

/-- `reg_access_t`. -/
inductive RegAccess
  | ro
  | rw
  | rw1c
  | wo
  | reserved
  deriving DecidableEq, Repr

namespace Mmio

/-- `ATT1_AIMU_MMIO_BAR0_SIZE`. -/
def bar0Size : UInt32 := 0x10000

/-- `ATT1_AIMU_MMIO_RESERVED_RD`. -/
def reservedRd : UInt32 := 0xDEADBEEF

/-- `ATT1_MMIO_DEVICE_ID_DEFAULT`. -/
def deviceIdDefault : UInt32 := 0xA7710001

/-! ### Offsets of the registers the simulator itself reads or writes -/

def deviceId : UInt32 := 0x0000
def deviceVersion : UInt32 := 0x0004
def registerMapVersion : UInt32 := 0x0008
def featureFlagsLow : UInt32 := 0x000C
def featureFlagsHigh : UInt32 := 0x0010
def tileCount : UInt32 := 0x0014
def commandQueueCount : UInt32 := 0x0018
def globalStatus : UInt32 := 0x0024
def globalControl : UInt32 := 0x0028
def resetControl : UInt32 := 0x002C
def counterSnapshotControl : UInt32 := 0x003C
def cqHead : UInt32 := 0x100C
def cqTail : UInt32 := 0x1010
def cqDoorbell : UInt32 := 0x1014
def cqStatus : UInt32 := 0x1018
def cqFenceValue : UInt32 := 0x1020
def fabricPktCtrLow : UInt32 := 0x3014
def fabricPayloadBytesLow : UInt32 := 0x301C
def fabricCongestionCtr : UInt32 := 0x3024
def cntBase : UInt32 := 0x4000
def cntCmdIssuedLo : UInt32 := 0x4000
def cntCmdCompletedLo : UInt32 := 0x4008
def cntTensorBytesRdLo : UInt32 := 0x4050
def cntTensorBytesWrLo : UInt32 := 0x4058
def cntFabricPktSentLo : UInt32 := 0x4078
def cntFabricPktRecvLo : UInt32 := 0x4080
def cntStallQueueFullLo : UInt32 := 0x40A8
def cntErrorsTotalLo : UInt32 := 0x40B0
def cntEnd : UInt32 := 0x40B8
def traceWritePtr : UInt32 := 0x500C
def traceDroppedEvents : UInt32 := 0x5014
def tileBase : UInt32 := 0x8000
def tileStride : UInt32 := 0x800
def tileErrorStatus : UInt32 := 0x03C
def tileResetControl : UInt32 := 0x040

/-! ### Bits -/

def gstatDeviceReady : UInt32 := 0x01
def gstatAnyTileActive : UInt32 := 0x02
def gstatAnyTileError : UInt32 := 0x04
def gstatTraceActive : UInt32 := 0x20
def gctrlEnableDevice : UInt32 := 0x01
def gctrlDisableDevice : UInt32 := 0x02
def gctrlEnableTrace : UInt32 := 0x04
def gctrlDisableTrace : UInt32 := 0x08
def rstctlSoftResetAll : UInt32 := 0x01
def rstctlResetCounters : UInt32 := 0x02
def rstctlResetTrace : UInt32 := 0x04
def snapNow : UInt32 := 0x01

/-! ### Access types -/

/-- The read-only registers outside the counter block and the tile windows. -/
def readOnlyRegs : List UInt32 :=
  [0x0000, 0x0004, 0x0008, 0x000C, 0x0010, 0x0014, 0x0018, 0x0024, 0x0034,
    0x100C, 0x1018, 0x1020, 0x2004, 0x3000, 0x3014, 0x3018, 0x301C, 0x3020, 0x3024, 0x500C, 0x5014]

def readWriteRegs : List UInt32 :=
  [0x0020, 0x0038, 0x003C, 0x1000, 0x1004, 0x1008, 0x1010, 0x1024, 0x1028, 0x102C,
    0x2000, 0x200C, 0x2010, 0x2014, 0x3004, 0x3008, 0x300C, 0x3010, 0x5000, 0x5004, 0x5008, 0x5010, 0x5018]

/-- The registers in which a written one clears a bit. -/
def clearRegs : List UInt32 := [0x001C, 0x0030, 0x101C, 0x2008, 0x3028]

def writeOnlyRegs : List UInt32 := [globalControl, resetControl, cqDoorbell]

/-- The registers of a tile window. -/
def tileAccessType (tileOff : UInt32) : RegAccess :=
  if tileOff < tileErrorStatus ∧ tileOff % 4 = 0 then .ro
  else if tileOff = tileErrorStatus then .rw1c
  else if tileOff = tileResetControl then .wo
  else .reserved

/-- `mmio_access_type`. -/
def accessType (off : UInt32) : RegAccess :=
  if off ∈ readOnlyRegs then .ro
  else if off ∈ readWriteRegs then .rw
  else if off ∈ clearRegs then .rw1c
  else if off ∈ writeOnlyRegs then .wo
  else if cntBase ≤ off ∧ off < cntEnd then .ro
  else if tileBase ≤ off then tileAccessType ((off - tileBase) % tileStride)
  else .reserved

/-- The two registers of a 64-bit value. -/
def wr64 (lo : UInt32) (v : UInt64) : List (UInt32 × UInt32) := [(lo, v.toUInt32), (lo + 4, (v >>> 32).toUInt32)]

def versionWord (v : AimuDeviceVersion) : UInt32 :=
  v.major.toUInt32 <<< 24 ||| v.minor.toUInt32 <<< 16 ||| v.patch.toUInt32 <<< 8 ||| v.build.toUInt32

/-- `mmio_set_defaults`. -/
def setDefaults (regs : RegFile) : RegFile :=
  regs.store
    [(deviceId, deviceIdDefault), (registerMapVersion, AimuDevice.currentMapVersion),
      (globalStatus, gstatDeviceReady), (deviceVersion, versionWord AimuDevice.defaultVersion)]

/-- The GLOBAL_STATUS bits that the states of the tiles decide. -/
def tileStatusBits (dev : AimuDevice) : UInt32 :=
  (List.range dev.tileCount).foldl
    (fun bits i =>
      let bits := if (dev.tiles i).state = .active then bits ||| gstatAnyTileActive else bits
      if (dev.tiles i).state = .error then bits ||| gstatAnyTileError else bits)
    gstatDeviceReady

/-- The registers of the window of tile `n`. -/
def tileCells (dev : AimuDevice) (n : ℕ) : List (UInt32 × UInt32) :=
  let ti := dev.tiles n
  let b := tileBase + UInt32.ofNat n * tileStride
  [(b, ti.tileId.toUInt32), (b + 0x04, ti.state.code &&& 0x3), (b + 0x08, dev.featureFlags.toUInt32)] ++
    wr64 (b + 0x0C) ti.memoryCapacityBytes ++ wr64 (b + 0x14) ti.memoryUsedBytes ++
    wr64 (b + 0x1C) ti.kvCapacityBytes ++ wr64 (b + 0x24) ti.kvUsedBytes ++
    [(b + 0x2C, ti.supportedDtypes), (b + 0x30, ti.supportedOps), (b + 0x34, 0),
      (b + 0x38, ti.fabricLinkMask.toUInt32), (b + tileErrorStatus, ti.errorCode.toUInt32)]

/-- The global registers that identify the device. -/
def deviceCells (dev : AimuDevice) : List (UInt32 × UInt32) :=
  [(deviceId, deviceIdDefault), (deviceVersion, versionWord dev.version),
    (registerMapVersion, dev.registerMapVersion), (featureFlagsLow, dev.featureFlags.toUInt32),
    (featureFlagsHigh, (dev.featureFlags >>> 32).toUInt32), (tileCount, UInt32.ofNat dev.tileCount),
    (commandQueueCount, UInt32.ofNat dev.tileCount)]

/-- The windows of all tiles. -/
def windowCells (dev : AimuDevice) : List (UInt32 × UInt32) :=
  (List.range (min dev.tileCount AimuDevice.maxTiles)).flatMap (tileCells dev)

/-- `sync_from_device`: TRACE_ACTIVE stays as it is in the register. -/
def syncFromDevice (dev : Option AimuDevice) (regs : RegFile) : RegFile :=
  match dev with
  | none => regs
  | some dev =>
    let regs := regs.store (deviceCells dev)
    let gstat := tileStatusBits dev ||| (regs globalStatus &&& gstatTraceActive)
    (regs.store [(globalStatus, gstat)]).store (windowCells dev)

variable {Ctx : Type}

/-- `sync_from_cmdq`. -/
def syncFromCmdq (q : Option (Cmdq Ctx)) (regs : RegFile) : RegFile :=
  match q with
  | none => regs
  | some q =>
    regs.store <|
      [(cqHead, q.cmdHead.toUInt32 &&& 0xFFFF), (cqTail, q.cmdTail.toUInt32 &&& 0xFFFF),
        (cqFenceValue, q.counters.fenceValue.toUInt32 &&& 0xFFFF),
        (cqStatus, if q.cmdHead = q.cmdTail then 0 else 0x10)] ++
      wr64 cntCmdIssuedLo q.counters.commandsSubmitted ++ wr64 cntCmdCompletedLo q.counters.commandsCompleted ++
      wr64 cntStallQueueFullLo q.counters.queueFullCount

/-- `sync_from_trace`. -/
def syncFromTrace (tr : Option AimuTrace) (regs : RegFile) : RegFile :=
  match tr with
  | none => regs
  | some tr =>
    if tr.info.status = .empty then regs
    else
      regs.store <|
        wr64 cntCmdIssuedLo tr.cmdq.commandsSubmitted ++ wr64 cntCmdCompletedLo tr.cmdq.commandsCompleted ++
        wr64 cntStallQueueFullLo tr.cmdq.queueFullCount ++
        wr64 cntErrorsTotalLo (tr.cmdq.commandsFailed + tr.device.tileErrors) ++
        wr64 cntTensorBytesRdLo tr.dma.bytesHostToDevice ++ wr64 cntTensorBytesWrLo tr.dma.bytesDeviceToHost ++
        wr64 cntFabricPktSentLo tr.fabric.packetsSent ++ wr64 cntFabricPktRecvLo tr.fabric.packetsReceived ++
        wr64 fabricPktCtrLow tr.fabric.packetsSent ++ wr64 fabricPayloadBytesLow tr.fabric.payloadBytesSent ++
        [(fabricCongestionCtr, tr.fabric.congestionEvents.toUInt32)]

end Mmio

/-- What the `device`, `cmdq` and `trace` pointers of a register file lead to. -/
structure Sims (Ctx : Type) where
  device : Option AimuDevice := none
  cmdq : Option (Cmdq Ctx) := none
  trace : Option AimuTrace := none

/-- `att1_aimu_mmio`, without the pointers. -/
structure AimuMmio where
  regs : RegFile
  doorbellWriteCount : UInt32 := 0
  snapshotTriggerCount : UInt32 := 0

/-- A register file with the simulators attached to it. -/
structure MmioState (Ctx : Type) where
  mmio : AimuMmio
  sims : Sims Ctx

namespace MmioState

open Mmio

variable {Ctx : Type}

/-- `att1_aimu_mmio_create`: nothing is attached. -/
def create (host : Host) : Except Status (MmioState Ctx) :=
  if host.calloc 1 65576 then .ok ⟨{ regs := setDefaults fun _ => 0 }, {}⟩ else .error .oom

/-- The registers after the three refreshes that `sync_from_*` make. -/
def refresh (s : MmioState Ctx) (regs : RegFile) : RegFile :=
  syncFromTrace s.sims.trace (syncFromCmdq s.sims.cmdq (syncFromDevice s.sims.device (setDefaults regs)))

/-- `att1_aimu_mmio_sync`. -/
def sync (s : MmioState Ctx) : MmioState Ctx := { s with mmio := { s.mmio with regs := s.refresh s.mmio.regs } }

/-- `att1_aimu_mmio_reset`: the attached simulators are left alone. -/
def reset (s : MmioState Ctx) : MmioState Ctx := { s with mmio := { regs := setDefaults fun _ => 0 } }

/-- A write to a TILE_RESET_CONTROL register. -/
def resetTile (s : MmioState Ctx) (tileN : UInt32) : MmioState Ctx :=
  match s.sims.device with
  | none => s
  | some dev =>
    let dev := if tileN < UInt32.ofNat dev.tileCount then dev.resetTile tileN.toUInt8.toNat else dev
    { mmio := { s.mmio with regs := syncFromDevice (some dev) s.mmio.regs }
      sims := { s.sims with device := some dev } }

/-- GLOBAL_STATUS after a write to GLOBAL_CONTROL. -/
def controlStatus (value status : UInt32) : UInt32 :=
  let status := if value &&& gctrlEnableDevice ≠ 0 then status ||| gstatDeviceReady else status
  let status := if value &&& gctrlDisableDevice ≠ 0 then status &&& ~~~ gstatDeviceReady else status
  let status := if value &&& gctrlEnableTrace ≠ 0 then status ||| gstatTraceActive else status
  if value &&& gctrlDisableTrace ≠ 0 then status &&& ~~~ gstatTraceActive else status

/-- The `SOFT_RESET_ALL` part of a write to RESET_CONTROL. -/
def softResetAll (s : MmioState Ctx) : MmioState Ctx :=
  { s with sims := { s.sims with device := s.sims.device.map AimuDevice.reset } }.sync

/-- The `RESET_COUNTERS` part of a write to RESET_CONTROL. -/
def resetCounters (s : MmioState Ctx) : MmioState Ctx :=
  { mmio := { s.mmio with regs := fun off => if cntBase ≤ off ∧ off < cntEnd then 0 else s.mmio.regs off }
    sims := { s.sims with trace := s.sims.trace.map fun _ => {} } }

/-- The `RESET_TRACE` part of a write to RESET_CONTROL. -/
def resetTrace (s : MmioState Ctx) : MmioState Ctx :=
  { s with mmio := { s.mmio with regs := s.mmio.regs.store [(traceWritePtr, 0), (traceDroppedEvents, 0)] } }

/-- A write to RESET_CONTROL. -/
def writeResetControl (s : MmioState Ctx) (value : UInt32) : MmioState Ctx :=
  let s := if value &&& rstctlSoftResetAll ≠ 0 then s.softResetAll else s
  let s := if value &&& rstctlResetCounters ≠ 0 then s.resetCounters else s
  if value &&& rstctlResetTrace ≠ 0 then s.resetTrace else s

/-- `mmio_wo_write`. -/
def woWrite (s : MmioState Ctx) (off value : UInt32) : MmioState Ctx :=
  if tileBase ≤ off then
    if (off - tileBase) % tileStride = tileResetControl then s.resetTile ((off - tileBase) / tileStride) else s
  else if off = globalControl then
    { s with
      mmio :=
        { s.mmio with regs := s.mmio.regs.store [(globalStatus, controlStatus value (s.mmio.regs globalStatus))] } }
  else if off = resetControl then s.writeResetControl value
  else if off = cqDoorbell then
    { s with
      mmio :=
        { s.mmio with
          doorbellWriteCount := s.mmio.doorbellWriteCount + 1
          regs := s.mmio.regs.store [(cqTail, value &&& 0xFFFF)] } }
  else s

/-- Whether an offset is that of a register. -/
def validOffset (offset : UInt32) : Bool := offset % 4 = 0 && offset < bar0Size

/-- `att1_aimu_mmio_read32`. -/
def read32 (s : MmioState Ctx) (offset : UInt32) : Except Status UInt32 :=
  if ¬ validOffset offset then .error .invalidArg
  else
    match accessType offset with
    | .wo => .ok 0
    | .reserved => .ok reservedRd
    | _ => .ok (s.mmio.regs offset)

/-- A write to COUNTER_SNAPSHOT_CONTROL: SNAP_NOW is not stored. -/
def writeSnapshotControl (s : MmioState Ctx) (value : UInt32) : MmioState Ctx :=
  if value &&& snapNow ≠ 0 then
    let m := { s.mmio with snapshotTriggerCount := s.mmio.snapshotTriggerCount + 1 }
    match s.sims.trace with
    | some tr =>
      let tr := tr.snapshotAll (s.sims.cmdq.map Cmdq.counters) s.sims.device none
      { mmio :=
          { m with
            regs := (syncFromTrace (some tr) m.regs).store [(counterSnapshotControl, value &&& ~~~ snapNow)] }
        sims := { s.sims with trace := some tr } }
    | none =>
      { s with
        mmio :=
          { m with
            regs := (syncFromCmdq s.sims.cmdq m.regs).store [(counterSnapshotControl, value &&& ~~~ snapNow)] } }
  else { s with mmio := { s.mmio with regs := s.mmio.regs.store [(counterSnapshotControl, value)] } }

/-- `att1_aimu_mmio_write32`. -/
def write32 (s : MmioState Ctx) (offset value : UInt32) : MmioState Ctx × Status :=
  if ¬ validOffset offset then (s, .invalidArg)
  else
    match accessType offset with
    | .ro => (s, .unsupported)
    | .rw =>
      if offset = counterSnapshotControl then (s.writeSnapshotControl value, .ok)
      else ({ s with mmio := { s.mmio with regs := s.mmio.regs.store [(offset, value)] } }, .ok)
    | .rw1c =>
      ({ s with mmio := { s.mmio with regs := s.mmio.regs.store [(offset, s.mmio.regs offset &&& ~~~ value)] } },
        .ok)
    | .wo => (s.woWrite offset value, .ok)
    | .reserved => (s, .ok)

/-- Whether an offset is that of a 64-bit pair; `offset + 4` wraps around. -/
def validPair (offset : UInt32) : Bool := offset % 8 = 0 && offset + 4 < bar0Size

/-- `att1_aimu_mmio_read64`. -/
def read64 (s : MmioState Ctx) (offset : UInt32) : Except Status UInt64 :=
  if ¬ validPair offset then .error .invalidArg
  else do
    let lo ← s.read32 offset
    let hi ← s.read32 (offset + 4)
    return hi.toUInt64 <<< 32 ||| lo.toUInt64

/-- `att1_aimu_mmio_write64`. -/
def write64 (s : MmioState Ctx) (offset : UInt32) (value : UInt64) : MmioState Ctx × Status :=
  if ¬ validPair offset then (s, .invalidArg)
  else
    match s.write32 offset value.toUInt32 with
    | (s, .ok) => s.write32 (offset + 4) (value >>> 32).toUInt32
    | (s, st) => (s, st)

end MmioState

/-- `att1_aimu_host_probe_result`. -/
structure HostProbe where
  deviceId : UInt32 := 0
  registerMapVersion : UInt32 := 0
  globalStatus : UInt32 := 0
  tileCount : UInt32 := 0
  deriving DecidableEq, Repr

open Mmio in
/-- The registers that `att1_aimu_host_probe_device` reads, and whether it accepts them. -/
def MmioState.probe {Ctx : Type} (s : MmioState Ctx) : Except Status HostProbe := do
  let deviceIdReg ← s.read32 deviceId
  let regMapVer ← s.read32 registerMapVersion
  let tileCountReg ← s.read32 tileCount
  let status ← s.read32 globalStatus
  if status &&& gstatDeviceReady = 0 then throw .state
  return ⟨deviceIdReg, regMapVer, status, tileCountReg⟩

end Att1
