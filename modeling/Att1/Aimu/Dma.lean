import Att1.Base

/-!
# Att1.Aimu.Dma — the DMA descriptor simulator (`src/aimu_dma.c`)

Descriptors are validated and counted; no bytes move.
-/

namespace Att1

/-- `att1_aimu_dma_counters`. -/
structure DmaCounters where
  dmaSubmitted : UInt64 := 0
  dmaCompleted : UInt64 := 0
  dmaFailed : UInt64 := 0
  bytesHostToDevice : UInt64 := 0
  bytesDeviceToHost : UInt64 := 0
  bytesDeviceToDevice : UInt64 := 0
  alignmentFailures : UInt64 := 0
  rangeFailures : UInt64 := 0
  unsupportedFlags : UInt64 := 0
  deriving DecidableEq, Repr

/-- The fields of `att1_aimu_dma_desc` that the validation reads. -/
structure DmaDesc where
  hostAddr : UInt64 := 0
  deviceAddr : UInt64 := 0
  srcDeviceAddr : UInt64 := 0
  dstDeviceAddr : UInt64 := 0
  byteLength : UInt32 := 0
  flags : UInt16 := 0
  dtype : UInt8 := 0
  quantGroupSize : UInt8 := 0
  direction : UInt8 := 0
  deriving DecidableEq, Repr

/-- `att1_aimu_dma_region`. -/
structure DmaRegion where
  base : UInt64
  size : UInt64
  deriving DecidableEq, Repr

/-- `att1_aimu_dma`. -/
structure AimuDma where
  counters : DmaCounters := {}
  hostRegions : List DmaRegion := []
  deviceRegions : List DmaRegion := []
  deriving DecidableEq, Repr

/-- `dma_vresult`. -/
inductive DmaResult
  | valid
  | errDirection
  | errByteLength
  | errFlags
  | errDtype
  | errQ4Align
  | errAlignment
  | errOverflow
  | errRange
  | errD2dOverlap
  deriving DecidableEq, Repr

/-- `region_contains`. -/
def DmaRegion.contains (r : DmaRegion) (addr len : UInt64) : Bool :=
  if len = 0 then true
  else if addr < r.base then false
  else if addr + len < addr then false
  else if r.base + r.size < r.base then false
  else decide (addr + len ≤ r.base + r.size)

/-- Whether a range is in one of the regions; no regions stand for all of memory. -/
def fitsAnyRegion (regions : List DmaRegion) (addr len : UInt64) : Bool :=
  regions.isEmpty || regions.any fun r => r.contains addr len

namespace AimuDma

/-- `ranges_overlap`. -/
def rangesOverlap (aBase aLen bBase bLen : UInt64) : Bool :=
  if aBase + aLen < aBase ∨ bBase + bLen < bBase then true
  else ! (decide (aBase + aLen ≤ bBase) || decide (bBase + bLen ≤ aBase))

/-- `ATT1_AIMU_DMA_MAX_TRANSFER_BYTES`. -/
def maxTransferBytes : UInt32 := 0x10000000

/-- `ATT1_AIMU_DMA_FLAG_VALID_MASK`. -/
def flagValidMask : UInt16 := 0x000F

/-- A Q4 payload whose group size or length is wrong. -/
def q4Misaligned (desc : DmaDesc) : Bool :=
  desc.dtype = 2 &&
    (desc.quantGroupSize != 32 && desc.quantGroupSize != 64 ||
      desc.byteLength % (desc.quantGroupSize.toUInt32 / 2) != 0)

/-- The address checks of a transfer between the host and the device. -/
def validateHostTransfer (sim : AimuDma) (desc : DmaDesc) : DmaResult :=
  let len := desc.byteLength.toUInt64
  if desc.hostAddr % 64 ≠ 0 then .errAlignment
  else if desc.deviceAddr % 64 ≠ 0 then .errAlignment
  else if desc.hostAddr + len < desc.hostAddr then .errOverflow
  else if desc.deviceAddr + len < desc.deviceAddr then .errOverflow
  else if ¬ fitsAnyRegion sim.hostRegions desc.hostAddr len then .errRange
  else if ¬ fitsAnyRegion sim.deviceRegions desc.deviceAddr len then .errRange
  else .valid

/-- The address checks of a transfer inside the device. -/
def validateDeviceTransfer (sim : AimuDma) (desc : DmaDesc) : DmaResult :=
  let len := desc.byteLength.toUInt64
  if desc.srcDeviceAddr % 64 ≠ 0 then .errAlignment
  else if desc.dstDeviceAddr % 64 ≠ 0 then .errAlignment
  else if desc.srcDeviceAddr + len < desc.srcDeviceAddr then .errOverflow
  else if desc.dstDeviceAddr + len < desc.dstDeviceAddr then .errOverflow
  else if rangesOverlap desc.srcDeviceAddr len desc.dstDeviceAddr len then .errD2dOverlap
  else if ¬ fitsAnyRegion sim.deviceRegions desc.srcDeviceAddr len then .errRange
  else if ¬ fitsAnyRegion sim.deviceRegions desc.dstDeviceAddr len then .errRange
  else .valid

/-- `validate_desc`. -/
def validateDesc (sim : AimuDma) (desc : DmaDesc) : DmaResult :=
  if 2 < desc.direction then .errDirection
  else if desc.byteLength = 0 ∨ maxTransferBytes < desc.byteLength then .errByteLength
  else if desc.flags &&& ~~~ flagValidMask ≠ 0 then .errFlags
  else if 2 < desc.dtype then .errDtype
  else if q4Misaligned desc then .errQ4Align
  else if desc.direction = 2 then sim.validateDeviceTransfer desc
  else sim.validateHostTransfer desc

/-- `att1_aimu_dma_validate`. -/
def validate (sim : AimuDma) (desc : DmaDesc) : Status :=
  if sim.validateDesc desc = .valid then .ok else .invalidArg

/-- The counters of a refused descriptor. -/
def countFailure (r : DmaResult) (c : DmaCounters) : DmaCounters :=
  let c := { c with dmaFailed := c.dmaFailed + 1 }
  match r with
  | .errAlignment => { c with alignmentFailures := c.alignmentFailures + 1 }
  | .errOverflow | .errRange | .errD2dOverlap => { c with rangeFailures := c.rangeFailures + 1 }
  | .errFlags => { c with unsupportedFlags := c.unsupportedFlags + 1 }
  | _ => c

/-- The counters of an accepted descriptor. -/
def countTransfer (desc : DmaDesc) (c : DmaCounters) : DmaCounters :=
  let c := { c with dmaCompleted := c.dmaCompleted + 1 }
  let len := desc.byteLength.toUInt64
  if desc.direction = 0 then { c with bytesHostToDevice := c.bytesHostToDevice + len }
  else if desc.direction = 1 then { c with bytesDeviceToHost := c.bytesDeviceToHost + len }
  else { c with bytesDeviceToDevice := c.bytesDeviceToDevice + len }

/-- `att1_aimu_dma_submit`. -/
def submit (sim : AimuDma) (desc : DmaDesc) : AimuDma × Status :=
  let c := { sim.counters with dmaSubmitted := sim.counters.dmaSubmitted + 1 }
  let r := sim.validateDesc desc
  if r = .valid then ({ sim with counters := countTransfer desc c }, .ok)
  else ({ sim with counters := countFailure r c }, .invalidArg)

/-- `att1_aimu_dma_register_host_region`, for a region with an aligned base. -/
def registerHostRegion (sim : AimuDma) (base size : UInt64) : AimuDma × Status :=
  if size = 0 ∨ base % 64 ≠ 0 then (sim, .invalidArg)
  else if 8 ≤ sim.hostRegions.length then (sim, .state)
  else ({ sim with hostRegions := sim.hostRegions ++ [⟨base, size⟩] }, .ok)

/-- `att1_aimu_dma_register_device_region`. -/
def registerDeviceRegion (sim : AimuDma) (base size : UInt64) : AimuDma × Status :=
  if size = 0 ∨ base % 64 ≠ 0 then (sim, .invalidArg)
  else if 8 ≤ sim.deviceRegions.length then (sim, .state)
  else ({ sim with deviceRegions := sim.deviceRegions ++ [⟨base, size⟩] }, .ok)

/-- `att1_aimu_dma_reset_counters`: the regions stay. -/
def resetCounters (sim : AimuDma) : AimuDma := { sim with counters := {} }

end AimuDma

end Att1
