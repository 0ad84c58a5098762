import Mathlib.Data.List.Sort
import Att1.Base

/-!
# Att1.Aimu.Mem — the tile memory allocator (`src/aimu_mem.c`)

Allocations are records in a table; nothing is allocated behind the addresses.  The table is the list of its used
slots.
-/

namespace Att1

/-- `att1_aimu_mem_alloc`; the name is its bytes without the terminator. -/
structure MemAlloc where
  allocId : UInt32
  tileId : UInt32
  regionType : ℤ
  dtype : UInt8
  flags : UInt32
  baseAddress : UInt64
  byteSize : UInt64
  alignment : UInt64
  name : List UInt8
  live : Bool
  deriving DecidableEq, Repr

/-- `att1_aimu_mem`. -/
structure AimuMem where
  tileId : UInt32
  capacityBytes : UInt64
  nextId : UInt32
  allocs : List MemAlloc
  deriving DecidableEq, Repr

/-- The arguments of `att1_aimu_mem_alloc_range`. -/
structure MemRequest where
  regionType : ℤ := 0
  byteSize : UInt64
  alignment : UInt64 := 0
  dtype : UInt8 := 0xFF
  flags : UInt32 := 0
  name : Option (List UInt8) := none
  deriving DecidableEq, Repr

namespace AimuMem

/-- `ATT1_AIMU_MEM_BASE`. -/
def memBase : UInt64 := 0

/-- `ATT1_AIMU_MEM_MIN_ALIGN`. -/
def minAlign : UInt64 := 16

/-- `ATT1_AIMU_MEM_MAX_ALIGN`. -/
def maxAlign : UInt64 := 65536

/-- `ATT1_AIMU_MEM_MAX_ALLOCS`. -/
def maxAllocs : ℕ := 4096

/-- `ATT1_AIMU_MEM_NAME_MAX`. -/
def nameMax : ℕ := 64

/-- `ATT1_AIMU_MEM_INVALID_ID`. -/
def invalidId : UInt32 := 0xFFFFFFFF

/-- `ATT1_AIMU_MEM_REGION_COUNT`. -/
def regionCount : ℤ := 9

/-- `ATT1_AIMU_MEM_FLAG_ALL_KNOWN`. -/
def flagAllKnown : UInt32 := 0xF

/-- `is_pow2`. -/
def isPow2 (v : UInt64) : Bool := v ≠ 0 && v &&& (v - 1) = 0

/-- `align_up`. -/
def alignUp (addr align : UInt64) : UInt64 := (addr + align - 1) &&& ~~~ (align - 1)

/-- `att1_aimu_mem_create`. -/
def create (host : Host) (tileId : UInt32) (capacityBytes : UInt64) : Except Status AimuMem :=
  if capacityBytes = 0 then .error .invalidArg
  else if ¬ host.calloc 1 491552 then .error .oom
  else .ok ⟨tileId, capacityBytes, 1, []⟩

/-- The live allocations, in table order. -/
def live (m : AimuMem) : List MemAlloc := m.allocs.filter MemAlloc.live

/-- `collect_live_sorted`. -/
def collectLiveSorted (m : AimuMem) : List MemAlloc :=
  m.live.insertionSort fun a b => a.baseAddress ≤ b.baseAddress

/-- The first-fit scan over the sorted live allocations that are left; the result is `UINT64_MAX` when no gap fits. -/
def firstFit (capacity byteSize alignment : UInt64) : List MemAlloc → UInt64 → UInt64
  | sorted, searchStart =>
    let candidate := alignUp searchStart alignment
    if candidate < searchStart then 0xFFFFFFFFFFFFFFFF
    else
      match sorted with
      | [] =>
        if capacity < candidate then 0xFFFFFFFFFFFFFFFF
        else if byteSize ≤ capacity - candidate then candidate
        else 0xFFFFFFFFFFFFFFFF
      | a :: rest =>
        if a.baseAddress < candidate then firstFit capacity byteSize alignment rest (a.baseAddress + a.byteSize)
        else if byteSize ≤ a.baseAddress - candidate then candidate
        else firstFit capacity byteSize alignment rest (a.baseAddress + a.byteSize)

/-- The alignment of a request: 0 asks for the minimum. -/
def effectiveAlign (r : MemRequest) : UInt64 := if r.alignment = 0 then minAlign else r.alignment

/-- The checks that `att1_aimu_mem_alloc_range` makes before it looks for a gap. -/
def checkRequest (m : AimuMem) (r : MemRequest) : Status :=
  let alignment := effectiveAlign r
  if r.byteSize = 0 then .invalidArg
  else if r.regionType < 0 ∨ regionCount ≤ r.regionType then .invalidArg
  else if r.flags &&& ~~~ flagAllKnown ≠ 0 then .invalidArg
  else if ¬ isPow2 alignment then .invalidArg
  else if alignment < minAlign then .invalidArg
  else if maxAlign < alignment then .invalidArg
  else if maxAllocs ≤ m.allocs.length then .state
  else if m.capacityBytes < r.byteSize then .oom
  else .ok

/-- The record of a request placed at an address. -/
def record (m : AimuMem) (r : MemRequest) (addr : UInt64) : MemAlloc where
  allocId := m.nextId
  tileId := m.tileId
  regionType := r.regionType
  dtype := r.dtype
  flags := r.flags
  baseAddress := addr
  byteSize := r.byteSize
  alignment := effectiveAlign r
  name := (r.name.getD []).take (nameMax - 1)
  live := true

/-- `att1_aimu_mem_alloc_range`; the last component is the address and the id. -/
def allocRange (m : AimuMem) (r : MemRequest) : AimuMem × Status × Option (UInt64 × UInt32) :=
  match m.checkRequest r with
  | .ok =>
    let foundAddr := firstFit m.capacityBytes r.byteSize (effectiveAlign r) m.collectLiveSorted memBase
    if foundAddr = 0xFFFFFFFFFFFFFFFF then (m, .oom, none)
    else
      ({ m with nextId := m.nextId + 1, allocs := m.allocs ++ [m.record r foundAddr] }, .ok,
        some (foundAddr, m.nextId))
  | st => (m, st, none)

/-- The loop of `att1_aimu_mem_free`. -/
def freeLoop (allocId : UInt32) : List MemAlloc → List MemAlloc × Status
  | [] => ([], .notFound)
  | a :: rest =>
    if a.allocId = allocId then
      if ¬ a.live then (a :: rest, .state) else ({ a with live := false } :: rest, .ok)
    else
      let r := freeLoop allocId rest
      (a :: r.1, r.2)

/-- `att1_aimu_mem_free`. -/
def free (m : AimuMem) (allocId : UInt32) : AimuMem × Status :=
  if allocId = 0 ∨ allocId = invalidId then (m, .notFound)
  else
    let r := freeLoop allocId m.allocs
    ({ m with allocs := r.1 }, r.2)

/-- `att1_aimu_mem_reset`. -/
def reset (m : AimuMem) : AimuMem := { m with allocs := [], nextId := 1 }

/-- `att1_aimu_mem_query_by_id`. -/
def queryById (m : AimuMem) (allocId : UInt32) : Except Status MemAlloc :=
  match m.allocs.find? fun a => a.allocId = allocId && a.live with
  | some a => .ok a
  | none => .error .notFound

/-- Whether an address is in an allocation, as `att1_aimu_mem_query_by_address` asks. -/
def containsAddr (a : MemAlloc) (addr : UInt64) : Bool :=
  a.live && decide (a.baseAddress ≤ addr) && decide (addr < a.baseAddress + a.byteSize)

/-- `att1_aimu_mem_query_by_address`. -/
def queryByAddress (m : AimuMem) (addr : UInt64) : Except Status MemAlloc :=
  match m.allocs.find? (containsAddr · addr) with
  | some a => .ok a
  | none => .error .notFound

/-- `att1_aimu_mem_range_valid`. -/
def rangeValid (m : AimuMem) (addr size : UInt64) : Bool :=
  if size = 0 then false
  else if 0xFFFFFFFFFFFFFFFF - size < addr then false
  else
    m.allocs.any fun a =>
      a.live && decide (a.baseAddress ≤ addr) && decide (addr + size ≤ a.baseAddress + a.byteSize)

end AimuMem

end Att1
