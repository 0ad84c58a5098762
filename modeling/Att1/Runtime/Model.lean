import Att1.Fabric.Model

/-!
# Att1.Runtime.Model — the tile barrier of the threaded runtime (`src/runtime.c`)

Every tile has a thread (`simulator/sim_tile_thread.c`) that calls `att1_runtime_execute_barrier` for each
`SYNC_BARRIER` command it takes from its queue.  The call is cut at its locks: `barrierArrive` is the section of
the fabric mutex, `barrierEnter` the section of the barrier mutex up to the first wait, and `barrierWake` one
return from `pthread_cond_wait`.  `phase` says where each thread stands between two sections.

`barrierGeneration` counts without wrapping: the field of the code is its value modulo `2^64`, and `barrierWait`
compares it so.
-/

open Att1.Lib

namespace Att1

/-- `att1_runtime_config`. -/
structure RuntimeConfig where
  tileCount : ℕ
  commandQueueCapacity : ℕ
  fabricQueueCapacity : ℕ
  fabricMaxPayloadBytes : ℕ

/-- Where the thread of a tile is in `att1_runtime_execute_barrier`. -/
inductive TilePhase
  /-- outside the call -/
  | idle
  /-- past the fabric section, before the barrier section -/
  | arrived
  /-- waiting, with the generation it has read -/
  | waiting (generation : ℕ)
  deriving DecidableEq, Repr

/-- What `att1_runtime` and its `impl` hold of the barrier.  `entered` is not in the code: it names the tiles that
`barrier_arrived` counts. -/
structure Runtime where
  config : RuntimeConfig
  tileCount_le : config.tileCount ≤ uint32Max
  fabric : Fabric
  barrierExpected : ℕ
  barrierArrived : ℕ
  barrierGeneration : ℕ
  barrierActive : Bool
  stopRequested : Bool
  threadsStarted : Bool
  phase : ℕ → TilePhase
  entered : List ℕ

namespace Runtime

/-- `att1_runtime_config_valid`. -/
def configValid (config : RuntimeConfig) : Bool :=
  if config.tileCount = 0 ∨ config.commandQueueCapacity = 0 ∨ config.fabricQueueCapacity = 0 ∨
      config.fabricMaxPayloadBytes = 0 then false
  else decide (config.tileCount ≤ uint32Max)

theorem configValid_le {config : RuntimeConfig} (h : configValid config = true) :
    config.tileCount ≤ uint32Max := by
  unfold configValid at h
  split_ifs at h
  exact of_decide_eq_true h

/-- `att1_runtime_create`; `granted` says whether the host grants the allocations it makes besides the fabric. -/
def create (host : Host) (granted : Bool) (config : RuntimeConfig) : Except Status Runtime :=
  if h : configValid config = true then
    if granted = false then .error .oom
    else
      match Fabric.create host
          ⟨config.tileCount, config.fabricQueueCapacity, config.fabricMaxPayloadBytes⟩ with
      | .error _ => .error .oom
      | .ok fabric => .ok
          { config := config
            tileCount_le := configValid_le h
            fabric := fabric
            barrierExpected := 0
            barrierArrived := 0
            barrierGeneration := 0
            barrierActive := false
            stopRequested := false
            threadsStarted := false
            phase := fun _ => .idle
            entered := [] }
  else .error .invalidArg

/-- `att1_runtime_start`, called while no threads run, with every thread created. -/
def start (s : Runtime) : Runtime :=
  { s with
    stopRequested := false
    barrierActive := false
    barrierExpected := 0
    barrierArrived := 0
    barrierGeneration := s.barrierGeneration + 1
    threadsStarted := true
    entered := [] }

/-- `att1_runtime_stop` up to the first join: the waiters are woken up. -/
def requestStop (s : Runtime) : Runtime := { s with stopRequested := true }

/-- The end of `att1_runtime_stop`, with every thread joined. -/
def join (s : Runtime) : Runtime := { s with threadsStarted := false, stopRequested := false }

/-- The `fabric_group` of `att1_runtime_execute_barrier`: all tiles. -/
def fabricGroup (s : Runtime) : TileGroup where
  tiles := List.range s.config.tileCount
  fits := by
    have h := s.tileCount_le
    rw [List.length_range]
    unfold uint32Max at h
    unfold sizeMax
    omega

/-- Whether `att1_runtime_execute_barrier` has memory for its group: a single tile falls back to the stack. -/
def groupGranted (s : Runtime) (host : Host) : Bool :=
  host.malloc (sizeT (s.config.tileCount * 4)) || decide (s.config.tileCount = 1)

/-- `att1_runtime_execute_barrier` up to the end of its fabric section, with what `att1_fabric_barrier_arrive`
returned: `none` when the call gives up before it with `ATT1_ERR_OOM`. -/
def barrierArrive (s : Runtime) (host : Host) (tile : ℕ) : Runtime × Option Status :=
  if s.groupGranted host = false then (s, none)
  else
    let r := s.fabric.barrierArrive host tile (some s.fabricGroup)
    ({ s with fabric := r.1, phase := Function.update s.phase tile .arrived }, some r.2.1)

/-- `att1_runtime_reset_barrier`. -/
def resetBarrier (s : Runtime) : Runtime :=
  { s with
    barrierActive := false
    barrierExpected := 0
    barrierArrived := 0
    barrierGeneration := s.barrierGeneration + 1
    entered := [] }

/-- The test of the wait loop and what follows it: `none` while the thread waits. -/
def barrierWait (s : Runtime) (generation : ℕ) : Option Status :=
  if s.stopRequested = false ∧ s.barrierActive = true ∧
      sizeT s.barrierGeneration = sizeT generation then none
  else if s.stopRequested = true then some .invalidArg
  else some .ok

def setPhase (s : Runtime) (tile : ℕ) (phase : TilePhase) : Runtime :=
  { s with phase := Function.update s.phase tile phase }

/-- The thread of a tile leaves the call, or waits in it. -/
def settle (s : Runtime) (tile generation : ℕ) : Runtime × Option Status :=
  match s.barrierWait generation with
  | none => (s.setPhase tile (.waiting generation), none)
  | some status => (s.setPhase tile .idle, some status)

/-- The first entry of a generation opens it. -/
def openBarrier (s : Runtime) : Runtime :=
  if s.barrierActive = false then
    { s with
      barrierActive := true
      barrierExpected := s.config.tileCount
      barrierArrived := 0
      entered := [] }
  else s

def countEntry (s : Runtime) (tile : ℕ) : Runtime :=
  { s with barrierArrived := sizeT (s.barrierArrived + 1), entered := tile :: s.entered }

/-- The barrier section of `att1_runtime_execute_barrier` up to its first wait, with what it returns. -/
def barrierEnter (s : Runtime) (tile : ℕ) : Runtime × Option Status :=
  let t := s.openBarrier.countEntry tile
  if t.barrierArrived = t.barrierExpected then (t.resetBarrier.setPhase tile .idle, some .ok)
  else t.settle tile t.barrierGeneration

/-- One return from `pthread_cond_wait`. -/
def barrierWake (s : Runtime) (tile generation : ℕ) : Runtime × Option Status := s.settle tile generation

end Runtime

end Att1
