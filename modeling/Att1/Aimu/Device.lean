import Mathlib.Logic.Function.Basic
import Att1.Base

/-!
# Att1.Aimu.Device — the device and its tiles (`src/aimu_device.c`)

The tiles of a device are a function of their index, of which the first `tileCount` are in use.
-/

namespace Att1

/-- `att1_aimu_tile_state`. -/
inductive AimuTileState
  | idle
  | active
  | error
  | reset
  deriving DecidableEq, Repr

def AimuTileState.code : AimuTileState → UInt32
  | .idle => 0
  | .active => 1
  | .error => 2
  | .reset => 3

/-- `att1_aimu_tile_info`. -/
structure AimuTileInfo where
  tileId : UInt8 := 0
  state : AimuTileState := .idle
  memoryCapacityBytes : UInt64 := 0
  kvCapacityBytes : UInt64 := 0
  supportedDtypes : UInt32 := 0
  supportedOps : UInt32 := 0
  fabricLinkMask : UInt16 := 0
  maxSessions : UInt8 := 0
  errorCode : UInt8 := 0
  memoryUsedBytes : UInt64 := 0
  kvUsedBytes : UInt64 := 0
  resetCount : UInt32 := 0
  deriving DecidableEq, Repr

/-- `att1_aimu_device_version`. -/
structure AimuDeviceVersion where
  major : UInt8 := 0
  minor : UInt8 := 0
  patch : UInt8 := 0
  build : UInt8 := 0
  deriving DecidableEq, Repr

/-- `att1_aimu_device_config`. -/
structure AimuDeviceConfig where
  tileCount : ℕ := 0
  tileMemoryBytes : UInt64 := 0
  tileKvBytes : UInt64 := 0
  supportedDtypes : UInt32 := 0
  supportedOps : UInt32 := 0
  featureFlags : UInt64 := 0
  version : AimuDeviceVersion := {}
  deriving DecidableEq, Repr

/-- `att1_aimu_device`. -/
structure AimuDevice where
  registerMapVersion : UInt32
  version : AimuDeviceVersion
  featureFlags : UInt64
  tileCount : ℕ
  tiles : ℕ → AimuTileInfo
  globalStatus : UInt32
  globalError : UInt32
  resetCount : UInt32

namespace AimuDevice

/-- `ATT1_AIMU_DEVICE_MAX_TILES`. -/
def maxTiles : ℕ := 16

/-- `ATT1_AIMU_REGISTER_MAP_VERSION`. -/
def currentMapVersion : UInt32 := 0x00010000

def defaultVersion : AimuDeviceVersion := ⟨0, 1, 0, 0⟩

/-- `ATT1_AIMU_DEVICE_DEFAULT_FEATURES`: the bits 0, 1, 4, 5, 7, 8, 9 and 10. -/
def defaultFeatures : UInt64 := 0x7B3

/-- The bits of the tiles a tile has a link to: all others. -/
def linkMask (tileCount i : ℕ) : UInt16 :=
  (List.range tileCount).foldl (fun mask j => if j = i then mask else mask ||| (1 <<< UInt16.ofNat j)) 0

/-- `att1_aimu_device_create`; a zero field of the configuration means the default. -/
def create (host : Host) (config : Option AimuDeviceConfig) : Except Status AimuDevice :=
  let config := config.getD {}
  let tileCount := if config.tileCount = 0 then 1 else config.tileCount
  if maxTiles < tileCount then .error .invalidArg
  else if ¬ host.calloc 1 1344 then .error .oom
  else
    .ok
      { registerMapVersion := currentMapVersion
        version := if config.version = {} then defaultVersion else config.version
        featureFlags := if config.featureFlags = 0 then defaultFeatures else config.featureFlags
        tileCount := tileCount
        tiles := fun i =>
          if i < tileCount then
            { tileId := UInt8.ofNat i
              memoryCapacityBytes := if config.tileMemoryBytes = 0 then 0x40000000 else config.tileMemoryBytes
              kvCapacityBytes := if config.tileKvBytes = 0 then 0x10000000 else config.tileKvBytes
              supportedDtypes := if config.supportedDtypes = 0 then 0x7 else config.supportedDtypes
              supportedOps := if config.supportedOps = 0 then 0x1FF else config.supportedOps
              fabricLinkMask := linkMask tileCount i
              maxSessions := 4 }
          else {}
        globalStatus := 0
        globalError := 0
        resetCount := 0 }

/-- What both resets do to a tile. -/
def resetTileInfo (t : AimuTileInfo) : AimuTileInfo :=
  { t with memoryUsedBytes := 0, kvUsedBytes := 0, errorCode := 0, state := .idle }

/-- `att1_aimu_device_reset`: the reset counts of the tiles stay. -/
def reset (dev : AimuDevice) : AimuDevice :=
  { dev with
    globalStatus := 0
    globalError := 0
    resetCount := dev.resetCount + 1
    tiles := fun i => if i < dev.tileCount then resetTileInfo (dev.tiles i) else dev.tiles i }

/-- `att1_aimu_device_reset_tile`. -/
def resetTile (dev : AimuDevice) (tileId : ℕ) : AimuDevice :=
  if dev.tileCount ≤ tileId then dev
  else
    let t := resetTileInfo (dev.tiles tileId)
    { dev with tiles := Function.update dev.tiles tileId { t with resetCount := t.resetCount + 1 } }

end AimuDevice

end Att1
