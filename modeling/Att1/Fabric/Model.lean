import Mathlib.Logic.Function.Basic
import Att1.Base
import Att1.Lib.Buffer

/-!
# Att1.Fabric.Model — the packet fabric (`src/fabric.c`)

Every tile owns one circular inbound queue of packet headers; the payload bytes of all queues share one flat
array, `max_payload_bytes` cells for each slot (`slotPayload`).  A null pointer argument is `none` (or `false`
where only its being null matters); sums and products are taken modulo `2^64` as in the code.
-/

open Att1.Lib

namespace Att1

/-- `att1_packet_type`. -/
inductive PacketType
  | activation
  | logits
  | kvPage
  | control
  | barrier
  | trace
  deriving DecidableEq, Repr

/-- `att1_fabric_packet`: a packet header. -/
structure FabricPacket where
  type : PacketType
  sourceTile : ℕ
  targetTile : ℕ
  payloadBytes : ℕ
  tag : ℕ
  deriving DecidableEq, Repr

/-- `att1_fabric_bus_config`. -/
structure FabricBusConfig where
  tileCount : ℕ
  queueCapacity : ℕ
  maxPayloadBytes : ℕ
  deriving DecidableEq, Repr

/-- `att1_fabric_counters`. -/
structure FabricCounters where
  packetsSent : UInt64 := 0
  packetsReceived : UInt64 := 0
  broadcastPackets : UInt64 := 0
  payloadBytesSent : UInt64 := 0
  payloadBytesReceived : UInt64 := 0
  queueFullErrors : UInt64 := 0
  invalidPackets : UInt64 := 0
  emptyReceives : UInt64 := 0
  barrierArrivals : UInt64 := 0
  barrierCompletions : UInt64 := 0
  deriving DecidableEq, Repr

/-- `att1_fabric_queue`. -/
structure FabricQueue where
  head : ℕ
  count : ℕ
  packets : ℕ → FabricPacket

/-- `att1_fabric`. -/
structure Fabric where
  config : FabricBusConfig
  counters : FabricCounters
  queues : ℕ → FabricQueue
  payloadStorage : ℕ → UInt8
  barrierExpected : ℕ → Bool
  barrierArrived : ℕ → Bool
  barrierExpectedCount : ℕ
  barrierActive : Bool

/-- An array of `uint32_t` tile ids in host memory. -/
structure TileGroup where
  tiles : List ℕ
  fits : tiles.length * 4 ≤ sizeMax

/-- What a successful receive stores through its output pointers. -/
structure Delivery where
  packet : FabricPacket
  payload : List UInt8
  deriving DecidableEq, Repr

namespace Fabric

/-- `sizeof(att1_fabric_packet)`; the queue descriptor has the same size. -/
def packetSize : ℕ := 24

def configValid (config : FabricBusConfig) : Bool :=
  if config.tileCount = 0 ∨ config.queueCapacity = 0 ∨ config.maxPayloadBytes = 0 then false
  else if uint32Max < config.tileCount then false
  else if uint32Max < config.maxPayloadBytes then false
  else
    match mulSize config.tileCount config.queueCapacity with
    | none => false
    | some slots =>
      match mulSize slots config.maxPayloadBytes with
      | none => false
      | some payloadBytes => decide (0 < payloadBytes)

/-- `att1_fabric_create`. -/
def create (host : Host) (config : FabricBusConfig) : Except Status Fabric :=
  if ¬ configValid config then .error .invalidArg
  else if ¬ (host.calloc config.tileCount packetSize ∧ host.calloc config.tileCount 1) then .error .oom
  else
    match mulSize config.tileCount config.queueCapacity with
    | none => .error .invalidArg
    | some slots =>
      match mulSize slots config.maxPayloadBytes with
      | none => .error .invalidArg
      | some payloadBytes =>
        if ¬ host.calloc payloadBytes 1 then .error .oom
        else if ¬ host.calloc config.queueCapacity packetSize then .error .oom
        else .ok
          { config := config
            counters := {}
            queues := fun _ => { head := 0, count := 0, packets := fun _ => ⟨.activation, 0, 0, 0, 0⟩ }
            payloadStorage := fun _ => 0
            barrierExpected := fun _ => false
            barrierArrived := fun _ => false
            barrierExpectedCount := 0
            barrierActive := false }

/-- `att1_fabric_slot_payload`: where the payload of a slot starts in the shared array. -/
def slotPayload (f : Fabric) (tile slot : ℕ) : ℕ :=
  sizeT (sizeT (sizeT (tile * f.config.queueCapacity) + slot) * f.config.maxPayloadBytes)

def validTile (f : Fabric) (tile : ℕ) : Bool := decide (tile < f.config.tileCount)

def countInvalid (f : Fabric) : Fabric :=
  { f with counters := { f.counters with invalidPackets := f.counters.invalidPackets + 1 } }

def countQueueFull (f : Fabric) : Fabric :=
  { f with counters := { f.counters with queueFullErrors := f.counters.queueFullErrors + 1 } }

def countEmpty (f : Fabric) : Fabric :=
  { f with counters := { f.counters with emptyReceives := f.counters.emptyReceives + 1 } }

/-- `att1_fabric_payload_valid` (the counter it bumps on failure is bumped by its callers here). -/
def payloadValid (f : Fabric) (payload : Option (ℕ → UInt8)) (payloadBytes : ℕ) : Bool :=
  if f.config.maxPayloadBytes < payloadBytes then false
  else if 0 < payloadBytes ∧ payload.isNone then false
  else true

def queueHasRoom (f : Fabric) (tile : ℕ) : Bool :=
  decide ((f.queues tile).count < f.config.queueCapacity)

/-- `att1_fabric_enqueue`. -/
def enqueue (f : Fabric) (source target : ℕ) (type : PacketType) (payload : Option (ℕ → UInt8))
    (payloadBytes tag : ℕ) : Fabric :=
  let queue := f.queues target
  let slot := sizeT (queue.head + queue.count) % f.config.queueCapacity
  { f with
    queues := Function.update f.queues target
      { queue with
        packets := Function.update queue.packets slot
          { type := type, sourceTile := source, targetTile := target
            payloadBytes := uint32 payloadBytes, tag := tag }
        count := sizeT (queue.count + 1) }
    payloadStorage :=
      match payload with
      | some bytes =>
        if 0 < payloadBytes then copyInto f.payloadStorage (f.slotPayload target slot) bytes 0 payloadBytes
        else f.payloadStorage
      | none => f.payloadStorage
    counters :=
      { f.counters with
        packetsSent := f.counters.packetsSent + 1
        payloadBytesSent := f.counters.payloadBytesSent + UInt64.ofNat payloadBytes } }

/-- `att1_fabric_send`. -/
def send (f : Fabric) (source target : ℕ) (type : PacketType) (payload : Option (ℕ → UInt8))
    (payloadBytes tag : ℕ) : Fabric × Status :=
  if ¬ (f.validTile source ∧ f.validTile target) then (f.countInvalid, .invalidArg)
  else if ¬ f.payloadValid payload payloadBytes then (f.countInvalid, .invalidArg)
  else if ¬ f.queueHasRoom target then (f.countQueueFull, .queueFull)
  else (f.enqueue source target type payload payloadBytes tag, .ok)

/-- `att1_fabric_receive`; `outPacket` and `outPayload` say whether the output pointers are non-null. -/
def receive (f : Fabric) (tile : ℕ) (outPacket outPayload : Bool) (outPayloadCapacity : ℕ) :
    Fabric × Status × Option Delivery :=
  if outPacket = false then (f, .invalidArg, none)
  else if ¬ f.validTile tile then (f.countInvalid, .invalidArg, none)
  else
    let queue := f.queues tile
    if queue.count = 0 then (f.countEmpty, .queueEmpty, none)
    else
      let packet := queue.packets queue.head
      if outPayloadCapacity < packet.payloadBytes ∨ (0 < packet.payloadBytes ∧ outPayload = false) then
        (f.countInvalid, .invalidArg, none)
      else
        ({ f with
            queues := Function.update f.queues tile
              { queue with
                head := sizeT (queue.head + 1) % f.config.queueCapacity
                count := queue.count - 1 }
            counters :=
              { f.counters with
                packetsReceived := f.counters.packetsReceived + 1
                payloadBytesReceived :=
                  f.counters.payloadBytesReceived + UInt64.ofNat packet.payloadBytes } },
          .ok,
          some
            { packet := packet
              payload := readBlock f.payloadStorage (f.slotPayload tile queue.head) packet.payloadBytes })

/-- The loop of `att1_fabric_receive_timeout` from `tick` on, for at most `fuel` tests of its condition. -/
def receiveTimeoutLoop (tile : ℕ) (outPacket outPayload : Bool) (outPayloadCapacity timeoutTicks : ℕ) :
    ℕ → ℕ → Fabric → Option (Fabric × Status × Option Delivery)
  | 0, _, _ => none
  | fuel + 1, tick, f =>
    if timeoutTicks < tick then some (f, .timeout, none)
    else
      let r := f.receive tile outPacket outPayload outPayloadCapacity
      if r.2.1 ≠ .queueEmpty then some r
      else receiveTimeoutLoop tile outPacket outPayload outPayloadCapacity timeoutTicks fuel
        (sizeT (tick + 1)) r.1

/-- The first loop of `att1_fabric_broadcast` over an explicit group. -/
def preflightGroup (f : Fabric) (source : ℕ) : List ℕ → Status
  | [] => .ok
  | target :: rest =>
    if ¬ f.validTile target then .invalidArg
    else if target ≠ source ∧ ¬ f.queueHasRoom target then .queueFull
    else f.preflightGroup source rest

/-- The first loop of `att1_fabric_broadcast` over all tiles. -/
def preflightAll (f : Fabric) (source : ℕ) : List ℕ → Status
  | [] => .ok
  | tile :: rest =>
    if tile ≠ source ∧ ¬ f.queueHasRoom (uint32 tile) then .queueFull else f.preflightAll source rest

/-- The second loop of `att1_fabric_broadcast`, with the packets it counted. -/
def enqueueAll (source : ℕ) (type : PacketType) (payload : Option (ℕ → UInt8)) (payloadBytes tag : ℕ) :
    List ℕ → Fabric × ℕ → Fabric × ℕ
  | [], r => r
  | target :: rest, (f, sent) =>
    enqueueAll source type payload payloadBytes tag rest
      (if target ≠ source then (f.enqueue source target type payload payloadBytes tag, sent + 1)
        else (f, sent))

def countBroadcast (r : Fabric × ℕ) : Fabric :=
  { r.1 with
    counters :=
      { r.1.counters with broadcastPackets := r.1.counters.broadcastPackets + UInt64.ofNat r.2 } }

/-- `att1_fabric_broadcast`; `groupCount` is the length of the group when there is one. -/
def broadcast (f : Fabric) (source : ℕ) (group : Option TileGroup) (groupCount : ℕ) (type : PacketType)
    (payload : Option (ℕ → UInt8)) (payloadBytes tag : ℕ) : Fabric × Status :=
  if ¬ f.validTile source then (f.countInvalid, .invalidArg)
  else if ¬ f.payloadValid payload payloadBytes then (f.countInvalid, .invalidArg)
  else
    match group with
    | none =>
      if groupCount ≠ 0 then (f.countInvalid, .invalidArg)
      else
        let tiles := List.range f.config.tileCount
        match f.preflightAll source tiles with
        | .ok => (countBroadcast (enqueueAll source type payload payloadBytes tag tiles (f, 0)), .ok)
        | status => (f.countQueueFull, status)
    | some group =>
      match f.preflightGroup source group.tiles with
      | .ok =>
        (countBroadcast (enqueueAll source type payload payloadBytes tag group.tiles (f, 0)), .ok)
      | .queueFull => (f.countQueueFull, .queueFull)
      | status => (f.countInvalid, status)

/-! ### The barrier -/

/-- The loop of `att1_fabric_participant_set_valid`: the expected set it leaves and whether it got through. -/
def markExpected (f : Fabric) : List ℕ → (ℕ → Bool) → (ℕ → Bool) × Bool
  | [], expected => (expected, true)
  | tile :: rest, expected =>
    if ¬ f.validTile tile then (expected, false)
    else if expected tile then (expected, false)
    else f.markExpected rest (Function.update expected tile true)

/-- `att1_fabric_participant_set_valid`: it leaves the set it read in `barrier_expected`. -/
def participantSetValid (f : Fabric) (participants : Option TileGroup) : Fabric × Bool :=
  match participants with
  | none => (f, false)
  | some group =>
    if group.tiles.length = 0 then (f, false)
    else if f.config.tileCount < group.tiles.length then (f, false)
    else
      let r := f.markExpected group.tiles (fun _ => false)
      ({ f with barrierExpected := r.1 }, r.2)

/-- `att1_fabric_participant_set_matches`: the expected set is saved, overwritten, compared and restored. -/
def participantSetMatches (f : Fabric) (host : Host) (participants : Option TileGroup) : Bool :=
  if ¬ host.malloc f.config.tileCount then false
  else
    let r := f.participantSetValid participants
    r.2 && (List.range f.config.tileCount).all fun tile =>
      r.1.barrierExpected tile == f.barrierExpected tile

/-- The part of `att1_fabric_barrier_arrive` after the participant set has been settled. -/
def barrierRecord (f : Fabric) (tile : ℕ) : Fabric × Status × Bool :=
  if f.barrierExpected tile = false then (f.countInvalid, .invalidArg, false)
  else if f.barrierArrived tile then (f.countInvalid, .invalidArg, false)
  else
    let arrived := Function.update f.barrierArrived tile true
    let g :=
      { f with
        barrierArrived := arrived
        counters := { f.counters with barrierArrivals := f.counters.barrierArrivals + 1 } }
    if (List.range f.config.tileCount).countP arrived = f.barrierExpectedCount then
      ({ g with
          counters := { g.counters with barrierCompletions := g.counters.barrierCompletions + 1 }
          barrierActive := false
          barrierExpectedCount := 0
          barrierExpected := fun _ => false
          barrierArrived := fun _ => false }, .ok, true)
    else (g, .ok, false)

/-- `att1_fabric_barrier_arrive`; the last component is `*out_complete`. -/
def barrierArrive (f : Fabric) (host : Host) (tile : ℕ) (participants : Option TileGroup) :
    Fabric × Status × Bool :=
  if ¬ f.validTile tile then (f.countInvalid, .invalidArg, false)
  else if f.barrierActive = false then
    let r := f.participantSetValid participants
    if r.2 = false then (r.1.countInvalid, .invalidArg, false)
    else
      barrierRecord
        { r.1 with
          barrierArrived := fun _ => false
          barrierExpectedCount := (participants.map fun g => g.tiles.length).getD 0
          barrierActive := true } tile
  else if f.participantSetMatches host participants = false then (f.countInvalid, .invalidArg, false)
  else f.barrierRecord tile

end Fabric

end Att1
