import Att1.Fabric.Model
import Att1.KvMmu.Model
import Att1.Lib.Bytes

/-!
# Att1.Endpoint.Protocol — the fabric and KV requests of the endpoint socket

A client call fills one fixed `att1_aimu_endpoint_request` (`src/aimu_endpoint_client.c`); the daemon decodes it,
runs the same operation on its in-process endpoint (`tools/att1-aimu-endpoint.c`) and answers with one fixed
`att1_aimu_endpoint_response`.  The socket is taken to deliver both whole.

* `Request`, `Response`: the fields these operations use; a fresh one is zeroed, as by `memset`.
* `dispatchRequest`: the fabric and KV cases of the daemon.

A `float` is its 32-bit pattern, four bytes on the wire.
-/

open Att1.Lib

namespace Att1.Endpoint

/-- `ATT1_AIMU_ENDPOINT_MAX_PAYLOAD`. -/
def maxPayload : ℕ := 16384

/-- `ATT1_AIMU_ENDPOINT_MAX_GROUP_TILES`. -/
def maxGroupTiles : ℕ := 16

/-- `half_payload`: where the value half of a KV payload starts. -/
def halfPayload : ℕ := maxPayload / 2

/-- The members of `att1_aimu_endpoint_op` modelled here. -/
inductive Op
  | fabricSend
  | fabricBroadcast
  | fabricReceive
  | fabricBarrierArrive
  | kvCreateSession
  | kvDestroySession
  | kvAppend
  | kvRead
  | kvCopyRange
  deriving DecidableEq, Repr

/-- `att1_aimu_endpoint_request`. -/
structure Request where
  op : Op
  value64 : ℕ := 0
  packetType : PacketType := .activation
  sourceTile : ℕ := 0
  targetTile : ℕ := 0
  tileId : ℕ := 0
  groupCount : ℕ := 0
  groupTiles : ℕ → ℕ := fun _ => 0
  participantCount : ℕ := 0
  participants : ℕ → ℕ := fun _ => 0
  payloadBytes : ℕ := 0
  payloadCapacity : ℕ := 0
  payload : ℕ → UInt8 := fun _ => 0
  kvSessionId : ℕ := 0
  kvLayerId : ℕ := 0
  kvHeadId : ℕ := 0
  kvPosition : ℕ := 0
  kvStartPosition : ℕ := 0
  kvPositionCount : ℕ := 0
  kvKeyBytes : ℕ := 0
  kvValueBytes : ℕ := 0

/-- `att1_aimu_endpoint_response`. -/
structure Response where
  status : Status := .ok
  outComplete : Bool := false
  fabricPacket : FabricPacket := ⟨.activation, 0, 0, 0, 0⟩
  payloadBytes : ℕ := 0
  payload : ℕ → UInt8 := fun _ => 0
  kvKeyBytes : ℕ := 0
  kvValueBytes : ℕ := 0

/-- The pattern of `0.0f`. -/
instance floatZero : Zero UInt32 := ⟨0⟩

/-- The fabric and the KV MMU of an in-process endpoint. -/
structure Inproc where
  fabric : Fabric
  kv : KvMmu UInt32

/-- The list in the first `count` cells of a `uint32_t` array, `count` being a `uint32_t`. -/
def tileGroup (tiles : ℕ → ℕ) (count : ℕ) : TileGroup where
  tiles := (List.range (uint32 count)).map tiles
  fits := by
    have h : uint32 count < 2 ^ 32 := Nat.mod_lt _ (Nat.two_pow_pos 32)
    rw [List.length_map, List.length_range]
    unfold sizeMax
    omega

/-- A list of bytes stored at the start of a buffer. -/
def storeBytes (buffer : ℕ → UInt8) (bytes : List UInt8) : ℕ → UInt8 :=
  copyInto buffer 0 (fun i => bytes.getD i 0) 0 bytes.length

/-- The bytes of an array of floats. -/
def floatBytes (floats : ℕ → UInt32) : ℕ → UInt8 := fun i =>
  UInt8.ofNat ((floats (i / KvMmu.floatSize)).toNat / 256 ^ (i % KvMmu.floatSize))

/-- The array of floats from an offset of a buffer on. -/
def floatsAt (bytes : ℕ → UInt8) (off : ℕ) : ℕ → UInt32 := fun i =>
  UInt32.ofNat (leValue (readBlock bytes (off + i * KvMmu.floatSize) KvMmu.floatSize))

/-- A list of floats stored at an offset of a byte buffer, unless it runs over the end of the payload. -/
def storeFloats (payload : ℕ → UInt8) (off : ℕ) (floats : List UInt32) : Option (ℕ → UInt8) :=
  if floats = [] ∨ off + floats.length * KvMmu.floatSize ≤ maxPayload then
    some (copyInto payload off (floatBytes fun i => floats.getD i 0) 0 (floats.length * KvMmu.floatSize))
  else none

/-- What a KV read stores through its two pointers into a response payload. -/
def storeSlice (payload : ℕ → UInt8) (off : ℕ) (slice : KvSlice UInt32) : Option (ℕ → UInt8) := do
  let payload ← storeFloats payload off (slice.key.getD [])
  storeFloats payload (halfPayload + off) (slice.value.getD [])

/-- The stores of a range copy, in order. -/
def storeWrites (payload : ℕ → UInt8) : List (KvRangeWrite UInt32) → Option (ℕ → UInt8)
  | [] => some payload
  | write :: rest => do
    let payload ← storeSlice payload (write.offset * KvMmu.floatSize) write.slice
    storeWrites payload rest

/-! ### The daemon -/

/-- A packet payload as the daemon passes it on: null when it is empty. -/
def requestPayload (req : Request) : Option (ℕ → UInt8) :=
  if 0 < req.payloadBytes then some req.payload else none

/-- The fabric and KV cases of `dispatch_request`; `none` where it writes past its response. -/
def dispatchRequest (d : Inproc) (host : Host) (req : Request) : Option (Inproc × Response) :=
  match req.op with
  | .fabricSend =>
    let r := d.fabric.send req.sourceTile req.targetTile req.packetType (requestPayload req) req.payloadBytes
      req.value64
    some ({ d with fabric := r.1 }, { status := r.2 })
  | .fabricBroadcast =>
    let r := d.fabric.broadcast req.sourceTile (some (tileGroup req.groupTiles req.groupCount)) req.groupCount
      req.packetType (requestPayload req) req.payloadBytes req.value64
    some ({ d with fabric := r.1 }, { status := r.2 })
  | .fabricReceive =>
    let capacity := if maxPayload < req.payloadCapacity then maxPayload else req.payloadCapacity
    match d.fabric.receive req.tileId true true capacity with
    | (fabric, status, none) => some ({ d with fabric := fabric }, { status := status })
    | (fabric, status, some m) =>
      some ({ d with fabric := fabric },
        { status := status
          fabricPacket := m.packet
          payload := storeBytes (fun _ => 0) m.payload
          payloadBytes := uint32 m.packet.payloadBytes })
  | .fabricBarrierArrive =>
    let r := d.fabric.barrierArrive host req.tileId (some (tileGroup req.participants req.participantCount))
    some ({ d with fabric := r.1 }, { status := r.2.1, outComplete := r.2.2 })
  | .kvCreateSession =>
    let r := d.kv.createSession req.kvSessionId
    some ({ d with kv := r.1 }, { status := r.2 })
  | .kvDestroySession =>
    let r := d.kv.destroySession req.kvSessionId
    some ({ d with kv := r.1 }, { status := r.2 })
  | .kvAppend =>
    let key := if 0 < req.kvKeyBytes then some (floatsAt req.payload 0) else none
    let value := if 0 < req.kvValueBytes then some (floatsAt req.payload halfPayload) else none
    let r := d.kv.append host req.kvSessionId req.kvLayerId req.kvPosition key value
    some ({ d with kv := r.1 }, { status := r.2 })
  | .kvRead =>
    let r := d.kv.read req.kvSessionId req.kvLayerId req.kvHeadId req.kvPosition
      (decide (0 < req.kvKeyBytes / KvMmu.floatSize)) (decide (0 < req.kvValueBytes / KvMmu.floatSize))
    (storeSlice (fun _ => 0) 0 (r.2.2.getD ⟨none, none⟩)).map fun payload =>
      ({ d with kv := r.1 },
        { status := r.2.1
          payload := payload
          kvKeyBytes := if r.2.1 = .ok then req.kvKeyBytes else 0
          kvValueBytes := if r.2.1 = .ok then req.kvValueBytes else 0 })
  | .kvCopyRange =>
    let r := d.kv.copyRange req.kvSessionId req.kvLayerId req.kvHeadId req.kvStartPosition req.kvPositionCount
      (decide (0 < req.kvKeyBytes / KvMmu.floatSize)) (decide (0 < req.kvValueBytes / KvMmu.floatSize))
    (storeWrites (fun _ => 0) r.2.2).map fun payload =>
      ({ d with kv := r.1 },
        { status := r.2.1
          payload := payload
          kvKeyBytes := if r.2.1 = .ok then req.kvKeyBytes else 0
          kvValueBytes := if r.2.1 = .ok then req.kvValueBytes else 0 })

end Att1.Endpoint
