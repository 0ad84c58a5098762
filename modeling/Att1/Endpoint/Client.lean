import Att1.Endpoint.Protocol

/-!
# Att1.Endpoint.Client — the fabric and KV calls of the socket client (`src/aimu_endpoint_client.c`)

Every call is modelled together with the daemon it talks to: it maps the daemon's endpoint to the endpoint after
the call and to what the caller sees.  A call that dereferences a null pointer, or makes the daemon write past its
response, has no result (`none`).

A pointer argument that the call writes through is an `Option`: null, or what the pointer holds before the call.
`Reply` says what it holds afterwards.
-/

open Att1.Lib

namespace Att1.Endpoint

/-- A `uint32_t` array argument with its count. -/
inductive TileArg
  | null (count : ℕ)
  | list (group : TileGroup)

def TileArg.count : TileArg → ℕ
  | .null count => count
  | .list group => group.tiles.length

def TileArg.group : TileArg → Option TileGroup
  | .null _ => none
  | .list group => some group

/-- What a caller sees of a call: its status, and what its output pointers hold. -/
structure Reply where
  status : Status
  packet : Option FabricPacket := none
  payload : Option (ℕ → UInt8) := none
  payloadBytes : Option ℕ := none
  complete : Option ℤ := none
  key : Option (ℕ → UInt32) := none
  value : Option (ℕ → UInt32) := none

/-- The first `group_count` cells of the array in a request; a null array with a count is dereferenced. -/
def requestTiles : TileArg → Option (ℕ → ℕ)
  | .null 0 => some fun _ => 0
  | .null (_ + 1) => none
  | .list group => some fun i => group.tiles.getD i 0

/-- The payload part of a request. -/
def requestBytes (payload : Option (ℕ → UInt8)) (payloadBytes : ℕ) : ℕ → UInt8 :=
  match payload with
  | some bytes => if 0 < payloadBytes then copyInto (fun _ => 0) 0 bytes 0 payloadBytes else fun _ => 0
  | none => fun _ => 0

/-- `client_fabric_send`. -/
def clientFabricSend (d : Inproc) (host : Host) (source target : ℕ) (type : PacketType)
    (payload : Option (ℕ → UInt8)) (payloadBytes tag : ℕ) : Option (Inproc × Reply) :=
  if maxPayload < payloadBytes then some (d, { status := .invalidArg })
  else
    (dispatchRequest d host
      { op := .fabricSend
        sourceTile := source
        targetTile := target
        packetType := type
        value64 := tag
        payloadBytes := uint32 payloadBytes
        payload := requestBytes payload payloadBytes }).map
      fun r => (r.1, { status := r.2.status })

/-- `client_fabric_broadcast`. -/
def clientFabricBroadcast (d : Inproc) (host : Host) (source : ℕ) (group : TileArg) (type : PacketType)
    (payload : Option (ℕ → UInt8)) (payloadBytes tag : ℕ) : Option (Inproc × Reply) :=
  if maxPayload < payloadBytes ∨ maxGroupTiles < group.count then some (d, { status := .invalidArg })
  else do
    let tiles ← requestTiles group
    (dispatchRequest d host
      { op := .fabricBroadcast
        sourceTile := source
        packetType := type
        value64 := tag
        payloadBytes := uint32 payloadBytes
        groupCount := uint32 group.count
        groupTiles := tiles
        payload := requestBytes payload payloadBytes }).map
      fun r => (r.1, { status := r.2.status })

/-- `client_fabric_receive`. -/
def clientFabricReceive (d : Inproc) (host : Host) (tile : ℕ) (outPacket : Option FabricPacket)
    (outPayload : Option (ℕ → UInt8)) (outPayloadCapacity : ℕ) (outPayloadBytes : Option ℕ) :
    Option (Inproc × Reply) :=
  (dispatchRequest d host
    { op := .fabricReceive
      tileId := tile
      payloadCapacity :=
        uint32 (if maxPayload < outPayloadCapacity then maxPayload else outPayloadCapacity) }).map
    fun r =>
      if r.2.status ≠ .ok then
        (r.1, { status := r.2.status, packet := outPacket, payload := outPayload, payloadBytes := outPayloadBytes })
      else
        let clamped := if maxPayload < r.2.payloadBytes then maxPayload else r.2.payloadBytes
        let payloadBytes := if outPayloadCapacity < clamped then uint32 outPayloadCapacity else clamped
        (r.1,
          { status := r.2.status
            packet := outPacket.map fun _ => r.2.fabricPacket
            payload := outPayload.map fun buffer =>
              if 0 < payloadBytes then copyInto buffer 0 r.2.payload 0 payloadBytes else buffer
            payloadBytes := outPayloadBytes.map fun _ => payloadBytes })

/-- `client_fabric_barrier_arrive`. -/
def clientFabricBarrierArrive (d : Inproc) (host : Host) (tile : ℕ) (participants : TileArg)
    (outComplete : Option ℤ) : Option (Inproc × Reply) :=
  if maxGroupTiles < participants.count then some (d, { status := .invalidArg, complete := outComplete })
  else do
    let tiles ← requestTiles participants
    (dispatchRequest d host
      { op := .fabricBarrierArrive
        tileId := tile
        participantCount := uint32 participants.count
        participants := tiles }).map
      fun r =>
        (r.1,
          { status := r.2.status
            complete :=
              if r.2.status = .ok then outComplete.map fun _ => if r.2.outComplete then 1 else 0
              else outComplete })

/-- `client_kv_create_session`. -/
def clientKvCreateSession (d : Inproc) (host : Host) (sessionId : ℕ) : Option (Inproc × Reply) :=
  (dispatchRequest d host { op := .kvCreateSession, kvSessionId := sessionId }).map
    fun r => (r.1, { status := r.2.status })

/-- `client_kv_destroy_session`. -/
def clientKvDestroySession (d : Inproc) (host : Host) (sessionId : ℕ) : Option (Inproc × Reply) :=
  (dispatchRequest d host { op := .kvDestroySession, kvSessionId := sessionId }).map
    fun r => (r.1, { status := r.2.status })

/-- The bytes of `count` floats, as the client computes them. -/
def streamBytes (count : ℕ) : ℕ := sizeT (count * KvMmu.floatSize)

/-- `client_kv_stream_bytes_fit`, for the key and the value of a call. -/
def streamsFit (keyCount valueCount : ℕ) : Bool :=
  decide (streamBytes keyCount ≤ halfPayload) && decide (streamBytes valueCount ≤ halfPayload)

/-- The key and value bytes in the two halves of a request payload. -/
def requestFloats (key : Option (ℕ → UInt32)) (keyBytes : ℕ) (value : Option (ℕ → UInt32)) (valueBytes : ℕ) :
    ℕ → UInt8 :=
  let keyed :=
    match key with
    | some floats => copyInto (fun _ => 0) 0 (floatBytes floats) 0 keyBytes
    | none => fun _ => 0
  match value with
  | some floats => copyInto keyed halfPayload (floatBytes floats) 0 valueBytes
  | none => keyed

/-- `client_kv_append`. -/
def clientKvAppend (d : Inproc) (host : Host) (sessionId layerId position : ℕ) (key : Option (ℕ → UInt32))
    (keyCount : ℕ) (value : Option (ℕ → UInt32)) (valueCount : ℕ) : Option (Inproc × Reply) :=
  if streamsFit keyCount valueCount = false then some (d, { status := .invalidArg })
  else
    (dispatchRequest d host
      { op := .kvAppend
        kvSessionId := sessionId
        kvLayerId := uint32 layerId
        kvPosition := uint32 position
        kvKeyBytes := uint32 (streamBytes keyCount)
        kvValueBytes := uint32 (streamBytes valueCount)
        payload := requestFloats key (streamBytes keyCount) value (streamBytes valueCount) }).map
      fun r => (r.1, { status := r.2.status })

/-- What the client copies out of one half of a response payload, `bytes` being what the daemon claims: at most
what the caller's buffer and the half hold. -/
def deliverFloats (out : Option (ℕ → UInt32)) (payload : ℕ → UInt8) (off count bytes : ℕ) :
    Option (ℕ → UInt32) :=
  let own := if streamBytes count < bytes then streamBytes count else bytes
  let outBytes := if halfPayload < own then halfPayload else own
  out.map fun floats => copyInto floats 0 (floatsAt payload off) 0 (outBytes / KvMmu.floatSize)

/-- What the client makes of the response to a read or a range copy. -/
def deliverReply (outKey : Option (ℕ → UInt32)) (keyCount : ℕ) (outValue : Option (ℕ → UInt32))
    (valueCount : ℕ) (r : Inproc × Response) : Inproc × Reply :=
  if r.2.status ≠ .ok then (r.1, { status := r.2.status, key := outKey, value := outValue })
  else
    (r.1,
      { status := r.2.status
        key := deliverFloats outKey r.2.payload 0 keyCount r.2.kvKeyBytes
        value := deliverFloats outValue r.2.payload halfPayload valueCount r.2.kvValueBytes })

/-- `client_kv_read`. -/
def clientKvRead (d : Inproc) (host : Host) (sessionId layerId headId position : ℕ)
    (outKey : Option (ℕ → UInt32)) (keyCount : ℕ) (outValue : Option (ℕ → UInt32)) (valueCount : ℕ) :
    Option (Inproc × Reply) :=
  if streamsFit keyCount valueCount = false then
    some (d, { status := .invalidArg, key := outKey, value := outValue })
  else
    (dispatchRequest d host
      { op := .kvRead
        kvSessionId := sessionId
        kvLayerId := uint32 layerId
        kvHeadId := uint32 headId
        kvPosition := uint32 position
        kvKeyBytes := uint32 (streamBytes keyCount)
        kvValueBytes := uint32 (streamBytes valueCount) }).map
      (deliverReply outKey keyCount outValue valueCount)

/-- `client_kv_copy_range`. -/
def clientKvCopyRange (d : Inproc) (host : Host) (sessionId layerId headId startPosition positionCount : ℕ)
    (outKeys : Option (ℕ → UInt32)) (keysCount : ℕ) (outValues : Option (ℕ → UInt32)) (valuesCount : ℕ) :
    Option (Inproc × Reply) :=
  if streamsFit keysCount valuesCount = false then
    some (d, { status := .invalidArg, key := outKeys, value := outValues })
  else
    (dispatchRequest d host
      { op := .kvCopyRange
        kvSessionId := sessionId
        kvLayerId := uint32 layerId
        kvHeadId := uint32 headId
        kvStartPosition := uint32 startPosition
        kvPositionCount := uint32 positionCount
        kvKeyBytes := uint32 (streamBytes keysCount)
        kvValueBytes := uint32 (streamBytes valuesCount) }).map
      (deliverReply outKeys keysCount outValues valuesCount)

end Att1.Endpoint
