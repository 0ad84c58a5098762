import Att1.Endpoint.FabricOps

/-!
# Att1.Bridge.Model — the relay between two endpoints (`src/aimu_cluster_bridge.c`)

An endpoint is a node and the way its caller reaches it: in the same process, or over the socket of a daemon.

* `relayOne`: `relay_one`, a receive on one endpoint and a send on the other.
* `ClusterBridge.pump`, `ClusterBridge.send`: `att1_aimu_cluster_bridge_pump` and `_send`.
* `BridgeCall`: these calls and the receives on the local tiles.
-/

open Att1.Endpoint

namespace Att1.Bridge

/-- `ATT1_CLUSTER_BRIDGE_SCRATCH_BYTES`. -/
def scratchBytes : ℕ := 65536

/-- `ATT1_CLUSTER_BRIDGE_LOCAL_TILE`. -/
def localTile : ℕ := 0

/-- `ATT1_CLUSTER_BRIDGE_PROXY_TILE`. -/
def proxyTile : ℕ := 1

/-- How the operations of an endpoint reach its node. -/
inductive Link
  | inproc
  | socket
  deriving DecidableEq, Repr

/-- `att1_aimu_conformance_endpoint`. -/
structure ConformanceEndpoint where
  link : Link
  state : Inproc

namespace ConformanceEndpoint

def fabric (n : ConformanceEndpoint) : Fabric := n.state.fabric

def withFabric (n : ConformanceEndpoint) (f : Fabric) : ConformanceEndpoint :=
  { n with state := { n.state with fabric := f } }

/-- `att1_aimu_conformance_fabric_send`. -/
def send (n : ConformanceEndpoint) (source target : ℕ) (type : PacketType) (payload : Option (ℕ → UInt8))
    (payloadBytes tag : ℕ) : Option (ConformanceEndpoint × Status) :=
  match n.link with
  | .inproc =>
    let r := n.fabric.send source target type payload payloadBytes tag
    some (n.withFabric r.1, r.2)
  | .socket =>
    (clientFabricSend n.state .generous source target type payload payloadBytes tag).map fun r =>
      ({ n with state := r.1 }, r.2.status)

/-- `att1_aimu_conformance_fabric_receive`. -/
def receive (n : ConformanceEndpoint) (tile : ℕ) (outPacket : Option FabricPacket)
    (outPayload : Option (ℕ → UInt8)) (outPayloadCapacity : ℕ) (outPayloadBytes : Option ℕ) :
    Option (ConformanceEndpoint × Reply) :=
  match n.link with
  | .inproc =>
    let r := n.fabric.receive tile outPacket.isSome outPayload.isSome outPayloadCapacity
    some (n.withFabric r.1, receiveReply r.2.1 outPacket outPayload outPayloadBytes r.2.2)
  | .socket =>
    (clientFabricReceive n.state .generous tile outPacket outPayload outPayloadCapacity outPayloadBytes).map
      fun r => ({ n with state := r.1 }, r.2)

end ConformanceEndpoint

/-- What `relay_one` leaves: the two endpoints, the count of relayed packets and the status. -/
structure Relayed where
  src : ConformanceEndpoint
  dst : ConformanceEndpoint
  relayed : UInt64
  status : Status

/-- `relay_one`. -/
def relayOne (src dst : ConformanceEndpoint) (globalSourceTile : ℕ) (relayed : UInt64) : Option Relayed := do
  let r ← src.receive proxyTile (some ⟨.activation, 0, 0, 0, 0⟩) (some fun _ => 0) scratchBytes (some 0)
  if r.2.status = .queueEmpty then some ⟨r.1, dst, relayed, .ok⟩
  else if r.2.status ≠ .ok then some ⟨r.1, dst, relayed, r.2.status⟩
  else do
    let packet ← r.2.packet
    let payloadBytes ← r.2.payloadBytes
    let s ← dst.send globalSourceTile localTile packet.type r.2.payload payloadBytes packet.tag
    if s.2 ≠ .ok then some ⟨r.1, s.1, relayed, s.2⟩ else some ⟨r.1, s.1, relayed + 1, .ok⟩

/-- `att1_aimu_cluster_bridge`, less what its barrier uses. -/
structure ClusterBridge where
  tileA : ConformanceEndpoint
  tileB : ConformanceEndpoint
  packetsRelayed : UInt64

namespace ClusterBridge

/-- `att1_aimu_cluster_bridge_pump`. -/
def pump (b : ClusterBridge) : Option (ClusterBridge × Status) := do
  let r ← relayOne b.tileA b.tileB localTile b.packetsRelayed
  if r.status ≠ .ok then some (⟨r.src, r.dst, r.relayed⟩, r.status)
  else do
    let r' ← relayOne r.dst r.src localTile r.relayed
    some (⟨r'.dst, r'.src, r'.relayed⟩, r'.status)

/-- The endpoint of one side. -/
def side (b : ClusterBridge) (isA : Bool) : ConformanceEndpoint := if isA then b.tileA else b.tileB

def withSide (b : ClusterBridge) (isA : Bool) (n : ConformanceEndpoint) : ClusterBridge :=
  if isA then { b with tileA := n } else { b with tileB := n }

/-- `att1_aimu_cluster_bridge_send`. -/
def send (b : ClusterBridge) (fromA : Bool) (type : PacketType) (payload : Option (ℕ → UInt8))
    (payloadBytes tag : ℕ) : Option (ClusterBridge × Status) := do
  let r ← (b.side fromA).send localTile proxyTile type payload payloadBytes tag
  if r.2 ≠ .ok then some (b.withSide fromA r.1, r.2) else (b.withSide fromA r.1).pump

end ClusterBridge

/-- A call on the bridge, or a receive on the local tile of one side. -/
inductive BridgeCall
  | send (fromA : Bool) (type : PacketType) (payload : Option (ℕ → UInt8)) (payloadBytes tag : ℕ)
  | pump
  | receive (onA : Bool) (outPacket : Option FabricPacket) (outPayload : Option (ℕ → UInt8))
      (outPayloadCapacity : ℕ) (outPayloadBytes : Option ℕ)

end Att1.Bridge
