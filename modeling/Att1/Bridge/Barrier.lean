import Att1.Bridge.Conserve
import Att1.Fabric.Barrier

/-!
# Att1.Bridge.Barrier — one barrier made of two (`att1_aimu_cluster_bridge_barrier`)

Each side arrives on its own fabric, and once both have, the bridge arrives on both proxy tiles in their place.

* `Stands`: the barrier of a fabric is idle, or counts its local tile only.
* `Answer`: how an arrival is answered, given who waits.
* `bridge_pairs_iff`: the arrivals of a run meet in pairs exactly when the fabrics get the memory to compare the
  participants each time a pair completes.
-/

open Att1.Endpoint Att1.Lib

namespace Att1.Bridge

open Fabric

/-- `g_bridge_barrier_participants`. -/
def bridgeBarrierParticipants : TileGroup := ⟨[localTile, proxyTile], by decide⟩

/-- `att1_aimu_conformance_fabric_barrier_arrive`. -/
def ConformanceEndpoint.barrierArrive (n : ConformanceEndpoint) (host : Host) (tile : ℕ) (participants : TileGroup)
    (outComplete : Option ℤ) : Option (ConformanceEndpoint × Reply) :=
  match n.link with
  | .inproc =>
    let r := n.fabric.barrierArrive host tile (some participants)
    some (n.withFabric r.1, { status := r.2.1, complete := outComplete.map fun _ => if r.2.2 then 1 else 0 })
  | .socket =>
    (clientFabricBarrierArrive n.state host tile (.list participants) outComplete).map fun r =>
      ({ n with state := r.1 }, r.2)

/-- `att1_aimu_cluster_bridge`, whole. -/
structure BarrierBridge extends ClusterBridge where
  aArrived : Bool
  bArrived : Bool
  barriersCompleted : UInt64

/-- The allocators that the three arrivals of one call meet. -/
structure BarrierHosts where
  own : Host
  onA : Host
  onB : Host

namespace BarrierBridge

/-- `att1_aimu_cluster_bridge_init`. -/
def init (tileA tileB : ConformanceEndpoint) : BarrierBridge := ⟨⟨tileA, tileB, 0⟩, false, false, 0⟩

/-- The flag of one side. -/
def arrived (b : BarrierBridge) (isA : Bool) : Bool := if isA then b.aArrived else b.bArrived

/-- The part of `att1_aimu_cluster_bridge_barrier` after both sides have arrived. -/
def barrierProxies (b : BarrierBridge) (host : BarrierHosts) (localComplete : Option ℤ) :
    Option (BarrierBridge × Status × Bool) := do
  let ra ← b.tileA.barrierArrive host.onA proxyTile bridgeBarrierParticipants localComplete
  if ra.2.status ≠ .ok then some ({ b with tileA := ra.1 }, ra.2.status, false)
  else do
    let rb ← b.tileB.barrierArrive host.onB proxyTile bridgeBarrierParticipants ra.2.complete
    if rb.2.status ≠ .ok then some ({ b with tileA := ra.1, tileB := rb.1 }, rb.2.status, false)
    else
      some
        ({ b with
            tileA := ra.1
            tileB := rb.1
            aArrived := false
            bArrived := false
            barriersCompleted := b.barriersCompleted + 1 }, .ok, true)

/-- `att1_aimu_cluster_bridge_barrier`; the last component is `*out_complete`. -/
def barrier (b : BarrierBridge) (host : BarrierHosts) (isA : Bool) : Option (BarrierBridge × Status × Bool) := do
  let r ← (b.side isA).barrierArrive host.own localTile bridgeBarrierParticipants (some 0)
  let b := { b with toClusterBridge := b.withSide isA r.1 }
  if r.2.status ≠ .ok then some (b, r.2.status, false)
  else
    let b := if isA then { b with aArrived := true } else { b with bArrived := true }
    if ¬ (b.aArrived ∧ b.bArrived) then some (b, .ok, false) else b.barrierProxies host r.2.complete

end BarrierBridge

/-! ### One arrival on one fabric -/

/-- The generation in which the local tile has arrived, and its peer has not. -/
def halfway : Generation := ⟨{localTile, proxyTile}, [localTile]⟩

/-- The barrier of an endpoint is idle, or counts the local tile. -/
structure Stands (n : ConformanceEndpoint) (waits : Bool) : Prop where
  tiles : 2 ≤ n.fabric.config.tileCount
  barrier : BarrierIs n.fabric (if waits then some halfway else none)

variable {n : ConformanceEndpoint} {host : Host} {tile : ℕ} {outComplete : Option ℤ}

theorem participantSet_bridge {tileCount : ℕ} (h : 2 ≤ tileCount) :
    participantSet tileCount (some bridgeBarrierParticipants) = some {localTile, proxyTile} := by
  apply participantSet_eq_some.mpr
  refine ⟨bridgeBarrierParticipants, rfl, by decide, ?_, by decide, by decide⟩
  intro t ht
  have hcases : t = localTile ∨ t = proxyTile := by simpa [bridgeBarrierParticipants] using ht
  unfold localTile proxyTile at hcases
  omega

/-- Either link makes the arrival on the fabric of the endpoint. -/
theorem barrierArrive_eq (n : ConformanceEndpoint) (host : Host) (tile : ℕ) (outComplete : Option ℤ) :
    ∃ reply, n.barrierArrive host tile bridgeBarrierParticipants outComplete =
        some (n.withFabric (n.fabric.barrierArrive host tile (some bridgeBarrierParticipants)).1, reply) ∧
      reply.status = (n.fabric.barrierArrive host tile (some bridgeBarrierParticipants)).2.1 := by
  obtain ⟨link, state⟩ := n
  cases link with
  | inproc => exact ⟨_, rfl, rfl⟩
  | socket =>
    have hfits : (TileArg.list bridgeBarrierParticipants).count ≤ maxGroupTiles := by decide
    unfold ConformanceEndpoint.barrierArrive
    simp only
    rw [remote_barrier hfits rfl outComplete rfl]
    have hgroup : tileGroup (fun i => bridgeBarrierParticipants.tiles.getD i 0)
        (uint32 (TileArg.list bridgeBarrierParticipants).count) = bridgeBarrierParticipants :=
      tileGroup_list bridgeBarrierParticipants hfits
    rw [hgroup]
    exact ⟨_, rfl, rfl⟩

namespace Stands

/-- The local tile of an idle endpoint is counted. -/
theorem first (h : Stands n false) (host : Host) (outComplete : Option ℤ) :
    ∃ n' reply, n.barrierArrive host localTile bridgeBarrierParticipants outComplete = some (n', reply) ∧
      reply.status = .ok ∧ Stands n' true ∧ n'.fabric.config = n.fabric.config := by
  have hlt : localTile < n.fabric.config.tileCount := lt_of_lt_of_le Nat.two_pos h.tiles
  have ha := barrierArrive_begins h.barrier host hlt (participantSet_bridge h.tiles)
  obtain ⟨reply, heq, hstatus⟩ := barrierArrive_eq n host localTile outComplete
  have hok : (n.fabric.barrierArrive host localTile (some bridgeBarrierParticipants)).2.1 = .ok := by
    apply ha.ok_iff.mpr
    simp
  have hopen : (n.fabric.barrierArrive host localTile (some bridgeBarrierParticipants)).2.2 = false := by
    rw [← Bool.not_eq_true]
    intro hc
    have hall := (ha.complete_iff.mp hc).2 proxyTile (by simp)
    exact absurd hall (by decide)
  refine ⟨_, reply, heq, hstatus.trans hok, ⟨?_, ha.counted hok hopen⟩, ha.config⟩
  show 2 ≤ (n.fabric.barrierArrive host localTile (some bridgeBarrierParticipants)).1.config.tileCount
  rw [ha.config]
  exact h.tiles

/-- The local tile of an endpoint that counts it is refused, whatever memory there is. -/
theorem again (h : Stands n true) (host : Host) (outComplete : Option ℤ) :
    ∃ n' reply, n.barrierArrive host localTile bridgeBarrierParticipants outComplete = some (n', reply) ∧
      reply.status ≠ .ok ∧ SameBarrier n.fabric n'.fabric := by
  have hf : Holds n.fabric halfway := h.barrier
  have ha := barrierArrive_joins hf host localTile (some bridgeBarrierParticipants)
  obtain ⟨reply, heq, hstatus⟩ := barrierArrive_eq n host localTile outComplete
  have hno : (n.fabric.barrierArrive host localTile (some bridgeBarrierParticipants)).2.1 ≠ .ok := by
    intro hok
    exact (ha.ok_iff.mp hok).2.2 (by decide)
  exact ⟨_, reply, heq, hstatus ▸ hno, hf.sameBarrier (ha.refused hno) ha.config⟩

/-- The proxy tile completes the barrier if the fabric gets the memory to compare the participants. -/
theorem proxy (h : Stands n true) (host : Host) (outComplete : Option ℤ) :
    ∃ n' reply, n.barrierArrive host proxyTile bridgeBarrierParticipants outComplete = some (n', reply) ∧
      (reply.status = .ok ↔ host.malloc n.fabric.config.tileCount = true) ∧
      (reply.status = .ok → Stands n' false) := by
  have hf : Holds n.fabric halfway := h.barrier
  have ha := barrierArrive_joins hf host proxyTile (some bridgeBarrierParticipants)
  obtain ⟨reply, heq, hstatus⟩ := barrierArrive_eq n host proxyTile outComplete
  have hiff : (n.fabric.barrierArrive host proxyTile (some bridgeBarrierParticipants)).2.1 = .ok ↔
      host.malloc n.fabric.config.tileCount = true := by
    rw [ha.ok_iff, participantSet_bridge h.tiles]
    simp [halfway, proxyTile_ne_localTile]
  refine ⟨_, reply, heq, hstatus ▸ hiff, fun hok => ⟨?_, ?_⟩⟩
  · show 2 ≤ (n.fabric.barrierArrive host proxyTile (some bridgeBarrierParticipants)).1.config.tileCount
    rw [ha.config]
    exact h.tiles
  · apply (ha.clear (ha.complete_iff.mpr ⟨hstatus ▸ hok, ?_⟩)).active
    decide

theorem sameBarrier {n' : ConformanceEndpoint} {waits : Bool} (h : Stands n waits)
    (hs : SameBarrier n.fabric n'.fabric) : Stands n' waits :=
  ⟨hs.config ▸ h.tiles, hs.barrierIs h.barrier⟩

end Stands

/-! ### One arrival at the bridge -/

/-- Neither the barriers nor what the bridge knows of them differ. -/
structure Unmoved (b b' : BarrierBridge) : Prop where
  tileA : SameBarrier b.tileA.fabric b'.tileA.fabric
  tileB : SameBarrier b.tileB.fabric b'.tileB.fabric
  aArrived : b'.aArrived = b.aArrived
  bArrived : b'.bArrived = b.bArrived
  barriersCompleted : b'.barriersCompleted = b.barriersCompleted

/-- The bridge and both fabrics agree on who waits. -/
structure Represents (b : BarrierBridge) (waiting : Option Bool) : Prop where
  stands : ∀ isA, Stands (b.side isA) (decide (waiting = some isA))
  arrived : ∀ isA, b.arrived isA = decide (waiting = some isA)

variable {b b' : BarrierBridge} {hosts : BarrierHosts} {isA : Bool}

theorem Unmoved.represents {waiting : Option Bool} (h : Unmoved b b') (hb : Represents b waiting) :
    Represents b' waiting := by
  refine ⟨fun isA => ?_, fun isA => ?_⟩
  · cases isA with
    | true => exact (hb.stands true).sameBarrier h.tileA
    | false => exact (hb.stands false).sameBarrier h.tileB
  · rw [← hb.arrived isA]
    cases isA with
    | true => exact h.aArrived
    | false => exact h.bArrived

namespace BarrierBridge

/-- The side that waits comes again. -/
theorem barrier_again (hb : Represents b (some isA)) (hosts : BarrierHosts) :
    ∃ b' status, b.barrier hosts isA = some (b', status, false) ∧ status ≠ .ok ∧ Unmoved b b' := by
  have hs := hb.stands isA
  rw [decide_eq_true rfl] at hs
  obtain ⟨n', reply, heq, hno, hsame⟩ := hs.again hosts.own (some 0)
  unfold barrier
  rw [heq]
  simp only [Option.bind_eq_bind, Option.bind_some]
  rw [if_pos hno]
  refine ⟨_, _, rfl, hno, ?_⟩
  cases isA with
  | true => exact ⟨hsame, SameBarrier.refl _, rfl, rfl, rfl⟩
  | false => exact ⟨SameBarrier.refl _, hsame, rfl, rfl, rfl⟩

/-- A side comes, and nobody waits. -/
theorem barrier_first (hb : Represents b none) (hosts : BarrierHosts) (isA : Bool) :
    ∃ b', b.barrier hosts isA = some (b', .ok, false) ∧ Represents b' (some isA) ∧
      b'.barriersCompleted = b.barriersCompleted := by
  have hs := hb.stands isA
  have hother := hb.stands !isA
  have hnot := hb.arrived !isA
  obtain ⟨n', reply, heq, hok, hs', -⟩ := hs.first hosts.own (some 0)
  unfold barrier
  rw [heq]
  simp only [Option.bind_eq_bind, Option.bind_some]
  rw [if_neg (not_not.mpr hok)]
  cases isA with
  | true =>
    have hnot : b.bArrived = false := hnot
    simp only [if_true, hnot, Bool.false_eq_true, and_false, not_false_eq_true]
    refine ⟨_, rfl, ⟨fun s => ?_, fun s => ?_⟩, rfl⟩
    · cases s with
      | true => exact hs'
      | false => exact hother
    · cases s <;> rfl
  | false =>
    have hnot : b.aArrived = false := hnot
    simp only [Bool.false_eq_true, if_false, if_true, hnot, false_and, not_false_eq_true]
    refine ⟨_, rfl, ⟨fun s => ?_, fun s => ?_⟩, rfl⟩
    · cases s with
      | true => exact hother
      | false => exact hs'
    · cases s <;> rfl

/-- Both barriers get the memory to compare the participants. -/
def MemoryMeets (b : BarrierBridge) (hosts : BarrierHosts) : Prop :=
  hosts.onA.malloc b.tileA.fabric.config.tileCount = true ∧ hosts.onB.malloc b.tileB.fabric.config.tileCount = true

/-- The proxy arrivals, with both local tiles counted. -/
theorem barrierProxies_spec (hA : Stands b.tileA true) (hB : Stands b.tileB true) (hosts : BarrierHosts)
    (localComplete : Option ℤ) :
    ∃ b' status complete, b.barrierProxies hosts localComplete = some (b', status, complete) ∧
      (complete = true ↔ b.MemoryMeets hosts) ∧
      (complete = true → status = .ok ∧ Represents b' none ∧ b'.barriersCompleted = b.barriersCompleted + 1) := by
  obtain ⟨nA, replyA, heqA, hokA, hfreeA⟩ := hA.proxy hosts.onA localComplete
  obtain ⟨nB, replyB, heqB, hokB, hfreeB⟩ := hB.proxy hosts.onB replyA.complete
  unfold barrierProxies MemoryMeets
  simp only [heqA, heqB, Option.bind_eq_bind, Option.bind_some, ← hokA, ← hokB]
  by_cases ha : replyA.status = .ok
  swap
  · rw [if_pos ha]
    exact ⟨_, _, _, rfl, iff_of_false Bool.false_ne_true fun h => ha h.1, fun h => absurd h Bool.false_ne_true⟩
  rw [if_neg (not_not.mpr ha)]
  by_cases hb : replyB.status = .ok
  swap
  · rw [if_pos hb]
    exact ⟨_, _, _, rfl, iff_of_false Bool.false_ne_true fun h => hb h.2, fun h => absurd h Bool.false_ne_true⟩
  rw [if_neg (not_not.mpr hb)]
  refine ⟨_, _, _, rfl, iff_of_true rfl ⟨ha, hb⟩, fun _ => ⟨rfl, ⟨fun s => ?_, fun s => ?_⟩, rfl⟩⟩
  · cases s with
    | true => exact hfreeA ha
    | false => exact hfreeB hb
  · cases s <;> rfl

/-- A side comes, and the other one waits. -/
theorem barrier_meets (hb : Represents b (some !isA)) (hosts : BarrierHosts) :
    ∃ b' status complete, b.barrier hosts isA = some (b', status, complete) ∧
      (complete = true ↔ b.MemoryMeets hosts) ∧
      (complete = true → status = .ok ∧ Represents b' none ∧ b'.barriersCompleted = b.barriersCompleted + 1) := by
  have hs : Stands (b.side isA) false := by simpa using hb.stands isA
  have hother : Stands (b.side !isA) true := by simpa using hb.stands !isA
  have hwaits : b.arrived (!isA) = true := by simpa using hb.arrived !isA
  obtain ⟨n', reply, heq, hok, hs', hconfig⟩ := hs.first hosts.own (some 0)
  unfold barrier
  rw [heq]
  simp only [Option.bind_eq_bind, Option.bind_some]
  rw [if_neg (not_not.mpr hok)]
  cases isA with
  | true =>
    have hwaits : b.bArrived = true := hwaits
    simp only [if_true, hwaits, and_self, not_true_eq_false, if_false]
    obtain ⟨b', status, complete, hb', hmem, hdone⟩ := barrierProxies_spec
      (b := ⟨⟨n', b.tileB, b.packetsRelayed⟩, true, true, b.barriersCompleted⟩) hs' hother hosts reply.complete
    refine ⟨b', status, complete, hb', hmem.trans ?_, hdone⟩
    unfold MemoryMeets
    rw [hconfig]
    rfl
  | false =>
    have hwaits : b.aArrived = true := hwaits
    simp only [Bool.false_eq_true, if_false, hwaits, and_self, not_true_eq_false]
    obtain ⟨b', status, complete, hb', hmem, hdone⟩ := barrierProxies_spec
      (b := ⟨⟨b.tileA, n', b.packetsRelayed⟩, true, true, b.barriersCompleted⟩) hother hs' hosts reply.complete
    refine ⟨b', status, complete, hb', hmem.trans ?_, hdone⟩
    unfold MemoryMeets
    rw [hconfig]
    rfl

end BarrierBridge

/-! ### Runs -/

/-- A call of `att1_aimu_cluster_bridge_barrier`, with what it returned. -/
structure Arrival where
  isA : Bool
  hosts : BarrierHosts
  status : Status
  complete : Bool

/-- A step: an arrival, or something else that happens to the endpoints and ends with `after`. -/
inductive BarrierEvent
  | arrive (call : Arrival)
  | other (after : ClusterBridge)

/-- Whatever happens between the arrivals leaves the barriers alone. -/
structure KeepsBarriers (b b' : ClusterBridge) : Prop where
  tileA : SameBarrier b.tileA.fabric b'.tileA.fabric
  tileB : SameBarrier b.tileB.fabric b'.tileB.fabric

theorem send_sameBarrier {n n' : ConformanceEndpoint} {source target payloadBytes tag : ℕ} {type : PacketType}
    {payload : Option (ℕ → UInt8)} {status : Status}
    (h : n.send source target type payload payloadBytes tag = some (n', status)) :
    SameBarrier n.fabric n'.fabric := by
  rw [ConformanceEndpoint.send_eq] at h
  split_ifs at h
  · obtain rfl : n = n' := (Prod.mk.inj (Option.some.inj h)).1
    exact SameBarrier.refl _
  · obtain rfl := (Prod.mk.inj (Option.some.inj h)).1
    exact sameBarrier_send n.fabric source target type _ payloadBytes tag

theorem receive_sameBarrier {n n' : ConformanceEndpoint} {tile capacity : ℕ} {outPacket : Option FabricPacket}
    {outPayload : Option (ℕ → UInt8)} {outPayloadBytes : Option ℕ} {reply : Reply}
    (h : n.receive tile outPacket outPayload capacity outPayloadBytes = some (n', reply)) :
    SameBarrier n.fabric n'.fabric := by
  rw [ConformanceEndpoint.receive_eq] at h
  obtain rfl := (Prod.mk.inj (Option.some.inj h)).1
  show SameBarrier n.fabric (n.received tile outPacket.isSome outPayload.isSome capacity).1
  unfold ConformanceEndpoint.received
  cases n.link with
  | inproc => exact sameBarrier_receive n.fabric tile _ _ capacity
  | socket => exact sameBarrier_receive n.fabric tile true true _

theorem relayOne_sameBarrier {src dst : ConformanceEndpoint} {globalSourceTile : ℕ} {relayed : UInt64} {r : Relayed}
    (h : relayOne src dst globalSourceTile relayed = some r) :
    SameBarrier src.fabric r.src.fabric ∧ SameBarrier dst.fabric r.dst.fabric := by
  unfold relayOne at h
  obtain ⟨⟨n, reply⟩, hrecv, h⟩ := Option.bind_eq_some_iff.mp h
  have hsrc := receive_sameBarrier hrecv
  split_ifs at h
  · obtain rfl := Option.some.inj h
    exact ⟨hsrc, SameBarrier.refl _⟩
  · obtain rfl := Option.some.inj h
    exact ⟨hsrc, SameBarrier.refl _⟩
  · obtain ⟨packet, -, h⟩ := Option.bind_eq_some_iff.mp h
    obtain ⟨payloadBytes, -, h⟩ := Option.bind_eq_some_iff.mp h
    obtain ⟨⟨n', status⟩, hsend, h⟩ := Option.bind_eq_some_iff.mp h
    have hdst := send_sameBarrier hsend
    split_ifs at h
    · obtain rfl := Option.some.inj h
      exact ⟨hsrc, hdst⟩
    · obtain rfl := Option.some.inj h
      exact ⟨hsrc, hdst⟩

theorem pump_keepsBarriers {b b' : ClusterBridge} {status : Status} (h : b.pump = some (b', status)) :
    KeepsBarriers b b' := by
  unfold ClusterBridge.pump at h
  obtain ⟨r, hr, h⟩ := Option.bind_eq_some_iff.mp h
  obtain ⟨hA, hB⟩ := relayOne_sameBarrier hr
  split_ifs at h
  · obtain rfl := (Prod.mk.inj (Option.some.inj h)).1
    exact ⟨hA, hB⟩
  · obtain ⟨r', hr', h⟩ := Option.bind_eq_some_iff.mp h
    obtain ⟨hB', hA'⟩ := relayOne_sameBarrier hr'
    obtain rfl := (Prod.mk.inj (Option.some.inj h)).1
    exact ⟨hA.trans hA', hB.trans hB'⟩

theorem keepsBarriers_withSide (b : ClusterBridge) {isA : Bool} {n : ConformanceEndpoint}
    (h : SameBarrier (b.side isA).fabric n.fabric) : KeepsBarriers b (b.withSide isA n) := by
  cases isA with
  | true => exact ⟨h, SameBarrier.refl _⟩
  | false => exact ⟨SameBarrier.refl _, h⟩

/-- The other calls on the bridge, and the receives on the local tiles, leave the barriers alone. -/
theorem bridgeStep_keepsBarriers {b b' : ClusterBridge} {e : BridgeEvent} (h : BridgeStep b e b') :
    KeepsBarriers b b' := by
  unfold BridgeStep at h
  cases hc : e.call with
  | send fromA type payload payloadBytes tag =>
    rw [hc] at h
    obtain ⟨-, -, -, hs, -⟩ := h
    unfold ClusterBridge.send at hs
    obtain ⟨⟨n, status⟩, hsend, hs⟩ := Option.bind_eq_some_iff.mp hs
    have hside := keepsBarriers_withSide b (send_sameBarrier hsend)
    split_ifs at hs
    · obtain rfl := (Prod.mk.inj (Option.some.inj hs)).1
      exact hside
    · have hpump := pump_keepsBarriers hs
      exact ⟨hside.tileA.trans hpump.tileA, hside.tileB.trans hpump.tileB⟩
  | pump =>
    rw [hc] at h
    exact pump_keepsBarriers h.1
  | receive onA outPacket outPayload capacity outPayloadBytes =>
    rw [hc] at h
    obtain ⟨n, reply, hrecv, rfl, -⟩ := h
    exact keepsBarriers_withSide b (receive_sameBarrier hrecv)

def BarrierStep (b : BarrierBridge) : BarrierEvent → BarrierBridge → Prop
  | .arrive call, b' => b.barrier call.hosts call.isA = some (b', call.status, call.complete)
  | .other after, b' => b' = { b with toClusterBridge := after } ∧ KeepsBarriers b.toClusterBridge after

/-- The arrivals of a history. -/
def arrivals (es : List BarrierEvent) : List Arrival :=
  es.filterMap fun
    | .arrive call => some call
    | .other _ => none

/-- The side that waits after a history, when the sides come in the order of the history. -/
def waiting (es : List BarrierEvent) : Option Bool := waitingAfter ((arrivals es).map Arrival.isA)

/-- How an arrival must be answered when `waiting` is the side that waits: the side that waits is turned away and
nothing moves, the other one completes the pair and leaves both barriers idle. -/
structure Answer (waiting : Option Bool) (b : BarrierBridge) (call : Arrival) (b' : BarrierBridge) : Prop where
  ok_iff : call.status = .ok ↔ waiting ≠ some call.isA
  complete_iff : call.complete = true ↔ waiting = some !call.isA
  refused : call.status ≠ .ok → Unmoved b b'
  idle : call.complete = true → b'.tileA.fabric.barrierActive = false ∧ b'.tileB.fabric.barrierActive = false ∧
    b'.barriersCompleted = b.barriersCompleted + 1

/-- The arrivals of one side that were accepted. -/
def acceptedFrom (isA : Bool) (es : List BarrierEvent) : ℕ :=
  (arrivals es).countP fun call => decide (call.isA = isA ∧ call.status = .ok)

/-- The calls that reported a completion. -/
def completions (es : List BarrierEvent) : ℕ := (arrivals es).countP Arrival.complete

/-- The arrivals meet in pairs. -/
structure Paired (b₀ : BarrierBridge) (es : List BarrierEvent) (b : BarrierBridge) : Prop where
  answer : ∀ js call t, es = js ++ [.arrive call] → Run BarrierStep b₀ js t → Answer (waiting js) t call b
  count : ∀ isA, acceptedFrom isA es = completions es + if waiting es = some isA then 1 else 0

/-- Where a call finds the other side waiting, and its own not, the fabrics get their memory. -/
def PairsWithMemory (b : BarrierBridge) : BarrierEvent → Prop
  | .arrive call => b.arrived call.isA = false → b.arrived (!call.isA) = true → b.MemoryMeets call.hosts
  | .other _ => True

variable {b₀ b b' : BarrierBridge} {es : List BarrierEvent} {call : Arrival}

theorem barrierStep_deterministic : Deterministic BarrierStep := by
  intro b e t u h h'
  cases e with
  | arrive call =>
    have heq := Option.some.inj (Eq.trans (Eq.symm h) h')
    exact (Prod.mk.inj heq).1
  | other after => exact h.1.trans h'.1.symm

theorem arrivals_arrive (es : List BarrierEvent) (call : Arrival) :
    arrivals (es ++ [.arrive call]) = arrivals es ++ [call] := List.filterMap_append

theorem arrivals_other (es : List BarrierEvent) (after : ClusterBridge) :
    arrivals (es ++ [.other after]) = arrivals es := by
  unfold arrivals
  rw [List.filterMap_append]
  exact List.append_nil _

theorem waiting_arrive (es : List BarrierEvent) (call : Arrival) :
    waiting (es ++ [.arrive call]) = waitingNext (waiting es) call.isA := by
  unfold waiting
  rw [arrivals_arrive, List.map_append]
  exact waitingAfter_concat _ _

/-- One more arrival, answered as it must be, keeps the pairs. -/
theorem count_arrive (ha : Answer (waiting es) b call b')
    (h : ∀ isA, acceptedFrom isA es = completions es + if waiting es = some isA then 1 else 0) (isA : Bool) :
    acceptedFrom isA (es ++ [.arrive call]) = completions (es ++ [.arrive call]) +
      if waiting (es ++ [.arrive call]) = some isA then 1 else 0 := by
  have hnext := @paired_next _ _ (decide (call.status = .ok)) _ _ _ _ (by simpa using ha.ok_iff) ha.complete_iff (h isA)
  rw [waiting_arrive]
  unfold acceptedFrom completions at hnext ⊢
  rw [arrivals_arrive, List.countP_append, List.countP_append, List.countP_singleton, List.countP_singleton]
  simpa using hnext

/-- The invariant of a run: it is one, its arrivals have met in pairs, and the bridge knows who waits. -/
structure PairsInv (b₀ : BarrierBridge) (es : List BarrierEvent) (b : BarrierBridge) : Prop where
  run : Run BarrierStep b₀ es b
  paired : Paired b₀ es b
  represents : Represents b (waiting es)

/-- An arrival that gets its memory. -/
theorem barrier_answer {w : Option Bool} (hb : Represents b w)
    (hmem : PairsWithMemory b (.arrive call))
    (h : b.barrier call.hosts call.isA = some (b', call.status, call.complete)) :
    Answer w b call b' ∧ Represents b' (waitingNext w call.isA) := by
  obtain rfl | rfl | rfl := waiting_cases w call.isA
  · obtain ⟨b₁, heq, hrep, hdone⟩ := BarrierBridge.barrier_first hb call.hosts call.isA
    obtain ⟨rfl, hstatus, hcomplete⟩ : b₁ = b' ∧ Status.ok = call.status ∧ false = call.complete := by
      simpa using heq.symm.trans h
    refine ⟨⟨?_, ?_, fun hno => absurd hstatus.symm hno, ?_⟩, hrep⟩
    · simp [← hstatus]
    · simp [← hcomplete]
    · simp [← hcomplete]
  · obtain ⟨b₁, status, heq, hno, hsame⟩ := BarrierBridge.barrier_again hb call.hosts
    obtain ⟨rfl, rfl, hcomplete⟩ : b₁ = b' ∧ status = call.status ∧ false = call.complete := by
      simpa using heq.symm.trans h
    refine ⟨⟨?_, ?_, fun _ => hsame, ?_⟩, ?_⟩
    · simpa using hno
    · simp [← hcomplete]
    · simp [← hcomplete]
    · rw [waitingNext_same]
      exact hsame.represents hb
  · obtain ⟨b₁, status, complete, heq, hiff, hdone⟩ := BarrierBridge.barrier_meets hb call.hosts
    obtain ⟨rfl, rfl, rfl⟩ : b₁ = b' ∧ status = call.status ∧ complete = call.complete := by
      simpa using heq.symm.trans h
    have hcomplete : call.complete = true := by
      apply hiff.mpr
      apply hmem
      · simp [hb.arrived]
      · simp [hb.arrived]
    obtain ⟨hok, hrep, hcount⟩ := hdone hcomplete
    have hA := hrep.stands true
    have hB := hrep.stands false
    refine ⟨⟨?_, ?_, fun hno => absurd hok hno, fun _ => ⟨hA.barrier, hB.barrier, hcount⟩⟩, ?_⟩
    · simp [hok]
    · simp [hcomplete]
    · rw [waitingNext_other]
      exact hrep

theorem PairsInv.step {e : BarrierEvent} (hi : PairsInv b₀ es b) (hg : PairsWithMemory b e)
    (hs : BarrierStep b e b') : PairsInv b₀ (es ++ [e]) b' := by
  cases e with
  | arrive call =>
    obtain ⟨ha, hrep⟩ := barrier_answer hi.represents hg hs
    refine ⟨hi.run.snoc hs, ⟨?_, count_arrive ha hi.paired.count⟩, ?_⟩
    · intro js call' t hes hr
      obtain ⟨rfl, hcall⟩ := List.append_inj' hes rfl
      obtain rfl : call = call' := by simpa using hcall
      obtain rfl := hi.run.det barrierStep_deterministic hr
      exact ha
    · rw [waiting_arrive]
      exact hrep
  | other after =>
    obtain ⟨rfl, hkeep⟩ := hs
    have hw : waiting (es ++ [.other after]) = waiting es := by
      unfold waiting
      rw [arrivals_other]
    refine ⟨hi.run.snoc ⟨rfl, hkeep⟩, ⟨?_, ?_⟩, ?_⟩
    · intro js call t hes
      obtain ⟨-, hcall⟩ := List.append_inj' hes rfl
      simp at hcall
    · intro isA
      unfold acceptedFrom completions
      rw [hw, arrivals_other]
      exact hi.paired.count isA
    · rw [hw]
      exact Unmoved.represents (b := b) ⟨hkeep.tileA, hkeep.tileB, rfl, rfl, rfl⟩ hi.represents

/-- A pair whose completing call does not get its memory is not reported complete. -/
theorem not_paired_of_starved {e : BarrierEvent} (hi : PairsInv b₀ es b) (hg : ¬ PairsWithMemory b e)
    (hs : BarrierStep b e b') : ¬ Paired b₀ (es ++ [e]) b' := by
  intro hp
  cases e with
  | other after => exact hg trivial
  | arrive call =>
    have ha := hp.answer es call b rfl hi.run
    simp only [PairsWithMemory, not_forall] at hg
    obtain ⟨hown, hother, hmem⟩ := hg
    have hw : waiting es = some !call.isA := by
      have := hi.represents.arrived !call.isA
      rw [hother] at this
      simpa using this.symm
    have hrep := hi.represents
    rw [hw] at hrep
    obtain ⟨b₁, status, complete, heq, hiff, -⟩ := BarrierBridge.barrier_meets hrep call.hosts
    obtain ⟨-, -, rfl⟩ : b₁ = b' ∧ status = call.status ∧ complete = call.complete := by
      simpa using heq.symm.trans hs
    exact hmem (hiff.mp (ha.complete_iff.mpr hw))

/-- **The barrier of the bridge.**  From two idle barriers of at least two tiles, and whatever else happens on the
endpoints, the arrivals meet in pairs all through the run exactly when each call that finds the other side waiting
gets the memory to compare the participants on both fabrics. -/
theorem bridge_pairs_iff (hA : 2 ≤ b₀.tileA.fabric.config.tileCount) (hB : 2 ≤ b₀.tileB.fabric.config.tileCount)
    (hidleA : b₀.tileA.fabric.barrierActive = false) (hidleB : b₀.tileB.fabric.barrierActive = false)
    (ha : b₀.aArrived = false) (hb : b₀.bArrived = false) (hr : Run BarrierStep b₀ es b) :
    Lawful BarrierStep b₀ (Paired b₀) es ↔ Guarded BarrierStep b₀ PairsWithMemory es := by
  have h0 : PairsInv b₀ [] b₀ := by
    refine ⟨Run.nil, ⟨?_, fun _ => rfl⟩, ⟨fun s => ?_, fun s => ?_⟩⟩
    · intro js call t hes
      simp at hes
    · cases s with
      | true => exact ⟨hA, hidleA⟩
      | false => exact ⟨hB, hidleB⟩
    · cases s with
      | true => exact ha
      | false => exact hb
  refine hr.law_iff_guard barrierStep_deterministic h0 ?_ ?_ ?_
  · intro is t hi
    exact hi.paired
  · intro is t e u hi hg hs
    exact hi.step hg hs
  · intro is t e u hi hg hs
    exact not_paired_of_starved hi hg hs

/-- An arrival that finds all the memory it asks for. -/
def arrival (isA : Bool) (status : Status) (complete : Bool) : BarrierEvent :=
  .arrive ⟨isA, ⟨.generous, .generous, .generous⟩, status, complete⟩

/-- One side arrives twice, the other completes the pair; one endpoint is in the process, one behind a socket. -/
theorem bridge_pairs_two_sides : ∃ f kv b, Fabric.create .generous ⟨2, 1, 4⟩ = .ok f ∧
    KvMmu.create .generous ⟨1, 1, 1, 1, 1, 1, 1⟩ = .ok kv ∧
    Run BarrierStep (.init ⟨.inproc, f, kv⟩ ⟨.socket, f, kv⟩)
      [arrival true .ok false, arrival true .invalidArg false, arrival false .ok true] b ∧
    Lawful BarrierStep (.init ⟨.inproc, f, kv⟩ ⟨.socket, f, kv⟩) (Paired (.init ⟨.inproc, f, kv⟩ ⟨.socket, f, kv⟩))
      [arrival true .ok false, arrival true .invalidArg false, arrival false .ok true] := by
  have hrun : ∃ f kv b, Fabric.create .generous ⟨2, 1, 4⟩ = .ok f ∧
      KvMmu.create .generous ⟨1, 1, 1, 1, 1, 1, 1⟩ = .ok kv ∧
      Run (fun b e b' => BarrierStep b e b' ∧ PairsWithMemory b e) (.init ⟨.inproc, f, kv⟩ ⟨.socket, f, kv⟩)
        [arrival true .ok false, arrival true .invalidArg false, arrival false .ok true] b := by
    refine ⟨_, _, _, rfl, rfl, Run.cons ⟨rfl, ?_⟩ <| Run.cons ⟨rfl, ?_⟩ <| Run.cons ⟨rfl, ?_⟩ Run.nil⟩
    · intro _ h
      cases h
    · intro h
      cases h
    · intro _ _
      exact ⟨rfl, rfl⟩
  obtain ⟨f, kv, b, hc, hk, hr⟩ := hrun
  obtain ⟨hr, hg⟩ := hr.guarded barrierStep_deterministic
  have htiles : 2 ≤ f.config.tileCount := (congrArg FabricBusConfig.tileCount (create_barrierClear hc).1).ge
  have hidle := (create_barrierClear hc).2.active
  refine ⟨f, kv, b, hc, hk, hr, (bridge_pairs_iff ?_ ?_ ?_ ?_ ?_ ?_ hr).mpr hg⟩
  · exact htiles
  · exact htiles
  · exact hidle
  · exact hidle
  · rfl
  · rfl

/-- A host that is out of memory. -/
def exhausted : Host where
  malloc _ := false
  calloc _ _ := false
  malloc_fits _ h := absurd h Bool.false_ne_true
  calloc_fits _ _ h := absurd h Bool.false_ne_true

/-- Both sides have arrived, no completion is reported, and from then on both are turned away. -/
theorem bridge_stuck : ∃ f kv b, Fabric.create .generous ⟨2, 1, 4⟩ = .ok f ∧
    KvMmu.create .generous ⟨1, 1, 1, 1, 1, 1, 1⟩ = .ok kv ∧
    Run BarrierStep (.init ⟨.inproc, f, kv⟩ ⟨.inproc, f, kv⟩)
      [arrival true .ok false, .arrive ⟨false, ⟨.generous, exhausted, .generous⟩, .invalidArg, false⟩,
        arrival true .invalidArg false, arrival false .invalidArg false] b ∧
    ¬ Paired (.init ⟨.inproc, f, kv⟩ ⟨.inproc, f, kv⟩)
      [arrival true .ok false, .arrive ⟨false, ⟨.generous, exhausted, .generous⟩, .invalidArg, false⟩,
        arrival true .invalidArg false, arrival false .invalidArg false] b := by
  refine ⟨_, _, _, rfl, rfl, Run.cons rfl <| Run.cons rfl <| Run.cons rfl <| Run.cons rfl Run.nil, ?_⟩
  intro h
  exact absurd (h.count true) (by decide)

end Att1.Bridge
