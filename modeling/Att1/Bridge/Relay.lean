import Att1.Bridge.Model

/-!
# Att1.Bridge.Relay — what a relay and a pump do to the queues

* `Becomes`: what a call leaves of an endpoint.
* `RelayOutcome`, `relayOne_outcome`: the four things one relay can do.
* `PumpSafe`, `pump_spec`: a pump moves packets, and loses one exactly when a relay takes it out of its queue for a
  peer that does not accept it.
-/

open Att1.Endpoint Att1.Lib

namespace Att1.Bridge

/-- A packet as it arrives at the peer. -/
def relayedMessage (m : Delivery) : Delivery where
  packet := { m.packet with sourceTile := localTile, targetTile := localTile }
  payload := m.payload

theorem proxyTile_ne_localTile : proxyTile ≠ localTile := Nat.one_ne_zero

namespace ConformanceEndpoint

/-- The packets for the peer. -/
def proxyQueue (n : ConformanceEndpoint) : List Delivery := n.fabric.pending proxyTile

/-- The packets for the endpoint's own tile. -/
def localQueue (n : ConformanceEndpoint) : List Delivery := n.fabric.pending localTile

/-- What the bridge asks of an endpoint: any queues, but both tiles. -/
structure Ready (n : ConformanceEndpoint) : Prop where
  wellFormed : n.fabric.WellFormed
  tiles : 2 ≤ n.fabric.config.tileCount

/-- A payload of this length can be sent to the endpoint at all. -/
def Carries (n : ConformanceEndpoint) (payloadBytes : ℕ) : Prop :=
  (n.link = .socket → payloadBytes ≤ maxPayload) ∧ payloadBytes ≤ n.fabric.config.maxPayloadBytes

/-- The endpoint takes a relayed packet of this length. -/
def Accepts (n : ConformanceEndpoint) (payloadBytes : ℕ) : Prop :=
  n.Carries payloadBytes ∧ n.localQueue.length < n.fabric.config.queueCapacity

/-- The longest payload that `relay_one` can take out of the endpoint. -/
def limit (n : ConformanceEndpoint) : ℕ :=
  match n.link with
  | .inproc => scratchBytes
  | .socket => carriedCapacity scratchBytes

/-- The payload as it gets to the fabric: the socket turns a missing one into zeros. -/
def carried (n : ConformanceEndpoint) (payload : Option (ℕ → UInt8)) (payloadBytes : ℕ) : Option (ℕ → UInt8) :=
  match n.link with
  | .inproc => payload
  | .socket => carriedPayload payload payloadBytes

/-- The receive that the fabric of the endpoint sees. -/
def received (n : ConformanceEndpoint) (tile : ℕ) (outPacket outPayload : Bool) (outPayloadCapacity : ℕ) :
    Fabric × Status × Option Delivery :=
  match n.link with
  | .inproc => n.fabric.receive tile outPacket outPayload outPayloadCapacity
  | .socket => n.fabric.receive tile true true (carriedCapacity outPayloadCapacity)

variable {n n' : ConformanceEndpoint}

@[simp] theorem withFabric_fabric (n : ConformanceEndpoint) (f : Fabric) : (n.withFabric f).fabric = f := rfl

@[simp] theorem withFabric_link (n : ConformanceEndpoint) (f : Fabric) : (n.withFabric f).link = n.link := rfl

/-- What a call leaves of an endpoint, seen from the bridge. -/
structure Becomes (n n' : ConformanceEndpoint) (proxy loc : List Delivery) : Prop where
  ready : n'.Ready
  link_eq : n'.link = n.link
  config_eq : n'.fabric.config = n.fabric.config
  proxy_eq : n'.proxyQueue = proxy
  local_eq : n'.localQueue = loc

theorem Ready.becomes (h : n.Ready) : Becomes n n n.proxyQueue n.localQueue := ⟨h, rfl, rfl, rfl, rfl⟩

theorem Ready.becomes_same (h : n.Ready) {f : Fabric} (hs : Fabric.SameQueues n.fabric f) :
    Becomes n (n.withFabric f) n.proxyQueue n.localQueue :=
  ⟨⟨hs.wellFormed h.wellFormed, hs.config ▸ h.tiles⟩, rfl, hs.config, hs.pending_eq _, hs.pending_eq _⟩

theorem Becomes.limit_eq {proxy loc : List Delivery} (h : Becomes n n' proxy loc) : n'.limit = n.limit := by
  unfold limit
  rw [h.link_eq]

theorem Becomes.carries_iff {proxy loc : List Delivery} (h : Becomes n n' proxy loc) (k : ℕ) :
    n'.Carries k ↔ n.Carries k := by
  unfold Carries
  rw [h.link_eq, h.config_eq]

theorem Becomes.accepts_iff {proxy : List Delivery} (h : Becomes n n' proxy n.localQueue) (k : ℕ) :
    n'.Accepts k ↔ n.Accepts k := by
  unfold Accepts
  rw [h.carries_iff, h.config_eq, h.local_eq]

theorem receive_eq (n : ConformanceEndpoint) (tile : ℕ) (outPacket : Option FabricPacket)
    (outPayload : Option (ℕ → UInt8)) (capacity : ℕ) (outPayloadBytes : Option ℕ) :
    n.receive tile outPacket outPayload capacity outPayloadBytes =
      some
        (n.withFabric (n.received tile outPacket.isSome outPayload.isSome capacity).1,
          receiveReply (n.received tile outPacket.isSome outPayload.isSome capacity).2.1 outPacket outPayload
            outPayloadBytes (n.received tile outPacket.isSome outPayload.isSome capacity).2.2) := by
  obtain ⟨link, state⟩ := n
  unfold receive received
  cases link with
  | inproc => rfl
  | socket =>
    simp only
    rw [remote_receive]
    rfl

theorem received_received (h : n.Ready) (tile : ℕ) (outPacket outPayload : Bool) (capacity : ℕ) :
    Fabric.Received n.fabric tile (n.received tile outPacket outPayload capacity) := by
  unfold received
  cases n.link with
  | inproc => exact Fabric.receive_received h.wellFormed tile outPacket outPayload capacity
  | socket => exact Fabric.receive_received h.wellFormed tile true true _

/-- A send through the endpoint is refused on the way, or made on its fabric. -/
theorem send_eq (n : ConformanceEndpoint) (source target : ℕ) (type : PacketType) (payload : Option (ℕ → UInt8))
    (payloadBytes tag : ℕ) :
    n.send source target type payload payloadBytes tag =
      if n.link = .socket ∧ maxPayload < payloadBytes then some (n, .invalidArg)
      else some
        (n.withFabric
            (n.fabric.send source target type (n.carried payload payloadBytes) payloadBytes tag).1,
          (n.fabric.send source target type (n.carried payload payloadBytes) payloadBytes tag).2) := by
  obtain ⟨link, state⟩ := n
  unfold send carried
  cases link with
  | inproc =>
    rw [if_neg (fun h => by cases h.1)]
  | socket =>
    simp only [true_and]
    split_ifs with hlt
    · unfold clientFabricSend
      rw [if_pos hlt]
      rfl
    · rw [remote_send (not_lt.mp hlt)]
      rfl

/-! ### Sending -/

variable {source target payloadBytes tag : ℕ} {type : PacketType} {payload : Option (ℕ → UInt8)}

/-- The endpoint lets the send pass, and its fabric has room. -/
def Admits (n : ConformanceEndpoint) (target : ℕ) (payload : Option (ℕ → UInt8)) (payloadBytes : ℕ) : Prop :=
  n.Carries payloadBytes ∧ (0 < payloadBytes → (n.carried payload payloadBytes).isSome) ∧
    (n.fabric.pending target).length < n.fabric.config.queueCapacity

theorem send_admitted (h : n.Ready) (type : PacketType) (tag : ℕ) (hs : source < 2) (ht : target < 2) (ha : n.Admits target payload payloadBytes) :
    ∃ n', n.send source target type payload payloadBytes tag = some (n', .ok) ∧
      Becomes n n'
        (n.proxyQueue ++ if proxyTile = target then
          [Fabric.sentMessage source target type (n.carried payload payloadBytes) payloadBytes tag] else [])
        (n.localQueue ++ if localTile = target then
          [Fabric.sentMessage source target type (n.carried payload payloadBytes) payloadBytes tag] else []) := by
  obtain ⟨⟨hsocket, hmax⟩, hpay, hroom⟩ := ha
  rw [Fabric.length_pending] at hroom
  have htiles := h.tiles
  obtain ⟨hok, hwf, hconf, hpend⟩ := @Fabric.send_ok n.fabric source target payloadBytes tag type _ h.wellFormed
    (by omega) (by omega) (Fabric.payloadValid_iff.mpr ⟨hmax, hpay⟩) hroom
  rw [send_eq, if_neg (fun hlong => absurd (hsocket hlong.1) (not_le.mpr hlong.2)), hok]
  refine ⟨_, rfl, ⟨hwf, ?_⟩, rfl, hconf, hpend proxyTile ?_, hpend localTile ?_⟩
  · rw [withFabric_fabric, hconf]
    exact htiles
  · unfold proxyTile
    omega
  · unfold localTile
    omega

theorem send_refused (h : n.Ready) (source : ℕ) (type : PacketType) (tag : ℕ) (ha : ¬ n.Admits target payload payloadBytes) :
    ∃ n' status, n.send source target type payload payloadBytes tag = some (n', status) ∧ status ≠ .ok ∧
      Becomes n n' n.proxyQueue n.localQueue := by
  rw [send_eq]
  split_ifs with hlong
  · exact ⟨n, _, rfl, Status.noConfusion, h.becomes⟩
  · rcases Fabric.send_cases n.fabric source target type (n.carried payload payloadBytes) payloadBytes tag with
      ⟨-, -, -, hpay, hroom⟩ | ⟨hsame, hst⟩
    · obtain ⟨hmax, hsome⟩ := Fabric.payloadValid_iff.mp hpay
      refine absurd ⟨⟨fun hl => not_lt.mp fun hlt => hlong ⟨hl, hlt⟩, hmax⟩, hsome, ?_⟩ ha
      rw [Fabric.length_pending]
      exact hroom
    · exact ⟨_, _, rfl, hst, h.becomes_same hsame⟩

/-! ### Receiving -/

theorem received_scratch (n : ConformanceEndpoint) :
    n.received proxyTile true true scratchBytes = n.fabric.receive proxyTile true true n.limit := by
  unfold received limit
  cases n.link with
  | inproc => rfl
  | socket => rfl

theorem receive_empty {f : Fabric} {tile : ℕ} (ht : tile < f.config.tileCount) (h : f.pending tile = []) (capacity : ℕ) :
    (f.receive tile true true capacity).2 = (.queueEmpty, none) := by
  have hc : (f.queues tile).count = 0 := by rw [← Fabric.length_pending, h, List.length_nil]
  unfold Fabric.receive
  rw [if_neg Bool.noConfusion, if_neg (not_not.mpr (Fabric.validTile_iff.mpr ht))]
  simp only
  rw [if_pos hc]

theorem receive_long {f : Fabric} {tile capacity : ℕ} (hf : f.WellFormed) (ht : tile < f.config.tileCount) {m : Delivery}
    {rest : List Delivery} (h : f.pending tile = m :: rest) (hlong : capacity < m.packet.payloadBytes) :
    (f.receive tile true true capacity).2 = (.invalidArg, none) := by
  have hc : (f.queues tile).count ≠ 0 := by
    rw [← Fabric.length_pending, h, List.length_cons]
    exact Nat.succ_ne_zero _
  rw [Fabric.pending_cons hf ht hc] at h
  obtain ⟨rfl, -⟩ := List.cons.inj h
  have hhead : capacity < ((f.queues tile).packets (f.queues tile).head).payloadBytes := hlong
  unfold Fabric.receive
  rw [if_neg Bool.noConfusion, if_neg (not_not.mpr (Fabric.validTile_iff.mpr ht))]
  simp only
  rw [if_neg hc, if_pos (Or.inl hhead)]

end ConformanceEndpoint

/-! ### One relay -/

open ConformanceEndpoint

/-- What a relay does to the proxy queue `p` of its source and the local queue `q` of its destination. -/
inductive RelayOutcome (src dst : ConformanceEndpoint) (p q : List Delivery) :
    List Delivery → List Delivery → Status → Prop
  /-- There is nothing to relay. -/
  | idle (hp : p = []) : RelayOutcome src dst p q p q .ok
  /-- The packet is too long for the scratch buffer, or for the socket. -/
  | blocked {m : Delivery} {rest : List Delivery} {status : Status} (hp : p = m :: rest)
      (hlong : src.limit < m.packet.payloadBytes) (hst : status ≠ .ok) : RelayOutcome src dst p q p q status
  | moved {m : Delivery} {rest : List Delivery} (hp : p = m :: rest) (hfit : m.packet.payloadBytes ≤ src.limit)
      (hacc : dst.Accepts m.packet.payloadBytes) : RelayOutcome src dst p q rest (q ++ [relayedMessage m]) .ok
  /-- The packet has been taken out of its queue when the send fails. -/
  | lost {m : Delivery} {rest : List Delivery} {status : Status} (hp : p = m :: rest)
      (hfit : m.packet.payloadBytes ≤ src.limit) (hacc : ¬ dst.Accepts m.packet.payloadBytes) (hst : status ≠ .ok) :
      RelayOutcome src dst p q rest q status

/-- The destination is sent what was received. -/
theorem sentMessage_relayed (dst : ConformanceEndpoint) {m : Delivery} (hlen : m.payload.length = m.packet.payloadBytes) :
    Fabric.sentMessage localTile localTile m.packet.type
        (dst.carried (some (storeBytes (fun _ => 0) m.payload)) m.packet.payloadBytes) m.packet.payloadBytes
        m.packet.tag = relayedMessage m := by
  have hbytes : ∀ bytes : ℕ → UInt8, (∀ i < m.packet.payloadBytes, bytes i = m.payload.getD i 0) →
      readBlock bytes 0 m.packet.payloadBytes = m.payload := by
    intro bytes h
    apply List.ext_getElem
    · rw [length_readBlock, hlen]
    · intro i h1 h2
      have hi : i < m.packet.payloadBytes := by rwa [length_readBlock] at h1
      have hcell : (readBlock bytes 0 m.packet.payloadBytes)[i] = bytes i := by simp [readBlock]
      rw [hcell, h i hi]
      simp [h2]
  have hstored : ∀ i < m.packet.payloadBytes, storeBytes (fun _ => 0) m.payload i = m.payload.getD i 0 := by
    intro i hi
    unfold storeBytes copyInto
    rw [if_pos ⟨Nat.zero_le i, by omega⟩, Nat.sub_zero, Nat.zero_add]
  unfold Fabric.sentMessage relayedMessage
  congr 1
  unfold carried
  cases dst.link with
  | inproc => exact hbytes _ hstored
  | socket =>
    unfold carriedPayload
    split_ifs with hpos
    · apply hbytes
      intro i hi
      unfold requestBytes
      simp only
      rw [if_pos hpos]
      unfold copyInto
      rw [if_pos ⟨Nat.zero_le i, by omega⟩, Nat.sub_zero, Nat.zero_add]
      exact hstored i hi
    · exact (List.length_eq_zero_iff.mp (by omega)).symm

theorem forward_accepted {dst : ConformanceEndpoint} (hd : dst.Ready) {m : Delivery}
    (hlen : m.payload.length = m.packet.payloadBytes) (hacc : dst.Accepts m.packet.payloadBytes) :
    ∃ n', dst.send localTile localTile m.packet.type (some (storeBytes (fun _ => 0) m.payload))
        m.packet.payloadBytes m.packet.tag = some (n', .ok) ∧
      Becomes dst n' dst.proxyQueue (dst.localQueue ++ [relayedMessage m]) := by
  have hpay : 0 < m.packet.payloadBytes →
      (dst.carried (some (storeBytes (fun _ => 0) m.payload)) m.packet.payloadBytes).isSome := by
    intro hpos
    unfold carried carriedPayload
    cases dst.link with
    | inproc => rfl
    | socket => exact Option.isSome_iff_exists.mpr ⟨_, if_pos hpos⟩
  have hadm : dst.Admits localTile (some (storeBytes (fun _ => 0) m.payload)) m.packet.payloadBytes :=
    ⟨hacc.1, hpay, hacc.2⟩
  have hzero : localTile < 2 := Nat.two_pos
  have hsent := send_admitted hd m.packet.type m.packet.tag hzero hzero hadm
  rw [sentMessage_relayed dst hlen, if_neg proxyTile_ne_localTile, if_pos rfl, List.append_nil] at hsent
  exact hsent

theorem forward_refused {dst : ConformanceEndpoint} (hd : dst.Ready) {m : Delivery}
    (hacc : ¬ dst.Accepts m.packet.payloadBytes) :
    ∃ n' status, dst.send localTile localTile m.packet.type (some (storeBytes (fun _ => 0) m.payload))
        m.packet.payloadBytes m.packet.tag = some (n', status) ∧ status ≠ .ok ∧
      Becomes dst n' dst.proxyQueue dst.localQueue := by
  apply send_refused hd localTile
  intro hadm
  exact hacc ⟨hadm.1, hadm.2.2⟩

theorem relayOne_outcome {src dst : ConformanceEndpoint} (hs : src.Ready) (hd : dst.Ready) (relayed : UInt64) :
    ∃ r, relayOne src dst localTile relayed = some r ∧
      Becomes src r.src r.src.proxyQueue src.localQueue ∧ Becomes dst r.dst dst.proxyQueue r.dst.localQueue ∧
      RelayOutcome src dst src.proxyQueue dst.localQueue r.src.proxyQueue r.dst.localQueue r.status := by
  have ht : proxyTile < src.fabric.config.tileCount := hs.tiles
  have hsame := received_received hs proxyTile true true scratchBytes
  unfold relayOne
  rw [receive_eq]
  simp only [Option.isSome_some]
  rw [received_scratch] at hsame ⊢
  rcases hr : src.fabric.receive proxyTile true true src.limit with ⟨f, status, delivery⟩
  rw [hr] at hsame
  have hres : (src.fabric.receive proxyTile true true src.limit).2 = (status, delivery) := congrArg Prod.snd hr
  cases hp : src.proxyQueue with
  | nil =>
    rw [receive_empty ht hp] at hres
    obtain ⟨rfl, rfl⟩ := Prod.mk.inj hres
    obtain ⟨m, rest, -, hcons, -⟩ | ⟨hsame, -, -⟩ := hsame
    · rw [show src.fabric.pending proxyTile = [] from hp] at hcons
      cases hcons
    · have hb := hs.becomes_same hsame
      refine ⟨_, rfl, ?_, hd.becomes, ?_⟩
      · exact ⟨hb.ready, hb.link_eq, hb.config_eq, rfl, hb.local_eq⟩
      · show RelayOutcome src dst [] dst.localQueue (src.withFabric f).proxyQueue dst.localQueue .ok
        rw [hb.proxy_eq, hp]
        exact .idle rfl
  | cons m rest =>
    by_cases hlong : src.limit < m.packet.payloadBytes
    · rw [receive_long hs.wellFormed ht hp hlong] at hres
      obtain ⟨rfl, rfl⟩ := Prod.mk.inj hres
      obtain ⟨m', rest', -, -, hok, -⟩ | ⟨hsame, -, -⟩ := hsame
      · cases congrArg Prod.fst hok
      · have hb := hs.becomes_same hsame
        refine ⟨_, rfl, ?_, hd.becomes, ?_⟩
        · exact ⟨hb.ready, hb.link_eq, hb.config_eq, rfl, hb.local_eq⟩
        · show RelayOutcome src dst (m :: rest) dst.localQueue (src.withFabric f).proxyQueue dst.localQueue .invalidArg
          rw [hb.proxy_eq, hp]
          exact .blocked rfl hlong Status.noConfusion
    · have hfit := not_lt.mp hlong
      rw [Fabric.receive_ok hs.wellFormed ht hp hfit] at hres
      obtain ⟨rfl, rfl⟩ := Prod.mk.inj hres
      obtain ⟨-, hlen, -⟩ := receive_some hr
      obtain ⟨m', rest', -, hcons, -, hwf, hconf, hpop, hother⟩ | ⟨-, hst, -⟩ := hsame
      swap
      · exact absurd rfl hst
      rw [show src.fabric.pending proxyTile = m :: rest from hp] at hcons
      obtain ⟨rfl, rfl⟩ := List.cons.inj hcons
      have hb : Becomes src (src.withFabric f) rest src.localQueue := by
        refine ⟨⟨hwf, ?_⟩, rfl, hconf, hpop, hother localTile Nat.zero_ne_one⟩
        rw [withFabric_fabric, hconf]
        exact hs.tiles
      simp only [receiveReply, Option.map_some]
      by_cases hacc : dst.Accepts m.packet.payloadBytes
      · obtain ⟨n', hsend, hb'⟩ := forward_accepted hd hlen hacc
        refine ⟨⟨src.withFabric f, n', relayed + 1, .ok⟩, ?_, ?_, ?_, ?_⟩
        · show (dst.send _ _ _ _ _ _).bind _ = _
          rw [hsend]
          rfl
        · exact ⟨hb.ready, hb.link_eq, hb.config_eq, rfl, hb.local_eq⟩
        · exact ⟨hb'.ready, hb'.link_eq, hb'.config_eq, hb'.proxy_eq, rfl⟩
        · show RelayOutcome src dst (m :: rest) dst.localQueue (src.withFabric f).proxyQueue n'.localQueue .ok
          rw [hb.proxy_eq, hb'.local_eq]
          exact .moved rfl hfit hacc
      · obtain ⟨n', status, hsend, hst, hb'⟩ := forward_refused (m := m) hd hacc
        refine ⟨⟨src.withFabric f, n', relayed, status⟩, ?_, ?_, ?_, ?_⟩
        · show (dst.send _ _ _ _ _ _).bind _ = _
          rw [hsend]
          exact if_pos hst
        · exact ⟨hb.ready, hb.link_eq, hb.config_eq, rfl, hb.local_eq⟩
        · exact ⟨hb'.ready, hb'.link_eq, hb'.config_eq, hb'.proxy_eq, rfl⟩
        · show RelayOutcome src dst (m :: rest) dst.localQueue (src.withFabric f).proxyQueue n'.localQueue status
          rw [hb.proxy_eq, hb'.local_eq]
          exact .lost rfl hfit hacc hst

/-! ### One pump -/

/-- The relay of the packet at the head of `p` does not lose it. -/
def RelaySafe (src dst : ConformanceEndpoint) (p : List Delivery) : Prop :=
  ∀ m ∈ p.head?, m.packet.payloadBytes ≤ src.limit → dst.Accepts m.packet.payloadBytes

/-- The packet at the head of `p` is too long to be relayed. -/
def Blocked (src : ConformanceEndpoint) (p : List Delivery) : Prop := ∃ m ∈ p.head?, src.limit < m.packet.payloadBytes

/-- A pump with the packets `pA` and `pB` in the proxy queues loses none: it relays from A, and unless that fails
from B. -/
def PumpSafe (b : ClusterBridge) (pA pB : List Delivery) : Prop :=
  RelaySafe b.tileA b.tileB pA ∧ (¬ Blocked b.tileA pA → RelaySafe b.tileB b.tileA pB)

/-- A queue and its peer after at most one packet has been moved. -/
def Moved (p q p' q' : List Delivery) : Prop :=
  (p' = p ∧ q' = q) ∨ ∃ m, p = m :: p' ∧ q' = q ++ [relayedMessage m]

section Outcome

variable {src dst src' dst' : ConformanceEndpoint} {p q p' q' : List Delivery} {status : Status}

theorem RelayOutcome.congr (hl : src'.limit = src.limit)
    (ha : ∀ k, dst'.Accepts k ↔ dst.Accepts k) (h : RelayOutcome src' dst' p q p' q' status) :
    RelayOutcome src dst p q p' q' status := by
  cases h with
  | idle hp => exact .idle hp
  | blocked hp hlong hst => exact .blocked hp (hl ▸ hlong) hst
  | moved hp hfit hacc => exact .moved hp (hl ▸ hfit) ((ha _).mp hacc)
  | lost hp hfit hacc hst => exact .lost hp (hl ▸ hfit) (mt (ha _).mpr hacc) hst

theorem RelayOutcome.moved_of_safe (h : RelayOutcome src dst p q p' q' status) (hsafe : RelaySafe src dst p) :
    Moved p q p' q' ∧ (status ≠ .ok ↔ Blocked src p) ∧ (status ≠ .ok → p' = p) := by
  cases h with
  | idle hp =>
    subst hp
    refine ⟨Or.inl ⟨rfl, rfl⟩, iff_of_false (fun h => h rfl) ?_, fun _ => rfl⟩
    rintro ⟨m, hm, -⟩
    cases hm
  | blocked hp hlong hst =>
    subst hp
    exact ⟨Or.inl ⟨rfl, rfl⟩, iff_of_true hst ⟨_, rfl, hlong⟩, fun _ => rfl⟩
  | moved hp hfit hacc =>
    subst hp
    refine ⟨Or.inr ⟨_, rfl, rfl⟩, iff_of_false (fun h => h rfl) ?_, fun h => absurd rfl h⟩
    rintro ⟨m, hm, hlong⟩
    obtain rfl := Option.some.inj hm
    exact absurd hfit (not_le.mpr hlong)
  | lost hp hfit hacc hst =>
    subst hp
    exact absurd (hsafe _ rfl hfit) hacc

theorem RelayOutcome.lost_of_not_safe (h : RelayOutcome src dst p q p' q' status) (hsafe : ¬ RelaySafe src dst p) :
    (∃ m, p = m :: p') ∧ q' = q ∧ status ≠ .ok := by
  cases h with
  | idle hp =>
    subst hp
    exact absurd (fun m hm => by cases hm) hsafe
  | blocked hp hlong hst =>
    subst hp
    refine absurd (fun m hm hfit => ?_) hsafe
    obtain rfl := Option.some.inj hm
    exact absurd hfit (not_le.mpr hlong)
  | moved hp hfit hacc =>
    subst hp
    refine absurd (fun m hm _ => ?_) hsafe
    obtain rfl := Option.some.inj hm
    exact hacc
  | lost hp hfit hacc hst => exact ⟨⟨_, hp⟩, rfl, hst⟩

end Outcome

namespace ClusterBridge

/-- Both endpoints are ready. -/
structure Ready (b : ClusterBridge) : Prop where
  tileA : b.tileA.Ready
  tileB : b.tileB.Ready

/-- The relay at which a pump fails, and the packet at the head of its queue. -/
def stuck (b : ClusterBridge) : Option (Bool × Delivery) :=
  match relayOne b.tileA b.tileB localTile b.packetsRelayed with
  | none => none
  | some r =>
    if r.status ≠ .ok then b.tileA.proxyQueue.head?.map fun m => (true, m)
    else
      match relayOne r.dst r.src localTile r.relayed with
      | none => none
      | some r' => if r'.status ≠ .ok then b.tileB.proxyQueue.head?.map fun m => (false, m) else none

/-- What a pump does to the queues and where it gets stuck. -/
structure Pumped (b b' : ClusterBridge) : Prop where
  ready : b'.Ready
  movedA : Moved b.tileA.proxyQueue b.tileB.localQueue b'.tileA.proxyQueue b'.tileB.localQueue
  movedB : Moved b.tileB.proxyQueue b.tileA.localQueue b'.tileB.proxyQueue b'.tileA.localQueue
  stuck : ∀ isA m, b.stuck = some (isA, m) → (b'.side isA).proxyQueue.head? = some m

/-- A pump that loses a packet. -/
def Loses (b b' : ClusterBridge) : Prop :=
  (∃ m, b.tileA.proxyQueue = m :: b'.tileA.proxyQueue ∧ b'.tileB.localQueue = b.tileB.localQueue) ∨
    ∃ m, b.tileB.proxyQueue = m :: b'.tileB.proxyQueue ∧ b'.tileA.localQueue = b.tileA.localQueue

theorem pump_spec {b : ClusterBridge} (hb : b.Ready) :
    ∃ b' status, b.pump = some (b', status) ∧
      (PumpSafe b b.tileA.proxyQueue b.tileB.proxyQueue → Pumped b b') ∧
      (¬ PumpSafe b b.tileA.proxyQueue b.tileB.proxyQueue → Loses b b') := by
  obtain ⟨r, hr, hsrc, hdst, hout⟩ := relayOne_outcome hb.tileA hb.tileB b.packetsRelayed
  have hready : ClusterBridge.Ready ⟨r.src, r.dst, r.relayed⟩ := ⟨hsrc.ready, hdst.ready⟩
  obtain ⟨r', hr', hsrc', hdst', hout'⟩ := relayOne_outcome hdst.ready hsrc.ready r.relayed
  -- the second relay sees the endpoints as they were: the first one has touched neither of its queues
  replace hout' := hout'.congr hdst.limit_eq hsrc.accepts_iff
  rw [hdst.proxy_eq, hsrc.local_eq] at hout'
  by_cases hst : r.status = .ok
  · have hpump : b.pump = some (⟨r'.dst, r'.src, r'.relayed⟩, r'.status) := by
      unfold pump
      rw [hr]
      show (if r.status ≠ .ok then _ else (relayOne r.dst r.src localTile r.relayed).bind _) = _
      rw [if_neg (not_not.mpr hst), hr']
      rfl
    refine ⟨_, _, hpump, ?_, ?_⟩
    · rintro ⟨hsafeA, hsafeB⟩
      obtain ⟨hmovedA, hblockedA, -⟩ := hout.moved_of_safe hsafeA
      obtain ⟨hmovedB, hblockedB, hkeepB⟩ := hout'.moved_of_safe (hsafeB (mt hblockedA.mpr (not_not.mpr hst)))
      refine ⟨⟨hdst'.ready, hsrc'.ready⟩, ?_, hmovedB, ?_⟩
      · show Moved _ _ r'.dst.proxyQueue r'.src.localQueue
        rw [hdst'.proxy_eq, hsrc'.local_eq]
        exact hmovedA
      · intro isA m hstuck
        unfold ClusterBridge.stuck at hstuck
        rw [hr] at hstuck
        simp only at hstuck
        rw [if_neg (not_not.mpr hst), hr'] at hstuck
        simp only at hstuck
        split_ifs at hstuck with hst'
        obtain ⟨m', hm', heq⟩ := Option.map_eq_some_iff.mp hstuck
        obtain ⟨rfl, rfl⟩ := Prod.mk.inj heq
        show r'.src.proxyQueue.head? = some m'
        rw [hkeepB hst']
        exact hm'
    · intro hlose
      have hsafeA : RelaySafe b.tileA b.tileB b.tileA.proxyQueue := by
        by_contra hno
        exact (hout.lost_of_not_safe hno).2.2 hst
      have hloseB : ¬ RelaySafe b.tileB b.tileA b.tileB.proxyQueue := fun hsafe => hlose ⟨hsafeA, fun _ => hsafe⟩
      obtain ⟨⟨m, hm⟩, hq, -⟩ := hout'.lost_of_not_safe hloseB
      exact Or.inr ⟨m, hm, hq⟩
  · have hpump : b.pump = some (⟨r.src, r.dst, r.relayed⟩, r.status) := by
      unfold pump
      rw [hr]
      exact if_pos hst
    refine ⟨_, _, hpump, ?_, ?_⟩
    · rintro ⟨hsafeA, -⟩
      obtain ⟨hmovedA, -, hkeepA⟩ := hout.moved_of_safe hsafeA
      refine ⟨hready, hmovedA, Or.inl ⟨hdst.proxy_eq, hsrc.local_eq⟩, ?_⟩
      intro isA m hstuck
      unfold ClusterBridge.stuck at hstuck
      rw [hr] at hstuck
      simp only at hstuck
      rw [if_pos hst] at hstuck
      obtain ⟨m', hm', heq⟩ := Option.map_eq_some_iff.mp hstuck
      obtain ⟨rfl, rfl⟩ := Prod.mk.inj heq
      show r.src.proxyQueue.head? = some m'
      rw [hkeepA hst]
      exact hm'
    · intro hlose
      have hloseA : ¬ RelaySafe b.tileA b.tileB b.tileA.proxyQueue := by
        intro hsafeA
        have hblocked := (hout.moved_of_safe hsafeA).2.1.mp hst
        exact hlose ⟨hsafeA, fun hno => absurd hblocked hno⟩
      obtain ⟨⟨m, hm⟩, hq, -⟩ := hout.lost_of_not_safe hloseA
      exact Or.inl ⟨m, hm, hq⟩

end ClusterBridge

end Att1.Bridge
