import Mathlib.Data.List.Nodup
import Att1.Endpoint.Client
import Att1.Fabric.Queue
import Att1.Lib.Lockstep

/-!
# Att1.Endpoint.FabricOps — fabric calls through the socket against direct ones

Both endpoints start from one created fabric and get the same calls, each within the limits of the transport.

* `perform`, `performRemote`: a call on the fabric itself, and through client and daemon.
* `Transparent`: the calls that mean the same on both ways.
* `fabric_refinement_iff`: in a run both ways agree throughout, in fabric state, status and outputs, exactly when
  all calls of the run are transparent.
-/

open Att1.Lib

namespace Att1.Endpoint

/-- A fabric call whose payload and lists fit the transport. -/
inductive FabricOp
  | send (source target : ℕ) (type : PacketType) (payload : Option (ℕ → UInt8)) (payloadBytes tag : ℕ)
      (fits : payloadBytes ≤ maxPayload)
  | broadcast (source : ℕ) (group : TileArg) (type : PacketType) (payload : Option (ℕ → UInt8))
      (payloadBytes tag : ℕ) (fits : payloadBytes ≤ maxPayload) (groupFits : group.count ≤ maxGroupTiles)
  | receive (tile : ℕ) (outPacket : Option FabricPacket) (outPayload : Option (ℕ → UInt8))
      (outPayloadCapacity : ℕ) (outPayloadBytes : Option ℕ)
  | barrierArrive (host : Host) (tile : ℕ) (participants : TileArg) (outComplete : Option ℤ)
      (fits : participants.count ≤ maxGroupTiles)

/-- What a direct receive leaves behind the output pointers. -/
def receiveReply (status : Status) (outPacket : Option FabricPacket) (outPayload : Option (ℕ → UInt8))
    (outPayloadBytes : Option ℕ) : Option Delivery → Reply
  | none => { status := status, packet := outPacket, payload := outPayload, payloadBytes := outPayloadBytes }
  | some m =>
    { status := status
      packet := outPacket.map fun _ => m.packet
      payload := outPayload.map fun buffer => storeBytes buffer m.payload
      payloadBytes := outPayloadBytes.map fun _ => m.packet.payloadBytes }

/-- The call made on the fabric of an in-process endpoint. -/
def performFabric (d : Inproc) : FabricOp → Inproc × Reply
  | .send source target type payload payloadBytes tag _ =>
    let r := d.fabric.send source target type payload payloadBytes tag
    ({ d with fabric := r.1 }, { status := r.2 })
  | .broadcast source group type payload payloadBytes tag _ _ =>
    let r := d.fabric.broadcast source group.group group.count type payload payloadBytes tag
    ({ d with fabric := r.1 }, { status := r.2 })
  | .receive tile outPacket outPayload outPayloadCapacity outPayloadBytes =>
    let r := d.fabric.receive tile outPacket.isSome outPayload.isSome outPayloadCapacity
    ({ d with fabric := r.1 }, receiveReply r.2.1 outPacket outPayload outPayloadBytes r.2.2)
  | .barrierArrive host tile participants outComplete _ =>
    let r := d.fabric.barrierArrive host tile participants.group
    ({ d with fabric := r.1 },
      { status := r.2.1, complete := outComplete.map fun _ => if r.2.2 then 1 else 0 })

/-- The same call through the client and the daemon. -/
def performFabricRemote (host : Host) (d : Inproc) : FabricOp → Option (Inproc × Reply)
  | .send source target type payload payloadBytes tag _ =>
    clientFabricSend d host source target type payload payloadBytes tag
  | .broadcast source group type payload payloadBytes tag _ _ =>
    clientFabricBroadcast d host source group type payload payloadBytes tag
  | .receive tile outPacket outPayload outPayloadCapacity outPayloadBytes =>
    clientFabricReceive d host tile outPacket outPayload outPayloadCapacity outPayloadBytes
  | .barrierArrive host tile participants outComplete _ =>
    clientFabricBarrierArrive d host tile participants outComplete

/-- The first tile at which the preflight of a broadcast stops is not a tile of the fabric. -/
def NamesInvalidTile (f : Fabric) (source : ℕ) (tiles : List ℕ) : Prop :=
  ∃ before tile after, tiles = before ++ tile :: after ∧ f.config.tileCount ≤ tile ∧
    ∀ t ∈ before, t < f.config.tileCount ∧ (t ≠ source → (f.queues t).count < f.config.queueCapacity)

/-- The fabric accepts the arrival. -/
def ArrivalAccepted (f : Fabric) (host : Host) (tile : ℕ) (participants : Option TileGroup) : Prop :=
  tile < f.config.tileCount ∧
    if f.barrierActive = true then
      f.participantSetMatches host participants = true ∧ f.barrierExpected tile = true ∧
        f.barrierArrived tile = false
    else (f.participantSetValid participants).2 = true ∧
      (f.participantSetValid participants).1.barrierExpected tile = true

/-- The calls that mean the same through the socket: pointers that are null where the operation needs them are lost
on the way (a payload, a list of tiles, the output of a receive), and an error leaves `*out_complete` alone. -/
def Transparent (d : Inproc) : FabricOp → Prop
  | .send source target _ payload payloadBytes _ _ => payload = none → 0 < payloadBytes →
      source < d.fabric.config.tileCount → target < d.fabric.config.tileCount →
      d.fabric.config.maxPayloadBytes < payloadBytes
  | .broadcast source group _ payload payloadBytes _ _ _ => (∀ count, group ≠ .null (count + 1)) ∧
      (source < d.fabric.config.tileCount → payloadBytes ≤ d.fabric.config.maxPayloadBytes →
        (payload = none → 0 < payloadBytes →
          ∃ list, group = .list list ∧ NamesInvalidTile d.fabric source list.tiles) ∧
        (group = .null 0 → d.fabric.config.tileCount = 1))
  | .receive tile outPacket outPayload outPayloadCapacity _ => outPacket ≠ none ∧
      (outPayload = none → tile < d.fabric.config.tileCount → (d.fabric.queues tile).count ≠ 0 →
        ¬ (0 < ((d.fabric.queues tile).packets (d.fabric.queues tile).head).payloadBytes ∧
          ((d.fabric.queues tile).packets (d.fabric.queues tile).head).payloadBytes ≤ outPayloadCapacity))
  | .barrierArrive host tile participants outComplete _ => (∀ count, participants ≠ .null (count + 1)) ∧
      (outComplete = none ∨ outComplete = some 0 ∨ ArrivalAccepted d.fabric host tile participants.group)

/-! ### Packets fit the transport -/

/-- The configuration stays, and no queued packet is longer than a response payload. -/
structure Carries (config : FabricBusConfig) (f : Fabric) : Prop where
  config_eq : f.config = config
  fits : ∀ tile slot, ((f.queues tile).packets slot).payloadBytes ≤ maxPayload

variable {config : FabricBusConfig} {f g : Fabric} {d : Inproc} {host : Host}
  {source target tile payloadBytes tag : ℕ} {type : PacketType} {payload payload' : Option (ℕ → UInt8)}

theorem Carries.of_same (h : Carries config f) (hs : Fabric.SameQueues f g) : Carries config g := by
  refine ⟨hs.config.trans h.config_eq, fun tile slot => ?_⟩
  rw [hs.queues]
  exact h.fits tile slot

theorem Carries.enqueue (h : Carries config f) (hfits : payloadBytes ≤ maxPayload) :
    Carries config (f.enqueue source target type payload payloadBytes tag) := by
  refine ⟨h.config_eq, fun tile slot => ?_⟩
  show ((Function.update f.queues target _ tile).packets slot).payloadBytes ≤ maxPayload
  rcases eq_or_ne tile target with rfl | hne
  · rw [Function.update_self]
    show (Function.update (f.queues tile).packets _ _ slot).payloadBytes ≤ maxPayload
    rcases eq_or_ne slot (sizeT ((f.queues tile).head + (f.queues tile).count) % f.config.queueCapacity)
      with rfl | hslot
    · rw [Function.update_self]
      exact (Nat.mod_le _ _).trans hfits
    · rw [Function.update_of_ne hslot]
      exact h.fits tile slot
  · rw [Function.update_of_ne hne]
    exact h.fits tile slot

theorem Carries.enqueueAll (hfits : payloadBytes ≤ maxPayload) (targets : List ℕ) (h : Carries config f)
    (sent : ℕ) : Carries config (Fabric.enqueueAll source type payload payloadBytes tag targets (f, sent)).1 := by
  induction targets generalizing f sent with
  | nil => exact h
  | cons target rest ih =>
    unfold Fabric.enqueueAll
    split_ifs with hsrc
    · exact ih (h.enqueue hfits) _
    · exact ih h _

theorem Carries.send (h : Carries config f) (hfits : payloadBytes ≤ maxPayload) :
    Carries config (f.send source target type payload payloadBytes tag).1 := by
  rcases Fabric.send_cases f source target type payload payloadBytes tag with ⟨heq, -⟩ | ⟨hs, -⟩
  · rw [heq]
    exact h.enqueue hfits
  · exact h.of_same hs

theorem Carries.receive (h : Carries config f) (outPacket outPayload : Bool) (capacity : ℕ) :
    Carries config (f.receive tile outPacket outPayload capacity).1 := by
  unfold Fabric.receive
  simp only
  split_ifs
  · exact h
  · exact ⟨h.config_eq, h.fits⟩
  · exact ⟨h.config_eq, h.fits⟩
  · refine ⟨h.config_eq, fun t slot => ?_⟩
    show ((Function.update f.queues tile _ t).packets slot).payloadBytes ≤ maxPayload
    rcases eq_or_ne t tile with rfl | hne
    · rw [Function.update_self]
      exact h.fits t slot
    · rw [Function.update_of_ne hne]
      exact h.fits t slot
  · exact ⟨h.config_eq, h.fits⟩

theorem Carries.broadcast (h : Carries config f) (hfits : payloadBytes ≤ maxPayload) (group : Option TileGroup)
    (groupCount : ℕ) :
    Carries config (f.broadcast source group groupCount type payload payloadBytes tag).1 := by
  have hall : ∀ targets, Carries config (Fabric.countBroadcast
      (Fabric.enqueueAll source type payload payloadBytes tag targets (f, 0))) := by
    intro targets
    exact (Carries.enqueueAll hfits targets h 0).of_same (Fabric.sameQueues_countBroadcast _)
  have hinvalid : Carries config f.countInvalid := ⟨h.config_eq, h.fits⟩
  have hfull : Carries config f.countQueueFull := ⟨h.config_eq, h.fits⟩
  unfold Fabric.broadcast
  by_cases h1 : ¬ f.validTile source = true
  · rw [if_pos h1]
    exact hinvalid
  rw [if_neg h1]
  by_cases h2 : ¬ f.payloadValid payload payloadBytes = true
  · rw [if_pos h2]
    exact hinvalid
  rw [if_neg h2]
  cases group with
  | none =>
    simp only
    by_cases h3 : groupCount ≠ 0
    · rw [if_pos h3]
      exact hinvalid
    · rw [if_neg h3]
      split
      · exact hall _
      · exact hfull
  | some group =>
    simp only
    split
    · exact hall _
    · exact hfull
    · exact hinvalid

theorem Carries.barrierArrive (h : Carries config f) (participants : Option TileGroup) :
    Carries config (f.barrierArrive host tile participants).1 := by
  have hrecord : ∀ g : Fabric, g.config = f.config → g.queues = f.queues →
      Carries config (g.barrierRecord tile).1 := by
    intro g hc hq
    have hkeep : (g.barrierRecord tile).1.config = f.config ∧ (g.barrierRecord tile).1.queues = f.queues := by
      unfold Fabric.barrierRecord
      simp only
      split_ifs <;> exact ⟨hc, hq⟩
    refine ⟨hkeep.1.trans h.config_eq, fun t slot => ?_⟩
    rw [hkeep.2]
    exact h.fits t slot
  have hvalid : (f.participantSetValid participants).1.config = f.config ∧
      (f.participantSetValid participants).1.queues = f.queues := by
    unfold Fabric.participantSetValid
    cases participants with
    | none => exact ⟨rfl, rfl⟩
    | some group =>
      simp only
      split_ifs <;> exact ⟨rfl, rfl⟩
  unfold Fabric.barrierArrive
  split_ifs with h1 h2 h3
  · simp only
    split_ifs
    · refine ⟨hvalid.1.trans h.config_eq, fun t slot => ?_⟩
      show (((f.participantSetValid participants).1.queues t).packets slot).payloadBytes ≤ maxPayload
      rw [hvalid.2]
      exact h.fits t slot
    · exact hrecord _ hvalid.1 hvalid.2
  · exact ⟨h.config_eq, h.fits⟩
  · exact hrecord f rfl rfl
  · exact ⟨h.config_eq, h.fits⟩

theorem carries_perform (h : Carries config d.fabric) (op : FabricOp) :
    Carries config (performFabric d op).1.fabric := by
  cases op with
  | send source target type payload payloadBytes tag fits => exact h.send fits
  | broadcast source group type payload payloadBytes tag fits groupFits => exact h.broadcast fits _ _
  | receive tile outPacket outPayload outPayloadCapacity outPayloadBytes => exact h.receive _ _ _
  | barrierArrive host tile participants outComplete fits => exact h.barrierArrive _

/-! ### Arguments on the way -/

theorem uint32_of_le_maxPayload {n : ℕ} (h : n ≤ maxPayload) : uint32 n = n := by
  unfold maxPayload at h
  apply uint32_eq
  unfold uint32Max
  omega

theorem copyInto_congr {α : Type*} (dst : ℕ → α) (doff : ℕ) {src src' : ℕ → α} {n : ℕ} (h : ∀ i < n, src i = src' i) :
    copyInto dst doff src 0 n = copyInto dst doff src' 0 n := by
  ext i
  unfold copyInto
  split_ifs with hi
  · exact h _ (by omega)
  · rfl

/-- Two payload arguments that a fabric call cannot tell apart. -/
def SamePayload (payload payload' : Option (ℕ → UInt8)) (n : ℕ) : Prop :=
  n = 0 ∨ ∃ bytes bytes', payload = some bytes ∧ payload' = some bytes' ∧ ∀ i < n, bytes i = bytes' i

theorem SamePayload.payloadValid_eq (h : SamePayload payload payload' payloadBytes) (f : Fabric) :
    f.payloadValid payload' payloadBytes = f.payloadValid payload payloadBytes := by
  unfold Fabric.payloadValid
  rcases h with rfl | ⟨bytes, bytes', rfl, rfl, -⟩
  · simp
  · simp

theorem SamePayload.enqueue_eq (h : SamePayload payload payload' payloadBytes) (f : Fabric) :
    f.enqueue source target type payload' payloadBytes tag =
      f.enqueue source target type payload payloadBytes tag := by
  rcases h with rfl | ⟨bytes, bytes', rfl, rfl, hb⟩
  · cases payload <;> cases payload' <;> rfl
  · unfold Fabric.enqueue
    simp only [copyInto_congr _ _ hb]

theorem SamePayload.enqueueAll_eq (h : SamePayload payload payload' payloadBytes) (targets : List ℕ)
    (f : Fabric) (sent : ℕ) :
    Fabric.enqueueAll source type payload' payloadBytes tag targets (f, sent) =
      Fabric.enqueueAll source type payload payloadBytes tag targets (f, sent) := by
  induction targets generalizing f sent with
  | nil => rfl
  | cons target rest ih =>
    unfold Fabric.enqueueAll
    rw [h.enqueue_eq, ih]

theorem SamePayload.send_eq (h : SamePayload payload payload' payloadBytes) (f : Fabric) :
    f.send source target type payload' payloadBytes tag = f.send source target type payload payloadBytes tag := by
  unfold Fabric.send
  rw [h.payloadValid_eq, h.enqueue_eq]

theorem SamePayload.broadcast_eq (h : SamePayload payload payload' payloadBytes) (f : Fabric)
    (group : Option TileGroup) (groupCount : ℕ) :
    f.broadcast source group groupCount type payload' payloadBytes tag =
      f.broadcast source group groupCount type payload payloadBytes tag := by
  unfold Fabric.broadcast
  rw [h.payloadValid_eq]
  simp only [h.enqueueAll_eq]

/-- The payload the daemon reads out of a request. -/
def carriedPayload (payload : Option (ℕ → UInt8)) (payloadBytes : ℕ) : Option (ℕ → UInt8) :=
  if 0 < payloadBytes then some (requestBytes payload payloadBytes) else none

theorem samePayload_carried (h : payload = none → payloadBytes = 0) :
    SamePayload payload (carriedPayload payload payloadBytes) payloadBytes := by
  rcases Nat.eq_zero_or_pos payloadBytes with hz | hpos
  · exact Or.inl hz
  · cases payload with
    | none => exact absurd (h rfl) hpos.ne'
    | some bytes =>
      refine Or.inr ⟨bytes, _, rfl, if_pos hpos, fun i hi => ?_⟩
      unfold requestBytes
      simp only
      rw [if_pos hpos]
      unfold copyInto
      rw [if_pos ⟨Nat.zero_le i, by omega⟩]
      simp

/-- The array of tiles of a request is read back as the list it was filled with. -/
theorem tileGroup_list (group : TileGroup) (h : group.tiles.length ≤ maxGroupTiles) :
    tileGroup (fun i => group.tiles.getD i 0) (uint32 group.tiles.length) = group := by
  have hlen : uint32 group.tiles.length = group.tiles.length := by
    unfold maxGroupTiles at h
    apply uint32_eq
    unfold uint32Max
    omega
  obtain ⟨tiles, fits⟩ := group
  unfold tileGroup
  congr 1
  simp only [hlen]
  apply List.ext_getElem
  · simp
  · intro i h1 h2
    simp [h2]

theorem tileGroup_null : tileGroup (fun _ => 0) (uint32 0) = ⟨[], Nat.zero_le sizeMax⟩ := rfl

/-! ### Call by call -/

theorem result_eq_iff {r q : Fabric × Status} :
    (some (({ d with fabric := r.1 } : Inproc), ({ status := r.2 } : Reply)) =
      some (({ d with fabric := q.1 } : Inproc), ({ status := q.2 } : Reply))) ↔ r = q := by
  constructor
  · intro h
    obtain ⟨h1, h2⟩ := Prod.mk.inj (Option.some.inj h)
    apply Prod.ext
    · exact congrArg Inproc.fabric h1
    · exact congrArg Reply.status h2
  · rintro rfl
    rfl

theorem countInvalid_ne (f : Fabric) : f.countInvalid ≠ f := by
  intro h
  have hc : f.counters.invalidPackets + 1 = f.counters.invalidPackets :=
    congrArg (fun g : Fabric => g.counters.invalidPackets) h
  have hn := congrArg UInt64.toNat hc
  have hlt := f.counters.invalidPackets.toNat_lt
  rw [UInt64.toNat_add] at hn
  have h1 : (1 : UInt64).toNat = 1 := rfl
  omega

theorem remote_send (fits : payloadBytes ≤ maxPayload) :
    clientFabricSend d host source target type payload payloadBytes tag =
      some
        ({ d with
            fabric := (d.fabric.send source target type (carriedPayload payload payloadBytes) payloadBytes tag).1 },
          { status := (d.fabric.send source target type (carriedPayload payload payloadBytes) payloadBytes tag).2 }) := by
  unfold clientFabricSend
  rw [if_neg (not_lt.mpr fits), uint32_of_le_maxPayload fits]
  rfl

/-- A missing payload counts as zeros on the way. -/
theorem carried_none (hpos : 0 < payloadBytes) : carriedPayload none payloadBytes = some fun _ => 0 := if_pos hpos

theorem payloadValid_none (hpos : 0 < payloadBytes) : f.payloadValid none payloadBytes = false := by
  rw [← Bool.not_eq_true, Fabric.payloadValid_iff]
  rintro ⟨-, h⟩
  cases h hpos

theorem payloadValid_some (bytes : ℕ → UInt8) :
    f.payloadValid (some bytes) payloadBytes = true ↔ payloadBytes ≤ f.config.maxPayloadBytes := by
  rw [Fabric.payloadValid_iff]
  exact and_iff_left fun _ => rfl

/-- A direct call without the payload it announces is refused. -/
theorem send_none (hpos : 0 < payloadBytes) :
    f.send source target type none payloadBytes tag = (f.countInvalid, .invalidArg) := by
  unfold Fabric.send
  rw [payloadValid_none hpos]
  by_cases h1 : ¬ (f.validTile source = true ∧ f.validTile target = true)
  · rw [if_pos h1]
  · rw [if_neg h1, if_pos Bool.false_ne_true]

theorem broadcast_none (hpos : 0 < payloadBytes) (group : Option TileGroup) (groupCount : ℕ) :
    f.broadcast source group groupCount type none payloadBytes tag = (f.countInvalid, .invalidArg) := by
  unfold Fabric.broadcast
  rw [payloadValid_none hpos]
  by_cases h1 : ¬ f.validTile source = true
  · rw [if_pos h1]
  · rw [if_neg h1, if_pos Bool.false_ne_true]

theorem send_some_invalid_iff (bytes : ℕ → UInt8) :
    f.send source target type (some bytes) payloadBytes tag = (f.countInvalid, .invalidArg) ↔
      (source < f.config.tileCount → target < f.config.tileCount → f.config.maxPayloadBytes < payloadBytes) := by
  unfold Fabric.send
  by_cases htiles : f.validTile source = true ∧ f.validTile target = true
  · rw [if_neg (not_not.mpr htiles)]
    rw [Fabric.validTile_iff, Fabric.validTile_iff] at htiles
    by_cases hlen : f.config.maxPayloadBytes < payloadBytes
    · rw [if_pos (by rw [payloadValid_some]; exact not_le.mpr hlen)]
      exact iff_of_true rfl fun _ _ => hlen
    · rw [if_neg (not_not.mpr ((payloadValid_some bytes).mpr (not_lt.mp hlen)))]
      refine iff_of_false (fun h => ?_) fun h => hlen (h htiles.1 htiles.2)
      split_ifs at h <;> cases congrArg Prod.snd h
  · rw [if_pos htiles]
    rw [Fabric.validTile_iff, Fabric.validTile_iff] at htiles
    exact iff_of_true rfl fun h1 h2 => absurd ⟨h1, h2⟩ htiles

theorem preflightGroup_cases (f : Fabric) (source : ℕ) (tiles : List ℕ) :
    f.preflightGroup source tiles = .ok ∨ f.preflightGroup source tiles = .queueFull ∨
      f.preflightGroup source tiles = .invalidArg := by
  induction tiles with
  | nil => exact Or.inl rfl
  | cons tile rest ih =>
    unfold Fabric.preflightGroup
    split_ifs
    · exact Or.inr (Or.inl rfl)
    · exact ih
    · exact Or.inr (Or.inr rfl)

theorem preflightGroup_invalid_iff {tiles : List ℕ} :
    f.preflightGroup source tiles = .invalidArg ↔ NamesInvalidTile f source tiles := by
  induction tiles with
  | nil =>
    refine iff_of_false (fun h => by cases h) ?_
    rintro ⟨before, tile, after, h, -⟩
    simp at h
  | cons tile rest ih =>
    unfold Fabric.preflightGroup
    by_cases h1 : f.validTile tile = true
    swap
    · rw [if_pos h1]
      refine iff_of_true rfl ⟨[], tile, rest, rfl, ?_, fun _ h => absurd h List.not_mem_nil⟩
      rw [Fabric.validTile_iff] at h1
      exact not_lt.mp h1
    rw [if_neg (not_not.mpr h1)]
    have htile := Fabric.validTile_iff.mp h1
    by_cases h2 : tile ≠ source ∧ ¬ f.queueHasRoom tile = true
    · rw [if_pos h2]
      refine iff_of_false (fun h => by cases h) ?_
      rintro ⟨before, t, after, heq, hge, hbefore⟩
      cases before with
      | nil =>
        obtain ⟨rfl, -⟩ := List.cons.inj heq
        exact absurd htile (not_lt.mpr hge)
      | cons u before =>
        obtain ⟨rfl, -⟩ := List.cons.inj heq
        exact h2.2 (Fabric.queueHasRoom_iff.mpr ((hbefore tile List.mem_cons_self).2 h2.1))
    · rw [if_neg h2, ih]
      constructor
      · rintro ⟨before, t, after, rfl, hge, hbefore⟩
        refine ⟨tile :: before, t, after, rfl, hge, List.forall_mem_cons.mpr ⟨⟨htile, fun hne => ?_⟩, hbefore⟩⟩
        by_contra hroom
        exact h2 ⟨hne, fun h => hroom (Fabric.queueHasRoom_iff.mp h)⟩
      · rintro ⟨before, t, after, heq, hge, hbefore⟩
        cases before with
        | nil =>
          obtain ⟨rfl, -⟩ := List.cons.inj heq
          exact absurd htile (not_lt.mpr hge)
        | cons u before =>
          obtain ⟨rfl, rfl⟩ := List.cons.inj heq
          exact ⟨before, t, after, rfl, hge, (List.forall_mem_cons.mp hbefore).2⟩

/-- A broadcast to an explicit list is refused for its arguments. -/
theorem broadcast_invalid_iff (bytes : ℕ → UInt8) (group : TileGroup) (groupCount : ℕ) :
    f.broadcast source (some group) groupCount type (some bytes) payloadBytes tag =
        (f.countInvalid, .invalidArg) ↔
      (source < f.config.tileCount → payloadBytes ≤ f.config.maxPayloadBytes →
        NamesInvalidTile f source group.tiles) := by
  unfold Fabric.broadcast
  by_cases h1 : f.validTile source = true
  swap
  · rw [if_pos h1]
    rw [Fabric.validTile_iff] at h1
    exact iff_of_true rfl fun h => absurd h h1
  rw [if_neg (not_not.mpr h1)]
  by_cases h2 : f.payloadValid (some bytes) payloadBytes = true
  swap
  · rw [if_pos h2]
    rw [payloadValid_some] at h2
    exact iff_of_true rfl fun _ h => absurd h h2
  rw [if_neg (not_not.mpr h2)]
  simp only
  rw [← preflightGroup_invalid_iff]
  have hs := Fabric.validTile_iff.mp h1
  have hl := (payloadValid_some bytes).mp h2
  rcases preflightGroup_cases f source group.tiles with h | h | h
  · rw [h]
    refine iff_of_false (fun heq => by cases congrArg Prod.snd heq) fun himp => ?_
    cases himp hs hl
  · rw [h]
    refine iff_of_false (fun heq => by cases congrArg Prod.snd heq) fun himp => ?_
    cases himp hs hl
  · rw [h]
    exact iff_of_true rfl fun _ _ => rfl

theorem send_transparent_iff (fits : payloadBytes ≤ maxPayload) :
    performFabricRemote host d (.send source target type payload payloadBytes tag fits) =
        some (performFabric d (.send source target type payload payloadBytes tag fits)) ↔
      Transparent d (.send source target type payload payloadBytes tag fits) := by
  show clientFabricSend d host source target type payload payloadBytes tag = some _ ↔ _
  rw [remote_send fits]
  refine result_eq_iff.trans ?_
  by_cases hp : payload = none ∧ 0 < payloadBytes
  · obtain ⟨rfl, hpos⟩ := hp
    rw [carried_none hpos, send_none hpos, send_some_invalid_iff]
    exact ⟨fun h _ _ => h, fun h => h rfl hpos⟩
  · have hsame : SamePayload payload (carriedPayload payload payloadBytes) payloadBytes := by
      apply samePayload_carried
      intro hnone
      by_contra hne
      exact hp ⟨hnone, Nat.pos_of_ne_zero hne⟩
    refine iff_of_true (hsame.send_eq d.fabric) fun hnone hpos => ?_
    exact absurd ⟨hnone, hpos⟩ hp

theorem remote_broadcast (fits : payloadBytes ≤ maxPayload) {group : TileArg} (hgroup : group.count ≤ maxGroupTiles)
    {tiles : ℕ → ℕ} (htiles : requestTiles group = some tiles) :
    clientFabricBroadcast d host source group type payload payloadBytes tag =
      some
        ({ d with
            fabric := (d.fabric.broadcast source (some (tileGroup tiles (uint32 group.count)))
              (uint32 group.count) type (carriedPayload payload payloadBytes) payloadBytes tag).1 },
          { status := (d.fabric.broadcast source (some (tileGroup tiles (uint32 group.count)))
              (uint32 group.count) type (carriedPayload payload payloadBytes) payloadBytes tag).2 }) := by
  unfold clientFabricBroadcast
  rw [if_neg (by rintro (h | h); exacts [absurd fits (not_le.mpr h), absurd hgroup (not_le.mpr h)]), htiles,
    uint32_of_le_maxPayload fits]
  rfl

/-- The count is not read when there is a list. -/
theorem broadcast_some_count (f : Fabric) (group : TileGroup) (m n : ℕ) :
    f.broadcast source (some group) m type payload payloadBytes tag =
      f.broadcast source (some group) n type payload payloadBytes tag := rfl

theorem countBroadcast_zero (f : Fabric) : Fabric.countBroadcast (f, 0) = f := by
  have h : f.counters.broadcastPackets + UInt64.ofNat 0 = f.counters.broadcastPackets := UInt64.add_zero _
  unfold Fabric.countBroadcast
  rw [h]

/-- A broadcast to an empty list does nothing. -/
theorem broadcast_nil (hs : f.validTile source = true) (hp : f.payloadValid payload payloadBytes = true)
    (group : TileGroup) (hnil : group.tiles = []) (groupCount : ℕ) :
    f.broadcast source (some group) groupCount type payload payloadBytes tag = (f, .ok) := by
  unfold Fabric.broadcast
  rw [if_neg (not_not.mpr hs), if_neg (not_not.mpr hp)]
  simp only
  rw [hnil]
  show (Fabric.countBroadcast (f, 0), Status.ok) = (f, .ok)
  rw [countBroadcast_zero]

/-- A broadcast to all other tiles does nothing only on a fabric of one tile. -/
theorem broadcast_all_iff (hfits : f.config.queueCapacity ≤ sizeMax) (hcount : f.config.tileCount ≤ uint32Max)
    (hs : f.validTile source = true) (hp : f.payloadValid payload payloadBytes = true) :
    f.broadcast source none 0 type payload payloadBytes tag = (f, .ok) ↔ f.config.tileCount = 1 := by
  have hsrc := Fabric.validTile_iff.mp hs
  have hrange : ∀ t ∈ List.range f.config.tileCount, t ≤ uint32Max := fun t ht =>
    (List.mem_range.mp ht).le.trans hcount
  unfold Fabric.broadcast
  rw [if_neg (not_not.mpr hs), if_neg (not_not.mpr hp)]
  simp only [ne_eq, not_true_eq_false, if_false]
  constructor
  · intro h
    by_contra hne
    -- some tile other than the source gets a packet, unless the call fails
    obtain ⟨t, ht, hts⟩ : ∃ t < f.config.tileCount, t ≠ source := by
      rcases Nat.eq_zero_or_pos source with rfl | hpos
      · exact ⟨1, by omega, Nat.one_ne_zero⟩
      · exact ⟨0, by omega, hpos.ne⟩
    split at h
    · rename_i hok
      have hroom := (Fabric.preflightAll_ok hrange).mp hok t (List.mem_range.mpr ht) hts
      have hcopies : Fabric.copies source (List.range f.config.tileCount) t = 1 := by
        unfold Fabric.copies
        rw [if_neg hts]
        exact List.count_eq_one_of_mem List.nodup_range (List.mem_range.mpr ht)
      have hq : ((Fabric.enqueueAll source type payload payloadBytes tag (List.range f.config.tileCount)
          (f, 0)).1.queues t).count = (f.queues t).count + 1 := by
        rw [Fabric.count_enqueueAll _ 0 f t (by omega), hcopies]
      have heq : ((Fabric.enqueueAll source type payload payloadBytes tag (List.range f.config.tileCount)
          (f, 0)).1.queues t).count = (f.queues t).count :=
        congrArg (fun r : Fabric × Status => (r.1.queues t).count) h
      omega
    · rename_i hne'
      exact hne' (congrArg Prod.snd h)
  · intro hone
    have hzero : source = 0 := by omega
    subst hzero
    have hok : f.preflightAll 0 (List.range f.config.tileCount) = .ok := by
      rw [hone]
      rfl
    rw [hok, hone]
    show (Fabric.countBroadcast (f, 0), Status.ok) = (f, .ok)
    rw [countBroadcast_zero]

theorem broadcast_transparent_iff (hfits : d.fabric.config.queueCapacity ≤ sizeMax)
    (hcount : d.fabric.config.tileCount ≤ uint32Max) (fits : payloadBytes ≤ maxPayload) {group : TileArg}
    (groupFits : group.count ≤ maxGroupTiles) :
    performFabricRemote host d (.broadcast source group type payload payloadBytes tag fits groupFits) =
        some (performFabric d (.broadcast source group type payload payloadBytes tag fits groupFits)) ↔
      Transparent d (.broadcast source group type payload payloadBytes tag fits groupFits) := by
  show clientFabricBroadcast d host source group type payload payloadBytes tag = some _ ↔ _
  have hsame : ¬ (payload = none ∧ 0 < payloadBytes) →
      SamePayload payload (carriedPayload payload payloadBytes) payloadBytes := by
    intro hp
    apply samePayload_carried
    intro hnone
    by_contra hne
    exact hp ⟨hnone, Nat.pos_of_ne_zero hne⟩
  cases group with
  | list list =>
    have htiles : tileGroup (fun i => list.tiles.getD i 0) (uint32 list.tiles.length) = list :=
      tileGroup_list list groupFits
    rw [remote_broadcast fits groupFits rfl, TileArg.count, htiles, broadcast_some_count d.fabric list _
      list.tiles.length]
    refine (result_eq_iff (q := d.fabric.broadcast source (some list) list.tiles.length type payload payloadBytes
      tag)).trans ?_
    by_cases hp : payload = none ∧ 0 < payloadBytes
    · obtain ⟨rfl, hpos⟩ := hp
      rw [carried_none hpos, broadcast_none hpos, broadcast_invalid_iff]
      constructor
      · intro h
        refine ⟨fun _ h' => TileArg.noConfusion h', fun hs hl => ⟨fun _ _ => ⟨list, rfl, h hs hl⟩, ?_⟩⟩
        intro h'
        cases h'
      · intro h hs hl
        obtain ⟨list', heq, hnames⟩ := (h.2 hs hl).1 rfl hpos
        injection heq with heq
        exact heq ▸ hnames
    · refine iff_of_true ((hsame hp).broadcast_eq d.fabric _ _)
        ⟨fun _ h' => TileArg.noConfusion h', fun hs hl => ⟨?_, ?_⟩⟩
      · intro hnone hpos
        exact absurd ⟨hnone, hpos⟩ hp
      · intro h'
        cases h'
  | null count =>
    cases count with
    | succ count =>
      refine iff_of_false ?_ fun h => h.1 count rfl
      unfold clientFabricBroadcast
      rw [if_neg (by rintro (h | h); exacts [absurd fits (not_le.mpr h), absurd groupFits (not_le.mpr h)])]
      intro h
      cases h
    | zero =>
      rw [remote_broadcast fits groupFits rfl, TileArg.count, tileGroup_null]
      refine (result_eq_iff (q := d.fabric.broadcast source none 0 type payload payloadBytes tag)).trans ?_
      have hshape : Transparent d (.broadcast source (.null 0) type payload payloadBytes tag fits groupFits) ↔
          (source < d.fabric.config.tileCount → payloadBytes ≤ d.fabric.config.maxPayloadBytes →
            ¬ (payload = none ∧ 0 < payloadBytes) ∧ d.fabric.config.tileCount = 1) := by
        constructor
        · intro h hs hl
          refine ⟨?_, (h.2 hs hl).2 rfl⟩
          rintro ⟨hnone, hpos⟩
          obtain ⟨list, heq, -⟩ := (h.2 hs hl).1 hnone hpos
          cases heq
        · intro h
          refine ⟨fun _ h' => absurd (TileArg.null.inj h') (Nat.succ_ne_zero _).symm,
            fun hs hl => ⟨fun hnone hpos => ?_, fun _ => (h hs hl).2⟩⟩
          exact absurd ⟨hnone, hpos⟩ (h hs hl).1
      rw [hshape]
      by_cases hs : d.fabric.validTile source = true
      swap
      · refine iff_of_true ?_ fun h => absurd (Fabric.validTile_iff.mpr h) hs
        unfold Fabric.broadcast
        rw [if_pos hs, if_pos hs]
      have hsrc := Fabric.validTile_iff.mp hs
      by_cases hp : payload = none ∧ 0 < payloadBytes
      · -- the daemon is given zeros and an empty list
        obtain ⟨rfl, hpos⟩ := hp
        rw [carried_none hpos, broadcast_none hpos, broadcast_invalid_iff]
        constructor
        · intro h _ hl
          obtain ⟨before, tile, after, heq, -⟩ := h hsrc hl
          simp at heq
        · intro h _ hl
          exact absurd ⟨rfl, hpos⟩ (h hsrc hl).1
      · rw [(hsame hp).broadcast_eq]
        by_cases hl : d.fabric.payloadValid payload payloadBytes = true
        · have hmax := (Fabric.payloadValid_iff.mp hl).1
          rw [broadcast_nil hs hl _ rfl, eq_comm, broadcast_all_iff hfits hcount hs hl]
          exact ⟨fun h _ _ => ⟨hp, h⟩, fun h => (h hsrc hmax).2⟩
        · refine iff_of_true ?_ fun _ hmax => ?_
          · unfold Fabric.broadcast
            rw [if_neg (not_not.mpr hs), if_pos hl, if_neg (not_not.mpr hs), if_pos hl]
          · refine absurd (Fabric.payloadValid_iff.mpr ⟨hmax, fun hpos => ?_⟩) hl
            rw [Option.isSome_iff_ne_none]
            exact fun hnone => hp ⟨hnone, hpos⟩

theorem receive_some {outPacket outPayload : Bool} {capacity : ℕ} {status : Status} {m : Delivery}
    (h : f.receive tile outPacket outPayload capacity = (g, status, some m)) :
    status = .ok ∧ m.payload.length = m.packet.payloadBytes ∧ m.packet.payloadBytes ≤ capacity := by
  unfold Fabric.receive at h
  simp only at h
  split_ifs at h with h1 h2 h3 h4
  · cases congrArg (fun r => r.2.2) h
  · cases congrArg (fun r => r.2.2) h
  · cases congrArg (fun r => r.2.2) h
  · obtain ⟨-, hrest⟩ := Prod.mk.inj h
    obtain ⟨hst, hm⟩ := Prod.mk.inj hrest
    obtain rfl := Option.some.inj hm
    rw [not_or, not_lt] at h4
    exact ⟨hst.symm, length_readBlock _ _ _, h4.1⟩
  · cases congrArg (fun r => r.2.2) h

theorem receive_none {outPacket outPayload : Bool} {capacity : ℕ} {status : Status}
    (h : f.receive tile outPacket outPayload capacity = (g, status, none)) : status ≠ .ok := by
  unfold Fabric.receive at h
  simp only at h
  split_ifs at h
  · obtain rfl := congrArg (fun r => r.2.1) h
    simp
  · obtain rfl := congrArg (fun r => r.2.1) h
    simp
  · obtain rfl := congrArg (fun r => r.2.1) h
    simp
  · cases congrArg (fun r => r.2.2) h
  · obtain rfl := congrArg (fun r => r.2.1) h
    simp

/-- Copying out a stored list of bytes stores it. -/
theorem copyInto_storeBytes (buffer zeros : ℕ → UInt8) (bytes : List UInt8) :
    copyInto buffer 0 (storeBytes zeros bytes) 0 bytes.length = storeBytes buffer bytes := by
  unfold storeBytes
  apply copyInto_congr
  intro i hi
  unfold copyInto
  rw [if_pos ⟨Nat.zero_le i, by omega⟩]
  simp

/-- The client asks for at most what a response carries. -/
def carriedCapacity (capacity : ℕ) : ℕ := if maxPayload < capacity then maxPayload else capacity

theorem carriedCapacity_le (capacity : ℕ) : carriedCapacity capacity ≤ maxPayload := by
  unfold carriedCapacity
  split_ifs with h
  · exact le_rfl
  · exact not_lt.mp h

theorem remote_receive (outPacket : Option FabricPacket) (outPayload : Option (ℕ → UInt8)) (capacity : ℕ)
    (outPayloadBytes : Option ℕ) :
    clientFabricReceive d host tile outPacket outPayload capacity outPayloadBytes =
      some
        ({ d with fabric := (d.fabric.receive tile true true (carriedCapacity capacity)).1 },
          receiveReply (d.fabric.receive tile true true (carriedCapacity capacity)).2.1 outPacket outPayload
            outPayloadBytes (d.fabric.receive tile true true (carriedCapacity capacity)).2.2) := by
  have hle := carriedCapacity_le capacity
  have h32 : uint32 (if maxPayload < capacity then maxPayload else capacity) = carriedCapacity capacity :=
    uint32_of_le_maxPayload hle
  unfold clientFabricReceive dispatchRequest
  simp only [h32]
  rw [if_neg (not_lt.mpr hle)]
  rcases hr : d.fabric.receive tile true true (carriedCapacity capacity) with ⟨g, status, delivery⟩
  cases delivery with
  | none =>
    simp only [Option.map_some]
    rw [if_pos (receive_none hr)]
    rfl
  | some m =>
    obtain ⟨rfl, hlen, hcap⟩ := receive_some hr
    have hn : uint32 m.packet.payloadBytes = m.packet.payloadBytes := uint32_of_le_maxPayload (hcap.trans hle)
    have hown : m.packet.payloadBytes ≤ capacity := by
      refine hcap.trans ?_
      unfold carriedCapacity
      split_ifs with h
      · exact h.le
      · exact le_rfl
    simp only [Option.map_some, ne_eq, not_true_eq_false, if_false, hn]
    rw [if_neg (not_lt.mpr (hcap.trans hle)), if_neg (not_lt.mpr hown)]
    congr 2
    unfold receiveReply
    congr 1
    cases outPayload with
    | none => rfl
    | some buffer =>
      simp only [Option.map_some, Option.some.injEq]
      rw [← hlen, copyInto_storeBytes]
      split_ifs with h
      · rfl
      · have hnil : m.payload = [] := List.length_eq_zero_iff.mp (by omega)
        rw [hnil]
        ext i
        unfold storeBytes copyInto
        rw [if_neg (by simp)]

/-- With a packet pointer, a receive over the socket and a direct one differ only where a payload has nowhere to
go. -/
theorem receive_carried (hd : Carries config d.fabric) {outPayload : Option (ℕ → UInt8)} {capacity : ℕ}
    (h : outPayload = none → tile < d.fabric.config.tileCount → (d.fabric.queues tile).count ≠ 0 →
      ¬ (0 < ((d.fabric.queues tile).packets (d.fabric.queues tile).head).payloadBytes ∧
        ((d.fabric.queues tile).packets (d.fabric.queues tile).head).payloadBytes ≤ capacity)) :
    d.fabric.receive tile true true (carriedCapacity capacity) =
      d.fabric.receive tile true outPayload.isSome capacity := by
  have hfit := hd.fits tile (d.fabric.queues tile).head
  unfold Fabric.receive
  simp only [Bool.true_eq_false, if_false, and_false, or_false]
  by_cases ht : d.fabric.validTile tile = true
  swap
  · rw [if_pos ht, if_pos ht]
  rw [if_neg (not_not.mpr ht), if_neg (not_not.mpr ht)]
  by_cases hc : (d.fabric.queues tile).count = 0
  · rw [if_pos hc, if_pos hc]
  rw [if_neg hc, if_neg hc]
  have hiff : carriedCapacity capacity < ((d.fabric.queues tile).packets (d.fabric.queues tile).head).payloadBytes ↔
      capacity < ((d.fabric.queues tile).packets (d.fabric.queues tile).head).payloadBytes ∨
        0 < ((d.fabric.queues tile).packets (d.fabric.queues tile).head).payloadBytes ∧ outPayload.isSome = false := by
    have hcap : carriedCapacity capacity < ((d.fabric.queues tile).packets (d.fabric.queues tile).head).payloadBytes ↔
        capacity < ((d.fabric.queues tile).packets (d.fabric.queues tile).head).payloadBytes := by
      unfold carriedCapacity
      split_ifs <;> omega
    rw [hcap]
    refine (or_iff_left_of_imp ?_).symm
    rintro ⟨hpos, hnone⟩
    rw [Option.isSome_eq_false_iff, Option.isNone_iff_eq_none] at hnone
    by_contra hle
    exact h hnone (Fabric.validTile_iff.mp ht) hc ⟨hpos, not_lt.mp hle⟩
  simp only [hiff]

theorem reply_eq_iff {r q : Fabric} {a b : Reply} :
    some (({ d with fabric := r } : Inproc), a) = some (({ d with fabric := q } : Inproc), b) ↔ r = q ∧ a = b := by
  constructor
  · intro h
    obtain ⟨h1, h2⟩ := Prod.mk.inj (Option.some.inj h)
    exact ⟨congrArg Inproc.fabric h1, h2⟩
  · rintro ⟨rfl, rfl⟩
    rfl

theorem receiveReply_status (status : Status) (outPacket : Option FabricPacket) (outPayload : Option (ℕ → UInt8))
    (outPayloadBytes : Option ℕ) (delivery : Option Delivery) :
    (receiveReply status outPacket outPayload outPayloadBytes delivery).status = status := by
  cases delivery <;> rfl

/-- With all pointers there, a receive never leaves the fabric alone and reports a bad argument. -/
theorem receive_effect (f : Fabric) (tile capacity : ℕ)
    (h : (f.receive tile true true capacity).2.1 = .invalidArg) : (f.receive tile true true capacity).1 ≠ f := by
  unfold Fabric.receive at h ⊢
  simp only [Bool.true_eq_false, if_false, and_false, or_false] at h ⊢
  split_ifs at h ⊢ with h1 h2 h3
  · exact countInvalid_ne f
  · exact countInvalid_ne f

theorem receive_transparent_iff (hd : Carries config d.fabric) (outPacket : Option FabricPacket)
    (outPayload : Option (ℕ → UInt8)) (capacity : ℕ) (outPayloadBytes : Option ℕ) :
    performFabricRemote host d (.receive tile outPacket outPayload capacity outPayloadBytes) =
        some (performFabric d (.receive tile outPacket outPayload capacity outPayloadBytes)) ↔
      Transparent d (.receive tile outPacket outPayload capacity outPayloadBytes) := by
  show clientFabricReceive d host tile outPacket outPayload capacity outPayloadBytes = some _ ↔ _
  rw [remote_receive]
  refine reply_eq_iff.trans ?_
  cases outPacket with
  | none =>
    refine iff_of_false ?_ fun h => h.1 rfl
    rintro ⟨heq, hreply⟩
    have hst := congrArg Reply.status hreply
    rw [receiveReply_status, receiveReply_status] at hst
    exact receive_effect _ _ _ hst heq
  | some packet =>
    constructor
    · rintro ⟨-, hreply⟩
      refine ⟨Option.some_ne_none packet, ?_⟩
      intro hnone ht hc hn
      have hst := congrArg Reply.status hreply
      rw [receiveReply_status, receiveReply_status] at hst
      have hfit := hd.fits tile (d.fabric.queues tile).head
      have hcap : ¬ carriedCapacity capacity <
          ((d.fabric.queues tile).packets (d.fabric.queues tile).head).payloadBytes := by
        unfold carriedCapacity
        split_ifs <;> omega
      have hvalid := Fabric.validTile_iff.mpr ht
      unfold Fabric.receive at hst
      simp only [Option.isSome_some, Bool.true_eq_false, if_false, and_false, or_false, hvalid, not_true_eq_false,
        hc, hcap, hnone, Option.isSome_none, and_true, hn.1, or_true, if_true] at hst
      cases hst
    · rintro ⟨-, h⟩
      have heq := receive_carried hd h
      rw [heq]
      exact ⟨rfl, rfl⟩

theorem barrierRecord_ok_iff : (f.barrierRecord tile).2.1 = .ok ↔
    f.barrierExpected tile = true ∧ f.barrierArrived tile = false := by
  unfold Fabric.barrierRecord
  simp only
  split_ifs with h1 h2 h3
  · simp [h1]
  · simp [h2]
  · simp [h1, h2]
  · simp [h1, h2]

theorem barrierRecord_incomplete (h : (f.barrierRecord tile).2.1 ≠ .ok) : (f.barrierRecord tile).2.2 = false := by
  unfold Fabric.barrierRecord at h ⊢
  simp only at h ⊢
  split_ifs at h ⊢
  · rfl
  · rfl
  · exact absurd rfl h
  · rfl

/-- Only an accepted arrival completes a barrier. -/
theorem barrierArrive_incomplete {participants : Option TileGroup}
    (h : (f.barrierArrive host tile participants).2.1 ≠ .ok) :
    (f.barrierArrive host tile participants).2.2 = false := by
  unfold Fabric.barrierArrive at h ⊢
  simp only at h ⊢
  by_cases h1 : ¬ f.validTile tile = true
  · rw [if_pos h1]
  rw [if_neg h1] at h ⊢
  split_ifs at h ⊢
  · rfl
  · exact barrierRecord_incomplete h
  · rfl
  · exact barrierRecord_incomplete h

theorem arrivalAccepted_iff {participants : Option TileGroup} :
    ArrivalAccepted f host tile participants ↔ (f.barrierArrive host tile participants).2.1 = .ok := by
  unfold ArrivalAccepted Fabric.barrierArrive
  by_cases ht : f.validTile tile = true
  swap
  · rw [if_pos ht]
    exact iff_of_false (fun h => ht (Fabric.validTile_iff.mpr h.1)) fun h => by cases h
  rw [if_neg (not_not.mpr ht), and_iff_right (Fabric.validTile_iff.mp ht)]
  cases ha : f.barrierActive with
  | true =>
    simp only [if_true, Bool.true_eq_false, if_false]
    cases hm : f.participantSetMatches host participants with
    | true =>
      simp only [true_and, Bool.true_eq_false, if_false]
      exact barrierRecord_ok_iff.symm
    | false => simp
  | false =>
    simp only [Bool.false_eq_true, if_false, if_true]
    cases hv : (f.participantSetValid participants).2 with
    | true =>
      simp only [true_and, Bool.true_eq_false, if_false]
      refine Iff.trans ?_ barrierRecord_ok_iff.symm
      exact (and_iff_left rfl).symm
    | false => simp

/-- The empty list the daemon makes of a null one is refused as that is. -/
theorem barrierArrive_nil (f : Fabric) (host : Host) (tile : ℕ) (group : TileGroup) (h : group.tiles = []) :
    f.barrierArrive host tile (some group) = f.barrierArrive host tile none := by
  have hvalid : f.participantSetValid (some group) = f.participantSetValid none := by
    unfold Fabric.participantSetValid
    simp only
    rw [if_pos (by rw [h]; rfl)]
  have hmatch : f.participantSetMatches host (some group) = f.participantSetMatches host none := by
    unfold Fabric.participantSetMatches
    rw [hvalid]
  have hn : (f.participantSetValid none).2 = false := rfl
  unfold Fabric.barrierArrive
  rw [hvalid, hmatch]
  simp only
  rw [if_pos hn, if_pos hn]

/-- What the client answers to an arrival. -/
theorem remote_barrier {participants : TileArg} {tiles : ℕ → ℕ} (fits : participants.count ≤ maxGroupTiles)
    (htiles : requestTiles participants = some tiles) (outComplete : Option ℤ) {r : Fabric × Status × Bool}
    (hr : d.fabric.barrierArrive host tile (some (tileGroup tiles (uint32 participants.count))) = r) :
    clientFabricBarrierArrive d host tile participants outComplete =
      some ({ d with fabric := r.1 },
        { status := r.2.1
          complete := if r.2.1 = .ok then outComplete.map fun _ => if r.2.2 then 1 else 0 else outComplete }) := by
  unfold clientFabricBarrierArrive
  rw [if_neg (not_lt.mpr fits), htiles, ← hr]
  rfl

theorem barrier_transparent_iff {participants : TileArg} (fits : participants.count ≤ maxGroupTiles)
    (outComplete : Option ℤ) :
    performFabricRemote host d (.barrierArrive host tile participants outComplete fits) =
        some (performFabric d (.barrierArrive host tile participants outComplete fits)) ↔
      Transparent d (.barrierArrive host tile participants outComplete fits) := by
  show clientFabricBarrierArrive d host tile participants outComplete = some _ ↔ _
  have hanswer : ∀ r : Fabric × Status × Bool, d.fabric.barrierArrive host tile participants.group = r →
      ((({ status := r.2.1
           complete := if r.2.1 = .ok then outComplete.map fun _ => if r.2.2 then 1 else 0 else outComplete } : Reply) =
        { status := r.2.1, complete := outComplete.map fun _ => if r.2.2 then 1 else 0 }) ↔
      (outComplete = none ∨ outComplete = some 0 ∨ ArrivalAccepted d.fabric host tile participants.group)) := by
    rintro r rfl
    rw [arrivalAccepted_iff]
    by_cases hok : (d.fabric.barrierArrive host tile participants.group).2.1 = .ok
    · rw [if_pos hok]
      exact iff_of_true rfl (Or.inr (Or.inr hok))
    · rw [if_neg hok, barrierArrive_incomplete hok, Reply.mk.injEq]
      cases outComplete with
      | none => simp
      | some complete =>
        simp only [Option.map_some, Option.some.injEq, Bool.false_eq_true, if_false, and_true, true_and, reduceCtorEq,
          false_or, hok, or_false]
  cases participants with
  | list group =>
    have htiles : tileGroup (fun i => group.tiles.getD i 0) (uint32 group.tiles.length) = group :=
      tileGroup_list group fits
    rw [remote_barrier fits rfl outComplete (congrArg (fun g => d.fabric.barrierArrive host tile (some g)) htiles)]
    refine reply_eq_iff.trans ?_
    refine Iff.trans (and_iff_right rfl) ((hanswer _ rfl).trans (and_iff_right ?_).symm)
    intro count h
    cases h
  | null count =>
    cases count with
    | succ count =>
      refine iff_of_false ?_ fun h => h.1 count rfl
      unfold clientFabricBarrierArrive
      rw [if_neg (not_lt.mpr fits)]
      intro h
      cases h
    | zero =>
      rw [remote_barrier fits rfl outComplete (barrierArrive_nil d.fabric host tile _ rfl)]
      refine reply_eq_iff.trans ?_
      refine Iff.trans (and_iff_right rfl) ((hanswer _ rfl).trans (and_iff_right ?_).symm)
      intro count h
      exact absurd (TileArg.null.inj h) (Nat.succ_ne_zero count).symm

/-! ### Runs -/

theorem perform_transparent_iff (hd : Carries config d.fabric) (hfits : config.queueCapacity ≤ sizeMax)
    (hcount : config.tileCount ≤ uint32Max) (op : FabricOp) :
    performFabricRemote host d op = some (performFabric d op) ↔ Transparent d op := by
  rw [← hd.config_eq] at hfits hcount
  cases op with
  | send source target type payload payloadBytes tag fits => exact send_transparent_iff fits
  | broadcast source group type payload payloadBytes tag fits groupFits =>
    exact broadcast_transparent_iff hfits hcount fits groupFits
  | receive tile outPacket outPayload capacity outPayloadBytes =>
    exact receive_transparent_iff hd outPacket outPayload capacity outPayloadBytes
  | barrierArrive host tile participants outComplete fits => exact barrier_transparent_iff fits outComplete

theorem create_carries {host' : Host} (h : Fabric.create host' config = .ok f) : Carries config f := by
  obtain ⟨hconf, -, -, hq⟩ := Fabric.create_ok h
  refine ⟨hconf, fun tile slot => ?_⟩
  rw [(hq tile).2.2 slot]
  exact Nat.zero_le _

def FabricInv (config : FabricBusConfig) (d : Inproc) : Prop := Carries config d.fabric

/-- **Fabric calls through the socket.**  Whatever the calls, the daemon's fabric and all it answers stay those of
the direct calls exactly as long as the calls are transparent. -/
theorem fabric_refinement_iff {host' : Host} {f₀ : Fabric} {kv : KvMmu UInt32}
    {es : List (Exchange FabricOp Reply)} {t : Inproc × Inproc} (hc : Fabric.create host' config = .ok f₀)
    (hr : Run (Lockstep performFabric (performFabricRemote host)) (⟨f₀, kv⟩, ⟨f₀, kv⟩) es t) :
    Lawful (Lockstep performFabric (performFabricRemote host)) (⟨f₀, kv⟩, ⟨f₀, kv⟩) Agreement es ↔
      Guarded (Lockstep performFabric (performFabricRemote host)) (⟨f₀, kv⟩, ⟨f₀, kv⟩)
        (fun p e => Transparent p.1 e.call) es := by
  obtain ⟨-, hvalid, hpackets, -⟩ := Fabric.create_ok hc
  have hcount := (Fabric.configValid_bounds hvalid).2.2.2.1
  have hfits : config.queueCapacity ≤ sizeMax :=
    (Nat.le_mul_of_pos_right _ (by decide : 0 < Fabric.packetSize)).trans hpackets
  have h0 : FabricInv config ⟨f₀, kv⟩ := create_carries hc
  apply agreement_iff h0
  · intro d op hd
    exact carries_perform hd op
  · intro d op hd
    exact perform_transparent_iff hd hfits hcount op
  · exact hr

/-- Tile 0 sends three bytes to tile 1. -/
def greeting : FabricOp :=
  .broadcast 0 (.list ⟨[0, 1], by decide⟩) .activation (some fun i => UInt8.ofNat (7 + i)) 3 5 (by decide) (by decide)

/-- Tile 1 takes them. -/
def taking : FabricOp := .receive 1 (some ⟨.activation, 0, 0, 0, 0⟩) (some fun _ => 0) 4 (some 0)

/-- Tile 1 waits for tile 0. -/
def waiting : FabricOp := .barrierArrive .generous 1 (.list ⟨[0, 1], by decide⟩) (some 1) (by decide)

theorem conversation_carried : ∃ f₀ kv₀ es t, Fabric.create .generous ⟨2, 1, 4⟩ = .ok f₀ ∧
    KvMmu.create .generous ⟨1, 1, 1, 1, 1, 1, 1⟩ = .ok kv₀ ∧
    Run (Lockstep performFabric (performFabricRemote .generous)) (⟨f₀, kv₀⟩, ⟨f₀, kv₀⟩) es t ∧
    es.map Exchange.call = [greeting, taking, waiting] ∧
    Lawful (Lockstep performFabric (performFabricRemote .generous)) (⟨f₀, kv₀⟩, ⟨f₀, kv₀⟩) Agreement es := by
  have hrun : ∃ f₀ kv₀, Fabric.create .generous ⟨2, 1, 4⟩ = .ok f₀ ∧
      KvMmu.create .generous ⟨1, 1, 1, 1, 1, 1, 1⟩ = .ok kv₀ ∧ ∃ es t,
      Run (fun s e t => Lockstep performFabric (performFabricRemote .generous) s e t ∧ Transparent s.1 e.call)
        (⟨f₀, kv₀⟩, ⟨f₀, kv₀⟩) es t ∧ es.map Exchange.call = [greeting, taking, waiting] := by
    refine ⟨_, _, rfl, rfl, _, _, Run.cons ⟨lockstep_exchange _ _ _ greeting, ?_⟩ <|
      Run.cons ⟨lockstep_exchange _ _ _ taking, ?_⟩ <| Run.cons ⟨lockstep_exchange _ _ _ waiting, ?_⟩ Run.nil, rfl⟩
    · refine ⟨fun _ h => TileArg.noConfusion h, fun _ _ => ⟨fun h => ?_, fun h => TileArg.noConfusion h⟩⟩
      cases h
    · exact ⟨Option.some_ne_none _, fun h => absurd h (Option.some_ne_none _)⟩
    · exact ⟨fun _ h => TileArg.noConfusion h, Or.inr (Or.inr (arrivalAccepted_iff.mpr rfl))⟩
  obtain ⟨f₀, kv₀, hc, hk, es, t, hr, hcalls⟩ := hrun
  obtain ⟨hr, hg⟩ := hr.guarded (lockstep_deterministic _ _)
  exact ⟨f₀, kv₀, es, t, hc, hk, hr, hcalls, (fabric_refinement_iff hc hr).mpr hg⟩

/-- A broadcast of tile 0 to all other tiles. -/
def broadcastToAll : FabricOp := .broadcast 0 (.null 0) .activation none 0 5 (by decide) (by decide)

/-- The daemon takes the null list for an empty one. -/
theorem null_group_reaches_nobody : ∃ f₀ kv₀ es t, Fabric.create .generous ⟨2, 1, 4⟩ = .ok f₀ ∧
    KvMmu.create .generous ⟨1, 1, 1, 1, 1, 1, 1⟩ = .ok kv₀ ∧
    Run (Lockstep performFabric (performFabricRemote .generous)) (⟨f₀, kv₀⟩, ⟨f₀, kv₀⟩) es t ∧
    es.map Exchange.call = [broadcastToAll] ∧
    (t.1.fabric.queues 1).count = 1 ∧ (t.2.fabric.queues 1).count = 0 ∧ ¬ Agreement es t := by
  refine ⟨_, _, _, _, rfl, rfl, Run.cons (lockstep_exchange _ _ _ broadcastToAll) Run.nil, rfl, rfl, rfl, ?_⟩
  rintro ⟨heq, -⟩
  have hcount := congrArg (fun d : Inproc => (d.fabric.queues 1).count) heq
  cases hcount

end Att1.Endpoint
