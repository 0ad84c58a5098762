import Att1.Fabric.Model
import Att1.Lib.Ring

/-!
# Att1.Fabric.Queue — the queues of the fabric as lists of messages

* `pending f tile`: the messages in a tile's queue, oldest first, each a header with its payload bytes.
* `WellFormed f`: heads and counts are in range, no stored payload length exceeds a slot, and no index
  computation wraps.
* one lemma for each operation says what it does to `pending`: `send_ok`, `receive_ok`, `broadcast_ok`; all other
  outcomes change nothing but counters (`SameQueues`).
-/

open Att1.Lib

namespace Att1.Fabric

/-- The message in a slot of a tile's queue. -/
def message (f : Fabric) (tile slot : ℕ) : Delivery :=
  let packet := (f.queues tile).packets slot
  { packet := packet, payload := readBlock f.payloadStorage (f.slotPayload tile slot) packet.payloadBytes }

/-- The messages in a tile's queue, oldest first. -/
def pending (f : Fabric) (tile : ℕ) : List Delivery :=
  window (f.message tile) f.config.queueCapacity (f.queues tile).head (f.queues tile).count

/-- The message a send of these arguments stands for. -/
def sentMessage (source target : ℕ) (type : PacketType) (payload : Option (ℕ → UInt8))
    (payloadBytes tag : ℕ) : Delivery where
  packet :=
    { type := type, sourceTile := source, targetTile := target, payloadBytes := payloadBytes, tag := tag }
  payload :=
    match payload with
    | some bytes => readBlock bytes 0 payloadBytes
    | none => []

/-- The invariant of the queues and their storage. -/
structure WellFormed (f : Fabric) : Prop where
  capacity_pos : 0 < f.config.queueCapacity
  payload_pos : 0 < f.config.maxPayloadBytes
  payload_le : f.config.maxPayloadBytes ≤ uint32Max
  tileCount_le : f.config.tileCount ≤ uint32Max
  packets_fit : f.config.queueCapacity * packetSize ≤ sizeMax
  storage_fits : f.config.tileCount * f.config.queueCapacity * f.config.maxPayloadBytes ≤ sizeMax
  head_lt : ∀ tile < f.config.tileCount, (f.queues tile).head < f.config.queueCapacity
  count_le : ∀ tile < f.config.tileCount, (f.queues tile).count ≤ f.config.queueCapacity
  packet_le : ∀ tile < f.config.tileCount, ∀ slot < f.config.queueCapacity,
    ((f.queues tile).packets slot).payloadBytes ≤ f.config.maxPayloadBytes

/-- Nothing but counters and the barrier differs. -/
structure SameQueues (f g : Fabric) : Prop where
  config : g.config = f.config
  queues : g.queues = f.queues
  storage : g.payloadStorage = f.payloadStorage

variable {f g : Fabric} {tile source target payloadBytes tag : ℕ} {type : PacketType}
  {payload : Option (ℕ → UInt8)}

@[simp] theorem length_pending (f : Fabric) (tile : ℕ) : (f.pending tile).length = (f.queues tile).count := by
  simp [pending]

theorem validTile_iff : f.validTile tile = true ↔ tile < f.config.tileCount := by
  simp [validTile]

theorem queueHasRoom_iff :
    f.queueHasRoom tile = true ↔ (f.queues tile).count < f.config.queueCapacity := by
  simp [queueHasRoom]

theorem payloadValid_iff : f.payloadValid payload payloadBytes = true ↔
    payloadBytes ≤ f.config.maxPayloadBytes ∧ (0 < payloadBytes → payload.isSome) := by
  cases payload <;> simp [payloadValid]

/-! ### What only touches counters -/

theorem SameQueues.refl (f : Fabric) : SameQueues f f := ⟨rfl, rfl, rfl⟩

theorem SameQueues.trans {h : Fabric} (h1 : SameQueues f g) (h2 : SameQueues g h) : SameQueues f h :=
  ⟨h2.config.trans h1.config, h2.queues.trans h1.queues, h2.storage.trans h1.storage⟩

theorem sameQueues_countInvalid (f : Fabric) : SameQueues f f.countInvalid := ⟨rfl, rfl, rfl⟩

theorem sameQueues_countQueueFull (f : Fabric) : SameQueues f f.countQueueFull := ⟨rfl, rfl, rfl⟩

theorem sameQueues_countEmpty (f : Fabric) : SameQueues f f.countEmpty := ⟨rfl, rfl, rfl⟩

theorem sameQueues_countBroadcast (r : Fabric × ℕ) : SameQueues r.1 (countBroadcast r) := ⟨rfl, rfl, rfl⟩

theorem SameQueues.message_eq (h : SameQueues f g) (tile slot : ℕ) : g.message tile slot = f.message tile slot := by
  unfold message slotPayload
  rw [h.config, h.queues, h.storage]

theorem SameQueues.pending_eq (h : SameQueues f g) (tile : ℕ) : g.pending tile = f.pending tile := by
  unfold pending
  rw [h.config, h.queues, funext (h.message_eq tile)]

theorem SameQueues.wellFormed (h : SameQueues f g) (hf : WellFormed f) : WellFormed g := by
  obtain ⟨h1, h2, -⟩ := h
  constructor <;> rw [h1] <;> try rw [h2]
  exacts [hf.capacity_pos, hf.payload_pos, hf.payload_le, hf.tileCount_le, hf.packets_fit, hf.storage_fits,
    hf.head_lt, hf.count_le, hf.packet_le]

/-! ### Creation -/

theorem configValid_bounds {config : FabricBusConfig} (h : configValid config = true) :
    0 < config.queueCapacity ∧ 0 < config.maxPayloadBytes ∧ config.maxPayloadBytes ≤ uint32Max ∧
      config.tileCount ≤ uint32Max ∧
      config.tileCount * config.queueCapacity * config.maxPayloadBytes ≤ sizeMax := by
  unfold configValid at h
  split_ifs at h with h1 h2 h3
  cases hs : mulSize config.tileCount config.queueCapacity with
  | none => simp [hs] at h
  | some slots =>
    cases hp : mulSize slots config.maxPayloadBytes with
    | none => simp [hs, hp] at h
    | some bytes =>
      obtain ⟨rfl, -⟩ := mulSize_eq_some.mp hs
      obtain ⟨-, hle⟩ := mulSize_eq_some.mp hp
      refine ⟨by omega, by omega, by omega, by omega, hle⟩

/-- A created fabric has the configuration it was asked for, empty queues and no counts. -/
theorem create_eq {host : Host} {config : FabricBusConfig} (h : create host config = .ok f) :
    configValid config = true ∧ config.queueCapacity * packetSize ≤ sizeMax ∧
      f =
        { config := config
          counters := {}
          queues := fun _ => { head := 0, count := 0, packets := fun _ => ⟨.activation, 0, 0, 0, 0⟩ }
          payloadStorage := fun _ => 0
          barrierExpected := fun _ => false
          barrierArrived := fun _ => false
          barrierExpectedCount := 0
          barrierActive := false } := by
  unfold create at h
  cases hs : mulSize config.tileCount config.queueCapacity with
  | none =>
    rw [hs] at h
    split_ifs at h
  | some slots =>
    cases hp : mulSize slots config.maxPayloadBytes with
    | none =>
      simp only [hs, hp] at h
      split_ifs at h
    | some bytes =>
      simp only [hs, hp] at h
      split_ifs at h with h1 h2 h3 h4
      injection h with h
      exact ⟨by simpa using h1, host.calloc_fits _ _ (by simpa using h4), h.symm⟩

theorem create_ok {host : Host} {config : FabricBusConfig} (h : create host config = .ok f) :
    f.config = config ∧ configValid config = true ∧ config.queueCapacity * packetSize ≤ sizeMax ∧
      ∀ tile, (f.queues tile).head = 0 ∧ (f.queues tile).count = 0 ∧
        ∀ slot, ((f.queues tile).packets slot).payloadBytes = 0 := by
  obtain ⟨hvalid, hfit, rfl⟩ := create_eq h
  exact ⟨rfl, hvalid, hfit, fun _ => ⟨rfl, rfl, fun _ => rfl⟩⟩

theorem create_wellFormed {host : Host} {config : FabricBusConfig} (h : create host config = .ok f) :
    WellFormed f := by
  obtain ⟨rfl, hv, hfit, hq⟩ := create_ok h
  obtain ⟨h1, h2, h3, h4, h5⟩ := configValid_bounds hv
  refine ⟨h1, h2, h3, h4, hfit, h5, fun tile _ => ?_, fun tile _ => ?_, fun tile _ slot _ => ?_⟩
  · rw [(hq tile).1]; exact h1
  · rw [(hq tile).2.1]; exact Nat.zero_le _
  · rw [(hq tile).2.2]; exact Nat.zero_le _

theorem create_pending {host : Host} {config : FabricBusConfig} (h : create host config = .ok f)
    (tile : ℕ) : f.pending tile = [] := by
  rw [← List.length_eq_zero_iff, length_pending, ((create_ok h).2.2.2 tile).2.1]

/-! ### Slots -/

section Slots

variable (hf : WellFormed f)

include hf

theorem WellFormed.capacity_le : f.config.queueCapacity ≤ sizeMax / packetSize :=
  (Nat.le_div_iff_mul_le (by decide)).mpr hf.packets_fit

/-- No slot address wraps. -/
theorem WellFormed.slotPayload_eq (ht : tile < f.config.tileCount) {slot : ℕ}
    (hs : slot < f.config.queueCapacity) :
    f.slotPayload tile slot = (tile * f.config.queueCapacity + slot) * f.config.maxPayloadBytes := by
  have hflat : tile * f.config.queueCapacity + slot < f.config.tileCount * f.config.queueCapacity :=
    calc tile * f.config.queueCapacity + slot
        < tile * f.config.queueCapacity + f.config.queueCapacity := by omega
      _ = (tile + 1) * f.config.queueCapacity := (Nat.succ_mul _ _).symm
      _ ≤ f.config.tileCount * f.config.queueCapacity := Nat.mul_le_mul_right _ ht
  have hprod : (tile * f.config.queueCapacity + slot) * f.config.maxPayloadBytes ≤ sizeMax :=
    (Nat.mul_le_mul_right _ hflat.le).trans hf.storage_fits
  have hsum : tile * f.config.queueCapacity + slot ≤ sizeMax :=
    (Nat.le_mul_of_pos_right _ hf.payload_pos).trans hprod
  unfold slotPayload
  rw [sizeT_eq (n := tile * f.config.queueCapacity) (by omega), sizeT_eq hsum, sizeT_eq hprod]

/-- Distinct slots have disjoint payload blocks. -/
theorem WellFormed.slotPayload_disjoint {tile' slot slot' : ℕ} (ht : tile < f.config.tileCount)
    (ht' : tile' < f.config.tileCount) (hs : slot < f.config.queueCapacity)
    (hs' : slot' < f.config.queueCapacity) (hne : tile ≠ tile' ∨ slot ≠ slot') :
    f.slotPayload tile slot + f.config.maxPayloadBytes ≤ f.slotPayload tile' slot' ∨
      f.slotPayload tile' slot' + f.config.maxPayloadBytes ≤ f.slotPayload tile slot := by
  rw [hf.slotPayload_eq ht hs, hf.slotPayload_eq ht' hs']
  refine slot_disjoint _ fun heq => ?_
  rcases eq_or_ne tile tile' with rfl | htile
  · rcases hne with h | h
    · exact h rfl
    · exact h (by omega)
  · rcases slot_disjoint f.config.queueCapacity htile with h | h <;> omega

end Slots

/-! ### Enqueueing -/

section Enqueue

/-- The slot behind the newest message of a queue. -/
def tailSlot (f : Fabric) (tile : ℕ) : ℕ :=
  ((f.queues tile).head + (f.queues tile).count) % f.config.queueCapacity

@[simp] theorem enqueue_config : (f.enqueue source target type payload payloadBytes tag).config = f.config := rfl

@[simp] theorem enqueue_slotPayload (slot : ℕ) :
    (f.enqueue source target type payload payloadBytes tag).slotPayload tile slot = f.slotPayload tile slot :=
  rfl

theorem enqueue_queues_of_ne (h : tile ≠ target) :
    (f.enqueue source target type payload payloadBytes tag).queues tile = f.queues tile :=
  Function.update_of_ne h _ _

@[simp] theorem enqueue_head :
    ((f.enqueue source target type payload payloadBytes tag).queues tile).head = (f.queues tile).head := by
  by_cases h : tile = target
  · subst h
    simp [enqueue]
  · rw [enqueue_queues_of_ne h]

theorem enqueue_count : ((f.enqueue source target type payload payloadBytes tag).queues target).count =
    sizeT ((f.queues target).count + 1) := by
  simp [enqueue]

variable (hf : WellFormed f) (ht : target < f.config.tileCount)
  (hpay : f.payloadValid payload payloadBytes = true)

include hf

theorem tailSlot_lt (tile : ℕ) : f.tailSlot tile < f.config.queueCapacity := Nat.mod_lt _ hf.capacity_pos

include ht

theorem sizeT_tail : sizeT ((f.queues target).head + (f.queues target).count) =
    (f.queues target).head + (f.queues target).count := by
  have h1 := hf.head_lt target ht
  have h2 := hf.count_le target ht
  have h3 := hf.packets_fit
  unfold packetSize at h3
  exact sizeT_eq (by omega)

theorem enqueue_packets : ((f.enqueue source target type payload payloadBytes tag).queues target).packets =
    Function.update (f.queues target).packets (f.tailSlot target)
      { type := type, sourceTile := source, targetTile := target
        payloadBytes := uint32 payloadBytes, tag := tag } := by
  simp [enqueue, tailSlot, sizeT_tail hf ht]

/-- The count of the target's queue after an enqueue into it: it cannot wrap. -/
theorem enqueue_count_eq : ((f.enqueue source target type payload payloadBytes tag).queues target).count =
    (f.queues target).count + 1 := by
  have h2 := hf.count_le target ht
  have h3 := hf.packets_fit
  unfold packetSize at h3
  rw [enqueue_count, sizeT_eq (by unfold sizeMax at *; omega)]

include hpay

/-- The payload is stored in the block of the slot. -/
theorem readBlock_enqueue_self :
    readBlock (f.enqueue source target type payload payloadBytes tag).payloadStorage
        (f.slotPayload target (f.tailSlot target)) payloadBytes =
      (sentMessage source target type payload payloadBytes tag).payload := by
  obtain ⟨-, hsome⟩ := payloadValid_iff.mp hpay
  rcases Nat.eq_zero_or_pos payloadBytes with rfl | hpos
  · cases payload <;> simp [sentMessage]
  · obtain ⟨bytes, rfl⟩ := Option.isSome_iff_exists.mp (hsome hpos)
    simp only [enqueue, if_pos hpos, sentMessage, tailSlot, sizeT_tail hf ht]
    exact readBlock_copyInto_self _ _ _ _ _

/-- Blocks of other slots keep their bytes. -/
theorem readBlock_enqueue_of_disjoint {off len : ℕ}
    (hd : off + len ≤ f.slotPayload target (f.tailSlot target) ∨
      f.slotPayload target (f.tailSlot target) + f.config.maxPayloadBytes ≤ off) :
    readBlock (f.enqueue source target type payload payloadBytes tag).payloadStorage off len =
      readBlock f.payloadStorage off len := by
  have hle := (payloadValid_iff.mp hpay).1
  cases payload with
  | none => rfl
  | some bytes =>
    simp only [enqueue, sizeT_tail hf ht]
    split_ifs with hpos
    · refine readBlock_copyInto_of_disjoint _ _ _ _ _ ?_
      rcases hd with h | h
      · exact Or.inl h
      · exact Or.inr (by unfold tailSlot at h; omega)
    · rfl

/-- An enqueue writes the sent message into the slot behind the newest one and leaves every other message
alone. -/
theorem message_enqueue (htile : tile < f.config.tileCount) {slot : ℕ} (hs : slot < f.config.queueCapacity) :
    (f.enqueue source target type payload payloadBytes tag).message tile slot =
      if tile = target ∧ slot = f.tailSlot target then
        sentMessage source target type payload payloadBytes tag
      else f.message tile slot := by
  have hle := (payloadValid_iff.mp hpay).1
  have hcap := hf.payload_le
  have hlen : uint32 payloadBytes = payloadBytes := uint32_eq (hle.trans hcap)
  split_ifs with h
  · obtain ⟨rfl, rfl⟩ := h
    unfold message
    rw [enqueue_packets hf ht, Function.update_self, enqueue_slotPayload, hlen]
    simp only [readBlock_enqueue_self hf ht hpay]
    rfl
  · have hne : tile ≠ target ∨ slot ≠ f.tailSlot target := not_and_or.mp h
    have hpacket : ((f.enqueue source target type payload payloadBytes tag).queues tile).packets slot =
        (f.queues tile).packets slot := by
      by_cases htt : tile = target
      · subst htt
        rw [enqueue_packets hf ht, Function.update_of_ne (hne.resolve_left (by simp))]
      · rw [enqueue_queues_of_ne htt]
    have hstored := hf.packet_le tile htile slot hs
    have hd := hf.slotPayload_disjoint htile ht hs (tailSlot_lt hf target) hne
    unfold message
    simp only [hpacket, enqueue_slotPayload]
    rw [readBlock_enqueue_of_disjoint hf ht hpay (by omega)]

/-- **One enqueue** into a queue with room appends the sent message there and changes no other queue. -/
theorem pending_enqueue (hroom : (f.queues target).count < f.config.queueCapacity)
    (htile : tile < f.config.tileCount) :
    (f.enqueue source target type payload payloadBytes tag).pending tile =
      f.pending tile ++
        if tile = target then [sentMessage source target type payload payloadBytes tag] else [] := by
  unfold pending
  rw [enqueue_head, enqueue_config]
  split_ifs with h
  · subst h
    rw [enqueue_count_eq hf ht, ← window_push _ _ hroom]
    refine window_congr_slots hf.capacity_pos (fun slot hs => ?_) _ _
    rw [message_enqueue hf ht hpay ht hs]
    by_cases hslot : slot = f.tailSlot tile
    · rw [if_pos ⟨rfl, hslot⟩, hslot]
      exact (Function.update_self (f.tailSlot tile) _ (f.message tile)).symm
    · rw [if_neg (fun hc => hslot hc.2)]
      exact (Function.update_of_ne hslot _ (f.message tile)).symm
  · rw [List.append_nil, enqueue_queues_of_ne h]
    refine window_congr_slots hf.capacity_pos (fun slot hs => ?_) _ _
    rw [message_enqueue hf ht hpay htile hs, if_neg (fun hc => h hc.1)]

theorem enqueue_wellFormed (hroom : (f.queues target).count < f.config.queueCapacity) :
    WellFormed (f.enqueue source target type payload payloadBytes tag) := by
  refine ⟨hf.capacity_pos, hf.payload_pos, hf.payload_le, hf.tileCount_le, hf.packets_fit, hf.storage_fits,
    fun tile htile => ?_, fun tile htile => ?_, fun tile htile slot hs => ?_⟩
  · rw [enqueue_head]
    exact hf.head_lt tile htile
  · by_cases h : tile = target
    · subst h
      rw [enqueue_count_eq hf ht]
      exact hroom
    · rw [enqueue_queues_of_ne h]
      exact hf.count_le tile htile
  · show ((f.enqueue source target type payload payloadBytes tag).message tile slot).packet.payloadBytes ≤ _
    rw [message_enqueue hf ht hpay htile hs]
    split_ifs
    · exact (payloadValid_iff.mp hpay).1
    · exact hf.packet_le tile htile slot hs

end Enqueue

/-! ### Send -/

/-- A send is either let through and enqueues, or it changes only counters. -/
theorem send_cases (f : Fabric) (source target : ℕ) (type : PacketType) (payload : Option (ℕ → UInt8))
    (payloadBytes tag : ℕ) :
    (f.send source target type payload payloadBytes tag =
        (f.enqueue source target type payload payloadBytes tag, .ok) ∧
      source < f.config.tileCount ∧ target < f.config.tileCount ∧
      f.payloadValid payload payloadBytes = true ∧ (f.queues target).count < f.config.queueCapacity) ∨
    (SameQueues f (f.send source target type payload payloadBytes tag).1 ∧
      (f.send source target type payload payloadBytes tag).2 ≠ .ok) := by
  unfold send
  split_ifs with h1 h2 h3
  · obtain ⟨hs, ht⟩ := h1
    exact Or.inl ⟨rfl, validTile_iff.mp hs, validTile_iff.mp ht, h2, queueHasRoom_iff.mp h3⟩
  · exact Or.inr ⟨sameQueues_countQueueFull f, by simp⟩
  · exact Or.inr ⟨sameQueues_countInvalid f, by simp⟩
  · exact Or.inr ⟨sameQueues_countInvalid f, by simp⟩

/-- A send into a queue with room appends the message. -/
theorem send_ok (hf : WellFormed f) (hs : source < f.config.tileCount) (ht : target < f.config.tileCount)
    (hpay : f.payloadValid payload payloadBytes = true)
    (hroom : (f.queues target).count < f.config.queueCapacity) :
    (f.send source target type payload payloadBytes tag).2 = .ok ∧
      WellFormed (f.send source target type payload payloadBytes tag).1 ∧
      (f.send source target type payload payloadBytes tag).1.config = f.config ∧
      ∀ tile < f.config.tileCount,
        (f.send source target type payload payloadBytes tag).1.pending tile =
          f.pending tile ++
            if tile = target then [sentMessage source target type payload payloadBytes tag] else [] := by
  have hsend : f.send source target type payload payloadBytes tag =
      (f.enqueue source target type payload payloadBytes tag, .ok) := by
    unfold send
    rw [if_neg (by simp [validTile_iff.mpr hs, validTile_iff.mpr ht]), if_neg (by simp [hpay]),
      if_neg (by simp [queueHasRoom_iff.mpr hroom])]
  rw [hsend]
  exact ⟨rfl, enqueue_wellFormed hf ht hpay hroom, rfl, fun tile htile => pending_enqueue hf ht hpay hroom htile⟩

/-! ### Receive -/

section Receive

variable {outPacket outPayload : Bool} {outPayloadCapacity : ℕ}

/-- What a call that returned `r` did to the queues, `tile` being the queue it reads: either it took the oldest
message out, or it changed only counters. -/
def Received (f : Fabric) (tile : ℕ) (r : Fabric × Status × Option Delivery) : Prop :=
  (∃ m rest, tile < f.config.tileCount ∧ f.pending tile = m :: rest ∧ r.2 = (.ok, some m) ∧
      WellFormed r.1 ∧ r.1.config = f.config ∧ r.1.pending tile = rest ∧
      ∀ tile', tile' ≠ tile → r.1.pending tile' = f.pending tile') ∨
    (SameQueues f r.1 ∧ r.2.1 ≠ .ok ∧ r.2.2 = none)

theorem pending_cons (hf : WellFormed f) (ht : tile < f.config.tileCount) (hc : (f.queues tile).count ≠ 0) :
    f.pending tile = f.message tile (f.queues tile).head ::
      window (f.message tile) f.config.queueCapacity ((f.queues tile).head + 1)
        ((f.queues tile).count - 1) := by
  obtain ⟨n, hn⟩ := Nat.exists_eq_succ_of_ne_zero hc
  unfold pending
  rw [hn, Nat.succ_eq_add_one, window_pop, Nat.mod_eq_of_lt (hf.head_lt tile ht), Nat.add_sub_cancel]

theorem receive_received (hf : WellFormed f) (tile : ℕ) (outPacket outPayload : Bool)
    (outPayloadCapacity : ℕ) :
    Received f tile (f.receive tile outPacket outPayload outPayloadCapacity) := by
  unfold receive
  split_ifs with h1 h2
  · exact Or.inr ⟨SameQueues.refl f, by simp, rfl⟩
  · simp only
    split_ifs with h3 h4
    · exact Or.inr ⟨sameQueues_countEmpty f, by simp, rfl⟩
    · exact Or.inr ⟨sameQueues_countInvalid f, by simp, rfl⟩
    · have ht : tile < f.config.tileCount := validTile_iff.mp h2
      have hhead := hf.head_lt tile ht
      have hpk := hf.packets_fit
      unfold packetSize at hpk
      have hmod : sizeT ((f.queues tile).head + 1) = (f.queues tile).head + 1 := sizeT_eq (by omega)
      refine Or.inl ⟨f.message tile (f.queues tile).head,
        window (f.message tile) f.config.queueCapacity ((f.queues tile).head + 1)
          ((f.queues tile).count - 1),
        ht, pending_cons hf ht h3, rfl, ?_, rfl, ?_, fun tile' hne => ?_⟩
      · refine ⟨hf.capacity_pos, hf.payload_pos, hf.payload_le, hf.tileCount_le, hf.packets_fit,
          hf.storage_fits, fun t htt => ?_, fun t htt => ?_, fun t htt slot hs => ?_⟩
        · rcases eq_or_ne t tile with rfl | hne
          · simp only [Function.update_self]
            exact Nat.mod_lt _ hf.capacity_pos
          · simp only [Function.update_of_ne hne]
            exact hf.head_lt t htt
        · rcases eq_or_ne t tile with rfl | hne
          · simp only [Function.update_self]
            exact (Nat.sub_le _ _).trans (hf.count_le t htt)
          · simp only [Function.update_of_ne hne]
            exact hf.count_le t htt
        · rcases eq_or_ne t tile with rfl | hne
          · simp only [Function.update_self]
            exact hf.packet_le t htt slot hs
          · simp only [Function.update_of_ne hne]
            exact hf.packet_le t htt slot hs
      · unfold pending message
        simp only [Function.update_self, hmod]
        exact window_congr (Nat.mod_mod _ _) _
      · unfold pending message
        simp only [Function.update_of_ne hne]
        rfl
  · exact Or.inr ⟨sameQueues_countInvalid f, by simp, rfl⟩

/-- A receive with both pointers and room for the oldest message returns it. -/
theorem receive_ok (hf : WellFormed f) (ht : tile < f.config.tileCount) {m : Delivery}
    {rest : List Delivery} (hm : f.pending tile = m :: rest)
    (hcap : m.packet.payloadBytes ≤ outPayloadCapacity) :
    (f.receive tile true true outPayloadCapacity).2 = (.ok, some m) := by
  have hc : (f.queues tile).count ≠ 0 := by
    intro h0
    have hlen := congrArg List.length hm
    rw [length_pending, h0] at hlen
    simp at hlen
  rw [pending_cons hf ht hc] at hm
  injection hm with hm _
  subst hm
  unfold receive
  rw [if_neg (by simp), if_neg (by simp [validTile_iff.mpr ht])]
  simp only
  rw [if_neg hc, if_neg (by rintro (h | ⟨-, h⟩); exacts [absurd hcap (not_le.mpr h), by simp at h])]
  rfl

theorem Received.of_same {r : Fabric × Status × Option Delivery} (h : SameQueues f g)
    (hr : Received g tile r) : Received f tile r := by
  rcases hr with ⟨m, rest, ht, hm, hr, hw, hc, hp, ho⟩ | ⟨hs, hr, hn⟩
  · refine Or.inl ⟨m, rest, h.config ▸ ht, (h.pending_eq tile) ▸ hm, hr, hw, hc.trans h.config, hp,
      fun tile' hne => (ho tile' hne).trans (h.pending_eq tile')⟩
  · exact Or.inr ⟨h.trans hs, hr, hn⟩

/-- Waiting reads at most one message: every tick before the last changed only counters. -/
theorem receiveTimeoutLoop_received {timeoutTicks fuel tick : ℕ} {r : Fabric × Status × Option Delivery}
    (hf : WellFormed f)
    (h : receiveTimeoutLoop tile outPacket outPayload outPayloadCapacity timeoutTicks fuel tick f = some r) :
    Received f tile r := by
  induction fuel generalizing tick f with
  | zero => simp [receiveTimeoutLoop] at h
  | succ fuel ih =>
    unfold receiveTimeoutLoop at h
    split_ifs at h with htick
    · injection h with h
      subst h
      exact Or.inr ⟨SameQueues.refl f, by simp, rfl⟩
    · have hstep := receive_received hf tile outPacket outPayload outPayloadCapacity
      simp only at h
      split_ifs at h with hempty
      · injection h with h
        exact h ▸ hstep
      · have hst : (f.receive tile outPacket outPayload outPayloadCapacity).2.1 = .queueEmpty := by
          simpa using hempty
        rcases hstep with ⟨m, rest, -, -, hok, -⟩ | ⟨hsame, -, -⟩
        · rw [hok] at hst
          cases hst
        · exact Received.of_same hsame (ih (hsame.wellFormed hf) h)

end Receive

/-! ### Broadcast -/

section Broadcast

/-- The tiles a broadcast goes through, the source among them. -/
def broadcastTiles (f : Fabric) : Option TileGroup → List ℕ
  | none => List.range f.config.tileCount
  | some group => group.tiles

/-- How many copies of the message a broadcast to `targets` means for `tile`. -/
def copies (source : ℕ) (targets : List ℕ) (tile : ℕ) : ℕ :=
  if tile = source then 0 else targets.count tile

theorem copies_cons (source target : ℕ) (rest : List ℕ) (tile : ℕ) :
    copies source (target :: rest) tile =
      copies source rest tile + if tile = target ∧ target ≠ source then 1 else 0 := by
  unfold copies
  rw [List.count_cons]
  by_cases h1 : tile = source
  · rw [if_pos h1, if_pos h1, if_neg (fun hc => hc.2 (hc.1.symm.trans h1))]
  · rw [if_neg h1, if_neg h1]
    by_cases h2 : tile = target
    · subst h2
      rw [if_pos (beq_self_eq_true tile), if_pos ⟨rfl, h1⟩]
    · rw [if_neg (fun hc => h2 (beq_iff_eq.mp hc).symm), if_neg (fun hc => h2 hc.1)]

theorem preflightGroup_ok {tiles : List ℕ} : f.preflightGroup source tiles = .ok ↔
    ∀ t ∈ tiles, t < f.config.tileCount ∧
      (t ≠ source → (f.queues t).count < f.config.queueCapacity) := by
  induction tiles with
  | nil => simp [preflightGroup]
  | cons target rest ih =>
    unfold preflightGroup
    rw [List.forall_mem_cons, ← ih, ← validTile_iff, ← queueHasRoom_iff]
    split_ifs with h1 h2
    · simp [h1, h2.1, h2.2]
    · rw [not_and_not_right] at h2
      exact ⟨fun h => ⟨⟨h1, h2⟩, h⟩, fun h => h.2⟩
    · simp [h1]

theorem preflightAll_ok {tiles : List ℕ} (htiles : ∀ t ∈ tiles, t ≤ uint32Max) :
    f.preflightAll source tiles = .ok ↔
      ∀ t ∈ tiles, t ≠ source → (f.queues t).count < f.config.queueCapacity := by
  induction tiles with
  | nil => simp [preflightAll]
  | cons target rest ih =>
    obtain ⟨h32, hrest⟩ := List.forall_mem_cons.mp htiles
    unfold preflightAll
    rw [List.forall_mem_cons, ← ih hrest, uint32_eq h32, ← queueHasRoom_iff]
    split_ifs with h1
    · simp [h1.1, h1.2]
    · rw [not_and_not_right] at h1
      exact ⟨fun h => ⟨h1, h⟩, fun h => h.2⟩

/-- A broadcast is either let through and enqueues in order, or it changes only counters. -/
theorem broadcast_cases (htiles : f.config.tileCount ≤ uint32Max) (source : ℕ) (group : Option TileGroup) (groupCount : ℕ)
    (type : PacketType) (payload : Option (ℕ → UInt8)) (payloadBytes tag : ℕ) :
    (f.broadcast source group groupCount type payload payloadBytes tag =
        (countBroadcast
          (enqueueAll source type payload payloadBytes tag (f.broadcastTiles group) (f, 0)), .ok) ∧
      source < f.config.tileCount ∧ f.payloadValid payload payloadBytes = true ∧
      ∀ t ∈ f.broadcastTiles group, t < f.config.tileCount ∧
        (t ≠ source → (f.queues t).count < f.config.queueCapacity)) ∨
    (SameQueues f (f.broadcast source group groupCount type payload payloadBytes tag).1 ∧
      (f.broadcast source group groupCount type payload payloadBytes tag).2 ≠ .ok) := by
  unfold broadcast
  by_cases h1 : f.validTile source = true
  swap
  · rw [if_pos h1]
    exact Or.inr ⟨sameQueues_countInvalid f, by simp⟩
  rw [if_neg (not_not.mpr h1)]
  by_cases h2 : f.payloadValid payload payloadBytes = true
  swap
  · rw [if_pos h2]
    exact Or.inr ⟨sameQueues_countInvalid f, by simp⟩
  rw [if_neg (not_not.mpr h2)]
  have hs := validTile_iff.mp h1
  cases group with
  | none =>
    by_cases h3 : groupCount ≠ 0
    · rw [if_pos h3]
      exact Or.inr ⟨sameQueues_countInvalid f, by simp⟩
    · rw [if_neg h3]
      have hrange : ∀ t ∈ List.range f.config.tileCount, t ≤ uint32Max := fun t ht =>
        (List.mem_range.mp ht).le.trans htiles
      simp only
      split
      · rename_i hpre
        have hroom := (preflightAll_ok hrange).mp hpre
        exact Or.inl ⟨rfl, hs, h2, fun t ht => ⟨List.mem_range.mp ht, hroom t ht⟩⟩
      · rename_i hne
        exact Or.inr ⟨sameQueues_countQueueFull f, hne⟩
  | some group =>
    simp only
    split
    · rename_i hpre
      exact Or.inl ⟨rfl, hs, h2, preflightGroup_ok.mp hpre⟩
    · exact Or.inr ⟨sameQueues_countQueueFull f, by simp⟩
    · rename_i hne _
      exact Or.inr ⟨sameQueues_countInvalid f, hne⟩

/-- The copies a broadcast enqueues arrive at the back of the queues, provided they all fit. -/
theorem pending_enqueueAll (source : ℕ) (type : PacketType) (tag : ℕ) (targets : List ℕ) (sent : ℕ)
    (hf : WellFormed f)
    (hpay : f.payloadValid payload payloadBytes = true)
    (htargets : ∀ t ∈ targets, t < f.config.tileCount)
    (hroom : ∀ t < f.config.tileCount,
      (f.queues t).count + copies source targets t ≤ f.config.queueCapacity) :
    WellFormed (enqueueAll source type payload payloadBytes tag targets (f, sent)).1 ∧
      (enqueueAll source type payload payloadBytes tag targets (f, sent)).1.config = f.config ∧
      ∀ tile < f.config.tileCount,
        (enqueueAll source type payload payloadBytes tag targets (f, sent)).1.pending tile =
          f.pending tile ++ List.replicate (copies source targets tile)
            (sentMessage source tile type payload payloadBytes tag) := by
  induction targets generalizing f sent with
  | nil =>
    refine ⟨hf, rfl, fun tile _ => ?_⟩
    simp [enqueueAll, copies]
  | cons target rest ih =>
    obtain ⟨ht, hrest⟩ := List.forall_mem_cons.mp htargets
    simp only [copies_cons] at hroom ⊢
    unfold enqueueAll
    by_cases hsrc : target ≠ source
    · rw [if_pos hsrc]
      have hfree : (f.queues target).count < f.config.queueCapacity := by
        have := hroom target ht
        rw [if_pos ⟨rfl, hsrc⟩] at this
        omega
      have hf' : WellFormed (f.enqueue source target type payload payloadBytes tag) :=
        enqueue_wellFormed hf ht hpay hfree
      obtain ⟨hw, hc, hp⟩ := ih (sent + 1) hf' hpay hrest (fun t htt => by
        have hle := hroom t htt
        rcases eq_or_ne t target with rfl | hne
        · rw [if_pos ⟨rfl, hsrc⟩] at hle
          rw [enqueue_count_eq hf ht, enqueue_config]
          omega
        · rw [enqueue_queues_of_ne hne, enqueue_config]
          omega)
      refine ⟨hw, hc, fun tile htile => ?_⟩
      rw [hp tile htile, pending_enqueue hf ht hpay hfree htile, List.append_assoc]
      congr 1
      by_cases hteq : tile = target
      · subst hteq
        rw [if_pos rfl, if_pos ⟨rfl, hsrc⟩, List.replicate_succ, List.singleton_append]
      · rw [if_neg hteq, if_neg (fun hc => hteq hc.1), List.nil_append, Nat.add_zero]
    · rw [if_neg hsrc]
      have hnone : ∀ t, (if t = target ∧ target ≠ source then 1 else 0) = 0 := fun t =>
        if_neg fun hc => hsrc hc.2
      simp only [hnone, Nat.add_zero] at hroom ⊢
      exact ih sent hf hpay hrest hroom

/-- The fill level a broadcast leaves, fitting or not, as long as the counter itself does not wrap. -/
theorem count_enqueueAll (targets : List ℕ) (sent : ℕ) (f : Fabric) (tile : ℕ)
    (hfit : (f.queues tile).count + copies source targets tile ≤ sizeMax) :
    ((enqueueAll source type payload payloadBytes tag targets (f, sent)).1.queues tile).count =
      (f.queues tile).count + copies source targets tile := by
  induction targets generalizing f sent with
  | nil => simp [enqueueAll, copies]
  | cons target rest ih =>
    rw [copies_cons] at hfit ⊢
    unfold enqueueAll
    by_cases hsrc : target ≠ source
    · rw [if_pos hsrc]
      by_cases hteq : tile = target
      · subst hteq
        rw [if_pos ⟨rfl, hsrc⟩] at hfit ⊢
        have hcount : ((f.enqueue source tile type payload payloadBytes tag).queues tile).count =
            (f.queues tile).count + 1 := by
          rw [enqueue_count, sizeT_eq (by omega)]
        rw [ih _ _ (by omega), hcount]
        omega
      · rw [if_neg (fun hc => hteq hc.1)] at hfit ⊢
        rw [ih _ _ (by rw [enqueue_queues_of_ne hteq]; omega), enqueue_queues_of_ne hteq, Nat.add_zero]
    · have hnone : (if tile = target ∧ target ≠ source then 1 else 0) = 0 := if_neg fun hc => hsrc hc.2
      rw [hnone] at hfit ⊢
      rw [if_neg hsrc]
      exact ih _ _ hfit

theorem enqueueAll_config (targets : List ℕ) (sent : ℕ) (f : Fabric) :
    (enqueueAll source type payload payloadBytes tag targets (f, sent)).1.config = f.config := by
  induction targets generalizing f sent with
  | nil => rfl
  | cons target rest ih =>
    unfold enqueueAll
    rw [ih]
    split_ifs <;> rfl

end Broadcast

end Att1.Fabric
