import Att1.Fabric.Barrier

/-!
# Att1.Fabric.Broadcast — what a broadcast adds to which queues

A broadcast that repeats a tile can fill its queue past the capacity, so not every reachable fabric is `WellFormed`.

* `Sized f`: `WellFormed` without the bound on the fill levels.  Every reachable fabric is (`run_sized`).
* `clip f`: the fabric with each fill level cut at the capacity.  It is `WellFormed`, and an enqueue into a queue with
  room does the same to it (`enqueue_clip`).
* `enqueueAll_delivers`: what the second pass of a broadcast does after the first one has found room everywhere.
* `broadcast_atomic`: a broadcast delivers to every tile it addresses or to none.
-/

open Att1.Lib

namespace Att1.Fabric

variable {f g : Fabric} {tile source target payloadBytes tag : ℕ} {type : PacketType} {payload : Option (ℕ → UInt8)}

/-! ### What holds of every reachable fabric -/

/-- Heads, stored lengths and storage are in range; the fill levels may be anything. -/
structure Sized (f : Fabric) : Prop where
  capacity_pos : 0 < f.config.queueCapacity
  payload_pos : 0 < f.config.maxPayloadBytes
  payload_le : f.config.maxPayloadBytes ≤ uint32Max
  tileCount_le : f.config.tileCount ≤ uint32Max
  packets_fit : f.config.queueCapacity * packetSize ≤ sizeMax
  storage_fits : f.config.tileCount * f.config.queueCapacity * f.config.maxPayloadBytes ≤ sizeMax
  head_lt : ∀ tile < f.config.tileCount, (f.queues tile).head < f.config.queueCapacity
  packet_le : ∀ tile < f.config.tileCount, ∀ slot < f.config.queueCapacity,
    ((f.queues tile).packets slot).payloadBytes ≤ f.config.maxPayloadBytes

theorem WellFormed.sized (hf : WellFormed f) : Sized f :=
  ⟨hf.capacity_pos, hf.payload_pos, hf.payload_le, hf.tileCount_le, hf.packets_fit, hf.storage_fits, hf.head_lt,
    hf.packet_le⟩

theorem SameQueues.sized (h : SameQueues f g) (hf : Sized f) : Sized g := by
  obtain ⟨h1, h2, -⟩ := h
  constructor <;> rw [h1] <;> try rw [h2]
  exacts [hf.capacity_pos, hf.payload_pos, hf.payload_le, hf.tileCount_le, hf.packets_fit, hf.storage_fits,
    hf.head_lt, hf.packet_le]

theorem enqueue_sized (hf : Sized f) (hpay : f.payloadValid payload payloadBytes = true) :
    Sized (f.enqueue source target type payload payloadBytes tag) := by
  refine ⟨hf.capacity_pos, hf.payload_pos, hf.payload_le, hf.tileCount_le, hf.packets_fit, hf.storage_fits,
    fun tile htile => ?_, fun tile htile slot hs => ?_⟩
  · rw [enqueue_head]
    exact hf.head_lt tile htile
  · by_cases h : tile = target
    · subst h
      have hlen : uint32 payloadBytes ≤ f.config.maxPayloadBytes :=
        (Nat.mod_le _ _).trans (payloadValid_iff.mp hpay).1
      unfold enqueue
      simp only [Function.update_self, Function.update_apply]
      split_ifs
      · exact hlen
      · exact hf.packet_le tile htile slot hs
    · rw [enqueue_queues_of_ne h]
      exact hf.packet_le tile htile slot hs

theorem enqueueAll_sized (targets : List ℕ) (sent : ℕ) (hf : Sized f)
    (hpay : f.payloadValid payload payloadBytes = true) :
    Sized (enqueueAll source type payload payloadBytes tag targets (f, sent)).1 := by
  induction targets generalizing f sent with
  | nil => exact hf
  | cons target rest ih =>
    unfold enqueueAll
    split_ifs
    · exact ih _ (enqueue_sized hf hpay) hpay
    · exact ih _ hf hpay

theorem send_sized (hf : Sized f) : Sized (f.send source target type payload payloadBytes tag).1 := by
  unfold send
  split_ifs with h1 h2 h3
  · exact enqueue_sized hf h2
  · exact (sameQueues_countQueueFull f).sized hf
  · exact (sameQueues_countInvalid f).sized hf
  · exact (sameQueues_countInvalid f).sized hf

theorem broadcast_sized (hf : Sized f) (source : ℕ) (group : Option TileGroup) (groupCount : ℕ) :
    Sized (f.broadcast source group groupCount type payload payloadBytes tag).1 := by
  obtain ⟨heq, -, hpay, -⟩ | ⟨hsame, -⟩ :=
    broadcast_cases hf.tileCount_le source group groupCount type payload payloadBytes tag
  · rw [heq]
    exact (sameQueues_countBroadcast _).sized (enqueueAll_sized _ 0 hf hpay)
  · exact hsame.sized hf

theorem receive_sized (hf : Sized f) (tile : ℕ) (outPacket outPayload : Bool) (outPayloadCapacity : ℕ) :
    Sized (f.receive tile outPacket outPayload outPayloadCapacity).1 := by
  unfold receive
  simp only
  split_ifs
  · exact hf
  · exact (sameQueues_countEmpty f).sized hf
  · exact (sameQueues_countInvalid f).sized hf
  · refine ⟨hf.capacity_pos, hf.payload_pos, hf.payload_le, hf.tileCount_le, hf.packets_fit, hf.storage_fits,
      fun t ht => ?_, fun t ht slot hs => ?_⟩
    · rcases eq_or_ne t tile with rfl | hne
      · simp only [Function.update_self]
        exact Nat.mod_lt _ hf.capacity_pos
      · simp only [Function.update_of_ne hne]
        exact hf.head_lt t ht
    · rcases eq_or_ne t tile with rfl | hne
      · simp only [Function.update_self]
        exact hf.packet_le t ht slot hs
      · simp only [Function.update_of_ne hne]
        exact hf.packet_le t ht slot hs
  · exact (sameQueues_countInvalid f).sized hf

theorem receiveTimeoutLoop_sized {outPacket outPayload : Bool} {outPayloadCapacity timeoutTicks fuel tick : ℕ}
    {r : Fabric × Status × Option Delivery} (hf : Sized f)
    (h : receiveTimeoutLoop tile outPacket outPayload outPayloadCapacity timeoutTicks fuel tick f = some r) :
    Sized r.1 := by
  induction fuel generalizing tick f with
  | zero => cases h
  | succ fuel ih =>
    have hstep := receive_sized hf tile outPacket outPayload outPayloadCapacity
    unfold receiveTimeoutLoop at h
    simp only at h
    split_ifs at h
    · obtain rfl := Option.some.inj h
      exact hf
    · obtain rfl := Option.some.inj h
      exact hstep
    · exact ih hstep h

/-- An arrival at the barrier leaves the queues alone. -/
theorem sameQueues_barrierArrive (f : Fabric) (host : Host) (tile : ℕ) (participants : Option TileGroup) :
    SameQueues f (f.barrierArrive host tile participants).1 := by
  have hrecord (p : Fabric) : SameQueues p (p.barrierRecord tile).1 := by
    unfold barrierRecord
    simp only
    split_ifs <;> exact ⟨rfl, rfl, rfl⟩
  have hset : SameQueues f (f.participantSetValid participants).1 := by
    unfold participantSetValid
    split
    · exact SameQueues.refl f
    · split_ifs <;> exact ⟨rfl, rfl, rfl⟩
  unfold barrierArrive
  by_cases ht : f.validTile tile = true
  swap
  · rw [if_pos ht]
    exact sameQueues_countInvalid f
  rw [if_neg (not_not.mpr ht)]
  by_cases hact : f.barrierActive = false
  · rw [if_pos hact]
    simp only
    split_ifs
    · exact hset.trans (sameQueues_countInvalid _)
    · refine hset.trans (SameQueues.trans ?_ (hrecord _))
      exact ⟨rfl, rfl, rfl⟩
  · rw [if_neg hact]
    split_ifs
    · exact sameQueues_countInvalid f
    · exact hrecord f

theorem tileStep_sized {e : TileEvent} (hf : Sized f) (h : TileStep f e g) : Sized g := by
  cases e with
  | arrive call =>
    have hsame := sameQueues_barrierArrive f call.host call.tile call.participants
    rw [show f.barrierArrive call.host call.tile call.participants = (g, call.status, call.complete) from h] at hsame
    exact hsame.sized hf
  | queue event =>
    obtain ⟨call, status, delivery⟩ := event
    cases call with
    | send source target type payload payloadBytes tag =>
      have hsend := @send_sized f source target payloadBytes tag type payload hf
      rwa [h.1] at hsend
    | broadcast source group groupCount type payload payloadBytes tag =>
      have hcast := @broadcast_sized f payloadBytes tag type payload hf source group groupCount
      rwa [h.1] at hcast
    | receive tile outPacket outPayload outPayloadCapacity =>
      have hrecv := receive_sized hf tile outPacket outPayload outPayloadCapacity
      rwa [show f.receive tile outPacket outPayload outPayloadCapacity = (g, status, delivery) from h] at hrecv
    | receiveTimeout tile outPacket outPayload outPayloadCapacity timeoutTicks =>
      obtain ⟨fuel, hloop⟩ := h
      exact receiveTimeoutLoop_sized hf hloop

/-- Every reachable fabric is `Sized`. -/
theorem run_sized {host : Host} {config : FabricBusConfig} {f₀ : Fabric} {es : List TileEvent}
    (hc : create host config = .ok f₀) (hr : Run TileStep f₀ es f) : Sized f := by
  induction hr with
  | nil => exact (create_wellFormed hc).sized
  | snoc _ hs ih => exact tileStep_sized ih hs

/-! ### One enqueue -/

/-- The fabric with every fill level cut at the capacity. -/
def clip (f : Fabric) : Fabric :=
  { f with queues := fun t => { f.queues t with count := min (f.queues t).count f.config.queueCapacity } }

theorem clip_wellFormed (hf : Sized f) : WellFormed f.clip :=
  ⟨hf.capacity_pos, hf.payload_pos, hf.payload_le, hf.tileCount_le, hf.packets_fit, hf.storage_fits, hf.head_lt,
    fun _ _ => Nat.min_le_right _ _, hf.packet_le⟩

theorem clip_count (hroom : (f.queues target).count < f.config.queueCapacity) :
    (f.clip.queues target).count = (f.queues target).count := Nat.min_eq_left hroom.le

/-- Where there is room, the cut fabric stores the same message in the same slot. -/
theorem message_enqueue_clip (hroom : (f.queues target).count < f.config.queueCapacity) (slot : ℕ) :
    (f.enqueue source target type payload payloadBytes tag).message tile slot =
      (f.clip.enqueue source target type payload payloadBytes tag).message tile slot := by
  have hcount := clip_count hroom
  have hstorage : (f.clip.enqueue source target type payload payloadBytes tag).payloadStorage =
      (f.enqueue source target type payload payloadBytes tag).payloadStorage := by
    unfold enqueue
    simp only [hcount]
    rfl
  have hpackets : ((f.clip.enqueue source target type payload payloadBytes tag).queues tile).packets =
      ((f.enqueue source target type payload payloadBytes tag).queues tile).packets := by
    by_cases h : tile = target
    · subst h
      unfold enqueue
      simp only [Function.update_self, hcount]
      rfl
    · rw [enqueue_queues_of_ne h, enqueue_queues_of_ne h]
      rfl
  unfold message
  rw [hpackets, hstorage]
  rfl

/-- **One enqueue** into a queue with room, whatever the fill levels of the others. -/
theorem pending_enqueue_sized (hf : Sized f) (ht : target < f.config.tileCount)
    (hpay : f.payloadValid payload payloadBytes = true)
    (hroom : (f.queues target).count < f.config.queueCapacity) (htile : tile < f.config.tileCount) :
    (f.enqueue source target type payload payloadBytes tag).pending tile =
      f.pending tile ++
        if tile = target then [sentMessage source target type payload payloadBytes tag] else [] := by
  have hcount := clip_count hroom
  have hw := clip_wellFormed hf
  by_cases h : tile = target
  · subst h
    have hpush := @pending_enqueue f.clip tile source tile payloadBytes tag type payload hw ht hpay
      (hcount.trans_lt hroom) ht
    have hsize : (f.queues tile).count + 1 ≤ sizeMax := by
      have := hf.packets_fit
      unfold packetSize at this
      omega
    have hleft : (f.enqueue source tile type payload payloadBytes tag).pending tile =
        (f.clip.enqueue source tile type payload payloadBytes tag).pending tile := by
      unfold pending
      rw [enqueue_head, enqueue_head, enqueue_count, enqueue_count, hcount]
      exact window_congr_slots hf.capacity_pos (fun slot _ => message_enqueue_clip hroom slot) _ _
    have hright : f.clip.pending tile = f.pending tile := by
      unfold pending
      rw [hcount]
      rfl
    rw [hleft, hpush, hright]
  · rw [if_neg h, List.append_nil]
    unfold pending
    rw [enqueue_head, enqueue_config, enqueue_queues_of_ne h]
    refine window_congr_slots hf.capacity_pos (fun slot hs => ?_) _ _
    rw [message_enqueue_clip hroom, message_enqueue hw ht hpay htile hs, if_neg (fun hc => h hc.1)]
    rfl

/-! ### All enqueues -/

/-- The tiles that get a copy: the addressed ones but the source. -/
def recipients (source : ℕ) (targets : List ℕ) : List ℕ := targets.filter fun t => decide (t ≠ source)

/-- The counters after a number of copies. -/
def countCopies (n payloadBytes : ℕ) (counters : FabricCounters) : FabricCounters :=
  { counters with
    packetsSent := counters.packetsSent + UInt64.ofNat n
    payloadBytesSent := counters.payloadBytesSent + UInt64.ofNat n * UInt64.ofNat payloadBytes }

theorem countCopies_succ (n payloadBytes : ℕ) (counters : FabricCounters) :
    countCopies n payloadBytes (countCopies 1 payloadBytes counters) = countCopies (n + 1) payloadBytes counters := by
  unfold countCopies
  simp only [UInt64.ofNat_add]
  congr 1
  · grind
  · grind

/-- **The second pass** over distinct tiles with room puts one copy at the tail of each recipient's queue. -/
theorem enqueueAll_delivers (targets : List ℕ) (sent : ℕ) (hf : Sized f)
    (hpay : f.payloadValid payload payloadBytes = true) (hnodup : targets.Nodup)
    (hroom : ∀ t ∈ targets, t < f.config.tileCount ∧ (t ≠ source → (f.queues t).count < f.config.queueCapacity)) :
    (enqueueAll source type payload payloadBytes tag targets (f, sent)).2 = sent + (recipients source targets).length ∧
      (enqueueAll source type payload payloadBytes tag targets (f, sent)).1.counters =
        countCopies (recipients source targets).length payloadBytes f.counters ∧
      (∀ tile ∉ recipients source targets,
        (enqueueAll source type payload payloadBytes tag targets (f, sent)).1.queues tile = f.queues tile) ∧
      ∀ tile < f.config.tileCount,
        (enqueueAll source type payload payloadBytes tag targets (f, sent)).1.pending tile =
          f.pending tile ++ if tile ∈ recipients source targets then
            [sentMessage source tile type payload payloadBytes tag] else [] := by
  induction targets generalizing f sent with
  | nil =>
    refine ⟨rfl, ?_, fun _ _ => rfl, fun tile _ => (List.append_nil _).symm⟩
    show f.counters = countCopies 0 payloadBytes f.counters
    unfold countCopies
    simp
  | cons target rest ih =>
    obtain ⟨hnew, hrest⟩ := List.nodup_cons.mp hnodup
    obtain ⟨⟨ht, hfree⟩, hroom'⟩ := List.forall_mem_cons.mp hroom
    unfold enqueueAll
    by_cases hsrc : target ≠ source
    · rw [if_pos hsrc]
      have hrec : recipients source (target :: rest) = target :: recipients source rest :=
        List.filter_cons_of_pos (decide_eq_true hsrc)
      have hnotin : target ∉ recipients source rest := fun hmem => hnew (List.mem_filter.mp hmem).1
      obtain ⟨hsent, hcounters, hkeep, hpend⟩ := @ih (f.enqueue source target type payload payloadBytes tag) (sent + 1)
        (enqueue_sized hf hpay) hpay hrest (fun t htmem => by
          have hne : t ≠ target := by
            rintro rfl
            exact hnew htmem
          rw [enqueue_queues_of_ne hne]
          exact hroom' t htmem)
      rw [hrec, List.length_cons]
      refine ⟨?_, ?_, fun tile hmem => ?_, fun tile htile => ?_⟩
      · rw [hsent]
        omega
      · rw [hcounters, ← countCopies_succ]
        congr 1
        unfold countCopies
        simp [enqueue]
      · rw [hkeep tile (List.not_mem_of_not_mem_cons hmem), enqueue_queues_of_ne (List.ne_of_not_mem_cons hmem)]
      · rw [hpend tile htile, pending_enqueue_sized hf ht hpay (hfree hsrc) htile, List.append_assoc]
        congr 1
        by_cases hteq : tile = target
        · subst hteq
          rw [if_pos rfl, if_neg hnotin, if_pos List.mem_cons_self, List.append_nil]
        · rw [if_neg hteq, List.nil_append]
          simp only [List.mem_cons, hteq, false_or]
    · rw [if_neg hsrc]
      have hrec : recipients source (target :: rest) = recipients source rest :=
        List.filter_cons_of_neg (by simpa using hsrc)
      rw [hrec]
      exact ih sent hf hpay hrest hroom'

/-- **A broadcast is all or nothing.**  On a reachable fabric, a broadcast to all tiles or to a list without repeats
that returns an error has changed no queue; one that returns `ATT1_OK` has put one copy of the packet at the tail of
the queue of each addressed tile but the source, changed no other queue, and counted the copies and their bytes. -/
theorem broadcast_atomic {host : Host} {config : FabricBusConfig} {f₀ : Fabric} {es : List TileEvent}
    (hc : create host config = .ok f₀) (hr : Run TileStep f₀ es f) (source : ℕ) (group : Option TileGroup)
    (groupCount : ℕ) (type : PacketType) (payload : Option (ℕ → UInt8)) (payloadBytes tag : ℕ)
    (hgroup : ∀ tiles, group = some tiles → tiles.tiles.Nodup) :
    ((f.broadcast source group groupCount type payload payloadBytes tag).2 ≠ .ok →
      SameQueues f (f.broadcast source group groupCount type payload payloadBytes tag).1 ∧
        ∀ tile, (f.broadcast source group groupCount type payload payloadBytes tag).1.pending tile = f.pending tile) ∧
    ((f.broadcast source group groupCount type payload payloadBytes tag).2 = .ok →
      (∀ tile < f.config.tileCount,
        (f.broadcast source group groupCount type payload payloadBytes tag).1.pending tile =
          f.pending tile ++ if tile ∈ recipients source (f.broadcastTiles group) then
            [sentMessage source tile type payload payloadBytes tag] else []) ∧
      (∀ tile ∉ recipients source (f.broadcastTiles group),
        (f.broadcast source group groupCount type payload payloadBytes tag).1.queues tile = f.queues tile) ∧
      (f.broadcast source group groupCount type payload payloadBytes tag).1.counters =
        { countCopies (recipients source (f.broadcastTiles group)).length payloadBytes f.counters with
          broadcastPackets := f.counters.broadcastPackets +
            UInt64.ofNat (recipients source (f.broadcastTiles group)).length }) := by
  have hf := run_sized hc hr
  have hnodup : (f.broadcastTiles group).Nodup := by
    cases group with
    | none => exact List.nodup_range
    | some tiles => exact hgroup tiles rfl
  obtain ⟨heq, -, hpay, hroom⟩ | ⟨hsame, hne⟩ :=
    broadcast_cases hf.tileCount_le source group groupCount type payload payloadBytes tag
  · obtain ⟨hsent, hcounters, hkeep, hpend⟩ :=
      @enqueueAll_delivers f source payloadBytes tag type payload (f.broadcastTiles group) 0 hf hpay hnodup hroom
    rw [heq]
    refine ⟨fun hne => absurd rfl hne, fun _ => ⟨fun tile htile => ?_, hkeep, ?_⟩⟩
    · rw [(sameQueues_countBroadcast _).pending_eq]
      exact hpend tile htile
    · unfold countBroadcast
      simp only
      rw [hsent, hcounters, Nat.zero_add]
      rfl
  · exact ⟨fun _ => ⟨hsame, hsame.pending_eq⟩, fun hok => absurd hok hne⟩

theorem broadcast_atomic_two_tiles : ∃ f, create .generous ⟨3, 1, 4⟩ = .ok f ∧
    (f.broadcast 0 (some ⟨[1, 2], by decide⟩) 2 .control none 0 7).1.pending 2 =
      [sentMessage 0 2 .control none 0 7] := by
  obtain ⟨f, hc, hok, hnil, hcount⟩ : ∃ f, create .generous ⟨3, 1, 4⟩ = .ok f ∧
      (f.broadcast 0 (some ⟨[1, 2], by decide⟩) 2 .control none 0 7).2 = .ok ∧ f.pending 2 = [] ∧
        f.config.tileCount = 3 := ⟨_, rfl, by decide, rfl, rfl⟩
  have hnodup : ∀ tiles, some (⟨[1, 2], by decide⟩ : TileGroup) = some tiles → tiles.tiles.Nodup := by
    rintro _ ⟨⟩
    decide
  have hcast := ((broadcast_atomic hc Run.nil 0 (some ⟨[1, 2], by decide⟩) 2 .control none 0 7 hnodup).2 hok).1
  refine ⟨f, hc, (hcast 2 (by omega)).trans ?_⟩
  rw [hnil]
  rfl

end Att1.Fabric
