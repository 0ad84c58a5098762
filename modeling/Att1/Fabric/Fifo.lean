import Mathlib.Data.List.Nodup
import Att1.Fabric.Queue
import Att1.Lib.Runs

/-!
# Att1.Fabric.Fifo — what a tile receives is what was accepted for it

A run is a list of events, each a call with its status and what it delivered.

* `accepted tile`, `received tile`: the messages an event accepts for a tile and hands out at a tile.
* `QueueLaw`: no queue is longer than its capacity, and what was accepted is what was received followed by what
  is still pending, in order and unchanged.
* `queues_fifo_iff`: a run keeps the law throughout exactly when no broadcast of the run names a tile more
  often than its queue has room for.
-/

open Att1.Lib

namespace Att1.Fabric

/-- A call on the queues of a fabric. -/
inductive FabricCall
  | send (source target : ℕ) (type : PacketType) (payload : Option (ℕ → UInt8)) (payloadBytes tag : ℕ)
  | broadcast (source : ℕ) (group : Option TileGroup) (groupCount : ℕ) (type : PacketType)
      (payload : Option (ℕ → UInt8)) (payloadBytes tag : ℕ)
  | receive (tile : ℕ) (outPacket outPayload : Bool) (outPayloadCapacity : ℕ)
  | receiveTimeout (tile : ℕ) (outPacket outPayload : Bool) (outPayloadCapacity timeoutTicks : ℕ)

/-- A call with what it returned. -/
structure FabricEvent where
  call : FabricCall
  status : Status
  delivery : Option Delivery := none

/-- The call returns with this fabric, status and delivery. -/
def Returns (f : Fabric) : FabricCall → Fabric × Status × Option Delivery → Prop
  | .send source target type payload payloadBytes tag, r =>
    f.send source target type payload payloadBytes tag = (r.1, r.2.1) ∧ r.2.2 = none
  | .broadcast source group groupCount type payload payloadBytes tag, r =>
    f.broadcast source group groupCount type payload payloadBytes tag = (r.1, r.2.1) ∧ r.2.2 = none
  | .receive tile outPacket outPayload outPayloadCapacity, r =>
    f.receive tile outPacket outPayload outPayloadCapacity = r
  | .receiveTimeout tile outPacket outPayload outPayloadCapacity timeoutTicks, r =>
    ∃ fuel, receiveTimeoutLoop tile outPacket outPayload outPayloadCapacity timeoutTicks fuel 0 f = some r

/-- One call on the fabric. -/
def Step (f : Fabric) (e : FabricEvent) (g : Fabric) : Prop := Returns f e.call (g, e.status, e.delivery)

/-- How often a broadcast addresses a tile: never its source, every other tile once without a group. -/
def groupCopies (source : ℕ) (group : Option TileGroup) (tile : ℕ) : ℕ :=
  match group with
  | none => if tile = source then 0 else 1
  | some group => copies source group.tiles tile

/-- The messages a call that returned `ATT1_OK` accepted for a tile. -/
def accepted (tile : ℕ) (e : FabricEvent) : List Delivery :=
  if e.status ≠ .ok then []
  else
    match e.call with
    | .send source target type payload payloadBytes tag =>
      if tile = target then [sentMessage source target type payload payloadBytes tag] else []
    | .broadcast source group _ type payload payloadBytes tag =>
      List.replicate (groupCopies source group tile) (sentMessage source tile type payload payloadBytes tag)
    | .receive .. | .receiveTimeout .. => []

/-- The messages a call handed out at a tile. -/
def received (tile : ℕ) (e : FabricEvent) : List Delivery :=
  match e.call with
  | .send .. | .broadcast .. => []
  | .receive source .. | .receiveTimeout source .. => if source = tile then e.delivery.toList else []

/-- Bounded queues, and nothing lost, duplicated, reordered or changed. -/
def QueueLaw (es : List FabricEvent) (f : Fabric) : Prop :=
  ∀ tile < f.config.tileCount, (f.queues tile).count ≤ f.config.queueCapacity ∧
    es.flatMap (accepted tile) = es.flatMap (received tile) ++ f.pending tile

/-- A broadcast that the preflight lets through names no tile more often than its queue has room for. -/
def RepeatsFit (f : Fabric) (e : FabricEvent) : Prop :=
  match e.call with
  | .broadcast source (some group) _ _ payload payloadBytes _ =>
    source < f.config.tileCount → f.payloadValid payload payloadBytes = true →
      (∀ t ∈ group.tiles, t < f.config.tileCount ∧
        (t ≠ source → (f.queues t).count < f.config.queueCapacity)) →
      ∀ t ∈ group.tiles, t ≠ source →
        (f.queues t).count + group.tiles.count t ≤ f.config.queueCapacity
  | _ => True

/-! ### The step relation -/

theorem receiveTimeoutLoop_det {tile : ℕ} {outPacket outPayload : Bool} {outPayloadCapacity timeoutTicks n m tick : ℕ}
    {f : Fabric} {r r' : Fabric × Status × Option Delivery}
    (h : receiveTimeoutLoop tile outPacket outPayload outPayloadCapacity timeoutTicks n tick f = some r)
    (h' : receiveTimeoutLoop tile outPacket outPayload outPayloadCapacity timeoutTicks m tick f = some r') :
    r = r' := by
  induction n generalizing m tick f with
  | zero => simp [receiveTimeoutLoop] at h
  | succ n ih =>
    cases m with
    | zero => simp [receiveTimeoutLoop] at h'
    | succ m =>
      unfold receiveTimeoutLoop at h h'
      by_cases htick : timeoutTicks < tick
      · rw [if_pos htick] at h h'
        exact Option.some.inj (h.symm.trans h')
      · rw [if_neg htick] at h h'
        simp only at h h'
        by_cases hst : (f.receive tile outPacket outPayload outPayloadCapacity).2.1 ≠ .queueEmpty
        · rw [if_pos hst] at h h'
          exact Option.some.inj (h.symm.trans h')
        · rw [if_neg hst] at h h'
          exact ih h h'

theorem step_deterministic : Deterministic Step := by
  rintro f ⟨call, status, delivery⟩ g g' h h'
  cases call with
  | send => exact congrArg Prod.fst (h.1.symm.trans h'.1)
  | broadcast => exact congrArg Prod.fst (h.1.symm.trans h'.1)
  | receive => exact congrArg Prod.fst (Eq.trans h.symm h')
  | receiveTimeout =>
    obtain ⟨n, hn⟩ := h
    obtain ⟨m, hm⟩ := h'
    exact congrArg Prod.fst (receiveTimeoutLoop_det hn hm)

theorem groupCopies_eq {f : Fabric} {tile : ℕ} (ht : tile < f.config.tileCount) (source : ℕ)
    (group : Option TileGroup) :
    copies source (f.broadcastTiles group) tile = groupCopies source group tile := by
  cases group with
  | none =>
    unfold groupCopies copies broadcastTiles
    rw [List.count_eq_one_of_mem List.nodup_range (List.mem_range.mpr ht)]
  | some group => rfl

/-- What one event adds to the two sides of the law, for the tiles of `f`. -/
def Balanced (f : Fabric) (e : FabricEvent) (g : Fabric) : Prop :=
  WellFormed g ∧ g.config = f.config ∧ ∀ tile < f.config.tileCount,
    f.pending tile ++ accepted tile e = received tile e ++ g.pending tile

theorem balanced_of_same {f g : Fabric} {e : FabricEvent} (hf : WellFormed f) (h : SameQueues f g)
    (hacc : ∀ tile, accepted tile e = []) (hrec : ∀ tile, received tile e = []) : Balanced f e g := by
  refine ⟨h.wellFormed hf, h.config, fun tile _ => ?_⟩
  rw [hacc, hrec, h.pending_eq, List.append_nil, List.nil_append]

theorem balanced_of_received {f g : Fabric} {e : FabricEvent} {source : ℕ} (hf : WellFormed f)
    (h : Received f source (g, e.status, e.delivery)) (hacc : ∀ tile, accepted tile e = [])
    (hrec : ∀ tile, received tile e = if source = tile then e.delivery.toList else []) :
    Balanced f e g := by
  rcases h with ⟨m, rest, -, hm, hr, hw, hc, hp, ho⟩ | ⟨hs, -, hn⟩
  · refine ⟨hw, hc, fun tile _ => ?_⟩
    have hd : e.delivery = some m := congrArg Prod.snd hr
    rw [hacc, hrec, hd, List.append_nil]
    by_cases htile : source = tile
    · subst htile
      rw [if_pos rfl, hm, hp]
      rfl
    · rw [if_neg htile, ho tile (Ne.symm htile), List.nil_append]
  · have hd : e.delivery = none := hn
    refine balanced_of_same hf hs hacc fun tile => ?_
    rw [hrec, hd]
    exact ite_self _

/-- **One call** whose repetitions fit balances what it accepts, what it hands out and what stays pending. -/
theorem step_balanced {f g : Fabric} {e : FabricEvent} (hf : WellFormed f) (hg : RepeatsFit f e)
    (hs : Step f e g) : Balanced f e g := by
  obtain ⟨call, status, delivery⟩ := e
  cases call with
  | send source target type payload payloadBytes tag =>
    obtain ⟨hcall, -⟩ := hs
    rcases send_cases f source target type payload payloadBytes tag with
      ⟨heq, -, ht, hpay, hroom⟩ | ⟨hsame, hne⟩
    · rw [heq, Prod.mk.injEq] at hcall
      obtain ⟨rfl, rfl⟩ := hcall
      refine ⟨enqueue_wellFormed hf ht hpay hroom, rfl, fun tile htile => ?_⟩
      rw [pending_enqueue hf ht hpay hroom htile]
      rfl
    · rw [hcall] at hsame hne
      exact balanced_of_same hf hsame (fun tile => if_pos hne) fun tile => rfl
  | broadcast source group groupCount type payload payloadBytes tag =>
    obtain ⟨hcall, -⟩ := hs
    rcases broadcast_cases hf.tileCount_le source group groupCount type payload payloadBytes tag with
      ⟨heq, hsrc, hpay, htargets⟩ | ⟨hsame, hne⟩
    · rw [heq, Prod.mk.injEq] at hcall
      obtain ⟨rfl, rfl⟩ := hcall
      have hroom : ∀ t < f.config.tileCount,
          (f.queues t).count + copies source (f.broadcastTiles group) t ≤ f.config.queueCapacity := by
        intro t ht
        have hle := hf.count_le t ht
        by_cases hts : t = source
        · unfold copies
          rw [if_pos hts]
          exact hle
        · cases group with
          | none =>
            rw [groupCopies_eq ht]
            have := (htargets t (List.mem_range.mpr ht)).2 hts
            unfold groupCopies
            rw [if_neg hts]
            exact this
          | some group =>
            unfold copies
            rw [if_neg hts]
            by_cases hmem : t ∈ group.tiles
            · exact hg hsrc hpay htargets t hmem hts
            · rw [broadcastTiles, List.count_eq_zero_of_not_mem hmem]
              exact hle
      obtain ⟨hw, hc, hp⟩ := pending_enqueueAll source type tag (f.broadcastTiles group) 0 hf hpay
        (fun t ht => (htargets t ht).1) hroom
      have hsame := sameQueues_countBroadcast
        (enqueueAll source type payload payloadBytes tag (f.broadcastTiles group) (f, 0))
      refine ⟨hsame.wellFormed hw, hsame.config.trans hc, fun tile htile => ?_⟩
      rw [hsame.pending_eq, hp tile htile, groupCopies_eq htile]
      rfl
    · rw [hcall] at hsame hne
      exact balanced_of_same hf hsame (fun tile => if_pos hne) fun tile => rfl
  | receive tile outPacket outPayload outPayloadCapacity =>
    have hr : Received f tile (g, status, delivery) :=
      hs ▸ receive_received hf tile outPacket outPayload outPayloadCapacity
    exact balanced_of_received hf hr (fun t => ite_self _) fun t => rfl
  | receiveTimeout tile outPacket outPayload outPayloadCapacity timeoutTicks =>
    obtain ⟨fuel, hfuel⟩ := hs
    have hr : Received f tile (g, status, delivery) := receiveTimeoutLoop_received hf hfuel
    exact balanced_of_received hf hr (fun t => ite_self _) fun t => rfl

/-- A broadcast whose repetitions do not fit leaves a queue longer than its capacity. -/
theorem step_overflows {f g : Fabric} {e : FabricEvent} (hf : WellFormed f) (hg : ¬ RepeatsFit f e)
    (hs : Step f e g) : g.config = f.config ∧
      ∃ tile < f.config.tileCount, f.config.queueCapacity < (g.queues tile).count := by
  obtain ⟨call, status, delivery⟩ := e
  cases call with
  | send => exact absurd trivial hg
  | receive => exact absurd trivial hg
  | receiveTimeout => exact absurd trivial hg
  | broadcast source group groupCount type payload payloadBytes tag =>
    cases group with
    | none => exact absurd trivial hg
    | some group =>
      simp only [RepeatsFit, not_forall, not_le] at hg
      obtain ⟨hsrc, hpay, htargets, t, ht, hts, hover⟩ := hg
      obtain ⟨hcall, -⟩ := hs
      rcases broadcast_cases hf.tileCount_le source (some group) groupCount type payload payloadBytes tag with
        ⟨heq, -⟩ | ⟨-, hne⟩
      · rw [heq, Prod.mk.injEq] at hcall
        obtain ⟨rfl, -⟩ := hcall
        have hcopies : copies source group.tiles t = group.tiles.count t := if_neg hts
        have htile := (htargets t ht).1
        have hcount := hf.count_le t htile
        have hfit := hf.packets_fit
        have hgroup := group.fits
        have hlen := List.count_le_length (a := t) (l := group.tiles)
        unfold packetSize at hfit
        refine ⟨enqueueAll_config _ _ _, t, htile, ?_⟩
        show f.config.queueCapacity < ((enqueueAll source type payload payloadBytes tag group.tiles
          (f, 0)).1.queues t).count
        rw [count_enqueueAll _ _ _ _ (by omega), hcopies]
        exact hover
      · refine absurd ?_ hne
        unfold broadcast
        rw [if_neg (not_not.mpr (validTile_iff.mpr hsrc)), if_neg (not_not.mpr hpay)]
        simp only [preflightGroup_ok.mpr htargets]

/-! ### Runs -/

/-- The law of the queues together with the invariant of their storage. -/
structure RunInv (es : List FabricEvent) (f : Fabric) : Prop where
  wellFormed : WellFormed f
  conserved : ∀ tile < f.config.tileCount,
    es.flatMap (accepted tile) = es.flatMap (received tile) ++ f.pending tile

theorem RunInv.queueLaw {es : List FabricEvent} {f : Fabric} (h : RunInv es f) : QueueLaw es f :=
  fun tile ht => ⟨h.wellFormed.count_le tile ht, h.conserved tile ht⟩

theorem RunInv.step {es : List FabricEvent} {f g : Fabric} {e : FabricEvent} (h : RunInv es f)
    (hb : Balanced f e g) : RunInv (es ++ [e]) g := by
  obtain ⟨hw, hc, hbal⟩ := hb
  refine ⟨hw, fun tile ht => ?_⟩
  rw [hc] at ht
  have hstep := hbal tile ht
  simp only [List.flatMap_append, List.flatMap_singleton]
  rw [h.conserved tile ht, List.append_assoc, hstep, List.append_assoc]

/-- **The queues of the fabric.**  In a run from a created fabric every queue is a bounded loss-free FIFO
throughout, for every tile, exactly when no broadcast of the run names a tile more often than that tile's queue
has room for at that moment. -/
theorem queues_fifo_iff {host : Host} {config : FabricBusConfig} {f₀ f : Fabric} {es : List FabricEvent}
    (hc : create host config = .ok f₀) (hr : Run Step f₀ es f) :
    Lawful Step f₀ QueueLaw es ↔ Guarded Step f₀ RepeatsFit es := by
  have h0 : RunInv [] f₀ := by
    refine ⟨create_wellFormed hc, fun tile _ => ?_⟩
    rw [create_pending hc]
    rfl
  refine hr.law_iff_guard step_deterministic h0 (fun _ _ h => h.queueLaw) ?_ ?_
  · intro es f e g hi hg hs
    exact hi.step (step_balanced hi.wellFormed hg hs)
  · intro es f e g hi hg hs hlaw
    obtain ⟨hcfg, tile, ht, hover⟩ := step_overflows hi.wellFormed hg hs
    have hle := (hlaw tile (hcfg ▸ ht)).1
    rw [hcfg] at hle
    omega

/-- A payload-free broadcast from tile 0 that succeeds. -/
def controlBroadcast (group : TileGroup) : FabricEvent where
  call := .broadcast 0 (some group) group.tiles.length .control none 0 7
  status := .ok

theorem queues_fifo_distinct_tiles : ∃ f₀ f, create .generous ⟨3, 1, 4⟩ = .ok f₀ ∧
    Run Step f₀ [controlBroadcast ⟨[1, 2, 0], by decide⟩] f ∧
    Lawful Step f₀ QueueLaw [controlBroadcast ⟨[1, 2, 0], by decide⟩] := by
  have hc : ∃ f₀, create .generous ⟨3, 1, 4⟩ = .ok f₀ ∧
      ∃ f, Run Step f₀ [controlBroadcast ⟨[1, 2, 0], by decide⟩] f :=
    ⟨_, rfl, _, Run.snoc (i := controlBroadcast ⟨[1, 2, 0], by decide⟩) Run.nil ⟨rfl, rfl⟩⟩
  obtain ⟨f₀, hc, f, hr⟩ := hc
  refine ⟨f₀, f, hc, hr, (queues_fifo_iff hc hr).mpr ((guarded_nil RepeatsFit).snoc fun t hr' => ?_)⟩
  obtain rfl := hr'.nil_inv
  obtain ⟨hcfg, -, -, hempty⟩ := create_ok hc
  intro _ _ _ t ht _
  rw [(hempty t).2.1, hcfg]
  revert t
  decide

/-- A group that names a tile twice passes the preflight with one free slot and overflows the queue. -/
theorem broadcast_repeated_tile_overflows : ∃ f₀ f, create .generous ⟨2, 1, 4⟩ = .ok f₀ ∧
    Run Step f₀ [controlBroadcast ⟨[1, 1], by decide⟩] f ∧
    ¬ QueueLaw [controlBroadcast ⟨[1, 1], by decide⟩] f := by
  refine ⟨_, _, rfl, Run.snoc (i := controlBroadcast ⟨[1, 1], by decide⟩) Run.nil ⟨rfl, rfl⟩, fun h => ?_⟩
  exact absurd (h 1 (by decide)).1 (by decide)

end Att1.Fabric
