import Att1.Bridge.Relay
import Att1.Lib.Relay
import Att1.Lib.Runs

/-!
# Att1.Bridge.Conserve — when the bridge loses no packet

* `ConservationLaw`: in both directions the packets are conserved, and a pump that fails leaves the packet it failed
  at in its queue.
* `conservation_iff`: a run is conserving throughout exactly when every relay that takes a packet out of a proxy queue
  finds room for it at the peer, and a peer that takes packets of its length.
-/

open Att1.Endpoint Att1.Lib

namespace Att1.Bridge

open ConformanceEndpoint

/-- A call with its status and what it did to the queues: the packet that entered a proxy queue, the one taken from a
local queue, and the one a failing pump stopped at. -/
structure BridgeEvent where
  call : BridgeCall
  status : Status
  entered : Option Delivery := none
  taken : Option Delivery := none
  stuck : Option (Bool × Delivery) := none

/-- The packet that a send through an endpoint puts into its proxy queue. -/
def proxyMessage (n : ConformanceEndpoint) (type : PacketType) (payload : Option (ℕ → UInt8)) (payloadBytes tag : ℕ) :
    Delivery :=
  Fabric.sentMessage localTile proxyTile type (n.carried payload payloadBytes) payloadBytes tag

/-- One call. -/
def BridgeStep (b : ClusterBridge) (e : BridgeEvent) (b' : ClusterBridge) : Prop :=
  match e.call with
  | .send fromA type payload payloadBytes tag =>
    ∃ n status, (b.side fromA).send localTile proxyTile type payload payloadBytes tag = some (n, status) ∧
      b.send fromA type payload payloadBytes tag = some (b', e.status) ∧ e.taken = none ∧
      e.entered = (if status = .ok then some (proxyMessage (b.side fromA) type payload payloadBytes tag) else none) ∧
      e.stuck = if status = .ok then (b.withSide fromA n).stuck else none
  | .pump => b.pump = some (b', e.status) ∧ e.entered = none ∧ e.taken = none ∧ e.stuck = b.stuck
  | .receive onA outPacket outPayload capacity outPayloadBytes =>
    ∃ n reply, (b.side onA).receive localTile outPacket outPayload capacity outPayloadBytes = some (n, reply) ∧
      b' = b.withSide onA n ∧ e.status = reply.status ∧ e.entered = none ∧ e.stuck = none ∧
      e.taken = ((b.side onA).received localTile outPacket.isSome outPayload.isSome capacity).2.2

/-- The packets that entered the proxy queue of one side. -/
def enteredFrom (isA : Bool) (es : List BridgeEvent) : List Delivery :=
  es.flatMap fun e =>
    match e.call with
    | .send fromA _ _ _ _ => if fromA = isA then e.entered.toList else []
    | _ => []

/-- The packets taken from the local queue of one side. -/
def takenAt (isA : Bool) (es : List BridgeEvent) : List Delivery :=
  es.flatMap fun e =>
    match e.call with
    | .receive onA _ _ _ _ => if onA = isA then e.taken.toList else []
    | _ => []

/-- No packet is lost, doubled or reordered on the way from either side, and a failing pump leaves the packet it
failed at. -/
structure ConservationLaw (b₀ : ClusterBridge) (es : List BridgeEvent) (b : ClusterBridge) : Prop where
  conserved : ∀ isA, Conserved relayedMessage (b₀.side isA).proxyQueue (enteredFrom isA es)
    (b₀.side !isA).localQueue (takenAt (!isA) es) (b.side isA).proxyQueue (b.side !isA).localQueue
  stuck : ∀ e ∈ es.getLast?, ∀ isA m, e.stuck = some (isA, m) → (b.side isA).proxyQueue.head? = some m

/-- A pump, alone or behind a send whose packet entered, meets only peers with room for what it takes. -/
def KeepsPackets (b : ClusterBridge) (e : BridgeEvent) : Prop :=
  match e.call with
  | .send fromA type payload payloadBytes tag =>
    (b.side fromA).Admits proxyTile payload payloadBytes →
      PumpSafe b
        (b.tileA.proxyQueue ++ if fromA then [proxyMessage b.tileA type payload payloadBytes tag] else [])
        (b.tileB.proxyQueue ++ if fromA then [] else [proxyMessage b.tileB type payload payloadBytes tag])
  | .pump => PumpSafe b b.tileA.proxyQueue b.tileB.proxyQueue
  | .receive _ _ _ _ _ => True

/-- The invariant of a run. -/
structure BridgeInv (b₀ : ClusterBridge) (es : List BridgeEvent) (b : ClusterBridge) : Prop where
  law : ConservationLaw b₀ es b
  ready : b.Ready

theorem bridgeStep_deterministic : Deterministic BridgeStep := by
  intro b e b' b'' h h'
  unfold BridgeStep at h h'
  cases hc : e.call with
  | send fromA type payload payloadBytes tag =>
    rw [hc] at h h'
    obtain ⟨n, st, -, hs, -⟩ := h
    obtain ⟨n', st', -, hs', -⟩ := h'
    have heq := hs.symm.trans hs'
    exact (Prod.mk.inj (Option.some.inj heq)).1
  | pump =>
    rw [hc] at h h'
    have heq := h.1.symm.trans h'.1
    exact (Prod.mk.inj (Option.some.inj heq)).1
  | receive onA outPacket outPayload capacity outPayloadBytes =>
    rw [hc] at h h'
    obtain ⟨n, reply, hs, rfl, -⟩ := h
    obtain ⟨n', reply', hs', rfl, -⟩ := h'
    have heq := hs.symm.trans hs'
    obtain rfl := (Prod.mk.inj (Option.some.inj heq)).1
    rfl

namespace ClusterBridge

variable {b : ClusterBridge} {n : ConformanceEndpoint}

@[simp] theorem side_withSide (b : ClusterBridge) (isA : Bool) (n : ConformanceEndpoint) :
    (b.withSide isA n).side isA = n := by
  cases isA <;> rfl

@[simp] theorem side_withSide_not (b : ClusterBridge) (isA : Bool) (n : ConformanceEndpoint) :
    (b.withSide isA n).side (!isA) = b.side !isA := by
  cases isA <;> rfl

theorem Ready.side (h : b.Ready) (isA : Bool) : (b.side isA).Ready := by
  cases isA with
  | true => exact h.tileA
  | false => exact h.tileB

theorem Ready.withSide (h : b.Ready) (isA : Bool) (hn : n.Ready) : (b.withSide isA n).Ready := by
  cases isA with
  | true => exact ⟨hn, h.tileB⟩
  | false => exact ⟨h.tileA, hn⟩

theorem Pumped.moved {b' : ClusterBridge} (h : Pumped b b') (isA : Bool) :
    Moved (b.side isA).proxyQueue (b.side !isA).localQueue (b'.side isA).proxyQueue (b'.side !isA).localQueue := by
  cases isA with
  | true => exact h.movedA
  | false => exact h.movedB

theorem Loses.lost {b' : ClusterBridge} (h : Loses b b') : ∃ isA m,
    (b.side isA).proxyQueue = m :: (b'.side isA).proxyQueue ∧
      (b'.side !isA).localQueue = (b.side !isA).localQueue := by
  obtain ⟨m, hm⟩ | ⟨m, hm⟩ := h
  · exact ⟨true, m, hm⟩
  · exact ⟨false, m, hm⟩

end ClusterBridge

theorem enteredFrom_snoc (isA : Bool) (es : List BridgeEvent) (e : BridgeEvent) :
    enteredFrom isA (es ++ [e]) = enteredFrom isA es ++ enteredFrom isA [e] := List.flatMap_append

theorem takenAt_snoc (isA : Bool) (es : List BridgeEvent) (e : BridgeEvent) :
    takenAt isA (es ++ [e]) = takenAt isA es ++ takenAt isA [e] := List.flatMap_append

theorem Moved.conserved {p₀ entered q₀ taken p q p' q' : List Delivery} (h : Moved p q p' q')
    (hc : Conserved relayedMessage p₀ entered q₀ taken p q) : Conserved relayedMessage p₀ entered q₀ taken p' q' := by
  obtain ⟨rfl, rfl⟩ | ⟨m, rfl, rfl⟩ := h
  · exact hc
  · exact hc.move

/-- Both directions are conserved, for given packets that entered and were taken. -/
def Conserves (b₀ : ClusterBridge) (entered taken : Bool → List Delivery) (b : ClusterBridge) : Prop :=
  ∀ isA, Conserved relayedMessage (b₀.side isA).proxyQueue (entered isA) (b₀.side !isA).localQueue (taken !isA)
    (b.side isA).proxyQueue (b.side !isA).localQueue

variable {b₀ b b' : ClusterBridge} {entered taken : Bool → List Delivery} {es : List BridgeEvent} {e : BridgeEvent}

theorem conserves_pump (hb : b.Ready) (hc : Conserves b₀ entered taken b) {status : Status}
    (hp : b.pump = some (b', status)) :
    (PumpSafe b b.tileA.proxyQueue b.tileB.proxyQueue → b'.Ready ∧ Conserves b₀ entered taken b' ∧
        ∀ isA m, b.stuck = some (isA, m) → (b'.side isA).proxyQueue.head? = some m) ∧
      (¬ PumpSafe b b.tileA.proxyQueue b.tileB.proxyQueue → ¬ Conserves b₀ entered taken b') := by
  obtain ⟨b₁, status₁, hp₁, hsafe, hlose⟩ := ClusterBridge.pump_spec hb
  obtain ⟨rfl, -⟩ := Prod.mk.inj (Option.some.inj (hp.symm.trans hp₁))
  constructor
  · intro hs
    have hpumped := hsafe hs
    exact ⟨hpumped.ready, fun isA => (hpumped.moved isA).conserved (hc isA), hpumped.stuck⟩
  · intro hs hc'
    obtain ⟨isA, m, hm, hq⟩ := (hlose hs).lost
    have hside := hc isA
    rw [hm, ← hq] at hside
    exact hside.loss (hc' isA)

/-- A send into the proxy queue of one side, before the pump. -/
theorem conserves_enter (hb : b.Ready) (hc : Conserves b₀ entered taken b) {fromA : Bool} {n : ConformanceEndpoint}
    {m : Delivery} (hn : Becomes (b.side fromA) n ((b.side fromA).proxyQueue ++ [m]) (b.side fromA).localQueue) :
    (b.withSide fromA n).Ready ∧
      Conserves b₀ (fun isA => entered isA ++ if fromA = isA then [m] else []) taken (b.withSide fromA n) := by
  refine ⟨hb.withSide fromA hn.ready, fun isA => ?_⟩
  by_cases h : fromA = isA
  · subst h
    show Conserved relayedMessage _ (entered fromA ++ if fromA = fromA then [m] else []) _ _ _ _
    rw [if_pos rfl, ClusterBridge.side_withSide, ClusterBridge.side_withSide_not, hn.proxy_eq]
    exact (hc fromA).enter m
  · obtain rfl : isA = !fromA := by
      cases fromA <;> cases isA <;> simp_all
    have hside := hc (!fromA)
    rw [Bool.not_not] at hside
    show Conserved relayedMessage _ (entered (!fromA) ++ if fromA = !fromA then [m] else []) _ _ _ _
    rw [if_neg h, List.append_nil, Bool.not_not, ClusterBridge.side_withSide, ClusterBridge.side_withSide_not,
      hn.local_eq]
    exact hside

/-- What a pump sees behind a send that entered. -/
theorem pumpSafe_enter {fromA : Bool} {n : ConformanceEndpoint} {m : Delivery}
    (hn : Becomes (b.side fromA) n ((b.side fromA).proxyQueue ++ [m]) (b.side fromA).localQueue) :
    PumpSafe (b.withSide fromA n) (b.withSide fromA n).tileA.proxyQueue (b.withSide fromA n).tileB.proxyQueue ↔
      PumpSafe b (b.tileA.proxyQueue ++ if fromA then [m] else []) (b.tileB.proxyQueue ++ if fromA then [] else [m]) := by
  unfold PumpSafe RelaySafe Blocked
  cases fromA with
  | true =>
    show (∀ m ∈ n.proxyQueue.head?, m.packet.payloadBytes ≤ n.limit → b.tileB.Accepts m.packet.payloadBytes) ∧
      ((¬ ∃ m ∈ n.proxyQueue.head?, n.limit < m.packet.payloadBytes) →
        ∀ m ∈ b.tileB.proxyQueue.head?, m.packet.payloadBytes ≤ b.tileB.limit → n.Accepts m.packet.payloadBytes) ↔ _
    rw [hn.proxy_eq, hn.limit_eq]
    simp only [hn.accepts_iff, if_true, List.append_nil]
    rfl
  | false =>
    show (∀ m ∈ b.tileA.proxyQueue.head?, m.packet.payloadBytes ≤ b.tileA.limit → n.Accepts m.packet.payloadBytes) ∧
      ((¬ ∃ m ∈ b.tileA.proxyQueue.head?, b.tileA.limit < m.packet.payloadBytes) →
        ∀ m ∈ n.proxyQueue.head?, m.packet.payloadBytes ≤ n.limit → b.tileA.Accepts m.packet.payloadBytes) ↔ _
    rw [hn.proxy_eq, hn.limit_eq]
    simp only [hn.accepts_iff, Bool.false_eq_true, if_false, List.append_nil]
    rfl

theorem conservationLaw_snoc (hc : Conserves b₀ (fun isA => enteredFrom isA es ++ enteredFrom isA [e])
      (fun isA => takenAt isA es ++ takenAt isA [e]) b)
    (hstuck : ∀ isA m, e.stuck = some (isA, m) → (b.side isA).proxyQueue.head? = some m) :
    ConservationLaw b₀ (es ++ [e]) b := by
  constructor
  · intro isA
    rw [enteredFrom_snoc, takenAt_snoc]
    exact hc isA
  · intro e' he'
    rw [List.getLast?_concat] at he'
    obtain rfl := Option.some.inj he'
    exact hstuck

theorem ConservationLaw.conserves (h : ConservationLaw b₀ (es ++ [e]) b) :
    Conserves b₀ (fun isA => enteredFrom isA es ++ enteredFrom isA [e])
      (fun isA => takenAt isA es ++ takenAt isA [e]) b := by
  intro isA
  have hside := h.conserved isA
  rwa [enteredFrom_snoc, takenAt_snoc] at hside

/-- A call on one side that leaves its queues alone. -/
theorem conserves_same (hc : Conserves b₀ entered taken b) {isA : Bool} {n : ConformanceEndpoint}
    (hn : Becomes (b.side isA) n (b.side isA).proxyQueue (b.side isA).localQueue) :
    Conserves b₀ entered taken (b.withSide isA n) := by
  intro isA'
  have hside := hc isA'
  by_cases h : isA = isA'
  · subst h
    rwa [ClusterBridge.side_withSide, ClusterBridge.side_withSide_not, hn.proxy_eq]
  · obtain rfl : isA' = !isA := by
      cases isA <;> cases isA' <;> simp_all
    rw [Bool.not_not] at hside ⊢
    rwa [ClusterBridge.side_withSide, ClusterBridge.side_withSide_not, hn.local_eq]

/-- A packet taken from the local queue of one side. -/
theorem conserves_take (hc : Conserves b₀ entered taken b) {onA : Bool} {n : ConformanceEndpoint} {m : Delivery}
    (hm : (b.side onA).localQueue = m :: n.localQueue) (hp : n.proxyQueue = (b.side onA).proxyQueue) :
    Conserves b₀ entered (fun isA => taken isA ++ if onA = isA then [m] else []) (b.withSide onA n) := by
  intro isA
  have hside := hc isA
  show Conserved relayedMessage _ _ _ (taken (!isA) ++ if onA = !isA then [m] else []) _ _
  by_cases h : onA = isA
  · subst h
    rw [if_neg (Bool.not_ne_self onA).symm, List.append_nil, ClusterBridge.side_withSide,
      ClusterBridge.side_withSide_not, hp]
    exact hside
  · obtain rfl : isA = !onA := by
      cases onA <;> cases isA <;> simp_all
    rw [Bool.not_not] at hside ⊢
    rw [if_pos rfl, ClusterBridge.side_withSide, ClusterBridge.side_withSide_not]
    rw [hm] at hside
    exact hside.take

theorem append_nil_ledger (ledger : Bool → List Delivery) : (fun isA => ledger isA ++ []) = ledger := by
  funext isA
  exact List.append_nil (ledger isA)

theorem BridgeInv.conserves (hi : BridgeInv b₀ es b) :
    Conserves b₀ (fun isA => enteredFrom isA es) (fun isA => takenAt isA es) b := hi.law.conserved

/-- A send that enters keeps the law if and only if the pump behind it loses no packet. -/
theorem bridgeInv_send {fromA : Bool} {type : PacketType} {payload : Option (ℕ → UInt8)} {payloadBytes tag : ℕ}
    (hi : BridgeInv b₀ es b) (hcall : e.call = .send fromA type payload payloadBytes tag)
    (hs : BridgeStep b e b') (hadm : (b.side fromA).Admits proxyTile payload payloadBytes) :
    (KeepsPackets b e → BridgeInv b₀ (es ++ [e]) b') ∧
      (¬ KeepsPackets b e → ¬ ConservationLaw b₀ (es ++ [e]) b') := by
  obtain ⟨call, status, entered, taken, stuck⟩ := e
  obtain rfl : call = _ := hcall
  obtain ⟨n, st, hsend, hret, rfl, rfl, rfl⟩ := hs
  have hlocal : localTile < 2 := Nat.two_pos
  have hproxy : proxyTile < 2 := Nat.one_lt_two
  obtain ⟨n', hsend', hn⟩ := send_admitted (hi.ready.side fromA) type tag hlocal hproxy hadm
  obtain ⟨rfl, rfl⟩ := Prod.mk.inj (Option.some.inj (hsend.symm.trans hsend'))
  rw [if_pos rfl, if_neg proxyTile_ne_localTile.symm, List.append_nil] at hn
  have hpump : (b.withSide fromA n).pump = some (b', status) := by
    unfold ClusterBridge.send at hret
    rw [hsend] at hret
    exact hret
  obtain ⟨hready, hkept⟩ := conserves_enter hi.ready hi.conserves hn
  obtain ⟨hsafe, hlose⟩ := conserves_pump hready hkept hpump
  rw [pumpSafe_enter hn] at hsafe hlose
  have hguard : KeepsPackets b ⟨.send fromA type payload payloadBytes tag, status,
      some (proxyMessage (b.side fromA) type payload payloadBytes tag), none, (b.withSide fromA n).stuck⟩ ↔
      PumpSafe b
        (b.tileA.proxyQueue ++ if fromA then [proxyMessage (b.side fromA) type payload payloadBytes tag] else [])
        (b.tileB.proxyQueue ++ if fromA then [] else [proxyMessage (b.side fromA) type payload payloadBytes tag]) := by
    refine Iff.trans (imp_iff_right hadm) ?_
    cases fromA <;> rfl
  have hent : ∀ isA, enteredFrom isA [⟨.send fromA type payload payloadBytes tag, status,
      some (proxyMessage (b.side fromA) type payload payloadBytes tag), none, (b.withSide fromA n).stuck⟩] =
      if fromA = isA then [proxyMessage (b.side fromA) type payload payloadBytes tag] else [] :=
    fun isA => List.append_nil _
  rw [if_pos rfl, if_pos rfl]
  constructor
  · intro hg
    obtain ⟨hready', hkept', hstuck⟩ := hsafe (hguard.mp hg)
    refine ⟨conservationLaw_snoc ?_ hstuck, hready'⟩
    simp only [hent]
    exact append_nil_ledger (fun isA => takenAt isA es) ▸ hkept'
  · intro hg hlaw
    have hkept' := hlaw.conserves
    simp only [hent] at hkept'
    exact hlose (mt hguard.mpr hg) (append_nil_ledger (fun isA => takenAt isA es) ▸ hkept')

/-- A send that its endpoint refuses changes nothing. -/
theorem bridgeInv_send_refused {fromA : Bool} {type : PacketType} {payload : Option (ℕ → UInt8)}
    {payloadBytes tag : ℕ} (hi : BridgeInv b₀ es b) (hcall : e.call = .send fromA type payload payloadBytes tag)
    (hs : BridgeStep b e b') (hadm : ¬ (b.side fromA).Admits proxyTile payload payloadBytes) :
    BridgeInv b₀ (es ++ [e]) b' := by
  obtain ⟨call, status, entered, taken, stuck⟩ := e
  obtain rfl : call = _ := hcall
  obtain ⟨n, st, hsend, hret, rfl, rfl, rfl⟩ := hs
  obtain ⟨n', st', hsend', hst, hn⟩ := send_refused (hi.ready.side fromA) localTile type tag hadm
  obtain ⟨rfl, rfl⟩ := Prod.mk.inj (Option.some.inj (hsend.symm.trans hsend'))
  have hstop : some (b.withSide fromA n, st) = some (b', status) := by
    unfold ClusterBridge.send at hret
    rw [hsend] at hret
    exact (if_pos hst).symm.trans hret
  obtain ⟨rfl, rfl⟩ := Prod.mk.inj (Option.some.inj hstop)
  rw [if_neg hst, if_neg hst]
  refine ⟨conservationLaw_snoc ?_ fun _ _ h => ?_, hi.ready.withSide fromA hn.ready⟩
  · have hent : ∀ isA, enteredFrom isA [⟨.send fromA type payload payloadBytes tag, st, none, none, none⟩] = [] := by
      intro isA
      refine (List.append_nil _).trans ?_
      exact ite_self []
    simp only [hent]
    exact conserves_same (append_nil_ledger (fun isA => enteredFrom isA es) ▸
      append_nil_ledger (fun isA => takenAt isA es) ▸ hi.conserves) hn
  · cases h

theorem bridgeInv_pump (hi : BridgeInv b₀ es b) (hcall : e.call = .pump) (hs : BridgeStep b e b') :
    (KeepsPackets b e → BridgeInv b₀ (es ++ [e]) b') ∧
      (¬ KeepsPackets b e → ¬ ConservationLaw b₀ (es ++ [e]) b') := by
  obtain ⟨call, status, entered, taken, stuck⟩ := e
  obtain rfl : call = _ := hcall
  obtain ⟨hpump, rfl, rfl, rfl⟩ := hs
  obtain ⟨hsafe, hlose⟩ := conserves_pump hi.ready hi.conserves hpump
  constructor
  · intro hg
    obtain ⟨hready', hkept', hstuck⟩ := hsafe hg
    refine ⟨conservationLaw_snoc ?_ hstuck, hready'⟩
    exact append_nil_ledger (fun isA => enteredFrom isA es) ▸ append_nil_ledger (fun isA => takenAt isA es) ▸ hkept'
  · intro hg hlaw
    have hkept' := hlaw.conserves
    exact hlose hg
      (append_nil_ledger (fun isA => enteredFrom isA es) ▸ append_nil_ledger (fun isA => takenAt isA es) ▸ hkept')

/-- A receive takes a packet from the local queue or changes nothing. -/
theorem bridgeInv_receive {onA : Bool} {outPacket : Option FabricPacket} {outPayload : Option (ℕ → UInt8)}
    {capacity : ℕ} {outPayloadBytes : Option ℕ} (hi : BridgeInv b₀ es b)
    (hcall : e.call = .receive onA outPacket outPayload capacity outPayloadBytes) (hs : BridgeStep b e b') :
    BridgeInv b₀ (es ++ [e]) b' := by
  obtain ⟨call, status, entered, taken, stuck⟩ := e
  obtain rfl : call = _ := hcall
  obtain ⟨n, reply, hrecv, rfl, hst, rfl, rfl, rfl⟩ := hs
  rw [receive_eq] at hrecv
  obtain ⟨rfl, -⟩ := Prod.mk.inj (Option.some.inj hrecv)
  have hrec := received_received (hi.ready.side onA) localTile outPacket.isSome outPayload.isSome capacity
  obtain ⟨m, rest, -, hcons, hres, hwf, hconf, hpop, hother⟩ | ⟨hsame, -, hnone⟩ := hrec
  · have hready : ((b.side onA).withFabric
        ((b.side onA).received localTile outPacket.isSome outPayload.isSome capacity).1).Ready := by
      refine ⟨hwf, ?_⟩
      rw [withFabric_fabric, hconf]
      exact (hi.ready.side onA).tiles
    refine ⟨conservationLaw_snoc ?_ fun _ _ h => ?_, hi.ready.withSide onA hready⟩
    · rw [hres]
      have htak : ∀ isA, takenAt isA [⟨.receive onA outPacket outPayload capacity outPayloadBytes, status, none, some m,
          none⟩] = if onA = isA then [m] else [] := fun isA => List.append_nil _
      have hm : (b.side onA).localQueue = m :: ((b.side onA).withFabric
          ((b.side onA).received localTile outPacket.isSome outPayload.isSome capacity).1).localQueue := by
        refine hcons.trans ?_
        rw [← hpop]
        rfl
      have hkept := conserves_take hi.conserves hm (hother proxyTile proxyTile_ne_localTile)
      simp only [htak]
      exact append_nil_ledger (fun isA => enteredFrom isA es) ▸ hkept
    · cases h
  · have hn := (hi.ready.side onA).becomes_same hsame
    refine ⟨conservationLaw_snoc ?_ fun _ _ h => ?_, hi.ready.withSide onA hn.ready⟩
    · rw [hnone]
      have htak : ∀ isA, takenAt isA [⟨.receive onA outPacket outPayload capacity outPayloadBytes, status, none, none,
          none⟩] = [] := fun isA => (List.append_nil _).trans (ite_self [])
      simp only [htak]
      exact conserves_same (append_nil_ledger (fun isA => enteredFrom isA es) ▸
        append_nil_ledger (fun isA => takenAt isA es) ▸ hi.conserves) hn
    · cases h

/-- A step keeps the law if and only if its pump loses no packet. -/
theorem bridgeInv_step (hi : BridgeInv b₀ es b) (hs : BridgeStep b e b') :
    (KeepsPackets b e → BridgeInv b₀ (es ++ [e]) b') ∧
      (¬ KeepsPackets b e → ¬ ConservationLaw b₀ (es ++ [e]) b') := by
  cases hcall : e.call with
  | send fromA type payload payloadBytes tag =>
    by_cases hadm : (b.side fromA).Admits proxyTile payload payloadBytes
    · exact bridgeInv_send hi hcall hs hadm
    · have hguard : KeepsPackets b e := by
        unfold KeepsPackets
        rw [hcall]
        exact fun h => absurd h hadm
      exact ⟨fun _ => bridgeInv_send_refused hi hcall hs hadm, fun hg => absurd hguard hg⟩
  | pump => exact bridgeInv_pump hi hcall hs
  | receive onA outPacket outPayload capacity outPayloadBytes =>
    have hguard : KeepsPackets b e := by
      unfold KeepsPackets
      rw [hcall]
      trivial
    exact ⟨fun _ => bridgeInv_receive hi hcall hs, fun hg => absurd hguard hg⟩

/-- **Conservation of packets.**  From any two endpoints, in process or behind a socket, with any packets queued, a run
of sends, pumps and local receives conserves all packets throughout exactly when every pump of it finds room at the
peer for the packets that it takes out of the proxy queues. -/
theorem conservation_iff (hb : b₀.Ready) (hr : Run BridgeStep b₀ es b) :
    Lawful BridgeStep b₀ (ConservationLaw b₀) es ↔ Guarded BridgeStep b₀ KeepsPackets es := by
  have h0 : BridgeInv b₀ [] b₀ := by
    refine ⟨⟨fun isA => Conserved.start _ _ _, fun e he => ?_⟩, hb⟩
    cases he
  refine hr.law_iff_guard bridgeStep_deterministic h0 (fun _ _ hi => hi.law) ?_ ?_
  · intro es b e b' hi hg hs
    exact (bridgeInv_step hi hs).1 hg
  · intro es b e b' hi hg hs
    exact (bridgeInv_step hi hs).2 hg

/-- Two bytes from tile A to tile B. -/
def twoBytes : BridgeEvent where
  call := .send true .activation (some fun i => UInt8.ofNat (7 + i)) 2 5
  status := .ok
  entered := some ⟨⟨.activation, 0, 1, 2, 5⟩, [7, 8]⟩

/-- The same with a full queue at tile B. -/
def twoMoreBytes : BridgeEvent :=
  { twoBytes with status := .queueFull, stuck := some (true, ⟨⟨.activation, 0, 1, 2, 5⟩, [7, 8]⟩) }

/-- Tile B takes them. -/
def takeTwoBytes : BridgeEvent where
  call := .receive false (some ⟨.activation, 0, 0, 0, 0⟩) (some fun _ => 0) 4 (some 0)
  status := .ok
  taken := some ⟨⟨.activation, 0, 0, 2, 5⟩, [7, 8]⟩

theorem created_ready {host : Host} {config : FabricBusConfig} {f : Fabric} (h : Fabric.create host config = .ok f)
    (ht : 2 ≤ config.tileCount) (link : Link) (kv : KvMmu UInt32) : (ConformanceEndpoint.mk link ⟨f, kv⟩).Ready :=
  ⟨Fabric.create_wellFormed h, (Fabric.create_ok h).1 ▸ ht⟩

/-- With room for one packet on each side, two packets go over one after the other. -/
theorem exchange_conserved : ∃ f kv b, Fabric.create .generous ⟨2, 1, 4⟩ = .ok f ∧
    KvMmu.create .generous ⟨1, 1, 1, 1, 1, 1, 1⟩ = .ok kv ∧
    Run BridgeStep ⟨⟨.inproc, ⟨f, kv⟩⟩, ⟨.inproc, ⟨f, kv⟩⟩, 0⟩ [twoBytes, takeTwoBytes, twoBytes] b ∧
    Lawful BridgeStep ⟨⟨.inproc, ⟨f, kv⟩⟩, ⟨.inproc, ⟨f, kv⟩⟩, 0⟩
      (ConservationLaw ⟨⟨.inproc, ⟨f, kv⟩⟩, ⟨.inproc, ⟨f, kv⟩⟩, 0⟩) [twoBytes, takeTwoBytes, twoBytes] := by
  have hrun : ∃ f kv, Fabric.create .generous ⟨2, 1, 4⟩ = .ok f ∧
      KvMmu.create .generous ⟨1, 1, 1, 1, 1, 1, 1⟩ = .ok kv ∧ ∃ b,
      Run (fun b e b' => BridgeStep b e b' ∧ KeepsPackets b e) ⟨⟨.inproc, ⟨f, kv⟩⟩, ⟨.inproc, ⟨f, kv⟩⟩, 0⟩
        [twoBytes, takeTwoBytes, twoBytes] b := by
    refine ⟨_, _, rfl, rfl, _, Run.cons ⟨⟨_, _, rfl, rfl, rfl, rfl, rfl⟩, ?_⟩ <|
      Run.cons ⟨⟨_, _, rfl, rfl, rfl, rfl, rfl, rfl⟩, ?_⟩ <|
      Run.cons ⟨⟨_, _, rfl, rfl, rfl, rfl, rfl⟩, ?_⟩ Run.nil⟩
    · refine fun _ => ⟨fun m hm _ => ?_, fun _ m hm => by cases hm⟩
      obtain rfl := Option.some.inj hm
      exact ⟨⟨Link.noConfusion, by decide⟩, Nat.zero_lt_one⟩
    · trivial
    · refine fun _ => ⟨fun m hm _ => ?_, fun _ m hm => by cases hm⟩
      obtain rfl := Option.some.inj hm
      exact ⟨⟨Link.noConfusion, by decide⟩, Nat.zero_lt_one⟩
  obtain ⟨f, kv, hf, hk, b, hr⟩ := hrun
  obtain ⟨hr, hg⟩ := hr.guarded bridgeStep_deterministic
  have hready := created_ready hf le_rfl .inproc kv
  exact ⟨f, kv, b, hf, hk, hr, (conservation_iff ⟨hready, hready⟩ hr).mpr hg⟩

/-- The second packet is taken out of the proxy queue while the peer is full, and is gone. -/
theorem full_peer_loses_packet : ∃ f kv b, Fabric.create .generous ⟨2, 1, 4⟩ = .ok f ∧
    KvMmu.create .generous ⟨1, 1, 1, 1, 1, 1, 1⟩ = .ok kv ∧
    Run BridgeStep ⟨⟨.inproc, ⟨f, kv⟩⟩, ⟨.inproc, ⟨f, kv⟩⟩, 0⟩ [twoBytes, twoMoreBytes] b ∧
    b.tileA.proxyQueue = [] ∧ b.tileB.localQueue.length = 1 ∧
    ¬ ConservationLaw ⟨⟨.inproc, ⟨f, kv⟩⟩, ⟨.inproc, ⟨f, kv⟩⟩, 0⟩ [twoBytes, twoMoreBytes] b := by
  have hrun : ∃ f kv, Fabric.create .generous ⟨2, 1, 4⟩ = .ok f ∧
      KvMmu.create .generous ⟨1, 1, 1, 1, 1, 1, 1⟩ = .ok kv ∧ ∃ b,
      Run BridgeStep ⟨⟨.inproc, ⟨f, kv⟩⟩, ⟨.inproc, ⟨f, kv⟩⟩, 0⟩ [twoBytes, twoMoreBytes] b ∧
      f.pending 0 = [] ∧ f.pending 1 = [] ∧ b.tileA.proxyQueue = [] ∧ b.tileB.localQueue.length = 1 := by
    refine ⟨_, _, rfl, rfl, _, Run.cons ⟨_, _, rfl, rfl, rfl, rfl, rfl⟩ <|
      Run.cons ⟨_, _, rfl, rfl, rfl, rfl, rfl⟩ Run.nil, rfl, rfl, ?_, ?_⟩
    · rfl
    · rfl
  obtain ⟨f, kv, hf, hk, b, hr, hq, hp, hbp, hbq⟩ := hrun
  refine ⟨f, kv, b, hf, hk, hr, hbp, hbq, fun hlaw => ?_⟩
  have hlen := (hlaw.conserved true).length_eq
  have hcount : (f.pending 1).length + 2 + (f.pending 0).length =
    b.tileA.proxyQueue.length + 0 + b.tileB.localQueue.length := hlen
  rw [hp, hq, hbp, hbq] at hcount
  cases hcount

end Att1.Bridge
