import Att1.Cluster.Model
import Att1.Fabric.Queue
import Att1.Lib.Runs

/-!
# Att1.Cluster.Residue — the fabric of a cluster is empty between decodes

* `Fabric.Idle`, `Fabric.Carries`: no message is on the fabric, or one.  `send_idle` and `receive_carries` lead from
  one to the other.
* `Between`: what holds of a context whenever no message is on its fabric, in particular between calls.
* `decodeToken_ends`: a decode leaves the fabric empty however it ends, and no fabric operation of it fails.
* `queues_empty_between_decodes`: the same over every run of calls.
-/

open Att1.Lib Att1.Lib.Fallible Att1.ModelFile

namespace Att1

namespace Fabric

/-- No operation on the fabric has failed so far. -/
structure Unfailing (f : Fabric) : Prop where
  queueFull : f.counters.queueFullErrors = 0
  invalid : f.counters.invalidPackets = 0
  empty : f.counters.emptyReceives = 0

/-- No message is on the fabric. -/
structure Idle (f : Fabric) : Prop where
  wellFormed : WellFormed f
  unfailing : Unfailing f
  pending : ∀ tile < f.config.tileCount, f.pending tile = []

/-- Exactly one message is on the fabric, in the queue of `target`. -/
structure Carries (f : Fabric) (target : ℕ) (m : Delivery) : Prop where
  wellFormed : WellFormed f
  unfailing : Unfailing f
  target_lt : target < f.config.tileCount
  pending : ∀ tile < f.config.tileCount, f.pending tile = if tile = target then [m] else []

variable {f : Fabric} {source target payloadBytes tag : ℕ} {type : PacketType} {payload : Option (ℕ → UInt8)}

theorem unfailing_enqueue (h : Unfailing f) : Unfailing (f.enqueue source target type payload payloadBytes tag) :=
  ⟨h.queueFull, h.invalid, h.empty⟩

theorem unfailing_receive {tile capacity : ℕ} (h : Unfailing f)
    (hok : (f.receive tile true true capacity).2.1 = .ok) : Unfailing (f.receive tile true true capacity).1 := by
  revert hok
  unfold receive
  rw [if_neg (show ¬ true = false by simp)]
  by_cases h1 : f.validTile tile = true
  · rw [if_neg (not_not.mpr h1)]
    simp only
    by_cases h2 : (f.queues tile).count = 0
    · rw [if_pos h2]
      simp
    · rw [if_neg h2]
      by_cases h3 : capacity < ((f.queues tile).packets (f.queues tile).head).payloadBytes ∨
          0 < ((f.queues tile).packets (f.queues tile).head).payloadBytes ∧ true = false
      · rw [if_pos h3]
        simp
      · rw [if_neg h3]
        exact fun _ => ⟨h.queueFull, h.invalid, h.empty⟩
  · rw [if_pos h1]
    simp

/-- A send on an idle fabric succeeds. -/
theorem send_idle (h : Idle f) (hs : source < f.config.tileCount) (ht : target < f.config.tileCount)
    (hpay : f.payloadValid payload payloadBytes = true) :
    (f.send source target type payload payloadBytes tag).2 = .ok ∧
      (f.send source target type payload payloadBytes tag).1.config = f.config ∧
      Carries (f.send source target type payload payloadBytes tag).1 target
        (sentMessage source target type payload payloadBytes tag) := by
  have hcount : (f.queues target).count = 0 := by
    rw [← length_pending f target, h.pending target ht]
    rfl
  have hroom : (f.queues target).count < f.config.queueCapacity := by
    rw [hcount]
    exact h.wellFormed.capacity_pos
  obtain ⟨hok, hwf, hconfig, hpending⟩ := @send_ok f source target payloadBytes tag type payload h.wellFormed hs ht
    hpay hroom
  refine ⟨hok, hconfig, hwf, ?_, hconfig ▸ ht, fun tile htile => ?_⟩
  · rcases send_cases f source target type payload payloadBytes tag with ⟨heq, -⟩ | ⟨-, hne⟩
    · rw [heq]
      exact unfailing_enqueue h.unfailing
    · exact absurd hok hne
  · rw [hconfig] at htile
    rw [hpending tile htile, h.pending tile htile, List.nil_append]

/-- A receive of the one message empties the fabric. -/
theorem receive_carries {m : Delivery} (h : Carries f target m) {capacity : ℕ}
    (hcap : m.packet.payloadBytes ≤ capacity) :
    (f.receive target true true capacity).2 = (.ok, some m) ∧
      (f.receive target true true capacity).1.config = f.config ∧
      Idle (f.receive target true true capacity).1 := by
  have hm : f.pending target = [m] := by rw [h.pending target h.target_lt, if_pos rfl]
  have hok := receive_ok h.wellFormed h.target_lt hm hcap
  rcases receive_received h.wellFormed target true true capacity with
    ⟨m', rest, -, hm', -, hwf, hconfig, hrest, hother⟩ | ⟨-, hne, -⟩
  · obtain ⟨-, rfl⟩ := List.cons.inj (hm.symm.trans hm')
    refine ⟨hok, hconfig, hwf, ?_, fun tile htile => ?_⟩
    · exact unfailing_receive h.unfailing (congrArg Prod.fst hok)
    · rw [hconfig] at htile
      by_cases heq : tile = target
      · rw [heq]
        exact hrest
      · rw [hother tile heq, h.pending tile htile, if_neg heq]
  · rw [hok] at hne
    exact absurd rfl hne

end Fabric

namespace ClusterInfer

variable {K : Type} {base infer : ClusterInfer K}

/-! ### What no decode changes -/

/-- `b` was set up as `a` was. -/
structure SameSetup (a b : ClusterInfer K) : Prop where
  model : b.model = a.model
  shardPlan : b.shardPlan = a.shardPlan
  hostTileId : b.hostTileId = a.hostTileId
  config : b.fabric.config = a.fabric.config

/-- The fabric has an endpoint for every tile and the host, and slots for every payload of a decode. -/
structure Fits (infer : ClusterInfer K) : Prop where
  host_lt : infer.hostTileId < infer.fabric.config.tileCount
  tile_lt : ∀ tile < infer.shardPlan.tileCount, tile < infer.fabric.config.tileCount
  hidden_le : infer.dModelBytes ≤ infer.fabric.config.maxPayloadBytes
  logits_le : infer.logitsBytes ≤ infer.fabric.config.maxPayloadBytes

/-- What holds of a context between calls. -/
structure Between (infer : ClusterInfer K) : Prop where
  fits : infer.Fits
  idle : infer.fabric.Idle

theorem SameSetup.refl (infer : ClusterInfer K) : SameSetup infer infer := ⟨rfl, rfl, rfl, rfl⟩

theorem SameSetup.dModelBytes_eq (h : SameSetup base infer) : infer.dModelBytes = base.dModelBytes := by
  unfold dModelBytes
  rw [h.model]

theorem SameSetup.logitsBytes_eq (h : SameSetup base infer) : infer.logitsBytes = base.logitsBytes := by
  unfold logitsBytes
  rw [h.model]

theorem SameSetup.fits (h : SameSetup base infer) (hb : base.Fits) : infer.Fits where
  host_lt := by rw [h.hostTileId, h.config]; exact hb.host_lt
  tile_lt := by rw [h.shardPlan, h.config]; exact hb.tile_lt
  hidden_le := by rw [h.dModelBytes_eq, h.config]; exact hb.hidden_le
  logits_le := by rw [h.logitsBytes_eq, h.config]; exact hb.logits_le

/-! ### The fabric operations of a decode -/

/-- The statuses of a fabric operation that finds a queue full or empty, or a packet it did not expect. -/
def FabricFailure (status : Status) : Prop := status = .queueFull ∨ status = .queueEmpty ∨ status = .badFormat

/-- How a decode of `base` may fail: off the fabric, and with nothing left on it. -/
def FailsClean (base : ClusterInfer K) (e : Status) (infer : ClusterInfer K) : Prop :=
  SameSetup base infer ∧ infer.fabric.Idle ∧ ¬ FabricFailure e

/-- No message is on the fabric. -/
def AtRest (base infer : ClusterInfer K) : Prop := SameSetup base infer ∧ infer.fabric.Idle

/-- The message of `payloadBytes` bytes that `target` waits for is on the fabric. -/
def OnTheWay (base : ClusterInfer K) (target : ℕ) (type : PacketType) (payloadBytes : ℕ) (infer : ClusterInfer K) :
    Prop :=
  SameSetup base infer ∧
    ∃ m, infer.fabric.Carries target m ∧ m.packet.type = type ∧ m.packet.payloadBytes = payloadBytes

theorem AtRest.fails {e : Status} (h : AtRest base infer) (he : ¬ FabricFailure e) : FailsClean base e infer :=
  ⟨h.1, h.2, he⟩

variable {source target tile payloadBytes : ℕ} {type : PacketType} {payload : ClusterInfer K → ℕ → UInt8}

theorem sendPayload_ends (h : AtRest base infer) (hs : source < base.fabric.config.tileCount)
    (ht : target < base.fabric.config.tileCount) (hpay : payloadBytes ≤ base.fabric.config.maxPayloadBytes) :
    Ends (sendPayload source target type payload payloadBytes) infer
      (fun _ => OnTheWay base target type payloadBytes) (FailsClean base) := by
  obtain ⟨hsame, hidle⟩ := h
  rw [← hsame.config] at hs ht hpay
  have hvalid : infer.fabric.payloadValid (some (payload infer)) payloadBytes = true :=
    Fabric.payloadValid_iff.mpr ⟨hpay, fun _ => rfl⟩
  obtain ⟨hok, hconfig, hcarries⟩ := @Fabric.send_idle infer.fabric source target payloadBytes infer.position type
    (some (payload infer)) hidle hs ht hvalid
  refine ends_bind (ends_get (ends_bind (ends_set (ends_failIf (fun hne => absurd hok hne) fun _ => ?_))))
  exact ⟨⟨hsame.model, hsame.shardPlan, hsame.hostTileId, hconfig.trans hsame.config⟩, _, hcarries, rfl, rfl⟩

/-- A store of a payload that leaves everything but memory alone. -/
def StoresMemory (store : ClusterInfer K → List UInt8 → ClusterInfer K) : Prop :=
  ∀ infer payload, SameSetup infer (store infer payload) ∧ (store infer payload).fabric = infer.fabric

theorem receivePayload_ends {store : ClusterInfer K → List UInt8 → ClusterInfer K} (hstore : StoresMemory store)
    (h : OnTheWay base tile type payloadBytes infer) :
    Ends (receivePayload tile type payloadBytes store) infer (fun _ => AtRest base) (FailsClean base) := by
  obtain ⟨hsame, m, hcarries, htype, hbytes⟩ := h
  obtain ⟨hok, hconfig, hidle⟩ := Fabric.receive_carries hcarries hbytes.le
  refine ends_bind (ends_get (ends_bind (ends_set ?_)))
  rw [hok]
  refine ends_bind (ends_modify (ends_failIf (fun hbad => ?_) fun _ => ?_))
  · exact absurd hbad (by simp [htype, hbytes])
  · obtain ⟨hs, hf⟩ := hstore { infer with fabric := (infer.fabric.receive tile true true payloadBytes).1 } m.payload
    refine ⟨⟨hs.model.trans hsame.model, hs.shardPlan.trans hsame.shardPlan, hs.hostTileId.trans hsame.hostTileId,
      ?_⟩, ?_⟩
    · rw [hf]
      exact hconfig.trans hsame.config
    · rw [hf]
      exact hidle

/-! ### The steps between two fabric operations -/

theorem viewTensorF32_fails {model : Model} {name : List UInt8} {ndims dim0 dim1 : ℕ} :
    FailsIn (¬ FabricFailure ·) (viewTensorF32 model name ndims dim0 dim1) :=
  FailsIn.bind (.rejectIf (by simp [FabricFailure])) fun _ =>
    FailsIn.bind (.orFail (by simp [FabricFailure])) fun _ =>
      FailsIn.bind (.rejectIf (by simp [FabricFailure])) fun _ => .ok

theorem layerTensorF32_fails {model : Model} {layer ndims dim0 dim1 : ℕ} {suffix : String} :
    FailsIn (¬ FabricFailure ·) (layerTensorF32 model layer suffix ndims dim0 dim1) :=
  FailsIn.bind (.ite (.error (by simp [FabricFailure])) .ok) fun _ => viewTensorF32_fails

theorem viewLoadLayerWeights_fails {model : Model} {layer : ℕ} :
    FailsIn (¬ FabricFailure ·) (viewLoadLayerWeights model layer) :=
  FailsIn.bind (.rejectIf (by simp [FabricFailure])) fun _ =>
    FailsIn.bind layerTensorF32_fails fun _ => FailsIn.bind layerTensorF32_fails fun _ =>
      FailsIn.bind layerTensorF32_fails fun _ => FailsIn.bind layerTensorF32_fails fun _ =>
        FailsIn.bind layerTensorF32_fails fun _ => FailsIn.bind layerTensorF32_fails fun _ =>
          FailsIn.bind layerTensorF32_fails fun _ => FailsIn.bind layerTensorF32_fails fun _ =>
            FailsIn.bind layerTensorF32_fails fun _ => .ok

theorem layerWeights_fails {layer : ℕ} : FailsIn (¬ FabricFailure ·) (infer.layerWeights layer) := by
  refine .ite ?_ (.ite ?_ ?_)
  · cases infer.q4 with
    | none => exact .error (by simp [FabricFailure])
    | some q4 => exact .ok
  · cases infer.q8 with
    | none => exact .error (by simp [FabricFailure])
    | some q8 => exact .ok
  · intro e he
    cases hload : viewLoadLayerWeights infer.model layer with
    | error e' =>
      rw [hload] at he
      cases he
      exact viewLoadLayerWeights_fails _ hload
    | ok w =>
      rw [hload] at he
      cases he

theorem outputWeights_fails : FailsIn (¬ FabricFailure ·) infer.outputWeights := by
  refine FailsIn.bind viewTensorF32_fails fun _ => .ite ?_ (.ite ?_ ?_)
  · cases infer.q4 with
    | none => exact .error (by simp [FabricFailure])
    | some q4 => exact .ite (.error (by simp [FabricFailure])) .ok
  · cases infer.q8 with
    | none => exact .error (by simp [FabricFailure])
    | some q8 => exact .ite (.error (by simp [FabricFailure])) .ok
  · exact FailsIn.bind viewTensorF32_fails fun _ => .ok

theorem storesMemory_hidden : StoresMemory (storeHidden (K := K)) := fun _ _ => ⟨⟨rfl, rfl, rfl, rfl⟩, rfl⟩

theorem storesMemory_logits : StoresMemory (storeLogits (K := K)) := fun _ _ => ⟨⟨rfl, rfl, rfl, rfl⟩, rfl⟩

variable {kernels : Kernels K} {layer : ℕ}

/-- A layer uses no fabric. -/
theorem runLayer_ends (h : AtRest base infer) :
    Ends (runLayer kernels tile layer) infer (fun _ => AtRest base) (FailsClean base) := by
  refine ends_bind (ends_get (ends_bind (ends_ofExcept (fun weights _ => ?_) fun e he => ?_)))
  · refine ends_bind (ends_set (ends_bind (ends_failIf (fun _ => ?_) fun _ => ends_modify ?_)))
    · exact ⟨⟨h.1.model, h.1.shardPlan, h.1.hostTileId, h.1.config⟩, h.2, by simp [FabricFailure]⟩
    · exact ⟨⟨h.1.model, h.1.shardPlan, h.1.hostTileId, h.1.config⟩, h.2⟩
  · exact h.fails (layerWeights_fails e he)

/-- Nor do the norm, the last product and the sync. -/
theorem runOutput_ends {outputNorm : Option ℕ} {outputWeight : OutputWeight} (h : AtRest base infer) :
    Ends (runOutput kernels outputNorm outputWeight) infer (fun _ => AtRest base) (FailsClean base) := by
  have hsame : SameSetup base infer := h.1
  have hfail : ∀ norm logits, FailsClean base .state { infer with norm := norm, logits := logits } := fun _ _ =>
    ⟨⟨hsame.model, hsame.shardPlan, hsame.hostTileId, hsame.config⟩, h.2, by simp [FabricFailure]⟩
  refine ends_bind (ends_get (ends_bind (ends_set (ends_bind (ends_failIf (fun _ => hfail _ _) fun _ => ?_)))))
  refine ends_bind (ends_modify (ends_bind (ends_failIf (fun _ => hfail _ _) fun _ => ?_)))
  refine ends_failIf (fun _ => hfail _ _) fun _ => ?_
  exact ⟨⟨hsame.model, hsame.shardPlan, hsame.hostTileId, hsame.config⟩, h.2⟩

/-- What tile `k` waits for: the activation, or after the last tile what the host waits for. -/
def Awaits (base : ClusterInfer K) (k : ℕ) (infer : ClusterInfer K) : Prop :=
  if k < base.shardPlan.tileCount then OnTheWay base k .activation base.dModelBytes infer
  else OnTheWay base base.hostTileId .logits base.logitsBytes infer

/-- A tile takes its activation off the fabric and puts what comes next on it. -/
theorem runTile_ends {outputNorm : Option ℕ} {outputWeight : OutputWeight} (hfits : base.Fits)
    (hcount : base.fabric.config.tileCount ≤ uint32Max) (htile : tile < base.shardPlan.tileCount)
    (h : Awaits base tile infer) :
    Ends (runTile kernels outputNorm outputWeight tile) infer (fun _ => Awaits base (tile + 1))
      (FailsClean base) := by
  unfold Awaits at h
  rw [if_pos htile] at h
  have hsame : SameSetup base infer := h.1
  have hlt : tile < base.fabric.config.tileCount := hfits.tile_lt tile htile
  have hcast : uint32 tile = tile := uint32_eq (by omega)
  refine ends_bind (ends_get (ends_bind ?_))
  rw [hsame.dModelBytes_eq, hcast]
  refine (receivePayload_ends storesMemory_hidden h).mono (fun _ s hs => ?_) fun _ _ he => he
  refine ends_bind (ends_modify (ends_bind ?_))
  refine (ends_forM (fun _ => AtRest base) (fun _ _ _ ht => runLayer_ends ht) ?_).mono (fun _ t ht => ?_)
    fun _ _ he => he
  · exact ⟨⟨hs.1.model, hs.1.shardPlan, hs.1.hostTileId, hs.1.config⟩, hs.2⟩
  · rw [hsame.shardPlan]
    refine ends_ite (fun hnext => ends_bind ?_) fun hlast => ends_bind ?_
    · have hcast' : uint32 (tile + 1) = tile + 1 := uint32_eq (by have := hfits.tile_lt _ hnext; omega)
      rw [hcast']
      refine (sendPayload_ends ht hlt (hfits.tile_lt _ hnext) hfits.hidden_le).mono (fun _ u hu => ?_) fun _ _ he => he
      refine ends_modify ?_
      unfold Awaits
      rw [if_pos hnext]
      exact ⟨⟨hu.1.model, hu.1.shardPlan, hu.1.hostTileId, hu.1.config⟩, hu.2⟩
    · refine (runOutput_ends ht).mono (fun _ u hu => ?_) fun _ _ he => he
      rw [hsame.logitsBytes_eq, hsame.hostTileId]
      refine ends_bind ((sendPayload_ends hu hlt hfits.host_lt hfits.logits_le).mono (fun _ v hv => ?_)
        fun _ _ he => he)
      refine ends_modify ?_
      unfold Awaits
      rw [if_neg hlast]
      exact ⟨⟨hv.1.model, hv.1.shardPlan, hv.1.hostTileId, hv.1.config⟩, hv.2⟩

/-- **One decode.**  It leaves the fabric empty however it ends, and no fabric operation of it fails. -/
theorem decodeToken_ends {host : Host} {tokenId : ℕ} (h : Between base) :
    Ends (decodeToken host kernels tokenId) base (fun _ => AtRest base) (FailsClean base) := by
  have hrest : AtRest base base := ⟨SameSetup.refl base, h.idle⟩
  have hcount := h.idle.wellFormed.tileCount_le
  refine ends_bind (ends_get (ends_bind ?_))
  refine ends_failIf (fun _ => hrest.fails (by simp [FabricFailure])) fun _ => ends_bind ?_
  refine ends_failIf (fun _ => hrest.fails (by simp [FabricFailure])) fun hplan => ends_bind ?_
  refine ends_ofExcept (fun embedding _ => ends_bind ?_) fun e he => hrest.fails (viewTensorF32_fails e he)
  refine ends_ofExcept (fun output _ => ends_bind ?_) fun e he => hrest.fails (outputWeights_fails e he)
  refine ends_modify (ends_bind ?_)
  have htiles : 0 < base.shardPlan.tileCount := by
    refine Nat.pos_of_ne_zero fun h0 => hplan ?_
    unfold planComplete
    rw [if_pos (Or.inl h0)]
    simp
  have hembed : AtRest base (base.embedToken embedding tokenId) := ⟨⟨rfl, rfl, rfl, rfl⟩, h.idle⟩
  refine (sendPayload_ends hembed h.fits.host_lt (h.fits.tile_lt 0 htiles) h.fits.hidden_le).mono
    (fun _ s hs => ends_bind ?_) fun _ _ he => he
  -- the tiles still to come are the last ones, and the first of them is waited for
  let I : List ℕ → ClusterInfer K → Prop := fun rest t =>
    ∃ k, rest = List.range' k (base.shardPlan.tileCount - k) ∧ k ≤ base.shardPlan.tileCount ∧ Awaits base k t
  have hI : I (List.range base.shardPlan.tileCount) s := by
    refine ⟨0, List.range_eq_range', Nat.zero_le _, ?_⟩
    unfold Awaits
    rw [if_pos htiles]
    exact hs
  refine (ends_forM I (fun tile rest t ht => ?_) hI).mono (fun _ t ht => ?_) fun _ _ he => he
  · obtain ⟨k, hrest', hk, hawaits⟩ := ht
    obtain ⟨n, hn⟩ : ∃ n, base.shardPlan.tileCount - k = n + 1 :=
      Nat.exists_eq_succ_of_ne_zero fun h0 => by simp [h0] at hrest'
    rw [hn, List.range'_succ] at hrest'
    obtain ⟨rfl, rfl⟩ := List.cons.inj hrest'
    refine (runTile_ends h.fits hcount (by omega) hawaits).mono (fun _ u hu => ?_) fun _ _ he => he
    exact ⟨tile + 1, by rw [show base.shardPlan.tileCount - (tile + 1) = n by omega], by omega, hu⟩
  · obtain ⟨k, hrest', hk, hawaits⟩ := ht
    have hend : base.shardPlan.tileCount - k = 0 := by simpa using congrArg List.length hrest'.symm
    unfold Awaits at hawaits
    rw [if_neg (by omega)] at hawaits
    refine ends_bind ((receivePayload_ends storesMemory_logits hawaits).mono (fun _ u hu => ?_) fun _ _ he => he)
    refine ends_bind (ends_get ?_)
    cases hsample : kernels.samplerGreedyF32 u.logits base.model.config.vocabSize with
    | none => exact ends_throw (hu.fails (by simp [FabricFailure]))
    | some token =>
      exact ends_bind (ends_modify (ends_pure
        ⟨⟨hu.1.model, hu.1.shardPlan, hu.1.hostTileId, hu.1.config⟩, hu.2⟩))

/-! ### Runs of calls -/

theorem prepareQ8_ends {host : Host} {quantize : Quantizer} (h : AtRest base infer) :
    Ends (prepareQ8 host quantize) infer (fun _ => AtRest base) fun _ => AtRest base := by
  refine ends_bind (ends_get (ends_ite (fun _ => ends_pure h) fun _ => ?_))
  refine ends_bind (ends_ofExcept (fun q8 _ => ends_modify ?_) fun _ _ => h)
  exact ⟨⟨h.1.model, h.1.shardPlan, h.1.hostTileId, h.1.config⟩, h.2⟩

theorem prepareQ4_ends {host : Host} (h : AtRest base infer) :
    Ends (prepareQ4 host) infer (fun _ => AtRest base) fun _ => AtRest base := by
  refine ends_bind (ends_get (ends_ite (fun _ => ends_pure h) fun _ => ?_))
  refine ends_bind (ends_ofExcept (fun q4 _ => ends_modify ?_) fun _ _ => h)
  exact ⟨⟨h.1.model, h.1.shardPlan, h.1.hostTileId, h.1.config⟩, h.2⟩

/-- A change of the backend touches no fabric. -/
theorem setBackend_ends {host : Host} {quantize : Quantizer} {backend : Option Backend} (h : AtRest base infer) :
    Ends (setBackend host quantize backend) infer (fun _ => AtRest base) fun _ => AtRest base := by
  cases backend with
  | none => exact ends_throw h
  | some backend =>
    have hset : ∀ t, AtRest base t →
        Ends (modify fun infer => { infer with backend := backend } : ClusterM K PUnit) t (fun _ => AtRest base)
          fun _ => AtRest base :=
      fun t ht => ends_modify ⟨⟨ht.1.model, ht.1.shardPlan, ht.1.hostTileId, ht.1.config⟩, ht.2⟩
    refine ends_ite (fun _ => ?_) fun _ => ends_ite (fun _ => ?_) fun _ => hset infer h
    · refine ends_bind (ends_failIf (fun _ => h) fun _ => ends_bind ?_)
      exact (prepareQ4_ends h).mono (fun _ t ht => hset t ht) fun _ _ he => he
    · refine ends_bind (ends_failIf (fun _ => h) fun _ => ends_bind ?_)
      exact (prepareQ8_ends h).mono (fun _ t ht => hset t ht) fun _ _ he => he

/-- The fields of a model config that sizes are computed from are `uint32_t`. -/
structure SizesFit (config : ModelConfig) : Prop where
  vocabSize_le : config.vocabSize ≤ uint32Max
  dModel_le : config.dModel ≤ uint32Max

theorem fabricConfig_ok {model : ModelConfig} {config : ClusterInferConfig} {bus : FabricBusConfig}
    (hm : SizesFit model) (h : fabricConfig model config = .ok bus) :
    config.tileCount < uint32Max ∧ bus.tileCount = config.tileCount + 1 ∧
      sizeT (model.dModel * sizeofFloat) ≤ bus.maxPayloadBytes ∧
      sizeT (model.vocabSize * sizeofFloat) ≤ bus.maxPayloadBytes := by
  unfold fabricConfig at h
  simp only [rejectIf_bind_eq_ok, not_or, not_lt] at h
  obtain ⟨⟨h0, hcount⟩, hpay, h⟩ := h
  cases h
  have hv := hm.vocabSize_le
  have hd := hm.dModel_le
  unfold uint32Max at hcount hv hd ⊢
  have hvocab : sizeT (model.vocabSize * sizeofFloat) = model.vocabSize * 4 :=
    sizeT_eq (by unfold sizeofFloat sizeMax; omega)
  have hdModel : sizeT (model.dModel * sizeofFloat) = model.dModel * 4 :=
    sizeT_eq (by unfold sizeofFloat sizeMax; omega)
  rw [hvocab, hdModel] at hpay ⊢
  refine ⟨by omega, sizeT_eq (by unfold sizeMax; omega), le_trans ?_ hpay, le_trans ?_ hpay⟩
  · split_ifs with hlt
    · omega
    · rfl
  · split_ifs with hlt
    · rfl
    · omega

/-- The context that the common part of the constructors sets up. -/
theorem build_ok [Inhabited K] {host : Host} {kvInit : ℕ → ℕ → ℕ → ℕ → Option K} {backend : Except Status Backend}
    {model : Model} {tileCount : ℕ} {bus : FabricBusConfig} {plan : ShardPlan}
    (h : build host kvInit backend model tileCount bus plan = .ok infer) :
    Fabric.create host bus = .ok infer.fabric ∧ infer.model = model ∧ infer.shardPlan = plan ∧
      infer.hostTileId = uint32 tileCount := by
  unfold build at h
  obtain ⟨fabric, hfabric, h⟩ := bind_eq_ok.mp h
  obtain ⟨_, -, h⟩ := bind_eq_ok.mp h
  obtain ⟨-, h⟩ := rejectIf_bind_eq_ok.mp h
  obtain ⟨_, -, h⟩ := bind_eq_ok.mp h
  cases h
  exact ⟨hfabric, rfl, rfl, rfl⟩

theorem between_of_build [Inhabited K] {host : Host} {kvInit : ℕ → ℕ → ℕ → ℕ → Option K}
    {backend : Except Status Backend} {model : Model} {config : ClusterInferConfig} {bus : FabricBusConfig}
    {plan : ShardPlan} (hm : SizesFit model.config) (hbus : fabricConfig model.config config = .ok bus)
    (hplan : plan.tileCount = config.tileCount)
    (h : build host kvInit backend model config.tileCount bus plan = .ok infer) :
    Between infer ∧ infer.fabric.config.tileCount = config.tileCount + 1 := by
  obtain ⟨hlt, htiles, hhidden, hlogits⟩ := fabricConfig_ok hm hbus
  obtain ⟨hcreate, hmodel, hshard, hhost⟩ := build_ok h
  have hconfig : infer.fabric.config = bus := (Fabric.create_ok hcreate).1
  have hcounters : infer.fabric.counters = {} := by rw [(Fabric.create_eq hcreate).2.2]
  refine ⟨⟨⟨?_, fun tile htile => ?_, ?_, ?_⟩, ?_, ⟨?_, ?_, ?_⟩, fun tile _ => Fabric.create_pending hcreate tile⟩, ?_⟩
  · rw [hhost, uint32_eq hlt.le, hconfig, htiles]
    exact Nat.lt_succ_self _
  · rw [hconfig, htiles]
    rw [hshard, hplan] at htile
    omega
  · unfold dModelBytes
    rw [hmodel, hconfig]
    exact hhidden
  · unfold logitsBytes
    rw [hmodel, hconfig]
    exact hlogits
  · exact Fabric.create_wellFormed hcreate
  · rw [hcounters]
  · rw [hcounters]
  · rw [hcounters]
  · rw [hconfig, htiles]

/-- Either constructor made the context. -/
def Created [Inhabited K] (model : Model) (config : ClusterInferConfig) (infer : ClusterInfer K) : Prop :=
  ∃ host kvInit backend, create host kvInit backend model config = .ok infer ∨
    createQ4 host kvInit backend model config = .ok infer

theorem createPlan_tileCount {host : Host} {model : Model} {config : ClusterInferConfig} {plan : ShardPlan}
    (h : createPlan host model config = .ok plan) : plan.tileCount = config.tileCount := by
  unfold createPlan at h
  cases hmode : config.shardPlanMode with
  | runtime =>
    rw [hmode] at h
    exact shardPlanBuild_tileCount h
  | metadata =>
    rw [hmode] at h
    obtain ⟨-, h⟩ := rejectIf_bind_eq_ok.mp h
    obtain ⟨_, -, h⟩ := bind_eq_ok.mp h
    exact shardPlanFromMeta_tileCount h

theorem Created.between [Inhabited K] {model : Model} {config : ClusterInferConfig} (hm : SizesFit model.config)
    (h : Created model config infer) : Between infer ∧ infer.fabric.config.tileCount = config.tileCount + 1 := by
  obtain ⟨host, kvInit, backend, h | h⟩ := h
  · obtain ⟨_, -, h⟩ := bind_eq_ok.mp h
    obtain ⟨bus, hbus, h⟩ := bind_eq_ok.mp h
    obtain ⟨-, h⟩ := rejectIf_bind_eq_ok.mp h
    obtain ⟨plan, hplan, h⟩ := bind_eq_ok.mp h
    exact between_of_build hm hbus (createPlan_tileCount hplan) h
  · obtain ⟨_, -, h⟩ := bind_eq_ok.mp h
    obtain ⟨-, h⟩ := rejectIf_bind_eq_ok.mp h
    obtain ⟨-, h⟩ := rejectIf_bind_eq_ok.mp h
    obtain ⟨bus, hbus, h⟩ := bind_eq_ok.mp h
    obtain ⟨-, h⟩ := rejectIf_bind_eq_ok.mp h
    obtain ⟨plan, hplan, h⟩ := bind_eq_ok.mp h
    obtain ⟨built, hbuilt, h⟩ := bind_eq_ok.mp h
    obtain ⟨q4, -, h⟩ := bind_eq_ok.mp h
    cases h
    obtain ⟨⟨⟨h1, h2, h3, h4⟩, hidle⟩, htiles⟩ := between_of_build hm hbus (shardPlanBuild_tileCount hplan) hbuilt
    exact ⟨⟨⟨h1, h2, h3, h4⟩, hidle⟩, htiles⟩

/-- A call on a context. -/
inductive Call (K : Type)
  | decodeToken (host : Host) (kernels : Kernels K) (tokenId : ℕ)
  | setBackend (host : Host) (quantize : Quantizer) (backend : Option Backend)

/-- A call with the status it returned. -/
structure Event (K : Type) where
  call : Call K
  status : Status

/-- The status of a call and the context it leaves. -/
def outcome {α : Type} (m : ClusterM K α) (infer : ClusterInfer K) : Status × ClusterInfer K :=
  match m.exec infer with
  | (.ok _, t) => (.ok, t)
  | (.error e, t) => (e, t)

def Call.run (infer : ClusterInfer K) : Call K → Status × ClusterInfer K
  | .decodeToken host kernels tokenId => outcome (ClusterInfer.decodeToken host kernels tokenId) infer
  | .setBackend host quantize backend => outcome (ClusterInfer.setBackend host quantize backend) infer

/-- One call. -/
def Step (infer : ClusterInfer K) (e : Event K) (infer' : ClusterInfer K) : Prop :=
  e.call.run infer = (e.status, infer')

/-- A list of calls, each with the status it returns, and the context they leave. -/
def runCalls (infer : ClusterInfer K) : List (Call K) → List (Event K) × ClusterInfer K
  | [] => ([], infer)
  | call :: rest =>
    let r := call.run infer
    let later := runCalls r.2 rest
    (⟨call, r.1⟩ :: later.1, later.2)

theorem run_runCalls (infer : ClusterInfer K) (calls : List (Call K)) :
    Run Step infer (runCalls infer calls).1 (runCalls infer calls).2 := by
  induction calls generalizing infer with
  | nil => exact Run.nil
  | cons call rest ih => exact Run.cons rfl (ih _)

def Event.IsDecode (e : Event K) : Prop := ∃ host kernels tokenId, e.call = .decodeToken host kernels tokenId

theorem outcome_of_ends {α : Type} {m : ClusterM K α} {E : Status → ClusterInfer K → Prop} {status : Status}
    {infer' : ClusterInfer K} (h : Ends m infer (fun _ => AtRest base) E) (hE : ∀ e t, E e t → AtRest base t)
    (ho : outcome m infer = (status, infer')) : AtRest base infer' ∧ (status = .ok ∨ E status infer') := by
  unfold outcome at ho
  unfold Ends at h
  rcases hm : m.exec infer with ⟨_ | a, t⟩
  · rw [hm] at h ho
    cases ho
    exact ⟨hE _ _ h, Or.inr h⟩
  · rw [hm] at h ho
    cases ho
    exact ⟨h, Or.inl rfl⟩

/-- One call keeps the fabric empty; a decode does not fail for what is on it. -/
theorem step_between {infer' : ClusterInfer K} {e : Event K} (h : Between infer) (hs : Step infer e infer') :
    AtRest infer infer' ∧ (e.IsDecode → ¬ FabricFailure e.status) := by
  obtain ⟨call, status⟩ := e
  cases call with
  | decodeToken host kernels tokenId =>
    obtain ⟨hrest, hstatus⟩ := outcome_of_ends (decodeToken_ends h) (fun _ _ he => ⟨he.1, he.2.1⟩) hs
    refine ⟨hrest, fun _ => ?_⟩
    rcases hstatus with rfl | he
    · simp [FabricFailure]
    · exact he.2.2
  | setBackend host quantize backend =>
    obtain ⟨hrest, -⟩ :=
      outcome_of_ends (setBackend_ends ⟨SameSetup.refl infer, h.idle⟩) (fun _ _ he => he) hs
    exact ⟨hrest, fun ⟨_, _, _, hcall⟩ => by cases hcall⟩

/-- **No residue between tokens.**  After any run of decodes and backend changes, each of which may have failed at any
point, no packet is on the fabric, no send or receive on it has ever failed, and no decode has failed for a full or
empty queue or an unexpected packet. -/
theorem queues_empty_between_decodes [Inhabited K] {model : Model} {config : ClusterInferConfig}
    {infer₀ : ClusterInfer K} {es : List (Event K)} (hm : SizesFit model.config)
    (h₀ : Created model config infer₀) (hr : Run Step infer₀ es infer) :
    (∀ tile ≤ config.tileCount, infer.fabric.pending tile = []) ∧ infer.fabric.Unfailing ∧
      ∀ e ∈ es, e.IsDecode → ¬ FabricFailure e.status := by
  obtain ⟨hbetween, hcount⟩ := h₀.between hm
  let Inv : List (Event K) → ClusterInfer K → Prop := fun es infer =>
    AtRest infer₀ infer ∧ ∀ e ∈ es, e.IsDecode → ¬ FabricFailure e.status
  have hInv : Inv es infer := by
    refine Run.invariant ⟨⟨SameSetup.refl infer₀, hbetween.idle⟩, by simp⟩ ?_ hr
    rintro es t e u - ⟨⟨hsame, hidle⟩, hstatus⟩ hs
    obtain ⟨⟨hsame', hidle'⟩, hnew⟩ := step_between ⟨hsame.fits hbetween.fits, hidle⟩ hs
    refine ⟨⟨⟨hsame'.model.trans hsame.model, hsame'.shardPlan.trans hsame.shardPlan,
      hsame'.hostTileId.trans hsame.hostTileId, hsame'.config.trans hsame.config⟩, hidle'⟩, fun e' he' => ?_⟩
    rcases List.mem_append.mp he' with hold | hlast
    · exact hstatus e' hold
    · rw [List.mem_singleton.mp hlast]
      exact hnew
  obtain ⟨⟨hsame, hidle⟩, hstatus⟩ := hInv
  refine ⟨fun tile htile => hidle.pending tile ?_, hidle.unfailing, hstatus⟩
  rw [hsame.config, hcount]
  omega

/-- A decoder of one layer, whose matrices nothing is read from. -/
def sampleModel : Model :=
  let f32 (name : String) (ndims dim0 dim1 : ℕ) : ModelTensor :=
    { name := ascii name, dtype := dtypeF32, ndims := ndims
      shape := fun i => if i.val = 0 then dim0 else if i.val = 1 then dim1 else 1
      offset := 0, nbytes := 0, shardId := 0, flags := 0, data := some 0 }
  { config := { vocabSize := 3, nLayers := 1, nHeads := 1, dModel := 2, dFf := 4, maxSeqLen := 8 }
    tensors :=
      [f32 "tok_embeddings.weight" 2 3 2, f32 "output_norm.weight" 1 2 1, f32 "output.weight" 2 2 3,
        f32 "layers.0.attention_norm.weight" 1 2 1, f32 "layers.0.attention.wq.weight" 2 2 2,
        f32 "layers.0.attention.wk.weight" 2 2 2, f32 "layers.0.attention.wv.weight" 2 2 2,
        f32 "layers.0.attention.wo.weight" 2 2 2, f32 "layers.0.ffn_norm.weight" 1 2 1,
        f32 "layers.0.ffn.w_gate.weight" 2 2 4, f32 "layers.0.ffn.w_up.weight" 2 2 4,
        f32 "layers.0.ffn.w_down.weight" 2 4 2] }

/-- Kernels that all return, but for the block if `ok` is false. -/
def sampleKernels (ok : Bool) : Kernels Unit where
  blockForward _ _ _ kv hidden := ⟨kv, hidden, ok⟩
  rmsnormF32 hidden _ _ _ := (hidden, true)
  matmul _ norm _ _ := (norm, true)
  sync := true
  samplerGreedyF32 _ _ := some 0

/-- A context with two tiles, the second of them without a layer. -/
def sampleInfer : Except Status (ClusterInfer Unit) :=
  create .generous (fun _ _ _ _ => some ()) (.ok ⟨some "cpu-f32", fun _ => true⟩) sampleModel { tileCount := 2 }

def sampleCalls : List (Call Unit) :=
  [.decodeToken .generous (sampleKernels false) 1, .decodeToken .generous (sampleKernels true) 1]

/-- A decode that fails in a block, then one that succeeds. -/
theorem queues_empty_after_failed_block : ∃ infer₀ infer : ClusterInfer Unit, ∃ es,
    Created sampleModel { tileCount := 2 } infer₀ ∧ Run Step infer₀ es infer ∧
      es.map Event.status = [.state, .ok] ∧ (∀ tile ≤ 2, infer.fabric.pending tile = []) ∧ infer.fabric.Unfailing ∧
        ∀ e ∈ es, e.IsDecode → ¬ FabricFailure e.status := by
  have hstatus : (sampleInfer.toOption.map fun infer => (runCalls infer sampleCalls).1.map Event.status) =
      some [.state, .ok] := by decide +kernel
  obtain ⟨infer₀, hinfer, hstatus⟩ := Option.map_eq_some_iff.mp hstatus
  have h₀ : Created sampleModel { tileCount := 2 } infer₀ := ⟨_, _, _, Or.inl (toOption_eq_some.mp hinfer)⟩
  have hr := run_runCalls infer₀ sampleCalls
  exact ⟨infer₀, _, _, h₀, hr, hstatus, queues_empty_between_decodes ⟨by decide, by decide⟩ h₀ hr⟩

end ClusterInfer

end Att1
