import Att1.Cluster.Residue
import Att1.Cluster.Single
import Att1.Cluster.Visits
import Att1.Lib.Paired

/-!
# Att1.Cluster.Simulation — a decode over tiles is a decode on one device

* `ClusterInfer.toSingle`: the context that a single device would have.
* `decodeToken_alike`: a decode over the tiles ends as the decode of the single device through the visited layers does,
  wherever it stops, and leaves the same context; `generate_alike` and `setBackend_alike` say so of the other calls.
-/

open Att1.Lib Att1.Lib.Fallible Att1.ModelFile

namespace Att1.ClusterInfer

variable {K : Type} {base infer : ClusterInfer K} {single : SingleInfer K}

/-- The context of a single device: what is left without the plan, the fabric and the counters. -/
def toSingle (infer : ClusterInfer K) : SingleInfer K :=
  ⟨infer.model, infer.layerKv, infer.hidden, infer.nextHidden, infer.norm, infer.logits, infer.backend, infer.q8,
    infer.q4, infer.position⟩

/-- Nothing is on the fabric, and the contexts agree. -/
def Local (base infer : ClusterInfer K) (single : SingleInfer K) : Prop :=
  AtRest base infer ∧ infer.toSingle = single

/-- What `target` waits for is on the fabric: a copy of the buffer it will be stored in. -/
def InTransit (base : ClusterInfer K) (target : ℕ) (type : PacketType) (payloadBytes : ℕ)
    (buffer : ClusterInfer K → ℕ → UInt8) (infer : ClusterInfer K) (single : SingleInfer K) : Prop :=
  SameSetup base infer ∧ infer.toSingle = single ∧
    ∃ m, infer.fabric.Carries target m ∧ m.packet.type = type ∧ m.packet.payloadBytes = payloadBytes ∧
      m.payload = readBlock (buffer infer) 0 payloadBytes

theorem Local.of_same (h : AtRest base infer) : Local base infer infer.toSingle := ⟨h, rfl⟩

/-! ### The fabric -/

variable {source target tile payloadBytes : ℕ} {type : PacketType} {buffer : ClusterInfer K → ℕ → UInt8}

/-- A send on an idle fabric puts the buffer on it. -/
theorem exec_sendPayload (type : PacketType) (buffer : ClusterInfer K → ℕ → UInt8) (h : Local base infer single)
    (hbuffer : ∀ f, buffer { infer with fabric := f } = buffer infer)
    (hs : source < base.fabric.config.tileCount) (ht : target < base.fabric.config.tileCount)
    (hpay : payloadBytes ≤ base.fabric.config.maxPayloadBytes) :
    ∃ infer', (sendPayload source target type buffer payloadBytes).exec infer = (.ok (), infer') ∧
      InTransit base target type payloadBytes buffer infer' single := by
  obtain ⟨⟨hsame, hidle⟩, hsingle⟩ := h
  rw [← hsame.config] at hs ht hpay
  have hvalid : infer.fabric.payloadValid (some (buffer infer)) payloadBytes = true :=
    Fabric.payloadValid_iff.mpr ⟨hpay, fun _ => rfl⟩
  obtain ⟨hok, hconfig, hcarries⟩ := @Fabric.send_idle infer.fabric source target payloadBytes infer.position type
    (some (buffer infer)) hidle hs ht hvalid
  let sent := infer.fabric.send source target type (some (buffer infer)) payloadBytes infer.position
  refine ⟨{ infer with fabric := sent.1 }, ?_, ?_, hsingle, _, hcarries, rfl, rfl, ?_⟩
  · have hexec : (sendPayload source target type buffer payloadBytes).exec infer =
        (failIf (sent.2 ≠ .ok) sent.2 : ClusterM K Unit).exec { infer with fabric := sent.1 } := rfl
    rw [hexec]
    exact exec_failIf (not_not.mpr hok)
  · exact ⟨hsame.model, hsame.shardPlan, hsame.hostTileId, hconfig.trans hsame.config⟩
  · exact congrArg (readBlock · 0 payloadBytes) (hbuffer _).symm

/-- Storing a copy of a buffer in the buffer changes nothing. -/
theorem storePayload_readBlock (buffer : ℕ → UInt8) (n : ℕ) : storePayload buffer (readBlock buffer 0 n) = buffer := by
  funext i
  unfold storePayload readBlock
  rw [List.getD_eq_getElem?_getD]
  by_cases hi : i < n
  · rw [List.getElem?_map, List.getElem?_range hi, Option.map_some, Option.getD_some, Nat.zero_add]
  · rw [List.getElem?_eq_none (by simpa using hi), Option.getD_none]

/-- The receive that is waited for takes the copy off the fabric again and so leaves the context as it was. -/
theorem exec_receivePayload {store : ClusterInfer K → List UInt8 → ClusterInfer K} (hstore : StoresMemory store)
    (hback : ∀ infer f, (store { infer with fabric := f } (readBlock (buffer infer) 0 payloadBytes)).toSingle =
      infer.toSingle)
    (h : InTransit base tile type payloadBytes buffer infer single) :
    ∃ infer', (receivePayload tile type payloadBytes store).exec infer = (.ok (), infer') ∧
      Local base infer' single := by
  obtain ⟨hsame, hsingle, m, hcarries, htype, hbytes, hpayload⟩ := h
  obtain ⟨hok, hconfig, hidle⟩ := Fabric.receive_carries hcarries hbytes.le
  let received := infer.fabric.receive tile true true payloadBytes
  refine ⟨store { infer with fabric := received.1 } m.payload, ?_, ⟨?_, ?_⟩, ?_⟩
  · unfold receivePayload
    rw [exec_bind_of_ok (m := get) rfl, exec_bind_of_ok (m := set _) rfl, hok, exec_bind_of_ok (m := modify _) rfl]
    exact exec_failIf (by simp [htype, hbytes])
  · obtain ⟨hs, -⟩ := hstore { infer with fabric := received.1 } m.payload
    exact ⟨hs.model.trans hsame.model, hs.shardPlan.trans hsame.shardPlan, hs.hostTileId.trans hsame.hostTileId,
      hs.config.trans (hconfig.trans hsame.config)⟩
  · rw [(hstore { infer with fabric := received.1 } m.payload).2]
    exact hidle
  · rw [hpayload, hback, hsingle]

/-! ### The steps of a decode -/

variable {kernels : Kernels K} {layer : ℕ}

/-- A layer does the same on both sides. -/
theorem runLayer_alike (h : Local base infer single) :
    Alike (runLayer kernels tile layer) infer (SingleInfer.runLayer kernels layer) single
      (fun _ _ => Local base) (Local base) := by
  obtain ⟨⟨hsame, hidle⟩, rfl⟩ := h
  refine alike_get (alike_ofExcept (fun weights _ => ?_) fun _ _ => .of_same ⟨hsame, hidle⟩)
  refine alike_set (alike_failIf (fun _ => ?_) fun _ => ?_)
  · exact ⟨⟨⟨hsame.model, hsame.shardPlan, hsame.hostTileId, hsame.config⟩, hidle⟩, rfl⟩
  · exact ⟨⟨⟨hsame.model, hsame.shardPlan, hsame.hostTileId, hsame.config⟩, hidle⟩, rfl⟩

theorem forM_runLayer_alike {layers : List ℕ} (h : Local base infer single) :
    Alike (layers.forM (runLayer kernels tile)) infer (layers.forM (SingleInfer.runLayer kernels)) single
      (fun _ _ => Local base) (Local base) :=
  alike_forM (fun _ => Local base) (fun _ _ _ _ h => runLayer_alike h) h

/-- So do the norm, the last product and the sync. -/
theorem runOutput_alike {outputNorm : Option ℕ} {outputWeight : OutputWeight} (h : Local base infer single) :
    Alike (runOutput kernels outputNorm outputWeight) infer
      (SingleInfer.runOutput kernels outputNorm outputWeight) single (fun _ _ => Local base) (Local base) := by
  obtain ⟨⟨hsame, hidle⟩, rfl⟩ := h
  have hkept : ∀ norm logits, Local base { infer with norm := norm, logits := logits }
      { infer.toSingle with norm := norm, logits := logits } := fun _ _ =>
    ⟨⟨⟨hsame.model, hsame.shardPlan, hsame.hostTileId, hsame.config⟩, hidle⟩, rfl⟩
  refine alike_get (alike_set (alike_failIf (fun _ => hkept _ _) fun _ => ?_))
  refine alike_modify (alike_failIf (fun _ => hkept _ _) fun _ => ?_)
  rw [← bind_pure (failIf _ _ : ClusterM K Unit), ← bind_pure (failIf _ _ : SingleM K Unit)]
  exact alike_failIf (fun _ => hkept _ _) fun _ => alike_pure (hkept _ _)

/-! ### One decode -/

/-- What tile `k` waits for: the activation, or after the last tile what the host waits for. -/
def Hands (base : ClusterInfer K) (k : ℕ) (infer : ClusterInfer K) (single : SingleInfer K) : Prop :=
  if k < base.shardPlan.tileCount then InTransit base k .activation base.dModelBytes hidden infer single
  else InTransit base base.hostTileId .logits base.logitsBytes logits infer single

/-- The counters of a tile are not part of what is compared. -/
theorem Local.countTile {count : ClusterTileCounters → ClusterTileCounters} (h : Local base infer single) :
    Local base (infer.countTile tile count) single :=
  ⟨⟨⟨h.1.1.model, h.1.1.shardPlan, h.1.1.hostTileId, h.1.1.config⟩, h.1.2⟩, h.2⟩

theorem InTransit.countTile {count : ClusterTileCounters → ClusterTileCounters}
    (hbuffer : buffer (infer.countTile tile count) = buffer infer)
    (h : InTransit base target type payloadBytes buffer infer single) :
    InTransit base target type payloadBytes buffer (infer.countTile tile count) single := by
  obtain ⟨hsame, hsingle, m, hcarries, htype, hbytes, hpayload⟩ := h
  exact ⟨⟨hsame.model, hsame.shardPlan, hsame.hostTileId, hsame.config⟩, hsingle, m, hcarries, htype, hbytes,
    by rw [hpayload, hbuffer]⟩

variable {outputNorm : Option ℕ} {outputWeight : OutputWeight}

/-- The part of a tile that comes before what it sends: the receive and its layers. -/
theorem receiveAndRun_alike {α β : Type} {k : PUnit → ClusterM K α} {l : PUnit → SingleM K β}
    {Q : α → β → ClusterInfer K → SingleInfer K → Prop}
    (h : InTransit base tile .activation base.dModelBytes hidden infer single)
    (hk : ∀ infer' single', Local base infer' single' → Alike (k ()) infer' (l ()) single' Q (Local base)) :
    Alike
      (receivePayload tile .activation base.dModelBytes storeHidden >>= fun _ =>
        modify (fun infer => infer.countTile tile fun c =>
            { c with activationsReceived := c.activationsReceived + 1 }) >>=
          fun _ => (base.shardPlan.layersOf tile).forM (runLayer kernels tile) >>= k)
      infer ((base.shardPlan.layersOf tile).forM (SingleInfer.runLayer kernels) >>= l) single Q (Local base) := by
  obtain ⟨received, hexec, hlocal⟩ := exec_receivePayload storesMemory_hidden (fun infer f => by
    show SingleInfer.mk _ _ (storePayload infer.hidden _) _ _ _ _ _ _ _ = _
    rw [storePayload_readBlock]
    rfl) h
  refine alike_left hexec (alike_left rfl (alike_bind ?_))
  exact (forM_runLayer_alike hlocal.countTile).mono (fun _ _ _ _ h' => hk _ _ h') fun _ _ he => he

/-- A tile before the last hands its activation on. -/
theorem runTile_alike (hfits : base.Fits) (hcount : base.fabric.config.tileCount ≤ uint32Max)
    (hnext : tile + 1 < base.shardPlan.tileCount) (h : Hands base tile infer single) :
    Alike (runTile kernels outputNorm outputWeight tile) infer
      ((base.shardPlan.layersOf tile).forM (SingleInfer.runLayer kernels)) single
      (fun _ _ => Hands base (tile + 1)) (Local base) := by
  unfold Hands at h
  rw [if_pos (by omega)] at h
  have hsame : SameSetup base infer := h.1
  have hlt : tile < base.fabric.config.tileCount := hfits.tile_lt tile (by omega)
  have hlt' : tile + 1 < base.fabric.config.tileCount := hfits.tile_lt _ hnext
  have hcast : uint32 tile = tile := uint32_eq (by omega)
  have hcast' : uint32 (tile + 1) = tile + 1 := uint32_eq (by omega)
  rw [← bind_pure (List.forM _ _)]
  refine alike_left (m := get) rfl ?_
  rw [hsame.dModelBytes_eq, hcast, hsame.shardPlan, hcast']
  refine receiveAndRun_alike h fun infer' single' hlocal => ?_
  rw [if_pos hnext]
  obtain ⟨sent, hexec, hsent⟩ := exec_sendPayload .activation hidden hlocal (fun _ => rfl) hlt hlt'
    hfits.hidden_le
  refine alike_left hexec ?_
  show Hands base (tile + 1) (sent.countTile tile _) single'
  unfold Hands
  rw [if_pos hnext]
  exact hsent.countTile rfl

/-- The last tile sends the logits to the host. -/
theorem runLastTile_alike (hfits : base.Fits) (hcount : base.fabric.config.tileCount ≤ uint32Max)
    (hlast : tile + 1 = base.shardPlan.tileCount) (h : Hands base tile infer single) :
    Alike (runTile kernels outputNorm outputWeight tile) infer
      ((base.shardPlan.layersOf tile).forM (SingleInfer.runLayer kernels) >>= fun _ =>
        SingleInfer.runOutput kernels outputNorm outputWeight) single
      (fun _ _ => Hands base (tile + 1)) (Local base) := by
  unfold Hands at h
  rw [if_pos (by omega)] at h
  have hsame : SameSetup base infer := h.1
  have hlt : tile < base.fabric.config.tileCount := hfits.tile_lt tile (by omega)
  have hcast : uint32 tile = tile := uint32_eq (by omega)
  refine alike_left (m := get) rfl ?_
  rw [hsame.dModelBytes_eq, hcast, hsame.shardPlan, hsame.hostTileId, hsame.logitsBytes_eq]
  refine receiveAndRun_alike h fun infer' single' hlocal => ?_
  rw [if_neg (by omega), ← bind_pure (SingleInfer.runOutput _ _ _)]
  refine alike_bind ((runOutput_alike hlocal).mono (fun _ _ s t hout => ?_) fun _ _ he => he)
  obtain ⟨sent, hexec, hsent⟩ := exec_sendPayload .logits logits hout (fun _ => rfl) hlt hfits.host_lt hfits.logits_le
  refine alike_left hexec ?_
  show Hands base (tile + 1) (sent.countTile tile _) t
  unfold Hands
  rw [if_neg (by omega)]
  exact hsent.countTile rfl

/-- **One decode.**  Over the tiles of a plan it ends as on a single device that runs the layers in the order in which
the tiles do, with the same token or the same error, and the same context is left wherever it stopped. -/
theorem decodeToken_alike {host : Host} {tokenId : ℕ} (h : Between base) (hplan : base.planComplete host = true) :
    Alike (decodeToken host kernels tokenId) base
      (SingleInfer.decodeThrough base.shardPlan.visited kernels tokenId) base.toSingle
      (fun token token' infer single => token = token' ∧ Local base infer single) (Local base) := by
  have hrest : Local base base base.toSingle := .of_same ⟨SameSetup.refl base, h.idle⟩
  have hcount := h.idle.wellFormed.tileCount_le
  have htiles : 0 < base.shardPlan.tileCount := by
    refine Nat.pos_of_ne_zero fun h0 => ?_
    unfold planComplete at hplan
    rw [if_pos (Or.inl h0)] at hplan
    cases hplan
  obtain ⟨n, hn⟩ := Nat.exists_eq_succ_of_ne_zero htiles.ne'
  refine alike_get (alike_failIf (fun _ => hrest) fun _ => ?_)
  refine alike_left (exec_failIf (not_not.mpr hplan)) ?_
  refine alike_ofExcept (fun embedding _ => alike_ofExcept (fun output _ => alike_modify ?_) fun _ _ => hrest)
    fun _ _ => hrest
  have hembed : Local base (base.embedToken embedding tokenId) (base.toSingle.embedToken embedding tokenId) :=
    ⟨⟨⟨rfl, rfl, rfl, rfl⟩, h.idle⟩, rfl⟩
  obtain ⟨sent, hexec, hsent⟩ := exec_sendPayload .activation hidden hembed (fun _ => rfl) h.fits.host_lt
    (h.fits.tile_lt 0 htiles) h.fits.hidden_le
  refine alike_left hexec ?_
  have hvisited : base.shardPlan.visited =
      (List.range n).flatMap base.shardPlan.layersOf ++ base.shardPlan.layersOf n := by
    unfold ShardPlan.visited
    rw [hn, List.range_succ, List.flatMap_append, List.flatMap_singleton]
  have hrange : (base.embedToken embedding tokenId).shardPlan.tileCount = n + 1 := hn
  show Alike ((List.range base.shardPlan.tileCount).forM (runTile kernels output.1 output.2) >>= _) sent
    (base.shardPlan.visited.forM (SingleInfer.runLayer kernels) >>= _) _ _ _
  rw [hvisited, hn, List.range_succ, forM_append_bind, forM_append_bind, forM_singleton_bind, forM_flatMap]
  -- the tiles but the last one
  let I : List ℕ → ClusterInfer K → SingleInfer K → Prop := fun rest s t =>
    ∃ k, rest = List.range' k (n - k) ∧ k ≤ n ∧ Hands base k s t
  have hI : I (List.range n) sent (base.toSingle.embedToken embedding tokenId) := by
    refine ⟨0, List.range_eq_range', Nat.zero_le _, ?_⟩
    unfold Hands
    rw [if_pos htiles]
    exact hsent
  refine alike_bind ((alike_forM I (fun tile rest s t hs => ?_) hI).mono (fun _ _ s t hs => ?_) fun _ _ he => he)
  · obtain ⟨k, hrest', hk, hhands⟩ := hs
    obtain ⟨r, hr⟩ : ∃ r, n - k = r + 1 := Nat.exists_eq_succ_of_ne_zero fun h0 => by simp [h0] at hrest'
    rw [hr, List.range'_succ] at hrest'
    obtain ⟨rfl, rfl⟩ := List.cons.inj hrest'
    refine (runTile_alike h.fits hcount (by omega) hhands).mono (fun _ _ u v hu => ?_) fun _ _ he => he
    exact ⟨tile + 1, by rw [show n - (tile + 1) = r by omega], by omega, hu⟩
  · obtain ⟨k, hrest', hk, hhands⟩ := hs
    have hend : n - k = 0 := by simpa using congrArg List.length hrest'.symm
    obtain rfl : k = n := by omega
    rw [← bind_assoc (List.forM (base.shardPlan.layersOf k) _)]
    refine alike_bind ((runLastTile_alike h.fits hcount (by omega) hhands).mono (fun _ _ u v hu => ?_) fun _ _ he => he)
    unfold Hands at hu
    rw [if_neg (by omega)] at hu
    obtain ⟨received, hexec', hlocal⟩ := exec_receivePayload storesMemory_logits (fun infer f => by
      show SingleInfer.mk _ _ _ _ _ (storePayload infer.logits _) _ _ _ _ = _
      rw [storePayload_readBlock]
      rfl) hu
    refine alike_left hexec' ?_
    obtain ⟨⟨hsame, hidle⟩, rfl⟩ := hlocal
    have hsampled : kernels.samplerGreedyF32 received.toSingle.logits base.toSingle.model.config.vocabSize =
        kernels.samplerGreedyF32 received.logits base.model.config.vocabSize := rfl
    refine alike_get ?_
    rw [hsampled]
    cases kernels.samplerGreedyF32 received.logits base.model.config.vocabSize with
    | none => exact alike_throw ⟨⟨hsame, hidle⟩, rfl⟩
    | some token =>
      exact alike_modify (alike_pure
        ⟨rfl, ⟨⟨hsame.model, hsame.shardPlan, hsame.hostTileId, hsame.config⟩, hidle⟩, rfl⟩)

/-! ### The other calls -/

theorem prepareQ8_alike {host : Host} {quantize : Quantizer} (h : Local base infer single) :
    Alike (prepareQ8 host quantize) infer (SingleInfer.prepareQ8 host quantize) single (fun _ _ => Local base)
      (Local base) := by
  obtain ⟨⟨hsame, hidle⟩, rfl⟩ := h
  refine alike_get ?_
  show Alike (if infer.q8.isSome then _ else _) infer (if infer.q8.isSome then _ else _) infer.toSingle _ _
  by_cases hready : infer.q8.isSome = true
  · rw [if_pos hready, if_pos hready]
    exact alike_pure ⟨⟨hsame, hidle⟩, rfl⟩
  · rw [if_neg hready, if_neg hready]
    refine alike_ofExcept (fun q8 _ => ?_) fun _ _ => .of_same ⟨hsame, hidle⟩
    exact ⟨⟨⟨hsame.model, hsame.shardPlan, hsame.hostTileId, hsame.config⟩, hidle⟩, rfl⟩

theorem prepareQ4_alike {host : Host} (h : Local base infer single) :
    Alike (prepareQ4 host) infer (SingleInfer.prepareQ4 host) single (fun _ _ => Local base) (Local base) := by
  obtain ⟨⟨hsame, hidle⟩, rfl⟩ := h
  refine alike_get ?_
  show Alike (if infer.q4.isSome then _ else _) infer (if infer.q4.isSome then _ else _) infer.toSingle _ _
  by_cases hready : infer.q4.isSome = true
  · rw [if_pos hready, if_pos hready]
    exact alike_pure ⟨⟨hsame, hidle⟩, rfl⟩
  · rw [if_neg hready, if_neg hready]
    refine alike_ofExcept (fun q4 _ => ?_) fun _ _ => .of_same ⟨hsame, hidle⟩
    exact ⟨⟨⟨hsame.model, hsame.shardPlan, hsame.hostTileId, hsame.config⟩, hidle⟩, rfl⟩

/-- A change of the backend. -/
theorem setBackend_alike {host : Host} {quantize : Quantizer} {backend : Option Backend} (h : Local base infer single) :
    Alike (setBackend host quantize backend) infer (SingleInfer.setBackend host quantize backend) single
      (fun _ _ => Local base) (Local base) := by
  cases backend with
  | none => exact alike_throw h
  | some backend =>
    have hset : ∀ s t, Local base s t →
        Alike (modify fun infer => { infer with backend := backend } : ClusterM K PUnit) s
          (modify fun infer => { infer with backend := backend } : SingleM K PUnit) t
          (fun _ _ => Local base) (Local base) := by
      rintro s t ⟨⟨hsame, hidle⟩, rfl⟩
      exact ⟨⟨⟨hsame.model, hsame.shardPlan, hsame.hostTileId, hsame.config⟩, hidle⟩, rfl⟩
    unfold setBackend SingleInfer.setBackend
    by_cases hq4 : backend.isQ4 = true
    · simp only [if_pos hq4]
      refine alike_failIf (fun _ => h) fun _ => alike_bind ?_
      exact (prepareQ4_alike h).mono (fun _ _ s t h' => hset s t h') fun _ _ he => he
    · by_cases hq8 : backend.isQ8 = true
      · simp only [if_neg hq4, if_pos hq8]
        refine alike_failIf (fun _ => h) fun _ => alike_bind ?_
        exact (prepareQ8_alike h).mono (fun _ _ s t h' => hset s t h') fun _ _ he => he
      · simp only [if_neg hq4, if_neg hq8]
        exact hset infer single h

/-- Decodes that end alike from all states that agree. -/
def DecodesAlike (base : ClusterInfer K) (decode : ℕ → ClusterM K ℕ) (decode' : ℕ → SingleM K ℕ) : Prop :=
  ∀ infer single token, Local base infer single →
    Alike (decode token) infer (decode' token) single
      (fun token token' infer single => token = token' ∧ Local base infer single) (Local base)

variable {decode : ℕ → ClusterM K ℕ} {decode' : ℕ → SingleM K ℕ}

theorem generateTokens_alike (hdecode : DecodesAlike base decode decode') {count token : ℕ}
    (h : Local base infer single) :
    Alike (generateTokens decode count token) infer (generateTokens decode' count token) single
      (fun tokens tokens' infer single => tokens = tokens' ∧ Local base infer single) (Local base) := by
  induction count generalizing infer single token with
  | zero => exact alike_pure ⟨rfl, h⟩
  | succ count ih =>
    cases count with
    | zero => exact alike_pure ⟨rfl, h⟩
    | succ count =>
      refine alike_bind ((hdecode infer single token h).mono (fun next next' s t hnext => ?_) fun _ _ he => he)
      obtain ⟨rfl, hlocal⟩ := hnext
      refine alike_bind ((ih hlocal).mono (fun tokens tokens' u v htokens => ?_) fun _ _ he => he)
      obtain ⟨rfl, hlocal'⟩ := htokens
      exact alike_pure ⟨rfl, hlocal'⟩

/-- A prompt and the tokens after it. -/
theorem generate_alike (hdecode : DecodesAlike base decode decode') {prompt : List UInt8} {count capacity : ℕ}
    (h : Local base infer single) :
    Alike (generate decode prompt count capacity) infer (generate decode' prompt count capacity) single
      (fun tokens tokens' infer single => tokens = tokens' ∧ Local base infer single) (Local base) := by
  refine alike_failIf (fun _ => h) fun _ => alike_bind ?_
  refine (alike_foldlM (fun token token' s t => token = token' ∧ Local base s t) (fun _ _ byte s t hst => ?_)
    ⟨rfl, h⟩).mono (fun token token' s t hst => ?_) fun _ _ he => he
  · exact hdecode s t byte.toNat hst.2
  · obtain ⟨rfl, hlocal⟩ := hst
    exact generateTokens_alike hdecode hlocal

end Att1.ClusterInfer
