import Att1.Cluster.Simulation
import Att1.Shard.Balance

/-!
# Att1.Cluster.Sessions — a cluster and a single device answer every session alike

* `InferCall`, `session`: the calls on a context of either kind, and what a list of them returns.
* `default_cluster_agrees`: with the default plan a cluster is the single device.
* `metadata_cluster_agrees`: with a plan from metadata it is the single device that runs the layers in the order of the
  tiles, which is their own order exactly when no layer is on an earlier tile than a layer before it.
-/

open Att1.Lib Att1.Lib.Fallible Att1.ModelFile

namespace Att1

/-- A call on a context; the host is the allocator during the call. -/
inductive InferCall (K : Type)
  | decodeToken (host : Host) (kernels : Kernels K) (tokenId : ℕ)
  | generate (host : Host) (kernels : Kernels K) (prompt : List UInt8) (generatedTokenCount outTokenCapacity : ℕ)
  | setBackend (host : Host) (quantize : Quantizer) (backend : Option Backend)

/-- The allocator during a call. -/
def InferCall.host {K : Type} : InferCall K → Host
  | .decodeToken host _ _ => host
  | .generate host _ _ _ _ => host
  | .setBackend host _ _ => host

/-- The tokens that a call on a cluster stores. -/
def ClusterInfer.answer {K : Type} : InferCall K → ClusterM K (List ℕ)
  | .decodeToken host kernels tokenId => do
    let token ← ClusterInfer.decodeToken host kernels tokenId
    pure [token]
  | .generate host kernels prompt generatedTokenCount outTokenCapacity =>
    Att1.generate (ClusterInfer.decodeToken host kernels) prompt generatedTokenCount outTokenCapacity
  | .setBackend host quantize backend => do
    ClusterInfer.setBackend host quantize backend
    pure []

/-- The tokens that a call on a single device stores, if tokens are decoded by `decode`. -/
def SingleInfer.answerBy {K : Type} (decode : Kernels K → ℕ → SingleM K ℕ) : InferCall K → SingleM K (List ℕ)
  | .decodeToken _ kernels tokenId => do
    let token ← decode kernels tokenId
    pure [token]
  | .generate _ kernels prompt generatedTokenCount outTokenCapacity =>
    Att1.generate (decode kernels) prompt generatedTokenCount outTokenCapacity
  | .setBackend host quantize backend => do
    SingleInfer.setBackend host quantize backend
    pure []

/-- The tokens that a call on a single device stores. -/
def SingleInfer.answer {K : Type} : InferCall K → SingleM K (List ℕ) := answerBy SingleInfer.decodeToken

/-- What each of a list of calls returned, and the context left. -/
def session {K σ : Type} (answer : InferCall K → Fallible σ Status (List ℕ)) (s : σ) :
    List (InferCall K) → List (Except Status (List ℕ)) × σ
  | [] => ([], s)
  | call :: rest =>
    let r := (answer call).exec s
    let later := session answer r.2 rest
    (r.1 :: later.1, later.2)

namespace ClusterInfer

variable {K : Type} {base infer : ClusterInfer K} {single : SingleInfer K} {calls : List (InferCall K)}

/-! ### Sessions -/

/-- One call. -/
theorem answer_alike {decode : Kernels K → ℕ → SingleM K ℕ} {call : InferCall K}
    (hdecode : ∀ kernels, DecodesAlike base (ClusterInfer.decodeToken call.host kernels) (decode kernels))
    (h : Local base infer single) :
    Alike (ClusterInfer.answer call) infer (SingleInfer.answerBy decode call) single
      (fun tokens tokens' infer single => tokens = tokens' ∧ Local base infer single) (Local base) := by
  cases call with
  | decodeToken host kernels tokenId =>
    refine alike_bind ((hdecode kernels infer single tokenId h).mono (fun token token' s t hst => ?_) fun _ _ he => he)
    obtain ⟨rfl, hlocal⟩ := hst
    exact alike_pure ⟨rfl, hlocal⟩
  | generate host kernels prompt count capacity => exact generate_alike (hdecode kernels) h
  | setBackend host quantize backend =>
    exact alike_bind ((setBackend_alike h).mono (fun _ _ s t hst => alike_pure ⟨rfl, hst⟩) fun _ _ he => he)

/-- All calls. -/
theorem session_alike {decode : Kernels K → ℕ → SingleM K ℕ}
    (hdecode : ∀ call ∈ calls, ∀ kernels,
      DecodesAlike base (ClusterInfer.decodeToken call.host kernels) (decode kernels))
    (h : Local base infer single) :
    (session ClusterInfer.answer infer calls).1 = (session (SingleInfer.answerBy decode) single calls).1 ∧
      Local base (session ClusterInfer.answer infer calls).2
        (session (SingleInfer.answerBy decode) single calls).2 := by
  induction calls generalizing infer single with
  | nil => exact ⟨rfl, h⟩
  | cons call rest ih =>
    have hrest := fun call' hcall' => hdecode call' (List.mem_cons_of_mem _ hcall')
    unfold session
    rcases (answer_alike (hdecode call List.mem_cons_self) h).ends with
      ⟨tokens, _, s, t, hm, hn, rfl, hlocal⟩ | ⟨e, s, t, hm, hn, hlocal⟩
    · rw [hm, hn]
      obtain ⟨hanswers, hlast⟩ := ih hrest hlocal
      exact ⟨congrArg (Except.ok tokens :: ·) hanswers, hlast⟩
    · rw [hm, hn]
      obtain ⟨hanswers, hlast⟩ := ih hrest hlocal
      exact ⟨congrArg (Except.error e :: ·) hanswers, hlast⟩

/-! ### Decodes from every state of a session -/

/-- A decode from a state of a session, given the plan the session started with. -/
theorem decodeThrough_alike {host : Host} {kernels : Kernels K} (hbase : Between base)
    (hplan : base.shardPlan.Complete base.model.config.nLayers)
    (hgrant : host.calloc base.model.config.nLayers 1 = true) :
    DecodesAlike base (ClusterInfer.decodeToken host kernels)
      (SingleInfer.decodeThrough base.shardPlan.visited kernels) := by
  rintro infer single token ⟨⟨hsame, hidle⟩, rfl⟩
  have hcomplete : infer.planComplete host = true := by
    rw [planComplete_iff, hsame.shardPlan, hsame.model, hplan.layerCount_eq]
    exact ⟨hplan, hgrant⟩
  have hlift : ∀ s t, Local infer s t → Local base s t := fun s t h =>
    ⟨⟨⟨h.1.1.model.trans hsame.model, h.1.1.shardPlan.trans hsame.shardPlan, h.1.1.hostTileId.trans hsame.hostTileId,
      h.1.1.config.trans hsame.config⟩, h.1.2⟩, h.2⟩
  have hdecode := @decodeToken_alike K infer kernels host token ⟨hsame.fits hbase.fits, hidle⟩ hcomplete
  rw [hsame.shardPlan] at hdecode
  exact hdecode.mono (fun _ _ s t h => ⟨h.1, hlift s t h.2⟩) hlift

/-- If the layers are visited in order, the single device is the plain one. -/
theorem decodeInOrder_alike {host : Host} {kernels : Kernels K} (hbase : Between base)
    (hplan : base.shardPlan.Complete base.model.config.nLayers)
    (hgrant : host.calloc base.model.config.nLayers 1 = true)
    (horder : base.shardPlan.visited = List.range base.model.config.nLayers) :
    DecodesAlike base (ClusterInfer.decodeToken host kernels) (SingleInfer.decodeToken kernels) := by
  intro infer single token h
  have hdecode := @decodeThrough_alike K base host kernels hbase hplan hgrant infer single token h
  refine alike_right (n := get) rfl ?_
  have hmodel : single.model = base.model := by
    rw [← h.2]
    exact h.1.1.model
  rwa [hmodel, ← horder]

/-! ### Creation -/

/-- The fields of a model config that sizes and counts are computed from are `uint32_t`. -/
structure FieldsFit (config : ModelConfig) : Prop where
  sizes : SizesFit config
  nLayers_le : config.nLayers ≤ uint32Max

/-- The caches that both kinds of context start with. -/
theorem build_toSingle [Inhabited K] {host host' : Host} {kvInit : ℕ → ℕ → ℕ → ℕ → Option K}
    {backend : Except Status Backend} {model : Model} {tileCount : ℕ} {bus : FabricBusConfig} {plan : ShardPlan}
    (h : build host kvInit backend model tileCount bus plan = .ok infer)
    (h' : SingleInfer.build host' kvInit backend model = .ok single) : infer.toSingle = single := by
  unfold build at h
  obtain ⟨_, -, h⟩ := bind_eq_ok.mp h
  obtain ⟨b, hb, h⟩ := bind_eq_ok.mp h
  obtain ⟨-, h⟩ := rejectIf_bind_eq_ok.mp h
  obtain ⟨kv, hkv, h⟩ := bind_eq_ok.mp h
  obtain ⟨-, h'⟩ := rejectIf_bind_eq_ok.mp h'
  obtain ⟨b', hb', h'⟩ := bind_eq_ok.mp h'
  obtain ⟨-, h'⟩ := rejectIf_bind_eq_ok.mp h'
  obtain ⟨kv', hkv', h'⟩ := bind_eq_ok.mp h'
  cases h
  cases h'
  obtain rfl : b = b' := Except.ok.inj (hb.symm.trans hb')
  obtain rfl : kv = kv' := Except.ok.inj (hkv.symm.trans hkv')
  rfl

/-- Both kinds of context made from one model, by the plain constructors or by the q4 ones. -/
def CreatedBoth [Inhabited K] (model : Model) (config : ClusterInferConfig) (infer : ClusterInfer K)
    (single : SingleInfer K) : Prop :=
  ∃ host host' kvInit backend,
    create host kvInit backend model config = .ok infer ∧ SingleInfer.create host' kvInit backend model = .ok single ∨
      createQ4 host kvInit backend model config = .ok infer ∧
        SingleInfer.createQ4 host' kvInit backend model = .ok single

/-- The allocator does not decide what is loaded, only whether it is. -/
theorem loadQ4_unique {host host' : Host} {model : Model} {q4 q4' : QuantModel Q4Matrix}
    (h : loadQ4 host model = .ok q4) (h' : loadQ4 host' model = .ok q4') : q4 = q4' := by
  unfold loadQ4 at h h'
  obtain ⟨-, h⟩ := rejectIf_bind_eq_ok.mp h
  obtain ⟨-, h'⟩ := rejectIf_bind_eq_ok.mp h'
  exact Except.ok.inj (h.symm.trans h')

section

variable [Inhabited K] {model : Model} {config : ClusterInferConfig}

theorem CreatedBoth.created (h : CreatedBoth model config infer single) : Created model config infer := by
  obtain ⟨host, -, kvInit, backend, ⟨h, -⟩ | ⟨h, -⟩⟩ := h
  · exact ⟨host, kvInit, backend, .inl h⟩
  · exact ⟨host, kvInit, backend, .inr h⟩

/-- What the constructors leave: contexts that agree, and the plan that was asked for. -/
theorem CreatedBoth.setup (hm : SizesFit model.config) (h : CreatedBoth model config infer single) :
    infer.toSingle = single ∧ infer.model = model ∧ config.tileCount < uint32Max ∧
      ∃ host, createPlan host model config = .ok infer.shardPlan := by
  obtain ⟨host, host', kvInit, backend, ⟨h, h'⟩ | ⟨h, h'⟩⟩ := h
  · obtain ⟨_, -, h⟩ := bind_eq_ok.mp h
    obtain ⟨bus, hbus, h⟩ := bind_eq_ok.mp h
    obtain ⟨-, h⟩ := rejectIf_bind_eq_ok.mp h
    obtain ⟨plan, hplan, h⟩ := bind_eq_ok.mp h
    obtain ⟨_, -, h'⟩ := bind_eq_ok.mp h'
    obtain ⟨-, hmodel, hshard, -⟩ := build_ok h
    exact ⟨build_toSingle h h', hmodel, (fabricConfig_ok hm hbus).1, host, hshard ▸ hplan⟩
  · obtain ⟨_, -, h⟩ := bind_eq_ok.mp h
    obtain ⟨-, h⟩ := rejectIf_bind_eq_ok.mp h
    obtain ⟨hmode, h⟩ := rejectIf_bind_eq_ok.mp h
    obtain ⟨bus, hbus, h⟩ := bind_eq_ok.mp h
    obtain ⟨-, h⟩ := rejectIf_bind_eq_ok.mp h
    obtain ⟨plan, hplan, h⟩ := bind_eq_ok.mp h
    obtain ⟨built, hbuilt, h⟩ := bind_eq_ok.mp h
    obtain ⟨q4, hq4, h⟩ := bind_eq_ok.mp h
    obtain ⟨_, -, h'⟩ := bind_eq_ok.mp h'
    obtain ⟨built', hbuilt', h'⟩ := bind_eq_ok.mp h'
    obtain ⟨q4', hq4', h'⟩ := bind_eq_ok.mp h'
    cases h
    cases h'
    obtain ⟨-, hmodel, hshard, -⟩ := build_ok hbuilt
    obtain rfl := loadQ4_unique hq4 hq4'
    have hsingle : built.toSingle = built' := build_toSingle hbuilt hbuilt'
    refine ⟨?_, hmodel, (fabricConfig_ok hm hbus).1, host, ?_⟩
    · rw [← hsingle]
      rfl
    · unfold createPlan
      cases hmode' : config.shardPlanMode with
      | metadata => exact absurd hmode' hmode
      | runtime => exact hplan.trans (congrArg Except.ok hshard.symm)

/-- The plan of a context is complete; without metadata the layers are visited in order. -/
theorem createPlan_complete {host : Host} {plan : ShardPlan} (hm : FieldsFit model.config)
    (htiles : config.tileCount < uint32Max) (h : createPlan host model config = .ok plan) :
    plan.Complete model.config.nLayers ∧
      (config.shardPlanMode = .runtime → plan.visited = List.range model.config.nLayers) := by
  unfold createPlan at h
  cases hmode : config.shardPlanMode with
  | runtime =>
    rw [hmode] at h
    have hbuild := Buildable.of_ok h
    obtain ⟨plan', hplan', hshared⟩ := shardPlanBuild_shared hbuild.tiles.1 hbuild.tiles.2 hbuild.layers hm.nLayers_le
      hbuild.unsharded hbuild.granted.1 hbuild.granted.2
    obtain rfl : plan = plan' := Except.ok.inj (h.symm.trans hplan')
    exact ⟨hshared.complete hbuild.tiles.1, fun _ => hshared.visited_eq hbuild.tiles.1⟩
  | metadata =>
    rw [hmode] at h
    obtain ⟨-, h⟩ := rejectIf_bind_eq_ok.mp h
    obtain ⟨proposed, -, h⟩ := bind_eq_ok.mp h
    have hcalloc : host.calloc model.config.nLayers 4 = true ∧ host.calloc config.tileCount layerShardSize = true := by
      unfold shardPlanFromMeta at h
      simp only [rejectIf_bind_eq_ok, not_not] at h
      exact h.2.2.2.2.1
    obtain ⟨htiles', hlayers, hlength, -, placed, hplaced, -⟩ :=
      (shardPlanFromMeta_eq_ok hm.nLayers_le hcalloc.1 hcalloc.2).mp h
    have hentries := (entries_eq_of_placed hplaced).1
    rw [hlength] at hentries
    obtain ⟨hiff, hall⟩ := shardPlanFromMeta_owners (by omega) htiles.le (by omega) hm.nLayers_le hentries hcalloc.1
      hcalloc.2
    refine ⟨(hall plan h).complete (by omega) (hiff.mp ⟨plan, h⟩).2.1, fun hruntime => ?_⟩
    cases hruntime

/-! ### The agreement -/

/-- What is known of two contexts when a session starts. -/
theorem CreatedBoth.start (hm : FieldsFit model.config) (h : CreatedBoth model config infer single) :
    Between infer ∧ Local infer infer single ∧ infer.model = model ∧
      infer.shardPlan.Complete model.config.nLayers ∧
      (config.shardPlanMode = .runtime → infer.shardPlan.visited = List.range model.config.nLayers) := by
  obtain ⟨hsingle, hmodel, htiles, host, hplan⟩ := h.setup hm.sizes
  have hbetween := (h.created.between hm.sizes).1
  exact ⟨hbetween, ⟨⟨SameSetup.refl infer, hbetween.idle⟩, hsingle⟩, hmodel, createPlan_complete hm htiles hplan⟩

/-- **A cluster is a single device.**  With the default plan, every session of decodes, generations and changes of the
backend gets the same tokens and the same errors from a cluster of any number of tiles as from a single device, whatever
the numeric code does and wherever it fails, and leaves the same caches, logits and position. -/
theorem default_cluster_agrees (hm : FieldsFit model.config) (hmode : config.shardPlanMode = .runtime)
    (h : CreatedBoth model config infer single)
    (hgrants : ∀ call ∈ calls, call.host.calloc model.config.nLayers 1 = true) :
    (session ClusterInfer.answer infer calls).1 = (session SingleInfer.answer single calls).1 ∧
      (session ClusterInfer.answer infer calls).2.toSingle = (session SingleInfer.answer single calls).2 := by
  obtain ⟨hbetween, hlocal, hmodel, hcomplete, horder⟩ := h.start hm
  rw [← hmodel] at hcomplete horder hgrants
  obtain ⟨hanswers, hlast⟩ := @session_alike _ _ _ _ calls _
    (fun call hcall kernels => decodeInOrder_alike hbetween hcomplete (hgrants call hcall) (horder hmode)) hlocal
  exact ⟨hanswers, hlast.2⟩

/-- **A cluster with a metadata plan** runs every layer once, in the order of the tiles: every session gets from it what
it gets from a single device that runs the layers in that order, which is their own order exactly if no layer is on an
earlier tile than a layer before it. -/
theorem metadata_cluster_agrees (hm : FieldsFit model.config) (h : CreatedBoth model config infer single)
    (hgrants : ∀ call ∈ calls, call.host.calloc model.config.nLayers 1 = true) :
    infer.shardPlan.visited.Perm (List.range model.config.nLayers) ∧
      (infer.shardPlan.visited = List.range model.config.nLayers ↔
        ∀ i j, i ≤ j → j < model.config.nLayers → infer.shardPlan.layerToTile i ≤ infer.shardPlan.layerToTile j) ∧
      (session ClusterInfer.answer infer calls).1 =
        (session (SingleInfer.answerBy (SingleInfer.decodeThrough infer.shardPlan.visited)) single calls).1 ∧
      (session ClusterInfer.answer infer calls).2.toSingle =
        (session (SingleInfer.answerBy (SingleInfer.decodeThrough infer.shardPlan.visited)) single calls).2 := by
  obtain ⟨hbetween, hlocal, hmodel, hcomplete, -⟩ := h.start hm
  refine ⟨hcomplete.perm_visited, hcomplete.visited_eq_iff, ?_⟩
  rw [← hmodel] at hcomplete hgrants
  obtain ⟨hanswers, hlast⟩ := @session_alike _ _ _ _ calls _
    (fun call hcall kernels => decodeThrough_alike hbetween hcomplete (hgrants call hcall)) hlocal
  exact ⟨hanswers, hlast.2⟩

end


/-! ### Two contexts of each kind -/

/-- The decoder of one layer on one device. -/
def sampleSingle : Except Status (SingleInfer Unit) :=
  SingleInfer.create .generous (fun _ _ _ _ => some ()) (.ok ⟨some "cpu-f32", fun _ => true⟩) sampleModel

/-- A decode that fails in the block, one that succeeds, and a prompt with two tokens after it. -/
def sampleSession : List (InferCall Unit) :=
  [.decodeToken .generous (sampleKernels false) 1, .decodeToken .generous (sampleKernels true) 1,
    .generate .generous (sampleKernels true) [0, 2] 2 2]

theorem default_cluster_agrees_sampleModel : ∃ infer single,
    CreatedBoth sampleModel { tileCount := 2 } infer single ∧
      (session ClusterInfer.answer infer sampleSession).1.map Except.toOption = [none, some [0], some [0, 0]] ∧
      (session ClusterInfer.answer infer sampleSession).1 = (session SingleInfer.answer single sampleSession).1 ∧
      (session ClusterInfer.answer infer sampleSession).2.toSingle =
        (session SingleInfer.answer single sampleSession).2 := by
  have hanswers : (sampleInfer.toOption.map fun infer =>
      (session ClusterInfer.answer infer sampleSession).1.map Except.toOption) =
      some [none, some [0], some [0, 0]] := by decide +kernel
  obtain ⟨infer, hinfer, hanswers⟩ := Option.map_eq_some_iff.mp hanswers
  have hsome : sampleSingle.toOption.isSome = true := by decide +kernel
  obtain ⟨single, hsingle⟩ := Option.isSome_iff_exists.mp hsome
  have hcreated : CreatedBoth sampleModel { tileCount := 2 } infer single :=
    ⟨_, _, _, _, .inl ⟨toOption_eq_some.mp hinfer, toOption_eq_some.mp hsingle⟩⟩
  refine ⟨infer, single, hcreated, hanswers, default_cluster_agrees ⟨⟨by decide, by decide⟩, by decide⟩ rfl hcreated ?_⟩
  decide

/-- Two equal layers; the metadata puts the first on tile 1 and the second on tile 0. -/
def swappedModel : Model :=
  let layerOne := (sampleModel.tensors.drop 3).map fun tensor => { tensor with name := tensor.name.set 7 0x31 }
  let place (tensorId tileId : ℕ) : ShardMetaRecord :=
    ⟨tensorId, tileId, 0, fun _ => 1, 1, 0, 0, 0, fun _ => 0, 0, 0, 0, 0⟩
  { sampleModel with
    config := { sampleModel.config with nLayers := 2 }
    tensors := sampleModel.tensors ++ layerOne
    shardMeta := [place 3 1, place 12 0] }

def swappedConfig : ClusterInferConfig := { tileCount := 2, shardPlanMode := .metadata }

/-- A block that adds one to the first byte and keeps what it was given as the cache of the layer. -/
def countingKernels : Kernels ℕ where
  blockForward _ _ _ _ hidden := ⟨(hidden 0).toNat, fun i => if i = 0 then hidden 0 + 1 else hidden i, true⟩
  rmsnormF32 hidden _ _ _ := (hidden, true)
  matmul _ norm _ _ := (norm, true)
  sync := true
  samplerGreedyF32 _ _ := some 0

/-- The tile of the second layer comes first, and the caches show it. -/
theorem metadata_cluster_agrees_swapped : ∃ (infer : ClusterInfer ℕ) (single : SingleInfer ℕ),
    CreatedBoth swappedModel swappedConfig infer single ∧ infer.shardPlan.visited = [1, 0] ∧
      (session ClusterInfer.answer infer [.decodeToken .generous countingKernels 0]).2.layerKv 0 = 1 ∧
      (session SingleInfer.answer single [.decodeToken .generous countingKernels 0]).2.layerKv 0 = 0 ∧
      infer.shardPlan.visited.Perm (List.range 2) ∧
      (session ClusterInfer.answer infer [.decodeToken .generous countingKernels 0]).2.toSingle =
        (session (SingleInfer.answerBy (SingleInfer.decodeThrough infer.shardPlan.visited)) single
          [.decodeToken .generous countingKernels 0]).2 := by
  let kvInit : ℕ → ℕ → ℕ → ℕ → Option ℕ := fun _ _ _ _ => some 0
  let backend : Except Status Backend := .ok ⟨some "cpu-f32", fun _ => true⟩
  have hcluster : ((create .generous kvInit backend swappedModel swappedConfig).toOption.map fun infer =>
      (infer.shardPlan.visited,
        (session ClusterInfer.answer infer [.decodeToken .generous countingKernels 0]).2.layerKv 0)) =
      some ([1, 0], 1) := by decide +kernel
  have hdevice : ((SingleInfer.create .generous kvInit backend swappedModel).toOption.map fun single =>
      (session SingleInfer.answer single [.decodeToken .generous countingKernels 0]).2.layerKv 0) = some 0 := by
    decide +kernel
  obtain ⟨infer, hinfer, heq⟩ := Option.map_eq_some_iff.mp hcluster
  obtain ⟨single, hsingle, hkv⟩ := Option.map_eq_some_iff.mp hdevice
  obtain ⟨hvisited, hkv'⟩ := Prod.mk.inj heq
  have hcreated : CreatedBoth swappedModel swappedConfig infer single :=
    ⟨_, _, _, _, .inl ⟨toOption_eq_some.mp hinfer, toOption_eq_some.mp hsingle⟩⟩
  obtain ⟨hperm, -, -, hlast⟩ :=
    @metadata_cluster_agrees ℕ infer single [.decodeToken .generous countingKernels 0] _ swappedModel swappedConfig
      ⟨⟨by decide, by decide⟩, by decide⟩ hcreated (by decide)
  exact ⟨infer, single, hcreated, hvisited, hkv', hkv, hperm, hlast⟩

end ClusterInfer

end Att1
