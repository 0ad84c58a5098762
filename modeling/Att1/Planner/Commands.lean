import Att1.Lib.Checked
import Att1.Planner.Plan

/-!
# Att1.Planner.Commands — what a plan consists of

`Place` is a command without its number and its fences.  `Issued places s s' cmds` says that a part of the planner
issued the commands of `places`, numbered on from `next_id`, and that each of them depends on nothing or on the fence
of one before it.  `plan_spec` puts the parts together.
-/

open Att1.Lib Att1.Lib.Fallible

namespace Att1.Planner

/-- A command without its number and its fences. -/
structure Place where
  tileId : Json
  layerId : ℤ
  spec : CommandSpec

def PlanCommand.place (cmd : PlanCommand) : Place :=
  ⟨cmd.tileId, cmd.layerId,
    { executionPhase := cmd.executionPhase
      commandType := cmd.commandType
      tensorDeps := cmd.tensorDependencies
      inputBufs := cmd.inputBuffers
      outputBufs := cmd.outputBuffers
      requiredRoutes := cmd.requiredRoutes
      requiredReductions := cmd.requiredReductions
      traceFlags := cmd.traceFlags }⟩

/-- Every command depends on nothing, on a known fence or on the fence of one before it. -/
def DepsMet : List ℕ → List PlanCommand → Prop
  | _, [] => True
  | known, cmd :: cmds =>
    (cmd.dependencyFenceId = 0 ∨ cmd.dependencyFenceId ∈ known) ∧ DepsMet (cmd.fenceId :: known) cmds

theorem DepsMet.mono {known known' : List ℕ} {cmds : List PlanCommand} (h : DepsMet known cmds)
    (hsub : known ⊆ known') : DepsMet known' cmds := by
  induction cmds generalizing known known' with
  | nil => trivial
  | cons cmd cmds ih => exact ⟨h.1.imp_right fun hmem => hsub hmem, ih h.2 (List.cons_subset_cons _ hsub)⟩

theorem DepsMet.append {known : List ℕ} {cmds cmds' : List PlanCommand} (h : DepsMet known cmds)
    (h' : DepsMet (cmds.map PlanCommand.fenceId ++ known) cmds') : DepsMet known (cmds ++ cmds') := by
  induction cmds generalizing known with
  | nil => exact h'
  | cons cmd cmds ih =>
    refine ⟨h.1, ih h.2 (h'.mono fun f hf => ?_)⟩
    simp only [List.map_cons, List.cons_append, List.mem_cons, List.mem_append] at hf ⊢
    tauto

/-- A dependency is met by a command before it. -/
theorem DepsMet.split {known : List ℕ} {pre post : List PlanCommand} {cmd : PlanCommand}
    (h : DepsMet known (pre ++ cmd :: post)) :
    cmd.dependencyFenceId = 0 ∨ cmd.dependencyFenceId ∈ known ∨
      ∃ before ∈ pre, before.fenceId = cmd.dependencyFenceId := by
  induction pre generalizing known with
  | nil => exact h.1.imp_right .inl
  | cons c pre ih =>
    rcases ih h.2 with h0 | hknown | ⟨before, hmem, heq⟩
    · exact .inl h0
    · rcases List.mem_cons.mp hknown with heq | hknown
      · exact .inr (.inr ⟨c, List.mem_cons_self, heq.symm⟩)
      · exact .inr (.inl hknown)
    · exact .inr (.inr ⟨before, List.mem_cons_of_mem _ hmem, heq⟩)

/-- The commands of `places`, numbered on from the state `s`; `known` are fences of earlier commands. -/
structure Issued (known : List ℕ) (places : List Place) (s : PlannerState) (cmds : List PlanCommand)
    (s' : PlannerState) : Prop where
  placed : cmds.map PlanCommand.place = places
  ids : cmds.map PlanCommand.planCommandId = List.range' s.nextId cmds.length
  nextId : s'.nextId = s.nextId + cmds.length
  deps : DepsMet known cmds
  statuses : ∀ cmd ∈ cmds, cmd.expectedStatus = "ok"

variable {known : List ℕ} {places places' : List Place} {s t u : PlannerState} {cmds cmds' : List PlanCommand}

theorem Issued.nil (s : PlannerState) : Issued known [] s [] s := ⟨rfl, rfl, rfl, trivial, by simp⟩

/-- Commands behind others, whose fences are known by then. -/
theorem Issued.append (h : Issued known places s cmds t)
    (h' : Issued (cmds.map PlanCommand.fenceId ++ known) places' t cmds' u) :
    Issued known (places ++ places') s (cmds ++ cmds') u where
  placed := by rw [List.map_append, h.placed, h'.placed]
  ids := by
    rw [List.map_append, h.ids, h'.ids, h.nextId, List.length_append]
    exact List.range'_append_1
  nextId := by
    rw [h'.nextId, h.nextId, List.length_append]
    omega
  deps := h.deps.append h'.deps
  statuses cmd hcmd := (List.mem_append.mp hcmd).elim (h.statuses cmd) (h'.statuses cmd)

/-- A command in front of those that are issued after it. -/
theorem Issued.cons {cmd : PlanCommand} (hid : cmd.planCommandId = s.nextId) (ht : t.nextId = s.nextId + 1)
    (hdep : cmd.dependencyFenceId = 0 ∨ cmd.dependencyFenceId ∈ known) (hstatus : cmd.expectedStatus = "ok")
    (h : Issued (cmd.fenceId :: known) places t cmds u) : Issued known (cmd.place :: places) s (cmd :: cmds) u where
  placed := by rw [List.map_cons, h.placed]
  ids := by rw [List.map_cons, h.ids, hid, ht, List.length_cons, List.range'_succ]
  nextId := by
    rw [h.nextId, ht, List.length_cons]
    omega
  deps := ⟨hdep, h.deps⟩
  statuses := List.forall_mem_cons.mpr ⟨hstatus, h.statuses⟩

theorem Issued.mono {known' : List ℕ} (h : Issued known places s cmds t) (hsub : known ⊆ known') :
    Issued known' places s cmds t :=
  { h with deps := h.deps.mono hsub }

/-- Only the number of the next command counts of the state before. -/
theorem Issued.of_nextId (h : Issued known places t cmds u) (hs : t.nextId = s.nextId) :
    Issued known places s cmds u :=
  { h with
    ids := hs ▸ h.ids
    nextId := hs ▸ h.nextId }

/-! ### The loops -/

/-- The planner may raise. -/
abbrev MayRaise : PyError → PlannerState → Prop := fun _ _ => True

variable {tileId : Json} {layerId : ℤ} {tokenPhase : String}

theorem ends_takeFence {Q : ℕ → PlannerState → Prop} (h : Q s.nextFence { s with nextFence := s.nextFence + 1 }) :
    Ends takeFence s Q MayRaise := h

theorem ends_makeCmd {spec : CommandSpec} {fenceId depFenceId : ℕ} {Q : PlanCommand → PlannerState → Prop}
    (h : ∀ cmd : PlanCommand, cmd.place = ⟨tileId, layerId, spec⟩ → cmd.planCommandId = s.nextId →
      cmd.fenceId = fenceId → cmd.dependencyFenceId = depFenceId → cmd.expectedStatus = "ok" →
      Q cmd { s with nextId := s.nextId + 1 }) :
    Ends (makeCmd tileId layerId tokenPhase spec fenceId depFenceId) s Q MayRaise :=
  h ⟨_, _, _, _, _, _, _, _, _, _, _, _, _, _, _⟩ rfl rfl rfl rfl rfl

theorem ends_independent (known : List ℕ) (specs : List CommandSpec) :
    Ends (independent tileId tokenPhase specs) s (Issued known (specs.map (⟨tileId, -1, ·⟩)) s) MayRaise := by
  induction specs generalizing s known with
  | nil => exact ends_pure (.nil s)
  | cons spec specs ih =>
    rw [independent]
    refine ends_bind (ends_takeFence (ends_bind (ends_makeCmd fun cmd hplace hid _ hdep hstatus => ends_bind ?_)))
    refine (ih (cmd.fenceId :: known)).mono (fun cmds t h => ends_pure ?_) fun _ _ _ => trivial
    have hcons := Issued.cons hid rfl (.inl hdep) hstatus h
    rw [hplace] at hcons
    exact hcons.of_nextId rfl

theorem ends_chain (known : List ℕ) (specs : List CommandSpec) {depFence : ℕ} (hknown : depFence = 0 ∨ depFence ∈ known) :
    Ends (chain tileId layerId tokenPhase depFence specs) s (Issued known (specs.map (⟨tileId, layerId, ·⟩)) s)
      MayRaise := by
  induction specs generalizing s depFence known with
  | nil => exact ends_pure (.nil s)
  | cons spec specs ih =>
    rw [chain]
    refine ends_bind (ends_takeFence (ends_bind (ends_makeCmd fun cmd hplace hid hfence hdep hstatus =>
      ends_bind ?_)))
    have hnext : s.nextFence ∈ cmd.fenceId :: known := hfence ▸ List.mem_cons_self
    refine (ih _ (.inr hnext)).mono (fun cmds t h => ends_pure ?_) fun _ _ _ => trivial
    have hcons := Issued.cons hid rfl (hdep ▸ hknown) hstatus h
    rw [hplace] at hcons
    exact hcons.of_nextId rfl

theorem ends_onTiles (known : List ℕ) (spec : CommandSpec) {fenceId depFenceId : ℕ} (hknown : depFenceId = 0 ∨ depFenceId ∈ known)
    (tiles : List ℕ) :
    Ends (onTiles layerId tokenPhase spec fenceId depFenceId tiles) s
      (fun cmds t => Issued known (tiles.map fun tile : ℕ => ⟨.int tile, layerId, spec⟩) s cmds t ∧
        ∀ cmd ∈ cmds, cmd.fenceId = fenceId) MayRaise := by
  induction tiles generalizing s with
  | nil => exact ends_pure ⟨.nil s, by simp⟩
  | cons tile tiles ih =>
    rw [onTiles]
    refine ends_bind (ends_makeCmd fun cmd hplace hid hfence hdep hstatus => ends_bind ?_)
    refine ih.mono (fun cmds t h => ends_pure ⟨?_, ?_⟩) fun _ _ _ => trivial
    · have hcons := Issued.cons hid rfl (hdep ▸ hknown) hstatus (h.1.mono (List.subset_cons_self _ _))
      rwa [hplace] at hcons
    · exact List.forall_mem_cons.mpr ⟨hfence, h.2⟩

/-! ### The load phase -/

def loadSpec (t : Fields) : CommandSpec :=
  { executionPhase := "LOAD_TENSOR_TILE"
    commandType := "LOAD_TENSOR_TILE"
    tensorDeps := [dictGetD t "tensor_name" (.str "")]
    outputBufs := [buf "TENSOR" (dictGetD t "packed_bytes" (.int 0)) (dictGetD t "dtype" (.str "f32"))] }

def validateSpec (t : Fields) : CommandSpec :=
  { executionPhase := "VALIDATE_TENSOR_TILE"
    commandType := "VALIDATE_TENSOR"
    tensorDeps := [dictGetD t "tensor_name" (.str "")]
    inputBufs := [buf "TENSOR" (dictGetD t "packed_bytes" (.int 0)) (dictGetD t "dtype" (.str "f32"))] }

/-- The load phase of a tile. -/
def tilePlaces (tile : Json × List Fields) : List Place :=
  tile.2.map (fun t => ⟨tile.1, -1, loadSpec t⟩) ++ tile.2.map fun t => ⟨tile.1, -1, validateSpec t⟩

/-- `owner_tile` of a tensor in the load phase. -/
def ownerTile (t : Fields) : Json := dictGetD t "owner_tile" (.int 0)

/-- The tensors by tile: a tile is the owner of one of them, has those with an equal owner, and none is left out. -/
structure ByTile (records : List Fields) (tiles : List (Json × List Fields)) : Prop where
  named : ∀ tile ∈ tiles, ∃ t ∈ records, ownerTile t = tile.1
  sound : ∀ tile ∈ tiles, ∀ t ∈ tile.2, t ∈ records ∧ (ownerTile t).key = tile.1.key
  complete : ∀ t ∈ records, ∃ tile ∈ tiles, t ∈ tile.2

theorem ends_tileLoadPhase (known : List ℕ) (tileTensors : List Fields) :
    Ends (tileLoadPhase tokenPhase tileId tileTensors) s
      (fun cmds t => ∃ sorted : List Fields, sorted.Perm tileTensors ∧
        Issued known (tilePlaces (tileId, sorted)) s cmds t) MayRaise := by
  unfold tileLoadPhase
  refine ends_bind (ends_ofExcept (fun sorted hsorted => ends_bind ?_) fun _ _ => trivial)
  refine (ends_independent known _).mono (fun loads t h => ends_bind ?_) fun _ _ _ => trivial
  refine (ends_independent (loads.map PlanCommand.fenceId ++ known) _).mono (fun validates u h' => ends_pure ⟨sorted, sortedBy_perm hsorted, ?_⟩)
    fun _ _ _ => trivial
  have happ := h.append h'
  rw [List.map_map, List.map_map] at happ
  exact happ

/-- The tiles of a grouping, each with its tensors in another order. -/
structure SameTiles (groups : Groups Fields) (tiles : List (Json × List Fields)) : Prop where
  tile : ∀ group ∈ groups, ∃ tile ∈ tiles, tile.1 = group.2.1 ∧ tile.2.Perm group.2.2
  group : ∀ tile ∈ tiles, ∃ group ∈ groups, tile.1 = group.2.1 ∧ tile.2.Perm group.2.2

theorem SameTiles.cons {groups : Groups Fields} {tiles : List (Json × List Fields)} (h : SameTiles groups tiles)
    {group : Json.Key × Json × List Fields} {tile : Json × List Fields}
    (hsame : tile.1 = group.2.1 ∧ tile.2.Perm group.2.2) : SameTiles (group :: groups) (tile :: tiles) where
  tile := List.forall_mem_cons.mpr
    ⟨⟨tile, List.mem_cons_self, hsame⟩, fun g hg =>
      (h.tile g hg).imp fun _ ht => ht.imp_left (List.mem_cons_of_mem _)⟩
  group := List.forall_mem_cons.mpr
    ⟨⟨group, List.mem_cons_self, hsame⟩, fun t ht =>
      (h.group t ht).imp fun _ hg => hg.imp_left (List.mem_cons_of_mem _)⟩

theorem ends_tilesLoadPhase (known : List ℕ) (groups : Groups Fields) :
    Ends (tilesLoadPhase tokenPhase groups) s
      (fun cmds t => ∃ tiles : List (Json × List Fields),
        SameTiles groups tiles ∧ Issued known (tiles.flatMap tilePlaces) s cmds t) MayRaise := by
  induction groups generalizing s known with
  | nil => exact ends_pure ⟨[], ⟨by simp, by simp⟩, .nil s⟩
  | cons group groups ih =>
    obtain ⟨key, tileId, tileTensors⟩ := group
    rw [tilesLoadPhase]
    refine ends_bind ((ends_tileLoadPhase known tileTensors).mono (fun cmds t h => ends_bind ?_) fun _ _ _ => trivial)
    obtain ⟨sorted, hperm, hissued⟩ := h
    refine (ih (cmds.map PlanCommand.fenceId ++ known)).mono (fun rest u h' => ends_pure ?_) fun _ _ _ => trivial
    obtain ⟨tiles, htiles, hrest⟩ := h'
    exact ⟨(tileId, sorted) :: tiles, htiles.cons ⟨rfl, hperm⟩, hissued.append hrest⟩

theorem SameTiles.byTile {records : List Fields} {byTile groups : Groups Fields} {tiles : List (Json × List Fields)}
    (htiles : SameTiles groups tiles) (hperm : groups.Perm byTile) (h : Grouped ownerTile records byTile) :
    ByTile records tiles where
  named tile htile := by
    obtain ⟨group, hgroup, hsame⟩ := htiles.group tile htile
    obtain ⟨-, t, ht, hname⟩ := h.named group (hperm.mem_iff.mp hgroup)
    exact ⟨t, ht, hname.trans hsame.1.symm⟩
  sound tile htile t ht := by
    obtain ⟨group, hgroup, hsame⟩ := htiles.group tile htile
    obtain ⟨hkey, -⟩ := h.named group (hperm.mem_iff.mp hgroup)
    obtain ⟨hmem, howner⟩ := h.sound group (hperm.mem_iff.mp hgroup) t (hsame.2.mem_iff.mp ht)
    exact ⟨hmem, by rw [howner, hsame.1, hkey]⟩
  complete t ht := by
    obtain ⟨group, hgroup, hmem⟩ := h.complete t ht
    obtain ⟨tile, htile, hsame⟩ := htiles.tile group (hperm.mem_iff.mpr hgroup)
    exact ⟨tile, htile, hsame.2.mem_iff.mpr hmem⟩

theorem ends_generateLoadPhase (known : List ℕ) (tensors : List Json) :
    Ends (generateLoadPhase tensors tokenPhase) s
      (fun cmds t => ∃ records tiles, tensors.mapM Json.asObj = .ok records ∧ ByTile records tiles ∧
        Issued known (tiles.flatMap tilePlaces) s cmds t) MayRaise := by
  unfold generateLoadPhase
  refine ends_bind (ends_ofExcept (fun records hrecords => ?_) fun _ _ => trivial)
  refine ends_bind (ends_ofExcept (fun byTile hbyTile => ?_) fun _ _ => trivial)
  refine ends_bind (ends_ofExcept (fun groups hgroups => ?_) fun _ _ => trivial)
  refine (ends_tilesLoadPhase known groups).mono (fun cmds t h => ?_) fun _ _ _ => trivial
  obtain ⟨tiles, htiles, hissued⟩ := h
  exact ⟨records, tiles, hrecords, htiles.byTile (sortedBy_perm hgroups) (groupBy_grouped hbyTile), hissued⟩

/-! ### The other phases -/

def barrierSpec (routes : RouteIndex) : CommandSpec :=
  { executionPhase := "PREFILL_SETUP", commandType := "TILE_BARRIER", requiredRoutes := routes.under "TILE_BARRIER" }

def traceSpec : CommandSpec :=
  { executionPhase := "TRACE_SNAPSHOT", commandType := "TRACE_SNAPSHOT", traceFlags := 1 }

def querySpec : CommandSpec := { executionPhase := "QUERY_COUNTERS", commandType := "QUERY_COUNTERS" }

/-- One command on every tile. -/
def tilesPlaces (tiles : ℕ) (layerId : ℤ) (spec : CommandSpec) : List Place :=
  (List.range tiles).map fun tile : ℕ => ⟨.int tile, layerId, spec⟩

theorem ends_generatePrefillSetup (known : List ℕ) {tileCount : Json} (routes : RouteIndex) :
    Ends (generatePrefillSetup tileCount tokenPhase routes) s
      (fun cmds t => ∃ tiles, tileCount.rangeLength = .ok tiles ∧
        Issued known (tilesPlaces tiles (-1) (barrierSpec routes) ++ tilesPlaces tiles (-1) traceSpec) s cmds t)
      MayRaise := by
  unfold generatePrefillSetup
  refine ends_bind (ends_takeFence (ends_bind (ends_ofExcept (fun tiles htiles => ends_bind ?_) fun _ _ => trivial)))
  refine (ends_onTiles known (barrierSpec routes) (.inl rfl) _).mono (fun barriers t h => ?_) fun _ _ _ => trivial
  obtain ⟨hbarriers, hfences⟩ := h
  refine ends_bind (ends_takeFence (ends_bind ?_))
  refine (ends_onTiles (s.nextFence :: known) traceSpec (.inr List.mem_cons_self) _).mono
    (fun traces u h' => ends_pure ⟨tiles, htiles, ?_⟩) fun _ _ _ => trivial
  have hfirst : Issued known (tilesPlaces tiles (-1) (barrierSpec routes)) s barriers t := hbarriers.of_nextId rfl
  have hsecond : Issued (s.nextFence :: known) (tilesPlaces tiles (-1) traceSpec) t traces u := h'.1.of_nextId rfl
  refine hfirst.append ?_
  cases tiles with
  | zero =>
    have hnil : traces = [] := List.map_eq_nil_iff.mp hsecond.placed
    subst hnil
    exact ⟨rfl, rfl, hsecond.nextId, trivial, by simp⟩
  | succ n =>
    -- the traces wait for the fence that every barrier has
    refine hsecond.mono fun f hf => ?_
    rcases List.mem_cons.mp hf with rfl | hf
    · obtain ⟨b, hb⟩ : ∃ b, b ∈ barriers := by
        refine List.exists_mem_of_length_pos ?_
        have hlen := congrArg List.length hbarriers.placed
        simp only [List.length_map, List.length_range] at hlen
        omega
      exact List.mem_append_left _ (List.mem_map.mpr ⟨b, hb, hfences b hb⟩)
    · exact List.mem_append_right _ hf

/-- The tile of a layer on a device with `n` tiles. -/
def layerOwner (n : ℤ) (index : TensorsByName) (layerId : ℕ) : Json :=
  match index.find (attentionNormName layerId) with
  | some attnNorm => ownerTile attnNorm
  | none => .int (layerId % max n 1)

theorem layerTile_eq {tileCount : Json} {n : ℤ} (htiles : tileCount.asInt? = some n) (index : TensorsByName)
    (layerId : ℕ) : layerTile tileCount index layerId = .ok (layerOwner n index layerId) := by
  unfold layerTile layerOwner
  cases index.find (attentionNormName layerId) with
  | some attnNorm => rfl
  | none => rw [htiles]

/-- What the commands of a plan are built from. -/
structure PlanInput where
  header : Fields
  tileCount : Json
  tiles : ℤ
  nLayers : ℕ
  index : TensorsByName
  policy : Json
  tokenPhase : String
  routes : RouteIndex
  tileCount_eq : tileCount.asInt? = some tiles

/-- `dtype` of the header. -/
def PlanInput.dtype (input : PlanInput) : Json := dictGetD input.header "dtype" (.str "f32")

/-- The bytes of a buffer with as many elements as a header field says. -/
def PlanInput.Bytes (input : PlanInput) (field : String) (default : ℤ) (bytes : Json) : Prop :=
  ∃ db, dtypeBytes input.dtype = .ok db ∧ (dictGetD input.header field (.int default)).mulInt db = .ok bytes

/-- The commands of a layer, and the trace behind it. -/
def PlanInput.LayerPlaces (input : PlanInput) (layerId : ℕ) (places : List Place) : Prop :=
  ∃ actBytes ffnBytes, input.Bytes "d_model" 64 actBytes ∧ input.Bytes "ffn_hidden" 128 ffnBytes ∧
    places =
      (layerSpecs layerId input.dtype actBytes ffnBytes input.policy input.tokenPhase input.routes).map
          (⟨layerOwner input.tiles input.index layerId, layerId, ·⟩) ++
        if (layerId + 1) % 4 = 0 ∨ layerId + 1 = input.nLayers then
          tilesPlaces input.tiles.toNat layerId traceSpec
        else []

/-- The commands of the LM head. -/
def PlanInput.LmHeadPlaces (input : PlanInput) (places : List Place) : Prop :=
  ∃ actBytes logitBytes, input.Bytes "d_model" 64 actBytes ∧ input.Bytes "vocab_size" 256 logitBytes ∧
    places =
      (lmHeadSpecs input.dtype actBytes logitBytes input.policy input.tokenPhase input.routes).map
        (⟨lmHeadTile input.index, -1, ·⟩)

theorem ends_generateLayerPlan (known : List ℕ) (input : PlanInput) (layerId : ℕ) :
    Ends
      (generateLayerPlan layerId input.header input.tileCount input.index input.policy input.tokenPhase input.routes) s
      (fun cmds t => ∃ actBytes ffnBytes, input.Bytes "d_model" 64 actBytes ∧ input.Bytes "ffn_hidden" 128 ffnBytes ∧
        Issued known
          ((layerSpecs layerId input.dtype actBytes ffnBytes input.policy input.tokenPhase input.routes).map
            (⟨layerOwner input.tiles input.index layerId, layerId, ·⟩)) s cmds t) MayRaise := by
  unfold generateLayerPlan
  refine ends_bind (ends_ofExcept (fun db hdb => ?_) fun _ _ => trivial)
  refine ends_bind (ends_ofExcept (fun actBytes hact => ?_) fun _ _ => trivial)
  rw [layerTile_eq input.tileCount_eq]
  refine ends_bind (ends_ofExcept (fun tileId htile => ?_) fun _ _ => trivial)
  obtain rfl := Except.ok.inj htile
  refine ends_bind (ends_ofExcept (fun ffnBytes hffn => ?_) fun _ _ => trivial)
  have hchain : ∀ (specs : List CommandSpec) (s' : PlannerState), s'.nextId = s.nextId →
      specs = layerSpecs layerId input.dtype actBytes ffnBytes input.policy input.tokenPhase input.routes → Ends
      (chain (layerOwner input.tiles input.index layerId) layerId input.tokenPhase 0 specs) s'
      (fun cmds t => ∃ actBytes ffnBytes, input.Bytes "d_model" 64 actBytes ∧ input.Bytes "ffn_hidden" 128 ffnBytes ∧
        Issued known
          ((layerSpecs layerId input.dtype actBytes ffnBytes input.policy input.tokenPhase input.routes).map
            (⟨layerOwner input.tiles input.index layerId, layerId, ·⟩)) s cmds t) MayRaise := by
    intro specs s' hs' hspecs
    refine (ends_chain known specs (.inl rfl)).mono (fun cmds t h => ?_) fun _ _ _ => trivial
    exact ⟨actBytes, ffnBytes, ⟨db, hdb, hact⟩, ⟨db, hdb, hffn⟩, hspecs ▸ h.of_nextId hs'⟩
  exact ends_bind (ends_ite (fun _ => ends_modify (hchain _ _ rfl rfl)) fun _ => ends_pure (hchain _ s rfl rfl))

theorem ends_generateLmHeadPlan (known : List ℕ) (input : PlanInput) :
    Ends (generateLmHeadPlan input.header input.index input.policy input.tokenPhase input.routes) s
      (fun cmds t => ∃ places, input.LmHeadPlaces places ∧ Issued known places s cmds t) MayRaise := by
  unfold generateLmHeadPlan
  refine ends_bind (ends_ofExcept (fun db hdb => ?_) fun _ _ => trivial)
  refine ends_bind (ends_ofExcept (fun actBytes hact => ?_) fun _ _ => trivial)
  refine ends_bind (ends_ofExcept (fun logitBytes hlogit => ?_) fun _ _ => trivial)
  refine (ends_chain known _ (.inl rfl)).mono (fun cmds t h => ?_) fun _ _ _ => trivial
  exact ⟨_, ⟨actBytes, logitBytes, ⟨db, hdb, hact⟩, ⟨db, hdb, hlogit⟩, rfl⟩, h⟩

theorem ends_layerStep (known : List ℕ) (input : PlanInput) (layerId : ℕ) :
    Ends
      (layerStep input.header input.tileCount input.tiles.toNat input.nLayers input.index input.policy
        input.tokenPhase input.routes layerId) s
      (fun cmds t => ∃ places, input.LayerPlaces layerId places ∧ Issued known places s cmds t) MayRaise := by
  unfold layerStep
  refine ends_bind ((ends_generateLayerPlan known input layerId).mono (fun cmds t h => ?_) fun _ _ _ => trivial)
  obtain ⟨actBytes, ffnBytes, hact, hffn, hissued⟩ := h
  refine ends_ite (fun hlast => ?_) fun hlast => ?_
  · refine ends_bind (ends_takeFence (ends_bind ?_))
    refine (ends_onTiles (cmds.map PlanCommand.fenceId ++ known) traceSpec (.inl rfl) _).mono
      (fun traces u h' => ends_pure ⟨_, ⟨actBytes, ffnBytes, hact, hffn, rfl⟩, ?_⟩) fun _ _ _ => trivial
    rw [if_pos hlast]
    exact hissued.append (h'.1.of_nextId rfl)
  · refine ends_pure ⟨_, ⟨actBytes, ffnBytes, hact, hffn, rfl⟩, ?_⟩
    rw [if_neg hlast, List.append_nil]
    exact hissued

/-- A list of parts, one for each layer. -/
theorem ends_layersPlan (input : PlanInput) (layers : List ℕ) (known : List ℕ) :
    Ends
      (layersPlan
        (layerStep input.header input.tileCount input.tiles.toNat input.nLayers input.index input.policy
          input.tokenPhase input.routes) layers) s
      (fun cmds t => ∃ parts : List (ℕ × List Place), parts.map Prod.fst = layers ∧
        (∀ part ∈ parts, input.LayerPlaces part.1 part.2) ∧ Issued known (parts.flatMap Prod.snd) s cmds t)
      MayRaise := by
  induction layers generalizing s known with
  | nil => exact ends_pure ⟨[], rfl, by simp, .nil s⟩
  | cons layerId layers ih =>
    rw [layersPlan]
    refine ends_bind ((ends_layerStep known input layerId).mono (fun cmds t h => ends_bind ?_) fun _ _ _ => trivial)
    obtain ⟨places, hplaces, hissued⟩ := h
    refine (ih (cmds.map PlanCommand.fenceId ++ known)).mono (fun rest u h' => ends_pure ?_) fun _ _ _ => trivial
    obtain ⟨parts, hlayers, hparts, hrest⟩ := h'
    exact ⟨(layerId, places) :: parts, by simp [hlayers], List.forall_mem_cons.mpr ⟨hplaces, hparts⟩,
      hissued.append hrest⟩

/-! ### The plan -/

theorem rangeLength_eq_ok {value : Json} {n : ℕ} (h : value.rangeLength = .ok n) :
    ∃ m, value.asInt? = some m ∧ m.toNat = n := by
  unfold Json.rangeLength at h
  cases hvalue : value.asInt? with
  | none => simp [hvalue] at h
  | some m =>
    rw [hvalue] at h
    exact ⟨m, rfl, Except.ok.inj h⟩

/-- The tensors by tile, the layers and the LM head of a plan. -/
structure PlanParts where
  tiles : List (Json × List Fields)
  layers : List (ℕ × List Place)
  lmHead : List Place

/-- The commands of a plan. -/
def PlanParts.all (parts : PlanParts) (input : PlanInput) : List Place :=
  parts.tiles.flatMap tilePlaces ++
      (tilesPlaces input.tiles.toNat (-1) (barrierSpec input.routes) ++ tilesPlaces input.tiles.toNat (-1) traceSpec) ++
      parts.layers.flatMap Prod.snd ++
    parts.lmHead ++
    tilesPlaces input.tiles.toNat (-1) querySpec

/-- The commands behind the load phase. -/
def PlanParts.rest (parts : PlanParts) (input : PlanInput) : List Place :=
  (tilesPlaces input.tiles.toNat (-1) (barrierSpec input.routes) ++ tilesPlaces input.tiles.toNat (-1) traceSpec) ++
      parts.layers.flatMap Prod.snd ++
    parts.lmHead ++
    tilesPlaces input.tiles.toNat (-1) querySpec

theorem PlanParts.all_eq (parts : PlanParts) (input : PlanInput) :
    parts.all input = parts.tiles.flatMap tilePlaces ++ parts.rest input := by
  simp only [all, rest, List.append_assoc]

/-- The parts of a plan for the tensors of a report. -/
structure PlanParts.Of (parts : PlanParts) (input : PlanInput) (tensors : List Json) (records : List Fields) :
    Prop where
  objects : tensors.mapM Json.asObj = .ok records
  byTile : ByTile records parts.tiles
  layerIds : parts.layers.map Prod.fst = List.range input.nLayers
  layers : ∀ part ∈ parts.layers, input.LayerPlaces part.1 part.2
  lmHead : input.LmHeadPlaces parts.lmHead

theorem ends_generateCommands (tensors : List Json) (header : Fields) (tileCount : Json) (index : TensorsByName)
    (policy : Json) (tokenPhase : String) (routes : RouteIndex) :
    Ends (generateCommands tensors header tileCount index policy tokenPhase routes) s
      (fun cmds t => ∃ (tiles : ℤ) (nLayers : ℕ) (htiles : tileCount.asInt? = some tiles) (records : List Fields)
        (parts : PlanParts), (dictGetD header "n_layers" (.int 0)).rangeLength = .ok nLayers ∧
          parts.Of ⟨header, tileCount, tiles, nLayers, index, policy, tokenPhase, routes, htiles⟩ tensors records ∧
            Issued [] (parts.all ⟨header, tileCount, tiles, nLayers, index, policy, tokenPhase, routes, htiles⟩) s
              cmds t) MayRaise := by
  unfold generateCommands
  refine ends_bind ((ends_generateLoadPhase [] tensors).mono (fun loads t₁ hloads => ends_bind ?_)
    fun _ _ _ => trivial)
  obtain ⟨records, byTile, hrecords, hbyTile, hloads⟩ := hloads
  refine (ends_generatePrefillSetup (loads.map PlanCommand.fenceId ++ []) routes).mono (fun setup t₂ hsetup => ends_bind ?_) fun _ _ _ => trivial
  obtain ⟨n, hn, hsetup⟩ := hsetup
  refine ends_ofExcept (fun n' hn' => ?_) fun _ _ => trivial
  obtain rfl := Except.ok.inj (hn.symm.trans hn')
  obtain ⟨tiles, htiles, rfl⟩ := rangeLength_eq_ok hn
  refine ends_bind (ends_ofExcept (fun nLayers hnLayers => ends_bind ?_) fun _ _ => trivial)
  have hlayers := @ends_layersPlan t₂
    ⟨header, tileCount, tiles, nLayers, index, policy, tokenPhase, routes, htiles⟩ (List.range nLayers)
    ((loads ++ setup).map PlanCommand.fenceId ++ [])
  refine hlayers.mono (fun layers t₃ hlayers => ends_bind ?_) fun _ _ _ => trivial
  obtain ⟨layerParts, hids, hparts, hlayers⟩ := hlayers
  refine (ends_generateLmHeadPlan ((loads ++ setup ++ layers).map PlanCommand.fenceId ++ [])
    ⟨header, tileCount, tiles, nLayers, index, policy, tokenPhase, routes, htiles⟩).mono
    (fun lmHead t₄ hlmHead => ends_bind (ends_takeFence (ends_bind ?_))) fun _ _ _ => trivial
  obtain ⟨headPlaces, hhead, hlmHead⟩ := hlmHead
  refine (ends_onTiles ((loads ++ setup ++ layers ++ lmHead).map PlanCommand.fenceId ++ []) querySpec (.inl rfl)
    _).mono (fun queries t₅ hqueries => ends_pure ?_) fun _ _ _ => trivial
  refine ⟨tiles, nLayers, htiles, records, ⟨byTile, layerParts, headPlaces⟩, hnLayers,
    ⟨hrecords, hbyTile, hids, hparts, hhead⟩, ?_⟩
  exact (((hloads.append hsetup).append hlayers).append hlmHead).append (hqueries.1.of_nextId rfl)

theorem runPlanner_eq_ok {m : PlanM (List PlanCommand)} (h : runPlanner m s = .ok (cmds, t)) :
    m.exec s = (.ok cmds, t) := by
  unfold runPlanner at h
  split at h
  · rename_i cmds' t' hexec
    obtain ⟨rfl, rfl⟩ := Prod.mk.inj (Except.ok.inj h)
    exact hexec
  · simp at h

/-- What a plan of a report consists of. -/
structure PlanView (report : Fields) (tokenPhase : String) (strict : Bool) (p : ExecutionPlan) where
  input : PlanInput
  tensors : List Json
  records : List Fields
  parts : PlanParts
  errors : List FString
  placementNotes : List FString
  notes : List FString
  header : headerOf report = .ok input.header
  tileCount : input.tileCount = dictGetD input.header "tile_count" (.int 1)
  nLayers : (dictGetD input.header "n_layers" (.int 0)).rangeLength = .ok input.nLayers
  phase : input.tokenPhase = tokenPhase
  tensorList : (dictGetD report "tensors" (.arr [])).iter = .ok tensors
  checked : validatePlacement tensors input.tileCount = .ok (errors, placementNotes)
  index : tensorsByName tensors = .ok input.index
  partsOf : parts.Of input tensors records
  placed : p.commands.map PlanCommand.place = parts.all input
  ids : p.commands.map PlanCommand.planCommandId = List.range' 1 p.commands.length
  deps : DepsMet [] p.commands
  statuses : ∀ cmd ∈ p.commands, cmd.expectedStatus = "ok"
  status : p.status = planStatus errors notes strict
  tiles : p.tileCount = input.tileCount
  layerCount : p.layerCount = dictGetD input.header "n_layers" (.int 0)

theorem plan_view {report : Fields} {commandPlan routeReport : Json} {modelId sessionId : String} {strict : Bool}
    {p : ExecutionPlan} (h : plan report commandPlan routeReport modelId sessionId tokenPhase strict = .ok p) :
    Nonempty (PlanView report tokenPhase strict p) ∧ p.modelId = modelId ∧ p.sessionId = sessionId ∧
      p.tokenPhase = tokenPhase := by
  unfold plan at h
  obtain ⟨header, hheader, h⟩ := bind_eq_ok.mp h
  obtain ⟨known, -, h⟩ := bind_eq_ok.mp h
  obtain ⟨tensors, htensors, h⟩ := bind_eq_ok.mp h
  obtain ⟨⟨errors, placementNotes⟩, hchecked, h⟩ := bind_eq_ok.mp h
  obtain ⟨index, hindex, h⟩ := bind_eq_ok.mp h
  obtain ⟨routes, -, h⟩ := bind_eq_ok.mp h
  obtain ⟨⟨commands, s⟩, hcommands, h⟩ := bind_eq_ok.mp h
  obtain ⟨commandPlanPath, -, h⟩ := bind_eq_ok.mp h
  obtain ⟨routeReportPath, -, h⟩ := bind_eq_ok.mp h
  obtain rfl := Except.ok.inj h
  refine ⟨?_, rfl, rfl, rfl⟩
  obtain ⟨tiles, nLayers, htiles, records, parts, hnLayers, hparts, hissued⟩ :=
    (ends_generateCommands tensors header _ index _ tokenPhase routes).of_exec (runPlanner_eq_ok hcommands)
  exact ⟨{
      input := ⟨header, dictGetD header "tile_count" (.int 1), tiles, nLayers, index, _, tokenPhase, routes, htiles⟩
      tensors := tensors
      records := records
      parts := parts
      errors := errors
      placementNotes := placementNotes
      notes := s.notes
      header := hheader
      tileCount := rfl
      nLayers := hnLayers
      phase := rfl
      tensorList := htensors
      checked := hchecked
      index := hindex
      partsOf := hparts
      placed := hissued.placed
      ids := hissued.ids
      deps := hissued.deps
      statuses := hissued.statuses
      status := rfl
      tiles := rfl
      layerCount := rfl }⟩

end Att1.Planner
