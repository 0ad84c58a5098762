import Att1.Converter.Names
import Att1.Planner.Commands

/-!
# Att1.Planner.Resident — whether a plan uses only tensors that are on the tile

`Resident` says that an `EXEC_*` command depends on nothing but tensors that a command before it has loaded and another
has checked, on its own tile.  A plan loads the tensors of the report under the names of the report, and asks for
tensors under names of its own: `planned_resident_iff` compares the two for a report that places an ATT-1 decoder.
-/

open Att1.Lib Att1.Converter

namespace Att1.Planner

/-- The `EXEC_*` command types. -/
def execCommandTypes : List String :=
  ["EXEC_MATMUL", "EXEC_RMSNORM", "EXEC_ROPE", "EXEC_ATTENTION", "EXEC_SWIGLU", "EXEC_SOFTMAX", "EXEC_RESIDUAL"]

/-- A command of the type, among these, for the tensor on the tile. -/
def HasCommand (cmds : List PlanCommand) (commandType : String) (name tileId : Json) : Prop :=
  ∃ cmd ∈ cmds, cmd.commandType = commandType ∧ name ∈ cmd.tensorDependencies ∧ cmd.tileId = tileId

/-- Every tensor that an `EXEC_*` command depends on is loaded and checked before, on the tile of the command. -/
def Resident (cmds : List PlanCommand) : Prop :=
  ∀ pre cmd post, cmds = pre ++ cmd :: post → cmd.commandType ∈ execCommandTypes →
    ∀ name ∈ cmd.tensorDependencies,
      HasCommand pre "LOAD_TENSOR_TILE" name cmd.tileId ∧ HasCommand pre "VALIDATE_TENSOR" name cmd.tileId

/-! ### Placements -/

/-- A tensor of a placement report, with its name and its tile. -/
structure PlacedTensor where
  fields : Fields
  name : String
  tile : ℕ
  name_eq : fields.lookup "tensor_name" = some (.str name)
  tile_eq : fields.lookup "owner_tile" = some (.int tile)

/-- A placement report that places every tensor of a decoder, under the names of the converter, on one tile each.  It
may place other tensors too. -/
structure DecoderPlacement (report : Fields) where
  header : Fields
  tileCount : ℕ
  nLayers : ℕ
  tensors : List PlacedTensor
  header_eq : headerOf report = .ok header
  tileCount_eq : dictGetD header "tile_count" (.int 1) = .int tileCount
  nLayers_eq : dictGetD header "n_layers" (.int 0) = .int nLayers
  tensors_eq : dictGetD report "tensors" (.arr []) = .arr (tensors.map fun t => .obj t.fields)
  tile_lt : ∀ t ∈ tensors, t.tile < tileCount
  nodup : (tensors.map PlacedTensor.name).Nodup
  placed : ∀ name ∈ planNames nLayers, ∃ t ∈ tensors, ascii t.name = name

variable {report : Fields}

/-- The report places no tensors but those of the decoder. -/
def DecoderPlacement.Only (placement : DecoderPlacement report) : Prop :=
  ∀ t ∈ placement.tensors, ascii t.name ∈ planNames placement.nLayers

/-- The report places all of these on one tile. -/
def DecoderPlacement.Together (placement : DecoderPlacement report) (names : List String) : Prop :=
  ∃ tile : ℕ, ∀ name ∈ names, ∃ t ∈ placement.tensors, t.name = name ∧ t.tile = tile

/-- The tensors that the commands of a layer depend on. -/
def layerDeps (layerId : ℕ) : List String :=
  [attentionNormName layerId, wqName layerId, wkName layerId, wvName layerId, woName layerId, ffnNormName layerId,
    w1Name layerId, w3Name layerId, w2Name layerId]

/-- The tensors that the commands of the LM head depend on. -/
def lmHeadDeps : List String := ["norm.weight", "lm_head.weight"]

/-! ### What the specs ask for -/

section Specs

variable {layerId : ℕ} {dtype actBytes ffnBytes logitBytes policy : Json} {tokenPhase : String} {routes : RouteIndex}

theorem exists_layerSpec {name : String} (h : name ∈ layerDeps layerId) :
    ∃ spec ∈ layerSpecs layerId dtype actBytes ffnBytes policy tokenPhase routes,
      spec.commandType ∈ execCommandTypes ∧ .str name ∈ spec.tensorDeps := by
  simp only [layerDeps, List.mem_cons, List.not_mem_nil, or_false] at h
  rcases h with rfl | rfl | rfl | rfl | rfl | rfl | rfl | rfl | rfl <;> simp [layerSpecs, execCommandTypes]

theorem deps_of_mem_layerSpecs {spec : CommandSpec}
    (h : spec ∈ layerSpecs layerId dtype actBytes ffnBytes policy tokenPhase routes) :
    ∀ dep ∈ spec.tensorDeps, ∃ name ∈ layerDeps layerId, dep = .str name := by
  simp only [layerSpecs, List.mem_cons, List.not_mem_nil, or_false] at h
  rcases h with rfl | rfl | rfl | rfl | rfl | rfl | rfl | rfl | rfl | rfl | rfl | rfl | rfl | rfl | rfl | rfl | rfl |
    rfl <;> simp [layerDeps]

theorem exists_lmHeadSpec {name : String} (h : name ∈ lmHeadDeps) :
    ∃ spec ∈ lmHeadSpecs dtype actBytes logitBytes policy tokenPhase routes,
      spec.commandType ∈ execCommandTypes ∧ .str name ∈ spec.tensorDeps := by
  simp only [lmHeadDeps, List.mem_cons, List.not_mem_nil, or_false] at h
  rcases h with rfl | rfl <;> simp [lmHeadSpecs, execCommandTypes]

theorem deps_of_mem_lmHeadSpecs {spec : CommandSpec}
    (h : spec ∈ lmHeadSpecs dtype actBytes logitBytes policy tokenPhase routes) :
    ∀ dep ∈ spec.tensorDeps, ∃ name ∈ lmHeadDeps, dep = .str name := by
  simp only [lmHeadSpecs, List.mem_cons, List.not_mem_nil, or_false] at h
  rcases h with rfl | rfl | rfl <;> simp [lmHeadDeps]

/-- Only the load phase loads and checks. -/
theorem commandType_of_mem_layerSpecs {spec : CommandSpec}
    (h : spec ∈ layerSpecs layerId dtype actBytes ffnBytes policy tokenPhase routes) :
    spec.commandType ≠ "LOAD_TENSOR_TILE" ∧ spec.commandType ≠ "VALIDATE_TENSOR" := by
  simp only [layerSpecs, List.mem_cons, List.not_mem_nil, or_false] at h
  rcases h with rfl | rfl | rfl | rfl | rfl | rfl | rfl | rfl | rfl | rfl | rfl | rfl | rfl | rfl | rfl | rfl | rfl |
    rfl <;> simp

theorem commandType_of_mem_lmHeadSpecs {spec : CommandSpec}
    (h : spec ∈ lmHeadSpecs dtype actBytes logitBytes policy tokenPhase routes) :
    spec.commandType ≠ "LOAD_TENSOR_TILE" ∧ spec.commandType ≠ "VALIDATE_TENSOR" := by
  simp only [lmHeadSpecs, List.mem_cons, List.not_mem_nil, or_false] at h
  rcases h with rfl | rfl | rfl <;> simp

end Specs

/-! ### The report in the plan -/

section View

variable {tokenPhase : String} {strict : Bool} {p : ExecutionPlan} (placement : DecoderPlacement report)
  (view : PlanView report tokenPhase strict p)

theorem PlacedTensor.ownerTile_eq (t : PlacedTensor) : ownerTile t.fields = .int t.tile := by
  simp [ownerTile, dictGetD, t.tile_eq]

theorem PlacedTensor.dictGetD_name (t : PlacedTensor) (default : Json) :
    dictGetD t.fields "tensor_name" default = .str t.name := by
  simp [dictGetD, t.name_eq]

include placement view

theorem DecoderPlacement.tensors_view : view.tensors = placement.tensors.map fun t => .obj t.fields := by
  have h := view.tensorList
  rw [placement.tensors_eq] at h
  exact (Except.ok.inj h).symm

theorem DecoderPlacement.header_view : view.input.header = placement.header :=
  Except.ok.inj (view.header.symm.trans placement.header_eq)

theorem DecoderPlacement.nLayers_view : view.input.nLayers = placement.nLayers := by
  have h := view.nLayers
  rw [placement.header_view view, placement.nLayers_eq] at h
  exact (Except.ok.inj h).symm

theorem DecoderPlacement.records_view : view.records = placement.tensors.map PlacedTensor.fields := by
  have h := view.partsOf.objects
  have hall : ∀ ts : List PlacedTensor, (ts.map fun t => Json.obj t.fields).mapM Json.asObj =
      (.ok (ts.map PlacedTensor.fields) : Py _) := by
    intro ts
    induction ts with
    | nil => rfl
    | cons t ts ih =>
      rw [List.map_cons, List.mapM_cons, ih]
      rfl
  rw [placement.tensors_view view, hall] at h
  exact (Except.ok.inj h).symm

/-- A tensor stands on its tile in the load phase. -/
theorem DecoderPlacement.exists_tile {t : PlacedTensor} (ht : t ∈ placement.tensors) :
    ∃ tile ∈ view.parts.tiles, tile.1 = .int t.tile ∧ t.fields ∈ tile.2 := by
  have hrecord : t.fields ∈ view.records := by
    rw [placement.records_view view]
    exact List.mem_map_of_mem ht
  obtain ⟨tile, htile, hmem⟩ := view.partsOf.byTile.complete _ hrecord
  obtain ⟨r, hr, howner⟩ := view.partsOf.byTile.named tile htile
  obtain ⟨-, hkey⟩ := view.partsOf.byTile.sound tile htile _ hmem
  rw [placement.records_view view] at hr
  obtain ⟨t', -, rfl⟩ := List.mem_map.mp hr
  rw [← howner, t.ownerTile_eq, t'.ownerTile_eq] at hkey
  refine ⟨tile, htile, ?_, hmem⟩
  rw [← howner, t'.ownerTile_eq]
  simpa [Json.key, eq_comm] using hkey

/-- What stands on a tile in the load phase is a tensor of the report that is placed there. -/
theorem DecoderPlacement.of_mem_tile {tile : Json × List Fields} (htile : tile ∈ view.parts.tiles) {r : Fields}
    (hr : r ∈ tile.2) : ∃ t ∈ placement.tensors, r = t.fields ∧ tile.1 = .int t.tile := by
  obtain ⟨hrecord, hkey⟩ := view.partsOf.byTile.sound tile htile r hr
  obtain ⟨r', hr', howner⟩ := view.partsOf.byTile.named tile htile
  rw [placement.records_view view] at hrecord hr'
  obtain ⟨t, ht, rfl⟩ := List.mem_map.mp hrecord
  obtain ⟨t', -, rfl⟩ := List.mem_map.mp hr'
  refine ⟨t, ht, rfl, ?_⟩
  rw [← howner, t.ownerTile_eq, t'.ownerTile_eq] at hkey
  rw [← howner, t'.ownerTile_eq]
  simpa [Json.key, eq_comm] using hkey

omit placement view in
/-- The entries of `tensors_by_name` for tensors that have names. -/
theorem tensorsByName_eq (ts : List PlacedTensor) :
    tensorsByName (ts.map fun t => .obj t.fields) =
      .ok ((ts.filter fun t => t.name ≠ "").map fun t => (.str t.name, t.fields)) := by
  have hall : ∀ ts : List PlacedTensor, (ts.map fun t => Json.obj t.fields).mapM (fun tensor => do
        let t ← tensor.asObj
        let name := dictGet t "tensor_name"
        if name.truthy then do
          let key ← name.key
          .ok [(key, t)]
        else .ok []) =
      (.ok (ts.map fun t => if t.name ≠ "" then [(.str t.name, t.fields)] else []) :
        Py (List (List (Json.Key × Fields)))) := by
    intro ts
    induction ts with
    | nil => rfl
    | cons t ts ih =>
      rw [List.map_cons, List.mapM_cons, ih]
      have hname : dictGet t.fields "tensor_name" = .str t.name := t.dictGetD_name .null
      by_cases hempty : t.name = ""
      · simp [Json.asObj, hname, Json.truthy, hempty, bind, Except.bind, pure, Except.pure]
      · simp [Json.asObj, hname, Json.truthy, hempty, Json.key, bind, Except.bind, pure, Except.pure]
  unfold tensorsByName
  rw [hall]
  show Except.ok _ = Except.ok _
  congr 1
  induction ts with
  | nil => rfl
  | cons t ts ih =>
    by_cases hempty : t.name = ""
    · simpa [hempty] using ih
    · simpa [hempty] using ih

/-- `tensors_by_name` finds every tensor under its name. -/
theorem DecoderPlacement.find_view {t : PlacedTensor} (ht : t ∈ placement.tensors) (hname : t.name ≠ "") :
    view.input.index.find t.name = some t.fields := by
  have hindex := view.index
  rw [placement.tensors_view view, tensorsByName_eq] at hindex
  rw [← Except.ok.inj hindex, TensorsByName.find]
  have hmem : ((.str t.name : Json.Key), t.fields) ∈
      ((placement.tensors.filter fun t => t.name ≠ "").map fun t => ((.str t.name : Json.Key), t.fields)).reverse := by
    simp only [List.mem_reverse, List.mem_map, List.mem_filter]
    exact ⟨t, ⟨ht, by simpa using hname⟩, rfl⟩
  cases hfind : List.find? (fun entry => decide (entry.1 = .str t.name))
      ((placement.tensors.filter fun t => t.name ≠ "").map fun t => ((.str t.name : Json.Key), t.fields)).reverse with
  | none => simpa using List.find?_eq_none.mp hfind _ hmem
  | some entry =>
    have hentry := List.mem_of_find?_eq_some hfind
    have hkey := List.find?_some hfind
    simp only [List.mem_reverse, List.mem_map, List.mem_filter] at hentry
    obtain ⟨t', ⟨ht', -⟩, rfl⟩ := hentry
    -- a name belongs to one tensor
    have heq : t' = t := by
      refine List.inj_on_of_nodup_map placement.nodup ht' ht ?_
      simpa using hkey
    rw [heq]
    rfl

/-! ### Loads and uses -/

omit placement view in
theorem commandType_of_mem_tilePlaces {tile : Json × List Fields} {q : Place} (h : q ∈ tilePlaces tile) :
    q.spec.commandType = "LOAD_TENSOR_TILE" ∨ q.spec.commandType = "VALIDATE_TENSOR" := by
  rcases List.mem_append.mp h with h | h
  · obtain ⟨t, -, rfl⟩ := List.mem_map.mp h
    exact .inl rfl
  · obtain ⟨t, -, rfl⟩ := List.mem_map.mp h
    exact .inr rfl

omit placement in
/-- A command behind the load phase is one on every tile without tensors, one of a layer or one of the LM head. -/
theorem PlanView.cases_of_mem_rest {q : Place} (h : q ∈ view.parts.rest view.input) :
    (q.spec.tensorDeps = [] ∧ q.spec.commandType ≠ "LOAD_TENSOR_TILE" ∧ q.spec.commandType ≠ "VALIDATE_TENSOR") ∨
    (∃ layerId < view.input.nLayers, ∃ actBytes ffnBytes,
      q.tileId = layerOwner view.input.tiles view.input.index layerId ∧
        q.spec ∈ layerSpecs layerId view.input.dtype actBytes ffnBytes view.input.policy view.input.tokenPhase
          view.input.routes) ∨
    ∃ actBytes logitBytes, q.tileId = lmHeadTile view.input.index ∧
      q.spec ∈ lmHeadSpecs view.input.dtype actBytes logitBytes view.input.policy view.input.tokenPhase
        view.input.routes := by
  have htiles : ∀ {tiles : ℕ} {layerId : ℤ} {spec : CommandSpec}, q ∈ tilesPlaces tiles layerId spec → q.spec = spec := by
    intro tiles layerId spec hq
    obtain ⟨tile, -, rfl⟩ := List.mem_map.mp hq
    rfl
  simp only [PlanParts.rest, List.mem_append] at h
  rcases h with (((h | h) | h) | h) | h
  · exact .inl (by simp [htiles h, barrierSpec])
  · exact .inl (by simp [htiles h, traceSpec])
  · obtain ⟨part, hpart, hq⟩ := List.mem_flatMap.mp h
    obtain ⟨actBytes, ffnBytes, -, -, hplaces⟩ := view.partsOf.layers part hpart
    have hlayer : part.1 < view.input.nLayers := by
      have hmem := List.mem_map_of_mem (f := Prod.fst) hpart
      rwa [view.partsOf.layerIds, List.mem_range] at hmem
    rw [hplaces, List.mem_append] at hq
    rcases hq with hq | hq
    · obtain ⟨spec, hspec, rfl⟩ := List.mem_map.mp hq
      exact .inr (.inl ⟨part.1, hlayer, actBytes, ffnBytes, rfl, hspec⟩)
    · split at hq
      · exact .inl (by simp [htiles hq, traceSpec])
      · simp at hq
  · obtain ⟨actBytes, logitBytes, -, -, hplaces⟩ := view.partsOf.lmHead
    rw [hplaces] at h
    obtain ⟨spec, hspec, rfl⟩ := List.mem_map.mp h
    exact .inr (.inr ⟨actBytes, logitBytes, rfl, hspec⟩)
  · exact .inl (by simp [htiles h, querySpec])

omit placement in
theorem PlanView.commandType_of_mem_rest {q : Place} (h : q ∈ view.parts.rest view.input) :
    q.spec.commandType ≠ "LOAD_TENSOR_TILE" ∧ q.spec.commandType ≠ "VALIDATE_TENSOR" := by
  rcases view.cases_of_mem_rest h with ⟨-, htype⟩ | ⟨_, -, _, _, -, hspec⟩ | ⟨_, _, -, hspec⟩
  · exact htype
  · exact commandType_of_mem_layerSpecs hspec
  · exact commandType_of_mem_lmHeadSpecs hspec

/-- A tensor that a plan loads is one of the report, on its tile. -/
theorem DecoderPlacement.of_load {cmd : PlanCommand} (hcmd : cmd ∈ p.commands)
    (htype : cmd.commandType = "LOAD_TENSOR_TILE") {name : Json} (hname : name ∈ cmd.tensorDependencies) :
    ∃ t ∈ placement.tensors, name = .str t.name ∧ cmd.tileId = .int t.tile := by
  have hplace : cmd.place ∈ view.parts.all view.input := view.placed ▸ List.mem_map_of_mem hcmd
  rw [view.parts.all_eq, List.mem_append] at hplace
  rcases hplace with hplace | hplace
  · obtain ⟨tile, htile, hq⟩ := List.mem_flatMap.mp hplace
    obtain ⟨r, hr, hplace, hdeps⟩ : ∃ r ∈ tile.2, cmd.tileId = tile.1 ∧
        cmd.tensorDependencies = [dictGetD r "tensor_name" (.str "")] := by
      rcases List.mem_append.mp hq with hq | hq
      · obtain ⟨r, hr, heq⟩ := List.mem_map.mp hq
        exact ⟨r, hr, (congrArg Place.tileId heq).symm, (congrArg (·.spec.tensorDeps) heq).symm⟩
      · obtain ⟨r, hr, heq⟩ := List.mem_map.mp hq
        exact ⟨r, hr, (congrArg Place.tileId heq).symm, (congrArg (·.spec.tensorDeps) heq).symm⟩
    obtain ⟨t, ht, rfl, htile⟩ := placement.of_mem_tile view htile hr
    rw [hdeps, List.mem_singleton, t.dictGetD_name] at hname
    exact ⟨t, ht, hname, hplace.trans htile⟩
  · exact absurd htype (view.commandType_of_mem_rest hplace).1

omit placement in
/-- Behind the load phase, every command of the load phase has been issued. -/
theorem PlanView.loaded_before {pre post : List PlanCommand} {cmd : PlanCommand} (hsplit : p.commands = pre ++ cmd :: post)
    (hcmd : cmd.place ∈ view.parts.rest view.input) {q : Place} (hq : q ∈ view.parts.tiles.flatMap tilePlaces) :
    ∃ c ∈ pre, c.place = q := by
  have hplaced := view.placed
  rw [hsplit, view.parts.all_eq, List.map_append, List.map_cons] at hplaced
  rcases List.append_eq_append_iff.mp hplaced with ⟨more, hloads, hmore⟩ | ⟨more, hpre, -⟩
  · cases more with
    | nil =>
      rw [hloads, List.append_nil] at hq
      exact List.mem_map.mp hq
    | cons q' more =>
      -- the command itself would be of the load phase
      exfalso
      have hmem : cmd.place ∈ view.parts.tiles.flatMap tilePlaces := by
        rw [hloads, (List.cons.inj hmore).1]
        simp
      obtain ⟨tile, -, htile⟩ := List.mem_flatMap.mp hmem
      rcases commandType_of_mem_tilePlaces htile with htype | htype
      · exact (view.commandType_of_mem_rest hcmd).1 htype
      · exact (view.commandType_of_mem_rest hcmd).2 htype
  · exact List.mem_map.mp (hpre ▸ List.mem_append_left _ hq)

/-- Every tensor of the report is loaded and checked on its tile before the load phase ends. -/
theorem DecoderPlacement.resident_of_mem {pre post : List PlanCommand} {cmd : PlanCommand}
    (hsplit : p.commands = pre ++ cmd :: post) (hcmd : cmd.place ∈ view.parts.rest view.input) {t : PlacedTensor}
    (ht : t ∈ placement.tensors) :
    HasCommand pre "LOAD_TENSOR_TILE" (.str t.name) (.int t.tile) ∧
      HasCommand pre "VALIDATE_TENSOR" (.str t.name) (.int t.tile) := by
  obtain ⟨tile, htile, heq, hmem⟩ := placement.exists_tile view ht
  have hname := t.dictGetD_name (.str "")
  constructor
  · have hq : (⟨tile.1, -1, loadSpec t.fields⟩ : Place) ∈ view.parts.tiles.flatMap tilePlaces :=
      List.mem_flatMap.mpr ⟨tile, htile, List.mem_append_left _ (List.mem_map_of_mem hmem)⟩
    obtain ⟨c, hc, hplace⟩ := view.loaded_before hsplit hcmd hq
    refine ⟨c, hc, congrArg (·.spec.commandType) hplace, ?_, (congrArg Place.tileId hplace).trans heq⟩
    rw [show c.tensorDependencies = _ from congrArg (·.spec.tensorDeps) hplace]
    simp [loadSpec, hname]
  · have hq : (⟨tile.1, -1, validateSpec t.fields⟩ : Place) ∈ view.parts.tiles.flatMap tilePlaces :=
      List.mem_flatMap.mpr ⟨tile, htile, List.mem_append_right _ (List.mem_map_of_mem hmem)⟩
    obtain ⟨c, hc, hplace⟩ := view.loaded_before hsplit hcmd hq
    refine ⟨c, hc, congrArg (·.spec.commandType) hplace, ?_, (congrArg Place.tileId hplace).trans heq⟩
    rw [show c.tensorDependencies = _ from congrArg (·.spec.tensorDeps) hplace]
    simp [validateSpec, hname]

/-! ### The tiles of a layer and of the LM head -/

omit placement view in
theorem attentionNormName_ne (layerId : ℕ) : attentionNormName layerId ≠ "" := by
  intro h
  have hlen := congrArg String.length h
  simp [attentionNormName] at hlen

theorem DecoderPlacement.layerOwner_eq {t : PlacedTensor} (ht : t ∈ placement.tensors) {layerId : ℕ}
    (hname : t.name = attentionNormName layerId) :
    layerOwner view.input.tiles view.input.index layerId = .int t.tile := by
  have hfind := placement.find_view view ht (hname ▸ attentionNormName_ne layerId)
  rw [hname] at hfind
  rw [layerOwner, hfind]
  exact t.ownerTile_eq

theorem DecoderPlacement.lmHeadTile_eq {t : PlacedTensor} (ht : t ∈ placement.tensors) (hname : t.name = "norm.weight") :
    lmHeadTile view.input.index = .int t.tile := by
  have hfind := placement.find_view view ht (by simp [hname])
  rw [hname] at hfind
  rw [lmHeadTile, hfind]
  exact t.ownerTile_eq

/-- The tensors that one command each asks for on the tile are together. -/
theorem DecoderPlacement.together_of_resident (h : Resident p.commands) (tileId : Json) {names : List String}
    (hnames : ∀ name ∈ names, ∃ q ∈ view.parts.all view.input, q.tileId = tileId ∧
      q.spec.commandType ∈ execCommandTypes ∧ .str name ∈ q.spec.tensorDeps) : placement.Together names := by
  have howned : ∀ name ∈ names, ∃ t ∈ placement.tensors, t.name = name ∧ tileId = .int t.tile := by
    intro name hname
    obtain ⟨q, hq, htile, htype, hdep⟩ := hnames name hname
    rw [← view.placed] at hq
    obtain ⟨cmd, hcmd, rfl⟩ := List.mem_map.mp hq
    obtain ⟨pre, post, hsplit⟩ := List.append_of_mem hcmd
    obtain ⟨⟨load, hload, hloadType, hloadDep, hloadTile⟩, -⟩ := h pre cmd post hsplit htype _ hdep
    have hmem : load ∈ p.commands := hsplit ▸ List.mem_append_left _ hload
    obtain ⟨t, ht, heq, htileId⟩ := placement.of_load view hmem hloadType hloadDep
    exact ⟨t, ht, (Json.str.inj heq).symm, htile.symm.trans (hloadTile.symm.trans htileId)⟩
  cases names with
  | nil => exact ⟨0, by simp⟩
  | cons name names =>
    obtain ⟨t, -, -, htile⟩ := howned name List.mem_cons_self
    refine ⟨t.tile, fun name' hname' => ?_⟩
    obtain ⟨t', ht', heq, htile'⟩ := howned name' hname'
    refine ⟨t', ht', heq, ?_⟩
    have hint := Json.int.inj (htile'.symm.trans htile)
    exact_mod_cast hint

/-- A plan uses only tensors on the tile exactly where the report places the tensors of its names together. -/
theorem DecoderPlacement.resident_iff :
    Resident p.commands ↔
      (∀ layerId < placement.nLayers, placement.Together (layerDeps layerId)) ∧ placement.Together lmHeadDeps := by
  constructor
  · intro h
    constructor
    · intro layerId hlayer
      rw [← placement.nLayers_view view, ← List.mem_range, ← view.partsOf.layerIds] at hlayer
      obtain ⟨part, hpart, rfl⟩ := List.mem_map.mp hlayer
      obtain ⟨actBytes, ffnBytes, -, -, hplaces⟩ := view.partsOf.layers part hpart
      refine placement.together_of_resident view h (layerOwner view.input.tiles view.input.index part.1)
        fun name hname => ?_
      obtain ⟨spec, hspec, htype, hdep⟩ := exists_layerSpec hname
      refine ⟨⟨layerOwner view.input.tiles view.input.index part.1, part.1, spec⟩, ?_, rfl, htype, hdep⟩
      have hmem : (⟨layerOwner view.input.tiles view.input.index part.1, part.1, spec⟩ : Place) ∈ part.2 := by
        rw [hplaces]
        exact List.mem_append_left _ (List.mem_map_of_mem hspec)
      have hflat := List.mem_flatMap.mpr ⟨part, hpart, hmem⟩
      simp [PlanParts.all, hflat]
    · obtain ⟨actBytes, logitBytes, -, -, hplaces⟩ := view.partsOf.lmHead
      refine placement.together_of_resident view h (lmHeadTile view.input.index) fun name hname => ?_
      obtain ⟨spec, hspec, htype, hdep⟩ := exists_lmHeadSpec hname
      refine ⟨⟨lmHeadTile view.input.index, -1, spec⟩, ?_, rfl, htype, hdep⟩
      have hmem : (⟨lmHeadTile view.input.index, -1, spec⟩ : Place) ∈ view.parts.lmHead := by
        rw [hplaces]
        exact List.mem_map_of_mem hspec
      simp [PlanParts.all, hmem]
  · rintro ⟨hlayers, hhead⟩ pre cmd post hsplit htype dep hdep
    have hmem : cmd.place ∈ view.parts.all view.input := by
      rw [← view.placed, hsplit]
      exact List.mem_map_of_mem (by simp)
    rw [view.parts.all_eq, List.mem_append] at hmem
    rcases hmem with hmem | hmem
    · -- the load phase has no such command
      obtain ⟨tile, -, hq⟩ := List.mem_flatMap.mp hmem
      have hload := commandType_of_mem_tilePlaces hq
      rw [show cmd.place.spec.commandType = cmd.commandType from rfl] at hload
      rcases hload with heq | heq <;> simp [heq, execCommandTypes] at htype
    · rcases view.cases_of_mem_rest hmem with ⟨hnone, -⟩ | ⟨layerId, hlayer, _, _, htile, hspec⟩ | ⟨_, _, htile, hspec⟩
      · rw [show cmd.place.spec.tensorDeps = cmd.tensorDependencies from rfl] at hnone
        simp [hnone] at hdep
      · obtain ⟨name, hname, rfl⟩ := deps_of_mem_layerSpecs hspec dep hdep
        obtain ⟨tile, htogether⟩ := hlayers layerId (placement.nLayers_view view ▸ hlayer)
        obtain ⟨norm, hnorm, hnormName, rfl⟩ := htogether (attentionNormName layerId) (by simp [layerDeps])
        obtain ⟨t, ht, rfl, hsame⟩ := htogether name hname
        have hres := placement.resident_of_mem view hsplit hmem ht
        rwa [hsame, ← placement.layerOwner_eq view hnorm hnormName, ← htile] at hres
      · obtain ⟨name, hname, rfl⟩ := deps_of_mem_lmHeadSpecs hspec dep hdep
        obtain ⟨tile, htogether⟩ := hhead
        obtain ⟨norm, hnorm, hnormName, rfl⟩ := htogether "norm.weight" (by simp [lmHeadDeps])
        obtain ⟨t, ht, rfl, hsame⟩ := htogether name hname
        have hres := placement.resident_of_mem view hsplit hmem ht
        rwa [hsame, ← placement.lmHeadTile_eq view hnorm hnormName, ← htile] at hres

end View

/-- The converter emits no tensor `norm.weight`. -/
theorem norm_notMem_planNames (nLayers : ℕ) : ascii "norm.weight" ∉ planNames nLayers := by
  intro h
  unfold planNames at h
  rcases List.mem_cons.mp h with h | h
  · revert h
    decide
  rcases List.mem_append.mp h with h | h
  · obtain ⟨layer, -, h⟩ := List.mem_flatMap.mp h
    have hhead := head?_of_mem_layerNames h
    revert hhead
    decide
  · revert h
    decide

theorem DecoderPlacement.not_together_of_only {placement : DecoderPlacement report} (h : placement.Only) :
    ¬ placement.Together lmHeadDeps := by
  rintro ⟨tile, htogether⟩
  obtain ⟨t, ht, hname, -⟩ := htogether "norm.weight" (by simp [lmHeadDeps])
  exact norm_notMem_planNames placement.nLayers (hname ▸ h t ht)

/-- A plan uses only tensors on the tile exactly where, for every layer and for the LM head, the report places the
tensors under the names of the planner on one tile; that is never so for a report of the decoder's tensors alone. -/
theorem planned_resident_iff (placement : DecoderPlacement report) {commandPlan routeReport : Json}
    {modelId sessionId tokenPhase : String} {strict : Bool} {p : ExecutionPlan}
    (h : plan report commandPlan routeReport modelId sessionId tokenPhase strict = .ok p) :
    (Resident p.commands ↔
      (∀ layerId < placement.nLayers, placement.Together (layerDeps layerId)) ∧ placement.Together lmHeadDeps) ∧
    (placement.Only → ¬ Resident p.commands) := by
  obtain ⟨⟨view⟩, -⟩ := plan_view h
  have hiff := placement.resident_iff view
  exact ⟨hiff, fun honly hres => DecoderPlacement.not_together_of_only honly (hiff.mp hres).2⟩

/-! ### A decoder with one layer on one tile -/

/-- A tensor on the only tile. -/
def sampleTensor (name : String) : PlacedTensor where
  fields := [("tensor_name", .str name), ("owner_tile", .int 0), ("packed_bytes", .int 4), ("dtype", .str "f32")]
  name := name
  tile := 0
  name_eq := by simp [List.lookup]
  tile_eq := by simp [List.lookup]

def sampleTensors : List PlacedTensor :=
  ["tok_embeddings.weight", "layers.0.attention_norm.weight", "layers.0.attention.wq.weight",
    "layers.0.attention.wk.weight", "layers.0.attention.wv.weight", "layers.0.attention.wo.weight",
    "layers.0.ffn_norm.weight", "layers.0.ffn.w_gate.weight", "layers.0.ffn.w_up.weight",
    "layers.0.ffn.w_down.weight", "output_norm.weight", "output.weight"].map sampleTensor

def sampleReport : Fields :=
  [("header", .obj [("tile_count", .int (1 : ℕ)), ("n_layers", .int (1 : ℕ))]),
    ("tensors", .arr (sampleTensors.map fun t => .obj t.fields))]

def sampleHeader : Fields := [("tile_count", .int (1 : ℕ)), ("n_layers", .int (1 : ℕ))]

theorem headerOf_sampleReport : headerOf sampleReport = .ok sampleHeader := by
  simp [headerOf, sampleReport, sampleHeader, Json.asObj]

theorem sampleHeader_tileCount : dictGetD sampleHeader "tile_count" (.int 1) = .int (1 : ℕ) := by
  simp [dictGetD, sampleHeader]

theorem sampleHeader_nLayers : dictGetD sampleHeader "n_layers" (.int 0) = .int (1 : ℕ) := by
  simp [dictGetD, sampleHeader, List.lookup]

theorem sampleReport_tensors :
    dictGetD sampleReport "tensors" (.arr []) = .arr (sampleTensors.map fun t => .obj t.fields) := by
  simp [dictGetD, sampleReport, List.lookup]

theorem sampleTensors_tile_lt : ∀ t ∈ sampleTensors, t.tile < 1 := by decide +kernel

theorem sampleTensors_nodup : (sampleTensors.map PlacedTensor.name).Nodup := by decide +kernel

theorem sampleTensors_placed : ∀ name ∈ planNames 1, ∃ t ∈ sampleTensors, ascii t.name = name := by decide +kernel

def samplePlacement : DecoderPlacement sampleReport where
  header := sampleHeader
  tileCount := 1
  nLayers := 1
  tensors := sampleTensors
  header_eq := headerOf_sampleReport
  tileCount_eq := sampleHeader_tileCount
  nLayers_eq := sampleHeader_nLayers
  tensors_eq := sampleReport_tensors
  tile_lt := sampleTensors_tile_lt
  nodup := sampleTensors_nodup
  placed := sampleTensors_placed

theorem plan_sampleReport : ∃ p, plan sampleReport .null .null "m" "s" "prefill" false = .ok p := by
  have hok : (plan sampleReport .null .null "m" "s" "prefill" false).toOption.isSome = true := by decide +kernel
  cases hplan : plan sampleReport .null .null "m" "s" "prefill" false with
  | ok p => exact ⟨p, rfl⟩
  | error e => simp [hplan, Except.toOption] at hok

theorem planned_resident_sample : ∃ p, plan sampleReport .null .null "m" "s" "prefill" false = .ok p ∧
    (samplePlacement.Only → ¬ Resident p.commands) := by
  obtain ⟨p, hp⟩ := plan_sampleReport
  exact ⟨p, hp, (planned_resident_iff samplePlacement hp).2⟩

/-- Its plan asks for `norm.weight`, which the report does not place. -/
theorem planned_not_resident : samplePlacement.Only ∧
    ∃ p, plan sampleReport .null .null "m" "s" "prefill" false = .ok p ∧ ¬ Resident p.commands := by
  have honly : samplePlacement.Only := by
    show ∀ t ∈ sampleTensors, ascii t.name ∈ planNames 1
    decide +kernel
  obtain ⟨p, hp⟩ := plan_sampleReport
  obtain ⟨⟨view⟩, -⟩ := plan_view hp
  exact ⟨honly, p, hp, fun hres =>
    DecoderPlacement.not_together_of_only honly ((samplePlacement.resident_iff view).mp hres).2⟩

end Att1.Planner
