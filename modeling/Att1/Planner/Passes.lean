import Att1.Planner.Accepts
import Att1.Planner.Resident

/-!
# Att1.Planner.Passes — the plans of sensible reports

* `ReportOK`: a placement report that the planner is for.
* `ReportOK.placesOK`: where the plan of such a report does not fail, every command is `PlaceOK`.
* `PlanView.phasesInOrder`: the phases come in the order of `PHASE_ORDER_CONSTRAINTS`.
* `plan_passes`: the validator has no errors for such a plan.
-/

open Att1.Lib

namespace Att1.Planner

/-! ### Reports -/

/-- A tensor with a name, a size and a known dtype; its owner is a number, or it has none. -/
structure TensorOK (t : Fields) : Prop where
  name : ∃ name, name ≠ "" ∧ dictGet t "tensor_name" = .str name
  owner : (dictGet t "owner_tile").isNone ∨ ∃ n : ℕ, dictGet t "owner_tile" = .int n
  size : ∃ bytes : ℤ, 0 < bytes ∧ dictGet t "packed_bytes" = .int bytes
  dtype : ∃ dtype ∈ validDtypes, dictGetD t "dtype" (.str "f32") = .str dtype

/-- A header whose numbers are in range; those it leaves out have their defaults. -/
structure HeaderOK (header : Fields) : Prop where
  tileCount : ∃ n : ℕ, 0 < n ∧ dictGetD header "tile_count" (.int 1) = .int n
  nLayers : ∃ n : ℕ, dictGetD header "n_layers" (.int 0) = .int n
  dModel : ∃ n : ℤ, 0 < n ∧ dictGetD header "d_model" (.int 64) = .int n
  ffnHidden : ∃ n : ℤ, 0 < n ∧ dictGetD header "ffn_hidden" (.int 128) = .int n
  vocabSize : ∃ n : ℤ, 0 < n ∧ dictGetD header "vocab_size" (.int 256) = .int n
  dtype : ∃ dtype ∈ validDtypes, dictGetD header "dtype" (.str "f32") = .str dtype

/-- A placement report that the planner is for. -/
structure ReportOK (report : Fields) where
  header : Fields
  records : List Fields
  header_eq : headerOf report = .ok header
  tensors_eq : dictGetD report "tensors" (.arr []) = .arr (records.map .obj)
  headerOK : HeaderOK header
  tensorsOK : ∀ t ∈ records, TensorOK t

theorem mapM_asObj (records : List Fields) : (records.map Json.obj).mapM Json.asObj = .ok records := by
  rw [List.mapM_map, mapM_eq_ok]
  exact List.forall₂_same.mpr fun _ _ => rfl

/-! ### Specs -/

section Specs

variable {phase commandType : String} {inputs outputs routes reductions : List Json} {flags : ℤ}

theorem bufferOK_buf {region : String} {byteSize dtype : Json} (hregion : region ∈ validRegionTypes)
    (hsize : ∃ n : ℤ, 0 < n ∧ byteSize = .int n) (hdtype : ∃ d ∈ validDtypes, dtype = .str d) :
    BufferOK (buf region byteSize dtype) := by
  obtain ⟨n, hn, rfl⟩ := hsize
  obtain ⟨d, hd, rfl⟩ := hdtype
  exact ⟨region, hregion, n, hn, d, hd, rfl⟩

/-- The types of the commands that work on buffers alone. -/
def bufferCommandTypes : List String :=
  ["EXEC_ROPE", "EXEC_ATTENTION", "EXEC_SWIGLU", "EXEC_SOFTMAX", "EXEC_RESIDUAL", "KV_APPEND", "KV_READ"]

/-- The types of the commands that have no operands. -/
def bareCommandTypes : List String := ["TILE_BARRIER", "TRACE_SNAPSHOT", "QUERY_COUNTERS"]

theorem bareSpec_ok (hphase : phase ∈ validExecutionPhases) (htype : commandType ∈ bareCommandTypes)
    (hflags : 0 ≤ flags) : SpecOK ⟨phase, commandType, [], [], [], routes, [], flags⟩ := by
  have hfacts : ∀ type ∈ bareCommandTypes, type ∈ validCommandTypes ∧ (type ≠ "FABRIC_SEND" ∧ type ≠ "FABRIC_REDUCE") ∧
      type ∉ tensorDepRequired ∧ type ∉ inputBufRequired ∧ type ∉ outputBufRequired := by decide
  obtain ⟨hvalid, hfabric, hdeps, hinputs, houtputs⟩ := hfacts commandType htype
  exact ⟨hphase, hvalid, hfabric, by simp, fun h => absurd h hdeps, by simp, fun h => absurd h hinputs, by simp,
    fun h => absurd h houtputs, hflags, fun _ => rfl⟩

theorem bufferSpec_ok (hphase : phase ∈ validExecutionPhases) (htype : commandType ∈ bufferCommandTypes)
    (hinputs : ∀ b ∈ inputs, BufferOK b) (hneed : inputs ≠ []) (houtputs : ∀ b ∈ outputs, BufferOK b)
    (hmake : outputs ≠ []) (hflags : 0 ≤ flags) :
    SpecOK ⟨phase, commandType, [], inputs, outputs, routes, reductions, flags⟩ := by
  have hfacts : ∀ type ∈ bufferCommandTypes, type ∈ validCommandTypes ∧
      (type ≠ "FABRIC_SEND" ∧ type ≠ "FABRIC_REDUCE") ∧ type ∉ tensorDepRequired ∧ type ≠ "EXEC_MATMUL" := by decide
  obtain ⟨hvalid, hfabric, hdeps, hmatmul⟩ := hfacts commandType htype
  exact ⟨hphase, hvalid, hfabric, by simp, fun h => absurd h hdeps, hinputs, fun _ => hneed, houtputs, fun _ => hmake,
    hflags, fun h => absurd h hmatmul⟩

/-- The types of the commands that read a tensor. -/
def tensorCommandTypes : List String := ["EXEC_MATMUL", "EXEC_RMSNORM"]

theorem tensorSpec_ok {name : String} (hphase : phase ∈ validExecutionPhases)
    (htype : commandType ∈ tensorCommandTypes) (hname : name ≠ "") (hinputs : ∀ b ∈ inputs, BufferOK b)
    (hneed : inputs ≠ []) (houtputs : ∀ b ∈ outputs, BufferOK b) (hmake : outputs ≠ []) :
    SpecOK ⟨phase, commandType, [.str name], inputs, outputs, routes, [], 0⟩ := by
  have hfacts : ∀ type ∈ tensorCommandTypes, type ∈ validCommandTypes ∧
      (type ≠ "FABRIC_SEND" ∧ type ≠ "FABRIC_REDUCE") := by decide
  obtain ⟨hvalid, hfabric⟩ := hfacts commandType htype
  have hdeps : ∀ dep ∈ [Json.str name], ∃ name, name ≠ "" ∧ dep = .str name := fun dep hdep =>
    ⟨name, hname, List.mem_singleton.mp hdep⟩
  exact ⟨hphase, hvalid, hfabric, hdeps, fun _ => by simp, hinputs, fun _ => hneed, houtputs, fun _ => hmake, le_rfl,
    fun _ => rfl⟩

theorem barrierSpec_ok (routes : RouteIndex) : SpecOK (barrierSpec routes) :=
  bareSpec_ok (by decide) (by decide) le_rfl

theorem traceSpec_ok : SpecOK traceSpec := bareSpec_ok (by decide) (by decide) (by decide)

theorem querySpec_ok : SpecOK querySpec := bareSpec_ok (by decide) (by decide) le_rfl

theorem TensorOK.buffer {t : Fields} (h : TensorOK t) :
    BufferOK (buf "TENSOR" (dictGetD t "packed_bytes" (.int 0)) (dictGetD t "dtype" (.str "f32"))) := by
  obtain ⟨bytes, hpos, hbytes⟩ := h.size
  exact bufferOK_buf (by decide) ⟨bytes, hpos, dictGetD_of_dictGet hbytes rfl _⟩ h.dtype

theorem TensorOK.dep {t : Fields} (h : TensorOK t) :
    ∀ dep ∈ [dictGetD t "tensor_name" (.str "")], ∃ name, name ≠ "" ∧ dep = .str name := by
  obtain ⟨name, hne, hname⟩ := h.name
  intro dep hdep
  rw [List.mem_singleton.mp hdep]
  exact ⟨name, hne, dictGetD_of_dictGet hname rfl _⟩

theorem TensorOK.loadSpec_ok {t : Fields} (h : TensorOK t) : SpecOK (loadSpec t) where
  phase := by simp [loadSpec, validExecutionPhases]
  type := by simp [loadSpec, validCommandTypes]
  noFabric := by simp [loadSpec]
  deps := h.dep
  depRequired _ := by simp [loadSpec]
  inputs := by simp [loadSpec]
  inputRequired := by simp [loadSpec, inputBufRequired]
  outputs b hb := List.mem_singleton.mp hb ▸ h.buffer
  outputRequired _ := by simp [loadSpec]
  trace := le_rfl
  reductions _ := rfl

theorem TensorOK.validateSpec_ok {t : Fields} (h : TensorOK t) : SpecOK (validateSpec t) where
  phase := by simp [validateSpec, validExecutionPhases]
  type := by simp [validateSpec, validCommandTypes]
  noFabric := by simp [validateSpec]
  deps := h.dep
  depRequired _ := by simp [validateSpec]
  inputs b hb := List.mem_singleton.mp hb ▸ h.buffer
  inputRequired _ := by simp [validateSpec]
  outputs := by simp [validateSpec]
  outputRequired := by simp [validateSpec, outputBufRequired]
  trace := le_rfl
  reductions _ := rfl

variable {tokenPhase : String} {routes : RouteIndex} {layerId : ℕ} {dtype actBytes ffnBytes logitBytes policy : Json}

theorem execPhase_mem (tokenPhase : String) :
    execPhase tokenPhase = "PREFILL_EXECUTION_PLAN" ∨ execPhase tokenPhase = "DECODE_STEP_PLAN" := by
  unfold execPhase
  split
  · exact .inl rfl
  · exact .inr rfl

theorem execPhase_valid (tokenPhase : String) : execPhase tokenPhase ∈ validExecutionPhases := by
  rcases execPhase_mem tokenPhase with h | h <;> rw [h] <;> decide

theorem layerSpecs_ok (hdtype : ∃ d ∈ validDtypes, dtype = .str d) (hact : ∃ n : ℤ, 0 < n ∧ actBytes = .int n)
    (hffn : ∃ n : ℤ, 0 < n ∧ ffnBytes = .int n) :
    ∀ spec ∈ layerSpecs layerId dtype actBytes ffnBytes policy tokenPhase routes, SpecOK spec := by
  have hexec := execPhase_valid tokenPhase
  have hstaging : ∀ b ∈ [buf "STAGING" actBytes dtype], BufferOK b := by
    simpa using bufferOK_buf (by decide) hact hdtype
  have hpair : ∀ b ∈ [buf "STAGING" actBytes dtype, buf "STAGING" actBytes dtype], BufferOK b := by
    simpa using bufferOK_buf (by decide) hact hdtype
  have hwide : ∀ b ∈ [buf "STAGING" ffnBytes dtype], BufferOK b := by
    simpa using bufferOK_buf (by decide) hffn hdtype
  have hwidePair : ∀ b ∈ [buf "STAGING" ffnBytes dtype, buf "STAGING" ffnBytes dtype], BufferOK b := by
    simpa using bufferOK_buf (by decide) hffn hdtype
  have hcache : ∀ b ∈ [buf "KV_CACHE" actBytes dtype], BufferOK b := by
    simpa using bufferOK_buf (by decide) hact hdtype
  intro spec hspec
  simp only [layerSpecs, List.mem_cons, List.not_mem_nil, or_false] at hspec
  rcases hspec with rfl | rfl | rfl | rfl | rfl | rfl | rfl | rfl | rfl | rfl | rfl | rfl | rfl | rfl | rfl | rfl |
    rfl | rfl
  · exact tensorSpec_ok hexec (by decide) (by simp [attentionNormName]) hstaging (by simp) hstaging (by simp)
  · exact tensorSpec_ok hexec (by decide) (by simp [wqName]) hstaging (by simp) hstaging (by simp)
  · exact tensorSpec_ok hexec (by decide) (by simp [wkName]) hstaging (by simp) hstaging (by simp)
  · exact tensorSpec_ok hexec (by decide) (by simp [wvName]) hstaging (by simp) hstaging (by simp)
  · exact bufferSpec_ok hexec (by decide) hstaging (by simp) hstaging (by simp) le_rfl
  · exact bufferSpec_ok hexec (by decide) hstaging (by simp) hstaging (by simp) le_rfl
  · exact bufferSpec_ok (by decide) (by decide) hstaging (by simp) hcache (by simp) le_rfl
  · exact bufferSpec_ok (by decide) (by decide) hcache (by simp) hstaging (by simp) le_rfl
  · exact bufferSpec_ok hexec (by decide) hstaging (by simp) hstaging (by simp) le_rfl
  · exact tensorSpec_ok hexec (by decide) (by simp [woName]) hstaging (by simp) hstaging (by simp)
  · exact bufferSpec_ok hexec (by decide) hpair (by simp) hstaging (by simp) le_rfl
  · exact tensorSpec_ok hexec (by decide) (by simp [ffnNormName]) hstaging (by simp) hstaging (by simp)
  · exact tensorSpec_ok hexec (by decide) (by simp [w1Name]) hstaging (by simp) hwide (by simp)
  · exact tensorSpec_ok hexec (by decide) (by simp [w3Name]) hstaging (by simp) hwide (by simp)
  · exact bufferSpec_ok hexec (by decide) hwidePair (by simp) hwide (by simp) le_rfl
  · exact tensorSpec_ok hexec (by decide) (by simp [w2Name]) hwide (by simp) hstaging (by simp)
  · exact bufferSpec_ok hexec (by decide) hpair (by simp) hstaging (by simp) le_rfl
  · exact bareSpec_ok hexec (by decide) le_rfl

theorem lmHeadSpecs_ok (hdtype : ∃ d ∈ validDtypes, dtype = .str d) (hact : ∃ n : ℤ, 0 < n ∧ actBytes = .int n)
    (hlogits : ∃ n : ℤ, 0 < n ∧ logitBytes = .int n) :
    ∀ spec ∈ lmHeadSpecs dtype actBytes logitBytes policy tokenPhase routes, SpecOK spec := by
  have hexec := execPhase_valid tokenPhase
  have hstaging : ∀ b ∈ [buf "STAGING" actBytes dtype], BufferOK b := by
    simpa using bufferOK_buf (by decide) hact hdtype
  have hlogit : ∀ b ∈ [buf "STAGING" logitBytes dtype], BufferOK b := by
    simpa using bufferOK_buf (by decide) hlogits hdtype
  intro spec hspec
  simp only [lmHeadSpecs, List.mem_cons, List.not_mem_nil, or_false] at hspec
  rcases hspec with rfl | rfl | rfl
  · exact tensorSpec_ok hexec (by decide) (by decide) hstaging (by simp) hstaging (by simp)
  · exact tensorSpec_ok hexec (by decide) (by decide) hstaging (by simp) hlogit (by simp)
  · exact bufferSpec_ok hexec (by decide) hlogit (by simp) hlogit (by simp) (by decide)

end Specs

/-! ### The commands of a report -/

theorem tilesPlaces_ok {tiles nLayers : ℕ} {layerId : ℤ} {spec : CommandSpec}
    (hlayer : -1 ≤ layerId ∧ layerId < nLayers) (hspec : SpecOK spec) :
    ∀ q ∈ tilesPlaces tiles layerId spec, PlaceOK tiles nLayers q := by
  intro q hq
  obtain ⟨n, hn, rfl⟩ := List.mem_map.mp hq
  exact ⟨⟨n, List.mem_range.mp hn, rfl⟩, hlayer, hspec⟩

/-- A tensor without errors has an owner among the tiles. -/
theorem TensorOK.owner_lt {t : Fields} {n : ℕ} {notes : List FString} (h : TensorOK t)
    (hcheck : checkTensor (.int n) (.obj t) = .ok ([], notes)) : ∃ m : ℕ, m < n ∧ ownerTile t = .int m := by
  unfold checkTensor at hcheck
  rcases h.owner with hnone | ⟨owner, howner⟩
  · simp [Json.asObj, hnone, bind, Except.bind] at hcheck
  · refine ⟨owner, ?_, dictGetD_of_dictGet howner rfl _⟩
    by_contra hlt
    have hge : Json.ge (.int owner) (.int n) = .ok true := by
      have hless : ¬ (owner : ℤ) < n := by omega
      unfold Json.ge
      rw [Json.lt_of_asInt rfl rfl, decide_eq_false hless]
      rfl
    simp [Json.asObj, howner, Json.isNone, hge, bind, Except.bind] at hcheck

section View

variable {report : Fields} {tokenPhase : String} {strict : Bool} {p : ExecutionPlan} (ok : ReportOK report)
  (view : PlanView report tokenPhase strict p)
include ok

theorem ReportOK.header_view : view.input.header = ok.header :=
  Except.ok.inj (view.header.symm.trans ok.header_eq)

theorem ReportOK.tensors_view : view.tensors = ok.records.map .obj := by
  have h := view.tensorList
  rw [ok.tensors_eq] at h
  exact (Except.ok.inj h).symm

theorem ReportOK.records_view : view.records = ok.records := by
  have h := view.partsOf.objects
  rw [ok.tensors_view view, mapM_asObj] at h
  exact (Except.ok.inj h).symm

theorem ReportOK.tiles_view : ∃ n : ℕ, 0 < n ∧ view.input.tileCount = .int n ∧ view.input.tiles = n := by
  obtain ⟨n, hn, hcount⟩ := ok.headerOK.tileCount
  have hview := view.tileCount
  rw [ok.header_view view, hcount] at hview
  have htiles := view.input.tileCount_eq
  rw [hview] at htiles
  exact ⟨n, hn, hview, (Option.some.inj htiles).symm⟩

theorem ReportOK.nLayers_view : dictGetD view.input.header "n_layers" (.int 0) = .int view.input.nLayers := by
  obtain ⟨n, hn⟩ := ok.headerOK.nLayers
  have hview := view.nLayers
  rw [ok.header_view view, hn] at hview ⊢
  rw [← Except.ok.inj hview]
  rfl

theorem ReportOK.dtype_view : ∃ d ∈ validDtypes, view.input.dtype = .str d := by
  unfold PlanInput.dtype
  rw [ok.header_view view]
  exact ok.headerOK.dtype

/-- The sizes of the buffers are positive. -/
theorem ReportOK.bytes_view {field : String} {default : ℤ} {bytes : Json}
    (hfield : ∃ n : ℤ, 0 < n ∧ dictGetD ok.header field (.int default) = .int n)
    (h : view.input.Bytes field default bytes) : ∃ n : ℤ, 0 < n ∧ bytes = .int n := by
  obtain ⟨db, hdb, hbytes⟩ := h
  obtain ⟨d, -, hdtype⟩ := ok.dtype_view view
  obtain ⟨n, hn, hvalue⟩ := hfield
  have hpos : 0 < db := by
    rw [hdtype] at hdb
    rw [← Except.ok.inj hdb]
    split_ifs <;> decide
  rw [ok.header_view view, hvalue] at hbytes
  exact ⟨n * db, Int.mul_pos hn hpos, (Except.ok.inj hbytes).symm⟩

/-- Where the plan does not fail, the owner of a tensor is a tile of the device. -/
theorem ReportOK.owner_view (hstatus : p.status ≠ "fail") {t : Fields} (ht : t ∈ ok.records) :
    ∃ n : ℕ, (n : ℤ) < view.input.tiles ∧ ownerTile t = .int n := by
  have herrors : view.errors = [] := by
    by_contra hne
    refine hstatus (view.status.trans ?_)
    unfold planStatus
    rw [if_pos (by simpa using hne)]
  have hchecked := view.checked
  rw [ok.tensors_view view] at hchecked
  obtain ⟨checked, hmap, h⟩ := bind_eq_ok.mp hchecked
  rw [mapM_eq_ok, List.forall₂_map_left_iff] at hmap
  obtain ⟨⟨issues, notes⟩, hmem, htensor⟩ := exists_of_mem_left hmap ht
  have hissues : issues = [] := by
    have hall := (Prod.mk.inj (Except.ok.inj h)).1.trans herrors
    exact List.flatMap_eq_nil_iff.mp hall _ hmem
  obtain ⟨n, hn, hcount, htiles⟩ := ok.tiles_view view
  rw [hcount, hissues] at htensor
  obtain ⟨m, hm, howner⟩ := (ok.tensorsOK t ht).owner_lt htensor
  exact ⟨m, by omega, howner⟩

/-- `tensors_by_name` finds tensors of the report. -/
theorem ReportOK.find_view {name : String} {t : Fields} (h : view.input.index.find name = some t) : t ∈ ok.records := by
  have hindex := view.index
  rw [ok.tensors_view view] at hindex
  obtain ⟨entries, hentries, hflat⟩ := bind_eq_ok.mp hindex
  obtain ⟨entry, hfind, rfl⟩ := Option.map_eq_some_iff.mp h
  have hmem := List.mem_reverse.mp (List.mem_of_find?_eq_some hfind)
  rw [← Except.ok.inj hflat] at hmem
  obtain ⟨part, hpart, hentry⟩ := List.mem_flatten.mp hmem
  rw [mapM_eq_ok, List.forall₂_map_left_iff] at hentries
  obtain ⟨t, ht, hmade⟩ := exists_of_mem_right hentries hpart
  obtain ⟨fields, hfields, hmade⟩ := bind_eq_ok.mp hmade
  obtain rfl := Except.ok.inj hfields
  dsimp only at hmade
  split at hmade
  · obtain ⟨key, -, hmade⟩ := bind_eq_ok.mp hmade
    rw [← Except.ok.inj hmade, List.mem_singleton] at hentry
    rw [hentry]
    exact ht
  · rw [← Except.ok.inj hmade] at hentry
    cases hentry

theorem ReportOK.layerOwner_view (hstatus : p.status ≠ "fail") (layerId : ℕ) :
    ∃ n : ℕ, (n : ℤ) < view.input.tiles ∧ layerOwner view.input.tiles view.input.index layerId = .int n := by
  unfold layerOwner
  cases hfind : view.input.index.find (attentionNormName layerId) with
  | some t => exact ok.owner_view view hstatus (ok.find_view view hfind)
  | none =>
    obtain ⟨n, hn, -, htiles⟩ := ok.tiles_view view
    refine ⟨layerId % n, ?_, ?_⟩
    · rw [htiles]
      exact_mod_cast Nat.mod_lt layerId hn
    · rw [htiles, max_eq_left (by omega)]
      rfl

theorem ReportOK.lmHeadTile_view (hstatus : p.status ≠ "fail") :
    ∃ n : ℕ, (n : ℤ) < view.input.tiles ∧ lmHeadTile view.input.index = .int n := by
  unfold lmHeadTile
  cases hnorm : view.input.index.find "norm.weight" with
  | some t => exact ok.owner_view view hstatus (ok.find_view view hnorm)
  | none =>
    cases houtput : view.input.index.find "output_norm.weight" with
    | some t => exact ok.owner_view view hstatus (ok.find_view view houtput)
    | none =>
      obtain ⟨n, hn, -, htiles⟩ := ok.tiles_view view
      exact ⟨0, by omega, rfl⟩

/-- **Every command of a plan that does not fail is sound.** -/
theorem ReportOK.placesOK (hstatus : p.status ≠ "fail") :
    ∀ q ∈ view.parts.all view.input, PlaceOK view.input.tiles.toNat view.input.nLayers q := by
  have hlt {n : ℕ} (h : (n : ℤ) < view.input.tiles) : n < view.input.tiles.toNat := by omega
  have hnone : -1 ≤ (-1 : ℤ) ∧ (-1 : ℤ) < view.input.nLayers := by omega
  have hdtype := ok.dtype_view view
  intro q hq
  simp only [PlanParts.all, List.mem_append, List.mem_flatMap] at hq
  rcases hq with (((⟨tile, htile, hq⟩ | hq | hq) | ⟨part, hpart, hq⟩) | hq) | hq
  · -- the load phase
    obtain ⟨t, ht, hname⟩ := view.partsOf.byTile.named tile htile
    rw [ok.records_view view] at ht
    obtain ⟨n, hn, howner⟩ := ok.owner_view view hstatus ht
    have hplace : ∃ m < view.input.tiles.toNat, tile.1 = .int (m : ℕ) := ⟨n, hlt hn, hname.symm.trans howner⟩
    have htensor : ∀ t ∈ tile.2, TensorOK t := fun t ht =>
      ok.tensorsOK t (ok.records_view view ▸ (view.partsOf.byTile.sound tile htile t ht).1)
    rcases List.mem_append.mp hq with hq | hq
    · obtain ⟨t, ht, rfl⟩ := List.mem_map.mp hq
      exact ⟨hplace, hnone, (htensor t ht).loadSpec_ok⟩
    · obtain ⟨t, ht, rfl⟩ := List.mem_map.mp hq
      exact ⟨hplace, hnone, (htensor t ht).validateSpec_ok⟩
  · exact tilesPlaces_ok hnone (barrierSpec_ok _) q hq
  · exact tilesPlaces_ok hnone traceSpec_ok q hq
  · obtain ⟨actBytes, ffnBytes, hact, hffn, hplaces⟩ := view.partsOf.layers part hpart
    have hlayer : part.1 < view.input.nLayers := by
      have hmem : part.1 ∈ view.parts.layers.map Prod.fst := List.mem_map_of_mem hpart
      rw [view.partsOf.layerIds] at hmem
      exact List.mem_range.mp hmem
    rw [hplaces] at hq
    rcases List.mem_append.mp hq with hq | hq
    · obtain ⟨spec, hspec, rfl⟩ := List.mem_map.mp hq
      obtain ⟨n, hn, howner⟩ := ok.layerOwner_view view hstatus part.1
      exact ⟨⟨n, hlt hn, howner⟩, by dsimp only; omega, layerSpecs_ok hdtype
        (ok.bytes_view view ok.headerOK.dModel hact) (ok.bytes_view view ok.headerOK.ffnHidden hffn) spec hspec⟩
    · split_ifs at hq
      · exact tilesPlaces_ok (by omega) traceSpec_ok q hq
      · cases hq
  · obtain ⟨actBytes, logitBytes, hact, hlogit, hplaces⟩ := view.partsOf.lmHead
    rw [hplaces] at hq
    obtain ⟨spec, hspec, rfl⟩ := List.mem_map.mp hq
    obtain ⟨n, hn, howner⟩ := ok.lmHeadTile_view view hstatus
    exact ⟨⟨n, hlt hn, howner⟩, hnone, lmHeadSpecs_ok hdtype (ok.bytes_view view ok.headerOK.dModel hact)
      (ok.bytes_view view ok.headerOK.vocabSize hlogit) spec hspec⟩
  · exact tilesPlaces_ok hnone querySpec_ok q hq

end View

/-! ### The order of the phases -/

/-- No command of one phase stands before all those of another. -/
def PhasesInOrder (phases : List String) (before after : String) : Prop :=
  ∃ pre post, phases = pre ++ post ∧ after ∉ pre ∧ (before ∈ phases → before ∈ pre)

section Order

variable {phases phases' : List String} {before after : String}

theorem phasesInOrder_of_absent (h : before ∉ phases ∨ after ∉ phases) : PhasesInOrder phases before after := by
  rcases h with hbefore | hafter
  · exact ⟨[], phases, rfl, List.not_mem_nil, fun hmem => absurd hmem hbefore⟩
  · exact ⟨phases, [], (List.append_nil _).symm, hafter, id⟩

theorem phasesInOrder_append (hbefore : before ∉ phases') (hafter : after ∉ phases) :
    PhasesInOrder (phases ++ phases') before after :=
  ⟨phases, phases', rfl, hafter, fun hmem => (List.mem_append.mp hmem).resolve_right hbefore⟩

theorem PhasesInOrder.append_right (h : PhasesInOrder phases before after) (hbefore : before ∉ phases') :
    PhasesInOrder (phases ++ phases') before after := by
  obtain ⟨pre, post, rfl, hafter, hmem⟩ := h
  exact ⟨pre, post ++ phases', List.append_assoc .., hafter, fun h =>
    hmem ((List.mem_append.mp h).resolve_right hbefore)⟩

theorem validatePhaseOrdering_eq_nil {cmds : List PlanCommand}
    (h : ∀ c ∈ phaseOrderConstraints, PhasesInOrder (cmds.map PlanCommand.executionPhase) c.1 c.2) :
    validatePhaseOrdering (phasesFrom 0 cmds) = [] := by
  unfold validatePhaseOrdering
  rw [List.flatMap_eq_nil_iff]
  intro c hc
  obtain ⟨pre, post, hsplit, hafter, hmem⟩ := h c hc
  obtain ⟨front, back, rfl, hfront, -⟩ := List.map_eq_append_iff.mp hsplit
  by_cases hbefore : c.1 ∈ (front ++ back).map PlanCommand.executionPhase
  · obtain ⟨i, hi, hfirst⟩ := @exists_phaseFirst c.1 0 front back (hfront ▸ hmem hbefore)
    rw [hfirst]
    cases hlast : phaseFirst (phasesFrom 0 (front ++ back)) c.2 with
    | none => rfl
    | some j =>
      have hj := le_phaseFirst (hfront ▸ hafter) hlast
      have hle : ¬ j < i := by omega
      simp only [if_neg hle]
  · rw [phaseFirst_eq_none hbefore]

/-- The phases of the load phase. -/
def loadPhases : List String := ["LOAD_TENSOR_TILE", "VALIDATE_TENSOR_TILE"]

/-- The phases behind the barriers. -/
def stepPhases : List String :=
  ["TRACE_SNAPSHOT", "PREFILL_EXECUTION_PLAN", "DECODE_STEP_PLAN", "KV_APPEND", "KV_READ", "QUERY_COUNTERS"]

/-- The phase of a command. -/
def Place.phase (q : Place) : String := q.spec.executionPhase

/-- On every tile the tensors are loaded first. -/
theorem phasesInOrder_tilePlaces (tiles : List (Json × List Fields)) :
    PhasesInOrder ((tiles.flatMap tilePlaces).map Place.phase) "LOAD_TENSOR_TILE" "VALIDATE_TENSOR_TILE" := by
  induction tiles with
  | nil => exact phasesInOrder_of_absent (.inl List.not_mem_nil)
  | cons tile tiles ih =>
    obtain ⟨tileId, tensors⟩ := tile
    cases tensors with
    | nil => exact ih
    | cons t tensors =>
      have hsplit : ((tileId, t :: tensors) :: tiles).flatMap tilePlaces =
          (t :: tensors).map (fun t => ⟨tileId, -1, loadSpec t⟩) ++
            ((t :: tensors).map (fun t => ⟨tileId, -1, validateSpec t⟩) ++ tiles.flatMap tilePlaces) := by
        rw [List.flatMap_cons, tilePlaces, List.append_assoc]
      rw [hsplit, List.map_append]
      refine ⟨_, _, rfl, ?_, fun _ => ?_⟩
      · simp [Place.phase, loadSpec]
      · exact List.mem_cons_self

theorem mem_loadPhases {tiles : List (Json × List Fields)} :
    ∀ phase ∈ (tiles.flatMap tilePlaces).map Place.phase, phase ∈ loadPhases := by
  intro phase hphase
  obtain ⟨q, hq, rfl⟩ := List.mem_map.mp hphase
  obtain ⟨tile, -, hq⟩ := List.mem_flatMap.mp hq
  rcases List.mem_append.mp hq with hq | hq
  · obtain ⟨t, -, rfl⟩ := List.mem_map.mp hq
    exact List.mem_cons_self
  · obtain ⟨t, -, rfl⟩ := List.mem_map.mp hq
    exact List.mem_cons_of_mem _ List.mem_cons_self

theorem phase_of_mem_layerSpecs {layerId : ℕ} {dtype actBytes ffnBytes policy : Json} {tokenPhase : String}
    {routes : RouteIndex} {spec : CommandSpec}
    (h : spec ∈ layerSpecs layerId dtype actBytes ffnBytes policy tokenPhase routes) :
    spec.executionPhase ∈ [execPhase tokenPhase, "KV_APPEND", "KV_READ"] := by
  simp only [layerSpecs, List.mem_cons, List.not_mem_nil, or_false] at h
  rcases h with rfl | rfl | rfl | rfl | rfl | rfl | rfl | rfl | rfl | rfl | rfl | rfl | rfl | rfl | rfl | rfl | rfl |
    rfl <;> simp

theorem phase_of_mem_lmHeadSpecs {dtype actBytes logitBytes policy : Json} {tokenPhase : String} {routes : RouteIndex}
    {spec : CommandSpec} (h : spec ∈ lmHeadSpecs dtype actBytes logitBytes policy tokenPhase routes) :
    spec.executionPhase = execPhase tokenPhase := by
  simp only [lmHeadSpecs, List.mem_cons, List.not_mem_nil, or_false] at h
  rcases h with rfl | rfl | rfl <;> rfl

/-- The places behind the barriers. -/
def PlanParts.steps (parts : PlanParts) (input : PlanInput) : List Place :=
  tilesPlaces input.tiles.toNat (-1) traceSpec ++ parts.layers.flatMap Prod.snd ++ parts.lmHead ++
    tilesPlaces input.tiles.toNat (-1) querySpec

theorem PlanParts.all_split (parts : PlanParts) (input : PlanInput) :
    parts.all input = parts.tiles.flatMap tilePlaces ++ tilesPlaces input.tiles.toNat (-1) (barrierSpec input.routes) ++
      parts.steps input := by
  simp only [all, steps, List.append_assoc]

theorem execPhase_steps (tokenPhase : String) : execPhase tokenPhase ∈ stepPhases := by
  rcases execPhase_mem tokenPhase with h | h <;> rw [h] <;> decide

theorem mem_stepPhases {parts : PlanParts} {input : PlanInput} {tensors : List Json} {records : List Fields}
    (h : parts.Of input tensors records) : ∀ phase ∈ (parts.steps input).map Place.phase, phase ∈ stepPhases := by
  have hexec := execPhase_steps input.tokenPhase
  have htiles {spec : CommandSpec} {layerId : ℤ} (hspec : spec.executionPhase ∈ stepPhases) :
      ∀ q ∈ tilesPlaces input.tiles.toNat layerId spec, q.phase ∈ stepPhases := by
    intro q hq
    obtain ⟨n, -, rfl⟩ := List.mem_map.mp hq
    exact hspec
  intro phase hphase
  obtain ⟨q, hq, rfl⟩ := List.mem_map.mp hphase
  simp only [PlanParts.steps, List.mem_append, List.mem_flatMap] at hq
  rcases hq with ((hq | ⟨part, hpart, hq⟩) | hq) | hq
  · exact htiles (by decide) q hq
  · obtain ⟨actBytes, ffnBytes, -, -, hplaces⟩ := h.layers part hpart
    rw [hplaces] at hq
    rcases List.mem_append.mp hq with hq | hq
    · obtain ⟨spec, hspec, rfl⟩ := List.mem_map.mp hq
      have hmem := phase_of_mem_layerSpecs hspec
      simp only [List.mem_cons, List.not_mem_nil, or_false] at hmem
      rcases hmem with heq | heq | heq
      · exact (show spec.executionPhase ∈ stepPhases from heq ▸ hexec)
      · exact (show spec.executionPhase ∈ stepPhases from heq ▸ by decide)
      · exact (show spec.executionPhase ∈ stepPhases from heq ▸ by decide)
    · split_ifs at hq
      · exact htiles (by decide) q hq
      · cases hq
  · obtain ⟨actBytes, logitBytes, -, -, hplaces⟩ := h.lmHead
    rw [hplaces] at hq
    obtain ⟨spec, hspec, rfl⟩ := List.mem_map.mp hq
    exact (show spec.executionPhase ∈ stepPhases from phase_of_mem_lmHeadSpecs hspec ▸ hexec)
  · exact htiles (by decide) q hq

/-- **The phases are in order.** -/
theorem PlanView.phasesInOrder {report : Fields} {tokenPhase : String} {strict : Bool} {p : ExecutionPlan}
    (view : PlanView report tokenPhase strict p) :
    ∀ c ∈ phaseOrderConstraints, PhasesInOrder (p.commands.map PlanCommand.executionPhase) c.1 c.2 := by
  have hphases : p.commands.map PlanCommand.executionPhase = (view.parts.all view.input).map Place.phase := by
    rw [← view.placed, List.map_map]
    rfl
  set loads := (view.parts.tiles.flatMap tilePlaces).map Place.phase with hloads
  set barriers :=
    (tilesPlaces view.input.tiles.toNat (-1) (barrierSpec view.input.routes)).map Place.phase with hbarriers
  set steps := (view.parts.steps view.input).map Place.phase with hsteps
  rw [hphases, PlanParts.all_split, List.map_append, List.map_append]
  have hload : ∀ phase ∈ loads, phase ∈ loadPhases := mem_loadPhases
  have hbarrier : ∀ phase ∈ barriers, phase = "PREFILL_SETUP" := by
    intro phase hphase
    obtain ⟨q, hq, rfl⟩ := List.mem_map.mp hphase
    obtain ⟨n, -, rfl⟩ := List.mem_map.mp hq
    rfl
  have hstep : ∀ phase ∈ steps, phase ∈ stepPhases := mem_stepPhases view.partsOf
  have hkinds : ∀ c ∈ phaseOrderConstraints,
      (c.1 ∉ "PREFILL_SETUP" :: (loadPhases ++ stepPhases) ∨ c.2 ∉ "PREFILL_SETUP" :: (loadPhases ++ stepPhases)) ∨
        c = ("LOAD_TENSOR_TILE", "VALIDATE_TENSOR_TILE") ∨
        (c.1 ∈ loadPhases ∧ c.1 ≠ "PREFILL_SETUP" ∧ c.1 ∉ stepPhases ∧ c.2 ∉ loadPhases) ∨
        (c.1 ∉ stepPhases ∧ c.2 ∉ loadPhases ∧ c.2 ≠ "PREFILL_SETUP") := by decide
  have hall : ∀ phase ∈ loads ++ barriers ++ steps, phase ∈ "PREFILL_SETUP" :: (loadPhases ++ stepPhases) := by
    intro phase hphase
    rw [List.mem_append, List.mem_append] at hphase
    rcases hphase with (hphase | hphase) | hphase
    · exact List.mem_cons_of_mem _ (List.mem_append_left _ (hload phase hphase))
    · rw [hbarrier phase hphase]
      exact List.mem_cons_self
    · exact List.mem_cons_of_mem _ (List.mem_append_right _ (hstep phase hphase))
  intro c hc
  rcases hkinds c hc with habsent | rfl | ⟨-, hsetup, hafter, hbefore⟩ | ⟨hafter, hbefore, hsetup⟩
  · exact phasesInOrder_of_absent (habsent.imp (mt (hall _)) (mt (hall _)))
  · refine ((phasesInOrder_tilePlaces _).append_right fun h => ?_).append_right fun h => ?_
    · exact absurd (hbarrier _ h) (by decide)
    · exact absurd (hstep _ h) (by decide)
  · rw [List.append_assoc]
    refine phasesInOrder_append (fun h => ?_) fun h => hbefore (hload _ h)
    rcases List.mem_append.mp h with h | h
    · exact hsetup (hbarrier _ h)
    · exact hafter (hstep _ h)
  · refine phasesInOrder_append (fun h => hafter (hstep _ h)) fun h => ?_
    rcases List.mem_append.mp h with h | h
    · exact hbefore (hload _ h)
    · exact hsetup (hbarrier _ h)

end Order

/-! ### The validator -/

section Validator

variable {p : ExecutionPlan} {fmt : FString → String} {n nLayers : ℕ}

@[simp] theorem dictGet_commands :
    dictGet (p.fields fmt) "commands" = .arr (p.commands.map fun cmd => .obj cmd.fields) := by
  simp [dictGet, dictGetD, ExecutionPlan.fields, List.lookup]

@[simp] theorem dictGet_layerCount : dictGet (p.fields fmt) "layer_count" = p.layerCount := by
  simp [dictGet, dictGetD, ExecutionPlan.fields, List.lookup]

theorem validateHeader_ok (hmodel : p.modelId ≠ "") (hsession : p.sessionId ≠ "")
    (hphase : p.tokenPhase ∈ validTokenPhases) (htiles : p.tileCount = .int n) (hn : 0 < n)
    (hlayers : p.layerCount = .int nLayers) (hstatus : p.status ∈ validPlanStatuses) :
    validateHeader false (p.fields fmt) = .ok (n, []) := by
  have hversion : checkVersion (p.fields fmt) = .ok [] := by
    simp [checkVersion, dictGet, dictGetD, ExecutionPlan.fields, Json.isNone, Json.key, bind, Except.bind]
  have hids : checkIds (p.fields fmt) = .ok [] := by
    simp [checkIds, dictGet, dictGetD, ExecutionPlan.fields, List.lookup, Json.truthy, Json.isNone, hmodel, hsession,
      inSet_str, hphase, bind, Except.bind]
  have hcount : checkTileCount (p.fields fmt) = (n, []) := by
    have hpos : ¬ (n : ℤ) ≤ 0 := by omega
    simp [checkTileCount, dictGet, dictGetD, ExecutionPlan.fields, List.lookup, htiles, Json.isNone, Json.asInt?,
      hn.ne']
  have hlayer : checkLayerCount (p.fields fmt) = [] := by
    have hnonneg : ¬ (nLayers : ℤ) < 0 := by omega
    simp [checkLayerCount, hlayers, Json.isNone, Json.asInt?, hnonneg]
  have hcommands : checkCommandCount (p.fields fmt) = [] := by
    simp [checkCommandCount, dictGet, dictGetD, ExecutionPlan.fields, List.lookup, Json.isNone, Json.asList?,
      Json.eqInt, Json.number?]
  have hplan : checkPlanStatus false (p.fields fmt) = .ok [] := by
    simp [checkPlanStatus, dictGet, dictGetD, ExecutionPlan.fields, List.lookup, Json.isNone, inSet_str, hstatus, bind,
      Except.bind]
  unfold validateHeader
  rw [hversion, hids, hcount, hplan, hlayer, hcommands]
  rfl

theorem validateDependencies_ok (hdeps : DepsMet [] p.commands) :
    validateDependencies (p.fields fmt) (recordFences [] 0 p.commands) = [] := by
  unfold validateDependencies
  rw [dictGet_commands]
  simp only [checkDependencies_ok hdeps, List.nil_append]
  rw [Search.findCycles_eq_nil fun node child hchild => depGraph_lt _ _ node child hchild]
  rfl

theorem validateSplitReductions_ok (hspecs : ∀ cmd ∈ p.commands, SpecOK cmd.place.spec) :
    validateSplitReductions (p.fields fmt) = [] := by
  unfold validateSplitReductions
  rw [dictGet_commands]
  simp only [List.flatMap_eq_nil_iff]
  rintro ⟨cmd, i⟩ hcmd
  obtain ⟨cmd, hmem, rfl⟩ := List.mem_map.mp (List.fst_mem_of_mem_zipIdx hcmd)
  have hreductions := (hspecs cmd hmem).reductions
  by_cases htype : cmd.commandType = "EXEC_MATMUL"
  · have hnone : cmd.requiredReductions = [] := hreductions htype
    simp [requiresReduction, hnone]
  · simp [hasType, Json.eqStr, htype]

end Validator

/-- **The plans of the planner pass.**  Where the plan for a sensible report does not fail, the validator has no errors
for it. -/
theorem plan_passes {report : Fields} (ok : ReportOK report) {commandPlan routeReport : Json}
    {modelId sessionId tokenPhase : String} {strict : Bool} {p : ExecutionPlan} (hmodel : modelId ≠ "")
    (hsession : sessionId ≠ "") (hphase : tokenPhase ∈ validTokenPhases)
    (h : plan report commandPlan routeReport modelId sessionId tokenPhase strict = .ok p) (hstatus : p.status ≠ "fail")
    (fmt : FString → String) : Passes false (p.fields fmt) := by
  obtain ⟨⟨view⟩, rfl, rfl, rfl⟩ := plan_view h
  have hplaces : ∀ cmd ∈ p.commands, PlaceOK view.input.tiles.toNat view.input.nLayers cmd.place := fun cmd hcmd =>
    ok.placesOK view hstatus _ (view.placed ▸ List.mem_map_of_mem hcmd)
  obtain ⟨n, hn, hcount, htiles⟩ := ok.tiles_view view
  have hlayers : p.layerCount = .int view.input.nLayers := view.layerCount.trans (ok.nLayers_view view)
  have hknown : p.status ∈ validPlanStatuses := by
    rw [view.status]
    unfold planStatus
    split_ifs <;> decide
  have hheader : validateHeader false (p.fields fmt) = .ok (n, []) :=
    validateHeader_ok hmodel hsession hphase (view.tiles.trans hcount) hn hlayers hknown
  rw [htiles, Int.toNat_natCast] at hplaces
  obtain ⟨ids, issues, hcommands, hissues⟩ := @checkCommands_ok n view.input.nLayers p.commands 1 0 ⟨[], [], []⟩ hplaces
    view.statuses view.ids (by simp)
  have hvalidate : validateCommands false (p.fields fmt) n =
      .ok (⟨ids, recordFences [] 0 p.commands, phasesFrom 0 p.commands⟩, issues) := by
    unfold validateCommands
    rw [dictGet_commands, dictGet_layerCount, hlayers]
    exact hcommands
  refine ⟨issues, ?_, hissues⟩
  unfold validatePlan
  rw [hheader]
  simp only [bind, Except.bind, hvalidate, validatePhaseOrdering_eq_nil view.phasesInOrder,
    validateDependencies_ok view.deps, validateSplitReductions_ok fun cmd hcmd => (hplaces cmd hcmd).spec,
    List.nil_append, List.append_nil]

/-! ### The report of the decoder with one layer -/

theorem sampleTensor_ok {name : String} (hname : name ≠ "") : TensorOK (sampleTensor name).fields where
  name := ⟨name, hname, by simp [sampleTensor, dictGet]⟩
  owner := .inr ⟨0, by simp [sampleTensor, dictGet, dictGetD, List.lookup]⟩
  size := ⟨4, by decide, by simp [sampleTensor, dictGet, dictGetD, List.lookup]⟩
  dtype := ⟨"f32", by decide, by simp [sampleTensor, dictGetD, List.lookup]⟩

theorem sampleHeader_ok : HeaderOK sampleHeader where
  tileCount := ⟨1, by decide, sampleHeader_tileCount⟩
  nLayers := ⟨1, sampleHeader_nLayers⟩
  dModel := ⟨64, by decide, by simp [sampleHeader, dictGetD, List.lookup]⟩
  ffnHidden := ⟨128, by decide, by simp [sampleHeader, dictGetD, List.lookup]⟩
  vocabSize := ⟨256, by decide, by simp [sampleHeader, dictGetD, List.lookup]⟩
  dtype := ⟨"f32", by decide, by simp [sampleHeader, dictGetD, List.lookup]⟩

def sampleReportOK : ReportOK sampleReport where
  header := sampleHeader
  records := sampleTensors.map PlacedTensor.fields
  header_eq := headerOf_sampleReport
  tensors_eq := by rw [sampleReport_tensors, List.map_map]; rfl
  headerOK := sampleHeader_ok
  tensorsOK t ht := by
    obtain ⟨placed, hplaced, rfl⟩ := List.mem_map.mp ht
    obtain ⟨name, hname, rfl⟩ := List.mem_map.mp hplaced
    exact sampleTensor_ok fun h => absurd (h ▸ hname) (by decide)

theorem plan_sampleReport_status : ∃ p, plan sampleReport .null .null "m" "s" "prefill" false = .ok p ∧
    p.status ≠ "fail" := by
  have hok : (plan sampleReport .null .null "m" "s" "prefill" false).toOption.map ExecutionPlan.status =
      some "pass" := by decide +kernel
  obtain ⟨p, hp, hstatus⟩ := Option.map_eq_some_iff.mp hok
  exact ⟨p, toOption_eq_some.mp hp, fun h => absurd (hstatus.symm.trans h) (by decide)⟩

theorem plan_passes_sample : ∃ p, plan sampleReport .null .null "m" "s" "prefill" false = .ok p ∧
    Passes false (p.fields fun _ => "") := by
  obtain ⟨p, hp, hstatus⟩ := plan_sampleReport_status
  exact ⟨p, hp, plan_passes sampleReportOK (by decide) (by decide) (by decide) hp hstatus _⟩

end Att1.Planner
