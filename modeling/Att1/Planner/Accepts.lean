import Att1.Planner.Commands
import Att1.Planner.Validate

/-!
# Att1.Planner.Accepts — the validator accepts the plans of the planner

`PlaceOK` is what the planner makes sure of for a command, apart from its number and its fences.  Such a command passes
the checks of the validator (`checkCommand_ok`), and so does a list of them (`checkCommands_ok`).  The phases and the
fences of a plan are in order because its parts are: `plan_passes`.
-/

open Att1.Lib

namespace Att1.Planner

/-! ### Commands that pass -/

/-- A buffer with a known region, a positive size and a known dtype. -/
def BufferOK (b : Json) : Prop :=
  ∃ region ∈ validRegionTypes, ∃ size : ℤ, 0 < size ∧ ∃ dtype ∈ validDtypes, b = buf region (.int size) (.str dtype)

structure SpecOK (spec : CommandSpec) : Prop where
  phase : spec.executionPhase ∈ validExecutionPhases
  type : spec.commandType ∈ validCommandTypes
  noFabric : spec.commandType ≠ "FABRIC_SEND" ∧ spec.commandType ≠ "FABRIC_REDUCE"
  deps : ∀ dep ∈ spec.tensorDeps, ∃ name, name ≠ "" ∧ dep = .str name
  depRequired : spec.commandType ∈ tensorDepRequired → spec.tensorDeps ≠ []
  inputs : ∀ b ∈ spec.inputBufs, BufferOK b
  inputRequired : spec.commandType ∈ inputBufRequired → spec.inputBufs ≠ []
  outputs : ∀ b ∈ spec.outputBufs, BufferOK b
  outputRequired : spec.commandType ∈ outputBufRequired → spec.outputBufs ≠ []
  trace : 0 ≤ spec.traceFlags
  reductions : spec.commandType = "EXEC_MATMUL" → spec.requiredReductions = []

/-- A command on one of `tiles` tiles, for one of `nLayers` layers or for none. -/
structure PlaceOK (tiles nLayers : ℕ) (q : Place) : Prop where
  tile : ∃ n < tiles, q.tileId = .int (n : ℕ)
  layer : -1 ≤ q.layerId ∧ q.layerId < nLayers
  spec : SpecOK q.spec

/-! ### The fields of a command -/

section Fields

variable (cmd : PlanCommand)

@[simp] theorem dictGet_planCommandId : dictGet cmd.fields "plan_command_id" = .int cmd.planCommandId := by
  simp [dictGet, dictGetD, PlanCommand.fields, List.lookup]

@[simp] theorem dictGet_tileId : dictGet cmd.fields "tile_id" = cmd.tileId := by
  simp [dictGet, dictGetD, PlanCommand.fields, List.lookup]

@[simp] theorem dictGet_layerId : dictGet cmd.fields "layer_id" = .int cmd.layerId := by
  simp [dictGet, dictGetD, PlanCommand.fields, List.lookup]

@[simp] theorem dictGet_executionPhase : dictGet cmd.fields "execution_phase" = .str cmd.executionPhase := by
  simp [dictGet, dictGetD, PlanCommand.fields, List.lookup]

@[simp] theorem dictGet_commandType : dictGet cmd.fields "command_type" = .str cmd.commandType := by
  simp [dictGet, dictGetD, PlanCommand.fields, List.lookup]

@[simp] theorem dictGetD_tensorDependencies (default : Json) :
    dictGetD cmd.fields "tensor_dependencies" default = .arr cmd.tensorDependencies := by
  simp [dictGetD, PlanCommand.fields, List.lookup]

@[simp] theorem dictGetD_inputBuffers (default : Json) :
    dictGetD cmd.fields "input_buffers" default = .arr cmd.inputBuffers := by
  simp [dictGetD, PlanCommand.fields, List.lookup]

@[simp] theorem dictGetD_outputBuffers (default : Json) :
    dictGetD cmd.fields "output_buffers" default = .arr cmd.outputBuffers := by
  simp [dictGetD, PlanCommand.fields, List.lookup]

@[simp] theorem dictGet_requiredRoutes : dictGet cmd.fields "required_routes" = .arr cmd.requiredRoutes := by
  simp [dictGet, dictGetD, PlanCommand.fields, List.lookup]

@[simp] theorem dictGetD_requiredReductions (default : Json) :
    dictGetD cmd.fields "required_reductions" default = .arr cmd.requiredReductions := by
  simp [dictGetD, PlanCommand.fields, List.lookup]

@[simp] theorem dictGet_fenceId : dictGet cmd.fields "fence_id" = .int cmd.fenceId := by
  simp [dictGet, dictGetD, PlanCommand.fields, List.lookup]

@[simp] theorem dictGet_dependencyFenceId :
    dictGet cmd.fields "dependency_fence_id" = .int cmd.dependencyFenceId := by
  simp [dictGet, dictGetD, PlanCommand.fields, List.lookup]

@[simp] theorem dictGet_expectedStatus : dictGet cmd.fields "expected_status" = .str cmd.expectedStatus := by
  simp [dictGet, dictGetD, PlanCommand.fields, List.lookup]

@[simp] theorem dictGet_traceFlags : dictGet cmd.fields "trace_flags" = .int cmd.traceFlags := by
  simp [dictGet, dictGetD, PlanCommand.fields, List.lookup]

end Fields

/-! ### The checks of a command -/

@[simp] theorem errorsOf_nil : errorsOf [] = [] := rfl

@[simp] theorem errorsOf_append (xs ys : List Issue) : errorsOf (xs ++ ys) = errorsOf xs ++ errorsOf ys :=
  List.filter_append ..

theorem errorsOf_flatten {xss : List (List Issue)} (h : ∀ xs ∈ xss, errorsOf xs = []) : errorsOf xss.flatten = [] := by
  induction xss with
  | nil => rfl
  | cons xs xss ih =>
    rw [List.flatten_cons, errorsOf_append, h xs List.mem_cons_self, List.nil_append]
    exact ih fun ys hys => h ys (List.mem_cons_of_mem _ hys)

/-- Outside the strict mode an issue is a warning. -/
@[simp] theorem errorsOf_issue (rule : ℕ) (message : FString) : errorsOf [issue false rule message] = [] := rfl

section Checks

variable {tiles nLayers : ℕ} {cmd : PlanCommand} {label : FString}

/-- The check returns, with no errors. -/
def Clean (check : Py (List Issue)) : Prop := ∃ issues, check = .ok issues ∧ errorsOf issues = []

theorem checkBuffer_clean {b : Json} (h : BufferOK b) (rule : ℕ) : Clean (checkBuffer false label rule b) := by
  obtain ⟨region, hregion, size, hsize, dtype, hdtype, rfl⟩ := h
  have hpos : ¬ size ≤ 0 := not_le.mpr hsize
  by_cases hq4 : dtype = "q4"
  · subst hq4
    refine ⟨[issue false rule (label ++
      [.lit " dtype=q4 but neither 'q4_group_size' nor 'q4_scale_bytes' is present"])], ?_, rfl⟩
    simp [buf, checkBuffer, dictGet, dictGetD, List.lookup, Json.isNone, inSet_str, hregion, hdtype, Json.asInt?, hpos,
      Json.eqStr, bind, Except.bind]
  · refine ⟨[], ?_, rfl⟩
    simp [buf, checkBuffer, dictGet, dictGetD, List.lookup, Json.isNone, inSet_str, hregion, hdtype, Json.asInt?, hpos,
      Json.eqStr, hq4, bind, Except.bind]

/-- A loop of clean checks is clean. -/
theorem clean_mapM {α : Type} {check : α → Py (List Issue)} {xs : List α} (h : ∀ x ∈ xs, Clean (check x)) :
    ∃ checked, xs.mapM check = .ok checked ∧ errorsOf checked.flatten = [] := by
  induction xs with
  | nil => exact ⟨[], rfl, rfl⟩
  | cons x xs ih =>
    obtain ⟨issues, hx, hissues⟩ := h x List.mem_cons_self
    obtain ⟨checked, hxs, hchecked⟩ := ih fun y hy => h y (List.mem_cons_of_mem _ hy)
    refine ⟨issues :: checked, ?_, by simp [hissues, hchecked]⟩
    rw [List.mapM_cons, hx, hxs]
    rfl

theorem checkBuffers_clean {required : List String} {name kind : String} {bufs : List Json}
    (hname : dictGetD cmd.fields name (.arr []) = .arr bufs) (hneed : cmd.commandType ∈ required → bufs ≠ [])
    (hbufs : ∀ b ∈ bufs, BufferOK b) :
    Clean (checkBuffers false label (.str cmd.commandType) required name kind cmd.fields) := by
  have hclean : ∀ item ∈ bufs.zipIdx, Clean (checkBuffer false
      (label ++ [.lit ("." ++ name)] ++ [.lit "[", .val (.int item.2), .lit "]"]) 7 item.1) :=
    fun item hitem => checkBuffer_clean (hbufs item.1 (List.fst_mem_of_mem_zipIdx hitem)) 7
  obtain ⟨checked, hchecked, herrors⟩ := clean_mapM hclean
  cases bufs with
  | nil =>
    have hnot : cmd.commandType ∉ required := fun hmem => hneed hmem rfl
    refine ⟨[], ?_, rfl⟩
    simp [checkBuffers, hname, inSet_str, hnot, bind, Except.bind]
  | cons b bufs =>
    refine ⟨checked.flatten, ?_, herrors⟩
    simp only [checkBuffers, hname, inSet_str, List.isEmpty_cons, Bool.and_false, Bool.false_eq_true, if_false, bind,
      Except.bind, validateBufferList, hchecked, List.nil_append]

theorem checkTileId_eq_nil (h : PlaceOK tiles nLayers cmd.place) : checkTileId label tiles cmd.fields = [] := by
  obtain ⟨n, hn, htile⟩ := h.tile
  rw [show cmd.place.tileId = cmd.tileId from rfl] at htile
  have hneg : ¬ (n : ℤ) < 0 := by omega
  have hlt : ¬ (0 < tiles ∧ (tiles : ℤ) ≤ n) := by omega
  simp only [checkTileId, dictGet_tileId, htile, Json.isNone, Json.asInt?, Bool.false_eq_true, if_false, if_neg hneg,
    if_neg hlt]

theorem checkLayerId_eq_nil (h : PlaceOK tiles nLayers cmd.place) :
    checkLayerId label (.int nLayers) cmd.fields = [] := by
  obtain ⟨hlow, hhigh⟩ := h.layer
  rw [show cmd.place.layerId = cmd.layerId from rfl] at hlow hhigh
  have hneg : ¬ cmd.layerId < -1 := by omega
  have hlt : ¬ (0 ≤ cmd.layerId ∧ (nLayers : ℤ) ≤ cmd.layerId) := by omega
  simp only [checkLayerId, dictGet_layerId, Json.isNone, Json.asInt?, Bool.false_eq_true, if_false, if_neg hneg,
    if_neg hlt]

theorem checkPhase_eq (h : SpecOK cmd.place.spec) :
    checkPhase label cmd.fields = .ok (some cmd.executionPhase, []) := by
  have hphase : cmd.executionPhase ∈ validExecutionPhases := h.phase
  simp [checkPhase, Json.isNone, inSet_str, hphase, bind, Except.bind]

theorem checkTensorDeps_eq_nil {ct : Json} (h : ∀ dep ∈ cmd.tensorDependencies, ∃ name, name ≠ "" ∧ dep = .str name)
    (hne : cmd.tensorDependencies ≠ []) : checkTensorDeps label ct cmd.fields = [] := by
  unfold checkTensorDeps
  rw [dictGetD_tensorDependencies]
  obtain ⟨dep, deps, heq⟩ := List.exists_cons_of_ne_nil hne
  rw [heq] at h ⊢
  have hany : (dep :: deps).any isBadName = false := by
    rw [List.any_eq_false]
    intro d hd
    obtain ⟨name, hname, rfl⟩ := h d hd
    simpa [isBadName] using hname
  simp only [hany, Bool.false_eq_true, if_false]

theorem checkCommandType_eq (h : SpecOK cmd.place.spec) : checkCommandType label tiles cmd.fields = .ok [] := by
  have htype : cmd.commandType ∈ validCommandTypes := h.type
  have hsend : cmd.commandType ≠ "FABRIC_SEND" := h.noFabric.1
  have hreduce : cmd.commandType ≠ "FABRIC_REDUCE" := h.noFabric.2
  by_cases hneed : cmd.commandType ∈ tensorDepRequired
  · have hdeps := @checkTensorDeps_eq_nil cmd label (.str cmd.commandType) h.deps (h.depRequired hneed)
    simp [checkCommandType, Json.isNone, inSet_str, htype, hneed, hdeps, Json.eqStr, hsend, hreduce, bind, Except.bind]
  · simp [checkCommandType, Json.isNone, inSet_str, htype, hneed, Json.eqStr, hsend, hreduce, bind, Except.bind]

theorem checkExpectedStatus_eq (h : cmd.expectedStatus = "ok") :
    checkExpectedStatus false label cmd.fields = .ok [] := by
  simp [checkExpectedStatus, h, Json.isNone, inSet_str, validExpectedStatuses, bind, Except.bind]

theorem checkTraceFlags_eq_nil (h : SpecOK cmd.place.spec) : checkTraceFlags label cmd.fields = [] := by
  have htrace : ¬ cmd.traceFlags < 0 := not_lt.mpr h.trace
  simp [checkTraceFlags, Json.isNone, Json.asInt?, htrace]

theorem checkList_eq_nil {name : String} {items : List Json} (h : dictGet cmd.fields name = .arr items) :
    checkList label name cmd.fields = [] := by
  simp [checkList, h, Json.asList?]

theorem checkId_eq {seenIds : List ℤ} (h : (cmd.planCommandId : ℤ) ∉ seenIds) :
    checkId label seenIds cmd.fields = ((cmd.planCommandId : ℤ) :: seenIds, []) := by
  simp [checkId, Json.isNone, Json.asInt?, h]

/-- `fence_to_cmd_idx` after a command: the first command of a fence stays. -/
def recordFence (fences : List (ℤ × ℕ)) (fenceId : ℕ) (i : ℕ) : List (ℤ × ℕ) :=
  if fenceId = 0 ∨ fences.lookup (fenceId : ℤ) = none then ((fenceId : ℤ), i) :: fences else fences

theorem checkFence_eq {i : ℕ} {fences : List (ℤ × ℕ)} :
    ∃ issues, checkFence false label i fences cmd.fields = (recordFence fences cmd.fenceId i, issues) ∧
      errorsOf issues = [] := by
  have hneg : ¬ (cmd.fenceId : ℤ) < 0 := by omega
  by_cases hzero : cmd.fenceId = 0
  · refine ⟨[], ?_, rfl⟩
    simp [checkFence, recordFence, Json.isNone, Json.asInt?, hzero]
  · cases hlookup : fences.lookup (cmd.fenceId : ℤ) with
    | none =>
      refine ⟨[], ?_, rfl⟩
      simp [checkFence, recordFence, Json.isNone, Json.asInt?, hneg, hzero, hlookup]
    | some first =>
      refine ⟨[issue false 10 (label ++ [.lit " fence_id=", .val (.int cmd.fenceId),
        .lit " already used by commands[", .val (.int first), .lit "]"])], ?_, rfl⟩
      simp [checkFence, recordFence, Json.isNone, Json.asInt?, hneg, hzero, hlookup]

/-- The checks of a command that the planner makes, and what is kept of it. -/
theorem checkCommand_ok (h : PlaceOK tiles nLayers cmd.place) (hstatus : cmd.expectedStatus = "ok") {seen : Seen}
    {i : ℕ} (hid : (cmd.planCommandId : ℤ) ∉ seen.ids) :
    ∃ issues, checkCommand false tiles (.int nLayers) seen i (.obj cmd.fields) =
        .ok (⟨(cmd.planCommandId : ℤ) :: seen.ids, recordFence seen.fenceToCmdIdx cmd.fenceId i,
          seen.cmdIdxToPhase ++ [(i, cmd.executionPhase)]⟩, issues) ∧
      errorsOf issues = [] := by
  obtain ⟨inputs, hinputs, hinputErrors⟩ := @checkBuffers_clean cmd (commandLabel i) inputBufRequired "input_buffers"
    "input_buffer" cmd.inputBuffers (dictGetD_inputBuffers cmd _) h.spec.inputRequired h.spec.inputs
  obtain ⟨outputs, houtputs, houtputErrors⟩ := @checkBuffers_clean cmd (commandLabel i) outputBufRequired
    "output_buffers" "output_buffer" cmd.outputBuffers (dictGetD_outputBuffers cmd _) h.spec.outputRequired
    h.spec.outputs
  obtain ⟨fenceIssues, hfence, hfenceErrors⟩ := @checkFence_eq cmd (commandLabel i) i seen.fenceToCmdIdx
  refine ⟨inputs ++ outputs ++ fenceIssues, ?_, by simp [hinputErrors, houtputErrors, hfenceErrors]⟩
  simp only [checkCommand, checkId_eq hid, checkPhase_eq h.spec, checkCommandType_eq h.spec, dictGet_commandType,
    hinputs, houtputs, checkExpectedStatus_eq hstatus, hfence, checkTileId_eq_nil h, checkLayerId_eq_nil h,
    checkTraceFlags_eq_nil h.spec, checkList_eq_nil (dictGet_requiredRoutes cmd),
    checkList_eq_nil (show dictGet cmd.fields "required_reductions" = _ from dictGetD_requiredReductions cmd _),
    bind, Except.bind, List.nil_append, List.append_nil]

end Checks

/-! ### The list of commands -/

section Commands

variable {tiles nLayers : ℕ} {cmds : List PlanCommand}

/-- `fence_to_cmd_idx` after commands with indices from `i` on. -/
def recordFences (fences : List (ℤ × ℕ)) (i : ℕ) : List PlanCommand → List (ℤ × ℕ)
  | [] => fences
  | cmd :: cmds => recordFences (recordFence fences cmd.fenceId i) (i + 1) cmds

/-- `cmd_idx_to_phase` of commands with indices from `i` on. -/
def phasesFrom (i : ℕ) (cmds : List PlanCommand) : List (ℕ × String) :=
  (cmds.zipIdx i).map fun cmd => (cmd.2, cmd.1.executionPhase)

theorem checkCommands_ok {start i : ℕ} {seen : Seen} (h : ∀ cmd ∈ cmds, PlaceOK tiles nLayers cmd.place)
    (hstatus : ∀ cmd ∈ cmds, cmd.expectedStatus = "ok")
    (hids : cmds.map PlanCommand.planCommandId = List.range' start cmds.length)
    (hseen : ∀ id ∈ seen.ids, id < (start : ℤ)) :
    ∃ (ids : List ℤ) (issues : List Issue),
      checkCommands false tiles (.int nLayers) seen i (cmds.map fun cmd => .obj cmd.fields) =
        .ok (⟨ids, recordFences seen.fenceToCmdIdx i cmds, seen.cmdIdxToPhase ++ phasesFrom i cmds⟩, issues) ∧
      errorsOf issues = [] := by
  induction cmds generalizing start i seen with
  | nil => exact ⟨seen.ids, [], by simp [checkCommands, recordFences, phasesFrom], rfl⟩
  | cons cmd cmds ih =>
    rw [List.map_cons, List.length_cons, List.range'_succ, List.cons.injEq] at hids
    obtain ⟨hid, hids⟩ := hids
    -- the number is fresh: all earlier ones are smaller
    have hfresh : (cmd.planCommandId : ℤ) ∉ seen.ids := fun hmem => by
      have hlt := hseen _ hmem
      omega
    obtain ⟨issues, hcmd, hissues⟩ := @checkCommand_ok tiles nLayers cmd (h cmd List.mem_cons_self)
      (hstatus cmd List.mem_cons_self) seen i hfresh
    obtain ⟨ids, rest, hrest, herrors⟩ := @ih (start + 1) (i + 1)
      ⟨(cmd.planCommandId : ℤ) :: seen.ids, recordFence seen.fenceToCmdIdx cmd.fenceId i,
        seen.cmdIdxToPhase ++ [(i, cmd.executionPhase)]⟩
      (fun c hc => h c (List.mem_cons_of_mem _ hc)) (fun c hc => hstatus c (List.mem_cons_of_mem _ hc)) hids
      (fun id hmem => by
        rcases List.mem_cons.mp hmem with rfl | hmem
        · omega
        · have hlt := hseen id hmem
          omega)
    refine ⟨ids, issues ++ rest, ?_, by rw [errorsOf_append, hissues, herrors, List.nil_append]⟩
    rw [List.map_cons, checkCommands, hcmd]
    simp only [bind, Except.bind]
    rw [hrest]
    simp [recordFences, phasesFrom, List.zipIdx_cons]

/-! ### Fences -/

theorem lookup_recordFence {fences : List (ℤ × ℕ)} {f g i j : ℕ} (hf : f ≠ 0)
    (h : fences.lookup (f : ℤ) = some j) : (recordFence fences g i).lookup (f : ℤ) = some j := by
  unfold recordFence
  split
  · rename_i hg
    have hne : (f : ℤ) ≠ (g : ℤ) := by
      rintro heq
      have hfg : f = g := by exact_mod_cast heq
      subst hfg
      rcases hg with h0 | hnone
      · exact hf h0
      · simp [hnone] at h
    rw [List.lookup_cons, beq_eq_false_iff_ne.mpr hne]
    exact h
  · exact h

theorem lookup_recordFences {fences : List (ℤ × ℕ)} {f i j : ℕ} (hf : f ≠ 0)
    (h : fences.lookup (f : ℤ) = some j) : (recordFences fences i cmds).lookup (f : ℤ) = some j := by
  induction cmds generalizing fences i with
  | nil => exact h
  | cons cmd cmds ih => exact ih (lookup_recordFence hf h)

theorem recordFence_le {fences : List (ℤ × ℕ)} {i : ℕ} (h : ∀ entry ∈ fences, entry.2 ≤ i) (f : ℕ) :
    ∀ entry ∈ recordFence fences f i, entry.2 ≤ i := by
  unfold recordFence
  split
  · exact List.forall_mem_cons.mpr ⟨le_rfl, h⟩
  · exact h

theorem lookup_recordFence_self {fences : List (ℤ × ℕ)} {f i : ℕ} (h : ∀ entry ∈ fences, entry.2 ≤ i) :
    ∃ j ≤ i, (recordFence fences f i).lookup (f : ℤ) = some j := by
  cases hlookup : fences.lookup (f : ℤ) with
  | none =>
    refine ⟨i, le_rfl, ?_⟩
    rw [recordFence, if_pos (.inr hlookup), List.lookup_cons_self]
  | some j =>
    obtain ⟨l₁, l₂, heq, -⟩ := List.lookup_eq_some_iff.mp hlookup
    have hj : j ≤ i := h ((f : ℤ), j) (by simp [heq])
    by_cases hf : f = 0
    · refine ⟨i, le_rfl, ?_⟩
      rw [recordFence, if_pos (.inl hf), List.lookup_cons_self]
    · exact ⟨j, hj, lookup_recordFence hf hlookup⟩

/-- The first command with a fence is no later than any. -/
theorem exists_lookup_recordFences {fences : List (ℤ × ℕ)} {i : ℕ} {pre post : List PlanCommand} {cmd : PlanCommand}
    (hfences : ∀ entry ∈ fences, entry.2 ≤ i) (hf : cmd.fenceId ≠ 0) :
    ∃ j ≤ i + pre.length, (recordFences fences i (pre ++ cmd :: post)).lookup (cmd.fenceId : ℤ) = some j := by
  induction pre generalizing fences i with
  | nil =>
    obtain ⟨j, hj, hlookup⟩ := @lookup_recordFence_self fences cmd.fenceId i hfences
    exact ⟨j, hj, @lookup_recordFences post _ _ (i + 1) _ hf hlookup⟩
  | cons c pre ih =>
    have hle : ∀ entry ∈ recordFence fences c.fenceId i, entry.2 ≤ i + 1 := fun entry hentry =>
      (recordFence_le hfences _ entry hentry).trans (Nat.le_succ i)
    obtain ⟨j, hj, hlookup⟩ := ih hle
    refine ⟨j, ?_, hlookup⟩
    rw [List.length_cons]
    omega

/-! ### Dependencies -/

theorem depGraph_lt (fences : List (ℤ × ℕ)) (commands : List Json) (i : ℕ) :
    ∀ child ∈ depGraph fences commands i, child < i := by
  intro child hchild
  unfold depGraph at hchild
  split at hchild
  · rename_i cmd _
    rw [Option.mem_toList] at hchild
    unfold checkDependency at hchild
    split at hchild
    · dsimp only at hchild
      split at hchild
      · simp at hchild
      · split at hchild
        · simp at hchild
        · split at hchild
          · simp at hchild
          · rename_i idx _
            by_cases hle : i ≤ idx
            · simp [hle] at hchild
            · simp only [hle, if_false, Option.mem_def, Option.some.injEq] at hchild
              omega
    · simp at hchild
  · simp at hchild

/-- A dependency that is met by an earlier command is accepted. -/
theorem checkDependency_ok {fences : List (ℤ × ℕ)} {i : ℕ} {cmd : PlanCommand}
    (h : cmd.dependencyFenceId = 0 ∨ ∃ j < i, fences.lookup (cmd.dependencyFenceId : ℤ) = some j) :
    (checkDependency fences i (.obj cmd.fields)).2 = [] := by
  rcases h with h0 | ⟨j, hj, hlookup⟩
  · simp [checkDependency, h0, Json.isNone, Json.eqInt, Json.number?]
  · by_cases h0 : cmd.dependencyFenceId = 0
    · simp [checkDependency, h0, Json.isNone, Json.eqInt, Json.number?]
    · have hle : ¬ i ≤ j := by omega
      simp [checkDependency, h0, Json.isNone, Json.eqInt, Json.number?, Json.asInt?, hlookup, hle]

theorem checkDependencies_ok (h : DepsMet [] cmds) :
    (cmds.map fun cmd => Json.obj cmd.fields).zipIdx.flatMap
      (fun cmd => (checkDependency (recordFences [] 0 cmds) cmd.2 cmd.1).2) = [] := by
  rw [List.flatMap_eq_nil_iff]
  rintro ⟨json, i⟩ hmem
  obtain ⟨cmd, hi, rfl⟩ : ∃ cmd, cmds[i]? = some cmd ∧ Json.obj cmd.fields = json := by
    rw [List.mem_zipIdx_iff_getElem?, List.getElem?_map, Option.map_eq_some_iff] at hmem
    exact hmem
  obtain ⟨pre, post, rfl, rfl⟩ : ∃ pre post, cmds = pre ++ cmd :: post ∧ pre.length = i := by
    obtain ⟨hlt, hget⟩ := List.getElem?_eq_some_iff.mp hi
    refine ⟨cmds.take i, cmds.drop (i + 1), ?_, by simp [hlt.le]⟩
    rw [← hget, List.cons_getElem_drop_succ, List.take_append_drop]
  refine checkDependency_ok ?_
  rcases h.split with h0 | hnil | ⟨before, hbefore, heq⟩
  · exact .inl h0
  · simp at hnil
  · by_cases h0 : cmd.dependencyFenceId = 0
    · exact .inl h0
    obtain ⟨p, q, rfl⟩ := List.append_of_mem hbefore
    obtain ⟨j, hj, hlookup⟩ := @exists_lookup_recordFences [] 0 p (q ++ cmd :: post) before (by simp) (heq ▸ h0)
    refine .inr ⟨j, ?_, ?_⟩
    · rw [List.length_append, List.length_cons]
      omega
    · rw [← heq]
      simpa using hlookup

/-! ### Phases -/

/-- The first command of a phase, if one of them has it. -/
theorem exists_phaseFirst {phase : String} {i : ℕ} {pre post : List PlanCommand}
    (h : phase ∈ pre.map PlanCommand.executionPhase) :
    ∃ j < i + pre.length, phaseFirst (phasesFrom i (pre ++ post)) phase = some j := by
  induction pre generalizing i with
  | nil => simp at h
  | cons cmd pre ih =>
    rw [phaseFirst, List.cons_append, phasesFrom, List.zipIdx_cons, List.map_cons, List.find?_cons]
    by_cases hphase : cmd.executionPhase = phase
    · refine ⟨i, by simp, ?_⟩
      simp [hphase]
    · have hrest : phase ∈ pre.map PlanCommand.executionPhase := by
        simpa [Ne.symm hphase, eq_comm] using h
      obtain ⟨j, hj, hfirst⟩ := @ih (i + 1) hrest
      refine ⟨j, ?_, ?_⟩
      · rw [List.length_cons]
        omega
      · simp only [hphase, decide_false]
        exact hfirst

/-- A phase that none of them has comes later, if at all. -/
theorem le_phaseFirst {phase : String} {i j : ℕ} {pre post : List PlanCommand}
    (h : phase ∉ pre.map PlanCommand.executionPhase)
    (hfirst : phaseFirst (phasesFrom i (pre ++ post)) phase = some j) : i + pre.length ≤ j := by
  induction pre generalizing i with
  | nil =>
    obtain ⟨entry, hentry, rfl⟩ := Option.map_eq_some_iff.mp hfirst
    have hmem := List.mem_of_find?_eq_some hentry
    obtain ⟨⟨cmd, k⟩, hcmd, rfl⟩ := List.mem_map.mp hmem
    exact List.le_snd_of_mem_zipIdx hcmd
  | cons cmd pre ih =>
    rw [List.map_cons, List.mem_cons, not_or] at h
    rw [phaseFirst, List.cons_append, phasesFrom, List.zipIdx_cons, List.map_cons, List.find?_cons] at hfirst
    simp only [Ne.symm h.1, decide_false] at hfirst
    have hle := @ih (i + 1) h.2 hfirst
    rw [List.length_cons]
    omega

theorem phaseFirst_eq_none {phase : String} {i : ℕ} (h : phase ∉ cmds.map PlanCommand.executionPhase) :
    phaseFirst (phasesFrom i cmds) phase = none := by
  rw [phaseFirst, Option.map_eq_none_iff, List.find?_eq_none]
  rintro entry hentry
  obtain ⟨⟨cmd, k⟩, hcmd, rfl⟩ := List.mem_map.mp hentry
  have hmem : cmd ∈ cmds := List.fst_mem_of_mem_zipIdx hcmd
  simp only [decide_eq_true_eq]
  rintro rfl
  exact h (List.mem_map_of_mem hmem)

end Commands

end Att1.Planner
