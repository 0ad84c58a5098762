import Att1.Lib.Returns
import Att1.Planner.Validate

/-!
# Att1.Planner.Returns — the plans that the validator decides

Each check returns where the field that it looks up in a set is no list and no object: `PlanScalars` collects these
fields, and `validatePlan_returns` says that nothing else can raise.
-/

open Att1.Lib

namespace Att1.Planner

variable {strict : Bool} {plan cmd : Fields} {label : FString} {tileCount : ℕ}

/-! ### What the validator relies on -/

/-- The fields of the buffers of a list that are looked up. -/
def BufferScalars (cmd : Fields) (name : String) : Prop :=
  ∀ buf ∈ objectsOf (dictGet cmd name), Scalars ["region_type", "dtype"] buf

/-- The fields of a command that are looked up. -/
structure CommandScalars (cmd : Fields) : Prop where
  fields : Scalars ["execution_phase", "command_type", "expected_status"] cmd
  reduce : (dictGet cmd "command_type").eqStr "FABRIC_REDUCE" = true → Scalars ["reduction_behavior"] cmd
  inputs : BufferScalars cmd "input_buffers"
  outputs : BufferScalars cmd "output_buffers"

/-- The fields of a plan that are looked up. -/
structure PlanScalars (plan : Fields) : Prop where
  fields : Scalars ["execution_plan_version", "token_phase", "status"] plan
  commands : ∀ cmd ∈ objectsOf (dictGet plan "commands"), CommandScalars cmd

/-! ### Header -/

theorem checkVersion_returns :
    Returns (checkVersion plan) ↔ (dictGet plan "execution_plan_version").isContainer = false := by
  unfold checkVersion
  exact returns_lookup_ok returns_key

theorem checkIds_returns : Returns (checkIds plan) ↔ (dictGet plan "token_phase").isContainer = false := by
  unfold checkIds
  simp only [bind_of_ok]
  exact returns_lookup_ok returns_inSet

theorem checkPlanStatus_returns :
    Returns (checkPlanStatus strict plan) ↔ (dictGet plan "status").isContainer = false := by
  unfold checkPlanStatus
  exact returns_lookup_ok returns_inSet

theorem validateHeader_returns :
    Returns (validateHeader strict plan) ↔ Scalars ["execution_plan_version", "token_phase", "status"] plan := by
  unfold validateHeader
  rw [returns_bind_iff fun _ _ => returns_bind_iff fun _ _ => returns_bind_ok, checkVersion_returns, checkIds_returns,
    checkPlanStatus_returns]
  simp

/-! ### Buffers -/

theorem checkBuffer_returns {rule : ℕ} {buf : Fields} :
    Returns (checkBuffer strict label rule (.obj buf)) ↔ Scalars ["region_type", "dtype"] buf := by
  unfold checkBuffer
  simp only [bind_of_ok]
  rw [returns_lookup returns_inSet (fun _ => returns_lookup_ok returns_inSet) fun _ _ =>
    returns_lookup_ok returns_inSet]
  simp

theorem validateBufferList_returns {bufs : Json} {rule : ℕ} :
    Returns (validateBufferList strict bufs label rule) ↔
      ∀ buf ∈ objectsOf bufs, Scalars ["region_type", "dtype"] buf := by
  unfold validateBufferList
  cases bufs with
  | arr items =>
    rw [returns_bind_ok, returns_mapM]
    constructor
    · intro h buf hbuf
      obtain ⟨i, hi, hget⟩ := List.mem_iff_getElem.mp (mem_objectsOf.mp hbuf)
      have hitem := h (items[i], i) (List.mem_zipIdx_iff_getElem?.mpr (List.getElem?_eq_getElem hi))
      rw [hget] at hitem
      exact checkBuffer_returns.mp hitem
    · rintro h ⟨item, i⟩ hitem
      cases item with
      | obj buf =>
        have hbuf : Json.obj buf ∈ items := List.mem_of_getElem? (List.mem_zipIdx_iff_getElem?.mp hitem)
        exact checkBuffer_returns.mpr (h buf (mem_objectsOf.mpr hbuf))
      | _ => exact returns_ok _
  | _ => exact iff_of_true (returns_ok _) (by simp [objectsOf, Json.asList?])

theorem checkBuffers_returns {ct : Json} {required : List String} {name kind : String} (hct : ct.isContainer = false) :
    Returns (checkBuffers strict label ct required name kind cmd) ↔ BufferScalars cmd name := by
  unfold checkBuffers BufferScalars
  simp only [bind_of_ok]
  have hobjects := @objectsOf_dictGetD cmd name
  generalize dictGetD cmd name (.arr []) = bufs at hobjects ⊢
  rw [← hobjects, returns_bind_iff fun _ _ => returns_ite_left.trans (imp_congr_right fun _ => returns_bind_ok),
    returns_inSet, and_iff_right hct, validateBufferList_returns]
  cases bufs with
  | arr items =>
    cases items with
    | nil => simp
    | cons item items => simp
  | _ => simp [objectsOf, Json.asList?]

/-! ### Commands -/

theorem checkPhase_returns :
    Returns (checkPhase label cmd) ↔ (dictGet cmd "execution_phase").isContainer = false := by
  unfold checkPhase
  exact returns_lookup_ok returns_inSet

theorem validateFabricReduce_returns :
    Returns (validateFabricReduce label cmd) ↔ (dictGet cmd "reduction_behavior").isContainer = false := by
  unfold validateFabricReduce
  exact returns_lookup_ok returns_inSet

theorem checkExpectedStatus_returns :
    Returns (checkExpectedStatus strict label cmd) ↔ (dictGet cmd "expected_status").isContainer = false := by
  unfold checkExpectedStatus
  exact returns_lookup_ok returns_inSet

theorem checkCommandType_returns :
    Returns (checkCommandType label tileCount cmd) ↔
      (dictGet cmd "command_type").isContainer = false ∧
        ((dictGet cmd "command_type").eqStr "FABRIC_REDUCE" = true → Scalars ["reduction_behavior"] cmd) := by
  unfold checkCommandType
  simp only [bind_of_ok]
  refine returns_lookup returns_inSet (fun hnone => ?_) fun known hknown => ?_
  · refine iff_of_true (returns_ok _) fun hreduce => ?_
    rw [eqStr_iff.mp hreduce] at hnone
    cases hnone
  · cases known with
    | false =>
      refine iff_of_true (returns_ok _) fun hreduce => ?_
      rw [eqStr_iff.mp hreduce, inSet_str] at hknown
      cases hknown
    | true =>
      have hct : (dictGet cmd "command_type").isContainer = false := returns_inSet.mp ⟨_, hknown⟩
      rw [if_neg (by simp)]
      refine (returns_bind_iff fun need _ => ?_).trans (and_iff_right (returns_inSet.mpr hct))
      rw [returns_ite_right, returns_bind_ok, validateFabricReduce_returns]
      simp

theorem checkCommand_returns {layerCount : Json} {seen : Seen} {i : ℕ} :
    Returns (checkCommand strict tileCount layerCount seen i (.obj cmd)) ↔ CommandScalars cmd := by
  unfold checkCommand
  by_cases hct : (dictGet cmd "command_type").isContainer = false
  · simp only
    rw [returns_bind_iff fun _ _ => returns_bind_iff fun _ _ => returns_bind_iff fun _ _ => returns_bind_iff fun _ _ =>
      returns_bind_ok, checkPhase_returns, checkCommandType_returns, checkBuffers_returns hct, checkBuffers_returns hct,
      checkExpectedStatus_returns]
    constructor
    · rintro ⟨hphase, ⟨-, hreduce⟩, hinputs, houtputs, hstatus⟩
      exact ⟨by simp [hphase, hct, hstatus], hreduce, hinputs, houtputs⟩
    · rintro ⟨hfields, hreduce, hinputs, houtputs⟩
      exact ⟨hfields _ (by simp), ⟨hct, hreduce⟩, hinputs, houtputs, hfields _ (by simp)⟩
  · refine iff_of_false (fun h => ?_) fun h => hct (h.fields _ (by simp))
    obtain ⟨_, -, h⟩ := returns_bind.mp h
    obtain ⟨_, htype, -⟩ := returns_bind.mp h
    exact hct (checkCommandType_returns.mp ⟨_, htype⟩).1

theorem checkCommands_returns {layerCount : Json} {cmds : List Json} {seen : Seen} {i : ℕ} :
    Returns (checkCommands strict tileCount layerCount seen i cmds) ↔
      ∀ cmd ∈ objectsOf (.arr cmds), CommandScalars cmd := by
  induction cmds generalizing seen i with
  | nil => exact iff_of_true (returns_ok _) (by simp)
  | cons cmd cmds ih =>
    unfold checkCommands
    rw [returns_bind_iff fun _ _ => returns_bind_ok.trans ih]
    cases cmd with
    | obj cmd => rw [checkCommand_returns, objectsOf_arr_obj, List.forall_mem_cons]
    | _ => exact and_iff_right (returns_ok _)

/-! ### The validator -/

/-- **The validator returns** exactly where the fields that it looks up are no lists and no objects. -/
theorem validatePlan_returns : Returns (validatePlan strict plan) ↔ PlanScalars plan := by
  unfold validatePlan
  have hcommands : ∀ tileCount, Returns (validateCommands strict plan tileCount) ↔
      ∀ cmd ∈ objectsOf (dictGet plan "commands"), CommandScalars cmd := by
    intro tileCount
    unfold validateCommands
    cases dictGet plan "commands" with
    | arr commands => exact checkCommands_returns
    | _ => exact iff_of_true (returns_ok _) (by simp [objectsOf, Json.asList?])
  rw [returns_bind_iff fun _ _ => returns_bind_ok.trans (hcommands _), validateHeader_returns]
  exact ⟨fun h => ⟨h.1, h.2⟩, fun h => ⟨h.fields, h.commands⟩⟩

end Att1.Planner
