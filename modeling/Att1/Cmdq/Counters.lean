import Mathlib.Data.List.Basic
import Att1.Cmdq.Fifo
import Att1.Cmdq.Service

/-!
# Att1.Cmdq.Counters — what the counters of the command queue add up to

* `DispatchRecord`: what one dispatch did: the result, whether the completion was written, and what it added to
  `commands_completed` and `commands_failed`.
* `CountStep`: the calls on the queue with these records; a dispatch of all commands is one dispatch after another
  (`run_counted`).
* `CounterLaw`: the three balances.  `Accounted`: the command about to be dispatched finds room for its completion,
  has a known type and gets a result that is neither busy nor pending.
* `counters_balance_iff`: the balances hold throughout a run iff all its dispatches are of this kind.
-/

open Att1.Lib

namespace Att1.Cmdq

variable {Ctx : Type} {q q' q₀ : Cmdq Ctx}

/-- What one dispatch did. -/
structure DispatchRecord where
  result : AimuResult
  written : Bool
  completed : UInt64
  failed : UInt64
  deriving DecidableEq, Repr

/-- The record of a dispatch, if there is a command to dispatch. -/
def dispatchRecord (q : Cmdq Ctx) : Option DispatchRecord :=
  if q.cmdqUsed = 0 then none
  else
    let slot := q.cmdHead &&& (q.config.cmdRingDepth - 1)
    some
      { result := (runCmd q.execHook q.execHookCtx (q.cmdRing slot.toNat)).2.2
        written := decide (q.dispatchOne.2 = .ok)
        completed := q.dispatchOne.1.counters.commandsCompleted - q.counters.commandsCompleted
        failed := q.dispatchOne.1.counters.commandsFailed - q.counters.commandsFailed }

/-- The completion was written and carries an error other than `UNSUPPORTED_OP`. -/
def DispatchRecord.carriesError (d : DispatchRecord) : Bool :=
  d.written && decide (resultToStatus d.result.code ≠ .ok) && decide (d.result ≠ .errUnsupportedOp)

/-- A call with what it returned and, for a dispatch, its record. -/
structure CountEvent (Ctx : Type) extends CmdqEvent Ctx where
  record : Option DispatchRecord := none

/-- One submit, dispatch of a single command, poll or change of the hook. -/
def CountStep (q : Cmdq Ctx) (e : CountEvent Ctx) (q' : Cmdq Ctx) : Prop :=
  match e.call with
  | .dispatchAll => False
  | .dispatchOne => Step q e.toCmdqEvent q' ∧ e.record = q.dispatchRecord
  | _ => Step q e.toCmdqEvent q' ∧ e.record = none

/-- The event is a submit rejected for a bad tile. -/
def badTile (e : CountEvent Ctx) : Bool :=
  match e.call with
  | .submit (some _) => decide (e.status = .invalidArg)
  | _ => false

def records (es : List (CountEvent Ctx)) : List DispatchRecord := es.filterMap CountEvent.record

/-- How many commands failed at dispatch. -/
def failedAtDispatch (es : List (CountEvent Ctx)) : UInt64 :=
  UInt64.ofNat ((records es).countP fun d => decide (d.failed ≠ 0))

/-- How many dispatched commands got a completion with an error other than `UNSUPPORTED_OP`. -/
def errorCompletions (es : List (CountEvent Ctx)) : UInt64 :=
  UInt64.ofNat ((records es).countP DispatchRecord.carriesError)

def badTiles (es : List (CountEvent Ctx)) : UInt64 := UInt64.ofNat (es.countP badTile)

/-- The counters balance. -/
structure CounterLaw (es : List (CountEvent Ctx)) (q : Cmdq Ctx) : Prop where
  balance : q.counters.commandsSubmitted = q.counters.commandsCompleted + failedAtDispatch es + q.cmdqUsed
  once : ∀ d ∈ records es, (d.completed = 1 ∧ d.failed = 0) ∨ (d.completed = 0 ∧ d.failed = 1)
  failures : q.counters.commandsFailed = errorCompletions es + badTiles es

/-- The command a dispatch is about to take is counted once. -/
def Accounted (q : Cmdq Ctx) (e : CountEvent Ctx) : Prop :=
  match e.call with
  | .dispatchOne => ∀ cmd ∈ q.pendingCmds.head?, q.compRoom ≠ 0 ∧ AimuCmdType.ofCode cmd.commandType ≠ none ∧
      (runCmd q.execHook q.execHookCtx cmd).2.2 ≠ .busy ∧ (runCmd q.execHook q.execHookCtx cmd).2.2 ≠ .pending
  | _ => True

/-! ### What a dispatch counts -/

/-- What a written completion adds to `commands_completed`. -/
def completedBy (result : AimuResult) : UInt64 := if result = .ok ∨ result = .errUnsupportedOp then 1 else 0

theorem countRun_submitted (cmd : AimuCmd) (result : AimuResult) (counters : CmdqCounters) :
    (countRun cmd result counters).commandsSubmitted = counters.commandsSubmitted := by
  unfold countRun
  split
  · rfl
  · split_ifs <;> rfl

theorem countRun_completed (cmd : AimuCmd) (result : AimuResult) (counters : CmdqCounters) :
    (countRun cmd result counters).commandsCompleted = counters.commandsCompleted := by
  unfold countRun
  split
  · rfl
  · split_ifs <;> rfl

/-- An unknown type fails in the switch. -/
theorem countRun_failed (cmd : AimuCmd) (result : AimuResult) (counters : CmdqCounters) :
    (countRun cmd result counters).commandsFailed =
      counters.commandsFailed + if AimuCmdType.ofCode cmd.commandType = none then 1 else 0 := by
  unfold countRun
  split
  · rename_i h
    rw [if_pos h]
  · rename_i h
    have hnone : (if AimuCmdType.ofCode cmd.commandType = none then (1 : UInt64) else 0) = 0 := by
      rw [h]
      rfl
    rw [hnone, UInt64.add_zero]
    split_ifs <;> rfl

theorem countResult_submitted (result : AimuResult) (counters : CmdqCounters) :
    (countResult result counters).commandsSubmitted = counters.commandsSubmitted := by
  unfold countResult
  split_ifs <;> rfl

theorem countResult_completed (result : AimuResult) (counters : CmdqCounters) :
    (countResult result counters).commandsCompleted = counters.commandsCompleted + completedBy result := by
  unfold countResult completedBy
  cases result <;> simp

theorem countResult_failed (result : AimuResult) (counters : CmdqCounters) :
    (countResult result counters).commandsFailed = counters.commandsFailed + (1 - completedBy result) := by
  unfold countResult completedBy
  cases result <;> simp

/-- The counters a dispatch of `cmd` leaves. -/
structure Counted (q : Cmdq Ctx) (cmd : AimuCmd) (q' : Cmdq Ctx) (d : DispatchRecord) : Prop where
  submitted : q'.counters.commandsSubmitted = q.counters.commandsSubmitted
  completed : q'.counters.commandsCompleted = q.counters.commandsCompleted + d.completed
  failed : q'.counters.commandsFailed = q.counters.commandsFailed + d.failed
  used : q'.cmdqUsed + 1 = q.cmdqUsed
  result : d.result = (runCmd q.execHook q.execHookCtx cmd).2.2
  written : d.written = decide (q.compRoom ≠ 0)
  completed_eq : d.completed = if d.written then completedBy d.result else 0
  failed_eq : d.failed = (if AimuCmdType.ofCode cmd.commandType = none then 1 else 0) +
    if d.written then 1 - completedBy d.result else 0

theorem writeCompletion_counters (q : Cmdq Ctx) (cmd : AimuCmd) (result : AimuResult) :
    (q.writeCompletion cmd result).1.counters.commandsSubmitted = q.counters.commandsSubmitted ∧
      (q.writeCompletion cmd result).1.counters.commandsCompleted = q.counters.commandsCompleted ∧
        (q.writeCompletion cmd result).1.counters.commandsFailed = q.counters.commandsFailed := by
  unfold writeCompletion
  split_ifs <;> exact ⟨rfl, rfl, rfl⟩

/-- The end of a dispatch counts the result of a completion that was written. -/
theorem finishDispatch_counters (result : AimuResult) (w : Cmdq Ctx × Status) :
    (finishDispatch result w).2 = w.2 ∧
      (finishDispatch result w).1.counters = if w.2 = .ok then countResult result w.1.counters else w.1.counters := by
  obtain ⟨p, st⟩ := w
  cases st <;> exact ⟨rfl, rfl⟩

theorem cmdqUsed_eq (q : Cmdq Ctx) : q.cmdqUsed = UInt64.ofNat q.pendingCmds.length := by
  rw [length_pendingCmds, UInt64.ofNat_toNat]

theorem pendingCmds_head (hw : WellFormed q) (hne : q.cmdqUsed ≠ 0) :
    q.pendingCmds.head? = some (q.cmdRing (q.cmdHead &&& (q.config.cmdRingDepth - 1)).toNat) := by
  obtain ⟨k, hk⟩ := hw.cmdDepth
  have hne' : (maskedUsed q.config.cmdRingDepth q.cmdHead q.cmdTail).toNat ≠ 0 := fun h0 =>
    hne (UInt64.toNat_inj.mp h0)
  obtain ⟨-, -, hpop⟩ := maskedWindow_pop q.cmdRing hk hw.cmdOk hne'
    (q.cmdRing (q.cmdHead &&& (q.config.cmdRingDepth - 1)).toNat)
  unfold pendingCmds
  rw [hpop]
  rfl

/-- **One dispatch.**  It does nothing to an empty queue, and counts the command at the head otherwise. -/
theorem dispatchOne_counted (hw : WellFormed q) :
    (q.pendingCmds = [] ∧ q.dispatchOne = (q, .queueEmpty) ∧ q.dispatchRecord = none) ∨
      ∃ cmd rest d, q.pendingCmds = cmd :: rest ∧ WellFormed q.dispatchOne.1 ∧ q.dispatchRecord = some d ∧
        Counted q cmd q.dispatchOne.1 d := by
  by_cases hempty : q.cmdqUsed = 0
  · left
    refine ⟨?_, if_pos hempty, if_pos hempty⟩
    rw [← List.length_eq_zero_iff, length_pendingCmds, hempty]
    rfl
  right
  set cmd := q.cmdRing (q.cmdHead &&& (q.config.cmdRingDepth - 1)).toNat with hcmd
  set r := runCmd q.execHook q.execHookCtx cmd with hr
  -- the queue the completion is written to
  set p : Cmdq Ctx :=
    { q with
      cmdHead := q.cmdHead + 1
      execHookCtx := r.1
      cmdRing := Function.update q.cmdRing (q.cmdHead &&& (q.config.cmdRingDepth - 1)).toNat r.2.1
      counters := countRun cmd r.2.2 q.counters } with hp
  have hdisp : q.dispatchOne = finishDispatch r.2.2 (p.writeCompletion r.2.1 r.2.2) := if_neg hempty
  obtain ⟨hstatus, hcounters⟩ := finishDispatch_counters r.2.2 (p.writeCompletion r.2.1 r.2.2)
  obtain ⟨hsub, hcomp, hfail⟩ := writeCompletion_counters p r.2.1 r.2.2
  rw [← hdisp] at hstatus hcounters
  have hhead := pendingCmds_head hw hempty
  obtain ⟨hnil, -⟩ | ⟨cmd', rest, hd, hroom⟩ := dispatchOne_cases hw
  · rw [hnil] at hhead
    cases hhead
  obtain rfl : cmd' = cmd := by
    rw [hd.pending] at hhead
    exact Option.some.inj hhead
  have hwritten : (q.dispatchOne.2 = .ok) ↔ q.compRoom ≠ 0 := by
    obtain ⟨hroom, hst, -⟩ | ⟨hroom, hst, -⟩ := hroom
    · exact iff_of_true hst hroom
    · exact iff_of_false (by simp [hst]) (by simp [hroom])
  have hused : q.dispatchOne.1.cmdqUsed + 1 = q.cmdqUsed := by
    rw [cmdqUsed_eq, cmdqUsed_eq, hd.pending, hd.pending', List.length_cons, UInt64.ofNat_add]
    rfl
  have hsub' : q.dispatchOne.1.counters.commandsSubmitted = q.counters.commandsSubmitted := by
    rw [hcounters, apply_ite CmdqCounters.commandsSubmitted, countResult_submitted, ite_self, hsub]
    exact countRun_submitted _ _ _
  have hcomp' : q.dispatchOne.1.counters.commandsCompleted =
      q.counters.commandsCompleted + if q.dispatchOne.2 = .ok then completedBy r.2.2 else 0 := by
    rw [hcounters, hstatus, apply_ite CmdqCounters.commandsCompleted, countResult_completed, hcomp, hp,
      countRun_completed]
    split_ifs <;> simp
  have hfail' : q.dispatchOne.1.counters.commandsFailed =
      q.counters.commandsFailed + ((if AimuCmdType.ofCode cmd.commandType = none then 1 else 0) +
        if q.dispatchOne.2 = .ok then 1 - completedBy r.2.2 else 0) := by
    rw [hcounters, hstatus, apply_ite CmdqCounters.commandsFailed, countResult_failed, hfail, hp, countRun_failed,
      ← UInt64.add_assoc]
    split_ifs <;> simp
  refine ⟨cmd, rest, _, hd.pending, hd.wellFormed, if_neg hempty, hsub', ?_, ?_, hused, rfl, ?_, ?_, ?_⟩
  · exact (UInt64.add_comm _ _).trans (UInt64.sub_add_cancel _ _) |>.symm
  · exact (UInt64.add_comm _ _).trans (UInt64.sub_add_cancel _ _) |>.symm
  · exact decide_eq_decide.mpr hwritten
  · show _ - _ = _
    rw [hcomp', UInt64.add_comm, UInt64.add_sub_cancel]
    simp only [decide_eq_true_eq, hr, hcmd]
  · show _ - _ = _
    rw [hfail', UInt64.add_comm, UInt64.add_sub_cancel]
    simp only [decide_eq_true_eq, hr, hcmd]

/-! ### Runs -/

theorem CountStep.step {e : CountEvent Ctx} (h : CountStep q e q') : Step q e.toCmdqEvent q' := by
  unfold CountStep at h
  split at h
  · exact h.elim
  · exact h.1
  · exact h.1

theorem countStep_deterministic : Deterministic (@CountStep Ctx) := fun q e q' q'' h h' =>
  step_deterministic q e.toCmdqEvent q' q'' h.step h'.step

/-- A dispatch of a single command with its record. -/
def dispatchEvent (q : Cmdq Ctx) : CountEvent Ctx where
  call := .dispatchOne
  status := q.dispatchOne.2
  record := q.dispatchRecord

theorem countStep_dispatch (q : Cmdq Ctx) : CountStep q (dispatchEvent q) q.dispatchOne.1 := ⟨⟨rfl, rfl⟩, rfl⟩

/-- A dispatch of all commands is one dispatch after another. -/
theorem dispatchAllLoop_counted {fuel : ℕ} {r : Cmdq Ctx × Status} (h : dispatchAllLoop fuel q = some r) :
    ∃ ds, Run CountStep q ds r.1 := by
  induction fuel generalizing q with
  | zero => cases h
  | succ fuel ih =>
    have hstep := countStep_dispatch q
    unfold dispatchAllLoop at h
    generalize q.dispatchOne = d at h hstep
    obtain ⟨p, st⟩ := d
    cases st with
    | ok =>
      obtain ⟨ds, hds⟩ := ih h
      exact ⟨_, hds.cons hstep⟩
    | _ =>
      obtain rfl := Option.some.inj h
      exact ⟨_, Run.nil.snoc hstep⟩

/-- Every state that calls on the queue reach is reached by single dispatches. -/
theorem run_counted {es : List (CmdqEvent Ctx)} (h : Run Step q₀ es q) : ∃ ds, Run CountStep q₀ ds q := by
  induction h with
  | nil => exact ⟨[], Run.nil⟩
  | @snoc es t e u _ hs ih =>
    obtain ⟨ds, hds⟩ := ih
    have hstep := hs
    obtain ⟨call, st, sub, comp⟩ := e
    cases call with
    | dispatchAll =>
      obtain ⟨⟨fuel, hfuel⟩, -⟩ := hs
      obtain ⟨more, hmore⟩ := dispatchAllLoop_counted hfuel
      exact ⟨_, hds.append hmore⟩
    | dispatchOne =>
      have hcount : CountStep t ⟨⟨.dispatchOne, st, sub, comp⟩, t.dispatchRecord⟩ u := ⟨hs, rfl⟩
      exact ⟨_, hds.snoc hcount⟩
    | submit cmd =>
      have hcount : CountStep t ⟨⟨.submit cmd, st, sub, comp⟩, none⟩ u := ⟨hs, rfl⟩
      exact ⟨_, hds.snoc hcount⟩
    | pollCompletion out =>
      have hcount : CountStep t ⟨⟨.pollCompletion out, st, sub, comp⟩, none⟩ u := ⟨hs, rfl⟩
      exact ⟨_, hds.snoc hcount⟩
    | setExecHook fn ctx =>
      have hcount : CountStep t ⟨⟨.setExecHook fn ctx, st, sub, comp⟩, none⟩ u := ⟨hs, rfl⟩
      exact ⟨_, hds.snoc hcount⟩

/-- The invariant of runs: the rings are well formed and the counters balance. -/
structure CountInv (es : List (CountEvent Ctx)) (q : Cmdq Ctx) : Prop where
  wellFormed : WellFormed q
  law : CounterLaw es q

theorem count_snoc (p : DispatchRecord → Bool) (es : List (CountEvent Ctx)) (e : CountEvent Ctx) :
    UInt64.ofNat ((records (es ++ [e])).countP p) =
      UInt64.ofNat ((records es).countP p) + if e.record.any p then 1 else 0 := by
  unfold records
  rw [List.filterMap_append, List.countP_append, UInt64.ofNat_add]
  congr 1
  cases h : e.record with
  | none => simp [h]
  | some d => cases hp : p d <;> simp [h, hp]

theorem mem_records_snoc (es : List (CountEvent Ctx)) (e : CountEvent Ctx) (d : DispatchRecord) :
    d ∈ records (es ++ [e]) ↔ d ∈ records es ∨ e.record = some d := by
  unfold records
  rw [List.filterMap_append, List.mem_append]
  simp

theorem badTiles_snoc (es : List (CountEvent Ctx)) (e : CountEvent Ctx) :
    badTiles (es ++ [e]) = badTiles es + if badTile e then 1 else 0 := by
  unfold badTiles
  rw [List.countP_append, List.countP_singleton, UInt64.ofNat_add]
  split_ifs <;> rfl

/-- A record whose counts are those the law asks for. -/
def DispatchRecord.Good (d : DispatchRecord) : Prop :=
  ((d.completed = 1 ∧ d.failed = 0) ∨ (d.completed = 0 ∧ d.failed = 1)) ∧
    d.failed = if d.carriesError then 1 else 0

instance : DecidablePred DispatchRecord.Good := fun d =>
  inferInstanceAs (Decidable (((d.completed = 1 ∧ d.failed = 0) ∨ (d.completed = 0 ∧ d.failed = 1)) ∧ _))

theorem good_of_result (known room : Bool) (result : AimuResult) :
    DispatchRecord.Good
      { result := result
        written := room
        completed := if room then completedBy result else 0
        failed := (if known then 0 else 1) + if room then 1 - completedBy result else 0 } ↔
      room ∧ known ∧ result ≠ .busy ∧ result ≠ .pending := by
  cases known <;> cases room <;> cases result <;> decide

/-- **Which dispatches are counted once.** -/
theorem Counted.good_iff {cmd : AimuCmd} {d : DispatchRecord} (h : Counted q cmd q' d) :
    d.Good ↔ q.compRoom ≠ 0 ∧ AimuCmdType.ofCode cmd.commandType ≠ none ∧
      (runCmd q.execHook q.execHookCtx cmd).2.2 ≠ .busy ∧ (runCmd q.execHook q.execHookCtx cmd).2.2 ≠ .pending := by
  have hgood := good_of_result (decide (AimuCmdType.ofCode cmd.commandType ≠ none)) (decide (q.compRoom ≠ 0))
    (runCmd q.execHook q.execHookCtx cmd).2.2
  have hd : d =
      { result := (runCmd q.execHook q.execHookCtx cmd).2.2
        written := decide (q.compRoom ≠ 0)
        completed :=
          if decide (q.compRoom ≠ 0) then completedBy (runCmd q.execHook q.execHookCtx cmd).2.2 else 0
        failed := (if decide (AimuCmdType.ofCode cmd.commandType ≠ none) then 0 else 1) +
          if decide (q.compRoom ≠ 0) then 1 - completedBy (runCmd q.execHook q.execHookCtx cmd).2.2 else 0 } := by
    obtain ⟨result, written, completed, failed⟩ := d
    obtain ⟨-, -, -, -, hres, hwr, hcomp, hfail⟩ := h
    simp only at hres hwr hcomp hfail
    subst hres hwr hcomp hfail
    simp
  rw [hd, hgood, decide_eq_true_eq, decide_eq_true_eq]

/-- A dispatch keeps the balances iff its record is good. -/
theorem CounterLaw.dispatch {es : List (CountEvent Ctx)} {e : CountEvent Ctx} {cmd : AimuCmd} {d : DispatchRecord}
    (h : CounterLaw es q) (hd : Counted q cmd q' d) (he : e.record = some d) (hb : badTile e = false) :
    CounterLaw (es ++ [e]) q' ↔ d.Good := by
  have hfad := count_snoc (fun d => decide (d.failed ≠ 0)) es e
  have herr := count_snoc DispatchRecord.carriesError es e
  have hbad := badTiles_snoc es e
  rw [hb] at hbad
  rw [he] at hfad herr
  simp only [Option.any_some, decide_eq_true_eq] at hfad herr
  have hfailures : q'.counters.commandsFailed = errorCompletions (es ++ [e]) + badTiles (es ++ [e]) ↔
      d.failed = if d.carriesError then 1 else 0 := by
    unfold errorCompletions
    rw [hd.failed, herr, hbad, h.failures]
    unfold errorCompletions
    grind
  constructor
  · intro hlaw
    exact ⟨hlaw.once d ((mem_records_snoc es e d).mpr (Or.inr he)), hfailures.mp hlaw.failures⟩
  · intro hgood
    refine ⟨?_, fun d' hd' => ?_, hfailures.mpr hgood.2⟩
    · have hbal := h.balance
      have hused := hd.used
      unfold failedAtDispatch at hbal ⊢
      rw [hd.submitted, hd.completed, hfad, hbal, ← hused]
      obtain ⟨hc, hf⟩ | ⟨hc, hf⟩ := hgood.1
      · rw [hc, hf]
        grind
      · rw [hc, hf]
        grind
    · obtain hmem | heq := (mem_records_snoc es e d').mp hd'
      · exact h.once d' hmem
      · obtain rfl := Option.some.inj (he.symm.trans heq)
        exact hgood.1

/-- A call that dispatches nothing keeps the balances if it counts what it adds to the command ring. -/
theorem CounterLaw.keep {es : List (CountEvent Ctx)} {e : CountEvent Ctx} (h : CounterLaw es q) (he : e.record = none)
    (hsub : q'.counters.commandsSubmitted + q.cmdqUsed = q.counters.commandsSubmitted + q'.cmdqUsed)
    (hcomp : q'.counters.commandsCompleted = q.counters.commandsCompleted)
    (hfail : q'.counters.commandsFailed = q.counters.commandsFailed + if badTile e then 1 else 0) :
    CounterLaw (es ++ [e]) q' := by
  have hfad := count_snoc (fun d => decide (d.failed ≠ 0)) es e
  have herr := count_snoc DispatchRecord.carriesError es e
  rw [he, Option.any_none, if_neg Bool.false_ne_true, UInt64.add_zero] at hfad herr
  refine ⟨?_, fun d hd => ?_, ?_⟩
  · have hbal := h.balance
    unfold failedAtDispatch at hbal ⊢
    rw [hfad, hcomp]
    grind
  · obtain hmem | heq := (mem_records_snoc es e d).mp hd
    · exact h.once d hmem
    · rw [he] at heq
      cases heq
  · unfold errorCompletions
    rw [herr, badTiles_snoc, hfail, h.failures, ← UInt64.add_assoc]
    rfl

/-- A submit is counted as submitted, as failed for its tile, or as met by a full ring. -/
theorem submit_counted (hw : WellFormed q) (cmd : Option AimuCmd) :
    (q.submit cmd).1.counters.commandsSubmitted + q.cmdqUsed =
        q.counters.commandsSubmitted + (q.submit cmd).1.cmdqUsed ∧
      (q.submit cmd).1.counters.commandsCompleted = q.counters.commandsCompleted ∧
        (q.submit cmd).1.counters.commandsFailed = q.counters.commandsFailed +
          if cmd.isSome ∧ (q.submit cmd).2.1 = .invalidArg then 1 else 0 := by
  have hused (u : UInt64) (p : Cmdq Ctx) (stored : AimuCmd) (hp : p.pendingCmds = q.pendingCmds ++ [stored]) :
      u + 1 + q.cmdqUsed = u + p.cmdqUsed := by
    rw [cmdqUsed_eq p, hp, List.length_append, UInt64.ofNat_add, ← cmdqUsed_eq, List.length_singleton]
    grind
  cases cmd with
  | none => exact ⟨rfl, rfl, (UInt64.add_zero _).symm⟩
  | some cmd =>
    by_cases hacc : q.Accepts cmd
    · obtain ⟨p, hp, hsub⟩ := submit_accepted hw hacc
      have hcounters : (q.submit (some cmd)).1.counters =
          { q.counters with commandsSubmitted := q.counters.commandsSubmitted + 1 } := by
        unfold submit
        simp only
        rw [if_neg (UInt64.not_le.mpr hacc.1), if_neg (UInt64.not_le.mpr hacc.2)]
      rw [hcounters]
      rw [hp]
      exact ⟨hused _ p _ hsub.pending, rfl, by simp⟩
    · by_cases htile : q.config.tileCount ≤ cmd.tileId.toUInt64
      · have heq : q.submit (some cmd) = (_, .invalidArg, some cmd) := if_pos htile
        rw [heq]
        exact ⟨rfl, rfl, by simp⟩
      · have hfull : q.config.cmdRingDepth ≤ q.cmdqUsed + 1 := by
          by_contra hroom
          exact hacc ⟨UInt64.not_le.mp htile, UInt64.not_le.mp hroom⟩
        have heq : q.submit (some cmd) = (_, .queueFull, some cmd) := (if_neg htile).trans (if_pos hfull)
        rw [heq]
        exact ⟨rfl, rfl, by simp⟩

theorem countInv_step {es : List (CountEvent Ctx)} {e : CountEvent Ctx} (h : CountInv es q) (hs : CountStep q e q') :
    WellFormed q' ∧ (CounterLaw (es ++ [e]) q' ↔ Accounted q e) := by
  obtain ⟨hw, hlaw⟩ := h
  have hw' : WellFormed q' := (step_balanced hw hs.step).1
  refine ⟨hw', ?_⟩
  obtain ⟨⟨call, st, sub, comp⟩, rec⟩ := e
  cases call with
  | dispatchAll => exact hs.elim
  | submit cmd =>
    obtain ⟨⟨hsubmit, -⟩, hrec⟩ := hs
    obtain ⟨hsub, hcomp, hfail⟩ := submit_counted hw cmd
    rw [hsubmit] at hsub hcomp hfail
    refine iff_of_true (hlaw.keep hrec hsub hcomp ?_) trivial
    rw [hfail]
    cases cmd <;> simp [badTile]
  | pollCompletion out =>
    obtain ⟨hpoll, hrec⟩ := hs
    have hkeep : (q.pollCompletion out).1.counters = q.counters ∧ (q.pollCompletion out).1.cmdqUsed = q.cmdqUsed := by
      unfold pollCompletion
      split_ifs <;> exact ⟨rfl, rfl⟩
    rw [hpoll] at hkeep
    refine iff_of_true (hlaw.keep hrec ?_ ?_ ?_) trivial
    · rw [hkeep.1, hkeep.2]
    · rw [hkeep.1]
    · rw [hkeep.1]
      exact (UInt64.add_zero _).symm
  | setExecHook fn ctx =>
    obtain ⟨⟨rfl, -⟩, hrec⟩ := hs
    exact iff_of_true (hlaw.keep hrec rfl rfl (UInt64.add_zero _).symm) trivial
  | dispatchOne =>
    obtain ⟨⟨hdisp, -⟩, hrec⟩ := hs
    obtain ⟨hnil, hsame, hnone⟩ | ⟨cmd, rest, d, hpend, -, hd, hcount⟩ := dispatchOne_counted hw
    · obtain rfl : q = q' := congrArg Prod.fst (hsame.symm.trans hdisp)
      refine iff_of_true (hlaw.keep (hrec.trans hnone) rfl rfl (UInt64.add_zero _).symm) ?_
      intro cmd hcmd
      rw [hnil] at hcmd
      cases hcmd
    · rw [hdisp] at hcount
      refine (hlaw.dispatch hcount (hrec.trans hd) rfl).trans (hcount.good_iff.trans ?_)
      unfold Accounted
      rw [hpend]
      simp

/-- **The counters balance.**  Every state that calls on a created queue reach is reached by single dispatches,
submits and polls; and in a run of these the balances hold throughout exactly when every command dispatched finds
room for its completion, has a known type and gets a result that is neither busy nor pending. -/
theorem counters_balance_iff {host : Host} {nullCtx : Ctx} {config : Option CmdqConfig}
    (hc : create host nullCtx config = .ok q₀) :
    (∀ es q, Run Step q₀ es q → ∃ ds, Run CountStep q₀ ds q) ∧
      ∀ ds q, Run CountStep q₀ ds q → (Lawful CountStep q₀ CounterLaw ds ↔ Guarded CountStep q₀ Accounted ds) := by
  refine ⟨fun es q h => run_counted h, fun ds q hr => ?_⟩
  have h0 : CountInv [] q₀ := by
    obtain ⟨hw, hpend, -⟩ := create_ok hc
    have hused : q₀.cmdqUsed = 0 := by
      rw [cmdqUsed_eq, hpend]
      rfl
    have hcounters : q₀.counters = {} := by
      unfold create at hc
      simp only at hc
      split_ifs at hc
      exact congrArg counters (Except.ok.inj hc).symm
    refine ⟨hw, ?_, fun d hd => absurd hd List.not_mem_nil, ?_⟩
    · rw [hcounters, hused]
      rfl
    · rw [hcounters]
      rfl
  refine hr.law_iff_guard countStep_deterministic h0 (fun _ _ h => h.law) ?_ ?_
  · intro es q e q' hi hg hs
    obtain ⟨hw', hiff⟩ := countInv_step hi hs
    exact ⟨hw', hiff.mpr hg⟩
  · intro es q e q' hi hg hs hlaw
    exact hg ((countInv_step hi hs).2.mp hlaw)

/-- Submitting the first command to a new queue. -/
def submitFirst (cmd : AimuCmd) (q : Cmdq Unit) : CountEvent Unit where
  call := .submit (some cmd)
  submitted := some (q.storedCmd cmd)

theorem counters_balance_nop : ∃ q₀ q e e', create .generous () (some ⟨1, 4, 4⟩) = .ok q₀ ∧
    Run CountStep q₀ [e, e'] q ∧ Lawful CountStep q₀ CounterLaw [e, e'] := by
  obtain ⟨q₀, q₁, e, hc, h₁, hacc⟩ : ∃ q₀ q₁ e, create .generous () (some ⟨1, 4, 4⟩) = .ok q₀ ∧
      CountStep q₀ e q₁ ∧ e.call = .submit (some {}) ∧ Accounted q₁ (dispatchEvent q₁) :=
    ⟨_, _, submitFirst {} _, rfl, ⟨⟨rfl, rfl⟩, rfl⟩, rfl, fun cmd hcmd => by
      obtain rfl := Option.some.inj hcmd
      exact ⟨by decide, by decide, by decide, by decide⟩⟩
  have hr : Run CountStep q₀ [e] q₁ := Run.nil.snoc h₁
  have hg : Guarded CountStep q₀ Accounted [e] :=
    @Guarded.snoc _ _ _ _ [] e _ (guarded_nil Accounted) fun t _ => by
      unfold Accounted
      rw [hacc.1]
      trivial
  have hr' : Run CountStep q₀ ([e] ++ [dispatchEvent q₁]) q₁.dispatchOne.1 := hr.snoc (countStep_dispatch q₁)
  refine ⟨q₀, _, e, dispatchEvent q₁, hc, hr', ((counters_balance_iff hc).2 _ _ hr').mpr ?_⟩
  exact hg.snoc_of_run countStep_deterministic hr hacc.2

/-- A command of an unknown type is counted as failed twice. -/
theorem unknown_command_fails_twice : ∃ q₀ q ds, create .generous () (some ⟨1, 4, 4⟩) = .ok q₀ ∧
    Run CountStep q₀ ds q ∧ q.counters.commandsSubmitted = 1 ∧ q.counters.commandsFailed = 2 ∧ ¬ CounterLaw ds q := by
  have hr {q₀ q₁ : Cmdq Unit} {e : CountEvent Unit} (h₁ : CountStep q₀ e q₁) :
      Run CountStep q₀ ([e] ++ [dispatchEvent q₁]) q₁.dispatchOne.1 := (Run.nil.snoc h₁).snoc (countStep_dispatch q₁)
  refine ⟨_, _, _, rfl, @hr _ _ (submitFirst { commandType := 0x60 } _) ⟨⟨rfl, rfl⟩, rfl⟩, by decide, by decide, ?_⟩
  intro hlaw
  have hfail := hlaw.failures
  revert hfail
  decide

end Att1.Cmdq
