import Att1.Cmdq.Rings
import Att1.Lib.Runs

/-!
# Att1.Cmdq.Fifo — accepted commands complete once and in order

* `accepted`, `polled`: the ids an event puts into the queue and takes out of it.
* `CompletionLaw`: what was accepted is what was polled, then what waits in the completion ring, then what is
  pending, in one sequence.
* `completions_fifo_iff`: a run keeps the law throughout exactly when every dispatch of the run finds room for its
  completions and the hook leaves the ids of the descriptors alone.
-/

open Att1.Lib

namespace Att1.Cmdq

variable {Ctx : Type}

/-- A call on the queue. -/
inductive CmdqCall (Ctx : Type)
  | submit (cmd : Option AimuCmd)
  | dispatchOne
  | dispatchAll
  | pollCompletion (out : Bool)
  | setExecHook (fn : Option (ExecHook Ctx)) (hookCtx : Ctx)

/-- A call with its status, the caller's descriptor after a submit and the completion a poll stored. -/
structure CmdqEvent (Ctx : Type) where
  call : CmdqCall Ctx
  status : Status := .ok
  submitted : Option AimuCmd := none
  completion : Option AimuCompletion := none

/-- One call on the queue. -/
def Step (q : Cmdq Ctx) (e : CmdqEvent Ctx) (q' : Cmdq Ctx) : Prop :=
  match e.call with
  | .submit cmd => q.submit cmd = (q', e.status, e.submitted) ∧ e.completion = none
  | .dispatchOne => q.dispatchOne = (q', e.status) ∧ e.completion = none
  | .dispatchAll => (∃ fuel, dispatchAllLoop fuel q = some (q', e.status)) ∧ e.completion = none
  | .pollCompletion out => q.pollCompletion out = (q', e.status, e.completion)
  | .setExecHook fn hookCtx => q.setExecHook fn hookCtx = q' ∧ e.completion = none

/-- The ids of the command a successful submit put into the queue. -/
def accepted (e : CmdqEvent Ctx) : List CmdIds :=
  match e.call with
  | .submit _ => if e.status = .ok then e.submitted.toList.map AimuCmd.ids else []
  | _ => []

/-- The ids of the completion a poll returned. -/
def polled (e : CmdqEvent Ctx) : List CmdIds := e.completion.toList.map AimuCompletion.ids

/-- No accepted command is dropped, duplicated or reordered, and none loses its identity. -/
def CompletionLaw (es : List (CmdqEvent Ctx)) (q : Cmdq Ctx) : Prop :=
  es.flatMap accepted =
    es.flatMap polled ++ (q.completions.map AimuCompletion.ids ++ q.pendingCmds.map AimuCmd.ids)

/-- The commands a dispatch is about to take can be dispatched. -/
def DispatchFits (q : Cmdq Ctx) (e : CmdqEvent Ctx) : Prop :=
  match e.call with
  | .dispatchOne => Fits q (q.pendingCmds.take 1)
  | .dispatchAll => Fits q q.pendingCmds
  | _ => True

/-! ### The step relation -/

theorem dispatchAllLoop_det {n m : ℕ} {q : Cmdq Ctx} {r r' : Cmdq Ctx × Status}
    (h : dispatchAllLoop n q = some r) (h' : dispatchAllLoop m q = some r') : r = r' := by
  induction n generalizing m q with
  | zero => cases h
  | succ n ih =>
    cases m with
    | zero => cases h'
    | succ m =>
      unfold dispatchAllLoop at h h'
      generalize q.dispatchOne = d at h h'
      obtain ⟨p, st⟩ := d
      cases st with
      | ok => exact ih h h'
      | _ => exact Option.some.inj (h.symm.trans h')

theorem step_deterministic : Deterministic (@Step Ctx) := by
  rintro q ⟨call, status, submitted, completion⟩ p p' h h'
  cases call with
  | submit => exact congrArg Prod.fst (h.1.symm.trans h'.1)
  | dispatchOne => exact congrArg Prod.fst (h.1.symm.trans h'.1)
  | dispatchAll =>
    obtain ⟨n, hn⟩ := h.1
    obtain ⟨m, hm⟩ := h'.1
    exact congrArg Prod.fst (dispatchAllLoop_det hn hm)
  | pollCompletion => exact congrArg Prod.fst (Eq.trans h.symm h')
  | setExecHook => exact h.1.symm.trans h'.1

/-- A single dispatch keeps the outstanding ids exactly when it fits. -/
theorem dispatchOne_outstanding {q : Cmdq Ctx} (hw : WellFormed q) :
    WellFormed q.dispatchOne.1 ∧
      (q.dispatchOne.1.outstanding = q.outstanding ↔ Fits q (q.pendingCmds.take 1)) := by
  rcases dispatchOne_cases hw with
    ⟨hnil, hempty⟩ | ⟨cmd, rest, hd, ⟨hroom, -, comp, hids, -, hcomp⟩ | ⟨hroom, -, hcomp⟩⟩
  · rw [hempty, hnil]
    exact ⟨hw, iff_of_true rfl ⟨Nat.zero_le _, trivial⟩⟩
  · refine ⟨hd.wellFormed, ?_⟩
    rw [hd.outstanding_eq_iff hcomp, hids, hd.pending]
    exact ⟨fun h => ⟨Nat.one_le_iff_ne_zero.mpr hroom, h, trivial⟩, fun h => h.2.1⟩
  · refine ⟨hd.wellFormed, iff_of_false ?_ ?_⟩
    · intro hsame
      have hlen := congrArg List.length hsame
      unfold outstanding at hlen
      rw [hcomp, hd.pending, hd.pending'] at hlen
      simp at hlen
    · intro hfits
      have hlen := hfits.1
      rw [hd.pending, hroom] at hlen
      simp at hlen

/-- **One call.**  It keeps the rings well formed, and it balances what it accepts, what it hands out and what is
outstanding exactly when its dispatches fit. -/
theorem step_balanced {q q' : Cmdq Ctx} {e : CmdqEvent Ctx} (hw : WellFormed q) (hs : Step q e q') :
    WellFormed q' ∧
      (q.outstanding ++ accepted e = polled e ++ q'.outstanding ↔ DispatchFits q e) := by
  obtain ⟨call, status, submitted, completion⟩ := e
  cases call with
  | submit cmd =>
    obtain ⟨hcall, rfl⟩ := hs
    obtain ⟨hw', hcomp, hcases⟩ := submit_cases hw cmd
    rw [hcall] at hw' hcomp hcases
    refine ⟨hw', iff_of_true ?_ trivial⟩
    rcases hcases with ⟨stored, hst, hpend⟩ | ⟨hst, hpend⟩
    · obtain ⟨rfl, rfl⟩ := Prod.mk.inj hst
      unfold outstanding
      rw [hcomp, hpend, List.map_append, List.append_assoc]
      rfl
    · have hnone : accepted (⟨.submit cmd, status, submitted, none⟩ : CmdqEvent Ctx) = [] := if_neg hst
      unfold outstanding
      rw [hcomp, hpend, hnone, List.append_nil]
      rfl
  | dispatchOne =>
    obtain ⟨hcall, rfl⟩ := hs
    obtain ⟨hw', hiff⟩ := dispatchOne_outstanding hw
    rw [hcall] at hw' hiff
    refine ⟨hw', Iff.trans ?_ hiff⟩
    rw [accepted, List.append_nil]
    exact eq_comm
  | dispatchAll =>
    obtain ⟨⟨fuel, hcall⟩, rfl⟩ := hs
    obtain ⟨hw', -, hiff⟩ := dispatchAllLoop_spec hw hcall
    refine ⟨hw', Iff.trans ?_ hiff⟩
    rw [accepted, List.append_nil]
    exact eq_comm
  | pollCompletion out =>
    obtain ⟨hw', hpend, hcases⟩ := pollCompletion_cases hw out
    rw [show q.pollCompletion out = (q', status, completion) from hs] at hw' hpend hcases
    refine ⟨hw', iff_of_true ?_ trivial⟩
    unfold outstanding
    rw [accepted, List.append_nil, hpend]
    rcases hcases with ⟨comp, hst, hcomp⟩ | ⟨hst, hcomp⟩
    · obtain ⟨-, rfl⟩ := Prod.mk.inj hst
      rw [hcomp]
      rfl
    · simp only at hst
      subst hst
      rw [hcomp]
      rfl
  | setExecHook fn hookCtx =>
    obtain ⟨rfl, rfl⟩ := hs
    refine ⟨⟨hw.cmdDepth, hw.compDepth, hw.cmdOk, hw.compOk⟩, iff_of_true ?_ trivial⟩
    exact List.append_nil _

/-! ### Runs -/

/-- The completion law together with the invariant of the rings. -/
structure RunInv (es : List (CmdqEvent Ctx)) (q : Cmdq Ctx) : Prop where
  wellFormed : WellFormed q
  law : CompletionLaw es q

theorem completionLaw_snoc {es : List (CmdqEvent Ctx)} {q q' : Cmdq Ctx} {e : CmdqEvent Ctx}
    (h : CompletionLaw es q) :
    CompletionLaw (es ++ [e]) q' ↔ q.outstanding ++ accepted e = polled e ++ q'.outstanding := by
  have hes : es.flatMap accepted = es.flatMap polled ++ q.outstanding := h
  show (es ++ [e]).flatMap accepted = (es ++ [e]).flatMap polled ++ q'.outstanding ↔ _
  rw [List.flatMap_append, List.flatMap_append, List.flatMap_singleton, List.flatMap_singleton, hes,
    List.append_assoc, List.append_assoc, List.append_cancel_left_eq]

/-- **Commands complete once and in order.**  In a run from a created queue the ids polled, the ids in the
completion ring and the ids of the pending commands form the sequence of the accepted ids throughout, exactly when
every dispatch of the run finds room for the completions of the commands it takes and the hook leaves the ids of
their descriptors alone. -/
theorem completions_fifo_iff {host : Host} {nullCtx : Ctx} {config : Option CmdqConfig} {q₀ q : Cmdq Ctx}
    {es : List (CmdqEvent Ctx)} (hc : create host nullCtx config = .ok q₀) (hr : Run Step q₀ es q) :
    Lawful Step q₀ CompletionLaw es ↔ Guarded Step q₀ DispatchFits es := by
  obtain ⟨hw, hpend, hcomp⟩ := create_ok hc
  have h0 : RunInv [] q₀ := by
    refine ⟨hw, ?_⟩
    unfold CompletionLaw
    rw [hpend, hcomp]
    rfl
  refine hr.law_iff_guard step_deterministic h0 (fun _ _ h => h.law) ?_ ?_
  · intro es q e q' hi hg hs
    obtain ⟨hw', hiff⟩ := step_balanced hi.wellFormed hs
    exact ⟨hw', (completionLaw_snoc hi.law).mpr (hiff.mpr hg)⟩
  · intro es q e q' hi hg hs hlaw
    obtain ⟨-, hiff⟩ := step_balanced hi.wellFormed hs
    exact hg (hiff.mp ((completionLaw_snoc hi.law).mp hlaw))

/-- The descriptor a submitted no-op comes back as. -/
def storedNop (commandId : UInt32) : AimuCmd :=
  let cmd : AimuCmd := { commandId := commandId, status := AimuResult.pending.code }
  { cmd with checksum := cmdChecksum cmd }

/-- A successful submit of a no-op. -/
def submitNop (commandId : UInt32) : CmdqEvent Unit where
  call := .submit (some {})
  submitted := some (storedNop commandId)

theorem completions_fifo_room_for_two : ∃ q₀ q, create .generous () (some ⟨1, 4, 4⟩) = .ok q₀ ∧
    Run Step q₀ [submitNop 1, submitNop 2, { call := .dispatchAll }] q ∧
    Lawful Step q₀ CompletionLaw [submitNop 1, submitNop 2, { call := .dispatchAll }] := by
  obtain ⟨q₀, q₂, hc, h₂, hfits, q, h₃⟩ : ∃ q₀ q₂, create .generous () (some ⟨1, 4, 4⟩) = .ok q₀ ∧
      Run Step q₀ [submitNop 1, submitNop 2] q₂ ∧ Fits q₂ q₂.pendingCmds ∧
        ∃ q, Step q₂ { call := .dispatchAll } q := by
    exact ⟨_, _, rfl, Run.cons ⟨rfl, rfl⟩ (Run.cons ⟨rfl, rfl⟩ Run.nil), ⟨by decide, rfl, rfl, trivial⟩, _,
      ⟨3, rfl⟩, rfl⟩
  have hr : Run Step q₀ ([submitNop 1, submitNop 2] ++ [{ call := .dispatchAll }]) q := h₂.snoc h₃
  have hg : Guarded Step q₀ DispatchFits ([] ++ [submitNop 1] ++ [submitNop 2]) :=
    ((guarded_nil DispatchFits).snoc fun _ _ => by exact trivial).snoc fun _ _ => by exact trivial
  refine ⟨q₀, q, hc, hr, (completions_fifo_iff hc hr).mpr (hg.snoc fun t ht => ?_)⟩
  obtain rfl := ht.det step_deterministic h₂
  exact hfits

/-- A completion ring of two slots has room for one entry: dispatching two commands drops the second. -/
theorem dispatchAll_drops_command : ∃ q₀ q, create .generous () (some ⟨1, 4, 2⟩) = .ok q₀ ∧
    Run Step q₀ [submitNop 1, submitNop 2, { call := .dispatchAll, status := .queueFull }] q ∧
    ¬ CompletionLaw [submitNop 1, submitNop 2, { call := .dispatchAll, status := .queueFull }] q := by
  refine ⟨_, _, rfl,
    Run.cons ⟨rfl, rfl⟩ (Run.cons ⟨rfl, rfl⟩ (Run.cons ⟨⟨3, rfl⟩, rfl⟩ Run.nil)), fun h => ?_⟩
  exact absurd (congrArg List.length h) (by decide)

end Att1.Cmdq
