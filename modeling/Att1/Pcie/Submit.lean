import Att1.Pcie.Model
import Att1.Cmdq.Fifo
import Att1.Lib.Runs

/-!
# Att1.Pcie.Submit — which completion an exec of the backend reports

* `pcieSubmitExec_projects`: with `trackedOps_projects`, the ledger does not change what the backend does.
* `SharedStep`: the backend shares the queues of its endpoint with other submitters.
* `OwnCompletionLaw`: an exec that succeeds has completed its own command, and no exec leaves its command behind.
* `own_completion_iff`: a run obeys the law throughout exactly when each exec that is accepted finds no pending command,
  and no unpolled completion unless there is no room for its own.
-/

open Att1.Lib Att1.Conformance

namespace Att1.Pcie

variable {Ctx : Type}

/-- The backend does the same through operations that are the same. -/
theorem pcieSubmitExec_projects {σ τ : Type} {ops : ConformanceOps σ} {ops' : ConformanceOps τ} {view : σ → τ}
    (h : Projects ops ops' view) (tileId : UInt32) (s : σ) (cmd : AimuCmd) :
    pcieSubmitExec ops' tileId (view s) cmd =
      (view (pcieSubmitExec ops tileId s cmd).1, (pcieSubmitExec ops tileId s cmd).2) := by
  unfold pcieSubmitExec
  simp only [h.submit, h.dispatchOne, h.pollCompletion]
  split_ifs
  · rfl
  · rfl
  · rfl
  · rfl

/-- A call on an endpoint: one of another submitter, or an exec of a backend. -/
inductive SharedCall
  | submit (cmd : AimuCmd)
  | dispatchOne
  | dispatchAll
  | pollCompletion
  | exec (tileId : UInt32) (cmd : AimuCmd)

/-- A call with whether an exec succeeded, and the number of the command it submitted. -/
structure SharedEvent where
  call : SharedCall
  success : Bool := false
  own : Option ℕ := none

/-- One call. -/
def SharedStep (t : Tracked Ctx) (e : SharedEvent) (t' : Tracked Ctx) : Prop :=
  match e.call with
  | .submit cmd => (t.submit cmd).1 = t' ∧ e.own = none
  | .dispatchOne => t.dispatchOne.1 = t' ∧ e.own = none
  | .dispatchAll =>
    ∃ fuel q status, Cmdq.dispatchAllLoop fuel t.queue = some (q, status) ∧
      ⟨q, Tracked.serveTo t.ledger t.queue q⟩ = t' ∧ e.own = none
  | .pollCompletion => t.pollCompletion.1 = t' ∧ e.own = none
  | .exec tileId cmd =>
    pcieSubmitExec trackedOps tileId t cmd = (t', e.success) ∧
      e.own = if (t.submit (forTile tileId cmd)).2.1 = .ok then some t.ledger.next else none

/-- After an exec, success means that its own command has completed with the result OK and that this completion has
been taken, and its command is neither pending nor waiting to be polled. -/
def OwnCompletionLaw (es : List SharedEvent) (t : Tracked Ctx) : Prop :=
  ∀ e ∈ es.getLast?, ∀ tileId cmd, e.call = .exec tileId cmd →
    (e.success = true →
      ∃ x ∈ t.ledger.collected, e.own = some x.1.1 ∧ x.2.resultCode = AimuResult.ok.code) ∧
    ∀ j ∈ t.ledger.outstanding, e.own ≠ some j.1

/-- An exec that is accepted finds the queues empty, or no room for its completion. -/
def ExecAlone (t : Tracked Ctx) (e : SharedEvent) : Prop :=
  match e.call with
  | .exec tileId cmd =>
    t.queue.Accepts (forTile tileId cmd) →
      t.queue.pendingCmds = [] ∧ (t.queue.completions = [] ∨ t.queue.compRoom = 0)
  | _ => True

/-- The invariant of a run. -/
structure SharedInv (kernels : MathKernels) (es : List SharedEvent) (t : Tracked ConfCtx) : Prop where
  follows : t.Follows
  hook : t.queue.execHook = some (confExecHook kernels)
  law : OwnCompletionLaw es t

theorem sharedStep_deterministic : Deterministic (@SharedStep Ctx) := by
  intro t e t' t'' h h'
  unfold SharedStep at h h'
  cases hc : e.call with
  | submit cmd =>
    rw [hc] at h h'
    exact h.1.symm.trans h'.1
  | dispatchOne =>
    rw [hc] at h h'
    exact h.1.symm.trans h'.1
  | dispatchAll =>
    rw [hc] at h h'
    obtain ⟨n, q, status, hq, rfl, -⟩ := h
    obtain ⟨m, p, status', hp, rfl, -⟩ := h'
    obtain ⟨rfl, -⟩ := Prod.mk.inj (Cmdq.dispatchAllLoop_det hq hp)
    rfl
  | pollCompletion =>
    rw [hc] at h h'
    exact h.1.symm.trans h'.1
  | exec tileId cmd =>
    rw [hc] at h h'
    exact congrArg Prod.fst (h.1.symm.trans h'.1)

/-! ### One exec -/

section Exec

variable {kernels : MathKernels} {t t' : Tracked ConfCtx} {tileId : UInt32} {cmd : AimuCmd} {success : Bool}

theorem exec_refused (ht : t.Follows) (hacc : ¬ t.queue.Accepts (forTile tileId cmd)) :
    ∃ q, pcieSubmitExec trackedOps tileId t cmd = (⟨q, t.ledger⟩, false) ∧
      (t.submit (forTile tileId cmd)).2.1 ≠ .ok ∧ Cmdq.SameRings t.queue q ∧ Tracked.Follows ⟨q, t.ledger⟩ := by
  obtain ⟨q, status, heq, hst, hs, hf⟩ := Tracked.submit_refused ht hacc
  have hsubmit : trackedOps.cmdSubmit t (forTile tileId cmd) = (⟨q, t.ledger⟩, status, forTile tileId cmd) := heq
  refine ⟨q, ?_, ?_, hs, hf⟩
  · unfold pcieSubmitExec
    rw [hsubmit]
    exact if_pos hst
  · rw [heq]
    exact hst

/-- What an exec that is accepted does: the oldest command is dispatched, and the oldest completion polled. -/
inductive ExecOutcome (t t' : Tracked ConfCtx) (own : AimuCmd) : Bool → Prop
  /-- There is no room for the completion of the oldest command. -/
  | dropped (hroom : t.queue.compRoom = 0) (hw : t'.ledger.waiting = (t.ledger.enter own).waiting.tail)
      (ha : t'.ledger.answered = t.ledger.answered) : ExecOutcome t t' own false
  /-- The completion of the oldest command `j` is written, and the oldest completion taken. -/
  | polled {j : ℕ × AimuCmd} {comp : AimuCompletion} {x : (ℕ × AimuCmd) × AimuCompletion} {success : Bool}
      (hroom : t.queue.compRoom ≠ 0) (hj : (t.ledger.enter own).waiting = j :: t'.ledger.waiting)
      (hx : t.ledger.answered ++ [(j, comp)] = x :: t'.ledger.answered) (hc : x ∈ t'.ledger.collected)
      (hresult : ∃ result, Finished result ∧ comp.resultCode = result.code)
      (hsuccess : success = decide (resultToStatus x.2.resultCode = .ok)) : ExecOutcome t t' own success

theorem exec_accepted (ht : t.Follows) (hhook : t.queue.execHook = some (confExecHook kernels))
    (hacc : t.queue.Accepts (forTile tileId cmd)) :
    ∃ t' success, pcieSubmitExec trackedOps tileId t cmd = (t', success) ∧
      (t.submit (forTile tileId cmd)).2.1 = .ok ∧ t'.Follows ∧ t'.queue.execHook = t.queue.execHook ∧
      ExecOutcome t t' (t.queue.storedCmd (forTile tileId cmd)) success := by
  obtain ⟨q₁, heq, hs₁, hf₁⟩ := Tracked.submit_accepted ht hacc
  set own := t.queue.storedCmd (forTile tileId cmd) with hown
  have hhook₁ : q₁.execHook = some (confExecHook kernels) := hs₁.hook.trans hhook
  have hkeeps : Cmdq.KeepsDescriptor q₁.execHook := hhook₁ ▸ confExecHook_keepsDescriptor kernels
  have hroom₁ : q₁.compRoom = t.queue.compRoom := by
    unfold Cmdq.compRoom
    rw [hs₁.config, hs₁.completions]
  have hexec : pcieSubmitExec trackedOps tileId t cmd =
      (let d := Tracked.dispatchOne ⟨q₁, t.ledger.enter own⟩
        if d.2 ≠ .ok then (d.1, false)
        else
          let p := d.1.pollCompletion
          if p.2.1 ≠ .ok then (p.1, false)
          else (p.1, decide (resultToStatus (p.2.2.getD {}).resultCode = .ok))) := by
    have hsubmit : trackedOps.cmdSubmit t (forTile tileId cmd) = (⟨q₁, t.ledger.enter own⟩, .ok, own) := heq
    unfold pcieSubmitExec
    rw [hsubmit]
    rfl
  have hlen : (t.ledger.enter own).waiting.map Prod.snd = q₁.pendingCmds := hf₁.waiting
  obtain ⟨taken, answers, hd, ⟨hnil, -⟩ | ⟨first, rest, hfirst, rfl, -, hcases⟩⟩ :=
    Cmdq.dispatchOne_served hf₁.wellFormed hkeeps
  · rw [hs₁.pending] at hnil
    exact absurd (congrArg List.length hnil) (by simp)
  obtain ⟨j, waiting, hj⟩ : ∃ j waiting, (t.ledger.enter own).waiting = j :: waiting := by
    cases hwait : (t.ledger.enter own).waiting with
    | nil =>
      rw [hwait, hfirst] at hlen
      cases hlen
    | cons j waiting => exact ⟨j, waiting, rfl⟩
  have hledger : (Tracked.dispatchOne ⟨q₁, t.ledger.enter own⟩).1 =
      ⟨q₁.dispatchOne.1, (t.ledger.enter own).serve 1 answers⟩ := by
    show Tracked.mk _ (Tracked.serveTo _ _ _) = _
    rw [Tracked.serveTo_eq hd]
  have hf₂ : Tracked.Follows ⟨q₁.dispatchOne.1, (t.ledger.enter own).serve 1 answers⟩ := Cmdq.Follows.serve hf₁ hd
  rw [hexec]
  simp only
  rw [hledger]
  have hst₂ : (Tracked.dispatchOne ⟨q₁, t.ledger.enter own⟩).2 = q₁.dispatchOne.2 := rfl
  rw [hst₂, heq]
  obtain ⟨hroom, hst, comp, rfl, hcode⟩ | ⟨hroom, hst, rfl⟩ := hcases
  · rw [hst, if_neg (not_not.mpr rfl)]
    have hanswered : ((t.ledger.enter own).serve 1 [comp]).answered = t.ledger.answered ++ [(j, comp)] := by
      unfold Ledger.serve
      rw [hj]
      rfl
    obtain ⟨hempty, -⟩ | ⟨comp', q₃, hpoll, hp, hf₃⟩ := Tracked.pollCompletion_cases hf₂
    · rw [hd.completions] at hempty
      exact absurd (congrArg List.length hempty) (by simp)
    · obtain ⟨j', hx, -⟩ := Cmdq.Follows.polled hf₂ hp
      rw [hpoll]
      refine ⟨_, _, if_neg (not_not.mpr rfl), rfl, hf₃, hp.hook.trans (hd.hook.trans hs₁.hook), ?_⟩
      refine @ExecOutcome.polled _ _ _ j comp (j', comp') _ (hroom₁ ▸ hroom) ?_ ?_ ?_ ?_ rfl
      · rw [hj]
        show _ = j :: ((t.ledger.enter own).serve 1 [comp]).waiting
        unfold Ledger.serve
        rw [hj]
        rfl
      · rw [← hanswered]
        exact hx
      · show (j', comp') ∈ ((t.ledger.enter own).serve 1 [comp]).collected ++ _
        rw [hx]
        exact List.mem_append_right _ (List.mem_singleton_self _)
      · refine ⟨_, ?_, hcode⟩
        rw [hhook₁]
        exact runCmd_finished kernels _ _
  · have hstop : Status.queueFull ≠ .ok := Status.noConfusion
    rw [hst, if_pos hstop]
    refine ⟨_, _, rfl, rfl, hf₂, hd.hook.trans hs₁.hook, ExecOutcome.dropped (hroom₁ ▸ hroom) ?_ ?_⟩
    · show ((t.ledger.enter own).serve 1 []).waiting = _
      unfold Ledger.serve
      exact List.drop_one
    · show t.ledger.answered ++ _ = t.ledger.answered
      rw [List.zip_nil_right, List.append_nil]

theorem ExecOutcome.own_gone {own : AimuCmd} (h : ExecOutcome t t' own success) (ht : t.Follows)
    (hpend : t.queue.pendingCmds = []) (hcomp : t.queue.completions = [] ∨ t.queue.compRoom = 0) :
    ∀ j ∈ t'.ledger.outstanding, j.1 ≠ t.ledger.next := by
  have hwait : t.ledger.waiting = [] := List.map_eq_nil_iff.mp (ht.waiting.trans hpend)
  have henter : (t.ledger.enter own).waiting = [(t.ledger.next, own)] := by
    unfold Ledger.enter
    rw [hwait]
    rfl
  intro j hj
  unfold Ledger.outstanding at hj
  cases h with
  | dropped hroom hw ha =>
    rw [hw, ha, henter] at hj
    have hlt := ht.numbered.lt_next j (List.mem_append_left _ (by simpa using hj))
    omega
  | polled hroom hfirst hx hc hresult hsuccess =>
    have hans : t.ledger.answered = [] :=
      List.map_eq_nil_iff.mp (ht.answered.trans (hcomp.resolve_right hroom))
    rw [henter] at hfirst
    rw [hans] at hx
    rw [← (List.cons.inj hfirst).2, ← (List.cons.inj hx).2] at hj
    cases hj

theorem ExecOutcome.own_ok {own : AimuCmd} (h : ExecOutcome t t' own success) (ht : t.Follows)
    (hpend : t.queue.pendingCmds = []) (hcomp : t.queue.completions = [] ∨ t.queue.compRoom = 0)
    (hok : success = true) :
    ∃ x ∈ t'.ledger.collected, x.1.1 = t.ledger.next ∧ x.2.resultCode = AimuResult.ok.code := by
  have hwait : t.ledger.waiting = [] := List.map_eq_nil_iff.mp (ht.waiting.trans hpend)
  cases h with
  | dropped hroom hw ha => cases hok
  | polled hroom hfirst hx hc hresult hsuccess =>
    have hans : t.ledger.answered = [] :=
      List.map_eq_nil_iff.mp (ht.answered.trans (hcomp.resolve_right hroom))
    unfold Ledger.enter at hfirst
    rw [hwait] at hfirst
    rw [hans] at hx
    obtain ⟨rfl, -⟩ := List.cons.inj hfirst
    obtain ⟨rfl, -⟩ := List.cons.inj hx
    obtain ⟨result, hfin, hcode⟩ := hresult
    refine ⟨_, hc, rfl, ?_⟩
    rw [hsuccess, decide_eq_true_iff] at hok
    simp only at hok ⊢
    rw [hcode, resultToStatus_ok] at hok
    obtain rfl | hbusy | hpending := hok
    · exact hcode
    · exact absurd hbusy hfin.not_busy
    · exact absurd hpending hfin.not_pending

theorem ExecOutcome.own_left {own : AimuCmd} (h : ExecOutcome t t' own success) (ht : t.Follows)
    (hbusy : ¬ (t.queue.pendingCmds = [] ∧ (t.queue.completions = [] ∨ t.queue.compRoom = 0))) :
    ∃ j ∈ t'.ledger.outstanding, j.1 = t.ledger.next := by
  have henter : (t.ledger.enter own).waiting = t.ledger.waiting ++ [(t.ledger.next, own)] := rfl
  refine ⟨(t.ledger.next, own), ?_, rfl⟩
  unfold Ledger.outstanding
  cases hwait : t.ledger.waiting with
  | cons first rest =>
    have hmem : (t.ledger.next, own) ∈ rest ++ [(t.ledger.next, own)] :=
      List.mem_append_right _ (List.mem_singleton_self _)
    rw [hwait] at henter
    apply List.mem_append_right
    cases h with
    | dropped hroom hw ha =>
      rw [hw, henter]
      exact hmem
    | polled hroom hfirst hx hc hresult hsuccess =>
      rw [henter] at hfirst
      rw [← (List.cons.inj hfirst).2]
      exact hmem
  | nil =>
    have hpend : t.queue.pendingCmds = [] := by
      rw [← ht.waiting, hwait]
      rfl
    rw [hwait] at henter
    apply List.mem_append_left
    cases h with
    | dropped hroom hw ha => exact absurd ⟨hpend, Or.inr hroom⟩ hbusy
    | polled hroom hfirst hx hc hresult hsuccess =>
      rw [henter] at hfirst
      obtain ⟨rfl, -⟩ := List.cons.inj hfirst
      cases hans : t.ledger.answered with
      | nil =>
        refine absurd ⟨hpend, Or.inl ?_⟩ hbusy
        rw [← ht.answered, hans]
        rfl
      | cons a as =>
        rw [hans] at hx
        have htail := (List.cons.inj hx).2
        rw [← htail, List.append_eq, List.map_append]
        exact List.mem_append_right _ (List.mem_singleton_self _)

end Exec

/-! ### Runs -/

variable {kernels : MathKernels} {es : List SharedEvent} {t t' : Tracked ConfCtx} {e : SharedEvent}

theorem ownCompletionLaw_snoc :
    OwnCompletionLaw (es ++ [e]) t ↔ ∀ tileId cmd, e.call = .exec tileId cmd →
      (e.success = true →
        ∃ x ∈ t.ledger.collected, e.own = some x.1.1 ∧ x.2.resultCode = AimuResult.ok.code) ∧
      ∀ j ∈ t.ledger.outstanding, e.own ≠ some j.1 := by
  unfold OwnCompletionLaw
  rw [List.getLast?_concat]
  constructor
  · intro h
    exact h e rfl
  · intro h e' he'
    obtain rfl := Option.some.inj he'
    exact h

/-- A call that is no exec. -/
theorem ownCompletionLaw_other (h : ∀ tileId cmd, e.call ≠ .exec tileId cmd) : OwnCompletionLaw (es ++ [e]) t := by
  rw [ownCompletionLaw_snoc]
  intro tileId cmd hcall
  exact absurd hcall (h tileId cmd)

/-- Calls of other submitters. -/
theorem sharedStep_other (hi : SharedInv kernels es t) (hs : SharedStep t e t')
    (h : ∀ tileId cmd, e.call ≠ .exec tileId cmd) : SharedInv kernels (es ++ [e]) t' := by
  have hkeeps : Cmdq.KeepsDescriptor t.queue.execHook := hi.hook ▸ confExecHook_keepsDescriptor kernels
  have hwf : t.queue.WellFormed := hi.follows.wellFormed
  have hlaw : OwnCompletionLaw (es ++ [e]) t' := ownCompletionLaw_other h
  unfold SharedStep at hs
  cases hc : e.call with
  | submit cmd =>
    rw [hc] at hs
    obtain ⟨rfl, -⟩ := hs
    exact ⟨Tracked.submit_follows hi.follows cmd, (Tracked.submit_hook t cmd).trans hi.hook, hlaw⟩
  | dispatchOne =>
    rw [hc] at hs
    obtain ⟨rfl, -⟩ := hs
    obtain ⟨taken, answers, hd, -⟩ := Cmdq.dispatchOne_served hwf hkeeps
    exact ⟨Tracked.follows_served hi.follows hd, hd.hook.trans hi.hook, hlaw⟩
  | dispatchAll =>
    rw [hc] at hs
    obtain ⟨fuel, q, status, hq, rfl, -⟩ := hs
    obtain ⟨taken, answers, hd⟩ := Cmdq.dispatchAllLoop_served hwf hkeeps hq
    exact ⟨Tracked.follows_served hi.follows hd, hd.hook.trans hi.hook, hlaw⟩
  | pollCompletion =>
    rw [hc] at hs
    obtain ⟨rfl, -⟩ := hs
    obtain ⟨-, hpoll⟩ | ⟨comp, q', hpoll, hp, hf⟩ := Tracked.pollCompletion_cases hi.follows
    · rw [hpoll] at hlaw ⊢
      exact ⟨hi.follows, hi.hook, hlaw⟩
    · rw [hpoll] at hlaw ⊢
      exact ⟨hf, hp.hook.trans hi.hook, hlaw⟩
  | exec tileId cmd => exact absurd hc (h tileId cmd)

/-- One exec. -/
theorem sharedStep_exec {tileId : UInt32} {cmd : AimuCmd} (hi : SharedInv kernels es t) (hs : SharedStep t e t')
    (hc : e.call = .exec tileId cmd) :
    (ExecAlone t e → SharedInv kernels (es ++ [e]) t') ∧ (¬ ExecAlone t e → ¬ OwnCompletionLaw (es ++ [e]) t') := by
  unfold SharedStep at hs
  rw [hc] at hs
  obtain ⟨hexec, hown⟩ := hs
  have hguard : ExecAlone t e ↔ (t.queue.Accepts (forTile tileId cmd) →
      t.queue.pendingCmds = [] ∧ (t.queue.completions = [] ∨ t.queue.compRoom = 0)) := by
    unfold ExecAlone
    rw [hc]
  rw [hguard]
  by_cases hacc : t.queue.Accepts (forTile tileId cmd)
  · obtain ⟨t₁, success, heq, hst, hf, hhook, hout⟩ := exec_accepted hi.follows hi.hook hacc
    obtain ⟨rfl, hsuccess⟩ := Prod.mk.inj (hexec.symm.trans heq)
    rw [if_pos hst] at hown
    constructor
    · intro hg
      obtain ⟨hpend, hcomp⟩ := hg hacc
      refine ⟨hf, hhook.trans hi.hook, ownCompletionLaw_snoc.mpr fun _ _ _ => ⟨fun hok => ?_, fun j hj heq => ?_⟩⟩
      · obtain ⟨x, hx, hnum, hcode⟩ := hout.own_ok hi.follows hpend hcomp (hsuccess ▸ hok)
        exact ⟨x, hx, hown.trans (congrArg some hnum.symm), hcode⟩
      · exact hout.own_gone hi.follows hpend hcomp j hj (Option.some.inj (heq.symm.trans hown))
    · intro hg hlaw
      obtain ⟨j, hj, hnum⟩ := hout.own_left hi.follows fun h => hg fun _ => h
      exact (ownCompletionLaw_snoc.mp hlaw tileId cmd hc).2 j hj (hown.trans (congrArg some hnum.symm))
  · obtain ⟨q, heq, hst, hsame, hf⟩ := exec_refused hi.follows hacc
    obtain ⟨rfl, hsuccess⟩ := Prod.mk.inj (hexec.symm.trans heq)
    rw [if_neg hst] at hown
    constructor
    · intro _
      refine ⟨hf, hsame.hook.trans hi.hook, ownCompletionLaw_snoc.mpr fun _ _ _ => ⟨fun hok => ?_, fun j _ heq => ?_⟩⟩
      · rw [hsuccess] at hok
        cases hok
      · rw [hown] at heq
        cases heq
    · intro hg
      exact absurd (fun h => absurd h hacc) hg

/-- **An exec reports its own completion.**  In a run of any calls on the queues of a created endpoint, every exec that
succeeds has completed its own command with the result OK and taken that completion, and none leaves its command behind,
exactly when every exec that is accepted finds no pending command, and no unpolled completion unless the completion ring
has no room. -/
theorem own_completion_iff {host : Host} {memory : Memory} {config : CmdqConfig} {q₀ : Cmdq ConfCtx}
    (hc : createQueue kernels host memory config = .ok q₀) (hr : Run SharedStep ⟨q₀, {}⟩ es t) :
    Lawful SharedStep ⟨q₀, {}⟩ OwnCompletionLaw es ↔ Guarded SharedStep ⟨q₀, {}⟩ ExecAlone es := by
  obtain ⟨hw, hpend, hcomp, hhook, -⟩ := createQueue_ok hc
  have h0 : SharedInv kernels [] ⟨q₀, {}⟩ := by
    refine ⟨⟨hw, Ledger.numbered_empty, hpend.symm, hcomp.symm, ?_⟩, hhook, ?_⟩
    · intro x hx
      cases hx
    · intro e he
      cases he
  refine hr.law_iff_guard sharedStep_deterministic h0 (fun _ _ hi => hi.law) ?_ ?_
  · intro es t e t' hi hg hs
    cases hcall : e.call with
    | exec tileId cmd => exact (sharedStep_exec hi hs hcall).1 hg
    | _ => exact sharedStep_other hi hs fun _ _ h => by rw [hcall] at h; cases h
  · intro es t e t' hi hg hs
    cases hcall : e.call with
    | exec tileId cmd => exact (sharedStep_exec hi hs hcall).2 hg
    | _ =>
      refine absurd ?_ hg
      unfold ExecAlone
      rw [hcall]
      trivial

/-- The exec of a no-op that succeeds. -/
def execNop (own : ℕ) : SharedEvent := ⟨.exec 0 {}, true, some own⟩

/-- Two execs one after the other. -/
theorem execs_in_turn : ∃ q₀ t, createQueue .idle .generous (fun _ => 0) ⟨1, 4, 4⟩ = .ok q₀ ∧
    Run SharedStep ⟨q₀, {}⟩ [execNop 0, execNop 1] t ∧
    Lawful SharedStep ⟨q₀, {}⟩ OwnCompletionLaw [execNop 0, execNop 1] := by
  have hrun : ∃ q₀, createQueue .idle .generous (fun _ => 0) ⟨1, 4, 4⟩ = .ok q₀ ∧
      ∃ t, Run (fun t e t' => SharedStep t e t' ∧ ExecAlone t e) ⟨q₀, {}⟩ [execNop 0, execNop 1] t := by
    refine ⟨_, rfl, _, Run.cons ⟨⟨rfl, rfl⟩, ?_⟩ <| Run.cons ⟨⟨rfl, rfl⟩, ?_⟩ Run.nil⟩
    · intro _
      exact ⟨rfl, Or.inl rfl⟩
    · intro _
      exact ⟨rfl, Or.inl rfl⟩
  obtain ⟨q₀, hc, t, hr⟩ := hrun
  obtain ⟨hr, hg⟩ := hr.guarded sharedStep_deterministic
  exact ⟨q₀, t, hc, hr, (own_completion_iff hc hr).mpr hg⟩

/-- A no-op left pending by another submitter is dispatched in place of the command of the exec, which succeeds. -/
theorem stale_command_reported : ∃ q₀ t, createQueue .idle .generous (fun _ => 0) ⟨1, 4, 4⟩ = .ok q₀ ∧
    Run SharedStep ⟨q₀, {}⟩ [⟨.submit {}, false, none⟩, execNop 1] t ∧ t.ledger.waiting.map Prod.fst = [1] ∧
    ¬ OwnCompletionLaw [⟨.submit {}, false, none⟩, execNop 1] t := by
  have hrun : ∃ q₀, createQueue .idle .generous (fun _ => 0) ⟨1, 4, 4⟩ = .ok q₀ ∧
      ∃ t, Run SharedStep ⟨q₀, {}⟩ [⟨.submit {}, false, none⟩, execNop 1] t ∧ t.ledger.waiting.map Prod.fst = [1] :=
    ⟨_, rfl, _, Run.cons ⟨rfl, rfl⟩ <| Run.cons ⟨rfl, rfl⟩ Run.nil, rfl⟩
  obtain ⟨q₀, hc, t, hr, hwait⟩ := hrun
  refine ⟨q₀, t, hc, hr, hwait, fun hlaw => ?_⟩
  obtain ⟨j, hj, hnum⟩ : ∃ j ∈ t.ledger.waiting, j.1 = 1 := by
    have hmem : 1 ∈ t.ledger.waiting.map Prod.fst := hwait ▸ List.mem_singleton_self 1
    exact List.mem_map.mp hmem
  exact (hlaw (execNop 1) rfl 0 {} rfl).2 j (Ledger.mem_outstanding_of_waiting hj) (congrArg some hnum.symm)

end Att1.Pcie
