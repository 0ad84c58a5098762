import Att1.Conformance.Exec

/-!
# Att1.Conformance.Ops — the command operations of an endpoint

* `ConformanceOps`: the command entries of `att1_aimu_conformance_ops`.
* `inprocOps`: those of an endpoint in the same process.
* `trackedOps`: the same on a queue that carries its ledger; the ledger is what the invariants speak about, and no
  operation reads it.
-/

open Att1.Lib

namespace Att1.Conformance

/-- The command entries of `att1_aimu_conformance_ops`: of a submit the descriptor afterwards, of a poll the
completion it stored. -/
structure ConformanceOps (σ : Type) where
  cmdSubmit : σ → AimuCmd → σ × Status × AimuCmd
  cmdDispatchOne : σ → σ × Status
  cmdPollCompletion : σ → σ × Status × Option AimuCompletion

variable {Ctx : Type}

/-- `inproc_cmd_submit`, `inproc_cmd_dispatch_one` and `inproc_cmd_poll_completion`. -/
def inprocOps : ConformanceOps (Cmdq Ctx) where
  cmdSubmit q cmd :=
    let r := q.submit (some cmd)
    (r.1, r.2.1, r.2.2.getD cmd)
  cmdDispatchOne q := q.dispatchOne
  cmdPollCompletion q := q.pollCompletion true

/-- A queue with its ledger. -/
structure Tracked (Ctx : Type) where
  queue : Cmdq Ctx
  ledger : Ledger AimuCmd AimuCompletion := {}

namespace Tracked

/-- A dispatch seen from the outside: how many commands have left their ring and which completions are new. -/
def serveTo (l : Ledger AimuCmd AimuCompletion) (q q' : Cmdq Ctx) : Ledger AimuCmd AimuCompletion :=
  l.serve (q.pendingCmds.length - q'.pendingCmds.length) (q'.completions.drop q.completions.length)

def submit (t : Tracked Ctx) (cmd : AimuCmd) : Tracked Ctx × Status × AimuCmd :=
  let r := t.queue.submit (some cmd)
  (⟨r.1, if r.2.1 = .ok then t.ledger.enter (r.2.2.getD cmd) else t.ledger⟩, r.2.1, r.2.2.getD cmd)

def dispatchOne (t : Tracked Ctx) : Tracked Ctx × Status :=
  let r := t.queue.dispatchOne
  (⟨r.1, serveTo t.ledger t.queue r.1⟩, r.2)

def pollCompletion (t : Tracked Ctx) : Tracked Ctx × Status × Option AimuCompletion :=
  let r := t.queue.pollCompletion true
  (⟨r.1, if r.2.1 = .ok then t.ledger.collect else t.ledger⟩, r.2)

/-- The ledger is up to date. -/
def Follows (t : Tracked Ctx) : Prop := Cmdq.Follows t.ledger t.queue

theorem serveTo_eq {l : Ledger AimuCmd AimuCompletion} {q q' : Cmdq Ctx} {taken : ℕ} {answers : List AimuCompletion}
    (h : Cmdq.Served q q' taken answers) : serveTo l q q' = l.serve taken answers := by
  have hle := h.taken_le
  unfold serveTo
  rw [h.pending, List.length_drop, h.completions, List.drop_left, Nat.sub_sub_self hle]

variable {t : Tracked Ctx} {cmd : AimuCmd}

theorem submit_accepted (ht : t.Follows) (h : t.queue.Accepts cmd) :
    ∃ q', t.submit cmd = (⟨q', t.ledger.enter (t.queue.storedCmd cmd)⟩, .ok, t.queue.storedCmd cmd) ∧
      Cmdq.Submitted t.queue cmd q' ∧ Follows ⟨q', t.ledger.enter (t.queue.storedCmd cmd)⟩ := by
  obtain ⟨q', hq, hs⟩ := Cmdq.submit_accepted ht.wellFormed h
  refine ⟨q', ?_, hs, Cmdq.Follows.enter ht hs⟩
  unfold submit
  simp only
  rw [hq]
  rfl

theorem submit_refused (ht : t.Follows) (h : ¬ t.queue.Accepts cmd) :
    ∃ q' status, t.submit cmd = (⟨q', t.ledger⟩, status, cmd) ∧ status ≠ .ok ∧ Cmdq.SameRings t.queue q' ∧
      Follows ⟨q', t.ledger⟩ := by
  obtain ⟨q', status, hq, hst, hs⟩ := Cmdq.submit_refused ht.wellFormed h
  refine ⟨q', status, ?_, hst, hs, Cmdq.Follows.same ht hs⟩
  unfold submit
  simp only
  rw [hq]
  simp only [Option.getD_some]
  rw [if_neg hst]

theorem submit_follows (ht : t.Follows) (cmd : AimuCmd) : (t.submit cmd).1.Follows := by
  by_cases h : t.queue.Accepts cmd
  · obtain ⟨q', heq, -, hf⟩ := submit_accepted ht h
    rw [heq]
    exact hf
  · obtain ⟨q', status, heq, -, -, hf⟩ := submit_refused ht h
    rw [heq]
    exact hf

theorem submit_hook (t : Tracked Ctx) (cmd : AimuCmd) : (t.submit cmd).1.queue.execHook = t.queue.execHook := by
  show (t.queue.submit (some cmd)).1.execHook = t.queue.execHook
  unfold Cmdq.submit
  simp only
  split_ifs
  · rfl
  · rfl
  · rfl

/-- Any number of dispatches. -/
theorem follows_served {q' : Cmdq Ctx} {taken : ℕ} {answers : List AimuCompletion} (ht : t.Follows)
    (h : Cmdq.Served t.queue q' taken answers) : Follows ⟨q', serveTo t.ledger t.queue q'⟩ := by
  rw [serveTo_eq h]
  exact Cmdq.Follows.serve ht h

theorem dispatchOne_follows (ht : t.Follows) (hk : Cmdq.KeepsDescriptor t.queue.execHook) :
    t.dispatchOne.1.Follows := by
  obtain ⟨taken, answers, hs, -⟩ := Cmdq.dispatchOne_served ht.wellFormed hk
  exact follows_served ht hs

theorem pollCompletion_cases (ht : t.Follows) :
    (t.queue.completions = [] ∧ t.pollCompletion = (t, .queueEmpty, none)) ∨
      ∃ comp q', t.pollCompletion = (⟨q', t.ledger.collect⟩, .ok, some comp) ∧ Cmdq.Polled t.queue comp q' ∧
        Follows ⟨q', t.ledger.collect⟩ := by
  obtain ⟨hnil, hempty⟩ | ⟨comp, q', hpoll, hs⟩ := Cmdq.pollCompletion_polled ht.wellFormed
  · refine Or.inl ⟨hnil, ?_⟩
    unfold pollCompletion
    simp only
    rw [hempty]
    rfl
  · refine Or.inr ⟨comp, q', ?_, hs, Cmdq.Follows.collect ht hs⟩
    unfold pollCompletion
    simp only
    rw [hpoll]
    rfl

end Tracked

/-- The operations of an endpoint in the same process, with the ledger. -/
def trackedOps : ConformanceOps (Tracked Ctx) where
  cmdSubmit t cmd := t.submit cmd
  cmdDispatchOne t := t.dispatchOne
  cmdPollCompletion t := t.pollCompletion

/-- The operations `ops'` are `ops` seen through `view`. -/
structure Projects {σ τ : Type} (ops : ConformanceOps σ) (ops' : ConformanceOps τ) (view : σ → τ) : Prop where
  submit : ∀ s cmd, ops'.cmdSubmit (view s) cmd = (view (ops.cmdSubmit s cmd).1, (ops.cmdSubmit s cmd).2)
  dispatchOne : ∀ s, ops'.cmdDispatchOne (view s) = (view (ops.cmdDispatchOne s).1, (ops.cmdDispatchOne s).2)
  pollCompletion : ∀ s,
    ops'.cmdPollCompletion (view s) = (view (ops.cmdPollCompletion s).1, (ops.cmdPollCompletion s).2)

/-- The ledger does not change what an operation does. -/
theorem trackedOps_projects : Projects trackedOps (@inprocOps Ctx) Tracked.queue :=
  ⟨fun _ _ => rfl, fun _ => rfl, fun _ => rfl⟩

end Att1.Conformance
