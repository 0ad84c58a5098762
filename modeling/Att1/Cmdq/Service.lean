import Att1.Cmdq.Rings
import Att1.Lib.Ledger

/-!
# Att1.Cmdq.Service — the command queue as a server of numbered jobs

Command ids wrap around after `2^32` submits, so a command is followed through the rings by a number that does not.

* `Accepts`, `storedCmd`: when a submit is accepted, and the descriptor that goes into the ring.
* `Served q q' taken answers`: what any number of dispatches does to the rings.
* `Follows l q`: the ledger `l` has the commands and completions of `q` with their numbers; each operation of the
  queue keeps it.
-/

open Att1.Lib

namespace Att1.Cmdq

variable {Ctx : Type} {q q' q'' : Cmdq Ctx} {cmd : AimuCmd}

/-- A submit of the command is accepted. -/
def Accepts (q : Cmdq Ctx) (cmd : AimuCmd) : Prop :=
  cmd.tileId.toUInt64 < q.config.tileCount ∧ q.cmdqUsed + 1 < q.config.cmdRingDepth

/-- The descriptor that an accepted submit stores. -/
def storedCmd (q : Cmdq Ctx) (cmd : AimuCmd) : AimuCmd :=
  let cmd := { cmd with commandId := q.nextCommandId, status := AimuResult.pending.code }
  { cmd with checksum := cmdChecksum cmd }

/-- All but the counters are the same. -/
structure SameRings (q q' : Cmdq Ctx) : Prop where
  wellFormed : WellFormed q'
  pending : q'.pendingCmds = q.pendingCmds
  completions : q'.completions = q.completions
  config : q'.config = q.config
  hook : q'.execHook = q.execHook
  ctx : q'.execHookCtx = q.execHookCtx
  nextId : q'.nextCommandId = q.nextCommandId

/-- What an accepted submit leaves. -/
structure Submitted (q : Cmdq Ctx) (cmd : AimuCmd) (q' : Cmdq Ctx) : Prop where
  wellFormed : WellFormed q'
  pending : q'.pendingCmds = q.pendingCmds ++ [q.storedCmd cmd]
  completions : q'.completions = q.completions
  config : q'.config = q.config
  hook : q'.execHook = q.execHook
  ctx : q'.execHookCtx = q.execHookCtx
  nextId : q'.nextCommandId = q.nextCommandId + 1

theorem submit_accepted (hw : WellFormed q) (h : q.Accepts cmd) :
    ∃ q', q.submit (some cmd) = (q', .ok, some (q.storedCmd cmd)) ∧ Submitted q cmd q' := by
  obtain ⟨k, hk⟩ := hw.cmdDepth
  have htile : ¬ q.config.tileCount ≤ cmd.tileId.toUInt64 := UInt64.not_le.mpr h.1
  have hfull : ¬ q.config.cmdRingDepth ≤ q.cmdqUsed + 1 := UInt64.not_le.mpr h.2
  have hroom := (maskedRoom_iff q.cmdHead q.cmdTail hk).not.mp hfull
  obtain ⟨hok, hpush⟩ := maskedWindow_push q.cmdRing hk hw.cmdOk (q.storedCmd cmd) (by omega)
  unfold submit
  simp only
  rw [if_neg htile, if_neg hfull]
  exact ⟨_, rfl, ⟨hw.cmdDepth, hw.compDepth, hok, hw.compOk⟩, hpush, rfl, rfl, rfl, rfl, rfl⟩

theorem submit_refused (hw : WellFormed q) (h : ¬ q.Accepts cmd) :
    ∃ q' status, q.submit (some cmd) = (q', status, some cmd) ∧ status ≠ .ok ∧ SameRings q q' := by
  have hkeep : WellFormed q := hw
  unfold submit
  simp only
  split_ifs with h1 h2
  · exact ⟨_, _, rfl, Status.noConfusion, ⟨hw.cmdDepth, hw.compDepth, hw.cmdOk, hw.compOk⟩, rfl, rfl, rfl, rfl, rfl, rfl⟩
  · exact ⟨_, _, rfl, Status.noConfusion, ⟨hw.cmdDepth, hw.compDepth, hw.cmdOk, hw.compOk⟩, rfl, rfl, rfl, rfl, rfl, rfl⟩
  · exact absurd ⟨UInt64.not_le.mp h1, UInt64.not_le.mp h2⟩ h

/-! ### Dispatch -/

/-- A hook that does not touch the descriptor. -/
def KeepsDescriptor (hook : Option (ExecHook Ctx)) : Prop :=
  ∀ ctx cmd, (runCmd hook ctx cmd).2.1 = cmd

/-- The first `taken` commands have left their ring and `answers` are the completions written for them. -/
structure Served (q q' : Cmdq Ctx) (taken : ℕ) (answers : List AimuCompletion) : Prop where
  wellFormed : WellFormed q'
  config : q'.config = q.config
  hook : q'.execHook = q.execHook
  nextId : q'.nextCommandId = q.nextCommandId
  taken_le : taken ≤ q.pendingCmds.length
  pending : q'.pendingCmds = q.pendingCmds.drop taken
  completions : q'.completions = q.completions ++ answers
  short : answers.length ≤ taken
  ids : answers.map AimuCompletion.ids = (q.pendingCmds.take answers.length).map AimuCmd.ids

theorem writeCompletion_nextCommandId (q : Cmdq Ctx) (cmd : AimuCmd) (result : AimuResult) :
    (q.writeCompletion cmd result).1.nextCommandId = q.nextCommandId := by
  unfold writeCompletion
  by_cases hfull : q.config.compRingDepth ≤ q.compqUsed + 1
  · rw [if_pos hfull]
  · rw [if_neg hfull]

theorem finishDispatch_nextCommandId (result : AimuResult) (r : Cmdq Ctx × Status) :
    (finishDispatch result r).1.nextCommandId = r.1.nextCommandId := by
  obtain ⟨q, status⟩ := r
  cases status <;> rfl

theorem dispatchOne_nextCommandId (q : Cmdq Ctx) : q.dispatchOne.1.nextCommandId = q.nextCommandId := by
  unfold dispatchOne
  split_ifs
  · rfl
  · simp only
    rw [finishDispatch_nextCommandId, writeCompletion_nextCommandId]

theorem Served.refl (hw : WellFormed q) : Served q q 0 [] :=
  ⟨hw, rfl, rfl, rfl, Nat.zero_le _, rfl, (List.append_nil _).symm, le_rfl, rfl⟩

/-- One dispatch. -/
theorem dispatchOne_served (hw : WellFormed q) (hk : KeepsDescriptor q.execHook) :
    ∃ taken answers, Served q q.dispatchOne.1 taken answers ∧
      ((q.pendingCmds = [] ∧ q.dispatchOne.2 = .queueEmpty ∧ taken = 0 ∧ answers = []) ∨
        ∃ cmd rest, q.pendingCmds = cmd :: rest ∧ taken = 1 ∧
          q.dispatchOne.1.execHookCtx = (runCmd q.execHook q.execHookCtx cmd).1 ∧
          ((q.compRoom ≠ 0 ∧ q.dispatchOne.2 = .ok ∧
              ∃ comp, answers = [comp] ∧ comp.resultCode = (runCmd q.execHook q.execHookCtx cmd).2.2.code) ∨
            (q.compRoom = 0 ∧ q.dispatchOne.2 = .queueFull ∧ answers = []))) := by
  rcases dispatchOne_cases hw with
    ⟨hnil, hempty⟩ | ⟨cmd, rest, hd, ⟨hroom, hst, comp, hids, hcode, hcomp⟩ | ⟨hroom, hst, hcomp⟩⟩
  · refine ⟨0, [], ?_, Or.inl ⟨hnil, ?_, rfl, rfl⟩⟩
    · rw [hempty]
      exact Served.refl hw
    · rw [hempty]
  · have hpend : q.dispatchOne.1.pendingCmds = q.pendingCmds.drop 1 := by
      rw [hd.pending', hd.pending]
      rfl
    have hlen : 1 ≤ q.pendingCmds.length := by
      rw [hd.pending]
      exact Nat.succ_pos _
    refine ⟨1, [comp], ⟨hd.wellFormed, hd.config, hd.hook, dispatchOne_nextCommandId q, hlen, hpend, hcomp, le_rfl, ?_⟩,
      Or.inr ⟨cmd, rest, hd.pending, rfl, hd.ctx, Or.inl ⟨hroom, hst, comp, rfl, hcode⟩⟩⟩
    rw [hk] at hids
    rw [hd.pending]
    exact congrArg (fun i => [i]) hids
  · have hpend : q.dispatchOne.1.pendingCmds = q.pendingCmds.drop 1 := by
      rw [hd.pending', hd.pending]
      rfl
    have hlen : 1 ≤ q.pendingCmds.length := by
      rw [hd.pending]
      exact Nat.succ_pos _
    refine ⟨1, [], ⟨hd.wellFormed, hd.config, hd.hook, dispatchOne_nextCommandId q, hlen, hpend, ?_, Nat.zero_le _, rfl⟩,
      Or.inr ⟨cmd, rest, hd.pending, rfl, hd.ctx, Or.inr ⟨hroom, hst, rfl⟩⟩⟩
    rw [hcomp, List.append_nil]

/-- A dispatch that wrote its completion, and those behind it. -/
theorem Served.cons {taken : ℕ} {comp : AimuCompletion} {answers : List AimuCompletion} (h : Served q q' 1 [comp])
    (h' : Served q' q'' taken answers) : Served q q'' (taken + 1) (comp :: answers) := by
  obtain ⟨cmd, rest, hpend⟩ : ∃ cmd rest, q.pendingCmds = cmd :: rest := by
    cases hq : q.pendingCmds with
    | nil =>
      have hlen := h.taken_le
      rw [hq] at hlen
      cases hlen
    | cons cmd rest => exact ⟨cmd, rest, rfl⟩
  have hrest : q'.pendingCmds = rest := by
    rw [h.pending, hpend]
    rfl
  have hids := h'.ids
  have hle := h'.taken_le
  have hdrop := h'.pending
  rw [hrest] at hids hle hdrop
  have hfirst := h.ids
  rw [hpend] at hfirst
  refine ⟨h'.wellFormed, h'.config.trans h.config, h'.hook.trans h.hook, h'.nextId.trans h.nextId, ?_, ?_, ?_,
    Nat.succ_le_succ h'.short, ?_⟩
  · rw [hpend]
    exact Nat.succ_le_succ hle
  · rw [hdrop, hpend]
    rfl
  · rw [h'.completions, h.completions, List.append_assoc]
    rfl
  · rw [hpend]
    show comp.ids :: answers.map AimuCompletion.ids = cmd.ids :: (rest.take answers.length).map AimuCmd.ids
    rw [hids, (List.cons.inj hfirst).1]

theorem dispatchAllLoop_served (hw : WellFormed q) (hk : KeepsDescriptor q.execHook) {fuel : ℕ} {r : Cmdq Ctx × Status}
    (h : dispatchAllLoop fuel q = some r) : ∃ taken answers, Served q r.1 taken answers := by
  induction fuel generalizing q with
  | zero => cases h
  | succ fuel ih =>
    unfold dispatchAllLoop at h
    obtain ⟨taken, answers, hs, ⟨-, hst, rfl, rfl⟩ | ⟨cmd, rest, -, rfl, -, ⟨-, hst, comp, rfl, -⟩ | ⟨-, hst, rfl⟩⟩⟩ :=
      dispatchOne_served hw hk
    · rw [← Prod.mk.eta (p := q.dispatchOne), hst] at h
      obtain rfl := Option.some.inj h
      exact ⟨0, [], hs⟩
    · rw [← Prod.mk.eta (p := q.dispatchOne), hst] at h
      obtain ⟨taken, answers, hs'⟩ := ih hs.wellFormed (hs.hook ▸ hk) h
      exact ⟨taken + 1, comp :: answers, hs.cons hs'⟩
    · rw [← Prod.mk.eta (p := q.dispatchOne), hst] at h
      obtain rfl := Option.some.inj h
      exact ⟨1, [], hs⟩

/-! ### Poll -/

/-- What a poll that returns a completion leaves. -/
structure Polled (q : Cmdq Ctx) (comp : AimuCompletion) (q' : Cmdq Ctx) : Prop where
  wellFormed : WellFormed q'
  pending : q'.pendingCmds = q.pendingCmds
  completions : q.completions = comp :: q'.completions
  config : q'.config = q.config
  hook : q'.execHook = q.execHook
  ctx : q'.execHookCtx = q.execHookCtx
  nextId : q'.nextCommandId = q.nextCommandId

theorem pollCompletion_polled (hw : WellFormed q) :
    (q.completions = [] ∧ q.pollCompletion true = (q, .queueEmpty, none)) ∨
      ∃ comp q', q.pollCompletion true = (q', .ok, some comp) ∧ Polled q comp q' := by
  obtain ⟨hw', hpend, hcases⟩ := pollCompletion_cases hw true
  by_cases hempty : q.compqUsed = 0
  · left
    refine ⟨?_, ?_⟩
    · rw [← List.length_eq_zero_iff, length_completions, hempty]
      rfl
    · unfold pollCompletion
      rw [if_neg Bool.noConfusion, if_pos hempty]
  · right
    have hpoll : ∃ comp q', q.pollCompletion true = (q', .ok, some comp) ∧ q'.config = q.config ∧
        q'.execHook = q.execHook ∧ q'.execHookCtx = q.execHookCtx ∧ q'.nextCommandId = q.nextCommandId := by
      unfold pollCompletion
      rw [if_neg Bool.noConfusion, if_neg hempty]
      exact ⟨_, _, rfl, rfl, rfl, rfl, rfl⟩
    obtain ⟨comp, q', hpoll, hconfig, hhook, hctx, hid⟩ := hpoll
    rw [hpoll] at hw' hpend hcases
    obtain ⟨comp', heq, hcomp⟩ | ⟨hnone, -⟩ := hcases
    · obtain rfl := Option.some.inj (Prod.mk.inj heq).2
      exact ⟨comp, q', hpoll, hw', hpend, hcomp, hconfig, hhook, hctx, hid⟩
    · cases hnone

/-! ### The ledger -/

/-- The commands and the completions of the queue, with their numbers. -/
structure Follows (l : Ledger AimuCmd AimuCompletion) (q : Cmdq Ctx) : Prop where
  wellFormed : WellFormed q
  numbered : l.Numbered
  waiting : l.waiting.map Prod.snd = q.pendingCmds
  answered : l.answered.map Prod.snd = q.completions
  ids : ∀ x ∈ l.answered, x.2.ids = x.1.2.ids

variable {l : Ledger AimuCmd AimuCompletion}

theorem Follows.same (h : Follows l q) (hs : SameRings q q') : Follows l q' :=
  ⟨hs.wellFormed, h.numbered, h.waiting.trans hs.pending.symm, h.answered.trans hs.completions.symm, h.ids⟩

theorem Follows.enter (h : Follows l q) (hs : Submitted q cmd q') : Follows (l.enter (q.storedCmd cmd)) q' := by
  refine ⟨hs.wellFormed, h.numbered.enter _, ?_, h.answered.trans hs.completions.symm, h.ids⟩
  unfold Ledger.enter
  rw [List.map_append, h.waiting, hs.pending]
  rfl

theorem Follows.serve {taken : ℕ} {answers : List AimuCompletion} (h : Follows l q)
    (hs : Served q q' taken answers) : Follows (l.serve taken answers) q' := by
  have hlen : (l.waiting.take taken).length = taken := by
    have hwait : l.waiting.length = q.pendingCmds.length := by
      rw [← h.waiting]
      exact List.length_map Prod.snd |>.symm
    rw [List.length_take, hwait]
    exact min_eq_left hs.taken_le
  refine ⟨hs.wellFormed, h.numbered.serve _ _, ?_, ?_, ?_⟩
  · unfold Ledger.serve
    rw [List.map_drop, h.waiting, hs.pending]
  · unfold Ledger.serve
    rw [List.map_append, h.answered, hs.completions, List.map_snd_zip]
    rw [hlen]
    exact hs.short
  · intro x hx
    obtain hx | hx := List.mem_append.mp hx
    · exact h.ids x hx
    · -- the completion at some place of the answers is that of the command at this place
      obtain ⟨i, hi, rfl⟩ := List.mem_iff_getElem.mp hx
      have hi' := hi
      rw [List.length_zip, lt_min_iff, hlen] at hi'
      have hans : (answers.map AimuCompletion.ids)[i]? = some answers[i].ids := by
        rw [List.getElem?_map, List.getElem?_eq_getElem hi'.2]
        rfl
      have hcmd : ((q.pendingCmds.take answers.length).map AimuCmd.ids)[i]? =
          some (((l.waiting.take taken).zip answers)[i]).1.2.ids := by
        rw [List.getElem?_map, List.getElem?_take_of_lt hi'.2, ← h.waiting, List.getElem?_map]
        simp only [List.getElem_zip, List.getElem_take]
        rw [List.getElem?_eq_getElem]
        rfl
      rw [hs.ids, hcmd, List.getElem_zip] at hans
      rw [List.getElem_zip]
      exact (Option.some.inj hans).symm

theorem Follows.collect {comp : AimuCompletion} (h : Follows l q) (hs : Polled q comp q') : Follows l.collect q' := by
  have hcomp := h.answered.trans hs.completions
  refine ⟨hs.wellFormed, h.numbered.collect, h.waiting.trans hs.pending.symm, ?_, ?_⟩
  · unfold Ledger.collect
    rw [List.map_tail, hcomp]
    rfl
  · intro x hx
    exact h.ids x (List.mem_of_mem_tail hx)

/-- The completion that a poll returns is that of the job whose answer is next. -/
theorem Follows.polled {comp : AimuCompletion} (h : Follows l q) (hs : Polled q comp q') :
    ∃ j, l.answered = (j, comp) :: l.collect.answered ∧ comp.ids = j.2.ids := by
  have hcomp := h.answered.trans hs.completions
  cases ha : l.answered with
  | nil =>
    rw [ha] at hcomp
    cases hcomp
  | cons x rest =>
    rw [ha] at hcomp
    obtain ⟨rfl, -⟩ := List.cons.inj hcomp
    refine ⟨x.1, ?_, h.ids x ?_⟩
    · unfold Ledger.collect
      rw [ha]
      rfl
    · rw [ha]
      exact List.mem_cons_self

end Att1.Cmdq
