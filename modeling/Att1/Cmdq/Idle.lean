import Att1.Cmdq.Counters

/-!
# Att1.Cmdq.Idle — one command at a time

A queue without a hook that is idle between two commands: a submit is accepted, the dispatch answers it and the poll
returns that answer (`Idle.wentThrough`), after which the queue is idle again.
-/

open Att1.Lib

namespace Att1

variable {Ctx : Type}

/-- The codes of `att1_aimu_cmd_type`. -/
def AimuCmdType.code : AimuCmdType → UInt8
  | .nop => 0x00
  | .loadTensorTile => 0x01
  | .validateTensor => 0x02
  | .execMatmul => 0x10
  | .execRmsnorm => 0x11
  | .execRope => 0x12
  | .execAttention => 0x13
  | .execFfn => 0x14
  | .kvAppend => 0x20
  | .kvRead => 0x21
  | .fabricSend => 0x30
  | .fabricReduce => 0x31
  | .traceSnapshot => 0x40
  | .tileBarrier => 0x41
  | .resetTile => 0x50
  | .queryCounters => 0x51

theorem AimuCmdType.ofCode_code (ctype : AimuCmdType) : AimuCmdType.ofCode ctype.code = some ctype := by
  cases ctype <;> rfl

namespace Cmdq

variable {q : Cmdq Ctx} {cmd : AimuCmd}

/-- Both rings are empty, they have room, and there is no hook. -/
structure Idle (q : Cmdq Ctx) : Prop where
  cmds : q.cmdTail = q.cmdHead
  comps : q.compTail = q.compHead
  cmdDepth : q.config.cmdRingDepth = 64
  compDepth : q.config.compRingDepth = 64
  hook : q.execHook = none

/-- What the queue answers to a command when it has no hook. -/
def answerOf (cmd : AimuCmd) : AimuResult :=
  match AimuCmdType.ofCode cmd.commandType with
  | none => .errInvalidCommand
  | some ctype => if hooked ctype then .errUnsupportedOp else .ok

theorem runCmd_none (ctx : Ctx) (cmd : AimuCmd) : runCmd none ctx cmd = (ctx, cmd, answerOf cmd) := by
  unfold runCmd answerOf
  cases AimuCmdType.ofCode cmd.commandType with
  | none => rfl
  | some ctype =>
    dsimp only
    split_ifs <;> rfl

/-- How far a command moves the fence. -/
def fenceStep (cmd : AimuCmd) : UInt64 := if cmd.completionFenceId ≠ 0 then 1 else 0

theorem Idle.room (h : Idle q) : ¬ q.config.cmdRingDepth ≤ q.cmdqUsed + 1 := by
  unfold cmdqUsed
  rw [h.cmds, h.cmdDepth, UInt64.sub_self]
  decide

theorem Idle.compRoom (h : Idle q) : ¬ q.config.compRingDepth ≤ q.compqUsed + 1 := by
  unfold compqUsed
  rw [h.comps, h.compDepth, UInt64.sub_self]
  decide

/-- The descriptor that is waiting, alone. -/
structure Waiting (q : Cmdq Ctx) (stored : AimuCmd) : Prop where
  cmds : q.cmdTail = q.cmdHead + 1
  head : q.headCmd = stored
  comps : q.compTail = q.compHead
  cmdDepth : q.config.cmdRingDepth = 64
  compDepth : q.config.compRingDepth = 64
  hook : q.execHook = none

/-- The completion that is waiting, alone. -/
structure Answered (q : Cmdq Ctx) (comp : AimuCompletion) : Prop where
  cmds : q.cmdTail = q.cmdHead
  head : q.compRing (q.compHead &&& (q.config.compRingDepth - 1)).toNat = comp
  comps : q.compTail = q.compHead + 1
  cmdDepth : q.config.cmdRingDepth = 64
  compDepth : q.config.compRingDepth = 64
  hook : q.execHook = none

/-- The completion of a command. -/
def completionOf (stored : AimuCmd) (fence : UInt64) : AimuCompletion where
  commandId := stored.commandId
  tileId := stored.tileId
  sessionId := stored.sessionId
  resultCode := (answerOf stored).code
  fenceValue := if stored.completionFenceId ≠ 0 then (fence + 1).toUInt32 else 0

/-- The counters after a command was dispatched. -/
def countDispatch (cmd : AimuCmd) (c : CmdqCounters) : CmdqCounters :=
  let c := countRun cmd (answerOf cmd) c
  countResult (answerOf cmd)
    { c with fenceValue := if cmd.completionFenceId ≠ 0 then c.fenceValue + 1 else c.fenceValue }

theorem Idle.submit (h : Idle q) (htile : cmd.tileId.toUInt64 < q.config.tileCount) :
    ∃ q', q.submit (some cmd) = (q', .ok, some (q.storedCmd cmd)) ∧ Waiting q' (q.storedCmd cmd) ∧
      q'.config = q.config ∧
      q'.counters = { q.counters with commandsSubmitted := q.counters.commandsSubmitted + 1 } := by
  unfold Cmdq.submit
  simp only
  rw [if_neg (UInt64.not_le.mpr htile), if_neg h.room]
  refine ⟨_, rfl, ⟨congrArg (· + 1) h.cmds, ?_, h.comps, h.cmdDepth, h.compDepth, h.hook⟩, rfl, rfl⟩
  unfold headCmd
  rw [h.cmds]
  exact Function.update_self _ _ _

theorem Waiting.dispatchOne {stored : AimuCmd} (h : Waiting q stored) :
    ∃ q', q.dispatchOne = (q', .ok) ∧
      Answered q' (completionOf stored (countRun stored (answerOf stored) q.counters).fenceValue) ∧
      q'.config = q.config ∧ q'.counters = countDispatch stored q.counters := by
  have hused : q.cmdqUsed ≠ 0 := by
    unfold cmdqUsed
    rw [h.cmds, h.cmdDepth, UInt64.add_comm, UInt64.add_sub_cancel]
    decide
  have hrun : q.headRun = (q.execHookCtx, stored, answerOf stored) := by
    unfold headRun
    rw [h.hook, h.head, runCmd_none]
  have hroom : ¬ q.popped.config.compRingDepth ≤ q.popped.compqUsed + 1 := by
    unfold compqUsed
    show ¬ q.config.compRingDepth ≤ ((q.compTail - q.compHead) &&& (q.config.compRingDepth - 1)) + 1
    rw [h.comps, h.compDepth, UInt64.sub_self]
    decide
  rw [dispatchOne_eq hused]
  unfold writeCompletion
  rw [if_neg hroom, hrun]
  refine ⟨_, rfl, ⟨h.cmds, ?_, congrArg (· + 1) h.comps, h.cmdDepth, h.compDepth, h.hook⟩, rfl, ?_⟩
  · show Function.update q.compRing (q.compTail &&& (q.config.compRingDepth - 1)).toNat _
      (q.compHead &&& (q.config.compRingDepth - 1)).toNat = _
    rw [h.comps, Function.update_self]
    unfold popped completionOf
    rw [hrun, h.head]
    dsimp only
    split_ifs <;> rfl
  · unfold popped countDispatch
    rw [hrun, h.head]

theorem Answered.pollCompletion {comp : AimuCompletion} (h : Answered q comp) :
    ∃ q', q.pollCompletion true = (q', .ok, some comp) ∧ Idle q' ∧ q'.config = q.config ∧ q'.counters = q.counters := by
  have hused : q.compqUsed ≠ 0 := by
    unfold compqUsed
    rw [h.comps, h.compDepth, UInt64.add_comm, UInt64.add_sub_cancel]
    decide
  unfold Cmdq.pollCompletion
  rw [if_neg Bool.noConfusion, if_neg hused]
  dsimp only
  rw [h.head]
  exact ⟨_, rfl, ⟨h.cmds, h.comps, h.cmdDepth, h.compDepth, h.hook⟩, rfl, rfl⟩

theorem countDispatch_submitted (cmd : AimuCmd) (c : CmdqCounters) :
    (countDispatch cmd c).commandsSubmitted = c.commandsSubmitted := by
  unfold countDispatch
  rw [countResult_submitted]
  exact countRun_submitted _ _ _

theorem countDispatch_completed (cmd : AimuCmd) (c : CmdqCounters) :
    (countDispatch cmd c).commandsCompleted = c.commandsCompleted + completedBy (answerOf cmd) := by
  unfold countDispatch
  rw [countResult_completed]
  exact congrArg (· + completedBy (answerOf cmd)) (countRun_completed _ _ _)

theorem countRun_fenceValue (cmd : AimuCmd) (result : AimuResult) (c : CmdqCounters) :
    (countRun cmd result c).fenceValue = c.fenceValue := by
  unfold countRun
  split
  · rfl
  · split_ifs <;> rfl

theorem countDispatch_fenceValue (cmd : AimuCmd) (c : CmdqCounters) :
    (countDispatch cmd c).fenceValue = if cmd.completionFenceId ≠ 0 then c.fenceValue + 1 else c.fenceValue := by
  unfold countDispatch countResult
  simp only [countRun_fenceValue]
  split_ifs <;> rfl

/-- **The way of a command through an idle queue.**  It is accepted, dispatched and answered, and the queue is idle
again. -/
theorem Idle.wentThrough (h : Idle q) (htile : cmd.tileId.toUInt64 < q.config.tileCount) :
    ∃ q₁ q₂ q₃ comp, q.submit (some cmd) = (q₁, .ok, some (q.storedCmd cmd)) ∧ q₁.dispatchOne = (q₂, .ok) ∧
      q₂.pollCompletion true = (q₃, .ok, some comp) ∧ comp = completionOf (q.storedCmd cmd) q.counters.fenceValue ∧
      Idle q₃ ∧ q₃.config = q.config ∧ q₃.counters = countDispatch (q.storedCmd cmd)
        { q.counters with commandsSubmitted := q.counters.commandsSubmitted + 1 } := by
  obtain ⟨q₁, hsubmit, hwaiting, hconfig₁, hcounters₁⟩ := h.submit htile
  obtain ⟨q₂, hdispatch, hanswered, hconfig₂, hcounters₂⟩ := hwaiting.dispatchOne
  obtain ⟨q₃, hpoll, hidle, hconfig₃, hcounters₃⟩ := hanswered.pollCompletion
  refine ⟨q₁, q₂, q₃, _, hsubmit, hdispatch, hpoll, ?_, hidle, hconfig₃.trans (hconfig₂.trans hconfig₁), ?_⟩
  · rw [countRun_fenceValue, hcounters₁]
  · rw [hcounters₃, hcounters₂, hcounters₁]

end Cmdq

end Att1
