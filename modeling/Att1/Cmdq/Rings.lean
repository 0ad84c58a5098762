import Att1.Cmdq.Model
import Att1.Lib.Ring

/-!
# Att1.Cmdq.Rings — the two rings of the command queue as lists

* `pendingCmds q`, `completions q`: the commands waiting in the command ring and the completions waiting in the
  completion ring, oldest first.
* `WellFormed q`: both depths are powers of two and each tail is less than a turn ahead of its head.
* `outstanding q`: the ids of the completions in their ring followed by those of the pending commands.
* one lemma for each operation: `submit_cases`, `dispatchOne_cases`, `dispatchAllLoop_spec`, `pollCompletion_cases`.
-/

open Att1.Lib

namespace Att1

/-- What identifies a command to the host. -/
structure CmdIds where
  commandId : UInt32
  tileId : UInt8
  sessionId : UInt8
  deriving DecidableEq, Repr

def AimuCmd.ids (cmd : AimuCmd) : CmdIds := ⟨cmd.commandId, cmd.tileId, cmd.sessionId⟩

def AimuCompletion.ids (comp : AimuCompletion) : CmdIds := ⟨comp.commandId, comp.tileId, comp.sessionId⟩

namespace Cmdq

variable {Ctx : Type} {q : Cmdq Ctx}

/-- The commands in the command ring, oldest first. -/
def pendingCmds (q : Cmdq Ctx) : List AimuCmd :=
  maskedWindow q.cmdRing q.config.cmdRingDepth q.cmdHead q.cmdTail

/-- The completions in the completion ring, oldest first. -/
def completions (q : Cmdq Ctx) : List AimuCompletion :=
  maskedWindow q.compRing q.config.compRingDepth q.compHead q.compTail

/-- The ids of all commands between submission and poll, in order. -/
def outstanding (q : Cmdq Ctx) : List CmdIds :=
  q.completions.map AimuCompletion.ids ++ q.pendingCmds.map AimuCmd.ids

/-- How many completions still fit: a ring holds one entry less than it has slots. -/
def compRoom (q : Cmdq Ctx) : ℕ := q.config.compRingDepth.toNat - 1 - q.completions.length

/-- The invariant of the two rings. -/
structure WellFormed (q : Cmdq Ctx) : Prop where
  cmdDepth : ∃ k, q.config.cmdRingDepth.toNat = 2 ^ k
  compDepth : ∃ k, q.config.compRingDepth.toNat = 2 ^ k
  cmdOk : MaskedOk q.config.cmdRingDepth q.cmdHead q.cmdTail
  compOk : MaskedOk q.config.compRingDepth q.compHead q.compTail

/-- The hook, run over a batch of commands in order, leaves the ids of each descriptor alone. -/
def KeepsIds (hook : Option (ExecHook Ctx)) : Ctx → List AimuCmd → Prop
  | _, [] => True
  | ctx, cmd :: rest =>
    (runCmd hook ctx cmd).2.1.ids = cmd.ids ∧ KeepsIds hook (runCmd hook ctx cmd).1 rest

/-- A batch of commands can be dispatched: its completions fit and carry the ids of their commands. -/
def Fits (q : Cmdq Ctx) (batch : List AimuCmd) : Prop :=
  batch.length ≤ q.compRoom ∧ KeepsIds q.execHook q.execHookCtx batch

/-! ### Creation -/

theorem isPowerOfTwo_pow {n : UInt64} (h : isPowerOfTwo n = true) : ∃ k, n.toNat = 2 ^ k := by
  unfold isPowerOfTwo at h
  rw [Bool.and_eq_true, decide_eq_true_iff, decide_eq_true_iff] at h
  exact pow_two_of_mask h.1 h.2

/-- A created queue is well formed and holds nothing. -/
theorem create_ok {host : Host} {nullCtx : Ctx} {config : Option CmdqConfig}
    (h : create host nullCtx config = .ok q) : WellFormed q ∧ q.pendingCmds = [] ∧ q.completions = [] := by
  unfold create at h
  simp only at h
  split_ifs at h with h1 h2 h3 h4 h5 h6
  injection h with h
  subst h
  rw [not_or, not_not] at h2 h3
  obtain ⟨k, hk⟩ := isPowerOfTwo_pow h2.1
  obtain ⟨l, hl⟩ := isPowerOfTwo_pow h3.1
  obtain ⟨hcmd, hcmd0⟩ := maskedOk_self hk 0
  obtain ⟨hcomp, hcomp0⟩ := maskedOk_self hl 0
  refine ⟨⟨⟨k, hk⟩, ⟨l, hl⟩, hcmd, hcomp⟩, ?_, ?_⟩
  · rw [← List.length_eq_zero_iff, pendingCmds, length_maskedWindow, hcmd0]
  · rw [← List.length_eq_zero_iff, completions, length_maskedWindow, hcomp0]

/-! ### Submit -/

theorem length_pendingCmds (q : Cmdq Ctx) : q.pendingCmds.length = q.cmdqUsed.toNat := length_maskedWindow _ _ _ _

theorem length_completions (q : Cmdq Ctx) : q.completions.length = q.compqUsed.toNat := length_maskedWindow _ _ _ _

/-- A submit either appends the descriptor it hands back or leaves both rings alone. -/
theorem submit_cases (hw : WellFormed q) (cmd : Option AimuCmd) :
    WellFormed (q.submit cmd).1 ∧ (q.submit cmd).1.completions = q.completions ∧
      ((∃ stored, (q.submit cmd).2 = (.ok, some stored) ∧
          (q.submit cmd).1.pendingCmds = q.pendingCmds ++ [stored]) ∨
        ((q.submit cmd).2.1 ≠ .ok ∧ (q.submit cmd).1.pendingCmds = q.pendingCmds)) := by
  obtain ⟨k, hk⟩ := hw.cmdDepth
  cases cmd with
  | none => exact ⟨hw, rfl, Or.inr ⟨by simp [submit], rfl⟩⟩
  | some cmd =>
    unfold submit
    simp only
    split_ifs with h1 h2
    · exact ⟨⟨hw.cmdDepth, hw.compDepth, hw.cmdOk, hw.compOk⟩, rfl, Or.inr ⟨by simp, rfl⟩⟩
    · exact ⟨⟨hw.cmdDepth, hw.compDepth, hw.cmdOk, hw.compOk⟩, rfl, Or.inr ⟨by simp, rfl⟩⟩
    · have hroom := (maskedRoom_iff _ _ hk).not.mp h2
      obtain ⟨hok, hpush⟩ := maskedWindow_push q.cmdRing hk hw.cmdOk
        { cmd with
          commandId := q.nextCommandId
          status := AimuResult.pending.code
          checksum := cmdChecksum
            { cmd with commandId := q.nextCommandId, status := AimuResult.pending.code } } (by omega)
      exact ⟨⟨hw.cmdDepth, hw.compDepth, hok, hw.compOk⟩, rfl, Or.inl ⟨_, rfl, hpush⟩⟩

/-! ### Completions -/

theorem compRoom_eq_zero (hw : WellFormed q) :
    q.compRoom = 0 ↔ q.config.compRingDepth ≤ q.compqUsed + 1 := by
  obtain ⟨k, hk⟩ := hw.compDepth
  have hroom := maskedRoom_iff q.compHead q.compTail hk
  unfold compRoom
  rw [length_completions]
  unfold compqUsed
  unfold maskedUsed at hroom
  rw [hroom]
  omega

/-- A completion is either appended or, when its ring is full, dropped. -/
theorem writeCompletion_cases (hw : WellFormed q) (cmd : AimuCmd) (result : AimuResult) :
    WellFormed (q.writeCompletion cmd result).1 ∧
      (q.writeCompletion cmd result).1.pendingCmds = q.pendingCmds ∧
      (q.writeCompletion cmd result).1.execHook = q.execHook ∧
      (q.writeCompletion cmd result).1.execHookCtx = q.execHookCtx ∧
      (q.writeCompletion cmd result).1.config = q.config ∧
      ((q.compRoom ≠ 0 ∧ (q.writeCompletion cmd result).2 = .ok ∧
          ∃ comp, comp.ids = cmd.ids ∧ comp.resultCode = result.code ∧
            (q.writeCompletion cmd result).1.completions = q.completions ++ [comp]) ∨
        (q.compRoom = 0 ∧ (q.writeCompletion cmd result).2 = .queueFull ∧
          (q.writeCompletion cmd result).1.completions = q.completions)) := by
  obtain ⟨k, hk⟩ := hw.compDepth
  have hzero := compRoom_eq_zero hw
  unfold writeCompletion
  by_cases hfull : q.config.compRingDepth ≤ q.compqUsed + 1
  · rw [if_pos hfull]
    exact ⟨⟨hw.cmdDepth, hw.compDepth, hw.cmdOk, hw.compOk⟩, rfl, rfl, rfl, rfl,
      Or.inr ⟨hzero.mpr hfull, rfl, rfl⟩⟩
  · rw [if_neg hfull]
    have hroom := (maskedRoom_iff _ _ hk).not.mp hfull
    obtain ⟨hok, hpush⟩ := maskedWindow_push q.compRing hk hw.compOk
      { commandId := cmd.commandId
        tileId := cmd.tileId
        sessionId := cmd.sessionId
        resultCode := result.code
        fenceValue :=
          if cmd.completionFenceId ≠ 0 then
            (if cmd.completionFenceId ≠ 0 then q.counters.fenceValue + 1
              else q.counters.fenceValue).toUInt32
          else 0 } (by omega)
    exact ⟨⟨hw.cmdDepth, hw.compDepth, hw.cmdOk, hok⟩, rfl, rfl, rfl, rfl,
      Or.inl ⟨fun h => hfull (hzero.mp h), rfl, _, rfl, rfl, hpush⟩⟩

/-- A poll either takes the oldest completion or leaves both rings alone. -/
theorem pollCompletion_cases (hw : WellFormed q) (out : Bool) :
    WellFormed (q.pollCompletion out).1 ∧ (q.pollCompletion out).1.pendingCmds = q.pendingCmds ∧
      ((∃ comp, (q.pollCompletion out).2 = (.ok, some comp) ∧
          q.completions = comp :: (q.pollCompletion out).1.completions) ∨
        ((q.pollCompletion out).2.2 = none ∧ (q.pollCompletion out).1.completions = q.completions)) := by
  obtain ⟨k, hk⟩ := hw.compDepth
  unfold pollCompletion
  split_ifs with h1 h2
  · exact ⟨hw, rfl, Or.inr ⟨rfl, rfl⟩⟩
  · exact ⟨hw, rfl, Or.inr ⟨rfl, rfl⟩⟩
  · have hne : (maskedUsed q.config.compRingDepth q.compHead q.compTail).toNat ≠ 0 := fun h0 =>
      h2 (UInt64.toNat_inj.mp h0)
    obtain ⟨hok, -, hpop⟩ := maskedWindow_pop q.compRing hk hw.compOk hne
      (q.compRing (q.compHead &&& (q.config.compRingDepth - 1)).toNat)
    rw [Function.update_eq_self] at hpop
    exact ⟨⟨hw.cmdDepth, hw.compDepth, hw.cmdOk, hok⟩, rfl, Or.inl ⟨_, rfl, hpop⟩⟩

/-! ### Dispatch -/

/-- What dispatching the command `cmd` from the front of the command ring does to the rings. -/
structure Dispatched (q : Cmdq Ctx) (cmd : AimuCmd) (rest : List AimuCmd) (q' : Cmdq Ctx) : Prop where
  wellFormed : WellFormed q'
  config : q'.config = q.config
  hook : q'.execHook = q.execHook
  ctx : q'.execHookCtx = (runCmd q.execHook q.execHookCtx cmd).1
  pending : q.pendingCmds = cmd :: rest
  pending' : q'.pendingCmds = rest

/-- The descriptor at the head of the command ring. -/
def headCmd (q : Cmdq Ctx) : AimuCmd := q.cmdRing (q.cmdHead &&& (q.config.cmdRingDepth - 1)).toNat

/-- What running it leaves. -/
def headRun (q : Cmdq Ctx) : Ctx × AimuCmd × AimuResult := runCmd q.execHook q.execHookCtx q.headCmd

/-- The queue its completion is written to. -/
def popped (q : Cmdq Ctx) : Cmdq Ctx :=
  { q with
    cmdHead := q.cmdHead + 1
    execHookCtx := q.headRun.1
    cmdRing := Function.update q.cmdRing (q.cmdHead &&& (q.config.cmdRingDepth - 1)).toNat q.headRun.2.1
    counters := countRun q.headCmd q.headRun.2.2 q.counters }

theorem dispatchOne_eq (h : q.cmdqUsed ≠ 0) : q.dispatchOne =
    finishDispatch q.headRun.2.2 (q.popped.writeCompletion q.headRun.2.1 q.headRun.2.2) := by
  unfold dispatchOne
  exact if_neg h

theorem popped_spec (hw : WellFormed q) (h : q.cmdqUsed ≠ 0) :
    WellFormed q.popped ∧ q.pendingCmds = q.headCmd :: q.popped.pendingCmds := by
  obtain ⟨k, hk⟩ := hw.cmdDepth
  have hne : (maskedUsed q.config.cmdRingDepth q.cmdHead q.cmdTail).toNat ≠ 0 := fun h0 =>
    h (UInt64.toNat_inj.mp h0)
  obtain ⟨hok, -, hpop⟩ := maskedWindow_pop q.cmdRing hk hw.cmdOk hne q.headRun.2.1
  exact ⟨⟨hw.cmdDepth, hw.compDepth, hok, hw.compOk⟩, hpop⟩

/-- **One dispatch.**  The command leaves its ring in any case; its completion is written if there is room and
dropped otherwise. -/
theorem dispatchOne_cases (hw : WellFormed q) :
    (q.pendingCmds = [] ∧ q.dispatchOne = (q, .queueEmpty)) ∨
      ∃ cmd rest, Dispatched q cmd rest q.dispatchOne.1 ∧
        ((q.compRoom ≠ 0 ∧ q.dispatchOne.2 = .ok ∧
            ∃ comp, comp.ids = (runCmd q.execHook q.execHookCtx cmd).2.1.ids ∧
              comp.resultCode = (runCmd q.execHook q.execHookCtx cmd).2.2.code ∧
              q.dispatchOne.1.completions = q.completions ++ [comp]) ∨
          (q.compRoom = 0 ∧ q.dispatchOne.2 = .queueFull ∧
            q.dispatchOne.1.completions = q.completions)) := by
  by_cases hempty : q.cmdqUsed = 0
  · left
    refine ⟨?_, by rw [dispatchOne, if_pos hempty]⟩
    rw [← List.length_eq_zero_iff, length_pendingCmds, hempty]
    rfl
  · right
    obtain ⟨hwp, hpop⟩ := popped_spec hw hempty
    have hdisp := dispatchOne_eq hempty
    obtain ⟨hw', hpend, hhook, hctx, hcfg, hcomp⟩ := writeCompletion_cases hwp q.headRun.2.1 q.headRun.2.2
    generalize hwc : q.popped.writeCompletion q.headRun.2.1 q.headRun.2.2 = w
      at hdisp hw' hpend hhook hctx hcfg hcomp
    obtain ⟨p', st⟩ := w
    refine ⟨q.headCmd, q.popped.pendingCmds, ?_⟩
    rcases hcomp with ⟨hroom, hst, comp, hids, hcode, happ⟩ | ⟨hroom, hst, hsame⟩
    · simp only at hst
      subst hst
      rw [hdisp]
      refine ⟨⟨⟨hw'.cmdDepth, hw'.compDepth, hw'.cmdOk, hw'.compOk⟩, hcfg, hhook, hctx, hpop, hpend⟩, ?_⟩
      exact Or.inl ⟨hroom, rfl, comp, hids, hcode, happ⟩
    · simp only at hst
      subst hst
      rw [hdisp]
      exact ⟨⟨hw', hcfg, hhook, hctx, hpop, hpend⟩, Or.inr ⟨hroom, rfl, hsame⟩⟩

theorem Dispatched.compRoom_succ {cmd : AimuCmd} {rest : List AimuCmd} {q' : Cmdq Ctx}
    (h : Dispatched q cmd rest q') (hroom : q.compRoom ≠ 0) {comp : AimuCompletion}
    (hcomp : q'.completions = q.completions ++ [comp]) : q'.compRoom + 1 = q.compRoom := by
  unfold compRoom at hroom ⊢
  rw [h.config, hcomp, List.length_append, List.length_singleton]
  omega

theorem Dispatched.fits_cons {cmd : AimuCmd} {rest : List AimuCmd} {q' : Cmdq Ctx}
    (h : Dispatched q cmd rest q') (hroom : q'.compRoom + 1 = q.compRoom) :
    Fits q (cmd :: rest) ↔
      (runCmd q.execHook q.execHookCtx cmd).2.1.ids = cmd.ids ∧ Fits q' rest := by
  unfold Fits
  rw [KeepsIds, h.hook, h.ctx, List.length_cons, ← hroom, Nat.add_le_add_iff_right]
  exact and_left_comm

/-- A completion keeps the outstanding ids in place exactly when it carries the ids of its command. -/
theorem Dispatched.outstanding_eq_iff {cmd : AimuCmd} {rest : List AimuCmd} {q' : Cmdq Ctx}
    (h : Dispatched q cmd rest q') {comp : AimuCompletion}
    (hcomp : q'.completions = q.completions ++ [comp]) :
    q'.outstanding = q.outstanding ↔ comp.ids = cmd.ids := by
  unfold outstanding
  rw [hcomp, h.pending, h.pending', List.map_append, List.append_assoc, List.append_cancel_left_eq]
  simp

/-- `dispatchAllLoop` returns within one round more than there are pending commands. -/
theorem dispatchAllLoop_returns (hw : WellFormed q) {fuel : ℕ} (hfuel : q.pendingCmds.length < fuel) :
    ∃ r, dispatchAllLoop fuel q = some r := by
  induction fuel generalizing q with
  | zero => omega
  | succ fuel ih =>
    unfold dispatchAllLoop
    rcases dispatchOne_cases hw with ⟨-, hempty⟩ | ⟨cmd, rest, hd, ⟨-, hst, -⟩ | ⟨-, hst, -⟩⟩
    · rw [hempty]
      exact ⟨_, rfl⟩
    · have hlen : q.dispatchOne.1.pendingCmds.length < fuel := by
        rw [hd.pending, List.length_cons] at hfuel
        rw [hd.pending']
        omega
      rw [← Prod.mk.eta (p := q.dispatchOne), hst]
      exact ih hd.wellFormed hlen
    · rw [← Prod.mk.eta (p := q.dispatchOne), hst]
      exact ⟨_, rfl⟩

/-- **Dispatching until the queue is empty or a completion does not fit.**  Completions are only added behind the
existing ones, no command is added, and the outstanding ids stay the same sequence exactly when all pending
commands could be dispatched. -/
theorem dispatchAllLoop_spec (hw : WellFormed q) {fuel : ℕ} {r : Cmdq Ctx × Status}
    (h : dispatchAllLoop fuel q = some r) :
    WellFormed r.1 ∧ (∃ more, r.1.completions = q.completions ++ more) ∧
      (r.1.outstanding = q.outstanding ↔ Fits q q.pendingCmds) := by
  induction fuel generalizing q with
  | zero => cases h
  | succ fuel ih =>
    unfold dispatchAllLoop at h
    rcases dispatchOne_cases hw with
      ⟨hnil, hempty⟩ | ⟨cmd, rest, hd, ⟨hroom, hst, comp, hids, -, hcomp⟩ | ⟨hroom, hst, hcomp⟩⟩
    · rw [hempty] at h
      obtain rfl := Option.some.inj h
      refine ⟨hw, ⟨[], (List.append_nil _).symm⟩, ?_⟩
      rw [hnil]
      exact iff_of_true rfl ⟨Nat.zero_le _, trivial⟩
    · rw [← Prod.mk.eta (p := q.dispatchOne), hst] at h
      obtain ⟨hw', ⟨more, hmore⟩, hiff⟩ := ih hd.wellFormed h
      have hsucc := hd.compRoom_succ hroom hcomp
      refine ⟨hw', ⟨comp :: more, ?_⟩, ?_⟩
      · rw [hmore, hcomp, List.append_assoc, List.singleton_append]
      · rw [hd.pending, hd.fits_cons hsucc, ← hd.pending', ← hiff, ← hids]
        constructor
        · intro hsame
          -- the first completion written sits where the first command stood
          have hfirst : comp.ids = cmd.ids := by
            unfold outstanding at hsame
            rw [hmore, hcomp, hd.pending] at hsame
            simp only [List.map_append, List.map_cons, List.append_assoc, List.append_cancel_left_eq,
              List.cons_append, List.nil_append, List.cons.injEq] at hsame
            exact hsame.1
          exact ⟨hfirst, hsame.trans ((hd.outstanding_eq_iff hcomp).mpr hfirst).symm⟩
        · rintro ⟨hfirst, hsame⟩
          exact hsame.trans ((hd.outstanding_eq_iff hcomp).mpr hfirst)
    · rw [← Prod.mk.eta (p := q.dispatchOne), hst] at h
      obtain rfl := Option.some.inj h
      refine ⟨hd.wellFormed, ⟨[], by rw [List.append_nil, hcomp]⟩, iff_of_false ?_ ?_⟩
      · intro hsame
        have hlen := congrArg List.length hsame
        unfold outstanding at hlen
        rw [hcomp, hd.pending, hd.pending'] at hlen
        simp at hlen
      · intro hfits
        have hlen := hfits.1
        rw [hd.pending, hroom, List.length_cons] at hlen
        omega

end Cmdq

end Att1
