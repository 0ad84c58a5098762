import Att1.Cmdq.Fifo

/-!
# Att1.Cmdq.Occupancy — the masked fill levels of the two rings are exact

* `Tally`: what went into and came out of the two rings, kept beside a run of the queue.
* `Fresh q`: a queue with power-of-two depths whose counters agree, whatever they have counted so far.
* `Exact n q`: `cmdqUsed` and `compqUsed` are the numbers of entries put and not yet taken, at most one less than
  the depth; the unread entries stand untouched in slots of their own.
* `occupancy_exact`: every run from a fresh queue keeps them exact.
-/

open Att1.Lib

namespace Att1.Cmdq

variable {Ctx : Type}

/-- The entries that went through the two rings, oldest first. -/
structure Tally where
  accepted : List AimuCmd := []
  taken : List AimuCmd := []
  written : List AimuCompletion := []
  polled : List AimuCompletion := []
  deriving DecidableEq, Repr

/-- A dispatch takes the descriptor at the head and, unless the completion ring is full, writes at its tail. -/
def tallyDispatchOne (q : Cmdq Ctx) (n : Tally) : Tally :=
  match q.dispatchOne with
  | (_, .queueEmpty) => n
  | (q', .ok) =>
    { n with
      taken := n.taken ++ [q.headCmd]
      written := n.written ++ [q'.compRing (q.compTail &&& (q.config.compRingDepth - 1)).toNat] }
  | (_, _) => { n with taken := n.taken ++ [q.headCmd] }

/-- The dispatches of `dispatchAllLoop`. -/
def tallyDispatchAll : ℕ → Cmdq Ctx → Tally → Tally
  | 0, _, n => n
  | fuel + 1, q, n =>
    match q.dispatchOne with
    | (q', .ok) => tallyDispatchAll fuel q' (tallyDispatchOne q n)
    | (_, _) => tallyDispatchOne q n

/-- What a call adds to the tally. -/
def Tallies (q : Cmdq Ctx) (n : Tally) (e : CmdqEvent Ctx) (n' : Tally) : Prop :=
  match e.call with
  | .submit _ => n' = if e.status = .ok then { n with accepted := n.accepted ++ e.submitted.toList } else n
  | .dispatchOne => n' = tallyDispatchOne q n
  | .dispatchAll => ∃ fuel, (dispatchAllLoop fuel q).isSome ∧ n' = tallyDispatchAll fuel q n
  | .pollCompletion _ => n' = { n with polled := n.polled ++ e.completion.toList }
  | .setExecHook _ _ => n' = n

/-- One call on the queue with its tally. -/
def TalliedStep (s : Cmdq Ctx × Tally) (e : CmdqEvent Ctx) (s' : Cmdq Ctx × Tally) : Prop :=
  Step s.1 e s'.1 ∧ Tallies s.1 s.2 e s'.2

/-- An empty queue: its counters may stand anywhere. -/
structure Fresh (q : Cmdq Ctx) : Prop where
  cmdDepth : isPowerOfTwo q.config.cmdRingDepth = true
  compDepth : isPowerOfTwo q.config.compRingDepth = true
  cmdEmpty : q.cmdTail = q.cmdHead
  compEmpty : q.compTail = q.compHead

/-- Both fill levels are exact. -/
structure Exact (n : Tally) (q : Cmdq Ctx) : Prop where
  cmd : ExactRing q.cmdRing q.config.cmdRingDepth q.cmdHead q.cmdqUsed n.accepted n.taken
  comp : ExactRing q.compRing q.config.compRingDepth q.compHead q.compqUsed n.written n.polled

/-- The invariant: what went in is what came out and what waits. -/
structure Accounts (n : Tally) (q : Cmdq Ctx) : Prop where
  wellFormed : WellFormed q
  cmd : n.accepted = n.taken ++ q.pendingCmds
  comp : n.written = n.polled ++ q.completions

/-! ### A fresh queue -/

theorem create_fresh {host : Host} {nullCtx : Ctx} {config : Option CmdqConfig} {q : Cmdq Ctx}
    (h : create host nullCtx config = .ok q) : Fresh q := by
  unfold create at h
  simp only at h
  split_ifs at h with h1 h2 h3 h4 h5 h6
  injection h with h
  subst h
  rw [not_or, not_not] at h2 h3
  exact ⟨h2.1, h3.1, rfl, rfl⟩

theorem Fresh.accounts {q : Cmdq Ctx} (h : Fresh q) : Accounts {} q := by
  obtain ⟨k, hk⟩ := isPowerOfTwo_pow h.cmdDepth
  obtain ⟨l, hl⟩ := isPowerOfTwo_pow h.compDepth
  obtain ⟨hcmd, hcmd0⟩ := maskedOk_self hk q.cmdHead
  obtain ⟨hcomp, hcomp0⟩ := maskedOk_self hl q.compHead
  have hpend : q.pendingCmds = [] := by
    rw [← List.length_eq_zero_iff, pendingCmds, length_maskedWindow, h.cmdEmpty, hcmd0]
  have hdone : q.completions = [] := by
    rw [← List.length_eq_zero_iff, completions, length_maskedWindow, h.compEmpty, hcomp0]
  refine ⟨⟨⟨k, hk⟩, ⟨l, hl⟩, ?_, ?_⟩, ?_, ?_⟩
  · rw [h.cmdEmpty]
    exact hcmd
  · rw [h.compEmpty]
    exact hcomp
  · rw [hpend]
    rfl
  · rw [hdone]
    rfl

/-- An accounted queue has exact fill levels. -/
theorem Accounts.exact {n : Tally} {q : Cmdq Ctx} (h : Accounts n q) : Exact n q := by
  obtain ⟨k, hk⟩ := h.wellFormed.cmdDepth
  obtain ⟨l, hl⟩ := h.wellFormed.compDepth
  exact ⟨exactRing_of_window hk h.cmd, exactRing_of_window hl h.comp⟩

/-! ### One call -/

/-- A completion that was written is the one standing at the old tail. -/
theorem writeCompletion_stored {q : Cmdq Ctx} (hw : WellFormed q) {cmd : AimuCmd} {result : AimuResult}
    (h : (q.writeCompletion cmd result).2 = .ok) :
    (q.writeCompletion cmd result).1.completions = q.completions ++
      [(q.writeCompletion cmd result).1.compRing (q.compTail &&& (q.config.compRingDepth - 1)).toNat] := by
  obtain ⟨k, hk⟩ := hw.compDepth
  unfold writeCompletion at h ⊢
  by_cases hfull : q.config.compRingDepth ≤ q.compqUsed + 1
  · rw [if_pos hfull] at h
    cases h
  · rw [if_neg hfull]
    have hroom := (maskedRoom_iff _ _ hk).not.mp hfull
    obtain ⟨-, hpush⟩ := maskedWindow_push q.compRing hk hw.compOk _ (by omega)
    simp only [Function.update_self]
    exact hpush

theorem dispatchOne_stored {q : Cmdq Ctx} (hw : WellFormed q) (h : q.dispatchOne.2 = .ok) :
    q.dispatchOne.1.completions = q.completions ++
      [q.dispatchOne.1.compRing (q.compTail &&& (q.config.compRingDepth - 1)).toNat] := by
  by_cases hempty : q.cmdqUsed = 0
  · rw [dispatchOne, if_pos hempty] at h
    cases h
  · obtain ⟨hwp, -⟩ := popped_spec hw hempty
    have hdisp := dispatchOne_eq hempty
    have hstored := @writeCompletion_stored _ _ hwp q.headRun.2.1 q.headRun.2.2
    generalize q.popped.writeCompletion q.headRun.2.1 q.headRun.2.2 = w at hdisp hstored
    obtain ⟨p, st⟩ := w
    cases st with
    | ok =>
      rw [hdisp]
      exact hstored rfl
    | _ =>
      rw [hdisp] at h
      cases h

/-- **One dispatch.** -/
theorem dispatchOne_accounts {q : Cmdq Ctx} {n : Tally} (ha : Accounts n q) :
    Accounts (tallyDispatchOne q n) q.dispatchOne.1 := by
  obtain ⟨k, hk⟩ := ha.wellFormed.cmdDepth
  have hstored := dispatchOne_stored ha.wellFormed
  rcases dispatchOne_cases ha.wellFormed with
    ⟨-, hempty⟩ | ⟨cmd, rest, hd, ⟨-, hst, -⟩ | ⟨-, hst, hcomp⟩⟩
  · rw [tallyDispatchOne, hempty]
    exact ha
  all_goals
    have hcmd : cmd = q.headCmd := maskedWindow_head hk hd.pending
    have hcmds : n.accepted = n.taken ++ [cmd] ++ q.dispatchOne.1.pendingCmds := by
      rw [ha.cmd, hd.pending, hd.pending', List.append_assoc, List.singleton_append]
  · have hcomps : n.written ++ [q.dispatchOne.1.compRing (q.compTail &&& (q.config.compRingDepth - 1)).toNat] =
        n.polled ++ q.dispatchOne.1.completions := by
      rw [ha.comp, hstored hst, List.append_assoc]
    have htally : tallyDispatchOne q n =
        { n with
          taken := n.taken ++ [cmd]
          written := n.written ++
            [q.dispatchOne.1.compRing (q.compTail &&& (q.config.compRingDepth - 1)).toNat] } := by
      rw [tallyDispatchOne, ← Prod.mk.eta (p := q.dispatchOne), hst, hcmd]
    rw [htally]
    exact ⟨hd.wellFormed, hcmds, hcomps⟩
  · have htally : tallyDispatchOne q n = { n with taken := n.taken ++ [cmd] } := by
      rw [tallyDispatchOne, ← Prod.mk.eta (p := q.dispatchOne), hst, hcmd]
    rw [htally]
    refine ⟨hd.wellFormed, hcmds, ?_⟩
    rw [hcomp]
    exact ha.comp

theorem dispatchAllLoop_accounts {fuel : ℕ} {q : Cmdq Ctx} {n : Tally} {r : Cmdq Ctx × Status}
    (ha : Accounts n q) (h : dispatchAllLoop fuel q = some r) : Accounts (tallyDispatchAll fuel q n) r.1 := by
  induction fuel generalizing q n with
  | zero => cases h
  | succ fuel ih =>
    have hone := dispatchOne_accounts ha
    unfold dispatchAllLoop at h
    unfold tallyDispatchAll
    generalize q.dispatchOne = d at h hone
    obtain ⟨p, st⟩ := d
    cases st with
    | ok => exact ih hone h
    | _ =>
      obtain rfl := Option.some.inj h
      exact hone

/-- **One call.** -/
theorem talliedStep_accounts {s s' : Cmdq Ctx × Tally} {e : CmdqEvent Ctx} (ha : Accounts s.2 s.1)
    (hs : TalliedStep s e s') : Accounts s'.2 s'.1 := by
  obtain ⟨q, n⟩ := s
  obtain ⟨q', n'⟩ := s'
  obtain ⟨call, status, submitted, completion⟩ := e
  obtain ⟨hs, ht⟩ := hs
  cases call with
  | submit cmd =>
    obtain ⟨hcall, -⟩ := hs
    obtain ⟨hw', hcomp, hcases⟩ := submit_cases ha.wellFormed cmd
    rw [hcall] at hw' hcomp hcases
    obtain rfl : n' = _ := ht
    have hcomps : n.written = n.polled ++ q'.completions := by
      rw [hcomp]
      exact ha.comp
    rcases hcases with ⟨stored, hst, hpend⟩ | ⟨hst, hpend⟩
    · obtain ⟨rfl, rfl⟩ := Prod.mk.inj hst
      refine ⟨hw', ?_, hcomps⟩
      show n.accepted ++ [stored] = n.taken ++ q'.pendingCmds
      rw [hpend, ha.cmd, List.append_assoc]
    · rw [if_neg hst]
      refine ⟨hw', ?_, hcomps⟩
      rw [hpend]
      exact ha.cmd
  | dispatchOne =>
    obtain ⟨hcall, -⟩ := hs
    obtain rfl : n' = _ := ht
    have hone := dispatchOne_accounts ha
    rw [hcall] at hone
    exact hone
  | dispatchAll =>
    obtain ⟨⟨fuel, hcall⟩, -⟩ := hs
    obtain ⟨m, hm, rfl⟩ := ht
    obtain ⟨r, hr⟩ := Option.isSome_iff_exists.mp hm
    have hall := dispatchAllLoop_accounts ha hr
    rw [dispatchAllLoop_det hr hcall] at hall
    exact hall
  | pollCompletion out =>
    obtain ⟨hw', hpend, hcases⟩ := pollCompletion_cases ha.wellFormed out
    rw [show q.pollCompletion out = (q', status, completion) from hs] at hw' hpend hcases
    obtain rfl : n' = _ := ht
    have hcmds : n.accepted = n.taken ++ q'.pendingCmds := by
      rw [hpend]
      exact ha.cmd
    refine ⟨hw', hcmds, ?_⟩
    rcases hcases with ⟨comp, hst, hcomp⟩ | ⟨hst, hcomp⟩
    · obtain ⟨-, rfl⟩ := Prod.mk.inj hst
      show n.written = n.polled ++ [comp] ++ q'.completions
      rw [List.append_assoc, List.singleton_append, ← hcomp]
      exact ha.comp
    · simp only at hst
      subst hst
      show n.written = n.polled ++ [] ++ q'.completions
      rw [List.append_nil, hcomp]
      exact ha.comp
  | setExecHook fn hookCtx =>
    obtain ⟨rfl, -⟩ := hs
    obtain rfl : n' = n := ht
    have hw := ha.wellFormed
    exact ⟨⟨hw.cmdDepth, hw.compDepth, hw.cmdOk, hw.compOk⟩, ha.cmd, ha.comp⟩

/-- Every call can be tallied. -/
theorem exists_tallies {q q' : Cmdq Ctx} {e : CmdqEvent Ctx} (hs : Step q e q') (n : Tally) :
    ∃ n', TalliedStep (q, n) e (q', n') := by
  obtain ⟨call, status, submitted, completion⟩ := e
  cases call with
  | dispatchAll =>
    obtain ⟨fuel, hcall⟩ := hs.1
    exact ⟨_, hs, fuel, by rw [hcall]; rfl, rfl⟩
  | _ => exact ⟨_, hs, rfl⟩

/-! ### Runs -/

theorem exists_talliedRun {q q' : Cmdq Ctx} {es : List (CmdqEvent Ctx)} (hr : Run Step q es q') (n : Tally) :
    ∃ n', Run TalliedStep (q, n) es (q', n') := by
  induction hr with
  | nil => exact ⟨n, Run.nil⟩
  | snoc _ hs ih =>
    obtain ⟨m, hm⟩ := ih
    obtain ⟨n', hn'⟩ := exists_tallies hs m
    exact ⟨n', hm.snoc hn'⟩

theorem talliedRun_accounts {s s' : Cmdq Ctx × Tally} {es : List (CmdqEvent Ctx)} (ha : Accounts s.2 s.1)
    (hr : Run TalliedStep s es s') : Accounts s'.2 s'.1 := by
  induction hr with
  | nil => exact ha
  | snoc _ hs ih => exact talliedStep_accounts ih hs

/-- **Ring occupancy is exact under wrap.**  In a run from a fresh queue, wherever its counters stand, the masked
differences are the numbers of entries put into the rings and not yet taken out, at most one less than the depth;
the unread entries stand untouched in slots of their own. -/
theorem occupancy_exact {q₀ q : Cmdq Ctx} {es : List (CmdqEvent Ctx)} (h₀ : Fresh q₀) (hr : Run Step q₀ es q) :
    (∃ n, Run TalliedStep (q₀, {}) es (q, n)) ∧ ∀ n, Run TalliedStep (q₀, {}) es (q, n) → Exact n q := by
  refine ⟨exists_talliedRun hr {}, fun n hn => ?_⟩
  exact (talliedRun_accounts h₀.accounts hn).exact

/-- An empty queue of depth 4 whose counters are about to wrap. -/
def nearWrap : Cmdq Unit where
  config := ⟨1, 4, 4⟩
  counters := {}
  cmdRing := fun _ => {}
  cmdHead := 0xFFFFFFFFFFFFFFFF
  cmdTail := 0xFFFFFFFFFFFFFFFF
  compRing := fun _ => {}
  compHead := 0xFFFFFFFFFFFFFFFF
  compTail := 0xFFFFFFFFFFFFFFFF
  nextCommandId := 1
  execHook := none
  execHookCtx := ()

theorem occupancy_exact_past_the_wrap : ∃ q n, Run Step nearWrap [submitNop 1, submitNop 2] q ∧
    q.cmdTail < q.cmdHead ∧ q.cmdqUsed = 2 ∧ Exact n q := by
  obtain ⟨q, hr, hwrap, hused⟩ : ∃ q, Run Step nearWrap [submitNop 1, submitNop 2] q ∧
      q.cmdTail < q.cmdHead ∧ q.cmdqUsed = 2 :=
    ⟨_, Run.cons ⟨rfl, rfl⟩ (Run.cons ⟨rfl, rfl⟩ Run.nil), by decide, by decide⟩
  obtain ⟨⟨n, hn⟩, hexact⟩ := occupancy_exact ⟨by decide, by decide, rfl, rfl⟩ hr
  exact ⟨q, n, hr, hwrap, hused, hexact n hn⟩

end Att1.Cmdq
