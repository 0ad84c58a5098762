import Att1.Aimu.Host
import Att1.Cmdq.Counters

/-!
# Att1.Aimu.HostRuns — what a host does over whole runs

* `queueEvents`: the calls that a host lets through to its queue.
* `queue_outlives_resets`: the queue lives through the resets of its host: what is polled is what was submitted, in
  one order across all of them, exactly when every dispatch of the run finds room for its completions.
* `HostTally`: what a history says about a host, with the counts that a reset clears and the one that it does not.
* `host_reports`: probes, enumerations, submits and summaries answer by the tally.
-/

open Att1.Lib

namespace Att1

variable {Ctx : Type}

/-! ### Accesses to the registers leave the queue and the shape of the device alone -/

namespace MmioState

open Mmio

/-- The same attachments, and a device of the same identity. -/
structure SameSims (s s' : MmioState Ctx) : Prop where
  cmdq : s'.sims.cmdq = s.sims.cmdq
  trace : s'.sims.trace.isSome = s.sims.trace.isSome
  device : s'.sims.device.map AimuDevice.tileCount = s.sims.device.map AimuDevice.tileCount

theorem SameSims.refl (s : MmioState Ctx) : SameSims s s := ⟨rfl, rfl, rfl⟩

theorem SameSims.trans {s s' s'' : MmioState Ctx} (h : SameSims s s') (h' : SameSims s' s'') : SameSims s s'' :=
  ⟨h'.cmdq.trans h.cmdq, h'.trace.trans h.trace, h'.device.trans h.device⟩

theorem sameSims_softResetAll (s : MmioState Ctx) : SameSims s s.softResetAll := by
  refine ⟨rfl, rfl, ?_⟩
  show (s.sims.device.map AimuDevice.reset).map AimuDevice.tileCount = _
  cases s.sims.device <;> rfl

theorem sameSims_resetCounters (s : MmioState Ctx) : SameSims s s.resetCounters := by
  refine ⟨rfl, ?_, rfl⟩
  show (s.sims.trace.map fun _ => ({} : AimuTrace)).isSome = _
  cases s.sims.trace <;> rfl

theorem sameSims_writeResetControl (s : MmioState Ctx) (value : UInt32) : SameSims s (s.writeResetControl value) := by
  have hif : ∀ {c : Prop} [Decidable c] {f : MmioState Ctx → MmioState Ctx} (s : MmioState Ctx),
      (∀ s, SameSims s (f s)) → SameSims s (if c then f s else s) := by
    intro c _ f s hf
    split_ifs
    · exact hf s
    · exact SameSims.refl s
  unfold writeResetControl
  exact ((hif s sameSims_softResetAll).trans (hif _ sameSims_resetCounters)).trans (hif _ fun s => ⟨rfl, rfl, rfl⟩)

theorem sameSims_resetTile (s : MmioState Ctx) (tileN : UInt32) : SameSims s (s.resetTile tileN) := by
  unfold resetTile
  cases hdev : s.sims.device with
  | none => exact SameSims.refl s
  | some dev =>
    refine ⟨rfl, rfl, ?_⟩
    rw [hdev]
    simp only [Option.map_some]
    unfold AimuDevice.resetTile
    split_ifs <;> rfl

theorem sameSims_woWrite (s : MmioState Ctx) (offset value : UInt32) : SameSims s (s.woWrite offset value) := by
  unfold woWrite
  split_ifs
  · exact sameSims_resetTile s _
  · exact SameSims.refl s
  · exact ⟨rfl, rfl, rfl⟩
  · exact sameSims_writeResetControl s value
  · exact ⟨rfl, rfl, rfl⟩
  · exact SameSims.refl s

theorem sameSims_writeSnapshotControl (s : MmioState Ctx) (value : UInt32) :
    SameSims s (s.writeSnapshotControl value) := by
  unfold writeSnapshotControl
  split_ifs
  · cases htrace : s.sims.trace with
    | none => exact ⟨rfl, rfl, rfl⟩
    | some tr => exact ⟨rfl, by rw [htrace]; rfl, rfl⟩
  · exact ⟨rfl, rfl, rfl⟩

theorem sameSims_write32 (s : MmioState Ctx) (offset value : UInt32) : SameSims s (s.write32 offset value).1 := by
  by_cases hv : validOffset offset = true
  · unfold write32
    rw [if_neg (not_not.mpr hv)]
    cases accessType offset with
    | rw =>
      simp only
      split_ifs
      · exact sameSims_writeSnapshotControl s value
      · exact ⟨rfl, rfl, rfl⟩
    | wo => exact sameSims_woWrite s offset value
    | _ => exact ⟨rfl, rfl, rfl⟩
  · unfold write32
    rw [if_pos hv]
    exact SameSims.refl s

/-- Only the doorbell register counts doorbells. -/
theorem write32_doorbells (s : MmioState Ctx) (offset value : UInt32) :
    (s.write32 offset value).1.mmio.doorbellWriteCount =
      s.mmio.doorbellWriteCount + if offset = cqDoorbell then 1 else 0 := by
  by_cases hdoor : offset = cqDoorbell
  · subst hdoor
    rw [if_pos rfl]
    rfl
  rw [if_neg hdoor, UInt32.add_zero]
  have hreset : (s.writeResetControl value).mmio.doorbellWriteCount = s.mmio.doorbellWriteCount := by
    unfold writeResetControl
    split_ifs <;> rfl
  have htile : ∀ n, (s.resetTile n).mmio.doorbellWriteCount = s.mmio.doorbellWriteCount := by
    intro n
    unfold resetTile
    cases s.sims.device <;> rfl
  have hsnap : (s.writeSnapshotControl value).mmio.doorbellWriteCount = s.mmio.doorbellWriteCount := by
    unfold writeSnapshotControl
    split_ifs
    · cases s.sims.trace <;> rfl
    · rfl
  have hwo : (s.woWrite offset value).mmio.doorbellWriteCount = s.mmio.doorbellWriteCount := by
    unfold woWrite
    split_ifs
    · exact htile _
    · rfl
    · rfl
    · exact hreset
    · rfl
  by_cases hv : validOffset offset = true
  · unfold write32
    rw [if_neg (not_not.mpr hv)]
    cases accessType offset with
    | rw =>
      simp only
      split_ifs
      · exact hsnap
      · rfl
    | wo => exact hwo
    | _ => rfl
  · unfold write32
    rw [if_pos hv]

/-- The registers that a probe reads besides GLOBAL_STATUS. -/
def identityRegs : List UInt32 := [deviceId, registerMapVersion, tileCount]

theorem syncFromCmdq_identity (q : Option (Cmdq Ctx)) (regs : RegFile) {off : UInt32} (hoff : off ∈ identityRegs) :
    syncFromCmdq q regs off = regs off := by
  simp only [identityRegs, List.mem_cons, List.not_mem_nil, or_false] at hoff
  cases q with
  | none => rfl
  | some q => rcases hoff with rfl | rfl | rfl <;> rfl

theorem syncFromTrace_identity (tr : Option AimuTrace) (regs : RegFile) {off : UInt32} (hoff : off ∈ identityRegs) :
    syncFromTrace tr regs off = regs off := by
  simp only [identityRegs, List.mem_cons, List.not_mem_nil, or_false] at hoff
  cases tr with
  | none => rfl
  | some tr =>
    unfold syncFromTrace
    simp only
    split_ifs
    · rfl
    · rcases hoff with rfl | rfl | rfl <;> rfl

theorem syncFromDevice_identity (dev : AimuDevice) (regs : RegFile) {off : UInt32} (hoff : off ∈ identityRegs) :
    syncFromDevice (some dev) regs off = regs.store (deviceCells dev) off := by
  have hlow : ∀ off ∈ identityRegs, ¬ tileBase ≤ off ∧ globalStatus ≠ off := forall_mem_of_all (by decide +kernel)
  obtain ⟨hbase, hstatus⟩ := hlow off hoff
  have hwindow : ∀ c ∈ windowCells dev, c.1 ≠ off := fun c hc heq => hbase (heq ▸ windowCells_le dev c hc)
  unfold syncFromDevice
  simp only
  rw [RegFile.store_of_not_mem hwindow]
  refine RegFile.store_of_not_mem fun c hc => ?_
  rw [List.mem_singleton.mp hc]
  exact hstatus

/-- A refresh copies the identity of the device into the registers. -/
theorem sync_identity {d : AimuDevice} (s : MmioState Ctx) (hdev : s.sims.device = some d) :
    s.sync.mmio.regs deviceId = deviceIdDefault ∧ s.sync.mmio.regs registerMapVersion = d.registerMapVersion ∧
      s.sync.mmio.regs tileCount = UInt32.ofNat d.tileCount := by
  have hregs : ∀ {off : UInt32}, off ∈ identityRegs →
      s.sync.mmio.regs off = (setDefaults s.mmio.regs).store (deviceCells d) off := by
    intro off hoff
    refine (syncFromTrace_identity _ _ hoff).trans ((syncFromCmdq_identity _ _ hoff).trans ?_)
    rw [hdev]
    exact syncFromDevice_identity d _ hoff
  refine ⟨(hregs ?_).trans rfl, (hregs ?_).trans rfl, (hregs ?_).trans rfl⟩
  · exact List.mem_cons_self
  · exact List.mem_cons_of_mem _ List.mem_cons_self
  · exact List.mem_cons_of_mem _ (List.mem_cons_of_mem _ List.mem_cons_self)

end MmioState

/-! ### Calls on the queue -/

namespace Cmdq

theorem keepsDescriptor_none : KeepsDescriptor (none : Option (ExecHook Ctx)) := by
  intro ctx cmd
  unfold runCmd
  cases AimuCmdType.ofCode cmd.commandType with
  | none => rfl
  | some ctype =>
    simp only
    split_ifs <;> rfl

theorem keepsIds_none (ctx : Ctx) (batch : List AimuCmd) : KeepsIds none ctx batch := by
  induction batch generalizing ctx with
  | nil => trivial
  | cons cmd rest ih => exact ⟨congrArg AimuCmd.ids (keepsDescriptor_none ctx cmd), ih _⟩

/-- A call that is not `setExecHook` keeps the hook. -/
theorem step_hook {q q' : Cmdq Ctx} {e : CmdqEvent Ctx} (hw : WellFormed q) (hnone : q.execHook = none)
    (hs : Step q e q') (hcall : ∀ fn hookCtx, e.call ≠ .setExecHook fn hookCtx) : q'.execHook = none := by
  have hk : KeepsDescriptor q.execHook := hnone ▸ keepsDescriptor_none
  obtain ⟨call, status, submitted, completion⟩ := e
  cases call with
  | submit cmd =>
    obtain ⟨hcall, -⟩ := hs
    cases cmd with
    | none =>
      obtain ⟨rfl, -⟩ := Prod.mk.inj hcall
      exact hnone
    | some cmd =>
      by_cases hacc : q.Accepts cmd
      · obtain ⟨p, hp, hsub⟩ := submit_accepted hw hacc
        obtain ⟨rfl, -⟩ := Prod.mk.inj (hp.symm.trans hcall)
        exact hsub.hook.trans hnone
      · obtain ⟨p, st, hp, -, hsame⟩ := submit_refused hw hacc
        obtain ⟨rfl, -⟩ := Prod.mk.inj (hp.symm.trans hcall)
        exact hsame.hook.trans hnone
  | dispatchOne =>
    obtain ⟨hcall, -⟩ := hs
    obtain ⟨taken, answers, hserved, -⟩ := dispatchOne_served hw hk
    rw [hcall] at hserved
    exact hserved.hook.trans hnone
  | dispatchAll =>
    obtain ⟨⟨fuel, hcall⟩, -⟩ := hs
    obtain ⟨taken, answers, hserved⟩ := dispatchAllLoop_served hw hk hcall
    exact hserved.hook.trans hnone
  | pollCompletion out =>
    have hpoll : q.pollCompletion out = (q', status, completion) := hs
    unfold pollCompletion at hpoll
    split_ifs at hpoll
    · obtain ⟨rfl, -⟩ := Prod.mk.inj hpoll
      exact hnone
    · obtain ⟨rfl, -⟩ := Prod.mk.inj hpoll
      exact hnone
    · obtain ⟨rfl, -⟩ := Prod.mk.inj hpoll
      exact hnone
  | setExecHook fn hookCtx => exact absurd rfl (hcall fn hookCtx)

theorem dispatchOne_submitted {q : Cmdq Ctx} (hw : WellFormed q) :
    q.dispatchOne.1.counters.commandsSubmitted = q.counters.commandsSubmitted := by
  rcases dispatchOne_counted hw with ⟨-, hempty, -⟩ | ⟨cmd, rest, d, -, -, -, hcounted⟩
  · rw [hempty]
  · exact hcounted.submitted

theorem dispatchAllLoop_submitted {q : Cmdq Ctx} (hw : WellFormed q) {fuel : ℕ} {r : Cmdq Ctx × Status}
    (h : dispatchAllLoop fuel q = some r) : r.1.counters.commandsSubmitted = q.counters.commandsSubmitted := by
  induction fuel generalizing q with
  | zero => cases h
  | succ fuel ih =>
    have hone := dispatchOne_submitted hw
    have hw' := (dispatchOne_outstanding hw).1
    unfold dispatchAllLoop at h
    generalize q.dispatchOne = d at h hone hw'
    obtain ⟨p, st⟩ := d
    cases st with
    | ok => exact (ih hw' h).trans hone
    | _ =>
      obtain rfl := Option.some.inj h
      exact hone

theorem submit_submitted (q : Cmdq Ctx) (cmd : AimuCmd) :
    (q.submit (some cmd)).1.counters.commandsSubmitted =
        q.counters.commandsSubmitted + (if (q.submit (some cmd)).2.1 = .ok then 1 else 0) ∧
      (q.submit (some cmd)).2.1 ≠ .state ∧ (q.submit (some cmd)).2.2.isSome := by
  unfold submit
  simp only
  by_cases htile : q.config.tileCount ≤ cmd.tileId.toUInt64
  · simp only [if_pos htile]
    exact ⟨(UInt64.add_zero _).symm, Status.noConfusion, rfl⟩
  · by_cases hfull : q.config.cmdRingDepth ≤ q.cmdqUsed + 1
    · simp only [if_neg htile, if_pos hfull]
      exact ⟨(UInt64.add_zero _).symm, Status.noConfusion, rfl⟩
    · simp only [if_neg htile, if_neg hfull]
      exact ⟨rfl, Status.noConfusion, rfl⟩

/-- The queue counts the commands it has accepted. -/
theorem step_submitted {q q' : Cmdq Ctx} {e : CmdqEvent Ctx} (hw : WellFormed q) (hs : Step q e q') :
    q'.counters.commandsSubmitted = q.counters.commandsSubmitted + UInt64.ofNat (accepted e).length := by
  obtain ⟨call, status, submitted, completion⟩ := e
  cases call with
  | submit cmd =>
    obtain ⟨hcall, -⟩ := hs
    cases cmd with
    | none =>
      obtain ⟨rfl, hrest⟩ := Prod.mk.inj hcall
      obtain ⟨rfl, -⟩ := Prod.mk.inj hrest
      exact (UInt64.add_zero _).symm
    | some cmd =>
      obtain ⟨hcount, -, hstored⟩ := submit_submitted q cmd
      rw [hcall] at hcount hstored
      obtain ⟨stored, rfl⟩ := Option.isSome_iff_exists.mp hstored
      rw [hcount]
      show _ = _ + UInt64.ofNat (if status = .ok then [stored.ids] else []).length
      split_ifs <;> rfl
  | dispatchOne =>
    obtain ⟨hcall, -⟩ := hs
    have hone := dispatchOne_submitted hw
    rw [hcall] at hone
    exact hone.trans (UInt64.add_zero _).symm
  | dispatchAll =>
    obtain ⟨⟨fuel, hcall⟩, -⟩ := hs
    exact (dispatchAllLoop_submitted hw hcall).trans (UInt64.add_zero _).symm
  | pollCompletion out =>
    have hpoll : q.pollCompletion out = (q', status, completion) := hs
    have hsame : (q.pollCompletion out).1.counters = q.counters := by
      unfold pollCompletion
      split_ifs <;> rfl
    rw [hpoll] at hsame
    exact (congrArg CmdqCounters.commandsSubmitted hsame).trans (UInt64.add_zero _).symm
  | setExecHook fn hookCtx =>
    obtain ⟨rfl, -⟩ := hs
    exact (UInt64.add_zero _).symm

end Cmdq

/-! ### The queue of a host -/

/-- The call on the queue that an event makes; a submit before the queue is set up makes none. -/
def queueEvent (e : HostEvent) : Option (Cmdq.CmdqEvent Ctx) :=
  match e.call with
  | .submitCmd cmd =>
    if e.status = .state then none
    else some { call := .submit (some cmd), status := e.status, submitted := e.submitted }
  | .processOne => some { call := .dispatchOne, status := e.status }
  | .drain => some { call := .dispatchAll, status := e.status }
  | .readCompletion => some { call := .pollCompletion true, status := e.status, completion := e.completion }
  | _ => none

/-- The calls on the queue that a history makes. -/
def queueEvents (Ctx : Type) (es : List HostEvent) : List (Cmdq.CmdqEvent Ctx) := es.filterMap queueEvent

namespace AimuHost

variable {h h' : AimuHost Ctx} {e : HostEvent} {es : List HostEvent}

@[simp] theorem through_cmdq (h : AimuHost Ctx) (s : MmioState Ctx) : (h.through s).cmdq = h.cmdq := rfl

@[simp] theorem sync_cmdq (h : AimuHost Ctx) : h.sync.cmdq = h.cmdq := rfl

@[simp] theorem reset_cmdq (h : AimuHost Ctx) : h.reset.cmdq = h.cmdq := rfl

theorem probeDevice_cmdq (h : AimuHost Ctx) : h.probeDevice.1.cmdq = h.cmdq := by
  unfold probeDevice
  cases h.sync.view.probe <;> rfl

theorem setupCmdq_cmdq (h : AimuHost Ctx) : h.setupCmdq.1.cmdq = h.cmdq := by
  unfold setupCmdq
  split_ifs <;> rfl

theorem ringDoorbell_cmdq (h : AimuHost Ctx) : h.ringDoorbell.1.cmdq = h.cmdq := by
  unfold ringDoorbell
  split_ifs <;> rfl

/-- **One call.**  The queue takes the step of the call that is let through to it, and stays as it is otherwise. -/
theorem hostStep_cmdq (hs : HostStep h e h') :
    (queueEvent e = (none : Option (Cmdq.CmdqEvent Ctx)) ∧ h'.cmdq = h.cmdq) ∨
      ∃ qe : Cmdq.CmdqEvent Ctx, queueEvent e = some qe ∧ Cmdq.Step h.cmdq qe h'.cmdq ∧
        ∀ fn hookCtx, qe.call ≠ .setExecHook fn hookCtx := by
  obtain ⟨fuel, hperform⟩ := hs
  obtain ⟨answer, call⟩ := e
  cases call with
  | probeDevice =>
    obtain ⟨rfl, -⟩ := Prod.mk.inj (Option.some.inj hperform)
    exact .inl ⟨rfl, probeDevice_cmdq h⟩
  | setupCmdq =>
    obtain ⟨rfl, -⟩ := Prod.mk.inj (Option.some.inj hperform)
    exact .inl ⟨rfl, setupCmdq_cmdq h⟩
  | ringDoorbell =>
    obtain ⟨rfl, -⟩ := Prod.mk.inj (Option.some.inj hperform)
    exact .inl ⟨rfl, ringDoorbell_cmdq h⟩
  | submitCmd cmd =>
    have hsubmit : (h.submitCmd cmd).map id (fun r => ({ status := r.1, submitted := r.2 } : HostAnswer)) =
        (h', answer) := Option.some.inj hperform
    unfold submitCmd at hsubmit
    by_cases hready : h.cmdqReady = false
    · rw [if_pos hready] at hsubmit
      obtain ⟨rfl, rfl⟩ := Prod.mk.inj hsubmit
      exact .inl ⟨rfl, rfl⟩
    · rw [if_neg hready] at hsubmit
      obtain ⟨rfl, rfl⟩ := Prod.mk.inj hsubmit
      exact .inr ⟨_, if_neg (Cmdq.submit_submitted h.cmdq cmd).2.1, ⟨rfl, rfl⟩, fun _ _ heq => by cases heq⟩
  | processOne =>
    obtain ⟨rfl, rfl⟩ := Prod.mk.inj (Option.some.inj hperform)
    exact .inr ⟨_, rfl, ⟨rfl, rfl⟩, fun _ _ heq => by cases heq⟩
  | drain =>
    obtain ⟨r, hr, heq⟩ := Option.map_eq_some_iff.mp hperform
    obtain ⟨d, hd, rfl⟩ := Option.map_eq_some_iff.mp hr
    obtain ⟨rfl, rfl⟩ := Prod.mk.inj heq
    exact .inr ⟨_, rfl, ⟨⟨fuel, hd⟩, rfl⟩, fun _ _ heq => by cases heq⟩
  | readCompletion =>
    obtain ⟨rfl, rfl⟩ := Prod.mk.inj (Option.some.inj hperform)
    exact .inr ⟨_, rfl, rfl, fun _ _ heq => by cases heq⟩
  | _ =>
    obtain ⟨rfl, -⟩ := Prod.mk.inj (Option.some.inj hperform)
    exact .inl ⟨rfl, rfl⟩

theorem hostStep_deterministic : Deterministic (@HostStep Ctx) := by
  rintro h ⟨answer, call⟩ h' h'' ⟨fuel, hp⟩ ⟨fuel', hp'⟩
  cases call with
  | drain =>
    obtain ⟨r, hr, heq⟩ := Option.map_eq_some_iff.mp hp
    obtain ⟨r', hr', heq'⟩ := Option.map_eq_some_iff.mp hp'
    obtain ⟨d, hd, rfl⟩ := Option.map_eq_some_iff.mp hr
    obtain ⟨d', hd', rfl⟩ := Option.map_eq_some_iff.mp hr'
    obtain ⟨rfl, -⟩ := Prod.mk.inj heq
    obtain ⟨rfl, -⟩ := Prod.mk.inj heq'
    rw [Cmdq.dispatchAllLoop_det hd hd']
  | _ => exact (Prod.mk.inj (Option.some.inj (hp.symm.trans hp'))).1

/-- The completions of the commands that a dispatch is about to take find room. -/
def HasRoom (h : AimuHost Ctx) (e : HostEvent) : Prop :=
  match e.call with
  | .processOne => h.cmdq.pendingCmds ≠ [] → 0 < h.cmdq.compRoom
  | .drain => h.cmdq.pendingCmds.length ≤ h.cmdq.compRoom
  | _ => True

/-- What was submitted is what was polled, then what waits for a poll, then what is pending. -/
def OneOrder (es : List HostEvent) (h : AimuHost Ctx) : Prop := Cmdq.CompletionLaw (queueEvents Ctx es) h.cmdq

/-- The invariant of the queue of a host. -/
structure QueueInv (es : List HostEvent) (h : AimuHost Ctx) : Prop where
  law : Cmdq.RunInv (queueEvents Ctx es) h.cmdq
  hook : h.cmdq.execHook = none

theorem queueEvents_snoc (es : List HostEvent) (e : HostEvent) :
    queueEvents Ctx (es ++ [e]) = queueEvents Ctx es ++ (queueEvent e).toList := by
  unfold queueEvents
  rw [List.filterMap_append]
  cases hq : (queueEvent e : Option (Cmdq.CmdqEvent Ctx)) with
  | none => rw [List.filterMap_cons_none hq]; rfl
  | some qe => rw [List.filterMap_cons_some hq]; rfl

/-- Without a hook the dispatches of a call fit when their completions do. -/
theorem dispatchFits_iff {qe : Cmdq.CmdqEvent Ctx} (hhook : h.cmdq.execHook = none) (hq : queueEvent e = some qe) :
    Cmdq.DispatchFits h.cmdq qe ↔ h.HasRoom e := by
  have hfits : ∀ batch, Cmdq.Fits h.cmdq batch ↔ batch.length ≤ h.cmdq.compRoom := by
    intro batch
    unfold Cmdq.Fits
    rw [hhook]
    exact and_iff_left (Cmdq.keepsIds_none _ batch)
  obtain ⟨answer, call⟩ := e
  unfold queueEvent at hq
  unfold HasRoom
  cases call with
  | submitCmd cmd =>
    simp only at hq
    split_ifs at hq
    obtain rfl := Option.some.inj hq
    exact Iff.rfl
  | processOne =>
    obtain rfl := Option.some.inj hq
    refine (hfits _).trans ?_
    cases hpend : h.cmdq.pendingCmds with
    | nil => simp
    | cons cmd rest => simp [Nat.one_le_iff_ne_zero, Nat.pos_iff_ne_zero]
  | drain =>
    obtain rfl := Option.some.inj hq
    exact hfits _
  | readCompletion =>
    obtain rfl := Option.some.inj hq
    exact Iff.rfl
  | _ => cases hq

/-- A call without a dispatch always has room. -/
theorem hasRoom_of_none (hq : queueEvent e = (none : Option (Cmdq.CmdqEvent Ctx))) : h.HasRoom e := by
  obtain ⟨answer, call⟩ := e
  cases call with
  | processOne => cases hq
  | drain => cases hq
  | _ => trivial

/-- A created host: its parts have been created, and its registers are refreshed. -/
theorem create_ok {host : Host} {nullCtx : Ctx} {config : Option HostConfig}
    (hc : create host nullCtx config = .ok h) :
    ∃ dev q, ∃ s : MmioState Ctx, (∃ cfg, AimuDevice.create host (some cfg) = .ok dev) ∧
      (∃ cfg, Cmdq.create host nullCtx (some cfg) = .ok q) ∧ MmioState.create host = .ok s ∧
      h = ({ device := dev, cmdq := q, mmio := s.mmio } : AimuHost Ctx).sync := by
  obtain ⟨-, hc⟩ := rejectIf_bind_eq_ok.mp hc
  obtain ⟨dev, hdev, hc⟩ := bind_eq_ok.mp hc
  obtain ⟨q, hq, hc⟩ := bind_eq_ok.mp hc
  obtain ⟨-, hc⟩ := rejectIf_bind_eq_ok.mp hc
  obtain ⟨-, hc⟩ := rejectIf_bind_eq_ok.mp hc
  obtain ⟨s, hs, hc⟩ := bind_eq_ok.mp hc
  exact ⟨dev, q, s, ⟨_, hdev⟩, ⟨_, hq⟩, hs, (Except.ok.inj hc).symm⟩

theorem create_queueInv {host : Host} {nullCtx : Ctx} {config : Option HostConfig}
    (hc : create host nullCtx config = .ok h) : QueueInv [] h := by
  obtain ⟨dev, q, s, -, ⟨cfg, hq⟩, -, rfl⟩ := create_ok hc
  obtain ⟨hw, hpend, hcomp⟩ := Cmdq.create_ok hq
  refine ⟨⟨hw, ?_⟩, ?_⟩
  · show Cmdq.CompletionLaw [] q
    unfold Cmdq.CompletionLaw
    rw [hpend, hcomp]
    rfl
  · show q.execHook = none
    unfold Cmdq.create at hq
    simp only at hq
    split_ifs at hq
    rw [← Except.ok.inj hq]

/-- **A reset leaves the queue alone.**  In a run of calls on a created host, with any number of resets, probes and
register writes among them, the ids polled, the ids of the completions that wait and the ids of the pending commands
are throughout the ids of all commands accepted since the creation, in one order, exactly when every dispatch finds
room for its completions. -/
theorem queue_outlives_resets {host : Host} {nullCtx : Ctx} {config : Option HostConfig} {h₀ : AimuHost Ctx}
    (hc : create host nullCtx config = .ok h₀) (hr : Run HostStep h₀ es h) :
    Lawful HostStep h₀ OneOrder es ↔ Guarded HostStep h₀ HasRoom es := by
  have hstep : ∀ es (h : AimuHost Ctx) e h', QueueInv es h → HostStep h e h' →
      (h.HasRoom e → QueueInv (es ++ [e]) h') ∧ (OneOrder (es ++ [e]) h' → h.HasRoom e) := by
    intro es h e h' hi hs
    unfold OneOrder
    rcases hostStep_cmdq hs with ⟨hq, hcmdq⟩ | ⟨qe, hq, hqs, hcall⟩
    · refine ⟨fun _ => ⟨?_, ?_⟩, fun _ => hasRoom_of_none hq⟩
      · rw [queueEvents_snoc, hq, hcmdq, Option.toList_none, List.append_nil]
        exact hi.law
      · rw [hcmdq]
        exact hi.hook
    · obtain ⟨hw, hiff⟩ := Cmdq.step_balanced hi.law.wellFormed hqs
      rw [queueEvents_snoc, hq, Option.toList_some, Cmdq.completionLaw_snoc hi.law.law]
      refine ⟨fun hroom => ⟨?_, Cmdq.step_hook hi.law.wellFormed hi.hook hqs hcall⟩, fun hlaw => ?_⟩
      · rw [queueEvents_snoc, hq, Option.toList_some]
        exact ⟨hw, (Cmdq.completionLaw_snoc hi.law.law).mpr (hiff.mpr ((dispatchFits_iff hi.hook hq).mpr hroom))⟩
      · exact (dispatchFits_iff hi.hook hq).mp (hiff.mp hlaw)
  refine hr.law_iff_guard hostStep_deterministic (create_queueInv hc) (fun _ _ hi => hi.law.law) ?_ ?_
  · exact fun es h e h' hi hroom hs => (hstep es h e h' hi hs).1 hroom
  · exact fun es h e h' hi hroom hs hlaw => hroom ((hstep es h e h' hi hs).2 hlaw)

/-- A host of four tiles is brought up. -/
def broughtUp : List HostEvent :=
  [{ call := .probeDevice, probe := some ⟨Mmio.deviceIdDefault, AimuDevice.currentMapVersion, 1, 4⟩ },
    { call := .setupCmdq }]

/-- A command is submitted before a reset; it is dispatched and its completion read after it. -/
def acrossReset : List HostEvent :=
  broughtUp ++
    [{ call := .submitCmd {}, submitted := some (Cmdq.storedNop 1) }, { call := .reset }, { call := .processOne },
      { call := .readCompletion, completion := some { commandId := 1 } }]

theorem queue_outlives_resets_polled : ∃ h₀ h : AimuHost Unit, create .generous () none = .ok h₀ ∧
    Run HostStep h₀ acrossReset h ∧ Lawful HostStep h₀ OneOrder acrossReset := by
  have hrun : ∃ h₀ : AimuHost Unit, create .generous () none = .ok h₀ ∧ ∃ h,
      Run (fun h e h' => HostStep h e h' ∧ HasRoom h e) h₀ acrossReset h :=
    ⟨_, rfl, _, Run.cons ⟨⟨0, rfl⟩, trivial⟩ <| Run.cons ⟨⟨0, rfl⟩, trivial⟩ <| Run.cons ⟨⟨0, rfl⟩, trivial⟩ <|
      Run.cons ⟨⟨0, rfl⟩, trivial⟩ <| Run.cons ⟨⟨0, rfl⟩, fun _ => by decide⟩ <|
      Run.cons ⟨⟨0, rfl⟩, trivial⟩ Run.nil⟩
  obtain ⟨h₀, hc, h, hr⟩ := hrun
  obtain ⟨hr, hg⟩ := hr.guarded hostStep_deterministic
  exact ⟨h₀, h, hc, hr, (queue_outlives_resets hc hr).mpr hg⟩

end AimuHost

/-! ### What a host reports -/

/-- The DMA simulator counts what is submitted to it, valid or not. -/
theorem AimuDma.submit_submitted (sim : AimuDma) (desc : DmaDesc) :
    (sim.submit desc).1.counters.dmaSubmitted = sim.counters.dmaSubmitted + 1 := by
  have hfailure : ∀ r c, (countFailure r c).dmaSubmitted = c.dmaSubmitted := fun r c => by cases r <;> rfl
  have htransfer : ∀ c, (countTransfer desc c).dmaSubmitted = c.dmaSubmitted := by
    intro c
    unfold countTransfer
    simp only
    split_ifs <;> rfl
  unfold submit
  simp only
  split_ifs
  · exact htransfer _
  · exact hfailure _ _

/-- What a history says about a host: whether it has been probed and set up since the last reset, how many commands
it has accepted since its creation, and how many descriptors and doorbells there were since the last reset. -/
@[ext]
structure HostTally where
  probed : Bool := false
  ready : Bool := false
  accepted : ℕ := 0
  dmas : ℕ := 0
  doorbells : ℕ := 0
  deriving DecidableEq, Repr

namespace HostTally

/-- A host after one more call. -/
def after (t : HostTally) (e : HostEvent) : HostTally :=
  match e.call with
  | .probeDevice => { t with probed := true }
  | .setupCmdq => if e.status = .ok then { t with ready := true } else t
  | .submitCmd _ => if e.status = .ok then { t with accepted := t.accepted + 1 } else t
  | .ringDoorbell => if e.status = .ok then { t with doorbells := t.doorbells + 1 } else t
  | .write32 offset _ => if offset = Mmio.cqDoorbell then { t with doorbells := t.doorbells + 1 } else t
  | .dmaSubmit _ => { t with dmas := t.dmas + 1 }
  | .reset => { t with probed := false, ready := false, dmas := 0, doorbells := 0 }
  | _ => t

/-- A created host after a history. -/
def of (es : List HostEvent) : HostTally := es.foldl after {}

theorem of_snoc (es : List HostEvent) (e : HostEvent) : of (es ++ [e]) = (of es).after e := List.foldl_append

end HostTally

namespace AimuHost

variable {h h' : AimuHost Ctx} {e : HostEvent} {es : List HostEvent} {tiles : ℕ} {t : HostTally}

/-- The state of a host agrees with its tally. -/
structure Tallied (tiles : ℕ) (t : HostTally) (h : AimuHost Ctx) : Prop where
  wellFormed : Cmdq.WellFormed h.cmdq
  probed : h.probed = t.probed
  ready : h.cmdqReady = t.ready
  accepted : h.cmdq.counters.commandsSubmitted = UInt64.ofNat t.accepted
  dmas : h.dma.counters.dmaSubmitted = UInt64.ofNat t.dmas
  doorbells : h.mmio.doorbellWriteCount = UInt32.ofNat t.doorbells
  device : h.device.tileCount = tiles
  fits : tiles ≤ AimuDevice.maxTiles
  probe : t.probed = true → h.probe.tileCount = UInt32.ofNat tiles

/-- An access to the registers rings some doorbells. -/
theorem Tallied.through (hi : Tallied tiles t h) {s : MmioState Ctx} (hsame : MmioState.SameSims h.view s) (n : ℕ)
    (hn : s.mmio.doorbellWriteCount = h.mmio.doorbellWriteCount + UInt32.ofNat n) :
    Tallied tiles { t with doorbells := t.doorbells + n } (h.through s) := by
  obtain ⟨dev, hdev, hcount⟩ : ∃ dev, s.sims.device = some dev ∧ dev.tileCount = h.device.tileCount :=
    Option.map_eq_some_iff.mp hsame.device
  refine ⟨hi.wellFormed, hi.probed, hi.ready, hi.accepted, hi.dmas, ?_, ?_, hi.fits, hi.probe⟩
  · show s.mmio.doorbellWriteCount = _
    rw [hn, hi.doorbells, ← UInt32.ofNat_add]
  · show (s.sims.device.getD h.device).tileCount = tiles
    rw [hdev]
    exact hcount.trans hi.device

theorem Tallied.sync (hi : Tallied tiles t h) : Tallied tiles t h.sync :=
  hi.through (s := h.view.sync) ⟨rfl, rfl, rfl⟩ 0 (UInt32.add_zero _).symm

theorem Tallied.snapshotCounters (hi : Tallied tiles t h) : Tallied tiles t h.snapshotCounters :=
  hi.through (s := h.view.snapshotCounters _ _) ⟨rfl, rfl, rfl⟩ 0 (UInt32.add_zero _).symm

theorem Tallied.write32 (hi : Tallied tiles t h) (offset value : UInt32) :
    Tallied tiles (if offset = Mmio.cqDoorbell then { t with doorbells := t.doorbells + 1 } else t)
      (h.write32 offset value).1 := by
  have hsame := MmioState.sameSims_write32 h.view offset value
  have hcount := MmioState.write32_doorbells h.view offset value
  split_ifs at hcount ⊢
  · exact hi.through hsame 1 hcount
  · exact hi.through hsame 0 hcount

/-- A call on the queue accepts some commands. -/
theorem Tallied.queue (hi : Tallied tiles t h) {q : Cmdq Ctx} {e : Cmdq.CmdqEvent Ctx} (hs : Cmdq.Step h.cmdq e q) :
    Tallied tiles { t with accepted := t.accepted + (Cmdq.accepted e).length } { h with cmdq := q } := by
  refine ⟨(Cmdq.step_balanced hi.wellFormed hs).1, hi.probed, hi.ready, ?_, hi.dmas, hi.doorbells, hi.device, hi.fits,
    hi.probe⟩
  show q.counters.commandsSubmitted = _
  rw [Cmdq.step_submitted hi.wellFormed hs, hi.accepted, ← UInt64.ofNat_add]

/-- A probe succeeds in any state, and finds the tiles of the device. -/
theorem probeDevice_ok (h : AimuHost Ctx) :
    ∃ probe, h.probeDevice = ({ h.sync with probe := probe, probed := true }, .ok probe) ∧
    probe.deviceId = Mmio.deviceIdDefault ∧ probe.registerMapVersion = h.device.registerMapVersion ∧
    probe.tileCount = UInt32.ofNat h.device.tileCount := by
  obtain ⟨hid, hversion, htiles⟩ := h.view.sync_identity (d := h.device) rfl
  have hview : h.sync.view = h.view.sync := rfl
  have hstatus := h.view.probe_sync
  have hread : h.view.sync.read32 Mmio.globalStatus = .ok (h.view.sync.mmio.regs Mmio.globalStatus) := rfl
  have hprobe : h.view.sync.probe =
      (if h.view.sync.mmio.regs Mmio.globalStatus &&& Mmio.gstatDeviceReady = 0 then .error .state
        else .ok ⟨h.view.sync.mmio.regs Mmio.deviceId, h.view.sync.mmio.regs Mmio.registerMapVersion,
          h.view.sync.mmio.regs Mmio.globalStatus, h.view.sync.mmio.regs Mmio.tileCount⟩) := by
    unfold MmioState.probe
    rw [hread]
    rfl
  unfold probeDevice
  rw [hview]
  by_cases hready : h.view.sync.mmio.regs Mmio.globalStatus &&& Mmio.gstatDeviceReady = 0
  · rw [hprobe, if_pos hready] at hstatus
    cases hstatus
  · rw [hprobe, if_neg hready]
    exact ⟨_, rfl, hid, hversion, htiles⟩

/-- **One call.** -/
theorem hostStep_tallied (hi : Tallied tiles t h) (hs : HostStep h e h') : Tallied tiles (t.after e) h' := by
  obtain ⟨fuel, hperform⟩ := hs
  obtain ⟨answer, call⟩ := e
  cases call with
  | probeDevice =>
    obtain ⟨probe, hprobe, -, -, htiles⟩ := probeDevice_ok h
    unfold perform at hperform
    simp only at hperform
    rw [hprobe] at hperform
    obtain ⟨rfl, -⟩ := Prod.mk.inj (Option.some.inj hperform)
    have hsync := hi.sync
    exact ⟨hi.wellFormed, rfl, hi.ready, hi.accepted, hi.dmas, hsync.doorbells, hsync.device, hi.fits,
      fun _ => htiles.trans (congrArg UInt32.ofNat hi.device)⟩
  | setupCmdq =>
    have hsetup : h.setupCmdq.map id (fun st => ({ status := st } : HostAnswer)) = (h', answer) :=
      Option.some.inj hperform
    unfold setupCmdq at hsetup
    split_ifs at hsetup
    · obtain ⟨rfl, rfl⟩ := Prod.mk.inj hsetup
      exact hi
    · obtain ⟨rfl, rfl⟩ := Prod.mk.inj hsetup
      have hattached : Tallied tiles t ({ h with cmdqAttached := true } : AimuHost Ctx) :=
        ⟨hi.wellFormed, hi.probed, hi.ready, hi.accepted, hi.dmas, hi.doorbells, hi.device, hi.fits, hi.probe⟩
      have hsync := hattached.sync
      exact ⟨hsync.wellFormed, hsync.probed, rfl, hsync.accepted, hsync.dmas, hsync.doorbells, hsync.device, hsync.fits,
        hsync.probe⟩
  | submitCmd cmd =>
    have hsubmit : (h.submitCmd cmd).map id (fun r => ({ status := r.1, submitted := r.2 } : HostAnswer)) =
        (h', answer) := Option.some.inj hperform
    unfold submitCmd at hsubmit
    split_ifs at hsubmit
    · obtain ⟨rfl, rfl⟩ := Prod.mk.inj hsubmit
      exact hi
    · obtain ⟨rfl, rfl⟩ := Prod.mk.inj hsubmit
      have hstored := (Cmdq.submit_submitted h.cmdq cmd).2.2
      rcases hq : h.cmdq.submit (some cmd) with ⟨q, st, sub⟩
      rw [hq] at hstored
      obtain ⟨stored, rfl⟩ := Option.isSome_iff_exists.mp hstored
      have hqueue := @Tallied.queue _ h _ _ hi q { call := .submit (some cmd), status := st, submitted := some stored }
        ⟨hq, rfl⟩
      unfold Cmdq.accepted at hqueue
      unfold HostTally.after
      simp only [id_eq] at hqueue ⊢
      split_ifs at hqueue ⊢
      · exact hqueue
      · exact hqueue
  | ringDoorbell =>
    have hring : h.ringDoorbell.map id (fun st => ({ status := st } : HostAnswer)) = (h', answer) :=
      Option.some.inj hperform
    unfold ringDoorbell at hring
    split_ifs at hring
    · obtain ⟨rfl, rfl⟩ := Prod.mk.inj hring
      exact hi
    · obtain ⟨rfl, rfl⟩ := Prod.mk.inj hring
      exact hi.write32 Mmio.cqDoorbell _
  | processOne =>
    obtain ⟨rfl, rfl⟩ := Prod.mk.inj (Option.some.inj hperform)
    exact hi.queue (e := { call := .dispatchOne, status := _ }) ⟨rfl, rfl⟩
  | drain =>
    obtain ⟨r, hr, heq⟩ := Option.map_eq_some_iff.mp hperform
    obtain ⟨d, hd, rfl⟩ := Option.map_eq_some_iff.mp hr
    obtain ⟨rfl, rfl⟩ := Prod.mk.inj heq
    exact hi.queue (e := { call := .dispatchAll, status := _ }) ⟨⟨fuel, hd⟩, rfl⟩
  | readCompletion =>
    obtain ⟨rfl, rfl⟩ := Prod.mk.inj (Option.some.inj hperform)
    exact hi.queue (e := { call := .pollCompletion true, status := _, completion := _ }) rfl
  | snapshotCounters =>
    obtain ⟨rfl, -⟩ := Prod.mk.inj (Option.some.inj hperform)
    exact hi.snapshotCounters
  | reset =>
    obtain ⟨rfl, -⟩ := Prod.mk.inj (Option.some.inj hperform)
    exact ⟨hi.wellFormed, rfl, rfl, hi.accepted, rfl, rfl, hi.device, hi.fits, fun h => by cases h⟩
  | dmaSubmit desc =>
    obtain ⟨rfl, -⟩ := Prod.mk.inj (Option.some.inj hperform)
    refine ⟨hi.wellFormed, hi.probed, hi.ready, hi.accepted, ?_, hi.doorbells, hi.device, hi.fits, hi.probe⟩
    show (h.dma.submit desc).1.counters.dmaSubmitted = _
    rw [AimuDma.submit_submitted, hi.dmas]
    exact (UInt64.ofNat_add t.dmas 1).symm
  | registerHostRegion base size =>
    obtain ⟨rfl, -⟩ := Prod.mk.inj (Option.some.inj hperform)
    have hcount : (h.dma.registerHostRegion base size).1.counters = h.dma.counters := by
      unfold AimuDma.registerHostRegion
      split_ifs <;> rfl
    exact ⟨hi.wellFormed, hi.probed, hi.ready, hi.accepted, (congrArg DmaCounters.dmaSubmitted hcount).trans hi.dmas,
      hi.doorbells, hi.device, hi.fits, hi.probe⟩
  | registerDeviceRegion base size =>
    obtain ⟨rfl, -⟩ := Prod.mk.inj (Option.some.inj hperform)
    have hcount : (h.dma.registerDeviceRegion base size).1.counters = h.dma.counters := by
      unfold AimuDma.registerDeviceRegion
      split_ifs <;> rfl
    exact ⟨hi.wellFormed, hi.probed, hi.ready, hi.accepted, (congrArg DmaCounters.dmaSubmitted hcount).trans hi.dmas,
      hi.doorbells, hi.device, hi.fits, hi.probe⟩
  | write32 offset value =>
    obtain ⟨rfl, -⟩ := Prod.mk.inj (Option.some.inj hperform)
    exact hi.write32 offset value
  | _ =>
    obtain ⟨rfl, -⟩ := Prod.mk.inj (Option.some.inj hperform)
    exact hi

theorem create_tallied {host : Host} {nullCtx : Ctx} {config : Option HostConfig}
    (hc : create host nullCtx config = .ok h) : Tallied h.device.tileCount {} h := by
  obtain ⟨dev, q, s, ⟨cfg, hdev⟩, ⟨qcfg, hq⟩, hs, rfl⟩ := create_ok hc
  have hfits : dev.tileCount ≤ AimuDevice.maxTiles := by
    by_cases hmax : AimuDevice.maxTiles < if cfg.tileCount = 0 then 1 else cfg.tileCount
    · cases (if_pos hmax).symm.trans hdev
    · have hcreated := (if_neg hmax).symm.trans hdev
      by_cases hcalloc : ¬ host.calloc 1 1344
      · cases (if_pos hcalloc).symm.trans hcreated
      · rw [← Except.ok.inj ((if_neg hcalloc).symm.trans hcreated)]
        exact not_lt.mp hmax
  have hcounters : q.counters = {} := by
    unfold Cmdq.create at hq
    simp only at hq
    split_ifs at hq
    rw [← Except.ok.inj hq]
  have hdoorbells : s.mmio.doorbellWriteCount = 0 := by
    unfold MmioState.create at hs
    split_ifs at hs
    rw [← Except.ok.inj hs]
  have hbase : Tallied dev.tileCount {} ({ device := dev, cmdq := q, mmio := s.mmio } : AimuHost Ctx) :=
    ⟨(Cmdq.create_ok hq).1, rfl, rfl, congrArg CmdqCounters.commandsSubmitted hcounters, rfl, hdoorbells, rfl, hfits,
      fun h => by cases h⟩
  exact hbase.sync

theorem run_tallied {h₀ : AimuHost Ctx} (h0 : Tallied tiles {} h₀) (hr : Run HostStep h₀ es h) :
    Tallied tiles (HostTally.of es) h :=
  @Run.invariant _ _ _ _ _ _ (fun es h => Tallied tiles (HostTally.of es) h) h0
    (fun es _ e _ _ hi hs => HostTally.of_snoc es e ▸ hostStep_tallied hi hs) hr

/-- Tiles that the device has are all copied. -/
theorem enumerateLoop_ok {dev : AimuDevice} (hmax : dev.tileCount ≤ AimuDevice.maxTiles) {l : List ℕ}
    (hl : ∀ i ∈ l, i < dev.tileCount) (infos : List HostTileInfo) :
    enumerateLoop dev l infos = (.ok, infos ++ l.map fun i => tileInfo (dev.tiles i)) := by
  induction l generalizing infos with
  | nil => exact congrArg (Prod.mk Status.ok) (List.append_nil infos).symm
  | cons i l ih =>
    have hi := hl i List.mem_cons_self
    unfold AimuDevice.maxTiles at hmax
    have hid : (UInt8.ofNat i).toNat = i := UInt8.toNat_ofNat_of_lt (lt_trans (lt_of_lt_of_le hi hmax) (by decide))
    have hquery : queryTile dev (UInt8.ofNat i) = some (dev.tiles i) := by
      unfold queryTile
      rw [hid]
      exact if_neg (not_le.mpr hi)
    unfold enumerateLoop
    rw [hquery]
    simp only
    rw [ih fun j hj => hl j (List.mem_cons_of_mem _ hj), List.append_assoc]
    rfl

/-- **What a host reports.**  In every state that a created host reaches by its calls and the accesses to its
registers and its DMA simulator: a probe succeeds; tiles are enumerated and the queue is set up if there was a probe
since the last reset, and commands are taken if there was a setup; and the summary counts the descriptors and the
doorbells since the last reset, but the commands since the creation. -/
theorem host_reports {host : Host} {nullCtx : Ctx} {config : Option HostConfig} {h₀ : AimuHost Ctx}
    (hc : create host nullCtx config = .ok h₀) (hr : Run HostStep h₀ es h) :
    statusOf h.probeDevice.2 = .ok ∧
      (∀ count, h.enumerateTiles count = if (HostTally.of es).probed then
        (.ok, (List.range (min h₀.device.tileCount count)).map fun i => tileInfo (h.device.tiles i))
        else (.state, [])) ∧
      h.setupCmdq.2 = (if (HostTally.of es).probed then .ok else .state) ∧
      (∀ cmd, (h.submitCmd cmd).2.1 = .state ↔ (HostTally.of es).ready = false) ∧
      h.getSummary.commandsSubmitted =
        (if (HostTally.of es).ready then UInt64.ofNat (HostTally.of es).accepted else 0) ∧
      h.getSummary.dmaSubmitted = UInt64.ofNat (HostTally.of es).dmas ∧
      h.getSummary.doorbellCount = UInt32.ofNat (HostTally.of es).doorbells := by
  have hi := run_tallied (create_tallied hc) hr
  obtain ⟨probe, hprobe, -⟩ := probeDevice_ok h
  refine ⟨?_, fun count => ?_, ?_, fun cmd => ?_, ?_, hi.dmas, hi.doorbells⟩
  · rw [hprobe]
    rfl
  · unfold enumerateTiles
    rw [hi.probed]
    by_cases hp : (HostTally.of es).probed = true
    · have hcount : h.probe.tileCount.toNat = h₀.device.tileCount := by
        have hfits := hi.fits
        unfold AimuDevice.maxTiles at hfits
        rw [hi.probe hp]
        exact UInt32.toNat_ofNat_of_lt (lt_of_le_of_lt hfits (by decide))
      rw [if_neg (by rw [hp]; exact Bool.noConfusion), if_pos hp, hcount, enumerateLoop_ok (hi.device ▸ hi.fits)]
      · rfl
      · intro i hi'
        rw [hi.device]
        exact lt_of_lt_of_le (List.mem_range.mp hi') (min_le_left _ _)
    · rw [if_pos (Bool.eq_false_iff.mpr hp), if_neg hp]
  · unfold setupCmdq
    rw [hi.probed]
    cases (HostTally.of es).probed <;> rfl
  · unfold submitCmd
    rw [hi.ready]
    cases (HostTally.of es).ready with
    | false => exact iff_of_true rfl rfl
    | true => exact iff_of_false (Cmdq.submit_submitted h.cmdq cmd).2.1 Bool.noConfusion
  · unfold getSummary
    rw [hi.ready]
    cases (HostTally.of es).ready with
    | false => rfl
    | true => exact hi.accepted

/-- A no-op and an empty descriptor are submitted. -/
def submits : List HostEvent :=
  [{ call := .submitCmd {}, submitted := some (Cmdq.storedNop 1) }, { call := .dmaSubmit {}, status := .invalidArg }]

/-- After a reset the summary still counts the command, but no longer the descriptor. -/
theorem host_reports_after_reset : ∃ h₀ h : AimuHost Unit, create .generous () none = .ok h₀ ∧
    Run HostStep h₀ (broughtUp ++ submits ++ [{ call := .reset }] ++ broughtUp) h ∧
    h.getSummary.commandsSubmitted = 1 ∧ h.getSummary.dmaSubmitted = 0 := by
  have hrun : ∃ h₀ : AimuHost Unit, create .generous () none = .ok h₀ ∧ ∃ h,
      Run HostStep h₀ (broughtUp ++ submits ++ [{ call := .reset }] ++ broughtUp) h :=
    ⟨_, rfl, _, Run.cons ⟨0, rfl⟩ <| Run.cons ⟨0, rfl⟩ <| Run.cons ⟨0, rfl⟩ <| Run.cons ⟨0, rfl⟩ <|
      Run.cons ⟨0, rfl⟩ <| Run.cons ⟨0, rfl⟩ <| Run.cons ⟨0, rfl⟩ Run.nil⟩
  obtain ⟨h₀, hc, h, hr⟩ := hrun
  obtain ⟨-, -, -, -, hcommands, hdmas, -⟩ := host_reports hc hr
  exact ⟨h₀, h, hc, hr, hcommands, hdmas⟩

end AimuHost

end Att1
