import Att1.Aimu.HostRuns
import Att1.Lib.Overwrite

/-!
# Att1.Aimu.Userspace — the emulator and its BAR0 file (`src/aimu_userspace.c`)

The emulator wraps a host.  If it was opened with a file, the registers are refreshed and copied to the file after
every call that succeeds and may have changed something.

* `AimuUserspace`, `UserCall`, `perform`: the emulator and its calls.
* `refresh_idem`: to refresh registers that have been refreshed changes nothing.
* `mapped_session`: what the file shows over whole sessions.
-/

open Att1.Lib

namespace Att1

open Mmio

variable {Ctx : Type}

/-- `att1_aimu_userspace`: its host, and the mapped file if there is one. -/
structure AimuUserspace (Ctx : Type) where
  host : AimuHost Ctx
  bar0Map : Option RegFile := none

/-- The `bar0_path` of an open: none, one that is too long or cannot be opened, sized and mapped, or one that can. -/
inductive Bar0Path
  | absent
  | unusable
  | usable
  deriving DecidableEq, Repr

namespace AimuUserspace

/-- `ATT1_AIMU_USERSPACE_MAX_TILE_MEM_BYTES`: 256 MiB. -/
def maxTileMemBytes : UInt64 := 0x10000000

/-- `flush_bar0`: without a file the registers are not refreshed either. -/
def flush (u : AimuUserspace Ctx) : AimuUserspace Ctx :=
  match u.bar0Map with
  | none => u
  | some _ => { host := u.host.sync, bar0Map := some u.host.sync.mmio.regs }

/-- `att1_aimu_userspace_open`. -/
def openWith (host : Host) (nullCtx : Ctx) (config : Option HostConfig) (path : Bar0Path) :
    Except Status (AimuUserspace Ctx) := do
  let cfg := config.getD {}
  let tiles := if cfg.tileCount = 0 then 4 else cfg.tileCount
  let memory := if cfg.tileMemoryBytes = 0 then 0x2000000 else cfg.tileMemoryBytes
  let kv := if cfg.tileKvBytes = 0 then 0x800000 else cfg.tileKvBytes
  rejectIf (16 < tiles) .invalidArg
  rejectIf (maxTileMemBytes < memory) .invalidArg
  rejectIf (¬ host.calloc 1 552) .oom
  let h ← AimuHost.create host nullCtx <| some
    { cfg with tileCount := tiles, tileMemoryBytes := memory, tileKvBytes := kv }
  rejectIf (path = .unusable) .invalidArg
  let u : AimuUserspace Ctx := { host := h, bar0Map := if path = .usable then some fun _ => 0 else none }
  return { u with host := u.host.sync }.flush

end AimuUserspace

/-- A call on the emulator. -/
inductive UserCall
  | probe
  | enumerateTiles (count : ℕ)
  | setupCmdq
  | read32 (offset : UInt32)
  | write32 (offset value : UInt32)
  | validateDma (desc : DmaDesc)
  | submitCmd (cmd : AimuCmd)
  | ringDoorbell
  | drain
  | snapshot
  | getSummary
  | flushBar0

/-- The call on the host that a call on the emulator makes. -/
def UserCall.hostCall : UserCall → Option HostCall
  | .probe => some .probeDevice
  | .enumerateTiles count => some (.enumerateTiles count)
  | .setupCmdq => some .setupCmdq
  | .read32 offset => some (.read32 offset)
  | .write32 offset value => some (.write32 offset value)
  | .validateDma desc => some (.validateDma desc)
  | .submitCmd cmd => some (.submitCmd cmd)
  | .ringDoorbell => some .ringDoorbell
  | .drain => some .drain
  | .snapshot => some .snapshotCounters
  | .getSummary => some .getSummary
  | .flushBar0 => none

/-- Whether the file is flushed after a call that succeeds. -/
def UserCall.flushes : UserCall → Bool
  | .read32 _ => false
  | .validateDma _ => false
  | .getSummary => false
  | _ => true

/-- One call; `fuel` bounds the commands that a drain dispatches. -/
def AimuUserspace.perform (fuel : ℕ) (u : AimuUserspace Ctx) (call : UserCall) :
    Option (AimuUserspace Ctx × HostAnswer) :=
  match call.hostCall with
  | none => some (u.flush, {})
  | some c =>
    (u.host.perform fuel c).map fun r =>
      let u := { u with host := r.1 }
      (if r.2.status = .ok ∧ call.flushes then u.flush else u, r.2)

/-- A call with its answer. -/
structure UserEvent extends HostAnswer where
  call : UserCall

/-- One call. -/
def UserStep (u : AimuUserspace Ctx) (e : UserEvent) (u' : AimuUserspace Ctx) : Prop :=
  ∃ fuel, u.perform fuel e.call = some (u', e.toHostAnswer)

/-! ### A refresh -/

theorem overwrites_store (cells : List (UInt32 × UInt32)) : Overwrites fun regs : RegFile => regs.store cells :=
  Overwrites.updates cells

/-- The defaults and a device: GLOBAL_STATUS has its default when the device is copied. -/
theorem overwrites_device (dev : Option AimuDevice) :
    Overwrites fun regs : RegFile => syncFromDevice dev (setDefaults regs) := by
  cases dev with
  | none => exact overwrites_store _
  | some dev =>
    have hstatus : ∀ regs : RegFile, (setDefaults regs).store (deviceCells dev) globalStatus = gstatDeviceReady := by
      intro regs
      refine (RegFile.store_of_not_mem fun c hc => ?_).trans rfl
      simp only [deviceCells, List.mem_cons, List.not_mem_nil, or_false] at hc
      rcases hc with rfl | rfl | rfl | rfl | rfl | rfl | rfl <;> simp only [ne_eq] <;> decide
    have heq : (fun regs : RegFile => syncFromDevice (some dev) (setDefaults regs)) = fun regs =>
        (((setDefaults regs).store (deviceCells dev)).store
          [(globalStatus, tileStatusBits dev ||| (gstatDeviceReady &&& gstatTraceActive))]).store
            (windowCells dev) := by
      funext regs
      unfold syncFromDevice
      simp only
      rw [hstatus]
    rw [heq]
    exact (overwrites_store _).comp ((overwrites_store _).comp ((overwrites_store _).comp (overwrites_store _)))

theorem overwrites_cmdq (q : Option (Cmdq Ctx)) : Overwrites fun regs : RegFile => syncFromCmdq q regs := by
  cases q with
  | none => exact Overwrites.id
  | some q => exact overwrites_store _

theorem overwrites_trace (tr : Option AimuTrace) : Overwrites fun regs : RegFile => syncFromTrace tr regs := by
  cases tr with
  | none => exact Overwrites.id
  | some tr =>
    unfold syncFromTrace
    by_cases hempty : tr.info.status = .empty
    · simp only [if_pos hempty]
      exact Overwrites.id
    · simp only [if_neg hempty]
      exact overwrites_store _

/-- A refresh copies the simulators over the registers, whatever these held. -/
theorem refresh_idem (s : MmioState Ctx) (regs : RegFile) : s.refresh (s.refresh regs) = s.refresh regs := by
  have hrefresh : Overwrites s.refresh :=
    (overwrites_trace s.sims.trace).comp ((overwrites_cmdq s.sims.cmdq).comp (overwrites_device s.sims.device))
  exact hrefresh.idem

namespace AimuUserspace

variable {u u' : AimuUserspace Ctx} {e : UserEvent} {es : List UserEvent} {h h' : AimuHost Ctx}

/-- The registers show the simulators as they are. -/
def Fresh (h : AimuHost Ctx) : Prop := h.view.refresh h.mmio.regs = h.mmio.regs

theorem sync_fresh (h : AimuHost Ctx) : Fresh h.sync := refresh_idem h.view h.mmio.regs

/-- What a call that is not followed by a flush does to the host: nothing, or it counts a refused command, or it leaves
the registers behind its queue. -/
inductive Unflushed (e : UserEvent) (h : AimuHost Ctx) : AimuHost Ctx → Prop
  | same : Unflushed e h h
  | counted (q : Cmdq Ctx) (hq : ∀ regs, syncFromCmdq (some q) regs = syncFromCmdq (some h.cmdq) regs) :
    Unflushed e h { h with cmdq := q }
  | behind (q : Cmdq Ctx) (hcall : (∃ cmd, e.call = .submitCmd cmd ∧ e.status = .queueFull) ∨ e.call = .drain) :
    Unflushed e h { h with cmdq := q }

/-- A refused submit either meets a full ring or leaves what the registers show of the queue alone. -/
theorem submit_unflushed (q : Cmdq Ctx) (cmd : AimuCmd) (hst : (q.submit (some cmd)).2.1 ≠ .ok) :
    (q.submit (some cmd)).2.1 = .queueFull ∨
      ∀ regs, syncFromCmdq (some (q.submit (some cmd)).1) regs = syncFromCmdq (some q) regs := by
  by_cases htile : q.config.tileCount ≤ cmd.tileId.toUInt64
  · have hsubmit : q.submit (some cmd) = (_, .invalidArg, some cmd) := if_pos htile
    rw [hsubmit]
    exact .inr fun _ => rfl
  · by_cases hfull : q.config.cmdRingDepth ≤ q.cmdqUsed + 1
    · have hsubmit : q.submit (some cmd) = (_, .queueFull, some cmd) := (if_neg htile).trans (if_pos hfull)
      rw [hsubmit]
      exact .inl rfl
    · have hsubmit : q.submit (some cmd) = (_, .ok, _) := (if_neg htile).trans (if_neg hfull)
      rw [hsubmit] at hst
      exact absurd rfl hst

theorem perform_unflushed {fuel : ℕ} {c : HostCall} {answer : HostAnswer} (hc : e.call.hostCall = some c)
    (hp : h.perform fuel c = some (h', answer)) (hstatus : e.status = answer.status)
    (hno : ¬ (answer.status = .ok ∧ e.call.flushes = true)) : Unflushed e h h' := by
  obtain ⟨a, call⟩ := e
  cases call with
  | probe =>
    obtain rfl := Option.some.inj hc
    obtain ⟨probe, hprobe, -⟩ := AimuHost.probeDevice_ok h
    unfold AimuHost.perform at hp
    simp only at hp
    rw [hprobe] at hp
    obtain ⟨-, rfl⟩ := Prod.mk.inj (Option.some.inj hp)
    exact absurd ⟨rfl, rfl⟩ hno
  | enumerateTiles count =>
    obtain rfl := Option.some.inj hc
    obtain ⟨rfl, -⟩ := Prod.mk.inj (Option.some.inj hp)
    exact .same
  | setupCmdq =>
    obtain rfl := Option.some.inj hc
    have hsetup : h.setupCmdq.map id (fun st => ({ status := st } : HostAnswer)) = (h', answer) := Option.some.inj hp
    unfold AimuHost.setupCmdq at hsetup
    split_ifs at hsetup
    · obtain ⟨rfl, -⟩ := Prod.mk.inj hsetup
      exact .same
    · obtain ⟨-, rfl⟩ := Prod.mk.inj hsetup
      exact absurd ⟨rfl, rfl⟩ hno
  | read32 offset =>
    obtain rfl := Option.some.inj hc
    obtain ⟨rfl, -⟩ := Prod.mk.inj (Option.some.inj hp)
    exact .same
  | write32 offset value =>
    obtain rfl := Option.some.inj hc
    obtain ⟨rfl, rfl⟩ := Prod.mk.inj (Option.some.inj hp)
    have hrefused : (h.view.write32 offset value).2 ≠ .ok := fun hok => hno ⟨hok, rfl⟩
    have hsame : h.through (h.view.write32 offset value).1 = h :=
      congrArg h.through (MmioState.write32_refused hrefused).1
    show Unflushed _ h (h.through (h.view.write32 offset value).1)
    rw [hsame]
    exact .same
  | validateDma desc =>
    obtain rfl := Option.some.inj hc
    obtain ⟨rfl, -⟩ := Prod.mk.inj (Option.some.inj hp)
    exact .same
  | submitCmd cmd =>
    obtain rfl := Option.some.inj hc
    have hsubmit : (h.submitCmd cmd).map id (fun r => ({ status := r.1, submitted := r.2 } : HostAnswer)) =
        (h', answer) := Option.some.inj hp
    unfold AimuHost.submitCmd at hsubmit
    split_ifs at hsubmit
    · obtain ⟨rfl, -⟩ := Prod.mk.inj hsubmit
      exact .same
    · obtain ⟨rfl, rfl⟩ := Prod.mk.inj hsubmit
      rcases submit_unflushed h.cmdq cmd fun hok => hno ⟨hok, rfl⟩ with hfull | hq
      · exact .behind _ (.inl ⟨cmd, rfl, hstatus.trans hfull⟩)
      · exact .counted _ hq
  | ringDoorbell =>
    obtain rfl := Option.some.inj hc
    have hring : h.ringDoorbell.map id (fun st => ({ status := st } : HostAnswer)) = (h', answer) := Option.some.inj hp
    unfold AimuHost.ringDoorbell at hring
    split_ifs at hring
    · obtain ⟨rfl, -⟩ := Prod.mk.inj hring
      exact .same
    · obtain ⟨-, rfl⟩ := Prod.mk.inj hring
      exact absurd ⟨rfl, rfl⟩ hno
  | drain =>
    obtain rfl := Option.some.inj hc
    obtain ⟨r, hr, heq⟩ := Option.map_eq_some_iff.mp hp
    obtain ⟨d, hd, rfl⟩ := Option.map_eq_some_iff.mp hr
    obtain ⟨rfl, -⟩ := Prod.mk.inj heq
    exact .behind _ (.inr rfl)
  | snapshot =>
    obtain rfl := Option.some.inj hc
    obtain ⟨-, rfl⟩ := Prod.mk.inj (Option.some.inj hp)
    exact absurd ⟨rfl, rfl⟩ hno
  | getSummary =>
    obtain rfl := Option.some.inj hc
    obtain ⟨rfl, -⟩ := Prod.mk.inj (Option.some.inj hp)
    exact .same
  | flushBar0 => cases hc

/-- Whether the queue may have moved on since the file was flushed. -/
def staleAfter (stale : Bool) (e : UserEvent) : Bool :=
  if e.status = .ok ∧ e.call.flushes then false
  else
    match e.call with
    | .submitCmd _ => stale || e.status = .queueFull
    | .drain => true
    | _ => stale

/-- The same after a session. -/
def stale (es : List UserEvent) : Bool := es.foldl staleAfter false

theorem staleAfter_of_unflushed {b : Bool} (hno : ¬ (e.status = .ok ∧ e.call.flushes = true))
    (h : staleAfter b e = false) :
    b = false ∧ e.call ≠ .drain ∧ ∀ cmd, e.call = .submitCmd cmd → e.status ≠ .queueFull := by
  unfold staleAfter at h
  rw [if_neg hno] at h
  obtain ⟨answer, call⟩ := e
  cases call with
  | submitCmd cmd =>
    obtain ⟨hb, hfull⟩ := Bool.or_eq_false_iff.mp h
    exact ⟨hb, UserCall.noConfusion, fun _ _ => of_decide_eq_false hfull⟩
  | drain => cases h
  | _ => exact ⟨h, fun heq => (by cases heq), fun _ heq => (by cases heq)⟩

/-- The file shows the registers, and these have the default control bits and are up to date. -/
structure Mirrored (stale : Bool) (u : AimuUserspace Ctx) : Prop where
  map : u.bar0Map = some u.host.mmio.regs
  bits : u.host.view.bits = {}
  fresh : stale = false → Fresh u.host

theorem flush_mirrored {regs : RegFile} (stale : Bool) :
    Mirrored stale ({ host := h, bar0Map := some regs } : AimuUserspace Ctx).flush :=
  ⟨rfl, MmioState.bits_sync h.view, fun _ => sync_fresh h⟩

/-- **One call.** -/
theorem userStep_mirrored {b : Bool} (hi : Mirrored b u) (hs : UserStep u e u') : Mirrored (staleAfter b e) u' := by
  obtain ⟨fuel, hp⟩ := hs
  obtain ⟨h, map⟩ := u
  obtain rfl : map = some h.mmio.regs := hi.map
  unfold perform at hp
  cases hc : e.call.hostCall with
  | none =>
    rw [hc] at hp
    obtain ⟨rfl, -⟩ := Prod.mk.inj (Option.some.inj hp)
    exact flush_mirrored _
  | some c =>
    rw [hc] at hp
    obtain ⟨⟨h', answer⟩, hhost, heq⟩ := Option.map_eq_some_iff.mp hp
    obtain ⟨rfl, hanswer⟩ := Prod.mk.inj heq
    have hstatus : e.status = answer.status := congrArg HostAnswer.status hanswer.symm
    by_cases hflush : answer.status = .ok ∧ e.call.flushes = true
    · simp only [if_pos hflush]
      exact flush_mirrored _
    · simp only [if_neg hflush]
      have hun := perform_unflushed hc hhost hstatus hflush
      have hstale := @staleAfter_of_unflushed e b (hstatus ▸ hflush)
      cases hun with
      | same => exact ⟨rfl, hi.bits, fun hb => hi.fresh (hstale hb).1⟩
      | counted q hq =>
        refine ⟨rfl, hi.bits, fun hb => ?_⟩
        have hfresh := hi.fresh (hstale hb).1
        unfold Fresh MmioState.refresh at hfresh ⊢
        have hcmdq : ∀ regs : RegFile, syncFromCmdq (if h.cmdqAttached then some q else none) regs =
            syncFromCmdq (if h.cmdqAttached then some h.cmdq else none) regs := by
          intro regs
          cases h.cmdqAttached with
          | false => rfl
          | true => exact hq regs
        exact (congrArg (syncFromTrace (some h.trace)) (hcmdq _)).trans hfresh
      | behind q hcall =>
        refine ⟨rfl, hi.bits, fun hb => ?_⟩
        obtain ⟨-, hdrain, hsubmit⟩ := hstale hb
        rcases hcall with ⟨cmd, hcall, hfull⟩ | hcall
        · exact absurd hfull (hsubmit cmd hcall)
        · exact absurd hcall hdrain

theorem open_mirrored {host : Host} {nullCtx : Ctx} {config : Option HostConfig}
    (ho : openWith host nullCtx config .usable = .ok u) : Mirrored false u := by
  obtain ⟨-, ho⟩ := rejectIf_bind_eq_ok.mp ho
  obtain ⟨-, ho⟩ := rejectIf_bind_eq_ok.mp ho
  obtain ⟨-, ho⟩ := rejectIf_bind_eq_ok.mp ho
  obtain ⟨h, -, ho⟩ := bind_eq_ok.mp ho
  obtain ⟨-, ho⟩ := rejectIf_bind_eq_ok.mp ho
  obtain rfl := Except.ok.inj ho
  exact flush_mirrored false

/-- **What the BAR0 file shows.**  In every session on an emulator that was opened with a file, the file holds what a
read of any readable register returns; the registers show the simulators as they are unless a submit has met a full
ring or a drain has failed since the last successful call; and DEVICE_READY is set and TRACE_ACTIVE clear, whatever
has been written to GLOBAL_CONTROL. -/
theorem mapped_session {host : Host} {nullCtx : Ctx} {config : Option HostConfig} {u₀ : AimuUserspace Ctx}
    (ho : openWith host nullCtx config .usable = .ok u₀) (hr : Run UserStep u₀ es u) :
    (∃ map, u.bar0Map = some map ∧ ∀ offset, MmioState.validOffset offset = true → accessType offset ≠ .wo →
      accessType offset ≠ .reserved → u.host.view.read32 offset = .ok (map offset)) ∧
    u.host.view.bits = {} ∧
    (stale es = false → u.host.view.refresh u.host.mmio.regs = u.host.mmio.regs) := by
  have hi : Mirrored (stale es) u :=
    @Run.invariant _ _ _ _ _ _ (fun es u => Mirrored (stale es) u) (open_mirrored ho)
      (fun es _ e _ _ hi hs => by
        unfold stale
        rw [List.foldl_concat]
        exact userStep_mirrored hi hs) hr
  refine ⟨⟨_, hi.map, fun offset hv hwo hres => ?_⟩, hi.bits, hi.fresh⟩
  unfold MmioState.read32
  rw [if_neg (not_not.mpr hv)]
  cases hat : accessType offset with
  | wo => exact absurd hat hwo
  | reserved => exact absurd hat hres
  | _ => rfl

/-- The device is disabled, and the file shows it ready. -/
theorem mapped_session_disabled : ∃ u₀ u : AimuUserspace Unit, openWith .generous () none .usable = .ok u₀ ∧
    Run UserStep u₀ [{ call := .write32 globalControl gctrlDisableDevice }] u ∧
    (∃ map, u.bar0Map = some map ∧ u.host.view.read32 globalStatus = .ok (map globalStatus)) ∧
    u.host.view.bits.device = true := by
  have hrun : ∃ u₀ : AimuUserspace Unit, openWith .generous () none .usable = .ok u₀ ∧ ∃ u,
      Run UserStep u₀ [{ call := .write32 globalControl gctrlDisableDevice }] u :=
    ⟨_, rfl, _, Run.cons ⟨0, rfl⟩ Run.nil⟩
  obtain ⟨u₀, ho, u, hr⟩ := hrun
  obtain ⟨⟨map, hmap, hread⟩, hbits, -⟩ := mapped_session ho hr
  refine ⟨u₀, u, ho, hr, ⟨map, hmap, hread globalStatus rfl ?_ ?_⟩, congrArg ControlState.device hbits⟩
  · exact RegAccess.noConfusion
  · exact RegAccess.noConfusion

end AimuUserspace

end Att1
