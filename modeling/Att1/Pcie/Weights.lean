import Att1.Pcie.Model
import Att1.Conformance.Registry
import Att1.Lib.Runs

/-!
# Att1.Pcie.Weights — two backends that share the registry of one endpoint

* `WeightStep`: a matmul or a norm of one of the two backends, which registers its weight the first time.
* `OwnWeightLaw`: the kernel that a matmul runs is the one its caller asked for, on the weight the caller registered.
* `own_weight_iff`: a run obeys the law throughout exactly when, at every matmul of a weight that is registered, the
  latest registration of its rank by either backend is of this weight.
-/

open Att1.Lib Att1.Conformance

namespace Att1.Pcie

/-! ### An exec on an idle endpoint -/

section Idle

variable {kernels : MathKernels} {q q' : Cmdq ConfCtx} {tileId : UInt32} {cmd : AimuCmd}

/-- Nothing pending and nothing to poll. -/
structure Idle (kernels : MathKernels) (q : Cmdq ConfCtx) : Prop where
  wellFormed : q.WellFormed
  pending : q.pendingCmds = []
  completions : q.completions = []
  hook : q.execHook = some (confExecHook kernels)

/-- The endpoint takes commands for the tile. -/
def Admits (q : Cmdq ConfCtx) (tileId : UInt32) : Prop :=
  tileId.toUInt8.toUInt64 < q.config.tileCount ∧ 1 < q.config.cmdRingDepth

theorem Idle.accepts_iff (h : Idle kernels q) : q.Accepts (forTile tileId cmd) ↔ Admits q tileId := by
  have hused : q.cmdqUsed = 0 := by
    apply UInt64.toNat_inj.mp
    rw [← Cmdq.length_pendingCmds, h.pending]
    rfl
  unfold Cmdq.Accepts Admits
  rw [hused, UInt64.zero_add]
  rfl

theorem Idle.compRoom_eq (h : Idle kernels q) (h' : Idle kernels q') (hc : q'.config = q.config) :
    q'.compRoom = q.compRoom := by
  unfold Cmdq.compRoom
  rw [hc, h.completions, h'.completions]

/-- What an idle endpoint runs for a command. -/
def idleRun (kernels : MathKernels) (q : Cmdq ConfCtx) (tileId : UInt32) (cmd : AimuCmd) :
    ConfCtx × AimuCmd × AimuResult :=
  Cmdq.runCmd (some (confExecHook kernels)) q.execHookCtx (q.storedCmd (forTile tileId cmd))

theorem exec_idle_refused (h : Idle kernels q) (ha : ¬ Admits q tileId) :
    ∃ q', pcieSubmitExec inprocOps tileId q cmd = (q', false) ∧ Idle kernels q' ∧ q'.config = q.config ∧
      q'.execHookCtx = q.execHookCtx := by
  obtain ⟨q', status, heq, hst, hs⟩ := Cmdq.submit_refused h.wellFormed (mt h.accepts_iff.mp ha)
  refine ⟨q', ?_, ⟨hs.wellFormed, hs.pending.trans h.pending, hs.completions.trans h.completions, hs.hook.trans h.hook⟩,
    hs.config, hs.ctx⟩
  have hsubmit : inprocOps.cmdSubmit q (forTile tileId cmd) = (q', status, forTile tileId cmd) := by
    show ((q.submit (some (forTile tileId cmd))).1, _, _) = _
    rw [heq]
    rfl
  unfold pcieSubmitExec
  rw [hsubmit]
  exact if_pos hst

/-- The command is run, and its completion is polled if there was room for it. -/
theorem exec_idle (h : Idle kernels q) (ha : Admits q tileId) :
    ∃ q' success, pcieSubmitExec inprocOps tileId q cmd = (q', success) ∧ Idle kernels q' ∧ q'.config = q.config ∧
      q'.execHookCtx = (idleRun kernels q tileId cmd).1 ∧
      (success = true ↔ q.compRoom ≠ 0 ∧ (idleRun kernels q tileId cmd).2.2 = .ok) := by
  obtain ⟨q₁, heq, hs⟩ := Cmdq.submit_accepted h.wellFormed (h.accepts_iff.mpr ha)
  set own := q.storedCmd (forTile tileId cmd) with hown
  have hsubmit : inprocOps.cmdSubmit q (forTile tileId cmd) = (q₁, .ok, own) := by
    show ((q.submit (some (forTile tileId cmd))).1, _, _) = _
    rw [heq]
    rfl
  have hexec : pcieSubmitExec inprocOps tileId q cmd =
      (if q₁.dispatchOne.2 ≠ .ok then (q₁.dispatchOne.1, false)
        else
          let p := q₁.dispatchOne.1.pollCompletion true
          if p.2.1 ≠ .ok then (p.1, false)
          else (p.1, decide (resultToStatus (p.2.2.getD {}).resultCode = .ok))) := by
    unfold pcieSubmitExec
    rw [hsubmit]
    rfl
  have hhook₁ : q₁.execHook = some (confExecHook kernels) := hs.hook.trans h.hook
  have hpend₁ : q₁.pendingCmds = [own] := by
    rw [hs.pending, h.pending]
    rfl
  have hroom₁ : q₁.compRoom = q.compRoom := by
    unfold Cmdq.compRoom
    rw [hs.config, hs.completions]
  obtain ⟨taken, answers, hd, ⟨hnil, -⟩ | ⟨first, rest, hfirst, rfl, hctx, hcases⟩⟩ :=
    Cmdq.dispatchOne_served hs.wellFormed (hhook₁ ▸ confExecHook_keepsDescriptor kernels)
  · rw [hpend₁] at hnil
    cases hnil
  rw [hpend₁] at hfirst
  obtain ⟨rfl, rfl⟩ := List.cons.inj hfirst
  have hpend₂ : q₁.dispatchOne.1.pendingCmds = [] := by
    rw [hd.pending, hpend₁]
    rfl
  have hctx₂ : q₁.dispatchOne.1.execHookCtx = (idleRun kernels q tileId cmd).1 := by
    rw [hctx, hhook₁, hs.ctx]
    rfl
  rw [hexec]
  obtain ⟨hroom, hst, comp, rfl, hcode⟩ | ⟨hroom, hst, rfl⟩ := hcases
  · rw [hst, if_neg (not_not.mpr rfl)]
    obtain ⟨hempty, -⟩ | ⟨comp', q₃, hpoll, hp⟩ := Cmdq.pollCompletion_polled hd.wellFormed
    · rw [hd.completions] at hempty
      exact absurd (congrArg List.length hempty) (by simp)
    · rw [hpoll]
      have hcomps := hd.completions.symm.trans hp.completions
      rw [hs.completions, h.completions] at hcomps
      obtain ⟨rfl, hnil⟩ := List.cons.inj hcomps
      refine ⟨q₃, _, if_neg (not_not.mpr rfl), ⟨hp.wellFormed, hp.pending.trans hpend₂, hnil.symm, ?_⟩, ?_,
        hp.ctx.trans hctx₂, ?_⟩
      · rw [hp.hook, hd.hook, hhook₁]
      · rw [hp.config, hd.config, hs.config]
      · rw [hhook₁, hs.ctx] at hcode
        have hfin := runCmd_finished kernels q.execHookCtx own
        rw [decide_eq_true_iff]
        show resultToStatus comp.resultCode = .ok ↔ _
        rw [hcode, resultToStatus_ok]
        constructor
        · rintro (hok | hbusy | hpending)
          · exact ⟨hroom₁ ▸ hroom, hok⟩
          · exact absurd hbusy hfin.not_busy
          · exact absurd hpending hfin.not_pending
        · intro hok
          exact Or.inl hok.2
  · have hstop : Status.queueFull ≠ .ok := Status.noConfusion
    rw [hst, if_pos hstop]
    refine ⟨_, _, rfl, ⟨hd.wellFormed, hpend₂, ?_, hd.hook.trans hhook₁⟩, hd.config.trans hs.config, hctx₂, ?_⟩
    · rw [hd.completions, hs.completions, h.completions]
      rfl
    · exact iff_of_false Bool.noConfusion fun hok => hok.1 (hroom₁ ▸ hroom)

end Idle

/-! ### The calls -/

/-- A call of a backend on a weight. -/
inductive WeightCall
  | matmulF32 (dst lhs rhs : UInt64) (rows cols inner : ℕ)
  | matmulQ8xf32 (dst lhs : UInt64) (lhsRows lhsCols : ℕ) (weights : Option QuantMatrix)
  | matmulQ4xf32 (dst lhs : UInt64) (lhsRows lhsCols : ℕ) (weights : Option QuantMatrix)
  | rmsnormF32 (dst src weight : UInt64) (count : ℕ) (epsilon : UInt32)

namespace WeightCall

def perform (q : Cmdq ConfCtx) (data : PcieBackendData) : WeightCall → Cmdq ConfCtx × PcieBackendData × Bool
  | .matmulF32 dst lhs rhs rows cols inner => pcieMatmulF32 inprocOps q data dst lhs rhs rows cols inner
  | .matmulQ8xf32 dst lhs lhsRows lhsCols weights => pcieMatmulQ8xf32 inprocOps q data dst lhs lhsRows lhsCols weights
  | .matmulQ4xf32 dst lhs lhsRows lhsCols weights => pcieMatmulQ4xf32 inprocOps q data dst lhs lhsRows lhsCols weights
  | .rmsnormF32 dst src weight count epsilon => pcieRmsnormF32 inprocOps q data dst src weight count epsilon

/-- A matmul with its weight and its sizes. -/
structure MatmulArgs where
  dtype : UInt8
  dst : UInt64
  lhs : UInt64
  weights : UInt64
  dim0 : UInt16
  dim1 : UInt16
  outputs : ℕ
  inputs : ℕ

/-- The arguments of a matmul that its first checks let pass. -/
def matmul : WeightCall → Option MatmulArgs
  | .matmulF32 dst lhs rhs rows cols inner =>
    if rows ≠ 1 then none
    else some ⟨dtypeF32, dst, lhs, rhs, UInt16.ofNat inner, UInt16.ofNat cols, cols, inner⟩
  | .matmulQ8xf32 dst lhs lhsRows lhsCols (some w) =>
    if lhsRows ≠ 1 then none
    else some ⟨dtypeQ8, dst, lhs, w.addr, UInt16.ofNat w.rows, UInt16.ofNat w.cols, w.rows, lhsCols⟩
  | .matmulQ4xf32 dst lhs lhsRows lhsCols (some w) =>
    if lhsRows ≠ 1 then none
    else some ⟨dtypeQ4, dst, lhs, w.addr, UInt16.ofNat w.rows, UInt16.ofNat w.cols, w.rows, lhsCols⟩
  | _ => none

/-- The matmul has a weight and buffers, and sizes that are not 0 in the fields of the command. -/
def MatmulArgs.Valid (m : MatmulArgs) : Prop :=
  m.weights ≠ 0 ∧ m.lhs ≠ 0 ∧ m.dst ≠ 0 ∧ (UInt32.ofNat m.outputs).toNat ≠ 0 ∧ (UInt32.ofNat (m.inputs * 4) / 4).toNat ≠ 0

instance (m : MatmulArgs) : Decidable m.Valid :=
  inferInstanceAs (Decidable (m.weights ≠ 0 ∧ m.lhs ≠ 0 ∧ m.dst ≠ 0 ∧ (UInt32.ofNat m.outputs).toNat ≠ 0 ∧
    (UInt32.ofNat (m.inputs * 4) / 4).toNat ≠ 0))

/-- The kernel that the matmul asks for, on a given weight. -/
def MatmulArgs.run (m : MatmulArgs) (weights : UInt64) : MatmulRun :=
  ⟨m.dtype, m.dst, m.lhs, weights, (UInt32.ofNat m.outputs).toNat, (UInt32.ofNat (m.inputs * 4) / 4).toNat⟩

end WeightCall

open WeightCall

/-- An endpoint with two backends, and the history of their registrations. -/
structure SharedBackends where
  queue : Cmdq ConfCtx
  tileA : PcieBackendData
  tileB : PcieBackendData
  registrations : List Registration := []

namespace SharedBackends

def side (s : SharedBackends) (isA : Bool) : PcieBackendData := if isA then s.tileA else s.tileB

/-- What a call of one side has registered. -/
def registered (isA : Bool) (data data' : PcieBackendData) : List Registration :=
  if data.autoTensorCount < data'.autoTensorCount then
    [⟨isA, data.autoTensorCount, (data'.autoTensors data.autoTensorCount).ptr,
      (data'.autoTensors data.autoTensorCount).dtype⟩]
  else []

/-- After a call of one side. -/
def after (s : SharedBackends) (isA : Bool) (q : Cmdq ConfCtx) (data : PcieBackendData) : SharedBackends where
  queue := q
  tileA := if isA then data else s.tileA
  tileB := if isA then s.tileB else data
  registrations := s.registrations ++ registered isA (s.side isA) data

@[simp] theorem side_after (s : SharedBackends) (isA : Bool) (q : Cmdq ConfCtx) (data : PcieBackendData) :
    (s.after isA q data).side isA = data := by
  cases isA <;> rfl

@[simp] theorem side_after_not (s : SharedBackends) (isA : Bool) (q : Cmdq ConfCtx) (data : PcieBackendData) :
    (s.after isA q data).side (!isA) = s.side !isA := by
  cases isA <;> rfl

end SharedBackends

/-- A call of one side with its result and the matmul kernels that ran. -/
structure WeightEvent where
  isA : Bool
  call : WeightCall
  success : Bool
  runs : List MatmulRun

/-- One call. -/
def WeightStep (s : SharedBackends) (e : WeightEvent) (s' : SharedBackends) : Prop :=
  ∃ q data, e.call.perform s.queue (s.side e.isA) = (q, data, e.success) ∧ s' = s.after e.isA q data ∧
    e.runs = q.execHookCtx.matmuls.drop s.queue.execHookCtx.matmuls.length

/-- A kernel runs for a matmul only, and on the weight given to it; and it does run when the matmul is valid and its
weight registered. -/
def OwnWeightLaw (es : List WeightEvent) (s : SharedBackends) : Prop :=
  ∀ e ∈ es.getLast?,
    (∀ run ∈ e.runs, ∃ m ∈ e.call.matmul, run = m.run m.weights) ∧
    ∀ m ∈ e.call.matmul, m.Valid → ((s.side e.isA).find m.weights m.dtype).isSome → e.runs = [m.run m.weights]

/-- The latest registration of the rank that the caller has for its weight is of this weight. -/
def LatestIsOwn (s : SharedBackends) (e : WeightEvent) : Prop :=
  ∀ m ∈ e.call.matmul, m.Valid → ∀ i ∈ (s.side e.isA).find m.weights m.dtype, ∀ r ∈ latest s.registrations i,
    r.ptr = m.weights ∧ r.dtype = m.dtype

theorem weightStep_deterministic : Deterministic WeightStep := by
  rintro s e s' s'' ⟨q, data, h, rfl, -⟩ ⟨q', data', h', rfl, -⟩
  obtain ⟨rfl, h⟩ := Prod.mk.inj (h.symm.trans h')
  obtain ⟨rfl, -⟩ := Prod.mk.inj h
  rfl

/-! ### Registering a weight -/

/-- The ids of a backend are those of its ranks. -/
structure PcieBackendData.Ranked (data : PcieBackendData) : Prop where
  count : data.autoTensorCount ≤ maxAutoTensors
  next : data.nextAutoTensorId = idOf data.autoTensorCount
  id : ∀ i < data.autoTensorCount, (data.autoTensors i).tensorId = idOf i

/-- The invariant of the two backends. -/
structure BackendsInv (kernels : MathKernels) (s : SharedBackends) : Prop where
  idle : Idle kernels s.queue
  ranked : ∀ isA, (s.side isA).Ranked
  admits : ∀ isA, 0 < (s.side isA).autoTensorCount → Admits s.queue (s.side isA).tileId ∧ s.queue.compRoom ≠ 0
  registry : s.queue.compRoom ≠ 0 → Registry s.queue.execHookCtx s.registrations
    (max s.tileA.autoTensorCount s.tileB.autoTensorCount)

section Register

variable {kernels : MathKernels} {s : SharedBackends} {data : PcieBackendData} {ptr : UInt64} {dtype : UInt8}
  {dim0 dim1 : UInt16} {isA : Bool} {i : ℕ}

theorem find_some (h : data.find ptr dtype = some i) :
    i < data.autoTensorCount ∧ (data.autoTensors i).ptr = ptr ∧ (data.autoTensors i).dtype = dtype := by
  obtain ⟨hi, hp⟩ := findSlot_some h
  rw [Bool.and_eq_true, beq_iff_eq, beq_iff_eq] at hp
  exact ⟨hi, hp⟩

theorem push_ranked (h : data.Ranked) (hroom : ¬ maxAutoTensors ≤ data.autoTensorCount) : (data.push ptr dtype).Ranked := by
  refine ⟨not_le.mp hroom, ?_, ?_⟩
  · show data.nextAutoTensorId - 1 = idOf (data.autoTensorCount + 1)
    have hcount := h.count
    unfold maxAutoTensors at hcount
    apply UInt16.toNat_inj.mp
    have hone : (1 : UInt16) ≤ data.nextAutoTensorId := by
      rw [h.next, UInt16.le_iff_toNat_le, toNat_idOf]
      show 1 ≤ _
      omega
    rw [UInt16.toNat_sub_of_le _ _ hone, h.next, toNat_idOf, toNat_idOf]
    show _ - 1 = _
    omega
  · intro i hi
    show (Function.update data.autoTensors data.autoTensorCount ⟨ptr, dtype, data.nextAutoTensorId⟩ i).tensorId = idOf i
    by_cases heq : i = data.autoTensorCount
    · rw [heq, Function.update_self]
      exact h.next
    · rw [Function.update_of_ne heq]
      exact h.id i (Nat.lt_of_le_of_ne (Nat.lt_succ_iff.mp hi) heq)

theorem find_push (h : data.find ptr dtype = none) : (data.push ptr dtype).find ptr dtype = some data.autoTensorCount := by
  have hnone := findSlot_eq_none.mp h
  unfold PcieBackendData.find PcieBackendData.push
  apply findSlot_of_first (Nat.lt_succ_self _)
  · simp only
    rw [Function.update_self, beq_self_eq_true, beq_self_eq_true]
    rfl
  · intro j hj
    simp only
    rw [Function.update_of_ne (Nat.ne_of_lt hj)]
    exact hnone j hj

theorem registered_self (isA : Bool) (data : PcieBackendData) : SharedBackends.registered isA data data = [] :=
  if_neg (Nat.lt_irrefl _)

theorem registered_push (isA : Bool) (data : PcieBackendData) (ptr : UInt64) (dtype : UInt8) :
    SharedBackends.registered isA data (data.push ptr dtype) = [⟨isA, data.autoTensorCount, ptr, dtype⟩] := by
  refine (if_pos (Nat.lt_succ_self _)).trans ?_
  unfold PcieBackendData.push
  simp only
  rw [Function.update_self]

/-- The other side has an invariant of its own. -/
theorem forall_side_after {P : PcieBackendData → Prop} {q : Cmdq ConfCtx} (hd : P data) (h : ∀ isA, P (s.side isA)) :
    ∀ isA', P ((s.after isA q data).side isA') := by
  intro isA'
  by_cases heq : isA' = isA
  · rw [heq, SharedBackends.side_after]
    exact hd
  · obtain rfl : isA' = !isA := by
      cases isA <;> cases isA' <;> first | rfl | exact absurd rfl heq
    rw [SharedBackends.side_after_not]
    exact h _

/-- An exec that leaves the registry alone keeps the invariant. -/
theorem BackendsInv.withQueue {q : Cmdq ConfCtx} (h : BackendsInv kernels s) (hidle : Idle kernels q)
    (hconfig : q.config = s.queue.config)
    (hreg : s.queue.compRoom ≠ 0 → q.execHookCtx.tensors = s.queue.execHookCtx.tensors ∧
      q.execHookCtx.tensorCount = s.queue.execHookCtx.tensorCount) :
    BackendsInv kernels { s with queue := q } := by
  have hroom := h.idle.compRoom_eq hidle hconfig
  refine ⟨hidle, h.ranked, fun isA hpos => ?_, fun hne => ?_⟩
  · obtain ⟨hadm, hne⟩ := h.admits isA hpos
    refine ⟨?_, ?_⟩
    · unfold Admits
      rw [hconfig]
      exact hadm
    · show q.compRoom ≠ 0
      rw [hroom]
      exact hne
  · have hne' : s.queue.compRoom ≠ 0 := hroom ▸ hne
    exact (h.registry hne').congr (hreg hne').1 (hreg hne').2

theorem withQueue_after (s : SharedBackends) (isA : Bool) (q : Cmdq ConfCtx) :
    s.after isA q (s.side isA) = { s with queue := q } := by
  unfold SharedBackends.after
  rw [registered_self, List.append_nil]
  cases isA <;> rfl

/-- What registering a weight leaves, and where the weight is registered then. -/
inductive Registers (kernels : MathKernels) (s : SharedBackends) (isA : Bool) (ptr : UInt64) (dtype : UInt8)
    (q : Cmdq ConfCtx) : PcieBackendData → Option UInt16 → Prop
  | failed (hfind : ptr = 0 ∨ (s.side isA).find ptr dtype = none) : Registers kernels s isA ptr dtype q (s.side isA) none
  | known {i : ℕ} (hfind : (s.side isA).find ptr dtype = some i) (hq : q = s.queue) :
    Registers kernels s isA ptr dtype q (s.side isA) (some (idOf i))
  | loaded (hfind : (s.side isA).find ptr dtype = none) :
    Registers kernels s isA ptr dtype q ((s.side isA).push ptr dtype) (some (idOf (s.side isA).autoTensorCount))

theorem register_spec (h : BackendsInv kernels s) (isA : Bool) (ptr : UInt64) (dtype : UInt8) (dim0 dim1 : UInt16) :
    ∃ q data id, pcieRegisterWeight inprocOps s.queue (s.side isA) ptr dtype dim0 dim1 = (q, data, id) ∧
      Registers kernels s isA ptr dtype q data id ∧ BackendsInv kernels (s.after isA q data) ∧
      q.execHookCtx.matmuls = s.queue.execHookCtx.matmuls := by
  have hself : s.after isA s.queue (s.side isA) = s := withQueue_after s isA s.queue
  unfold pcieRegisterWeight
  by_cases hptr : ptr = 0
  · rw [if_pos hptr]
    exact ⟨_, _, _, rfl, .failed (Or.inl hptr), hself.symm ▸ h, rfl⟩
  rw [if_neg hptr]
  cases hfind : (s.side isA).find ptr dtype with
  | some i =>
    have hid := (h.ranked isA).id i (find_some hfind).1
    simp only
    rw [hid]
    exact ⟨_, _, _, rfl, .known hfind rfl, hself.symm ▸ h, rfl⟩
  | none =>
    simp only
    by_cases hfull : maxAutoTensors ≤ (s.side isA).autoTensorCount ∨ (s.side isA).nextAutoTensorId = 0
    · rw [if_pos hfull]
      exact ⟨_, _, _, rfl, .failed (Or.inr hfind), hself.symm ▸ h, rfl⟩
    rw [if_neg hfull]
    rw [not_or] at hfull
    by_cases hadm : Admits s.queue (s.side isA).tileId
    · obtain ⟨q, success, heq, hidle, hconfig, hctx, hiff⟩ := @exec_idle kernels s.queue (s.side isA).tileId
        (loadCmd ptr dtype dim0 dim1 (s.side isA).nextAutoTensorId) h.idle hadm
      have hrun : idleRun kernels s.queue (s.side isA).tileId
          (loadCmd ptr dtype dim0 dim1 (s.side isA).nextAutoTensorId) = _ := runCmd_load kernels _ rfl
      rw [hrun] at hctx hiff
      rw [heq]
      simp only
      have hmatmuls : q.execHookCtx.matmuls = s.queue.execHookCtx.matmuls := by
        rw [hctx]
        exact confExecLoadTensorTile_matmuls _ _
      by_cases hroom : s.queue.compRoom = 0
      · have hfail : success = false := by
          rw [← Bool.not_eq_true, hiff]
          exact fun hok => hok.1 hroom
        rw [hfail, if_pos rfl]
        refine ⟨_, _, _, rfl, .failed (Or.inr hfind), ?_, hmatmuls⟩
        rw [withQueue_after]
        exact h.withQueue hidle hconfig fun hne => absurd hroom hne
      · -- the load is of a rank that the other side may have used already
        have hle : (s.side isA).autoTensorCount ≤ max s.tileA.autoTensorCount s.tileB.autoTensorCount := by
          cases isA with
          | true => exact le_max_left _ _
          | false => exact le_max_right _ _
        have hbound : max s.tileA.autoTensorCount s.tileB.autoTensorCount ≤ confMaxTensors :=
          max_le (h.ranked true).count (h.ranked false).count
        have hid : (s.queue.storedCmd (forTile (s.side isA).tileId
            (loadCmd ptr dtype dim0 dim1 (s.side isA).nextAutoTensorId))).tensorId =
            idOf (s.side isA).autoTensorCount := (h.ranked isA).next
        obtain ⟨ep, hload, -, hreg⟩ := load_registry (h.registry hroom) hbound hle (not_le.mp hfull.1) hid hptr isA
        rw [hload] at hctx hiff
        rw [hiff.mpr ⟨hroom, rfl⟩, if_neg Bool.noConfusion, (h.ranked isA).next]
        refine ⟨_, _, _, rfl, .loaded hfind, ?_, hmatmuls⟩
        refine ⟨hidle, forall_side_after (push_ranked (h.ranked isA) hfull.1) h.ranked, ?_, ?_⟩
        · have hadm' : ∀ tileId, Admits s.queue tileId → Admits q tileId := by
            intro tileId ha
            unfold Admits
            rw [hconfig]
            exact ha
          have hroom' : q.compRoom ≠ 0 := h.idle.compRoom_eq hidle hconfig ▸ hroom
          have hside := @forall_side_after s ((s.side isA).push ptr dtype) isA
            (fun data => 0 < data.autoTensorCount → Admits q data.tileId ∧ q.compRoom ≠ 0) q
            (fun _ => ⟨hadm' _ hadm, hroom'⟩) (fun isA' hpos => ⟨hadm' _ (h.admits isA' hpos).1, hroom'⟩)
          exact hside
        · intro _
          show Registry q.execHookCtx (s.registrations ++ SharedBackends.registered isA (s.side isA) _) _
          rw [registered_push, hctx]
          have hmax : max (s.after isA q ((s.side isA).push ptr dtype)).tileA.autoTensorCount
              (s.after isA q ((s.side isA).push ptr dtype)).tileB.autoTensorCount =
              max (max s.tileA.autoTensorCount s.tileB.autoTensorCount) ((s.side isA).autoTensorCount + 1) := by
            cases isA with
            | true =>
              show max (s.tileA.autoTensorCount + 1) s.tileB.autoTensorCount = max _ (s.tileA.autoTensorCount + 1)
              omega
            | false =>
              show max s.tileA.autoTensorCount (s.tileB.autoTensorCount + 1) = max _ (s.tileB.autoTensorCount + 1)
              omega
          rw [hmax]
          exact hreg
    · obtain ⟨q, heq, hidle, hconfig, hctx⟩ := @exec_idle_refused kernels s.queue (s.side isA).tileId
        (loadCmd ptr dtype dim0 dim1 (s.side isA).nextAutoTensorId) h.idle hadm
      rw [heq]
      refine ⟨_, _, _, rfl, .failed (Or.inr hfind), ?_, ?_⟩
      · show BackendsInv kernels (s.after isA q (s.side isA))
        rw [withQueue_after]
        refine h.withQueue hidle hconfig fun _ => ?_
        rw [hctx]
        exact ⟨rfl, rfl⟩
      · show q.execHookCtx.matmuls = _
        rw [hctx]

theorem Registers.registered_lt {q : Cmdq ConfCtx} {id : UInt16}
    (h : Registers kernels s isA ptr dtype q data (some id)) :
    ∃ i, data.find ptr dtype = some i ∧ id = idOf i ∧
      (((s.side isA).find ptr dtype = some i ∧ data = s.side isA ∧ q = s.queue) ∨
        ((s.side isA).find ptr dtype = none ∧ latest (s.after isA q data).registrations i = some ⟨isA, i, ptr, dtype⟩)) := by
  cases h with
  | known hfind hq => exact ⟨_, hfind, rfl, Or.inl ⟨hfind, rfl, hq⟩⟩
  | loaded hfind =>
    refine ⟨_, find_push hfind, rfl, Or.inr ⟨hfind, ?_⟩⟩
    show latest (s.registrations ++ SharedBackends.registered isA (s.side isA) _) _ = _
    rw [registered_push, latest_snoc]
    exact if_pos rfl

/-! ### Running a command on a registered weight -/

/-- The entry of a rank that one side has used. -/
theorem BackendsInv.entry (h : BackendsInv kernels s) (hi : i < (s.side isA).autoTensorCount) :
    ∃ r, latest s.registrations i = some r ∧ confTensorFind s.queue.execHookCtx (idOf i) = some i ∧
      (s.queue.execHookCtx.tensors i).dtype = r.dtype ∧ (s.queue.execHookCtx.tensors i).hostAddr = r.ptr := by
  have hreg := h.registry (h.admits isA (Nat.zero_lt_of_lt hi)).2
  have hlt : i < max s.tileA.autoTensorCount s.tileB.autoTensorCount := by
    cases isA with
    | true => exact lt_max_of_lt_left hi
    | false => exact lt_max_of_lt_right hi
  obtain ⟨r, hr, hdtype, hptr⟩ := hreg.latest i hlt
  exact ⟨r, hr, hreg.find (max_le (h.ranked true).count (h.ranked false).count) hlt, hdtype, hptr⟩

/-- The kernels that a matmul runs when the latest registration of the rank of its weight is `r`. -/
def expectedRuns (m : MatmulArgs) (r : Registration) : List MatmulRun :=
  if m.Valid ∧ r.dtype = m.dtype then [m.run r.ptr] else []

theorem exec_matmul (h : BackendsInv kernels s) (hi : i < (s.side isA).autoTensorCount) {m : MatmulArgs}
    (hdtype : m.dtype = dtypeF32 ∨ m.dtype = dtypeQ8 ∨ m.dtype = dtypeQ4) (hptr : m.weights ≠ 0) :
    ∃ q success r, pcieSubmitExec inprocOps (s.side isA).tileId s.queue
        (matmulCmd m.dtype m.dst m.lhs m.outputs m.inputs (idOf i)) = (q, success) ∧
      BackendsInv kernels { s with queue := q } ∧ latest s.registrations i = some r ∧
      q.execHookCtx.matmuls = s.queue.execHookCtx.matmuls ++ expectedRuns m r := by
  obtain ⟨r, hr, hfind, hrdtype, hrptr⟩ := h.entry hi
  obtain ⟨q, success, heq, hidle, hconfig, hctx, -⟩ := @exec_idle kernels s.queue (s.side isA).tileId
    (matmulCmd m.dtype m.dst m.lhs m.outputs m.inputs (idOf i)) h.idle (h.admits isA (Nat.zero_lt_of_lt hi)).1
  set cmd := s.queue.storedCmd (forTile (s.side isA).tileId
    (matmulCmd m.dtype m.dst m.lhs m.outputs m.inputs (idOf i))) with hcmd
  have hrun : idleRun kernels s.queue (s.side isA).tileId
      (matmulCmd m.dtype m.dst m.lhs m.outputs m.inputs (idOf i)) = _ := runCmd_matmul kernels _ rfl
  rw [hrun] at hctx
  obtain ⟨htensors, hcount, hmatmuls⟩ := confExecMatmul_runs kernels s.queue.execHookCtx cmd
  refine ⟨q, success, r, heq, h.withQueue hidle hconfig fun _ => ?_, hr, ?_⟩
  · rw [hctx]
    exact ⟨htensors, hcount⟩
  have hexpected : (matmulRun s.queue.execHookCtx cmd).toList = expectedRuns m r := by
    unfold matmulRun expectedRuns
    show (if m.lhs = 0 ∨ m.dst = 0 then none else
      (confTensorFind s.queue.execHookCtx (idOf i)).bind fun slot =>
        if (s.queue.execHookCtx.tensors slot).dtype ≠ m.dtype ∨ (UInt32.ofNat m.outputs).toNat = 0 ∨
          (UInt32.ofNat (m.inputs * 4) / 4).toNat = 0 then none
        else if m.dtype = dtypeF32 ∨ m.dtype = dtypeQ8 ∨ m.dtype = dtypeQ4 then
          some (m.run (s.queue.execHookCtx.tensors slot).hostAddr)
        else none).toList = _
    rw [hfind, Option.bind_some, if_pos hdtype, hrdtype, hrptr]
    by_cases hvalid : m.Valid ∧ r.dtype = m.dtype
    · rw [if_pos hvalid, if_neg (not_or.mpr ⟨hvalid.1.2.1, hvalid.1.2.2.1⟩), if_neg]
      · rfl
      · rintro (hne | hout | hin)
        · exact hne hvalid.2
        · exact hvalid.1.2.2.2.1 hout
        · exact hvalid.1.2.2.2.2 hin
    · rw [if_neg hvalid]
      by_cases haddr : m.lhs = 0 ∨ m.dst = 0
      · rw [if_pos haddr]
        rfl
      · rw [if_neg haddr, if_pos]
        · rfl
        · by_contra hshape
          rw [not_or, not_or, not_not] at hshape
          rw [not_or] at haddr
          exact hvalid ⟨⟨hptr, haddr.1, haddr.2, hshape.2.1, hshape.2.2⟩, hshape.1⟩
  rw [hctx, ← hexpected]
  exact hmatmuls

theorem exec_rmsnorm (h : BackendsInv kernels s) (hi : i < (s.side isA).autoTensorCount) {cmd : AimuCmd}
    (hcode : cmd.commandType = 0x11) :
    ∃ q success, pcieSubmitExec inprocOps (s.side isA).tileId s.queue cmd = (q, success) ∧
      BackendsInv kernels { s with queue := q } ∧ q.execHookCtx.matmuls = s.queue.execHookCtx.matmuls := by
  obtain ⟨q, success, heq, hidle, hconfig, hctx, -⟩ :=
    @exec_idle kernels s.queue (s.side isA).tileId cmd h.idle (h.admits isA (Nat.zero_lt_of_lt hi)).1
  have hrun : idleRun kernels s.queue (s.side isA).tileId cmd = _ := runCmd_rmsnorm kernels _ hcode
  rw [hrun] at hctx
  obtain ⟨htensors, hcount, hmatmuls⟩ := confExecRmsnorm_same kernels s.queue.execHookCtx
    (s.queue.storedCmd (forTile (s.side isA).tileId cmd))
  refine ⟨q, success, heq, h.withQueue hidle hconfig fun _ => ?_, ?_⟩
  · rw [hctx]
    exact ⟨htensors, hcount⟩
  · rw [hctx]
    exact hmatmuls

end Register

/-! ### One call -/

section Call

variable {kernels : MathKernels} {es : List WeightEvent} {s s' : SharedBackends} {e : WeightEvent} {m : MatmulArgs}
  {call : WeightCall}

theorem perform_matmul (h : call.matmul = some m) (q : Cmdq ConfCtx) (data : PcieBackendData) :
    call.perform q data = execWeight inprocOps q data m.weights m.dtype m.dim0 m.dim1
        (matmulCmd m.dtype m.dst m.lhs m.outputs m.inputs) ∧
      (m.dtype = dtypeF32 ∨ m.dtype = dtypeQ8 ∨ m.dtype = dtypeQ4) := by
  cases call with
  | matmulF32 dst lhs rhs rows cols inner =>
    have hrows : ¬ rows ≠ 1 := fun hr => by cases (if_pos hr).symm.trans h
    obtain rfl := Option.some.inj ((if_neg hrows).symm.trans h)
    exact ⟨if_neg hrows, Or.inl rfl⟩
  | matmulQ8xf32 dst lhs lhsRows lhsCols weights =>
    cases weights with
    | none => cases h
    | some w =>
      have hrows : ¬ lhsRows ≠ 1 := fun hr => by cases (if_pos hr).symm.trans h
      obtain rfl := Option.some.inj ((if_neg hrows).symm.trans h)
      exact ⟨if_neg hrows, Or.inr (Or.inl rfl)⟩
  | matmulQ4xf32 dst lhs lhsRows lhsCols weights =>
    cases weights with
    | none => cases h
    | some w =>
      have hrows : ¬ lhsRows ≠ 1 := fun hr => by cases (if_pos hr).symm.trans h
      obtain rfl := Option.some.inj ((if_neg hrows).symm.trans h)
      exact ⟨if_neg hrows, Or.inr (Or.inr rfl)⟩
  | rmsnormF32 dst src weight count epsilon => cases h

theorem perform_other (h : call.matmul = none) (q : Cmdq ConfCtx) (data : PcieBackendData) :
    call.perform q data = (q, data, false) ∨
      ∃ ptr dtype dim0 dim1 cmd, call.perform q data = execWeight inprocOps q data ptr dtype dim0 dim1 cmd ∧
        ∀ id, (cmd id).commandType = 0x11 := by
  cases call with
  | matmulF32 dst lhs rhs rows cols inner =>
    have hrows : rows ≠ 1 := fun hr => by cases (if_neg (not_not.mpr hr)).symm.trans h
    exact Or.inl (if_pos hrows)
  | matmulQ8xf32 dst lhs lhsRows lhsCols weights =>
    cases weights with
    | none => exact Or.inl rfl
    | some w =>
      have hrows : lhsRows ≠ 1 := fun hr => by cases (if_neg (not_not.mpr hr)).symm.trans h
      exact Or.inl (if_pos hrows)
  | matmulQ4xf32 dst lhs lhsRows lhsCols weights =>
    cases weights with
    | none => exact Or.inl rfl
    | some w =>
      have hrows : lhsRows ≠ 1 := fun hr => by cases (if_neg (not_not.mpr hr)).symm.trans h
      exact Or.inl (if_pos hrows)
  | rmsnormF32 dst src weight count epsilon => exact Or.inr ⟨_, _, _, _, _, rfl, fun _ => rfl⟩

theorem ownWeightLaw_snoc : OwnWeightLaw (es ++ [e]) s ↔
    (∀ run ∈ e.runs, ∃ m ∈ e.call.matmul, run = m.run m.weights) ∧
      ∀ m ∈ e.call.matmul, m.Valid → ((s.side e.isA).find m.weights m.dtype).isSome → e.runs = [m.run m.weights] := by
  unfold OwnWeightLaw
  rw [List.getLast?_concat]
  constructor
  · intro h
    exact h e rfl
  · intro h e' he'
    obtain rfl := Option.some.inj he'
    exact h

/-- A call that runs no kernel, and is no valid matmul of a registered weight. -/
theorem ownWeightLaw_idle (hruns : e.runs = [])
    (h : ∀ m ∈ e.call.matmul, m.Valid → (s.side e.isA).find m.weights m.dtype = none) : OwnWeightLaw (es ++ [e]) s := by
  rw [ownWeightLaw_snoc, hruns]
  constructor
  · intro run hrun
    cases hrun
  · intro m hm hvalid hsome
    rw [h m hm hvalid] at hsome
    cases hsome

/-- The invariant of a run. -/
structure WeightsInv (kernels : MathKernels) (es : List WeightEvent) (s : SharedBackends) : Prop where
  inv : BackendsInv kernels s
  law : OwnWeightLaw es s

/-- A matmul of a weight that is registered then under the rank `i`, whose latest registration is `r`. -/
theorem matmul_law (hcall : e.call.matmul = some m) {r : Registration} {i : ℕ}
    (hfind : (s'.side e.isA).find m.weights m.dtype = some i) (hruns : e.runs = expectedRuns m r) :
    OwnWeightLaw (es ++ [e]) s' ↔ (m.Valid → r.ptr = m.weights ∧ r.dtype = m.dtype) := by
  rw [ownWeightLaw_snoc, hcall, hruns]
  constructor
  · rintro ⟨-, hlaw⟩ hvalid
    have heq := hlaw m rfl hvalid (Option.isSome_iff_exists.mpr ⟨i, hfind⟩)
    unfold expectedRuns at heq
    split_ifs at heq with hmatch
    exact ⟨congrArg MatmulRun.weights (List.cons.inj heq).1, hmatch.2⟩
  · intro hown
    have hexpected : m.Valid → expectedRuns m r = [m.run m.weights] := by
      intro hvalid
      obtain ⟨hptr, hdtype⟩ := hown hvalid
      unfold expectedRuns
      rw [if_pos ⟨hvalid, hdtype⟩, hptr]
    constructor
    · intro run hrun
      refine ⟨m, rfl, ?_⟩
      by_cases hvalid : m.Valid
      · rw [hexpected hvalid] at hrun
        exact List.mem_singleton.mp hrun
      · unfold expectedRuns at hrun
        rw [if_neg fun h => hvalid h.1] at hrun
        cases hrun
    · intro m' hm' hvalid _
      obtain rfl := Option.some.inj hm'
      exact hexpected hvalid

/-- A matmul. -/
theorem weightStep_matmul (hi : WeightsInv kernels es s) (hs : WeightStep s e s') (hcall : e.call.matmul = some m) :
    BackendsInv kernels s' ∧ (OwnWeightLaw (es ++ [e]) s' ↔ LatestIsOwn s e) := by
  obtain ⟨q, data, hperform, rfl, hruns⟩ := hs
  obtain ⟨hexec, hdtype⟩ := perform_matmul hcall s.queue (s.side e.isA)
  rw [hexec] at hperform
  have hguard : LatestIsOwn s e ↔ (m.Valid → ∀ i ∈ (s.side e.isA).find m.weights m.dtype,
      ∀ r ∈ latest s.registrations i, r.ptr = m.weights ∧ r.dtype = m.dtype) := by
    unfold LatestIsOwn
    rw [hcall]
    exact ⟨fun h => h m rfl, fun h m' hm' => by obtain rfl := Option.some.inj hm'; exact h⟩
  obtain ⟨q₁, data₁, id, hreg, hregs, hinv₁, hmatmuls₁⟩ :=
    register_spec hi.inv e.isA m.weights m.dtype m.dim0 m.dim1
  unfold execWeight at hperform
  rw [hreg] at hperform
  cases id with
  | none =>
    obtain ⟨rfl, hrest⟩ := Prod.mk.inj hperform
    obtain ⟨rfl, -⟩ := Prod.mk.inj hrest
    have hnone : m.Valid → (s.side e.isA).find m.weights m.dtype = none ∧ data₁ = s.side e.isA := by
      intro hvalid
      cases hregs with
      | failed hfind => exact ⟨hfind.resolve_left hvalid.1, rfl⟩
    rw [hmatmuls₁, List.drop_length] at hruns
    refine ⟨hinv₁, iff_of_true (ownWeightLaw_idle hruns fun m' hm' hvalid => ?_) (hguard.mpr fun hvalid i hfind => ?_)⟩
    · rw [hcall] at hm'
      obtain rfl := Option.some.inj hm'
      rw [SharedBackends.side_after, (hnone hvalid).2]
      exact (hnone hvalid).1
    · rw [(hnone hvalid).1] at hfind
      cases hfind
  | some id =>
    obtain ⟨i, hfind, rfl, hcases⟩ := hregs.registered_lt
    have hside : (s.after e.isA q₁ data₁).side e.isA = data₁ := SharedBackends.side_after _ _ _ _
    have hlt : i < ((s.after e.isA q₁ data₁).side e.isA).autoTensorCount := by
      rw [hside]
      exact (find_some hfind).1
    have hptr : m.weights ≠ 0 := by
      intro hzero
      unfold pcieRegisterWeight at hreg
      rw [if_pos hzero] at hreg
      cases (Prod.mk.inj (Prod.mk.inj hreg).2).2
    obtain ⟨q₂, success, r, heq, hinv₂, hlatest, hmatmuls₂⟩ := exec_matmul hinv₁ hlt hdtype hptr
    rw [hside] at heq
    have heq' : pcieSubmitExec inprocOps data₁.tileId q₁
        (matmulCmd m.dtype m.dst m.lhs m.outputs m.inputs (idOf i)) = (q₂, success) := heq
    simp only at hperform
    rw [heq'] at hperform
    obtain ⟨rfl, hrest⟩ := Prod.mk.inj hperform
    obtain ⟨rfl, -⟩ := Prod.mk.inj hrest
    have hmatmuls : q₂.execHookCtx.matmuls = s.queue.execHookCtx.matmuls ++ expectedRuns m r :=
      hmatmuls₂.trans (congrArg (· ++ expectedRuns m r) hmatmuls₁)
    rw [hmatmuls, List.drop_left] at hruns
    have hfind' : ((s.after e.isA q₂ data₁).side e.isA).find m.weights m.dtype = some i := by
      rw [SharedBackends.side_after]
      exact hfind
    refine ⟨hinv₂, (matmul_law hcall hfind' hruns).trans (Iff.trans ?_ hguard.symm)⟩
    obtain ⟨hknown, rfl, rfl⟩ | ⟨hnew, hown⟩ := hcases
    · have hlatest' : latest s.registrations i = some r := by
        rw [← hlatest]
        show _ = latest (s.registrations ++ SharedBackends.registered e.isA (s.side e.isA) (s.side e.isA)) i
        rw [registered_self, List.append_nil]
      constructor
      · intro h hvalid j hj r' hr'
        obtain rfl := Option.some.inj (hknown.symm.trans hj)
        obtain rfl := Option.some.inj (hlatest'.symm.trans hr')
        exact h hvalid
      · intro h hvalid
        exact h hvalid i hknown r hlatest'
    · obtain rfl := Option.some.inj (hown.symm.trans hlatest)
      refine iff_of_true (fun _ => ⟨rfl, rfl⟩) fun _ j hj => ?_
      rw [hnew] at hj
      cases hj

/-- A norm, or a matmul that the first checks refuse. -/
theorem weightStep_other (hi : WeightsInv kernels es s) (hs : WeightStep s e s') (hcall : e.call.matmul = none) :
    WeightsInv kernels (es ++ [e]) s' := by
  obtain ⟨q, data, hperform, rfl, hruns⟩ := hs
  have hlaw : ∀ s' : SharedBackends, e.runs = [] → OwnWeightLaw (es ++ [e]) s' := by
    intro s' hnone
    refine ownWeightLaw_idle hnone fun m hm => ?_
    rw [hcall] at hm
    cases hm
  obtain hrejected | ⟨ptr, dtype, dim0, dim1, cmd, hexec, hcode⟩ := perform_other hcall s.queue (s.side e.isA)
  · rw [hrejected] at hperform
    obtain ⟨rfl, hrest⟩ := Prod.mk.inj hperform
    obtain ⟨rfl, -⟩ := Prod.mk.inj hrest
    rw [List.drop_length] at hruns
    refine ⟨?_, hlaw _ hruns⟩
    rw [withQueue_after]
    exact hi.inv
  · rw [hexec] at hperform
    obtain ⟨q₁, data₁, id, hreg, hregs, hinv₁, hmatmuls₁⟩ := register_spec hi.inv e.isA ptr dtype dim0 dim1
    unfold execWeight at hperform
    rw [hreg] at hperform
    cases id with
    | none =>
      obtain ⟨rfl, hrest⟩ := Prod.mk.inj hperform
      obtain ⟨rfl, -⟩ := Prod.mk.inj hrest
      rw [hmatmuls₁, List.drop_length] at hruns
      exact ⟨hinv₁, hlaw _ hruns⟩
    | some id =>
      obtain ⟨i, hfind, rfl, -⟩ := hregs.registered_lt
      have hside : (s.after e.isA q₁ data₁).side e.isA = data₁ := SharedBackends.side_after _ _ _ _
      have hlt : i < ((s.after e.isA q₁ data₁).side e.isA).autoTensorCount := by
        rw [hside]
        exact (find_some hfind).1
      obtain ⟨q₂, success, heq, hinv₂, hmatmuls₂⟩ := exec_rmsnorm hinv₁ hlt (hcode (idOf i))
      rw [hside] at heq
      have heq' : pcieSubmitExec inprocOps data₁.tileId q₁ (cmd (idOf i)) = (q₂, success) := heq
      simp only at hperform
      rw [heq'] at hperform
      obtain ⟨rfl, hrest⟩ := Prod.mk.inj hperform
      obtain ⟨rfl, -⟩ := Prod.mk.inj hrest
      have hmatmuls : q₂.execHookCtx.matmuls = s.queue.execHookCtx.matmuls := hmatmuls₂.trans hmatmuls₁
      rw [hmatmuls, List.drop_length] at hruns
      exact ⟨hinv₂, hlaw _ hruns⟩

end Call

/-! ### Runs -/

/-- An endpoint with two backends on it, nothing registered. -/
def sharedCreate (q : Cmdq ConfCtx) (tileA tileB : UInt32) : SharedBackends where
  queue := q
  tileA := .create tileA
  tileB := .create tileB

theorem create_backendsInv {kernels : MathKernels} {host : Host} {memory : Memory} {config : CmdqConfig}
    {q : Cmdq ConfCtx} (h : createQueue kernels host memory config = .ok q) (tileA tileB : UInt32) :
    BackendsInv kernels (sharedCreate q tileA tileB) := by
  obtain ⟨hw, hpend, hcomp, hhook, hctx⟩ := createQueue_ok h
  have hside : ∀ isA, ∃ tile, (sharedCreate q tileA tileB).side isA = .create tile := by
    intro isA
    cases isA with
    | true => exact ⟨tileA, rfl⟩
    | false => exact ⟨tileB, rfl⟩
  refine ⟨⟨hw, hpend, hcomp, hhook⟩, fun isA => ?_, fun isA hpos => ?_, fun _ => ?_⟩
  · obtain ⟨tile, heq⟩ := hside isA
    rw [heq]
    exact ⟨Nat.zero_le _, rfl, fun i hi => absurd hi (Nat.not_lt_zero i)⟩
  · obtain ⟨tile, heq⟩ := hside isA
    rw [heq] at hpos
    exact absurd hpos (Nat.lt_irrefl 0)
  · show Registry q.execHookCtx [] 0
    rw [hctx]
    exact ⟨rfl, fun i hi => absurd hi (Nat.not_lt_zero i), fun i hi => absurd hi (Nat.not_lt_zero i),
      fun i hi => absurd hi (Nat.not_lt_zero i)⟩

/-- **Two backends on one endpoint.**  In a run of matmuls and norms of two backends on a created endpoint every matmul
runs on the weight that its caller registered exactly when, at every valid matmul of a weight registered earlier, the
latest registration of the same rank, by either backend, is of this weight. -/
theorem own_weight_iff {kernels : MathKernels} {host : Host} {memory : Memory} {config : CmdqConfig} {q : Cmdq ConfCtx}
    {tileA tileB : UInt32} {es : List WeightEvent} {s : SharedBackends}
    (hc : createQueue kernels host memory config = .ok q) (hr : Run WeightStep (sharedCreate q tileA tileB) es s) :
    Lawful WeightStep (sharedCreate q tileA tileB) OwnWeightLaw es ↔
      Guarded WeightStep (sharedCreate q tileA tileB) LatestIsOwn es := by
  have h0 : WeightsInv kernels [] (sharedCreate q tileA tileB) := by
    refine ⟨create_backendsInv hc tileA tileB, fun e he => ?_⟩
    cases he
  refine hr.law_iff_guard weightStep_deterministic h0 (fun _ _ hi => hi.law) ?_ ?_
  · intro es s e s' hi hg hs
    cases hcall : e.call.matmul with
    | none => exact weightStep_other hi hs hcall
    | some m =>
      obtain ⟨hinv, hiff⟩ := weightStep_matmul hi hs hcall
      exact ⟨hinv, hiff.mpr hg⟩
  · intro es s e s' hi hg hs hlaw
    cases hcall : e.call.matmul with
    | none =>
      refine hg fun m hm => ?_
      rw [hcall] at hm
      cases hm
    | some m => exact hg ((weightStep_matmul hi hs hcall).2.mp hlaw)

/-- A matmul of a two by two matrix at `weights` by one side, with the address of the matrix that the kernel ran on. -/
def matmulAt (isA : Bool) (weights ran : UInt64) : WeightEvent where
  isA := isA
  call := .matmulF32 8 16 weights 1 2 2
  success := true
  runs := [⟨dtypeF32, 8, 16, ran, 2, 2⟩]

/-- The second backend registers its matrix after the first one is done with its own. -/
theorem matmuls_in_turn : ∃ q s, createQueue .idle .generous (fun _ => 0) ⟨2, 4, 4⟩ = .ok q ∧
    Run WeightStep (sharedCreate q 0 1) [matmulAt true 32 32, matmulAt true 32 32, matmulAt false 64 64] s ∧
    Lawful WeightStep (sharedCreate q 0 1) OwnWeightLaw
      [matmulAt true 32 32, matmulAt true 32 32, matmulAt false 64 64] := by
  have hrun : ∃ q, createQueue .idle .generous (fun _ => 0) ⟨2, 4, 4⟩ = .ok q ∧ ∃ s,
      Run (fun s e s' => WeightStep s e s' ∧ LatestIsOwn s e) (sharedCreate q 0 1)
        [matmulAt true 32 32, matmulAt true 32 32, matmulAt false 64 64] s := by
    refine ⟨_, rfl, _, Run.cons ⟨⟨_, _, rfl, rfl, rfl⟩, ?_⟩ <| Run.cons ⟨⟨_, _, rfl, rfl, rfl⟩, ?_⟩ <|
      Run.cons ⟨⟨_, _, rfl, rfl, rfl⟩, ?_⟩ Run.nil⟩
    · intro m _ _ i hi
      cases hi
    · intro m hm _ i hi r hr
      obtain rfl := Option.some.inj hm
      obtain rfl := Option.some.inj hi
      obtain rfl := Option.some.inj hr
      exact ⟨rfl, rfl⟩
    · intro m _ _ i hi
      cases hi
  obtain ⟨q, hc, s, hr⟩ := hrun
  obtain ⟨hr, hg⟩ := hr.guarded weightStep_deterministic
  exact ⟨q, s, hc, hr, (own_weight_iff hc hr).mpr hg⟩

/-- The second backend registers its matrix under the id that the first one uses, whose next matmul runs on it. -/
theorem matmul_on_other_weight : ∃ q s, createQueue .idle .generous (fun _ => 0) ⟨2, 4, 4⟩ = .ok q ∧
    Run WeightStep (sharedCreate q 0 1) [matmulAt true 32 32, matmulAt false 64 64, matmulAt true 32 64] s ∧
    ¬ OwnWeightLaw [matmulAt true 32 32, matmulAt false 64 64, matmulAt true 32 64] s := by
  have hrun : ∃ q, createQueue .idle .generous (fun _ => 0) ⟨2, 4, 4⟩ = .ok q ∧ ∃ s,
      Run WeightStep (sharedCreate q 0 1) [matmulAt true 32 32, matmulAt false 64 64, matmulAt true 32 64] s :=
    ⟨_, rfl, _, Run.cons ⟨_, _, rfl, rfl, rfl⟩ <| Run.cons ⟨_, _, rfl, rfl, rfl⟩ <|
      Run.cons ⟨_, _, rfl, rfl, rfl⟩ Run.nil⟩
  obtain ⟨q, hc, s, hr⟩ := hrun
  refine ⟨q, s, hc, hr, fun hlaw => ?_⟩
  obtain ⟨m, hm, heq⟩ := (hlaw (matmulAt true 32 64) rfl).1 _ (List.mem_singleton_self _)
  obtain rfl := Option.some.inj hm
  exact absurd (congrArg MatmulRun.weights heq) (by decide)

end Att1.Pcie
