import Att1.Conformance.Exec

/-!
# Att1.Conformance.Registry — the tensor registry as a table of ranks

Backends choose their tensor ids from `UINT16_MAX` down, so the id of rank `i` is `idOf i`.

* `Registry ep regs n`: the registry holds, for each rank below `n`, the latest registration of that rank.
* `load_registry`: a load of a known rank or of the next one keeps this.
* `matmulRun`, `confExecMatmul_runs`: the kernel that a matmul command runs, if any.
-/

open Att1.Lib

namespace Att1.Conformance

/-- The tensor id of a rank. -/
def idOf (rank : ℕ) : UInt16 := UInt16.ofNat (65535 - rank)

/-- A weight registered by one of two backends, as its registration of the given rank. -/
structure Registration where
  isA : Bool
  rank : ℕ
  ptr : UInt64
  dtype : UInt8
  deriving DecidableEq, Repr

/-- The latest registration of a rank. -/
def latest (regs : List Registration) (rank : ℕ) : Option Registration := lastMatch (fun r => r.rank == rank) regs

/-- The registry is the table of the latest registrations of the ranks below `n`. -/
structure Registry (ep : ConfCtx) (regs : List Registration) (n : ℕ) : Prop where
  count : ep.tensorCount = n
  used : ∀ i < n, (ep.tensors i).used = true
  id : ∀ i < n, (ep.tensors i).tensorId = idOf i
  latest : ∀ i < n, ∃ r, latest regs i = some r ∧ (ep.tensors i).dtype = r.dtype ∧ (ep.tensors i).hostAddr = r.ptr

variable {ep : ConfCtx} {regs : List Registration} {n i j : ℕ} {cmd : AimuCmd}

theorem toNat_idOf (i : ℕ) : (idOf i).toNat = 65535 - i := by
  unfold idOf
  rw [UInt16.toNat_ofNat']
  omega

theorem idOf_injective (hi : i ≤ confMaxTensors) (hj : j ≤ confMaxTensors) (h : idOf i = idOf j) : i = j := by
  have hnat := congrArg UInt16.toNat h
  rw [toNat_idOf, toNat_idOf] at hnat
  unfold confMaxTensors at hi hj
  omega

theorem latest_snoc (regs : List Registration) (r : Registration) (rank : ℕ) :
    latest (regs ++ [r]) rank = if r.rank = rank then some r else latest regs rank := by
  unfold latest
  rw [lastMatch_concat]
  simp only [beq_iff_eq]

theorem Registry.find (h : Registry ep regs n) (hn : n ≤ confMaxTensors) (hi : i < n) :
    confTensorFind ep (idOf i) = some i := by
  unfold confTensorFind
  rw [h.count]
  apply findSlot_of_unique hi
  · rw [h.used i hi, h.id i hi, Bool.true_and, beq_self_eq_true]
  · intro j hj hp
    rw [h.used j hj, h.id j hj, Bool.true_and, beq_iff_eq] at hp
    exact idOf_injective (by omega) (by omega) hp

theorem Registry.find_none (h : Registry ep regs n) (hi : n ≤ i) (hi' : i ≤ confMaxTensors) :
    confTensorFind ep (idOf i) = none := by
  unfold confTensorFind
  rw [h.count]
  apply findSlot_eq_none.mpr
  intro j hj
  rw [h.used j hj, h.id j hj, Bool.true_and, beq_eq_false_iff_ne]
  intro heq
  have hij := idOf_injective (by omega) hi' heq
  omega

/-! ### The commands on weights -/

theorem runCmd_hooked (kernels : MathKernels) (ep : ConfCtx) {ctype : AimuCmdType}
    (hcode : AimuCmdType.ofCode cmd.commandType = some ctype) (hh : Cmdq.hooked ctype = true) :
    Cmdq.runCmd (some (confExecHook kernels)) ep cmd = confExecHook kernels ep cmd := by
  unfold Cmdq.runCmd
  rw [hcode]
  simp only
  rw [if_pos hh]

theorem runCmd_load (kernels : MathKernels) (ep : ConfCtx) (h : cmd.commandType = 0x01) :
    Cmdq.runCmd (some (confExecHook kernels)) ep cmd =
      ((confExecLoadTensorTile ep cmd).1, cmd, (confExecLoadTensorTile ep cmd).2) := by
  have hcode : AimuCmdType.ofCode cmd.commandType = some .loadTensorTile := by
    rw [h]
    rfl
  rw [runCmd_hooked kernels ep hcode rfl]
  unfold confExecHook
  rw [hcode]

theorem runCmd_matmul (kernels : MathKernels) (ep : ConfCtx) (h : cmd.commandType = 0x10) :
    Cmdq.runCmd (some (confExecHook kernels)) ep cmd =
      ((confExecMatmul kernels ep cmd).1, cmd, (confExecMatmul kernels ep cmd).2) := by
  have hcode : AimuCmdType.ofCode cmd.commandType = some .execMatmul := by
    rw [h]
    rfl
  rw [runCmd_hooked kernels ep hcode rfl]
  unfold confExecHook
  rw [hcode]

theorem runCmd_rmsnorm (kernels : MathKernels) (ep : ConfCtx) (h : cmd.commandType = 0x11) :
    Cmdq.runCmd (some (confExecHook kernels)) ep cmd =
      ((confExecRmsnorm kernels ep cmd).1, cmd, (confExecRmsnorm kernels ep cmd).2) := by
  have hcode : AimuCmdType.ofCode cmd.commandType = some .execRmsnorm := by
    rw [h]
    rfl
  rw [runCmd_hooked kernels ep hcode rfl]
  unfold confExecHook
  rw [hcode]

/-- A load of a known rank, or of the next one. -/
theorem load_registry (h : Registry ep regs n) (hn : n ≤ confMaxTensors) {rank : ℕ} (hrank : rank ≤ n)
    (hmax : rank < confMaxTensors) (hid : cmd.tensorId = idOf rank) (hptr : cmd.inputBufAddr ≠ 0) (isA : Bool) :
    ∃ ep', confExecLoadTensorTile ep cmd = (ep', .ok) ∧ ep'.matmuls = ep.matmuls ∧
      Registry ep' (regs ++ [⟨isA, rank, cmd.inputBufAddr, cmd.dtype⟩]) (max n (rank + 1)) := by
  have hentry : ∀ ep' : ConfCtx, ep'.tensors = Function.update ep.tensors rank (loadedEntry cmd) →
      ep'.tensorCount = max n (rank + 1) →
      Registry ep' (regs ++ [⟨isA, rank, cmd.inputBufAddr, cmd.dtype⟩]) (max n (rank + 1)) := by
    intro ep' htensors hcount
    have hold : ∀ i < max n (rank + 1), i ≠ rank → i < n := by
      intro i hi hne
      omega
    refine ⟨hcount, fun i hi => ?_, fun i hi => ?_, fun i hi => ?_⟩
    · rw [htensors]
      by_cases heq : i = rank
      · rw [heq, Function.update_self]
        rfl
      · rw [Function.update_of_ne heq]
        exact h.used i (hold i hi heq)
    · rw [htensors]
      by_cases heq : i = rank
      · rw [heq, Function.update_self]
        exact hid
      · rw [Function.update_of_ne heq]
        exact h.id i (hold i hi heq)
    · rw [htensors, latest_snoc]
      by_cases heq : i = rank
      · rw [heq, Function.update_self, if_pos rfl]
        exact ⟨_, rfl, rfl, rfl⟩
      · have hne : rank ≠ i := fun h => heq h.symm
        rw [Function.update_of_ne heq, if_neg hne]
        exact h.latest i (hold i hi heq)
  unfold confExecLoadTensorTile
  rw [if_neg hptr, hid]
  obtain hlt | heq := Nat.lt_or_eq_of_le hrank
  · rw [h.find hn hlt]
    refine ⟨_, rfl, rfl, hentry _ rfl ?_⟩
    show ep.tensorCount = _
    rw [h.count]
    omega
  · subst heq
    have hroom : ¬ confMaxTensors ≤ ep.tensorCount := by
      rw [h.count]
      omega
    rw [h.find_none le_rfl hn]
    simp only
    rw [if_neg hroom]
    refine ⟨_, rfl, rfl, hentry _ ?_ ?_⟩
    · show Function.update ep.tensors ep.tensorCount (loadedEntry cmd) = _
      rw [h.count]
    · show ep.tensorCount + 1 = _
      rw [h.count]
      omega

/-- The kernel that a matmul command runs. -/
def matmulRun (ep : ConfCtx) (cmd : AimuCmd) : Option MatmulRun :=
  if cmd.inputBufAddr = 0 ∨ cmd.outputBufAddr = 0 then none
  else
    (confTensorFind ep cmd.tensorId).bind fun slot =>
      if (ep.tensors slot).dtype ≠ cmd.dtype ∨ cmd.opParam0.toNat = 0 ∨ (cmd.inputBufBytes / 4).toNat = 0 then none
      else if cmd.dtype = dtypeF32 ∨ cmd.dtype = dtypeQ8 ∨ cmd.dtype = dtypeQ4 then
        some ⟨cmd.dtype, cmd.outputBufAddr, cmd.inputBufAddr, (ep.tensors slot).hostAddr, cmd.opParam0.toNat,
          (cmd.inputBufBytes / 4).toNat⟩
      else none

/-- A matmul command runs that kernel and leaves the registry alone. -/
theorem confExecMatmul_runs (kernels : MathKernels) (ep : ConfCtx) (cmd : AimuCmd) :
    (confExecMatmul kernels ep cmd).1.tensors = ep.tensors ∧
      (confExecMatmul kernels ep cmd).1.tensorCount = ep.tensorCount ∧
      (confExecMatmul kernels ep cmd).1.matmuls = ep.matmuls ++ (matmulRun ep cmd).toList := by
  have hnone : ∀ ep' : ConfCtx, ep' = ep → ep'.tensors = ep.tensors ∧ ep'.tensorCount = ep.tensorCount ∧
      ep'.matmuls = ep.matmuls ++ (none : Option MatmulRun).toList := by
    rintro ep' rfl
    exact ⟨rfl, rfl, (List.append_nil _).symm⟩
  unfold confExecMatmul matmulRun
  by_cases haddr : cmd.inputBufAddr = 0 ∨ cmd.outputBufAddr = 0
  · rw [if_pos haddr, if_pos haddr]
    exact hnone _ rfl
  rw [if_neg haddr, if_neg haddr]
  cases confTensorFind ep cmd.tensorId with
  | none => exact hnone _ rfl
  | some slot =>
    simp only [Option.bind_some]
    by_cases hdtype : (ep.tensors slot).dtype ≠ cmd.dtype
    · rw [if_pos hdtype, if_pos (Or.inl hdtype)]
      exact hnone _ rfl
    rw [if_neg hdtype]
    by_cases hout : cmd.opParam0.toNat = 0
    · rw [if_pos hout, if_pos (Or.inr (Or.inl hout))]
      exact hnone _ rfl
    rw [if_neg hout]
    by_cases hin : (cmd.inputBufBytes / 4).toNat = 0
    · rw [if_pos hin, if_pos (Or.inr (Or.inr hin))]
      exact hnone _ rfl
    have hshape : ¬ ((ep.tensors slot).dtype ≠ cmd.dtype ∨ cmd.opParam0.toNat = 0 ∨
        (cmd.inputBufBytes / 4).toNat = 0) := by
      rintro (h | h | h)
      · exact hdtype h
      · exact hout h
      · exact hin h
    rw [if_neg hin, if_neg hshape]
    by_cases hf32 : cmd.dtype = dtypeF32
    · rw [if_pos hf32, if_pos (Or.inl hf32)]
      exact ⟨rfl, rfl, rfl⟩
    rw [if_neg hf32]
    by_cases hq8 : cmd.dtype = dtypeQ8
    · rw [if_pos hq8, if_pos (Or.inr (Or.inl hq8))]
      exact ⟨rfl, rfl, rfl⟩
    rw [if_neg hq8]
    by_cases hq4 : cmd.dtype = dtypeQ4
    · rw [if_pos hq4, if_pos (Or.inr (Or.inr hq4))]
      exact ⟨rfl, rfl, rfl⟩
    rw [if_neg hq4, if_neg]
    · exact hnone _ rfl
    · rintro (h | h | h)
      · exact hf32 h
      · exact hq8 h
      · exact hq4 h

/-- A norm leaves the registry and the list of the matmuls alone. -/
theorem confExecRmsnorm_same (kernels : MathKernels) (ep : ConfCtx) (cmd : AimuCmd) :
    (confExecRmsnorm kernels ep cmd).1.tensors = ep.tensors ∧
      (confExecRmsnorm kernels ep cmd).1.tensorCount = ep.tensorCount ∧
      (confExecRmsnorm kernels ep cmd).1.matmuls = ep.matmuls := by
  unfold confExecRmsnorm
  by_cases haddr : cmd.inputBufAddr = 0 ∨ cmd.outputBufAddr = 0
  · rw [if_pos haddr]
    exact ⟨rfl, rfl, rfl⟩
  rw [if_neg haddr]
  cases confTensorFind ep cmd.tensorId with
  | none => exact ⟨rfl, rfl, rfl⟩
  | some slot =>
    simp only
    split_ifs
    · exact ⟨rfl, rfl, rfl⟩
    · exact ⟨rfl, rfl, rfl⟩
    · exact ⟨rfl, rfl, rfl⟩

/-- Loads never run a matmul. -/
theorem confExecLoadTensorTile_matmuls (ep : ConfCtx) (cmd : AimuCmd) :
    (confExecLoadTensorTile ep cmd).1.matmuls = ep.matmuls := by
  unfold confExecLoadTensorTile
  by_cases haddr : cmd.inputBufAddr = 0
  · rw [if_pos haddr]
  rw [if_neg haddr]
  cases confTensorFind ep cmd.tensorId with
  | some slot => rfl
  | none =>
    by_cases hfull : confMaxTensors ≤ ep.tensorCount
    · simp only
      rw [if_pos hfull]
    · simp only
      rw [if_neg hfull]

theorem Registry.congr {ep' : ConfCtx} (h : Registry ep regs n) (ht : ep'.tensors = ep.tensors)
    (hc : ep'.tensorCount = ep.tensorCount) : Registry ep' regs n := by
  refine ⟨hc.trans h.count, ?_, ?_, ?_⟩
  · rw [ht]
    exact h.used
  · rw [ht]
    exact h.id
  · rw [ht]
    exact h.latest

end Att1.Conformance
