import Att1.Cmdq.Service
import Att1.Lib.Table

/-!
# Att1.Conformance.Exec — the exec hook of an endpoint (`src/aimu_conformance.c`)

The hook keeps a registry of weight tensors, which `LOAD_TENSOR_TILE` fills, and runs the kernels of `att1_math.h` and
`att1_quant.h` on byte-addressed memory.  The arithmetic of the kernels is a parameter.

* `confExecLoadTensorTile`, `confExecMatmul`, …: one function for each command type the hook executes.
* `confExecHook`: `conf_exec_hook`.
* `runCmd_finished`: a command that is dispatched comes to an end.
-/

open Att1.Lib

namespace Att1.Conformance

/-- Byte-addressed memory. -/
abbrev Memory := UInt64 → UInt8

/-- `ATT1_AIMU_DMA_DTYPE_F32`, `_Q8` and `_Q4`. -/
def dtypeF32 : UInt8 := 0

def dtypeQ8 : UInt8 := 1

def dtypeQ4 : UInt8 := 2

/-- The kernels, each with the memory it leaves and whether it returned 0. -/
structure MathKernels where
  matmulF32 : Memory → (dst lhs rhs : UInt64) → (rows cols inner : ℕ) → Memory × Bool
  matmulQ8xf32 : Memory → (dst lhs : UInt64) → (lhsRows lhsCols : ℕ) → (weights : UInt64) → Memory × Bool
  matmulQ4xf32 : Memory → (dst lhs : UInt64) → (lhsRows lhsCols : ℕ) → (weights : UInt64) → Memory × Bool
  rmsnormF32 : Memory → (dst src weight : UInt64) → (count : ℕ) → (epsilon : UInt32) → Memory × Bool
  ropeF32 : Memory → (values : UInt64) → (count position : ℕ) → (theta : UInt32) → Memory × Bool
  swigluF32 : Memory → (dst gate value : UInt64) → (count : ℕ) → Memory × Bool

/-- Kernels that leave the memory alone. -/
def MathKernels.idle : MathKernels where
  matmulF32 m _ _ _ _ _ _ := (m, true)
  matmulQ8xf32 m _ _ _ _ _ := (m, true)
  matmulQ4xf32 m _ _ _ _ _ := (m, true)
  rmsnormF32 m _ _ _ _ _ := (m, true)
  ropeF32 m _ _ _ _ := (m, true)
  swigluF32 m _ _ _ _ := (m, true)

/-- `att1_conf_tensor_entry`. -/
structure ConfTensorEntry where
  used : Bool := false
  tensorId : UInt16 := 0
  dtype : UInt8 := 0
  dim0 : UInt16 := 0
  dim1 : UInt16 := 0
  hostAddr : UInt64 := 0
  deriving DecidableEq, Repr

/-- A run of a matmul kernel: its operands. -/
structure MatmulRun where
  dtype : UInt8
  dst : UInt64
  lhs : UInt64
  weights : UInt64
  dOut : ℕ
  dModel : ℕ
  deriving DecidableEq, Repr

/-- What the hook sees of `att1_aimu_conformance_inproc`, the memory, and the matmul kernels run so far. -/
structure ConfCtx where
  tensors : ℕ → ConfTensorEntry
  tensorCount : ℕ
  memory : Memory
  matmuls : List MatmulRun

/-- `ATT1_AIMU_CONF_MAX_TENSORS`. -/
def confMaxTensors : ℕ := 512

/-- `conf_tensor_find`. -/
def confTensorFind (ep : ConfCtx) (tensorId : UInt16) : Option ℕ :=
  findSlot ep.tensorCount fun i => (ep.tensors i).used && (ep.tensors i).tensorId == tensorId

/-- The entry that `conf_exec_load_tensor_tile` writes. -/
def loadedEntry (cmd : AimuCmd) : ConfTensorEntry where
  used := true
  tensorId := cmd.tensorId
  dtype := cmd.dtype
  dim0 := (cmd.opParam1 >>> 16).toUInt16
  dim1 := (cmd.opParam1 &&& 0xFFFF).toUInt16
  hostAddr := cmd.inputBufAddr

/-- `conf_exec_load_tensor_tile`. -/
def confExecLoadTensorTile (ep : ConfCtx) (cmd : AimuCmd) : ConfCtx × AimuResult :=
  if cmd.inputBufAddr = 0 then (ep, .errInvalidTensor)
  else
    match confTensorFind ep cmd.tensorId with
    | some slot => ({ ep with tensors := Function.update ep.tensors slot (loadedEntry cmd) }, .ok)
    | none =>
      if confMaxTensors ≤ ep.tensorCount then (ep, .errOutOfMemory)
      else
        ({ ep with
            tensors := Function.update ep.tensors ep.tensorCount (loadedEntry cmd)
            tensorCount := ep.tensorCount + 1 }, .ok)

/-- The result of a kernel. -/
def kernelResult (ok : Bool) : AimuResult := if ok then .ok else .errInternal

/-- `conf_exec_matmul`. -/
def confExecMatmul (kernels : MathKernels) (ep : ConfCtx) (cmd : AimuCmd) : ConfCtx × AimuResult :=
  if cmd.inputBufAddr = 0 ∨ cmd.outputBufAddr = 0 then (ep, .errInvalidCommand)
  else
    match confTensorFind ep cmd.tensorId with
    | none => (ep, .errInvalidTensor)
    | some slot =>
      let w := ep.tensors slot
      if w.dtype ≠ cmd.dtype then (ep, .errUnsupportedDtype)
      else
        let dOut := cmd.opParam0.toNat
        if dOut = 0 then (ep, .errInvalidShape)
        else
          let dModel := (cmd.inputBufBytes / 4).toNat
          if dModel = 0 then (ep, .errInvalidShape)
          else
            let run : MatmulRun := ⟨cmd.dtype, cmd.outputBufAddr, cmd.inputBufAddr, w.hostAddr, dOut, dModel⟩
            if cmd.dtype = dtypeF32 then
              let r := kernels.matmulF32 ep.memory cmd.outputBufAddr cmd.inputBufAddr w.hostAddr 1 dOut dModel
              ({ ep with memory := r.1, matmuls := ep.matmuls ++ [run] }, kernelResult r.2)
            else if cmd.dtype = dtypeQ8 then
              let r := kernels.matmulQ8xf32 ep.memory cmd.outputBufAddr cmd.inputBufAddr 1 dModel w.hostAddr
              ({ ep with memory := r.1, matmuls := ep.matmuls ++ [run] }, kernelResult r.2)
            else if cmd.dtype = dtypeQ4 then
              let r := kernels.matmulQ4xf32 ep.memory cmd.outputBufAddr cmd.inputBufAddr 1 dModel w.hostAddr
              ({ ep with memory := r.1, matmuls := ep.matmuls ++ [run] }, kernelResult r.2)
            else (ep, .errUnsupportedDtype)

/-- `conf_exec_rmsnorm`. -/
def confExecRmsnorm (kernels : MathKernels) (ep : ConfCtx) (cmd : AimuCmd) : ConfCtx × AimuResult :=
  if cmd.inputBufAddr = 0 ∨ cmd.outputBufAddr = 0 then (ep, .errInvalidCommand)
  else
    match confTensorFind ep cmd.tensorId with
    | none => (ep, .errInvalidTensor)
    | some slot =>
      let w := ep.tensors slot
      if w.dtype ≠ dtypeF32 then (ep, .errUnsupportedDtype)
      else
        let count := (cmd.inputBufBytes / 4).toNat
        if count = 0 then (ep, .errInvalidShape)
        else
          let r := kernels.rmsnormF32 ep.memory cmd.outputBufAddr cmd.inputBufAddr w.hostAddr count cmd.opParam0
          ({ ep with memory := r.1 }, kernelResult r.2)

/-- `conf_exec_rope`: in place on the input buffer. -/
def confExecRope (kernels : MathKernels) (ep : ConfCtx) (cmd : AimuCmd) : ConfCtx × AimuResult :=
  if cmd.inputBufAddr = 0 then (ep, .errInvalidCommand)
  else
    let count := (cmd.inputBufBytes / 4).toNat
    if count = 0 then (ep, .errInvalidShape)
    else
      let r := kernels.ropeF32 ep.memory cmd.inputBufAddr count cmd.kvPosition.toNat cmd.opParam1
      ({ ep with memory := r.1 }, kernelResult r.2)

/-- `conf_exec_ffn`: the gate and the value lie one behind the other in the input buffer. -/
def confExecFfn (kernels : MathKernels) (ep : ConfCtx) (cmd : AimuCmd) : ConfCtx × AimuResult :=
  if cmd.inputBufAddr = 0 ∨ cmd.outputBufAddr = 0 then (ep, .errInvalidCommand)
  else
    let count := cmd.opParam0.toNat
    if count = 0 then (ep, .errInvalidShape)
    else
      let value := cmd.inputBufAddr + 4 * cmd.opParam0.toUInt64
      let r := kernels.swigluF32 ep.memory cmd.outputBufAddr cmd.inputBufAddr value count
      ({ ep with memory := r.1 }, kernelResult r.2)

/-- `conf_exec_hook`. -/
def confExecHook (kernels : MathKernels) : ExecHook ConfCtx := fun ep cmd =>
  let r :=
    match AimuCmdType.ofCode cmd.commandType with
    | some .loadTensorTile => confExecLoadTensorTile ep cmd
    | some .execMatmul => confExecMatmul kernels ep cmd
    | some .execRmsnorm => confExecRmsnorm kernels ep cmd
    | some .execRope => confExecRope kernels ep cmd
    | some .execFfn => confExecFfn kernels ep cmd
    | _ => (ep, .errUnsupportedOp)
  (r.1, cmd, r.2)

/-- The queue of `att1_aimu_conformance_inproc_create`: an empty registry, and the hook installed. -/
def createQueue (kernels : MathKernels) (host : Host) (memory : Memory) (config : CmdqConfig) :
    Except Status (Cmdq ConfCtx) :=
  let ctx : ConfCtx := ⟨fun _ => {}, 0, memory, []⟩
  (Cmdq.create host ctx (some config)).map fun q => q.setExecHook (some (confExecHook kernels)) ctx

/-! ### The hook -/

section Hook

variable {kernels : MathKernels} {ep : ConfCtx} {cmd : AimuCmd}

theorem confExecHook_keepsDescriptor (kernels : MathKernels) : Cmdq.KeepsDescriptor (some (confExecHook kernels)) := by
  intro ctx cmd
  unfold Cmdq.runCmd
  cases AimuCmdType.ofCode cmd.commandType with
  | none => rfl
  | some ctype =>
    simp only
    split_ifs
    · rfl
    · rfl

/-- The command has come to an end. -/
structure Finished (result : AimuResult) : Prop where
  not_busy : result ≠ .busy
  not_pending : result ≠ .pending

theorem kernelResult_finished (ok : Bool) : Finished (kernelResult ok) := by
  cases ok with
  | false => exact ⟨AimuResult.noConfusion, AimuResult.noConfusion⟩
  | true => exact ⟨AimuResult.noConfusion, AimuResult.noConfusion⟩

theorem finished_ite {c : Prop} [Decidable c] {r r' : ConfCtx × AimuResult} (h : Finished r.2)
    (h' : ¬ c → Finished r'.2) : Finished (if c then r else r').2 := by
  by_cases hc : c
  · rw [if_pos hc]
    exact h
  · rw [if_neg hc]
    exact h' hc

theorem confExecLoadTensorTile_finished (ep : ConfCtx) (cmd : AimuCmd) :
    Finished (confExecLoadTensorTile ep cmd).2 := by
  unfold confExecLoadTensorTile
  refine finished_ite ⟨AimuResult.noConfusion, AimuResult.noConfusion⟩ fun _ => ?_
  cases confTensorFind ep cmd.tensorId with
  | some slot => exact ⟨AimuResult.noConfusion, AimuResult.noConfusion⟩
  | none =>
    refine finished_ite ⟨AimuResult.noConfusion, AimuResult.noConfusion⟩ fun _ => ?_
    exact ⟨AimuResult.noConfusion, AimuResult.noConfusion⟩

theorem confExecMatmul_finished (kernels : MathKernels) (ep : ConfCtx) (cmd : AimuCmd) :
    Finished (confExecMatmul kernels ep cmd).2 := by
  unfold confExecMatmul
  refine finished_ite ⟨AimuResult.noConfusion, AimuResult.noConfusion⟩ fun _ => ?_
  cases confTensorFind ep cmd.tensorId with
  | none => exact ⟨AimuResult.noConfusion, AimuResult.noConfusion⟩
  | some slot =>
    refine finished_ite ⟨AimuResult.noConfusion, AimuResult.noConfusion⟩ fun _ => ?_
    refine finished_ite ⟨AimuResult.noConfusion, AimuResult.noConfusion⟩ fun _ => ?_
    refine finished_ite ⟨AimuResult.noConfusion, AimuResult.noConfusion⟩ fun _ => ?_
    refine finished_ite (kernelResult_finished _) fun _ => ?_
    refine finished_ite (kernelResult_finished _) fun _ => ?_
    refine finished_ite (kernelResult_finished _) fun _ => ?_
    exact ⟨AimuResult.noConfusion, AimuResult.noConfusion⟩

theorem confExecRmsnorm_finished (kernels : MathKernels) (ep : ConfCtx) (cmd : AimuCmd) :
    Finished (confExecRmsnorm kernels ep cmd).2 := by
  unfold confExecRmsnorm
  refine finished_ite ⟨AimuResult.noConfusion, AimuResult.noConfusion⟩ fun _ => ?_
  cases confTensorFind ep cmd.tensorId with
  | none => exact ⟨AimuResult.noConfusion, AimuResult.noConfusion⟩
  | some slot =>
    refine finished_ite ⟨AimuResult.noConfusion, AimuResult.noConfusion⟩ fun _ => ?_
    refine finished_ite ⟨AimuResult.noConfusion, AimuResult.noConfusion⟩ fun _ => ?_
    exact kernelResult_finished _

theorem confExecRope_finished (kernels : MathKernels) (ep : ConfCtx) (cmd : AimuCmd) :
    Finished (confExecRope kernels ep cmd).2 := by
  unfold confExecRope
  refine finished_ite ⟨AimuResult.noConfusion, AimuResult.noConfusion⟩ fun _ => ?_
  refine finished_ite ⟨AimuResult.noConfusion, AimuResult.noConfusion⟩ fun _ => ?_
  exact kernelResult_finished _

theorem confExecFfn_finished (kernels : MathKernels) (ep : ConfCtx) (cmd : AimuCmd) :
    Finished (confExecFfn kernels ep cmd).2 := by
  unfold confExecFfn
  refine finished_ite ⟨AimuResult.noConfusion, AimuResult.noConfusion⟩ fun _ => ?_
  refine finished_ite ⟨AimuResult.noConfusion, AimuResult.noConfusion⟩ fun _ => ?_
  exact kernelResult_finished _

/-- Every command that an endpoint dispatches comes to an end. -/
theorem runCmd_finished (kernels : MathKernels) (ep : ConfCtx) (cmd : AimuCmd) :
    Finished (Cmdq.runCmd (some (confExecHook kernels)) ep cmd).2.2 := by
  unfold Cmdq.runCmd
  cases hcode : AimuCmdType.ofCode cmd.commandType with
  | none => exact ⟨AimuResult.noConfusion, AimuResult.noConfusion⟩
  | some ctype =>
    simp only
    split_ifs
    · unfold confExecHook
      simp only
      rw [hcode]
      cases ctype with
      | loadTensorTile => exact confExecLoadTensorTile_finished ep cmd
      | execMatmul => exact confExecMatmul_finished kernels ep cmd
      | execRmsnorm => exact confExecRmsnorm_finished kernels ep cmd
      | execRope => exact confExecRope_finished kernels ep cmd
      | execFfn => exact confExecFfn_finished kernels ep cmd
      | _ => exact ⟨AimuResult.noConfusion, AimuResult.noConfusion⟩
    · exact ⟨AimuResult.noConfusion, AimuResult.noConfusion⟩

end Hook

theorem createQueue_ok {kernels : MathKernels} {host : Host} {memory : Memory} {config : CmdqConfig} {q : Cmdq ConfCtx}
    (h : createQueue kernels host memory config = .ok q) :
    q.WellFormed ∧ q.pendingCmds = [] ∧ q.completions = [] ∧ q.execHook = some (confExecHook kernels) ∧
      q.execHookCtx = ⟨fun _ => {}, 0, memory, []⟩ := by
  unfold createQueue at h
  simp only at h
  cases hc : Cmdq.create host (⟨fun _ => {}, 0, memory, []⟩ : ConfCtx) (some config) with
  | error status =>
    rw [hc] at h
    cases h
  | ok q₀ =>
    rw [hc] at h
    obtain ⟨hw, hpend, hcomp⟩ := Cmdq.create_ok hc
    obtain rfl := Except.ok.inj h
    exact ⟨⟨hw.cmdDepth, hw.compDepth, hw.cmdOk, hw.compOk⟩, hpend, hcomp, rfl, rfl⟩

end Att1.Conformance
