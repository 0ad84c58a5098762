import Att1.Conformance.Ops

/-!
# Att1.Pcie.Model — the PCIe backend (`src/backend_pcie.c`)

Every operation of the backend is a command that goes through the endpoint: `pcieSubmitExec` submits it, dispatches one
command and polls one completion.  A weight is loaded the first time it is used, under an id that the backend
chooses itself.
-/

open Att1.Conformance

namespace Att1.Pcie

variable {σ : Type}

/-- `att1_pcie_auto_tensor`. -/
structure PcieAutoTensor where
  ptr : UInt64 := 0
  dtype : UInt8 := 0
  tensorId : UInt16 := 0
  deriving DecidableEq, Repr

/-- `att1_pcie_backend_data`, less the endpoint and what explicit transfers use. -/
structure PcieBackendData where
  tileId : UInt32
  autoTensors : ℕ → PcieAutoTensor
  autoTensorCount : ℕ
  nextAutoTensorId : UInt16

/-- `ATT1_BACKEND_PCIE_MAX_AUTO_TENSORS`. -/
def maxAutoTensors : ℕ := 512

/-- `att1_backend_pcie_create`: nothing registered, and ids from `UINT16_MAX` down. -/
def PcieBackendData.create (tileId : UInt32) : PcieBackendData := ⟨tileId, fun _ => {}, 0, 0xFFFF⟩

/-- Where a weight is registered. -/
def PcieBackendData.find (data : PcieBackendData) (ptr : UInt64) (dtype : UInt8) : Option ℕ :=
  Lib.findSlot data.autoTensorCount fun i =>
    (data.autoTensors i).ptr == ptr && (data.autoTensors i).dtype == dtype

/-- The weight registered under the next id. -/
def PcieBackendData.push (data : PcieBackendData) (ptr : UInt64) (dtype : UInt8) : PcieBackendData :=
  { data with
    autoTensors := Function.update data.autoTensors data.autoTensorCount ⟨ptr, dtype, data.nextAutoTensorId⟩
    autoTensorCount := data.autoTensorCount + 1
    nextAutoTensorId := data.nextAutoTensorId - 1 }

/-- The command that loads a weight. -/
def loadCmd (ptr : UInt64) (dtype : UInt8) (dim0 dim1 tensorId : UInt16) : AimuCmd where
  commandType := 0x01
  dtype := dtype
  tensorId := tensorId
  inputBufAddr := ptr
  inputBufBytes := 1
  opParam1 := (dim0.toUInt32 <<< 16) ||| dim1.toUInt32

/-- The descriptor with the tile of the backend. -/
def forTile (tileId : UInt32) (cmd : AimuCmd) : AimuCmd := { cmd with tileId := tileId.toUInt8 }

/-- `pcie_submit_exec`; `true` for the return value 0. -/
def pcieSubmitExec (ops : ConformanceOps σ) (tileId : UInt32) (endpoint : σ) (cmd : AimuCmd) : σ × Bool :=
  let r := ops.cmdSubmit endpoint (forTile tileId cmd)
  if r.2.1 ≠ .ok then (r.1, false)
  else
    let d := ops.cmdDispatchOne r.1
    if d.2 ≠ .ok then (d.1, false)
    else
      let p := ops.cmdPollCompletion d.1
      if p.2.1 ≠ .ok then (p.1, false)
      else (p.1, decide (resultToStatus (p.2.2.getD {}).resultCode = .ok))

/-- `pcie_register_weight`; the id of the weight, or `none` for the return value -1. -/
def pcieRegisterWeight (ops : ConformanceOps σ) (endpoint : σ) (data : PcieBackendData) (ptr : UInt64) (dtype : UInt8)
    (dim0 dim1 : UInt16) : σ × PcieBackendData × Option UInt16 :=
  if ptr = 0 then (endpoint, data, none)
  else
    match data.find ptr dtype with
    | some i => (endpoint, data, some (data.autoTensors i).tensorId)
    | none =>
      if maxAutoTensors ≤ data.autoTensorCount ∨ data.nextAutoTensorId = 0 then (endpoint, data, none)
      else
        let r := pcieSubmitExec ops data.tileId endpoint (loadCmd ptr dtype dim0 dim1 data.nextAutoTensorId)
        if r.2 = false then (r.1, data, none) else (r.1, data.push ptr dtype, some data.nextAutoTensorId)

/-- A command on a registered weight: the weight is registered first. -/
def execWeight (ops : ConformanceOps σ) (endpoint : σ) (data : PcieBackendData) (ptr : UInt64) (dtype : UInt8)
    (dim0 dim1 : UInt16) (cmd : UInt16 → AimuCmd) : σ × PcieBackendData × Bool :=
  match pcieRegisterWeight ops endpoint data ptr dtype dim0 dim1 with
  | (endpoint, data, none) => (endpoint, data, false)
  | (endpoint, data, some tensorId) =>
    let r := pcieSubmitExec ops data.tileId endpoint (cmd tensorId)
    (r.1, data, r.2)

/-- The descriptor of a matmul. -/
def matmulCmd (dtype : UInt8) (dst lhs : UInt64) (outputs inputs : ℕ) (tensorId : UInt16) : AimuCmd where
  commandType := 0x10
  dtype := dtype
  tensorId := tensorId
  inputBufAddr := lhs
  inputBufBytes := UInt32.ofNat (inputs * 4)
  outputBufAddr := dst
  outputBufBytes := UInt32.ofNat (outputs * 4)
  opParam0 := UInt32.ofNat outputs

/-- `pcie_matmul_f32`. -/
def pcieMatmulF32 (ops : ConformanceOps σ) (endpoint : σ) (data : PcieBackendData) (dst lhs rhs : UInt64)
    (rows cols inner : ℕ) : σ × PcieBackendData × Bool :=
  if rows ≠ 1 then (endpoint, data, false)
  else
    execWeight ops endpoint data rhs dtypeF32 (UInt16.ofNat inner) (UInt16.ofNat cols)
      (matmulCmd dtypeF32 dst lhs cols inner)

/-- What the backend reads of an `att1_q8_matrix` or `att1_q4_matrix`, and where it lies. -/
structure QuantMatrix where
  addr : UInt64
  rows : ℕ
  cols : ℕ
  deriving DecidableEq, Repr

/-- The matmul of a quantised matrix. -/
def pcieMatmulQuant (dtype : UInt8) (ops : ConformanceOps σ) (endpoint : σ) (data : PcieBackendData)
    (dst lhs : UInt64) (lhsRows lhsCols : ℕ) (weights : Option QuantMatrix) : σ × PcieBackendData × Bool :=
  match weights with
  | none => (endpoint, data, false)
  | some w =>
    if lhsRows ≠ 1 then (endpoint, data, false)
    else
      execWeight ops endpoint data w.addr dtype (UInt16.ofNat w.rows) (UInt16.ofNat w.cols)
        (matmulCmd dtype dst lhs w.rows lhsCols)

/-- `pcie_matmul_q8xf32`. -/
def pcieMatmulQ8xf32 (ops : ConformanceOps σ) := pcieMatmulQuant dtypeQ8 ops

/-- `pcie_matmul_q4xf32`. -/
def pcieMatmulQ4xf32 (ops : ConformanceOps σ) := pcieMatmulQuant dtypeQ4 ops

/-- `pcie_rmsnorm_f32`; the last argument is the bit pattern of the epsilon. -/
def pcieRmsnormF32 (ops : ConformanceOps σ) (endpoint : σ) (data : PcieBackendData) (dst src weight : UInt64)
    (count : ℕ) (epsilon : UInt32) : σ × PcieBackendData × Bool :=
  execWeight ops endpoint data weight dtypeF32 1 (UInt16.ofNat count) fun tensorId =>
    { commandType := 0x11
      dtype := dtypeF32
      tensorId := tensorId
      inputBufAddr := src
      inputBufBytes := UInt32.ofNat (count * 4)
      outputBufAddr := dst
      outputBufBytes := UInt32.ofNat (count * 4)
      opParam0 := epsilon }

end Att1.Pcie
