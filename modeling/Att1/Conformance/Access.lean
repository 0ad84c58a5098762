import Att1.Conformance.Exec
import Att1.Decoder.Quantize

/-!
# Att1.Conformance.Access — what the exec hook reads and writes

* `Access`: an element that a kernel reads or writes, by its place in its buffer.
* `matmulF32Trace`, …: the accesses of the kernels of `src/matmul.c`, `src/matmul_q8.c`, `src/quant.c`, `src/norm.c` and
  `src/ffn.c`, in their order.  `execTrace`: those of the hook.
* `execTrace_result`: the hook gives the result of `confExecHook`.
* `staysInside_iff`: the hook keeps within the buffers of its command exactly where the command and the registered
  tensor are large enough for the kernel.
-/

open Att1.Lib Att1.Decoder

namespace Att1.Conformance

/-- An element of a buffer; `readScale` is of the scales of a quantized weight. -/
inductive Access
  | readInput (i : ℕ)
  | readWeight (i : ℕ)
  | readScale (i : ℕ)
  | writeOutput (i : ℕ)
  deriving DecidableEq, Repr

/-! ### The kernels -/

/-- The fields of an `att1_q8_matrix` in host memory; `stored` where `values` and `scales` are not `NULL`. -/
structure Q8Fields where
  rows : ℕ
  cols : ℕ
  stored : Bool

/-- The fields of an `att1_q4_matrix`, with what `att1_q4_matrix_alloc` requires of the group size. -/
structure Q4Fields where
  rows : ℕ
  cols : ℕ
  groupSize : UInt32
  stored : Bool
  valid : stored = true → q4GroupSizeValid groupSize = true
  grouped : stored = true → cols % groupSize.toNat = 0

/-- The quantized matrices in host memory. -/
structure HostMatrices where
  q8 : UInt64 → Q8Fields
  q4 : UInt64 → Q4Fields

/-- `att1_matmul_f32`: its accesses, and whether it returns 0. -/
def matmulF32Trace (dst lhs rhs : UInt64) (rows cols inner : ℕ) : List Access × Bool :=
  if dst = 0 ∨ lhs = 0 ∨ rhs = 0 then ([], false)
  else if rows = 0 ∨ cols = 0 ∨ inner = 0 then ([], false)
  else
    ((List.range rows).flatMap fun row => (List.range cols).flatMap fun col =>
      ((List.range inner).flatMap fun k => [.readInput (row * inner + k), .readWeight (k * cols + col)]) ++
        [.writeOutput (row * cols + col)], true)

/-- `att1_matmul_q8xf32`. -/
def matmulQ8Trace (host : HostMatrices) (dst lhs : UInt64) (lhsRows lhsCols : ℕ) (addr : UInt64) :
    List Access × Bool :=
  let weights := host.q8 addr
  if dst = 0 ∨ lhs = 0 ∨ addr = 0 ∨ weights.stored = false then ([], false)
  else if lhsRows = 0 ∨ lhsCols = 0 ∨ weights.rows = 0 ∨ weights.cols = 0 ∨ lhsCols ≠ weights.cols then ([], false)
  else
    ((List.range lhsRows).flatMap fun row => (List.range weights.rows).flatMap fun out =>
      .readScale out ::
        ((List.range lhsCols).flatMap fun col =>
          [.readWeight (out * weights.cols + col), .readInput (row * lhsCols + col)]) ++
        [.writeOutput (row * weights.rows + out)], true)

/-- `att1_matmul_q4xf32`; the elements of `packed` are its bytes. -/
def matmulQ4Trace (host : HostMatrices) (dst lhs : UInt64) (lhsRows lhsCols : ℕ) (addr : UInt64) :
    List Access × Bool :=
  let weights := host.q4 addr
  if dst = 0 ∨ lhs = 0 ∨ addr = 0 ∨ weights.stored = false then ([], false)
  else if lhsRows = 0 ∨ lhsCols = 0 ∨ weights.rows = 0 ∨ weights.cols = 0 ∨ lhsCols ≠ weights.cols then ([], false)
  else
    let groupSize := weights.groupSize.toNat
    let nGroupsPerRow := weights.cols / groupSize
    ((List.range lhsRows).flatMap fun lhsRow => (List.range weights.rows).flatMap fun weightRow =>
      ((List.range nGroupsPerRow).flatMap fun g =>
        let packedOff := weightRow * (weights.cols / 2) + g * (groupSize / 2)
        let actOff := lhsRow * lhsCols + g * groupSize
        let scaleIdx := weightRow * nGroupsPerRow + g
        .readScale scaleIdx ::
          ((List.range (groupSize / 2)).map fun i => .readWeight (packedOff + i)) ++
          (List.range groupSize).map fun j => .readInput (actOff + j)) ++
        [.writeOutput (lhsRow * weights.rows + weightRow)], true)

/-- `epsilon <= 0.0f`, on the bits of the float: a zero, or a negative number that is no NaN. -/
def floatNonpos (bits : UInt32) : Bool := bits == 0 || (0x80000000 ≤ bits && bits ≤ 0xFF800000)

/-- `att1_rmsnorm_f32`. -/
def rmsnormTrace (dst src weight : UInt64) (count : ℕ) (epsilon : UInt32) : List Access × Bool :=
  if dst = 0 ∨ src = 0 ∨ weight = 0 then ([], false)
  else if count = 0 ∨ floatNonpos epsilon = true then ([], false)
  else
    (((List.range count).map fun i => .readInput i) ++
      (List.range count).flatMap fun i => [.readInput i, .readWeight i, .writeOutput i], true)

/-- `att1_swiglu_f32`, where the values lie `valueOff` elements behind the gate in one input buffer. -/
def swigluTrace (dst gate value : UInt64) (valueOff count : ℕ) : List Access × Bool :=
  if dst = 0 ∨ gate = 0 ∨ value = 0 then ([], false)
  else if count = 0 then ([], false)
  else
    ((List.range count).flatMap fun i => [.readInput i, .readInput (valueOff + i), .writeOutput i], true)

/-! ### The hook -/

section Hook

variable (host : HostMatrices) (ep : ConfCtx) (cmd : AimuCmd)

/-- The accesses and the result of a kernel that was run. -/
def ofKernel (r : List Access × Bool) : List Access × AimuResult := (r.1, kernelResult r.2)

/-- The `switch` of `conf_exec_matmul`. -/
def matmulKernelTrace (w : ConfTensorEntry) (dOut dModel : ℕ) : List Access × AimuResult :=
  if cmd.dtype = dtypeF32 then
    ofKernel (matmulF32Trace cmd.outputBufAddr cmd.inputBufAddr w.hostAddr 1 dOut dModel)
  else if cmd.dtype = dtypeQ8 then
    ofKernel (matmulQ8Trace host cmd.outputBufAddr cmd.inputBufAddr 1 dModel w.hostAddr)
  else if cmd.dtype = dtypeQ4 then
    ofKernel (matmulQ4Trace host cmd.outputBufAddr cmd.inputBufAddr 1 dModel w.hostAddr)
  else ([], .errUnsupportedDtype)

/-- `conf_exec_matmul`. -/
def matmulHookTrace : List Access × AimuResult :=
  if cmd.inputBufAddr = 0 ∨ cmd.outputBufAddr = 0 then ([], .errInvalidCommand)
  else
    match confTensorFind ep cmd.tensorId with
    | none => ([], .errInvalidTensor)
    | some slot =>
      let w := ep.tensors slot
      if w.dtype ≠ cmd.dtype then ([], .errUnsupportedDtype)
      else
        let dOut := cmd.opParam0.toNat
        if dOut = 0 then ([], .errInvalidShape)
        else
          let dModel := (cmd.inputBufBytes / 4).toNat
          if dModel = 0 then ([], .errInvalidShape) else matmulKernelTrace host cmd w dOut dModel

/-- `conf_exec_rmsnorm`. -/
def rmsnormHookTrace : List Access × AimuResult :=
  if cmd.inputBufAddr = 0 ∨ cmd.outputBufAddr = 0 then ([], .errInvalidCommand)
  else
    match confTensorFind ep cmd.tensorId with
    | none => ([], .errInvalidTensor)
    | some slot =>
      let w := ep.tensors slot
      if w.dtype ≠ dtypeF32 then ([], .errUnsupportedDtype)
      else
        let count := (cmd.inputBufBytes / 4).toNat
        if count = 0 then ([], .errInvalidShape)
        else ofKernel (rmsnormTrace cmd.outputBufAddr cmd.inputBufAddr w.hostAddr count cmd.opParam0)

/-- `conf_exec_ffn`. -/
def ffnHookTrace : List Access × AimuResult :=
  if cmd.inputBufAddr = 0 ∨ cmd.outputBufAddr = 0 then ([], .errInvalidCommand)
  else
    let count := cmd.opParam0.toNat
    if count = 0 then ([], .errInvalidShape)
    else
      let value := cmd.inputBufAddr + 4 * cmd.opParam0.toUInt64
      ofKernel (swigluTrace cmd.outputBufAddr cmd.inputBufAddr value count count)

/-- The commands that run a kernel from an input to an output. -/
inductive ExecOp
  | matmul
  | rmsnorm
  | ffn

/-- Their command types. -/
def ExecOp.cmdType : ExecOp → AimuCmdType
  | .matmul => .execMatmul
  | .rmsnorm => .execRmsnorm
  | .ffn => .execFfn

/-- `conf_exec_hook` for one of them. -/
def execTrace : ExecOp → List Access × AimuResult
  | .matmul => matmulHookTrace host ep cmd
  | .rmsnorm => rmsnormHookTrace ep cmd
  | .ffn => ffnHookTrace cmd

end Hook

/-! ### Inside the buffers -/

/-- The sizes that a command and the registry give: bytes of the buffers, elements of the tensor. -/
structure BufferSizes where
  inputBytes : ℕ
  values : ℕ
  scales : ℕ
  outputBytes : ℕ

def Access.Within (s : BufferSizes) : Access → Prop
  | .readInput i => 4 * i + 4 ≤ s.inputBytes
  | .readWeight i => i < s.values
  | .readScale i => i < s.scales
  | .writeOutput i => 4 * i + 4 ≤ s.outputBytes

/-- Success with every access inside, or an error and no access. -/
def StaysInside (s : BufferSizes) (r : List Access × AimuResult) : Prop :=
  r.2 = .ok ∧ (∀ a ∈ r.1, a.Within s) ∨ r.2 ≠ .ok ∧ r.1 = []

section Sizes

variable (host : HostMatrices) (ep : ConfCtx) (cmd : AimuCmd)

/-- The values (for q4, the packed bytes) and the scales of a registered tensor. -/
def registeredElements (w : ConfTensorEntry) : ℕ × ℕ :=
  let rows := w.dim0.toNat
  let cols := w.dim1.toNat
  if w.dtype = dtypeQ8 then (rows * cols, rows)
  else if w.dtype = dtypeQ4 then (rows * (cols / 2), rows * (cols / (host.q4 w.hostAddr).groupSize.toNat))
  else (rows * cols, 0)

/-- The sizes of a command. -/
def bufferSizes : BufferSizes :=
  let elements := (confTensorFind ep cmd.tensorId).elim (0, 0) fun slot => registeredElements host (ep.tensors slot)
  ⟨cmd.inputBufBytes.toNat, elements.1, elements.2, cmd.outputBufBytes.toNat⟩

/-- What a matmul needs of the registered tensor and of the output, where its kernel gets that far. -/
def MatmulFits (w : ConfTensorEntry) : Prop :=
  let dOut := cmd.opParam0.toNat
  let dModel := (cmd.inputBufBytes / 4).toNat
  let q8 := host.q8 w.hostAddr
  let q4 := host.q4 w.hostAddr
  (w.dtype = dtypeF32 → dModel * dOut ≤ (registeredElements host w).1 ∧ 4 * dOut ≤ cmd.outputBufBytes.toNat) ∧
  (w.dtype = dtypeQ8 → q8.stored = true → q8.rows ≠ 0 → q8.cols = dModel →
    q8.rows * q8.cols ≤ (registeredElements host w).1 ∧ q8.rows ≤ (registeredElements host w).2 ∧
      4 * q8.rows ≤ cmd.outputBufBytes.toNat) ∧
  (w.dtype = dtypeQ4 → q4.stored = true → q4.rows ≠ 0 → q4.cols = dModel →
    q4.rows * (q4.cols / 2) ≤ (registeredElements host w).1 ∧
      q4.rows * (q4.cols / q4.groupSize.toNat) ≤ (registeredElements host w).2 ∧
      4 * q4.rows ≤ cmd.outputBufBytes.toNat)

/-- The buffers and the registered tensor are large enough for what the command asks for. -/
def ExecFits : ExecOp → Prop
  | .matmul =>
    cmd.inputBufAddr ≠ 0 → cmd.outputBufAddr ≠ 0 → ∀ slot ∈ confTensorFind ep cmd.tensorId,
      (ep.tensors slot).hostAddr ≠ 0 → (ep.tensors slot).dtype = cmd.dtype → cmd.opParam0 ≠ 0 →
        4 ≤ cmd.inputBufBytes → MatmulFits host cmd (ep.tensors slot)
  | .rmsnorm =>
    cmd.inputBufAddr ≠ 0 → cmd.outputBufAddr ≠ 0 → ∀ slot ∈ confTensorFind ep cmd.tensorId,
      (ep.tensors slot).hostAddr ≠ 0 → (ep.tensors slot).dtype = dtypeF32 → floatNonpos cmd.opParam0 = false →
        4 ≤ cmd.inputBufBytes →
          (cmd.inputBufBytes / 4).toNat ≤ (registeredElements host (ep.tensors slot)).1 ∧
            4 * (cmd.inputBufBytes / 4).toNat ≤ cmd.outputBufBytes.toNat
  | .ffn =>
    cmd.inputBufAddr ≠ 0 → cmd.outputBufAddr ≠ 0 → cmd.inputBufAddr + 4 * cmd.opParam0.toUInt64 ≠ 0 →
      cmd.opParam0 ≠ 0 →
        8 * cmd.opParam0.toNat ≤ cmd.inputBufBytes.toNat ∧ 4 * cmd.opParam0.toNat ≤ cmd.outputBufBytes.toNat

end Sizes

section Kernels

variable {s : BufferSizes} {host : HostMatrices} {dst lhs rhs addr src weight gate value : UInt64}
  {cols inner lhsCols count valueOff : ℕ} {epsilon : UInt32} {as : List Access}

theorem staysInside_refused (r : AimuResult) (h : r ≠ .ok) : StaysInside s ([], r) := .inr ⟨h, rfl⟩

theorem staysInside_failed : StaysInside s (ofKernel ([], false)) := .inr ⟨AimuResult.noConfusion, rfl⟩

theorem staysInside_ran : StaysInside s (ofKernel (as, true)) ↔ ∀ a ∈ as, a.Within s := by
  constructor
  · rintro (h | h)
    · exact h.2
    · exact absurd rfl h.1
  · exact fun h => .inl ⟨rfl, h⟩

theorem forall_lt_iff {n m : ℕ} : (∀ i < n, i < m) ↔ n ≤ m := by
  constructor
  · intro h
    by_contra hn
    have := h m (by omega)
    omega
  · intro h i hi
    omega

theorem forall_four_le_iff {n m : ℕ} : (∀ i < n, 4 * i + 4 ≤ m) ↔ 4 * n ≤ m := by
  constructor
  · intro h
    rcases Nat.eq_zero_or_pos n with rfl | hn
    · omega
    · have := h (n - 1) (by omega)
      omega
  · intro h i hi
    omega

theorem matmulF32Trace_within (hdst : dst ≠ 0) (hlhs : lhs ≠ 0) (hrhs : rhs ≠ 0) (hcols : cols ≠ 0)
    (hinner : inner ≠ 0) : StaysInside s (ofKernel (matmulF32Trace dst lhs rhs 1 cols inner)) ↔
      4 * inner ≤ s.inputBytes ∧ inner * cols ≤ s.values ∧ 4 * cols ≤ s.outputBytes := by
  unfold matmulF32Trace
  rw [if_neg (by simp [hdst, hlhs, hrhs]), if_neg (by simp [hcols, hinner]), staysInside_ran]
  simp only [List.range_one, List.flatMap_cons, List.flatMap_nil, List.append_nil, Nat.zero_mul, Nat.zero_add,
    List.forall_mem_flatMap, List.forall_mem_append, List.forall_mem_cons, List.mem_range]
  constructor
  · intro h
    exact ⟨forall_four_le_iff.mp fun k hk => ((h 0 (Nat.pos_of_ne_zero hcols)).1 k hk).1,
      forall_lt_iff.mp (forall_lt_mul.mpr fun k hk col hcol => ((h col hcol).1 k hk).2.1),
      forall_four_le_iff.mp fun col hcol => (h col hcol).2.1⟩
  · rintro ⟨hinput, hvalues, houtput⟩ col hcol
    exact ⟨fun k hk => ⟨forall_four_le_iff.mpr hinput k hk, forall_lt_mul.mp (forall_lt_iff.mpr hvalues) k hk col hcol,
      by simp⟩, forall_four_le_iff.mpr houtput col hcol, by simp⟩

theorem matmulQ8Trace_within (hdst : dst ≠ 0) (hlhs : lhs ≠ 0) (haddr : addr ≠ 0) (hcols : lhsCols ≠ 0)
    (hstored : (host.q8 addr).stored = true) (hrows : (host.q8 addr).rows ≠ 0) (heq : (host.q8 addr).cols = lhsCols) :
    StaysInside s (ofKernel (matmulQ8Trace host dst lhs 1 lhsCols addr)) ↔
      4 * lhsCols ≤ s.inputBytes ∧ (host.q8 addr).rows * (host.q8 addr).cols ≤ s.values ∧
        (host.q8 addr).rows ≤ s.scales ∧ 4 * (host.q8 addr).rows ≤ s.outputBytes := by
  unfold matmulQ8Trace
  rw [if_neg (by simp [hdst, hlhs, haddr, hstored]), if_neg (by simp [hcols, hrows, heq]), staysInside_ran, heq]
  simp only [List.range_one, List.flatMap_cons, List.flatMap_nil, List.append_nil, Nat.zero_mul, Nat.zero_add,
    List.forall_mem_flatMap, List.forall_mem_append, List.forall_mem_cons, List.mem_range]
  constructor
  · intro h
    exact ⟨forall_four_le_iff.mp fun col hcol => ((h 0 (Nat.pos_of_ne_zero hrows)).1.2 col hcol).2.1,
      forall_lt_iff.mp (forall_lt_mul.mpr fun out hout col hcol => ((h out hout).1.2 col hcol).1),
      forall_lt_iff.mp fun out hout => (h out hout).1.1,
      forall_four_le_iff.mp fun out hout => (h out hout).2.1⟩
  · rintro ⟨hinput, hvalues, hscales, houtput⟩ out hout
    exact ⟨⟨forall_lt_iff.mpr hscales out hout, fun col hcol =>
      ⟨forall_lt_mul.mp (forall_lt_iff.mpr hvalues) out hout col hcol,
        forall_four_le_iff.mpr hinput col hcol, by simp⟩⟩,
      forall_four_le_iff.mpr houtput out hout, by simp⟩

theorem matmulQ4Trace_within (hdst : dst ≠ 0) (hlhs : lhs ≠ 0) (haddr : addr ≠ 0) (hcols : lhsCols ≠ 0)
    (hstored : (host.q4 addr).stored = true) (hrows : (host.q4 addr).rows ≠ 0) (heq : (host.q4 addr).cols = lhsCols) :
    StaysInside s (ofKernel (matmulQ4Trace host dst lhs 1 lhsCols addr)) ↔
      4 * lhsCols ≤ s.inputBytes ∧ (host.q4 addr).rows * ((host.q4 addr).cols / 2) ≤ s.values ∧
        (host.q4 addr).rows * ((host.q4 addr).cols / (host.q4 addr).groupSize.toNat) ≤ s.scales ∧
        4 * (host.q4 addr).rows ≤ s.outputBytes := by
  unfold matmulQ4Trace
  rw [if_neg (by simp [hdst, hlhs, haddr, hstored]), if_neg (by simp [hcols, hrows, heq]), staysInside_ran]
  have hgrouped := (host.q4 addr).grouped hstored
  have hsize := q4GroupSizeValid_cases ((host.q4 addr).valid hstored)
  rw [heq] at hgrouped ⊢
  simp only
  generalize (host.q4 addr).groupSize.toNat = groupSize at *
  obtain ⟨half, rfl⟩ : ∃ half, groupSize = half * 2 := ⟨groupSize / 2, by omega⟩
  obtain ⟨n, rfl⟩ := Nat.dvd_of_mod_eq_zero hgrouped
  have hhalf : half * 2 / 2 = half := Nat.mul_div_cancel half (by omega)
  have hgroups : half * 2 * n / (half * 2) = n := Nat.mul_div_cancel_left n (by omega)
  have hpacked : half * 2 * n / 2 = n * half := by
    rw [Nat.mul_right_comm, Nat.mul_div_cancel _ (by omega), Nat.mul_comm]
  rw [hhalf, hgroups, hpacked, Nat.mul_comm (half * 2) n]
  simp only [List.range_one, List.flatMap_cons, List.flatMap_nil, List.append_nil, Nat.zero_mul, Nat.zero_add,
    List.forall_mem_flatMap, List.forall_mem_append, List.forall_mem_cons, List.forall_mem_map, List.mem_range]
  constructor
  · intro h
    refine ⟨forall_four_le_iff.mp (forall_lt_mul.mpr fun g hg j hj => ?_),
      forall_lt_iff.mp (forall_lt_mul.mpr fun row hrow => forall_lt_mul.mpr fun g hg i hi => ?_),
      forall_lt_iff.mp (forall_lt_mul.mpr fun row hrow g hg => ((h row hrow).1 g hg).1.1),
      forall_four_le_iff.mp fun row hrow => (h row hrow).2.1⟩
    · exact ((h 0 (Nat.pos_of_ne_zero hrows)).1 g hg).2 j hj
    · rw [← Nat.add_assoc]
      exact ((h row hrow).1 g hg).1.2 i hi
  · rintro ⟨hinput, hvalues, hscales, houtput⟩ row hrow
    refine ⟨fun g hg => ⟨⟨forall_lt_mul.mp (forall_lt_iff.mpr hscales) row hrow g hg, fun i hi => ?_⟩, fun j hj => ?_⟩,
      forall_four_le_iff.mpr houtput row hrow, by simp⟩
    · show _ + _ + _ < _
      rw [Nat.add_assoc]
      exact forall_lt_mul.mp (forall_lt_mul.mp (forall_lt_iff.mpr hvalues) row hrow) g hg i hi
    · exact forall_lt_mul.mp (forall_four_le_iff.mpr hinput) g hg j hj

theorem rmsnormTrace_within (hdst : dst ≠ 0) (hsrc : src ≠ 0) (hweight : weight ≠ 0) (hcount : count ≠ 0)
    (hepsilon : floatNonpos epsilon = false) : StaysInside s (ofKernel (rmsnormTrace dst src weight count epsilon)) ↔
      4 * count ≤ s.inputBytes ∧ count ≤ s.values ∧ 4 * count ≤ s.outputBytes := by
  unfold rmsnormTrace
  rw [if_neg (by simp [hdst, hsrc, hweight]), if_neg (by simp [hcount, hepsilon]), staysInside_ran]
  simp only [List.forall_mem_flatMap, List.forall_mem_append, List.forall_mem_cons, List.forall_mem_map, List.mem_range]
  constructor
  · rintro ⟨hread, h⟩
    exact ⟨forall_four_le_iff.mp hread, forall_lt_iff.mp fun i hi => (h i hi).2.1,
      forall_four_le_iff.mp fun i hi => (h i hi).2.2.1⟩
  · rintro ⟨hinput, hvalues, houtput⟩
    exact ⟨forall_four_le_iff.mpr hinput, fun i hi => ⟨forall_four_le_iff.mpr hinput i hi,
      forall_lt_iff.mpr hvalues i hi, forall_four_le_iff.mpr houtput i hi, by simp⟩⟩

/-- The values lie right behind the gate. -/
theorem swigluTrace_within (hdst : dst ≠ 0) (hgate : gate ≠ 0) (hvalue : value ≠ 0) (hcount : count ≠ 0) :
    StaysInside s (ofKernel (swigluTrace dst gate value count count)) ↔
      8 * count ≤ s.inputBytes ∧ 4 * count ≤ s.outputBytes := by
  unfold swigluTrace
  rw [if_neg (by simp [hdst, hgate, hvalue]), if_neg hcount, staysInside_ran]
  simp only [List.forall_mem_flatMap, List.forall_mem_cons, List.mem_range]
  constructor
  · intro h
    refine ⟨?_, forall_four_le_iff.mp fun i hi => (h i hi).2.2.1⟩
    have hlast : 4 * (count + (count - 1)) + 4 ≤ s.inputBytes := (h (count - 1) (by omega)).2.1
    omega
  · rintro ⟨hinput, houtput⟩ i hi
    refine ⟨?_, ?_, forall_four_le_iff.mpr houtput i hi, by simp⟩
    · show 4 * i + 4 ≤ s.inputBytes
      omega
    · show 4 * (count + i) + 4 ≤ s.inputBytes
      omega

/-- A kernel that does not get to its loops. -/
theorem staysInside_of_failed {r : List Access × Bool} (h : r = ([], false)) : StaysInside s (ofKernel r) := by
  rw [h]
  exact staysInside_failed

theorem matmulQ8Trace_staysInside (hdst : dst ≠ 0) (hlhs : lhs ≠ 0) (haddr : addr ≠ 0) (hcols : lhsCols ≠ 0)
    (hinput : 4 * lhsCols ≤ s.inputBytes) : StaysInside s (ofKernel (matmulQ8Trace host dst lhs 1 lhsCols addr)) ↔
      ((host.q8 addr).stored = true → (host.q8 addr).rows ≠ 0 → (host.q8 addr).cols = lhsCols →
        (host.q8 addr).rows * (host.q8 addr).cols ≤ s.values ∧ (host.q8 addr).rows ≤ s.scales ∧
          4 * (host.q8 addr).rows ≤ s.outputBytes) := by
  by_cases hstored : (host.q8 addr).stored = true
  · by_cases hshape : (host.q8 addr).rows ≠ 0 ∧ (host.q8 addr).cols = lhsCols
    · rw [matmulQ8Trace_within hdst hlhs haddr hcols hstored hshape.1 hshape.2]
      exact ⟨fun h _ _ _ => h.2, fun h => ⟨hinput, h hstored hshape.1 hshape.2⟩⟩
    · refine iff_of_true (staysInside_of_failed ?_) fun _ hrows heq => absurd ⟨hrows, heq⟩ hshape
      unfold matmulQ8Trace
      rw [if_neg (by simp [hdst, hlhs, haddr, hstored]), if_pos]
      by_contra h
      simp only [not_or] at h
      exact hshape ⟨h.2.2.1, (not_not.mp h.2.2.2.2).symm⟩
  · exact iff_of_true (staysInside_of_failed (if_pos (.inr (.inr (.inr (Bool.eq_false_of_not_eq_true hstored))))))
      fun h => absurd h hstored

theorem matmulQ4Trace_staysInside (hdst : dst ≠ 0) (hlhs : lhs ≠ 0) (haddr : addr ≠ 0) (hcols : lhsCols ≠ 0)
    (hinput : 4 * lhsCols ≤ s.inputBytes) : StaysInside s (ofKernel (matmulQ4Trace host dst lhs 1 lhsCols addr)) ↔
      ((host.q4 addr).stored = true → (host.q4 addr).rows ≠ 0 → (host.q4 addr).cols = lhsCols →
        (host.q4 addr).rows * ((host.q4 addr).cols / 2) ≤ s.values ∧
          (host.q4 addr).rows * ((host.q4 addr).cols / (host.q4 addr).groupSize.toNat) ≤ s.scales ∧
          4 * (host.q4 addr).rows ≤ s.outputBytes) := by
  by_cases hstored : (host.q4 addr).stored = true
  · by_cases hshape : (host.q4 addr).rows ≠ 0 ∧ (host.q4 addr).cols = lhsCols
    · rw [matmulQ4Trace_within hdst hlhs haddr hcols hstored hshape.1 hshape.2]
      exact ⟨fun h _ _ _ => h.2, fun h => ⟨hinput, h hstored hshape.1 hshape.2⟩⟩
    · refine iff_of_true (staysInside_of_failed ?_) fun _ hrows heq => absurd ⟨hrows, heq⟩ hshape
      unfold matmulQ4Trace
      rw [if_neg (by simp [hdst, hlhs, haddr, hstored]), if_pos]
      by_contra h
      simp only [not_or] at h
      exact hshape ⟨h.2.2.1, (not_not.mp h.2.2.2.2).symm⟩
  · exact iff_of_true (staysInside_of_failed (if_pos (.inr (.inr (.inr (Bool.eq_false_of_not_eq_true hstored))))))
      fun h => absurd h hstored

end Kernels

/-! ### The hook inside its buffers -/

section Hook

variable {host : HostMatrices} {ep : ConfCtx} {cmd : AimuCmd} {slot : ℕ}

theorem bufferSizes_of_find (h : confTensorFind ep cmd.tensorId = some slot) :
    bufferSizes host ep cmd = ⟨cmd.inputBufBytes.toNat, (registeredElements host (ep.tensors slot)).1,
      (registeredElements host (ep.tensors slot)).2, cmd.outputBufBytes.toNat⟩ := by
  unfold bufferSizes
  rw [h]
  rfl

theorem toNat_div_four (bytes : UInt32) : (bytes / 4).toNat = bytes.toNat / 4 := UInt32.toNat_div bytes 4

theorem four_le_iff (bytes : UInt32) : 4 ≤ bytes ↔ (bytes / 4).toNat ≠ 0 := by
  rw [toNat_div_four, UInt32.le_iff_toNat_le]
  show 4 ≤ bytes.toNat ↔ _
  omega

theorem input_le (bytes : UInt32) : 4 * (bytes / 4).toNat ≤ bytes.toNat := by
  rw [toNat_div_four]
  omega

theorem toNat_ne_zero (n : UInt32) : n.toNat ≠ 0 ↔ n ≠ 0 := not_congr (UInt32.toNat_inj (b := 0))

theorem matmulKernel_iff (hin : cmd.inputBufAddr ≠ 0) (hout : cmd.outputBufAddr ≠ 0) (w : ConfTensorEntry)
    (hdtype : w.dtype = cmd.dtype) (hdOut : cmd.opParam0.toNat ≠ 0) (hdModel : (cmd.inputBufBytes / 4).toNat ≠ 0) :
    StaysInside ⟨cmd.inputBufBytes.toNat, (registeredElements host w).1, (registeredElements host w).2,
      cmd.outputBufBytes.toNat⟩ (matmulKernelTrace host cmd w cmd.opParam0.toNat (cmd.inputBufBytes / 4).toNat) ↔
        (w.hostAddr ≠ 0 → MatmulFits host cmd w) := by
  unfold matmulKernelTrace MatmulFits
  rw [← hdtype]
  have hinput := input_le cmd.inputBufBytes
  by_cases haddr : w.hostAddr = 0
  · refine iff_of_true ?_ fun h => absurd haddr h
    split_ifs
    · exact staysInside_of_failed (if_pos (.inr (.inr haddr)))
    · exact staysInside_of_failed (if_pos (.inr (.inr (.inl haddr))))
    · exact staysInside_of_failed (if_pos (.inr (.inr (.inl haddr))))
    · exact staysInside_refused _ AimuResult.noConfusion
  · have h84 : dtypeQ8 ≠ dtypeQ4 := by decide
    have hf8 : dtypeF32 ≠ dtypeQ8 := by decide
    have hf4 : dtypeF32 ≠ dtypeQ4 := by decide
    by_cases hf32 : w.dtype = dtypeF32
    · rw [if_pos hf32, matmulF32Trace_within hout hin haddr hdOut hdModel]
      constructor
      · intro h _
        exact ⟨fun _ => h.2, fun h8 => absurd (hf32.symm.trans h8) hf8, fun h4 => absurd (hf32.symm.trans h4) hf4⟩
      · intro h
        exact ⟨hinput, (h haddr).1 hf32⟩
    · rw [if_neg hf32]
      by_cases hq8 : w.dtype = dtypeQ8
      · rw [if_pos hq8, matmulQ8Trace_staysInside hout hin haddr hdModel hinput]
        constructor
        · intro h _
          exact ⟨fun h32 => absurd h32 hf32, fun _ => h, fun h4 => absurd (hq8.symm.trans h4) h84⟩
        · intro h
          exact (h haddr).2.1 hq8
      · rw [if_neg hq8]
        by_cases hq4 : w.dtype = dtypeQ4
        · rw [if_pos hq4, matmulQ4Trace_staysInside hout hin haddr hdModel hinput]
          constructor
          · intro h _
            exact ⟨fun h32 => absurd h32 hf32, fun h8 => absurd h8 hq8, fun _ => h⟩
          · intro h
            exact (h haddr).2.2 hq4
        · rw [if_neg hq4]
          exact iff_of_true (staysInside_refused _ AimuResult.noConfusion)
            fun _ => ⟨fun h => absurd h hf32, fun h => absurd h hq8, fun h => absurd h hq4⟩

theorem staysInside_matmul : StaysInside (bufferSizes host ep cmd) (matmulHookTrace host ep cmd) ↔
    ExecFits host ep cmd .matmul := by
  show _ ↔ (_ → _ → ∀ slot ∈ confTensorFind ep cmd.tensorId, _)
  unfold matmulHookTrace
  by_cases haddr : cmd.inputBufAddr = 0 ∨ cmd.outputBufAddr = 0
  · rw [if_pos haddr]
    exact iff_of_true (staysInside_refused _ AimuResult.noConfusion)
      fun hin hout => absurd haddr (not_or.mpr ⟨hin, hout⟩)
  · rw [if_neg haddr]
    obtain ⟨hin, hout⟩ := not_or.mp haddr
    cases hfind : confTensorFind ep cmd.tensorId with
    | none => exact iff_of_true (staysInside_refused _ AimuResult.noConfusion) fun _ _ slot hslot => by cases hslot
    | some slot =>
      rw [bufferSizes_of_find hfind]
      simp only
      by_cases hdtype : (ep.tensors slot).dtype = cmd.dtype
      · rw [if_neg (not_not.mpr hdtype)]
        by_cases hdOut : cmd.opParam0.toNat = 0
        · rw [if_pos hdOut]
          refine iff_of_true (staysInside_refused _ AimuResult.noConfusion) fun _ _ _ _ _ _ h => ?_
          exact absurd hdOut ((toNat_ne_zero _).mpr h)
        · rw [if_neg hdOut]
          by_cases hdModel : (cmd.inputBufBytes / 4).toNat = 0
          · rw [if_pos hdModel]
            refine iff_of_true (staysInside_refused _ AimuResult.noConfusion) fun _ _ _ _ _ _ _ h => ?_
            exact absurd hdModel ((four_le_iff _).mp h)
          · rw [if_neg hdModel]
            refine (matmulKernel_iff hin hout (ep.tensors slot) hdtype hdOut hdModel).trans ?_
            constructor
            · intro h _ _ slot' hslot haddr _ _ _
              obtain rfl := Option.some.inj hslot
              exact h haddr
            · intro h haddr
              exact h hin hout slot rfl haddr hdtype ((toNat_ne_zero _).mp hdOut) ((four_le_iff _).mpr hdModel)
      · rw [if_pos hdtype]
        refine iff_of_true (staysInside_refused _ AimuResult.noConfusion) fun _ _ slot' hslot _ h => ?_
        obtain rfl := Option.some.inj hslot
        exact absurd h hdtype

theorem staysInside_rmsnorm : StaysInside (bufferSizes host ep cmd) (rmsnormHookTrace ep cmd) ↔
    ExecFits host ep cmd .rmsnorm := by
  show _ ↔ (_ → _ → ∀ slot ∈ confTensorFind ep cmd.tensorId, _)
  unfold rmsnormHookTrace
  by_cases haddr : cmd.inputBufAddr = 0 ∨ cmd.outputBufAddr = 0
  · rw [if_pos haddr]
    exact iff_of_true (staysInside_refused _ AimuResult.noConfusion)
      fun hin hout => absurd haddr (not_or.mpr ⟨hin, hout⟩)
  · rw [if_neg haddr]
    obtain ⟨hin, hout⟩ := not_or.mp haddr
    cases hfind : confTensorFind ep cmd.tensorId with
    | none => exact iff_of_true (staysInside_refused _ AimuResult.noConfusion) fun _ _ slot hslot => by cases hslot
    | some slot =>
      rw [bufferSizes_of_find hfind]
      simp only
      by_cases hdtype : (ep.tensors slot).dtype = dtypeF32
      · rw [if_neg (not_not.mpr hdtype)]
        by_cases hcount : (cmd.inputBufBytes / 4).toNat = 0
        · rw [if_pos hcount]
          refine iff_of_true (staysInside_refused _ AimuResult.noConfusion) fun _ _ _ _ _ _ _ h => ?_
          exact absurd hcount ((four_le_iff _).mp h)
        · rw [if_neg hcount]
          by_cases hruns : (ep.tensors slot).hostAddr ≠ 0 ∧ floatNonpos cmd.opParam0 = false
          · rw [rmsnormTrace_within hout hin hruns.1 hcount hruns.2]
            constructor
            · intro h _ _ slot' hslot _ _ _ _
              obtain rfl := Option.some.inj hslot
              exact h.2
            · intro h
              exact ⟨input_le _, h hin hout slot rfl hruns.1 hdtype hruns.2 ((four_le_iff _).mpr hcount)⟩
          · refine iff_of_true (staysInside_of_failed ?_) fun _ _ slot' hslot hhost _ heps => ?_
            · unfold rmsnormTrace
              by_cases hhost : (ep.tensors slot).hostAddr = 0
              · exact if_pos (.inr (.inr hhost))
              · rw [if_neg (by simp [hin, hout, hhost]), if_pos]
                exact .inr (Bool.eq_true_of_not_eq_false fun h => hruns ⟨hhost, h⟩)
            · obtain rfl := Option.some.inj hslot
              exact absurd ⟨hhost, heps⟩ hruns
      · rw [if_pos hdtype]
        refine iff_of_true (staysInside_refused _ AimuResult.noConfusion) fun _ _ slot' hslot _ h => ?_
        obtain rfl := Option.some.inj hslot
        exact absurd h hdtype

theorem staysInside_ffn : StaysInside (bufferSizes host ep cmd) (ffnHookTrace cmd) ↔ ExecFits host ep cmd .ffn := by
  show _ ↔ (_ → _ → _ → _ → _)
  unfold ffnHookTrace
  by_cases haddr : cmd.inputBufAddr = 0 ∨ cmd.outputBufAddr = 0
  · rw [if_pos haddr]
    exact iff_of_true (staysInside_refused _ AimuResult.noConfusion)
      fun hin hout => absurd haddr (not_or.mpr ⟨hin, hout⟩)
  · rw [if_neg haddr]
    obtain ⟨hin, hout⟩ := not_or.mp haddr
    simp only
    by_cases hcount : cmd.opParam0.toNat = 0
    · rw [if_pos hcount]
      exact iff_of_true (staysInside_refused _ AimuResult.noConfusion)
        fun _ _ _ h => absurd hcount ((toNat_ne_zero _).mpr h)
    · rw [if_neg hcount]
      by_cases hvalue : cmd.inputBufAddr + 4 * cmd.opParam0.toUInt64 = 0
      · exact iff_of_true (staysInside_of_failed (if_pos (.inr (.inr hvalue)))) fun _ _ h => absurd hvalue h
      · rw [swigluTrace_within hout hin hvalue hcount]
        exact ⟨fun h _ _ _ _ => h, fun h => h hin hout hvalue ((toNat_ne_zero _).mp hcount)⟩

/-- **The exec hook** succeeds with every access inside the buffers and the registered tensor, or fails without access,
exactly where the tensor and the buffers are as large as the command asks for. -/
theorem staysInside_iff (host : HostMatrices) (ep : ConfCtx) (cmd : AimuCmd) (op : ExecOp) :
    StaysInside (bufferSizes host ep cmd) (execTrace host ep cmd op) ↔ ExecFits host ep cmd op := by
  cases op with
  | matmul => exact staysInside_matmul
  | rmsnorm => exact staysInside_rmsnorm
  | ffn => exact staysInside_ffn

/-- Kernels whose results are those of the traces. -/
structure Agrees (host : HostMatrices) (kernels : MathKernels) : Prop where
  matmulF32 : ∀ m dst lhs rhs rows cols inner,
    (kernels.matmulF32 m dst lhs rhs rows cols inner).2 = (matmulF32Trace dst lhs rhs rows cols inner).2
  matmulQ8 : ∀ m dst lhs lhsRows lhsCols addr,
    (kernels.matmulQ8xf32 m dst lhs lhsRows lhsCols addr).2 = (matmulQ8Trace host dst lhs lhsRows lhsCols addr).2
  matmulQ4 : ∀ m dst lhs lhsRows lhsCols addr,
    (kernels.matmulQ4xf32 m dst lhs lhsRows lhsCols addr).2 = (matmulQ4Trace host dst lhs lhsRows lhsCols addr).2
  rmsnorm : ∀ m dst src weight count epsilon,
    (kernels.rmsnormF32 m dst src weight count epsilon).2 = (rmsnormTrace dst src weight count epsilon).2
  swiglu : ∀ m dst gate value valueOff count,
    (kernels.swigluF32 m dst gate value count).2 = (swigluTrace dst gate value valueOff count).2

/-- The hook of the endpoint has the result of the trace. -/
theorem execTrace_result {kernels : MathKernels} {op : ExecOp} (h : Agrees host kernels)
    (htype : AimuCmdType.ofCode cmd.commandType = some op.cmdType) :
    (confExecHook kernels ep cmd).2.2 = (execTrace host ep cmd op).2 := by
  unfold confExecHook
  rw [htype]
  cases op with
  | matmul =>
    show (confExecMatmul kernels ep cmd).2 = (matmulHookTrace host ep cmd).2
    unfold confExecMatmul matmulHookTrace
    by_cases haddr : cmd.inputBufAddr = 0 ∨ cmd.outputBufAddr = 0
    · rw [if_pos haddr, if_pos haddr]
    · rw [if_neg haddr, if_neg haddr]
      cases confTensorFind ep cmd.tensorId with
      | none => rfl
      | some slot =>
        simp only
        unfold matmulKernelTrace
        split_ifs
        · rfl
        · rfl
        · rfl
        · exact congrArg kernelResult (h.matmulF32 _ _ _ _ _ _ _)
        · exact congrArg kernelResult (h.matmulQ8 _ _ _ _ _ _)
        · exact congrArg kernelResult (h.matmulQ4 _ _ _ _ _ _)
        · rfl
  | rmsnorm =>
    show (confExecRmsnorm kernels ep cmd).2 = (rmsnormHookTrace ep cmd).2
    unfold confExecRmsnorm rmsnormHookTrace
    by_cases haddr : cmd.inputBufAddr = 0 ∨ cmd.outputBufAddr = 0
    · rw [if_pos haddr, if_pos haddr]
    · rw [if_neg haddr, if_neg haddr]
      cases confTensorFind ep cmd.tensorId with
      | none => rfl
      | some slot =>
        simp only
        split_ifs
        · rfl
        · rfl
        · exact congrArg kernelResult (h.rmsnorm _ _ _ _ _ _)
  | ffn =>
    show (confExecFfn kernels ep cmd).2 = (ffnHookTrace cmd).2
    unfold confExecFfn ffnHookTrace
    simp only
    split_ifs
    · rfl
    · rfl
    · exact congrArg kernelResult (h.swiglu _ _ _ _ _ _)

/-- A matmul of two outputs into an output buffer of one float. -/
theorem matmul_past_output : ¬ ∀ (host : HostMatrices) (ep : ConfCtx) (cmd : AimuCmd) (op : ExecOp),
    StaysInside (bufferSizes host ep cmd) (execTrace host ep cmd op) := by
  intro h
  have hmatmul := h ⟨fun _ => ⟨0, 0, false⟩, fun _ => ⟨0, 0, 0, false, Bool.noConfusion, Bool.noConfusion⟩⟩
    ⟨fun _ => ⟨true, 1, dtypeF32, 1, 2, 64⟩, 1, fun _ => 0, []⟩
    { inputBufAddr := 8, inputBufBytes := 4, outputBufAddr := 16, outputBufBytes := 4, tensorId := 1, opParam0 := 2 }
    .matmul
  obtain ⟨-, hinside⟩ | ⟨hok, -⟩ := hmatmul
  · exact absurd (hinside (.writeOutput 1) (by decide)) (by unfold Access.Within; decide)
  · exact absurd (by decide) hok

end Hook

end Att1.Conformance
