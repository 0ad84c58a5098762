import Att1.Pcie.Weights

/-!
# Att1.Pcie.Dims — the sizes under which a backend registers its weights

A backend looks a weight up by pointer and dtype, and the sizes travel in two fields of sixteen bits.

* `WeightCall.use`: the weight of a call with its sizes, as integers.
* `Kept`: the registry of an endpoint is the table of the first uses of the weights of its one backend.
* `registered_dims`: the entry behind a matmul that succeeds has the sizes of the first use of the weight, modulo
  65536; the kernel takes those of the call.
-/

open Att1.Lib Att1.Conformance

namespace Att1.Pcie

/-- A weight with the sizes that a call gives for it. -/
structure WeightUse where
  ptr : UInt64
  dtype : UInt8
  rows : ℕ
  cols : ℕ
  deriving DecidableEq, Repr

/-- The weight of a call that its first checks let pass. -/
def WeightCall.use : WeightCall → Option WeightUse
  | .matmulF32 _ _ rhs rows cols inner => if rows ≠ 1 then none else some ⟨rhs, dtypeF32, inner, cols⟩
  | .matmulQ8xf32 _ _ lhsRows _ (some w) => if lhsRows ≠ 1 then none else some ⟨w.addr, dtypeQ8, w.rows, w.cols⟩
  | .matmulQ4xf32 _ _ lhsRows _ (some w) => if lhsRows ≠ 1 then none else some ⟨w.addr, dtypeQ4, w.rows, w.cols⟩
  | .rmsnormF32 _ _ weight count _ => some ⟨weight, dtypeF32, 1, count⟩
  | _ => none

namespace WeightUse

/-- The same weight in the eyes of the backend. -/
def Same (u v : WeightUse) : Prop := u.ptr = v.ptr ∧ u.dtype = v.dtype

instance (u v : WeightUse) : Decidable (u.Same v) := inferInstanceAs (Decidable (_ ∧ _))

/-- The entry of a weight that is registered with a rank. -/
def entry (u : WeightUse) (rank : ℕ) : ConfTensorEntry where
  used := true
  tensorId := idOf rank
  dtype := u.dtype
  dim0 := UInt16.ofNat u.rows
  dim1 := UInt16.ofNat u.cols
  hostAddr := u.ptr

/-- The place of a weight in the table of the backend. -/
def slot (u : WeightUse) (rank : ℕ) : PcieAutoTensor := ⟨u.ptr, u.dtype, idOf rank⟩

end WeightUse

/-- Two halves of a word come apart again. -/
theorem halves (dim0 dim1 : UInt16) :
    (((dim0.toUInt32 <<< 16) ||| dim1.toUInt32) >>> 16).toUInt16 = dim0 ∧
      (((dim0.toUInt32 <<< 16) ||| dim1.toUInt32) &&& 0xFFFF).toUInt16 = dim1 := by
  constructor
  · apply UInt16.eq_of_toBitVec_eq
    ext i hi
    simp
    grind
  · apply UInt16.eq_of_toBitVec_eq
    ext i hi
    simp
    intro _
    show (BitVec.allOnes 16)[i] = true
    exact BitVec.getElem_allOnes i hi

/-- The command that loads the weight carries its sizes modulo 65536. -/
theorem loadedEntry_loadCmd (q : Cmdq ConfCtx) (tileId : UInt32) (u : WeightUse) (rank : ℕ) :
    loadedEntry (q.storedCmd (forTile tileId
      (loadCmd u.ptr u.dtype (UInt16.ofNat u.rows) (UInt16.ofNat u.cols) (idOf rank)))) = u.entry rank := by
  obtain ⟨hdim0, hdim1⟩ := halves (UInt16.ofNat u.rows) (UInt16.ofNat u.cols)
  unfold loadedEntry WeightUse.entry
  congr 1

/-! ### The calls -/

/-- A backend with an endpoint of its own. -/
structure OwnBackend where
  queue : Cmdq ConfCtx
  data : PcieBackendData

/-- A call with its result, whether it registered its weight, and the matmul kernels that ran. -/
structure OwnEvent where
  call : WeightCall
  success : Bool
  registered : Bool
  runs : List MatmulRun

/-- One call. -/
def OwnStep (s : OwnBackend) (e : OwnEvent) (s' : OwnBackend) : Prop :=
  ∃ q data, e.call.perform s.queue s.data = (q, data, e.success) ∧ s' = ⟨q, data⟩ ∧
    e.registered = decide (s.data.autoTensorCount < data.autoTensorCount) ∧
    e.runs = q.execHookCtx.matmuls.drop s.queue.execHookCtx.matmuls.length

/-- The weight that the call registered. -/
def OwnEvent.registration (e : OwnEvent) : Option WeightUse := if e.registered then e.call.use else none

/-- The weights that a history has registered, in order. -/
def registrations (es : List OwnEvent) : List WeightUse := es.filterMap OwnEvent.registration

/-- The use with which a weight was registered. -/
def firstUse (es : List OwnEvent) (u : WeightUse) : Option WeightUse :=
  (registrations es).find? fun v => decide (v.Same u)

/-- The entry that the endpoint has for a weight of the backend. -/
def OwnBackend.entry (s : OwnBackend) (u : WeightUse) : Option ConfTensorEntry :=
  (s.data.find u.ptr u.dtype).bind fun i =>
    (confTensorFind s.queue.execHookCtx (s.data.autoTensors i).tensorId).map s.queue.execHookCtx.tensors

/-- Every call passes its weight on with its sizes modulo 65536, as a matmul or a norm. -/
theorem perform_use (call : WeightCall) (q : Cmdq ConfCtx) (data : PcieBackendData) :
    (call.use = none ∧ call.perform q data = (q, data, false)) ∨
      ∃ u cmd, call.use = some u ∧
        call.perform q data =
          execWeight inprocOps q data u.ptr u.dtype (UInt16.ofNat u.rows) (UInt16.ofNat u.cols) cmd ∧
        ((∃ m, call.matmul = some m ∧ cmd = matmulCmd m.dtype m.dst m.lhs m.outputs m.inputs ∧ m.weights = u.ptr ∧
            m.dtype = u.dtype) ∨
          call.matmul = none ∧ ∀ id, (cmd id).commandType = 0x11) := by
  cases call with
  | matmulF32 dst lhs rhs rows cols inner =>
    by_cases hrows : rows ≠ 1
    · exact .inl ⟨if_pos hrows, if_pos hrows⟩
    · exact .inr ⟨_, _, if_neg hrows, if_neg hrows, .inl ⟨_, if_neg hrows, rfl, rfl, rfl⟩⟩
  | matmulQ8xf32 dst lhs lhsRows lhsCols weights =>
    cases weights with
    | none => exact .inl ⟨rfl, rfl⟩
    | some w =>
      by_cases hrows : lhsRows ≠ 1
      · exact .inl ⟨if_pos hrows, if_pos hrows⟩
      · exact .inr ⟨_, _, if_neg hrows, if_neg hrows, .inl ⟨_, if_neg hrows, rfl, rfl, rfl⟩⟩
  | matmulQ4xf32 dst lhs lhsRows lhsCols weights =>
    cases weights with
    | none => exact .inl ⟨rfl, rfl⟩
    | some w =>
      by_cases hrows : lhsRows ≠ 1
      · exact .inl ⟨if_pos hrows, if_pos hrows⟩
      · exact .inr ⟨_, _, if_neg hrows, if_neg hrows, .inl ⟨_, if_neg hrows, rfl, rfl, rfl⟩⟩
  | rmsnormF32 dst src weight count epsilon => exact .inr ⟨_, _, rfl, rfl, .inr ⟨rfl, fun _ => rfl⟩⟩

/-! ### The registry -/

section Kept

variable {kernels : MathKernels} {firsts : List WeightUse} {s s' : OwnBackend} {u : WeightUse} {i : ℕ}

/-- The backend and the endpoint both have the table of the weights registered so far, no weight twice. -/
structure Kept (kernels : MathKernels) (firsts : List WeightUse) (s : OwnBackend) : Prop where
  idle : Idle kernels s.queue
  count : s.data.autoTensorCount = firsts.length
  room : firsts.length ≤ maxAutoTensors
  next : s.data.nextAutoTensorId = idOf firsts.length
  table : ∀ i f, firsts[i]? = some f → s.data.autoTensors i = f.slot i
  distinct : firsts.Pairwise fun f g => ¬ f.Same g
  admits : firsts ≠ [] → Admits s.queue s.data.tileId ∧ s.queue.compRoom ≠ 0
  entries : s.queue.compRoom ≠ 0 → s.queue.execHookCtx.tensorCount = firsts.length
  entry : s.queue.compRoom ≠ 0 → ∀ i f, firsts[i]? = some f → s.queue.execHookCtx.tensors i = f.entry i

/-- A command that leaves the registry alone. -/
theorem Kept.withQueue {q : Cmdq ConfCtx} (h : Kept kernels firsts s) (hidle : Idle kernels q)
    (hconfig : q.config = s.queue.config)
    (hreg : s.queue.compRoom ≠ 0 → q.execHookCtx.tensors = s.queue.execHookCtx.tensors ∧
      q.execHookCtx.tensorCount = s.queue.execHookCtx.tensorCount) : Kept kernels firsts ⟨q, s.data⟩ := by
  have hroom : q.compRoom = s.queue.compRoom := h.idle.compRoom_eq hidle hconfig
  refine ⟨hidle, h.count, h.room, h.next, h.table, h.distinct, fun hne => ?_, fun hne => ?_, fun hne => ?_⟩
  · obtain ⟨hadm, hne⟩ := h.admits hne
    refine ⟨?_, hroom ▸ hne⟩
    unfold Admits
    rw [hconfig]
    exact hadm
  · exact (hreg (hroom ▸ hne)).2.trans (h.entries (hroom ▸ hne))
  · rw [(hreg (hroom ▸ hne)).1]
    exact h.entry (hroom ▸ hne)

/-- A weight is found if it has been registered, and at its rank. -/
theorem Kept.find_some (h : Kept kernels firsts s) (hfind : s.data.find u.ptr u.dtype = some i) :
    ∃ f, firsts[i]? = some f ∧ f.Same u ∧ firsts.find? (fun v => decide (v.Same u)) = some f := by
  obtain ⟨hlt, hptr, hdtype⟩ := Pcie.find_some hfind
  rw [h.count] at hlt
  have hf : firsts[i]? = some firsts[i] := List.getElem?_eq_getElem hlt
  have hslot := h.table i _ hf
  rw [hslot] at hptr hdtype
  refine ⟨_, hf, ⟨hptr, hdtype⟩, ?_⟩
  rw [List.find?_eq_some_iff_getElem]
  refine ⟨decide_eq_true ⟨hptr, hdtype⟩, i, hlt, rfl, fun j hj => ?_⟩
  have hdist := List.pairwise_iff_getElem.mp h.distinct j i (by omega) hlt hj
  rw [Bool.not_eq_true', decide_eq_false_iff_not]
  rintro ⟨hptr', hdtype'⟩
  exact hdist ⟨hptr'.trans hptr.symm, hdtype'.trans hdtype.symm⟩

theorem Kept.find_none (h : Kept kernels firsts s) (hfind : s.data.find u.ptr u.dtype = none) :
    ∀ f ∈ firsts, ¬ f.Same u := by
  intro f hf hsame
  obtain ⟨i, hlt, rfl⟩ := List.getElem_of_mem hf
  have hno := findSlot_eq_none.mp hfind i (by rw [h.count]; exact hlt)
  rw [h.table i _ (List.getElem?_eq_getElem hlt)] at hno
  obtain ⟨hptr, hdtype⟩ := hsame
  unfold WeightUse.slot at hno
  simp only at hno
  rw [hptr, hdtype, beq_self_eq_true, beq_self_eq_true] at hno
  cases hno

/-- The endpoint finds the entry of a rank. -/
theorem Kept.confTensorFind (h : Kept kernels firsts s) (hlt : i < firsts.length) :
    confTensorFind s.queue.execHookCtx (idOf i) = some i := by
  have hroom := (h.admits (List.ne_nil_of_length_pos (by omega))).2
  unfold Conformance.confTensorFind
  rw [h.entries hroom]
  apply findSlot_of_unique hlt
  · rw [h.entry hroom i _ (List.getElem?_eq_getElem hlt)]
    exact beq_self_eq_true _
  · intro j hj hp
    rw [h.entry hroom j _ (List.getElem?_eq_getElem hj)] at hp
    have hid : idOf j = idOf i := beq_iff_eq.mp hp
    have hmax := h.room
    unfold maxAutoTensors at hmax
    refine idOf_injective ?_ ?_ hid
    · unfold confMaxTensors
      omega
    · unfold confMaxTensors
      omega

theorem Kept.confTensorFind_none (h : Kept kernels firsts s) (hroom : s.queue.compRoom ≠ 0)
    (hlt : firsts.length < maxAutoTensors) :
    Conformance.confTensorFind s.queue.execHookCtx (idOf firsts.length) = none := by
  unfold Conformance.confTensorFind
  rw [h.entries hroom]
  apply findSlot_eq_none.mpr
  intro j hj
  rw [h.entry hroom j _ (List.getElem?_eq_getElem hj)]
  unfold WeightUse.entry
  rw [Bool.true_and, beq_eq_false_iff_ne]
  intro hid
  unfold maxAutoTensors at hlt
  have heq := idOf_injective (by unfold confMaxTensors; omega) (by unfold confMaxTensors; omega) hid
  omega

/-- A table with one more row. -/
theorem getElem?_snoc {P : ℕ → WeightUse → Prop} (hold : ∀ i f, firsts[i]? = some f → P i f)
    (hnew : P firsts.length u) :
    ∀ i f, (firsts ++ [u])[i]? = some f → P i f := by
  intro i f hf
  by_cases hlt : i < firsts.length
  · rw [List.getElem?_append_left hlt] at hf
    exact hold i f hf
  · rw [List.getElem?_append_right (not_lt.mp hlt), List.getElem?_singleton] at hf
    split_ifs at hf with hi
    obtain rfl := Option.some.inj hf
    obtain rfl : i = firsts.length := by omega
    exact hnew

/-- What registering a weight can do. -/
inductive Registered (kernels : MathKernels) (firsts : List WeightUse) (s : OwnBackend) (u : WeightUse)
    (q : Cmdq ConfCtx) : PcieBackendData → Option UInt16 → Prop
  | failed (h : Kept kernels firsts ⟨q, s.data⟩) : Registered kernels firsts s u q s.data none
  | known {i : ℕ} (hfind : s.data.find u.ptr u.dtype = some i) (h : Kept kernels firsts ⟨q, s.data⟩) :
    Registered kernels firsts s u q s.data (some (idOf i))
  | loaded (hfind : s.data.find u.ptr u.dtype = none)
    (h : Kept kernels (firsts ++ [u]) ⟨q, s.data.push u.ptr u.dtype⟩) :
    Registered kernels firsts s u q (s.data.push u.ptr u.dtype) (some (idOf firsts.length))

/-- The endpoint and the backend after a load. -/
theorem Kept.push {q : Cmdq ConfCtx} (h : Kept kernels firsts s) (hidle : Idle kernels q)
    (hconfig : q.config = s.queue.config) (hadm : Admits s.queue s.data.tileId) (hroom : s.queue.compRoom ≠ 0)
    (hlt : firsts.length < maxAutoTensors) (hfind : s.data.find u.ptr u.dtype = none)
    (hcount : q.execHookCtx.tensorCount = firsts.length + 1)
    (htensors : q.execHookCtx.tensors =
      Function.update s.queue.execHookCtx.tensors firsts.length (u.entry firsts.length)) :
    Kept kernels (firsts ++ [u]) ⟨q, s.data.push u.ptr u.dtype⟩ := by
  have hroom' : q.compRoom = s.queue.compRoom := h.idle.compRoom_eq hidle hconfig
  have hlast : ∀ {A : Type} (f : ℕ → A) (a : A) (g : WeightUse → ℕ → A),
      (∀ i v, firsts[i]? = some v → f i = g v i) → a = g u firsts.length →
      ∀ i v, (firsts ++ [u])[i]? = some v → Function.update f firsts.length a i = g v i := by
    intro A f a g hold hnew
    refine getElem?_snoc (fun i v hv => ?_) ?_
    · have hi := (List.getElem?_eq_some_iff.mp hv).1
      rw [Function.update_of_ne (by omega)]
      exact hold i v hv
    · rw [Function.update_self]
      exact hnew
  refine ⟨hidle, ?_, ?_, ?_, ?_, ?_, fun _ => ⟨?_, ?_⟩, fun _ => ?_, fun _ => ?_⟩
  · show s.data.autoTensorCount + 1 = _
    rw [h.count, List.length_append, List.length_singleton]
  · rw [List.length_append, List.length_singleton]
    omega
  · show s.data.nextAutoTensorId - 1 = _
    rw [h.next, List.length_append, List.length_singleton]
    unfold maxAutoTensors at hlt
    apply UInt16.toNat_inj.mp
    have hone : (1 : UInt16) ≤ idOf firsts.length := by
      rw [UInt16.le_iff_toNat_le, toNat_idOf]
      show 1 ≤ _
      omega
    rw [UInt16.toNat_sub_of_le _ _ hone, toNat_idOf, toNat_idOf]
    show _ - 1 = _
    omega
  · show ∀ i (v : WeightUse), _ → Function.update s.data.autoTensors s.data.autoTensorCount _ i = v.slot i
    rw [h.count]
    refine hlast _ _ WeightUse.slot h.table ?_
    rw [h.next]
    rfl
  · rw [List.pairwise_append]
    refine ⟨h.distinct, List.pairwise_singleton _ _, fun f hf g hg => ?_⟩
    rw [List.mem_singleton.mp hg]
    exact h.find_none hfind f hf
  · show Admits q s.data.tileId
    unfold Admits
    rw [hconfig]
    exact hadm
  · exact hroom' ▸ hroom
  · rw [List.length_append]
    exact hcount
  · show ∀ i (v : WeightUse), _ → q.execHookCtx.tensors i = v.entry i
    rw [htensors]
    exact hlast _ _ WeightUse.entry (h.entry hroom) rfl

theorem register_registered (h : Kept kernels firsts s) (u : WeightUse) :
    ∃ q data id, pcieRegisterWeight inprocOps s.queue s.data u.ptr u.dtype (UInt16.ofNat u.rows) (UInt16.ofNat u.cols) =
        (q, data, id) ∧ Registered kernels firsts s u q data id ∧
      q.execHookCtx.matmuls = s.queue.execHookCtx.matmuls := by
  unfold pcieRegisterWeight
  by_cases hptr : u.ptr = 0
  · rw [if_pos hptr]
    exact ⟨_, _, _, rfl, .failed h, rfl⟩
  rw [if_neg hptr]
  cases hfind : s.data.find u.ptr u.dtype with
  | some i =>
    obtain ⟨f, hf, -, -⟩ := h.find_some hfind
    simp only
    rw [h.table i f hf]
    exact ⟨_, _, _, rfl, .known hfind h, rfl⟩
  | none =>
    simp only
    by_cases hfull : maxAutoTensors ≤ s.data.autoTensorCount ∨ s.data.nextAutoTensorId = 0
    · rw [if_pos hfull]
      exact ⟨_, _, _, rfl, .failed h, rfl⟩
    rw [if_neg hfull, h.next]
    have hlt : firsts.length < maxAutoTensors := by
      rw [not_or, h.count] at hfull
      exact not_le.mp hfull.1
    by_cases hadm : Admits s.queue s.data.tileId
    · obtain ⟨q, success, heq, hidle, hconfig, hctx, hiff⟩ := @exec_idle kernels s.queue s.data.tileId
        (loadCmd u.ptr u.dtype (UInt16.ofNat u.rows) (UInt16.ofNat u.cols) (idOf firsts.length)) h.idle hadm
      have hrun : idleRun kernels s.queue s.data.tileId
          (loadCmd u.ptr u.dtype (UInt16.ofNat u.rows) (UInt16.ofNat u.cols) (idOf firsts.length)) = _ :=
        runCmd_load kernels _ rfl
      rw [hrun] at hctx hiff
      have hmatmuls : q.execHookCtx.matmuls = s.queue.execHookCtx.matmuls := by
        rw [hctx]
        exact confExecLoadTensorTile_matmuls _ _
      rw [heq]
      by_cases hroom : s.queue.compRoom = 0
      · have hfail : success = false := by
          rw [← Bool.not_eq_true, hiff]
          exact fun hok => hok.1 hroom
        rw [hfail, if_pos rfl]
        exact ⟨_, _, _, rfl, .failed (h.withQueue hidle hconfig fun hne => absurd hroom hne), hmatmuls⟩
      · -- the rank is the next one of the registry as well
        have hload : confExecLoadTensorTile s.queue.execHookCtx (s.queue.storedCmd (forTile s.data.tileId
            (loadCmd u.ptr u.dtype (UInt16.ofNat u.rows) (UInt16.ofNat u.cols) (idOf firsts.length)))) =
            ({ s.queue.execHookCtx with
                tensors := Function.update s.queue.execHookCtx.tensors firsts.length (u.entry firsts.length)
                tensorCount := firsts.length + 1 }, .ok) := by
          have hcount := h.entries hroom
          have hnotfull : ¬ confMaxTensors ≤ s.queue.execHookCtx.tensorCount := by
            rw [hcount]
            unfold confMaxTensors
            unfold maxAutoTensors at hlt
            omega
          unfold confExecLoadTensorTile
          rw [loadedEntry_loadCmd]
          refine (if_neg hptr).trans ?_
          have hnone : Conformance.confTensorFind s.queue.execHookCtx (s.queue.storedCmd (forTile s.data.tileId
              (loadCmd u.ptr u.dtype (UInt16.ofNat u.rows) (UInt16.ofNat u.cols) (idOf firsts.length)))).tensorId =
              none := h.confTensorFind_none hroom hlt
          rw [hnone]
          refine (if_neg hnotfull).trans ?_
          rw [hcount]
        rw [hload] at hctx hiff
        rw [hiff.mpr ⟨hroom, rfl⟩, if_neg Bool.noConfusion]
        refine ⟨_, _, _, rfl, .loaded hfind ?_, hmatmuls⟩
        refine h.push hidle hconfig hadm hroom hlt hfind ?_ ?_
        · rw [hctx]
        · rw [hctx]
    · obtain ⟨q, heq, hidle, hconfig, hctx⟩ := @exec_idle_refused kernels s.queue s.data.tileId
        (loadCmd u.ptr u.dtype (UInt16.ofNat u.rows) (UInt16.ofNat u.cols) (idOf firsts.length)) h.idle hadm
      rw [heq]
      refine ⟨_, _, _, rfl, .failed (h.withQueue hidle hconfig fun _ => ?_), ?_⟩
      · rw [hctx]
        exact ⟨rfl, rfl⟩
      · show q.execHookCtx.matmuls = _
        rw [hctx]

/-- A matmul that comes to a good end has run its kernel on the weight that the registry has. -/
theorem matmulRun_of_ok {ep : ConfCtx} {cmd : AimuCmd} (h : (confExecMatmul kernels ep cmd).2 = .ok) :
    ∃ slot, Conformance.confTensorFind ep cmd.tensorId = some slot ∧
      matmulRun ep cmd = some ⟨cmd.dtype, cmd.outputBufAddr, cmd.inputBufAddr, (ep.tensors slot).hostAddr,
        cmd.opParam0.toNat, (cmd.inputBufBytes / 4).toNat⟩ := by
  unfold confExecMatmul at h
  unfold matmulRun
  by_cases haddr : cmd.inputBufAddr = 0 ∨ cmd.outputBufAddr = 0
  · rw [if_pos haddr] at h
    cases h
  rw [if_neg haddr] at h ⊢
  cases hfind : Conformance.confTensorFind ep cmd.tensorId with
  | none =>
    rw [hfind] at h
    cases h
  | some slot =>
    rw [hfind] at h
    simp only at h
    refine ⟨slot, rfl, ?_⟩
    split_ifs at h with hdtype hout hin hf32 hq8 hq4
    all_goals
      rw [Option.bind_some, if_neg (not_or.mpr ⟨hdtype, not_or.mpr ⟨hout, hin⟩⟩), if_pos]
    · exact .inl hf32
    · exact .inr (.inl hq8)
    · exact .inr (.inr hq4)

/-- A matmul of a registered weight. -/
theorem Kept.exec_matmul (h : Kept kernels firsts s) (m : WeightCall.MatmulArgs) {f : WeightUse}
    (hf : firsts[i]? = some f) :
    ∃ q success, pcieSubmitExec inprocOps s.data.tileId s.queue
        (matmulCmd m.dtype m.dst m.lhs m.outputs m.inputs (idOf i)) = (q, success) ∧ Kept kernels firsts ⟨q, s.data⟩ ∧
      (success = true → q.execHookCtx.matmuls = s.queue.execHookCtx.matmuls ++ [m.run f.ptr]) := by
  have hlt : i < firsts.length := (List.getElem?_eq_some_iff.mp hf).1
  obtain ⟨hadm, hroom⟩ := h.admits (List.ne_nil_of_length_pos (by omega))
  obtain ⟨q, success, heq, hidle, hconfig, hctx, hiff⟩ := @exec_idle kernels s.queue s.data.tileId
    (matmulCmd m.dtype m.dst m.lhs m.outputs m.inputs (idOf i)) h.idle hadm
  have hrun : idleRun kernels s.queue s.data.tileId
      (matmulCmd m.dtype m.dst m.lhs m.outputs m.inputs (idOf i)) = _ := runCmd_matmul kernels _ rfl
  rw [hrun] at hctx hiff
  obtain ⟨htensors, hcount, hmatmuls⟩ := confExecMatmul_runs kernels s.queue.execHookCtx
    (s.queue.storedCmd (forTile s.data.tileId (matmulCmd m.dtype m.dst m.lhs m.outputs m.inputs (idOf i))))
  refine ⟨q, success, heq, h.withQueue hidle hconfig fun _ => ?_, fun hsuccess => ?_⟩
  · rw [hctx]
    exact ⟨htensors, hcount⟩
  · obtain ⟨slot, hslot, hran⟩ := matmulRun_of_ok (hiff.mp hsuccess).2
    obtain rfl := Option.some.inj ((h.confTensorFind hlt).symm.trans hslot)
    rw [hctx, hmatmuls, hran, h.entry hroom i f hf]
    rfl

/-- A norm of a registered weight. -/
theorem Kept.exec_rmsnorm (h : Kept kernels firsts s) (hne : firsts ≠ []) {cmd : AimuCmd}
    (hcode : cmd.commandType = 0x11) :
    ∃ q success, pcieSubmitExec inprocOps s.data.tileId s.queue cmd = (q, success) ∧
      Kept kernels firsts ⟨q, s.data⟩ := by
  obtain ⟨q, success, heq, hidle, hconfig, hctx, -⟩ :=
    @exec_idle kernels s.queue s.data.tileId cmd h.idle (h.admits hne).1
  have hrun : idleRun kernels s.queue s.data.tileId cmd = _ := runCmd_rmsnorm kernels _ hcode
  rw [hrun] at hctx
  obtain ⟨htensors, hcount, -⟩ := confExecRmsnorm_same kernels s.queue.execHookCtx
    (s.queue.storedCmd (forTile s.data.tileId cmd))
  refine ⟨q, success, heq, h.withQueue hidle hconfig fun _ => ?_⟩
  rw [hctx]
  exact ⟨htensors, hcount⟩

end Kept

/-! ### Runs -/

section Runs

variable {kernels : MathKernels} {firsts : List WeightUse} {es : List OwnEvent} {e : OwnEvent} {s s' : OwnBackend}
  {u : WeightUse} {m : WeightCall.MatmulArgs}

/-- What a call leaves when a matmul has succeeded. -/
structure Matmuled (firsts : List WeightUse) (s : OwnBackend) (u : WeightUse) (m : WeightCall.MatmulArgs)
    (e : OwnEvent) : Prop where
  weights : m.weights = u.ptr
  runs : e.runs = [m.run m.weights]
  entry : ∃ f i, firsts.find? (fun v => decide (v.Same u)) = some f ∧ f.Same u ∧ s.entry u = some (f.entry i)

/-- The entry of a weight that has been registered. -/
theorem Kept.entry_eq (h : Kept kernels firsts s) {i : ℕ} (hfind : s.data.find u.ptr u.dtype = some i) :
    ∃ f, firsts[i]? = some f ∧ firsts.find? (fun v => decide (v.Same u)) = some f ∧ f.Same u ∧
      s.entry u = some (f.entry i) := by
  obtain ⟨f, hf, hsame, hfirst⟩ := h.find_some hfind
  have hlt : i < firsts.length := (List.getElem?_eq_some_iff.mp hf).1
  have hroom := (h.admits (List.ne_nil_of_length_pos (by omega))).2
  refine ⟨f, hf, hfirst, hsame, ?_⟩
  unfold OwnBackend.entry
  rw [hfind, Option.bind_some, h.table i f hf]
  show (Conformance.confTensorFind s.queue.execHookCtx (idOf i)).map _ = _
  rw [h.confTensorFind hlt, Option.map_some, h.entry hroom i f hf]

/-- A call keeps the registry; the weight it registered is the next one. -/
theorem ownStep_kept (h : Kept kernels (registrations es) s) (hs : OwnStep s e s') :
    Kept kernels (registrations (es ++ [e])) s' ∧
      (e.success = true → ∀ m ∈ e.call.matmul, ∀ u ∈ e.call.use, Matmuled (registrations (es ++ [e])) s' u m e) := by
  obtain ⟨q', data', hperform, rfl, hregistered, hruns⟩ := hs
  have hsnoc : registrations (es ++ [e]) = registrations es ++ e.registration.toList := by
    unfold registrations
    rw [List.filterMap_append]
    cases hr : e.registration with
    | none => rw [List.filterMap_cons_none hr]; rfl
    | some v => rw [List.filterMap_cons_some hr]; rfl
  rw [hsnoc]
  have hunchanged : data' = s.data → e.registration.toList = [] := by
    intro heq
    rw [heq, decide_eq_false (Nat.lt_irrefl _)] at hregistered
    unfold OwnEvent.registration
    rw [hregistered]
    rfl
  rcases perform_use e.call s.queue s.data with ⟨huse, hnone⟩ | ⟨u, cmd, huse, hexec, hkind⟩
  · obtain ⟨hq, hrest⟩ := Prod.mk.inj (hperform.symm.trans hnone)
    obtain ⟨hdata, hsuccess⟩ := Prod.mk.inj hrest
    rw [hunchanged hdata, List.append_nil]
    refine ⟨?_, fun htrue => ?_⟩
    · subst hq hdata
      exact h
    · rw [hsuccess] at htrue
      cases htrue
  obtain ⟨q₁, data₁, id, hreg, hregs, hmatmuls₁⟩ := register_registered h u
  rw [hexec] at hperform
  unfold execWeight at hperform
  rw [hreg] at hperform
  -- the table after the registration, and the rank of the weight in it
  have hstep : ∀ (newer : List WeightUse) (i : ℕ), Kept kernels newer ⟨q₁, data₁⟩ → data₁.find u.ptr u.dtype = some i →
      id = some (idOf i) → Kept kernels newer ⟨q', data'⟩ ∧ data' = data₁ ∧
        (e.success = true → ∀ m ∈ e.call.matmul, ∀ u ∈ e.call.use, Matmuled newer ⟨q', data'⟩ u m e) := by
    rintro newer i hk hfind rfl
    simp only at hperform
    obtain ⟨f, hf, hfirst, hsame, -⟩ := hk.entry_eq hfind
    rcases hkind with ⟨m, hm, rfl, hptr, hdtype⟩ | ⟨hm, hcode⟩
    · obtain ⟨q₂, success, heq, hk₂, hran⟩ := hk.exec_matmul m hf
      rw [heq] at hperform
      obtain ⟨rfl, hrest⟩ := Prod.mk.inj hperform
      obtain ⟨rfl, rfl⟩ := Prod.mk.inj hrest
      refine ⟨hk₂, rfl, fun hsuccess m' hm' u' hu' => ?_⟩
      obtain rfl := Option.some.inj (hm.symm.trans hm')
      obtain rfl := Option.some.inj (huse.symm.trans hu')
      obtain ⟨f', -, hfirst', hsame', hentry⟩ := hk₂.entry_eq hfind
      refine ⟨hptr, ?_, f', i, hfirst', hsame', hentry⟩
      rw [hruns]
      show List.drop _ q₂.execHookCtx.matmuls = _
      rw [hran hsuccess, hmatmuls₁, List.drop_left, hsame.1, hptr]
    · have hne : newer ≠ [] := by
        rintro rfl
        cases hf
      obtain ⟨q₂, success, heq, hk₂⟩ := hk.exec_rmsnorm hne (hcode (idOf i))
      rw [heq] at hperform
      obtain ⟨rfl, hrest⟩ := Prod.mk.inj hperform
      obtain ⟨rfl, rfl⟩ := Prod.mk.inj hrest
      refine ⟨hk₂, rfl, fun _ m' hm' => ?_⟩
      rw [hm] at hm'
      cases hm'
  cases hregs with
  | failed hk =>
    obtain ⟨rfl, hrest⟩ := Prod.mk.inj hperform
    obtain ⟨rfl, hsuccess⟩ := Prod.mk.inj hrest
    rw [hunchanged rfl, List.append_nil]
    refine ⟨hk, fun htrue => ?_⟩
    rw [← hsuccess] at htrue
    cases htrue
  | known hfind hk =>
    obtain ⟨hk', hdata, hmatmul⟩ := hstep _ _ hk hfind rfl
    rw [hunchanged hdata, List.append_nil]
    exact ⟨hk', hmatmul⟩
  | loaded hfind hk =>
    have hrank : (s.data.push u.ptr u.dtype).find u.ptr u.dtype = some (registrations es).length := by
      rw [find_push hfind, h.count]
    obtain ⟨hk', hdata, hmatmul⟩ := hstep _ _ hk hrank rfl
    have hone : e.registration.toList = [u] := by
      rw [hdata] at hregistered
      have hgrown : e.registered = true := hregistered.trans (decide_eq_true (Nat.lt_succ_self _))
      unfold OwnEvent.registration
      rw [hgrown, if_pos rfl, huse]
      rfl
    rw [hone]
    exact ⟨hk', hmatmul⟩

theorem create_kept {host : Host} {memory : Memory} {config : CmdqConfig} {q : Cmdq ConfCtx} {tileId : UInt32}
    (h : createQueue kernels host memory config = .ok q) : Kept kernels (registrations []) ⟨q, .create tileId⟩ := by
  obtain ⟨hw, hpend, hcomp, hhook, hctx⟩ := createQueue_ok h
  have hnone : ∀ {i : ℕ} {f : WeightUse}, ¬ (registrations [])[i]? = some f := by
    intro i f hf
    cases hf
  refine ⟨⟨hw, hpend, hcomp, hhook⟩, rfl, Nat.zero_le _, rfl, fun i f hf => absurd hf hnone, List.Pairwise.nil,
    fun hne => absurd rfl hne, fun _ => ?_, fun _ i f hf => absurd hf hnone⟩
  show q.execHookCtx.tensorCount = 0
  rw [hctx]

theorem run_kept {host : Host} {memory : Memory} {config : CmdqConfig} {q : Cmdq ConfCtx} {tileId : UInt32}
    (hc : createQueue kernels host memory config = .ok q) (hr : Run OwnStep ⟨q, .create tileId⟩ es s) :
    Kept kernels (registrations es) s :=
  @Run.invariant _ _ _ _ _ _ (fun es s => Kept kernels (registrations es) s) (create_kept hc)
    (fun _ _ _ _ _ hk hs => (ownStep_kept hk hs).1) hr

/-- **The sizes of a registered weight.**  In every run of matmuls and norms of one backend on an endpoint of its own, a
matmul that succeeds has run one kernel, on its own weight with its own sizes.  The entry by which the endpoint found
the weight carries the sizes of the use that registered it, modulo 65536: it is right about those of the call exactly
when these fit into sixteen bits and agree with the first ones there. -/
theorem registered_dims {host : Host} {memory : Memory} {config : CmdqConfig} {q : Cmdq ConfCtx} {tileId : UInt32}
    (hc : createQueue kernels host memory config = .ok q) (hr : Run OwnStep ⟨q, .create tileId⟩ (es ++ [e]) s)
    (hm : e.call.matmul = some m) (hu : e.call.use = some u) (hsuccess : e.success = true) :
    e.runs = [m.run u.ptr] ∧
      ∃ first entry, firstUse (es ++ [e]) u = some first ∧ s.entry u = some entry ∧
        entry.hostAddr = u.ptr ∧ entry.dtype = u.dtype ∧
        (entry.dim0.toNat = u.rows ∧ entry.dim1.toNat = u.cols ↔
          u.rows < 65536 ∧ u.cols < 65536 ∧ u.rows ≡ first.rows [MOD 65536] ∧ u.cols ≡ first.cols [MOD 65536]) := by
  obtain ⟨t, ht, hs⟩ := hr.snoc_inv
  obtain ⟨hweights, hruns, f, i, hfirst, hsame, hentry⟩ := (ownStep_kept (run_kept hc ht) hs).2 hsuccess m hm u hu
  refine ⟨hweights ▸ hruns, f, f.entry i, hfirst, hentry, hsame.1, hsame.2, ?_⟩
  unfold WeightUse.entry Nat.ModEq
  simp only
  rw [UInt16.toNat_ofNat', UInt16.toNat_ofNat']
  omega

end Runs

/-- A matmul of a matrix at 32, with what it does and whether it registers the matrix. -/
def matmulOf (rows cols : ℕ) (registered : Bool) : OwnEvent where
  call := .matmulF32 8 16 32 1 cols rows
  success := true
  registered := registered
  runs := [⟨dtypeF32, 8, 16, 32, cols, rows⟩]

/-- A matrix of two by two that is taken for one of two by three later. -/
theorem registered_dims_reused : ∃ q s entry, createQueue .idle .generous (fun _ => 0) ⟨2, 4, 4⟩ = .ok q ∧
    Run OwnStep ⟨q, .create 0⟩ [matmulOf 2 2 true, matmulOf 2 3 false] s ∧
    s.entry ⟨32, dtypeF32, 2, 3⟩ = some entry ∧ ¬ (entry.dim0.toNat = 2 ∧ entry.dim1.toNat = 3) := by
  have hrun : ∃ q, createQueue .idle .generous (fun _ => 0) ⟨2, 4, 4⟩ = .ok q ∧ ∃ s,
      Run OwnStep ⟨q, .create 0⟩ ([matmulOf 2 2 true] ++ [matmulOf 2 3 false]) s :=
    ⟨_, rfl, _, Run.cons ⟨_, _, rfl, rfl, rfl, rfl⟩ <| Run.cons ⟨_, _, rfl, rfl, rfl, rfl⟩ Run.nil⟩
  obtain ⟨q, hc, s, hr⟩ := hrun
  obtain ⟨-, first, entry, hfirst, hentry, -, -, hiff⟩ := registered_dims hc hr rfl rfl rfl
  refine ⟨q, s, entry, hc, hr, hentry, fun hdims => ?_⟩
  obtain rfl : first = ⟨32, dtypeF32, 2, 2⟩ := (Option.some.inj hfirst).symm
  exact absurd (hiff.mp hdims).2.2.2 (by decide)

end Att1.Pcie
