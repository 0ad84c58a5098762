import Mathlib.Algebra.BigOperators.Ring.List
import Att1.ModelFile.Types

/-!
# Att1.ModelFile.Size — payload sizes (`src/model_loader.c`, `att1_tensor_nbytes_expected`)

* `nbytesExpected`: the loader's computation, every product and sum checked against `UINT64_MAX`.
* `exactNbytes`: the size over unbounded integers; `ValidShape`: what dtype, rank, dimensions and group size must be.
* `nbytesExpected_eq_some`: the loader's computation yields exactly the exact sizes of the valid shapes whose element
  count and size fit 64 bits.
-/

open Att1.Lib

namespace Att1.ModelFile

/-! ### The loader's computation -/

/-- The product of the dimensions, times `elements`; nothing when one of them is zero or the product too large. -/
def elementCount : List ℕ → ℕ → Option ℕ
  | [], elements => some elements
  | dim :: dims, elements =>
    if dim = 0 then none else (mulSize elements dim).bind (elementCount dims)

/-- The part of `att1_tensor_nbytes_expected` after the element count: one formula for each dtype. -/
def dtypeNbytes (tensor : ModelTensor) (elements : ℕ) : Option ℕ :=
  if tensor.dtype = dtypeF32 then mulSize elements sizeofFloat
  else if tensor.dtype = dtypeQ8 then do
    guard (tensor.ndims = 2)
    let valueBytes ← mulSize (tensor.shape 0) (tensor.shape 1)
    let scaleBytes ← mulSize (tensor.shape 0) sizeofFloat
    addChecked sizeMax valueBytes scaleBytes
  else if tensor.dtype = dtypeQ4 then do
    guard (tensor.ndims = 2)
    -- the upper bits of the flags of a q4 tensor must be zero
    guard (tensor.flags &&& 0xFFFFFF00 = 0)
    guard tensor.GroupSizeOk
    guard (tensor.shape 1 % 2 = 0 ∧ tensor.shape 1 % tensor.q4GroupSize = 0)
    let packedBytes ← mulSize (tensor.shape 0) (tensor.shape 1 / 2)
    let scaleBytesPerRow ← mulSize (tensor.shape 1 / tensor.q4GroupSize) sizeofFloat
    let scaleBytes ← mulSize (tensor.shape 0) scaleBytesPerRow
    addChecked sizeMax packedBytes scaleBytes
  else none

/-- `att1_tensor_nbytes_expected`. -/
def nbytesExpected (tensor : ModelTensor) : Option ℕ :=
  if tensor.ndims = 0 ∨ modelMaxDims < tensor.ndims then none
  else (elementCount tensor.dims 1).bind (dtypeNbytes tensor)

/-! ### Exact sizes -/

namespace ModelTensor

variable (t : ModelTensor)

/-- The payload size that dtype, shape and group size imply, over unbounded integers. -/
def exactNbytes : ℕ :=
  if t.dtype = dtypeF32 then 4 * t.dims.prod
  else if t.dtype = dtypeQ8 then t.shape 0 * t.shape 1 + 4 * t.shape 0
  else t.shape 0 * t.shape 1 / 2 + 4 * (t.shape 0 * (t.shape 1 / t.q4GroupSize))

/-- The extra conditions on a q4 tensor. -/
structure Q4Shape : Prop where
  ndims : t.ndims = 2
  flags : t.flags &&& 0xFFFFFF00 = 0
  group : t.GroupSizeOk
  even : t.shape 1 % 2 = 0
  dvd : t.shape 1 % t.q4GroupSize = 0

/-- The dtypes of the format, each with the rank and group it asks for. -/
def DtypeOk : Prop :=
  t.dtype = dtypeF32 ∨ t.dtype = dtypeQ8 ∧ t.ndims = 2 ∨ t.dtype = dtypeQ4 ∧ t.Q4Shape

/-- The shapes with an exact size. -/
structure ValidShape : Prop where
  ndims_pos : 0 < t.ndims
  ndims_le : t.ndims ≤ modelMaxDims
  dims_ne : ∀ dim ∈ t.dims, dim ≠ 0
  dtype : t.DtypeOk

variable {t}

/-- The payload pointer plays no part in the shape. -/
theorem ValidShape.withData (h : t.ValidShape) (p : Option ℕ) : { t with data := p }.ValidShape :=
  ⟨h.ndims_pos, h.ndims_le, h.dims_ne, h.dtype.imp_right (Or.imp_right fun ⟨hdtype, hq⟩ =>
    ⟨hdtype, ⟨hq.ndims, hq.flags, hq.group, hq.even, hq.dvd⟩⟩)⟩

theorem ValidShape.q4Shape (h : t.ValidShape) (hdtype : t.dtype = dtypeQ4) : t.Q4Shape := by
  obtain hf32 | ⟨hq8, -⟩ | ⟨-, hq4⟩ := h.dtype
  · rw [hdtype] at hf32
    cases hf32
  · rw [hdtype] at hq8
    cases hq8
  · exact hq4

/-- The size of a q8 tensor: the values, then one scale for each row. -/
theorem exactNbytes_q8 (hdtype : t.dtype = dtypeQ8) : t.exactNbytes = t.shape 0 * t.shape 1 + 4 * t.shape 0 := by
  rw [exactNbytes, hdtype]
  rfl

/-- The size of a q4 tensor: the packed values, then one scale for each group. -/
theorem exactNbytes_q4 (hdtype : t.dtype = dtypeQ4) :
    t.exactNbytes = t.shape 0 * t.shape 1 / 2 + 4 * (t.shape 0 * (t.shape 1 / t.q4GroupSize)) := by
  rw [exactNbytes, hdtype]
  rfl

theorem dims_of_two (h : t.ndims = 2) : t.dims = [t.shape 0, t.shape 1] := by
  unfold dims
  rw [h]
  rfl

theorem prod_dims_of_two (h : t.ndims = 2) : t.dims.prod = t.shape 0 * t.shape 1 := by
  rw [dims_of_two h]
  simp

end ModelTensor

/-! ### The computation is exact -/

theorem elementCount_eq_some {dims : List ℕ} {elements n : ℕ} (h : elements ≤ sizeMax) :
    elementCount dims elements = some n ↔
      (∀ dim ∈ dims, dim ≠ 0) ∧ n = elements * dims.prod ∧ elements * dims.prod ≤ sizeMax := by
  induction dims generalizing elements with
  | nil => simp [elementCount, eq_comm, h]
  | cons dim dims ih =>
    unfold elementCount
    by_cases hdim : dim = 0
    · simp [hdim]
    · rw [if_neg hdim, Option.bind_eq_some_iff]
      constructor
      · rintro ⟨e, he, hrest⟩
        obtain ⟨rfl, hle⟩ := mulSize_eq_some.mp he
        obtain ⟨hne, hn, hmax⟩ := (ih hle).mp hrest
        rw [List.prod_cons, ← Nat.mul_assoc]
        exact ⟨List.forall_mem_cons.mpr ⟨hdim, hne⟩, hn, hmax⟩
      · rintro ⟨hne, hn, hmax⟩
        obtain ⟨-, hne⟩ := List.forall_mem_cons.mp hne
        rw [List.prod_cons, ← Nat.mul_assoc] at hn hmax
        -- the remaining dimensions are positive, so the partial product fits where the whole one does
        have hpos : 0 < dims.prod := Nat.pos_of_ne_zero fun h0 => hne 0 (List.prod_eq_zero_iff.mp h0) rfl
        have hle : elements * dim ≤ sizeMax := (Nat.le_mul_of_pos_right _ hpos).trans hmax
        exact ⟨_, mulSize_eq_some.mpr ⟨rfl, hle⟩, (ih hle).mpr ⟨hne, hn, hmax⟩⟩

section Sizes

variable {t : ModelTensor} {n : ℕ}

/-- The q8 sum of value and scale bytes. -/
theorem q8Bytes_eq_some {rows cols : ℕ} :
    ((mulSize rows cols).bind fun valueBytes => (mulSize rows sizeofFloat).bind fun scaleBytes =>
        addChecked sizeMax valueBytes scaleBytes) = some n ↔
      n = rows * cols + 4 * rows ∧ rows * cols + 4 * rows ≤ sizeMax := by
  simp only [Option.bind_eq_some_iff, mulSize_eq_some, sizeofFloat]
  constructor
  · rintro ⟨v, ⟨rfl, hv⟩, s, ⟨rfl, hs⟩, hadd⟩
    obtain ⟨rfl, hle⟩ := (addChecked_eq_some hv).mp hadd
    omega
  · rintro ⟨rfl, hle⟩
    refine ⟨_, ⟨rfl, by omega⟩, _, ⟨rfl, by omega⟩, ?_⟩
    rw [addChecked_eq_some (by omega)]
    omega

/-- The q4 sum of packed and scale bytes. -/
theorem q4Bytes_eq_some {rows cols groups : ℕ} (heven : cols % 2 = 0) (hrows : 0 < rows) :
    ((mulSize rows (cols / 2)).bind fun packedBytes => (mulSize groups sizeofFloat).bind fun scaleBytesPerRow =>
        (mulSize rows scaleBytesPerRow).bind fun scaleBytes => addChecked sizeMax packedBytes scaleBytes) = some n ↔
      n = rows * cols / 2 + 4 * (rows * groups) ∧ rows * cols / 2 + 4 * (rows * groups) ≤ sizeMax := by
  have hhalf : rows * (cols / 2) = rows * cols / 2 := (Nat.mul_div_assoc rows (Nat.dvd_of_mod_eq_zero heven)).symm
  have hscale : rows * (groups * 4) = 4 * (rows * groups) := by
    rw [← Nat.mul_assoc, Nat.mul_comm]
  have hrow : groups * 4 ≤ rows * (groups * 4) := Nat.le_mul_of_pos_left _ hrows
  simp only [Option.bind_eq_some_iff, mulSize_eq_some, sizeofFloat]
  constructor
  · rintro ⟨v, ⟨rfl, hv⟩, g, ⟨rfl, hg⟩, s, ⟨rfl, hs⟩, hadd⟩
    obtain ⟨rfl, hle⟩ := (addChecked_eq_some hv).mp hadd
    rw [hhalf, hscale] at hle ⊢
    exact ⟨rfl, hle⟩
  · rintro ⟨rfl, hle⟩
    refine ⟨_, ⟨rfl, by omega⟩, _, ⟨rfl, by omega⟩, _, ⟨rfl, by omega⟩, ?_⟩
    rw [addChecked_eq_some (by omega), hhalf, hscale]
    exact ⟨rfl, hle⟩

theorem dtypeNbytes_eq_some (hdims : ∀ dim ∈ t.dims, dim ≠ 0) :
    dtypeNbytes t t.dims.prod = some n ↔ t.DtypeOk ∧ n = t.exactNbytes ∧ t.exactNbytes ≤ sizeMax := by
  unfold dtypeNbytes ModelTensor.exactNbytes
  by_cases hf32 : t.dtype = dtypeF32
  · rw [if_pos hf32, if_pos hf32, mulSize_eq_some, Nat.mul_comm, sizeofFloat]
    exact ⟨fun h => ⟨.inl hf32, h⟩, fun h => h.2⟩
  rw [if_neg hf32, if_neg hf32]
  by_cases hq8 : t.dtype = dtypeQ8
  · have hok : t.DtypeOk ↔ t.ndims = 2 := by
      unfold ModelTensor.DtypeOk
      rw [hq8]
      simp [dtypeF32, dtypeQ8, dtypeQ4]
    rw [if_pos hq8, if_pos hq8, guard_bind_eq_some, hok]
    exact and_congr_right fun _ => q8Bytes_eq_some
  rw [if_neg hq8, if_neg hq8]
  by_cases hq4 : t.dtype = dtypeQ4
  · have hok : t.DtypeOk ↔ t.Q4Shape := by
      unfold ModelTensor.DtypeOk
      rw [hq4]
      simp [dtypeF32, dtypeQ8, dtypeQ4]
    have hrows (h : t.ndims = 2) : 0 < t.shape 0 :=
      Nat.pos_of_ne_zero (hdims _ (by simp [ModelTensor.dims_of_two h]))
    rw [if_pos hq4, hok]
    simp only [guard_bind_eq_some]
    constructor
    · rintro ⟨hndims, hflags, hgroup, ⟨heven, hdvd⟩, hbytes⟩
      exact ⟨⟨hndims, hflags, hgroup, heven, hdvd⟩, (q4Bytes_eq_some heven (hrows hndims)).mp hbytes⟩
    · rintro ⟨hq, hbytes⟩
      exact ⟨hq.ndims, hq.flags, hq.group, ⟨hq.even, hq.dvd⟩,
        (q4Bytes_eq_some hq.even (hrows hq.ndims)).mpr hbytes⟩
  · rw [if_neg hq4]
    simp [ModelTensor.DtypeOk, hf32, hq8, hq4]

/-- **The loader's size is the exact size.** -/
theorem nbytesExpected_eq_some :
    nbytesExpected t = some n ↔
      t.ValidShape ∧ t.dims.prod ≤ sizeMax ∧ t.exactNbytes ≤ sizeMax ∧ n = t.exactNbytes := by
  unfold nbytesExpected
  by_cases hrank : t.ndims = 0 ∨ modelMaxDims < t.ndims
  · rw [if_pos hrank]
    constructor
    · intro h
      cases h
    · rintro ⟨hv, -⟩
      have hpos := hv.ndims_pos
      have hle := hv.ndims_le
      omega
  rw [if_neg hrank, Option.bind_eq_some_iff]
  constructor
  · rintro ⟨elements, hel, hbytes⟩
    obtain ⟨hdims, hprod, hle⟩ := (elementCount_eq_some (by decide)).mp hel
    rw [Nat.one_mul] at hprod hle
    subst hprod
    obtain ⟨hdtype, hn, hmax⟩ := (dtypeNbytes_eq_some hdims).mp hbytes
    exact ⟨⟨by omega, by omega, hdims, hdtype⟩, hle, hmax, hn⟩
  · rintro ⟨hv, hle, hmax, hn⟩
    refine ⟨t.dims.prod, (elementCount_eq_some (by decide)).mpr ?_, ?_⟩
    · rw [Nat.one_mul]
      exact ⟨hv.dims_ne, rfl, hle⟩
    · exact (dtypeNbytes_eq_some hv.dims_ne).mpr ⟨hv.dtype, hn, hmax⟩

end Sizes

end Att1.ModelFile
