import Mathlib.Data.List.GetD
import Mathlib.LinearAlgebra.Matrix.Notation
import Mathlib.Logic.Equiv.Fin.Basic
import Att1.Converter.Model

/-!
# Att1.Converter.Gqa — the key and value projections of a grouped-query model (`_expand_gqa_projection`)

* `expandGqaProjection`: the loop of the converter.
* `flat`: a matrix as the values of a tensor.  `expandHeads`: every key/value head once for each query head of its
  group.
* `expandGqaProjection_flat`: the loop stores the transpose of `expandHeads`.
-/

open Att1.Lib

namespace Att1.Converter

open Matrix

section Loop

variable {F : Type} [Zero F]

/-- The body of the innermost loop of `_expand_gqa_projection`. -/
def expandTurn (values : List F) (headDim dModel kvGroup inCol qHead : ℕ) (expanded : List F) (i : ℕ) :
    Except ConvertError (List F) := do
  let kvHead := qHead / kvGroup
  let srcRow := kvHead * headDim + i
  let dstCol := qHead * headDim + i
  let value ← orFail values[srcRow * dModel + inCol]? .indexError
  .ok (expanded.set (inCol * dModel + dstCol) value)

/-- `_expand_gqa_projection`. -/
def expandGqaProjection (values : List F) (sourceRows sourceCols nHeads nKvHeads : ℕ) :
    Except ConvertError (List F) :=
  if nKvHeads = nHeads then transpose2d values sourceRows sourceCols
  else do
    rejectIf (nKvHeads ≤ 0 ∨ nHeads ≤ 0 ∨ nHeads % nKvHeads ≠ 0) (.gqaShape nHeads nKvHeads)
    rejectIf (sourceRows % nKvHeads ≠ 0) (.gqaRows sourceRows nKvHeads)
    let headDim := sourceRows / nKvHeads
    let dModel := sourceCols
    rejectIf (dModel ≠ nHeads * headDim) (.gqaDimensions dModel nHeads headDim)
    let kvGroup := nHeads / nKvHeads
    (List.range dModel).foldlM (fun expanded inCol =>
      (List.range nHeads).foldlM (fun expanded qHead =>
        (List.range headDim).foldlM (expandTurn values headDim dModel kvGroup inCol qHead) expanded) expanded)
      (List.replicate (dModel * dModel) 0)

/-- The value that the loops leave in cell `p`. -/
def expandedCell (values : List F) (headDim dModel kvGroup p : ℕ) : F :=
  values.getD ((p % dModel / headDim / kvGroup * headDim + p % dModel % headDim) * dModel + p / dModel) 0

/-- The loops, where every value is there. -/
theorem expand_loops {values : List F} {headDim dModel kvGroup nHeads nKvHeads : ℕ} (hd : dModel = nHeads * headDim)
    (hgroup : ∀ q < nHeads, q / kvGroup < nKvHeads) (hlen : values.length = nKvHeads * headDim * dModel) :
    (List.range dModel).foldlM (fun expanded inCol =>
      (List.range nHeads).foldlM (fun expanded qHead =>
        (List.range headDim).foldlM (expandTurn values headDim dModel kvGroup inCol qHead) expanded) expanded)
      (List.replicate (dModel * dModel) 0) =
      .ok ((List.range (dModel * dModel)).map (expandedCell values headDim dModel kvGroup)) := by
  let cell := expandedCell values headDim dModel kvGroup
  have hturn : ∀ inCol ∈ List.range dModel, ∀ qHead ∈ List.range nHeads, ∀ i ∈ List.range headDim,
      ∀ expanded, expandTurn values headDim dModel kvGroup inCol qHead expanded i =
        .ok (expanded.set (inCol * dModel + (qHead * headDim + i))
          (cell (inCol * dModel + (qHead * headDim + i)))) := by
    intro inCol hcol qHead hq i hi expanded
    have hcol := List.mem_range.mp hcol
    have hq := List.mem_range.mp hq
    have hi := List.mem_range.mp hi
    have hdst : qHead * headDim + i < dModel := hd ▸ block_lt hq hi
    have hsrc : (qHead / kvGroup * headDim + i) * dModel + inCol < values.length :=
      hlen ▸ block_lt (block_lt (hgroup qHead hq) hi) hcol
    refine orFail_bind_eq_ok.mpr ⟨_, ?_, rfl⟩
    show values[_]? = some (expandedCell values headDim dModel kvGroup _)
    unfold expandedCell
    rw [block_mod hdst, block_div hdst, block_div hi, block_mod hi, List.getElem?_eq_getElem hsrc,
      List.getD_eq_getElem _ _ hsrc]
  have hrow : ∀ inCol ∈ List.range dModel, ∀ expanded : List F,
      (List.range nHeads).foldlM (fun expanded qHead =>
        (List.range headDim).foldlM (expandTurn values headDim dModel kvGroup inCol qHead) expanded) expanded =
      .ok ((List.range dModel).foldl (fun expanded dst =>
        expanded.set (inCol * dModel + dst) (cell (inCol * dModel + dst))) expanded) := by
    intro inCol hcol expanded
    rw [foldlM_eq_ok_foldl fun qHead hq expanded => foldlM_eq_ok_foldl (hturn inCol hcol qHead hq) expanded]
    refine congrArg Except.ok ((foldl_range_blocks nHeads headDim (fun expanded dst =>
      expanded.set (inCol * dModel + dst) (cell (inCol * dModel + dst))) expanded).trans ?_)
    rw [← hd]
  rw [foldlM_eq_ok_foldl hrow]
  refine congrArg Except.ok
    ((foldl_range_blocks dModel dModel (fun (expanded : List F) p => expanded.set p (cell p)) _).trans ?_)
  rw [foldl_set_range (by rw [List.length_replicate]), List.drop_eq_nil_of_le (by rw [List.length_replicate]),
    List.append_nil]

end Loop

/-! ### Matrices -/

section Matrices

variable {F : Type} {m n headDim nKvHeads nHeads hidden : ℕ}

/-- The values of a matrix, row after row. -/
def flat (A : Matrix (Fin m) (Fin n) F) : List F := List.ofFn fun k : Fin (m * n) => A k.divNat k.modNat

@[simp] theorem flat_length (A : Matrix (Fin m) (Fin n) F) : (flat A).length = m * n := List.length_ofFn

theorem flat_getElem? (A : Matrix (Fin m) (Fin n) F) (r : Fin m) (c : Fin n) :
    (flat A)[(r : ℕ) * n + c]? = some (A r c) := by
  have hlt : (r : ℕ) * n + c < m * n := block_lt r.isLt c.isLt
  unfold flat
  rw [List.getElem?_ofFn, dif_pos hlt]
  refine congrArg some (congrArg₂ A (Fin.ext ?_) (Fin.ext ?_))
  · exact block_div c.isLt
  · exact block_mod c.isLt

/-- A list is the values of a matrix where it has one for each cell. -/
theorem eq_flat [Zero F] {A : Matrix (Fin m) (Fin n) F} {f : ℕ → F}
    (h : ∀ (r : Fin m) (c : Fin n), f (r * n + c) = A r c) : (List.range (m * n)).map f = flat A := by
  refine List.ext_getElem (by simp) fun k hk _ => ?_
  rw [List.length_map, List.length_range] at hk
  have hk' := h (Fin.divNat ⟨k, hk⟩) (Fin.modNat ⟨k, hk⟩)
  rw [Fin.coe_divNat, Fin.coe_modNat, Nat.div_add_mod'] at hk'
  rw [List.getElem_map, List.getElem_range, hk']
  exact (List.getElem_ofFn (f := fun k : Fin (m * n) => A k.divNat k.modNat) _).symm

theorem transpose2d_flat [Zero F] (A : Matrix (Fin m) (Fin n) F) : transpose2d (flat A) m n = .ok (flat Aᵀ) := by
  rw [transpose2d_eq (flat_length A)]
  refine congrArg Except.ok (eq_flat fun r c => ?_)
  rw [block_mod c.isLt, block_div c.isLt, List.getD_eq_getElem?_getD, flat_getElem? A c r]
  rfl

/-- The key/value head that query head `q` shares with its group. -/
def kvHead (h : nKvHeads ∣ nHeads) (q : Fin nHeads) : Fin nKvHeads :=
  ⟨q / (nHeads / nKvHeads), Nat.div_lt_of_lt_mul (by rw [Nat.div_mul_cancel h]; exact q.isLt)⟩

@[simp] theorem val_kvHead (h : nKvHeads ∣ nHeads) (q : Fin nHeads) :
    (kvHead h q : ℕ) = q / (nHeads / nKvHeads) := rfl

/-- The row of the source that row `row` repeats. -/
def sourceRow (h : nKvHeads ∣ nHeads) (row : Fin (nHeads * headDim)) : Fin (nKvHeads * headDim) :=
  finProdFinEquiv (kvHead h row.divNat, row.modNat)

/-- The projection with one head for each query head. -/
def expandHeads (h : nKvHeads ∣ nHeads) (A : Matrix (Fin (nKvHeads * headDim)) (Fin hidden) F) :
    Matrix (Fin (nHeads * headDim)) (Fin hidden) F := A.submatrix (sourceRow h) id

theorem val_sourceRow (h : nKvHeads ∣ nHeads) (row : Fin (nHeads * headDim)) :
    (sourceRow h row : ℕ) = row / headDim / (nHeads / nKvHeads) * headDim + row % headDim := by
  have hval : (sourceRow h row : ℕ) = row % headDim + headDim * (row / headDim / (nHeads / nKvHeads)) := rfl
  rw [hval, Nat.add_comm, Nat.mul_comm]

theorem sourceRow_block (h : nKvHeads ∣ nHeads) (q : Fin nHeads) (i : Fin headDim) :
    sourceRow h (finProdFinEquiv (q, i)) = finProdFinEquiv (kvHead h q, i) :=
  congrArg (fun x : Fin nHeads × Fin headDim => finProdFinEquiv (kvHead h x.1, x.2))
    (finProdFinEquiv.symm_apply_apply (q, i))

open Finset in
theorem card_kvHead (h : nKvHeads ∣ nHeads) (kv : Fin nKvHeads) :
    (univ.filter fun q => kvHead h q = kv).card = nHeads / nKvHeads := by
  set group := nHeads / nKvHeads with hgroup
  have hmul : nHeads = nKvHeads * group := (Nat.mul_div_cancel' h).symm
  have himage : (univ.filter fun q => kvHead h q = kv).map Fin.valEmbedding =
      Ico (kv * group : ℕ) (kv * group + group) := by
    ext q
    simp only [Finset.mem_map, mem_filter, mem_univ, true_and, Fin.valEmbedding_apply, mem_Ico]
    constructor
    · rintro ⟨q, rfl, rfl⟩
      have hpos : 0 < group := Nat.pos_of_mul_pos_left (hmul ▸ Nat.zero_lt_of_lt q.isLt)
      have hdiv := Nat.div_add_mod' (q : ℕ) group
      have hmod := Nat.mod_lt (q : ℕ) hpos
      show (q : ℕ) / group * group ≤ q ∧ (q : ℕ) < q / group * group + group
      omega
    · rintro ⟨hle, hlt⟩
      obtain ⟨j, rfl⟩ := Nat.exists_eq_add_of_le hle
      have hj : j < group := by omega
      exact ⟨⟨kv * group + j, hmul ▸ block_lt kv.isLt hj⟩, Fin.ext (block_div hj), rfl⟩
  rw [← card_map, himage, Nat.card_Ico, Nat.add_sub_cancel_left]

open Finset in
/-- Every row of the source is there once for each head of its group. -/
theorem card_sourceRow (h : nKvHeads ∣ nHeads) (row : Fin (nKvHeads * headDim)) :
    (univ.filter fun r => sourceRow h r = row).card = nHeads / nKvHeads := by
  obtain ⟨⟨kv, i⟩, rfl⟩ := finProdFinEquiv.surjective row
  rw [← card_kvHead h kv]
  symm
  refine card_bij (fun q _ => finProdFinEquiv (q, i)) ?_ ?_ ?_
  · intro q hq
    rw [mem_filter] at hq ⊢
    exact ⟨mem_univ _, by rw [sourceRow_block, hq.2]⟩
  · intro q _ q' _ heq
    exact (Prod.ext_iff.mp (finProdFinEquiv.injective heq)).1
  · intro r hr
    obtain ⟨⟨q, j⟩, rfl⟩ := finProdFinEquiv.surjective r
    rw [mem_filter, sourceRow_block] at hr
    obtain ⟨hkv, rfl⟩ := Prod.ext_iff.mp (finProdFinEquiv.injective hr.2)
    exact ⟨q, mem_filter.mpr ⟨mem_univ _, hkv⟩, rfl⟩

/-- What the expanded projection makes of an activation: of each head, what the projection of its key/value head makes
of it. -/
theorem expandHeads_vecMul [NonUnitalNonAssocSemiring F] (h : nKvHeads ∣ nHeads)
    (A : Matrix (Fin (nKvHeads * headDim)) (Fin hidden) F) (x : Fin hidden → F) (q : Fin nHeads) (i : Fin headDim) :
    (x ᵥ* (expandHeads h A)ᵀ) (finProdFinEquiv (q, i)) = (x ᵥ* Aᵀ) (finProdFinEquiv (kvHead h q, i)) := by
  rw [← sourceRow_block h q i]
  rfl

end Matrices

/-! ### The expansion -/

section Expansion

variable {F : Type} [Zero F] {headDim nKvHeads nHeads hidden : ℕ}

omit [Zero F] in
/-- Where there is a key/value head for each head, the projection itself. -/
theorem expandHeads_self (h : nHeads ∣ nHeads) (A : Matrix (Fin (nHeads * headDim)) (Fin hidden) F) :
    expandHeads h A = A := by
  ext row col
  refine congrArg (A · col) ?_
  obtain ⟨⟨q, i⟩, rfl⟩ := finProdFinEquiv.surjective row
  have hpos : 0 < nHeads := Nat.zero_lt_of_lt q.isLt
  have hq : kvHead h q = q := Fin.ext (by rw [val_kvHead, Nat.div_self hpos, Nat.div_one])
  rw [sourceRow_block, hq]

/-- **The expansion** of a projection that fits the heads is stored transposed. -/
theorem expandGqaProjection_flat (h : nKvHeads ∣ nHeads) (A : Matrix (Fin (nKvHeads * headDim)) (Fin hidden) F)
    (hfits : nKvHeads = nHeads ∨ 0 < nHeads ∧ hidden = nHeads * headDim) :
    expandGqaProjection (flat A) (nKvHeads * headDim) hidden nHeads nKvHeads = .ok (flat (expandHeads h A)ᵀ) := by
  unfold expandGqaProjection
  by_cases heq : nKvHeads = nHeads
  · subst heq
    rw [if_pos rfl, transpose2d_flat, expandHeads_self]
  · obtain ⟨hpos, rfl⟩ := hfits.resolve_left heq
    have hkv : 0 < nKvHeads := Nat.pos_of_dvd_of_pos h hpos
    rw [if_neg heq]
    refine rejectIf_bind_eq_ok.mpr ⟨by rw [Nat.mod_eq_zero_of_dvd h]; omega, rejectIf_bind_eq_ok.mpr ⟨?_, ?_⟩⟩
    · rw [Nat.mul_mod_right]
      exact not_not_intro rfl
    · rw [Nat.mul_div_cancel_left headDim hkv]
      refine rejectIf_bind_eq_ok.mpr ⟨not_not_intro rfl, ?_⟩
      refine (expand_loops rfl (fun q hq => (kvHead h ⟨q, hq⟩).isLt) (flat_length A)).trans (congrArg Except.ok ?_)
      refine eq_flat fun col row => ?_
      unfold expandedCell
      rw [block_mod row.isLt, block_div row.isLt, ← val_sourceRow h row, List.getD_eq_getElem?_getD,
        flat_getElem? A (sourceRow h row) col]
      rfl

/-- **The expansion** stores every row of the source once for each query head of its group, and nothing else; where the
hidden size is not that of the query heads, it refuses. -/
theorem expandGqaProjection_spec (h : nKvHeads ∣ nHeads) (A : Matrix (Fin (nKvHeads * headDim)) (Fin hidden) F) :
    (nKvHeads = nHeads ∨ 0 < nHeads ∧ hidden = nHeads * headDim →
      expandGqaProjection (flat A) (nKvHeads * headDim) hidden nHeads nKvHeads = .ok (flat (expandHeads h A)ᵀ)) ∧
    (nKvHeads ≠ nHeads → nHeads = 0 →
      expandGqaProjection (flat A) (nKvHeads * headDim) hidden nHeads nKvHeads = .error (.gqaShape nHeads nKvHeads)) ∧
    (nKvHeads ≠ nHeads → 0 < nHeads → hidden ≠ nHeads * headDim →
      expandGqaProjection (flat A) (nKvHeads * headDim) hidden nHeads nKvHeads =
        .error (.gqaDimensions hidden nHeads headDim)) ∧
    (∀ (q : Fin nHeads) (i : Fin headDim) (col : Fin hidden),
      expandHeads h A (finProdFinEquiv (q, i)) col = A (finProdFinEquiv (kvHead h q, i)) col) ∧
    ∀ row, (Finset.univ.filter fun r : Fin (nHeads * headDim) => sourceRow h r = row).card = nHeads / nKvHeads := by
  refine ⟨expandGqaProjection_flat h A, ?_, ?_, ?_, card_sourceRow h⟩
  · intro hne h0
    unfold expandGqaProjection
    rw [if_neg hne, rejectIf, if_pos (.inr (.inl (by omega)))]
    rfl
  · intro hne hpos hhidden
    have hkv : 0 < nKvHeads := Nat.pos_of_dvd_of_pos h hpos
    unfold expandGqaProjection
    rw [if_neg hne, rejectIf, if_neg (by rw [Nat.mod_eq_zero_of_dvd h]; omega), rejectIf,
      if_neg (by rw [Nat.mul_mod_right]; exact not_not_intro rfl)]
    simp only [Nat.mul_div_cancel_left headDim hkv]
    rw [rejectIf, if_pos hhidden]
    rfl
  · intro q i col
    exact congrArg (A · col) (sourceRow_block h q i)

theorem expandGqaProjection_spec_grouped :
    expandGqaProjection (flat !![(1 : ℤ), 2, 3, 4; 5, 6, 7, 8]) 2 4 4 2 =
      .ok [1, 1, 5, 5, 2, 2, 6, 6, 3, 3, 7, 7, 4, 4, 8, 8] :=
  ((@expandGqaProjection_spec ℤ _ 1 2 4 4 (by decide) !![1, 2, 3, 4; 5, 6, 7, 8]).1
    (.inr (by decide))).trans (by decide)

/-- A hidden size that is not that of the query heads. -/
theorem expandGqaProjection_hidden :
    ¬ ∀ (headDim nKvHeads nHeads hidden : ℕ) (h : nKvHeads ∣ nHeads)
      (A : Matrix (Fin (nKvHeads * headDim)) (Fin hidden) ℤ),
      expandGqaProjection (flat A) (nKvHeads * headDim) hidden nHeads nKvHeads = .ok (flat (expandHeads h A)ᵀ) := by
  intro h
  have h := h 1 1 2 1 (by decide) !![7]
  revert h
  decide

/-- The projections of a validated config always fit: their sources have `n_kv_heads * head_dim` rows. -/
theorem expandGqaProjection_of_validate {att1 : Att1Dict} (hvalid : validateAtt1Config att1 = some [])
    (A : Matrix (Fin (att1.nKvHeads * (att1.dModel / att1.nHeads))) (Fin att1.dModel) F) :
    ∃ h : att1.nKvHeads ∣ att1.nHeads, expandGqaProjection (flat A) (att1.nKvHeads * (att1.dModel / att1.nHeads))
      att1.dModel att1.nHeads att1.nKvHeads = .ok (flat (expandHeads h A)ᵀ) := by
  have hconfig := validConfig_of_validate hvalid
  have hfits : att1.dModel = att1.nHeads * (att1.dModel / att1.nHeads) :=
    (Nat.mul_div_cancel' (Nat.dvd_of_mod_eq_zero hconfig.heads)).symm
  have hdvd : att1.nKvHeads ∣ att1.nHeads := by
    unfold validateAtt1Config at hvalid
    rw [if_neg hconfig.nHeads, Option.some.injEq] at hvalid
    simp only [List.append_eq_nil_iff] at hvalid
    have hkv := hvalid.1.1.1.2
    by_cases h0 : att1.nKvHeads = 0
    · rw [if_pos h0] at hkv
      cases hkv
    · rw [if_neg h0] at hkv
      by_contra hmod
      rw [if_pos fun h => hmod (Nat.dvd_of_mod_eq_zero h)] at hkv
      cases hkv
  exact ⟨hdvd, expandGqaProjection_flat hdvd A (.inr ⟨Nat.pos_of_ne_zero hconfig.nHeads, hfits⟩)⟩

end Expansion

end Att1.Converter
