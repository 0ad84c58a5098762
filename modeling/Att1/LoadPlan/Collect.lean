import Att1.LoadPlan.Build

/-!
# Att1.LoadPlan.Collect — the records that the load phase places

* `validateTensor_cases`: a record that is no error is returned, and is placed on a tile, or it is not placed.
* `Collects`: the records that are collected are the placed ones, grouped by their owner tiles;
  `collects_of_noError`, `noError_of_collectTensors`.
-/

open Att1.Lib

namespace Att1.LoadPlan

variable {tileCount : ℤ} {strict : Bool} {s : Session} {t : Fields}

/-! ### Records -/

/-- `owner_tile` of a record. -/
def ownerOf (t : Fields) : ℤ := ((dictGet t "owner_tile").asInt?).getD 0

def ownerKey (t : Fields) : Json.Key := .num (ownerOf t)

/-- A record that is placed. -/
def placed? : Json → Option Fields
  | .obj t => if (dictGet t "placement_status").eqStr "placed" then some t else none
  | _ => none

/-- The placed records of a report. -/
def placedRecords (tensors : List Json) : List Fields := tensors.filterMap placed?

/-- What `_validate_tensor` has checked of a record that it returns. -/
structure Validated (tileCount : ℤ) (t : Fields) : Prop where
  id : (dictGet t "tensor_id").isNone = false
  placed : (dictGet t "placement_status").eqStr "placed" = true
  owner : ∃ k, (dictGet t "owner_tile").asInt? = some k ∧ 0 ≤ k ∧ k < tileCount

theorem validateDtype_cases {label : FString} {v : Verdict} (h : validateDtype label t = .ok v)
    (hv : ∀ error, v ≠ .rejected error) : v = .validated t := by
  unfold validateDtype at h
  simp only at h
  by_cases hnone : (dictGet t "dtype").isNone = true
  · rw [if_pos hnone] at h
    exact absurd (Except.ok.inj h).symm (hv _)
  rw [if_neg hnone] at h
  obtain ⟨supported, -, h⟩ := bind_eq_ok.mp h
  by_cases hsupported : (!supported) = true
  · rw [if_pos hsupported] at h
    exact absurd (Except.ok.inj h).symm (hv _)
  rw [if_neg hsupported] at h
  by_cases hq4 : (dictGet t "dtype").eqStr "q4" = true
  · rw [if_pos hq4] at h
    by_cases hsize : (dictGet t "quantization_group_size").isNone = true
    · rw [if_pos hsize] at h
      exact absurd (Except.ok.inj h).symm (hv _)
    rw [if_neg hsize] at h
    obtain ⟨key, -, h⟩ := bind_eq_ok.mp h
    by_cases hkey : (validQ4GroupSizes.any fun size => key = .num size) = true
    · rw [if_pos hkey] at h
      exact (Except.ok.inj h).symm
    · rw [if_neg hkey] at h
      exact absurd (Except.ok.inj h).symm (hv _)
  · rw [if_neg hq4] at h
    exact (Except.ok.inj h).symm

theorem validateOwner_eq {label : FString} {v : Verdict} (h : validateOwner tileCount label t = .ok v)
    (hv : ∀ error, v ≠ .rejected error) :
    (∃ k, (dictGet t "owner_tile").asInt? = some k ∧ 0 ≤ k ∧ k < tileCount) ∧ validateDtype label t = .ok v := by
  unfold validateOwner at h
  simp only at h
  by_cases hnone : (dictGet t "owner_tile").isNone = true
  · rw [if_pos hnone] at h
    exact absurd (Except.ok.inj h).symm (hv _)
  rw [if_neg hnone] at h
  cases hint : (dictGet t "owner_tile").asInt? with
  | none =>
    rw [hint] at h
    exact absurd (Except.ok.inj h).symm (hv _)
  | some k =>
    rw [hint] at h
    simp only at h
    by_cases hrange : k < 0 ∨ k ≥ tileCount
    · rw [if_pos hrange] at h
      exact absurd (Except.ok.inj h).symm (hv _)
    · rw [if_neg hrange] at h
      exact ⟨⟨k, rfl, by omega, by omega⟩, h⟩

/-- A record is returned, or it is not placed, or it is an error. -/
theorem validateTensor_cases {i : ℕ} {tensor : Json} {v : Verdict}
    (h : validateTensor tileCount strict i tensor = .ok v) (hv : ∀ error, v ≠ .rejected error) :
    (∃ t, v = .validated t ∧ tensor = .obj t ∧ Validated tileCount t) ∨
      (∃ warning, v = .skipped warning ∧ placed? tensor = none) := by
  cases tensor with
  | obj t =>
    simp only [validateTensor] at h
    by_cases hid : (dictGet t "tensor_id").isNone = true
    · rw [if_pos hid] at h
      exact absurd (Except.ok.inj h).symm (hv _)
    rw [if_neg hid] at h
    unfold validateRecord at h
    simp only at h
    by_cases hname : (dictGet t "tensor_name").isNone = true
    · rw [if_pos hname] at h
      exact absurd (Except.ok.inj h).symm (hv _)
    rw [if_neg hname] at h
    by_cases hstatus : (dictGet t "placement_status").isNone = true
    · rw [if_pos hstatus] at h
      exact absurd (Except.ok.inj h).symm (hv _)
    rw [if_neg hstatus] at h
    by_cases hplaced : (dictGet t "placement_status").eqStr "placed" = true
    · rw [if_neg (by rw [hplaced]; simp)] at h
      obtain ⟨howner, hdtype⟩ := validateOwner_eq h hv
      exact .inl ⟨t, validateDtype_cases hdtype hv, rfl, by simpa using hid, hplaced, howner⟩
    · rw [if_pos (by simpa using hplaced)] at h
      cases strict with
      | true => exact absurd (Except.ok.inj h).symm (hv _)
      | false =>
        obtain rfl := Except.ok.inj h
        exact .inr ⟨_, rfl, if_neg hplaced⟩
  | _ => exact absurd (Except.ok.inj h).symm (hv _)

/-- The place of a record in the report only shows in the errors. -/
theorem validateTensor_index {i : ℕ} {tensor : Json} {v : Verdict}
    (h : validateTensor tileCount strict i tensor = .ok v) (hv : ∀ error, v ≠ .rejected error) (j : ℕ) :
    validateTensor tileCount strict j tensor = .ok v := by
  cases tensor with
  | obj t =>
    simp only [validateTensor] at h ⊢
    by_cases hid : (dictGet t "tensor_id").isNone = true
    · rw [if_pos hid] at h
      exact absurd (Except.ok.inj h).symm (hv _)
    · rw [if_neg hid] at h ⊢
      exact h
  | _ => exact absurd (Except.ok.inj h).symm (hv _)

/-! ### Collecting the records -/

/-- A record of a report that is no error. -/
def NoError (tileCount : ℤ) (strict : Bool) (tensor : Json) : Prop :=
  ∃ v : Verdict, (∀ error, v ≠ .rejected error) ∧ ∀ i, validateTensor tileCount strict i tensor = .ok v

/-- What is collected of records that are no errors. -/
structure Collects (tileCount : ℤ) (tensors : List Json) (c : Collected) : Prop where
  errors : c.errors = []
  validated : ∀ t ∈ placedRecords tensors, Validated tileCount t
  byTile : GroupedBy ownerKey (fun t => dictGet t "owner_tile") (placedRecords tensors) c.byTile

theorem collectTensors_concat (warnings : List FString) (tensors : List Json) (tensor : Json) :
    collectTensors tileCount strict warnings (tensors ++ [tensor]) =
      (collectTensors tileCount strict warnings tensors >>= fun c =>
        collectTensor tileCount strict c (tensor, tensors.length)) := by
  unfold collectTensors
  rw [List.zipIdx_append, List.foldlM_append]
  congr 1
  funext c
  rw [List.zipIdx_singleton, List.foldlM_cons, zero_add]
  exact bind_pure _

theorem placedRecords_concat (tensors : List Json) (tensor : Json) :
    placedRecords (tensors ++ [tensor]) = placedRecords tensors ++ (placed? tensor).toList := by
  unfold placedRecords
  rw [List.filterMap_append]
  cases h : placed? tensor with
  | none => rw [List.filterMap_cons_none h]; rfl
  | some t => rw [List.filterMap_cons_some h]; rfl

theorem collectTensor_validated {c : Collected} {i : ℕ} {tensor : Json}
    (h : validateTensor tileCount strict i tensor = .ok (.validated t)) (ht : Validated tileCount t) :
    collectTensor tileCount strict c (tensor, i) =
      .ok { c with byTile := c.byTile.appendAt (ownerKey t) (dictGet t "owner_tile") t } := by
  obtain ⟨k, hk, -⟩ := ht.owner
  have hitem := item_of_not_none (Json.isNone_of_asInt hk)
  have hkey : (dictGet t "owner_tile").key = .ok (ownerKey t) := by
    rw [Json.key_of_asInt hk, ownerKey, ownerOf, hk]
    rfl
  unfold collectTensor
  rw [h]
  exact bind_eq_ok.mpr ⟨_, rfl, bind_eq_ok.mpr ⟨_, hitem, bind_eq_ok.mpr ⟨_, hkey, rfl⟩⟩⟩

/-- Records that are no errors are collected. -/
theorem collects_of_noError {tensors : List Json} (warnings : List FString)
    (h : ∀ tensor ∈ tensors, NoError tileCount strict tensor) :
    ∃ c, collectTensors tileCount strict warnings tensors = .ok c ∧ Collects tileCount tensors c := by
  induction tensors using List.reverseRecOn with
  | nil => exact ⟨⟨[], warnings, []⟩, rfl, rfl, by simp [placedRecords], groupedBy_nil⟩
  | append_singleton tensors tensor ih =>
    obtain ⟨c, hc, hcollects⟩ := ih fun x hx => h x (List.mem_append_left _ hx)
    obtain ⟨v, hv, hvalidate⟩ := h tensor (by simp)
    rw [collectTensors_concat, hc]
    show ∃ c', collectTensor tileCount strict c (tensor, tensors.length) = .ok c' ∧ _
    rcases validateTensor_cases (hvalidate tensors.length) hv with ⟨t, rfl, rfl, ht⟩ | ⟨warning, rfl, hnone⟩
    · have hplaced : placedRecords (tensors ++ [.obj t]) = placedRecords tensors ++ [t] := by
        rw [placedRecords_concat, placed?, if_pos ht.placed]
        rfl
      refine ⟨_, collectTensor_validated (hvalidate _) ht, hcollects.errors, ?_, ?_⟩
      · rw [hplaced]
        intro t' ht'
        rcases List.mem_append.mp ht' with ht' | ht'
        · exact hcollects.validated t' ht'
        · exact List.mem_singleton.mp ht' ▸ ht
      · rw [hplaced]
        exact hcollects.byTile.appendAt t
    · have hplaced : placedRecords (tensors ++ [tensor]) = placedRecords tensors := by
        rw [placedRecords_concat, hnone]
        exact List.append_nil _
      refine ⟨{ c with warnings := c.warnings ++ [warning] }, ?_, hcollects.errors, ?_, ?_⟩
      · unfold collectTensor
        rw [hvalidate]
        rfl
      · rw [hplaced]
        exact hcollects.validated
      · rw [hplaced]
        exact hcollects.byTile

/-- Without errors no record is one. -/
theorem noError_of_collectTensors {tensors : List Json} {warnings : List FString} {c : Collected}
    (h : collectTensors tileCount strict warnings tensors = .ok c) (hno : c.errors = []) :
    ∀ tensor ∈ tensors, NoError tileCount strict tensor := by
  induction tensors using List.reverseRecOn generalizing c with
  | nil => simp
  | append_singleton tensors tensor ih =>
    rw [collectTensors_concat] at h
    obtain ⟨c', hc', h⟩ := bind_eq_ok.mp h
    unfold collectTensor at h
    obtain ⟨v, hv, h⟩ := bind_eq_ok.mp h
    have hstep : (∀ error, v ≠ .rejected error) ∧ c'.errors = [] := by
      cases v with
      | validated t =>
        obtain ⟨owner, -, h⟩ := bind_eq_ok.mp h
        obtain ⟨key, -, h⟩ := bind_eq_ok.mp h
        obtain rfl := Except.ok.inj h
        exact ⟨fun _ => nofun, hno⟩
      | skipped warning =>
        obtain rfl := Except.ok.inj h
        exact ⟨fun _ => nofun, hno⟩
      | rejected error =>
        obtain rfl := Except.ok.inj h
        simp at hno
    intro x hx
    rcases List.mem_append.mp hx with hx | hx
    · exact ih hc' hstep.2 x hx
    · obtain rfl := List.mem_singleton.mp hx
      exact ⟨v, hstep.1, validateTensor_index hv hstep.1⟩

end Att1.LoadPlan
