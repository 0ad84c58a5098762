import Att1.Compare.Decoded
import Att1.Converter.Gqa

/-!
# Att1.Compare.Static — the static comparison of the harness (`_compare_static`)

* `arranged`: the values of a planned source tensor, in the layout of an f32 tensor of the model.
* `compareItem`, `compareStatic`: the comparison of one tensor, and the loop over the plan.
* `compareItem_f32`, `compareItem_quantized`: what is reported of a tensor that the converter wrote.
* `compareStatic_converted`: of a whole file: f32 tensors have no error, and of a quantized one the weight at place `k`
  of the source is compared with the weight at place `k` of the transpose.
-/

open Att1.Lib Att1.ModelFile Att1.Converter Att1.Reader Att1.Decoder

namespace Att1.Compare

/-! ### The comparison -/

/-- How `_compare_static` ends early: its messages, and the exceptions that it lets through. -/
inductive StaticError
  | sourceNotFound (name : List UInt8)
  | gqa (e : ConvertError)
  | att1NotFound (name : List UInt8)
  | unsupportedDtype (name : List UInt8)
  | elementCount (name : List UInt8) (source att1 : ℕ)
  | raised (e : Exc)
  | unreadable
  deriving DecidableEq, Repr

/-- The config of the harness where it is that of the file. -/
def cfgOf (att1 : Att1Dict) : Att1Cfg :=
  ⟨att1.vocabSize, att1.nLayers, att1.nHeads, att1.nKvHeads, att1.dModel, att1.dFf⟩

/-- An entry of `per_tensor`. -/
structure TensorReport (R : Type) where
  name : List UInt8
  shape : List ℕ
  maxAbsError : R
  maxRelError : R

/-- What `_compare_static` returns of a comparison that was not ended. -/
structure StaticReport (R : Type) where
  nChecked : ℕ
  maxAbsError : R
  maxRelError : R
  perTensor : List (TensorReport R)

section

variable {R : Type} [Field R] [LinearOrder R]

/-- The source values: an `lm_head` that is absent shares those of the embedding. -/
def sourceValues (load : List UInt8 → Except Exc (List R)) (item : PlanItem) : Except StaticError (List R) :=
  match load item.source with
  | .error .keyError =>
    if item.source = lmHeadSource then (load embedSource).mapError .raised else .error (.sourceNotFound item.source)
  | result => result.mapError .raised

/-- The values in the layout of the model.  `load` is what `_load_st_tensor` returns of a file. -/
def arranged (load : List UInt8 → Except Exc (List R)) (att1 : Att1Dict) (item : PlanItem) :
    Except StaticError (List R) := do
  let srcVals ← sourceValues load item
  let sRows := (item.sourceShape.getD 0 0).toNat
  let sCols := (item.sourceShape.getD 1 0).toNat
  if item.gqaExpand then
    (expandGqaProjection srcVals sRows sCols att1.nHeads att1.nKvHeads).mapError fun e =>
      if e = .indexError then .raised .indexError else .gqa e
  else if item.transpose then (transposed srcVals sRows sCols).mapError .raised
  else .ok srcVals

/-- `f32_values` of an f32 tensor; `struct.unpack` needs exactly as many bytes as its format. -/
def f32Values (unpack : List UInt8 → R) (t : Att1Tensor) : Option (List R) :=
  if (t.raw.take (t.shape.prod * 4)).length = t.shape.prod * 4 then
    some ((List.range t.shape.prod).map (f32At unpack t.raw))
  else none

/-- The values of the tensor of the file. -/
def att1Values (unpack : List UInt8 → R) (name : List UInt8) (t : Att1Tensor) : Except StaticError (List R) :=
  if t.dtype = dtypeF32 then orFail (f32Values unpack t) .unreadable
  else if t.dtype = dtypeQ8 then orFail (t.dequantize (scaled unpack)) .unreadable
  else if t.dtype = dtypeQ4 then orFail (t.dequantize (scaled unpack)) .unreadable
  else .error (.unsupportedDtype name)

/-- The difference of two values. -/
def absError (a b : R) : R := |a - b|

/-- The difference in relation to the values. -/
def relError (a b : R) : R := |a - b| / (max |a| |b| + 1 / 1000000000)

/-- One turn of the loop up to the maxima; `max` of nothing raises `ValueError`. -/
def compareItem (unpack : List UInt8 → R) (load : List UInt8 → Except Exc (List R)) (model : Att1Model)
    (att1 : Att1Dict) (item : PlanItem) : Except StaticError (TensorReport R) := do
  let srcVals ← arranged load att1 item
  let att1T ← orFail (model.findTensor (pyName item.target)) (.att1NotFound item.target)
  let dstVals ← att1Values unpack item.target att1T
  rejectIf (srcVals.length ≠ dstVals.length) (.elementCount item.target srcVals.length dstVals.length)
  let tAbs ← orFail (List.zipWith absError srcVals dstVals).max? (.raised .valueError)
  let tRel ← orFail (List.zipWith relError srcVals dstVals).max? (.raised .valueError)
  .ok ⟨item.target, att1T.shape, tAbs, tRel⟩

/-- The end of a turn. -/
def StaticReport.add (s : StaticReport R) (t : TensorReport R) : StaticReport R where
  nChecked := s.nChecked + 1
  maxAbsError := max s.maxAbsError t.maxAbsError
  maxRelError := max s.maxRelError t.maxRelError
  perTensor := s.perTensor ++ [t]

/-- `_compare_static`. -/
def compareStatic (unpack : List UInt8 → R) (load : List UInt8 → Except Exc (List R)) (model : Att1Model)
    (att1 : Att1Dict) : Except StaticError (StaticReport R) :=
  (buildPlan (cfgOf att1)).foldlM (fun s item => do
    let t ← compareItem unpack load model att1 item
    .ok (s.add t)) ⟨0, 0, 0, []⟩

/-! ### Maxima -/

omit [Field R] in
theorem max?_map_range {n : ℕ} (hn : n ≠ 0) (f : ℕ → R) :
    ∃ m, ((List.range n).map f).max? = some m ∧ IsGreatest {e | ∃ k < n, f k = e} m := by
  obtain ⟨m, hm⟩ : ∃ m, ((List.range n).map f).max? = some m := by
    refine Option.isSome_iff_exists.mp ?_
    rw [List.isSome_max?_iff, ne_eq, List.map_eq_nil_iff, List.range_eq_nil]
    exact hn
  obtain ⟨hmem, hle⟩ := List.max?_eq_some_iff.mp hm
  refine ⟨m, hm, ?_, fun e he => ?_⟩
  · obtain ⟨k, hk, hf⟩ := List.mem_map.mp hmem
    exact ⟨k, List.mem_range.mp hk, hf⟩
  · obtain ⟨k, hk, rfl⟩ := he
    exact hle _ (List.mem_map.mpr ⟨k, List.mem_range.mpr hk, rfl⟩)

omit [Field R] [LinearOrder R] in
theorem zipWith_map_range (h : R → R → R) (f g : ℕ → R) (n : ℕ) :
    List.zipWith h ((List.range n).map f) ((List.range n).map g) = (List.range n).map fun k => h (f k) (g k) := by
  rw [List.zipWith_map, List.zipWith_self]

omit [LinearOrder R] in
theorem map_getD_range {values : List R} {n : ℕ} (hlen : values.length = n) :
    (List.range n).map (values.getD · 0) = values := by
  subst hlen
  refine List.ext_getElem (by simp) fun k _ hk => ?_
  rw [List.getElem_map, List.getElem_range, List.getD_eq_getElem _ _ hk]

omit [Field R] in
theorem perTensor_foldl (reports : List (TensorReport R)) (s : StaticReport R) :
    (reports.foldl StaticReport.add s).perTensor = s.perTensor ++ reports := by
  induction reports generalizing s with
  | nil => rw [List.foldl_nil, List.append_nil]
  | cons t reports ih =>
    rw [List.foldl_cons, ih]
    exact List.append_assoc s.perTensor [t] reports

omit [Field R] in
theorem nChecked_foldl (reports : List (TensorReport R)) (s : StaticReport R) :
    (reports.foldl StaticReport.add s).nChecked = s.nChecked + reports.length := by
  induction reports generalizing s with
  | nil => rfl
  | cons t reports ih =>
    rw [List.foldl_cons, ih, List.length_cons]
    show s.nChecked + 1 + reports.length = _
    omega

omit [Field R] in
/-- The greatest error is that of a tensor, or what it was before. -/
theorem maxAbsError_foldl (reports : List (TensorReport R)) (s : StaticReport R) :
    IsGreatest {e | e = s.maxAbsError ∨ ∃ t ∈ reports, t.maxAbsError = e}
      (reports.foldl StaticReport.add s).maxAbsError := by
  induction reports generalizing s with
  | nil => exact ⟨Or.inl rfl, fun e he => (he.resolve_right (by simp)).le⟩
  | cons t reports ih =>
    obtain ⟨hmem, hle⟩ := ih (s.add t)
    rw [List.foldl_cons]
    refine ⟨?_, fun e he => ?_⟩
    · rcases hmem with hmem | ⟨u, hu, hmem⟩
      · rcases max_choice s.maxAbsError t.maxAbsError with hmax | hmax
        · exact Or.inl (hmem.trans hmax)
        · exact Or.inr ⟨t, List.mem_cons_self, hmax.symm.trans hmem.symm⟩
      · exact Or.inr ⟨u, List.mem_cons_of_mem _ hu, hmem⟩
    · have hboth : max s.maxAbsError t.maxAbsError ≤ _ := hle (Or.inl rfl)
      rcases he with rfl | ⟨u, hu, rfl⟩
      · exact (le_max_left _ _).trans hboth
      · rcases List.mem_cons.mp hu with rfl | hu
        · exact (le_max_right _ _).trans hboth
        · exact hle (Or.inr ⟨u, hu, rfl⟩)

/-- The loop over the plan makes the reports one after the other. -/
theorem compareStatic_of_mapM {unpack : List UInt8 → R} {load : List UInt8 → Except Exc (List R)} {model : Att1Model}
    {att1 : Att1Dict} {reports : List (TensorReport R)}
    (h : (buildPlan (cfgOf att1)).mapM (compareItem unpack load model att1) = .ok reports) :
    compareStatic unpack load model att1 = .ok (reports.foldl StaticReport.add ⟨0, 0, 0, []⟩) := by
  unfold compareStatic
  generalize (⟨0, 0, 0, []⟩ : StaticReport R) = s
  generalize hplan : buildPlan (cfgOf att1) = plan at h
  have hall := mapM_eq_ok.mp h
  clear h hplan
  induction hall generalizing s with
  | nil => rfl
  | cons hitem _ ih =>
    rw [List.foldlM_cons, List.foldl_cons]
    exact bind_eq_ok.mpr ⟨_, bind_eq_ok.mpr ⟨_, hitem, rfl⟩, ih _⟩

/-- The report of an item whose values and tensor are there, with a value for each of `n` places. -/
theorem compareItem_eq_ok {unpack : List UInt8 → R} {load : List UInt8 → Except Exc (List R)} {model : Att1Model}
    {att1 : Att1Dict} {item : PlanItem} {srcVals : List R} {t : Att1Tensor} {n : ℕ} {f : ℕ → R}
    (hsource : arranged load att1 item = .ok srcVals) (hfind : model.findTensor (pyName item.target) = some t)
    (hvalues : att1Values unpack item.target t = .ok ((List.range n).map f)) (hlen : srcVals.length = n) (hn : n ≠ 0) :
    ∃ r, compareItem unpack load model att1 item = .ok r ∧ r.name = item.target ∧ r.shape = t.shape ∧
      IsGreatest {e | ∃ k < n, |srcVals.getD k 0 - f k| = e} r.maxAbsError := by
  have hzip (h : R → R → R) : List.zipWith h srcVals ((List.range n).map f) =
      (List.range n).map fun k => h (srcVals.getD k 0) (f k) := by
    conv_lhs => rw [← map_getD_range hlen]
    exact zipWith_map_range h _ f n
  obtain ⟨tAbs, habs, hgreatest⟩ := max?_map_range hn fun k => absError (srcVals.getD k 0) (f k)
  obtain ⟨tRel, hrel, -⟩ := max?_map_range hn fun k => relError (srcVals.getD k 0) (f k)
  rw [← hzip] at habs hrel
  have hcount : ¬ srcVals.length ≠ ((List.range n).map f).length := by
    rw [List.length_map, List.length_range, hlen]
    exact fun h => h rfl
  refine ⟨⟨item.target, t.shape, tAbs, tRel⟩, ?_, rfl, rfl, hgreatest⟩
  refine bind_eq_ok.mpr ⟨_, hsource, orFail_bind_eq_ok.mpr ⟨_, hfind, bind_eq_ok.mpr ⟨_, hvalues, ?_⟩⟩⟩
  refine rejectIf_bind_eq_ok.mpr ⟨hcount, ?_⟩
  exact orFail_bind_eq_ok.mpr ⟨_, habs, orFail_bind_eq_ok.mpr ⟨_, hrel, rfl⟩⟩

end

/-! ### A file of the converter -/

section Converted

variable {R : Type} [Field R] [LinearOrder R] [IsStrictOrderedRing R] [FloorRing R] {pack : R → Option (List UInt8)}
  {unpack : List UInt8 → R} {synthetic : ℕ → ℕ → R} {att1 : Att1Dict} {values : ℕ → List R} {format : WeightFormat}
  {tensors : List PyTensor} {emitShardMeta : Bool} {descs : List (List UInt8)} {shardBlob bytes : List UInt8}
  {load : List UInt8 → Except Exc (List R)} {name : List UInt8} {shape : List ℕ} {t : PyTensor} {i : ℕ}

/-- The plans of the harness and of the converter have one order. -/
theorem map_fst_eq_map_target (att1 : Att1Dict) :
    (tensorNamePlan att1).map Prod.fst = (buildPlan (cfgOf att1)).map PlanItem.target := by
  rw [map_fst_tensorNamePlan, map_target_buildPlan]
  rfl

theorem buildPlan_getElem? {item : PlanItem} (hitem : (buildPlan (cfgOf att1))[i]? = some item) :
    ∃ shape, (tensorNamePlan att1)[i]? = some (item.target, shape) := by
  have hget := congrArg (·[i]?) (map_fst_eq_map_target att1)
  simp only [List.getElem?_map, hitem, Option.map_some] at hget
  obtain ⟨⟨name, shape⟩, hentry, rfl⟩ := Option.map_eq_some_iff.mp hget
  exact ⟨shape, hentry⟩

omit [LinearOrder R] [IsStrictOrderedRing R] [FloorRing R] in
/-- The values of an f32 tensor of the file. -/
theorem att1Values_f32 (hdtype : t.dtype = dtypeF32) (hbytes : t.data.length = t.shape.prod * 4) :
    att1Values unpack name (emittedTensor t) =
      .ok ((List.range t.shape.prod).map fun k => unpack (slice t.data (k * 4) 4)) := by
  have htake : ((emittedTensor t).raw.take ((emittedTensor t).shape.prod * 4)).length =
      (emittedTensor t).shape.prod * 4 := by
    show (t.data.take (t.shape.prod * 4)).length = t.shape.prod * 4
    rw [List.length_take, hbytes, Nat.min_self]
  unfold att1Values f32Values
  rw [if_pos (show (emittedTensor t).dtype = dtypeF32 from hdtype), if_pos htake]
  rfl

omit [LinearOrder R] [IsStrictOrderedRing R] [FloorRing R] in
/-- The values of a quantized tensor of the file: an output after the other. -/
theorem att1Values_quantized {rows cols : ℕ} {p : Att1Tensor} (h : Quantized p rows cols) :
    att1Values unpack name p =
      .ok ((List.range (rows * cols)).map fun k => decoderWeight unpack p (k / cols) (k % cols)) := by
  unfold att1Values
  rw [h.dequantize_eq]
  rcases h.form with ⟨hdtype, -⟩ | ⟨hdtype, -⟩
  · rw [hdtype, if_neg (by decide), if_pos rfl]
    rfl
  · rw [hdtype, if_neg (by decide), if_neg (by decide), if_pos rfl]
    rfl

/-- What is reported of a tensor at a place of the plan. -/
def Reported (unpack : List UInt8 → R) (values : List R) (shape : List ℕ) (t : PyTensor) (r : TensorReport R) : Prop :=
  (t.dtype = dtypeF32 → r.maxAbsError = 0) ∧
    (t.dtype ≠ dtypeF32 → ∃ inDim outDim, shape = [inDim, outDim] ∧
      IsGreatest {e | ∃ k < inDim * outDim,
        |values.getD k 0 - decoderWeight unpack (emittedTensor t) (k / inDim) (k % inDim)| = e} r.maxAbsError)

/-- One turn on the file of the converter. -/
theorem compareItem_converted (hpack : ∀ v b, pack v = some b → b.length = 4)
    (hexact : ∀ v b, pack v = some b → unpack b = v) (hdims : NonzeroDims att1)
    (htensors : buildTensors (exactFloats pack unpack synthetic) att1 (.real format values) = .ok tensors)
    (hb : Built att1 tensors emitShardMeta descs shardBlob bytes) {item : PlanItem}
    (hitem : (buildPlan (cfgOf att1))[i]? = some item) (hsource : arranged load att1 item = .ok (values i)) :
    ∃ shape t r, (tensorNamePlan att1)[i]? = some (item.target, shape) ∧ tensors[i]? = some t ∧
      compareItem unpack load (pyModel bytes) att1 item = .ok r ∧ r.name = item.target ∧ r.shape = t.shape ∧
      Reported unpack (values i) shape t r := by
  have hforms : ∀ t ∈ tensors, DefaultForm t := fun t ht => (hb.dtype_of_mem htensors ht).1
  obtain ⟨shape, hplace⟩ := buildPlan_getElem? hitem
  obtain ⟨t, ht, hlen, hcases⟩ := realTensor_cases hpack hexact htensors hplace
  have hc := hb.checked i _ t hplace ht
  have hname : t.name = item.target := hc.name
  have hfind := hb.findTensor_pyModel hdims hforms ht
  rw [hname] at hfind
  have hnonzero : shape.prod ≠ 0 := fun hzero =>
    (hdims.shape (List.mem_of_getElem? hplace)).2 0 (List.prod_eq_zero_iff.mp hzero) rfl
  refine ⟨shape, t, ?_⟩
  by_cases hdtype : t.dtype = dtypeF32
  · obtain ⟨htshape, hunpack⟩ : t.shape = shape ∧
        unpackF32 (exactFloats pack unpack synthetic) t = values i := by
      rcases hcases with ⟨-, htshape, hunpack⟩ | ⟨-, hmake⟩ | ⟨-, hmake⟩
      · exact ⟨htshape, hunpack⟩
      · exact absurd (hdtype.symm.trans (makeQ8TensorFromF32_form hmake).2.1) (by decide)
      · exact absurd (hdtype.symm.trans (makeQ4TensorFromF32_form hmake).2.1) (by decide)
    have hbytes : t.data.length = t.shape.prod * 4 := by
      rw [hc.nbytes, expectedNbytes, hdtype]
      rfl
    have hread : att1Values unpack item.target (emittedTensor t) = _ := att1Values_f32 hdtype hbytes
    obtain ⟨r, hr, hrname, hrshape, hgreatest⟩ := compareItem_eq_ok hsource hfind hread
      (hlen.trans (congrArg List.prod htshape.symm)) (htshape ▸ hnonzero)
    refine ⟨r, hplace, ht, hr, hrname, hrshape, fun _ => ?_, fun hne => absurd hdtype hne⟩
    obtain ⟨k, hk, hzero⟩ := hgreatest.1
    have hvalue : (values i).getD k 0 = unpack (slice t.data (k * 4) 4) := by
      rw [← hunpack]
      exact (congrFun (getD_map_range _ _) k).trans (array_of_lt hk)
    rw [← hzero, hvalue, sub_self, abs_zero]
  · obtain ⟨inDim, outDim, rfl⟩ : ∃ inDim outDim, shape = [inDim, outDim] := by
      rcases hcases with ⟨h, -⟩ | ⟨helig, -⟩ | ⟨helig, -⟩
      · exact absurd h hdtype
      · exact List.length_eq_two.mp (isQ8Eligible_length helig)
      · exact List.length_eq_two.mp (isQ4Eligible_iff.mp helig).1
    have hform := hforms t (List.mem_of_getElem? ht)
    have hquant := Checked.quantized hc hform hdtype
    have hprod : [inDim, outDim].prod = outDim * inDim := by
      rw [List.prod_cons, List.prod_singleton, Nat.mul_comm]
    rw [hprod] at hlen hnonzero
    have hread : att1Values unpack item.target (emittedTensor t) = _ := att1Values_quantized hquant
    obtain ⟨r, hr, hrname, hrshape, hgreatest⟩ := compareItem_eq_ok hsource hfind hread hlen hnonzero
    refine ⟨r, hplace, ht, hr, hrname, hrshape, fun h => absurd h hdtype, fun _ => ⟨inDim, outDim, rfl, ?_⟩⟩
    rwa [Nat.mul_comm inDim]

/-- **The static comparison** of a file with the source that it was made of: every planned tensor is compared and the
greatest error is that of a tensor; an f32 tensor has none.  The values of a quantized tensor are compared with those of
the source at the same places, though the source has an input after the other and the tensor an output after the other:
the source weight of input `k / outDim` and output `k % outDim` meets the weight of input `k % inDim` and output
`k / inDim`. -/
theorem compareStatic_converted (hpack : ∀ v b, pack v = some b → b.length = 4)
    (hexact : ∀ v b, pack v = some b → unpack b = v) (hvalid : validateAtt1Config att1 = some [])
    (htensors : buildTensors (exactFloats pack unpack synthetic) att1 (.real format values) = .ok tensors)
    (hbuild : buildAtt1BytesFromTensors att1 tensors emitShardMeta = .ok bytes)
    (hsource : ∀ i item, (buildPlan (cfgOf att1))[i]? = some item → arranged load att1 item = .ok (values i)) :
    ∃ model report, readAtt1Model bytes = .ok model ∧ compareStatic unpack load model att1 = .ok report ∧
      report.nChecked = tensors.length ∧
      IsGreatest {e | e = 0 ∨ ∃ r ∈ report.perTensor, r.maxAbsError = e} report.maxAbsError ∧
      ∀ i name shape, (tensorNamePlan att1)[i]? = some (name, shape) →
        ∃ t r, tensors[i]? = some t ∧ report.perTensor[i]? = some r ∧ r.name = name ∧ r.shape = t.shape ∧
          Reported unpack (values i) shape t r := by
  obtain ⟨descs, shardBlob, hb⟩ := built_of_build hbuild
  have hdims := (validConfig_of_validate hvalid).nonzeroDims
  have hforms : ∀ t ∈ tensors, DefaultForm t := fun t ht => (hb.dtype_of_mem htensors ht).1
  have hturn : ∀ {i item}, (buildPlan (cfgOf att1))[i]? = some item → _ := fun {i item} hitem =>
    compareItem_converted hpack hexact hdims htensors hb hitem (hsource i item hitem)
  obtain ⟨reports, hreports⟩ : ∃ reports,
      (buildPlan (cfgOf att1)).mapM (compareItem unpack load (pyModel bytes) att1) = .ok reports := by
    simp only [mapM_eq_ok]
    refine exists_forall₂_iff.mpr fun item hitem => ?_
    obtain ⟨i, hi⟩ := List.mem_iff_getElem?.mp hitem
    obtain ⟨shape, t, r, -, -, hr, -⟩ := hturn hi
    exact ⟨r, hr⟩
  have hplans := map_fst_eq_map_target att1
  have hlength : reports.length = tensors.length := by
    have hplan := congrArg List.length hplans
    rw [List.length_map, List.length_map, length_tensorNamePlan] at hplan
    rw [(getElem?_of_mapM hreports).1, ← hplan, hb.count]
  refine ⟨pyModel bytes, _, hb.readAtt1Model_eq hdims hforms, compareStatic_of_mapM hreports, ?_, ?_, ?_⟩
  · rw [nChecked_foldl, Nat.zero_add, hlength]
  · rw [perTensor_foldl]
    exact maxAbsError_foldl reports _
  · intro i name shape hplace
    obtain ⟨item, hitem, -⟩ : ∃ item, (buildPlan (cfgOf att1))[i]? = some item ∧ item.target = name := by
      have hget := congrArg (·[i]?) hplans
      simp only [List.getElem?_map, hplace, Option.map_some] at hget
      exact Option.map_eq_some_iff.mp hget.symm
    obtain ⟨shape', t, r, hplace', ht, hr, hrname, hrshape, hreported⟩ := hturn hitem
    obtain ⟨rfl, rfl⟩ := Prod.mk.inj (Option.some.inj (hplace.symm.trans hplace'))
    obtain ⟨r', hr', hturned⟩ := (getElem?_of_mapM hreports).2 i item hitem
    obtain rfl := Except.ok.inj (hr.symm.trans hturned)
    refine ⟨t, r, ht, ?_, hrname, hrshape, hreported⟩
    rw [perTensor_foldl]
    exact hr'

end Converted

/-! ### A sample -/

/-- A source whose query projection has the outputs 127, 127 and 0, 0; every other value is 127. -/
def skewSource (name : List UInt8) : Except Exc (List ℚ) :=
  if name = ascii "model.layers.0.self_attn.q_proj.weight" then .ok [127, 127, 0, 0]
  else match (buildPlan (cfgOf (sampleConfig 1 2 1))).find? fun item => item.source = name with
    | none => .error .keyError
    | some item => .ok (List.replicate (item.sourceShape.map Int.toNat).prod 127)

/-- Its values in the layout of the model. -/
def skewWeights (i : ℕ) : List ℚ :=
  ((buildPlan (cfgOf (sampleConfig 1 2 1)))[i]?.bind fun item =>
    (arranged skewSource (sampleConfig 1 2 1) item).toOption).getD []

/-- The q8 file of this source. -/
def skewFile : Except ConvertError (List PyTensor × List UInt8) := do
  let tensors ← buildTensors sampleExact (sampleConfig 1 2 1) (.real .q8 skewWeights)
  let bytes ← buildAtt1BytesFromTensors (sampleConfig 1 2 1) tensors false
  .ok (tensors, bytes)

theorem arranged_skewSource : ∀ i item, (buildPlan (cfgOf (sampleConfig 1 2 1)))[i]? = some item →
    arranged skewSource (sampleConfig 1 2 1) item = .ok (skewWeights i) := by
  intro i item hitem
  have hall : ∀ item ∈ buildPlan (cfgOf (sampleConfig 1 2 1)),
      (arranged skewSource (sampleConfig 1 2 1) item).toOption.isSome = true := by decide +kernel
  obtain ⟨list, hlist⟩ := Option.isSome_iff_exists.mp (hall item (List.mem_of_getElem? hitem))
  unfold skewWeights
  rw [hitem, Option.bind_some, hlist]
  exact toOption_eq_some.mp hlist

/-- The weights of the query projection are exact in the file, and the comparison reports an error of 127. -/
theorem compareStatic_converted_skew : ∃ tensors bytes model report t r, skewFile = .ok (tensors, bytes) ∧
    readAtt1Model bytes = .ok model ∧
    compareStatic sampleUnpack skewSource model (sampleConfig 1 2 1) = .ok report ∧
    tensors[2]? = some t ∧ report.perTensor[2]? = some r ∧
    (∀ row < 2, ∀ col < 2,
      decoderWeight sampleUnpack (emittedTensor t) row col = (skewWeights 2).getD (col * 2 + row) 0) ∧
    r.maxAbsError = 127 := by
  have hsome : skewFile.toOption.map (fun file => file.1[2]?.map fun t => (t.dtype,
      (List.range 4).map fun k => decoderWeight sampleUnpack (emittedTensor t) (k / 2) (k % 2))) =
        some (some (dtypeQ8, [127, 127, 0, 0])) := by decide +kernel
  obtain ⟨⟨tensors, bytes⟩, hfile, hthird⟩ := Option.map_eq_some_iff.mp hsome
  obtain ⟨t, ht, hentry⟩ := Option.map_eq_some_iff.mp hthird
  obtain ⟨hdtype, hdecoded⟩ := Prod.mk.inj hentry
  have hwanted : ∀ row < 2, ∀ col < 2, ([127, 127, 0, 0] : List ℚ).getD (row * 2 + col) 0 =
      (skewWeights 2).getD (col * 2 + row) 0 := by decide +kernel
  have hweights : ∀ row < 2, ∀ col < 2, decoderWeight sampleUnpack (emittedTensor t) row col =
      (skewWeights 2).getD (col * 2 + row) 0 := fun row hrow col hcol => by
    rw [← hwanted row hrow col hcol, ← hdecoded, congrFun (getD_map_range _ _) _, array_of_lt (block_lt hrow hcol),
      block_div hcol, block_mod hcol]
  have hfile := toOption_eq_some.mp hfile
  obtain ⟨_, htensors, h⟩ := bind_eq_ok.mp hfile
  obtain ⟨_, hbuild, h⟩ := bind_eq_ok.mp h
  cases h
  have hplan : (tensorNamePlan (sampleConfig 1 2 1))[2]? = some (ascii "layers.0.attention.wq.weight", [2, 2]) := by
    decide +kernel
  obtain ⟨model, report, hread, hreport, -, -, hall⟩ := compareStatic_converted (fun _ _ => length_samplePack)
    (fun _ _ => sampleUnpack_samplePack) (by decide) htensors hbuild arranged_skewSource
  obtain ⟨t', r, ht', hr, -, -, -, hquantized⟩ := hall 2 _ _ hplan
  obtain rfl := Option.some.inj (ht.symm.trans ht')
  obtain ⟨inDim, outDim, hshape, ⟨k, hk, hmax⟩, hbound⟩ := hquantized (by rw [hdtype]; decide)
  cases hshape
  refine ⟨tensors, bytes, model, report, t, r, hfile, hread, hreport, ht, hr, hweights, ?_⟩
  -- place 1 is input 0 of output 1 in the source, and input 1 of output 0 in the file
  have hcell : ∀ k < 2 * 2, |(skewWeights 2).getD k 0 - (skewWeights 2).getD (k % 2 * 2 + k / 2) 0| ≤ 127 := by
    decide +kernel
  have hplace : |(skewWeights 2).getD 1 0 - (skewWeights 2).getD (1 % 2 * 2 + 1 / 2) 0| = 127 := by decide +kernel
  refine le_antisymm ?_ (hbound ⟨1, by decide, ?_⟩)
  · rw [← hmax, hweights (k / 2) (by omega) (k % 2) (by omega)]
    exact hcell k hk
  · rw [hweights (1 / 2) (by decide) (1 % 2) (by decide)]
    exact hplace

end Att1.Compare
