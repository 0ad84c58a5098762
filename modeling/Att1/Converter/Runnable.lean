import Att1.Converter.Formats
import Att1.Converter.RoundTrip

/-!
# Att1.Converter.Runnable — which emitted files run

* `HasTensor m name dtype shape`: what the views look for.  A `Planned` model has it for every tensor of the plan.
* `Planned.validateDecoder_iff`, `Planned.validateDecoderQ4_iff`: what the C validation of a format comes down to.
* `emitted_runs_iff`: the configs whose file is loaded and passes the validation of its format.
-/

open Att1.Lib Att1.ModelFile

namespace Att1.Converter

/-! ### Views -/

/-- The model has a tensor of the given dtype and shape under `name`. -/
def HasTensor (m : Model) (name : List UInt8) (dtype : ℕ) (shape : List ℕ) : Prop :=
  ∃ t, findTensor m name = some t ∧ t.dtype = dtype ∧ t.ndims = shape.length ∧
    ∀ k : Fin 4, t.shape k = (padShape shape).getD k 0

section Views

variable {m : Model} {name : List UInt8} {rows cols dim : ℕ}

theorem HasTensor.viewVector (h : HasTensor m name dtypeF32 [dim]) : ∃ out, viewTensorF32 m name 1 dim 1 = .ok out := by
  obtain ⟨t, hfind, hdtype, hndims, hshape⟩ := h
  refine ⟨t.data, viewTensorF32_eq_ok.mpr ⟨by decide, t, hfind, ?_, rfl⟩⟩
  exact tensorIsF32Shape_iff.mpr ⟨hdtype, hndims, hshape 0, fun h => absurd h (by decide)⟩

theorem HasTensor.viewMatrix (h : HasTensor m name dtypeF32 [rows, cols]) :
    ∃ out, viewTensorF32 m name 2 rows cols = .ok out := by
  obtain ⟨t, hfind, hdtype, hndims, hshape⟩ := h
  refine ⟨t.data, viewTensorF32_eq_ok.mpr ⟨by decide, t, hfind, ?_, rfl⟩⟩
  exact tensorIsF32Shape_iff.mpr ⟨hdtype, hndims, hshape 0, fun _ => hshape 1⟩

theorem HasTensor.viewQ4 (h : HasTensor m name dtypeQ4 [rows, cols]) (hrows : rows ≠ 0) (hcols : cols ≠ 0) :
    ∃ out, viewTensorQ4 m name rows cols = .ok out := by
  obtain ⟨t, hfind, hdtype, hndims, hshape⟩ := h
  refine ⟨_, viewTensorQ4_eq_ok.mpr ⟨⟨hrows, hcols⟩, t, hfind, ?_, rfl⟩⟩
  exact tensorIsQ4Shape_iff.mpr ⟨hdtype, hndims, hshape 0, hshape 1⟩

/-- A q4 view asks for a q4 tensor. -/
theorem HasTensor.dtype_of_viewQ4 {dtype : ℕ} {shape : List ℕ} (h : HasTensor m name dtype shape) {out : Q4Matrix}
    (hview : viewTensorQ4 m name rows cols = .ok out) : dtype = dtypeQ4 := by
  obtain ⟨t, hfind, hdtype, -⟩ := h
  obtain ⟨-, t', hfind', hshape, -⟩ := viewTensorQ4_eq_ok.mp hview
  rw [hfind, Option.some.injEq] at hfind'
  subst hfind'
  rw [← hdtype]
  exact (tensorIsQ4Shape_iff.mp hshape).1

end Views

/-! ### The dtypes of a format -/

theorem plannedDtype_vector (format : WeightFormat) (name : List UInt8) (dim : ℕ) :
    plannedDtype format name [dim] = dtypeF32 := by
  cases format <;> rfl

theorem plannedDtype_embedding (format : WeightFormat) (rows cols : ℕ) :
    plannedDtype format (ascii "tok_embeddings.weight") [rows, cols] = dtypeF32 := by
  cases format with
  | f32 => rfl
  | q8 =>
    have helig : ¬ isQ8Eligible (ascii "tok_embeddings.weight") [rows, cols] = true := by simp [isQ8Eligible]
    show (if isQ8Eligible (ascii "tok_embeddings.weight") [rows, cols] then dtypeQ8 else dtypeF32) = dtypeF32
    rw [if_neg helig]
  | q4 =>
    have helig : ¬ isQ4Eligible (ascii "tok_embeddings.weight") [rows, cols] q4GroupSizeDefault = true := by
      simp [isQ4Eligible]
    show (if isQ4Eligible (ascii "tok_embeddings.weight") [rows, cols] q4GroupSizeDefault then dtypeQ4
      else dtypeF32) = dtypeF32
    rw [if_neg helig]

theorem plannedDtype_q8 {name : List UInt8} (h : name ≠ ascii "tok_embeddings.weight") (rows cols : ℕ) :
    plannedDtype .q8 name [rows, cols] = dtypeQ8 :=
  if_pos (by simp [isQ8Eligible, h])

theorem plannedDtype_q4_iff {name : List UInt8} (h : name ≠ ascii "tok_embeddings.weight") {rows cols : ℕ}
    (hcols : cols ≠ 0) : plannedDtype .q4 name [cols, rows] = dtypeQ4 ↔ 32 ∣ cols := by
  show (if isQ4Eligible name [cols, rows] q4GroupSizeDefault then dtypeQ4 else dtypeF32) = dtypeQ4 ↔ _
  have helig : isQ4Eligible name [cols, rows] q4GroupSizeDefault = true ↔ 32 ∣ cols := by
    rw [isQ4Eligible_iff]
    show _ ∧ _ ∧ 32 ≤ cols ∧ cols % 32 = 0 ↔ _
    constructor
    · rintro ⟨-, -, -, hmod⟩
      exact Nat.dvd_of_mod_eq_zero hmod
    · intro hdvd
      exact ⟨rfl, h, Nat.le_of_dvd (Nat.pos_of_ne_zero hcols) hdvd, Nat.mod_eq_zero_of_dvd hdvd⟩
  rw [← helig]
  by_cases he : isQ4Eligible name [cols, rows] q4GroupSizeDefault = true
  · rw [if_pos he]
    simp [he]
  · rw [if_neg he]
    simp [he, dtypeF32, dtypeQ4]

theorem plannedDtype_ne_q4 {format : WeightFormat} (h : format ≠ .q4) (name : List UInt8) (shape : List ℕ) :
    plannedDtype format name shape ≠ dtypeQ4 := by
  cases format with
  | f32 => exact show dtypeF32 ≠ dtypeQ4 by decide
  | q8 =>
    unfold plannedDtype
    dsimp only
    split <;> decide
  | q4 => exact absurd rfl h

/-! ### Validation -/

/-- A model with the config and the tensors of a plan, in the dtypes of a weight format. -/
structure Planned (m : Model) (att1 : Att1Dict) (format : WeightFormat) : Prop where
  config : m.config = att1.config
  tensor : ∀ name shape, (name, shape) ∈ tensorNamePlan att1 → name.length < modelNameSize ∧
    HasTensor m name (plannedDtype format name shape) (expectedShape (plannedDtype format name shape) shape)
  dtypes : format ≠ .q4 → ∀ t ∈ m.tensors, t.dtype ≠ dtypeQ4

/-- The head dimension, as the validation computes it. -/
def headDim (att1 : Att1Dict) : ℕ := att1.dModel / att1.nHeads

namespace Planned

variable {m : Model} {att1 : Att1Dict} {format : WeightFormat} {name : List UInt8} {rows cols dim layer : ℕ}
  (hp : Planned m att1 format)
include hp

theorem viewVector (h : (name, [dim]) ∈ tensorNamePlan att1) : ∃ out, viewTensorF32 m name 1 dim 1 = .ok out := by
  have ht := (hp.tensor _ _ h).2
  rw [plannedDtype_vector] at ht
  exact ht.viewVector

theorem viewTokenEmbedding : ∃ out, viewTokenEmbedding m = .ok out := by
  have ht := (hp.tensor (ascii "tok_embeddings.weight") [att1.vocabSize, att1.dModel] (by simp [tensorNamePlan])).2
  rw [plannedDtype_embedding] at ht
  unfold ModelFile.viewTokenEmbedding
  rw [hp.config]
  exact ht.viewMatrix

theorem viewOutputNorm : ∃ out, viewOutputNorm m = .ok out := by
  unfold ModelFile.viewOutputNorm
  rw [hp.config]
  have hmem : (ascii "output_norm.weight", [att1.dModel]) ∈ tensorNamePlan att1 := by simp [tensorNamePlan]
  exact hp.viewVector hmem

theorem configBad_iff (hv : ValidConfig att1) : decoderConfigBad m.config ↔ headDim att1 % 2 ≠ 0 := by
  rw [hp.config]
  unfold decoderConfigBad Att1Dict.config headDim
  simp only [hv.vocabSize, hv.nLayers, hv.nHeads, hv.dModel, hv.dFf, hv.maxSeqLen, hv.heads, false_or, ne_eq,
    not_false_eq_true, if_true, not_true_eq_false]

/-- The output matrix in f32 or q8. -/
theorem outputWeight (h : format ≠ .q4) : ∃ t, findTensor m (ascii "output.weight") = some t ∧
    tensorIsOutputWeightShape t m.config.dModel m.config.vocabSize = true := by
  have hmem : (ascii "output.weight", [att1.dModel, att1.vocabSize]) ∈ tensorNamePlan att1 := by simp [tensorNamePlan]
  obtain ⟨-, t, hfind, hdtype, hndims, hshape⟩ := hp.tensor _ _ hmem
  refine ⟨t, hfind, ?_⟩
  rw [hp.config]
  unfold tensorIsOutputWeightShape
  rw [Bool.or_eq_true, tensorIsF32Shape_iff, tensorIsQ8Shape_iff]
  cases format with
  | f32 => exact .inl ⟨hdtype, hndims, hshape 0, fun _ => hshape 1⟩
  | q8 =>
    rw [plannedDtype_q8 (by decide)] at hdtype hndims hshape
    exact .inr ⟨hdtype, hndims, hshape 0, hshape 1⟩
  | q4 => exact absurd rfl h

/-- **The f32 and q8 validation** comes down to the head dimension. -/
theorem validateDecoder_iff (hv : ValidConfig att1) (h : format ≠ .q4) :
    viewValidateDecoder m = .ok () ↔ headDim att1 % 2 = 0 := by
  have hnoQ4 : ¬ (m.tensors.any fun tensor => tensor.dtype == dtypeQ4) = true := by
    rw [List.any_eq_true]
    rintro ⟨t, ht, hdtype⟩
    exact hp.dtypes h t ht (by simpa using hdtype)
  unfold viewValidateDecoder
  rw [rejectIf_bind_eq_ok, rejectIf_bind_eq_ok, hp.configBad_iff hv, not_not]
  constructor
  · rintro ⟨-, heven, -⟩
    exact heven
  · intro heven
    obtain ⟨_, hembedding⟩ := hp.viewTokenEmbedding
    obtain ⟨_, hnorm⟩ := hp.viewOutputNorm
    obtain ⟨t, hfind, hshape⟩ := hp.outputWeight h
    exact ⟨hnoQ4, heven, bind_eq_ok.mpr ⟨_, hembedding, bind_eq_ok.mpr ⟨_, hnorm,
      orFail_bind_eq_ok.mpr ⟨t, hfind, rejectIf_eq_ok.mpr (not_not.mpr hshape)⟩⟩⟩⟩

theorem viewQ4_iff (hq4 : format = .q4) (h : (name, [cols, rows]) ∈ tensorNamePlan att1)
    (hname : name ≠ ascii "tok_embeddings.weight") (hrows : rows ≠ 0) (hcols : cols ≠ 0) :
    (∃ out, viewTensorQ4 m name rows cols = .ok out) ↔ 32 ∣ cols := by
  have ht := (hp.tensor _ _ h).2
  rw [hq4] at ht
  have hdtype : plannedDtype .q4 name [cols, rows] = dtypeQ4 ↔ 32 ∣ cols := plannedDtype_q4_iff hname hcols
  rw [← hdtype]
  constructor
  · rintro ⟨out, hout⟩
    exact ht.dtype_of_viewQ4 hout
  · intro hdtype
    rw [hdtype] at ht
    exact ht.viewQ4 hrows hcols

/-! The layers of the q4 validation. -/

theorem layerName_eq {suffix : String} {shape : List ℕ}
    (h : (layerPrefix layer ++ (ascii "." ++ ascii suffix), shape) ∈ tensorNamePlan att1) :
    layerName layer (ascii suffix) = .ok (layerPrefix layer ++ (ascii "." ++ ascii suffix)) := by
  have hshort := (hp.tensor _ _ h).1
  have hname : ascii "layers." ++ decimal layer ++ ascii "." ++ ascii suffix =
      layerPrefix layer ++ (ascii "." ++ ascii suffix) := List.append_assoc _ _ _
  unfold layerName
  rw [hname]
  exact if_neg (by omega)

theorem layerVector {suffix : String}
    (h : (layerPrefix layer ++ (ascii "." ++ ascii suffix), [dim]) ∈ tensorNamePlan att1) :
    ∃ out, layerTensorF32 m layer suffix 1 dim 1 = .ok out := by
  obtain ⟨out, hout⟩ := hp.viewVector h
  exact ⟨out, bind_eq_ok.mpr ⟨_, hp.layerName_eq h, hout⟩⟩

theorem layerQ4_iff (hq4 : format = .q4) {suffix : String}
    (h : (layerPrefix layer ++ (ascii "." ++ ascii suffix), [cols, rows]) ∈ tensorNamePlan att1) (hrows : rows ≠ 0)
    (hcols : cols ≠ 0) : (∃ out, layerTensorQ4 m layer suffix rows cols = .ok out) ↔ 32 ∣ cols := by
  have hname : layerPrefix layer ++ (ascii "." ++ ascii suffix) ≠ ascii "tok_embeddings.weight" := by
    intro heq
    have hhead := congrArg List.head? heq
    revert hhead
    exact (by decide : some (0x6c : UInt8) ≠ some 0x74)
  rw [← hp.viewQ4_iff hq4 h hname hrows hcols]
  unfold layerTensorQ4
  simp only [bind_eq_ok, hp.layerName_eq h, Except.ok.injEq, exists_eq_left']

/-- One layer passes where all its matrices could be quantized. -/
theorem validateLayerQ4_iff (hv : ValidConfig att1) (hq4 : format = .q4) (hlayer : layer < att1.nLayers) :
    (∃ u, validateLayerQ4 m layer = .ok u) ↔ 32 ∣ att1.dModel ∧ 32 ∣ att1.dFf := by
  have hmem (k : ℕ) {entry : List UInt8 × List ℕ} (h : (layerPlan att1.dModel att1.dFf layer)[k]? = some entry) :
      entry ∈ tensorNamePlan att1 :=
    List.mem_cons_of_mem _ (List.mem_append_left _
      (List.mem_flatMap.mpr ⟨layer, List.mem_range.mpr hlayer, List.mem_of_getElem? h⟩))
  have hd := hv.dModel
  have hf := hv.dFf
  unfold validateLayerQ4
  simp only [bind_eq_ok, exists_and_right, hp.config, Att1Dict.config, exists_const]
  constructor
  · rintro ⟨-, hwq, -, -, -, -, -, -, hdown, -⟩
    exact ⟨(hp.layerQ4_iff hq4 (hmem 1 rfl) hd hd).mp hwq, (hp.layerQ4_iff hq4 (hmem 8 rfl) hd hf).mp hdown⟩
  · rintro ⟨hdvd, hdvd'⟩
    exact ⟨hp.layerVector (hmem 0 rfl), (hp.layerQ4_iff hq4 (hmem 1 rfl) hd hd).mpr hdvd,
      (hp.layerQ4_iff hq4 (hmem 2 rfl) hd hd).mpr hdvd, (hp.layerQ4_iff hq4 (hmem 3 rfl) hd hd).mpr hdvd,
      (hp.layerQ4_iff hq4 (hmem 4 rfl) hd hd).mpr hdvd, hp.layerVector (hmem 5 rfl),
      (hp.layerQ4_iff hq4 (hmem 6 rfl) hf hd).mpr hdvd, (hp.layerQ4_iff hq4 (hmem 7 rfl) hf hd).mpr hdvd,
      (hp.layerQ4_iff hq4 (hmem 8 rfl) hd hf).mpr hdvd', trivial⟩

/-- **The q4 validation** comes down to the head dimension and the group size. -/
theorem validateDecoderQ4_iff (hv : ValidConfig att1) (hq4 : format = .q4) :
    viewValidateDecoderQ4 m = .ok () ↔ headDim att1 % 2 = 0 ∧ 32 ∣ att1.dModel ∧ 32 ∣ att1.dFf := by
  have houtput : (∃ out, viewTensorQ4 m (ascii "output.weight") m.config.vocabSize m.config.dModel = .ok out) ↔
      32 ∣ att1.dModel := by
    rw [hp.config]
    exact hp.viewQ4_iff hq4 (by simp [tensorNamePlan, Att1Dict.config]) (by decide) hv.vocabSize hv.dModel
  have hlayers : (∃ us, (List.range m.config.nLayers).mapM (validateLayerQ4 m) = .ok us) ↔
      32 ∣ att1.dModel ∧ 32 ∣ att1.dFf := by
    have hcount : m.config.nLayers = att1.nLayers := by
      rw [hp.config]
      rfl
    have hpos := Nat.pos_of_ne_zero hv.nLayers
    simp only [mapM_eq_ok, exists_forall₂_iff, List.mem_range, hcount]
    constructor
    · intro h
      exact (hp.validateLayerQ4_iff hv hq4 hpos).mp (h 0 hpos)
    · intro h layer hlayer
      exact (hp.validateLayerQ4_iff hv hq4 hlayer).mpr h
  unfold viewValidateDecoderQ4
  rw [rejectIf_bind_eq_ok, hp.configBad_iff hv, not_not]
  simp only [bind_eq_ok, exists_and_right, hp.viewTokenEmbedding, hp.viewOutputNorm, houtput, hlayers, true_and,
    and_true, and_congr_right_iff]
  tauto

end Planned

/-! ### The emitted files -/

/-- The C validation for the weight format of a file. -/
def viewValidate (format : WeightFormat) (m : Model) : Except Status Unit :=
  match format with
  | .q4 => viewValidateDecoderQ4 m
  | _ => viewValidateDecoder m

/-- What a config has to satisfy for its file to run. -/
def Runnable (att1 : Att1Dict) (format : WeightFormat) (emitShardMeta : Bool) : Prop :=
  headDim att1 % 2 = 0 ∧ (format = .q4 → emitShardMeta = false ∧ 32 ∣ att1.dModel ∧ 32 ∣ att1.dFf)

theorem Planned.viewValidate_iff {m : Model} {att1 : Att1Dict} {format : WeightFormat} (hp : Planned m att1 format)
    (hv : ValidConfig att1) : viewValidate format m = .ok () ↔
      headDim att1 % 2 = 0 ∧ (format = .q4 → 32 ∣ att1.dModel ∧ 32 ∣ att1.dFf) := by
  by_cases h : format = .q4
  · have hq4 := hp.validateDecoderQ4_iff hv h
    subst h
    show viewValidateDecoderQ4 m = .ok () ↔ _
    simpa using hq4
  · have hf32 := hp.validateDecoder_iff hv h
    have hvalidate : viewValidate format m = viewValidateDecoder m := by
      cases format with
      | q4 => exact absurd rfl h
      | _ => rfl
    rw [hvalidate, hf32]
    simp [h]

section Emitted

variable {F : Type} {ops : Floats F} {att1 : Att1Dict} {source : TensorSource F} {tensors : List PyTensor}
  {emitShardMeta : Bool} {descs : List (List UInt8)} {shardBlob bytes : List UInt8}

/-- Every tensor has the dtype of the format. -/
theorem Built.dtype_of_mem (hb : Built att1 tensors emitShardMeta descs shardBlob bytes)
    (htensors : buildTensors ops att1 source = .ok tensors) {t : PyTensor} (ht : t ∈ tensors) :
    DefaultForm t ∧ ∃ entry ∈ tensorNamePlan att1, t.dtype = plannedDtype source.format entry.1 entry.2 := by
  obtain ⟨i, hi⟩ := List.mem_iff_getElem?.mp ht
  obtain ⟨entry, hmem, hentry, -⟩ := hb.exists_entry hi
  obtain ⟨u, hu, hdtype, hform⟩ := buildTensors_getElem? htensors hentry
  rw [hi, Option.some.injEq] at hu
  subst hu
  exact ⟨hform, entry, hmem, hdtype⟩

/-- A file of another format has no q4 tensor. -/
theorem Built.noQ4 (hb : Built att1 tensors emitShardMeta descs shardBlob bytes)
    (htensors : buildTensors ops att1 source = .ok tensors) (hformat : source.format ≠ .q4) {t : PyTensor}
    (ht : t ∈ tensors) : t.dtype ≠ dtypeQ4 := by
  obtain ⟨-, entry, -, hdtype⟩ := hb.dtype_of_mem htensors ht
  rw [hdtype]
  exact plannedDtype_ne_q4 hformat _ _

/-- A q4 file has a q4 tensor, unless the model dimension is not made of whole groups. -/
theorem exists_q4 (htensors : buildTensors ops att1 source = .ok tensors) (hv : ValidConfig att1)
    (hdvd : 32 ∣ att1.dModel) (hq4 : source.format = .q4) : ∃ t ∈ tensors, t.dtype = dtypeQ4 := by
  have hmem : (ascii "output.weight", [att1.dModel, att1.vocabSize]) ∈ tensorNamePlan att1 := by simp [tensorNamePlan]
  have hname : ascii "output.weight" ≠ ascii "tok_embeddings.weight" := by decide
  obtain ⟨i, hi⟩ := List.mem_iff_getElem?.mp hmem
  obtain ⟨t, ht, hdtype, -⟩ := buildTensors_getElem? htensors hi
  rw [hq4] at hdtype
  exact ⟨t, List.mem_of_getElem? ht, hdtype.trans ((plannedDtype_q4_iff hname hv.dModel).mpr hdvd)⟩

theorem Built.planned (hb : Built att1 tensors emitShardMeta descs shardBlob bytes)
    (htensors : buildTensors ops att1 source = .ok tensors) (records : List ShardMetaRecord) :
    Planned (loadedModel att1 tensors bytes records) att1 source.format := by
  refine ⟨rfl, fun name shape h => ?_, fun hformat t' ht' => ?_⟩
  · obtain ⟨i, hi⟩ := List.mem_iff_getElem?.mp h
    obtain ⟨t, ht, hdtype, -⟩ := buildTensors_getElem? htensors hi
    have hc := hb.checked i _ t hi ht
    have hfind : findTensor (loadedModel att1 tensors bytes records) t.name = _ := hb.findTensor_eq ht
    have hshort := hb.name_short ht
    rw [hc.name] at hfind hshort
    rw [← hdtype, ← hc.shape]
    exact ⟨hshort, _, hfind, rfl, rfl, fun _ => rfl⟩
  · obtain ⟨i, hi⟩ := List.mem_iff_getElem?.mp ht'
    obtain ⟨t, ht, rfl⟩ := getElem?_of_loadedTensors hi
    exact hb.noQ4 htensors hformat (List.mem_of_getElem? ht)

/-- An accepted descriptor is loaded as the tensor that was encoded. -/
theorem Built.tensor_eq (hb : Built att1 tensors emitShardMeta descs shardBlob bytes) {i : ℕ} {t : PyTensor}
    {t' : ModelTensor} (hi : tensors[i]? = some t) (hok : TensorOk bytes (headerFields bytes) i t') :
    t' = loadedTensor tensors.length t (blockStart (payloads tensors) i) := by
  have hread := hok.read
  have hdata := hok.data_eq
  rw [hb.headerFields_eq] at hread hdata
  have hparsed : { t' with data := none } = parsedTensor t (blockStart (payloads tensors) i) :=
    hread.trans (hb.parseTensor_eq hi)
  have hoffset : t'.offset = blockStart (payloads tensors) i := congrArg ModelTensor.offset hparsed
  rw [hoffset] at hdata
  calc t' = { ({ t' with data := none } : ModelTensor) with data := t'.data } := rfl
    _ = loadedTensor tensors.length t (blockStart (payloads tensors) i) := by
      rw [hparsed, hdata]
      rfl

/-- A loaded model has the tensors that were encoded. -/
theorem Built.tensors_eq (hb : Built att1 tensors emitShardMeta descs shardBlob bytes) {host : Host} {m : Model}
    (hl : Loaded host bytes m) : m.tensors = loadedTensors tensors := by
  have hlength : m.tensors.length = tensors.length := by
    rw [hl.length, hb.headerFields_eq]
    rfl
  refine List.ext_getElem (hlength.trans List.length_mapIdx.symm) fun i h₁ h₂ => ?_
  have hi : tensors[i]? = some tensors[i] := List.getElem?_eq_getElem (hlength ▸ h₁)
  have hget := getElem?_loadedTensors hi
  rw [List.getElem?_eq_getElem h₂, Option.some.injEq] at hget
  rw [hget]
  exact hb.tensor_eq hi (hl.tensors i _ (List.getElem?_eq_getElem h₁))

/-- A runnable file is loaded and validated. -/
theorem Built.runs (hb : Built att1 tensors emitShardMeta descs shardBlob bytes)
    (htensors : buildTensors ops att1 source = .ok tensors) (hv : ValidConfig att1) {host : Host}
    (hmalloc : host.malloc bytes.length = true) (hcalloc : host.calloc tensors.length modelTensorSize = true)
    (hrecords : host.calloc tensors.length shardMetaRecordSize = true) (hr : Runnable att1 source.format emitShardMeta) :
    (load host (some bytes)).status = .ok ∧ viewValidate source.format (load host (some bytes)).model = .ok () := by
  obtain ⟨heven, hq4⟩ := hr
  have hform : ∀ t ∈ tensors, DefaultForm t := fun t ht => (hb.dtype_of_mem htensors ht).1
  have hmeta : ∃ records, loadShardMeta host bytes (headerFields bytes) (loadedTensors tensors) = .ok records := by
    refine (hb.loadShardMeta_iff hform hrecords).mpr ?_
    by_cases h : source.format = .q4
    · exact .inl (hq4 h).1
    · exact .inr fun t ht => hb.noQ4 htensors h ht
  obtain ⟨records, hmeta⟩ := hmeta
  obtain ⟨live, hload⟩ := load_of_loaded (hb.loaded hv.nonzeroDims hform hmalloc hcalloc hmeta)
  rw [hload]
  exact ⟨rfl, ((hb.planned htensors _).viewValidate_iff hv).mpr ⟨heven, fun h => (hq4 h).2⟩⟩

/-- **Which emitted files run**: all but those with an odd head dimension, and of the q4 files only those without
shard metadata whose model and hidden dimensions are whole groups. -/
theorem emitted_runs_iff {F : Type} (ops : Floats F) (host : Host) {att1 : Att1Dict} {source : TensorSource F}
    {tensors : List PyTensor} {emitShardMeta : Bool} {bytes : List UInt8}
    (hvalid : validateAtt1Config att1 = some []) (htensors : buildTensors ops att1 source = .ok tensors)
    (hbuild : buildAtt1BytesFromTensors att1 tensors emitShardMeta = .ok bytes)
    (hmalloc : host.malloc bytes.length = true) (hcalloc : host.calloc tensors.length modelTensorSize = true)
    (hrecords : host.calloc tensors.length shardMetaRecordSize = true) :
    ((load host (some bytes)).status = .ok ∧
      viewValidate source.format (load host (some bytes)).model = .ok ()) ↔
      Runnable att1 source.format emitShardMeta := by
  obtain ⟨descs, shardBlob, hb⟩ := built_of_build hbuild
  have hv := validConfig_of_validate hvalid
  have hform : ∀ t ∈ tensors, DefaultForm t := fun t ht => (hb.dtype_of_mem htensors ht).1
  have hshard := hb.loadShardMeta_iff hform hrecords
  unfold Runnable
  constructor
  · rintro ⟨hok, hvalidate⟩
    have hl := loaded_of_ok hok
    have hmeta := hl.shardMeta
    rw [hb.tensors_eq hl] at hmeta
    obtain ⟨live, hload⟩ := load_of_loaded (hb.loaded hv.nonzeroDims hform hmalloc hcalloc hmeta)
    rw [hload] at hvalidate
    obtain ⟨heven, hgroups⟩ := ((hb.planned htensors _).viewValidate_iff hv).mp hvalidate
    refine ⟨heven, fun hq4 => ⟨?_, hgroups hq4⟩⟩
    obtain hemit | hnoQ4 := hshard.mp ⟨_, hmeta⟩
    · exact hemit
    · obtain ⟨t, ht, hdtype⟩ := exists_q4 htensors hv (hgroups hq4).1 hq4
      exact absurd hdtype (hnoQ4 t ht)
  · exact fun hr => hb.runs htensors hv hmalloc hcalloc hrecords hr

end Emitted

/-! ### Samples -/

/-- Values for every tensor of a config, all of them 0. -/
def sampleValues (att1 : Att1Dict) (i : ℕ) : List Bool :=
  List.replicate (((tensorNamePlan att1).map fun entry => entry.2.prod).getD i 0) false

/-- The file of a config, as `emit_att1` builds it from the values 0. -/
def sampleFile (att1 : Att1Dict) (format : WeightFormat) (emitShardMeta : Bool) : Option (List PyTensor × List UInt8) :=
  (buildTensors sampleFloats att1 (.real format (sampleValues att1))).toOption.bind fun tensors =>
    (buildAtt1BytesFromTensors att1 tensors emitShardMeta).toOption.map fun bytes => (tensors, bytes)

theorem sampleFile_eq_some {att1 : Att1Dict} {format : WeightFormat} {emitShardMeta : Bool} {tensors : List PyTensor}
    {bytes : List UInt8} (h : sampleFile att1 format emitShardMeta = some (tensors, bytes)) :
    buildTensors sampleFloats att1 (.real format (sampleValues att1)) = .ok tensors ∧
      buildAtt1BytesFromTensors att1 tensors emitShardMeta = .ok bytes := by
  obtain ⟨tensors', htensors, h⟩ := Option.bind_eq_some_iff.mp h
  obtain ⟨bytes', hbytes, h⟩ := Option.map_eq_some_iff.mp h
  cases h
  exact ⟨toOption_eq_some.mp htensors, toOption_eq_some.mp hbytes⟩

/-- An f32 file with shard metadata and the head dimension 2 runs. -/
theorem emitted_runs_sampleFile : ∃ tensors bytes, sampleFile (sampleConfig 1 2 1) .f32 true = some (tensors, bytes) ∧
    (load Host.generous (some bytes)).status = .ok ∧
    viewValidate .f32 (load Host.generous (some bytes)).model = .ok () := by
  have hfile : (sampleFile (sampleConfig 1 2 1) .f32 true).isSome = true := by decide +kernel
  obtain ⟨⟨tensors, bytes⟩, hsome⟩ := Option.isSome_iff_exists.mp hfile
  obtain ⟨htensors, hbuild⟩ := sampleFile_eq_some hsome
  obtain ⟨descs, shardBlob, hb⟩ := built_of_build hbuild
  have hcount : tensors.length = 12 := hb.count
  have hmalloc : Host.generous.malloc bytes.length = true := Host.generous_malloc (hb.size.trans (by decide))
  refine ⟨tensors, bytes, hsome, (emitted_runs_iff sampleFloats Host.generous (by decide) htensors hbuild hmalloc ?_ ?_).mpr
    ⟨by decide, fun h => by cases h⟩⟩
  · rw [hcount]
    decide
  · rw [hcount]
    decide

/-- A q4 file with shard metadata is not loaded: the converter writes records with dtype 3, which the parser refuses. -/
theorem emitted_q4_shard_meta_refused : validateAtt1Config (sampleConfig 1 2 32) = some [] ∧
    ∃ tensors bytes, sampleFile (sampleConfig 1 2 32) .q4 true = some (tensors, bytes) ∧
      (load Host.generous (some bytes)).status = .badFormat := by
  have hstatus : (sampleFile (sampleConfig 1 2 32) .q4 true).map
      (fun file => (load Host.generous (some file.2)).status) = some .badFormat := by decide +kernel
  obtain ⟨⟨tensors, bytes⟩, hfile, hload⟩ := Option.map_eq_some_iff.mp hstatus
  exact ⟨by decide, tensors, bytes, hfile, hload⟩

end Att1.Converter
