import Att1.Converter.Names
import Att1.Lib.Table
import Att1.Safetensors.Load

/-!
# Att1.Compare.Source — the source weights of the comparison harness (`compiler/compare_att1_to_source.py`)

* `acceptConfig`: what `run_harness` makes of a source config.
* `buildPlan`: the tensors, with the shapes in the source and in the model.
* `loadSourceWeightsNumpy`: the source weights as arrays of the model's layout.
* `loads_iff`: the arrays of a file with the planned tensors are made unless a projection has fewer heads.
-/

open Att1.Lib Att1.Converter Att1.Safetensors

namespace Att1.Compare

/-! ### Exceptions -/

/-- The exceptions of the harness that are modelled. -/
inductive Exc
  | keyError
  | valueError
  | osError
  | structError
  | indexError
  | zeroDivisionError
  | attributeError
  deriving DecidableEq, Repr

/-! ### The config -/

/-- The fields of `config.json` that decide shapes; `none` where one is missing. -/
structure SourceConfig where
  numAttentionHeads : Option ℤ
  numKeyValueHeads : Option ℤ
  vocabSize : Option ℤ
  numHiddenLayers : Option ℤ
  hiddenSize : Option ℤ
  intermediateSize : Option ℤ
  deriving DecidableEq, Repr

/-- `att1_cfg`. -/
structure Att1Cfg where
  vocabSize : ℤ
  nLayers : ℤ
  nHeads : ℤ
  nKvHeads : ℤ
  dModel : ℤ
  dFf : ℤ
  deriving DecidableEq, Repr

/-- Why `run_harness` does not go on. -/
inductive Refusal
  | missingKey
  | zeroDivision
  | hiddenSize
  | kvHeads
  deriving DecidableEq, Repr

/-- The checks of the config in `run_harness`. -/
def acceptConfig (source : SourceConfig) : Except Refusal Att1Cfg := do
  let nHeads ← orFail source.numAttentionHeads .missingKey
  let nKvHeads := source.numKeyValueHeads.getD nHeads
  let vocabSize ← orFail source.vocabSize .missingKey
  let nLayers ← orFail source.numHiddenLayers .missingKey
  let dModel ← orFail source.hiddenSize .missingKey
  let dFf ← orFail source.intermediateSize .missingKey
  -- the quotient for `rope_dim`
  rejectIf (nHeads = 0) .zeroDivision
  rejectIf (dModel.fmod nHeads ≠ 0) .hiddenSize
  rejectIf (nKvHeads = 0) .zeroDivision
  rejectIf (nHeads.fmod nKvHeads ≠ 0) .kvHeads
  .ok ⟨vocabSize, nLayers, nHeads, nKvHeads, dModel, dFf⟩

namespace Att1Cfg

variable (cfg : Att1Cfg)

/-- `d_head`. -/
def dHead : ℤ := cfg.dModel.fdiv cfg.nHeads

/-- `kv_dim`. -/
def kvDim : ℤ := cfg.nKvHeads * cfg.dHead

end Att1Cfg

/-! ### The plan -/

/-- An item of `_build_plan`. -/
structure PlanItem where
  source : List UInt8
  target : List UInt8
  sourceShape : List ℤ
  targetShape : List ℤ
  transpose : Bool
  gqaExpand : Bool := false
  deriving DecidableEq, Repr

/-- The prefix `model.layers.<layer>`. -/
def sourcePrefix (layer : ℕ) : List UInt8 := ascii "model.layers." ++ decimal layer

/-- A matrix that is stored transposed. -/
def matrixItem (source target : List UInt8) (rows cols : ℤ) : PlanItem :=
  { source, target, sourceShape := [rows, cols], targetShape := [cols, rows], transpose := true }

/-- A vector. -/
def vectorItem (source target : List UInt8) (n : ℤ) : PlanItem :=
  { source, target, sourceShape := [n], targetShape := [n], transpose := false }

/-- A projection to the key/value heads. -/
def kvItem (cfg : Att1Cfg) (source target : List UInt8) : PlanItem :=
  { source, target, sourceShape := [cfg.kvDim, cfg.dModel], targetShape := [cfg.dModel, cfg.dModel], transpose := true,
    gqaExpand := cfg.nKvHeads ≠ cfg.nHeads }

/-- The items of one layer. -/
def layerItems (cfg : Att1Cfg) (layer : ℕ) : List PlanItem :=
  let src := sourcePrefix layer
  let dst := layerPrefix layer
  let d := cfg.dModel
  let ff := cfg.dFf
  [vectorItem (src ++ ascii ".input_layernorm.weight") (dst ++ ascii ".attention_norm.weight") d,
   matrixItem (src ++ ascii ".self_attn.q_proj.weight") (dst ++ ascii ".attention.wq.weight") d d,
   kvItem cfg (src ++ ascii ".self_attn.k_proj.weight") (dst ++ ascii ".attention.wk.weight"),
   kvItem cfg (src ++ ascii ".self_attn.v_proj.weight") (dst ++ ascii ".attention.wv.weight"),
   matrixItem (src ++ ascii ".self_attn.o_proj.weight") (dst ++ ascii ".attention.wo.weight") d d,
   vectorItem (src ++ ascii ".post_attention_layernorm.weight") (dst ++ ascii ".ffn_norm.weight") d,
   matrixItem (src ++ ascii ".mlp.gate_proj.weight") (dst ++ ascii ".ffn.w_gate.weight") ff d,
   matrixItem (src ++ ascii ".mlp.up_proj.weight") (dst ++ ascii ".ffn.w_up.weight") ff d,
   matrixItem (src ++ ascii ".mlp.down_proj.weight") (dst ++ ascii ".ffn.w_down.weight") d ff]

def embedSource : List UInt8 := ascii "model.embed_tokens.weight"

def lmHeadSource : List UInt8 := ascii "lm_head.weight"

/-- `_build_plan`. -/
def buildPlan (cfg : Att1Cfg) : List PlanItem :=
  { source := embedSource, target := ascii "tok_embeddings.weight", sourceShape := [cfg.vocabSize, cfg.dModel],
    targetShape := [cfg.vocabSize, cfg.dModel], transpose := false } ::
    ((List.range cfg.nLayers.toNat).flatMap (layerItems cfg) ++
      [vectorItem (ascii "model.norm.weight") (ascii "output_norm.weight") cfg.dModel,
       matrixItem lmHeadSource (ascii "output.weight") cfg.vocabSize cfg.dModel])

/-! ### Source tensors -/

/-- The entry of a tensor in the header. -/
structure StEntry where
  dtype : String
  shape : List ℤ
  first : ℤ
  last : ℤ
  deriving DecidableEq, Repr

/-- A safetensors file whose header has been read: `header` and `dataOffset` are what `_load_safetensors_header`
returns. -/
structure SourceFile where
  header : List (List UInt8 × StEntry)
  dataOffset : ℕ
  bytes : List UInt8

/-- `_load_st_tensor`. -/
def loadStTensor (file : SourceFile) (name : List UInt8) : Except Exc (List PyFloat) := do
  let t ← orFail (file.header.lookup name) .keyError
  let nbytes := t.last - t.first
  let raw ← (seekRead file.bytes (file.dataOffset + t.first) nbytes).mapError fun e =>
    if e = .osError then Exc.osError else .valueError
  if t.dtype = "F32" then (unpackF32 nbytes raw).mapError fun _ => .structError
  else if t.dtype = "BF16" then .ok (coerceBf16 raw)
  else if t.dtype = "F16" then .ok (coerceF16 raw)
  else .error .valueError

/-- The values of an item; an `lm_head` that is absent shares those of the embedding. -/
def loadItem (file : SourceFile) (item : PlanItem) : Except Exc (List PyFloat) :=
  match loadStTensor file item.source with
  | .error .keyError => if item.source ≠ lmHeadSource then .error .keyError else loadStTensor file embedSource
  | result => result

section Transpose

variable {F : Type} [Zero F]

/-- The body of the loops of `_transpose_2d`. -/
def transposeTurn (values : List F) (rows cols r : ℕ) (result : List F) (c : ℕ) : Except Exc (List F) := do
  let value ← orFail values[r * cols + c]? .indexError
  .ok (result.set (c * rows + r) value)

/-- `_transpose_2d`. -/
def transposed (values : List F) (rows cols : ℤ) : Except Exc (List F) :=
  (List.range rows.toNat).foldlM (fun result r =>
    (List.range cols.toNat).foldlM (transposeTurn values rows.toNat cols.toNat r) result)
    (List.replicate (rows * cols).toNat 0)

end Transpose

/-! ### Arrays -/

/-- A numpy array. -/
structure NdArray (F : Type) where
  shape : List ℕ
  data : List F

/-- `np.array(values).reshape(shape)`; a dimension of -1 is found from the others. -/
def reshape {F : Type} (values : List F) (shape : List ℤ) : Except Exc (NdArray F) :=
  let known := ((shape.filter (· ≠ -1)).map Int.toNat).prod
  if shape.any (· < -1) ∨ 1 < shape.count (-1) then .error .valueError
  else if -1 ∉ shape then
    if known = values.length then .ok ⟨shape.map Int.toNat, values⟩ else .error .valueError
  else if known ≠ 0 ∧ known ∣ values.length then
    .ok ⟨shape.map fun dim => if dim = -1 then values.length / known else dim.toNat, values⟩
  else .error .valueError

instance : Zero PyFloat := ⟨.finite 0⟩

/-- One turn of the loop of `_load_source_weights_numpy`.  The values of the three dtypes are float32 numbers. -/
def loadArray (file : SourceFile) (item : PlanItem) : Except Exc (NdArray PyFloat) := do
  let values ← loadItem file item
  let values ←
    if item.transpose then
      match item.sourceShape with
      | [rows, cols] => transposed values rows cols
      | _ => .error .valueError
    else .ok values
  reshape values item.targetShape

/-- `_load_source_weights_numpy`: the arrays under their names, which are distinct. -/
def loadSourceWeightsNumpy (file : SourceFile) (cfg : Att1Cfg) : Except Exc (List (List UInt8 × NdArray PyFloat)) :=
  (buildPlan cfg).mapM fun item => do
    let array ← loadArray file item
    .ok (item.target, array)

/-! ### The transposition -/

section Transpose

variable {F : Type}

/-- A loop that writes `f p` to the cells `p` of some places. -/
theorem getElem?_foldl_set {places : List ℕ} {cells : List F} (f : ℕ → F) (k : ℕ) :
    (places.foldl (fun cells p => cells.set p (f p)) cells)[k]? =
      if k ∈ places ∧ k < cells.length then some (f k) else cells[k]? := by
  induction places generalizing cells with
  | nil => simp
  | cons p places ih =>
    rw [List.foldl_cons, ih, List.length_set, List.getElem?_set]
    by_cases hlt : k < cells.length
    · by_cases hk : k ∈ places
      · rw [if_pos ⟨hk, hlt⟩, if_pos ⟨List.mem_cons_of_mem _ hk, hlt⟩]
      · rw [if_neg fun h => hk h.1]
        by_cases hp : p = k
        · subst hp
          rw [if_pos rfl, if_pos hlt, if_pos ⟨List.mem_cons_self, hlt⟩]
        · rw [if_neg hp, if_neg fun h => (List.mem_cons.mp h.1).elim (fun h => hp h.symm) hk]
    · rw [if_neg fun h : k ∈ places ∧ k < cells.length => hlt h.2,
        if_neg fun h : k ∈ p :: places ∧ k < cells.length => hlt h.2]
      have hnone : cells[k]? = none := List.getElem?_eq_none (Nat.le_of_not_lt hlt)
      by_cases hp : p = k
      · subst hp
        rw [if_pos rfl, if_neg hlt, hnone]
      · rw [if_neg hp]

variable [Zero F]

/-- The transposition of a matrix with all its values. -/
theorem transposed_eq {values : List F} {m n : ℕ} (hlen : values.length = m * n) :
    transposed values m n = .ok ((List.range (n * m)).map fun k => values.getD (k % m * n + k / m) 0) := by
  let cell (k : ℕ) : F := values.getD (k % m * n + k / m) 0
  have hturn : ∀ r ∈ List.range m, ∀ c ∈ List.range n, ∀ result : List F,
      transposeTurn values m n r result c = .ok (result.set (c * m + r) (cell (c * m + r))) := by
    intro r hr c hc result
    have hr := List.mem_range.mp hr
    have hc := List.mem_range.mp hc
    have hlt : r * n + c < values.length := hlen ▸ block_lt hr hc
    refine orFail_bind_eq_ok.mpr ⟨_, List.getElem?_eq_getElem hlt, ?_⟩
    show _ = Except.ok (result.set _ (values.getD _ 0))
    rw [block_mod hr, block_div hr, List.getD_eq_getElem?_getD, List.getElem?_eq_getElem hlt, Option.getD_some]
  unfold transposed
  have hsize : ((m : ℤ) * n).toNat = n * m := by
    rw [← Int.natCast_mul, Int.toNat_natCast, Nat.mul_comm]
  rw [Int.toNat_natCast, Int.toNat_natCast, hsize,
    foldlM_eq_ok_foldl fun r hr result => foldlM_eq_ok_foldl (hturn r hr) result]
  refine congrArg Except.ok ?_
  have hplaces : (List.range m).foldl (fun result r =>
      (List.range n).foldl (fun result c => result.set (c * m + r) (cell (c * m + r))) result)
        (List.replicate (n * m) 0) =
      ((List.range m).flatMap fun r => (List.range n).map fun c => c * m + r).foldl
        (fun result p => result.set p (cell p)) (List.replicate (n * m) 0) := by
    rw [List.foldl_flatMap]
    simp only [List.foldl_map]
  rw [hplaces]
  refine List.ext_getElem? fun k => ?_
  rw [getElem?_foldl_set, List.length_replicate, List.getElem?_map]
  by_cases hk : k < n * m
  · -- every cell is written: `k` is row `k / m` of the transpose
    have hmem : k ∈ (List.range m).flatMap fun r => (List.range n).map fun c => c * m + r := by
      refine List.mem_flatMap.mpr ⟨k % m, List.mem_range.mpr (mod_lt_of_lt_mul hk), ?_⟩
      exact List.mem_map.mpr ⟨k / m, List.mem_range.mpr (div_lt_of_lt_mul hk), Nat.div_add_mod' k m⟩
    rw [if_pos ⟨hmem, hk⟩, List.getElem?_range hk]
    rfl
  · rw [if_neg fun h => hk h.2, List.getElem?_eq_none (by rw [List.length_replicate]; omega),
      List.getElem?_eq_none (by rw [List.length_range]; omega)]
    rfl

end Transpose

/-! ### The planned tensors -/

variable {file : SourceFile} {cfg : Att1Cfg} {item : PlanItem} {name : List UInt8} {shape : List ℤ}
  {values : List PyFloat}

/-- The file has the tensor in a shape, in one of the dtypes that are read, with all its bytes. -/
structure HasTensor (file : SourceFile) (name : List UInt8) (shape : List ℤ) (e : StEntry) : Prop where
  found : file.header.lookup name = some e
  shape_eq : e.shape = shape
  dims : ∀ dim ∈ shape, 0 ≤ dim
  dtype : e.dtype ∈ readableDtypes
  first : 0 ≤ e.first
  size : e.last - e.first = shape.prod * elementSize e.dtype
  inside : file.dataOffset + e.last ≤ file.bytes.length

/-- The file has every planned tensor in its source shape; an `lm_head` may be absent. -/
def Planned (file : SourceFile) (cfg : Att1Cfg) : Prop :=
  ∀ item ∈ buildPlan cfg, (∃ e, HasTensor file item.source item.sourceShape e) ∨
    item.source = lmHeadSource ∧ file.header.lookup lmHeadSource = none

theorem prod_nonneg {shape : List ℤ} (h : ∀ dim ∈ shape, 0 ≤ dim) : shape.prod = ((shape.map Int.toNat).prod : ℕ) := by
  induction shape with
  | nil => rfl
  | cons dim shape ih =>
    obtain ⟨hdim, hdims⟩ := List.forall_mem_cons.mp h
    rw [List.prod_cons, List.map_cons, List.prod_cons, Nat.cast_mul, ← ih hdims, Int.toNat_of_nonneg hdim]

/-- A tensor of the file is read, with a value for each element. -/
theorem loadStTensor_of_hasTensor {e : StEntry} (h : HasTensor file name shape e) :
    ∃ values, loadStTensor file name = .ok values ∧ values.length = (shape.map Int.toNat).prod := by
  set n := (shape.map Int.toNat).prod with hn
  have hprod := prod_nonneg h.dims
  rw [← hn] at hprod
  have hsize := h.size
  rw [hprod] at hsize
  have hfirst := h.first
  have hinside := h.inside
  set w := elementSize e.dtype with hw
  have hbytes : e.last - e.first = ((n * w : ℕ) : ℤ) := by rw [hsize, Nat.cast_mul]
  have hoffset : (file.dataOffset : ℤ) + e.first = ((file.dataOffset + e.first.toNat : ℕ) : ℤ) := by omega
  set raw := slice file.bytes (file.dataOffset + e.first.toNat) (n * w) with hraw
  have hlen : raw.length = n * w := length_slice (by omega)
  have hread : seekRead file.bytes (file.dataOffset + e.first) (e.last - e.first) = .ok raw := by
    unfold seekRead
    rw [hbytes, hoffset, if_neg (by omega), if_neg (by omega), if_neg (by omega), Int.toNat_natCast, Int.toNat_natCast]
  unfold loadStTensor
  rw [h.found]
  simp only [orFail, Option.elim_some, bind, Except.bind, hread, Except.mapError]
  have hdtype := h.dtype
  simp only [readableDtypes, List.mem_cons, List.not_mem_nil, or_false] at hdtype
  rcases hdtype with hd | hd | hd
  · have hw : w = 4 := by rw [hw, hd]; rfl
    rw [if_pos hd, hbytes, ← hlen, unpackF32_eq, if_pos ⟨n, by rw [hlen, hw, Nat.mul_comm]⟩]
    refine ⟨_, rfl, ?_⟩
    unfold elementsOf
    rw [List.length_map, List.length_range, hlen, hw]
    exact Nat.mul_div_cancel n (by decide)
  · have hw : w = 2 := by rw [hw, hd]; rfl
    rw [if_neg (by rw [hd]; decide), if_pos hd]
    refine ⟨_, rfl, ?_⟩
    unfold coerceBf16
    rw [List.length_map, List.length_range, hlen, hw]
    exact Nat.mul_div_cancel n (by decide)
  · have hw : w = 2 := by rw [hw, hd]; rfl
    rw [if_neg (by rw [hd]; decide), if_neg (by rw [hd]; decide), if_pos hd]
    refine ⟨_, rfl, ?_⟩
    unfold coerceF16
    rw [List.length_map, List.length_range, hlen, hw]
    exact Nat.mul_div_cancel n (by decide)

theorem mem_buildPlan (hitem : item ∈ buildPlan cfg) :
    (item.source = embedSource ∧ item.sourceShape = [cfg.vocabSize, cfg.dModel] ∧
        item.targetShape = [cfg.vocabSize, cfg.dModel] ∧ item.transpose = false) ∨
      (∃ layer < cfg.nLayers.toNat, item ∈ layerItems cfg layer) ∨
      item = vectorItem (ascii "model.norm.weight") (ascii "output_norm.weight") cfg.dModel ∨
      item = matrixItem lmHeadSource (ascii "output.weight") cfg.vocabSize cfg.dModel := by
  rcases List.mem_cons.mp hitem with rfl | hitem
  · exact Or.inl ⟨rfl, rfl, rfl, rfl⟩
  rcases List.mem_append.mp hitem with hitem | hitem
  · obtain ⟨layer, hlayer, hitem⟩ := List.mem_flatMap.mp hitem
    exact Or.inr (Or.inl ⟨layer, List.mem_range.mp hlayer, hitem⟩)
  · simp only [List.mem_cons, List.not_mem_nil, or_false] at hitem
    exact Or.inr (Or.inr hitem)

/-- The sources of a layer start with `model`. -/
theorem head?_of_mem_layerItems {layer : ℕ} (hitem : item ∈ layerItems cfg layer) : item.source.head? = some 0x6d := by
  simp only [layerItems, List.mem_cons, List.not_mem_nil, or_false] at hitem
  rcases hitem with rfl | rfl | rfl | rfl | rfl | rfl | rfl | rfl | rfl <;> rfl

theorem shape_of_lmHead (hitem : item ∈ buildPlan cfg) (hsource : item.source = lmHeadSource) :
    item.sourceShape = [cfg.vocabSize, cfg.dModel] := by
  rcases mem_buildPlan hitem with ⟨-, hshape, -⟩ | ⟨layer, -, hlayer⟩ | rfl | rfl
  · exact hshape
  · have hhead := head?_of_mem_layerItems hlayer
    rw [hsource] at hhead
    exact absurd hhead (by decide)
  · exact absurd (show ascii "model.norm.weight" = lmHeadSource from hsource) (by decide)
  · rfl

/-- A planned item is loaded, with a value for each element of its source shape. -/
theorem loadItem_of_planned (h : Planned file cfg) (hitem : item ∈ buildPlan cfg) :
    (∀ dim ∈ item.sourceShape, 0 ≤ dim) ∧
      ∃ values, loadItem file item = .ok values ∧ values.length = (item.sourceShape.map Int.toNat).prod := by
  rcases h item hitem with ⟨e, htensor⟩ | ⟨hsource, habsent⟩
  · obtain ⟨values, hload, hlen⟩ := loadStTensor_of_hasTensor htensor
    refine ⟨htensor.dims, values, ?_, hlen⟩
    unfold loadItem
    rw [hload]
  · -- the embedding stands in
    rw [shape_of_lmHead hitem hsource]
    rcases h _ List.mem_cons_self with ⟨e, htensor⟩ | ⟨hembed, -⟩
    · obtain ⟨values, hload, hlen⟩ := loadStTensor_of_hasTensor htensor
      refine ⟨htensor.dims, values, ?_, hlen⟩
      have hmissing : loadStTensor file item.source = .error .keyError := by
        unfold loadStTensor
        rw [hsource, habsent]
        rfl
      unfold loadItem
      rw [hmissing]
      simp only [hsource, ne_eq, not_true_eq_false, if_false]
      exact hload
    · exact absurd (show embedSource = lmHeadSource from hembed) (by decide)

theorem reshape_of_nonneg {F : Type} {values : List F} {shape : List ℤ} (h : ∀ dim ∈ shape, 0 ≤ dim) :
    reshape values shape =
      if (shape.map Int.toNat).prod = values.length then .ok ⟨shape.map Int.toNat, values⟩ else .error .valueError := by
  have hone : -1 ∉ shape := fun hmem => absurd (h _ hmem) (by decide)
  have hsmall : ¬ (shape.any (· < -1) ∨ 1 < shape.count (-1)) := by
    rw [List.count_eq_zero_of_not_mem hone, List.any_eq_true]
    rintro (⟨dim, hdim, hlt⟩ | h0)
    · have hnonneg := h dim hdim
      have hneg := of_decide_eq_true hlt
      omega
    · exact absurd h0 (by decide)
  have hfilter : shape.filter (· ≠ -1) = shape :=
    List.filter_eq_self.mpr fun dim hdim => decide_eq_true (ne_of_mem_of_not_mem hdim hone)
  unfold reshape
  simp only [hfilter]
  rw [if_neg hsmall, if_pos hone]

/-- The items of a plan: vectors and the embedding keep their shape, a matrix swaps its dimensions, and a projection to
the key/value heads is meant to become square. -/
theorem shapes_of_mem_buildPlan (hitem : item ∈ buildPlan cfg) :
    item.transpose = false ∧ item.targetShape = item.sourceShape ∨
      item.transpose = true ∧ ∃ rows cols, item.sourceShape = [rows, cols] ∧
        (item.targetShape = [cols, rows] ∨
          0 < cfg.nLayers ∧ rows = cfg.kvDim ∧ cols = cfg.dModel ∧ item.targetShape = [cols, cols]) := by
  rcases mem_buildPlan hitem with ⟨-, hsource, htarget, hplain⟩ | ⟨layer, hlt, hlayer⟩ | rfl | rfl
  · exact Or.inl ⟨hplain, htarget.trans hsource.symm⟩
  · have hpos : 0 < cfg.nLayers := by omega
    simp only [layerItems, List.mem_cons, List.not_mem_nil, or_false] at hlayer
    rcases hlayer with rfl | rfl | rfl | rfl | rfl | rfl | rfl | rfl | rfl
    · exact Or.inl ⟨rfl, rfl⟩
    · exact Or.inr ⟨rfl, _, _, rfl, Or.inl rfl⟩
    · exact Or.inr ⟨rfl, _, _, rfl, Or.inr ⟨hpos, rfl, rfl, rfl⟩⟩
    · exact Or.inr ⟨rfl, _, _, rfl, Or.inr ⟨hpos, rfl, rfl, rfl⟩⟩
    · exact Or.inr ⟨rfl, _, _, rfl, Or.inl rfl⟩
    · exact Or.inl ⟨rfl, rfl⟩
    · exact Or.inr ⟨rfl, _, _, rfl, Or.inl rfl⟩
    · exact Or.inr ⟨rfl, _, _, rfl, Or.inl rfl⟩
    · exact Or.inr ⟨rfl, _, _, rfl, Or.inl rfl⟩
  · exact Or.inl ⟨rfl, rfl⟩
  · exact Or.inr ⟨rfl, _, _, rfl, Or.inl rfl⟩

/-- The array of a planned item is made where its two shapes have as many elements. -/
theorem loadArray_of_planned (h : Planned file cfg) (hitem : item ∈ buildPlan cfg) :
    (∀ dim ∈ item.targetShape, 0 ≤ dim) ∧ ∃ values : List PyFloat, loadArray file item =
      if (item.targetShape.map Int.toNat).prod = (item.sourceShape.map Int.toNat).prod then
        .ok ⟨item.targetShape.map Int.toNat, values⟩
      else .error .valueError := by
  obtain ⟨hdims, values, hload, hlen⟩ := loadItem_of_planned h hitem
  unfold loadArray
  rw [hload]
  simp only [bind, Except.bind]
  rcases shapes_of_mem_buildPlan hitem with ⟨hplain, htarget⟩ | ⟨htranspose, rows, cols, hsource, htarget⟩
  · rw [← htarget] at hdims hlen
    rw [hplain, ← htarget]
    refine ⟨hdims, values, ?_⟩
    rw [if_neg Bool.false_ne_true, reshape_of_nonneg hdims, hlen]
  · rw [hsource] at hdims hlen
    obtain ⟨hrows, hcols, -⟩ := List.forall_mem_cons.mp hdims |>.imp_right List.forall_mem_cons.mp
    have hnonneg : ∀ dim ∈ item.targetShape, 0 ≤ dim := by
      rcases htarget with htarget | ⟨-, -, -, htarget⟩
      · rw [htarget]
        simp [hrows, hcols]
      · rw [htarget]
        simp [hcols]
    obtain ⟨m, rfl⟩ := Int.eq_ofNat_of_zero_le hrows
    obtain ⟨n, rfl⟩ := Int.eq_ofNat_of_zero_le hcols
    simp only [List.map_cons, List.map_nil, List.prod_cons, List.prod_nil, Int.toNat_natCast, Nat.mul_one] at hlen
    rw [htranspose, hsource]
    simp only [if_true, transposed_eq hlen]
    refine ⟨hnonneg, (List.range (n * m)).map fun k => values.getD (k % m * n + k / m) 0, ?_⟩
    rw [reshape_of_nonneg hnonneg, List.length_map, List.length_range]
    simp only [List.map_cons, List.map_nil, List.prod_cons, List.prod_nil, Int.toNat_natCast, Nat.mul_one,
      Nat.mul_comm n m]

/-! ### The arrays -/

/-- The shapes that `_python_forward_pass` expects of the weights of a layer. -/
def requiredLayer (cfg : Att1Cfg) (layer : ℕ) : List (List UInt8 × List ℤ) :=
  let dst := layerPrefix layer
  let d := cfg.dModel
  let ff := cfg.dFf
  [(dst ++ ascii ".attention_norm.weight", [d]), (dst ++ ascii ".attention.wq.weight", [d, d]),
   (dst ++ ascii ".attention.wk.weight", [d, cfg.kvDim]), (dst ++ ascii ".attention.wv.weight", [d, cfg.kvDim]),
   (dst ++ ascii ".attention.wo.weight", [d, d]), (dst ++ ascii ".ffn_norm.weight", [d]),
   (dst ++ ascii ".ffn.w_gate.weight", [d, ff]), (dst ++ ascii ".ffn.w_up.weight", [d, ff]),
   (dst ++ ascii ".ffn.w_down.weight", [ff, d])]

/-- The shapes that `_python_forward_pass` expects of all weights. -/
def requiredShapes (cfg : Att1Cfg) : List (List UInt8 × List ℤ) :=
  (ascii "tok_embeddings.weight", [cfg.vocabSize, cfg.dModel]) ::
    ((List.range cfg.nLayers.toNat).flatMap (requiredLayer cfg) ++
      [(ascii "output_norm.weight", [cfg.dModel]), (ascii "output.weight", [cfg.dModel, cfg.vocabSize])])

/-- The weights have the expected shapes. -/
def Shaped {F : Type} (cfg : Att1Cfg) (weights : List (List UInt8 × NdArray F)) : Prop :=
  ∀ entry ∈ requiredShapes cfg, ∃ array, weights.lookup entry.1 = some array ∧ array.shape.map Nat.cast = entry.2

/-- An accepted config. -/
structure Accepted (cfg : Att1Cfg) : Prop where
  nHeads : cfg.nHeads ≠ 0
  nKvHeads : cfg.nKvHeads ≠ 0
  dModel : cfg.nHeads * cfg.dHead = cfg.dModel
  groups : cfg.nHeads.fmod cfg.nKvHeads = 0

theorem accepted_of_acceptConfig {source : SourceConfig} (h : acceptConfig source = .ok cfg) : Accepted cfg := by
  unfold acceptConfig at h
  obtain ⟨nHeads, -, h⟩ := orFail_bind_eq_ok.mp h
  obtain ⟨vocabSize, -, h⟩ := orFail_bind_eq_ok.mp h
  obtain ⟨nLayers, -, h⟩ := orFail_bind_eq_ok.mp h
  obtain ⟨dModel, -, h⟩ := orFail_bind_eq_ok.mp h
  obtain ⟨dFf, -, h⟩ := orFail_bind_eq_ok.mp h
  obtain ⟨hheads, h⟩ := rejectIf_bind_eq_ok.mp h
  obtain ⟨hmodel, h⟩ := rejectIf_bind_eq_ok.mp h
  obtain ⟨hkv, h⟩ := rejectIf_bind_eq_ok.mp h
  obtain ⟨hgroups, h⟩ := rejectIf_bind_eq_ok.mp h
  cases h
  refine ⟨hheads, hkv, ?_, not_not.mp hgroups⟩
  have hdiv := Int.mul_fdiv_add_fmod dModel nHeads
  rw [not_not.mp hmodel, Int.add_zero] at hdiv
  exact hdiv

theorem map_target_buildPlan (cfg : Att1Cfg) : (buildPlan cfg).map PlanItem.target = planNames cfg.nLayers.toNat := by
  unfold buildPlan planNames
  rw [List.map_cons, List.map_append, List.map_flatMap]
  rfl

/-- The plan makes the expected shapes where the key/value heads fill the model, or there is no layer. -/
theorem requiredShapes_eq (h : cfg.nLayers ≤ 0 ∨ cfg.kvDim = cfg.dModel) :
    requiredShapes cfg = (buildPlan cfg).map fun item => (item.target, item.targetShape) := by
  unfold requiredShapes buildPlan
  rw [List.map_cons, List.map_append, List.map_flatMap]
  congr 2
  refine List.flatMap_congr fun layer hlayer => ?_
  have hlt := List.mem_range.mp hlayer
  have hkv : cfg.kvDim = cfg.dModel := h.resolve_left (by omega)
  unfold requiredLayer layerItems
  rw [hkv]
  rfl

/-- The arrays are stored under the names of their items. -/
theorem map_fst_of_load {plan : List PlanItem} {weights : List (List UInt8 × NdArray PyFloat)}
    (h : List.Forall₂ (fun item entry => (do let array ← loadArray file item; .ok (item.target, array)) =
      Except.ok entry) plan weights) : weights.map Prod.fst = plan.map PlanItem.target := by
  induction h with
  | nil => rfl
  | cons hentry _ ih =>
    obtain ⟨array, -, hpair⟩ := bind_eq_ok.mp hentry
    cases hpair
    rw [List.map_cons, List.map_cons, ih]

/-- The arrays of a file with the planned tensors, one for each item and under its name. -/
theorem arrays_of_load {weights : List (List UInt8 × NdArray PyFloat)} (hplan : Planned file cfg)
    (hload : loadSourceWeightsNumpy file cfg = .ok weights) (hitem : item ∈ buildPlan cfg) :
    ∃ array, weights.lookup item.target = some array ∧ array.shape.map Nat.cast = item.targetShape := by
  have hall := mapM_eq_ok.mp hload
  obtain ⟨entry, hmem, hentry⟩ := exists_of_mem_left hall hitem
  obtain ⟨array, harray, hpair⟩ := bind_eq_ok.mp hentry
  cases hpair
  have hnodup : (weights.map Prod.fst).Nodup := by
    rw [map_fst_of_load hall, map_target_buildPlan]
    exact nodup_planNames _
  refine ⟨array, lookup_of_mem hnodup hmem, ?_⟩
  obtain ⟨hdims, values, hvalue⟩ := loadArray_of_planned hplan hitem
  rw [hvalue] at harray
  by_cases hprod : (item.targetShape.map Int.toNat).prod = (item.sourceShape.map Int.toNat).prod
  · rw [if_pos hprod] at harray
    cases harray
    rw [List.map_map]
    exact (List.map_congr_left fun dim hdim => Int.toNat_of_nonneg (hdims dim hdim)).trans (List.map_id _)
  · rw [if_neg hprod] at harray
    cases harray

/-- **The loader** makes the expected arrays of a file with the planned tensors where the key/value heads fill the
model, or there is no layer. -/
theorem loads_iff_kvDim (hplan : Planned file cfg) :
    (∃ weights, loadSourceWeightsNumpy file cfg = .ok weights ∧ Shaped cfg weights) ↔
      cfg.nLayers ≤ 0 ∨ cfg.kvDim = cfg.dModel := by
  constructor
  · rintro ⟨weights, hload, hshaped⟩
    by_cases hlayers : cfg.nLayers ≤ 0
    · exact Or.inl hlayers
    · -- the key projection of the first layer is stored as a square
      have hlayer : 0 ∈ List.range cfg.nLayers.toNat := List.mem_range.mpr (by omega)
      have hrequired : (layerPrefix 0 ++ ascii ".attention.wk.weight", [cfg.dModel, cfg.kvDim]) ∈
          requiredShapes cfg := by
        refine List.mem_cons_of_mem _ (List.mem_append_left _ (List.mem_flatMap.mpr ⟨0, hlayer, ?_⟩))
        simp [requiredLayer]
      have hitem : kvItem cfg (sourcePrefix 0 ++ ascii ".self_attn.k_proj.weight")
          (layerPrefix 0 ++ ascii ".attention.wk.weight") ∈ buildPlan cfg := by
        refine List.mem_cons_of_mem _ (List.mem_append_left _ (List.mem_flatMap.mpr ⟨0, hlayer, ?_⟩))
        simp [layerItems]
      obtain ⟨array, hlookup, hshape⟩ := hshaped _ hrequired
      obtain ⟨array', hlookup', hshape'⟩ := arrays_of_load hplan hload hitem
      obtain rfl := Option.some.inj (hlookup.symm.trans hlookup')
      have hsquare : [cfg.dModel, cfg.kvDim] = [cfg.dModel, cfg.dModel] := hshape.symm.trans hshape'
      exact Or.inr (List.cons.inj (List.cons.inj hsquare).2).1
  · intro hfits
    have hall : ∀ item ∈ buildPlan cfg, ∃ entry : List UInt8 × NdArray PyFloat,
        (do let array ← loadArray file item; .ok (item.target, array)) = Except.ok entry := by
      intro item hitem
      obtain ⟨-, values, hvalue⟩ := loadArray_of_planned hplan hitem
      have hprod : (item.targetShape.map Int.toNat).prod = (item.sourceShape.map Int.toNat).prod := by
        rcases shapes_of_mem_buildPlan hitem with ⟨-, htarget⟩ | ⟨-, rows, cols, hsource, htarget⟩
        · rw [htarget]
        · rcases htarget with htarget | ⟨hpos, rfl, rfl, htarget⟩
          · rw [htarget, hsource]
            simp [Nat.mul_comm]
          · rw [htarget, hsource, hfits.resolve_left (by omega)]
      rw [if_pos hprod] at hvalue
      exact ⟨_, bind_eq_ok.mpr ⟨_, hvalue, rfl⟩⟩
    obtain ⟨weights, hweights⟩ := exists_forall₂_iff.mpr hall
    have hload : loadSourceWeightsNumpy file cfg = .ok weights := mapM_eq_ok.mpr hweights
    refine ⟨weights, hload, fun entry hentry => ?_⟩
    rw [requiredShapes_eq hfits] at hentry
    obtain ⟨item, hitem, rfl⟩ := List.mem_map.mp hentry
    exact arrays_of_load hplan hload hitem

end Att1.Compare
