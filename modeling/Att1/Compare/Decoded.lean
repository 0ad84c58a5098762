import Att1.Compare.Source
import Att1.Converter.Prepared
import Att1.Reader.Emitted

/-!
# Att1.Compare.Decoded — the weights that the decoder uses of an artifact

* `decoderWeight`, `scaleAt`: the weight for an output and an input in the product that reads a tensor, and the
  scale of which it is a multiple.
* `Quantized.dequantize_eq`: `dequantize` yields them output by output.
* `decoderWeight_emitted_q8`, `decoderWeight_emitted_q4`: the weight that the converter's q8 and q4 bytes stand for.
* `emitted_weights_within`: how far the weights of a file that the converter wrote are from the source.
-/

open Att1.Lib Att1.ModelFile Att1.Converter Att1.Reader Att1.Decoder

namespace Att1.Compare

variable {R : Type} [Field R]

/-! ### Weights -/

/-- An integer times the float with the given bytes. -/
def scaled (unpack : List UInt8 → R) (q : ℤ) (b : List UInt8) : R := q * unpack b

/-- Float `k` of an f32 payload. -/
def f32At (unpack : List UInt8 → R) (raw : List UInt8) (k : ℕ) : R := unpack (slice raw (k * 4) 4)

/-- The weight for an output and an input in the matrix product that reads the tensor: an f32 matrix has a row for
each input, a quantized one has a row for each output. -/
def decoderWeight (unpack : List UInt8 → R) (p : Att1Tensor) (out col : ℕ) : R :=
  let rows := p.shape.getD 0 0
  let cols := p.shape.getD 1 0
  if p.dtype = dtypeQ8 then
    (ModelFile.Q8Matrix.weights (scaled unpack) p.raw ⟨rows, cols, some 0, some (rows * cols)⟩).getD
      (out * cols + col) 0
  else if p.dtype = dtypeQ4 then
    (ModelFile.Q4Matrix.weights (scaled unpack) p.raw
      ⟨rows, cols, q4GroupSizeDefault, some 0, some (rows * cols / 2)⟩).getD (out * cols + col) 0
  else f32At unpack p.raw (col * cols + out)

/-- The scale of a quantized weight. -/
def scaleAt (unpack : List UInt8 → R) (p : Att1Tensor) (out col : ℕ) : R :=
  let rows := p.shape.getD 0 0
  let cols := p.shape.getD 1 0
  if p.dtype = dtypeQ8 then unpack (slice p.raw (rows * cols + out * 4) 4)
  else
    let scaleIdx := out * (cols / q4GroupSizeDefault) + col / q4GroupSizeDefault
    unpack (slice p.raw (rows * cols / 2 + scaleIdx * 4) 4)

section

variable {unpack : List UInt8 → R} {p : Att1Tensor} {rows cols row col : ℕ}

theorem decoderWeight_q8 (hdtype : p.dtype = dtypeQ8) (hshape : p.shape = [rows, cols]) (hrow : row < rows)
    (hcol : col < cols) :
    decoderWeight unpack p row col = int8Value (p.raw.getD (row * cols + col) 0) * scaleAt unpack p row col := by
  unfold decoderWeight scaleAt
  simp only [hshape, hdtype, if_true, List.getD_cons_zero, List.getD_cons_succ]
  refine (getD_matrixOf hrow hcol 0).trans ?_
  simp only [Option.getD_some, Nat.zero_add]
  rfl

theorem decoderWeight_q4 (hdtype : p.dtype = dtypeQ4) (hshape : p.shape = [rows, cols]) (hrow : row < rows)
    (hcol : col < cols) :
    decoderWeight unpack p row col = q4UnpackGroup p.raw (row * (cols / 2) + col / 32 * (32 / 2)) (col % 32) *
      scaleAt unpack p row col := by
  have hq8 : p.dtype ≠ dtypeQ8 := by
    rw [hdtype]
    decide
  unfold decoderWeight scaleAt
  simp only [hshape, if_neg hq8, if_pos hdtype, List.getD_cons_zero, List.getD_cons_succ]
  refine (getD_matrixOf hrow hcol 0).trans ?_
  simp only [Option.getD_some, Nat.zero_add]
  rfl

theorem decoderWeight_f32 (hdtype : p.dtype = dtypeF32) (hshape : p.shape = [rows, cols]) (out col : ℕ) :
    decoderWeight unpack p out col = f32At unpack p.raw (col * cols + out) := by
  have hq8 : p.dtype ≠ dtypeQ8 := by
    rw [hdtype]
    decide
  have hq4 : p.dtype ≠ dtypeQ4 := by
    rw [hdtype]
    decide
  unfold decoderWeight
  simp only [hshape, if_neg hq8, if_neg hq4, List.getD_cons_zero, List.getD_cons_succ]

/-- A quantized tensor with all its bytes, and no group size where the reader looks for it. -/
structure Quantized (p : Att1Tensor) (rows cols : ℕ) : Prop where
  shape : p.shape = [rows, cols]
  form : (p.dtype = dtypeQ8 ∧ p.raw.length = rows * cols + 4 * rows) ∨
    (p.dtype = dtypeQ4 ∧ p.q4GroupSize = 32 ∧ cols % 32 = 0 ∧
      p.raw.length = rows * cols / 2 + 4 * (rows * (cols / 32)))

/-- `dequantize` yields the weights of one output after the other. -/
theorem Quantized.dequantize_eq (h : Quantized p rows cols) : p.dequantize (scaled unpack) =
    some ((List.range (rows * cols)).map fun k => decoderWeight unpack p (k / cols) (k % cols)) := by
  have hshape := h.shape
  have hraw : p.raw = slice p.raw 0 p.raw.length := slice_all.symm
  have hcells : ∀ k ∈ List.range (rows * cols), k / cols < rows ∧ k % cols < cols := fun k hk =>
    ⟨div_lt_of_lt_mul (List.mem_range.mp hk), mod_lt_of_lt_mul (List.mem_range.mp hk)⟩
  unfold Att1Tensor.dequantize
  rcases h.form with ⟨hdtype, hlen⟩ | ⟨hdtype, hgroup, hdvd, hlen⟩
  · rw [if_pos hdtype, dequantizeQ8_eq hshape (by rw [← hlen]; exact hraw) (by omega)]
    unfold ModelFile.Q8Matrix.weights
    rw [matrixOf_eq_map]
    refine congrArg some (List.map_congr_left fun k hk => ?_)
    rw [decoderWeight_q8 hdtype hshape (hcells k hk).1 (hcells k hk).2]
    unfold scaleAt
    simp only [hdtype, hshape, if_true, Option.getD_some, Nat.zero_add, List.getD_cons_zero, List.getD_cons_succ]
    rfl
  · have hq8 : p.dtype ≠ dtypeQ8 := by
      rw [hdtype]
      decide
    rw [if_neg hq8, if_pos hdtype,
      dequantizeQ4_eq hshape hgroup (by decide) hdvd (by rw [← hlen]; exact hraw) (by omega)]
    unfold ModelFile.Q4Matrix.weights
    rw [matrixOf_eq_map]
    refine congrArg some (List.map_congr_left fun k hk => ?_)
    rw [decoderWeight_q4 hdtype hshape (hcells k hk).1 (hcells k hk).2]
    unfold scaleAt
    simp only [if_neg hq8, hshape, Option.getD_some, Nat.zero_add, List.getD_cons_zero, List.getD_cons_succ]
    rfl

end

/-! ### The bytes of the converter -/

section

variable [LinearOrder R] [IsStrictOrderedRing R] [FloorRing R] {pack : R → Option (List UInt8)}
  {unpack : List UInt8 → R} {synthetic : ℕ → ℕ → R} {values : List R} {name : List UInt8}
  {inDim outDim row col : ℕ} {t : PyTensor}

/-- A nearest multiple of the scale is off by at most half a scale, and zeros are exact. -/
theorem abs_nearest_sub_le {levels greatest v : R} {q : ℤ} (hl : 0 < levels) (hv : |v| ≤ greatest)
    (hq : |(q : R) - v / scaleOf levels greatest| ≤ 1 / 2) (hzero : v = 0 → q = 0) :
    |v - q * scaleOf levels greatest| ≤ greatest / (2 * levels) := by
  rw [abs_sub_comm]
  by_cases hpos : 0 < greatest
  · refine (abs_mul_sub_le (scaleOf_pos hl) hq).trans (le_of_eq ?_)
    unfold scaleOf
    rw [if_pos hpos, div_div, mul_comm]
  · have hnonneg : 0 ≤ greatest := (abs_nonneg v).trans hv
    have hself : v = 0 := abs_nonpos_iff.mp (hv.trans (not_lt.mp hpos))
    rw [hzero hself, hself, Int.cast_zero, zero_mul, sub_zero, abs_zero]
    exact div_nonneg hnonneg (mul_nonneg zero_le_two hl.le)

theorem roundEven_zero : roundEven (0 : R) = 0 := by
  have h : |roundEven (0 : R)| ≤ 0 := abs_le_of_nearest (abs_roundEven_sub_le 0) (by simp)
  exact abs_nonpos_iff.mp h

/-- **The q8 weights**: the nearest multiples, halves away from zero, of a scale for each output. -/
theorem decoderWeight_emitted_q8 (hpack : ∀ v b, pack v = some b → b.length = 4)
    (hexact : ∀ v b, pack v = some b → unpack b = v) (hlen : values.length = inDim * outDim)
    (h : makeQ8TensorFromF32 (exactFloats pack unpack synthetic) name [inDim, outDim] values = .ok t)
    (hrow : row < outDim) (hcol : col < inDim) :
    let scale := scaleOf 127 (maxAbs (fun c => values.getD (c * outDim + row) 0) inDim)
    decoderWeight unpack (emittedTensor t) row col =
      roundAway (values.getD (col * outDim + row) 0 / scale) * scale := by
  obtain ⟨-, hdtype, -⟩ := makeQ8TensorFromF32_form h
  obtain ⟨scaleBytes, hscales, hshape, hdata⟩ := makeQ8TensorFromF32_exact hlen h
  set weights := array (outDim * inDim) fun i => values.getD (i % inDim * outDim + i / inDim) 0 with hweights
  have hplace : row * inDim + col < outDim * inDim := block_lt hrow hcol
  have hcells : ∀ c < inDim, weights (row * inDim + c) = values.getD (c * outDim + row) 0 := fun c hc => by
    rw [hweights, array_of_lt (block_lt hrow hc), block_mod hc, block_div hc]
  have hget : ((List.range outDim).map (q8Filled weights outDim inDim).scales)[row]? =
      some (q8RowScale weights inDim row) := by
    rw [List.getElem?_map, List.getElem?_range hrow]
    exact congrArg some (array_of_lt hrow)
  obtain ⟨b, hb, hslice⟩ := slice_packScales hpack hscales hget
  have hscale : scaleAt unpack (emittedTensor t) row col = q8RowScale weights inDim row := by
    have hraw : (emittedTensor t).raw = _ := hdata
    unfold scaleAt
    rw [if_pos (show (emittedTensor t).dtype = dtypeQ8 from hdtype), hraw, ← hexact _ _ hb, ← hslice]
    refine congrArg unpack ?_
    rw [show (emittedTensor t).shape = [outDim, inDim] from hshape]
    simp only [List.getD_cons_zero, List.getD_cons_succ]
    rw [slice_append_right (by simp), List.length_map, List.length_range, Nat.add_sub_cancel_left]
  have hvalue : (emittedTensor t).raw.getD (row * inDim + col) 0 =
      (q8Filled weights outDim inDim).values (row * inDim + col) := by
    have hraw : (emittedTensor t).raw = _ := hdata
    rw [hraw, List.getD_eq_getElem?_getD, List.getElem?_append_left (by simpa using hplace), List.getElem?_map,
      List.getElem?_range hplace]
    rfl
  have hdecoded : decoderWeight unpack (emittedTensor t) row col = (q8Filled weights outDim inDim).weight row col := by
    rw [decoderWeight_q8 hdtype hshape hrow hcol, hvalue, hscale]
    unfold Decoder.Q8Matrix.weight
    rw [show (q8Filled weights outDim inDim).scales row = q8RowScale weights inDim row from array_of_lt hrow]
    rfl
  have hrowScale : q8RowScale weights inDim row =
      scaleOf 127 (maxAbs (fun c => values.getD (c * outDim + row) 0) inDim) := by
    unfold q8RowScale
    rw [maxAbs_congr hcells]
  rw [hdecoded, q8Filled_weight hrow hcol, hcells col hcol, hrowScale]

/-- **The q4 weights**: the nearest multiples, halves to even, of a scale for each 32 inputs of an output. -/
theorem decoderWeight_emitted_q4 (hpack : ∀ v b, pack v = some b → b.length = 4)
    (hexact : ∀ v b, pack v = some b → unpack b = v) (hlen : values.length = inDim * outDim) (hgroups : inDim % 32 = 0)
    (h : makeQ4TensorFromF32 (exactFloats pack unpack synthetic) name [inDim, outDim] values q4GroupSizeDefault =
      .ok t)
    (hrow : row < outDim) (hcol : col < inDim) :
    let scale := scaleOf 7 (maxAbs (fun c => values.getD ((col / 32 * 32 + c) * outDim + row) 0) 32)
    decoderWeight unpack (emittedTensor t) row col =
      roundEven (values.getD (col * outDim + row) 0 / scale) * scale := by
  obtain ⟨-, hdtype, -⟩ := makeQ4TensorFromF32_form h
  obtain ⟨transposed, htransposed, h⟩ := bind_eq_ok.mp h
  obtain ⟨⟨packed, scaleBytes⟩, hquantize, h⟩ := bind_eq_ok.mp h
  cases h
  rw [transpose2d_eq hlen] at htransposed
  cases htransposed
  set list := (List.range (outDim * inDim)).map fun i => values.getD (i % inDim * outDim + i / inDim) 0 with hlist
  have hsize : (32 : UInt32).toNat = 32 := rfl
  have hvalid : q4GroupSizeValid 32 = true := by decide
  have hg : inDim % (32 : UInt32).toNat = 0 := hgroups
  have hlength : list.length = outDim * inDim := by rw [hlist, List.length_map, List.length_range]
  obtain ⟨hpacked, hscales⟩ := q4Quantize_eq_ok hvalid hg hlength hquantize
  have hcells : ∀ c < inDim, list.getD (row * inDim + c) 0 = values.getD (c * outDim + row) 0 := fun c hc => by
    rw [hlist, congrFun (getD_map_range _ _) _, array_of_lt (block_lt hrow hc), block_mod hc, block_div hc]
  have hgroup : row * (inDim / 32) + col / 32 < outDim * (inDim / 32) := block_lt hrow (div_groupSize_lt hg hcol)
  have hget : ((List.range (outDim * (inDim / (32 : UInt32).toNat))).map
      (q4Scale (list.getD · 0) 32))[row * (inDim / 32) + col / 32]? =
        some (q4Scale (list.getD · 0) 32 (row * (inDim / 32) + col / 32)) := by
    rw [List.getElem?_map, hsize, List.getElem?_range hgroup, Option.map_some]
  obtain ⟨b, hb, hslice⟩ := slice_packScales hpack hscales hget
  have hbytes : packed.length = outDim * inDim / 2 := by
    have heven : 2 ∣ inDim := Nat.dvd_trans (by decide) (Nat.dvd_of_mod_eq_zero hgroups)
    rw [hpacked, flatMap_range_blocks, List.length_map, List.length_range, ← q4_packedBytes hvalid hg,
      Nat.mul_div_assoc _ heven]
  have hgroupScale : q4Scale (list.getD · 0) 32 (row * (inDim / 32) + col / 32) =
      scaleOf 7 (maxAbs (fun c => values.getD ((col / 32 * 32 + c) * outDim + row) 0) 32) := by
    unfold q4Scale
    rw [hsize]
    refine congrArg _ (maxAbs_congr fun c hc => ?_)
    have hend : col / 32 * 32 + 32 ≤ inDim := by omega
    have hindex : (row * (inDim / 32) + col / 32) * 32 + c = row * inDim + (col / 32 * 32 + c) := by
      rw [Nat.add_mul, Nat.mul_assoc, Nat.div_mul_cancel (Nat.dvd_of_mod_eq_zero hgroups), Nat.add_assoc]
    rw [hindex]
    exact hcells _ (by omega)
  rw [← hgroupScale]
  set scale := q4Scale (list.getD · 0) 32 (row * (inDim / 32) + col / 32) with hscaleDef
  have hint : q4UnpackGroup (packed ++ scaleBytes) (row * (inDim / 2) + col / 32 * (32 / 2)) (col % 32) =
      q4IntEven (list.getD · 0) 32 (row * (inDim / 32) + col / 32) (col % 32) := by
    rw [hpacked]
    simp only [q4PyByte_eq (abs_q4IntEven_le ..) (abs_q4IntEven_le ..)]
    exact q4UnpackGroup_groups (abs_q4IntEven_le (list.getD · 0) 32) hvalid hg hrow hcol scaleBytes
  have hnearest : q4IntEven (list.getD · 0) 32 (row * (inDim / 32) + col / 32) (col % 32) =
      roundEven (values.getD (col * outDim + row) 0 / scale) := by
    have hrounded := @q4IntEven_eq R _ _ _ _ (list.getD · 0) 32 (row * (inDim / 32) + col / 32) (col % 32)
      (Nat.mod_lt col (by decide))
    have hindex := group_index hg row col
    rw [hsize] at hrounded hindex
    rw [hrounded, hindex, hcells col hcol]
  rw [decoderWeight_q4 rfl rfl hrow hcol]
  have hscale : ∀ p : Att1Tensor, p.dtype = dtypeQ4 → p.shape = [outDim, inDim] → p.raw = packed ++ scaleBytes →
      scaleAt unpack p row col = scale := by
    intro p hdtype hshape hraw
    have hq8 : p.dtype ≠ dtypeQ8 := by
      rw [hdtype]
      decide
    unfold scaleAt
    rw [if_neg hq8, hshape, hraw, ← hexact _ _ hb, ← hslice]
    refine congrArg unpack ?_
    simp only [List.getD_cons_zero, List.getD_cons_succ]
    rw [slice_append_right (by omega), hbytes, Nat.add_sub_cancel_left]
    rfl
  rw [hscale _ rfl rfl rfl]
  show (q4UnpackGroup (packed ++ scaleBytes) _ _ : R) * scale = _
  rw [hint, hnearest]

end

/-! ### A file of the converter -/

section File

variable [LinearOrder R] [IsStrictOrderedRing R] [FloorRing R] {pack : R → Option (List UInt8)}
  {unpack : List UInt8 → R} {synthetic : ℕ → ℕ → R} {att1 : Att1Dict} {values : ℕ → List R}
  {format : WeightFormat} {tensors : List PyTensor}
  {emitShardMeta : Bool} {descs : List (List UInt8)} {shardBlob bytes : List UInt8} {records : List ShardMetaRecord}
  {name : List UInt8} {shape : List ℕ} {t : PyTensor} {i : ℕ}

omit [IsStrictOrderedRing R] in
/-- The floats of an f32 tensor are the values it was made of. -/
theorem unpackF32_tensorFromValues {list : List R} (hpack : ∀ v b, pack v = some b → b.length = 4)
    (hexact : ∀ v b, pack v = some b → unpack b = v)
    (h : tensorFromValues (exactFloats pack unpack synthetic) name shape list = .ok t) :
    list.length = shape.prod ∧ unpackF32 (exactFloats pack unpack synthetic) t = list := by
  obtain ⟨hlen, h⟩ := rejectIf_bind_eq_ok.mp h
  obtain ⟨data, hdata, h⟩ := bind_eq_ok.mp h
  cases h
  have hlength := not_not.mp hlen
  refine ⟨hlength, List.ext_getElem ?_ fun k hk hk' => ?_⟩
  · rw [unpackF32, List.length_map, List.length_range]
    exact hlength.symm
  · obtain ⟨b, hb, hslice⟩ := slice_packScales hpack hdata (List.getElem?_eq_getElem hk')
    simp only [unpackF32, List.getElem_map, List.getElem_range]
    exact (congrArg unpack hslice).trans (hexact _ _ hb)

omit [IsStrictOrderedRing R] in
/-- **The tensor at a place of the plan**: what the constructor of its dtype made of the values there. -/
theorem realTensor_cases (hpack : ∀ v b, pack v = some b → b.length = 4)
    (hexact : ∀ v b, pack v = some b → unpack b = v)
    (htensors : buildTensors (exactFloats pack unpack synthetic) att1 (.real format values) = .ok tensors)
    (hi : (tensorNamePlan att1)[i]? = some (name, shape)) :
    ∃ t, tensors[i]? = some t ∧ (values i).length = shape.prod ∧
      ((t.dtype = dtypeF32 ∧ t.shape = shape ∧ unpackF32 (exactFloats pack unpack synthetic) t = values i) ∨
        (isQ8Eligible name shape = true ∧
          makeQ8TensorFromF32 (exactFloats pack unpack synthetic) name shape (values i) = .ok t) ∨
        (isQ4Eligible name shape q4GroupSizeDefault = true ∧
          makeQ4TensorFromF32 (exactFloats pack unpack synthetic) name shape (values i) q4GroupSizeDefault =
            .ok t)) := by
  have hplain : ∀ {f32Tensors},
      buildRealF32Tensors (exactFloats pack unpack synthetic) att1 values = .ok f32Tensors →
      ∃ t, f32Tensors[i]? = some t ∧ t.name = name ∧ t.shape = shape ∧ t.dtype = dtypeF32 ∧
        (values i).length = shape.prod ∧ unpackF32 (exactFloats pack unpack synthetic) t = values i := by
    intro f32Tensors hf32
    obtain ⟨t, ht, hmake⟩ := buildRealF32Tensors_getElem? hf32 hi
    obtain ⟨hname, hshape, hdtype, -⟩ := tensorFromValues_form hmake
    obtain ⟨hlen, hunpack⟩ := unpackF32_tensorFromValues hpack hexact hmake
    exact ⟨t, ht, hname, hshape, hdtype, hlen, hunpack⟩
  cases format with
  | f32 =>
    obtain ⟨t, ht, -, hshape, hdtype, hlen, hunpack⟩ := hplain htensors
    exact ⟨t, ht, hlen, Or.inl ⟨hdtype, hshape, hunpack⟩⟩
  | q8 =>
    obtain ⟨f32Tensors, hf32, hrest⟩ := bind_eq_ok.mp htensors
    obtain ⟨t, ht, hname, hshape, hdtype, hlen, hunpack⟩ := hplain hf32
    obtain ⟨u, hu, hquant⟩ := (getElem?_of_mapM hrest).2 i t ht
    rw [hname, hshape, hunpack] at hquant
    refine ⟨u, hu, hlen, ?_⟩
    by_cases helig : isQ8Eligible name shape = true
    · rw [if_pos helig] at hquant
      exact Or.inr (Or.inl ⟨helig, hquant⟩)
    · rw [if_neg helig] at hquant
      cases hquant
      exact Or.inl ⟨hdtype, hshape, hunpack⟩
  | q4 =>
    obtain ⟨f32Tensors, hf32, hrest⟩ := bind_eq_ok.mp htensors
    obtain ⟨t, ht, hname, hshape, hdtype, hlen, hunpack⟩ := hplain hf32
    obtain ⟨u, hu, hquant⟩ := (getElem?_of_mapM hrest).2 i t ht
    rw [hname, hshape, hunpack] at hquant
    refine ⟨u, hu, hlen, ?_⟩
    by_cases helig : isQ4Eligible name shape q4GroupSizeDefault = true
    · rw [if_pos helig] at hquant
      exact Or.inr (Or.inr ⟨helig, hquant⟩)
    · rw [if_neg helig] at hquant
      cases hquant
      exact Or.inl ⟨hdtype, hshape, hunpack⟩

/-- The reader takes the default group size. -/
theorem emittedTensor_q4GroupSize (t : PyTensor) : (emittedTensor t).q4GroupSize = 32 := by
  unfold Att1Tensor.q4GroupSize emittedTensor
  exact if_neg (show ¬ 0 < 0 &&& 0xFF by decide)

/-- A quantized tensor that the builder has checked has all its bytes. -/
theorem Checked.quantized {inDim outDim : ℕ} (hc : Checked (name, [inDim, outDim]) t) (hform : DefaultForm t)
    (hne : t.dtype ≠ dtypeF32) : Quantized (emittedTensor t) outDim inDim := by
  have hbytes := hc.nbytes
  have hshape := hc.shape
  unfold expectedNbytes at hbytes
  unfold expectedShape at hshape
  rcases hform with ⟨hdtype, -⟩ | ⟨hdtype, -⟩ | ⟨hdtype, hflags⟩
  · exact absurd hdtype hne
  · rw [if_pos (Or.inl hdtype)] at hshape
    rw [if_pos hdtype, hshape] at hbytes
    exact ⟨hshape, Or.inl ⟨hdtype, hbytes.trans (by simp [Nat.mul_comm])⟩⟩
  · have hq8 : t.dtype ≠ dtypeQ8 := by
      rw [hdtype]
      decide
    rw [if_pos (Or.inr hdtype)] at hshape
    rw [if_neg hq8, if_pos hdtype, hshape, hflags] at hbytes
    obtain ⟨-, -, -, hdvd⟩ := isQ4Eligible_iff.mp (hc.q4 hdtype)
    refine ⟨hshape, Or.inr ⟨hdtype, emittedTensor_q4GroupSize t, hdvd, hbytes.trans ?_⟩⟩
    show outDim * inDim / 2 + outDim * (inDim / 32) * 4 = _
    rw [Nat.mul_comm 4]

/-- What the loader and the reader find at one place of the file. -/
theorem sameTensor_emitted (hb : Built att1 tensors emitShardMeta descs shardBlob bytes) (hdims : NonzeroDims att1)
    (hform : DefaultForm t) (hi : tensors[i]? = some t) :
    Reader.SameTensor (loadedModel att1 tensors bytes records)
      (loadedTensor tensors.length t (blockStart (payloads tensors) i)) (emittedTensor t) where
  dtype := rfl
  ndims := rfl
  shape := dims_parsedTensor (hb.rank_le hdims hi) (blockStart (payloads tensors) i)
  payload := hb.payload_eq hi
  group := by
    intro hdtype
    rcases hform with ⟨h, -⟩ | ⟨h, -⟩ | ⟨-, hflags⟩
    · exact absurd (h.symm.trans hdtype) (by decide)
    · exact absurd (h.symm.trans hdtype) (by decide)
    · rw [emittedTensor_q4GroupSize]
      show (if t.flags &&& q4FlagsGroupMask = 0 then q4GroupSizeDefault else t.flags &&& q4FlagsGroupMask) = 32
      rw [hflags]
      rfl

omit [LinearOrder R] [IsStrictOrderedRing R] [FloorRing R] in
/-- The weights behind a quantized view are those that the reader dequantizes. -/
theorem getD_weights {p : Att1Tensor} {rows cols row col : ℕ} {weights : List R} (hquant : Quantized p rows cols)
    (h : p.dequantize (scaled unpack) = some weights) (hrow : row < rows) (hcol : col < cols) :
    weights.getD (row * cols + col) 0 = decoderWeight unpack p row col := by
  rw [hquant.dequantize_eq, Option.some.injEq] at h
  rw [← h, congrFun (getD_map_range _ _) _, array_of_lt (block_lt hrow hcol), block_div hcol, block_mod hcol]

/-- **The weights of a file that the converter wrote**, as the matrix products of the decoder read them: of an f32
tensor they are the source's own, a q8 weight is off by at most 1/254 of the greatest weight of its output, and a q4
weight by at most 1/14 of the greatest of its 32 inputs of an output. -/
theorem emitted_weights_within (hpack : ∀ v b, pack v = some b → b.length = 4)
    (hexact : ∀ v b, pack v = some b → unpack b = v) (hvalid : validateAtt1Config att1 = some [])
    (htensors : buildTensors (exactFloats pack unpack synthetic) att1 (.real format values) = .ok tensors)
    (hbuild : buildAtt1BytesFromTensors att1 tensors emitShardMeta = .ok bytes) {host : Host}
    (hok : (load host (some bytes)).status = .ok) {inDim outDim : ℕ}
    (hi : (tensorNamePlan att1)[i]? = some (name, [inDim, outDim])) :
    (∀ pointer, viewTensorF32 (load host (some bytes)).model name 2 inDim outDim = .ok pointer →
      ∀ k < inDim * outDim, floatsAt unpack (load host (some bytes)).model pointer k = (values i).getD k 0) ∧
    (∀ view, viewTensorQ8 (load host (some bytes)).model name outDim inDim = .ok view →
      ∀ row < outDim, ∀ col < inDim, |(values i).getD (col * outDim + row) 0 -
        (view.weights (scaled unpack) bytes).getD (row * inDim + col) 0| ≤
          maxAbs (fun c => (values i).getD (c * outDim + row) 0) inDim / 254) ∧
    ∀ view, viewTensorQ4 (load host (some bytes)).model name outDim inDim = .ok view →
      ∀ row < outDim, ∀ col < inDim, |(values i).getD (col * outDim + row) 0 -
        (view.weights (scaled unpack) bytes).getD (row * inDim + col) 0| ≤
          maxAbs (fun c => (values i).getD ((col / 32 * 32 + c) * outDim + row) 0) 32 / 14 := by
  obtain ⟨descs, shardBlob, hb⟩ := built_of_build hbuild
  have hdims := (validConfig_of_validate hvalid).nonzeroDims
  have hforms : ∀ t ∈ tensors, DefaultForm t := fun t ht => (hb.dtype_of_mem htensors ht).1
  have hl := loaded_of_ok hok
  have hdata := hl.fileData
  obtain ⟨records, hmodel⟩ := hb.model_eq hdims hforms hok
  rw [hmodel] at hl hdata ⊢
  obtain ⟨t, ht, hlen, hcases⟩ := realTensor_cases hpack hexact htensors hi
  have hform := hforms t (List.mem_of_getElem? ht)
  have hc := hb.checked i _ t hi ht
  have hname : t.name = name := hc.name
  have hfind : findTensor (loadedModel att1 tensors bytes records) name =
      some (loadedTensor tensors.length t (blockStart (payloads tensors) i)) := by
    rw [← hname]
    exact hb.findTensor_eq ht
  have hweights := sameWeights hl hfind (sameTensor_emitted hb hdims hform ht)
  have hsize : (values i).length = inDim * outDim := by
    rw [hlen, List.prod_cons, List.prod_singleton]
  refine ⟨fun pointer hview k hk => ?_, fun view hview row hrow col hcol => ?_, fun view hview row hrow col hcol => ?_⟩
  · obtain ⟨-, found, hfound, hshape, hpointer⟩ := viewTensorF32_eq_ok.mp hview
    obtain rfl := Option.some.inj (hfind.symm.trans hfound)
    have hdtype : t.dtype = dtypeF32 := (tensorIsF32Shape_iff.mp hshape).1
    rcases hcases with ⟨-, htshape, hunpack⟩ | ⟨-, hmake⟩ | ⟨-, hmake⟩
    · have hprod : t.shape.prod = inDim * outDim := by rw [htshape, List.prod_cons, List.prod_singleton]
      have hbytes : t.data.length = t.shape.prod * 4 := by
        rw [hc.nbytes, expectedNbytes, hdtype]
        rfl
      have hfloat : floatsAt unpack (loadedModel att1 tensors bytes records) pointer k =
          (unpackF32 (exactFloats pack unpack synthetic) t).getD k 0 := by
        rw [← hpointer]
        exact hb.floatsAt_eq ht hbytes (hprod.symm ▸ hk)
      rw [hfloat, hunpack]
    · exact absurd (hdtype.symm.trans (makeQ8TensorFromF32_form hmake).2.1) (by decide)
    · exact absurd (hdtype.symm.trans (makeQ4TensorFromF32_form hmake).2.1) (by decide)
  · obtain ⟨-, found, hfound, hshape, -⟩ := viewTensorQ8_eq_ok.mp hview
    obtain rfl := Option.some.inj (hfind.symm.trans hfound)
    have hdtype : t.dtype = dtypeQ8 := (tensorIsQ8Shape_iff.mp hshape).1
    rcases hcases with ⟨h, -⟩ | ⟨-, hmake⟩ | ⟨-, hmake⟩
    · exact absurd (h.symm.trans hdtype) (by decide)
    · have hquant := Checked.quantized hc hform (by rw [hdtype]; decide)
      have hread := (hweights R (scaled unpack) outDim inDim).1 view hview
      rw [hdata] at hread
      rw [getD_weights hquant hread hrow hcol, decoderWeight_emitted_q8 hpack hexact hsize hmake hrow hcol]
      have htwice : (254 : R) = 2 * 127 := by norm_num
      rw [htwice]
      refine abs_nearest_sub_le (by norm_num) ?_ (abs_roundAway_sub_le _) fun hzero => ?_
      · exact @abs_le_maxAbs R _ _ (fun c => (values i).getD (c * outDim + row) 0) _ _ hcol
      · rw [hzero, zero_div, roundAway_zero]
    · exact absurd ((makeQ4TensorFromF32_form hmake).2.1.symm.trans hdtype) (by decide)
  · obtain ⟨-, found, hfound, hshape, -⟩ := viewTensorQ4_eq_ok.mp hview
    obtain rfl := Option.some.inj (hfind.symm.trans hfound)
    have hdtype : t.dtype = dtypeQ4 := (tensorIsQ4Shape_iff.mp hshape).1
    rcases hcases with ⟨h, -⟩ | ⟨-, hmake⟩ | ⟨helig, hmake⟩
    · exact absurd (h.symm.trans hdtype) (by decide)
    · exact absurd ((makeQ8TensorFromF32_form hmake).2.1.symm.trans hdtype) (by decide)
    · have hquant := Checked.quantized hc hform (by rw [hdtype]; decide)
      have hread := (hweights R (scaled unpack) outDim inDim).2 view hview
      have hgroups : inDim % 32 = 0 := (isQ4Eligible_iff.mp helig).2.2.2
      rw [hdata] at hread
      rw [getD_weights hquant hread hrow hcol, decoderWeight_emitted_q4 hpack hexact hsize hgroups hmake hrow hcol]
      have htwice : (14 : R) = 2 * 7 := by norm_num
      rw [htwice]
      refine abs_nearest_sub_le (by norm_num) ?_ (abs_roundEven_sub_le _) fun hzero => ?_
      · have hplace : col / 32 * 32 + col % 32 = col := by omega
        have hbound := @abs_le_maxAbs R _ _
          (fun c => (values i).getD ((col / 32 * 32 + c) * outDim + row) 0) 32 (col % 32) (by omega)
        rwa [hplace] at hbound
      · rw [hzero, zero_div, roundEven_zero]

/-- The logit matrix in the f32 file and the q8 file of a config with a model dimension of 2. -/
theorem emitted_weights_within_logits : ∃ f32 q8 pointer view, exactFile .f32 = .ok f32 ∧ exactFile .q8 = .ok q8 ∧
    viewTensorF32 (load .generous (some f32.2)).model (ascii "output.weight") 2 2 1 = .ok pointer ∧
    viewTensorQ8 (load .generous (some q8.2)).model (ascii "output.weight") 1 2 = .ok view ∧
    (∀ k < 2, floatsAt sampleUnpack (load .generous (some f32.2)).model pointer k = 127) ∧
    ∀ col < 2, |127 - (view.weights (scaled sampleUnpack) q8.2).getD col 0| ≤ 127 / 254 := by
  have hf32 : (exactFile .f32).toOption.map (fun file => (viewTensorF32
      (loadedModel (sampleConfig 1 2 1) file.1 file.2 []) (ascii "output.weight") 2 2 1).toOption.isSome) =
        some true := by decide +kernel
  have hq8 : (exactFile .q8).toOption.map (fun file => (viewTensorQ8
      (loadedModel (sampleConfig 1 2 1) file.1 file.2 []) (ascii "output.weight") 1 2).toOption.isSome) =
        some true := by decide +kernel
  obtain ⟨⟨tensors, bytes⟩, hfile, hviewed⟩ := Option.map_eq_some_iff.mp hf32
  obtain ⟨⟨tensors', bytes'⟩, hfile', hviewed'⟩ := Option.map_eq_some_iff.mp hq8
  obtain ⟨pointer, hpointer⟩ := Option.isSome_iff_exists.mp hviewed
  obtain ⟨view, hview⟩ := Option.isSome_iff_exists.mp hviewed'
  have hfile := toOption_eq_some.mp hfile
  have hfile' := toOption_eq_some.mp hfile'
  obtain ⟨htensors, hbytes, live, hload⟩ := exactFile_loaded hfile
  obtain ⟨htensors', hbytes', live', hload'⟩ := exactFile_loaded hfile'
  have hpointer : viewTensorF32 (load .generous (some bytes)).model (ascii "output.weight") 2 2 1 = .ok pointer := by
    rw [hload]
    exact toOption_eq_some.mp hpointer
  have hview : viewTensorQ8 (load .generous (some bytes')).model (ascii "output.weight") 1 2 = .ok view := by
    rw [hload']
    exact toOption_eq_some.mp hview
  have hplan : (tensorNamePlan (sampleConfig 1 2 1))[11]? = some (ascii "output.weight", [2, 1]) := by decide +kernel
  have hvalues : ∀ k < 2, (sampleWeights 11).getD k 0 = 127 := by decide +kernel
  obtain ⟨hplain, -⟩ := emitted_weights_within (fun _ _ => length_samplePack) (fun _ _ => sampleUnpack_samplePack)
    (by decide) htensors hbytes (by rw [hload]) hplan
  obtain ⟨-, hquantized, -⟩ := emitted_weights_within (fun _ _ => length_samplePack)
    (fun _ _ => sampleUnpack_samplePack) (by decide) htensors' hbytes' (by rw [hload']) hplan
  refine ⟨_, _, pointer, view, hfile, hfile', hpointer, hview, fun k hk => ?_, fun col hcol => ?_⟩
  · exact (hplain pointer hpointer k hk).trans (hvalues k hk)
  · have hwithin := hquantized view hview 0 Nat.zero_lt_one col hcol
    have hgreatest : maxAbs (fun c => (sampleWeights 11).getD (c * 1 + 0) 0) 2 = 127 := by decide +kernel
    rw [hgreatest, Nat.mul_one, Nat.zero_mul, Nat.add_zero, Nat.zero_add, hvalues col hcol] at hwithin
    exact hwithin

end File

end Att1.Compare
