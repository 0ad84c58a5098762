import Att1.Converter.Exact
import Att1.Converter.Runnable
import Att1.Decoder.Prepare

/-!
# Att1.Converter.Prepared — the q8 matrices of a converter file and those that a q8 context makes of the f32 file

* `makeQ8TensorFromF32_exact`: the q8 payload of a tensor is the matrix of `att1_quantize_q8_per_row`.
* `Q8Stored`: a matrix in memory and the one that a file stores for it, its scales as floats of the file.
* `q8_agree`: the two preparations of a q8 context.
-/

open Att1.Lib Att1.ModelFile Att1.Decoder

namespace Att1.Converter

variable {R : Type} [Field R] [LinearOrder R] [FloorRing R] {pack : R → Option (List UInt8)} {unpack : List UInt8 → R}
  {synthetic : ℕ → ℕ → R}

/-! ### One tensor -/

section

variable {values : List R} {name : List UInt8} {rows cols inDim outDim : ℕ} {t : PyTensor}

theorem q8Filled_transpose2d {transposed : List R} (hlen : values.length = inDim * outDim)
    (h : transpose2d values inDim outDim = .ok transposed) :
    q8Filled (transposed.getD · 0) outDim inDim = q8Transposed (values.getD · 0) inDim outDim := by
  rw [transpose2d_eq hlen] at h
  cases h
  unfold q8Transposed
  rw [getD_map_range]

/-- The clamp of the converter is the one of `att1_quantize_q8_per_row`. -/
theorem min_max_eq_clampTo (q : ℤ) : min 127 (max (-127) q) = clampTo 127 q := by
  unfold clampTo
  split_ifs <;> omega

/-- **The q8 payload** of a tensor: the values of the quantized transpose, and its scales as floats. -/
theorem makeQ8TensorFromF32_exact (hlen : values.length = inDim * outDim)
    (h : makeQ8TensorFromF32 (exactFloats pack unpack synthetic) name [inDim, outDim] values = .ok t) :
    ∃ scaleBytes, packScales (exactFloats pack unpack synthetic)
        ((List.range outDim).map (q8Transposed (values.getD · 0) inDim outDim).scales) = .ok scaleBytes ∧
      t.shape = [outDim, inDim] ∧
      t.data = (List.range (outDim * inDim)).map (q8Transposed (values.getD · 0) inDim outDim).values ++ scaleBytes := by
  obtain ⟨q8Values, hq8, h⟩ := bind_eq_ok.mp h
  obtain ⟨q8Rows, hrows, h⟩ := bind_eq_ok.mp h
  obtain ⟨scaleBytes, hscales, h⟩ := bind_eq_ok.mp h
  cases h
  rw [← q8Filled_transpose2d hlen hq8]
  have hlength : q8Values.length = outDim * inDim := by
    rw [transpose2d_eq hlen] at hq8
    cases hq8
    rw [List.length_map, List.length_range]
  have hrow : ∀ row ∈ List.range outDim,
      q8Row (exactFloats pack unpack synthetic) name (slice q8Values (row * inDim) inDim) =
        .ok (q8RowScale (q8Values.getD · 0) inDim row,
          (List.range inDim).map fun col => UInt8.ofInt (q8Int (q8Values.getD · 0) inDim (row * inDim + col))) := by
    intro row hrow
    have hfits : row * inDim + inDim ≤ q8Values.length := by
      rw [hlength, ← Nat.succ_mul]
      exact Nat.mul_le_mul_right inDim (List.mem_range.mp hrow)
    refine rejectIf_bind_eq_ok.mpr ⟨by simp [exactFloats], congrArg Except.ok (Prod.ext ?_ ?_)⟩
    · rw [maxAbs_slice hfits]
      rfl
    · rw [maxAbs_slice hfits, slice_eq_map hfits 0, List.map_map]
      refine List.map_congr_left fun col hcol => ?_
      unfold q8Int
      rw [← min_max_eq_clampTo, block_div (List.mem_range.mp hcol)]
      rfl
  rw [mapM_eq_ok_map hrow] at hrows
  cases hrows
  refine ⟨scaleBytes, ?_, rfl, ?_⟩
  · rw [← hscales, List.map_map]
    refine congrArg _ (List.map_congr_left fun row hrow => ?_)
    exact array_of_lt (List.mem_range.mp hrow)
  · rw [List.map_map]
    refine congrArg (· ++ scaleBytes) ?_
    show ((List.range outDim).flatMap fun row => (List.range inDim).map fun col => _) = _
    rw [flatMap_range_blocks]
    refine List.map_congr_left fun i hi => ?_
    rw [Nat.div_add_mod']
    exact (if_pos (List.mem_range.mp hi)).symm

omit [Field R] [LinearOrder R] [FloorRing R] in
/-- Scale `row` in the packed scales. -/
theorem slice_packScales {ops : Floats R} {scales : List R} {scaleBytes : List UInt8} {row : ℕ} {scale : R}
    (hpack : ∀ v b, ops.pack v = some b → b.length = 4) (h : packScales ops scales = .ok scaleBytes)
    (hrow : scales[row]? = some scale) : ∃ b, ops.pack scale = some b ∧ slice scaleBytes (row * 4) 4 = b := by
  obtain ⟨packed, hpacked, h⟩ := bind_eq_ok.mp h
  cases h
  obtain ⟨hlen, hall⟩ := getElem?_of_mapM hpacked
  obtain ⟨b, hb, hscale⟩ := hall row scale hrow
  have hwidth : ∀ c ∈ packed, c.length = 4 := by
    intro c hc
    obtain ⟨k, hk⟩ := List.mem_iff_getElem?.mp hc
    have hlt : k < scales.length := hlen ▸ (List.getElem?_eq_some_iff.mp hk).1
    obtain ⟨c', hc', hpackc⟩ := hall k scales[k] (List.getElem?_eq_getElem hlt)
    rw [hk, Option.some.injEq] at hc'
    subst hc'
    exact hpack _ _ (orFail_eq_ok.mp hpackc)
  have hstart := blockStart_of_width hwidth (List.getElem?_eq_some_iff.mp hb).1.le
  have hslice := slice_flatten hb
  rw [hstart, hwidth b (List.mem_of_getElem? hb)] at hslice
  exact ⟨b, orFail_eq_ok.mp hscale, hslice⟩

end

/-! ### Matrices in memory and in a file -/

/-- A q8 matrix in memory and the one a file has for it: the same values, and the scales as the float format stores
them. -/
structure Q8Stored (pack : R → Option (List UInt8)) (unpack : List UInt8 → R) (m m' : Decoder.Q8Matrix R) : Prop where
  rows : m'.rows = m.rows
  cols : m'.cols = m.cols
  values : ∀ i < m.rows * m.cols, m'.values i = m.values i
  scales : ∀ row < m.rows, ∃ b, pack (m.scales row) = some b ∧ m'.scales row = unpack b

/-- Two q8 matrices with the same values and scales. -/
structure Q8Same (m m' : Decoder.Q8Matrix R) : Prop where
  rows : m'.rows = m.rows
  cols : m'.cols = m.cols
  values : ∀ i < m.rows * m.cols, m'.values i = m.values i
  scales : ∀ row < m.rows, m'.scales row = m.scales row

omit [Field R] [LinearOrder R] [FloorRing R] in
/-- A format that stores numbers exactly stores matrices exactly. -/
theorem Q8Stored.same {m m' : Decoder.Q8Matrix R} (h : Q8Stored pack unpack m m')
    (hexact : ∀ v b, pack v = some b → unpack b = v) : Q8Same m m' where
  rows := h.rows
  cols := h.cols
  values := h.values
  scales row hrow := by
    obtain ⟨b, hpack, hscale⟩ := h.scales row hrow
    rw [hscale, hexact _ _ hpack]

section

variable {att1 : Att1Dict} {tensors : List PyTensor} {emitShardMeta : Bool} {descs : List (List UInt8)}
  {shardBlob bytes : List UInt8} {records : List ShardMetaRecord}

/-- A file that was loaded is the model of its tensors. -/
theorem Built.model_eq (hb : Built att1 tensors emitShardMeta descs shardBlob bytes) {host : Host}
    (hdims : NonzeroDims att1) (hform : ∀ t ∈ tensors, DefaultForm t) (hok : (load host (some bytes)).status = .ok) :
    ∃ records, (load host (some bytes)).model = loadedModel att1 tensors bytes records := by
  have hl := loaded_of_ok hok
  have hmeta := hl.shardMeta
  rw [hb.tensors_eq hl] at hmeta
  have hcount := hb.count
  have hlength := hb.length_bytes
  have hmalloc : host.malloc bytes.length = true := hl.malloc.resolve_right (by
    unfold dataOffset descOffset modelHeaderSize at hlength
    omega)
  have hcalloc := hl.calloc
  rw [hb.headerFields_eq] at hcalloc
  have htensors : (parsedHeader tensors emitShardMeta shardBlob).tensorCount = tensors.length := rfl
  rw [htensors] at hcalloc
  obtain ⟨live, hload⟩ := load_of_loaded
    (hb.loaded hdims hform hmalloc (hcalloc.resolve_right (by omega)) hmeta)
  exact ⟨_, by rw [hload]⟩

/-- The floats of an f32 tensor. -/
theorem Built.floatsAt_eq (hb : Built att1 tensors emitShardMeta descs shardBlob bytes) {i k : ℕ} {t : PyTensor}
    (hi : tensors[i]? = some t) (hbytes : t.data.length = t.shape.prod * 4) (hk : k < t.shape.prod) :
    floatsAt unpack (loadedModel att1 tensors bytes records)
        (loadedTensor tensors.length t (blockStart (payloads tensors) i)).data k =
      (unpackF32 (exactFloats pack unpack synthetic) t).getD k 0 := by
  have hslice : slice bytes (dataOffset tensors.length + blockStart (payloads tensors) i + k * 4) 4 =
      slice t.data (k * 4) 4 := by
    conv_rhs => rw [← hb.payload_eq hi, slice_slice (by omega)]
  have hunpack := congrFun (getD_map_range t.shape.prod fun k => unpack (slice t.data (k * 4) 4)) k
  refine (congrArg unpack hslice).trans (Eq.trans ?_ hunpack.symm)
  exact (if_pos hk).symm

/-- The view of a q8 tensor is the stored form of the matrix whose values and scales it holds. -/
theorem Built.q8Stored (hb : Built att1 tensors emitShardMeta descs shardBlob bytes) {i : ℕ} {t : PyTensor}
    (hi : tensors[i]? = some t) (hpack : ∀ v b, pack v = some b → b.length = 4) {m : Decoder.Q8Matrix R}
    {scaleBytes : List UInt8}
    (hscales : packScales (exactFloats pack unpack synthetic) ((List.range m.rows).map m.scales) = .ok scaleBytes)
    (hdata : t.data = (List.range (m.rows * m.cols)).map m.values ++ scaleBytes) :
    Q8Stored pack unpack m (q8At unpack (loadedModel att1 tensors bytes records)
      ⟨m.rows, m.cols, (loadedTensor tensors.length t (blockStart (payloads tensors) i)).data,
        (loadedTensor tensors.length t (blockStart (payloads tensors) i)).data.map (· + sizeT (m.rows * m.cols))⟩) := by
  have hpayload := hb.payload_eq hi
  have hlen : t.data.length = m.rows * m.cols + scaleBytes.length := by
    rw [hdata, List.length_append, List.length_map, List.length_range]
  have hsmall : sizeT (m.rows * m.cols) = m.rows * m.cols := by
    refine sizeT_eq ?_
    have hinside := blockStart_add_le (getElem?_payloads hi)
    have hlength := hb.length_bytes
    have hsize := hb.size
    unfold pyMaxSize at hsize
    unfold sizeMax
    omega
  refine ⟨rfl, rfl, fun k hk => ?_, fun row hrow => ?_⟩
  · show bytes.getD (dataOffset tensors.length + blockStart (payloads tensors) i + k) 0 = m.values k
    have hvalue : t.data.getD k 0 = m.values k := by
      rw [hdata, List.getD_eq_getElem?_getD, List.getElem?_append_left (by simpa using hk), List.getElem?_map,
        List.getElem?_range hk]
      rfl
    rw [← hvalue, ← getD_slice 0 (by omega : k < t.data.length), hpayload]
  · have hget : ((List.range m.rows).map m.scales)[row]? = some (m.scales row) := by
      rw [List.getElem?_map, List.getElem?_range hrow]
      rfl
    obtain ⟨b, hb', hslice⟩ := slice_packScales hpack hscales hget
    refine ⟨b, hb', congrArg unpack ?_⟩
    show slice bytes (dataOffset tensors.length + blockStart (payloads tensors) i + sizeT (m.rows * m.cols) + row * 4) 4 = b
    have hfits : row * 4 + 4 ≤ scaleBytes.length := by
      have hfour := congrArg List.length hslice
      rw [hpack _ _ hb', slice, List.length_take, List.length_drop] at hfour
      omega
    rw [← hslice, hsmall, Nat.add_assoc _ (m.rows * m.cols), ← slice_slice (by omega : m.rows * m.cols + row * 4 + 4 ≤ t.data.length),
      hpayload, hdata, slice_append_right (by simp)]
    simp

end

/-! ### The two files of a model -/

section

variable {att1 : Att1Dict} {values : ℕ → List R} {tensors tensors' : List PyTensor} {emitShardMeta emitShardMeta' : Bool}
  {descs descs' : List (List UInt8)} {shardBlob shardBlob' bytes bytes' : List UInt8}
  {records records' : List ShardMetaRecord} {host : Host} {name : List UInt8} {inDim outDim : ℕ}

/-- The q8 tensor of the q8 file, with the matrix of the f32 tensor that was there before. -/
theorem q8_of_f32 (hf32 : buildTensors (exactFloats pack unpack synthetic) att1 (.real .f32 values) = .ok tensors)
    (hq8 : buildTensors (exactFloats pack unpack synthetic) att1 (.real .q8 values) = .ok tensors') {i : ℕ}
    (hi : (tensorNamePlan att1)[i]? = some (name, [inDim, outDim])) (hname : name ≠ ascii "tok_embeddings.weight") :
    ∃ t t', tensors[i]? = some t ∧ tensors'[i]? = some t' ∧ (t.name = name ∧ t.shape = [inDim, outDim] ∧ t.dtype = dtypeF32) ∧
      makeQ8TensorFromF32 (exactFloats pack unpack synthetic) name [inDim, outDim]
        (unpackF32 (exactFloats pack unpack synthetic) t) = .ok t' := by
  obtain ⟨t, ht, hmake⟩ := buildRealF32Tensors_getElem? hf32 hi
  obtain ⟨htname, hshape, hdtype, -⟩ := tensorFromValues_form hmake
  obtain ⟨_, hf32', hq8⟩ := bind_eq_ok.mp hq8
  have hsame := hf32'.symm.trans hf32
  cases hsame
  obtain ⟨t', ht', hquant⟩ := (getElem?_of_mapM hq8).2 i t ht
  have helig : isQ8Eligible name [inDim, outDim] = true := by simp [isQ8Eligible, hname]
  rw [htname, hshape, if_pos helig] at hquant
  exact ⟨t, t', ht, ht', ⟨htname, hshape, hdtype⟩, hquant⟩

/-- **One matrix**: the q8 file stores what quantizing the f32 tensor on load leaves. -/
theorem matrix_stored (hb : Built att1 tensors emitShardMeta descs shardBlob bytes)
    (hb' : Built att1 tensors' emitShardMeta' descs' shardBlob' bytes')
    (hf32 : buildTensors (exactFloats pack unpack synthetic) att1 (.real .f32 values) = .ok tensors)
    (hq8 : buildTensors (exactFloats pack unpack synthetic) att1 (.real .q8 values) = .ok tensors')
    (hpack : ∀ v b, pack v = some b → b.length = 4) (hmem : (name, [inDim, outDim]) ∈ tensorNamePlan att1)
    (hname : name ≠ ascii "tok_embeddings.weight") {pointer : Option ℕ} {m : Decoder.Q8Matrix R}
    (hview : viewTensorF32 (loadedModel att1 tensors bytes records) name 2 inDim outDim = .ok pointer)
    (hm : inferQuantizeTransposed host (floatsAt unpack (loadedModel att1 tensors bytes records) pointer) inDim outDim =
      some m) :
    ∃ view, viewTensorQ8 (loadedModel att1 tensors' bytes' records') name outDim inDim = .ok view ∧
      Q8Stored pack unpack m (q8At unpack (loadedModel att1 tensors' bytes' records') view) := by
  obtain ⟨i, hi⟩ := List.mem_iff_getElem?.mp hmem
  obtain ⟨t, t', ht, ht', ⟨htname, hshape, hdtype⟩, hquant⟩ := q8_of_f32 hf32 hq8 hi hname
  obtain ⟨ht'name, ht'dtype, -⟩ := makeQ8TensorFromF32_form hquant
  have hprod : t.shape.prod = inDim * outDim := by rw [hshape, List.prod_cons, List.prod_singleton]
  have hlen : (unpackF32 (exactFloats pack unpack synthetic) t).length = inDim * outDim := by
    rw [unpackF32, List.length_map, List.length_range, hprod]
  have hbytes : t.data.length = t.shape.prod * 4 := by
    rw [(hb.checked i _ t hi ht).nbytes, expectedNbytes, hdtype]
    rfl
  obtain ⟨scaleBytes, hscales, ht'shape, hdata⟩ := makeQ8TensorFromF32_exact hlen hquant
  -- the pointer is that of the f32 tensor, and the floats behind it are its values
  obtain ⟨-, found, hfound, -, hpointer⟩ := viewTensorF32_eq_ok.mp hview
  have hfind : findTensor (loadedModel att1 tensors bytes records) t.name = _ := hb.findTensor_eq ht
  rw [htname, hfound, Option.some.injEq] at hfind
  subst hfind
  subst hpointer
  obtain ⟨hin, hout, rfl⟩ := inferQuantizeTransposed_eq_some hm
  have hsame : q8Transposed (floatsAt unpack (loadedModel att1 tensors bytes records)
        (loadedTensor tensors.length t (blockStart (payloads tensors) i)).data) inDim outDim =
      q8Transposed ((unpackF32 (exactFloats pack unpack synthetic) t).getD · 0) inDim outDim := by
    have hcells : ∀ k < outDim * inDim, floatsAt unpack (loadedModel att1 tensors bytes records)
          (loadedTensor tensors.length t (blockStart (payloads tensors) i)).data (k % inDim * outDim + k / inDim) =
        (unpackF32 (exactFloats pack unpack synthetic) t).getD (k % inDim * outDim + k / inDim) 0 := by
      intro k hk
      refine hb.floatsAt_eq ht hbytes ?_
      rw [hprod]
      exact block_lt (mod_lt_of_lt_mul hk) (div_lt_of_lt_mul hk)
    unfold q8Transposed
    rw [array_congr hcells]
  rw [hsame]
  have hfind' : findTensor (loadedModel att1 tensors' bytes' records') t'.name = _ := hb'.findTensor_eq ht'
  rw [ht'name] at hfind'
  obtain ⟨hndims, hrows, hcols⟩ := parsedTensor_matrix ht'shape (blockStart (payloads tensors') i)
  refine ⟨_, viewTensorQ8_eq_ok.mpr ⟨⟨hout, hin⟩, _, hfind', ?_, rfl⟩, ?_⟩
  · exact tensorIsQ8Shape_iff.mpr ⟨ht'dtype, hndims, hrows, hcols⟩
  · exact hb'.q8Stored ht' hpack hscales hdata

/-- A matrix of a layer. -/
theorem layer_matrix_stored (hb : Built att1 tensors emitShardMeta descs shardBlob bytes)
    (hb' : Built att1 tensors' emitShardMeta' descs' shardBlob' bytes')
    (hf32 : buildTensors (exactFloats pack unpack synthetic) att1 (.real .f32 values) = .ok tensors)
    (hq8 : buildTensors (exactFloats pack unpack synthetic) att1 (.real .q8 values) = .ok tensors')
    (hpack : ∀ v b, pack v = some b → b.length = 4) {layer : ℕ} {suffix : String}
    (hmem : (layerPrefix layer ++ (ascii "." ++ ascii suffix), [inDim, outDim]) ∈ tensorNamePlan att1)
    {pointer : Option ℕ} {m : Decoder.Q8Matrix R}
    (hview : layerTensorF32 (loadedModel att1 tensors bytes records) layer suffix 2 inDim outDim = .ok pointer)
    (hm : inferQuantizeTransposed host (floatsAt unpack (loadedModel att1 tensors bytes records) pointer) inDim outDim =
      some m) :
    ∃ m', layerTensorQ8 unpack (loadedModel att1 tensors' bytes' records') layer suffix outDim inDim = .ok m' ∧
      Q8Stored pack unpack m m' := by
  have hname := (hb.planned hf32 records).layerName_eq hmem
  have hnot : layerPrefix layer ++ (ascii "." ++ ascii suffix) ≠ ascii "tok_embeddings.weight" := by
    intro heq
    have hhead := congrArg List.head? heq
    revert hhead
    exact (by decide : some (0x6c : UInt8) ≠ some 0x74)
  obtain ⟨_, hname', hview⟩ := bind_eq_ok.mp hview
  cases hname.symm.trans hname'
  obtain ⟨view, hview', hstored⟩ := matrix_stored hb hb' hf32 hq8 hpack hmem hnot hview hm
  exact ⟨_, bind_eq_ok.mpr ⟨_, hname, bind_eq_ok.mpr ⟨_, hview', rfl⟩⟩, hstored⟩

/-- The matrices of two layers, related one by one. -/
structure LayerRelated (P : Decoder.Q8Matrix R → Decoder.Q8Matrix R → Prop)
    (w w' : BlockWeights R (Decoder.Q8Matrix R)) : Prop where
  wq : P w.wq w'.wq
  wk : P w.wk w'.wk
  wv : P w.wv w'.wv
  wo : P w.wo w'.wo
  wGate : P w.wGate w'.wGate
  wUp : P w.wUp w'.wUp
  wDown : P w.wDown w'.wDown

/-- The matrices of two contexts, layer by layer and in the output projection. -/
structure WeightsRelated (P : Decoder.Q8Matrix R → Decoder.Q8Matrix R → Prop) (nLayers : ℕ)
    (w w' : QuantizedWeights R (Decoder.Q8Matrix R)) : Prop where
  layers : ∀ layer < nLayers, LayerRelated P (w.layers layer) (w'.layers layer)
  outputWeight : P w.outputWeight w'.outputWeight

omit [Field R] [LinearOrder R] [FloorRing R] in
theorem WeightsRelated.imp {P Q : Decoder.Q8Matrix R → Decoder.Q8Matrix R → Prop} {nLayers : ℕ}
    {w w' : QuantizedWeights R (Decoder.Q8Matrix R)} (h : WeightsRelated P nLayers w w') (hPQ : ∀ m m', P m m' → Q m m') :
    WeightsRelated Q nLayers w w' where
  layers layer hlayer :=
    have hl := h.layers layer hlayer
    ⟨hPQ _ _ hl.wq, hPQ _ _ hl.wk, hPQ _ _ hl.wv, hPQ _ _ hl.wo, hPQ _ _ hl.wGate, hPQ _ _ hl.wUp, hPQ _ _ hl.wDown⟩
  outputWeight := hPQ _ _ h.outputWeight

/-- **One layer.** -/
theorem layer_stored (hb : Built att1 tensors emitShardMeta descs shardBlob bytes)
    (hb' : Built att1 tensors' emitShardMeta' descs' shardBlob' bytes')
    (hf32 : buildTensors (exactFloats pack unpack synthetic) att1 (.real .f32 values) = .ok tensors)
    (hq8 : buildTensors (exactFloats pack unpack synthetic) att1 (.real .q8 values) = .ok tensors')
    (hpack : ∀ v b, pack v = some b → b.length = 4) {layer : ℕ} (hlayer : layer < att1.nLayers)
    {w : BlockWeights R (Decoder.Q8Matrix R)}
    (h : inferQuantizeLayer host unpack (loadedModel att1 tensors bytes records) layer = .ok w) :
    ∃ w', inferLoadFileQ8Layer unpack (loadedModel att1 tensors' bytes' records') layer = .ok w' ∧
      LayerRelated (Q8Stored pack unpack) w w' := by
  have hmem (k : ℕ) {entry : List UInt8 × List ℕ} (h : (layerPlan att1.dModel att1.dFf layer)[k]? = some entry) :
      entry ∈ tensorNamePlan att1 :=
    List.mem_cons_of_mem _ (List.mem_append_left _
      (List.mem_flatMap.mpr ⟨layer, List.mem_range.mpr hlayer, List.mem_of_getElem? h⟩))
  obtain ⟨pointers, hpointers, h⟩ := bind_eq_ok.mp h
  obtain ⟨-, hpointers⟩ := rejectIf_bind_eq_ok.mp hpointers
  obtain ⟨attentionNorm, -, hpointers⟩ := bind_eq_ok.mp hpointers
  obtain ⟨_, hq, hpointers⟩ := bind_eq_ok.mp hpointers
  obtain ⟨_, hk, hpointers⟩ := bind_eq_ok.mp hpointers
  obtain ⟨_, hv, hpointers⟩ := bind_eq_ok.mp hpointers
  obtain ⟨_, ho, hpointers⟩ := bind_eq_ok.mp hpointers
  obtain ⟨ffnNorm, -, hpointers⟩ := bind_eq_ok.mp hpointers
  obtain ⟨_, hgate, hpointers⟩ := bind_eq_ok.mp hpointers
  obtain ⟨_, hup, hpointers⟩ := bind_eq_ok.mp hpointers
  obtain ⟨_, hdown, hpointers⟩ := bind_eq_ok.mp hpointers
  cases hpointers
  obtain ⟨wq, hwq, h⟩ := orFail_bind_eq_ok.mp h
  obtain ⟨wk, hwk, h⟩ := orFail_bind_eq_ok.mp h
  obtain ⟨wv, hwv, h⟩ := orFail_bind_eq_ok.mp h
  obtain ⟨wo, hwo, h⟩ := orFail_bind_eq_ok.mp h
  obtain ⟨wGate, hwGate, h⟩ := orFail_bind_eq_ok.mp h
  obtain ⟨wUp, hwUp, h⟩ := orFail_bind_eq_ok.mp h
  obtain ⟨wDown, hwDown, h⟩ := orFail_bind_eq_ok.mp h
  cases h
  have hp' := hb'.planned hq8 records'
  obtain ⟨norm', hnorm'⟩ : ∃ out, layerTensorF32 (loadedModel att1 tensors' bytes' records') layer
      "attention_norm.weight" 1 att1.dModel 1 = .ok out := hp'.layerVector (hmem 0 rfl)
  obtain ⟨ffn', hffn'⟩ : ∃ out, layerTensorF32 (loadedModel att1 tensors' bytes' records') layer "ffn_norm.weight" 1
      att1.dModel 1 = .ok out := hp'.layerVector (hmem 5 rfl)
  obtain ⟨wq', hq', hsq⟩ := layer_matrix_stored hb hb' hf32 hq8 hpack (hmem 1 rfl) hq hwq
  obtain ⟨wk', hk', hsk⟩ := layer_matrix_stored hb hb' hf32 hq8 hpack (hmem 2 rfl) hk hwk
  obtain ⟨wv', hv', hsv⟩ := layer_matrix_stored hb hb' hf32 hq8 hpack (hmem 3 rfl) hv hwv
  obtain ⟨wo', ho', hso⟩ := layer_matrix_stored hb hb' hf32 hq8 hpack (hmem 4 rfl) ho hwo
  obtain ⟨wGate', hgate', hsgate⟩ := layer_matrix_stored hb hb' hf32 hq8 hpack (hmem 6 rfl) hgate hwGate
  obtain ⟨wUp', hup', hsup⟩ := layer_matrix_stored hb hb' hf32 hq8 hpack (hmem 7 rfl) hup hwUp
  obtain ⟨wDown', hdown', hsdown⟩ := layer_matrix_stored hb hb' hf32 hq8 hpack (hmem 8 rfl) hdown hwDown
  have hload : inferLoadFileQ8Layer unpack (loadedModel att1 tensors' bytes' records') layer =
      .ok ⟨floatsAt unpack (loadedModel att1 tensors' bytes' records') norm',
        floatsAt unpack (loadedModel att1 tensors' bytes' records') ffn', wq', wk', wv', wo', wGate', wUp', wDown'⟩ := by
    unfold inferLoadFileQ8Layer
    simp only [bind_eq_ok]
    exact ⟨_, hnorm', _, hq', _, hk', _, hv', _, ho', _, hffn', _, hgate', _, hup', _, hdown', rfl⟩
  exact ⟨_, hload, hsq, hsk, hsv, hso, hsgate, hsup, hsdown⟩

/-- **The prepared weights** of the two files. -/
theorem prepared_stored (hb : Built att1 tensors emitShardMeta descs shardBlob bytes)
    (hb' : Built att1 tensors' emitShardMeta' descs' shardBlob' bytes')
    (hf32 : buildTensors (exactFloats pack unpack synthetic) att1 (.real .f32 values) = .ok tensors)
    (hq8 : buildTensors (exactFloats pack unpack synthetic) att1 (.real .q8 values) = .ok tensors')
    (hpack : ∀ v b, pack v = some b → b.length = 4) {w : QuantizedWeights R (Decoder.Q8Matrix R)}
    (h : inferPrepareQ8 host unpack (loadedModel att1 tensors bytes records) none = .ok w) :
    ∃ w', inferPrepareQ8 host unpack (loadedModel att1 tensors' bytes' records') none = .ok w' ∧
      WeightsRelated (Q8Stored pack unpack) att1.nLayers w w' := by
  have hmem : (ascii "output.weight", [att1.dModel, att1.vocabSize]) ∈ tensorNamePlan att1 := by simp [tensorNamePlan]
  have hname : ascii "output.weight" ≠ ascii "tok_embeddings.weight" := by decide
  have hno : inferModelHasFileQ8 (loadedModel att1 tensors bytes records) = false := by
    obtain ⟨-, found, hfound, hdtype, -⟩ := (hb.planned hf32 records).tensor _ _ hmem
    unfold inferModelHasFileQ8
    rw [hfound, Option.any_some, hdtype]
    rfl
  have hyes : inferModelHasFileQ8 (loadedModel att1 tensors' bytes' records') = true := by
    obtain ⟨-, found, hfound, hdtype, -⟩ := (hb'.planned hq8 records').tensor _ _ hmem
    unfold inferModelHasFileQ8
    rw [hfound, Option.any_some, hdtype]
    exact beq_iff_eq.mpr (plannedDtype_q8 hname _ _)
  unfold inferPrepareQ8 at h ⊢
  simp only [hno, hyes, Bool.false_eq_true, if_false, if_true] at h ⊢
  obtain ⟨layers, hlayers, h⟩ := bind_eq_ok.mp h
  obtain ⟨norm, -, h⟩ := bind_eq_ok.mp h
  obtain ⟨pointer, hpointer, h⟩ := bind_eq_ok.mp h
  obtain ⟨output, houtput, h⟩ := orFail_bind_eq_ok.mp h
  cases h
  have hload : ∀ layer < att1.nLayers, ∀ w,
      inferQuantizeLayer host unpack (loadedModel att1 tensors bytes records) layer = .ok w →
        ∃ w', inferLoadFileQ8Layer unpack (loadedModel att1 tensors' bytes' records') layer = .ok w' ∧
          LayerRelated (Q8Stored pack unpack) w w' :=
    fun layer hlayer w hw => layer_stored hb hb' hf32 hq8 hpack hlayer hw
  have hcount : (loadedModel att1 tensors' bytes' records').config.nLayers =
      (loadedModel att1 tensors bytes records).config.nLayers := rfl
  obtain ⟨layers', hlayers', hrelated⟩ := prepareLayers_of_related hcount hload hlayers
  obtain ⟨norm', hnorm'⟩ := (hb'.planned hq8 records').viewOutputNorm
  obtain ⟨view, hview, hstored⟩ : ∃ view, viewTensorQ8 (loadedModel att1 tensors' bytes' records') (ascii "output.weight")
      att1.vocabSize att1.dModel = .ok view ∧ Q8Stored pack unpack output (q8At unpack _ view) :=
    matrix_stored hb hb' hf32 hq8 hpack hmem hname hpointer houtput
  have hfile : inferPrepareFileQ8 host unpack (loadedModel att1 tensors' bytes' records') =
      .ok ⟨layers', floatsAt unpack (loadedModel att1 tensors' bytes' records') norm',
        q8At unpack (loadedModel att1 tensors' bytes' records') view⟩ := by
    unfold inferPrepareFileQ8
    simp only [bind_eq_ok]
    exact ⟨_, hlayers', _, hnorm', _, hview, rfl⟩
  exact ⟨_, hfile, hrelated, hstored⟩

end

/-- **q8 is the same** in the two languages and on the two ways to a q8 context. -/
theorem q8_agree (pack : R → Option (List UInt8)) (unpack : List UInt8 → R) (synthetic : ℕ → ℕ → R) (host : Host) :
    (∀ (name : List UInt8) (values transposed : List R) (inDim outDim : ℕ) (m : Decoder.Q8Matrix R) (t : PyTensor),
      values.length = inDim * outDim → transpose2d values inDim outDim = .ok transposed →
      quantizeQ8PerRow host (transposed.getD · 0) outDim inDim = some m →
      makeQ8TensorFromF32 (exactFloats pack unpack synthetic) name [inDim, outDim] values = .ok t →
        (∃ scaleBytes, packScales (exactFloats pack unpack synthetic) ((List.range outDim).map m.scales) = .ok scaleBytes ∧
          t.data = (List.range (outDim * inDim)).map m.values ++ scaleBytes) ∧
        ∀ i < outDim * inDim, |int8Value (m.values i)| ≤ 127) ∧
    ∀ (att1 : Att1Dict) (values : ℕ → List R) (tensors tensors' : List PyTensor) (emitShardMeta emitShardMeta' : Bool)
      (bytes bytes' : List UInt8) (host₁ host₂ : Host) (w : QuantizedWeights R (Decoder.Q8Matrix R)),
      (∀ v b, pack v = some b → b.length = 4) → validateAtt1Config att1 = some [] →
      buildTensors (exactFloats pack unpack synthetic) att1 (.real .f32 values) = .ok tensors →
      buildTensors (exactFloats pack unpack synthetic) att1 (.real .q8 values) = .ok tensors' →
      buildAtt1BytesFromTensors att1 tensors emitShardMeta = .ok bytes →
      buildAtt1BytesFromTensors att1 tensors' emitShardMeta' = .ok bytes' →
      (load host₁ (some bytes)).status = .ok → (load host₂ (some bytes')).status = .ok →
      inferPrepareQ8 host unpack (load host₁ (some bytes)).model none = .ok w →
        ∃ w', inferPrepareQ8 host unpack (load host₂ (some bytes')).model none = .ok w' ∧
          WeightsRelated (Q8Stored pack unpack) att1.nLayers w w' ∧
          ((∀ v b, pack v = some b → unpack b = v) → WeightsRelated Q8Same att1.nLayers w w') := by
  constructor
  · intro name values transposed inDim outDim m t hlen htransposed hm ht
    obtain ⟨-, rfl⟩ := quantizeQ8PerRow_eq_some.mp hm
    obtain ⟨scaleBytes, hscales, -, hdata⟩ := makeQ8TensorFromF32_exact hlen ht
    rw [q8Filled_transpose2d hlen htransposed]
    refine ⟨⟨scaleBytes, hscales, hdata⟩, fun i hi => ?_⟩
    have hvalue : (q8Filled (transposed.getD · 0) outDim inDim).values i =
        UInt8.ofInt (q8Int (transposed.getD · 0) inDim i) := if_pos hi
    rw [← q8Filled_transpose2d hlen htransposed, hvalue, int8Value_ofInt (abs_q8Int_le _ _ _)]
    exact abs_q8Int_le _ _ _
  · intro att1 values tensors tensors' emitShardMeta emitShardMeta' bytes bytes' host₁ host₂ w hpack hvalid hf32 hq8 hbuild
      hbuild' hok hok' hw
    obtain ⟨descs, shardBlob, hb⟩ := built_of_build hbuild
    obtain ⟨descs', shardBlob', hb'⟩ := built_of_build hbuild'
    have hdims := (validConfig_of_validate hvalid).nonzeroDims
    obtain ⟨records, hmodel⟩ := hb.model_eq hdims (fun t ht => (hb.dtype_of_mem hf32 ht).1) hok
    obtain ⟨records', hmodel'⟩ := hb'.model_eq hdims (fun t ht => (hb'.dtype_of_mem hq8 ht).1) hok'
    rw [hmodel] at hw
    rw [hmodel']
    obtain ⟨w', hw', hrelated⟩ := prepared_stored hb hb' hf32 hq8 hpack hw
    exact ⟨w', hw', hrelated, fun hexact => hrelated.imp fun m m' h => h.same hexact⟩

/-! ### Samples -/

/-- The floats 0, 1 and 127. -/
def samplePack (v : ℚ) : Option (List UInt8) :=
  if v = 0 then some [0x00, 0x00, 0x00, 0x00]
  else if v = 1 then some [0x00, 0x00, 0x80, 0x3F]
  else if v = 127 then some [0x00, 0x00, 0xFE, 0x42]
  else none

def sampleUnpack (b : List UInt8) : ℚ :=
  if b = [0x00, 0x00, 0x80, 0x3F] then 1 else if b = [0x00, 0x00, 0xFE, 0x42] then 127 else 0

/-- The float operations with these floats. -/
def sampleExact : Floats ℚ := exactFloats samplePack sampleUnpack fun _ _ => 0

/-- The value 127 everywhere. -/
def sampleWeights (i : ℕ) : List ℚ :=
  List.replicate (((tensorNamePlan (sampleConfig 1 2 1)).map fun entry => entry.2.prod).getD i 0) 127

/-- The file of a config with these weights. -/
def exactFile (format : WeightFormat) : Except ConvertError (List PyTensor × List UInt8) := do
  let tensors ← buildTensors sampleExact (sampleConfig 1 2 1) (.real format sampleWeights)
  let bytes ← buildAtt1BytesFromTensors (sampleConfig 1 2 1) tensors false
  .ok (tensors, bytes)

theorem length_samplePack {v : ℚ} {b : List UInt8} (h : samplePack v = some b) : b.length = 4 := by
  unfold samplePack at h
  split_ifs at h <;> cases h <;> rfl

theorem sampleUnpack_samplePack {v : ℚ} {b : List UInt8} (h : samplePack v = some b) : sampleUnpack b = v := by
  unfold samplePack at h
  split_ifs at h with h0 h1 h127
  · cases h
    exact h0.symm
  · cases h
    exact h1.symm
  · cases h
    exact h127.symm

/-- The files of the config are loaded. -/
theorem exactFile_loaded {format : WeightFormat} {tensors : List PyTensor} {bytes : List UInt8}
    (h : exactFile format = .ok (tensors, bytes)) :
    buildTensors sampleExact (sampleConfig 1 2 1) (.real format sampleWeights) = .ok tensors ∧
      buildAtt1BytesFromTensors (sampleConfig 1 2 1) tensors false = .ok bytes ∧
      ∃ live, load .generous (some bytes) = ⟨.ok, loadedModel (sampleConfig 1 2 1) tensors bytes [], live⟩ := by
  obtain ⟨_, htensors, h⟩ := bind_eq_ok.mp h
  obtain ⟨_, hbytes, h⟩ := bind_eq_ok.mp h
  cases h
  obtain ⟨descs, shardBlob, hb⟩ := built_of_build hbytes
  have hcount : tensors.length = 12 := hb.count
  refine ⟨htensors, hbytes, hb.load_eq (validConfig_of_validate (by decide)).nonzeroDims
    (fun t ht => (hb.dtype_of_mem htensors ht).1) (Host.generous_malloc (hb.size.trans (by decide))) ?_⟩
  rw [hcount]
  decide

/-- The transposed matrix of the rows 127, 127/2 and 0, 0; and the two files of a config with a model dimension of 2. -/
theorem q8_agree_sample :
    (∃ (m : Decoder.Q8Matrix ℚ) (t : PyTensor),
      quantizeQ8PerRow .generous (([127, 127 / 2, 0, 0] : List ℚ).getD · 0) 2 2 = some m ∧
      makeQ8TensorFromF32 sampleExact [] [2, 2] [127, 0, 127 / 2, 0] = .ok t ∧
      ∃ scaleBytes, t.data = (List.range (2 * 2)).map m.values ++ scaleBytes) ∧
    ∃ f32 q8 w w', exactFile .f32 = .ok f32 ∧ exactFile .q8 = .ok q8 ∧
      inferPrepareQ8 .generous sampleUnpack (load .generous (some f32.2)).model none = .ok w ∧
      inferPrepareQ8 .generous sampleUnpack (load .generous (some q8.2)).model none = .ok w' ∧
      WeightsRelated Q8Same 1 w w' := by
  constructor
  · obtain ⟨t, ht⟩ : ∃ t, makeQ8TensorFromF32 sampleExact [] [2, 2] [127, 0, 127 / 2, 0] = .ok t := by
      have hok : (makeQ8TensorFromF32 sampleExact [] [2, 2] [127, 0, 127 / 2, 0]).toOption.isSome = true := by
        decide +kernel
      obtain ⟨t, ht⟩ := Option.isSome_iff_exists.mp hok
      exact ⟨t, toOption_eq_some.mp ht⟩
    have htransposed : transpose2d ([127, 0, 127 / 2, 0] : List ℚ) 2 2 = .ok [127, 127 / 2, 0, 0] := by decide +kernel
    have hm : quantizeQ8PerRow .generous (([127, 127 / 2, 0, 0] : List ℚ).getD · 0) 2 2 = some (q8Filled _ 2 2) :=
      quantizeQ8PerRow_eq_some.mpr ⟨by decide, rfl⟩
    obtain ⟨⟨scaleBytes, -, hdata⟩, -⟩ :=
      (q8_agree samplePack sampleUnpack (fun _ _ => 0) .generous).1 [] _ _ 2 2 _ t rfl htransposed hm ht
    exact ⟨_, t, hm, ht, scaleBytes, hdata⟩
  · have hf32 : (exactFile .f32).toOption.map (fun file => (inferPrepareQ8 .generous sampleUnpack
        (loadedModel (sampleConfig 1 2 1) file.1 file.2 []) none).toOption.isSome) = some true := by decide +kernel
    have hq8 : (exactFile .q8).toOption.isSome = true := by decide +kernel
    obtain ⟨⟨tensors, bytes⟩, hfile, hprepared⟩ := Option.map_eq_some_iff.mp hf32
    obtain ⟨⟨tensors', bytes'⟩, hfile'⟩ := Option.isSome_iff_exists.mp hq8
    obtain ⟨w, hw⟩ := Option.isSome_iff_exists.mp hprepared
    have hfile := toOption_eq_some.mp hfile
    have hfile' := toOption_eq_some.mp hfile'
    obtain ⟨htensors, hbytes, live, hload⟩ := exactFile_loaded hfile
    obtain ⟨htensors', hbytes', live', hload'⟩ := exactFile_loaded hfile'
    have hw : inferPrepareQ8 .generous sampleUnpack (load .generous (some bytes)).model none = .ok w := by
      rw [hload]
      exact toOption_eq_some.mp hw
    obtain ⟨w', hw', -, hsame⟩ := (q8_agree samplePack sampleUnpack (fun _ _ => 0) .generous).2 (sampleConfig 1 2 1)
      sampleWeights tensors tensors' false false bytes bytes' .generous .generous w (fun _ _ => length_samplePack)
      (by decide) htensors htensors' hbytes hbytes' (by rw [hload]) (by rw [hload']) hw
    exact ⟨_, _, w, w', hfile, hfile', hw, hw', hsame fun _ _ => sampleUnpack_samplePack⟩

end Att1.Converter
