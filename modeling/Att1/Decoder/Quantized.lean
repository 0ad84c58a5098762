import Att1.Decoder.Attention

/-!
# Att1.Decoder.Quantized — the f32, q8 and q4 forward passes compute one function

A product with a quantized matrix is the f32 product with the transposed matrix of its dequantized values
(`matmulQ8xf32_eq`, `matmulQ4xf32_eq`).  Two forward passes whose products agree on the shapes of the block are equal
on every cache and input (`blockForward_congr`).
-/

open Att1.Lib Att1.Lib.Fallible

namespace Att1.Decoder

variable {R : Type}

/-! ### Dequantized values -/

/-- The f32 matrix `w`, stored row by row with a row for each input, has the transposed values of a matrix with
`rows` outputs and `cols` inputs. -/
def Transposed (rows cols : ℕ) (dequantized : ℕ → ℕ → R) (w : ℕ → R) : Prop :=
  ∀ out < rows, ∀ col < cols, w (col * rows + out) = dequantized out col

theorem Q4Matrix.groupSize_pos (weights : Q4Matrix R) : 0 < weights.groupSize.toNat := by
  have h := weights.valid
  simp only [q4GroupSizeValid, Bool.and_eq_true, decide_eq_true_eq] at h
  have h16 : (16 : UInt32).toNat ≤ weights.groupSize.toNat := UInt32.le_iff_toNat_le.mp h.1.1
  exact lt_of_lt_of_le (by decide) h16

/-- The groups of a row have as many elements as the row. -/
theorem Q4Matrix.nGroupsPerRow_mul (weights : Q4Matrix R) :
    weights.nGroupsPerRow * weights.groupSize.toNat = weights.cols :=
  Nat.div_mul_cancel (Nat.dvd_of_mod_eq_zero weights.grouped)

variable [Field R]

/-- The value of a q4 matrix at a row and a column: the element of its group that `att1_q4_dequantize_group` yields. -/
def Q4Matrix.weight (weights : Q4Matrix R) (row col : ℕ) : R :=
  weights.groupWeight row (col / weights.groupSize.toNat) (col % weights.groupSize.toNat)

theorem matmulQ8xf32_eq {weights : Q8Matrix R} {w : ℕ → R} (lhs : ℕ → R) (lhsRows : ℕ)
    (hw : Transposed weights.rows weights.cols weights.weight w) :
    matmulQ8xf32 lhs lhsRows weights.cols weights = matmulF32 lhs w lhsRows weights.rows weights.cols := by
  unfold matmulQ8xf32 matmulF32
  by_cases hz : lhsRows = 0 ∨ weights.rows = 0 ∨ weights.cols = 0
  · rw [if_pos hz, if_pos (by omega)]
  · rw [if_neg hz, if_neg (by omega)]
    refine congrArg some (array_congr fun i hi => sumLoop_congr _ fun col hcol => ?_)
    rw [hw _ (mod_lt_of_lt_mul hi) col hcol]

/-- The sum over the groups of a row is the sum over its columns. -/
theorem Q4Matrix.sum_groups (weights : Q4Matrix R) (lhs : ℕ → R) (off row : ℕ) :
    (List.range weights.nGroupsPerRow).foldl (fun sum g =>
        sumLoop weights.groupSize.toNat
          (fun j => lhs (off + g * weights.groupSize.toNat + j) * weights.groupWeight row g j) sum) 0 =
      sumLoop weights.cols (fun col => lhs (off + col) * weights.weight row col) 0 := by
  rw [← weights.nGroupsPerRow_mul, ← sumLoop_blocks]
  refine congrArg (fun f => List.foldl f 0 (List.range weights.nGroupsPerRow)) ?_
  ext sum g
  refine sumLoop_congr _ fun j hj => ?_
  rw [Q4Matrix.weight, block_div hj, block_mod hj, Nat.add_assoc]

theorem matmulQ4xf32_eq {weights : Q4Matrix R} {w : ℕ → R} (lhs : ℕ → R) (lhsRows : ℕ)
    (hw : Transposed weights.rows weights.cols weights.weight w) :
    matmulQ4xf32 lhs lhsRows weights.cols weights = matmulF32 lhs w lhsRows weights.rows weights.cols := by
  unfold matmulQ4xf32 matmulF32
  by_cases hz : lhsRows = 0 ∨ weights.rows = 0 ∨ weights.cols = 0
  · rw [if_pos hz, if_pos (by omega)]
  · rw [if_neg hz, if_neg (by omega)]
    refine congrArg some (array_congr fun i hi => (weights.sum_groups lhs _ _).trans ?_)
    refine sumLoop_congr _ fun col hcol => ?_
    rw [hw _ (mod_lt_of_lt_mul hi) col hcol]

/-! ### The block -/

variable [LinearOrder R]

/-- Two operation tables that differ in their matrix products only. -/
structure SameElementwise (ops ops' : BackendOps R) : Prop where
  alloc : ops.alloc = ops'.alloc
  rmsnormF32 : ops.rmsnormF32 = ops'.rmsnormF32
  softmaxF32 : ops.softmaxF32 = ops'.softmaxF32
  ropeF32 : ops.ropeF32 = ops'.ropeF32
  ffnSwigluF32 : ops.ffnSwigluF32 = ops'.ffnSwigluF32

/-- Two sets of weights, each with its product, are the same maps on the shapes of a block. -/
structure SameProducts {M N : Type} (config : BlockConfig R) (product : Product R M) (product' : Product R N)
    (weights : BlockWeights R M) (weights' : BlockWeights R N) : Prop where
  attentionNorm : weights.attentionNorm = weights'.attentionNorm
  ffnNorm : weights.ffnNorm = weights'.ffnNorm
  wq : product weights.wq config.modelDim config.modelDim = product' weights'.wq config.modelDim config.modelDim
  wk : product weights.wk config.modelDim config.modelDim = product' weights'.wk config.modelDim config.modelDim
  wv : product weights.wv config.modelDim config.modelDim = product' weights'.wv config.modelDim config.modelDim
  wo : product weights.wo config.modelDim config.modelDim = product' weights'.wo config.modelDim config.modelDim
  wGate : product weights.wGate config.ffnDim config.modelDim = product' weights'.wGate config.ffnDim config.modelDim
  wUp : product weights.wUp config.ffnDim config.modelDim = product' weights'.wUp config.ffnDim config.modelDim
  wDown : product weights.wDown config.modelDim config.ffnDim = product' weights'.wDown config.modelDim config.ffnDim

section

variable {M N : Type} (fns : MathFns R) {ops ops' : BackendOps R} {product : Product R M} {product' : Product R N}
  {weights : BlockWeights R M} {weights' : BlockWeights R N} {config : BlockConfig R}

omit [Field R] [LinearOrder R] in
@[simp] theorem orCleanup_some {α : Type} (a : α) : (orCleanup (some a) : ForwardM R α) = pure a := rfl

theorem attentionForward_congr (hops : SameElementwise ops ops')
    (hw : SameProducts config product product' weights weights') (position : ℕ) (input : ℕ → R) :
    attentionForward fns ops (some product) weights.attention config.attention position input =
      attentionForward fns ops' (some product') weights'.attention config.attention position input := by
  have hrope : attentionApplyRope ops = attentionApplyRope ops' := by
    unfold attentionApplyRope ropeHeads
    rw [hops.ropeF32]
  have hhead : contextHead fns ops = contextHead fns ops' := by
    unfold contextHead
    rw [hops.softmaxF32]
  unfold attentionForward
  rw [hops.alloc, hrope, hhead]
  simp only [orCleanup_some, pure_bind, BlockConfig.attention, BlockWeights.attention, hw.wq, hw.wk, hw.wv, hw.wo]

theorem blockForward_congr (hops : SameElementwise ops ops')
    (hw : SameProducts config product product' weights weights') (position : ℕ) (input : ℕ → R) :
    blockForward fns ops (some product) weights config position input =
      blockForward fns ops' (some product') weights' config position input := by
  unfold blockForward
  rw [hops.alloc, hops.rmsnormF32, hops.ffnSwigluF32]
  simp only [orCleanup_some, pure_bind, attentionForward_congr fns hops hw, hw.attentionNorm, hw.ffnNorm, hw.wGate,
    hw.wUp, hw.wDown]

end

/-! ### The three passes -/

/-- The f32 weights `weights'` of a block of shape `config` are the transposed dequantized values of quantized weights:
the norms are the same and each matrix has the shape its call site gives it. -/
structure Dequantizes {M : Type} (rows cols : M → ℕ) (dequantized : M → ℕ → ℕ → R) (config : BlockConfig R)
    (weights : BlockWeights R M) (weights' : BlockWeights R (ℕ → R)) : Prop where
  attentionNorm : weights'.attentionNorm = weights.attentionNorm
  ffnNorm : weights'.ffnNorm = weights.ffnNorm
  shapes : ∀ m ∈ [weights.wq, weights.wk, weights.wv, weights.wo], rows m = config.modelDim ∧ cols m = config.modelDim
  ffnShapes : ∀ m ∈ [weights.wGate, weights.wUp], rows m = config.ffnDim ∧ cols m = config.modelDim
  downShape : rows weights.wDown = config.modelDim ∧ cols weights.wDown = config.ffnDim
  values : ∀ p ∈ [(weights.wq, weights'.wq), (weights.wk, weights'.wk), (weights.wv, weights'.wv),
    (weights.wo, weights'.wo), (weights.wGate, weights'.wGate), (weights.wUp, weights'.wUp),
    (weights.wDown, weights'.wDown)], Transposed (rows p.1) (cols p.1) (dequantized p.1) p.2

/-- Quantized weights are the same maps as the f32 weights of their values, for a product that is the f32 product
with the transposed values. -/
theorem Dequantizes.sameProducts {M : Type} {rows cols : M → ℕ} {dequantized : M → ℕ → ℕ → R}
    {config : BlockConfig R} {weights : BlockWeights R M} {weights' : BlockWeights R (ℕ → R)} {product : Product R M}
    (h : Dequantizes rows cols dequantized config weights weights')
    (hp : ∀ m w, Transposed (rows m) (cols m) (dequantized m) w →
      product m (rows m) (cols m) = fun lhs => matmulF32 lhs w 1 (rows m) (cols m)) :
    SameProducts config product (fun rhs cols inner lhs => matmulF32 lhs rhs 1 cols inner) weights weights' where
  attentionNorm := h.attentionNorm.symm
  ffnNorm := h.ffnNorm.symm
  wq := by
    have hs := h.shapes weights.wq (by simp)
    simpa only [hs.1, hs.2] using hp _ _ (h.values (weights.wq, weights'.wq) (by simp))
  wk := by
    have hs := h.shapes weights.wk (by simp)
    simpa only [hs.1, hs.2] using hp _ _ (h.values (weights.wk, weights'.wk) (by simp))
  wv := by
    have hs := h.shapes weights.wv (by simp)
    simpa only [hs.1, hs.2] using hp _ _ (h.values (weights.wv, weights'.wv) (by simp))
  wo := by
    have hs := h.shapes weights.wo (by simp)
    simpa only [hs.1, hs.2] using hp _ _ (h.values (weights.wo, weights'.wo) (by simp))
  wGate := by
    have hs := h.ffnShapes weights.wGate (by simp)
    simpa only [hs.1, hs.2] using hp _ _ (h.values (weights.wGate, weights'.wGate) (by simp))
  wUp := by
    have hs := h.ffnShapes weights.wUp (by simp)
    simpa only [hs.1, hs.2] using hp _ _ (h.values (weights.wUp, weights'.wUp) (by simp))
  wDown := by
    have hs := h.downShape
    simpa only [hs.1, hs.2] using hp _ _ (h.values (weights.wDown, weights'.wDown) (by simp))

variable (host : Host) (fns : MathFns R)

theorem sameElementwise_q8 : SameElementwise (cpuQ8Ops host fns) (cpuF32Ops host fns) := ⟨rfl, rfl, rfl, rfl, rfl⟩

theorem sameElementwise_q4 : SameElementwise (cpuQ4Ops host fns) (cpuF32Ops host fns) := ⟨rfl, rfl, rfl, rfl, rfl⟩

/-- The q8 and the q4 pass on matrices of the shapes of the block leave the same cache and return the same result as
the f32 pass on the transposed dequantized values. -/
theorem quantized_forward_eq (config : BlockConfig R) (cache : KvCache R) (position : ℕ) (input : ℕ → R)
    (weights : BlockWeights R (ℕ → R)) :
    (∀ q8, Dequantizes Q8Matrix.rows Q8Matrix.cols Q8Matrix.weight config q8 weights →
      (transformerBlockForwardQ8 fns (cpuQ8Ops host fns) q8 config position input).exec cache =
        (transformerBlockForward fns (cpuF32Ops host fns) weights config position input).exec cache) ∧
    (∀ q4, Dequantizes Q4Matrix.rows Q4Matrix.cols Q4Matrix.weight config q4 weights →
      (transformerBlockForwardQ4 fns (cpuQ4Ops host fns) q4 config position input).exec cache =
        (transformerBlockForward fns (cpuF32Ops host fns) weights config position input).exec cache) := by
  constructor
  · intro q8 h
    have hw : SameProducts config (fun m _ lhsCols lhs => matmulQ8xf32 lhs 1 lhsCols m) _ q8 weights :=
      h.sameProducts fun m w hm => by
        ext1 lhs
        exact matmulQ8xf32_eq lhs 1 hm
    exact congrArg (exec · cache) (blockForward_congr fns (sameElementwise_q8 host fns) hw position input)
  · intro q4 h
    have hw : SameProducts config (fun m _ lhsCols lhs => matmulQ4xf32 lhs 1 lhsCols m) _ q4 weights :=
      h.sameProducts fun m w hm => by
        ext1 lhs
        exact matmulQ4xf32_eq lhs 1 hm
    exact congrArg (exec · cache) (blockForward_congr fns (sameElementwise_q4 host fns) hw position input)

/-! ### A block with one head of 16 components and 32 hidden units -/

/-- The f32 weights of the transposed values of quantized weights. -/
def BlockWeights.transposed {M : Type} (rows : M → ℕ) (dequantized : M → ℕ → ℕ → R) (weights : BlockWeights R M) :
    BlockWeights R (ℕ → R) :=
  let transpose := fun (m : M) i => dequantized m (i % rows m) (i / rows m)
  ⟨weights.attentionNorm, weights.ffnNorm, transpose weights.wq, transpose weights.wk, transpose weights.wv,
    transpose weights.wo, transpose weights.wGate, transpose weights.wUp, transpose weights.wDown⟩

omit [Field R] [LinearOrder R] in
theorem transposed_div_mod (rows cols : ℕ) (dequantized : ℕ → ℕ → R) :
    Transposed rows cols dequantized fun i => dequantized (i % rows) (i / rows) := by
  intro out hout col _
  show dequantized ((col * rows + out) % rows) ((col * rows + out) / rows) = _
  rw [block_mod hout, block_div hout]

/-- A block whose matrices are made by `matrix` from their numbers of rows and columns. -/
def sampleBlock {M : Type} (matrix : ℕ → ℕ → M) : BlockWeights R M :=
  ⟨fun _ => 1, fun _ => 1, matrix 16 16, matrix 16 16, matrix 16 16, matrix 16 16, matrix 32 16, matrix 32 16,
    matrix 16 32⟩

theorem dequantizes_sampleBlock {M : Type} {rows cols : M → ℕ} (dequantized : M → ℕ → ℕ → R) {matrix : ℕ → ℕ → M}
    {config : BlockConfig R} (hdims : config.modelDim = 16 ∧ config.ffnDim = 32) (hrows : ∀ r c, rows (matrix r c) = r)
    (hcols : ∀ r, cols (matrix r 16) = 16 ∧ cols (matrix r 32) = 32) :
    Dequantizes rows cols dequantized config (sampleBlock matrix)
      ((sampleBlock matrix).transposed rows dequantized) where
  attentionNorm := rfl
  ffnNorm := rfl
  shapes m hm := by
    simp only [sampleBlock, List.mem_cons, List.not_mem_nil, or_false, or_self] at hm
    rw [hm, hrows, (hcols 16).1, hdims.1]
    exact ⟨rfl, rfl⟩
  ffnShapes m hm := by
    simp only [sampleBlock, List.mem_cons, List.not_mem_nil, or_false, or_self] at hm
    rw [hm, hrows, (hcols 32).1, hdims.1, hdims.2]
    exact ⟨rfl, rfl⟩
  downShape := by
    rw [sampleBlock, hrows, (hcols 16).2, hdims.1, hdims.2]
    exact ⟨rfl, rfl⟩
  values p hp := by
    simp only [BlockWeights.transposed, List.mem_cons, List.not_mem_nil, or_false] at hp
    obtain rfl | rfl | rfl | rfl | rfl | rfl | rfl := hp <;> exact transposed_div_mod _ _ _

/-- A q8 matrix. -/
def sampleQ8 (rows cols : ℕ) : Q8Matrix ℝ := ⟨rows, cols, fun i => i.toUInt8, fun out => out + 1⟩

/-- A q4 matrix with groups of 16. -/
def sampleQ4 (rows cols : ℕ) : Q4Matrix ℝ where
  rows := rows
  cols := cols / 16 * 16
  groupSize := 16
  packed := (List.range 256).map Nat.toUInt8
  scales g := g + 1
  valid := rfl
  grouped := Nat.mul_mod_left _ _

/-- A block config over `sampleBlock`. -/
def sampleBlockConfig : BlockConfig ℝ := ⟨16, 1, 16, 32, 1, 1⟩

/-- An empty cache for it. -/
def sampleCache : KvCache ℝ := ⟨4, 1, 16, 0, fun _ => 0, fun _ => 0⟩

theorem quantized_forward_eq_sample :
    (transformerBlockForwardQ8 .real (cpuQ8Ops .generous .real) (sampleBlock sampleQ8) sampleBlockConfig 0
        fun i => i).exec sampleCache =
      (transformerBlockForward .real (cpuF32Ops .generous .real)
        ((sampleBlock sampleQ8).transposed Q8Matrix.rows Q8Matrix.weight) sampleBlockConfig 0
        fun i => i).exec sampleCache ∧
    (transformerBlockForwardQ4 .real (cpuQ4Ops .generous .real) (sampleBlock sampleQ4) sampleBlockConfig 0
        fun i => i).exec sampleCache =
      (transformerBlockForward .real (cpuF32Ops .generous .real)
        ((sampleBlock sampleQ4).transposed Q4Matrix.rows Q4Matrix.weight) sampleBlockConfig 0
        fun i => i).exec sampleCache :=
  ⟨(quantized_forward_eq .generous .real sampleBlockConfig sampleCache 0 _ _).1 _
      (dequantizes_sampleBlock _ ⟨rfl, rfl⟩ (fun _ _ => rfl) fun _ => ⟨rfl, rfl⟩),
    (quantized_forward_eq .generous .real sampleBlockConfig sampleCache 0 _ _).2 _
      (dequantizes_sampleBlock _ ⟨rfl, rfl⟩ (fun _ _ => rfl) fun c => ⟨rfl, rfl⟩)⟩

end Att1.Decoder
