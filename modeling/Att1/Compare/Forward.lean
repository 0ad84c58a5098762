import Att1.Compare.Source

/-!
# Att1.Compare.Forward — the reference forward pass and its report (`compiler/compare_att1_to_source.py`)

* `forwardPass`: `_python_forward_pass` on the shapes of its arrays, which decide the exceptions.
* `runForward`: what `run_harness` makes of an exception of the reference.
* `referenceLaw_iff`: when the weights are loaded in the expected shapes and no comparison is skipped silently.
-/

open Att1.Lib Att1.Converter Att1.Safetensors

namespace Att1.Compare

/-! ### Shapes -/

/-- The weights under their names. -/
abbrev WeightDict := List (List UInt8 × NdArray PyFloat)

def shapeOf (weights : WeightDict) (name : List UInt8) : Except Exc (List ℕ) := do
  let array ← orFail (weights.lookup name) .keyError
  .ok array.shape

/-- The length of `x * w` or `x + w` for a vector `x`; the weights have the ranks of the plan. -/
def broadcast (n : ℕ) (shape : List ℕ) : Except Exc ℕ :=
  match shape with
  | [m] => if n = m ∨ m = 1 then .ok n else if n = 1 then .ok m else .error .valueError
  | _ => .error .valueError

/-- The length of `x @ w` for a vector `x`. -/
def vecMul (n : ℕ) (shape : List ℕ) : Except Exc ℕ :=
  match shape with
  | [rows, cols] => if n = rows then .ok cols else .error .valueError
  | _ => .error .valueError

/-- The length of `embed[tok]`. -/
def rowLength (shape : List ℕ) (tok : ℤ) : Except Exc ℕ :=
  match shape with
  | [rows, cols] => if -(rows : ℤ) ≤ tok ∧ tok < rows then .ok cols else .error .indexError
  | _ => .error .indexError

/-- The length of `x[first:last]`. -/
def sliceLength (n : ℕ) (first last : ℤ) : ℕ :=
  let bound (i : ℤ) : ℤ := if i < 0 then max 0 (i + n) else min i n
  (bound last - bound first).toNat

/-- The length of head `h` of a vector. -/
def headLength (cfg : Att1Cfg) (n : ℕ) (h : ℤ) : ℕ := sliceLength n (h * cfg.dHead) ((h + 1) * cfg.dHead)

/-- `_rope` on each head: it reads the values in pairs. -/
def ropeHeads (cfg : Att1Cfg) (heads : ℤ) (n : ℕ) : Except Exc Unit := do
  let _ ← (List.range heads.toNat).mapM fun h => rejectIf (headLength cfg n h % 2 ≠ 0) Exc.indexError
  .ok ()

/-- One head of the attention; the entries of the cache of a layer have the lengths of `K` and `V`. -/
def attentionHead (cfg : Att1Cfg) (nQ nK nV h : ℕ) : Except Exc Unit := do
  let kvH := (h : ℤ).fdiv (cfg.nHeads.fdiv cfg.nKvHeads)
  -- `1.0 / math.sqrt(d_head)`
  rejectIf (cfg.dHead < 0) .valueError
  rejectIf (cfg.dHead = 0) .zeroDivisionError
  -- `np.dot` and the sum into the context
  rejectIf (headLength cfg nQ h ≠ headLength cfg nK kvH) .valueError
  rejectIf (headLength cfg nV kvH ≠ headLength cfg cfg.dModel.toNat h ∧ headLength cfg nV kvH ≠ 1) .valueError

/-! ### The pass -/

/-- One layer: the length of `x` before and after. -/
def layerPass (cfg : Att1Cfg) (weights : WeightDict) (n layer : ℕ) : Except Exc ℕ := do
  let dst := layerPrefix layer
  let attentionNorm ← shapeOf weights (dst ++ ascii ".attention_norm.weight")
  let xNorm ← broadcast n attentionNorm
  let wq ← shapeOf weights (dst ++ ascii ".attention.wq.weight")
  let wk ← shapeOf weights (dst ++ ascii ".attention.wk.weight")
  let wv ← shapeOf weights (dst ++ ascii ".attention.wv.weight")
  let wo ← shapeOf weights (dst ++ ascii ".attention.wo.weight")
  let nQ ← vecMul xNorm wq
  let nK ← vecMul xNorm wk
  let nV ← vecMul xNorm wv
  rejectIf ((nK : ℤ) ≠ cfg.kvDim ∨ (nV : ℤ) ≠ cfg.kvDim) .valueError
  ropeHeads cfg cfg.nHeads nQ
  ropeHeads cfg cfg.nKvHeads nK
  -- `np.zeros(d_model)`
  rejectIf (cfg.dModel < 0) .valueError
  let _ ← (List.range cfg.nHeads.toNat).mapM (attentionHead cfg nQ nK nV)
  let attnOut ← vecMul cfg.dModel.toNat wo
  let n ← broadcast n [attnOut]
  let ffnNorm ← shapeOf weights (dst ++ ascii ".ffn_norm.weight")
  let xNorm2 ← broadcast n ffnNorm
  let wGate ← shapeOf weights (dst ++ ascii ".ffn.w_gate.weight")
  let wUp ← shapeOf weights (dst ++ ascii ".ffn.w_up.weight")
  let wDown ← shapeOf weights (dst ++ ascii ".ffn.w_down.weight")
  let gate ← vecMul xNorm2 wGate
  let up ← vecMul xNorm2 wUp
  let hidden ← broadcast gate [up]
  let down ← vecMul hidden wDown
  broadcast n [down]

/-- The turn for one token: the length of the logits. -/
def tokenPass (cfg : Att1Cfg) (weights : WeightDict) (embed : List ℕ) (tok : ℤ) : Except Exc ℕ := do
  let x ← rowLength embed tok
  let n ← (List.range cfg.nLayers.toNat).foldlM (layerPass cfg weights) x
  let outputNorm ← shapeOf weights (ascii "output_norm.weight")
  let xFinal ← broadcast n outputNorm
  let output ← shapeOf weights (ascii "output.weight")
  vecMul xFinal output

/-- `_python_forward_pass` on shapes: the length of the last logits.  The float arithmetic is left out. -/
def forwardPass (cfg : Att1Cfg) (weights : WeightDict) (tokenIds : List ℤ) : Except Exc (Option ℕ) := do
  rejectIf (cfg.nHeads = 0) .zeroDivisionError
  rejectIf (cfg.nKvHeads ≤ 0 ∨ cfg.nHeads.fmod cfg.nKvHeads ≠ 0) .valueError
  let embed ← shapeOf weights (ascii "tok_embeddings.weight")
  tokenIds.foldlM (fun _ tok => do
    let logits ← tokenPass cfg weights embed tok
    .ok (some logits)) none

/-! ### The report -/

/-- `except (KeyError, ValueError, OSError)`. -/
def Exc.isCaught : Exc → Bool
  | .keyError => true
  | .valueError => true
  | .osError => true
  | _ => false

/-- The reference: `next` is where the logits, of which there are some, are greatest. -/
def reference (file : SourceFile) (cfg : Att1Cfg) (promptIds : List ℤ) (next : ℤ) : Except Exc ℤ := do
  let weights ← loadSourceWeightsNumpy file cfg
  let logits ← forwardPass cfg weights promptIds
  match logits with
  | none => .error .attributeError
  | some 0 => .error .valueError
  | some _ => .ok next

/-- A text of `fail_msgs`: of the static comparisons, or of the f32 forward comparison. -/
inductive FailMsg
  | static (text : String)
  | forward (ref bench : ℤ)
  deriving DecidableEq, Repr

inductive ForwardStatus
  | pass
  | fail
  | skip
  deriving DecidableEq, Repr

structure Outcome where
  status : ForwardStatus
  failMsgs : List FailMsg
  deriving DecidableEq, Repr

/-- `overall == "pass"`. -/
def Outcome.passed (outcome : Outcome) : Bool := outcome.failMsgs.isEmpty

/-- The f32 forward comparison of `run_harness`: `bench` is the answer of `att1-bench`. -/
def runForward (ref : Except Exc ℤ) (bench : Except String ℤ) (failMsgs : List FailMsg) : Except Exc Outcome :=
  match ref with
  | .error e => if e.isCaught then .ok ⟨.skip, failMsgs⟩ else .error e
  | .ok refNext =>
    match bench with
    | .error _ => .ok ⟨.skip, failMsgs⟩
    | .ok benchNext =>
      if refNext = benchNext then .ok ⟨.pass, failMsgs⟩ else .ok ⟨.fail, failMsgs ++ [.forward refNext benchNext]⟩

/-! ### The law -/

/-- The source weights are loaded in the expected shapes, and where `att1-bench` answers, no comparison is skipped in a
run that passes. -/
def ReferenceLaw (file : SourceFile) (cfg : Att1Cfg) (promptIds : List ℤ) (next bench : ℤ) (failMsgs : List FailMsg) :
    Prop :=
  (∃ weights, loadSourceWeightsNumpy file cfg = .ok weights ∧ Shaped cfg weights) ∧
    ∀ outcome, runForward (reference file cfg promptIds next) (.ok bench) failMsgs = .ok outcome →
      ¬ (outcome.status = .skip ∧ outcome.passed = true)

/-- There are as many key/value heads as heads, or there is no layer or no dimension to load them for; and their number
is positive, unless the static comparisons fail. -/
def ReferenceGuard (cfg : Att1Cfg) (failMsgs : List FailMsg) : Prop :=
  (cfg.nLayers ≤ 0 ∨ cfg.dModel = 0 ∨ cfg.nKvHeads = cfg.nHeads) ∧ (0 < cfg.nKvHeads ∨ failMsgs ≠ [])

/-! ### Exceptions that are not caught -/

section Ends

variable {α β γ : Type} {P : α → Prop} {Q : β → Prop}

/-- A value with the property, or an exception that is not caught. -/
def Ends (P : α → Prop) (x : Except Exc α) : Prop :=
  match x with
  | .ok a => P a
  | .error e => e.isCaught = false

theorem Ends.bind {x : Except Exc α} {k : α → Except Exc β} (hx : Ends P x) (hk : ∀ a, P a → Ends Q (k a)) :
    Ends Q (x >>= k) := by
  cases x with
  | error e => exact hx
  | ok a => exact hk a hx

theorem Ends.of_ok {x : Except Exc α} {a : α} (hx : x = .ok a) (ha : P a) : Ends P x := by
  rw [hx]
  exact ha

/-- A check that holds, or whose exception is not caught. -/
theorem Ends.rejectIf {c : Prop} [Decidable c] {e : Exc} (h : e.isCaught = true → ¬ c) :
    Ends (fun _ : Unit => True) (rejectIf c e) := by
  unfold Lib.rejectIf
  by_cases hc : c
  · rw [if_pos hc]
    exact Bool.eq_false_iff.mpr fun he => h he hc
  · rw [if_neg hc]
    trivial

theorem Ends.mapM {f : γ → Except Exc α} {xs : List γ} (h : ∀ x ∈ xs, Ends (fun _ => True) (f x)) :
    Ends (fun _ : List α => True) (xs.mapM f) := by
  induction xs with
  | nil => trivial
  | cons x xs ih =>
    obtain ⟨hx, hxs⟩ := List.forall_mem_cons.mp h
    rw [List.mapM_cons]
    exact hx.bind fun _ _ => (ih hxs).bind fun _ _ => trivial

theorem Ends.foldlM {f : α → γ → Except Exc α} {xs : List γ} {a : α} (ha : P a)
    (h : ∀ a, ∀ x ∈ xs, P a → Ends P (f a x)) : Ends P (xs.foldlM f a) := by
  induction xs generalizing a with
  | nil => exact ha
  | cons x xs ih =>
    rw [List.foldlM_cons]
    exact (h a x List.mem_cons_self ha).bind fun b hb => ih hb fun a y hy => h a y (List.mem_cons_of_mem _ hy)

end Ends

/-! ### The shapes of the pass -/

variable {cfg : Att1Cfg} {weights : WeightDict} {layer n m : ℕ}

theorem broadcast_self (n : ℕ) : broadcast n [n] = .ok n := by
  unfold broadcast
  simp

theorem vecMul_matrix (n m : ℕ) : vecMul n [n, m] = .ok m := if_pos rfl

/-- A head of a vector with `heads` of them has all its values. -/
theorem headLength_eq {heads h : ℤ} (hlen : (n : ℤ) = heads * cfg.dHead) (hpos : 0 < cfg.dHead) (h0 : 0 ≤ h)
    (hlt : h < heads) : (headLength cfg n h : ℤ) = cfg.dHead := by
  have hfirst : 0 ≤ h * cfg.dHead := Int.mul_nonneg h0 hpos.le
  have hlast : (h + 1) * cfg.dHead ≤ n := hlen ▸ Int.mul_le_mul_of_nonneg_right (by omega) hpos.le
  have hstep : (h + 1) * cfg.dHead = h * cfg.dHead + cfg.dHead := by rw [Int.add_mul, Int.one_mul]
  unfold headLength sliceLength
  simp only
  rw [if_neg (by omega), if_neg (by omega), min_eq_left hlast, min_eq_left (by omega), hstep]
  omega

/-- The key/value head of a head. -/
theorem kvHead_bounds (haccept : Accepted cfg) (hkv : 0 < cfg.nKvHeads) {h : ℕ} (hlt : h < cfg.nHeads.toNat) :
    0 ≤ (h : ℤ).fdiv (cfg.nHeads.fdiv cfg.nKvHeads) ∧
      (h : ℤ).fdiv (cfg.nHeads.fdiv cfg.nKvHeads) < cfg.nKvHeads := by
  have hgroup := Int.mul_fdiv_add_fmod cfg.nHeads cfg.nKvHeads
  rw [haccept.groups, Int.add_zero] at hgroup
  set group := cfg.nHeads.fdiv cfg.nKvHeads
  have hheads : 0 < cfg.nHeads := by omega
  have hpos : 0 < group := by
    by_contra hle
    have hmul : cfg.nKvHeads * group ≤ 0 := Int.mul_nonpos_of_nonneg_of_nonpos hkv.le (by omega)
    omega
  rw [Int.fdiv_eq_ediv_of_nonneg _ hpos.le]
  refine ⟨Int.ediv_nonneg (by omega) hpos.le, Int.ediv_lt_of_lt_mul hpos ?_⟩
  omega

theorem attentionHead_ends (haccept : Accepted cfg) (hkv : 0 < cfg.nKvHeads) {nQ nK nV h : ℕ}
    (hQ : (nQ : ℤ) = cfg.dModel) (hK : (nK : ℤ) = cfg.kvDim) (hV : (nV : ℤ) = cfg.kvDim)
    (hlt : h < cfg.nHeads.toNat) : Ends (fun _ => True) (attentionHead cfg nQ nK nV h) := by
  have hmodel := haccept.dModel
  have hheads : 0 < cfg.nHeads := by omega
  have hhead : 0 ≤ cfg.dHead := by
    by_contra hneg
    have hmul : cfg.nHeads * cfg.dHead < 0 := Int.mul_neg_of_pos_of_neg hheads (by omega)
    omega
  obtain ⟨hkv0, hkvlt⟩ := kvHead_bounds haccept hkv hlt
  unfold attentionHead
  refine (Ends.rejectIf fun _ => by omega).bind fun _ _ => ?_
  by_cases hzero : cfg.dHead = 0
  · rw [Lib.rejectIf, if_pos hzero]
    rfl
  have hpos : 0 < cfg.dHead := by omega
  have hlenQ := headLength_eq (hQ.trans hmodel.symm) hpos (by omega : (0 : ℤ) ≤ h) (by omega)
  have hlenK := headLength_eq hK hpos hkv0 hkvlt
  have hlenV := headLength_eq hV hpos hkv0 hkvlt
  have hX : (cfg.dModel.toNat : ℤ) = cfg.nHeads * cfg.dHead := by omega
  have hlenX := headLength_eq hX hpos (by omega : (0 : ℤ) ≤ h) (by omega)
  rw [Lib.rejectIf, if_neg hzero]
  refine Ends.bind (P := fun _ => True) trivial fun _ _ => ?_
  refine (Ends.rejectIf fun _ => ?_).bind fun _ _ => Ends.rejectIf fun _ => ?_
  · omega
  · omega

theorem ropeHeads_ends (heads : ℤ) (n : ℕ) : Ends (fun _ => True) (ropeHeads cfg heads n) := by
  unfold ropeHeads
  refine (Ends.mapM fun h _ => Ends.rejectIf fun he => ?_).bind fun _ _ => trivial
  cases he

/-- A weight that has the expected shape. -/
theorem shapeOf_of_shaped (hshaped : Shaped cfg weights) {name : List UInt8} {shape : List ℤ}
    (hentry : (name, shape) ∈ requiredShapes cfg) :
    ∃ dims, shapeOf weights name = .ok dims ∧ dims.map Nat.cast = shape := by
  obtain ⟨array, hlookup, hshape⟩ := hshaped _ hentry
  exact ⟨array.shape, by unfold shapeOf; rw [hlookup]; rfl, hshape⟩

/-- The vector with the expected length. -/
theorem vector_of_shaped (hshaped : Shaped cfg weights) {name : List UInt8} {d : ℤ}
    (hentry : (name, [d]) ∈ requiredShapes cfg) {n : ℕ} (hn : (n : ℤ) = d) : shapeOf weights name = .ok [n] := by
  obtain ⟨dims, hok, hdims⟩ := shapeOf_of_shaped hshaped hentry
  match dims with
  | [] => cases hdims
  | [a] =>
    obtain rfl : a = n := by
      have ha : (a : ℤ) = d := (List.cons.inj hdims).1
      omega
    exact hok
  | _ :: _ :: _ => cases (List.cons.inj hdims).2

/-- The matrix with the expected rows and columns. -/
theorem matrix_of_shaped (hshaped : Shaped cfg weights) {name : List UInt8} {rows cols : ℤ}
    (hentry : (name, [rows, cols]) ∈ requiredShapes cfg) {n m : ℕ} (hn : (n : ℤ) = rows) (hm : (m : ℤ) = cols) :
    shapeOf weights name = .ok [n, m] := by
  obtain ⟨dims, hok, hdims⟩ := shapeOf_of_shaped hshaped hentry
  match dims with
  | [] => cases hdims
  | [_] => cases (List.cons.inj hdims).2
  | [a, b] =>
    obtain ⟨ha, hrest⟩ := List.cons.inj hdims
    have hb : (b : ℤ) = cols := (List.cons.inj hrest).1
    obtain rfl : a = n := by
      have ha : (a : ℤ) = rows := ha
      omega
    obtain rfl : b = m := by omega
    exact hok
  | _ :: _ :: _ :: _ => cases (List.cons.inj (List.cons.inj hdims).2).2

/-- The dimensions of an expected shape are not negative. -/
theorem nonneg_of_shaped (hshaped : Shaped cfg weights) {name : List UInt8} {shape : List ℤ}
    (hentry : (name, shape) ∈ requiredShapes cfg) {dim : ℤ} (hdim : dim ∈ shape) : 0 ≤ dim := by
  obtain ⟨dims, -, rfl⟩ := shapeOf_of_shaped hshaped hentry
  obtain ⟨n, -, rfl⟩ := List.mem_map.mp hdim
  exact Int.natCast_nonneg n

theorem mem_requiredShapes (hlayer : layer < cfg.nLayers.toNat) (i : ℕ) {entry : List UInt8 × List ℤ}
    (hentry : (requiredLayer cfg layer)[i]? = some entry) : entry ∈ requiredShapes cfg := by
  refine List.mem_cons_of_mem _ (List.mem_append_left _ (List.mem_flatMap.mpr ⟨layer, ?_, ?_⟩))
  · exact List.mem_range.mpr hlayer
  · exact List.mem_of_getElem? hentry

/-- The shapes of the weights of a layer. -/
structure LayerShapes (weights : WeightDict) (layer d kv ff : ℕ) : Prop where
  attentionNorm : shapeOf weights (layerPrefix layer ++ ascii ".attention_norm.weight") = .ok [d]
  wq : shapeOf weights (layerPrefix layer ++ ascii ".attention.wq.weight") = .ok [d, d]
  wk : shapeOf weights (layerPrefix layer ++ ascii ".attention.wk.weight") = .ok [d, kv]
  wv : shapeOf weights (layerPrefix layer ++ ascii ".attention.wv.weight") = .ok [d, kv]
  wo : shapeOf weights (layerPrefix layer ++ ascii ".attention.wo.weight") = .ok [d, d]
  ffnNorm : shapeOf weights (layerPrefix layer ++ ascii ".ffn_norm.weight") = .ok [d]
  wGate : shapeOf weights (layerPrefix layer ++ ascii ".ffn.w_gate.weight") = .ok [d, ff]
  wUp : shapeOf weights (layerPrefix layer ++ ascii ".ffn.w_up.weight") = .ok [d, ff]
  wDown : shapeOf weights (layerPrefix layer ++ ascii ".ffn.w_down.weight") = .ok [ff, d]

theorem layerShapes_of_shaped (hshaped : Shaped cfg weights) (hlayer : layer < cfg.nLayers.toNat) {d kv ff : ℕ}
    (hd : (d : ℤ) = cfg.dModel) (hkv : (kv : ℤ) = cfg.kvDim) (hff : (ff : ℤ) = cfg.dFf) :
    LayerShapes weights layer d kv ff where
  attentionNorm := vector_of_shaped hshaped (mem_requiredShapes hlayer 0 rfl) hd
  wq := matrix_of_shaped hshaped (mem_requiredShapes hlayer 1 rfl) hd hd
  wk := matrix_of_shaped hshaped (mem_requiredShapes hlayer 2 rfl) hd hkv
  wv := matrix_of_shaped hshaped (mem_requiredShapes hlayer 3 rfl) hd hkv
  wo := matrix_of_shaped hshaped (mem_requiredShapes hlayer 4 rfl) hd hd
  ffnNorm := vector_of_shaped hshaped (mem_requiredShapes hlayer 5 rfl) hd
  wGate := matrix_of_shaped hshaped (mem_requiredShapes hlayer 6 rfl) hd hff
  wUp := matrix_of_shaped hshaped (mem_requiredShapes hlayer 7 rfl) hd hff
  wDown := matrix_of_shaped hshaped (mem_requiredShapes hlayer 8 rfl) hff hd

theorem ok_bind {α β : Type} (a : α) (k : α → Except Exc β) : (Except.ok a >>= k) = k a := rfl

/-- A layer keeps the length. -/
theorem layerPass_ends (haccept : Accepted cfg) (hkv : 0 < cfg.nKvHeads) {d kv ff : ℕ} (hd : (d : ℤ) = cfg.dModel)
    (hkvDim : (kv : ℤ) = cfg.kvDim) (h : LayerShapes weights layer d kv ff) :
    Ends (fun m => m = d) (layerPass cfg weights d layer) := by
  have hmodel : cfg.dModel.toNat = d := by omega
  unfold layerPass
  simp only [h.attentionNorm, h.wq, h.wk, h.wv, h.wo, h.ffnNorm, h.wGate, h.wUp, h.wDown, ok_bind, broadcast_self,
    vecMul_matrix, hmodel]
  refine (Ends.rejectIf fun _ => by omega).bind fun _ _ => ?_
  refine (ropeHeads_ends _ _).bind fun _ _ => (ropeHeads_ends _ _).bind fun _ _ => ?_
  refine (Ends.rejectIf fun _ => by omega).bind fun _ _ => ?_
  refine (Ends.mapM fun head hhead => ?_).bind fun _ _ => rfl
  exact attentionHead_ends haccept hkv hd hkvDim hkvDim (List.mem_range.mp hhead)

/-- The turn for a token ends with logits, or with an exception that is not caught. -/
theorem tokenPass_ends (haccept : Accepted cfg) (hkv : 0 < cfg.nKvHeads) (hshaped : Shaped cfg weights) {d v : ℕ}
    (hd : (d : ℤ) = cfg.dModel) (hv : (v : ℤ) = cfg.vocabSize) (tok : ℤ) :
    Ends (fun logits => 0 < logits) (tokenPass cfg weights [v, d] tok) := by
  unfold tokenPass rowLength
  by_cases hrow : -(v : ℤ) ≤ tok ∧ tok < v
  · have hnorm : shapeOf weights (ascii "output_norm.weight") = .ok [d] :=
      vector_of_shaped hshaped (List.mem_cons_of_mem _ (List.mem_append_right _ (by simp))) hd
    have houtput : shapeOf weights (ascii "output.weight") = .ok [d, v] :=
      matrix_of_shaped hshaped (List.mem_cons_of_mem _ (List.mem_append_right _ (by simp))) hd hv
    simp only [if_pos hrow, ok_bind]
    have hlayers : Ends (fun m => m = d) ((List.range cfg.nLayers.toNat).foldlM (layerPass cfg weights) d) := by
      refine Ends.foldlM rfl ?_
      rintro _ layer hlayer rfl
      have hlt := List.mem_range.mp hlayer
      have hkvDim : 0 ≤ cfg.kvDim := nonneg_of_shaped hshaped (mem_requiredShapes hlt 2 rfl) (by simp)
      have hff : 0 ≤ cfg.dFf := nonneg_of_shaped hshaped (mem_requiredShapes hlt 6 rfl) (by simp)
      obtain ⟨kv, hkv'⟩ := Int.eq_ofNat_of_zero_le hkvDim
      obtain ⟨ff, hff'⟩ := Int.eq_ofNat_of_zero_le hff
      exact layerPass_ends haccept hkv hd hkv'.symm (layerShapes_of_shaped hshaped hlt hd hkv'.symm hff'.symm)
    refine hlayers.bind ?_
    rintro _ rfl
    simp only [hnorm, houtput, ok_bind, broadcast_self, vecMul_matrix]
    show 0 < v
    omega
  · simp only [if_neg hrow]
    rfl

/-- **The pass** on weights of the expected shapes raises nothing that is caught. -/
theorem forwardPass_ends (haccept : Accepted cfg) (hkv : 0 < cfg.nKvHeads) (hshaped : Shaped cfg weights)
    (tokenIds : List ℤ) :
    Ends (fun logits => ∀ n, logits = some n → 0 < n) (forwardPass cfg weights tokenIds) := by
  have hv : 0 ≤ cfg.vocabSize := nonneg_of_shaped hshaped List.mem_cons_self (by simp)
  have hd : 0 ≤ cfg.dModel := nonneg_of_shaped hshaped List.mem_cons_self (by simp)
  obtain ⟨v, hv⟩ := Int.eq_ofNat_of_zero_le hv
  obtain ⟨d, hd⟩ := Int.eq_ofNat_of_zero_le hd
  have hembed : shapeOf weights (ascii "tok_embeddings.weight") = .ok [v, d] :=
    matrix_of_shaped hshaped List.mem_cons_self hv.symm hd.symm
  unfold forwardPass
  refine (Ends.rejectIf fun he => by cases he).bind fun _ _ => ?_
  refine (Ends.rejectIf fun _ hno => ?_).bind fun _ _ => ?_
  · exact hno.elim (fun hle => by omega) (fun hne => hne haccept.groups)
  rw [hembed, ok_bind]
  refine Ends.foldlM (fun n hn => by cases hn) fun _ tok _ _ => ?_
  refine (tokenPass_ends haccept hkv hshaped hd.symm hv.symm tok).bind fun logits hpos => ?_
  rintro n ⟨⟩
  exact hpos

/-! ### The law of the reference -/

variable {file : SourceFile}

/-- The sizes of the key/value heads and of the model agree where there are as many of both, or no dimension. -/
theorem kvDim_eq_dModel_iff (haccept : Accepted cfg) :
    cfg.kvDim = cfg.dModel ↔ cfg.dModel = 0 ∨ cfg.nKvHeads = cfg.nHeads := by
  have hmodel := haccept.dModel
  unfold Att1Cfg.kvDim
  rw [← hmodel]
  constructor
  · intro heq
    rcases mul_eq_mul_right_iff.mp heq with heads | hzero
    · exact Or.inr heads
    · exact Or.inl (by rw [hzero, Int.mul_zero])
  · rintro (hzero | heads)
    · have hhead : cfg.dHead = 0 := (Int.mul_eq_zero.mp hzero).resolve_left haccept.nHeads
      rw [hhead, Int.mul_zero, Int.mul_zero]
    · rw [heads]

/-- With a count of key/value heads that is not positive, the pass is skipped. -/
theorem reference_of_nonpos (haccept : Accepted cfg) (hkv : cfg.nKvHeads ≤ 0) {weights : WeightDict}
    (hload : loadSourceWeightsNumpy file cfg = .ok weights) (promptIds : List ℤ) (next : ℤ) :
    reference file cfg promptIds next = .error .valueError := by
  unfold reference forwardPass
  rw [hload, ok_bind, Lib.rejectIf, if_neg haccept.nHeads, Lib.rejectIf, if_pos (Or.inl hkv)]
  rfl

theorem reference_ends (haccept : Accepted cfg) (hkv : 0 < cfg.nKvHeads)
    (hload : ∃ weights, loadSourceWeightsNumpy file cfg = .ok weights ∧ Shaped cfg weights) (promptIds : List ℤ)
    (next : ℤ) : Ends (fun _ => True) (reference file cfg promptIds next) := by
  obtain ⟨weights, hweights, hshaped⟩ := hload
  unfold reference
  rw [hweights, ok_bind]
  refine (forwardPass_ends haccept hkv hshaped promptIds).bind fun logits hpos => ?_
  match logits with
  | none => rfl
  | some 0 => exact absurd (hpos 0 rfl) (Nat.lt_irrefl 0)
  | some (n + 1) => trivial

/-- The report keeps the messages of the static comparisons. -/
theorem passed_of_runForward {ref : Except Exc ℤ} {bench : Except String ℤ} {failMsgs : List FailMsg}
    {outcome : Outcome} (h : runForward ref bench failMsgs = .ok outcome) (hpassed : outcome.passed = true) :
    failMsgs = [] := by
  unfold runForward at h
  unfold Outcome.passed at hpassed
  split at h
  · split at h
    · cases h
      exact List.isEmpty_iff.mp hpassed
    · cases h
  · split at h
    · cases h
      exact List.isEmpty_iff.mp hpassed
    · split at h
      · cases h
        exact List.isEmpty_iff.mp hpassed
      · cases h
        exact absurd (List.isEmpty_iff.mp hpassed) (List.append_ne_nil_of_right_ne_nil _ (List.cons_ne_nil _ _))

/-- A reference that ends is compared. -/
theorem status_of_ends {ref : Except Exc ℤ} (h : Ends (fun _ => True) ref) {bench : ℤ} {failMsgs : List FailMsg}
    {outcome : Outcome} (hrun : runForward ref (.ok bench) failMsgs = .ok outcome) : outcome.status ≠ .skip := by
  unfold runForward at hrun
  cases ref with
  | error e =>
    have hcaught : e.isCaught = false := h
    simp only [hcaught, Bool.false_eq_true, if_false] at hrun
    cases hrun
  | ok next =>
    simp only at hrun
    by_cases heq : next = bench
    · rw [if_pos heq] at hrun
      cases hrun
      exact ForwardStatus.noConfusion
    · rw [if_neg heq] at hrun
      cases hrun
      exact ForwardStatus.noConfusion

/-- For an accepted config and a file with the planned tensors, the law of the reference holds exactly where the guard
does. -/
theorem referenceLaw_iff {source : SourceConfig} (haccept : acceptConfig source = .ok cfg) (hplan : Planned file cfg)
    (promptIds : List ℤ) (next bench : ℤ) (failMsgs : List FailMsg) :
    ReferenceLaw file cfg promptIds next bench failMsgs ↔ ReferenceGuard cfg failMsgs := by
  have haccept := accepted_of_acceptConfig haccept
  unfold ReferenceLaw ReferenceGuard
  rw [loads_iff_kvDim hplan, kvDim_eq_dModel_iff haccept]
  refine and_congr_right fun hfits => ?_
  have hload := (loads_iff_kvDim hplan).mpr (hfits.imp_right (kvDim_eq_dModel_iff haccept).mpr)
  constructor
  · intro hlaw
    by_contra hguard
    rw [not_or, not_lt, not_not] at hguard
    obtain ⟨hkv, rfl⟩ := hguard
    obtain ⟨weights, hweights, -⟩ := hload
    have hrun : runForward (reference file cfg promptIds next) (.ok bench) [] = .ok ⟨.skip, []⟩ := by
      rw [reference_of_nonpos haccept hkv hweights]
      rfl
    exact hlaw _ hrun ⟨rfl, rfl⟩
  · rintro (hkv | hmsgs) outcome hrun ⟨hskip, hpassed⟩
    · exact status_of_ends (reference_ends haccept hkv hload promptIds next) hrun hskip
    · exact hmsgs (passed_of_runForward hrun hpassed)

/-- A file with the planned tensors, all of whose values are 0. -/
def zeroFile (cfg : Att1Cfg) (size : ℕ) : SourceFile where
  header := (buildPlan cfg).map fun item => (item.source, ⟨"F32", item.sourceShape, 0, 4 * item.sourceShape.prod⟩)
  dataOffset := 0
  bytes := List.replicate size 0

/-- A config with one layer and two heads. -/
def smallSource (nKvHeads : ℤ) : SourceConfig := ⟨some 2, some nKvHeads, some 3, some 1, some 4, some 5⟩

def smallCfg (nKvHeads : ℤ) : Att1Cfg := ⟨3, 1, 2, nKvHeads, 4, 5⟩

theorem planned_zeroFile {size : ℕ}
    (hfound : ∀ item ∈ buildPlan cfg, (zeroFile cfg size).header.lookup item.source =
      some ⟨"F32", item.sourceShape, 0, 4 * item.sourceShape.prod⟩)
    (hdims : ∀ item ∈ buildPlan cfg, (∀ dim ∈ item.sourceShape, 0 ≤ dim) ∧ 4 * item.sourceShape.prod ≤ size) :
    Planned (zeroFile cfg size) cfg := by
  intro item hitem
  obtain ⟨hdim, hsize⟩ := hdims item hitem
  refine Or.inl ⟨_, hfound item hitem, rfl, hdim, List.mem_cons_self, le_rfl, ?_, ?_⟩
  · show 4 * item.sourceShape.prod - 0 = item.sourceShape.prod * 4
    omega
  · show (0 : ℕ) + 4 * item.sourceShape.prod ≤ ((List.replicate size (0 : UInt8)).length : ℤ)
    rw [List.length_replicate]
    omega

theorem referenceLaw_two_heads :
    ReferenceLaw (zeroFile (smallCfg 2) 80) (smallCfg 2) [0] 0 0 [] ↔ ReferenceGuard (smallCfg 2) [] :=
  @referenceLaw_iff (smallCfg 2) (zeroFile (smallCfg 2) 80) (smallSource 2) rfl
    (planned_zeroFile (by decide +kernel) (by decide +kernel)) [0] 0 0 []

/-- Two heads with one key/value head: the reference is skipped, and the run passes. -/
theorem grouped_heads_skipped :
    acceptConfig (smallSource 1) = .ok (smallCfg 1) ∧ Planned (zeroFile (smallCfg 1) 80) (smallCfg 1) ∧
      ¬ ReferenceLaw (zeroFile (smallCfg 1) 80) (smallCfg 1) [0] 0 0 [] ∧
      runForward (reference (zeroFile (smallCfg 1) 80) (smallCfg 1) [0] 0) (.ok 0) [] = .ok ⟨.skip, []⟩ := by
  have hplan : Planned (zeroFile (smallCfg 1) 80) (smallCfg 1) :=
    planned_zeroFile (by decide +kernel) (by decide +kernel)
  refine ⟨rfl, hplan, fun hlaw => ?_, by decide +kernel⟩
  exact absurd ((loads_iff_kvDim hplan).mp hlaw.1) (by decide)

end Att1.Compare
