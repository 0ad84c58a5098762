import Att1.Decoder.Kernels
import Att1.Lib.Rounding

/-!
# Att1.Decoder.Quantize — the q8 and q4 quantizers in exact arithmetic (`src/quant.c`)

* `quantizeQ8PerRow`, `quantizeQ4PerGroup`: the loops as they write their buffers.
* `quantizeQ8PerRow_eq_some`, `quantizeQ4PerGroup_eq_some`: the matrices they leave, cell by cell.

Every number of an ordered field is finite, so the `isfinite` checks pass.
-/

open Att1.Lib

namespace Att1.Decoder

/-- The numeral of the greatest `int8_t` that is used stands on this one proof. -/
instance q8Levels_atLeastTwo : Nat.AtLeastTwo 127 := ⟨by decide⟩

/-- That of the greatest nibble stands on this one. -/
instance q4Levels_atLeastTwo : Nat.AtLeastTwo 7 := ⟨by decide⟩

variable {R : Type} [Field R] [LinearOrder R]

/-! ### Scales and integers -/

/-- The greatest absolute value of the first `count` values, as the quantizers find it. -/
def maxAbs (src : ℕ → R) (count : ℕ) : R :=
  (List.range count).foldl (fun maxAbs i => if maxAbs < |src i| then |src i| else maxAbs) 0

/-- The scale for a greatest absolute value and a greatest integer. -/
def scaleOf (levels : R) (maxAbs : R) : R := if 0 < maxAbs then maxAbs / levels else 1

/-- The two comparisons that bring a `long` to `-bound … bound`. -/
def clampTo (bound q : ℤ) : ℤ := if bound < q then bound else if q < -bound then -bound else q

/-! ### q8 -/

section Q8

variable [FloorRing R]

/-- `att1_q8_matrix_alloc`. -/
def q8MatrixAlloc (host : Host) (rows cols : ℕ) : Option (Q8Matrix R) :=
  if rows = 0 ∨ cols = 0 then none
  else do
    let valueCount ← mulSize rows cols
    guard (host.calloc valueCount 1 ∧ host.calloc rows 4)
    some ⟨rows, cols, fun _ => 0, fun _ => 0⟩

/-- One turn of the row loop of `att1_quantize_q8_per_row`. -/
def quantizeQ8Row (weights : ℕ → R) (cols : ℕ) (matrix : Q8Matrix R) (row : ℕ) : Q8Matrix R :=
  let scale := scaleOf 127 (maxAbs (fun col => weights (row * cols + col)) cols)
  let matrix := { matrix with scales := Function.update matrix.scales row scale }
  (List.range cols).foldl (fun matrix col =>
    let scaled := weights (row * cols + col) / scale
    let quantized := clampTo 127 (roundAway scaled)
    { matrix with values := Function.update matrix.values (row * cols + col) (UInt8.ofInt quantized) }) matrix

/-- `att1_quantize_q8_per_row`. -/
def quantizeQ8PerRow (host : Host) (weights : ℕ → R) (rows cols : ℕ) : Option (Q8Matrix R) :=
  if rows = 0 ∨ cols = 0 then none
  else do
    let matrix ← q8MatrixAlloc host rows cols
    some ((List.range rows).foldl (quantizeQ8Row weights cols) matrix)

end Q8

/-! ### q4 groups -/

/-- `att1_q4_group_scale`. -/
def q4GroupScale (src : ℕ → R) (groupSize : UInt32) : Option R :=
  if ¬ q4GroupSizeValid groupSize then none else some (scaleOf 7 (maxAbs src groupSize.toNat))

/-- The clamp of `att1_q4_pack_group`. -/
def clampInt4 (v : Int8) : Int8 :=
  let v := if 7 < v then 7 else v
  if v < -7 then -7 else v

/-- The byte of two integers in `att1_q4_pack_group`. -/
def q4Byte (lo hi : Int8) : UInt8 :=
  let lo : UInt8 := (clampInt4 lo).toUInt8 &&& 0x0F
  let hi : UInt8 := (clampInt4 hi).toUInt8 &&& 0x0F
  lo ||| hi <<< 4

/-- `att1_q4_pack_group`. -/
def q4PackGroup (srcInt4 : ℕ → Int8) (groupSize : UInt32) : Option (List UInt8) :=
  if ¬ q4GroupSizeValid groupSize then none
  else
    some ((List.range (groupSize.toNat / 2)).map fun k => q4Byte (srcInt4 (2 * k)) (srcInt4 (2 * k + 1)))

/-- `att1_q4_unpack_group`: the integers of a packed group. -/
def q4Unpack (srcPacked : List UInt8) (groupSize : UInt32) : Option (ℕ → Int8) :=
  if ¬ q4GroupSizeValid groupSize then none
  else some (array groupSize.toNat fun i => Int8.ofInt (ModelFile.q4UnpackGroup srcPacked 0 i))

/-- `att1_q4_dequantize_group`. -/
def q4DequantizeGroup (srcPacked : List UInt8) (groupSize : UInt32) (scale : R) : Option (ℕ → R) := do
  let int4Buf ← q4Unpack srcPacked groupSize
  some (array groupSize.toNat fun i => ((int4Buf i).toInt : R) * scale)

section Q4

variable [FloorRing R]

/-- `att1_q4_quantize_group`. -/
def q4QuantizeGroup (src : ℕ → R) (groupSize : UInt32) : Option (List UInt8 × R) := do
  let scale ← q4GroupScale src groupSize
  let int4Buf := fun i => Int8.ofInt (clampTo 7 (roundAway (src i / scale)))
  let packed ← q4PackGroup int4Buf groupSize
  some (packed, scale)

/-! ### q4 matrices -/

omit [FloorRing R] in
/-- `att1_q4_matrix_alloc`. -/
def q4MatrixAlloc (host : Host) (rows cols : ℕ) (groupSize : UInt32) : Option (Q4Matrix R) :=
  if h : rows ≠ 0 ∧ cols ≠ 0 ∧ q4GroupSizeValid groupSize = true ∧ cols % 2 = 0 ∧ cols % groupSize.toNat = 0 then do
    let packedBytes ← mulSize rows (cols / 2)
    let nGroups ← mulSize (cols / groupSize.toNat) rows
    guard (host.calloc packedBytes 1 ∧ host.calloc nGroups 4)
    some
      { rows, cols, groupSize
        packed := List.replicate packedBytes 0
        scales := fun _ => 0
        valid := h.2.2.1
        grouped := h.2.2.2.2 }
  else none

/-- The group `g` of row `row` in the buffers: the offsets into the values, the packed bytes and the scales. -/
def q4SrcOff (cols : ℕ) (groupSize : UInt32) (row g : ℕ) : ℕ := row * cols + g * groupSize.toNat

def q4PackedOff (cols : ℕ) (groupSize : UInt32) (row g : ℕ) : ℕ := row * (cols / 2) + g * (groupSize.toNat / 2)

def q4ScaleIdx (cols : ℕ) (groupSize : UInt32) (row g : ℕ) : ℕ := row * (cols / groupSize.toNat) + g

/-- One turn of the inner loop of `att1_quantize_q4_per_group`. -/
def quantizeQ4Group (weights : ℕ → R) (cols : ℕ) (groupSize : UInt32) (row : ℕ) (matrix : Q4Matrix R) (g : ℕ) :
    Option (Q4Matrix R) := do
  let (packed, scale) ← q4QuantizeGroup (fun i => weights (q4SrcOff cols groupSize row g + i)) groupSize
  some { matrix with
    packed := overwrite matrix.packed (q4PackedOff cols groupSize row g) packed
    scales := Function.update matrix.scales (q4ScaleIdx cols groupSize row g) scale }

/-- `att1_quantize_q4_per_group`; its own checks are those of the allocation. -/
def quantizeQ4PerGroup (host : Host) (weights : ℕ → R) (rows cols : ℕ) (groupSize : UInt32) : Option (Q4Matrix R) := do
  let matrix ← q4MatrixAlloc host rows cols groupSize
  (List.range rows).foldlM (fun matrix row =>
    (List.range (cols / groupSize.toNat)).foldlM (quantizeQ4Group weights cols groupSize row) matrix) matrix

end Q4

/-! ### Greatest absolute values and scales -/

section

variable {src : ℕ → R} {count i : ℕ} {levels bound v : R}

@[simp] theorem maxAbs_zero (src : ℕ → R) : maxAbs src 0 = 0 := rfl

@[simp] theorem maxAbs_succ (src : ℕ → R) (count : ℕ) : maxAbs src (count + 1) = max (maxAbs src count) |src count| := by
  have hstep : maxAbs src (count + 1) =
      if maxAbs src count < |src count| then |src count| else maxAbs src count := by
    unfold maxAbs
    rw [List.range_succ, List.foldl_append]
    rfl
  rw [hstep]
  split_ifs with hlt
  · exact (max_eq_right hlt.le).symm
  · exact (max_eq_left (not_lt.mp hlt)).symm

theorem maxAbs_congr {src' : ℕ → R} (h : ∀ i < count, src i = src' i) : maxAbs src count = maxAbs src' count := by
  induction count with
  | zero => rfl
  | succ count ih => rw [maxAbs_succ, maxAbs_succ, ih fun i hi => h i (by omega), h count (by omega)]

theorem abs_le_maxAbs (h : i < count) : |src i| ≤ maxAbs src count := by
  induction count with
  | zero => omega
  | succ count ih =>
    rw [maxAbs_succ]
    rcases Nat.lt_succ_iff_lt_or_eq.mp h with hlt | rfl
    · exact (ih hlt).trans (le_max_left _ _)
    · exact le_max_right _ _

theorem maxAbs_le (h0 : 0 ≤ bound) (h : ∀ i < count, |src i| ≤ bound) : maxAbs src count ≤ bound := by
  induction count with
  | zero => exact h0
  | succ count ih =>
    rw [maxAbs_succ]
    exact max_le (ih fun i hi => h i (by omega)) (h count (by omega))

theorem maxAbs_nonneg (src : ℕ → R) (count : ℕ) : 0 ≤ maxAbs src count := by
  induction count with
  | zero => exact le_rfl
  | succ count ih =>
    rw [maxAbs_succ]
    exact ih.trans (le_max_left _ _)

variable [IsStrictOrderedRing R]

theorem scaleOf_pos {greatest : R} (hl : 0 < levels) : 0 < scaleOf levels greatest := by
  unfold scaleOf
  split_ifs with hpos
  · exact div_pos hpos hl
  · exact one_pos

/-- A value of a group is at most the greatest integer, in units of the scale. -/
theorem abs_div_scaleOf_le {greatest : R} (hl : 0 < levels) (hv : |v| ≤ greatest) :
    |v / scaleOf levels greatest| ≤ levels := by
  rw [abs_div, abs_of_pos (scaleOf_pos hl)]
  unfold scaleOf
  split_ifs with hpos
  · rw [div_div_eq_mul_div, div_le_iff₀ hpos, mul_comm]
    exact mul_le_mul_of_nonneg_left hv hl.le
  · rw [div_one]
    exact hv.trans ((not_lt.mp hpos).trans hl.le)

end

theorem clampTo_of_abs_le {bound q : ℤ} (h : |q| ≤ bound) : clampTo bound q = q := by
  obtain ⟨hlow, hhigh⟩ := abs_le.mp h
  unfold clampTo
  rw [if_neg (by omega), if_neg (by omega)]

theorem abs_clampTo_le {bound : ℤ} (h : 0 ≤ bound) (q : ℤ) : |clampTo bound q| ≤ bound := by
  rw [abs_le]
  unfold clampTo
  split_ifs <;> omega

/-! ### The q8 matrix that is left -/

section

variable [FloorRing R] {host : Host} {weights : ℕ → R} {rows cols : ℕ} {m : Q8Matrix R}

/-- The scale of a row. -/
def q8RowScale (weights : ℕ → R) (cols row : ℕ) : R :=
  scaleOf 127 (maxAbs (fun col => weights (row * cols + col)) cols)

/-- The integer of a value. -/
def q8Int (weights : ℕ → R) (cols i : ℕ) : ℤ := clampTo 127 (roundAway (weights i / q8RowScale weights cols (i / cols)))

/-- The matrix with these integers and scales. -/
def q8Filled (weights : ℕ → R) (rows cols : ℕ) : Q8Matrix R where
  rows := rows
  cols := cols
  values := fun i => if i < rows * cols then UInt8.ofInt (q8Int weights cols i) else 0
  scales := array rows (q8RowScale weights cols)

omit [Field R] [LinearOrder R] [FloorRing R] in
theorem foldl_values (matrix : Q8Matrix R) (n off : ℕ) (f : ℕ → UInt8) :
    (List.range n).foldl (fun matrix col =>
        { matrix with values := Function.update matrix.values (off + col) (f col) }) matrix =
      { matrix with values := fun i => if off ≤ i ∧ i < off + n then f (i - off) else matrix.values i } := by
  rw [← foldl_update n off f matrix.values]
  induction n with
  | zero => rfl
  | succ n ih =>
    rw [List.range_succ, List.foldl_append, ih, List.foldl_append]
    rfl

theorem quantizeQ8Row_eq (weights : ℕ → R) (cols : ℕ) (matrix : Q8Matrix R) (row : ℕ) :
    quantizeQ8Row weights cols matrix row =
      { matrix with
        scales := Function.update matrix.scales row (q8RowScale weights cols row)
        values := fun i =>
          if row * cols ≤ i ∧ i < row * cols + cols then UInt8.ofInt (q8Int weights cols i) else matrix.values i } := by
  refine (foldl_values { matrix with scales := Function.update matrix.scales row (q8RowScale weights cols row) } cols
    (row * cols) fun col =>
      UInt8.ofInt (clampTo 127 (roundAway (weights (row * cols + col) / q8RowScale weights cols row)))).trans ?_
  simp only [Q8Matrix.mk.injEq, true_and, and_true]
  ext i
  split_ifs with hi
  · have hrow : i / cols = row := by
      refine Nat.div_eq_of_lt_le hi.1 ?_
      rw [Nat.add_mul, Nat.one_mul]
      exact hi.2
    unfold q8Int
    rw [hrow, Nat.add_sub_cancel' hi.1]
  · rfl

theorem foldl_quantizeQ8Row (weights : ℕ → R) (cols n : ℕ) (matrix : Q8Matrix R) :
    (List.range n).foldl (quantizeQ8Row weights cols) matrix =
      { matrix with
        scales := fun row => if row < n then q8RowScale weights cols row else matrix.scales row
        values := fun i => if i < n * cols then UInt8.ofInt (q8Int weights cols i) else matrix.values i } := by
  induction n with
  | zero => simp
  | succ n ih =>
    rw [List.range_succ, List.foldl_append, ih, List.foldl_cons, List.foldl_nil, quantizeQ8Row_eq]
    simp only [Q8Matrix.mk.injEq, true_and]
    constructor
    · ext i
      rw [Nat.add_mul, Nat.one_mul]
      split_ifs <;> first | rfl | omega
    · ext row
      rw [Function.update_apply]
      split_ifs with heq <;> first | rfl | omega | rw [heq]

/-- The q8 quantizer leaves the matrix of its integers and scales, where it has the memory. -/
theorem quantizeQ8PerRow_eq_some : quantizeQ8PerRow host weights rows cols = some m ↔
    (rows ≠ 0 ∧ cols ≠ 0 ∧ rows * cols ≤ sizeMax ∧ host.calloc (rows * cols) 1 = true ∧ host.calloc rows 4 = true) ∧
      m = q8Filled weights rows cols := by
  have hfill : (List.range rows).foldl (quantizeQ8Row weights cols) ⟨rows, cols, fun _ => 0, fun _ => 0⟩ =
      q8Filled weights rows cols := foldl_quantizeQ8Row weights cols rows _
  unfold quantizeQ8PerRow
  by_cases hz : rows = 0 ∨ cols = 0
  · rw [if_pos hz]
    exact iff_of_false (by simp) (by tauto)
  rw [if_neg hz, Option.bind_eq_bind, Option.bind_eq_some_iff]
  unfold q8MatrixAlloc
  rw [if_neg hz]
  constructor
  · rintro ⟨matrix, halloc, hm⟩
    obtain ⟨valueCount, hmul, halloc⟩ := Option.bind_eq_some_iff.mp halloc
    obtain ⟨rfl, hfits⟩ := mulSize_eq_some.mp hmul
    obtain ⟨hcalloc, halloc⟩ := guard_bind_eq_some.mp halloc
    cases halloc
    rw [hfill] at hm
    cases hm
    exact ⟨⟨by tauto, by tauto, hfits, hcalloc⟩, rfl⟩
  · rintro ⟨⟨-, -, hfits, hcalloc⟩, rfl⟩
    refine ⟨_, ?_, congrArg some hfill⟩
    exact Option.bind_eq_some_iff.mpr ⟨_, mulSize_eq_some.mpr ⟨rfl, hfits⟩, guard_bind_eq_some.mpr ⟨hcalloc, rfl⟩⟩

end

/-! ### The q4 matrix that is left -/

section

variable [FloorRing R] {host : Host} {weights : ℕ → R} {rows cols row g n : ℕ} {groupSize : UInt32} {m : Q4Matrix R}

omit [Field R] [LinearOrder R] [FloorRing R] in
theorem q4GroupSizeValid_cases (h : q4GroupSizeValid groupSize = true) :
    groupSize.toNat = 16 ∨ groupSize.toNat = 32 ∨ groupSize.toNat = 64 ∨ groupSize.toNat = 128 := by
  have hsmall : ∀ n < 129, q4GroupSizeValid (UInt32.ofNat n) = true → n = 16 ∨ n = 32 ∨ n = 64 ∨ n = 128 := by
    decide +kernel
  have hle : groupSize.toNat ≤ 128 := by
    simp only [q4GroupSizeValid, Bool.and_eq_true, decide_eq_true_eq] at h
    exact UInt32.le_iff_toNat_le.mp h.1.2
  exact hsmall groupSize.toNat (by omega) (by rwa [UInt32.ofNat_toNat])

omit [Field R] [LinearOrder R] [FloorRing R] in
theorem even_of_valid (h : q4GroupSizeValid groupSize = true) : groupSize.toNat % 2 = 0 := by
  have := q4GroupSizeValid_cases h
  omega

omit [Field R] [LinearOrder R] [FloorRing R] in
theorem half_cols (hv : q4GroupSizeValid groupSize = true) (hgrouped : cols % groupSize.toNat = 0) :
    cols / 2 = cols / groupSize.toNat * (groupSize.toNat / 2) := by
  rw [← Nat.mul_div_assoc _ (Nat.dvd_of_mod_eq_zero (even_of_valid hv)),
    Nat.div_mul_cancel (Nat.dvd_of_mod_eq_zero hgrouped)]

omit [Field R] [LinearOrder R] [FloorRing R] in
/-- The bytes of the groups fill the packed buffer. -/
theorem q4_packedBytes (hv : q4GroupSizeValid groupSize = true) (hgrouped : cols % groupSize.toNat = 0) (rows : ℕ) :
    rows * (cols / 2) = rows * (cols / groupSize.toNat) * (groupSize.toNat / 2) := by
  rw [half_cols hv hgrouped, Nat.mul_assoc]

omit [Field R] [LinearOrder R] [FloorRing R] in
/-- The groups of a matrix are numbered by `q4ScaleIdx`, and each buffer holds them one after the other. -/
theorem q4_offsets (hv : q4GroupSizeValid groupSize = true) (hgrouped : cols % groupSize.toNat = 0) (row g : ℕ) :
    q4SrcOff cols groupSize row g = q4ScaleIdx cols groupSize row g * groupSize.toNat ∧
      q4PackedOff cols groupSize row g = q4ScaleIdx cols groupSize row g * (groupSize.toNat / 2) := by
  unfold q4SrcOff q4PackedOff q4ScaleIdx
  constructor
  · rw [Nat.add_mul, Nat.mul_assoc, Nat.div_mul_cancel (Nat.dvd_of_mod_eq_zero hgrouped)]
  · rw [half_cols hv hgrouped, Nat.add_mul, Nat.mul_assoc]

/-- The scale of group `b`. -/
def q4Scale (weights : ℕ → R) (groupSize : UInt32) (b : ℕ) : R :=
  scaleOf 7 (maxAbs (fun i => weights (b * groupSize.toNat + i)) groupSize.toNat)

/-- The integer of element `i` of group `b`. -/
def q4Int (weights : ℕ → R) (groupSize : UInt32) (b i : ℕ) : ℤ :=
  clampTo 7 (roundAway (weights (b * groupSize.toNat + i) / q4Scale weights groupSize b))

/-- The packed bytes of group `b`. -/
def q4Bytes (weights : ℕ → R) (groupSize : UInt32) (b : ℕ) : List UInt8 :=
  (List.range (groupSize.toNat / 2)).map fun k =>
    q4Byte (Int8.ofInt (q4Int weights groupSize b (2 * k))) (Int8.ofInt (q4Int weights groupSize b (2 * k + 1)))

omit [Field R] [LinearOrder R] [FloorRing R] in
@[simp] theorem length_q4PackGroup {srcInt4 : ℕ → Int8} {packed : List UInt8}
    (h : q4PackGroup srcInt4 groupSize = some packed) : packed.length = groupSize.toNat / 2 := by
  unfold q4PackGroup at h
  split_ifs at h
  cases h
  rw [List.length_map, List.length_range]

/-- A group of a valid size is quantized. -/
theorem q4QuantizeGroup_eq (hv : q4GroupSizeValid groupSize = true) (b : ℕ) :
    q4QuantizeGroup (fun i => weights (b * groupSize.toNat + i)) groupSize =
      some (q4Bytes weights groupSize b, q4Scale weights groupSize b) := by
  simp only [q4QuantizeGroup, q4GroupScale, q4PackGroup, hv, not_true_eq_false, if_false]
  rfl

/-- What a turn of the loops does for group `b`. -/
def putGroup (weights : ℕ → R) (groupSize : UInt32) (matrix : Q4Matrix R) (b : ℕ) : Q4Matrix R :=
  { matrix with
    packed := overwrite matrix.packed (b * (groupSize.toNat / 2)) (q4Bytes weights groupSize b)
    scales := Function.update matrix.scales b (q4Scale weights groupSize b) }

theorem quantizeQ4Group_eq (hv : q4GroupSizeValid groupSize = true) (hgrouped : cols % groupSize.toNat = 0) (row : ℕ)
    (matrix : Q4Matrix R) (g : ℕ) :
    quantizeQ4Group weights cols groupSize row matrix g =
      some (putGroup weights groupSize matrix (row * (cols / groupSize.toNat) + g)) := by
  obtain ⟨hsrc, hpacked⟩ := q4_offsets hv hgrouped row g
  unfold quantizeQ4Group
  rw [hsrc, hpacked, q4QuantizeGroup_eq hv]
  rfl

/-- The matrix after the first `n` groups. -/
theorem foldl_putGroup (matrix : Q4Matrix R) (hlen : n * (groupSize.toNat / 2) ≤ matrix.packed.length) :
    (List.range n).foldl (putGroup weights groupSize) matrix =
      { matrix with
        packed := (List.range n).flatMap (q4Bytes weights groupSize) ++ matrix.packed.drop (n * (groupSize.toNat / 2))
        scales := fun b => if b < n then q4Scale weights groupSize b else matrix.scales b } := by
  have hfields : (List.range n).foldl (putGroup weights groupSize) matrix =
      { matrix with
        packed := (List.range n).foldl (fun packed b =>
          overwrite packed (b * (groupSize.toNat / 2)) (q4Bytes weights groupSize b)) matrix.packed
        scales := (List.range n).foldl (fun scales b =>
          Function.update scales (0 + b) (q4Scale weights groupSize b)) matrix.scales } := by
    clear hlen
    induction n with
    | zero => rfl
    | succ n ih =>
      rw [List.range_succ, List.foldl_append, ih, List.foldl_append, List.foldl_append]
      simp only [Nat.zero_add]
      rfl
  have hbytes : ∀ b < n, (q4Bytes weights groupSize b).length = groupSize.toNat / 2 := by
    intro b _
    rw [q4Bytes, List.length_map, List.length_range]
  rw [hfields, foldl_overwrite hbytes hlen, foldl_update]
  simp

/-- The matrix with the bytes and the scales of all groups, one after the other. -/
def q4Filled (weights : ℕ → R) (rows cols : ℕ) (groupSize : UInt32) (valid : q4GroupSizeValid groupSize = true)
    (grouped : cols % groupSize.toNat = 0) : Q4Matrix R where
  rows := rows
  cols := cols
  groupSize := groupSize
  packed := (List.range (rows * (cols / groupSize.toNat))).flatMap (q4Bytes weights groupSize)
  scales := fun b => if b < rows * (cols / groupSize.toNat) then q4Scale weights groupSize b else 0
  valid := valid
  grouped := grouped

omit [LinearOrder R] [FloorRing R] in
theorem q4MatrixAlloc_eq_some : q4MatrixAlloc host rows cols groupSize = some m ↔
    (rows ≠ 0 ∧ cols ≠ 0 ∧ cols % 2 = 0 ∧ rows * (cols / 2) ≤ sizeMax ∧ cols / groupSize.toNat * rows ≤ sizeMax ∧
      host.calloc (rows * (cols / 2)) 1 = true ∧ host.calloc (cols / groupSize.toNat * rows) 4 = true) ∧
    ∃ valid grouped, m =
      ⟨rows, cols, groupSize, List.replicate (rows * (cols / 2)) 0, fun _ => 0, valid, grouped⟩ := by
  unfold q4MatrixAlloc
  split_ifs with h
  · constructor
    · intro halloc
      obtain ⟨packedBytes, hpacked, halloc⟩ := Option.bind_eq_some_iff.mp halloc
      obtain ⟨nGroups, hgroups, halloc⟩ := Option.bind_eq_some_iff.mp halloc
      obtain ⟨rfl, hfits⟩ := mulSize_eq_some.mp hpacked
      obtain ⟨rfl, hfits'⟩ := mulSize_eq_some.mp hgroups
      obtain ⟨hcalloc, hm⟩ := guard_bind_eq_some.mp halloc
      cases hm
      exact ⟨⟨h.1, h.2.1, h.2.2.2.1, hfits, hfits', hcalloc⟩, h.2.2.1, h.2.2.2.2, rfl⟩
    · rintro ⟨⟨-, -, -, hfits, hfits', hcalloc⟩, -, -, rfl⟩
      refine Option.bind_eq_some_iff.mpr ⟨_, mulSize_eq_some.mpr ⟨rfl, hfits⟩, ?_⟩
      refine Option.bind_eq_some_iff.mpr ⟨_, mulSize_eq_some.mpr ⟨rfl, hfits'⟩, ?_⟩
      exact guard_bind_eq_some.mpr ⟨hcalloc, rfl⟩
  · refine iff_of_false (by simp) ?_
    rintro ⟨⟨hrows, hcols, heven, -⟩, hv, hg, -⟩
    exact h ⟨hrows, hcols, hv, heven, hg⟩

/-- The q4 quantizer leaves the matrix of the bytes and scales of its groups, where it has the memory. -/
theorem quantizeQ4PerGroup_eq_some : quantizeQ4PerGroup host weights rows cols groupSize = some m ↔
    (∃ m₀ : Q4Matrix R, q4MatrixAlloc host rows cols groupSize = some m₀) ∧
      ∃ valid grouped, m = q4Filled weights rows cols groupSize valid grouped := by
  have hfill : ∀ m₀ : Q4Matrix R, q4MatrixAlloc host rows cols groupSize = some m₀ →
      ∃ valid grouped, quantizeQ4PerGroup host weights rows cols groupSize =
        some (q4Filled weights rows cols groupSize valid grouped) := by
    intro m₀ halloc
    obtain ⟨⟨-, -, heven, -⟩, hv, hg, rfl⟩ := q4MatrixAlloc_eq_some.mp halloc
    refine ⟨hv, hg, ?_⟩
    have hgroup : quantizeQ4Group weights cols groupSize = fun row matrix g =>
        some (putGroup weights groupSize matrix (row * (cols / groupSize.toNat) + g)) := by
      ext1 row
      ext1 matrix
      ext1 g
      exact quantizeQ4Group_eq hv hg row matrix g
    unfold quantizeQ4PerGroup
    rw [halloc, hgroup]
    have hloop : (List.range rows).foldlM (fun (matrix : Q4Matrix R) row =>
          (List.range (cols / groupSize.toNat)).foldlM
            (fun matrix g => some (putGroup weights groupSize matrix (row * (cols / groupSize.toNat) + g))) matrix)
          ⟨rows, cols, groupSize, List.replicate (rows * (cols / 2)) 0, fun _ => 0, hv, hg⟩ =
        some ((List.range (rows * (cols / groupSize.toNat))).foldl (putGroup weights groupSize)
          ⟨rows, cols, groupSize, List.replicate (rows * (cols / 2)) 0, fun _ => 0, hv, hg⟩) := by
      have hinner : ∀ (row : ℕ) (matrix : Q4Matrix R), (List.range (cols / groupSize.toNat)).foldlM
            (fun matrix g => some (putGroup weights groupSize matrix (row * (cols / groupSize.toNat) + g))) matrix =
          some ((List.range (cols / groupSize.toNat)).foldl
            (fun matrix g => putGroup weights groupSize matrix (row * (cols / groupSize.toNat) + g)) matrix) :=
        fun _ _ => List.foldlM_pure
      rw [← foldl_range_blocks]
      simp only [hinner]
      exact List.foldlM_pure
    have hsize := q4_packedBytes hv hg rows
    have hlen : rows * (cols / groupSize.toNat) * (groupSize.toNat / 2) ≤
        (List.replicate (rows * (cols / 2)) (0 : UInt8)).length := by rw [List.length_replicate, hsize]
    refine hloop.trans (congrArg some ((foldl_putGroup _ hlen).trans ?_))
    unfold q4Filled
    simp only [Q4Matrix.mk.injEq, true_and, and_true]
    rw [List.drop_eq_nil_of_le (by rw [List.length_replicate, hsize]), List.append_nil]
  constructor
  · intro h
    obtain ⟨m₀, halloc, -⟩ := Option.bind_eq_some_iff.mp h
    obtain ⟨hv, hg, hm⟩ := hfill m₀ halloc
    rw [h] at hm
    exact ⟨⟨m₀, halloc⟩, hv, hg, Option.some_inj.mp hm⟩
  · rintro ⟨⟨m₀, halloc⟩, hv, hg, rfl⟩
    obtain ⟨_, _, hm⟩ := hfill m₀ halloc
    exact hm

end

end Att1.Decoder
