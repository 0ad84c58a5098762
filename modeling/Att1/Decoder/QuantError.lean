import Att1.Decoder.Nibbles

/-!
# Att1.Decoder.QuantError — the error of the quantizers

The scale of a group or row is at least each of its absolute values over the greatest integer, so that no value is
clamped, and a nearest integer is off by at most a half.
-/

open Att1.Lib Att1.ModelFile

namespace Att1.Decoder

variable {R : Type} [Field R] [LinearOrder R] [IsStrictOrderedRing R] [FloorRing R] {host : Host} {weights : ℕ → R}
  {rows cols row col : ℕ} {groupSize : UInt32}

/-! ### One value -/

section

variable {v scale greatest : R} {q levels : ℤ}

/-- A nearest integer of `v / scale` is off by at most half a scale. -/
theorem abs_mul_sub_le (hscale : 0 < scale) (hq : |(q : R) - v / scale| ≤ 1 / 2) : |q * scale - v| ≤ scale / 2 := by
  have hfactor : q * scale - v = (q - v / scale) * scale := by
    rw [sub_mul, div_mul_cancel₀ v hscale.ne']
  rw [hfactor, abs_mul, abs_of_pos hscale]
  calc |(q : R) - v / scale| * scale ≤ 1 / 2 * scale := mul_le_mul_of_nonneg_right hq hscale.le
    _ = scale / 2 := by ring

/-- The clamp does nothing: no nearest integer is greater than the greatest. -/
theorem abs_roundAway_le (hl : 0 < levels) (hv : |v| ≤ greatest) :
    |roundAway (v / scaleOf (levels : R) greatest)| ≤ levels := by
  refine abs_le_of_nearest (abs_roundAway_sub_le _) (abs_div_scaleOf_le ?_ hv)
  exact_mod_cast hl

theorem clampTo_roundAway (hl : 0 < levels) (hv : |v| ≤ greatest) :
    clampTo levels (roundAway (v / scaleOf (levels : R) greatest)) = roundAway (v / scaleOf (levels : R) greatest) :=
  clampTo_of_abs_le (abs_roundAway_le hl hv)

end

/-! ### q8 -/

theorem int8Value_ofInt {q : ℤ} (h : |q| ≤ 127) : int8Value (UInt8.ofInt q) = q := by
  obtain ⟨hlow, hhigh⟩ := abs_le.mp h
  have hbyte := toNat_ofInt q
  unfold int8Value
  split_ifs <;> omega

theorem q8Int_eq (hcol : col < cols) : q8Int weights cols (row * cols + col) =
    roundAway (weights (row * cols + col) / q8RowScale weights cols row) := by
  have hv : |weights (row * cols + col)| ≤ maxAbs (fun col => weights (row * cols + col)) cols :=
    @abs_le_maxAbs _ _ _ (fun col => weights (row * cols + col)) _ _ hcol
  have hclamp := clampTo_roundAway (by decide : (0 : ℤ) < 127) hv
  unfold q8Int q8RowScale
  rw [block_div hcol]
  exact_mod_cast hclamp

omit [IsStrictOrderedRing R] in
theorem abs_q8Int_le (weights : ℕ → R) (cols i : ℕ) : |q8Int weights cols i| ≤ 127 := abs_clampTo_le (by decide) _

theorem q8Filled_weight (hrow : row < rows) (hcol : col < cols) : (q8Filled weights rows cols).weight row col =
    (roundAway (weights (row * cols + col) / q8RowScale weights cols row) : R) * q8RowScale weights cols row := by
  unfold Q8Matrix.weight q8Filled
  simp only
  rw [if_pos (block_lt hrow hcol), array_of_lt hrow, int8Value_ofInt (abs_q8Int_le _ _ _), q8Int_eq hcol]

/-! ### q4 -/

/-- Element `col` of row `row`, as an element of its group. -/
theorem group_index (hg : cols % groupSize.toNat = 0) (row col : ℕ) :
    (row * (cols / groupSize.toNat) + col / groupSize.toNat) * groupSize.toNat + col % groupSize.toNat =
      row * cols + col := by
  rw [Nat.add_mul, Nat.mul_assoc, Nat.div_mul_cancel (Nat.dvd_of_mod_eq_zero hg), Nat.add_assoc, Nat.mul_comm (col / _),
    Nat.div_add_mod]

theorem q4Int_eq {b i : ℕ} (hi : i < groupSize.toNat) : q4Int weights groupSize b i =
    roundAway (weights (b * groupSize.toNat + i) / q4Scale weights groupSize b) := by
  have hv : |weights (b * groupSize.toNat + i)| ≤
      maxAbs (fun i => weights (b * groupSize.toNat + i)) groupSize.toNat :=
    @abs_le_maxAbs _ _ _ (fun i => weights (b * groupSize.toNat + i)) _ _ hi
  have hclamp := clampTo_roundAway (by decide : (0 : ℤ) < 7) hv
  unfold q4Int q4Scale
  exact_mod_cast hclamp

omit [IsStrictOrderedRing R] in
theorem abs_q4Int_le (weights : ℕ → R) (groupSize : UInt32) (b i : ℕ) : |q4Int weights groupSize b i| ≤ 7 :=
  abs_clampTo_le (by decide) _

theorem div_groupSize_lt (hg : cols % groupSize.toNat = 0) (hcol : col < cols) :
    col / groupSize.toNat < cols / groupSize.toNat := by
  refine Nat.div_lt_of_lt_mul ?_
  rwa [Nat.mul_comm, Nat.div_mul_cancel (Nat.dvd_of_mod_eq_zero hg)]

omit [Field R] [LinearOrder R] [IsStrictOrderedRing R] [FloorRing R] in
/-- The integer of one element in the packed bytes of all groups, and of whatever follows them. -/
theorem q4UnpackGroup_groups {q : ℕ → ℕ → ℤ} (hq : ∀ b i, |q b i| ≤ 7) (hv : q4GroupSizeValid groupSize = true)
    (hg : cols % groupSize.toNat = 0) (hrow : row < rows) (hcol : col < cols) (rest : List UInt8) :
    q4UnpackGroup (((List.range (rows * (cols / groupSize.toNat))).flatMap fun b => (List.range (groupSize.toNat / 2)).map
        fun k => q4Byte (Int8.ofInt (q b (2 * k))) (Int8.ofInt (q b (2 * k + 1)))) ++ rest)
      (row * (cols / 2) + col / groupSize.toNat * (groupSize.toNat / 2)) (col % groupSize.toNat) =
        q (row * (cols / groupSize.toNat) + col / groupSize.toNat) (col % groupSize.toNat) := by
  have heven := even_of_valid hv
  have hpos : 0 < groupSize.toNat := by
    have := q4GroupSizeValid_cases hv
    omega
  have hcol' := Nat.mod_lt col hpos
  let group (b : ℕ) : List UInt8 := (List.range (groupSize.toNat / 2)).map fun k =>
    q4Byte (Int8.ofInt (q b (2 * k))) (Int8.ofInt (q b (2 * k + 1)))
  have hbytes : ∀ b < rows * (cols / groupSize.toNat), (group b).length = groupSize.toNat / 2 := by
    intro b _
    rw [List.length_map, List.length_range]
  set b := row * (cols / groupSize.toNat) + col / groupSize.toNat with hb
  have hlt : b < rows * (cols / groupSize.toNat) := block_lt hrow (div_groupSize_lt hg hcol)
  have hoff : row * (cols / 2) + col / groupSize.toNat * (groupSize.toNat / 2) = b * (groupSize.toNat / 2) :=
    (q4_offsets hv hg row (col / groupSize.toNat)).2
  have hwhole : ((List.range (rows * (cols / groupSize.toNat))).flatMap group).length =
      rows * (cols / groupSize.toNat) * (groupSize.toNat / 2) := by
    rw [flatMap_range_blocks, List.length_map, List.length_range]
  have hinside : b * (groupSize.toNat / 2) + groupSize.toNat / 2 ≤
      ((List.range (rows * (cols / groupSize.toNat))).flatMap group).length := by
    rw [hwhole, ← Nat.succ_mul]
    exact Nat.mul_le_mul_right _ hlt
  obtain ⟨hlow, hhigh⟩ := abs_le.mp (hq b (col % groupSize.toNat))
  have hmap := @q4UnpackGroup_map (col % groupSize.toNat) (groupSize.toNat / 2) (fun i => Int8.ofInt (q b i)) (by omega)
  rw [hoff, ← @q4UnpackGroup_slice _ _ _ (groupSize.toNat / 2) (by omega), slice_append_left hinside,
    slice_flatMap hbytes hlt]
  rw [Int8.toInt_ofInt_of_le (by omega) (by omega), min_eq_right hhigh, max_eq_right hlow] at hmap
  exact hmap

theorem q4Filled_weight (hv : q4GroupSizeValid groupSize = true) (hg : cols % groupSize.toNat = 0) (hrow : row < rows)
    (hcol : col < cols) : (q4Filled weights rows cols groupSize hv hg).weight row col =
      (roundAway (weights (row * cols + col) /
        q4Scale weights groupSize (row * (cols / groupSize.toNat) + col / groupSize.toNat)) : R) *
        q4Scale weights groupSize (row * (cols / groupSize.toNat) + col / groupSize.toNat) := by
  have hpos : 0 < groupSize.toNat := by
    have := q4GroupSizeValid_cases hv
    omega
  have hint := q4UnpackGroup_groups (abs_q4Int_le weights groupSize) hv hg hrow hcol []
  rw [List.append_nil, q4Int_eq (Nat.mod_lt col hpos), group_index hg] at hint
  have hscale : (q4Filled weights rows cols groupSize hv hg).scales
        (row * (cols / groupSize.toNat) + col / groupSize.toNat) =
      q4Scale weights groupSize (row * (cols / groupSize.toNat) + col / groupSize.toNat) :=
    if_pos (block_lt hrow (div_groupSize_lt hg hcol))
  rw [← hint]
  exact congrArg _ hscale

/-! ### Matrices -/

/-- **The quantization error** is at most half a scale, and zeros are exact. -/
theorem quantization_error (host : Host) (weights : ℕ → R) (rows cols : ℕ) :
    (∀ (groupSize : UInt32) (m : Q4Matrix R), quantizeQ4PerGroup host weights rows cols groupSize = some m →
      ∀ row < rows, ∀ col < cols,
        |m.dequantized row col - weights (row * cols + col)| ≤
            m.scales (q4ScaleIdx cols groupSize row (col / groupSize.toNat)) / 2 ∧
          ((∀ j < groupSize.toNat, weights (q4SrcOff cols groupSize row (col / groupSize.toNat) + j) = 0) →
            m.dequantized row col = 0)) ∧
    (∀ m : Q8Matrix R, quantizeQ8PerRow host weights rows cols = some m → ∀ row < rows, ∀ col < cols,
      |m.weight row col - weights (row * cols + col)| ≤ m.scales row / 2 ∧
        ((∀ j < cols, weights (row * cols + j) = 0) → m.weight row col = 0)) := by
  constructor
  · intro groupSize m hm row hrow col hcol
    obtain ⟨-, hv, hg, rfl⟩ := quantizeQ4PerGroup_eq_some.mp hm
    have hscale : (q4Filled weights rows cols groupSize hv hg).scales
          (q4ScaleIdx cols groupSize row (col / groupSize.toNat)) =
        q4Scale weights groupSize (row * (cols / groupSize.toNat) + col / groupSize.toNat) :=
      if_pos (block_lt hrow (div_groupSize_lt hg hcol))
    have hpos : 0 < q4Scale weights groupSize (row * (cols / groupSize.toNat) + col / groupSize.toNat) :=
      scaleOf_pos (by norm_num)
    rw [Q4Matrix.dequantized_eq, q4Filled_weight hv hg hrow hcol, hscale]
    refine ⟨abs_mul_sub_le hpos (abs_roundAway_sub_le _), fun hzero => ?_⟩
    have hself : weights (row * cols + col) = 0 := by
      have hsize := q4GroupSizeValid_cases hv
      have hcol' := hzero (col % groupSize.toNat) (Nat.mod_lt col (by omega))
      rwa [(q4_offsets hv hg row _).1, q4ScaleIdx, group_index hg] at hcol'
    rw [hself, zero_div, roundAway_zero, Int.cast_zero, zero_mul]
  · intro m hm row hrow col hcol
    obtain ⟨-, rfl⟩ := quantizeQ8PerRow_eq_some.mp hm
    have hscale : (q8Filled weights rows cols).scales row = q8RowScale weights cols row := array_of_lt hrow
    have hpos : 0 < q8RowScale weights cols row := scaleOf_pos (by norm_num)
    rw [q8Filled_weight hrow hcol, hscale]
    refine ⟨abs_mul_sub_le hpos (abs_roundAway_sub_le _), fun hzero => ?_⟩
    rw [hzero col hcol, zero_div, roundAway_zero, Int.cast_zero, zero_mul]

/-- A group of 16 thirds, and a row of them. -/
theorem quantization_error_thirds : ∃ (m : Q4Matrix ℚ) (m' : Q8Matrix ℚ),
    quantizeQ4PerGroup .generous (fun i => (i : ℚ) / 3) 1 16 16 = some m ∧
    quantizeQ8PerRow .generous (fun i => (i : ℚ) / 3) 1 16 = some m' ∧
    |m.dequantized 0 5 - 5 / 3| ≤ m.scales 0 / 2 ∧ |m'.weight 0 5 - 5 / 3| ≤ m'.scales 0 / 2 := by
  obtain ⟨m₀, halloc⟩ : ∃ m₀ : Q4Matrix ℚ, q4MatrixAlloc .generous 1 16 16 = some m₀ := by
    refine ⟨_, q4MatrixAlloc_eq_some.mpr ⟨?_, rfl, rfl, rfl⟩⟩
    decide
  have hq4 : quantizeQ4PerGroup .generous (fun i => (i : ℚ) / 3) 1 16 16 = some (q4Filled _ 1 16 16 rfl rfl) :=
    quantizeQ4PerGroup_eq_some.mpr ⟨⟨m₀, halloc⟩, rfl, rfl, rfl⟩
  have hq8 : quantizeQ8PerRow .generous (fun i => (i : ℚ) / 3) 1 16 = some (q8Filled _ 1 16) :=
    quantizeQ8PerRow_eq_some.mpr ⟨by decide, rfl⟩
  have h := quantization_error .generous (fun i => (i : ℚ) / 3) 1 16
  have herror := (h.1 16 _ hq4 0 (by decide) 5 (by decide)).1
  have herror' := (h.2 _ hq8 0 (by decide) 5 (by decide)).1
  refine ⟨_, _, hq4, hq8, ?_, ?_⟩
  · exact_mod_cast herror
  · exact_mod_cast herror'

end Att1.Decoder
