import Att1.Converter.Tensors
import Att1.Decoder.QuantError

/-!
# Att1.Converter.Exact — the quantizers of the converter and of `src/quant.c` on the same matrix

* `exactFloats`: the float operations of the constructors, for exact numbers.
* `q4_agree_iff`: the q4 forms agree where no value is halfway between an even integer and the next one away from zero.
-/

open Att1.Lib Att1.ModelFile Att1.Decoder

namespace Att1.Converter

/-! ### Groups of a matrix -/

section

variable {rows cols n : ℕ} {groupSize : UInt32}

/-- Group `g` of row `r` is group number `r * (cols / groupSize) + g` of the values. -/
theorem q4_group_index (hg : cols % groupSize.toNat = 0) (r g : ℕ) :
    r * cols + g * groupSize.toNat = (r * (cols / groupSize.toNat) + g) * groupSize.toNat := by
  rw [Nat.add_mul, Nat.mul_assoc, Nat.div_mul_cancel (Nat.dvd_of_mod_eq_zero hg)]

theorem q4_group_fits (hg : cols % groupSize.toNat = 0) (hlen : n = rows * cols) {b : ℕ}
    (hb : b < rows * (cols / groupSize.toNat)) : b * groupSize.toNat + groupSize.toNat ≤ n := by
  have hle := Nat.mul_le_mul_right groupSize.toNat (Nat.succ_le_of_lt hb)
  rwa [Nat.succ_mul, Nat.mul_assoc, Nat.div_mul_cancel (Nat.dvd_of_mod_eq_zero hg), ← hlen] at hle

end

variable {R : Type} [Field R] [LinearOrder R] [FloorRing R]

/-! ### Exact numbers -/

/-- `_round_away_from_zero`. -/
def roundAwayFromZero (value : R) : ℤ := if 0 ≤ value then ⌊value + 1 / 2⌋ else ⌈value - 1 / 2⌉

/-- The float operations on exact numbers, with any float format. -/
def exactFloats (pack : R → Option (List UInt8)) (unpack : List UInt8 → R) (synthetic : ℕ → ℕ → R) : Floats R where
  synthetic := synthetic
  isFinite := fun _ => true
  pack := pack
  unpack := unpack
  maxAbs := fun values => values.foldl (fun maxAbs v => max maxAbs |v|) 0
  scaleQ8 := fun maxAbs => if 0 < maxAbs then maxAbs / 127 else 1
  quantQ8 := fun value scale => UInt8.ofInt (min 127 (max (-127) (roundAwayFromZero (value / scale))))
  scaleQ4 := fun maxAbs => if 0 < maxAbs then maxAbs / 7 else 1
  quantQ4 := fun v scale => UInt8.ofInt (max (-7) (min 7 (roundEven (v / scale))))

/-- A group of `n` values has one halfway between an even integer and the next one away from zero, where the greatest
absolute value counts as 7. -/
def Q4Tie (group : ℕ → R) (n : ℕ) : Prop :=
  ∃ i < n, ∃ j < n, (∀ l < n, |group l| ≤ |group j|) ∧ group j ≠ 0 ∧ ∃ k : ℕ, 14 * |group i| = (4 * k + 1) * |group j|

section

variable {pack : R → Option (List UInt8)} {unpack : List UInt8 → R} {synthetic : ℕ → ℕ → R} {values : List R}

theorem maxAbs_slice {off n : ℕ} (h : off + n ≤ values.length) :
    (exactFloats pack unpack synthetic).maxAbs (slice values off n) =
      maxAbs (fun i => values.getD (off + i) 0) n := by
  rw [slice_eq_map h 0]
  show ((List.range n).map _).foldl (fun maxAbs v => max maxAbs |v|) 0 = _
  clear h
  induction n with
  | zero => rfl
  | succ n ih => rw [List.range_succ, List.map_append, List.foldl_append, ih, maxAbs_succ]; rfl

end

/-! ### Bytes -/

section

variable {lo hi lo' hi' q : ℤ}

/-- The byte of two integers in `_q4_quantize`. -/
def q4PyByte (lo hi : ℤ) : UInt8 :=
  let lo : UInt8 := UInt8.ofInt lo &&& 0x0F
  let hi : UInt8 := UInt8.ofInt hi &&& 0x0F
  lo ||| hi <<< 4

/-- Masking an integer to a nibble is the same in the two languages. -/
theorem clampInt4_ofInt (hq : |q| ≤ 7) : (clampInt4 (Int8.ofInt q)).toUInt8 &&& 0x0F = UInt8.ofInt q &&& 0x0F := by
  obtain ⟨hlow, hhigh⟩ := abs_le.mp hq
  have hint : (Int8.ofInt q).toInt = q := Int8.toInt_ofInt_of_le (by omega) (by omega)
  have hbyte := toNat_toUInt8 (clampInt4 (Int8.ofInt q))
  have hbyte' := toNat_ofInt q
  rw [toInt_clampInt4, hint] at hbyte
  apply UInt8.toNat_inj.mp
  rw [toNat_low, toNat_low]
  omega

theorem q4PyByte_eq (hlo : |lo| ≤ 7) (hhi : |hi| ≤ 7) : q4PyByte lo hi = q4Byte (Int8.ofInt lo) (Int8.ofInt hi) := by
  unfold q4PyByte q4Byte
  rw [clampInt4_ofInt hlo, clampInt4_ofInt hhi]

theorem clamp_toInt_ofInt (hq : |q| ≤ 7) : max (-7) (min 7 (Int8.ofInt q).toInt) = q := by
  obtain ⟨hlow, hhigh⟩ := abs_le.mp hq
  rw [Int8.toInt_ofInt_of_le (by omega) (by omega), min_eq_right hhigh, max_eq_right hlow]

/-- A byte determines its two integers. -/
theorem q4Byte_inj (hlo : |lo| ≤ 7) (hhi : |hi| ≤ 7) (hlo' : |lo'| ≤ 7) (hhi' : |hi'| ≤ 7) :
    q4Byte (Int8.ofInt lo) (Int8.ofInt hi) = q4Byte (Int8.ofInt lo') (Int8.ofInt hi') ↔ lo = lo' ∧ hi = hi' := by
  obtain ⟨hl, hh⟩ := int4Value_q4Byte (Int8.ofInt lo) (Int8.ofInt hi)
  obtain ⟨hl', hh'⟩ := int4Value_q4Byte (Int8.ofInt lo') (Int8.ofInt hi')
  rw [clamp_toInt_ofInt hlo] at hl
  rw [clamp_toInt_ofInt hhi] at hh
  rw [clamp_toInt_ofInt hlo'] at hl'
  rw [clamp_toInt_ofInt hhi'] at hh'
  constructor
  · intro h
    rw [h] at hl hh
    exact ⟨hl.symm.trans hl', hh.symm.trans hh'⟩
  · rintro ⟨rfl, rfl⟩
    rfl

end

/-! ### q4 groups -/

section

variable [IsStrictOrderedRing R] {weights : ℕ → R} {groupSize : UInt32} {b i : ℕ}

/-- The integer that Python's `round` and the clamp give for element `i` of group `b`. -/
def q4IntEven (weights : ℕ → R) (groupSize : UInt32) (b i : ℕ) : ℤ :=
  max (-7) (min 7 (roundEven (weights (b * groupSize.toNat + i) / q4Scale weights groupSize b)))

omit [IsStrictOrderedRing R] in
theorem abs_q4IntEven_le (weights : ℕ → R) (groupSize : UInt32) (b i : ℕ) : |q4IntEven weights groupSize b i| ≤ 7 := by
  unfold q4IntEven
  rw [abs_le]
  constructor <;> omega

theorem q4IntEven_eq (hi : i < groupSize.toNat) : q4IntEven weights groupSize b i =
    roundEven (weights (b * groupSize.toNat + i) / q4Scale weights groupSize b) := by
  have hv : |weights (b * groupSize.toNat + i)| ≤
      maxAbs (fun i => weights (b * groupSize.toNat + i)) groupSize.toNat :=
    @abs_le_maxAbs _ _ _ (fun i => weights (b * groupSize.toNat + i)) _ _ hi
  have hquot := abs_div_scaleOf_le (by norm_num : (0 : R) < 7) hv
  have hle := abs_le_of_nearest (n := 7) (abs_roundEven_sub_le _) (by exact_mod_cast hquot)
  obtain ⟨hlow, hhigh⟩ := abs_le.mp hle
  unfold q4IntEven q4Scale
  rw [min_eq_right hhigh, max_eq_right hlow]

/-- The two languages round an element differently where it is halfway between an even integer and the next one. -/
theorem q4IntEven_eq_q4Int_iff (hi : i < groupSize.toNat) : q4IntEven weights groupSize b i = q4Int weights groupSize b i ↔
    ¬ HalfAboveEven (weights (b * groupSize.toNat + i) / q4Scale weights groupSize b) := by
  rw [q4IntEven_eq hi, q4Int_eq hi, roundEven_eq_roundAway_iff]

omit [FloorRing R] [IsStrictOrderedRing R] in
/-- A positive greatest absolute value is that of an element. -/
theorem exists_abs_eq_maxAbs {src : ℕ → R} {n : ℕ} (h : 0 < maxAbs src n) : ∃ j < n, |src j| = maxAbs src n := by
  induction n with
  | zero => exact absurd h (lt_irrefl 0)
  | succ n ih =>
    rw [maxAbs_succ] at h ⊢
    rcases le_total (maxAbs src n) |src n| with hle | hle
    · exact ⟨n, n.lt_succ_self, (max_eq_right hle).symm⟩
    · rw [max_eq_left hle] at h ⊢
      obtain ⟨j, hj, heq⟩ := ih h
      exact ⟨j, hj.trans n.lt_succ_self, heq⟩

omit [FloorRing R] in
theorem halfAboveEven_div_iff {greatest v : R} (h : 0 < greatest) :
    HalfAboveEven (v / scaleOf 7 greatest) ↔ ∃ k : ℕ, 14 * |v| = (4 * k + 1) * greatest := by
  unfold HalfAboveEven
  rw [abs_div, abs_of_pos (scaleOf_pos (by norm_num : (0 : R) < 7)), scaleOf, if_pos h]
  refine exists_congr fun k => ?_
  rw [div_div_eq_mul_div, div_eq_iff h.ne']
  constructor
  · intro heq
    linear_combination 2 * heq
  · intro heq
    linear_combination heq / 2

omit [FloorRing R] in
theorem not_halfAboveEven_zero : ¬ HalfAboveEven (0 : R) := by
  rintro ⟨k, hk⟩
  have hpos : (0 : R) < 2 * k + 1 / 2 := by positivity
  rw [abs_zero] at hk
  exact hpos.ne hk

omit [FloorRing R] in
/-- Ties, in terms of the scale of the group. -/
theorem q4Tie_iff {group : ℕ → R} {n : ℕ} :
    Q4Tie group n ↔ ∃ i < n, HalfAboveEven (group i / scaleOf 7 (maxAbs group n)) := by
  constructor
  · rintro ⟨i, hi, j, hj, hgreatest, hne, htie⟩
    have hmax : maxAbs group n = |group j| :=
      le_antisymm (maxAbs_le (abs_nonneg _) hgreatest) (abs_le_maxAbs hj)
    rw [hmax]
    exact ⟨i, hi, (halfAboveEven_div_iff (abs_pos.mpr hne)).mpr htie⟩
  · rintro ⟨i, hi, hhalf⟩
    have hpos : 0 < maxAbs group n := by
      refine lt_of_le_of_ne (maxAbs_nonneg group n) fun hzero => ?_
      have hval : |group i| ≤ maxAbs group n := abs_le_maxAbs hi
      rw [← hzero, abs_nonpos_iff] at hval
      rw [hval, zero_div] at hhalf
      exact not_halfAboveEven_zero hhalf
    obtain ⟨j, hj, heq⟩ := exists_abs_eq_maxAbs hpos
    refine ⟨i, hi, j, hj, fun l hl => ?_, ?_, ?_⟩
    · rw [heq]
      exact abs_le_maxAbs hl
    · rw [← abs_pos, heq]
      exact hpos
    · rw [heq]
      exact (halfAboveEven_div_iff hpos).mp hhalf

end

/-! ### The q4 forms -/

section

variable {pack : R → Option (List UInt8)} {unpack : List UInt8 → R} {synthetic : ℕ → ℕ → R} {values : List R} {rows cols : ℕ} {groupSize : UInt32} {name packed scaleBytes : List UInt8}

/-- What `_q4_quantize` returns. -/
theorem q4Quantize_eq_ok (hv : q4GroupSizeValid groupSize = true) (hg : cols % groupSize.toNat = 0)
    (hlen : values.length = rows * cols)
    (h : q4Quantize (exactFloats pack unpack synthetic) name values rows cols groupSize.toNat =
      .ok (packed, scaleBytes)) :
    packed = ((List.range (rows * (cols / groupSize.toNat))).flatMap fun b => (List.range (groupSize.toNat / 2)).map fun k =>
        q4PyByte (q4IntEven (values.getD · 0) groupSize b (2 * k)) (q4IntEven (values.getD · 0) groupSize b (2 * k + 1))) ∧
      packScales (exactFloats pack unpack synthetic)
        ((List.range (rows * (cols / groupSize.toNat))).map (q4Scale (values.getD · 0) groupSize)) = .ok scaleBytes := by
  obtain ⟨-, h⟩ := rejectIf_bind_eq_ok.mp h
  obtain ⟨bytes, hscales, h⟩ := bind_eq_ok.mp h
  have hsizes := q4GroupSizeValid_cases hv
  have hscale : ∀ b < rows * (cols / groupSize.toNat),
      (exactFloats pack unpack synthetic).scaleQ4 ((exactFloats pack unpack synthetic).maxAbs
        (slice values (b * groupSize.toNat) groupSize.toNat)) = q4Scale (values.getD · 0) groupSize b := by
    intro b hb
    rw [maxAbs_slice (q4_group_fits hg hlen hb)]
    rfl
  have hnibble : ∀ b < rows * (cols / groupSize.toNat), ∀ j < groupSize.toNat,
      (slice values (b * groupSize.toNat) groupSize.toNat)[j]? = some (values.getD (b * groupSize.toNat + j) 0) := by
    intro b hb j hj
    rw [slice_eq_map (q4_group_fits hg hlen hb) 0, List.getElem?_map, List.getElem?_range hj]
    rfl
  cases h
  constructor
  · have heven : 2 ∣ cols := (Nat.dvd_of_mod_eq_zero (even_of_valid hv)).trans (Nat.dvd_of_mod_eq_zero hg)
    rw [flatMap_range_blocks, ← q4_packedBytes hv hg rows, ← Nat.mul_div_assoc _ heven]
    refine List.map_congr_left fun p hp => ?_
    rw [List.mem_range, Nat.mul_div_assoc _ heven, q4_packedBytes hv hg rows] at hp
    have hb : p / (groupSize.toNat / 2) < rows * (cols / groupSize.toNat) := div_lt_of_lt_mul hp
    have hk := mod_lt_of_lt_mul hp
    have hrow : p / (cols / 2) = p / (groupSize.toNat / 2) / (cols / groupSize.toNat) := by
      rw [half_cols hv hg, Nat.mul_comm, Nat.div_div_eq_div_mul]
    have hgroup : p % (cols / 2) / (groupSize.toNat / 2) = p / (groupSize.toNat / 2) % (cols / groupSize.toNat) := by
      rw [half_cols hv hg, Nat.mod_mul_left_div_self]
    have hbyte : p % (cols / 2) % (groupSize.toNat / 2) = p % (groupSize.toNat / 2) := by
      rw [half_cols hv hg, Nat.mod_mul_left_mod]
    simp only [hrow, hgroup, hbyte]
    rw [if_pos ⟨div_lt_of_lt_mul hb, mod_lt_of_lt_mul hb⟩, q4_group_index hg, Nat.div_add_mod', Nat.mul_comm _ 2,
      hnibble _ hb _ (by omega), hnibble _ hb _ (by omega)]
    simp only [Option.elim_some, hscale _ hb]
    rfl
  · rw [← hscales, range_mul, List.map_flatMap, List.map_flatMap]
    refine congrArg _ (List.flatMap_congr fun r hr => ?_)
    rw [List.map_map, List.map_map]
    refine List.map_congr_left fun g hcol => ?_
    have hb := block_lt (List.mem_range.mp hr) (List.mem_range.mp hcol)
    rw [Function.comp_apply, Function.comp_apply, ← hscale _ hb, ← q4_group_index hg]

/-- Bytes agree where their integers do. -/
theorem q4Bytes_eq_iff (hv : q4GroupSizeValid groupSize = true) (weights : ℕ → R) (n : ℕ) :
    ((List.range n).flatMap fun b => (List.range (groupSize.toNat / 2)).map fun k =>
        q4PyByte (q4IntEven weights groupSize b (2 * k)) (q4IntEven weights groupSize b (2 * k + 1))) =
      (List.range n).flatMap (q4Bytes weights groupSize) ↔
    ∀ b < n, ∀ i < groupSize.toNat, q4IntEven weights groupSize b i = q4Int weights groupSize b i := by
  have heven := even_of_valid hv
  have hbyte : ∀ b k, q4PyByte (q4IntEven weights groupSize b (2 * k)) (q4IntEven weights groupSize b (2 * k + 1)) =
        q4Byte (Int8.ofInt (q4Int weights groupSize b (2 * k))) (Int8.ofInt (q4Int weights groupSize b (2 * k + 1))) ↔
      q4IntEven weights groupSize b (2 * k) = q4Int weights groupSize b (2 * k) ∧
        q4IntEven weights groupSize b (2 * k + 1) = q4Int weights groupSize b (2 * k + 1) := by
    intro b k
    rw [q4PyByte_eq (abs_q4IntEven_le ..) (abs_q4IntEven_le ..), q4Byte_inj (abs_q4IntEven_le ..)
      (abs_q4IntEven_le ..) (abs_q4Int_le ..) (abs_q4Int_le ..)]
  unfold q4Bytes
  rw [flatMap_range_blocks, flatMap_range_blocks, List.map_inj_left]
  simp only [List.mem_range, hbyte]
  rw [forall_lt_mul]
  refine forall₂_congr fun b hb => ?_
  constructor
  · intro h i hi
    have hk : i / 2 < groupSize.toNat / 2 := by omega
    have hi2 := h (i / 2) hk
    rw [block_div hk, block_mod hk] at hi2
    rcases Nat.even_or_odd' i with ⟨k, rfl | rfl⟩
    · rw [Nat.mul_div_cancel_left k (by omega)] at hi2
      exact hi2.1
    · have hodd : (2 * k + 1) / 2 = k := by omega
      rw [hodd] at hi2
      exact hi2.2
  · intro h k hk
    rw [block_div hk, block_mod hk]
    exact ⟨h _ (by omega), h _ (by omega)⟩

variable [IsStrictOrderedRing R] in
/-- **The q4 forms of the two languages** have the same scales; their bytes are the same where there is no tie. -/
theorem q4_agree_iff {host : Host} {m : Q4Matrix R} (hlen : values.length = rows * cols)
    (hc : quantizeQ4PerGroup host (values.getD · 0) rows cols groupSize = some m)
    (hpy : q4Quantize (exactFloats pack unpack synthetic) name values rows cols groupSize.toNat =
      .ok (packed, scaleBytes)) :
    (packScales (exactFloats pack unpack synthetic)
        ((List.range (rows * (cols / groupSize.toNat))).map m.scales) = .ok scaleBytes ∧ packed = m.packed) ↔
      ∀ r < rows, ∀ g < cols / groupSize.toNat,
        ¬ Q4Tie (fun i => values.getD (r * cols + g * groupSize.toNat + i) 0) groupSize.toNat := by
  obtain ⟨-, hv, hg, rfl⟩ := quantizeQ4PerGroup_eq_some.mp hc
  obtain ⟨hpacked, hscales⟩ := q4Quantize_eq_ok hv hg hlen hpy
  have hsame : (List.range (rows * (cols / groupSize.toNat))).map
      (q4Filled (values.getD · 0) rows cols groupSize hv hg).scales =
        (List.range (rows * (cols / groupSize.toNat))).map (q4Scale (values.getD · 0) groupSize) :=
    List.map_congr_left fun b hb => if_pos (List.mem_range.mp hb)
  rw [hsame, and_iff_right hscales, hpacked]
  refine (q4Bytes_eq_iff hv (values.getD · 0) (rows * (cols / groupSize.toNat))).trans ?_
  rw [forall_lt_mul]
  refine forall₂_congr fun r _ => forall₂_congr fun g _ => ?_
  rw [q4Tie_iff, q4_group_index hg, not_exists]
  refine forall_congr' fun i => ?_
  rw [not_and]
  exact forall_congr' fun hi => q4IntEven_eq_q4Int_iff hi

end

/-! ### Samples -/

/-- The float of 1. -/
def packOne (v : ℚ) : Option (List UInt8) := if v = 1 then some [0x00, 0x00, 0x80, 0x3F] else none

/-- A group with scale 1. -/
def groupWith (v : ℚ) : List ℚ := [7, v] ++ List.replicate 14 0

/-- One and a half rounds to 2 on both sides, and it is no tie. -/
theorem q4_agree_iff_odd_half : ∃ m : Q4Matrix ℚ,
    quantizeQ4PerGroup .generous ((groupWith (3 / 2)).getD · 0) 1 16 16 = some m ∧
      ¬ Q4Tie (fun i => (groupWith (3 / 2)).getD (0 * 16 + 0 * (16 : UInt32).toNat + i) 0) (16 : UInt32).toNat := by
  have hruns : q4Quantize (exactFloats packOne (fun _ => 1) fun _ _ => 0) [] (groupWith (3 / 2)) 1 16
        (16 : UInt32).toNat = .ok ([0x27, 0, 0, 0, 0, 0, 0, 0], [0x00, 0x00, 0x80, 0x3F]) ∧
      (quantizeQ4PerGroup .generous ((groupWith (3 / 2)).getD · 0) 1 16 16).map (fun m => (m.packed, m.scales 0)) =
        some ([0x27, 0, 0, 0, 0, 0, 0, 0], 1) ∧
      packScales (exactFloats packOne (fun _ => 1) fun _ _ => 0) [1] = .ok [0x00, 0x00, 0x80, 0x3F] := by
    decide +kernel
  obtain ⟨hpy, hc, hone⟩ := hruns
  obtain ⟨m, hm, hfields⟩ := Option.map_eq_some_iff.mp hc
  obtain ⟨hbytes, hscale⟩ := Prod.mk.inj hfields
  have hpack : packScales (exactFloats packOne (fun _ => 1) fun _ _ => 0)
      ((List.range (1 * (16 / (16 : UInt32).toNat))).map m.scales) = .ok [0x00, 0x00, 0x80, 0x3F] := by
    show packScales _ [m.scales 0] = _
    rw [hscale]
    exact hone
  exact ⟨m, hm, (q4_agree_iff rfl hm hpy).mp ⟨hpack, hbytes.symm⟩ 0 (by decide) 0 (by decide)⟩

/-- One half rounds to 0 in the converter and to 1 in `src/quant.c`. -/
theorem q4_half_differs : ∃ (m : Q4Matrix ℚ) (packed scaleBytes : List UInt8),
    quantizeQ4PerGroup .generous ((groupWith (1 / 2)).getD · 0) 1 16 16 = some m ∧
      q4Quantize (exactFloats packOne (fun _ => 1) fun _ _ => 0) [] (groupWith (1 / 2)) 1 16 (16 : UInt32).toNat =
        .ok (packed, scaleBytes) ∧
      packed ≠ m.packed := by
  have hruns : (quantizeQ4PerGroup .generous ((groupWith (1 / 2)).getD · 0) 1 16 16).map (fun m => m.packed) =
        some [0x17, 0, 0, 0, 0, 0, 0, 0] ∧
      q4Quantize (exactFloats packOne (fun _ => 1) fun _ _ => 0) [] (groupWith (1 / 2)) 1 16 (16 : UInt32).toNat =
        .ok ([0x07, 0, 0, 0, 0, 0, 0, 0], [0x00, 0x00, 0x80, 0x3F]) := by decide +kernel
  obtain ⟨hc, hpy⟩ := hruns
  obtain ⟨m, hm, hbytes⟩ := Option.map_eq_some_iff.mp hc
  refine ⟨m, [0x07, 0, 0, 0, 0, 0, 0, 0], [0x00, 0x00, 0x80, 0x3F], hm, hpy, ?_⟩
  rw [hbytes]
  decide

end Att1.Converter
