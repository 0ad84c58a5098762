import Mathlib.Algebra.BigOperators.Group.List.Basic
import Mathlib.Algebra.Ring.Nat
import Mathlib.Data.List.TakeWhile

/-!
# Att1.Lib.Bytes — little-endian fields of a byte string, and C strings

* `leBytes w n` is `n` in `w` bytes, `leValue` the number a list of bytes stands for (`leValue_leBytes`,
  `leBytes_leValue`).
* `slice data off len`: the bytes `[off, off + len)`; in a concatenation it is a slice of one of the parts, and
  in a concatenation of blocks one of the blocks (`slice_flatten`, `slice_flatMap`).
* `overwrite data off block`: the bytes with a block written over them; a loop that writes block after block
  concatenates them (`foldl_overwrite`).
* `packFields`: numbers written one after the other, each in a width of its own; `readLe_packFields` reads one back.
* `cString`: a char array up to its first NUL.  `strncmpEq` is `strncmp(..) == 0`, which compares C strings
  (`strncmpEq_iff`).  `ascii` gives the bytes of a string literal.
-/

namespace Att1.Lib

/-! ### Numbers -/

/-- What holds of all 256 bytes. -/
theorem forall_byte {p : UInt8 → Prop} (h : ∀ n < 256, p (UInt8.ofNat n)) (b : UInt8) : p b := by
  have hb := h b.toNat b.toNat_lt
  rwa [UInt8.ofNat_toNat] at hb

/-- The number with the given little-endian bytes. -/
def leValue : List UInt8 → ℕ
  | [] => 0
  | b :: bs => b.toNat + 256 * leValue bs

/-- The lowest `w` bytes of a number, lowest first. -/
def leBytes : ℕ → ℕ → List UInt8
  | 0, _ => []
  | w + 1, n => UInt8.ofNat n :: leBytes w (n / 256)

@[simp] theorem length_leBytes (w n : ℕ) : (leBytes w n).length = w := by
  induction w generalizing n with
  | zero => rfl
  | succ w ih => simp [leBytes, ih]

theorem leValue_lt (bs : List UInt8) : leValue bs < 256 ^ bs.length := by
  induction bs with
  | nil => simp [leValue]
  | cons b bs ih =>
    have hb := b.toNat_lt
    rw [leValue, List.length_cons, pow_succ]
    omega

theorem leValue_leBytes {w n : ℕ} (h : n < 256 ^ w) : leValue (leBytes w n) = n := by
  induction w generalizing n with
  | zero =>
    rw [pow_zero] at h
    simp only [leBytes, leValue]
    omega
  | succ w ih =>
    have hrec : leValue (leBytes w (n / 256)) = n / 256 := by
      refine ih ?_
      rw [pow_succ] at h
      exact (Nat.div_lt_iff_lt_mul (by omega)).mpr h
    have hhead : (UInt8.ofNat n).toNat = n % 256 := by simp
    rw [leBytes, leValue, hrec, hhead]
    omega

theorem leBytes_leValue (bs : List UInt8) : leBytes bs.length (leValue bs) = bs := by
  induction bs with
  | nil => rfl
  | cons b bs ih =>
    have hb := b.toNat_lt
    have hdiv : (b.toNat + 256 * leValue bs) / 256 = leValue bs := by omega
    have hhead : UInt8.ofNat (b.toNat + 256 * leValue bs) = b := by
      apply UInt8.toNat_inj.mp
      rw [UInt8.toNat_ofNat']
      omega
    rw [List.length_cons, leBytes, leValue, hdiv, hhead, ih]

/-- A flipped bit is a flipped bit of one byte. -/
theorem leBytes_flip {w k : ℕ} (n : ℕ) (hk : k < 8 * w) : ∃ before b after,
    leBytes w n = before ++ b :: after ∧
      leBytes w (n ^^^ 2 ^ k) = before ++ (b ^^^ UInt8.ofNat (2 ^ (k % 8))) :: after ∧ before.length = k / 8 := by
  have hhigh (m : ℕ) : m / 256 = m >>> 8 := (Nat.shiftRight_eq_div_pow m 8).symm
  induction w generalizing n k with
  | zero => omega
  | succ w ih =>
    by_cases h8 : k < 8
    · have hrest : (n ^^^ 2 ^ k) / 256 = n / 256 := by
        have hpow : 2 ^ k / 256 = 0 := Nat.div_eq_of_lt (Nat.pow_lt_pow_right (by omega) h8)
        rw [hhigh, Nat.shiftRight_xor_distrib, ← hhigh, ← hhigh, hpow, Nat.xor_zero]
      refine ⟨[], UInt8.ofNat n, leBytes w (n / 256), rfl, ?_, ?_⟩
      · rw [leBytes, hrest, Nat.mod_eq_of_lt h8, UInt8.ofNat_xor]
        rfl
      · rw [List.length_nil]
        omega
    · obtain ⟨before, b, after, hn, hflip, hlen⟩ := ih (n / 256) (k := k - 8) (by omega)
      have hrest : (n ^^^ 2 ^ k) / 256 = n / 256 ^^^ 2 ^ (k - 8) := by
        have hpow : 2 ^ k / 2 ^ 8 = 2 ^ (k - 8) := Nat.pow_div (Nat.le_of_not_lt h8) (by omega)
        rw [hhigh, Nat.shiftRight_xor_distrib, ← hhigh, Nat.shiftRight_eq_div_pow (2 ^ k), hpow]
      have hhead : UInt8.ofNat (n ^^^ 2 ^ k) = UInt8.ofNat n := by
        have hzero : UInt8.ofNat (2 ^ k) = 0 := by
          apply UInt8.toNat_inj.mp
          rw [UInt8.toNat_ofNat']
          exact Nat.mod_eq_zero_of_dvd (Nat.pow_dvd_pow 2 (by omega))
        rw [UInt8.ofNat_xor, hzero, UInt8.xor_zero]
      have hmod : (k - 8) % 8 = k % 8 := by omega
      refine ⟨UInt8.ofNat n :: before, b, after, ?_, ?_, ?_⟩
      · rw [leBytes, hn, List.cons_append]
      · rw [leBytes, hrest, hhead, hflip, hmod, List.cons_append]
      · rw [List.length_cons]
        omega

/-! ### Slices -/

/-- The bytes `[off, off + len)`. -/
def slice {α : Type*} (data : List α) (off len : ℕ) : List α := (data.drop off).take len

/-- The number in the `width` bytes from `off` on. -/
def readLe (data : List UInt8) (off width : ℕ) : ℕ := leValue (slice data off width)

section Slices

variable {α : Type*} {a b data : List α} {off len : ℕ}

theorem length_slice (h : off + len ≤ data.length) : (slice data off len).length = len := by
  simp [slice]
  omega

theorem length_slice_le : (slice data off len).length ≤ len := by
  unfold slice
  rw [List.length_take]
  exact Nat.min_le_left _ _

theorem slice_all : slice data 0 data.length = data := by
  simp [slice]

theorem slice_append_left (h : off + len ≤ a.length) : slice (a ++ b) off len = slice a off len := by
  unfold slice
  rw [List.drop_append_of_le_length (by omega), List.take_append_of_le_length (by simp; omega)]

theorem slice_append_right (h : a.length ≤ off) : slice (a ++ b) off len = slice b (off - a.length) len := by
  unfold slice
  rw [List.drop_append, List.drop_eq_nil_of_le h, List.nil_append]

/-- The first part of a concatenation. -/
theorem slice_append_head (h : a.length = len) : slice (a ++ b) 0 len = a := by
  subst h
  rw [slice_append_left (by omega), slice_all]

theorem slice_slice {k n : ℕ} (h : k + n ≤ len) : slice (slice data off len) k n = slice data (off + k) n := by
  unfold slice
  rw [List.drop_take, List.drop_drop, List.take_take, Nat.min_eq_left (by omega)]

/-- An element of a slice. -/
theorem getD_slice {k : ℕ} (d : α) (h : k < len) : (slice data off len).getD k d = data.getD (off + k) d := by
  unfold slice
  rw [List.getD_eq_getElem?_getD, List.getD_eq_getElem?_getD, List.getElem?_take_of_lt h, List.getElem?_drop]

theorem slice_eq_map (h : off + len ≤ data.length) (d : α) :
    slice data off len = (List.range len).map fun k => data.getD (off + k) d := by
  have hlen := length_slice h
  apply List.ext_getElem
  · rw [hlen, List.length_map, List.length_range]
  · intro k hk _
    have hget : (slice data off len).getD k d = data.getD (off + k) d := getD_slice d (by omega)
    rw [List.getElem_map, List.getElem_range, ← hget, List.getD_eq_getElem?_getD, List.getElem?_eq_getElem hk,
      Option.getD_some]

/-- A slice with what stands around it. -/
theorem eq_append_slice (data : List α) (off len : ℕ) :
    data = data.take off ++ (slice data off len ++ data.drop (off + len)) := by
  unfold slice
  rw [← List.drop_drop, List.take_append_drop, List.take_append_drop]

end Slices

theorem readLe_lt (data : List UInt8) (off width : ℕ) : readLe data off width < 256 ^ width :=
  Nat.lt_of_lt_of_le (leValue_lt _) (Nat.pow_le_pow_right (by omega) length_slice_le)

/-- A number written as the next field is read back. -/
theorem readLe_append_head {b : List UInt8} {width n : ℕ} (h : n < 256 ^ width) :
    readLe (leBytes width n ++ b) 0 width = n := by
  rw [readLe, slice_append_head (length_leBytes width n), leValue_leBytes h]

theorem readLe_append_right {a b : List UInt8} {off width : ℕ} (h : a.length ≤ off) :
    readLe (a ++ b) off width = readLe b (off - a.length) width := by
  rw [readLe, slice_append_right h, readLe]

theorem readLe_append_left {a b : List UInt8} {off width : ℕ} (h : off + width ≤ a.length) :
    readLe (a ++ b) off width = readLe a off width := by
  rw [readLe, slice_append_left h, readLe]

theorem readLe_slice {data : List UInt8} {off len k width : ℕ} (h : k + width ≤ len) :
    readLe (slice data off len) k width = readLe data (off + k) width := by
  rw [readLe, slice_slice h, readLe]

/-! ### Blocks and records -/

/-- Where block `i` of a concatenation starts. -/
def blockStart {α : Type*} (blocks : List (List α)) (i : ℕ) : ℕ := ((blocks.take i).map List.length).sum

section Blocks

variable {α : Type*} {blocks : List (List α)} {b : List α} {i : ℕ}

@[simp] theorem blockStart_zero : blockStart blocks 0 = 0 := by simp [blockStart]

@[simp] theorem blockStart_cons_succ : blockStart (b :: blocks) (i + 1) = b.length + blockStart blocks i := by
  simp [blockStart]

theorem blockStart_succ (h : blocks[i]? = some b) : blockStart blocks (i + 1) = blockStart blocks i + b.length := by
  unfold blockStart
  rw [List.take_add_one, h]
  simp

theorem blockStart_length : blockStart blocks blocks.length = blocks.flatten.length := by
  unfold blockStart
  rw [List.take_length, List.length_flatten]

theorem blockStart_add_le (h : blocks[i]? = some b) : blockStart blocks i + b.length ≤ blocks.flatten.length := by
  induction blocks generalizing i with
  | nil => simp at h
  | cons c blocks ih =>
    cases i with
    | zero =>
      rw [List.getElem?_cons_zero, Option.some.injEq] at h
      subst h
      simp
    | succ i =>
      rw [List.getElem?_cons_succ] at h
      have hle := ih h
      rw [blockStart_cons_succ, List.flatten_cons, List.length_append]
      omega

/-- Block `i` of a concatenation. -/
theorem slice_flatten (h : blocks[i]? = some b) : slice blocks.flatten (blockStart blocks i) b.length = b := by
  induction blocks generalizing i with
  | nil => simp at h
  | cons c blocks ih =>
    cases i with
    | zero =>
      rw [List.getElem?_cons_zero, Option.some.injEq] at h
      subst h
      rw [blockStart_zero, List.flatten_cons, slice_append_head rfl]
    | succ i =>
      rw [List.getElem?_cons_succ] at h
      rw [blockStart_cons_succ, List.flatten_cons, slice_append_right (by omega), Nat.add_sub_cancel_left, ih h]

/-- The ranges, each a start and a length, follow each other from `start` on and end at `stop`. -/
def Tiles : ℕ → List (ℕ × ℕ) → ℕ → Prop
  | start, [], stop => start = stop
  | start, (off, len) :: ranges, stop => off = start ∧ Tiles (off + len) ranges stop

/-- The blocks of a concatenation tile it. -/
theorem tiles_blockStart (blocks : List (List α)) (start : ℕ) :
    Tiles start (blocks.mapIdx fun i b => (start + blockStart blocks i, b.length)) (start + blocks.flatten.length) := by
  induction blocks generalizing start with
  | nil => rfl
  | cons c blocks ih =>
    rw [List.mapIdx_cons]
    refine ⟨rfl, ?_⟩
    have h := ih (start + c.length)
    simpa [Nat.add_assoc] using h

/-- Blocks of one width start at the multiples of it. -/
theorem blockStart_of_width {w : ℕ} (hw : ∀ c ∈ blocks, c.length = w) (hi : i ≤ blocks.length) :
    blockStart blocks i = i * w := by
  unfold blockStart
  rw [List.map_congr_left fun c hc => hw c (List.mem_of_mem_take hc), List.map_const', List.sum_replicate_nat,
    List.length_take, Nat.min_eq_left hi]

theorem length_flatten_of_width {w : ℕ} (hw : ∀ c ∈ blocks, c.length = w) :
    blocks.flatten.length = blocks.length * w := by
  rw [← blockStart_length, blockStart_of_width hw le_rfl]

theorem length_flatMap_of_width {block : ℕ → List α} {w n : ℕ} (hw : ∀ i < n, (block i).length = w) :
    ((List.range n).flatMap block).length = n * w := by
  have hblocks : ∀ c ∈ (List.range n).map block, c.length = w := by simpa using hw
  rw [List.flatMap_def, length_flatten_of_width hblocks, List.length_map, List.length_range]

/-- Block `i` of a concatenation of blocks of one width. -/
theorem slice_flatMap {block : ℕ → List α} {w n : ℕ} (hw : ∀ i < n, (block i).length = w) (hi : i < n) :
    slice ((List.range n).flatMap block) (i * w) w = block i := by
  have hblocks : ∀ c ∈ (List.range n).map block, c.length = w := by simpa using hw
  have hget : ((List.range n).map block)[i]? = some (block i) := by simp [hi]
  have h := slice_flatten hget
  rw [blockStart_of_width hblocks (by simp only [List.length_map, List.length_range]; omega), hw i hi] at h
  exact h

end Blocks

/-- The data with a block written over it from `off` on. -/
def overwrite {α : Type*} (data : List α) (off : ℕ) (block : List α) : List α :=
  data.take off ++ block ++ data.drop (off + block.length)

/-- A loop that writes blocks of one width one after the other. -/
theorem foldl_overwrite {α : Type*} {data : List α} {block : ℕ → List α} {w n : ℕ}
    (hw : ∀ i < n, (block i).length = w) (hn : n * w ≤ data.length) :
    (List.range n).foldl (fun data i => overwrite data (i * w) (block i)) data =
      (List.range n).flatMap block ++ data.drop (n * w) := by
  induction n with
  | zero => simp
  | succ n ih =>
    have hw' : ∀ i < n, (block i).length = w := fun i hi => hw i (by omega)
    have hlen := length_flatMap_of_width hw'
    rw [Nat.add_mul, Nat.one_mul] at hn ⊢
    rw [List.range_succ, List.foldl_append, ih hw' (by omega), List.flatMap_append, List.flatMap_singleton,
      List.foldl_cons, List.foldl_nil, overwrite, hw n (by omega), List.take_left' hlen, List.drop_append,
      List.drop_eq_nil_of_le (by omega), List.nil_append, List.drop_drop, hlen]
    congr 2
    omega

/-- Numbers written one after the other; the first component of a field is its width in bytes. -/
def packFields (fields : List (ℕ × ℕ)) : List UInt8 := fields.flatMap fun field => leBytes field.1 field.2

@[simp] theorem length_packFields (fields : List (ℕ × ℕ)) :
    (packFields fields).length = (fields.map Prod.fst).sum := by
  simp [packFields, List.length_flatMap]

/-- The field behind the fields `pre` is read back. -/
theorem readLe_packFields (pre : List (ℕ × ℕ)) {width value : ℕ} {post : List (ℕ × ℕ)} (h : value < 256 ^ width) :
    readLe (packFields (pre ++ (width, value) :: post)) (pre.map Prod.fst).sum width = value := by
  have hsplit : packFields (pre ++ (width, value) :: post) =
      packFields pre ++ (leBytes width value ++ packFields post) := by
    simp [packFields]
  rw [hsplit, readLe_append_right (by simp), length_packFields, Nat.sub_self, readLe_append_head h]

/-- Field `k` of a packed record inside a byte string is read back. -/
theorem readLe_field {fields : List (ℕ × ℕ)} (hbounds : ∀ field ∈ fields, field.2 < 256 ^ field.1) {k width value : ℕ}
    (hk : fields[k]? = some (width, value)) (a b : List UInt8) :
    readLe (a ++ (packFields fields ++ b)) (a.length + ((fields.take k).map Prod.fst).sum) width = value := by
  obtain ⟨hlt, hget⟩ := List.getElem?_eq_some_iff.mp hk
  have hsplit : fields = fields.take k ++ (width, value) :: fields.drop (k + 1) := by
    rw [← hget, List.cons_getElem_drop_succ, List.take_append_drop]
  have hvalue : value < 256 ^ width := hbounds _ (List.mem_of_getElem? hk)
  have hpack : readLe (packFields (fields.take k ++ (width, value) :: fields.drop (k + 1)))
      ((fields.take k).map Prod.fst).sum width = value := readLe_packFields _ hvalue
  rw [← hsplit] at hpack
  have hinside : ((fields.take k).map Prod.fst).sum + width ≤ (packFields fields).length := by
    have h := congrArg (fun fs => (packFields fs).length) hsplit
    simp only [length_packFields, List.map_append, List.map_cons, List.sum_append, List.sum_cons] at h ⊢
    omega
  rw [readLe_append_right (Nat.le_add_right _ _), Nat.add_sub_cancel_left, readLe_append_left hinside, hpack]

/-- A flipped bit of a field is a flipped bit of one byte of the record. -/
theorem packFields_flip {width k : ℕ} (pre : List (ℕ × ℕ)) (n : ℕ) (post : List (ℕ × ℕ)) (hk : k < 8 * width) :
    ∃ before b after, packFields (pre ++ (width, n) :: post) = before ++ b :: after ∧
      packFields (pre ++ (width, n ^^^ 2 ^ k) :: post) = before ++ (b ^^^ UInt8.ofNat (2 ^ (k % 8))) :: after ∧
        before.length = (pre.map Prod.fst).sum + k / 8 := by
  obtain ⟨before, b, after, hn, hflip, hlen⟩ := leBytes_flip n hk
  refine ⟨packFields pre ++ before, b, after ++ packFields post, ?_, ?_, ?_⟩
  · simp [packFields, hn]
  · simp [packFields, hflip]
  · rw [List.length_append, length_packFields, hlen]

/-! ### C strings -/

/-- The bytes of an ASCII text. -/
def ascii (text : String) : List UInt8 := text.toList.map fun c => UInt8.ofNat c.toNat

/-- A number in decimal, as `%u` prints it. -/
def decimal (n : ℕ) : List UInt8 := (Nat.toDigits 10 n).map fun c => UInt8.ofNat c.toNat

/-- The C string in a char array: the bytes before the first NUL. -/
def cString (bytes : List UInt8) : List UInt8 := bytes.takeWhile fun c => c ≠ 0

/-- `strncmp(lhs, rhs, n) == 0`; the end of a list reads as the terminating NUL. -/
def strncmpEq : ℕ → List UInt8 → List UInt8 → Bool
  | 0, _, _ => true
  | n + 1, lhs, rhs =>
    if lhs.headD 0 ≠ rhs.headD 0 then false
    else if lhs.headD 0 = 0 then true
    else strncmpEq n lhs.tail rhs.tail

theorem cString_length_le (bytes : List UInt8) : (cString bytes).length ≤ bytes.length :=
  (List.takeWhile_sublist _).length_le

theorem mem_cString_ne_zero {bytes : List UInt8} {c : UInt8} (h : c ∈ cString bytes) : c ≠ 0 := by
  simpa using List.mem_takeWhile_imp h

theorem cString_of_ne_zero {bytes : List UInt8} (h : ∀ c ∈ bytes, c ≠ 0) : cString bytes = bytes :=
  List.takeWhile_eq_self_iff.mpr fun c hc => by simpa using h c hc

theorem cString_append_zero {bytes rest : List UInt8} (h : ∀ c ∈ bytes, c ≠ 0) :
    cString (bytes ++ 0 :: rest) = bytes := by
  unfold cString
  rw [List.takeWhile_append_of_pos fun c hc => by simpa using h c hc]
  simp

theorem toNat_of_mem_toDigits {n : ℕ} {d : Char} (h : d ∈ Nat.toDigits 10 n) : 48 ≤ d.toNat ∧ d.toNat ≤ 57 :=
  Char.isDigit_iff_toNat.mp (Nat.isDigit_of_mem_toDigits (by decide) (by decide) h)

/-- A digit of a decimal number. -/
theorem mem_decimal {n : ℕ} {c : UInt8} (h : c ∈ decimal n) : 48 ≤ c.toNat ∧ c.toNat < 58 := by
  obtain ⟨d, hd, rfl⟩ := List.mem_map.mp h
  have hdigit := toNat_of_mem_toDigits hd
  rw [UInt8.toNat_ofNat']
  omega

theorem decimal_ne_nil (n : ℕ) : decimal n ≠ [] := by
  unfold decimal
  rw [ne_eq, List.map_eq_nil_iff]
  exact Nat.toDigits_ne_nil

/-- The digits of a number add up to it. -/
theorem foldl_decimal (n : ℕ) : (decimal n).foldl (fun value c => value * 10 + (c.toNat - 48)) 0 = n := by
  unfold decimal
  rw [List.foldl_map]
  have hvalue := Nat.ofDigitChars_ten_toDigits (n := n)
  rw [Nat.ofDigitChars_eq_foldl] at hvalue
  refine Eq.trans (List.foldl_ext _ _ _ fun value d hd => ?_) hvalue
  have hdigit := toNat_of_mem_toDigits hd
  have hzero : '0'.toNat = 48 := rfl
  rw [UInt8.toNat_ofNat', Nat.mod_eq_of_lt (by omega), hzero, Nat.mul_comm]

theorem decimal_injective {m n : ℕ} (h : decimal m = decimal n) : m = n := by
  rw [← foldl_decimal m, h, foldl_decimal]

theorem cString_append_replicate {bytes : List UInt8} (h : ∀ c ∈ bytes, c ≠ 0) (k : ℕ) :
    cString (bytes ++ List.replicate k 0) = bytes := by
  cases k with
  | zero => rw [List.replicate_zero, List.append_nil, cString_of_ne_zero h]
  | succ k => rw [List.replicate_succ, cString_append_zero h]

theorem cString_step (bytes : List UInt8) :
    (bytes.headD 0 = 0 ∧ cString bytes = []) ∨
    (bytes.headD 0 ≠ 0 ∧ cString bytes = bytes.headD 0 :: cString bytes.tail) := by
  cases bytes with
  | nil => exact .inl ⟨rfl, rfl⟩
  | cons c cs =>
    by_cases hc : c = 0
    · exact .inl ⟨hc, by simp [cString, hc]⟩
    · exact .inr ⟨hc, by simp [cString, hc]⟩

/-- `strncmp` compares the first `n` characters of two C strings. -/
theorem strncmpEq_iff (n : ℕ) (lhs rhs : List UInt8) :
    strncmpEq n lhs rhs = true ↔ (cString lhs).take n = (cString rhs).take n := by
  induction n generalizing lhs rhs with
  | zero => simp [strncmpEq]
  | succ n ih =>
    unfold strncmpEq
    obtain ⟨hl, hls⟩ | ⟨hl, hls⟩ := cString_step lhs <;> obtain ⟨hr, hrs⟩ | ⟨hr, hrs⟩ := cString_step rhs
    · rw [if_neg (by rw [hl, hr]; simp), if_pos hl, hls, hrs]
      simp
    · rw [if_pos (by rw [hl]; exact Ne.symm hr), hls, hrs]
      simp
    · rw [if_pos (by rw [hr]; exact hl), hls, hrs]
      simp
    · by_cases heq : lhs.headD 0 = rhs.headD 0
      · rw [if_neg (fun hne => hne heq), if_neg hl, ih, hls, hrs, heq]
        simp
      · rw [if_pos heq, hls, hrs, List.take_succ_cons, List.take_succ_cons, List.cons_eq_cons]
        exact ⟨fun h => absurd h (by simp), fun h => absurd h.1 heq⟩

end Att1.Lib
