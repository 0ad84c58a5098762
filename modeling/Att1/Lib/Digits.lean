import Mathlib.Data.List.TakeWhile
import Att1.Lib.Bytes

/-!
# Att1.Lib.Digits — decimal numerals in text

* `IsNumeral`: one or more digits; `digitsValue`: the number they stand for, without a bound.
* `digitsValue_append`: two numerals in a row.
* `digitsValue_take_eq_iff`: cutting a numeral off changes its value, unless all its digits are 0.
-/

namespace Att1.Lib

/-- A decimal digit. -/
def isDigit (c : UInt8) : Bool := decide (48 ≤ c.toNat ∧ c.toNat ≤ 57)

/-- One or more digits. -/
structure IsNumeral (cs : List UInt8) : Prop where
  ne_nil : cs ≠ []
  digits : ∀ c ∈ cs, isDigit c = true

/-- The number that digits stand for, behind those that stand for `value`. -/
def digitsFrom (value : ℕ) (cs : List UInt8) : ℕ := cs.foldl (fun value c => value * 10 + (c.toNat - 48)) value

/-- The number that digits stand for. -/
def digitsValue (cs : List UInt8) : ℕ := digitsFrom 0 cs

variable {cs ds : List UInt8} {c : UInt8}

theorem isDigit_iff : isDigit c = true ↔ 48 ≤ c.toNat ∧ c.toNat ≤ 57 := by
  unfold isDigit
  exact decide_eq_true_iff

instance : Decidable (IsNumeral cs) :=
  decidable_of_iff (cs ≠ [] ∧ cs.all isDigit = true)
    ⟨fun h => ⟨h.1, List.all_eq_true.mp h.2⟩, fun h => ⟨h.ne_nil, List.all_eq_true.mpr h.digits⟩⟩

/-! ### The value -/

theorem digitsFrom_eq (value : ℕ) (cs : List UInt8) : digitsFrom value cs = value * 10 ^ cs.length + digitsValue cs := by
  unfold digitsValue digitsFrom
  induction cs generalizing value with
  | nil => simp
  | cons c cs ih =>
    rw [List.foldl_cons, List.foldl_cons, ih, ih (0 * 10 + (c.toNat - 48)), List.length_cons, Nat.pow_succ', Nat.add_mul,
      Nat.mul_assoc, Nat.zero_mul, Nat.zero_add, Nat.add_assoc]

theorem digitsValue_append (cs ds : List UInt8) :
    digitsValue (cs ++ ds) = digitsValue cs * 10 ^ ds.length + digitsValue ds := by
  have h := digitsFrom_eq (digitsValue cs) ds
  unfold digitsValue digitsFrom at *
  rw [List.foldl_append, h]

theorem digitsValue_cons (c : UInt8) (cs : List UInt8) :
    digitsValue (c :: cs) = (c.toNat - 48) * 10 ^ cs.length + digitsValue cs := by
  have h := digitsValue_append [c] cs
  simpa [digitsValue, digitsFrom] using h

/-- A part of a numeral is no greater. -/
theorem digitsValue_take_le (n : ℕ) (cs : List UInt8) : digitsValue (cs.take n) ≤ digitsValue cs := by
  conv_rhs => rw [← List.take_append_drop n cs, digitsValue_append]
  calc digitsValue (cs.take n) ≤ digitsValue (cs.take n) * 10 ^ (cs.drop n).length :=
        Nat.le_mul_of_pos_right _ (Nat.pow_pos (by omega))
    _ ≤ _ := Nat.le_add_right _ _

theorem digitsValue_eq_zero_iff (hd : ∀ c ∈ cs, isDigit c = true) : digitsValue cs = 0 ↔ ∀ c ∈ cs, c = 0x30 := by
  induction cs with
  | nil => simp [digitsValue, digitsFrom]
  | cons c cs ih =>
    obtain ⟨hc, hcs⟩ := List.forall_mem_cons.mp hd
    have hpow : 10 ^ cs.length ≠ 0 := (Nat.pow_pos (by omega)).ne'
    have hzero : c.toNat - 48 = 0 ↔ c = 0x30 := by
      rw [isDigit_iff] at hc
      rw [← UInt8.toNat_inj, show (0x30 : UInt8).toNat = 48 from rfl]
      omega
    rw [digitsValue_cons, List.forall_mem_cons, Nat.add_eq_zero_iff, Nat.mul_eq_zero, or_iff_left hpow, hzero, ih hcs]

/-- Cutting a numeral off changes its value, unless all its digits are 0. -/
theorem digitsValue_take_eq_iff {n : ℕ} (hd : ∀ c ∈ cs, isDigit c = true) (hn : n < cs.length) :
    digitsValue (cs.take n) = digitsValue cs ↔ ∀ c ∈ cs, c = 0x30 := by
  rw [← digitsValue_eq_zero_iff hd]
  have hle := digitsValue_take_le n cs
  have hsplit := digitsValue_append (cs.take n) (cs.drop n)
  rw [List.take_append_drop, List.length_drop] at hsplit
  have hpow : 10 ≤ 10 ^ (cs.length - n) := Nat.le_self_pow (by omega) 10
  have hmul := Nat.mul_le_mul_left (digitsValue (cs.take n)) hpow
  constructor
  · intro h
    omega
  · intro h
    omega

/-- The digits that a text begins with. -/
theorem takeWhile_isDigit_append (hd : ∀ c ∈ cs, isDigit c = true) (hds : ∀ c, ds.head? = some c → isDigit c = false) :
    (cs ++ ds).takeWhile isDigit = cs ∧ (cs ++ ds).dropWhile isDigit = ds := by
  have hrest : ds.takeWhile isDigit = [] ∧ ds.dropWhile isDigit = ds := by
    cases ds with
    | nil => exact ⟨rfl, rfl⟩
    | cons d ds =>
      have hd' := hds d rfl
      exact ⟨List.takeWhile_cons_of_neg (by simp [hd']), List.dropWhile_cons_of_neg (by simp [hd'])⟩
  rw [List.takeWhile_append_of_pos hd, List.dropWhile_append_of_pos hd, hrest.1, hrest.2, List.append_nil]
  exact ⟨rfl, rfl⟩

/-- The digits of a decimal number. -/
theorem isNumeral_decimal (n : ℕ) : IsNumeral (decimal n) :=
  ⟨decimal_ne_nil n, fun _ hc => isDigit_iff.mpr ⟨(mem_decimal hc).1, by have := (mem_decimal hc).2; omega⟩⟩

theorem digitsValue_decimal (n : ℕ) : digitsValue (decimal n) = n := foldl_decimal n

end Att1.Lib
