import Mathlib.Data.List.Infix

/-!
# Att1.Lib.Crc — reflected cyclic redundancy checks

* `crcShift poly c`, `crcReduce poly n c`: one and `n` shifts of the register, reduced by the reflected polynomial.
  Both are linear (`crcReduce_xor`) and, for a polynomial of full degree, injective (`crcReduce_eq_zero`).
* `crcStep poly c b`: the register after a byte, bit by bit; `crcRegister` after a list of bytes.
* `tableStep table c b`: the register after a byte, by a table of 256 words.  With `reducedByte poly` as the table the
  two agree (`tableStep_eq`).
* `lookupError`: what the wrong entries of a table leave in the register, by linearity (`foldl_tableStep`).  A table
  reads every prefix of a list of bytes right iff every entry looked up is right (`table_prefix_iff`).
* `crcSyndrome`: what a change of one byte does to the register (`crcRegister_change`).
-/

namespace Att1.Lib

variable {w : ℕ} {poly : BitVec w} {table : BitVec 8 → BitVec w}

/-! ## The register, bit by bit -/

/-- One shift of the register. -/
def crcShift (poly c : BitVec w) : BitVec w :=
  if c.getLsbD 0 then (c >>> 1) ^^^ poly else c >>> 1

/-- `n` shifts of the register. -/
def crcReduce (poly : BitVec w) : ℕ → BitVec w → BitVec w
  | 0, c => c
  | n + 1, c => crcReduce poly n (crcShift poly c)

/-- The register after one more byte. -/
def crcStep (poly c : BitVec w) (b : BitVec 8) : BitVec w := crcReduce poly 8 (c ^^^ b.setWidth w)

/-- The register after a list of bytes. -/
def crcRegister (poly init : BitVec w) (bytes : List (BitVec 8)) : BitVec w := bytes.foldl (crcStep poly) init

/-- The checksum of a list of bytes. -/
def crc (poly init xorout : BitVec w) (bytes : List (BitVec 8)) : BitVec w := crcRegister poly init bytes ^^^ xorout

theorem xor_xor_cancel (a b p : BitVec w) : (a ^^^ p) ^^^ (b ^^^ p) = a ^^^ b := by
  rw [BitVec.xor_assoc a p, BitVec.xor_comm b p, ← BitVec.xor_assoc p p, BitVec.xor_self, BitVec.zero_xor]

theorem crcShift_xor (a b : BitVec w) : crcShift poly (a ^^^ b) = crcShift poly a ^^^ crcShift poly b := by
  unfold crcShift
  rw [BitVec.getLsbD_xor, BitVec.ushiftRight_xor_distrib]
  cases a.getLsbD 0 <;> cases b.getLsbD 0
  · rfl
  · exact BitVec.xor_assoc _ _ _
  · show (a >>> 1 ^^^ b >>> 1) ^^^ poly = (a >>> 1 ^^^ poly) ^^^ b >>> 1
    rw [BitVec.xor_assoc, BitVec.xor_assoc, BitVec.xor_comm poly]
  · exact (xor_xor_cancel _ _ _).symm

theorem crcReduce_xor (n : ℕ) (a b : BitVec w) :
    crcReduce poly n (a ^^^ b) = crcReduce poly n a ^^^ crcReduce poly n b := by
  induction n generalizing a b with
  | zero => rfl
  | succ n ih =>
    unfold crcReduce
    rw [crcShift_xor, ih]

@[simp] theorem crcReduce_zero (n : ℕ) : crcReduce poly n 0#w = 0#w := by
  have h := @crcReduce_xor w poly n 0#w 0#w
  rwa [BitVec.xor_self, BitVec.xor_self] at h

theorem crcReduce_add (n m : ℕ) (c : BitVec w) : crcReduce poly (n + m) c = crcReduce poly m (crcReduce poly n c) := by
  induction n generalizing c with
  | zero => rw [Nat.zero_add]; rfl
  | succ n ih =>
    rw [Nat.succ_add]
    exact ih (crcShift poly c)

/-- With the top bit of the polynomial set, a shift loses nothing: that bit tells whether the polynomial went in. -/
theorem crcShift_eq_zero (hpoly : poly.msb = true) {c : BitVec w} (h : crcShift poly c = 0#w) : c = 0#w := by
  have hw : 0 < w := by
    by_contra h0
    obtain rfl : w = 0 := by omega
    rw [BitVec.eq_nil poly] at hpoly
    cases hpoly
  have htop : (c >>> 1).getLsbD (w - 1) = false := by
    rw [BitVec.getLsbD_ushiftRight]
    exact BitVec.getLsbD_of_ge c _ (by omega)
  rw [BitVec.msb_eq_getLsbD_last] at hpoly
  unfold crcShift at h
  split at h
  · have hbit := congrArg (fun x => BitVec.getLsbD x (w - 1)) h
    simp [BitVec.getLsbD_xor, htop, hpoly] at hbit
  · rename_i hlow
    apply BitVec.eq_of_getLsbD_eq
    intro i hi
    rw [BitVec.getLsbD_zero]
    cases i with
    | zero => exact Bool.eq_false_iff.mpr hlow
    | succ i =>
      have hbit := congrArg (fun x => BitVec.getLsbD x i) h
      rw [Nat.add_comm]
      simpa [BitVec.getLsbD_ushiftRight] using hbit

theorem crcReduce_eq_zero (hpoly : poly.msb = true) (n : ℕ) {c : BitVec w} (h : crcReduce poly n c = 0#w) :
    c = 0#w := by
  induction n generalizing c with
  | zero => exact h
  | succ n ih => exact crcShift_eq_zero hpoly (ih h)

/-- Shifts that meet no set bit only move the register down. -/
theorem crcReduce_high {n : ℕ} {c : BitVec w} (h : ∀ i < n, c.getLsbD i = false) : crcReduce poly n c = c >>> n := by
  induction n generalizing c with
  | zero => exact (BitVec.ushiftRight_zero c).symm
  | succ n ih =>
    have hshift : crcShift poly c = c >>> 1 := if_neg (Bool.eq_false_iff.mp (h 0 (Nat.succ_pos n)))
    unfold crcReduce
    rw [hshift, ih fun i hi => ?_, Nat.add_comm, BitVec.shiftRight_add]
    rw [BitVec.getLsbD_ushiftRight, Nat.add_comm]
    exact h (i + 1) (Nat.succ_lt_succ hi)

theorem crcRegister_append (init : BitVec w) (bytes more : List (BitVec 8)) :
    crcRegister poly init (bytes ++ more) = crcRegister poly (crcRegister poly init bytes) more :=
  List.foldl_append

theorem crcStep_xor (r e : BitVec w) (b : BitVec 8) : crcStep poly (r ^^^ e) b = crcStep poly r b ^^^ crcReduce poly 8 e := by
  unfold crcStep
  rw [← crcReduce_xor, BitVec.xor_assoc, BitVec.xor_assoc, BitVec.xor_comm e]

/-- A difference of the register is carried through the bytes that follow. -/
theorem crcRegister_xor (r e : BitVec w) (bytes : List (BitVec 8)) :
    crcRegister poly (r ^^^ e) bytes = crcRegister poly r bytes ^^^ crcReduce poly (8 * bytes.length) e := by
  induction bytes generalizing r e with
  | nil => rfl
  | cons b bytes ih =>
    have hlen : 8 * (b :: bytes).length = 8 + 8 * bytes.length := by
      rw [List.length_cons]
      omega
    rw [hlen, crcReduce_add]
    show crcRegister poly (crcStep poly (r ^^^ e) b) bytes = _
    rw [crcStep_xor, ih]
    rfl

/-! ## A change of one byte -/

/-- What a change `d` of a byte does to the register `n` bytes later. -/
def crcSyndrome (poly : BitVec w) (d : BitVec 8) (n : ℕ) : BitVec w := crcReduce poly (8 * (n + 1)) (d.setWidth w)

theorem crcSyndrome_ne_zero (hw : 8 ≤ w) (hpoly : poly.msb = true) {d : BitVec 8} (hd : d ≠ 0#8) (n : ℕ) :
    crcSyndrome poly d n ≠ 0#w := by
  intro h
  have hzero : d.setWidth w = 0#w := crcReduce_eq_zero hpoly _ h
  refine hd (BitVec.eq_of_toNat_eq ?_)
  have hnat := congrArg BitVec.toNat hzero
  rwa [BitVec.toNat_setWidth_of_le hw, BitVec.toNat_ofNat, Nat.zero_mod] at hnat

theorem crcRegister_change (init : BitVec w) (before after : List (BitVec 8)) (b d : BitVec 8) :
    crcRegister poly init (before ++ (b ^^^ d) :: after) =
      crcRegister poly init (before ++ b :: after) ^^^ crcSyndrome poly d after.length := by
  have hstep (c : BitVec w) : crcStep poly c (b ^^^ d) = crcStep poly c b ^^^ crcReduce poly 8 (d.setWidth w) := by
    unfold crcStep
    rw [← crcReduce_xor, BitVec.setWidth_xor, BitVec.xor_assoc]
  have hlen : 8 * (after.length + 1) = 8 + 8 * after.length := by omega
  rw [crcRegister_append, crcRegister_append]
  unfold crcSyndrome
  rw [hlen, crcReduce_add]
  show crcRegister poly (crcStep poly _ (b ^^^ d)) after = crcRegister poly (crcStep poly _ b) after ^^^ _
  rw [hstep, crcRegister_xor]

/-! ## The register, by a table -/

/-- The register after one more byte, with the reductions of a byte looked up. -/
def tableStep (table : BitVec 8 → BitVec w) (c : BitVec w) (b : BitVec 8) : BitVec w :=
  table (c.setWidth 8 ^^^ b) ^^^ (c >>> 8)

/-- What the table should hold. -/
def reducedByte (poly : BitVec w) (i : BitVec 8) : BitVec w := crcReduce poly 8 (i.setWidth w)

theorem split_low_byte (c : BitVec w) (b : BitVec 8) :
    c ^^^ b.setWidth w = (c.setWidth 8 ^^^ b).setWidth w ^^^ ((c >>> 8) <<< 8) := by
  apply BitVec.eq_of_getLsbD_eq
  intro i hi
  by_cases h8 : i < 8
  · simp [hi, h8]
  · have h : 8 + (i - 8) = i := by omega
    simp [hi, h8, h, BitVec.getLsbD_of_ge b i (by omega)]

/-- A byte at a time from the right table is eight bits at a time. -/
theorem tableStep_eq (c : BitVec w) (b : BitVec 8) : tableStep (reducedByte poly) c b = crcStep poly c b := by
  have hclear : ∀ i < 8, ((c >>> 8) <<< 8).getLsbD i = false := by
    intro i hi
    simp [BitVec.getLsbD_shiftLeft, hi]
  have hdown : ((c >>> 8) <<< 8) >>> 8 = c >>> 8 := by
    apply BitVec.eq_of_getLsbD_eq
    intro i hi
    by_cases h : 8 + i < w
    · simp [h]
    · simp [h, BitVec.getLsbD_of_ge c (8 + i) (by omega)]
  unfold tableStep crcStep reducedByte
  rw [split_low_byte, crcReduce_xor, crcReduce_high hclear, hdown]

/-- How far a table entry is off. -/
def deficit (poly : BitVec w) (table : BitVec 8 → BitVec w) (i : BitVec 8) : BitVec w := table i ^^^ reducedByte poly i

theorem deficit_eq_zero (i : BitVec 8) : deficit poly table i = 0#w ↔ table i = reducedByte poly i :=
  BitVec.xor_eq_zero_iff

theorem tableStep_deficit (c : BitVec w) (b : BitVec 8) :
    tableStep table c b = crcStep poly c b ^^^ deficit poly table (c.setWidth 8 ^^^ b) := by
  rw [← tableStep_eq]
  unfold tableStep deficit
  rw [BitVec.xor_comm (table _), BitVec.xor_comm (reducedByte poly _), BitVec.xor_assoc, BitVec.xor_comm (table _),
    ← BitVec.xor_assoc (reducedByte poly _), BitVec.xor_self, BitVec.zero_xor]

/-- The error in the register after some bytes: at a register `r` that is off by `e`, each byte adds how far the
entry it looks up is off and carries the earlier errors along. -/
def lookupError (poly : BitVec w) (table : BitVec 8 → BitVec w) : BitVec w → BitVec w → List (BitVec 8) → BitVec w
  | _, e, [] => e
  | r, e, b :: bytes =>
    lookupError poly table (crcStep poly r b)
      (crcReduce poly 8 e ^^^ deficit poly table ((r ^^^ e).setWidth 8 ^^^ b)) bytes

theorem foldl_tableStep (r e : BitVec w) (bytes : List (BitVec 8)) :
    bytes.foldl (tableStep table) (r ^^^ e) = crcRegister poly r bytes ^^^ lookupError poly table r e bytes := by
  induction bytes generalizing r e with
  | nil => rfl
  | cons b bytes ih =>
    rw [List.foldl_cons, @tableStep_deficit w poly, crcStep_xor, BitVec.xor_assoc, ih]
    rfl

/-- The entries the bytes look up, at the right register. -/
def lookups (poly : BitVec w) : BitVec w → List (BitVec 8) → List (BitVec 8)
  | _, [] => []
  | r, b :: bytes => (r.setWidth 8 ^^^ b) :: lookups poly (crcStep poly r b) bytes

theorem lookupError_eq_zero (r : BitVec w) {bytes : List (BitVec 8)}
    (h : ∀ i ∈ lookups poly r bytes, table i = reducedByte poly i) : lookupError poly table r 0#w bytes = 0#w := by
  induction bytes generalizing r with
  | nil => rfl
  | cons b bytes ih =>
    have hb : deficit poly table (r.setWidth 8 ^^^ b) = 0#w := (deficit_eq_zero _).mpr (h _ List.mem_cons_self)
    unfold lookupError
    rw [crcReduce_zero, BitVec.xor_zero, BitVec.zero_xor, hb]
    exact ih _ fun i hi => h i (List.mem_cons_of_mem _ hi)

/-- **A table is right as far as its entries are.**  The register is right after every prefix of the bytes iff every
entry that they look up is. -/
theorem table_prefix_iff (r : BitVec w) (bytes : List (BitVec 8)) :
    (∀ p, p <+: bytes → p.foldl (tableStep table) r = crcRegister poly r p) ↔
      ∀ i ∈ lookups poly r bytes, table i = reducedByte poly i := by
  induction bytes generalizing r with
  | nil =>
    refine iff_of_true (fun p hp => ?_) fun i hi => absurd hi List.not_mem_nil
    rw [List.prefix_nil.mp hp]
    rfl
  | cons b bytes ih =>
    have hfirst : tableStep table r b = crcStep poly r b ↔ table (r.setWidth 8 ^^^ b) = reducedByte poly (r.setWidth 8 ^^^ b) := by
      rw [← tableStep_eq]
      exact BitVec.xor_left_inj _
    constructor
    · intro h i hi
      have hb : tableStep table r b = crcStep poly r b := h [b] (List.prefix_append [b] bytes)
      cases hi with
      | head => exact hfirst.mp hb
      | tail _ hi =>
        refine (ih (crcStep poly r b)).mp (fun p hp => ?_) i hi
        have := h (b :: p) ((List.prefix_cons_inj b).mpr hp)
        rwa [List.foldl_cons, hb] at this
    · intro h p hp
      cases p with
      | nil => rfl
      | cons a p =>
        obtain ⟨rfl, hp'⟩ := List.cons_prefix_cons.mp hp
        rw [List.foldl_cons, hfirst.mpr (h _ List.mem_cons_self)]
        exact (ih _).mpr (fun i hi => h i (List.mem_cons_of_mem _ hi)) p hp'

end Att1.Lib
