import Mathlib.Algebra.Order.Floor.Ring
import Mathlib.Data.Rat.Floor
import Mathlib.Tactic.FieldSimp
import Mathlib.Tactic.Ring

/-!
# Att1.Lib.PyObj — what Python's operators make of decoded data

* `PyFloat`: the values of a float, without the sign of a zero and the payload of a NaN; `PyFloat.ofIeee` reads one from
  a binary format.
* `PyObj`: what `json.loads` returns, `NaN` and `Infinity` among it.
* `PyObj.toInt`, `PyObj.mul`, `PyObj.product`, `PyObj.eqInt`: `int(x)`, `a * b`, a product in a loop, `x == n`.
* `Interp`: what depends on the interpreter and its machine.
-/

namespace Att1.Lib

inductive PyFloat
  | finite (value : ℚ)
  | inf (negative : Bool)
  | nan
  deriving DecidableEq

inductive PyObj
  | null
  | bool (value : Bool)
  | int (value : ℤ)
  | float (value : PyFloat)
  | str (text : String)
  | list (items : List PyObj)
  | dict (items : List (String × PyObj))

/-- The exceptions of the interpreter that are modelled. -/
inductive PyRaise
  | typeError
  | valueError
  | overflowError
  | memoryError
  | osError
  | structError
  deriving DecidableEq, Repr

structure Interp where
  /-- What `int` reads from a text. -/
  intOfText : String → Option ℤ
  /-- The nearest float, unless the integer is too large. -/
  floatOfInt : ℤ → Option PyFloat
  mulFloat : PyFloat → PyFloat → PyFloat
  /-- There is memory for a sequence of that length. -/
  allocates : ℕ → Bool
  /-- The integer has no more digits than `str` writes. -/
  prints : ℤ → Bool

namespace PyObj

variable (py : Interp)

/-- `isinstance(value, int)`, with the integer: a bool is one. -/
def asInt? : PyObj → Option ℤ
  | .bool value => some (if value then 1 else 0)
  | .int value => some value
  | _ => none

/-- `int(value)`. -/
def toInt : PyObj → Except PyRaise ℤ
  | .bool value => .ok (if value then 1 else 0)
  | .int value => .ok value
  | .float (.finite value) => .ok (if 0 ≤ value then ⌊value⌋ else ⌈value⌉)
  | .float (.inf _) => .error .overflowError
  | .float .nan => .error .valueError
  | .str text =>
    match py.intOfText text with
    | some value => .ok value
    | none => .error .valueError
  | _ => .error .typeError

/-- How often a sequence of length `len` is repeated by `* n`. -/
def repeats (len : ℕ) (n : ℤ) : Except PyRaise ℕ :=
  if n < -2 ^ 63 ∨ 2 ^ 63 ≤ n then .error .overflowError
  else if 2 ^ 63 ≤ len * n.toNat ∨ py.allocates (len * n.toNat) = false then .error .memoryError
  else .ok n.toNat

/-- `n * value` and `value * n`. -/
def mulInt (n : ℤ) : PyObj → Except PyRaise PyObj
  | .bool value => .ok (.int (n * if value then 1 else 0))
  | .int value => .ok (.int (n * value))
  | .float value =>
    match py.floatOfInt n with
    | some x => .ok (.float (py.mulFloat x value))
    | none => .error .overflowError
  | .str text => do
    let count ← repeats py text.length n
    .ok (.str (String.join (List.replicate count text)))
  | .list items => do
    let count ← repeats py items.length n
    .ok (.list (List.replicate count items).flatten)
  | .null => .error .typeError
  | .dict _ => .error .typeError

/-- `a * b`. -/
def mul (a b : PyObj) : Except PyRaise PyObj :=
  match a.asInt?, b.asInt?, a, b with
  | some n, _, _, b => mulInt py n b
  | _, some n, a, _ => mulInt py n a
  | _, _, .float x, .float y => .ok (.float (py.mulFloat x y))
  | _, _, _, _ => .error .typeError

/-- `r = 1`, then `r *= d` for each of them. -/
def product (items : List PyObj) : Except PyRaise PyObj := items.foldlM (mul py) (.int 1)

/-- `value == n`. -/
def eqInt (value : PyObj) (n : ℤ) : Bool :=
  match value with
  | .bool value => decide ((if value then 1 else 0) = n)
  | .int value => decide (value = n)
  | .float (.finite value) => decide (value = n)
  | _ => false

@[simp] theorem product_nil : product py [] = .ok (.int 1) := rfl

/-- A product of integers is their product. -/
theorem product_ints (ns : List ℤ) : product py (ns.map .int) = .ok (.int ns.prod) := by
  have hfold : ∀ (ns : List ℤ) (r : ℤ), (ns.map PyObj.int).foldlM (mul py) (.int r) = .ok (.int (r * ns.prod)) := by
    intro ns
    induction ns with
    | nil => simp [pure, Except.pure]
    | cons n ns ih =>
      intro r
      rw [List.map_cons, List.foldlM_cons]
      show (ns.map PyObj.int).foldlM (mul py) (.int (r * n)) = _
      rw [ih, List.prod_cons, mul_assoc]
  unfold product
  simpa using hfold ns 1

end PyObj

/-! ### Binary formats -/

/-- The value of a word with one sign bit, `e` exponent bits and `m` bits of the fraction. -/
def PyFloat.ofIeee (e m word : ℕ) : PyFloat :=
  let sign : ℚ := if word / 2 ^ (e + m) % 2 = 1 then -1 else 1
  let exponent := word / 2 ^ m % 2 ^ e
  let fraction := word % 2 ^ m
  let bias : ℤ := 2 ^ (e - 1) - 1
  if exponent = 0 then .finite (sign * (fraction / 2 ^ m) * 2 ^ (1 - bias))
  else if exponent = 2 ^ e - 1 then if fraction = 0 then .inf (decide (sign < 0)) else .nan
  else .finite (sign * (1 + fraction / 2 ^ m) * 2 ^ ((exponent : ℤ) - bias))

/-- More bits of the fraction, all of them 0, do not change the value. -/
theorem PyFloat.ofIeee_extend (e m k word : ℕ) : ofIeee e (m + k) (word * 2 ^ k) = ofIeee e m word := by
  have hpow : 0 < 2 ^ k := Nat.two_pow_pos k
  have hsign : word * 2 ^ k / 2 ^ (e + (m + k)) = word / 2 ^ (e + m) := by
    rw [← Nat.add_assoc, Nat.pow_add 2 (e + m) k]
    exact Nat.mul_div_mul_right _ _ hpow
  have hexp : word * 2 ^ k / 2 ^ (m + k) = word / 2 ^ m := by
    rw [Nat.pow_add]
    exact Nat.mul_div_mul_right _ _ hpow
  have hfraction : word * 2 ^ k % 2 ^ (m + k) = word % 2 ^ m * 2 ^ k := by
    rw [Nat.pow_add]
    exact Nat.mul_mod_mul_right _ _ _
  have hvalue : ((word % 2 ^ m * 2 ^ k : ℕ) : ℚ) / 2 ^ (m + k) = (word % 2 ^ m : ℕ) / 2 ^ m := by
    push_cast
    rw [pow_add]
    field_simp
  have hzero : word % 2 ^ m * 2 ^ k = 0 ↔ word % 2 ^ m = 0 := by
    rw [Nat.mul_eq_zero]
    exact or_iff_left (by omega)
  unfold ofIeee
  simp only [hsign, hexp, hfraction, hvalue, hzero]

end Att1.Lib
