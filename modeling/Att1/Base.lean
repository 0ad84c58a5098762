import Mathlib.Algebra.Ring.Nat
import Att1.Lib.Word

/-!
# Att1.Base — status codes, `size_t` arithmetic and the host allocator

* `Status`: `att1_status_t`.
* `sizeT n`: the value a `size_t` (or `uint64_t`) expression with exact value `n` has, `n mod 2^64`; `uint32 n`
  likewise for `uint32_t`.
* `mulSize`: `att1_mul_size` of the C files (`att1_u64_mul` in the loader is the same function).
* `Host`: which allocations succeed.  The only fact assumed about the C allocator is that an object larger
  than `SIZE_MAX` bytes is never granted; every other allocation may succeed or fail.
-/

namespace Att1

/-- `att1_status_t`. -/
inductive Status
  | ok
  | invalidArg
  | oom
  | io
  | badFormat
  | notFound
  | shape
  | queueFull
  | state
  | unsupported
  | queueEmpty
  | timeout
  | alreadyStarted
  deriving DecidableEq, Repr

/-- `SIZE_MAX`, which is also `UINT64_MAX`. -/
def sizeMax : ℕ := 2 ^ 64 - 1

/-- `UINT32_MAX`. -/
def uint32Max : ℕ := 2 ^ 32 - 1

/-- Conversion to `size_t` or `uint64_t`. -/
def sizeT (n : ℕ) : ℕ := n % 2 ^ 64

/-- Conversion to `uint32_t`. -/
def uint32 (n : ℕ) : ℕ := n % 2 ^ 32

theorem sizeT_eq {n : ℕ} (h : n ≤ sizeMax) : sizeT n = n := by
  unfold sizeMax at h
  exact Nat.mod_eq_of_lt (by omega)

theorem uint32_eq {n : ℕ} (h : n ≤ uint32Max) : uint32 n = n := by
  unfold uint32Max at h
  exact Nat.mod_eq_of_lt (by omega)

/-- `att1_mul_size`: the product of two sizes, or a failure when it exceeds `SIZE_MAX`. -/
def mulSize (lhs rhs : ℕ) : Option ℕ := Lib.mulChecked sizeMax lhs rhs

theorem mulSize_eq_some {lhs rhs out : ℕ} :
    mulSize lhs rhs = some out ↔ out = lhs * rhs ∧ lhs * rhs ≤ sizeMax :=
  Lib.mulChecked_eq_some

/-- Which host allocations succeed. -/
structure Host where
  malloc : ℕ → Bool
  calloc : ℕ → ℕ → Bool
  malloc_fits : ∀ size, malloc size = true → size ≤ sizeMax
  calloc_fits : ∀ count size, calloc count size = true → count * size ≤ sizeMax

/-- The host that grants every allocation an object can have. -/
def Host.generous : Host where
  malloc size := decide (size ≤ sizeMax)
  calloc count size := decide (count * size ≤ sizeMax)
  malloc_fits _ h := of_decide_eq_true h
  calloc_fits _ _ h := of_decide_eq_true h

theorem Host.generous_malloc {size : ℕ} (h : size ≤ sizeMax) : Host.generous.malloc size = true :=
  decide_eq_true h

end Att1
