import Mathlib.Algebra.BigOperators.Group.Finset.Basic
import Mathlib.Algebra.BigOperators.Intervals

/-!
# Att1.Lib.Loops — counted loops over flat storage

* `range_mul`, `foldl_range_blocks`: a loop over blocks of a loop over their elements is one loop.  `foldl_update`,
  `foldl_set_range`: a loop that writes cell after cell.
* `sumLoop n f s`: the running sum after a loop that adds `f i` to `s` for each `i < n`.  It is a finite sum
  (`sumLoop_eq`).
* `array n f`: storage whose first `n` cells are filled by `f`.
* `arrayM`, `blocksM`: the same, where the value of a cell, or of a block of cells, may fail to exist.
-/

namespace Att1.Lib

variable {R : Type*}

/-! ### Blocks -/

section Blocks

variable {σ : Type*}

/-- The numbers below `m * n`, as `m` blocks of `n`. -/
theorem range_mul (m n : ℕ) :
    List.range (m * n) = (List.range m).flatMap fun b => (List.range n).map fun j => b * n + j := by
  induction m with
  | zero => simp
  | succ m ih => rw [Nat.add_mul, Nat.one_mul, List.range_add, ih, List.range_succ, List.flatMap_append,
      List.flatMap_singleton]

section

variable {b m n j : ℕ}

theorem block_div (hj : j < n) : (b * n + j) / n = b := by
  rw [Nat.mul_comm, Nat.mul_add_div (by omega), Nat.div_eq_of_lt hj, Nat.add_zero]

theorem block_mod (hj : j < n) : (b * n + j) % n = j := by
  rw [Nat.mul_comm, Nat.mul_add_mod, Nat.mod_eq_of_lt hj]

theorem block_lt (hb : b < m) (hj : j < n) : b * n + j < m * n := by
  calc b * n + j < (b + 1) * n := by
        rw [Nat.add_mul, Nat.one_mul]
        omega
    _ ≤ m * n := Nat.mul_le_mul_right n hb

theorem forall_lt_mul {p : ℕ → Prop} : (∀ i < m * n, p i) ↔ ∀ b < m, ∀ j < n, p (b * n + j) := by
  constructor
  · intro h b hb j hj
    exact h _ (block_lt hb hj)
  · intro h i hi
    have hpos : 0 < n := Nat.pos_of_mul_pos_left (Nat.zero_lt_of_lt hi)
    have hi' := h (i / n) (Nat.div_lt_of_lt_mul (by rwa [Nat.mul_comm])) (i % n) (Nat.mod_lt _ hpos)
    rwa [Nat.div_add_mod'] at hi'

end

/-- Blocks of `n` elements, one after the other. -/
theorem flatMap_range_blocks (m n : ℕ) (f : ℕ → ℕ → σ) :
    ((List.range m).flatMap fun b => (List.range n).map (f b)) =
      (List.range (m * n)).map fun p => f (p / n) (p % n) := by
  rw [range_mul, List.map_flatMap]
  refine List.flatMap_congr fun b _ => ?_
  rw [List.map_map]
  refine List.map_congr_left fun j hj => ?_
  have hj := List.mem_range.mp hj
  rw [Function.comp_apply, block_div hj, block_mod hj]

/-- A loop over `m` blocks of `n` turns is one loop. -/
theorem foldl_range_blocks (m n : ℕ) (f : σ → ℕ → σ) (s : σ) :
    (List.range m).foldl (fun s b => (List.range n).foldl (fun s j => f s (b * n + j)) s) s =
      (List.range (m * n)).foldl f s := by
  rw [range_mul, List.foldl_flatMap]
  simp only [List.foldl_map]

/-- A loop that writes the cells from `off` on. -/
theorem foldl_update (n off : ℕ) (f g : ℕ → R) :
    (List.range n).foldl (fun a i => Function.update a (off + i) (f i)) g =
      fun i => if off ≤ i ∧ i < off + n then f (i - off) else g i := by
  induction n with
  | zero =>
    ext i
    rw [if_neg (by omega)]
    rfl
  | succ n ih =>
    ext i
    rw [List.range_succ, List.foldl_append, ih, List.foldl_cons, List.foldl_nil, Function.update_apply]
    by_cases hi : i = off + n
    · rw [if_pos hi, if_pos (by omega), hi, Nat.add_sub_cancel_left]
    · rw [if_neg hi]
      exact if_congr (by omega) rfl rfl

/-- A loop that writes the first cells of a list. -/
theorem foldl_set_range {n : ℕ} {cells : List σ} (hn : n ≤ cells.length) (f : ℕ → σ) :
    (List.range n).foldl (fun cells i => cells.set i (f i)) cells = (List.range n).map f ++ cells.drop n := by
  induction n with
  | zero => rfl
  | succ n ih =>
    rw [List.range_succ, List.foldl_append, ih (by omega), List.map_append, List.foldl_cons, List.foldl_nil,
      List.set_append_right _ _ (by rw [List.length_map, List.length_range])]
    rw [List.length_map, List.length_range, Nat.sub_self, List.drop_eq_getElem_cons (by omega), List.set_cons_zero,
      List.append_assoc]
    rfl

end Blocks

/-! ### Sums -/

section Sums

/-- The running sum after `n` turns. -/
def sumLoop [Add R] (n : ℕ) (f : ℕ → R) (sum : R) : R := (List.range n).foldl (fun sum i => sum + f i) sum

@[simp] theorem sumLoop_zero [Add R] (f : ℕ → R) (sum : R) : sumLoop 0 f sum = sum := rfl

@[simp] theorem sumLoop_succ [Add R] (n : ℕ) (f : ℕ → R) (sum : R) :
    sumLoop (n + 1) f sum = sumLoop n f sum + f n := by
  simp [sumLoop, List.range_succ]

theorem sumLoop_congr [Add R] {n : ℕ} {f g : ℕ → R} (sum : R) (h : ∀ i < n, f i = g i) :
    sumLoop n f sum = sumLoop n g sum := by
  induction n with
  | zero => rfl
  | succ n ih => rw [sumLoop_succ, sumLoop_succ, ih fun i hi => h i (by omega), h n (by omega)]

theorem sumLoop_eq [AddCommMonoid R] (n : ℕ) (f : ℕ → R) (sum : R) :
    sumLoop n f sum = sum + ∑ i ∈ Finset.range n, f i := by
  induction n with
  | zero => simp
  | succ n ih => rw [sumLoop_succ, ih, Finset.sum_range_succ, add_assoc]

theorem sumLoop_append [Add R] (m n : ℕ) (f : ℕ → R) (sum : R) :
    sumLoop n (fun i => f (m + i)) (sumLoop m f sum) = sumLoop (m + n) f sum := by
  induction n with
  | zero => rfl
  | succ n ih => rw [sumLoop_succ, ih, ← Nat.add_assoc, sumLoop_succ]

/-- The elements of `m` blocks of `n`, added up block after block. -/
theorem sumLoop_blocks [Add R] (m n : ℕ) (f : ℕ → R) (sum : R) :
    (List.range m).foldl (fun sum g => sumLoop n (fun j => f (g * n + j)) sum) sum = sumLoop (m * n) f sum :=
  foldl_range_blocks m n (fun sum i => sum + f i) sum

end Sums

/-! ### Arrays -/

section Arrays

variable [Zero R]

/-- The first `n` cells filled by `f`. -/
def array (n : ℕ) (f : ℕ → R) : ℕ → R := fun i => if i < n then f i else 0

theorem array_of_lt {n i : ℕ} {f : ℕ → R} (h : i < n) : array n f i = f i := if_pos h

theorem getD_map_range (n : ℕ) (f : ℕ → R) : (((List.range n).map f).getD · 0) = array n f := by
  ext i
  unfold array
  rw [List.getD_eq_getElem?_getD, List.getElem?_map]
  by_cases hi : i < n
  · rw [List.getElem?_range hi, if_pos hi]
    rfl
  · rw [List.getElem?_eq_none (by rw [List.length_range]; omega), if_neg hi]
    rfl

theorem array_congr {n : ℕ} {f g : ℕ → R} (h : ∀ i < n, f i = g i) : array n f = array n g := by
  ext i
  by_cases hi : i < n
  · rw [array_of_lt hi, array_of_lt hi, h i hi]
  · rw [array, array, if_neg hi, if_neg hi]

/-- The first `n` cells filled by `f`, if every value is there. -/
def arrayM (n : ℕ) (f : ℕ → Option R) : Option (ℕ → R) :=
  if ∀ i < n, (f i).isSome then some (array n fun i => (f i).getD 0) else none

theorem mod_lt_of_lt_mul {i m n : ℕ} (h : i < m * n) : i % n < n :=
  Nat.mod_lt _ (Nat.pos_of_ne_zero fun h0 => by simp [h0] at h)

theorem div_lt_of_lt_mul {i m n : ℕ} (h : i < m * n) : i / n < m := Nat.div_lt_of_lt_mul (by rwa [Nat.mul_comm])

theorem arrayM_eq_some {n : ℕ} {f : ℕ → Option R} {g : ℕ → R} (h : ∀ i < n, f i = some (g i)) :
    arrayM n f = some (array n g) := by
  rw [arrayM, if_pos fun i hi => by rw [h i hi, Option.isSome_some]]
  exact congrArg some (array_congr fun i hi => by rw [h i hi, Option.getD_some])

/-- `m` blocks of `n` cells, block `b` filled by `f b`, if every block is there. -/
def blocksM (m n : ℕ) (f : ℕ → Option (ℕ → R)) : Option (ℕ → R) :=
  if ∀ b < m, (f b).isSome then some (array (m * n) fun i => ((f (i / n)).getD fun _ => 0) (i % n)) else none

theorem blocksM_eq_some {m n : ℕ} {f : ℕ → Option (ℕ → R)} {g : ℕ → ℕ → R} (h : ∀ b < m, f b = some (g b)) :
    blocksM m n f = some (array (m * n) fun i => g (i / n) (i % n)) := by
  rw [blocksM, if_pos fun b hb => by rw [h b hb, Option.isSome_some]]
  refine congrArg some (array_congr fun i hi => ?_)
  rw [h (i / n) (div_lt_of_lt_mul hi), Option.getD_some]

end Arrays

end Att1.Lib
