import Mathlib.Data.List.Basic

/-!
# Att1.Lib.Buffer — flat storage read and written in blocks

A buffer is a map from cell numbers to contents.  `copyInto` is a block copy between two buffers and
`readBlock` the list of a block's cells.  A block is read back as copied (`readBlock_copyInto_self`) and a
copy changes no block disjoint from it (`readBlock_copyInto_of_disjoint`).
-/

namespace Att1.Lib

variable {α : Type*}

/-- Copy `n` cells of `src` from `soff` on to `dst` from `doff` on. -/
def copyInto (dst : ℕ → α) (doff : ℕ) (src : ℕ → α) (soff n : ℕ) : ℕ → α := fun i =>
  if doff ≤ i ∧ i < doff + n then src (soff + (i - doff)) else dst i

/-- The `n` cells from `off` on. -/
def readBlock (m : ℕ → α) (off n : ℕ) : List α := (List.range n).map fun i => m (off + i)

@[simp] theorem length_readBlock (m : ℕ → α) (off n : ℕ) : (readBlock m off n).length = n := by
  simp [readBlock]

@[simp] theorem readBlock_zero (m : ℕ → α) (off : ℕ) : readBlock m off 0 = [] := rfl

theorem readBlock_congr {m m' : ℕ → α} {off off' n : ℕ}
    (h : ∀ i < n, m (off + i) = m' (off' + i)) : readBlock m off n = readBlock m' off' n :=
  List.map_congr_left fun i hi => h i (List.mem_range.mp hi)

/-- A part of a block is a block. -/
theorem take_drop_readBlock (m : ℕ → α) (off : ℕ) {n k len : ℕ} (h : k + len ≤ n) :
    ((readBlock m off n).drop k).take len = readBlock m (off + k) len := by
  refine List.ext_getElem (by simp; omega) fun i h1 h2 => ?_
  simp [readBlock, Nat.add_assoc]

/-- A block inside a copied block holds what the source holds there. -/
theorem readBlock_copyInto_sub (dst : ℕ → α) (doff : ℕ) (src : ℕ → α) (soff n : ℕ) {k len : ℕ}
    (h : k + len ≤ n) :
    readBlock (copyInto dst doff src soff n) (doff + k) len = readBlock src (soff + k) len := by
  refine readBlock_congr fun i hi => ?_
  unfold copyInto
  rw [if_pos ⟨by omega, by omega⟩, show soff + (doff + k + i - doff) = soff + k + i by omega]

theorem readBlock_copyInto_self (dst : ℕ → α) (doff : ℕ) (src : ℕ → α) (soff n : ℕ) :
    readBlock (copyInto dst doff src soff n) doff n = readBlock src soff n :=
  readBlock_copyInto_sub dst doff src soff n (k := 0) (by omega)

/-- A copy changes no block disjoint from it. -/
theorem readBlock_copyInto_of_disjoint (dst : ℕ → α) (doff : ℕ) (src : ℕ → α) (soff n : ℕ) {off len : ℕ}
    (h : off + len ≤ doff ∨ doff + n ≤ off) :
    readBlock (copyInto dst doff src soff n) off len = readBlock dst off len := by
  refine readBlock_congr fun i hi => ?_
  unfold copyInto
  rw [if_neg (by omega)]

/-- Slots of one width do not overlap. -/
theorem slot_disjoint {i j : ℕ} (width : ℕ) (h : i ≠ j) :
    i * width + width ≤ j * width ∨ j * width + width ≤ i * width := by
  rcases Nat.lt_or_gt_of_ne h with hlt | hgt
  · left
    calc i * width + width = (i + 1) * width := (Nat.succ_mul i width).symm
      _ ≤ j * width := Nat.mul_le_mul_right width hlt
  · right
    calc j * width + width = (j + 1) * width := (Nat.succ_mul j width).symm
      _ ≤ i * width := Nat.mul_le_mul_right width hgt

end Att1.Lib
