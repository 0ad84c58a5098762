import Mathlib.Data.List.TakeWhile

/-!
# Att1.Lib.Split — texts cut at a separator, and by length

* `splitOn_cons_eq`, `splitOn_append`: the first part of a text, in front of the first separator.
* `chunks n xs`: consecutive parts of `n` elements, the last one shorter.
-/

namespace Att1.Lib

variable {α : Type*}

/-! ### Separators -/

section Separator

variable [DecidableEq α] {a : α} {xs ys : List α}

theorem takeWhile_ne_append (h : a ∉ xs) : (xs ++ a :: ys).takeWhile (fun c => c ≠ a) = xs ∧
    (xs ++ a :: ys).dropWhile (fun c => c ≠ a) = a :: ys := by
  have hall : ∀ c ∈ xs, decide (c ≠ a) = true := fun c hc => decide_eq_true fun hca => h (hca ▸ hc)
  rw [List.takeWhile_append_of_pos hall, List.dropWhile_append_of_pos hall, List.takeWhile_cons_of_neg (by simp),
    List.dropWhile_cons_of_neg (by simp), List.append_nil]
  exact ⟨rfl, rfl⟩

theorem takeWhile_ne_self (h : a ∉ xs) : xs.takeWhile (fun c => c ≠ a) = xs ∧ xs.dropWhile (fun c => c ≠ a) = [] := by
  have hall : ∀ c ∈ xs, decide (c ≠ a) = true := fun c hc => decide_eq_true fun hca => h (hca ▸ hc)
  exact ⟨List.takeWhile_eq_self_iff.mpr hall, List.dropWhile_eq_nil_iff.mpr hall⟩

/-- Text without a separator belongs to the first part. -/
theorem splitOn_append (h : a ∉ xs) : (xs ++ ys).splitOn a = (ys.splitOn a).modifyHead (xs ++ ·) := by
  induction xs with
  | nil => exact (congrFun List.modifyHead_id _).symm
  | cons x xs ih =>
    obtain ⟨hx, hxs⟩ := not_or.mp (mt List.mem_cons.mpr h)
    have hne : (x == a) = false := beq_eq_false_iff_ne.mpr fun hxa => hx hxa.symm
    rw [List.cons_append, List.splitOn_cons_eq_if_modifyHead, hne, ih hxs, if_neg (by simp), List.modifyHead_modifyHead]
    rfl

end Separator

/-! ### Chunks -/

section Chunks

variable {n : ℕ} {xs ys : List α}

/-- Consecutive parts of `n` elements; the last one may be shorter. -/
def chunks (n : ℕ) (xs : List α) : List (List α) :=
  (List.range ((xs.length + n - 1) / n)).map fun i => (xs.drop (i * n)).take n

@[simp] theorem chunks_nil (hn : 0 < n) : chunks n ([] : List α) = [] := by
  have hzero : (n - 1) / n = 0 := Nat.div_eq_of_lt (by omega)
  simp [chunks, hzero]

theorem chunks_eq_cons (hn : 0 < n) (hne : xs ≠ []) : chunks n xs = xs.take n :: chunks n (xs.drop n) := by
  have hpos := List.length_pos_iff.mpr hne
  have hcount : (xs.length + n - 1) / n = (xs.length - n + n - 1) / n + 1 := by
    by_cases hle : n ≤ xs.length
    · rw [show xs.length + n - 1 = (xs.length - n + n - 1) + n by omega, Nat.add_div_right _ hn]
    · rw [show xs.length - n + n - 1 = n - 1 by omega, Nat.div_eq_of_lt (show n - 1 < n by omega),
        show xs.length + n - 1 = (xs.length - 1) + n by omega, Nat.add_div_right _ hn,
        Nat.div_eq_of_lt (show xs.length - 1 < n by omega)]
  unfold chunks
  rw [hcount, List.range_succ_eq_map, List.map_cons, List.map_map, List.length_drop, Nat.zero_mul, List.drop_zero]
  congr 1
  refine List.map_congr_left fun i _ => ?_
  rw [Function.comp_apply, List.drop_drop, Nat.succ_mul, Nat.add_comm]

/-- A text that fits is one part. -/
theorem chunks_eq_singleton (hn : 0 < n) (hne : xs ≠ []) (hle : xs.length ≤ n) : chunks n xs = [xs] := by
  rw [chunks_eq_cons hn hne, List.take_of_length_le hle, List.drop_eq_nil_of_le hle, chunks_nil hn]

theorem chunks_append (hn : 0 < n) (hlength : xs.length = n) : chunks n (xs ++ ys) = xs :: chunks n ys := by
  have hne : xs ++ ys ≠ [] := by
    intro h
    rw [(List.append_eq_nil_iff.mp h).1, List.length_nil] at hlength
    omega
  rw [chunks_eq_cons hn hne, List.take_left' hlength, List.drop_left' hlength]

/-- Every part is a stretch of the text. -/
theorem mem_chunks {part : List α} (h : part ∈ chunks n xs) : part <:+: xs := by
  obtain ⟨i, -, rfl⟩ := List.mem_map.mp h
  exact (List.take_prefix _ _).isInfix.trans (List.drop_suffix _ _).isInfix

theorem ne_nil_of_mem_chunks {part : List α} (h : part ∈ chunks n xs) : part ≠ [] := by
  obtain ⟨i, hi, rfl⟩ := List.mem_map.mp h
  have hlt := List.mem_range.mp hi
  have hn : 0 < n := Nat.pos_of_ne_zero fun hzero => by simp [hzero] at hlt
  have hmul : (i + 1) * n ≤ xs.length + n - 1 := (Nat.le_div_iff_mul_le hn).mp hlt
  rw [Nat.succ_mul] at hmul
  rw [← List.length_pos_iff, List.length_take, List.length_drop]
  omega

/-- A text has one part exactly where it is not empty and fits. -/
theorem chunks_length_eq_one_iff (hn : 0 < n) : (chunks n xs).length = 1 ↔ xs ≠ [] ∧ xs.length ≤ n := by
  rcases eq_or_ne xs [] with rfl | hne
  · simp [chunks_nil hn]
  · rw [chunks_eq_cons hn hne, List.length_cons]
    rcases eq_or_ne (xs.drop n) [] with hnil | hcons
    · rw [hnil, chunks_nil hn]
      exact iff_of_true rfl ⟨hne, List.drop_eq_nil_iff.mp hnil⟩
    · rw [chunks_eq_cons hn hcons, List.length_cons]
      exact iff_of_false (by omega) fun h => hcons (List.drop_eq_nil_of_le h.2)

end Chunks

end Att1.Lib
