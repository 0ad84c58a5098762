import Mathlib.Data.List.Basic
import Mathlib.Algebra.Order.Group.Nat
import Mathlib.Algebra.GroupWithZero.Nat
import Mathlib.Algebra.BigOperators.Group.List.Basic

/-!
# Att1.Lib.Partition — consecutive items dealt out to owners in order

* `owners k counts`: the owner of each item, when owner `k` takes the first `counts[0]` items, owner `k + 1` the
  next `counts[1]`, and so on; `startOf counts j` is where the items of the `j`-th owner start.
* `shares t n`: the counts when each of `t` owners in turn takes its share of what is left, rounded up.  They add
  up to `n` (`sum_shares`), and the first ones are greater by one than the others (`getElem_shares`).
* `Contiguous n t start owner`: the items below `n` are dealt out to the owners below `t` in consecutive blocks.
-/

namespace Att1.Lib

/-! ### Counts -/

/-- The owner of each item. -/
def owners : ℕ → List ℕ → List ℕ
  | _, [] => []
  | k, c :: cs => List.replicate c k ++ owners (k + 1) cs

/-- Where the items of the `j`-th owner start. -/
def startOf (counts : List ℕ) (j : ℕ) : ℕ := (counts.take j).sum

@[simp] theorem startOf_zero (counts : List ℕ) : startOf counts 0 = 0 := by simp [startOf]

@[simp] theorem startOf_cons_succ (c : ℕ) (cs : List ℕ) (j : ℕ) : startOf (c :: cs) (j + 1) = c + startOf cs j := by
  simp [startOf]

theorem startOf_length (counts : List ℕ) : startOf counts counts.length = counts.sum := by simp [startOf]

theorem startOf_le_succ (counts : List ℕ) (j : ℕ) : startOf counts j ≤ startOf counts (j + 1) := by
  induction counts generalizing j with
  | nil => simp [startOf]
  | cons c cs ih =>
    cases j with
    | zero => simp
    | succ j =>
      have h := ih j
      simp only [startOf_cons_succ]
      omega

/-- The start of the next owner is the start of this one and its count. -/
theorem startOf_succ {counts : List ℕ} {j : ℕ} (hj : j < counts.length) :
    startOf counts (j + 1) = startOf counts j + counts[j] := by
  unfold startOf
  rw [List.take_succ_eq_append_getElem hj, List.sum_append, List.sum_singleton]

theorem startOf_mono (counts : List ℕ) : Monotone (startOf counts) := monotone_nat_of_le_succ (startOf_le_succ counts)

theorem length_owners (k : ℕ) (counts : List ℕ) : (owners k counts).length = counts.sum := by
  induction counts generalizing k with
  | nil => rfl
  | cons c cs ih => simp [owners, ih]

/-- An owner has the items from its start to the start of the next. -/
theorem getElem?_owners {k i j : ℕ} {counts : List ℕ} (hj : j < counts.length) (h₁ : startOf counts j ≤ i)
    (h₂ : i < startOf counts (j + 1)) : (owners k counts)[i]? = some (k + j) := by
  induction counts generalizing k i j with
  | nil => simp at hj
  | cons c cs ih =>
    cases j with
    | zero =>
      simp only [startOf_cons_succ, startOf_zero] at h₂
      rw [owners, List.getElem?_append_left (by simpa using h₂), List.getElem?_replicate, if_pos (by omega)]
      rfl
    | succ j =>
      simp only [startOf_cons_succ] at h₁ h₂
      rw [owners, List.getElem?_append_right (by simp; omega), List.length_replicate,
        ih (by simpa using hj) (by omega) (by omega)]
      congr 1
      omega

/-- Every item has an owner. -/
theorem exists_owner {i : ℕ} {counts : List ℕ} (h : i < counts.sum) :
    ∃ j < counts.length, startOf counts j ≤ i ∧ i < startOf counts (j + 1) := by
  induction counts generalizing i with
  | nil => simp at h
  | cons c cs ih =>
    rw [List.sum_cons] at h
    by_cases hc : i < c
    · exact ⟨0, by simp, by simp, by simpa using hc⟩
    · obtain ⟨j, hj, h₁, h₂⟩ := ih (i := i - c) (by omega)
      refine ⟨j + 1, by simpa using hj, ?_, ?_⟩
      · rw [startOf_cons_succ]
        omega
      · rw [startOf_cons_succ]
        omega

/-! ### Shares -/

/-- Each of `t` owners in turn takes its share of what is left, rounded up. -/
def shares : ℕ → ℕ → List ℕ
  | 0, _ => []
  | t + 1, n => (n + t) / (t + 1) :: shares t (n - (n + t) / (t + 1))

@[simp] theorem length_shares (t n : ℕ) : (shares t n).length = t := by
  induction t generalizing n with
  | zero => rfl
  | succ t ih => simp [shares, ih]

/-- No owner takes more than there is. -/
theorem share_le (t n : ℕ) : (n + t) / (t + 1) ≤ n := by
  rcases Nat.eq_zero_or_pos n with rfl | hn
  · rw [Nat.zero_add, Nat.div_eq_of_lt (Nat.lt_succ_self t)]
  · refine Nat.div_le_of_le_mul ?_
    have h : t ≤ t * n := Nat.le_mul_of_pos_right t hn
    calc n + t ≤ n + t * n := Nat.add_le_add_left h n
      _ = (t + 1) * n := by rw [Nat.succ_mul, Nat.add_comm]

/-- The shares of at least one owner add up. -/
theorem sum_shares (t n : ℕ) : (shares (t + 1) n).sum = n := by
  induction t generalizing n with
  | zero => simp [shares]
  | succ t ih =>
    rw [shares, List.sum_cons, ih]
    exact Nat.add_sub_cancel' (share_le (t + 1) n)

/-- The shares of `q * t + r` items: the first `r` owners take one more than the others. -/
theorem shares_eq (q : ℕ) {t r : ℕ} (hr : r ≤ t) :
    shares t (q * t + r) = List.replicate r (q + 1) ++ List.replicate (t - r) q := by
  induction t generalizing r with
  | zero =>
    obtain rfl : r = 0 := by omega
    rfl
  | succ t ih =>
    cases r with
    | zero =>
      have hshare : (q * (t + 1) + 0 + t) / (t + 1) = q := by
        rw [Nat.add_zero, Nat.add_comm, Nat.add_mul_div_right _ _ t.succ_pos, Nat.div_eq_of_lt t.lt_succ_self, Nat.zero_add]
      have hleft : q * (t + 1) + 0 - q = q * t + 0 := by
        rw [Nat.mul_succ]
        omega
      rw [shares, hshare, hleft, ih (Nat.zero_le t)]
      rfl
    | succ r =>
      have hshare : (q * (t + 1) + (r + 1) + t) / (t + 1) = q + 1 := by
        have hsum : q * (t + 1) + (r + 1) + t = r + (q + 1) * (t + 1) := by
          rw [Nat.succ_mul]
          omega
        rw [hsum, Nat.add_mul_div_right _ _ t.succ_pos, Nat.div_eq_of_lt (by omega), Nat.zero_add]
      have hleft : q * (t + 1) + (r + 1) - (q + 1) = q * t + r := by
        rw [Nat.mul_succ]
        omega
      rw [shares, hshare, hleft, ih (by omega), List.replicate_succ, Nat.add_sub_add_right]
      rfl

/-- The share of one owner. -/
theorem getElem_shares {t n j : ℕ} (hj : j < (shares t n).length) :
    (shares t n)[j] = n / t + if j < n % t then 1 else 0 := by
  have hj' : j < t := by rwa [length_shares] at hj
  have hmod : n % t < t := Nat.mod_lt n (by omega)
  have hshares : shares t n = List.replicate (n % t) (n / t + 1) ++ List.replicate (t - n % t) (n / t) := by
    rw [← shares_eq _ hmod.le, Nat.mul_comm, Nat.div_add_mod]
  simp only [hshares, List.getElem_append, List.length_replicate, List.getElem_replicate]
  split_ifs <;> rfl
/-! ### Blocks -/

/-- The items below `n` are dealt out to the owners below `t` in consecutive blocks. -/
structure Contiguous (n t : ℕ) (start owner : ℕ → ℕ) : Prop where
  owner_lt : ∀ i < n, owner i < t
  owner_eq : ∀ i < n, ∀ k < t, owner i = k ↔ start k ≤ i ∧ i < start (k + 1)
  start_le : ∀ k < t, start k ≤ start (k + 1)
  start_le_items : ∀ k ≤ t, start k ≤ n

/-- The items of each owner are one range, wherever it lies. -/
def Unbroken (n : ℕ) (owner : ℕ → ℕ) : Prop :=
  ∀ i j k, i ≤ j → j ≤ k → k < n → owner i = owner k → owner j = owner i

theorem Contiguous.unbroken {n t : ℕ} {start owner : ℕ → ℕ} (h : Contiguous n t start owner) : Unbroken n owner := by
  intro i j k hij hjk hk hik
  have hlt := h.owner_lt i (by omega)
  have hi := (h.owner_eq i (by omega) (owner i) hlt).mp rfl
  have hk' := (h.owner_eq k hk (owner i) hlt).mp hik.symm
  exact (h.owner_eq j (by omega) (owner i) hlt).mpr (by omega)

theorem contiguous_owners {n : ℕ} {counts : List ℕ} (h : counts.sum = n) :
    Contiguous n counts.length (startOf counts) fun i => (owners 0 counts).getD i 0 := by
  have hget : ∀ i j, j < counts.length → startOf counts j ≤ i → i < startOf counts (j + 1) →
      (owners 0 counts).getD i 0 = j := by
    intro i j hj h₁ h₂
    rw [List.getD_eq_getElem?_getD, getElem?_owners hj h₁ h₂, Option.getD_some, Nat.zero_add]
  refine ⟨fun i hi => ?_, fun i hi k hk => ⟨fun hik => ?_, fun hik => hget i k hk hik.1 hik.2⟩,
    fun k _ => startOf_le_succ counts k, fun k hk => ?_⟩
  · obtain ⟨j, hj, h₁, h₂⟩ := exists_owner (h ▸ hi)
    rw [hget i j hj h₁ h₂]
    exact hj
  · obtain ⟨j, hj, h₁, h₂⟩ := exists_owner (h ▸ hi)
    have hjk : j = k := (hget i j hj h₁ h₂).symm.trans hik
    exact hjk ▸ ⟨h₁, h₂⟩
  · rw [← h, ← startOf_length]
    exact startOf_mono counts hk

end Att1.Lib
