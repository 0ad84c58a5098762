import Mathlib.Order.CompletePartialOrder
import Mathlib.Algebra.GroupWithZero.Nat
import Mathlib.Order.Interval.Set.Disjoint
import Mathlib.Data.List.Pairwise
import Mathlib.Data.List.Sort

/-!
# Att1.Lib.Extents — items that occupy half-open intervals

Each item `a` occupies the addresses from `lo a` up to, but without, `hi a`.

* `Apart lo hi a b`: one of the two ends before the other begins; for items that occupy something this says that they
  have no address in common.
* `ordered_of_apart`: in a list sorted by `lo`, items that are apart lie one after the other.
* `pairwise_of_isChain`: it is enough to compare neighbours.
* `Apart.eq_of_mem`: among items that are apart at most one has a given address.
* `largestGap`: the longest interval between items that lie one after the other, `le_largestGap` and `exists_gap`.
-/

namespace Att1.Lib

variable {ι α : Type*} [LinearOrder α] {lo hi : ι → α} {a b : ι} {l l' : List ι} {x : α}

/-- One of the two ends before the other begins. -/
def Apart (lo hi : ι → α) (a b : ι) : Prop := hi a ≤ lo b ∨ hi b ≤ lo a

theorem Apart.symm (h : Apart lo hi a b) : Apart lo hi b a := Or.symm h

theorem Apart.disjoint (h : Apart lo hi a b) : Disjoint (Set.Ico (lo a) (hi a)) (Set.Ico (lo b) (hi b)) := by
  refine Set.disjoint_left.mpr fun x hxa hxb => ?_
  rcases h with h | h
  · exact absurd (hxa.2.trans_le h) (not_lt.mpr hxb.1)
  · exact absurd (hxb.2.trans_le h) (not_lt.mpr hxa.1)

/-- Items of a list that are apart lie one after the other in every arrangement that is sorted by `lo`. -/
theorem ordered_of_apart (hperm : l'.Perm l) (hsorted : l'.Pairwise fun a b => lo a ≤ lo b)
    (hne : ∀ a ∈ l, lo a < hi a) (h : l.Pairwise (Apart lo hi)) : l'.Pairwise fun a b => hi a ≤ lo b := by
  have h' : l'.Pairwise (Apart lo hi) := (hperm.pairwise_iff Apart.symm).mpr h
  have hboth := hsorted.and h'
  refine hboth.imp_of_mem fun {a b} ha hb hab => ?_
  rcases hab.2 with hend | hend
  · exact hend
  · exact absurd (hend.trans hab.1) (not_le.mpr (hne b (hperm.subset hb)))

/-- Items of which each ends before the next one begins lie one after the other. -/
theorem pairwise_of_isChain (hle : ∀ a ∈ l, lo a ≤ hi a) (h : l.IsChain fun a b => hi a ≤ lo b) :
    l.Pairwise fun a b => hi a ≤ lo b := by
  induction l with
  | nil => exact List.Pairwise.nil
  | cons a l ih =>
    have htail := ih (fun b hb => hle b (List.mem_cons_of_mem _ hb)) h.of_cons
    refine List.pairwise_cons.mpr ⟨fun b hb => ?_, htail⟩
    cases l with
    | nil => cases hb
    | cons c l =>
      have hac : hi a ≤ lo c := (List.isChain_cons_cons.mp h).1
      rcases List.mem_cons.mp hb with rfl | hb
      · exact hac
      · have hc : lo c ≤ hi c := hle c (List.mem_cons_of_mem _ List.mem_cons_self)
        exact hac.trans (hc.trans ((List.pairwise_cons.mp htail).1 b hb))

/-- At most one of the items that are apart has a given address. -/
theorem Apart.eq_of_mem (h : l.Pairwise (Apart lo hi)) (ha : a ∈ l) (hb : b ∈ l) (hxa : x ∈ Set.Ico (lo a) (hi a))
    (hxb : x ∈ Set.Ico (lo b) (hi b)) : a = b := by
  by_contra hne
  have : Std.Symm (Apart lo hi) := ⟨fun _ _ h => h.symm⟩
  have hab : Apart lo hi a b := h.forall ha hb hne
  exact Set.disjoint_left.mp hab.disjoint hxa hxb

/-! ### Gaps -/

section Gaps

variable {lo hi : ι → ℕ} {a : ι} {l : List ι} {start stop n x : ℕ}

/-- The items lie one after the other between `start` and `stop`. -/
def Chained (lo hi : ι → ℕ) (stop : ℕ) : ℕ → List ι → Prop
  | start, [] => start ≤ stop
  | start, a :: l => start ≤ lo a ∧ lo a ≤ hi a ∧ Chained lo hi stop (hi a) l

/-- The length of the longest gap between items that lie one after the other. -/
def largestGap (lo hi : ι → ℕ) (stop : ℕ) : ℕ → List ι → ℕ
  | start, [] => stop - start
  | start, a :: l => max (lo a - start) (largestGap lo hi stop (hi a) l)

theorem chained_of_pairwise (hord : l.Pairwise fun a b => hi a ≤ lo b) (hstart : ∀ a ∈ l, start ≤ lo a)
    (hle : ∀ a ∈ l, lo a ≤ hi a) (hstop : ∀ a ∈ l, hi a ≤ stop) (h : start ≤ stop) : Chained lo hi stop start l := by
  induction l generalizing start with
  | nil => exact h
  | cons a l ih =>
    obtain ⟨hnext, hord⟩ := List.pairwise_cons.mp hord
    exact ⟨hstart a List.mem_cons_self, hle a List.mem_cons_self,
      ih hord hnext (fun b hb => hle b (List.mem_cons_of_mem a hb)) (fun b hb => hstop b (List.mem_cons_of_mem a hb))
        (hstop a List.mem_cons_self)⟩

theorem Chained.le (h : Chained lo hi stop start l) : start ≤ stop ∧ ∀ a ∈ l, start ≤ lo a ∧ hi a ≤ stop := by
  induction l generalizing start with
  | nil => exact ⟨h, by simp⟩
  | cons a l ih =>
    obtain ⟨hstart, hle, h⟩ := h
    obtain ⟨hstop, hall⟩ := ih h
    refine ⟨by omega, List.forall_mem_cons.mpr ⟨⟨hstart, hstop⟩, fun b hb => ?_⟩⟩
    have hb := hall b hb
    omega

/-- The items and the longest gap fit in the interval. -/
theorem Chained.sum_add_le (h : Chained lo hi stop start l) :
    start + (l.map fun a => hi a - lo a).sum + largestGap lo hi stop start l ≤ stop := by
  induction l generalizing start with
  | nil =>
    have hle : start ≤ stop := h
    show start + 0 + (stop - start) ≤ stop
    omega
  | cons a l ih =>
    obtain ⟨hstart, hle, h⟩ := h
    have hrest := ih h
    rw [List.map_cons, List.sum_cons, largestGap]
    omega

/-- No interval without items is longer than the longest gap. -/
theorem le_largestGap (hx : start ≤ x) (hn : 0 < n) (hin : x + n ≤ stop)
    (hfree : ∀ a ∈ l, hi a ≤ x ∨ x + n ≤ lo a) : n ≤ largestGap lo hi stop start l := by
  induction l generalizing start with
  | nil =>
    show n ≤ stop - start
    omega
  | cons a l ih =>
    show n ≤ max _ _
    rcases hfree a List.mem_cons_self with hbehind | hbefore
    · exact (ih hbehind fun b hb => hfree b (List.mem_cons_of_mem a hb)).trans (le_max_right _ _)
    · refine le_trans ?_ (le_max_left _ _)
      omega

/-- The longest gap is an interval without items. -/
theorem exists_gap (h : Chained lo hi stop start l) :
    ∃ x, start ≤ x ∧ x + largestGap lo hi stop start l ≤ stop ∧
      ∀ a ∈ l, hi a ≤ x ∨ x + largestGap lo hi stop start l ≤ lo a := by
  induction l generalizing start with
  | nil =>
    have hle : start ≤ stop := h
    refine ⟨start, le_rfl, ?_, by simp⟩
    show start + (stop - start) ≤ stop
    omega
  | cons a l ih =>
    obtain ⟨hstart, hle, h⟩ := h
    obtain ⟨hstop, hall⟩ := h.le
    obtain ⟨x, hx, hin, hfree⟩ := ih h
    rcases le_total (lo a - start) (largestGap lo hi stop (hi a) l) with hmax | hmax
    · rw [largestGap, max_eq_right hmax]
      exact ⟨x, by omega, hin, List.forall_mem_cons.mpr ⟨.inl hx, hfree⟩⟩
    · rw [largestGap, max_eq_left hmax]
      refine ⟨start, le_rfl, by omega, List.forall_mem_cons.mpr ⟨.inr (by omega), fun b hb => ?_⟩⟩
      have hb := hall b hb
      omega

end Gaps

end Att1.Lib
