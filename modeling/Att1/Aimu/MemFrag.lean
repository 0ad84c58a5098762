import Att1.Aimu.MemFit
import Mathlib.Algebra.BigOperators.Group.List.Basic
import Mathlib.Order.Lattice.Nat

/-!
# Att1.Aimu.MemFrag — the fragmentation report (`att1_aimu_mem_get_frag` of `src/aimu_mem.c`)

The report gives the used and the free bytes and the longest free interval exactly (`getFrag_spec`).  The percentage is
a 64-bit quotient: `getFrag_exact_iff`.
-/

open Att1.Lib

namespace Att1

/-- `att1_aimu_mem_frag`. -/
structure MemFrag where
  capacityBytes : UInt64
  usedBytes : UInt64
  freeBytes : UInt64
  largestFreeBlock : UInt64
  allocationCount : UInt32
  fragmentationPct : UInt32
  deriving DecidableEq, Repr

namespace AimuMem

variable {m : AimuMem} {sorted : List MemAlloc} {capacity gapEnd scanPos largest : UInt64}

/-- The largest gap after the gap from `scanPos` up to `gapEnd`. -/
def gapMax (gapEnd scanPos largest : UInt64) : UInt64 :=
  if scanPos < gapEnd then
    let gapSize := gapEnd - scanPos
    if largest < gapSize then gapSize else largest
  else largest

/-- The scan of the gaps between the sorted live allocations that are left. -/
def scanGaps (capacity : UInt64) : List MemAlloc → UInt64 → UInt64 → UInt64
  | [], scanPos, largest => gapMax capacity scanPos largest
  | a :: rest, scanPos, largest =>
    scanGaps capacity rest (a.baseAddress + a.byteSize) (gapMax a.baseAddress scanPos largest)

/-- The percentage of the free bytes outside the largest free block. -/
def fragPct (freeBytes largest : UInt64) : UInt32 :=
  if freeBytes = 0 then 0
  else if freeBytes ≤ largest then 0
  else
    let fragmented := freeBytes - largest
    let pct := fragmented * 100 / freeBytes
    if 100 < pct then 100 else pct.toUInt32

/-- `att1_aimu_mem_get_frag`. -/
def getFrag (m : AimuMem) : MemFrag :=
  let sorted := m.collectLiveSorted
  let used := sorted.foldl (fun used a => used + a.byteSize) 0
  let freeBytes := if used < m.capacityBytes then m.capacityBytes - used else 0
  let largest := scanGaps m.capacityBytes sorted memBase 0
  { capacityBytes := m.capacityBytes
    usedBytes := used
    freeBytes := freeBytes
    largestFreeBlock := largest
    allocationCount := sorted.length.toUInt32
    fragmentationPct := fragPct freeBytes largest }

/-! ### What the report is about -/

/-- The sum of the sizes of the live allocations. -/
def usedLength (m : AimuMem) : ℕ := (m.live.map fun a => a.byteSize.toNat).sum

/-- `n` addresses of the tile, one after the other, are in no live allocation. -/
def FreeRange (m : AimuMem) (n : ℕ) : Prop :=
  ∃ x, memBase.toNat ≤ x ∧ x + n ≤ m.capacityBytes.toNat ∧ ∀ a ∈ m.live, Disjoint (Set.Ico x (x + n)) a.addresses

/-- The length of the longest free interval. -/
noncomputable def longestFree (m : AimuMem) : ℕ := sSup {n | FreeRange m n}

/-- The report says what it should, over exact numbers. -/
structure FragExact (m : AimuMem) : Prop where
  used : m.getFrag.usedBytes.toNat = m.usedLength
  free : m.getFrag.usedBytes.toNat + m.getFrag.freeBytes.toNat = m.capacityBytes.toNat
  largest : IsGreatest {n | FreeRange m n} m.getFrag.largestFreeBlock.toNat
  pct : m.getFrag.fragmentationPct.toNat =
    if m.getFrag.freeBytes.toNat = 0 then 0
    else 100 * (m.getFrag.freeBytes.toNat - m.getFrag.largestFreeBlock.toNat) / m.getFrag.freeBytes.toNat

/-! ### The scan -/

theorem toNat_gapMax : (gapMax gapEnd scanPos largest).toNat = max largest.toNat (gapEnd.toNat - scanPos.toNat) := by
  unfold gapMax
  by_cases hgap : scanPos < gapEnd
  · have hsize := UInt64.toNat_sub_of_le _ _ (UInt64.le_of_lt hgap)
    rw [if_pos hgap]
    simp only
    split_ifs with hlarger
    · have hlt := UInt64.lt_iff_toNat_lt.mp hlarger
      omega
    · have hle := UInt64.le_iff_toNat_le.mp (UInt64.not_lt.mp hlarger)
      omega
  · have hle := UInt64.le_iff_toNat_le.mp (UInt64.not_lt.mp hgap)
    rw [if_neg hgap]
    omega

/-- The scan finds the longest gap. -/
theorem toNat_scanGaps (hplaced : ∀ a ∈ sorted, Placed capacity a) :
    (scanGaps capacity sorted scanPos largest).toNat =
      max largest.toNat (largestGap MemAlloc.lo MemAlloc.hi capacity.toNat scanPos.toNat sorted) := by
  induction sorted generalizing scanPos largest with
  | nil => exact toNat_gapMax
  | cons a rest ih =>
    rw [scanGaps, ih fun b hb => hplaced b (List.mem_cons_of_mem a hb), toNat_gapMax,
      (hplaced a List.mem_cons_self).toNat_end, max_assoc]
    rfl

theorem WellFormed.chained (h : WellFormed m) :
    Chained MemAlloc.lo MemAlloc.hi m.capacityBytes.toNat memBase.toNat m.collectLiveSorted := by
  have hplaced : ∀ a ∈ m.collectLiveSorted, Placed m.capacityBytes a := fun a ha =>
    h.placed a (m.collectLiveSorted_perm.subset ha)
  exact chained_of_pairwise h.ordered (fun _ _ => Nat.zero_le _) (fun a ha => (hplaced a ha).nonempty.le)
    (fun a ha => (hplaced a ha).inside) (Nat.zero_le _)

/-- The live allocations and the largest gap fit in the tile. -/
theorem WellFormed.usedLength_add_le (h : WellFormed m) :
    m.usedLength + largestGap MemAlloc.lo MemAlloc.hi m.capacityBytes.toNat memBase.toNat m.collectLiveSorted ≤
      m.capacityBytes.toNat := by
  have hsum := h.chained.sum_add_le
  have hsize : (m.collectLiveSorted.map fun a => a.hi - a.lo).sum = m.usedLength := by
    unfold usedLength
    rw [← (m.collectLiveSorted_perm.map _).sum_eq]
    refine congrArg List.sum (List.map_congr_left fun a _ => ?_)
    unfold MemAlloc.hi MemAlloc.lo
    omega
  omega

/-- A sum that fits is computed without a wrap. -/
theorem toNat_foldl_byteSize {used : UInt64} (h : used.toNat + (sorted.map fun a => a.byteSize.toNat).sum < 2 ^ 64) :
    (sorted.foldl (fun used a => used + a.byteSize) used).toNat =
      used.toNat + (sorted.map fun a => a.byteSize.toNat).sum := by
  induction sorted generalizing used with
  | nil => rfl
  | cons a rest ih =>
    rw [List.map_cons, List.sum_cons] at h ⊢
    have hadd : (used + a.byteSize).toNat = used.toNat + a.byteSize.toNat := by
      rw [UInt64.toNat_add]
      exact Nat.mod_eq_of_lt (by omega)
    rw [List.foldl_cons, ih (by omega), hadd]
    omega

/-! ### The report -/

theorem WellFormed.largest_eq (h : WellFormed m) : m.getFrag.largestFreeBlock.toNat =
    largestGap MemAlloc.lo MemAlloc.hi m.capacityBytes.toNat memBase.toNat m.collectLiveSorted := by
  have hmax := @toNat_scanGaps m.collectLiveSorted m.capacityBytes memBase 0 fun a ha =>
    h.placed a (m.collectLiveSorted_perm.subset ha)
  exact hmax.trans (max_eq_right (Nat.zero_le _))

/-- The largest free block is the longest free interval. -/
theorem WellFormed.largest_isGreatest (h : WellFormed m) :
    IsGreatest {n | FreeRange m n} m.getFrag.largestFreeBlock.toNat := by
  rw [h.largest_eq]
  constructor
  · obtain ⟨x, hx, hin, hfree⟩ := exists_gap h.chained
    refine ⟨x, hx, hin, fun a ha => ?_⟩
    have hapart := hfree a (m.collectLiveSorted_perm.symm.subset ha)
    rw [MemAlloc.addresses, Set.Ico_disjoint_Ico]
    omega
  · rintro n ⟨x, hx, hin, hfree⟩
    by_cases hn : n = 0
    · omega
    · refine le_largestGap hx (by omega) hin fun a ha => ?_
      have hmem := m.collectLiveSorted_perm.subset ha
      have hne := (h.placed a hmem).nonempty
      have hdisjoint := hfree a hmem
      rw [MemAlloc.addresses, Set.Ico_disjoint_Ico] at hdisjoint
      omega

theorem WellFormed.used (h : WellFormed m) : m.getFrag.usedBytes.toNat = m.usedLength := by
  have hle := h.usedLength_add_le
  have hcap := m.capacityBytes.toNat_lt
  have hsum : (m.collectLiveSorted.map fun a => a.byteSize.toNat).sum = m.usedLength :=
    (m.collectLiveSorted_perm.map _).sum_eq
  have hfold := @toNat_foldl_byteSize m.collectLiveSorted 0 (by
    rw [hsum]
    show 0 + m.usedLength < 2 ^ 64
    omega)
  rw [hsum] at hfold
  exact hfold.trans (Nat.zero_add _)

theorem WellFormed.free_eq (h : WellFormed m) : m.getFrag.freeBytes.toNat = m.capacityBytes.toNat - m.usedLength := by
  have hused := h.used
  show (if m.getFrag.usedBytes < m.capacityBytes then m.capacityBytes - m.getFrag.usedBytes else 0).toNat = _
  split_ifs with hlt
  · rw [UInt64.toNat_sub_of_le _ _ (UInt64.le_of_lt hlt), hused]
  · have hle := UInt64.le_iff_toNat_le.mp (UInt64.not_lt.mp hlt)
    show 0 = _
    omega

theorem WellFormed.longestFree_eq (h : WellFormed m) : m.longestFree = m.getFrag.largestFreeBlock.toNat :=
  h.largest_isGreatest.csSup_eq

/-- The percentage of a free space of at most `2 ^ 64` bytes is exact when its product with 100 does not wrap. -/
theorem toNat_fragPct {freeBytes : UInt64} (hle : largest.toNat ≤ freeBytes.toNat) :
    ((fragPct freeBytes largest).toNat =
        if freeBytes.toNat = 0 then 0 else 100 * (freeBytes.toNat - largest.toNat) / freeBytes.toNat) ↔
      100 * (freeBytes.toNat - largest.toNat) < 2 ^ 64 := by
  have hlt := freeBytes.toNat_lt
  by_cases hzero : freeBytes = 0
  · subst hzero
    exact iff_of_true rfl (show 100 * (0 - _) < 2 ^ 64 by omega)
  have hpos : 0 < freeBytes.toNat := Nat.pos_of_ne_zero fun h => hzero (UInt64.toNat_inj.mp h)
  rw [if_neg hpos.ne']
  unfold fragPct
  rw [if_neg hzero]
  by_cases hall : freeBytes ≤ largest
  · have heq : freeBytes.toNat - largest.toNat = 0 := by
      have := UInt64.le_iff_toNat_le.mp hall
      omega
    rw [if_pos hall, heq, Nat.mul_zero, Nat.zero_div]
    exact iff_of_true rfl (Nat.two_pow_pos 64)
  rw [if_neg hall]
  simp only
  set product := (freeBytes - largest) * 100 with hproduct
  have hfragmented : (freeBytes - largest).toNat = freeBytes.toNat - largest.toNat :=
    UInt64.toNat_sub_of_le _ _ (UInt64.le_iff_toNat_le.mpr hle)
  have hwrap : product.toNat = 100 * (freeBytes.toNat - largest.toNat) % 2 ^ 64 := by
    rw [hproduct, UInt64.toNat_mul, hfragmented, Nat.mul_comm]
    rfl
  have hpct : (if 100 < product / freeBytes then (100 : UInt32) else (product / freeBytes).toUInt32).toNat =
      min 100 (product.toNat / freeBytes.toNat) := by
    have hdiv : (product / freeBytes).toNat = product.toNat / freeBytes.toNat := UInt64.toNat_div _ _
    split_ifs with hbig
    · have hbig := UInt64.lt_iff_toNat_lt.mp hbig
      rw [hdiv] at hbig
      exact (min_eq_left hbig.le).symm
    · have hsmall := UInt64.le_iff_toNat_le.mp (UInt64.not_lt.mp hbig)
      rw [hdiv] at hsmall
      have hsmall : product.toNat / freeBytes.toNat ≤ 100 := hsmall
      rw [UInt64.toNat_toUInt32, hdiv, min_eq_right hsmall]
      omega
  rw [hpct]
  constructor
  · -- A wrap takes at least `freeBytes` from the product, so the quotient is at least one too small.
    intro hexact
    by_contra hover
    have hless : product.toNat + freeBytes.toNat ≤ 100 * (freeBytes.toNat - largest.toNat) := by omega
    have hquot := Nat.div_le_div_right (c := freeBytes.toNat) hless
    rw [Nat.add_div_right _ hpos] at hquot
    have hmin := min_le_right 100 (product.toNat / freeBytes.toNat)
    omega
  · intro hfits
    rw [hwrap, Nat.mod_eq_of_lt hfits]
    refine min_eq_right (Nat.div_le_of_le_mul ?_)
    omega

/-- The report of a reachable tile is exact if and only if 100 times the bytes that are free outside the longest free
interval are fewer than `2 ^ 64`. -/
theorem getFrag_exact_iff {host : Host} {tileId : UInt32} {m₀ : AimuMem}
    {is : List (MemOp × Status × Option (UInt64 × UInt32))} (hc : create host tileId capacity = .ok m₀)
    (hr : Run Step m₀ is m) :
    FragExact m ↔ 100 * (m.capacityBytes.toNat - m.usedLength - m.longestFree) < 2 ^ 64 := by
  obtain ⟨h, -⟩ := wellFormed_of_run hc hr
  have hfits := h.usedLength_add_le
  have hlargest := h.largest_eq
  have hfree := h.free_eq
  have hused := h.used
  have hpct := @toNat_fragPct m.getFrag.largestFreeBlock m.getFrag.freeBytes (by omega)
  rw [h.longestFree_eq, ← hfree]
  constructor
  · intro hexact
    exact hpct.mp hexact.pct
  · intro hlt
    exact { used := hused
            free := by omega
            largest := h.largest_isGreatest
            pct := hpct.mpr hlt }

/-- A tile of 64 KiB with a hole at the start. -/
theorem getFrag_exact_iff_hole : ∃ m₀ m : AimuMem, create .generous 0 65536 = .ok m₀ ∧
    Run Step m₀ [(.allocRange { byteSize := 100 }, .ok, some (0, 1)),
      (.allocRange { byteSize := 32, alignment := 64 }, .ok, some (128, 2)), (.free 1, .ok, none)] m ∧
    (FragExact m ↔ 100 * (m.capacityBytes.toNat - m.usedLength - m.longestFree) < 2 ^ 64) := by
  obtain ⟨m₀, m, hc, hr⟩ : ∃ m₀ m : AimuMem, create .generous 0 65536 = .ok m₀ ∧
      Run Step m₀ [(.allocRange { byteSize := 100 }, .ok, some (0, 1)),
        (.allocRange { byteSize := 32, alignment := 64 }, .ok, some (128, 2)), (.free 1, .ok, none)] m :=
    ⟨_, _, rfl, Run.cons rfl <| Run.cons rfl <| Run.cons rfl Run.nil⟩
  exact ⟨m₀, m, hc, hr, getFrag_exact_iff hc hr⟩

/-- A quarter of a tile of `2 ^ 60` bytes is free in front of an allocation: the report says 9%. -/
theorem getFrag_quarter : ∃ m₀ m : AimuMem, create .generous 0 0x1000000000000000 = .ok m₀ ∧
    Run Step m₀ [(.allocRange { byteSize := 0x400000000000000 }, .ok, some (0, 1)),
      (.allocRange { byteSize := 16 }, .ok, some (0x400000000000000, 2)), (.free 1, .ok, none)] m ∧
    m.getFrag.fragmentationPct = 9 ∧ ¬FragExact m := by
  obtain ⟨m₀, m, hc, hr, hpct, hfree, hlargest⟩ : ∃ m₀ m : AimuMem, create .generous 0 0x1000000000000000 = .ok m₀ ∧
      Run Step m₀ [(.allocRange { byteSize := 0x400000000000000 }, .ok, some (0, 1)),
        (.allocRange { byteSize := 16 }, .ok, some (0x400000000000000, 2)), (.free 1, .ok, none)] m ∧
      m.getFrag.fragmentationPct = 9 ∧ m.getFrag.freeBytes = 0xFFFFFFFFFFFFFF0 ∧
      m.getFrag.largestFreeBlock = 0xBFFFFFFFFFFFFF0 :=
    ⟨_, _, rfl, Run.cons rfl <| Run.cons rfl <| Run.cons rfl Run.nil, rfl, rfl, rfl⟩
  refine ⟨m₀, m, hc, hr, hpct, fun hexact => ?_⟩
  have heq := hexact.pct
  rw [hpct, hfree, hlargest] at heq
  exact absurd heq (by decide)

end AimuMem

end Att1
