import Att1.Aimu.Mem
import Att1.Lib.Extents
import Att1.Lib.Ring
import Att1.Lib.Runs

/-!
# Att1.Aimu.MemSafe — what the tile allocator guarantees

* `WellFormed m`: the live allocations lie inside the tile, apart from each other, and the ids count the slots.
* `firstFit_spec`: the scan finds an aligned address from which the request meets no live allocation.
* `allocator_safe`: in every state that allocations, frees and resets reach, with what the queries answer there.
-/

open Att1.Lib

namespace Att1

namespace MemAlloc

/-- The first address. -/
def lo (a : MemAlloc) : ℕ := a.baseAddress.toNat

/-- The address behind the last one, as an exact number. -/
def hi (a : MemAlloc) : ℕ := a.baseAddress.toNat + a.byteSize.toNat

def addresses (a : MemAlloc) : Set ℕ := Set.Ico a.lo a.hi

end MemAlloc

namespace AimuMem

variable {m m' : AimuMem} {a b : MemAlloc} {sorted : List MemAlloc} {r : MemRequest}
  {capacity byteSize alignment searchStart : UInt64} {k : ℕ}

/-- An allocation occupies aligned addresses of the tile. -/
structure Placed (capacity : UInt64) (a : MemAlloc) : Prop where
  nonempty : a.lo < a.hi
  inside : a.hi ≤ capacity.toNat
  aligned : a.alignment.toNat ∣ a.lo

structure WellFormed (m : AimuMem) : Prop where
  count : m.allocs.length ≤ maxAllocs
  next : m.nextId.toNat = m.allocs.length + 1
  ids : m.allocs.map (fun a => a.allocId.toNat) = List.range' 1 m.allocs.length
  placed : ∀ a ∈ m.live, Placed m.capacityBytes a
  apart : m.live.Pairwise (Apart MemAlloc.lo MemAlloc.hi)

/-- The end of a placed allocation is computed without a wrap. -/
theorem Placed.toNat_end (h : Placed capacity a) : (a.baseAddress + a.byteSize).toNat = a.hi := by
  have h1 := h.inside
  have h2 := capacity.toNat_lt
  rw [UInt64.toNat_add]
  unfold MemAlloc.hi at *
  exact Nat.mod_eq_of_lt (by omega)

/-! ### The scan -/

theorem firstFit_spec (halign : alignment.toNat = 2 ^ k)
    (hord : sorted.Pairwise fun a b => a.hi ≤ b.lo) (hplaced : ∀ a ∈ sorted, Placed capacity a)
    (hstart : ∀ a ∈ sorted, searchStart.toNat ≤ a.lo)
    (hfound : firstFit capacity byteSize alignment sorted searchStart ≠ 0xFFFFFFFFFFFFFFFF) :
    let found := (firstFit capacity byteSize alignment sorted searchStart).toNat
    alignment.toNat ∣ found ∧ searchStart.toNat ≤ found ∧ found + byteSize.toNat ≤ capacity.toNat ∧
      ∀ a ∈ sorted, a.hi ≤ found ∨ found + byteSize.toNat ≤ a.lo := by
  have hdvd : ∀ start, alignment.toNat ∣ (alignUp start alignment).toNat := fun _ => dvd_clear_low halign _
  induction sorted generalizing searchStart with
  | nil =>
    unfold firstFit at hfound ⊢
    simp only at hfound ⊢
    split_ifs at hfound ⊢ with hwrap hcap hfits
    · exact absurd rfl hfound
    · exact absurd rfl hfound
    · have hge := UInt64.le_iff_toNat_le.mp (UInt64.not_lt.mp hwrap)
      have hroom := UInt64.le_iff_toNat_le.mp hfits
      have hle := UInt64.not_lt.mp hcap
      have hle' := UInt64.le_iff_toNat_le.mp hle
      rw [UInt64.toNat_sub_of_le _ _ hle] at hroom
      exact ⟨hdvd _, hge, by omega, fun a ha => absurd ha List.not_mem_nil⟩
    · exact absurd rfl hfound
  | cons a rest ih =>
    obtain ⟨hnext, hord⟩ := List.pairwise_cons.mp hord
    have ha := hplaced a List.mem_cons_self
    have hend := ha.toNat_end
    have hskip : firstFit capacity byteSize alignment rest (a.baseAddress + a.byteSize) ≠ 0xFFFFFFFFFFFFFFFF →
        let found := (firstFit capacity byteSize alignment rest (a.baseAddress + a.byteSize)).toNat
        alignment.toNat ∣ found ∧ searchStart.toNat ≤ found ∧ found + byteSize.toNat ≤ capacity.toNat ∧
          ∀ b ∈ a :: rest, b.hi ≤ found ∨ found + byteSize.toNat ≤ b.lo := by
      intro hrest
      obtain ⟨h1, h2, h3, h4⟩ := ih hord (fun b hb => hplaced b (List.mem_cons_of_mem a hb))
        (fun b hb => hend ▸ hnext b hb) hrest
      have hbefore := hstart a List.mem_cons_self
      have hne := ha.nonempty
      rw [hend] at h2
      refine ⟨h1, by omega, h3, ?_⟩
      intro b hb
      rcases List.mem_cons.mp hb with rfl | hb
      · exact Or.inl h2
      · exact h4 b hb
    unfold firstFit at hfound ⊢
    simp only at hfound ⊢
    split_ifs at hfound ⊢ with hwrap hpast hfits
    · exact absurd rfl hfound
    · exact hskip hfound
    · have hge := UInt64.le_iff_toNat_le.mp (UInt64.not_lt.mp hwrap)
      have hroom := UInt64.le_iff_toNat_le.mp hfits
      have hle := UInt64.not_lt.mp hpast
      have hle' := UInt64.le_iff_toNat_le.mp hle
      rw [UInt64.toNat_sub_of_le _ _ hle] at hroom
      have hbefore : (alignUp searchStart alignment).toNat + byteSize.toNat ≤ a.lo := by
        unfold MemAlloc.lo
        omega
      have hne := ha.nonempty
      have hin := ha.inside
      refine ⟨hdvd _, hge, by omega, ?_⟩
      intro b hb
      rcases List.mem_cons.mp hb with rfl | hb
      · exact Or.inr hbefore
      · have hlater := hnext b hb
        exact Or.inr (by omega)
    · exact hskip hfound

/-! ### The operations -/

theorem collectLiveSorted_perm (m : AimuMem) : m.collectLiveSorted.Perm m.live := List.perm_insertionSort _ _

/-- Sorted by base address, the live allocations lie one after the other. -/
theorem WellFormed.ordered (h : WellFormed m) : m.collectLiveSorted.Pairwise fun a b => a.hi ≤ b.lo := by
  have htotal : Std.Total fun a b : MemAlloc => a.baseAddress ≤ b.baseAddress :=
    ⟨fun a b => UInt64.le_total a.baseAddress b.baseAddress⟩
  have htrans : IsTrans MemAlloc fun a b => a.baseAddress ≤ b.baseAddress := ⟨fun _ _ _ => UInt64.le_trans⟩
  have hsorted := List.pairwise_insertionSort (fun a b : MemAlloc => a.baseAddress ≤ b.baseAddress) m.live
  exact ordered_of_apart m.collectLiveSorted_perm (hsorted.imp UInt64.le_iff_toNat_le.mp)
    (fun a ha => (h.placed a ha).nonempty) h.apart

/-- What a successful allocation leaves. -/
structure Allocated (m : AimuMem) (r : MemRequest) (addr : UInt64) (m' : AimuMem) : Prop where
  wellFormed : WellFormed m'
  live : m'.live = m.live ++ [m.record r addr]
  capacity : m'.capacityBytes = m.capacityBytes

theorem checkRequest_ok (h : m.checkRequest r = .ok) :
    0 < r.byteSize.toNat ∧ (∃ k, (effectiveAlign r).toNat = 2 ^ k) ∧ m.allocs.length < maxAllocs := by
  unfold checkRequest at h
  simp only at h
  split_ifs at h with hsize hregion hflags hpow hmin hmax hfull hcap
  refine ⟨?_, ?_, by omega⟩
  · have h0 : r.byteSize.toNat ≠ 0 := fun h0 => hsize (UInt64.toNat_inj.mp h0)
    omega
  · obtain ⟨hne, hand⟩ := (Bool.and_eq_true _ _).mp hpow
    have hpos : (1 : UInt64) ≤ effectiveAlign r := by
      have hne' : effectiveAlign r ≠ 0 := by simpa using hne
      have h0 : (effectiveAlign r).toNat ≠ 0 := fun h0 => hne' (UInt64.toNat_inj.mp h0)
      apply UInt64.le_iff_toNat_le.mpr
      show 1 ≤ _
      omega
    exact pow_two_of_mask hpos (of_decide_eq_true hand)

theorem allocRange_cases (h : WellFormed m) (r : MemRequest) :
    (∃ st, m.allocRange r = (m, st, none) ∧ st ≠ .ok) ∨
    (∃ m' addr, m.allocRange r = (m', .ok, some (addr, m.nextId)) ∧ Allocated m r addr m') := by
  unfold allocRange
  by_cases hok : m.checkRequest r = .ok
  · obtain ⟨hsize, ⟨k, hk⟩, hroom⟩ := checkRequest_ok hok
    have hmem : ∀ a ∈ m.collectLiveSorted, a ∈ m.live := fun a ha => m.collectLiveSorted_perm.subset ha
    have hspec := @firstFit_spec m.collectLiveSorted m.capacityBytes r.byteSize (effectiveAlign r) memBase k hk
      h.ordered (fun a ha => h.placed a (hmem a ha)) (fun a _ => Nat.zero_le _)
    rw [hok]
    simp only
    generalize firstFit m.capacityBytes r.byteSize (effectiveAlign r) m.collectLiveSorted memBase = found at hspec ⊢
    by_cases hfound : found = 0xFFFFFFFFFFFFFFFF
    · rw [if_pos hfound]
      exact Or.inl ⟨_, rfl, Status.noConfusion⟩
    · obtain ⟨hdvd, -, hcap, hapart⟩ := hspec hfound
      rw [if_neg hfound]
      have hlive : live { m with nextId := m.nextId + 1, allocs := m.allocs ++ [m.record r found] } =
          m.live ++ [m.record r found] := List.filter_append ..
      have hplaced : Placed m.capacityBytes (m.record r found) :=
        ⟨Nat.lt_add_of_pos_right hsize, hcap, hdvd⟩
      refine Or.inr ⟨_, found, rfl, ⟨?_, ?_, ?_, ?_, ?_⟩, hlive, rfl⟩
      · rw [List.length_append]
        exact hroom
      · have hmax : maxAllocs = 4096 := rfl
        have hnext := h.next
        show (m.nextId + 1).toNat = _
        rw [UInt32.toNat_add, List.length_append, hnext]
        exact Nat.mod_eq_of_lt (by show m.allocs.length + 1 + 1 < _; omega)
      · rw [List.map_append, h.ids, List.length_append]
        have hid : List.map (fun a : MemAlloc => a.allocId.toNat) [m.record r found] = [1 + m.allocs.length] := by
          show [m.nextId.toNat] = _
          rw [h.next, Nat.add_comm]
        rw [hid]
        exact List.range'_1_concat.symm
      · rw [hlive]
        intro a ha
        rcases List.mem_append.mp ha with ha | ha
        · exact h.placed a ha
        · exact List.mem_singleton.mp ha ▸ hplaced
      · rw [hlive]
        refine List.pairwise_append.mpr ⟨h.apart, List.pairwise_singleton _ _, ?_⟩
        intro a ha b hb
        obtain rfl := List.mem_singleton.mp hb
        exact hapart a (m.collectLiveSorted_perm.symm.subset ha)
  · left
    cases hst : m.checkRequest r with
    | ok => exact absurd hst hok
    | _ => exact ⟨_, rfl, Status.noConfusion⟩

/-! ### Freeing -/

/-- Freeing changes no id and adds no live allocation, and a refused free changes nothing. -/
theorem freeLoop_spec (allocId : UInt32) (as : List MemAlloc) :
    (freeLoop allocId as).1.map (fun a => a.allocId.toNat) = as.map (fun a => a.allocId.toNat) ∧
      List.Sublist ((freeLoop allocId as).1.filter MemAlloc.live) (as.filter MemAlloc.live) ∧
      ((freeLoop allocId as).2 ≠ .ok → (freeLoop allocId as).1 = as) := by
  induction as with
  | nil => exact ⟨rfl, List.Sublist.refl _, fun _ => rfl⟩
  | cons a rest ih =>
    obtain ⟨hids, hsub, hsame⟩ := ih
    unfold freeLoop
    by_cases hid : a.allocId = allocId
    · rw [if_pos hid]
      by_cases hlive : a.live = true
      · rw [if_neg (not_not.mpr hlive)]
        refine ⟨rfl, ?_, fun h => absurd rfl h⟩
        rw [List.filter_cons_of_pos hlive]
        exact List.sublist_cons_self _ _
      · rw [if_pos hlive]
        exact ⟨rfl, List.Sublist.refl _, fun _ => rfl⟩
    · rw [if_neg hid]
      refine ⟨congrArg (a.allocId.toNat :: ·) hids, ?_, fun h => congrArg (a :: ·) (hsame h)⟩
      simp only [List.filter_cons]
      split_ifs
      · exact hsub.cons_cons a
      · exact hsub

theorem free_wellFormed (h : WellFormed m) (allocId : UInt32) :
    WellFormed (m.free allocId).1 ∧ ((m.free allocId).2 ≠ .ok → (m.free allocId).1 = m) := by
  obtain ⟨hids, hsub, hsame⟩ := freeLoop_spec allocId m.allocs
  have hlen : (freeLoop allocId m.allocs).1.length = m.allocs.length := by
    simpa using congrArg List.length hids
  unfold free
  split_ifs
  · exact ⟨h, fun _ => rfl⟩
  · refine ⟨⟨hlen ▸ h.count, hlen.symm ▸ h.next, ?_, fun a ha => h.placed a (hsub.subset ha),
      h.apart.sublist hsub⟩, ?_⟩
    · show (freeLoop allocId m.allocs).1.map _ = List.range' 1 (freeLoop allocId m.allocs).1.length
      rw [hids, hlen, h.ids]
    · intro hst
      show { m with allocs := (freeLoop allocId m.allocs).1 } = m
      rw [hsame hst]

theorem WellFormed.nodup (h : WellFormed m) : (m.allocs.map fun a => a.allocId.toNat).Nodup := by
  rw [h.ids]
  exact List.nodup_range' _ 

/-- A free that succeeds takes the allocation with the id out of the live ones. -/
theorem freeLoop_live {allocId : UInt32} {as : List MemAlloc} (hnd : (as.map fun a => a.allocId.toNat).Nodup)
    (hok : (freeLoop allocId as).2 = .ok) :
    (freeLoop allocId as).1.filter MemAlloc.live =
      (as.filter MemAlloc.live).filter fun a => decide (a.allocId ≠ allocId) := by
  induction as with
  | nil => cases hok
  | cons a rest ih =>
    obtain ⟨hnew, hnd⟩ := List.nodup_cons.mp hnd
    unfold freeLoop at hok ⊢
    by_cases hid : a.allocId = allocId
    · rw [if_pos hid] at hok ⊢
      have hrest : (rest.filter MemAlloc.live).filter (fun b => decide (b.allocId ≠ allocId)) =
          rest.filter MemAlloc.live := by
        refine List.filter_eq_self.mpr fun b hb => decide_eq_true ?_
        rintro heq
        refine hnew (List.mem_map.mpr ⟨b, (List.mem_filter.mp hb).1, ?_⟩)
        exact congrArg UInt32.toNat (heq.trans hid.symm)
      by_cases hlive : a.live = true
      · rw [if_neg (not_not.mpr hlive), List.filter_cons_of_pos hlive]
        exact hrest.symm.trans (List.filter_cons_of_neg (by simp [hid])).symm
      · rw [if_pos hlive] at hok
        cases hok
    · rw [if_neg hid] at hok ⊢
      have htail := ih hnd hok
      simp only [List.filter_cons]
      split_ifs
      · rw [htail, List.filter_cons_of_pos (by simp [hid])]
      · exact htail

theorem free_live (h : WellFormed m) {allocId : UInt32} (hok : (m.free allocId).2 = .ok) :
    (m.free allocId).1.live = m.live.filter fun a => decide (a.allocId ≠ allocId) := by
  unfold free at hok ⊢
  split_ifs at hok ⊢
  exact freeLoop_live h.nodup hok

/-! ### The queries -/

theorem containsAddr_iff {addr : UInt64} (h : Placed capacity a) (hlive : a.live = true) :
    containsAddr a addr = true ↔ addr.toNat ∈ a.addresses := by
  have hend := h.toNat_end
  unfold containsAddr
  simp only [hlive, Bool.true_and, Bool.and_eq_true, decide_eq_true_iff, UInt64.le_iff_toNat_le,
    UInt64.lt_iff_toNat_lt, hend]
  rfl

theorem mem_live : a ∈ m.live ↔ a ∈ m.allocs ∧ a.live = true := List.mem_filter

theorem queryByAddress_notFound_iff (h : WellFormed m) (addr : UInt64) :
    m.queryByAddress addr = .error .notFound ↔ ∀ a ∈ m.live, addr.toNat ∉ a.addresses := by
  have hfind : m.queryByAddress addr = .error .notFound ↔ m.allocs.find? (containsAddr · addr) = none := by
    unfold queryByAddress
    cases m.allocs.find? (containsAddr · addr) <;> simp
  rw [hfind, List.find?_eq_none]
  constructor
  · intro hnone a ha haddr
    obtain ⟨hmem, hlive⟩ := mem_live.mp ha
    exact hnone a hmem ((containsAddr_iff (h.placed a ha) hlive).mpr haddr)
  · intro hnone a hmem hcontains
    have hlive : a.live = true := by
      unfold containsAddr at hcontains
      simp only [Bool.and_eq_true] at hcontains
      exact hcontains.1.1
    have ha := mem_live.mpr ⟨hmem, hlive⟩
    exact hnone a ha ((containsAddr_iff (h.placed a ha) hlive).mp hcontains)

theorem queryByAddress_ok_iff (h : WellFormed m) (addr : UInt64) (a : MemAlloc) :
    m.queryByAddress addr = .ok a ↔ a ∈ m.live ∧ addr.toNat ∈ a.addresses := by
  have hsound : ∀ b, m.queryByAddress addr = .ok b → b ∈ m.live ∧ addr.toNat ∈ b.addresses := by
    intro b hb
    unfold queryByAddress at hb
    cases hfind : m.allocs.find? (containsAddr · addr) with
    | none =>
      rw [hfind] at hb
      cases hb
    | some c =>
      rw [hfind] at hb
      obtain rfl : c = b := by simpa using hb
      have hcontains := List.find?_some hfind
      have hlive : c.live = true := by
        unfold containsAddr at hcontains
        simp only [Bool.and_eq_true] at hcontains
        exact hcontains.1.1
      have hc := mem_live.mpr ⟨List.mem_of_find?_eq_some hfind, hlive⟩
      exact ⟨hc, (containsAddr_iff (h.placed c hc) hlive).mp hcontains⟩
  constructor
  · exact hsound a
  · rintro ⟨ha, haddr⟩
    cases hq : m.queryByAddress addr with
    | ok b =>
      obtain ⟨hb, hbaddr⟩ := hsound b hq
      rw [Apart.eq_of_mem h.apart ha hb haddr hbaddr]
    | error st =>
      have hst : st = .notFound := by
        unfold queryByAddress at hq
        cases hfind : m.allocs.find? (containsAddr · addr) with
        | none => simpa [hfind] using hq.symm
        | some c => simp [hfind] at hq
      subst hst
      exact absurd haddr ((queryByAddress_notFound_iff h addr).mp hq a ha)

/-- An empty range is in no allocation. -/
theorem rangeValid_iff (h : WellFormed m) (addr size : UInt64) :
    m.rangeValid addr size = true ↔
      0 < size ∧ ∃ a ∈ m.live, Set.Ico addr.toNat (addr.toNat + size.toNat) ⊆ a.addresses := by
  unfold rangeValid
  by_cases hzero : size = 0
  · rw [if_pos hzero, hzero]
    simp
  have hpos : 0 < size := UInt64.pos_iff_ne_zero.mpr hzero
  have hlt : addr.toNat < addr.toNat + size.toNat := Nat.lt_add_of_pos_right (UInt64.lt_iff_toNat_lt.mp hpos)
  have hmax : (0xFFFFFFFFFFFFFFFF - size).toNat = 2 ^ 64 - 1 - size.toNat :=
    UInt64.toNat_sub_of_le _ _ (UInt64.le_iff_toNat_le.mpr (Nat.le_sub_one_of_lt size.toNat_lt))
  rw [if_neg hzero]
  by_cases hwrap : 0xFFFFFFFFFFFFFFFF - size < addr
  · rw [if_pos hwrap]
    have hbig := UInt64.lt_iff_toNat_lt.mp hwrap
    rw [hmax] at hbig
    have hsize := size.toNat_lt
    refine iff_of_false Bool.false_ne_true ?_
    rintro ⟨-, a, ha, hsub⟩
    have hin := (h.placed a ha).inside
    have hcap := m.capacityBytes.toNat_lt
    have hend := ((Set.Ico_subset_Ico_iff hlt).mp hsub).2
    omega
  · have hsmall := UInt64.le_iff_toNat_le.mp (UInt64.not_lt.mp hwrap)
    rw [hmax] at hsmall
    have hsize := size.toNat_lt
    have hsum : (addr + size).toNat = addr.toNat + size.toNat := by
      rw [UInt64.toNat_add]
      exact Nat.mod_eq_of_lt (by omega)
    rw [if_neg hwrap, List.any_eq_true]
    have hcovers : ∀ a ∈ m.live, decide (a.baseAddress ≤ addr) = true ∧
        decide (addr + size ≤ a.baseAddress + a.byteSize) = true ↔
        Set.Ico addr.toNat (addr.toNat + size.toNat) ⊆ a.addresses := by
      intro a ha
      have hend := (h.placed a ha).toNat_end
      rw [decide_eq_true_iff, decide_eq_true_iff, UInt64.le_iff_toNat_le, UInt64.le_iff_toNat_le, hsum, hend]
      exact (Set.Ico_subset_Ico_iff hlt).symm
    constructor
    · rintro ⟨a, hmem, hall⟩
      simp only [Bool.and_eq_true] at hall
      have ha := mem_live.mpr ⟨hmem, hall.1.1⟩
      exact ⟨hpos, a, ha, (hcovers a ha).mp ⟨hall.1.2, hall.2⟩⟩
    · rintro ⟨-, a, ha, hsub⟩
      obtain ⟨hmem, hlive⟩ := mem_live.mp ha
      obtain ⟨h1, h2⟩ := (hcovers a ha).mpr hsub
      exact ⟨a, hmem, by simp [hlive, h1, h2]⟩

/-! ### Runs -/

/-- The calls that change an allocator. -/
inductive MemOp
  | allocRange (r : MemRequest)
  | free (allocId : UInt32)
  | reset

/-- The state after a call, its status and, for an allocation, the address and the id. -/
def perform (m : AimuMem) : MemOp → AimuMem × Status × Option (UInt64 × UInt32)
  | .allocRange r => m.allocRange r
  | .free allocId => ((m.free allocId).1, (m.free allocId).2, none)
  | .reset => (m.reset, .ok, none)

/-- One call with what it returned. -/
def Step (m : AimuMem) (i : MemOp × Status × Option (UInt64 × UInt32)) (m' : AimuMem) : Prop :=
  m.perform i.1 = (m', i.2)

/-- An allocator without allocations. -/
theorem wellFormed_empty (tileId : UInt32) (capacity : UInt64) : WellFormed ⟨tileId, capacity, 1, []⟩ :=
  ⟨Nat.zero_le _, rfl, rfl, fun a ha => absurd ha List.not_mem_nil, List.Pairwise.nil⟩

/-- A call keeps the invariant and the capacity, and one that fails changes nothing. -/
theorem perform_wellFormed (h : WellFormed m) (op : MemOp) :
    WellFormed (m.perform op).1 ∧ (m.perform op).1.capacityBytes = m.capacityBytes ∧
      ((m.perform op).2.1 ≠ .ok → (m.perform op).1 = m) := by
  cases op with
  | allocRange r =>
    show WellFormed (m.allocRange r).1 ∧ (m.allocRange r).1.capacityBytes = _ ∧
      ((m.allocRange r).2.1 ≠ .ok → (m.allocRange r).1 = m)
    obtain ⟨st, heq, hst⟩ | ⟨m', addr, heq, ha⟩ := allocRange_cases h r
    · rw [heq]
      exact ⟨h, rfl, fun _ => rfl⟩
    · rw [heq]
      exact ⟨ha.wellFormed, ha.capacity, fun hne => absurd rfl hne⟩
  | free allocId =>
    obtain ⟨hw, hsame⟩ := free_wellFormed h allocId
    refine ⟨hw, ?_, hsame⟩
    show (m.free allocId).1.capacityBytes = _
    unfold free
    split_ifs <;> rfl
  | reset => exact ⟨wellFormed_empty _ _, rfl, fun h => absurd rfl h⟩

/-- What holds of an allocator of a tile with `capacity` bytes, and what its queries answer. -/
structure Safe (capacity : UInt64) (m : AimuMem) : Prop where
  disjoint : m.live.Pairwise fun a b => Disjoint a.addresses b.addresses
  inside : ∀ a ∈ m.live, a.lo < a.hi ∧ a.hi ≤ capacity.toNat
  aligned : ∀ a ∈ m.live, a.alignment.toNat ∣ a.lo
  ids : m.live.Pairwise fun a b => a.allocId ≠ b.allocId
  query : ∀ addr a, m.queryByAddress addr = .ok a ↔ a ∈ m.live ∧ addr.toNat ∈ a.addresses
  notFound : ∀ addr, m.queryByAddress addr = .error .notFound ↔ ∀ a ∈ m.live, addr.toNat ∉ a.addresses
  range : ∀ addr size, m.rangeValid addr size = true ↔
    0 < size ∧ ∃ a ∈ m.live, Set.Ico addr.toNat (addr.toNat + size.toNat) ⊆ a.addresses
  allocated : ∀ r m' addr id, m.allocRange r = (m', .ok, some (addr, id)) →
    id = m.nextId ∧ m'.live = m.live ++ [m.record r addr]
  freed : ∀ id, (m.free id).2 = .ok → (m.free id).1.live = m.live.filter fun a => decide (a.allocId ≠ id)
  failed : ∀ op, (m.perform op).2.1 ≠ .ok → (m.perform op).1 = m

theorem WellFormed.safe (h : WellFormed m) : Safe m.capacityBytes m where
  disjoint := h.apart.imp Apart.disjoint
  inside a ha := ⟨(h.placed a ha).nonempty, (h.placed a ha).inside⟩
  aligned a ha := (h.placed a ha).aligned
  ids := by
    have hall : m.allocs.Pairwise fun a b => a.allocId.toNat ≠ b.allocId.toNat := List.pairwise_map.mp h.nodup
    exact (hall.sublist List.filter_sublist).imp fun hne heq => hne (congrArg UInt32.toNat heq)
  query := queryByAddress_ok_iff h
  notFound := queryByAddress_notFound_iff h
  range := rangeValid_iff h
  allocated r m' addr id heq := by
    obtain ⟨st, heq', -⟩ | ⟨m'', addr', heq', ha⟩ := allocRange_cases h r
    · rw [heq'] at heq
      cases heq
    · rw [heq'] at heq
      cases heq
      exact ⟨rfl, ha.live⟩
  freed _ hok := free_live h hok
  failed op := (perform_wellFormed h op).2.2

theorem wellFormed_of_run {host : Host} {tileId : UInt32} {capacity : UInt64} {m₀ m : AimuMem}
    {is : List (MemOp × Status × Option (UInt64 × UInt32))} (hc : create host tileId capacity = .ok m₀)
    (hr : Run Step m₀ is m) : WellFormed m ∧ m.capacityBytes = capacity := by
  have h0 : WellFormed m₀ ∧ m₀.capacityBytes = capacity := by
    unfold create at hc
    split_ifs at hc
    cases hc
    exact ⟨wellFormed_empty tileId capacity, rfl⟩
  let Inv (_ : List (MemOp × Status × Option (UInt64 × UInt32))) (m : AimuMem) : Prop :=
    WellFormed m ∧ m.capacityBytes = capacity
  have hstep : ∀ is m i m', Run Step m₀ is m → Inv is m → Step m i m' → Inv (is ++ [i]) m' := by
    intro is m i m' _ hm hs
    obtain ⟨hw, hcap, -⟩ := perform_wellFormed hm.1 i.1
    rw [show m.perform i.1 = (m', i.2) from hs] at hw hcap
    exact ⟨hw, hcap.trans hm.2⟩
  exact Run.invariant h0 hstep hr

/-- **The tile allocator is safe** in every state that allocations, frees and resets reach. -/
theorem allocator_safe {host : Host} {tileId : UInt32} {capacity : UInt64} {m₀ m : AimuMem}
    {is : List (MemOp × Status × Option (UInt64 × UInt32))} (hc : create host tileId capacity = .ok m₀)
    (hr : Run Step m₀ is m) : Safe capacity m := by
  obtain ⟨hw, rfl⟩ := wellFormed_of_run hc hr
  exact hw.safe

/-- Two allocations, the first of them freed. -/
theorem allocator_safe_hole : ∃ m₀ m : AimuMem, create .generous 0 65536 = .ok m₀ ∧
    Run Step m₀ [(.allocRange { byteSize := 100 }, .ok, some (0, 1)),
      (.allocRange { byteSize := 32, alignment := 64 }, .ok, some (128, 2)), (.free 1, .ok, none)] m ∧
    Safe 65536 m := by
  obtain ⟨m₀, m, hc, hr⟩ : ∃ m₀ m : AimuMem, create .generous 0 65536 = .ok m₀ ∧
      Run Step m₀ [(.allocRange { byteSize := 100 }, .ok, some (0, 1)),
        (.allocRange { byteSize := 32, alignment := 64 }, .ok, some (128, 2)), (.free 1, .ok, none)] m :=
    ⟨_, _, rfl, Run.cons rfl <| Run.cons rfl <| Run.cons rfl Run.nil⟩
  exact ⟨m₀, m, hc, hr, allocator_safe hc hr⟩

/-- The empty range at the start of an allocation lies inside it and is not valid. -/
theorem empty_range_invalid : ∃ m₀ m : AimuMem, create .generous 0 65536 = .ok m₀ ∧
    Run Step m₀ [(.allocRange { byteSize := 256 }, .ok, some (0, 1))] m ∧
    ¬ (m.rangeValid 0 0 = true ↔
      ∃ a ∈ m.live, Set.Ico (0 : UInt64).toNat ((0 : UInt64).toNat + (0 : UInt64).toNat) ⊆ a.addresses) := by
  refine ⟨_, _, rfl, Run.cons rfl Run.nil, ?_⟩
  rintro ⟨-, h⟩
  refine Bool.false_ne_true (h ⟨_, List.mem_cons_self, ?_⟩)
  rintro x ⟨hle, hlt⟩
  exact absurd (lt_of_le_of_lt hle hlt) (by decide)

end AimuMem

end Att1
