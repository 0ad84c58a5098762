import Att1.Aimu.MemSafe

/-!
# Att1.Aimu.MemFit — when the tile allocator finds room

* `alignUp_cases`: the aligned address that the scan tries first in a gap, also where the rounding wraps around.
* `firstFit_le`: the scan misses no place; `allocRange_firstFit`: a valid request gets the lowest one.
* `limit_counts_live_iff`: the histories in which only a table of live allocations is full.
-/

open Att1.Lib

namespace Att1

namespace AimuMem

variable {m m' : AimuMem} {a b : MemAlloc} {sorted : List MemAlloc} {r : MemRequest}
  {capacity byteSize alignment searchStart addr : UInt64} {k : ℕ}

/-! ### Rounding -/

/-- Rounding up finds the least multiple of the alignment, or wraps around where there is none below `2^64`. -/
theorem alignUp_cases (halign : alignment.toNat = 2 ^ k) :
    (alignUp addr alignment < addr ∧ ∀ x, alignment.toNat ∣ x → addr.toNat ≤ x → 2 ^ 64 ≤ x) ∨
    (addr ≤ alignUp addr alignment ∧ ∀ x, alignment.toNat ∣ x → addr.toNat ≤ x → (alignUp addr alignment).toNat ≤ x) := by
  have hpos : 0 < alignment.toNat := halign ▸ Nat.two_pow_pos k
  have hsmall := alignment.toNat_lt
  have hbelow := addr.toNat_lt
  have hround : (alignUp addr alignment).toNat =
      (addr + alignment - 1).toNat - (addr + alignment - 1).toNat % alignment.toNat := toNat_clear_low halign _
  have hsum : (addr + alignment - 1).toNat = (addr.toNat + alignment.toNat - 1) % 2 ^ 64 := by
    have hone : (1 : UInt64).toNat = 1 := rfl
    rw [UInt64.toNat_sub, UInt64.toNat_add, hone]
    omega
  rw [hsum] at hround
  obtain ⟨q, hq⟩ := pow_two_dvd halign
  rw [UInt64.lt_iff_toNat_lt, UInt64.le_iff_toNat_le]
  by_cases hwrap : 2 ^ 64 ≤ addr.toNat + alignment.toNat - 1
  · left
    have hmod : (addr.toNat + alignment.toNat - 1) % 2 ^ 64 = addr.toNat + alignment.toNat - 1 - 2 ^ 64 := by omega
    rw [hmod, Nat.mod_eq_of_lt (by omega), Nat.sub_self] at hround
    refine ⟨by omega, ?_⟩
    rintro x ⟨c, rfl⟩ hx
    by_contra hlt
    -- a multiple below `2^64` is a whole alignment below it
    have hc : c < q := Nat.lt_of_mul_lt_mul_left (by omega : alignment.toNat * c < alignment.toNat * q)
    have hle : alignment.toNat * (c + 1) ≤ alignment.toNat * q := Nat.mul_le_mul_left _ hc
    rw [Nat.mul_succ] at hle
    omega
  · right
    rw [Nat.mod_eq_of_lt (by omega)] at hround
    have hmod := Nat.mod_lt (addr.toNat + alignment.toNat - 1) hpos
    refine ⟨by omega, ?_⟩
    rintro x ⟨c, rfl⟩ hx
    by_contra hlt
    have hdiv := Nat.div_add_mod (addr.toNat + alignment.toNat - 1) alignment.toNat
    have hc : c < (addr.toNat + alignment.toNat - 1) / alignment.toNat :=
      Nat.lt_of_mul_lt_mul_left (by omega : alignment.toNat * c < alignment.toNat * _)
    have hle := Nat.mul_le_mul_left alignment.toNat hc
    rw [Nat.succ_eq_add_one, Nat.mul_succ] at hle
    omega

/-! ### The scan -/

/-- The request fits at an address between allocations. -/
structure FitsBetween (capacity byteSize alignment : UInt64) (allocs : List MemAlloc) (x : ℕ) : Prop where
  aligned : alignment.toNat ∣ x
  inside : x + byteSize.toNat ≤ capacity.toNat
  apart : ∀ a ∈ allocs, a.hi ≤ x ∨ x + byteSize.toNat ≤ a.lo

/-- The scan finds a place that is no higher than any. -/
theorem firstFit_le (halign : alignment.toNat = 2 ^ k) (hsize : 0 < byteSize.toNat)
    (hplaced : ∀ a ∈ sorted, Placed capacity a) {x : ℕ} (hx : FitsBetween capacity byteSize alignment sorted x)
    (hstart : searchStart.toNat ≤ x) :
    firstFit capacity byteSize alignment sorted searchStart ≠ 0xFFFFFFFFFFFFFFFF ∧
      (firstFit capacity byteSize alignment sorted searchStart).toNat ≤ x := by
  have hin := hx.inside
  have hcap := capacity.toNat_lt
  -- a place as low as `x` is not the mark of a failed scan
  have hfound : ∀ found : UInt64, found.toNat ≤ x → found ≠ 0xFFFFFFFFFFFFFFFF ∧ found.toNat ≤ x := by
    intro found hle
    refine ⟨?_, hle⟩
    rintro rfl
    have hmax : (0xFFFFFFFFFFFFFFFF : UInt64).toNat = 2 ^ 64 - 1 := rfl
    omega
  induction sorted generalizing searchStart with
  | nil =>
    obtain ⟨-, hnone⟩ | ⟨hge, hleast⟩ := @alignUp_cases alignment searchStart k halign
    · have hbig := hnone x hx.aligned hstart
      omega
    · have hle := hleast x hx.aligned hstart
      have hroom : alignUp searchStart alignment ≤ capacity := UInt64.le_iff_toNat_le.mpr (by omega)
      have hfits : byteSize ≤ capacity - alignUp searchStart alignment := by
        rw [UInt64.le_iff_toNat_le, UInt64.toNat_sub_of_le _ _ hroom]
        omega
      unfold firstFit
      simp only
      rw [if_neg (UInt64.not_lt.mpr hge), if_neg (UInt64.not_lt.mpr hroom), if_pos hfits]
      exact hfound _ hle
  | cons a rest ih =>
    have hrest : a.hi ≤ x → firstFit capacity byteSize alignment rest (a.baseAddress + a.byteSize) ≠ 0xFFFFFFFFFFFFFFFF ∧
        (firstFit capacity byteSize alignment rest (a.baseAddress + a.byteSize)).toNat ≤ x := by
      intro hhi
      refine ih (fun b hb => hplaced b (List.mem_cons_of_mem a hb))
        ⟨hx.aligned, hin, fun b hb => hx.apart b (List.mem_cons_of_mem a hb)⟩ ?_
      rw [(hplaced a List.mem_cons_self).toNat_end]
      exact hhi
    have hbase : a.baseAddress.toNat = a.lo := rfl
    obtain ⟨-, hnone⟩ | ⟨hge, hleast⟩ := @alignUp_cases alignment searchStart k halign
    · have hbig := hnone x hx.aligned hstart
      omega
    · have hle := hleast x hx.aligned hstart
      have hapart := hx.apart a List.mem_cons_self
      unfold firstFit
      simp only
      rw [if_neg (UInt64.not_lt.mpr hge)]
      by_cases hpast : a.baseAddress < alignUp searchStart alignment
      · rw [if_pos hpast]
        have hlt := UInt64.lt_iff_toNat_lt.mp hpast
        exact hrest (by omega)
      · have hroom := UInt64.not_lt.mp hpast
        rw [if_neg hpast]
        by_cases hfits : byteSize ≤ a.baseAddress - alignUp searchStart alignment
        · rw [if_pos hfits]
          exact hfound _ hle
        · rw [if_neg hfits]
          rw [UInt64.le_iff_toNat_le, UInt64.toNat_sub_of_le _ _ hroom] at hfits
          exact hrest (by omega)

/-! ### Requests -/

/-- What `att1_aimu_mem_alloc_range` asks of its arguments. -/
structure ValidRequest (r : MemRequest) : Prop where
  size : r.byteSize ≠ 0
  region : ¬ (r.regionType < 0 ∨ regionCount ≤ r.regionType)
  flags : r.flags &&& ~~~ flagAllKnown = 0
  pow2 : isPow2 (effectiveAlign r) = true
  low : minAlign ≤ effectiveAlign r
  high : effectiveAlign r ≤ maxAlign

/-- A valid request is refused where the table is full or the tile too small. -/
theorem ValidRequest.checkRequest_eq (h : ValidRequest r) (m : AimuMem) :
    m.checkRequest r = if maxAllocs ≤ m.allocs.length then .state else if m.capacityBytes < r.byteSize then .oom else .ok := by
  unfold checkRequest
  simp only
  rw [if_neg h.size, if_neg h.region, if_neg (not_not.mpr h.flags), if_neg (not_not.mpr h.pow2),
    if_neg (UInt64.not_lt.mpr h.low), if_neg (UInt64.not_lt.mpr h.high)]

theorem allocRange_state_iff : (m.allocRange r).2.1 = .state ↔ ValidRequest r ∧ maxAllocs ≤ m.allocs.length := by
  have hcheck : (m.allocRange r).2.1 = .state ↔ m.checkRequest r = .state := by
    unfold allocRange
    cases hst : m.checkRequest r with
    | ok =>
      simp only
      split_ifs
      · simp
      · simp
    | _ => simp
  rw [hcheck]
  constructor
  · intro h
    unfold checkRequest at h
    simp only at h
    split_ifs at h with hsize hregion hflags hpow hmin hmax hfull
    exact ⟨⟨hsize, hregion, not_not.mp hflags, hpow, UInt64.not_lt.mp hmin, UInt64.not_lt.mp hmax⟩, hfull⟩
  · rintro ⟨hvalid, hfull⟩
    rw [hvalid.checkRequest_eq, if_pos hfull]

/-- The bytes of a request at an address are inside the tile, and no live allocation has one of them. -/
structure FitsAt (m : AimuMem) (r : MemRequest) (x : ℕ) : Prop where
  aligned : (effectiveAlign r).toNat ∣ x
  inside : memBase.toNat ≤ x ∧ x + r.byteSize.toNat ≤ m.capacityBytes.toNat
  free : ∀ a ∈ m.live, Disjoint (Set.Ico x (x + r.byteSize.toNat)) a.addresses

theorem fitsAt_iff (h : WellFormed m) (hsize : 0 < r.byteSize.toNat) {x : ℕ} :
    FitsAt m r x ↔ FitsBetween m.capacityBytes r.byteSize (effectiveAlign r) m.collectLiveSorted x := by
  have hfree : (∀ a ∈ m.live, Disjoint (Set.Ico x (x + r.byteSize.toNat)) a.addresses) ↔
      ∀ a ∈ m.collectLiveSorted, a.hi ≤ x ∨ x + r.byteSize.toNat ≤ a.lo := by
    simp only [m.collectLiveSorted_perm.mem_iff]
    refine forall₂_congr fun a ha => ?_
    have hne := (h.placed a ha).nonempty
    rw [MemAlloc.addresses, Set.Ico_disjoint_Ico]
    omega
  constructor
  · intro hx
    exact ⟨hx.aligned, hx.inside.2, hfree.mp hx.free⟩
  · intro hx
    exact ⟨hx.aligned, ⟨Nat.zero_le x, hx.inside⟩, hfree.mpr hx.apart⟩

/-- The result of a valid request, when the table has a record left. -/
theorem WellFormed.allocRange_firstFit (h : WellFormed m) (hroom : m.allocs.length < maxAllocs) (hr : ValidRequest r) :
    ((m.allocRange r).2.1 = .ok ↔ ∃ x, FitsAt m r x) ∧
      ((m.allocRange r).2.1 = .ok →
        ∃ addr, (m.allocRange r).2.2 = some (addr, m.nextId) ∧ IsLeast {x | FitsAt m r x} addr.toNat) := by
  have hsize : 0 < r.byteSize.toNat := by
    have hne : r.byteSize.toNat ≠ 0 := fun h0 => hr.size (UInt64.toNat_inj.mp h0)
    omega
  have hmem : ∀ a ∈ m.collectLiveSorted, a ∈ m.live := fun a ha => m.collectLiveSorted_perm.subset ha
  have hcheck := hr.checkRequest_eq m
  rw [if_neg (by omega)] at hcheck
  by_cases hcap : m.capacityBytes < r.byteSize
  · -- the request is larger than the tile
    rw [if_pos hcap] at hcheck
    have heq : m.allocRange r = (m, .oom, none) := by
      unfold allocRange
      rw [hcheck]
    rw [heq]
    refine ⟨⟨Status.noConfusion, ?_⟩, Status.noConfusion⟩
    rintro ⟨x, hx⟩
    have hlt := UInt64.lt_iff_toNat_lt.mp hcap
    have hin := hx.inside.2
    omega
  · rw [if_neg hcap] at hcheck
    obtain ⟨-, ⟨k, hk⟩, -⟩ := checkRequest_ok hcheck
    have hle := fun (x : ℕ) (hx : FitsAt m r x) => firstFit_le hk hsize
      (fun a ha => h.placed a (hmem a ha)) ((fitsAt_iff h hsize).mp hx) hx.inside.1
    have hspec := @firstFit_spec m.collectLiveSorted m.capacityBytes r.byteSize (effectiveAlign r) memBase k hk
      h.ordered (fun a ha => h.placed a (hmem a ha)) (fun a _ => Nat.zero_le _)
    have heq : m.allocRange r =
        if firstFit m.capacityBytes r.byteSize (effectiveAlign r) m.collectLiveSorted memBase = 0xFFFFFFFFFFFFFFFF then
          (m, .oom, none)
        else
          ({ m with
            nextId := m.nextId + 1,
            allocs := m.allocs ++ [m.record r (firstFit m.capacityBytes r.byteSize (effectiveAlign r)
              m.collectLiveSorted memBase)] }, .ok,
            some (firstFit m.capacityBytes r.byteSize (effectiveAlign r) m.collectLiveSorted memBase, m.nextId)) := by
      unfold allocRange
      rw [hcheck]
    generalize firstFit m.capacityBytes r.byteSize (effectiveAlign r) m.collectLiveSorted memBase = found at *
    by_cases hfound : found = 0xFFFFFFFFFFFFFFFF
    · rw [heq, if_pos hfound]
      refine ⟨⟨Status.noConfusion, ?_⟩, Status.noConfusion⟩
      rintro ⟨x, hx⟩
      exact absurd hfound (hle x hx).1
    · obtain ⟨hdvd, -, hin, hapart⟩ := hspec hfound
      have hfits : FitsAt m r found.toNat := (fitsAt_iff h hsize).mpr ⟨hdvd, hin, hapart⟩
      rw [heq, if_neg hfound]
      exact ⟨⟨fun _ => ⟨_, hfits⟩, fun _ => rfl⟩, fun _ => ⟨found, rfl, hfits, fun x hx => (hle x hx).2⟩⟩

/-- **First fit is complete and lowest**: in every state that calls reach, a valid request for which a record is left
succeeds where it fits at some address, and gets the lowest one. -/
theorem allocRange_lowest {host : Host} {tileId : UInt32} {m₀ : AimuMem}
    {is : List (MemOp × Status × Option (UInt64 × UInt32))} (hc : create host tileId capacity = .ok m₀)
    (hr : Run Step m₀ is m) (hroom : m.allocs.length < maxAllocs) (hvalid : ValidRequest r) :
    ((m.allocRange r).2.1 = .ok ↔ ∃ x, FitsAt m r x) ∧
      ((m.allocRange r).2.1 = .ok →
        ∃ addr id, (m.allocRange r).2.2 = some (addr, id) ∧ IsLeast {x | FitsAt m r x} addr.toNat) := by
  obtain ⟨hiff, hleast⟩ := (wellFormed_of_run hc hr).1.allocRange_firstFit hroom hvalid
  refine ⟨hiff, fun hok => ?_⟩
  obtain ⟨addr, hout, hlow⟩ := hleast hok
  exact ⟨addr, m.nextId, hout, hlow⟩

/-- A tile of `2^64 - 1` bytes with a hole at the start, and a request that is too large for the hole. -/
theorem allocRange_lowest_hole : ∃ m₀ m : AimuMem, create .generous 0 0xFFFFFFFFFFFFFFFF = .ok m₀ ∧
    Run Step m₀ [(.allocRange { byteSize := 100 }, .ok, some (0, 1)),
      (.allocRange { byteSize := 32, alignment := 64 }, .ok, some (128, 2)), (.free 1, .ok, none)] m ∧
    ((m.allocRange { byteSize := 200 }).2.1 = .ok ↔ ∃ x, FitsAt m { byteSize := 200 } x) ∧
    ((m.allocRange { byteSize := 200 }).2.1 = .ok → ∃ addr id, (m.allocRange { byteSize := 200 }).2.2 = some (addr, id) ∧
      IsLeast {x | FitsAt m { byteSize := 200 } x} addr.toNat) := by
  obtain ⟨m₀, m, hc, hr, hlen⟩ : ∃ m₀ m : AimuMem, create .generous 0 0xFFFFFFFFFFFFFFFF = .ok m₀ ∧
      Run Step m₀ [(.allocRange { byteSize := 100 }, .ok, some (0, 1)),
        (.allocRange { byteSize := 32, alignment := 64 }, .ok, some (128, 2)), (.free 1, .ok, none)] m ∧
      m.allocs.length = 2 :=
    ⟨_, _, rfl, Run.cons rfl <| Run.cons rfl <| Run.cons rfl Run.nil, rfl⟩
  refine ⟨m₀, m, hc, hr, allocRange_lowest hc hr ?_ ?_⟩
  · rw [hlen]
    decide
  · exact ⟨by decide, by decide, by decide, by decide, by decide, by decide⟩

/-! ### The table -/

/-- The allocations that a history has made, and those it has freed. -/
def made (is : List (MemOp × Status × Option (UInt64 × UInt32))) : ℕ :=
  is.countP fun i => match i.1 with
    | .allocRange _ => i.2.1 = .ok
    | _ => false

def freed (is : List (MemOp × Status × Option (UInt64 × UInt32))) : ℕ :=
  is.countP fun i => match i.1 with
    | .free _ => i.2.1 = .ok
    | _ => false

theorem length_allocRange (hok : (m.allocRange r).2.1 = .ok) :
    (m.allocRange r).1.allocs.length = m.allocs.length + 1 := by
  unfold allocRange at hok ⊢
  cases hst : m.checkRequest r with
  | ok =>
    rw [hst] at hok
    simp only at hok ⊢
    split_ifs at hok ⊢
    exact List.length_append
  | _ => simp [hst] at hok

theorem length_free (m : AimuMem) (allocId : UInt32) : (m.free allocId).1.allocs.length = m.allocs.length := by
  obtain ⟨hids, -, -⟩ := freeLoop_spec allocId m.allocs
  unfold free
  split_ifs
  · rfl
  · simpa using congrArg List.length hids

/-- A free that succeeds takes one allocation out of the live ones. -/
theorem length_freeLoop_live {allocId : UInt32} {as : List MemAlloc} (hok : (freeLoop allocId as).2 = .ok) :
    ((freeLoop allocId as).1.filter MemAlloc.live).length + 1 = (as.filter MemAlloc.live).length := by
  induction as with
  | nil => cases hok
  | cons a rest ih =>
    unfold freeLoop at hok ⊢
    by_cases hid : a.allocId = allocId
    · rw [if_pos hid] at hok ⊢
      by_cases hlive : a.live = true
      · rw [if_neg (not_not.mpr hlive), List.filter_cons_of_pos hlive]
        rfl
      · rw [if_pos hlive] at hok
        cases hok
    · rw [if_neg hid] at hok ⊢
      have htail := ih hok
      simp only [List.filter_cons]
      split_ifs
      · rw [List.length_cons, List.length_cons, htail]
      · exact htail

theorem length_free_live {allocId : UInt32} (hok : (m.free allocId).2 = .ok) :
    (m.free allocId).1.live.length + 1 = m.live.length := by
  unfold free at hok ⊢
  split_ifs at hok ⊢
  exact length_freeLoop_live hok

/-- Without a reset a record is used for every allocation made, and the live ones are those that were not freed. -/
theorem count_of_run {host : Host} {tileId : UInt32} {m₀ : AimuMem}
    {is : List (MemOp × Status × Option (UInt64 × UInt32))} (hc : create host tileId capacity = .ok m₀)
    (hr : Run Step m₀ is m) (hreset : ∀ i ∈ is, i.1 ≠ .reset) :
    m.allocs.length = made is ∧ m.live.length + freed is = made is := by
  induction hr with
  | nil =>
    unfold create at hc
    split_ifs at hc
    cases hc
    exact ⟨rfl, rfl⟩
  | @snoc is m i m' hr hs ih =>
    obtain ⟨hlength, hlive⟩ := ih fun j hj => hreset j (List.mem_append_left _ hj)
    have hw := (wellFormed_of_run hc hr).1
    obtain ⟨op, st, out⟩ := i
    have hperform : m.perform op = (m', st, out) := hs
    unfold made freed at *
    rw [List.countP_append, List.countP_append, List.countP_singleton, List.countP_singleton]
    cases op with
    | allocRange r =>
      obtain ⟨st', heq, hst⟩ | ⟨m'', addr, heq, ha⟩ := allocRange_cases hw r
      · have hperform' : (m, st', none) = (m', st, out) := heq.symm.trans hperform
        cases hperform'
        simp [hlength, hlive, hst]
      · have hperform' : (m'', Status.ok, some (addr, m.nextId)) = (m', st, out) := heq.symm.trans hperform
        cases hperform'
        have hlen : m'.allocs.length = m.allocs.length + 1 := by
          have hrecord := length_allocRange (m := m) (r := r) (by rw [heq])
          rwa [heq] at hrecord
        simp [hlen, hlength, ha.live]
        omega
    | free allocId =>
      cases hperform
      have hlen := length_free m allocId
      by_cases hok : (m.free allocId).2 = .ok
      · have hfreed := length_free_live hok
        simp [hok, hlen, hlength]
        omega
      · have hsame := (free_wellFormed hw allocId).2 hok
        simp [hok, hsame, hlength, hlive]
    | reset => exact absurd rfl (hreset (.reset, st, out) (by simp))

/-- **The table counts what was ever allocated.**  In a history without resets, every allocation that is refused with
`ATT1_ERR_STATE` is refused for as many live allocations as there are records if and only if no valid allocation is
asked for once all records were used and one of them was freed. -/
theorem limit_counts_live_iff {host : Host} {tileId : UInt32} {m₀ : AimuMem}
    {is : List (MemOp × Status × Option (UInt64 × UInt32))} (hc : create host tileId capacity = .ok m₀)
    (hr : Run Step m₀ is m) (hreset : ∀ i ∈ is, i.1 ≠ .reset) :
    (∀ js r res m', js ++ [(.allocRange r, res)] <+: is → Run Step m₀ js m' → res.1 = .state →
        m'.live.length = maxAllocs) ↔
      ∀ js r res, js ++ [(.allocRange r, res)] <+: is → ValidRequest r → made js < maxAllocs ∨ freed js = 0 := by
  -- what a call of the history finds and returns
  have hcall : ∀ js r res, js ++ [(MemOp.allocRange r, res)] <+: is →
      ∃ m', Run Step m₀ js m' ∧ (res.1 = .state ↔ ValidRequest r ∧ maxAllocs ≤ made js) ∧
        m'.live.length + freed js = made js ∧ made js ≤ maxAllocs := by
    intro js r res hprefix
    obtain ⟨rest, rfl⟩ := hprefix
    obtain ⟨m₁, hcall, -⟩ := hr.append_inv
    obtain ⟨m', hrun, hstep⟩ := hcall.snoc_inv
    have hperform : m'.allocRange r = (m₁, res) := hstep
    have hw := (wellFormed_of_run hc hrun).1
    obtain ⟨hlength, hlive⟩ := count_of_run hc hrun fun i hi =>
      hreset i (List.mem_append_left _ (List.mem_append_left _ hi))
    have hstate : res.1 = .state ↔ ValidRequest r ∧ maxAllocs ≤ m'.allocs.length := by
      rw [← allocRange_state_iff, hperform]
    rw [hlength] at hstate
    exact ⟨m', hrun, hstate, hlive, hlength ▸ hw.count⟩
  constructor
  · intro h js r res hprefix hvalid
    obtain ⟨m', hrun, hstate, hcount, hle⟩ := hcall js r res hprefix
    by_contra hfull
    have hlive := h js r res m' hprefix hrun (hstate.mpr ⟨hvalid, by omega⟩)
    omega
  · intro h js r res m' hprefix hrun hres
    obtain ⟨m'', hrun', hstate, hcount, hle⟩ := hcall js r res hprefix
    have hdet : Deterministic Step := fun _ _ _ _ h₁ h₂ => congrArg Prod.fst (h₁.symm.trans h₂)
    obtain rfl := hrun.det hdet hrun'
    obtain ⟨hvalid, hfull⟩ := hstate.mp hres
    have hleft := h js r res hprefix hvalid
    omega

/-- A history of two allocations and a free. -/
theorem limit_counts_live_iff_hole : ∃ m₀ m : AimuMem, create .generous 0 65536 = .ok m₀ ∧
    Run Step m₀ [(.allocRange { byteSize := 100 }, .ok, some (0, 1)), (.free 1, .ok, none),
      (.allocRange { byteSize := 100 }, .ok, some (0, 2))] m ∧
    ((∀ js r res m', js ++ [(.allocRange r, res)] <+: [(.allocRange { byteSize := 100 }, .ok, some (0, 1)),
        (.free 1, .ok, none), (.allocRange { byteSize := 100 }, .ok, some (0, 2))] → Run Step m₀ js m' →
        res.1 = .state → m'.live.length = maxAllocs) ↔
      ∀ js r res, js ++ [(.allocRange r, res)] <+: [(.allocRange { byteSize := 100 }, .ok, some (0, 1)),
        (.free 1, .ok, none), (.allocRange { byteSize := 100 }, .ok, some (0, 2))] → ValidRequest r →
        made js < maxAllocs ∨ freed js = 0) := by
  obtain ⟨m₀, m, hc, hr⟩ : ∃ m₀ m : AimuMem, create .generous 0 65536 = .ok m₀ ∧
      Run Step m₀ [(.allocRange { byteSize := 100 }, .ok, some (0, 1)), (.free 1, .ok, none),
        (.allocRange { byteSize := 100 }, .ok, some (0, 2))] m :=
    ⟨_, _, rfl, Run.cons rfl <| Run.cons rfl <| Run.cons rfl Run.nil⟩
  exact ⟨m₀, m, hc, hr, limit_counts_live_iff hc hr (by simp)⟩

theorem freeLoop_ok {as : List MemAlloc} (hnd : (as.map fun a => a.allocId.toNat).Nodup) (ha : a ∈ as)
    (hlive : a.live = true) : (freeLoop a.allocId as).2 = .ok := by
  induction as with
  | nil => simp at ha
  | cons b rest ih =>
    obtain ⟨hnew, hnd⟩ := List.nodup_cons.mp hnd
    unfold freeLoop
    rcases List.mem_cons.mp ha with rfl | ha
    · rw [if_pos rfl, if_neg (not_not.mpr hlive)]
    · have hne : b.allocId ≠ a.allocId := by
        intro heq
        exact hnew (List.mem_map.mpr ⟨a, ha, congrArg UInt32.toNat heq.symm⟩)
      rw [if_neg hne]
      exact ih hnd ha

theorem free_ok_of_live (h : WellFormed m) (ha : a ∈ m.live) : (m.free a.allocId).2 = .ok := by
  obtain ⟨hmem, hlive⟩ := mem_live.mp ha
  have hid : a.allocId.toNat ∈ List.range' 1 m.allocs.length := h.ids ▸ List.mem_map_of_mem hmem
  have hcount := h.count
  have hmax : maxAllocs = 4096 := rfl
  rw [List.mem_range'_1] at hid
  have hknown : ¬ (a.allocId = 0 ∨ a.allocId = invalidId) := by
    rintro (heq | heq)
    · rw [heq] at hid
      exact absurd hid.1 (by decide)
    · rw [heq] at hid
      have hbig : invalidId.toNat = 2 ^ 32 - 1 := rfl
      omega
  unfold free
  rw [if_neg hknown]
  exact freeLoop_ok h.nodup hmem hlive

/-- One record is used up by an allocation that is freed at once. -/
theorem exists_run_exhausted {m₀ : AimuMem} (hc : create .generous 0 65536 = .ok m₀) (n : ℕ) (hn : n ≤ maxAllocs) :
    ∃ is m, Run Step m₀ is m ∧ (∀ i ∈ is, i.1 ≠ .reset) ∧ m.allocs.length = n ∧ m.live = [] := by
  have hvalid : ValidRequest { byteSize := 16 } := ⟨by decide, by decide, by decide, by decide, by decide, by decide⟩
  induction n with
  | zero =>
    cases hc
    exact ⟨[], _, Run.nil, by simp, rfl, rfl⟩
  | succ n ih =>
    obtain ⟨is, m, hr, hreset, hlength, hlive⟩ := ih (by omega)
    obtain ⟨hw, hcap⟩ := wellFormed_of_run hc hr
    -- the whole tile is free
    have hfits : FitsAt m { byteSize := 16 } 0 := by
      refine ⟨Nat.dvd_zero _, ⟨Nat.zero_le 0, ?_⟩, ?_⟩
      · rw [hcap]
        decide
      · simp [hlive]
    have hok := ((hw.allocRange_firstFit (by omega) hvalid).1).mpr ⟨0, hfits⟩
    obtain ⟨st, heq, hst⟩ | ⟨m', addr, heq, ha⟩ := allocRange_cases hw { byteSize := 16 }
    · rw [heq] at hok
      exact absurd hok hst
    · have hlength' := length_allocRange hok
      rw [heq] at hlength'
      have hlive' : m'.live = [m.record { byteSize := 16 } addr] := by rw [ha.live, hlive, List.nil_append]
      have hfree : (m'.free m.nextId).2 = .ok := free_ok_of_live ha.wellFormed (hlive' ▸ List.mem_singleton_self _)
      have hnone : (m'.free m.nextId).1.live = [] := by
        rw [free_live ha.wellFormed hfree, hlive', List.filter_singleton]
        simp [record]
      have halloc : Step m (.allocRange { byteSize := 16 }, .ok, some (addr, m.nextId)) m' := heq
      have hrelease : Step m' (.free m.nextId, .ok, none) (m'.free m.nextId).1 := by
        show ((m'.free m.nextId).1, (m'.free m.nextId).2, none) = _
        rw [hfree]
      refine ⟨_, _, (hr.snoc halloc).snoc hrelease, ?_, ?_, hnone⟩
      · intro i hi
        rcases List.mem_append.mp hi with hi | hi
        · rcases List.mem_append.mp hi with hi | hi
          · exact hreset i hi
          · obtain rfl := List.mem_singleton.mp hi
            exact MemOp.noConfusion
        · obtain rfl := List.mem_singleton.mp hi
          exact MemOp.noConfusion
      · rw [length_free, hlength', hlength]

/-- With no allocation live, an allocation is refused because the table is full. -/
theorem limit_counts_freed : ∃ (m₀ m : AimuMem) (is : List (MemOp × Status × Option (UInt64 × UInt32))),
    create .generous 0 65536 = .ok m₀ ∧ Run Step m₀ is m ∧ (∀ i ∈ is, i.1 ≠ .reset) ∧
      (m.allocRange { byteSize := 16 }).2.1 = .state ∧ m.live.length ≠ maxAllocs := by
  obtain ⟨is, m, hr, hreset, hlength, hlive⟩ := exists_run_exhausted rfl maxAllocs le_rfl
  refine ⟨_, m, is, rfl, hr, hreset, ?_, ?_⟩
  · refine allocRange_state_iff.mpr ⟨⟨?_, ?_, ?_, ?_, ?_, ?_⟩, hlength.ge⟩ <;> decide
  · rw [hlive]
    decide

end AimuMem

end Att1
