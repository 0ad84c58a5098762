import Att1.Aimu.Dma
import Att1.Lib.Runs
import Mathlib.Order.CompletePartialOrder
import Mathlib.Order.Interval.Set.Disjoint
import Mathlib.Tactic.IntervalCases

/-!
# Att1.Aimu.DmaRules — which descriptors the DMA simulator accepts

* `Rules`: the rules that `att1_aimu_dma.h` gives for a descriptor, with the ends of ranges and regions as integers.
* `validate_ok_iff`: a descriptor is accepted if it meets the rules and fits in regions that end below `2^64`
  (`BelowTop`); the sum `base + size` of a region at the top of the address space wraps, and such a region contains no
  transfer.
* `Accounts`: what the counters add up to, in every state of a run.
-/

open Att1.Lib

namespace Att1

/-- The bytes of a region. -/
def DmaRegion.bytes (r : DmaRegion) : Set ℕ := Set.Ico r.base.toNat (r.base.toNat + r.size.toNat)

/-- The bytes of the transfer from `addr` on. -/
def DmaDesc.bytesAt (desc : DmaDesc) (addr : UInt64) : Set ℕ :=
  Set.Ico addr.toNat (addr.toNat + desc.byteLength.toNat)

namespace AimuDma

variable {sim : AimuDma} {desc : DmaDesc} {regions : List DmaRegion} {addr len aBase bBase : UInt64}

/-- The two addresses of a transfer, each with the regions that are registered for it. -/
def ends (sim : AimuDma) (desc : DmaDesc) : List (UInt64 × List DmaRegion) :=
  if desc.direction = 2 then [(desc.srcDeviceAddr, sim.deviceRegions), (desc.dstDeviceAddr, sim.deviceRegions)]
  else [(desc.hostAddr, sim.hostRegions), (desc.deviceAddr, sim.deviceRegions)]

/-- The documented rules. -/
structure Rules (sim : AimuDma) (desc : DmaDesc) : Prop where
  direction : desc.direction.toNat ≤ 2
  length : 1 ≤ desc.byteLength.toNat ∧ desc.byteLength.toNat ≤ 2 ^ 28
  flags : ∀ bit, 4 ≤ bit → desc.flags.toNat.testBit bit = false
  dtype : desc.dtype.toNat ≤ 2
  q4 : desc.dtype = 2 → (desc.quantGroupSize = 32 ∨ desc.quantGroupSize = 64) ∧
    desc.quantGroupSize.toNat / 2 ∣ desc.byteLength.toNat
  aligned : ∀ e ∈ sim.ends desc, 64 ∣ e.1.toNat
  representable : ∀ e ∈ sim.ends desc, e.1.toNat + desc.byteLength.toNat < 2 ^ 64
  inside : ∀ e ∈ sim.ends desc, e.2 ≠ [] → ∃ r ∈ e.2, desc.bytesAt e.1 ⊆ r.bytes
  apart : desc.direction = 2 → Disjoint (desc.bytesAt desc.srcDeviceAddr) (desc.bytesAt desc.dstDeviceAddr)

/-- Where regions are registered, each range is inside one that ends below `2^64`. -/
def BelowTop (sim : AimuDma) (desc : DmaDesc) : Prop :=
  ∀ e ∈ sim.ends desc, e.2 ≠ [] →
    ∃ r ∈ e.2, desc.bytesAt e.1 ⊆ r.bytes ∧ r.base.toNat + r.size.toNat < 2 ^ 64

/-! ### Ranges -/

/-- `x + y < x` is the test for a wrap. -/
theorem add_lt_self_iff (x y : UInt64) : x + y < x ↔ 2 ^ 64 ≤ x.toNat + y.toNat := by
  have hx := x.toNat_lt
  have hy := y.toNat_lt
  rw [UInt64.lt_iff_toNat_lt, UInt64.toNat_add]
  omega

theorem toNat_add_of_fits {x y : UInt64} (h : x.toNat + y.toNat < 2 ^ 64) : (x + y).toNat = x.toNat + y.toNat := by
  rw [UInt64.toNat_add]
  exact Nat.mod_eq_of_lt h

theorem contains_iff (r : DmaRegion) (hlen : 0 < len.toNat) (hfits : addr.toNat + len.toNat < 2 ^ 64) :
    r.contains addr len = true ↔
      Set.Ico addr.toNat (addr.toNat + len.toNat) ⊆ r.bytes ∧ r.base.toNat + r.size.toNat < 2 ^ 64 := by
  have hzero : len ≠ 0 := by
    rintro rfl
    exact absurd hlen (by decide)
  have hsubset : Set.Ico addr.toNat (addr.toNat + len.toNat) ⊆ r.bytes ↔
      r.base.toNat ≤ addr.toNat ∧ addr.toNat + len.toNat ≤ r.base.toNat + r.size.toNat :=
    Set.Ico_subset_Ico_iff (by omega)
  unfold DmaRegion.contains
  rw [if_neg hzero, if_neg ((add_lt_self_iff addr len).not.mpr (by omega)), hsubset]
  by_cases hbase : addr < r.base
  · rw [if_pos hbase]
    have hbase := UInt64.lt_iff_toNat_lt.mp hbase
    exact iff_of_false Bool.false_ne_true (by omega)
  rw [if_neg hbase]
  have hbase := UInt64.le_iff_toNat_le.mp (UInt64.not_lt.mp hbase)
  by_cases hwrap : r.base + r.size < r.base
  · rw [if_pos hwrap]
    have hwrap := (add_lt_self_iff _ _).mp hwrap
    exact iff_of_false Bool.false_ne_true (by omega)
  rw [if_neg hwrap]
  have hwrap := (add_lt_self_iff _ _).not.mp hwrap
  rw [decide_eq_true_iff, UInt64.le_iff_toNat_le, toNat_add_of_fits hfits, toNat_add_of_fits (by omega)]
  omega

theorem fitsAnyRegion_iff (hlen : 0 < len.toNat) (hfits : addr.toNat + len.toNat < 2 ^ 64) :
    fitsAnyRegion regions addr len = true ↔ (regions ≠ [] → ∃ r ∈ regions,
      Set.Ico addr.toNat (addr.toNat + len.toNat) ⊆ r.bytes ∧ r.base.toNat + r.size.toNat < 2 ^ 64) := by
  have hany : (regions.any fun r => r.contains addr len) = true ↔ ∃ r ∈ regions,
      Set.Ico addr.toNat (addr.toNat + len.toNat) ⊆ r.bytes ∧ r.base.toNat + r.size.toNat < 2 ^ 64 := by
    rw [List.any_eq_true]
    exact exists_congr fun r => and_congr_right fun _ => contains_iff r hlen hfits
  unfold fitsAnyRegion
  rw [Bool.or_eq_true, List.isEmpty_iff, hany, or_iff_not_imp_left]

theorem rangesOverlap_iff (ha : aBase.toNat + len.toNat < 2 ^ 64) (hb : bBase.toNat + len.toNat < 2 ^ 64)
    (hlen : 0 < len.toNat) :
    rangesOverlap aBase len bBase len = false ↔
      Disjoint (Set.Ico aBase.toNat (aBase.toNat + len.toNat)) (Set.Ico bBase.toNat (bBase.toNat + len.toNat)) := by
  have hnowrap : ¬ (aBase + len < aBase ∨ bBase + len < bBase) := by
    rw [add_lt_self_iff, add_lt_self_iff]
    omega
  unfold rangesOverlap
  rw [if_neg hnowrap, Set.Ico_disjoint_Ico, Bool.not_eq_false', Bool.or_eq_true, decide_eq_true_iff,
    decide_eq_true_iff, UInt64.le_iff_toNat_le, UInt64.le_iff_toNat_le, toNat_add_of_fits ha, toNat_add_of_fits hb]
  omega

/-! ### The fields -/

theorem flags_iff (flags : UInt16) :
    flags &&& ~~~ flagValidMask = 0 ↔ ∀ bit, 4 ≤ bit → flags.toNat.testBit bit = false := by
  have hmask : ∀ bit, 4 ≤ bit → bit < 16 → (~~~ flagValidMask).toNat.testBit bit = true := by
    intro bit hle hlt
    interval_cases bit <;> rfl
  have hlow : ∀ bit, bit < 4 → (~~~ flagValidMask).toNat.testBit bit = false := by
    intro bit hlt
    interval_cases bit <;> rfl
  rw [← UInt16.toNat_inj, UInt16.toNat_and]
  constructor
  · intro h bit hle
    have hbit := congrArg (fun n => Nat.testBit n bit) h
    simp only [Nat.testBit_and] at hbit
    by_cases hlt : bit < 16
    · rw [hmask bit hle hlt, Bool.and_true] at hbit
      exact hbit.trans (Nat.zero_testBit bit)
    · exact Nat.testBit_lt_two_pow (flags.toNat_lt.trans_le (Nat.pow_le_pow_right (by omega) (by omega)))
  · intro h
    refine Nat.eq_of_testBit_eq fun bit => ?_
    rw [Nat.testBit_and]
    rcases lt_or_ge bit 4 with hlt | hle
    · rw [hlow bit hlt, Bool.and_false]
      exact (Nat.zero_testBit bit).symm
    · rw [h bit hle, Bool.false_and]
      exact (Nat.zero_testBit bit).symm

theorem q4Misaligned_iff : q4Misaligned desc = false ↔
    (desc.dtype = 2 → (desc.quantGroupSize = 32 ∨ desc.quantGroupSize = 64) ∧
      desc.quantGroupSize.toNat / 2 ∣ desc.byteLength.toNat) := by
  have hgroup : ∀ groupBytes : UInt32, desc.byteLength % groupBytes = 0 ↔ groupBytes.toNat ∣ desc.byteLength.toNat := by
    intro groupBytes
    rw [← UInt32.toNat_inj, UInt32.toNat_mod]
    exact Nat.dvd_iff_mod_eq_zero.symm
  unfold q4Misaligned
  by_cases hdtype : desc.dtype = 2
  · by_cases h32 : desc.quantGroupSize = 32
    · simpa [hdtype, h32] using hgroup 16
    · by_cases h64 : desc.quantGroupSize = 64
      · simpa [hdtype, h64] using hgroup 32
      · simp [hdtype, h32, h64]
  · simp [hdtype]

/-! ### Acceptance -/

theorem refuse_iff {c : Prop} [Decidable c] {e r : DmaResult} (he : e ≠ .valid) :
    (if c then e else r) = .valid ↔ ¬ c ∧ r = .valid := by
  by_cases h : c
  · rw [if_pos h]
    exact iff_of_false he fun hr => hr.1 h
  · rw [if_neg h]
    exact (and_iff_right h).symm

theorem mod_64_iff (addr : UInt64) : ¬ addr % 64 ≠ 0 ↔ 64 ∣ addr.toNat := by
  rw [not_not, ← UInt64.toNat_inj, UInt64.toNat_mod]
  exact Nat.dvd_iff_mod_eq_zero.symm

/-- The range from `addr` on is aligned, does not wrap and fits in the regions. -/
def EndOk (desc : DmaDesc) (addr : UInt64) (regions : List DmaRegion) : Prop :=
  64 ∣ addr.toNat ∧ addr.toNat + desc.byteLength.toNat < 2 ^ 64 ∧
    (regions ≠ [] → ∃ r ∈ regions, desc.bytesAt addr ⊆ r.bytes ∧ r.base.toNat + r.size.toNat < 2 ^ 64)

theorem endOk_iff (hlen : 0 < desc.byteLength.toNat) :
    EndOk desc addr regions ↔ ¬ addr % 64 ≠ 0 ∧ ¬ addr + desc.byteLength.toUInt64 < addr ∧
      ¬ ¬ fitsAnyRegion regions addr desc.byteLength.toUInt64 = true := by
  rw [mod_64_iff, add_lt_self_iff, not_le, not_not]
  exact and_congr_right fun _ => and_congr_right fun hfits =>
    (@fitsAnyRegion_iff regions addr desc.byteLength.toUInt64 hlen hfits).symm

/-- The address checks of either kind of transfer. -/
theorem transfer_valid_iff (hlen : 0 < desc.byteLength.toNat) :
    (if desc.direction = 2 then sim.validateDeviceTransfer desc else sim.validateHostTransfer desc) = .valid ↔
      (∀ e ∈ sim.ends desc, EndOk desc e.1 e.2) ∧
        (desc.direction = 2 → Disjoint (desc.bytesAt desc.srcDeviceAddr) (desc.bytesAt desc.dstDeviceAddr)) := by
  unfold ends
  by_cases hdir : desc.direction = 2
  · have hoverlap (hsrc : EndOk desc desc.srcDeviceAddr sim.deviceRegions)
        (hdst : EndOk desc desc.dstDeviceAddr sim.deviceRegions) :
        Disjoint (desc.bytesAt desc.srcDeviceAddr) (desc.bytesAt desc.dstDeviceAddr) ↔
          ¬ rangesOverlap desc.srcDeviceAddr desc.byteLength.toUInt64 desc.dstDeviceAddr desc.byteLength.toUInt64 =
            true := by
      rw [Bool.not_eq_true]
      exact (@rangesOverlap_iff desc.byteLength.toUInt64 desc.srcDeviceAddr desc.dstDeviceAddr hsrc.2.1 hdst.2.1
        hlen).symm
    rw [if_pos hdir, if_pos hdir, imp_iff_right hdir, List.forall_mem_cons, List.forall_mem_singleton, and_assoc,
      and_congr_right fun hsrc => and_congr_right fun hdst => hoverlap hsrc hdst]
    unfold validateDeviceTransfer
    simp (disch := decide) only [refuse_iff, endOk_iff hlen]
    tauto
  · rw [if_neg hdir, if_neg hdir, List.forall_mem_cons, List.forall_mem_singleton]
    unfold validateHostTransfer
    simp (disch := decide) only [refuse_iff, endOk_iff hlen]
    tauto

theorem validate_ok_iff_valid : sim.validate desc = .ok ↔ sim.validateDesc desc = .valid := by
  unfold validate
  split_ifs with h
  · exact iff_of_true rfl h
  · exact iff_of_false (by decide) h

/-- A descriptor is accepted if it meets the rules and each range is inside a region that ends below `2^64`. -/
theorem validate_ok_iff : sim.validate desc = .ok ↔ Rules sim desc ∧ BelowTop sim desc := by
  have hlength : ¬ (desc.byteLength = 0 ∨ maxTransferBytes < desc.byteLength) ↔
      1 ≤ desc.byteLength.toNat ∧ desc.byteLength.toNat ≤ 2 ^ 28 := by
    rw [not_or, UInt32.not_lt, UInt32.le_iff_toNat_le, ← UInt32.toNat_inj]
    exact and_congr_left' Nat.one_le_iff_ne_zero.symm
  have hsmall : ∀ x : UInt8, ¬ 2 < x ↔ x.toNat ≤ 2 := fun x => UInt8.not_lt.trans UInt8.le_iff_toNat_le
  rw [validate_ok_iff_valid]
  unfold validateDesc
  simp (disch := decide) only [refuse_iff, hlength, hsmall, not_not, flags_iff, Bool.not_eq_true, q4Misaligned_iff]
  constructor
  · rintro ⟨hdirection, hlen, hflags, hdtype, hq4, haddr⟩
    obtain ⟨hends, hapart⟩ := (transfer_valid_iff hlen.1).mp haddr
    have hbelow : BelowTop sim desc := fun e he => (hends e he).2.2
    have hinside : ∀ e ∈ sim.ends desc, e.2 ≠ [] → ∃ r ∈ e.2, desc.bytesAt e.1 ⊆ r.bytes := by
      intro e he hne
      obtain ⟨r, hr, hin, -⟩ := hbelow e he hne
      exact ⟨r, hr, hin⟩
    exact ⟨⟨hdirection, hlen, hflags, hdtype, hq4, fun e he => (hends e he).1, fun e he => (hends e he).2.1, hinside,
      hapart⟩, hbelow⟩
  · rintro ⟨h, hbelow⟩
    refine ⟨h.direction, h.length, h.flags, h.dtype, h.q4, (transfer_valid_iff h.length.1).mpr ⟨?_, h.apart⟩⟩
    intro e he
    exact ⟨h.aligned e he, h.representable e he, hbelow e he⟩

/-! ### Runs -/

/-- The calls that change the simulator. -/
inductive DmaCall
  | registerHostRegion (base size : UInt64)
  | registerDeviceRegion (base size : UInt64)
  | submit (desc : DmaDesc)
  | resetCounters
  deriving DecidableEq, Repr

def perform (sim : AimuDma) : DmaCall → AimuDma × Status
  | .registerHostRegion base size => sim.registerHostRegion base size
  | .registerDeviceRegion base size => sim.registerDeviceRegion base size
  | .submit desc => sim.submit desc
  | .resetCounters => (sim.resetCounters, .ok)

/-- A call together with what it returns. -/
def Step (sim : AimuDma) (i : DmaCall × Status) (sim' : AimuDma) : Prop := sim.perform i.1 = (sim', i.2)

/-- The descriptors submitted since the counters were reset, each with the answer, after one more call. -/
def record (ds : List (DmaDesc × Status)) : DmaCall × Status → List (DmaDesc × Status)
  | (.submit desc, st) => ds ++ [(desc, st)]
  | (.resetCounters, _) => []
  | _ => ds

/-- The descriptors submitted since the counters were reset, each with the answer. -/
def submits (is : List (DmaCall × Status)) : List (DmaDesc × Status) := is.foldl record []

/-- The number of bytes of the accepted transfers of a direction. -/
def bytesAccepted (direction : UInt8) (ds : List (DmaDesc × Status)) : ℕ :=
  ((ds.filter fun d => d.2 = .ok ∧ d.1.direction = direction).map fun d => d.1.byteLength.toNat).sum

/-- The counters add up to the submitted descriptors; each counts modulo `2^64`. -/
structure Tally (ds : List (DmaDesc × Status)) (c : DmaCounters) : Prop where
  submitted : c.dmaSubmitted.toNat = ds.length % 2 ^ 64
  completed : c.dmaCompleted.toNat = (ds.countP fun d => d.2 = .ok) % 2 ^ 64
  failed : c.dmaFailed.toNat = (ds.countP fun d => d.2 ≠ .ok) % 2 ^ 64
  hostToDevice : c.bytesHostToDevice.toNat = bytesAccepted 0 ds % 2 ^ 64
  deviceToHost : c.bytesDeviceToHost.toNat = bytesAccepted 1 ds % 2 ^ 64
  deviceToDevice : c.bytesDeviceToDevice.toNat = bytesAccepted 2 ds % 2 ^ 64
  failures : c.alignmentFailures.toNat + c.rangeFailures.toNat + c.unsupportedFlags.toNat ≤
    ds.countP fun d => d.2 ≠ .ok

theorem toNat_add_mod_self {c x : UInt64} {n : ℕ} (hc : c.toNat = n % 2 ^ 64) :
    (c + x).toNat = (n + x.toNat) % 2 ^ 64 := by
  rw [UInt64.toNat_add, hc, Nat.mod_add_mod]

theorem toNat_succ_le (c : UInt64) : (c + 1).toNat ≤ c.toNat + 1 := by
  rw [UInt64.toNat_add]
  exact Nat.mod_le _ _

theorem bytesAccepted_snoc (direction : UInt8) (ds : List (DmaDesc × Status)) (d : DmaDesc × Status) :
    bytesAccepted direction (ds ++ [d]) = bytesAccepted direction ds +
      if d.2 = .ok ∧ d.1.direction = direction then d.1.byteLength.toNat else 0 := by
  unfold bytesAccepted
  rw [List.filter_append, List.map_append, List.sum_append]
  by_cases h : d.2 = .ok ∧ d.1.direction = direction
  · simp [h]
  · rw [if_neg h, List.filter_singleton]
    simp [h]

theorem tally_nil : Tally [] {} := ⟨rfl, rfl, rfl, rfl, rfl, rfl, le_rfl⟩

/-- A sum modulo `2^64` that grows in one of several places. -/
theorem toNat_add_ite_mod {c x : UInt64} {n : ℕ} (p : Prop) [Decidable p] (hc : c.toNat = n % 2 ^ 64) :
    (if p then c + x else c).toNat = (n + if p then x.toNat else 0) % 2 ^ 64 := by
  split_ifs
  · exact toNat_add_mod_self hc
  · exact hc

theorem countTransfer_eq (desc : DmaDesc) (c : DmaCounters) (hdir : desc.direction.toNat ≤ 2) :
    countTransfer desc c = { c with
      dmaCompleted := c.dmaCompleted + 1
      bytesHostToDevice :=
        if desc.direction = 0 then c.bytesHostToDevice + desc.byteLength.toUInt64 else c.bytesHostToDevice
      bytesDeviceToHost :=
        if desc.direction = 1 then c.bytesDeviceToHost + desc.byteLength.toUInt64 else c.bytesDeviceToHost
      bytesDeviceToDevice :=
        if desc.direction = 2 then c.bytesDeviceToDevice + desc.byteLength.toUInt64 else c.bytesDeviceToDevice } := by
  have hcases : desc.direction = 0 ∨ desc.direction = 1 ∨ desc.direction = 2 := by
    simp only [← UInt8.toNat_inj]
    show desc.direction.toNat = 0 ∨ desc.direction.toNat = 1 ∨ desc.direction.toNat = 2
    omega
  unfold countTransfer
  rcases hcases with h | h | h <;> simp [h]

/-- An accepted transfer counts as completed, with its bytes. -/
theorem Tally.transfer {ds : List (DmaDesc × Status)} {c : DmaCounters} (h : Tally ds c)
    (hdir : desc.direction.toNat ≤ 2) :
    Tally (ds ++ [(desc, .ok)]) (countTransfer desc { c with dmaSubmitted := c.dmaSubmitted + 1 }) := by
  have hbytes : ∀ direction, bytesAccepted direction (ds ++ [(desc, .ok)]) =
      bytesAccepted direction ds + if desc.direction = direction then desc.byteLength.toUInt64.toNat else 0 := by
    intro direction
    rw [bytesAccepted_snoc]
    simp
  have hok : ((ds ++ [(desc, Status.ok)]).countP fun d => d.2 = .ok) = (ds.countP fun d => d.2 = .ok) + 1 := by simp
  have hbad : ((ds ++ [(desc, Status.ok)]).countP fun d => d.2 ≠ .ok) = ds.countP fun d => d.2 ≠ .ok := by simp
  rw [countTransfer_eq _ _ hdir]
  constructor
  · rw [List.length_append]
    exact toNat_add_mod_self h.submitted
  · rw [hok]
    exact toNat_add_mod_self h.completed
  · rw [hbad]
    exact h.failed
  · rw [hbytes]
    exact toNat_add_ite_mod _ h.hostToDevice
  · rw [hbytes]
    exact toNat_add_ite_mod _ h.deviceToHost
  · rw [hbytes]
    exact toNat_add_ite_mod _ h.deviceToDevice
  · rw [hbad]
    exact h.failures

/-- A refused descriptor counts as failed, and at most once as one of the special failures. -/
theorem Tally.failure {ds : List (DmaDesc × Status)} {c : DmaCounters} (h : Tally ds c) (r : DmaResult) :
    Tally (ds ++ [(desc, .invalidArg)]) (countFailure r { c with dmaSubmitted := c.dmaSubmitted + 1 }) := by
  have hbytes : ∀ direction, bytesAccepted direction (ds ++ [(desc, .invalidArg)]) = bytesAccepted direction ds := by
    intro direction
    rw [bytesAccepted_snoc]
    simp
  have hok : ((ds ++ [(desc, Status.invalidArg)]).countP fun d => d.2 = .ok) = ds.countP fun d => d.2 = .ok := by simp
  have hbad : ((ds ++ [(desc, Status.invalidArg)]).countP fun d => d.2 ≠ .ok) = (ds.countP fun d => d.2 ≠ .ok) + 1 := by
    simp
  have hsame : (countFailure r { c with dmaSubmitted := c.dmaSubmitted + 1 }) = { c with
      dmaSubmitted := c.dmaSubmitted + 1
      dmaFailed := c.dmaFailed + 1
      alignmentFailures := (countFailure r { c with dmaSubmitted := c.dmaSubmitted + 1 }).alignmentFailures
      rangeFailures := (countFailure r { c with dmaSubmitted := c.dmaSubmitted + 1 }).rangeFailures
      unsupportedFlags := (countFailure r { c with dmaSubmitted := c.dmaSubmitted + 1 }).unsupportedFlags } := by
    cases r <;> rfl
  have hfailures := h.failures
  have halignment := toNat_succ_le c.alignmentFailures
  have hrange := toNat_succ_le c.rangeFailures
  have hflags := toNat_succ_le c.unsupportedFlags
  constructor
  · rw [hsame, List.length_append]
    exact toNat_add_mod_self h.submitted
  · rw [hsame, hok]
    exact h.completed
  · rw [hsame, hbad]
    exact toNat_add_mod_self h.failed
  · rw [hsame, hbytes]
    exact h.hostToDevice
  · rw [hsame, hbytes]
    exact h.deviceToHost
  · rw [hsame, hbytes]
    exact h.deviceToDevice
  · rw [hbad]
    cases r <;> simp only [countFailure] <;> omega

theorem Tally.submit {ds : List (DmaDesc × Status)} (h : Tally ds sim.counters) (desc : DmaDesc) :
    Tally (ds ++ [(desc, (sim.submit desc).2)]) (sim.submit desc).1.counters := by
  unfold AimuDma.submit
  by_cases hvalid : sim.validateDesc desc = .valid
  · simp only [if_pos hvalid]
    exact h.transfer (validate_ok_iff.mp (validate_ok_iff_valid.mpr hvalid)).1.direction
  · simp only [if_neg hvalid]
    exact h.failure _

@[simp] theorem counters_registerHostRegion (base size : UInt64) :
    (sim.registerHostRegion base size).1.counters = sim.counters := by
  unfold registerHostRegion
  split_ifs <;> rfl

@[simp] theorem counters_registerDeviceRegion (base size : UInt64) :
    (sim.registerDeviceRegion base size).1.counters = sim.counters := by
  unfold registerDeviceRegion
  split_ifs <;> rfl

theorem Tally.perform {ds : List (DmaDesc × Status)} (h : Tally ds sim.counters) (call : DmaCall) :
    Tally (record ds (call, (sim.perform call).2)) (sim.perform call).1.counters := by
  cases call with
  | registerHostRegion base size => simpa [AimuDma.perform, record] using h
  | registerDeviceRegion base size => simpa [AimuDma.perform, record] using h
  | submit desc => exact h.submit desc
  | resetCounters => exact tally_nil

/-- The counters of a simulator add up along every run from its creation. -/
theorem tally_of_run {is : List (DmaCall × Status)} (hr : Run Step {} is sim) : Tally (submits is) sim.counters := by
  let Inv (is : List (DmaCall × Status)) (sim : AimuDma) : Prop := Tally (submits is) sim.counters
  have hstep : ∀ is sim i sim', Run Step {} is sim → Inv is sim → Step sim i sim' → Inv (is ++ [i]) sim' := by
    intro is sim i sim' _ h hs
    have hnext := Tally.perform h i.1
    rw [show sim.perform i.1 = (sim', i.2) from hs] at hnext
    show Tally (submits (is ++ [i])) sim'.counters
    unfold submits
    rw [List.foldl_append]
    exact hnext
  have h0 : Inv [] {} := tally_nil
  exact @Run.invariant _ _ Step {} _ _ Inv h0 hstep hr

/-- What the counters say about the descriptors that were submitted. -/
structure Accounts (ds : List (DmaDesc × Status)) (c : DmaCounters) : Prop where
  submitted : c.dmaSubmitted.toNat = ds.length % 2 ^ 64
  completed : c.dmaCompleted.toNat = (ds.countP fun d => d.2 = .ok) % 2 ^ 64
  balance : c.dmaSubmitted = c.dmaCompleted + c.dmaFailed
  hostToDevice : c.bytesHostToDevice.toNat = bytesAccepted 0 ds % 2 ^ 64
  deviceToHost : c.bytesDeviceToHost.toNat = bytesAccepted 1 ds % 2 ^ 64
  deviceToDevice : c.bytesDeviceToDevice.toNat = bytesAccepted 2 ds % 2 ^ 64
  failures : ds.length < 2 ^ 64 →
    c.alignmentFailures.toNat + c.rangeFailures.toNat + c.unsupportedFlags.toNat ≤ c.dmaFailed.toNat

theorem Tally.accounts {ds : List (DmaDesc × Status)} {c : DmaCounters} (h : Tally ds c) : Accounts ds c := by
  have hsum : (ds.countP fun d => d.2 = .ok) + (ds.countP fun d => d.2 ≠ .ok) = ds.length := by
    rw [List.length_eq_countP_add_countP fun d : DmaDesc × Status => decide (d.2 = .ok)]
    simp
  refine
    { submitted := h.submitted
      completed := h.completed
      balance := ?_
      hostToDevice := h.hostToDevice
      deviceToHost := h.deviceToHost
      deviceToDevice := h.deviceToDevice
      failures := ?_ }
  · rw [← UInt64.toNat_inj, UInt64.toNat_add, h.submitted, h.completed, h.failed, ← hsum]
    exact Nat.add_mod _ _ _
  · intro hlt
    rw [h.failed, Nat.mod_eq_of_lt (by omega)]
    exact h.failures

/-- In every state of a run, a descriptor is accepted exactly if it meets the rules, if and only if it breaks a rule or
each of its ranges is inside a region that ends below `2^64`; and the counters add up. -/
theorem rules_accepted_iff {is : List (DmaCall × Status)} (hr : Run Step {} is sim) :
    (∀ desc, (sim.validate desc = .ok ↔ Rules sim desc) ↔ (Rules sim desc → BelowTop sim desc)) ∧
      Accounts (submits is) sim.counters := by
  refine ⟨fun desc => ?_, (tally_of_run hr).accounts⟩
  rw [validate_ok_iff]
  exact and_iff_left_iff_imp

/-- A host region, a transfer into it and one past its end. -/
theorem rules_accepted_iff_page : ∃ sim, Run Step {} [(.registerHostRegion 0 4096, .ok),
      (.submit { byteLength := 64 }, .ok), (.submit { hostAddr := 4096, byteLength := 64 }, .invalidArg)] sim ∧
    (∀ desc, (sim.validate desc = .ok ↔ Rules sim desc) ↔ (Rules sim desc → BelowTop sim desc)) ∧
    Accounts [({ byteLength := 64 }, .ok), ({ hostAddr := 4096, byteLength := 64 }, .invalidArg)] sim.counters := by
  obtain ⟨sim, hr⟩ : ∃ sim, Run Step {} [(.registerHostRegion 0 4096, .ok),
      (.submit { byteLength := 64 }, .ok), (.submit { hostAddr := 4096, byteLength := 64 }, .invalidArg)] sim :=
    ⟨_, Run.cons rfl <| Run.cons rfl <| Run.cons rfl Run.nil⟩
  exact ⟨sim, hr, rules_accepted_iff hr⟩

/-- A transfer of 32 bytes at the start of the region `[2^64 - 64, 2^64)`. -/
theorem top_region_refused : ∃ sim, Run Step {} [(.registerHostRegion 0xFFFFFFFFFFFFFFC0 64, .ok)] sim ∧
    sim.validate { hostAddr := 0xFFFFFFFFFFFFFFC0, byteLength := 32 } = .invalidArg ∧
    Rules sim { hostAddr := 0xFFFFFFFFFFFFFFC0, byteLength := 32 } := by
  refine ⟨_, Run.cons rfl Run.nil, rfl, ?_⟩
  refine
    { direction := by decide
      length := by decide
      flags := fun bit _ => Nat.zero_testBit bit
      dtype := by decide
      q4 := by decide
      aligned := by decide
      representable := by decide
      inside := ?_
      apart := fun h => absurd h (by decide) }
  have hhost : Set.Ico 0xFFFFFFFFFFFFFFC0 (0xFFFFFFFFFFFFFFC0 + 32) ⊆
      Set.Ico 0xFFFFFFFFFFFFFFC0 (0xFFFFFFFFFFFFFFC0 + 64) := Set.Ico_subset_Ico_right (by omega)
  intro e he hne
  rcases List.mem_cons.mp he with rfl | he
  · exact ⟨⟨0xFFFFFFFFFFFFFFC0, 64⟩, List.mem_cons_self, hhost⟩
  · rw [List.mem_singleton.mp he] at hne
    exact absurd rfl hne

end AimuDma

end Att1
