import Att1.KvMmu.Checks
import Att1.KvMmu.Refine

/-!
# Att1.KvMmu.Range — the bounds of `att1_kv_mmu_copy_range`

The overflow guard of `att1_kv_mmu_validate_range` admits a range whose end is `2^64`, and the sum behind it is then
`0`.  The copy loop writes and counts position by position, so a token missing behind the first is found too late.

* `RangeExact`: the range check decides whether the range is non-empty and inside the store.
* `FailsCleanly`: a copy that fails has written nothing and counted no read.
* `StopsMidway`: the range starts at a token of the stream and ends behind the last.
* `copyRange_exact_iff`: both hold unless the range ends at `2^64` or stops midway.
-/

open Att1.Lib

namespace Att1.KvMmu

variable {F : Type} {m : KvMmu F} {s : FlatStore F} {sid layer head pos start count : ℕ} {outKeys outValues : Bool}

/-- The range check accepts exactly the non-empty ranges inside the store. -/
def RangeExact (m : KvMmu F) (start count : ℕ) : Prop :=
  m.validateRange start count = .ok ↔ 0 < count ∧ start + count ≤ m.config.maxPositions

/-- A copy that fails has written nothing and counted neither a copy nor a read. -/
def FailsCleanly (m : KvMmu F) (sid layer head start count : ℕ) (outKeys outValues : Bool) : Prop :=
  (m.copyRange sid layer head start count outKeys outValues).2.1 ≠ .ok →
    (m.copyRange sid layer head start count outKeys outValues).2.2 = [] ∧
      (m.copyRange sid layer head start count outKeys outValues).1.counters.rangeCopyOps = m.counters.rangeCopyOps ∧
      (m.copyRange sid layer head start count outKeys outValues).1.counters.readOps = m.counters.readOps

/-- A range of a stream of a live session, inside the store, that starts at a token and ends behind the last. -/
def StopsMidway (config : KvMmuConfig) (s : FlatStore F) (sid layer head start count : ℕ) (outKeys outValues : Bool) :
    Prop :=
  (outKeys || outValues) = true ∧ s.live sid = true ∧ layer < config.numLayers ∧ head < config.numHeads ∧
    start < (s.tokens sid layer).length ∧ (s.tokens sid layer).length < start + count ∧
    start + count ≤ config.maxPositions

/-! ### The range check -/

/-- The range check also accepts a range that ends at `2^64`. -/
theorem validateRange_ok (hmax : m.config.maxPositions ≤ sizeMax) (hstart : start ≤ sizeMax)
    (hcount : count ≤ sizeMax) :
    m.validateRange start count = .ok ↔
      0 < count ∧ (start + count ≤ m.config.maxPositions ∨ start + count = sizeMax + 1) := by
  have hwrap : start + count = sizeMax + 1 → sizeT (start + count) = 0 := by
    intro h
    rw [h]
    rfl
  unfold validateRange
  by_cases hzero : count = 0
  · rw [if_pos hzero]
    exact iff_of_false (by simp) (by omega)
  rw [if_neg hzero]
  by_cases hguard : sizeMax - (count - 1) < start
  · rw [if_pos hguard]
    exact iff_of_false (by simp) (by omega)
  rw [if_neg hguard]
  rcases Nat.lt_or_ge sizeMax (start + count) with hover | hfits
  · have hend : start + count = sizeMax + 1 := by omega
    rw [hwrap hend, if_neg (Nat.not_lt_zero _)]
    exact iff_of_true rfl ⟨by omega, Or.inr hend⟩
  · rw [sizeT_eq hfits]
    by_cases hlarge : m.config.maxPositions < start + count
    · rw [if_pos hlarge]
      exact iff_of_false (by simp) (by omega)
    · rw [if_neg hlarge]
      exact iff_of_true rfl ⟨by omega, Or.inl (by omega)⟩

theorem rangeExact_iff (hmax : m.config.maxPositions ≤ sizeMax) (hstart : start ≤ sizeMax)
    (hcount : count ≤ sizeMax) :
    RangeExact m start count ↔ start + count ≠ sizeMax + 1 := by
  unfold RangeExact
  rw [validateRange_ok hmax hstart hcount]
  omega

/-! ### The copy -/

/-- A failed read counts no read. -/
theorem read_failed (h : (m.read sid layer head pos outKeys outValues).2.1 ≠ .ok) :
    (m.read sid layer head pos outKeys outValues).1.counters.rangeCopyOps = m.counters.rangeCopyOps ∧
      (m.read sid layer head pos outKeys outValues).1.counters.readOps = m.counters.readOps := by
  by_cases hcheck : m.readCheck (outKeys || outValues) sid layer head pos = .ok
  · rw [read_checked hcheck] at h ⊢
    unfold readAt lookupExisting at h ⊢
    cases hf : m.findPage sid layer (pos / m.config.pageTokens) with
    | none => exact ⟨rfl, rfl⟩
    | some page =>
      simp only [hf] at h ⊢
      by_cases hpres : (m.pages page).tokenPresent (pos % m.config.pageTokens) = false
      · rw [if_pos hpres]
        exact ⟨rfl, rfl⟩
      · rw [if_neg hpres] at h
        exact absurd rfl h
  · rw [read_refused rfl hcheck]
    exact ⟨rfl, rfl⟩

/-- The first round of a checked copy decides whether anything is written. -/
theorem copyRange_first (hs : Simulates m s) (hstart : start ≤ sizeMax) (hcount : count ≤ sizeMax)
    (hcheck : m.rangeCheck (outKeys || outValues) sid layer head start count = .ok) :
    if start < (s.tokens sid layer).length then
      (m.copyRange sid layer head start count outKeys outValues).2.2 ≠ []
    else FailsCleanly m sid layer head start count outKeys outValues := by
  obtain ⟨hout, hrange, hhead, haddr⟩ := rangeCheck_ok.mp hcheck
  obtain ⟨hlive, hlayer⟩ := (validateAddress_ok hs).mp haddr
  have hmax := (configValid_bounds hs.valid).2.2.2
  obtain ⟨n, rfl⟩ : ∃ n, count = n + 1 :=
    Nat.exists_eq_succ_of_ne_zero ((validateRange_ok hmax hstart hcount).mp hrange).1.ne'
  have hfailed := @read_failed F m sid layer head start outKeys outValues
  obtain ⟨-, hread⟩ := read_spec hs sid layer head start outKeys outValues
  unfold FailsCleanly copyRange
  rw [if_neg (some_pointer hout), hrange]
  simp only
  rw [if_neg (not_le.mpr hhead)]
  unfold copyRangeLoop
  rw [Nat.add_zero, sizeT_eq hstart]
  generalize m.read sid layer head start outKeys outValues = r at hfailed hread
  obtain ⟨m₁, status, slice⟩ := r
  rcases hread with ⟨tok, -, hreadable, -, hres⟩ | ⟨hnot, hst, -⟩
  · -- the first position can be read, and what is read is written
    obtain ⟨rfl, rfl⟩ := Prod.mk.inj hres
    rw [if_pos hreadable.2.2.2]
    simp only [Option.toList_some, List.map_cons, List.map_nil]
    generalize copyRangeLoop sid layer head start outKeys outValues n 1 m₁ = rest
    obtain ⟨m₂, status, writes⟩ := rest
    cases status <;> simp
  · have hbeyond : ¬ start < (s.tokens sid layer).length := by
      intro hlt
      exact hnot ⟨by simpa using hout, hlive, hlayer, hhead, hlt⟩
    rw [if_neg hbeyond]
    cases status with
    | ok => exact absurd rfl hst
    | _ => exact fun h => ⟨rfl, hfailed h⟩

/-- A copy fails cleanly unless it starts at a token of the stream and has to stop behind the last. -/
theorem failsCleanly_iff (hs : Simulates m s) (hstart : start ≤ sizeMax) (hcount : count ≤ sizeMax)
    (hend : start + count ≠ sizeMax + 1) :
    FailsCleanly m sid layer head start count outKeys outValues ↔
      ¬ StopsMidway m.config s sid layer head start count outKeys outValues := by
  have hmax := (configValid_bounds hs.valid).2.2.2
  have hlen := hs.length_le sid layer
  obtain ⟨-, -, hok, -⟩ := copyRange_spec hs sid layer head start count outKeys outValues
  by_cases hcheck : m.rangeCheck (outKeys || outValues) sid layer head start count = .ok
  · have hfirst := copyRange_first hs hstart hcount hcheck
    obtain ⟨hout, hrange, hhead, haddr⟩ := rangeCheck_ok.mp hcheck
    obtain ⟨hlive, hlayer⟩ := (validateAddress_ok hs).mp haddr
    obtain ⟨hpos, hinside⟩ := (validateRange_ok hmax hstart hcount).mp hrange
    constructor
    · rintro hclean ⟨-, -, -, -, hlt, hshort, -⟩
      rw [if_pos hlt] at hfirst
      refine hfirst (hclean fun hst => ?_).1
      have := (hok.mp hst).2.2.2.2.2
      omega
    · intro hnot
      by_cases hlt : start < (s.tokens sid layer).length
      · have hall : start + count ≤ (s.tokens sid layer).length := by
          by_contra hshort
          exact hnot ⟨hout, hlive, hlayer, hhead, hlt, not_le.mp hshort, hinside.resolve_right hend⟩
        have hst := hok.mpr ⟨by simpa using hout, hpos, hlive, hlayer, hhead, hall⟩
        exact fun hne => absurd hst hne
      · rwa [if_neg hlt] at hfirst
  · -- a refused call only counts an error
    have hclean : FailsCleanly m sid layer head start count outKeys outValues := by
      unfold FailsCleanly
      rw [copyRange_refused rfl hcheck]
      exact fun _ => ⟨rfl, rfl, rfl⟩
    refine iff_of_true hclean ?_
    rintro ⟨hout, hlive, hlayer, hhead, hlt, hshort, hle⟩
    exact hcheck (rangeCheck_ok.mpr ⟨hout, (validateRange_ok hmax hstart hcount).mpr ⟨by omega, Or.inl hle⟩, hhead,
      (validateAddress_ok hs).mpr ⟨hlive, hlayer⟩⟩)

/-- **The bounds of a range copy.**  In every state a run of calls reaches and for all 64-bit starts and counts, the
range check is exact and a failing copy leaves no trace, unless the range ends at `2^64` or stops midway in a
stream. -/
theorem copyRange_exact_iff [Zero F] {host : Host} {config : KvMmuConfig} {m₀ m : KvMmu F} {es : List (KvEvent F)}
    (hc : create host config = .ok m₀) (hr : Run Step m₀ es m) (sid layer head start count : ℕ)
    (outKeys outValues : Bool) (hstart : start ≤ sizeMax) (hcount : count ≤ sizeMax) :
    (RangeExact m start count ∧ FailsCleanly m sid layer head start count outKeys outValues) ↔
      start + count ≠ sizeMax + 1 ∧
        ¬ StopsMidway config (flatStore config es) sid layer head start count outKeys outValues := by
  obtain ⟨rfl, hs, -⟩ := run_inv hc hr
  rw [rangeExact_iff (configValid_bounds hs.valid).2.2.2 hstart hcount]
  constructor
  · rintro ⟨hend, hclean⟩
    exact ⟨hend, (failsCleanly_iff hs hstart hcount hend).mp hclean⟩
  · rintro ⟨hend, hnot⟩
    exact ⟨hend, (failsCleanly_iff hs hstart hcount hend).mpr hnot⟩

/-- A session with one token in a page for four. -/
def oneToken : List (KvEvent ℕ) :=
  [ ⟨.createSession 7, { status := .ok }⟩,
    ⟨.append .generous 7 0 0 (some fun _ => 10) (some fun _ => 20), { status := .ok }⟩ ]

/-- A range that ends at `2^64` passes the check, and a copy of two positions hands out the one token and fails. -/
theorem copyRange_not_exact : ∃ m₀ m, create .generous ⟨1, 1, 1, 1, 1, 4, 4⟩ = .ok m₀ ∧ Run Step m₀ oneToken m ∧
    m.validateRange sizeMax 1 = .ok ∧ ¬ RangeExact m sizeMax 1 ∧
    (m.copyRange 7 0 0 0 2 true true).2 = (.notFound, [⟨0, ⟨some [10], some [20]⟩⟩]) ∧
    ¬ FailsCleanly m 7 0 0 0 2 true true := by
  refine ⟨_, _, rfl, Run.cons (step_perform _ _) (Run.cons (step_perform _ _) Run.nil), by decide, ?_, by decide, ?_⟩
  · exact fun h => absurd (h.mp (by decide)).2 (by decide)
  · exact fun h => absurd (h (by decide)).1 (by decide)

theorem copyRange_exact_oneToken : ∃ m₀ m, create .generous ⟨1, 1, 1, 1, 1, 4, 4⟩ = .ok m₀ ∧
    Run Step m₀ oneToken m ∧ RangeExact m 0 1 ∧ FailsCleanly m 7 0 0 0 1 true true := by
  obtain ⟨m₀, m, hc, hr⟩ : ∃ m₀ m, create .generous ⟨1, 1, 1, 1, 1, 4, 4⟩ = .ok m₀ ∧ Run Step m₀ oneToken m :=
    ⟨_, _, rfl, Run.cons (step_perform _ _) (Run.cons (step_perform _ _) Run.nil)⟩
  refine ⟨m₀, m, hc, hr, (copyRange_exact_iff hc hr 7 0 0 0 1 true true (Nat.zero_le _) (by decide)).mpr ?_⟩
  refine ⟨by decide, ?_⟩
  rintro ⟨-, -, -, -, -, hshort, -⟩
  exact absurd hshort (by decide)

end Att1.KvMmu
