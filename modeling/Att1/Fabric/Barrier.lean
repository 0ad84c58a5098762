import Mathlib.Data.Finset.Range
import Att1.Fabric.Fifo
import Att1.Lib.Rendezvous

/-!
# Att1.Fabric.Barrier — generations of the fabric barrier

A generation begins with the first call that brings a usable participant list while no generation is under way,
and ends when all its members have arrived.  It is read off the history (`generation`), from nothing but the
arguments and the statuses of the calls.

* `participantSet`: the set a participant list names, when it is one.
* `BarrierIs`: what the barrier arrays hold in each generation.
* `barrierArrive_spec`: one call, in the terms of the generation it belongs to.
* `barrier_safe`: every call of every run counts and completes as the generation says.
-/

open Att1.Lib

namespace Att1.Fabric

/-- A call of `att1_fabric_barrier_arrive`, with the allocator it met and what it returned. -/
structure BarrierCall where
  host : Host
  tile : ℕ
  participants : Option TileGroup
  status : Status
  complete : Bool

/-- One step of the tiles on a fabric: a barrier arrival or a call on the queues. -/
inductive TileEvent
  | arrive (call : BarrierCall)
  | queue (event : FabricEvent)

def TileStep (f : Fabric) : TileEvent → Fabric → Prop
  | .arrive call, g => f.barrierArrive call.host call.tile call.participants = (g, call.status, call.complete)
  | .queue event, g => Step f event g

/-- The barrier calls of a history. -/
def barrierCalls (es : List TileEvent) : List BarrierCall :=
  es.filterMap fun
    | .arrive call => some call
    | .queue _ => none

/-- The set a participant list names: a list of distinct tiles of the fabric, at least one. -/
def participantSet (tileCount : ℕ) (participants : Option TileGroup) : Option (Finset ℕ) :=
  match participants with
  | none => none
  | some group =>
    if group.tiles ≠ [] ∧ (∀ t ∈ group.tiles, t < tileCount) ∧ group.tiles.Nodup then
      some group.tiles.toFinset
    else none

/-- A generation: its members, and the tiles counted since it began. -/
structure Generation where
  members : Finset ℕ
  counted : List ℕ

/-- The generation a call belongs to: the one under way, or the one its own participant list begins. -/
def generationAt (tileCount : ℕ) (current : Option Generation) (call : BarrierCall) : Option Generation :=
  match current with
  | some g => some g
  | none =>
    if call.tile < tileCount then (participantSet tileCount call.participants).map fun s => ⟨s, []⟩ else none

/-- The generation under way after a call: an accepted arrival is counted, and the last one ends it. -/
def generationAfter (tileCount : ℕ) (current : Option Generation) (call : BarrierCall) : Option Generation :=
  match generationAt tileCount current call with
  | none => none
  | some g =>
    if call.status ≠ .ok then some g
    else if ∀ t ∈ g.members, t ∈ call.tile :: g.counted then none
    else some { g with counted := call.tile :: g.counted }

/-- The generation under way after a history. -/
def generation (tileCount : ℕ) (calls : List BarrierCall) : Option Generation :=
  calls.foldl (generationAfter tileCount) none

theorem generation_concat (tileCount : ℕ) (calls : List BarrierCall) (call : BarrierCall) :
    generation tileCount (calls ++ [call]) = generationAfter tileCount (generation tileCount calls) call := by
  unfold generation
  rw [List.foldl_append]
  rfl

/-! ### Participant lists -/

variable {f g : Fabric} {tile : ℕ} {participants : Option TileGroup} {s : Finset ℕ}

theorem markExpected_valid {tiles : List ℕ} {expected : ℕ → Bool} :
    (f.markExpected tiles expected).2 = true ↔
      (∀ t ∈ tiles, t < f.config.tileCount ∧ expected t = false) ∧ tiles.Nodup := by
  induction tiles generalizing expected with
  | nil => simp [markExpected]
  | cons tile rest ih =>
    unfold markExpected
    by_cases ht : f.validTile tile = true
    swap
    · rw [if_pos ht]
      rw [validTile_iff] at ht
      simp [ht]
    · rw [if_neg (not_not.mpr ht)]
      rw [validTile_iff] at ht
      by_cases he : expected tile = true
      · rw [if_pos he]
        simp [he]
      · rw [if_neg he, ih, List.forall_mem_cons, List.nodup_cons]
        have hset : (∀ t ∈ rest, t < f.config.tileCount ∧ Function.update expected tile true t = false) ↔
            (∀ t ∈ rest, t < f.config.tileCount ∧ expected t = false) ∧ tile ∉ rest := by
          constructor
          · intro h
            have hn : tile ∉ rest := by
              intro hmem
              have := (h tile hmem).2
              simp at this
            refine ⟨fun t hmem => ?_, hn⟩
            have hne : t ≠ tile := by
              rintro rfl
              exact hn hmem
            have := h t hmem
            rwa [Function.update_of_ne hne] at this
          · rintro ⟨h, hn⟩ t hmem
            have hne : t ≠ tile := by
              rintro rfl
              exact hn hmem
            rw [Function.update_of_ne hne]
            exact h t hmem
        have hf : expected tile = false := by simpa using he
        rw [hset]
        simp only [ht, hf, and_self, true_and]
        exact and_assoc

theorem markExpected_set {tiles : List ℕ} {expected : ℕ → Bool}
    (h : (f.markExpected tiles expected).2 = true) (t : ℕ) :
    (f.markExpected tiles expected).1 t = (expected t || decide (t ∈ tiles)) := by
  induction tiles generalizing expected with
  | nil => simp [markExpected]
  | cons tile rest ih =>
    unfold markExpected at h ⊢
    split_ifs at h ⊢ with h1 h2
    rw [ih h]
    rcases eq_or_ne t tile with rfl | hne
    · simp
    · rw [Function.update_of_ne hne]
      simp [hne]

theorem participantSet_eq_some {tileCount : ℕ} : participantSet tileCount participants = some s ↔
    ∃ group, participants = some group ∧ group.tiles ≠ [] ∧ (∀ t ∈ group.tiles, t < tileCount) ∧
      group.tiles.Nodup ∧ group.tiles.toFinset = s := by
  cases participants with
  | none => simp [participantSet]
  | some group =>
    unfold participantSet
    simp only [Option.ite_none_right_eq_some, Option.some.injEq, exists_eq_left', and_assoc]

theorem participantSet_lt {tileCount : ℕ} (h : participantSet tileCount participants = some s) :
    ∀ t ∈ s, t < tileCount := by
  obtain ⟨group, -, -, hlt, -, rfl⟩ := participantSet_eq_some.mp h
  intro t ht
  exact hlt t (List.mem_toFinset.mp ht)

/-- `att1_fabric_participant_set_valid` accepts a list that names a set, and leaves that set. -/
theorem participantSetValid_some (h : participantSet f.config.tileCount participants = some s) :
    f.participantSetValid participants = ({ f with barrierExpected := fun t => decide (t ∈ s) }, true) ∧
      (participants.map fun g => g.tiles.length).getD 0 = s.card := by
  obtain ⟨group, rfl, hne, hlt, hnd, rfl⟩ := participantSet_eq_some.mp h
  have hcard : group.tiles.length = group.tiles.toFinset.card := (List.toFinset_card_of_nodup hnd).symm
  have hle : group.tiles.length ≤ f.config.tileCount := by
    rw [hcard]
    have hsub : group.tiles.toFinset ⊆ Finset.range f.config.tileCount := by
      intro t ht
      exact Finset.mem_range.mpr (hlt t (List.mem_toFinset.mp ht))
    have := Finset.card_le_card hsub
    rwa [Finset.card_range] at this
  have hv : (f.markExpected group.tiles fun _ => false).2 = true :=
    markExpected_valid.mpr ⟨fun t ht => ⟨hlt t ht, rfl⟩, hnd⟩
  have hset : (f.markExpected group.tiles fun _ => false).1 = fun t => decide (t ∈ group.tiles.toFinset) := by
    ext t
    rw [markExpected_set hv]
    simp
  refine ⟨?_, hcard⟩
  unfold participantSetValid
  simp only
  rw [if_neg (by simpa using hne), if_neg (not_lt.mpr hle), hset, hv]

/-- A list that names no set is refused, and only the scratch array has changed. -/
theorem participantSetValid_none (h : participantSet f.config.tileCount participants = none) :
    ∃ expected, f.participantSetValid participants = ({ f with barrierExpected := expected }, false) := by
  cases participants with
  | none => exact ⟨f.barrierExpected, rfl⟩
  | some group =>
    unfold participantSetValid
    simp only
    split_ifs with h1 h2
    · exact ⟨f.barrierExpected, rfl⟩
    · exact ⟨f.barrierExpected, rfl⟩
    · refine ⟨(f.markExpected group.tiles fun _ => false).1, ?_⟩
      have hv : (f.markExpected group.tiles fun _ => false).2 = false := by
        rw [← Bool.not_eq_true]
        intro hv
        obtain ⟨hlt, hnd⟩ := markExpected_valid.mp hv
        have hsome : participantSet f.config.tileCount (some group) = some group.tiles.toFinset := by
          apply participantSet_eq_some.mpr
          exact ⟨group, rfl, by simpa using h1, fun t ht => (hlt t ht).1, hnd, rfl⟩
        rw [h] at hsome
        cases hsome
      rw [hv]

/-- `att1_fabric_participant_set_matches` decides whether the list names the set it is compared with. -/
theorem participantSetMatches_iff (host : Host) (hs : ∀ t ∈ s, t < f.config.tileCount)
    (hf : ∀ t, f.barrierExpected t = decide (t ∈ s)) :
    f.participantSetMatches host participants = true ↔
      host.malloc f.config.tileCount = true ∧ participantSet f.config.tileCount participants = some s := by
  unfold participantSetMatches
  by_cases hm : host.malloc f.config.tileCount = true
  swap
  · rw [if_pos hm]
    simp [hm]
  rw [if_neg (not_not.mpr hm)]
  simp only [hm, true_and]
  cases hp : participantSet f.config.tileCount participants with
  | none =>
    obtain ⟨expected, he⟩ := participantSetValid_none hp
    rw [he]
    simp
  | some s' =>
    rw [(participantSetValid_some hp).1]
    simp only [Bool.true_and, List.all_eq_true, List.mem_range, beq_iff_eq, hf, decide_eq_decide,
      Option.some.injEq]
    constructor
    · intro h
      ext t
      by_cases ht : t < f.config.tileCount
      · exact h t ht
      · exact iff_of_false (fun hm => ht (participantSet_lt hp t hm)) (fun hm => ht (hs t hm))
    · rintro rfl t _
      exact Iff.rfl

/-! ### One call -/

/-- A generation as it can be under way: distinct members counted, at least one still missing. -/
structure Generation.UnderWay (tileCount : ℕ) (gen : Generation) : Prop where
  lt : ∀ t ∈ gen.members, t < tileCount
  gathering : Gathering gen.members gen.counted
  missing : ∃ t ∈ gen.members, t ∉ gen.counted

/-- What the barrier arrays hold while a generation is under way. -/
structure Holds (f : Fabric) (gen : Generation) : Prop where
  active : f.barrierActive = true
  expected : ∀ t, f.barrierExpected t = decide (t ∈ gen.members)
  arrived : ∀ t, f.barrierArrived t = decide (t ∈ gen.counted)
  count : f.barrierExpectedCount = gen.members.card
  underWay : gen.UnderWay f.config.tileCount

/-- The barrier of the fabric is in this generation. -/
def BarrierIs (f : Fabric) : Option Generation → Prop
  | none => f.barrierActive = false
  | some gen => Holds f gen

/-- The barrier as it is after `att1_fabric_create`. -/
structure BarrierClear (f : Fabric) : Prop where
  active : f.barrierActive = false
  expected : ∀ t, f.barrierExpected t = false
  arrived : ∀ t, f.barrierArrived t = false
  count : f.barrierExpectedCount = 0

theorem countP_range_mem (n : ℕ) (s : Finset ℕ) (hs : ∀ t ∈ s, t < n) :
    (List.range n).countP (fun t => decide (t ∈ s)) = s.card := by
  have hfilter : (Finset.range n).filter (· ∈ s) = s := by
    ext t
    simp only [Finset.mem_filter, Finset.mem_range, and_iff_right_iff_imp]
    exact hs t
  rw [List.countP_eq_length_filter, ← congrArg Finset.card hfilter]
  rfl

/-- What a call is answered within a generation, and the generation it leaves. -/
structure Answered (f : Fabric) (gen : Generation) (tile : ℕ) (mayCount : Prop) (r : Fabric × Status × Bool) :
    Prop where
  config : r.1.config = f.config
  ok_iff : r.2.1 = .ok ↔ mayCount ∧ tile ∈ gen.members ∧ tile ∉ gen.counted
  complete_iff : r.2.2 = true ↔ r.2.1 = .ok ∧ ∀ t ∈ gen.members, t ∈ tile :: gen.counted
  refused : r.2.1 ≠ .ok → Holds r.1 gen
  counted : r.2.1 = .ok → r.2.2 = false → Holds r.1 ⟨gen.members, tile :: gen.counted⟩
  clear : r.2.2 = true → BarrierClear r.1

theorem barrierRecord_answered {gen : Generation} (hf : Holds f gen) (tile : ℕ) :
    Answered f gen tile True (f.barrierRecord tile) := by
  have hcard := hf.count
  unfold barrierRecord
  rw [hf.expected, hf.arrived]
  by_cases hmem : tile ∈ gen.members
  swap
  · rw [if_pos (by simpa using hmem)]
    refine ⟨rfl, ?_, ?_, fun _ => ⟨hf.active, hf.expected, hf.arrived, hf.count, hf.underWay⟩, ?_, ?_⟩ <;>
      simp [hmem]
  rw [if_neg (by simpa using hmem)]
  by_cases hnew : tile ∈ gen.counted
  · rw [if_pos (by simpa using hnew)]
    refine ⟨rfl, ?_, ?_, fun _ => ⟨hf.active, hf.expected, hf.arrived, hf.count, hf.underWay⟩, ?_, ?_⟩ <;>
      simp [hnew]
  rw [if_neg (by simpa using hnew)]
  have hgath := hf.underWay.gathering.cons hmem hnew
  have harr : Function.update f.barrierArrived tile true =
      fun t => decide (t ∈ (tile :: gen.counted).toFinset) := by
    ext t
    rcases eq_or_ne t tile with rfl | hne
    · simp
    · rw [Function.update_of_ne hne, hf.arrived]
      simp [hne]
  have hlt : ∀ t ∈ (tile :: gen.counted).toFinset, t < f.config.tileCount := by
    intro t ht
    exact hf.underWay.lt t (hgath.toFinset_subset ht)
  have hcount : (List.range f.config.tileCount).countP (Function.update f.barrierArrived tile true) =
      f.barrierExpectedCount ↔ ∀ t ∈ gen.members, t ∈ tile :: gen.counted := by
    rw [harr, countP_range_mem _ _ hlt, hf.count, hgath.card_toFinset]
    exact hgath.length_eq_iff
  by_cases hall : ∀ t ∈ gen.members, t ∈ tile :: gen.counted
  · simp only [hcount.mpr hall, if_true]
    refine ⟨rfl, ?_, ?_, ?_, ?_, fun _ => ⟨rfl, fun _ => rfl, fun _ => rfl, rfl⟩⟩
    · simp [hmem, hnew]
    · exact ⟨fun _ => ⟨rfl, hall⟩, fun _ => rfl⟩
    · intro h
      exact absurd rfl h
    · intro _ h
      cases h
  · simp only [mt hcount.mp hall, if_false]
    refine ⟨rfl, ?_, ?_, ?_, ?_, ?_⟩
    · simp [hmem, hnew]
    · refine ⟨fun h => ?_, fun h => absurd h.2 hall⟩
      cases h
    · intro h
      exact absurd rfl h
    · intro _ _
      refine ⟨hf.active, hf.expected, fun t => ?_, hf.count, hf.underWay.lt, hgath, ?_⟩
      · show Function.update f.barrierArrived tile true t = _
        rw [harr]
        simp
      · simpa using hall
    · intro h
      cases h

/-- A call while no generation is under way, with a list that begins one. -/
theorem barrierArrive_begins (hf : f.barrierActive = false) (host : Host) (ht : tile < f.config.tileCount)
    (hp : participantSet f.config.tileCount participants = some s) :
    Answered f ⟨s, []⟩ tile True (f.barrierArrive host tile participants) := by
  obtain ⟨hv, hlen⟩ := participantSetValid_some hp
  have hne : ∃ t, t ∈ s := by
    obtain ⟨group, -, hne, -, -, rfl⟩ := participantSet_eq_some.mp hp
    obtain ⟨t, ht⟩ := List.exists_mem_of_ne_nil _ hne
    exact ⟨t, List.mem_toFinset.mpr ht⟩
  obtain ⟨t, htmem⟩ := hne
  have hbegin : Holds
      { f with
        barrierExpected := fun t => decide (t ∈ s)
        barrierArrived := fun _ => false
        barrierExpectedCount := s.card
        barrierActive := true } ⟨s, []⟩ := by
    refine ⟨rfl, fun _ => rfl, fun _ => ?_, rfl, participantSet_lt hp, Gathering.nil s, t, htmem, ?_⟩
    · simp
    · simp
  have hrec := barrierRecord_answered hbegin tile
  unfold barrierArrive
  rw [if_neg (not_not.mpr (validTile_iff.mpr ht)), if_pos hf]
  simp only [hv, hlen]
  exact ⟨hrec.config, hrec.ok_iff, hrec.complete_iff, hrec.refused, hrec.counted, hrec.clear⟩

/-- A call while no generation is under way that begins none. -/
theorem barrierArrive_begins_none (hf : f.barrierActive = false) (host : Host)
    (h : ¬ (tile < f.config.tileCount ∧ ∃ s, participantSet f.config.tileCount participants = some s)) :
    (f.barrierArrive host tile participants).2 = (.invalidArg, false) ∧
      (f.barrierArrive host tile participants).1.barrierActive = false ∧
      (f.barrierArrive host tile participants).1.config = f.config := by
  unfold barrierArrive
  by_cases ht : tile < f.config.tileCount
  · rw [if_neg (not_not.mpr (validTile_iff.mpr ht)), if_pos hf]
    cases hp : participantSet f.config.tileCount participants with
    | some s => exact absurd ⟨ht, s, hp⟩ h
    | none =>
      obtain ⟨expected, he⟩ := participantSetValid_none hp
      rw [he]
      exact ⟨rfl, hf, rfl⟩
  · rw [if_pos (fun hv => ht (validTile_iff.mp hv))]
    exact ⟨rfl, hf, rfl⟩

/-- A call while a generation is under way. -/
theorem barrierArrive_joins {gen : Generation} (hf : Holds f gen) (host : Host) (tile : ℕ)
    (participants : Option TileGroup) :
    Answered f gen tile
      (host.malloc f.config.tileCount = true ∧
        participantSet f.config.tileCount participants = some gen.members)
      (f.barrierArrive host tile participants) := by
  have hrefused : ∀ mayCount : Prop, ¬ (mayCount ∧ tile ∈ gen.members ∧ tile ∉ gen.counted) →
      Answered f gen tile mayCount (f.countInvalid, .invalidArg, false) := by
    intro mayCount hno
    refine ⟨rfl, iff_of_false (by simp) hno, by simp, fun _ => ?_, by simp, by simp⟩
    exact ⟨hf.active, hf.expected, hf.arrived, hf.count, hf.underWay⟩
  unfold barrierArrive
  by_cases ht : tile < f.config.tileCount
  swap
  · rw [if_pos (fun hv => ht (validTile_iff.mp hv))]
    apply hrefused
    rintro ⟨-, hm, -⟩
    exact ht (hf.underWay.lt tile hm)
  rw [if_neg (not_not.mpr (validTile_iff.mpr ht)), if_neg (by simp [hf.active])]
  have hiff : f.participantSetMatches host participants = true ↔ host.malloc f.config.tileCount = true ∧
      participantSet f.config.tileCount participants = some gen.members :=
    participantSetMatches_iff host hf.underWay.lt hf.expected
  by_cases hm : f.participantSetMatches host participants = true
  · rw [if_neg (by simp [hm])]
    have hrec := barrierRecord_answered hf tile
    refine ⟨hrec.config, ?_, hrec.complete_iff, hrec.refused, hrec.counted, hrec.clear⟩
    rw [hrec.ok_iff, ← hiff]
    simp only [hm]
  · rw [if_pos (by simpa using hm)]
    apply hrefused
    rintro ⟨hmay, -⟩
    exact hm (hiff.mpr hmay)

/-! ### Runs -/

/-- What a call may rely on to be counted: it begins the generation, or its list names the generation's own set
and the comparison gets its scratch memory. -/
def SameSet (tileCount : ℕ) (current : Option Generation) (call : BarrierCall) (members : Finset ℕ) : Prop :=
  participantSet tileCount call.participants = some members ∧
    (current = none ∨ call.host.malloc tileCount = true)

/-- How a call must be answered in the generation `current`. -/
structure CallSpec (tileCount : ℕ) (current : Option Generation) (call : BarrierCall) : Prop where
  ok_iff : call.status = .ok ↔ ∃ gen, generationAt tileCount current call = some gen ∧
    SameSet tileCount current call gen.members ∧ call.tile ∈ gen.members ∧ call.tile ∉ gen.counted
  complete_iff : call.complete = true ↔ call.status = .ok ∧
    ∃ gen, generationAt tileCount current call = some gen ∧
      ∀ t ∈ gen.members, (call.tile :: gen.counted).count t = 1

/-- **One call** is answered as its generation says, and leaves the barrier in the next one. -/
theorem barrierArrive_spec {current : Option Generation} {call : BarrierCall} (hf : BarrierIs f current)
    (h : f.barrierArrive call.host call.tile call.participants = (g, call.status, call.complete)) :
    CallSpec f.config.tileCount current call ∧ g.config = f.config ∧
      BarrierIs g (generationAfter f.config.tileCount current call) ∧
      (call.complete = true → BarrierClear g) := by
  -- the case of a call that belongs to a generation, new or under way
  have hgen : ∀ gen mayCount, generationAt f.config.tileCount current call = some gen →
      Gathering gen.members gen.counted →
      (mayCount ∧ call.tile ∈ gen.members ∧ call.tile ∉ gen.counted ↔
        SameSet f.config.tileCount current call gen.members ∧ call.tile ∈ gen.members ∧
          call.tile ∉ gen.counted) →
      Answered f gen call.tile mayCount (g, call.status, call.complete) →
      CallSpec f.config.tileCount current call ∧ g.config = f.config ∧
        BarrierIs g (generationAfter f.config.tileCount current call) ∧
        (call.complete = true → BarrierClear g) := by
    intro gen mayCount hat hgath hmay ha
    have hone : call.status = .ok → ((∀ t ∈ gen.members, t ∈ call.tile :: gen.counted) ↔
        ∀ t ∈ gen.members, (call.tile :: gen.counted).count t = 1) := by
      intro hok
      obtain ⟨-, hmem, hnew⟩ := ha.ok_iff.mp hok
      exact (hgath.cons hmem hnew).mem_iff_count_eq_one
    refine ⟨⟨?_, ?_⟩, ha.config, ?_, ha.clear⟩
    · rw [hat]
      simp only [Option.some.injEq, exists_eq_left']
      exact ha.ok_iff.trans hmay
    · rw [hat]
      simp only [Option.some.injEq, exists_eq_left']
      refine ha.complete_iff.trans (and_congr_right fun hok => hone hok)
    · unfold generationAfter
      rw [hat]
      simp only
      by_cases hok : call.status = .ok
      · rw [if_neg (not_not.mpr hok)]
        by_cases hall : ∀ t ∈ gen.members, t ∈ call.tile :: gen.counted
        · rw [if_pos hall]
          exact (ha.clear (ha.complete_iff.mpr ⟨hok, hall⟩)).active
        · rw [if_neg hall]
          apply ha.counted hok
          rw [← Bool.not_eq_true]
          intro hc
          exact hall (ha.complete_iff.mp hc).2
      · rw [if_pos hok]
        exact ha.refused hok
  cases current with
  | some gen =>
    refine hgen gen _ rfl (Holds.underWay hf).gathering ?_ (h ▸ barrierArrive_joins hf call.host call.tile
      call.participants)
    unfold SameSet
    simp only [reduceCtorEq, false_or]
    rw [and_comm (a := call.host.malloc _ = true)]
  | none =>
    have hf : f.barrierActive = false := hf
    by_cases hb : call.tile < f.config.tileCount ∧
        ∃ s, participantSet f.config.tileCount call.participants = some s
    · obtain ⟨ht, s, hs⟩ := hb
      refine hgen ⟨s, []⟩ True ?_ (Gathering.nil s) ?_ (h ▸ barrierArrive_begins hf call.host ht hs)
      · unfold generationAt
        simp only
        rw [if_pos ht, hs]
        rfl
      · unfold SameSet
        simp [hs]
    · obtain ⟨hres, hact, hcfg⟩ := barrierArrive_begins_none hf call.host hb
      rw [h] at hres hact hcfg
      obtain ⟨hst, hco⟩ := Prod.mk.inj hres
      have hat : generationAt f.config.tileCount none call = none := by
        unfold generationAt
        simp only
        split_ifs with ht
        · cases hp : participantSet f.config.tileCount call.participants with
          | none => rfl
          | some s => exact absurd ⟨ht, s, hp⟩ hb
        · rfl
      refine ⟨⟨?_, ?_⟩, hcfg, ?_, ?_⟩
      · simp [hst, hat]
      · simp [hst, hco]
      · unfold generationAfter
        rw [hat]
        exact hact
      · intro hc
        rw [hco] at hc
        cases hc

/-- Nothing of the barrier differs. -/
structure SameBarrier (f g : Fabric) : Prop where
  config : g.config = f.config
  expected : g.barrierExpected = f.barrierExpected
  arrived : g.barrierArrived = f.barrierArrived
  count : g.barrierExpectedCount = f.barrierExpectedCount
  active : g.barrierActive = f.barrierActive

theorem SameBarrier.refl (f : Fabric) : SameBarrier f f := ⟨rfl, rfl, rfl, rfl, rfl⟩

theorem SameBarrier.trans {h : Fabric} (h1 : SameBarrier f g) (h2 : SameBarrier g h) : SameBarrier f h :=
  ⟨h2.config.trans h1.config, h2.expected.trans h1.expected, h2.arrived.trans h1.arrived,
    h2.count.trans h1.count, h2.active.trans h1.active⟩

/-- A generation leaves no choice of what the barrier arrays hold. -/
theorem Holds.sameBarrier {gen : Generation} (hf : Holds f gen) (hg : Holds g gen)
    (hconfig : g.config = f.config) : SameBarrier f g := by
  refine ⟨hconfig, ?_, ?_, hg.count.trans hf.count.symm, hg.active.trans hf.active.symm⟩
  · ext t
    rw [hg.expected, hf.expected]
  · ext t
    rw [hg.arrived, hf.arrived]

theorem SameBarrier.barrierIs {current : Option Generation} (h : SameBarrier f g) (hf : BarrierIs f current) :
    BarrierIs g current := by
  cases current with
  | none => exact h.active.trans hf
  | some gen =>
    have hf : Holds f gen := hf
    refine ⟨h.active.trans hf.active, ?_, ?_, h.count.trans hf.count, h.config ▸ hf.underWay⟩
    · rw [h.expected]
      exact hf.expected
    · rw [h.arrived]
      exact hf.arrived

theorem sameBarrier_send (f : Fabric) (source target : ℕ) (type : PacketType) (payload : Option (ℕ → UInt8))
    (payloadBytes tag : ℕ) : SameBarrier f (f.send source target type payload payloadBytes tag).1 := by
  unfold send
  split_ifs <;> exact ⟨rfl, rfl, rfl, rfl, rfl⟩

theorem sameBarrier_receive (f : Fabric) (tile : ℕ) (outPacket outPayload : Bool) (outPayloadCapacity : ℕ) :
    SameBarrier f (f.receive tile outPacket outPayload outPayloadCapacity).1 := by
  unfold receive
  simp only
  split_ifs <;> exact ⟨rfl, rfl, rfl, rfl, rfl⟩

theorem sameBarrier_enqueueAll (source : ℕ) (type : PacketType) (payload : Option (ℕ → UInt8))
    (payloadBytes tag : ℕ) (targets : List ℕ) (f : Fabric) (sent : ℕ) :
    SameBarrier f (enqueueAll source type payload payloadBytes tag targets (f, sent)).1 := by
  induction targets generalizing f sent with
  | nil => exact SameBarrier.refl f
  | cons target rest ih =>
    unfold enqueueAll
    split_ifs with h
    · have henq : SameBarrier f (f.enqueue source target type payload payloadBytes tag) :=
        ⟨rfl, rfl, rfl, rfl, rfl⟩
      exact henq.trans (ih _ _)
    · exact ih _ _

theorem sameBarrier_broadcast (f : Fabric) (source : ℕ) (group : Option TileGroup) (groupCount : ℕ)
    (type : PacketType) (payload : Option (ℕ → UInt8)) (payloadBytes tag : ℕ) :
    SameBarrier f (f.broadcast source group groupCount type payload payloadBytes tag).1 := by
  have hall : ∀ targets, SameBarrier f
      (countBroadcast (enqueueAll source type payload payloadBytes tag targets (f, 0))) := by
    intro targets
    exact (sameBarrier_enqueueAll source type payload payloadBytes tag targets f 0).trans
      ⟨rfl, rfl, rfl, rfl, rfl⟩
  have hinvalid : SameBarrier f f.countInvalid := ⟨rfl, rfl, rfl, rfl, rfl⟩
  have hfull : SameBarrier f f.countQueueFull := ⟨rfl, rfl, rfl, rfl, rfl⟩
  unfold broadcast
  by_cases h1 : ¬ f.validTile source = true
  · rw [if_pos h1]
    exact hinvalid
  rw [if_neg h1]
  by_cases h2 : ¬ f.payloadValid payload payloadBytes = true
  · rw [if_pos h2]
    exact hinvalid
  rw [if_neg h2]
  cases group with
  | none =>
    simp only
    by_cases h3 : groupCount ≠ 0
    · rw [if_pos h3]
      exact hinvalid
    · rw [if_neg h3]
      split
      · exact hall _
      · exact hfull
  | some group =>
    simp only
    split
    · exact hall _
    · exact hfull
    · exact hinvalid

/-- The calls on the queues leave the barrier alone. -/
theorem sameBarrier_step {e : FabricEvent} (h : Step f e g) : SameBarrier f g := by
  obtain ⟨call, status, delivery⟩ := e
  cases call with
  | send source target type payload payloadBytes tag =>
    have := sameBarrier_send f source target type payload payloadBytes tag
    rwa [h.1] at this
  | broadcast source group groupCount type payload payloadBytes tag =>
    have := sameBarrier_broadcast f source group groupCount type payload payloadBytes tag
    rwa [h.1] at this
  | receive tile outPacket outPayload outPayloadCapacity =>
    have := sameBarrier_receive f tile outPacket outPayload outPayloadCapacity
    have h : f.receive tile outPacket outPayload outPayloadCapacity = (g, status, delivery) := h
    rwa [h] at this
  | receiveTimeout tile outPacket outPayload outPayloadCapacity timeoutTicks =>
    obtain ⟨fuel, h⟩ := h
    have hloop : ∀ fuel tick (f : Fabric) (r : Fabric × Status × Option Delivery),
        receiveTimeoutLoop tile outPacket outPayload outPayloadCapacity timeoutTicks fuel tick f = some r →
          SameBarrier f r.1 := by
      intro fuel
      induction fuel with
      | zero =>
        intro tick f r h
        simp [receiveTimeoutLoop] at h
      | succ fuel ih =>
        intro tick f r h
        unfold receiveTimeoutLoop at h
        have hstep := sameBarrier_receive f tile outPacket outPayload outPayloadCapacity
        simp only at h
        split_ifs at h with h1 h2
        · obtain rfl := Option.some.inj h
          exact SameBarrier.refl f
        · obtain rfl := Option.some.inj h
          exact hstep
        · exact hstep.trans (ih _ _ _ h)
    exact hloop fuel 0 f _ h

/-- The barrier is in the generation its history says. -/
structure BarrierInv (tileCount : ℕ) (es : List TileEvent) (f : Fabric) : Prop where
  tileCount_eq : f.config.tileCount = tileCount
  barrierIs : BarrierIs f (generation tileCount (barrierCalls es))

/-- A step of the tiles moves the barrier from generation to generation. -/
theorem BarrierInv.step {tileCount : ℕ} {es : List TileEvent} {e : TileEvent} (h : BarrierInv tileCount es f)
    (hs : TileStep f e g) : BarrierInv tileCount (es ++ [e]) g := by
  obtain ⟨rfl, hf⟩ := h
  unfold barrierCalls at hf
  cases e with
  | arrive call =>
    obtain ⟨-, hcfg, hg, -⟩ := barrierArrive_spec hf hs
    refine ⟨congrArg FabricBusConfig.tileCount hcfg, ?_⟩
    unfold barrierCalls
    rw [List.filterMap_append]
    show BarrierIs g (generation f.config.tileCount (_ ++ [call]))
    rw [generation_concat]
    exact hg
  | queue event =>
    have hsame := sameBarrier_step hs
    refine ⟨congrArg FabricBusConfig.tileCount hsame.config, ?_⟩
    unfold barrierCalls
    rw [List.filterMap_append]
    show BarrierIs g (generation f.config.tileCount (_ ++ []))
    rw [List.append_nil]
    exact hsame.barrierIs hf

theorem create_barrierClear {host : Host} {config : FabricBusConfig} (h : create host config = .ok f) :
    f.config = config ∧ BarrierClear f := by
  unfold create at h
  cases hs : mulSize config.tileCount config.queueCapacity with
  | none =>
    rw [hs] at h
    split_ifs at h
  | some slots =>
    cases hp : mulSize slots config.maxPayloadBytes with
    | none =>
      simp only [hs, hp] at h
      split_ifs at h
    | some bytes =>
      simp only [hs, hp] at h
      split_ifs at h
      injection h with h
      subst h
      exact ⟨rfl, rfl, fun _ => rfl, fun _ => rfl, rfl⟩

theorem run_barrierInv {host : Host} {config : FabricBusConfig} {f₀ : Fabric} {es : List TileEvent}
    (hc : create host config = .ok f₀) (hr : Run TileStep f₀ es f) : BarrierInv config.tileCount es f := by
  obtain ⟨hcfg, hclear⟩ := create_barrierClear hc
  have h0 : BarrierInv config.tileCount [] f₀ := ⟨congrArg FabricBusConfig.tileCount hcfg, hclear.active⟩
  exact hr.invariant h0 fun _ _ _ _ _ hi hs => hi.step hs

/-- **The fabric barrier.**  In every run of arrivals, with any lists and any calls on the queues in between, the
last call is counted exactly when it brings the set of its generation for a member not counted yet, it completes
exactly when with it every member has been counted once since the generation began, and completion leaves the
barrier as it was created. -/
theorem barrier_safe {host : Host} {config : FabricBusConfig} {f₀ f : Fabric} {es : List TileEvent}
    {call : BarrierCall} (hc : create host config = .ok f₀) (hr : Run TileStep f₀ (es ++ [.arrive call]) f) :
    CallSpec config.tileCount (generation config.tileCount (barrierCalls es)) call ∧
      (∀ gen, generation config.tileCount (barrierCalls es) = some gen →
        gen.counted.Nodup ∧ ∀ t ∈ gen.counted, t ∈ gen.members) ∧
      (call.complete = true → BarrierClear f ∧
        generation config.tileCount (barrierCalls (es ++ [.arrive call])) = none) := by
  obtain ⟨f₁, hr₁, hs⟩ := hr.snoc_inv
  obtain ⟨hcfg, hinv⟩ := run_barrierInv hc hr₁
  rw [← hcfg] at hinv ⊢
  obtain ⟨hspec, -, -, hclear⟩ := barrierArrive_spec hinv hs
  refine ⟨hspec, fun gen hgen => ?_, fun hcomplete => ⟨hclear hcomplete, ?_⟩⟩
  · rw [hgen] at hinv
    have hgath := (Holds.underWay hinv).gathering
    exact ⟨hgath.nodup, hgath.mem⟩
  · obtain ⟨hok, gen, hat, hall⟩ := hspec.complete_iff.mp hcomplete
    unfold barrierCalls at hat ⊢
    rw [List.filterMap_append]
    show generation f₁.config.tileCount (_ ++ [call]) = none
    rw [generation_concat, generationAfter, hat]
    simp only
    rw [if_neg (not_not.mpr hok), if_pos]
    intro t ht
    apply List.count_pos_iff.mp
    rw [hall t ht]
    exact Nat.one_pos

/-- An accepted arrival of a tile with the list `tiles`. -/
def arrival (tile : ℕ) (tiles : TileGroup) (complete : Bool) : TileEvent :=
  .arrive ⟨.generous, tile, some tiles, .ok, complete⟩

/-- Two tiles meet, the second with the list the other way round. -/
theorem barrier_safe_permuted_lists : ∃ f₀ f, create .generous ⟨2, 1, 4⟩ = .ok f₀ ∧
    Run TileStep f₀ [arrival 0 ⟨[0, 1], by decide⟩ false, arrival 1 ⟨[1, 0], by decide⟩ true] f ∧
    BarrierClear f := by
  have hfirst : ∃ f₀, create .generous ⟨2, 1, 4⟩ = .ok f₀ ∧
      ∃ f₁, TileStep f₀ (arrival 0 ⟨[0, 1], by decide⟩ false) f₁ ∧
        ∃ f, TileStep f₁ (arrival 1 ⟨[1, 0], by decide⟩ true) f := by
    refine ⟨_, rfl, ?_⟩
    unfold TileStep
    exact ⟨_, rfl, _, rfl⟩
  obtain ⟨f₀, hc, f₁, h₁, f, h₂⟩ := hfirst
  have hr := (Run.nil.snoc h₁).snoc h₂
  exact ⟨f₀, f, hc, hr, ((barrier_safe hc hr).2.2 rfl).1⟩

end Att1.Fabric
