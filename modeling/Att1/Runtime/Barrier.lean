import Att1.Fabric.Barrier
import Att1.Runtime.Model

/-!
# Att1.Runtime.Barrier — generations of the runtime barrier

A run is any interleaving of the sections of the tile threads with starts and stops of the runtime.  Each section
is labelled with its tile, the generation it belongs to and what it returned.

* `BarrierLaw`: nobody is let through a generation that some tile has not entered, and the fabric accepts every
  arrival.
* `Fresh`: an arrival finds no mark of its tile left in the fabric barrier, and the entry that fills the count
  finds every tile counted once.
* `Undisturbed`: the runtime is stopped only while no tile is in the barrier.
* `runtime_barrier_iff`: a run is lawful throughout exactly when its steps are `Fresh`, and undisturbed runs are.
-/

open Att1.Lib
open Att1.Fabric (BarrierIs Generation Holds FabricEvent participantSet)

namespace Att1.Runtime

/-- A step of the runtime, with what the section returned (`none` where the thread stays in the call). -/
inductive RuntimeEvent
  | start
  | requestStop
  | join
  | queue (event : FabricEvent)
  | arrive (host : Host) (tile : ℕ) (fabricStatus : Option Status)
  | enter (tile generation : ℕ) (returned : Option Status)
  | wake (tile generation : ℕ) (returned : Option Status)

/-- One step: a section is run by a thread that stands before it, and `join` waits for every thread. -/
def Step (s : Runtime) : RuntimeEvent → Runtime → Prop
  | .start, t => s.threadsStarted = false ∧ t = s.start
  | .requestStop, t => s.threadsStarted = true ∧ t = s.requestStop
  | .join, t => s.threadsStarted = true ∧ s.stopRequested = true ∧
      (∀ tile < s.config.tileCount, s.phase tile = .idle) ∧ t = s.join
  | .queue event, t => ∃ fabric, Fabric.Step s.fabric event fabric ∧ t = { s with fabric := fabric }
  | .arrive host tile fabricStatus, t => s.threadsStarted = true ∧ tile < s.config.tileCount ∧
      s.phase tile = .idle ∧ s.barrierArrive host tile = (t, fabricStatus)
  | .enter tile generation returned, t => tile < s.config.tileCount ∧ s.phase tile = .arrived ∧
      generation = s.barrierGeneration ∧ s.barrierEnter tile = (t, returned)
  | .wake tile generation returned, t => tile < s.config.tileCount ∧
      s.phase tile = .waiting generation ∧ s.barrierWake tile generation = (t, returned)

/-- The tile has entered the generation. -/
def Entered (es : List RuntimeEvent) (tile generation : ℕ) : Prop :=
  ∃ returned, RuntimeEvent.enter tile generation returned ∈ es

/-- The tile was let through the generation with `ATT1_OK`. -/
def Passed (es : List RuntimeEvent) (tile generation : ℕ) : Prop :=
  RuntimeEvent.enter tile generation (some .ok) ∈ es ∨ RuntimeEvent.wake tile generation (some .ok) ∈ es

/-- The law of the barrier. -/
structure BarrierLaw (es : List RuntimeEvent) (s : Runtime) : Prop where
  passed : ∀ tile generation, Passed es tile generation →
    ∀ other < s.config.tileCount, Entered es other generation
  accepted : ∀ host tile status, RuntimeEvent.arrive host tile (some status) ∈ es → status = .ok

/-- An arrival finds no mark of its tile in a fabric generation under way, and memory to compare its group with it;
the entry that fills the count finds the tiles counted so far distinct and itself not among them. -/
def Fresh (s : Runtime) : RuntimeEvent → Prop
  | .arrive host tile _ => s.groupGranted host = true → s.fabric.barrierActive = true →
      host.malloc s.config.tileCount = true ∧ s.fabric.barrierArrived tile = false
  | .enter tile _ _ => s.entered.length + 1 = s.config.tileCount → (tile :: s.entered).Nodup
  | _ => True

/-- The runtime is stopped only while no tile is in the barrier, no tile goes to the barrier until it is started
again, and the comparison of groups gets its memory. -/
def Undisturbed (s : Runtime) : RuntimeEvent → Prop
  | .requestStop => ∀ tile < s.config.tileCount, s.phase tile = .idle
  | .arrive host _ _ => s.stopRequested = false ∧ host.malloc s.config.tileCount = true
  | _ => True

theorem step_deterministic : Deterministic Step := by
  intro s e t u ht hu
  cases e with
  | start => exact ht.2.trans hu.2.symm
  | requestStop => exact ht.2.trans hu.2.symm
  | join => exact ht.2.2.2.trans hu.2.2.2.symm
  | queue event =>
    obtain ⟨f, hf, rfl⟩ := ht
    obtain ⟨g, hg, rfl⟩ := hu
    rw [Fabric.step_deterministic _ _ _ _ hf hg]
  | arrive => exact congrArg Prod.fst (ht.2.2.2.symm.trans hu.2.2.2)
  | enter => exact congrArg Prod.fst (ht.2.2.2.symm.trans hu.2.2.2)
  | wake => exact congrArg Prod.fst (ht.2.2.symm.trans hu.2.2)

/-! ### The sections -/

variable {s t : Runtime} {es : List RuntimeEvent} {tile generation : ℕ} {host : Host}

@[simp] theorem fabricGroup_tiles (s : Runtime) : s.fabricGroup.tiles = List.range s.config.tileCount := rfl

theorem participantSet_fabricGroup (htile : tile < s.config.tileCount) :
    participantSet s.config.tileCount (some s.fabricGroup) = some (Finset.range s.config.tileCount) := by
  apply Fabric.participantSet_eq_some.mpr
  refine ⟨s.fabricGroup, rfl, ?_, ?_, List.nodup_range, ?_⟩
  · apply List.ne_nil_of_mem
    exact List.mem_range.mpr htile
  · intro t ht
    exact List.mem_range.mp ht
  · ext t
    simp

/-- The fabric barrier is between generations, or in one of all `n` tiles. -/
def FabricOfAll (n : ℕ) (f : Fabric) : Prop :=
  f.config.tileCount = n ∧
    (f.barrierActive = false ∨ ∃ counted, Holds f ⟨Finset.range n, counted⟩)

/-- What an accepted arrival of a tile with the group of all tiles does to the fabric barrier `f`. -/
structure Counted (n : ℕ) (f : Fabric) (tile : ℕ) (g : Fabric) : Prop where
  ends : g.barrierActive = false →
    ∀ u < n, u = tile ∨ f.barrierActive = true ∧ f.barrierArrived u = true
  goesOn : g.barrierActive = true →
    (∀ u, g.barrierArrived u = true ↔ u = tile ∨ f.barrierActive = true ∧ f.barrierArrived u = true) ∧
      ∃ u < n, g.barrierArrived u = false

section Fabric

variable {n : ℕ} {f : Fabric} {counted : List ℕ} {mayCount : Prop} {r : Fabric × Status × Bool}

theorem FabricOfAll.answered (hn : f.config.tileCount = n)
    (ha : Fabric.Answered f ⟨Finset.range n, counted⟩ tile mayCount r) : FabricOfAll n r.1 := by
  refine ⟨ha.config ▸ hn, ?_⟩
  by_cases hok : r.2.1 = .ok
  · by_cases hc : r.2.2 = true
    · exact Or.inl (ha.clear hc).active
    · exact Or.inr ⟨_, ha.counted hok (by simpa using hc)⟩
  · exact Or.inr ⟨_, ha.refused hok⟩

theorem Counted.answered (ha : Fabric.Answered f ⟨Finset.range n, counted⟩ tile mayCount r)
    (hok : r.2.1 = .ok) (hf : ∀ u, u ∈ counted ↔ f.barrierActive = true ∧ f.barrierArrived u = true) :
    Counted n f tile r.1 := by
  refine ⟨?_, ?_⟩
  · intro hact u hu
    have hc : r.2.2 = true := by
      rw [← Bool.not_eq_false]
      intro hc
      rw [(ha.counted hok hc).active] at hact
      cases hact
    have hmem := (ha.complete_iff.mp hc).2 u (Finset.mem_range.mpr hu)
    rwa [List.mem_cons, hf] at hmem
  · intro hact
    have hc : r.2.2 = false := by
      rw [← Bool.not_eq_true]
      intro hc
      rw [(ha.clear hc).active] at hact
      cases hact
    have hh := ha.counted hok hc
    refine ⟨fun u => ?_, ?_⟩
    · rw [hh.arrived, decide_eq_true_iff, List.mem_cons, hf]
    · obtain ⟨u, hu, hnot⟩ := hh.underWay.missing
      refine ⟨u, Finset.mem_range.mp hu, ?_⟩
      rw [hh.arrived]
      exact decide_eq_false hnot

end Fabric

/-- The fabric call of `att1_runtime_execute_barrier`. -/
theorem fabricArrive_spec (hf : FabricOfAll s.config.tileCount s.fabric) (host : Host)
    (htile : tile < s.config.tileCount) :
    FabricOfAll s.config.tileCount (s.fabric.barrierArrive host tile (some s.fabricGroup)).1 ∧
      ((s.fabric.barrierArrive host tile (some s.fabricGroup)).2.1 = .ok ↔
        (s.fabric.barrierActive = true →
          host.malloc s.config.tileCount = true ∧ s.fabric.barrierArrived tile = false)) ∧
      ((s.fabric.barrierArrive host tile (some s.fabricGroup)).2.1 = .ok →
        Counted s.config.tileCount s.fabric tile
          (s.fabric.barrierArrive host tile (some s.fabricGroup)).1) := by
  obtain ⟨hn, hstate⟩ := hf
  have hset : participantSet s.fabric.config.tileCount (some s.fabricGroup) =
      some (Finset.range s.config.tileCount) := by
    rw [hn]
    exact participantSet_fabricGroup htile
  rcases hstate with hact | ⟨counted, hh⟩
  · have ha := Fabric.barrierArrive_begins hact host (hn ▸ htile) hset
    refine ⟨FabricOfAll.answered hn ha, ?_, fun hok => Counted.answered ha hok fun u => ?_⟩
    · rw [ha.ok_iff]
      simp [hact, htile]
    · simp [hact]
  · have ha := Fabric.barrierArrive_joins hh host tile (some s.fabricGroup)
    refine ⟨FabricOfAll.answered hn ha, ?_, fun hok => Counted.answered ha hok fun u => ?_⟩
    · rw [ha.ok_iff, hset, hh.arrived, hn]
      simp [hh.active, htile]
    · rw [hh.arrived]
      simp [hh.active]

theorem barrierArrive_granted (h : s.groupGranted host = true) : s.barrierArrive host tile =
    ({ s with
        fabric := (s.fabric.barrierArrive host tile (some s.fabricGroup)).1
        phase := Function.update s.phase tile .arrived },
      some (s.fabric.barrierArrive host tile (some s.fabricGroup)).2.1) := by
  unfold barrierArrive
  rw [if_neg (by simp [h])]

theorem barrierArrive_not_granted (h : s.groupGranted host = false) :
    s.barrierArrive host tile = (s, none) := by
  unfold barrierArrive
  rw [if_pos h]

/-- The counts of the barrier section. -/
structure Counts (s : Runtime) : Prop where
  active : s.barrierActive = true → s.barrierExpected = s.config.tileCount ∧
    s.barrierArrived = s.entered.length ∧ s.entered.length < s.config.tileCount
  inactive : s.barrierActive = false → s.entered = []

theorem openBarrier_eq (hc : Counts s) (htile : tile < s.config.tileCount) :
    s.openBarrier =
        { s with
          barrierActive := true
          barrierExpected := s.config.tileCount
          barrierArrived := s.entered.length } ∧
      s.entered.length < s.config.tileCount := by
  unfold openBarrier
  by_cases hact : s.barrierActive = false
  · rw [if_pos hact]
    have hnil := hc.inactive hact
    obtain ⟨config, hle, fabric, expected, arrived, generation, active, stop, started, phase, entered⟩ := s
    obtain rfl : entered = [] := hnil
    exact ⟨rfl, (Nat.zero_le tile).trans_lt htile⟩
  · rw [if_neg hact]
    obtain ⟨h1, h2, h3⟩ := hc.active (by simpa using hact)
    obtain ⟨config, hle, fabric, expected, arrived, generation, active, stop, started, phase, entered⟩ := s
    obtain rfl : active = true := by simpa using hact
    obtain rfl : expected = config.tileCount := h1
    obtain rfl : arrived = entered.length := h2
    exact ⟨rfl, h3⟩

/-- The entry that fills the count lets its tile through and begins the next generation; any other is counted. -/
theorem barrierEnter_cases (hc : Counts s) (htile : tile < s.config.tileCount) :
    (s.entered.length + 1 = s.config.tileCount ∧
      s.barrierEnter tile = (s.resetBarrier.setPhase tile .idle, some .ok)) ∨
    (s.entered.length + 1 < s.config.tileCount ∧
      s.barrierEnter tile =
        { s with
          barrierActive := true
          barrierExpected := s.config.tileCount
          barrierArrived := s.entered.length + 1
          entered := tile :: s.entered }.settle tile s.barrierGeneration) := by
  obtain ⟨hopen, hlt⟩ := openBarrier_eq hc htile
  have hmod : sizeT (s.entered.length + 1) = s.entered.length + 1 := by
    have hle := s.tileCount_le
    unfold uint32Max at hle
    apply sizeT_eq
    unfold sizeMax
    omega
  unfold barrierEnter countEntry
  rw [hopen]
  simp only [hmod]
  by_cases hfull : s.entered.length + 1 = s.config.tileCount
  · rw [if_pos hfull]
    exact Or.inl ⟨hfull, rfl⟩
  · rw [if_neg hfull]
    exact Or.inr ⟨by omega, rfl⟩

/-- A thread in the wait loop waits on, or leaves it: with an error when the runtime is being stopped, else because
its generation is over. -/
theorem settle_cases (s : Runtime) (tile generation : ℕ) :
    (s.stopRequested = false ∧ s.barrierActive = true ∧
      s.settle tile generation = (s.setPhase tile (.waiting generation), none)) ∨
    ∃ status, s.settle tile generation = (s.setPhase tile .idle, some status) ∧
      (s.stopRequested = false → status = .ok) ∧
      (status = .ok → s.barrierActive = true → s.barrierGeneration ≠ generation) := by
  unfold settle barrierWait
  by_cases h1 : s.stopRequested = false ∧ s.barrierActive = true ∧ sizeT s.barrierGeneration = sizeT generation
  · rw [if_pos h1]
    exact Or.inl ⟨h1.1, h1.2.1, rfl⟩
  · rw [if_neg h1]
    by_cases h2 : s.stopRequested = true
    · rw [if_pos h2]
      refine Or.inr ⟨_, rfl, ?_, ?_⟩
      · intro h
        rw [h2] at h
        cases h
      · intro h
        cases h
    · rw [if_neg h2]
      refine Or.inr ⟨_, rfl, fun _ => rfl, ?_⟩
      rintro - hact rfl
      exact h1 ⟨by simpa using h2, hact, rfl⟩

/-! ### The law and its guard -/

theorem Entered.mono {e : RuntimeEvent} (h : Entered es tile generation) : Entered (es ++ [e]) tile generation := by
  obtain ⟨returned, hmem⟩ := h
  exact ⟨returned, List.mem_append_left _ hmem⟩

theorem entered_snoc {e : RuntimeEvent} : Entered (es ++ [e]) tile generation ↔
    Entered es tile generation ∨ ∃ returned, e = .enter tile generation returned := by
  unfold Entered
  simp only [List.mem_append, List.mem_singleton, exists_or]
  apply or_congr_right
  apply exists_congr
  intro returned
  exact eq_comm

/-- The event lets its tile through the generation. -/
def Passes (e : RuntimeEvent) (generation : ℕ) : Prop :=
  ∃ tile, e = .enter tile generation (some .ok) ∨ e = .wake tile generation (some .ok)

theorem BarrierLaw.snoc {e : RuntimeEvent} (h : BarrierLaw es s) (hn : t.config.tileCount = s.config.tileCount)
    (hp : ∀ g, Passes e g → ∀ other < s.config.tileCount, Entered (es ++ [e]) other g)
    (ha : ∀ host tile status, e = .arrive host tile (some status) → status = .ok) :
    BarrierLaw (es ++ [e]) t := by
  refine ⟨fun tile g hpass other ho => ?_, fun host tile status hmem => ?_⟩
  · rw [hn] at ho
    unfold Passed at hpass
    simp only [List.mem_append, List.mem_singleton] at hpass
    by_cases hnew : Passes e g
    · exact hp g hnew other ho
    · apply Entered.mono
      apply h.passed tile g ?_ other ho
      rcases hpass with (h1 | h1) | (h1 | h1)
      · exact Or.inl h1
      · exact absurd ⟨tile, Or.inl h1.symm⟩ hnew
      · exact Or.inr h1
      · exact absurd ⟨tile, Or.inr h1.symm⟩ hnew
  · rcases List.mem_append.mp hmem with h1 | h1
    · exact h.accepted host tile status h1
    · exact ha host tile status (List.mem_singleton.mp h1).symm

/-- The invariant that carries the law: `entered` names the tiles that have entered the generation, and a waiting
tile's generation is under way or has been entered by all. -/
structure BarrierInv (es : List RuntimeEvent) (s : Runtime) : Prop where
  law : BarrierLaw es s
  fabricOfAll : FabricOfAll s.config.tileCount s.fabric
  counts : Counts s
  entered_lt : ∀ u ∈ s.entered, u < s.config.tileCount
  entered_iff : ∀ u, u ∈ s.entered ↔ Entered es u s.barrierGeneration
  past : ∀ u g, Entered es u g → g ≤ s.barrierGeneration
  waits : ∀ u < s.config.tileCount, ∀ g, s.phase u = .waiting g →
    (g < s.barrierGeneration ∧ ∀ v < s.config.tileCount, Entered es v g) ∨
      (g = s.barrierGeneration ∧ s.barrierActive = true)
  stopped : s.threadsStarted = false → ∀ u < s.config.tileCount, s.phase u = .idle

theorem not_passes_arrive {fabricStatus : Option Status} {g : ℕ} :
    ¬ Passes (.arrive host tile fabricStatus) g := by
  rintro ⟨u, h | h⟩ <;> cases h

theorem create_barrierInv {granted : Bool} {config : RuntimeConfig} (h : create host granted config = .ok s) :
    BarrierInv [] s ∧ s.config = config ∧ s.stopRequested = false ∧ s.barrierActive = false ∧
      s.fabric.barrierActive = false ∧ s.entered = [] ∧ ∀ u, s.phase u = .idle := by
  unfold create at h
  by_cases hv : configValid config = true
  swap
  · rw [dif_neg hv] at h
    cases h
  rw [dif_pos hv] at h
  by_cases hg : granted = false
  · rw [if_pos hg] at h
    cases h
  rw [if_neg hg] at h
  cases hf : Fabric.create host ⟨config.tileCount, config.fabricQueueCapacity,
      config.fabricMaxPayloadBytes⟩ with
  | error status =>
    rw [hf] at h
    cases h
  | ok fabric =>
    rw [hf] at h
    injection h with h
    subst h
    obtain ⟨hcfg, hclear⟩ := Fabric.create_barrierClear hf
    have hnone : ∀ u g, ¬ Entered [] u g := by
      rintro u g ⟨returned, hmem⟩
      exact List.not_mem_nil hmem
    refine ⟨⟨⟨?_, ?_⟩, ⟨?_, Or.inl hclear.active⟩, ⟨?_, fun _ => rfl⟩, ?_, ?_, ?_, ?_, ?_⟩,
      rfl, rfl, rfl, hclear.active, rfl, fun _ => rfl⟩
    · rintro tile g (hmem | hmem) <;> exact absurd hmem List.not_mem_nil
    · intro _ _ _ hmem
      exact absurd hmem List.not_mem_nil
    · exact congrArg FabricBusConfig.tileCount hcfg
    · intro hact
      cases hact
    · intro u hu
      exact absurd hu List.not_mem_nil
    · intro u
      exact iff_of_false List.not_mem_nil (hnone u _)
    · intro u g hu
      exact absurd hu (hnone u g)
    · intro u _ g hu
      cases hu
    · intro _ u _
      rfl

section Steps

variable (hi : BarrierInv es s)

include hi

/-- What does not enter anything and keeps the barrier section's data keeps the invariant. -/
theorem BarrierInv.frame {e : RuntimeEvent} (hcfg : t.config = s.config)
    (hlaw : BarrierLaw (es ++ [e]) t) (hfab : FabricOfAll s.config.tileCount t.fabric)
    (hcounts : Counts t) (hent : t.entered = s.entered) (hgen : t.barrierGeneration = s.barrierGeneration)
    (hact : t.barrierActive = s.barrierActive) (he : ∀ u g r, e ≠ .enter u g r)
    (hphase : ∀ u < s.config.tileCount, ∀ g, t.phase u = .waiting g → s.phase u = .waiting g)
    (hstop : t.threadsStarted = false → ∀ u < s.config.tileCount, t.phase u = .idle) :
    BarrierInv (es ++ [e]) t := by
  have hiff : ∀ u g, Entered (es ++ [e]) u g ↔ Entered es u g := by
    intro u g
    rw [entered_snoc]
    apply or_iff_left
    rintro ⟨r, hr⟩
    exact he u g r hr
  refine ⟨hlaw, hcfg ▸ hfab, hcounts, ?_, ?_, ?_, ?_, ?_⟩
  · rw [hent, hcfg]
    exact hi.entered_lt
  · intro u
    rw [hent, hgen, hiff]
    exact hi.entered_iff u
  · intro u g hu
    rw [hgen]
    exact hi.past u g ((hiff u g).mp hu)
  · intro u hu g hw
    rw [hcfg] at hu ⊢
    rw [hgen, hact]
    rcases hi.waits u hu g (hphase u hu g hw) with ⟨hlt, hall⟩ | hcur
    · exact Or.inl ⟨hlt, fun v hv => (hall v hv).mono⟩
    · exact Or.inr hcur
  · rw [hcfg]
    exact hstop

theorem BarrierInv.enter {returned : Option Status} (htile : tile < s.config.tileCount)
    (hphase : s.phase tile = .arrived)
    (hg : s.entered.length + 1 = s.config.tileCount → (tile :: s.entered).Nodup)
    (hs : s.barrierEnter tile = (t, returned)) :
    BarrierInv (es ++ [.enter tile s.barrierGeneration returned]) t := by
  have hmine : Entered (es ++ [.enter tile s.barrierGeneration returned]) tile s.barrierGeneration :=
    entered_snoc.mpr (Or.inr ⟨returned, rfl⟩)
  have hpast : ∀ u g, Entered (es ++ [.enter tile s.barrierGeneration returned]) u g →
      g ≤ s.barrierGeneration := by
    intro u g hu
    rcases entered_snoc.mp hu with hold | ⟨r, hr⟩
    · exact hi.past u g hold
    · injection hr with _ hgen _
      exact hgen.ge
  have hmem : ∀ u, u ∈ tile :: s.entered ↔
      Entered (es ++ [.enter tile s.barrierGeneration returned]) u s.barrierGeneration := by
    intro u
    rw [entered_snoc, List.mem_cons, hi.entered_iff]
    constructor
    · rintro (rfl | hold)
      · exact Or.inr ⟨returned, rfl⟩
      · exact Or.inl hold
    · rintro (hold | ⟨r, hr⟩)
      · exact Or.inr hold
      · injection hr with htile _ _
        exact Or.inl htile.symm
  have hnoarr : ∀ host' tile' status, RuntimeEvent.enter tile s.barrierGeneration returned =
      .arrive host' tile' (some status) → status = .ok := by
    intro host' tile' status h
    cases h
  rcases barrierEnter_cases hi.counts htile with ⟨hfull, heq⟩ | ⟨hroom, heq⟩
  · -- the count is full: all tiles have entered, and the next generation begins
    rw [heq, Prod.mk.injEq] at hs
    obtain ⟨rfl, rfl⟩ := hs
    have hall : ∀ v < s.config.tileCount,
        Entered (es ++ [.enter tile s.barrierGeneration (some .ok)]) v s.barrierGeneration := by
      have hgath : Gathering (Finset.range s.config.tileCount) (tile :: s.entered) := by
        refine ⟨hg hfull, fun u hu => Finset.mem_range.mpr ?_⟩
        rcases List.mem_cons.mp hu with rfl | hu
        · exact htile
        · exact hi.entered_lt u hu
      have hlen : (tile :: s.entered).length = (Finset.range s.config.tileCount).card := by
        rw [Finset.card_range, List.length_cons, hfull]
      intro v hv
      exact (hmem v).mp (hgath.length_eq_iff.mp hlen v (Finset.mem_range.mpr hv))
    refine ⟨hi.law.snoc rfl ?_ hnoarr, hi.fabricOfAll, ⟨?_, fun _ => rfl⟩, ?_, ?_, ?_, ?_, ?_⟩
    · rintro g ⟨u, hu | hu⟩
      · injection hu with _ hgen _
        exact hgen ▸ hall
      · cases hu
    · intro hact
      cases hact
    · intro u hu
      exact absurd hu List.not_mem_nil
    · intro u
      refine iff_of_false List.not_mem_nil fun hu => ?_
      have : s.barrierGeneration + 1 ≤ s.barrierGeneration := hpast u _ hu
      omega
    · intro u g hu
      exact (hpast u g hu).trans (Nat.le_succ _)
    · intro u hu g hw
      have hw : Function.update s.phase tile .idle u = .waiting g := hw
      rcases eq_or_ne u tile with rfl | hne
      · rw [Function.update_self] at hw
        cases hw
      · rw [Function.update_of_ne hne] at hw
        refine Or.inl ?_
        show g < s.barrierGeneration + 1 ∧ _
        rcases hi.waits u hu g hw with ⟨hlt, hold⟩ | ⟨rfl, -⟩
        · exact ⟨hlt.trans (Nat.lt_succ_self _), fun v hv => (hold v hv).mono⟩
        · exact ⟨Nat.lt_succ_self _, hall⟩
    · intro hstop u hu
      show Function.update s.phase tile .idle u = .idle
      rcases eq_or_ne u tile with rfl | hne
      · exact Function.update_self ..
      · rw [Function.update_of_ne hne]
        exact hi.stopped hstop u hu
  · -- one more is counted; the tile waits, or gives up because the runtime is being stopped
    rw [heq] at hs
    have hstarted : s.threadsStarted = false → ∀ u < s.config.tileCount, u ≠ tile := by
      rintro hstop u hu rfl
      have hidle := hi.stopped hstop u hu
      rw [hphase] at hidle
      cases hidle
    have hcommon : ∀ phase : TilePhase, (∀ g, phase = .waiting g → g = s.barrierGeneration) →
        BarrierLaw (es ++ [.enter tile s.barrierGeneration returned]) s →
        BarrierInv (es ++ [.enter tile s.barrierGeneration returned])
          ({ s with
            barrierActive := true
            barrierExpected := s.config.tileCount
            barrierArrived := s.entered.length + 1
            entered := tile :: s.entered }.setPhase tile phase) := by
      intro phase hwait hlaw
      refine ⟨⟨hlaw.passed, hlaw.accepted⟩, hi.fabricOfAll, ⟨fun _ => ⟨rfl, rfl, hroom⟩, ?_⟩, ?_, hmem, hpast,
        ?_, ?_⟩
      · intro hact
        cases hact
      · intro u hu
        rcases List.mem_cons.mp hu with rfl | hu
        · exact htile
        · exact hi.entered_lt u hu
      · intro u hu g hw
        have hw : Function.update s.phase tile phase u = .waiting g := hw
        rcases eq_or_ne u tile with rfl | hne
        · rw [Function.update_self] at hw
          exact Or.inr ⟨hwait g hw, rfl⟩
        · rw [Function.update_of_ne hne] at hw
          rcases hi.waits u hu g hw with ⟨hlt, hold⟩ | ⟨hgen, -⟩
          · exact Or.inl ⟨hlt, fun v hv => (hold v hv).mono⟩
          · exact Or.inr ⟨hgen, rfl⟩
      · intro hstop u hu
        show Function.update s.phase tile phase u = .idle
        rw [Function.update_of_ne (hstarted hstop u hu)]
        exact hi.stopped hstop u hu
    have hlaw : returned ≠ some .ok → BarrierLaw (es ++ [.enter tile s.barrierGeneration returned]) s := by
      intro hne
      refine hi.law.snoc rfl ?_ hnoarr
      rintro g ⟨u, hu | hu⟩
      · injection hu with _ _ hr
        exact absurd hr hne
      · cases hu
    rcases settle_cases { s with
        barrierActive := true
        barrierExpected := s.config.tileCount
        barrierArrived := s.entered.length + 1
        entered := tile :: s.entered } tile s.barrierGeneration with ⟨-, -, hw⟩ | ⟨status, hw, -, hne⟩
    · rw [hw, Prod.mk.injEq] at hs
      obtain ⟨rfl, rfl⟩ := hs
      refine hcommon _ ?_ (hlaw (by simp))
      intro g hgen
      injection hgen with hgen
      exact hgen.symm
    · rw [hw, Prod.mk.injEq] at hs
      obtain ⟨rfl, rfl⟩ := hs
      refine hcommon _ ?_ (hlaw ?_)
      · intro g hgen
        cases hgen
      · intro hok
        exact hne (Option.some.inj hok) rfl rfl

theorem BarrierInv.wake {returned : Option Status} (htile : tile < s.config.tileCount)
    (hphase : s.phase tile = .waiting generation) (hs : s.barrierWake tile generation = (t, returned)) :
    BarrierInv (es ++ [.wake tile generation returned]) t := by
  have hnew : ∀ phase : TilePhase, (∀ g, phase = .waiting g → g = generation) →
      BarrierLaw (es ++ [.wake tile generation returned]) s →
      BarrierInv (es ++ [.wake tile generation returned]) (s.setPhase tile phase) := by
    intro phase hwait hlaw
    refine hi.frame rfl ⟨hlaw.passed, hlaw.accepted⟩ hi.fabricOfAll
      ⟨hi.counts.active, hi.counts.inactive⟩ rfl rfl rfl (fun _ _ _ h => by cases h) ?_ ?_
    · intro u hu g hw
      have hw : Function.update s.phase tile phase u = .waiting g := hw
      rcases eq_or_ne u tile with rfl | hne
      · rw [Function.update_self] at hw
        rw [hphase, hwait g hw]
      · rwa [Function.update_of_ne hne] at hw
    · intro hstop u hu
      have hidle := hi.stopped hstop tile htile
      rw [hphase] at hidle
      cases hidle
  have hnoarr : ∀ host' tile' status, RuntimeEvent.wake tile generation returned =
      .arrive host' tile' (some status) → status = .ok := by
    intro host' tile' status h
    cases h
  rcases settle_cases s tile generation with ⟨-, -, hw⟩ | ⟨status, hw, -, hne⟩
  · have hs : s.settle tile generation = (t, returned) := hs
    rw [hw, Prod.mk.injEq] at hs
    obtain ⟨rfl, rfl⟩ := hs
    refine hnew _ (fun g hg => by injection hg with hg; exact hg.symm) (hi.law.snoc rfl ?_ hnoarr)
    rintro g ⟨u, hu | hu⟩ <;> cases hu
  · have hs : s.settle tile generation = (t, returned) := hs
    rw [hw, Prod.mk.injEq] at hs
    obtain ⟨rfl, rfl⟩ := hs
    refine hnew _ (fun g hg => by cases hg) (hi.law.snoc rfl ?_ hnoarr)
    rintro g ⟨u, hu | hu⟩
    · cases hu
    · injection hu with _ hgen hok
      subst hgen
      -- let through: the generation it waited for is over, and only its completion ends one
      rcases hi.waits tile htile generation hphase with ⟨-, hall⟩ | ⟨rfl, hact⟩
      · intro v hv
        exact (hall v hv).mono
      · exact absurd rfl (hne (Option.some.inj hok) hact)

theorem BarrierInv.arrive {fabricStatus : Option Status} (htile : tile < s.config.tileCount)
    (hstarted : s.threadsStarted = true)
    (hg : s.groupGranted host = true → s.fabric.barrierActive = true →
      host.malloc s.config.tileCount = true ∧ s.fabric.barrierArrived tile = false)
    (hs : s.barrierArrive host tile = (t, fabricStatus)) :
    BarrierInv (es ++ [.arrive host tile fabricStatus]) t := by
  have hlaw : (∀ status, fabricStatus = some status → status = .ok) →
      BarrierLaw (es ++ [.arrive host tile fabricStatus]) s := by
    intro hok
    refine hi.law.snoc rfl (fun g hp => absurd hp not_passes_arrive) ?_
    intro host' tile' status h
    injection h with _ _ h
    exact hok status h
  by_cases hgrant : s.groupGranted host = true
  · rw [barrierArrive_granted hgrant, Prod.mk.injEq] at hs
    obtain ⟨rfl, rfl⟩ := hs
    obtain ⟨hfab, hok, -⟩ := fabricArrive_spec hi.fabricOfAll host htile
    have hlaw := hlaw fun status h => (Option.some.inj h).symm.trans (hok.mpr (hg hgrant))
    refine hi.frame rfl ⟨hlaw.passed, hlaw.accepted⟩ hfab ⟨hi.counts.active, hi.counts.inactive⟩ rfl rfl rfl
      (fun _ _ _ h => by cases h) ?_ ?_
    · intro u _ g hw
      have hw : Function.update s.phase tile .arrived u = .waiting g := hw
      rcases eq_or_ne u tile with rfl | hne
      · rw [Function.update_self] at hw
        cases hw
      · rwa [Function.update_of_ne hne] at hw
    · intro hstop
      have hstop : s.threadsStarted = false := hstop
      rw [hstarted] at hstop
      cases hstop
  · rw [barrierArrive_not_granted (by simpa using hgrant), Prod.mk.injEq] at hs
    obtain ⟨rfl, rfl⟩ := hs
    exact hi.frame rfl (hlaw fun _ h => by cases h) hi.fabricOfAll hi.counts rfl rfl rfl
      (fun _ _ _ h => by cases h) (fun _ _ _ hw => hw) hi.stopped

/-- A start begins a generation that nobody has entered. -/
theorem BarrierInv.start (hstopped : s.threadsStarted = false) : BarrierInv (es ++ [.start]) s.start := by
  have hiff : ∀ u g, Entered (es ++ [.start]) u g ↔ Entered es u g := by
    intro u g
    rw [entered_snoc]
    apply or_iff_left
    rintro ⟨r, hr⟩
    cases hr
  have hlaw : BarrierLaw (es ++ [.start]) s := by
    refine hi.law.snoc rfl ?_ ?_
    · rintro g ⟨u, hu | hu⟩ <;> cases hu
    · intro _ _ _ h
      cases h
  refine ⟨⟨hlaw.passed, hlaw.accepted⟩, hi.fabricOfAll, ⟨?_, fun _ => rfl⟩, ?_, ?_, ?_, ?_, ?_⟩
  · intro hact
    cases hact
  · intro u hu
    exact absurd hu List.not_mem_nil
  · intro u
    refine iff_of_false List.not_mem_nil fun hu => ?_
    have : s.barrierGeneration + 1 ≤ s.barrierGeneration := hi.past u _ ((hiff u _).mp hu)
    omega
  · intro u g hu
    exact (hi.past u g ((hiff u g).mp hu)).trans (Nat.le_succ _)
  · intro u hu g hw
    have hw : s.phase u = .waiting g := hw
    rw [hi.stopped hstopped u hu] at hw
    cases hw
  · intro hstop
    cases hstop

/-- **One step** that is fresh keeps the law of the barrier. -/
theorem BarrierInv.step {e : RuntimeEvent} (hg : Fresh s e) (hs : Step s e t) : BarrierInv (es ++ [e]) t := by
  cases e with
  | start =>
    obtain ⟨hstopped, rfl⟩ := hs
    exact hi.start hstopped
  | requestStop =>
    obtain ⟨-, rfl⟩ := hs
    have hlaw : BarrierLaw (es ++ [.requestStop]) s :=
      hi.law.snoc rfl (by rintro g ⟨u, hu | hu⟩ <;> cases hu) fun _ _ _ h => by cases h
    exact hi.frame rfl ⟨hlaw.passed, hlaw.accepted⟩ hi.fabricOfAll ⟨hi.counts.active, hi.counts.inactive⟩ rfl rfl
      rfl (fun _ _ _ h => by cases h) (fun _ _ _ hw => hw) hi.stopped
  | join =>
    obtain ⟨-, -, hidle, rfl⟩ := hs
    have hlaw : BarrierLaw (es ++ [.join]) s :=
      hi.law.snoc rfl (by rintro g ⟨u, hu | hu⟩ <;> cases hu) fun _ _ _ h => by cases h
    exact hi.frame rfl ⟨hlaw.passed, hlaw.accepted⟩ hi.fabricOfAll ⟨hi.counts.active, hi.counts.inactive⟩ rfl rfl
      rfl (fun _ _ _ h => by cases h) (fun _ _ _ hw => hw) fun _ => hidle
  | queue event =>
    obtain ⟨fabric, hstep, rfl⟩ := hs
    have hsame := Fabric.sameBarrier_step hstep
    have hlaw : BarrierLaw (es ++ [.queue event]) s :=
      hi.law.snoc rfl (by rintro g ⟨u, hu | hu⟩ <;> cases hu) fun _ _ _ h => by cases h
    have hfab : FabricOfAll s.config.tileCount fabric := by
      obtain ⟨hn, hstate⟩ := hi.fabricOfAll
      refine ⟨hsame.config ▸ hn, ?_⟩
      rcases hstate with hact | ⟨counted, hh⟩
      · exact Or.inl (hsame.active.trans hact)
      · have hg : BarrierIs fabric (some ⟨Finset.range s.config.tileCount, counted⟩) := hsame.barrierIs hh
        exact Or.inr ⟨counted, hg⟩
    exact hi.frame rfl ⟨hlaw.passed, hlaw.accepted⟩ hfab ⟨hi.counts.active, hi.counts.inactive⟩ rfl rfl
      rfl (fun _ _ _ h => by cases h) (fun _ _ _ hw => hw) hi.stopped
  | arrive host tile fabricStatus =>
    obtain ⟨hstarted, htile, -, hcall⟩ := hs
    exact hi.arrive htile hstarted hg hcall
  | enter tile generation returned =>
    obtain ⟨htile, hphase, rfl, hcall⟩ := hs
    exact hi.enter htile hphase hg hcall
  | wake tile generation returned =>
    obtain ⟨htile, hphase, hcall⟩ := hs
    exact hi.wake htile hphase hcall

/-- A step that is not fresh breaks the law: the fabric refuses the arrival, or a tile is let through while
another has not entered. -/
theorem BarrierInv.step_breaks {e : RuntimeEvent} (hg : ¬ Fresh s e) (hs : Step s e t) :
    ¬ BarrierLaw (es ++ [e]) t := by
  intro hlaw
  cases e with
  | start => exact hg trivial
  | requestStop => exact hg trivial
  | join => exact hg trivial
  | queue event => exact hg trivial
  | wake => exact hg trivial
  | arrive host tile fabricStatus =>
    obtain ⟨-, htile, -, hcall⟩ := hs
    have hgrant : s.groupGranted host = true := by
      by_contra hno
      exact hg fun h => absurd h hno
    rw [barrierArrive_granted hgrant, Prod.mk.injEq] at hcall
    obtain ⟨-, rfl⟩ := hcall
    obtain ⟨-, hok, -⟩ := fabricArrive_spec hi.fabricOfAll host htile
    have haccepted := hlaw.accepted host tile _ (List.mem_append_right es (List.mem_singleton_self _))
    exact hg fun _ => hok.mp haccepted
  | enter tile generation returned =>
    obtain ⟨htile, -, rfl, hcall⟩ := hs
    have hfull : s.entered.length + 1 = s.config.tileCount := by
      by_contra hno
      exact hg fun h => absurd h hno
    rcases barrierEnter_cases hi.counts htile with ⟨-, heq⟩ | ⟨hroom, -⟩
    swap
    · omega
    rw [heq, Prod.mk.injEq] at hcall
    obtain ⟨rfl, rfl⟩ := hcall
    have hall := hlaw.passed tile s.barrierGeneration
      (Or.inl (List.mem_append_right es (List.mem_singleton_self _)))
    apply hg
    intro _
    -- as many entries as tiles, and every tile among them: none is counted twice
    have hsub : Finset.range s.config.tileCount ⊆ (tile :: s.entered).toFinset := by
      intro v hv
      rw [List.mem_toFinset, List.mem_cons, hi.entered_iff]
      rcases entered_snoc.mp (hall v (Finset.mem_range.mp hv)) with hold | ⟨r, hr⟩
      · exact Or.inr hold
      · injection hr with htile _ _
        exact Or.inl htile.symm
    have hcard := Finset.card_le_card hsub
    rw [Finset.card_range, ← hfull, ← List.length_cons (a := tile)] at hcard
    have heq : (tile :: s.entered).toFinset.card = (tile :: s.entered).length :=
      le_antisymm (List.toFinset_card_le _) hcard
    exact Multiset.coe_nodup.mp (Multiset.toFinset_card_eq_card_iff_nodup.mp heq)

end Steps

/-! ### Undisturbed runs -/

/-- The tile has arrived at the fabric for the generation under way and is not through it yet. -/
def Inside (s : Runtime) (u : ℕ) : Prop := s.phase u = .arrived ∨ s.phase u = .waiting s.barrierGeneration

/-- The invariant of undisturbed runs: the fabric barrier has counted exactly the tiles inside, and is between two
generations when all of them or none of them are. -/
structure CalmInv (s : Runtime) : Prop where
  stop_idle : s.stopRequested = true → ∀ u < s.config.tileCount, s.phase u = .idle
  nodup : s.entered.Nodup
  entered_iff : ∀ u < s.config.tileCount, u ∈ s.entered ↔ s.phase u = .waiting s.barrierGeneration
  active : s.fabric.barrierActive = true →
    (∀ u < s.config.tileCount, s.fabric.barrierArrived u = true ↔ Inside s u) ∧
      ∃ u < s.config.tileCount, ¬ Inside s u
  inactive : s.fabric.barrierActive = false →
    (∀ u < s.config.tileCount, Inside s u) ∨ ∀ u < s.config.tileCount, ¬ Inside s u
  empty : (∀ u < s.config.tileCount, ¬ Inside s u) → s.fabric.barrierActive = false

theorem inside_of_idle {u : ℕ} (h : s.phase u = .idle) : ¬ Inside s u := by
  rintro (hp | hp) <;> rw [h] at hp <;> cases hp

section Calm

variable (hc : CalmInv s)

include hc

/-- The tiles inside and the fabric barrier as they were. -/
theorem CalmInv.frame (hcfg : t.config = s.config) (hact : t.fabric.barrierActive = s.fabric.barrierActive)
    (harr : t.fabric.barrierArrived = s.fabric.barrierArrived)
    (hin : ∀ u < s.config.tileCount, Inside t u ↔ Inside s u)
    (hstop : t.stopRequested = true → ∀ u < s.config.tileCount, t.phase u = .idle) (hnd : t.entered.Nodup)
    (hent : ∀ u < s.config.tileCount, u ∈ t.entered ↔ t.phase u = .waiting t.barrierGeneration) :
    CalmInv t := by
  have hnone : (∀ u < s.config.tileCount, ¬ Inside t u) ↔ ∀ u < s.config.tileCount, ¬ Inside s u :=
    forall₂_congr fun u hu => not_congr (hin u hu)
  refine ⟨?_, hnd, ?_, ?_, ?_, ?_⟩ <;> rw [hcfg]
  · exact hstop
  · exact hent
  · rw [hact, harr]
    intro h
    obtain ⟨h1, u, hu, hnot⟩ := hc.active h
    exact ⟨fun v hv => (h1 v hv).trans (hin v hv).symm, u, hu, fun hi => hnot ((hin u hu).mp hi)⟩
  · rw [hact]
    intro h
    rcases hc.inactive h with hall | hno
    · exact Or.inl fun u hu => (hin u hu).mpr (hall u hu)
    · exact Or.inr (hnone.mpr hno)
  · rw [hact]
    intro h
    exact hc.empty (hnone.mp h)

theorem CalmInv.not_stopping {u : ℕ} (hu : u < s.config.tileCount) (hp : s.phase u ≠ .idle) :
    s.stopRequested = false := by
  rw [← Bool.not_eq_true]
  intro hstop
  exact hp (hc.stop_idle hstop u hu)

/-- The fabric has counted the tiles inside, whether a generation is under way or about to begin. -/
theorem CalmInv.counted_iff (htile : tile < s.config.tileCount) (hidle : s.phase tile = .idle) (u : ℕ)
    (hu : u < s.config.tileCount) :
    s.fabric.barrierActive = true ∧ s.fabric.barrierArrived u = true ↔ Inside s u := by
  cases hact : s.fabric.barrierActive with
  | true =>
    rw [(hc.active hact).1 u hu]
    exact and_iff_right rfl
  | false =>
    rcases hc.inactive hact with hall | hno
    · exact absurd (hall tile htile) (inside_of_idle hidle)
    · exact iff_of_false (fun h => by cases h.1) (hno u hu)

theorem CalmInv.arrive {fabricStatus : Option Status} (hi : BarrierInv es s) (htile : tile < s.config.tileCount)
    (hidle : s.phase tile = .idle) (hstop : s.stopRequested = false)
    (hmalloc : host.malloc s.config.tileCount = true) (hs : s.barrierArrive host tile = (t, fabricStatus)) :
    CalmInv t := by
  by_cases hgrant : s.groupGranted host = true
  swap
  · rw [barrierArrive_not_granted (by simpa using hgrant), Prod.mk.injEq] at hs
    exact hs.1 ▸ hc
  rw [barrierArrive_granted hgrant, Prod.mk.injEq] at hs
  obtain ⟨rfl, -⟩ := hs
  obtain ⟨-, hok, hcounted⟩ := fabricArrive_spec hi.fabricOfAll host htile
  have hfree : s.fabric.barrierActive = true → s.fabric.barrierArrived tile = false := by
    intro hact
    rw [← Bool.not_eq_true, (hc.active hact).1 tile htile]
    exact inside_of_idle hidle
  have hcounted := hcounted (hok.mpr fun hact => ⟨hmalloc, hfree hact⟩)
  -- the tiles inside are now the caller and those inside before
  have hin : ∀ u < s.config.tileCount, Inside
      { s with
        fabric := (s.fabric.barrierArrive host tile (some s.fabricGroup)).1
        phase := Function.update s.phase tile .arrived } u ↔
      u = tile ∨ s.fabric.barrierActive = true ∧ s.fabric.barrierArrived u = true := by
    intro u hu
    rw [hc.counted_iff htile hidle u hu]
    show (Function.update s.phase tile .arrived u = .arrived ∨
      Function.update s.phase tile .arrived u = .waiting s.barrierGeneration) ↔ _
    rcases eq_or_ne u tile with rfl | hne
    · simp
    · rw [Function.update_of_ne hne]
      exact (or_iff_right hne).symm
  refine ⟨?_, hc.nodup, ?_, ?_, ?_, ?_⟩
  · intro h
    have h : s.stopRequested = true := h
    rw [hstop] at h
    cases h
  · intro u hu
    show u ∈ s.entered ↔ Function.update s.phase tile .arrived u = .waiting s.barrierGeneration
    rw [hc.entered_iff u hu]
    rcases eq_or_ne u tile with rfl | hne
    · rw [Function.update_self, hidle]
      exact iff_of_false (fun h => by cases h) fun h => by cases h
    · rw [Function.update_of_ne hne]
  · intro hact
    obtain ⟨harr, u, hu, hnot⟩ := hcounted.goesOn hact
    refine ⟨fun v hv => (harr v).trans (hin v hv).symm, u, hu, ?_⟩
    rw [hin u hu, ← harr, hnot]
    exact Bool.false_ne_true
  · intro hact
    exact Or.inl fun u hu => (hin u hu).mpr (hcounted.ends hact u hu)
  · intro hno
    exact absurd ((hin tile htile).mpr (Or.inl rfl)) (hno tile htile)

theorem CalmInv.enter {returned : Option Status} (hi : BarrierInv es s) (htile : tile < s.config.tileCount)
    (hphase : s.phase tile = .arrived) (hs : s.barrierEnter tile = (t, returned)) : CalmInv t := by
  have hstop : s.stopRequested = false := hc.not_stopping htile (by simp [hphase])
  have hnew : tile ∉ s.entered := by
    rw [hc.entered_iff tile htile, hphase]
    intro h
    cases h
  have hnd : (tile :: s.entered).Nodup := List.nodup_cons.mpr ⟨hnew, hc.nodup⟩
  have hstopped : s.stopRequested = true → ∀ u < s.config.tileCount, t.phase u = .idle := by
    intro h
    rw [hstop] at h
    cases h
  rcases barrierEnter_cases hi.counts htile with ⟨hfull, heq⟩ | ⟨-, heq⟩
  · rw [heq, Prod.mk.injEq] at hs
    obtain ⟨rfl, rfl⟩ := hs
    have hgath : Gathering (Finset.range s.config.tileCount) (tile :: s.entered) := by
      refine ⟨hnd, fun u hu => Finset.mem_range.mpr ?_⟩
      rcases List.mem_cons.mp hu with rfl | hu
      · exact htile
      · exact hi.entered_lt u hu
    have hall : ∀ u < s.config.tileCount, u ∈ tile :: s.entered := by
      have hlen : (tile :: s.entered).length = (Finset.range s.config.tileCount).card := by
        rw [Finset.card_range, List.length_cons, hfull]
      intro u hu
      exact hgath.length_eq_iff.mp hlen u (Finset.mem_range.mpr hu)
    -- all were inside, so the fabric is between two generations; now nobody is
    have hinside : ∀ u < s.config.tileCount, Inside s u := by
      intro u hu
      rcases List.mem_cons.mp (hall u hu) with rfl | hmem
      · exact Or.inl hphase
      · exact Or.inr ((hc.entered_iff u hu).mp hmem)
    have hact : s.fabric.barrierActive = false := by
      rw [← Bool.not_eq_true]
      intro hact
      obtain ⟨-, u, hu, hnot⟩ := hc.active hact
      exact hnot (hinside u hu)
    have hphase' : ∀ u < s.config.tileCount, (s.resetBarrier.setPhase tile .idle).phase u = .idle ∨
        (s.resetBarrier.setPhase tile .idle).phase u = .waiting s.barrierGeneration := by
      intro u hu
      show Function.update s.phase tile .idle u = _ ∨ Function.update s.phase tile .idle u = _
      rcases eq_or_ne u tile with rfl | hne
      · exact Or.inl (Function.update_self ..)
      · rw [Function.update_of_ne hne]
        exact Or.inr ((hc.entered_iff u hu).mp (List.mem_of_ne_of_mem hne (hall u hu)))
    have hnone : ∀ u < s.config.tileCount, ¬ Inside (s.resetBarrier.setPhase tile .idle) u := by
      intro u hu
      rcases hphase' u hu with hp | hp
      · exact inside_of_idle hp
      · rintro (h | h)
        · rw [hp] at h
          cases h
        · rw [hp] at h
          injection h with h
          have h : s.barrierGeneration = s.barrierGeneration + 1 := h
          omega
    refine ⟨hstopped, List.nodup_nil, fun u hu => ?_, ?_, fun _ => Or.inr hnone, fun _ => hact⟩
    · refine iff_of_false List.not_mem_nil fun h => hnone u hu (Or.inr h)
    · intro h
      have h : s.fabric.barrierActive = true := h
      rw [hact] at h
      cases h
  · rw [heq] at hs
    rcases settle_cases { s with
        barrierActive := true
        barrierExpected := s.config.tileCount
        barrierArrived := s.entered.length + 1
        entered := tile :: s.entered } tile s.barrierGeneration with ⟨-, -, hw⟩ | ⟨status, -, hok, hne⟩
    swap
    · exact absurd rfl (hne (hok hstop) rfl)
    rw [hw, Prod.mk.injEq] at hs
    obtain ⟨rfl, -⟩ := hs
    refine hc.frame rfl rfl rfl (fun u _ => ?_) hstopped hnd fun u hu => ?_
    · show (Function.update s.phase tile _ u = .arrived ∨
        Function.update s.phase tile _ u = .waiting s.barrierGeneration) ↔ _
      rcases eq_or_ne u tile with rfl | hne
      · rw [Function.update_self]
        exact iff_of_true (Or.inr rfl) (Or.inl hphase)
      · rw [Function.update_of_ne hne]
        exact Iff.rfl
    · show u ∈ tile :: s.entered ↔ Function.update s.phase tile _ u = .waiting s.barrierGeneration
      rw [List.mem_cons, hc.entered_iff u hu]
      rcases eq_or_ne u tile with rfl | hne
      · rw [Function.update_self]
        exact iff_of_true (Or.inl rfl) rfl
      · rw [Function.update_of_ne hne]
        exact or_iff_right hne

theorem CalmInv.wake {returned : Option Status} (hi : BarrierInv es s) (htile : tile < s.config.tileCount)
    (hphase : s.phase tile = .waiting generation) (hs : s.barrierWake tile generation = (t, returned)) :
    CalmInv t := by
  have hstop : s.stopRequested = false := hc.not_stopping htile (by simp [hphase])
  have hstopped : s.stopRequested = true → ∀ u < s.config.tileCount, t.phase u = .idle := by
    intro h
    rw [hstop] at h
    cases h
  have hs : s.settle tile generation = (t, returned) := hs
  rcases settle_cases s tile generation with ⟨-, -, hw⟩ | ⟨status, hw, hok, hne⟩
  · rw [hw, Prod.mk.injEq] at hs
    obtain ⟨rfl, -⟩ := hs
    have hsame : (s.setPhase tile (.waiting generation)).phase = s.phase := by
      show Function.update s.phase tile (.waiting generation) = s.phase
      rw [← hphase, Function.update_eq_self]
    refine hc.frame rfl rfl rfl (fun u _ => ?_) hstopped hc.nodup fun u hu => ?_
    · unfold Inside
      rw [hsame]
      exact Iff.rfl
    · rw [hsame]
      exact hc.entered_iff u hu
  · rw [hw, Prod.mk.injEq] at hs
    obtain ⟨rfl, -⟩ := hs
    -- its generation is over, so it was not inside and is not now
    have hold : generation ≠ s.barrierGeneration := by
      rcases hi.waits tile htile generation hphase with ⟨hlt, -⟩ | ⟨rfl, hact⟩
      · exact hlt.ne
      · exact (hne (hok hstop) hact).symm
    refine hc.frame rfl rfl rfl (fun u _ => ?_) hstopped hc.nodup fun u hu => ?_
    · show (Function.update s.phase tile _ u = .arrived ∨
        Function.update s.phase tile _ u = .waiting s.barrierGeneration) ↔ _
      rcases eq_or_ne u tile with rfl | hne'
      · rw [Function.update_self]
        unfold Inside
        rw [hphase]
        simp [hold]
      · rw [Function.update_of_ne hne']
        exact Iff.rfl
    · show u ∈ s.entered ↔ Function.update s.phase tile _ u = .waiting s.barrierGeneration
      rw [hc.entered_iff u hu]
      rcases eq_or_ne u tile with rfl | hne'
      · rw [Function.update_self, hphase]
        simp [hold]
      · rw [Function.update_of_ne hne']

/-- **One undisturbed step** is fresh and keeps the fabric barrier in step with the runtime's. -/
theorem CalmInv.step {e : RuntimeEvent} (hi : BarrierInv es s) (hg : Undisturbed s e) (hs : Step s e t) :
    Fresh s e ∧ CalmInv t := by
  cases e with
  | start =>
    obtain ⟨hstopped, rfl⟩ := hs
    have hidle := hi.stopped hstopped
    have hact := hc.empty fun u hu => inside_of_idle (hidle u hu)
    have hnone : ∀ u < s.config.tileCount, ¬ Inside s.start u := by
      intro u hu
      exact inside_of_idle (hidle u hu)
    refine ⟨trivial, ?_, List.nodup_nil, fun u hu => ?_, ?_, fun _ => Or.inr hnone, fun _ => hact⟩
    · intro h
      cases h
    · exact iff_of_false List.not_mem_nil fun h => hnone u hu (Or.inr h)
    · intro h
      have h : s.fabric.barrierActive = true := h
      rw [hact] at h
      cases h
  | requestStop =>
    obtain ⟨-, rfl⟩ := hs
    exact ⟨trivial, hc.frame rfl rfl rfl (fun _ _ => Iff.rfl) (fun _ => hg) hc.nodup hc.entered_iff⟩
  | join =>
    obtain ⟨-, -, hidle, rfl⟩ := hs
    exact ⟨trivial, hc.frame rfl rfl rfl (fun _ _ => Iff.rfl) (fun _ => hidle) hc.nodup hc.entered_iff⟩
  | queue event =>
    obtain ⟨fabric, hstep, rfl⟩ := hs
    have hsame := Fabric.sameBarrier_step hstep
    exact ⟨trivial, hc.frame rfl hsame.active hsame.arrived (fun _ _ => Iff.rfl) hc.stop_idle hc.nodup
      hc.entered_iff⟩
  | arrive host tile fabricStatus =>
    obtain ⟨-, htile, hidle, hcall⟩ := hs
    refine ⟨fun _ hact => ⟨hg.2, ?_⟩, hc.arrive hi htile hidle hg.1 hg.2 hcall⟩
    rw [← Bool.not_eq_true, (hc.active hact).1 tile htile]
    exact inside_of_idle hidle
  | enter tile generation returned =>
    obtain ⟨htile, hphase, rfl, hcall⟩ := hs
    refine ⟨fun _ => List.nodup_cons.mpr ⟨?_, hc.nodup⟩, hc.enter hi htile hphase hcall⟩
    rw [hc.entered_iff tile htile, hphase]
    intro h
    cases h
  | wake tile generation returned =>
    obtain ⟨htile, hphase, hcall⟩ := hs
    exact ⟨trivial, hc.wake hi htile hphase hcall⟩

end Calm

/-! ### Runs -/

theorem create_calmInv {granted : Bool} {config : RuntimeConfig} (h : create host granted config = .ok s) :
    CalmInv s := by
  obtain ⟨-, -, hstop, -, hact, hent, hidle⟩ := create_barrierInv h
  have hnone : ∀ u < s.config.tileCount, ¬ Inside s u := by
    intro u _
    exact inside_of_idle (hidle u)
  refine ⟨?_, hent ▸ List.nodup_nil, fun u hu => ?_, ?_, fun _ => Or.inr hnone, fun _ => hact⟩
  · rw [hstop]
    intro h
    cases h
  · rw [hent]
    exact iff_of_false List.not_mem_nil fun h => hnone u hu (Or.inr h)
  · rw [hact]
    intro h
    cases h

/-- The invariants of an undisturbed run. -/
def QuietInv (es : List RuntimeEvent) (s : Runtime) : Prop := BarrierInv es s ∧ CalmInv s

/-- **The tile barrier of the runtime.**  A run of any number of tiles, generations, starts and stops keeps the law
of a cyclic barrier throughout exactly when every arrival finds the fabric barrier without a mark of its tile and
every entry that fills the count finds the tiles counted distinct.  A run that is stopped only while no tile is in
the barrier does keep it. -/
theorem runtime_barrier_iff {granted : Bool} {config : RuntimeConfig} {s₀ : Runtime}
    (hc : create host granted config = .ok s₀) (hr : Run Step s₀ es s) :
    (Lawful Step s₀ BarrierLaw es ↔ Guarded Step s₀ Fresh es) ∧
      (Guarded Step s₀ Undisturbed es → Lawful Step s₀ BarrierLaw es) := by
  have h0 : BarrierInv [] s₀ := (create_barrierInv hc).1
  refine ⟨?_, ?_⟩
  · refine hr.law_iff_guard step_deterministic h0 (fun _ _ hi => hi.law) ?_ ?_
    · intro es s e t hi hg hs
      exact hi.step hg hs
    · intro es s e t hi hg hs
      exact hi.step_breaks hg hs
  · intro hg js t hp hr'
    have hq0 : QuietInv [] s₀ := ⟨h0, create_calmInv hc⟩
    have hq : QuietInv js t := by
      apply hr'.inv_of_guarded hq0 ?_ (hg.of_prefix hp)
      intro es s e t hi hg hs
      obtain ⟨hfresh, hcalm⟩ := hi.2.step hi.1 hg hs
      exact ⟨hi.1.step hfresh hs, hcalm⟩
    exact hq.1.law

/-- Two tiles meet once. -/
def meeting : List RuntimeEvent :=
  [.start, .arrive .generous 0 (some .ok), .enter 0 1 none, .arrive .generous 1 (some .ok),
    .enter 1 1 (some .ok), .wake 0 1 (some .ok)]

theorem meeting_lawful : ∃ s₀ s, create .generous true ⟨2, 4, 4, 16⟩ = .ok s₀ ∧ Run Step s₀ meeting s ∧
    Lawful Step s₀ BarrierLaw meeting := by
  have hrun : ∃ s₀, create .generous true ⟨2, 4, 4, 16⟩ = .ok s₀ ∧
      ∃ s, Run (fun s e t => Step s e t ∧ Undisturbed s e) s₀ meeting s := by
    exact ⟨_, rfl, _,
      Run.cons ⟨⟨rfl, rfl⟩, trivial⟩ <|
      Run.cons ⟨⟨rfl, by decide, rfl, rfl⟩, rfl, rfl⟩ <|
      Run.cons ⟨⟨by decide, rfl, rfl, rfl⟩, trivial⟩ <|
      Run.cons ⟨⟨rfl, by decide, rfl, rfl⟩, rfl, rfl⟩ <|
      Run.cons ⟨⟨by decide, rfl, rfl, rfl⟩, trivial⟩ <|
      Run.cons ⟨⟨by decide, rfl, rfl⟩, trivial⟩ Run.nil⟩
  obtain ⟨s₀, hc, s, hr⟩ := hrun
  obtain ⟨hr, hg⟩ := hr.guarded step_deterministic
  exact ⟨s₀, s, hc, hr, (runtime_barrier_iff hc hr).2 hg⟩

/-- A stop while tile 0 waits for tile 1, and a start after it. -/
def stoppedMeeting : List RuntimeEvent :=
  [.start, .arrive .generous 0 (some .ok), .enter 0 1 none, .requestStop, .wake 0 1 (some .invalidArg), .join,
    .start, .arrive .generous 0 (some .invalidArg)]

/-- The stop leaves tile 0 marked in the fabric barrier, so that its next arrival there is refused. -/
theorem stopped_meeting_refuses_arrival : ∃ s₀ s, create .generous true ⟨2, 4, 4, 16⟩ = .ok s₀ ∧
    Run Step s₀ stoppedMeeting s ∧ ¬ BarrierLaw stoppedMeeting s := by
  have hrun : ∃ s₀, create .generous true ⟨2, 4, 4, 16⟩ = .ok s₀ ∧ ∃ s, Run Step s₀ stoppedMeeting s := by
    exact ⟨_, rfl, _,
      Run.cons ⟨rfl, rfl⟩ <|
      Run.cons ⟨rfl, by decide, rfl, rfl⟩ <|
      Run.cons ⟨by decide, rfl, rfl, rfl⟩ <|
      Run.cons ⟨rfl, rfl⟩ <|
      Run.cons ⟨by decide, rfl, rfl⟩ <|
      Run.cons ⟨rfl, rfl, by decide, rfl⟩ <|
      Run.cons ⟨rfl, rfl⟩ <|
      Run.cons ⟨rfl, by decide, rfl, rfl⟩ Run.nil⟩
  obtain ⟨s₀, hc, s, hr⟩ := hrun
  refine ⟨s₀, s, hc, hr, fun h => ?_⟩
  have hmem : RuntimeEvent.arrive .generous 0 (some .invalidArg) ∈ stoppedMeeting := by
    simp [stoppedMeeting]
  cases h.accepted _ _ _ hmem

end Att1.Runtime
