import Att1.Lib.Runs
import Att1.Runtime.Model

/-!
# Att1.Runtime.Threads — starting and stopping the tile threads (`src/runtime.c`, `simulator/sim_tile_thread.c`)

The caller of the runtime is one thread, every created tile thread another; both are cut at their locks.  `host`
says where the caller stands in `att1_runtime_start` or `att1_runtime_stop`, and the steps of the tile threads come
in between in any order.  The barrier is left out: what a start does to it is in `Runtime.start`.

* `hostStep`, `threadStep`: one section of the caller, and one of a tile thread.
* `ThreadsInv`: which threads can still run, as long as every creation has succeeded.
* `start_rollback_iff`: failed starts leave nothing running, all through a run, exactly when no start fails.
-/

open Att1.Lib

namespace Att1

/-- `att1_runtime_command_type`. -/
inductive RuntimeCommandType
  | loadModelShard
  | runLayerRange
  | sendActivation
  | recvActivation
  | syncBarrier
  | shutdown
  deriving DecidableEq, Repr

/-- `att1_runtime_command`, less the arguments that no section here reads. -/
structure RuntimeCommand where
  type : RuntimeCommandType
  payloadBytes : ℕ

/-- `ATT1_RUNTIME_MAX_COMMAND_PAYLOAD`. -/
def maxCommandPayload : ℕ := 64

/-- Where a tile thread stands in `att1_sim_tile_thread_main`. -/
inductive ThreadPhase
  /-- before it marks its tile running -/
  | entering
  /-- at its queue -/
  | ready
  /-- with a command it has taken -/
  | processing (command : RuntimeCommand)
  /-- past its loop -/
  | leaving
  | exited

/-- A created thread. -/
structure TileThread where
  tile : ℕ
  phase : ThreadPhase
  joined : Bool

/-- Where the caller stands; the number is the `i` of its loop. -/
inductive HostPhase
  | idle
  /-- first loop of `att1_runtime_start`, before the queue -/
  | clearing (i : ℕ)
  /-- first loop of `att1_runtime_start`, before the mark -/
  | marking (i : ℕ)
  /-- second loop of `att1_runtime_start` -/
  | creating (i : ℕ)
  /-- last loop of `att1_runtime_stop`, before the join -/
  | joining (i : ℕ)
  /-- last loop of `att1_runtime_stop`, before the mark -/
  | unmarking (i : ℕ)
  deriving DecidableEq

/-- What `malloc` and `pthread_create` answer in one turn of the second loop. -/
inductive Creation
  | created
  | noMemory
  | noThread
  deriving DecidableEq, Repr

/-- What `att1_runtime` and its `impl` hold of the threads.  `threads` is the array of the code: it holds the place
of a thread in `created`, where all threads ever created stand. -/
structure RuntimeThreads where
  config : RuntimeConfig
  queues : ℕ → List RuntimeCommand
  running : ℕ → Bool
  stopRequested : Bool
  threadsStarted : Bool
  created : List TileThread
  threads : ℕ → ℕ
  host : HostPhase

namespace RuntimeThreads

/-- What `att1_runtime_create` leaves. -/
def create (config : RuntimeConfig) : RuntimeThreads where
  config := config
  queues _ := []
  running _ := false
  stopRequested := false
  threadsStarted := false
  created := []
  threads _ := 0
  host := .idle

/-- `att1_runtime_mark_tile_running`. -/
def markTileRunning (s : RuntimeThreads) (tile : ℕ) (running : Bool) : RuntimeThreads :=
  { s with running := if tile < s.config.tileCount then Function.update s.running tile running else s.running }

/-- `att1_runtime_start` up to its loops, with what it returns when it is refused. -/
def start (s : RuntimeThreads) : RuntimeThreads × Option Status :=
  if s.threadsStarted then (s, some .alreadyStarted)
  else ({ s with stopRequested := false, host := .clearing 0 }, none)

/-- `att1_runtime_stop` up to its joins, with what it returns when there is nothing to stop. -/
def stop (s : RuntimeThreads) : RuntimeThreads × Option Status :=
  if s.threadsStarted = false then (s, some .ok)
  else ({ s with stopRequested := true, host := .joining 0 }, none)

/-- A failed turn of the second loop of `att1_runtime_start`: `att1_runtime_stop` is called, and its result
dropped. -/
def failStart (s : RuntimeThreads) (status : Status) : RuntimeThreads × Option Status :=
  ({ s with host := .idle }.stop.1, some status)

/-- `att1_runtime_send_command`. -/
def sendCommand (s : RuntimeThreads) (tile : ℕ) (command : RuntimeCommand) : RuntimeThreads × Status :=
  if s.threadsStarted = false then (s, .invalidArg)
  else if ¬ tile < s.config.tileCount then (s, .invalidArg)
  else if maxCommandPayload < command.payloadBytes then (s, .invalidArg)
  else if (s.queues tile).length = s.config.commandQueueCapacity then (s, .queueFull)
  else ({ s with queues := Function.update s.queues tile (s.queues tile ++ [command]) }, .ok)

/-- Thread `id` moves on. -/
def setPhase (s : RuntimeThreads) (id : ℕ) (phase : ThreadPhase) : RuntimeThreads :=
  { s with created := s.created.modify id fun t => { t with phase := phase } }

/-- `pthread_join` of a thread that has exited. -/
def setJoined (s : RuntimeThreads) (id : ℕ) : RuntimeThreads :=
  { s with created := s.created.modify id fun t => { t with joined := true } }

/-- A thread that has exited can be joined. -/
def hasExited (s : RuntimeThreads) (id : ℕ) : Bool :=
  match s.created[id]? with
  | some ⟨_, .exited, _⟩ => true
  | _ => false

/-- The next section of a start or a stop, with what the call returns if it ends: `none` when the caller is in
neither, or waits for a thread. -/
def hostStep (s : RuntimeThreads) (creation : Creation) : Option (RuntimeThreads × Option Status) :=
  match s.host with
  | .idle => none
  | .clearing i =>
    if i < s.config.tileCount then
      some ({ s with queues := Function.update s.queues i [], host := .marking i }, none)
    else some ({ s with host := .creating 0 }, none)
  | .marking i => some ({ s.markTileRunning i true with host := .clearing (i + 1) }, none)
  | .creating i =>
    if i < s.config.tileCount then
      match creation with
      | .created =>
        some
          ({ s with
              created := s.created ++ [⟨i, .entering, false⟩]
              threads := Function.update s.threads i s.created.length
              host := .creating (i + 1) }, none)
      | .noMemory => some (s.failStart .oom)
      | .noThread => some (s.failStart .invalidArg)
    else some ({ s with threadsStarted := true, host := .idle }, some .ok)
  | .joining i =>
    if i < s.config.tileCount then
      if s.hasExited (s.threads i) then some ({ s.setJoined (s.threads i) with host := .unmarking i }, none)
      else none
    else some ({ s with threadsStarted := false, stopRequested := false, host := .idle }, some .ok)
  | .unmarking i => some ({ s.markTileRunning i false with host := .joining (i + 1) }, none)

/-- The next section of a tile thread; `none` while it waits at its queue, and after its end. -/
def threadStep (s : RuntimeThreads) (id : ℕ) : Option RuntimeThreads :=
  match s.created[id]? with
  | none => none
  | some t =>
    match t.phase with
    | .entering => some ((s.setPhase id .ready).markTileRunning t.tile true)
    | .ready =>
      match s.queues t.tile with
      | command :: rest =>
        some { s.setPhase id (.processing command) with queues := Function.update s.queues t.tile rest }
      | [] => if s.stopRequested then some (s.setPhase id .leaving) else none
    | .processing command => some (s.setPhase id (if command.type = .shutdown then .leaving else .ready))
    | .leaving => some ((s.setPhase id .exited).markTileRunning t.tile false)
    | .exited => none

end RuntimeThreads

/-- A step of the caller or of a tile thread, with what a call returned that ended in it. -/
inductive ThreadEvent
  | start (returned : Option Status)
  | stop (returned : Option Status)
  | send (tile : ℕ) (command : RuntimeCommand) (status : Status)
  | host (creation : Creation) (returned : Option Status)
  | thread (id : ℕ)

namespace RuntimeThreads

/-- One step: the caller makes a call when the last one has ended. -/
def Step (s : RuntimeThreads) : ThreadEvent → RuntimeThreads → Prop
  | .start returned, t => s.host = .idle ∧ s.start = (t, returned)
  | .stop returned, t => s.host = .idle ∧ s.stop = (t, returned)
  | .send tile command status, t => s.host = .idle ∧ s.sendCommand tile command = (t, status)
  | .host creation returned, t => s.hostStep creation = some (t, returned)
  | .thread id, t => s.threadStep id = some t

/-- What a start that fails at `k` must leave: an error, the threads created before joined, no tile running, and a
runtime that can be started. -/
structure NothingLeft (s : RuntimeThreads) (k : ℕ) (status : Status) : Prop where
  error : status ≠ .ok
  joined : ∀ i < k, ∀ t, s.created[s.threads i]? = some t → t.joined = true
  stopped : ∀ i < s.config.tileCount, s.running i = false
  startable : s.host = .idle ∧ s.threadsStarted = false

/-- The start that is under way in `s` fails at `k`. -/
def FailsAt (s : RuntimeThreads) (creation : Creation) (k : ℕ) : Prop :=
  s.host = .creating k ∧ k < s.config.tileCount ∧ creation ≠ .created

/-- A start that fails in the last step of a run returns, and leaves nothing running. -/
def RolledBack (s₀ : RuntimeThreads) (es : List ThreadEvent) (s : RuntimeThreads) : Prop :=
  ∀ js creation returned t k, es = js ++ [.host creation returned] → Run Step s₀ js t → t.FailsAt creation k →
    ∃ status, returned = some status ∧ s.NothingLeft k status

/-- Every thread asked for is created. -/
def Creates (s : RuntimeThreads) : ThreadEvent → Prop
  | .host creation _ => ∀ k, ¬ s.FailsAt creation k
  | _ => True

/-! ### The invariant -/

/-- The tiles whose threads may run. -/
def live (s : RuntimeThreads) : ℕ × ℕ :=
  match s.host with
  | .idle => if s.threadsStarted then (0, s.config.tileCount) else (0, 0)
  | .clearing _ | .marking _ => (0, 0)
  | .creating i => (0, i)
  | .joining i => (i, s.config.tileCount)
  | .unmarking i => (i + 1, s.config.tileCount)

/-- The tiles that a start has prepared: cleared, and marked. -/
def prepared (s : RuntimeThreads) : ℕ × ℕ :=
  match s.host with
  | .clearing i => (i, i)
  | .marking i => (i + 1, i)
  | .creating _ => (s.config.tileCount, s.config.tileCount)
  | _ => (0, 0)

/-- A start is under way. -/
def starting (s : RuntimeThreads) : Bool :=
  match s.host with
  | .clearing _ | .marking _ | .creating _ => true
  | _ => false

/-- As long as every creation has succeeded, a thread that has not exited is the one of a live tile; and while a
start is under way it finds neither a command nor a request to stop. -/
structure ThreadsInv (s : RuntimeThreads) : Prop where
  owned : ∀ id t, s.created[id]? = some t → t.phase = .exited ∨
    s.live.1 ≤ t.tile ∧ t.tile < s.live.2 ∧ s.threads t.tile = id
  calm : s.starting = true → s.threadsStarted = false ∧ s.stopRequested = false ∧ s.live.2 ≤ s.prepared.1
  cleared : s.starting = true → ∀ i < s.prepared.1, s.queues i = []
  marked : s.starting = true → ∀ i < s.prepared.2, s.running i = true
  waits : s.starting = true → ∀ t ∈ s.created, t.phase = .exited ∨ t.phase = .entering ∨ t.phase = .ready
  marking_lt : ∀ i, s.host = .marking i → i < s.config.tileCount

variable {s s' s₀ : RuntimeThreads} {id : ℕ} {es : List ThreadEvent} {creation : Creation} {returned : Option Status}

theorem create_threadsInv (config : RuntimeConfig) : (create config).ThreadsInv := by
  refine ⟨fun id t h => ?_, fun h => ?_, fun h => ?_, fun h => ?_, fun h => ?_, fun i h => ?_⟩ <;> cases h

theorem markTileRunning_running (s : RuntimeThreads) (tile : ℕ) (running : Bool) (i : ℕ) :
    (s.markTileRunning tile running).running i =
      if i = tile ∧ tile < s.config.tileCount then running else s.running i := by
  unfold markTileRunning
  by_cases hlt : tile < s.config.tileCount
  · simp only [hlt, if_true, and_true, Function.update_apply]
  · simp only [hlt, if_false, and_false]

/-- What a section of thread `id` does: it moves that thread on, may take a command, and clears the mark of its
tile only at its end. -/
structure Moves (s : RuntimeThreads) (id : ℕ) (t : TileThread) (phase : ThreadPhase) (s' : RuntimeThreads) :
    Prop where
  config : s'.config = s.config
  host : s'.host = s.host
  stopRequested : s'.stopRequested = s.stopRequested
  threadsStarted : s'.threadsStarted = s.threadsStarted
  threads : s'.threads = s.threads
  created : s'.created = s.created.modify id fun t => { t with phase := phase }
  queues : ∀ i, s.queues i = [] → s'.queues i = []
  running : ∀ i, s.running i = true → s'.running i = true ∨ t.phase = .leaving
  alive : t.phase ≠ .exited
  entering : t.phase = .entering → phase = .ready
  ready : t.phase = .ready → s.queues t.tile = [] → s.stopRequested = true

theorem threadStep_moves (h : s.threadStep id = some s') :
    ∃ t phase, s.created[id]? = some t ∧ Moves s id t phase s' := by
  unfold threadStep at h
  cases ht : s.created[id]? with
  | none =>
    rw [ht] at h
    cases h
  | some t =>
    rw [ht] at h
    obtain ⟨tile, phase, joined⟩ := t
    cases phase with
    | entering =>
      obtain rfl := Option.some.inj h
      refine ⟨_, .ready, rfl, rfl, rfl, rfl, rfl, rfl, rfl, fun _ hq => hq, fun i hi => .inl ?_, by simp, fun _ => rfl,
        by simp⟩
      rw [markTileRunning_running]
      split_ifs
      · rfl
      · exact hi
    | ready =>
      simp only at h
      cases hq : s.queues tile with
      | nil =>
        rw [hq] at h
        simp only [Option.ite_none_right_eq_some] at h
        obtain ⟨hstop, h⟩ := h
        obtain rfl := Option.some.inj h
        exact ⟨_, .leaving, rfl, rfl, rfl, rfl, rfl, rfl, rfl, fun _ hq => hq, fun i hi => .inl hi, by simp, by simp,
          fun _ _ => hstop⟩
      | cons command rest =>
        rw [hq] at h
        obtain rfl := Option.some.inj h
        refine ⟨_, .processing command, rfl, rfl, rfl, rfl, rfl, rfl, rfl, fun i hi => ?_, fun i hi => .inl hi, by simp,
          by simp, fun _ hnil => ?_⟩
        · show Function.update s.queues tile rest i = []
          rw [Function.update_of_ne, hi]
          rintro rfl
          rw [hi] at hq
          cases hq
        · rw [hq] at hnil
          cases hnil
    | processing command =>
      obtain rfl := Option.some.inj h
      exact ⟨_, _, rfl, rfl, rfl, rfl, rfl, rfl, rfl, fun _ hq => hq, fun i hi => .inl hi, by simp, by simp, by simp⟩
    | leaving =>
      obtain rfl := Option.some.inj h
      exact ⟨_, .exited, rfl, rfl, rfl, rfl, rfl, rfl, rfl, fun _ hq => hq, fun i _ => .inr rfl, by simp, by simp,
        by simp⟩
    | exited => cases h

/-- A section of a tile thread. -/
theorem ThreadsInv.thread (h : s.ThreadsInv) (hs : s.threadStep id = some s') : s'.ThreadsInv := by
  obtain ⟨t, phase, ht, hm⟩ := threadStep_moves hs
  have hlive : s'.live = s.live := by
    unfold live
    rw [hm.host, hm.threadsStarted, hm.config]
  have hprepared : s'.prepared = s.prepared := by
    unfold prepared
    rw [hm.host, hm.config]
  have hstarting : s'.starting = s.starting := by
    unfold starting
    rw [hm.host]
  have hown := (h.owned id t ht).resolve_left hm.alive
  -- while a start is under way the thread can only come to its queue
  have henter : s.starting = true → t.phase = .entering := by
    intro hstart
    rcases h.waits hstart t (List.mem_of_getElem? ht) with hp | hp | hp
    · exact absurd hp hm.alive
    · exact hp
    · obtain ⟨-, hstop, hle⟩ := h.calm hstart
      have hq := h.cleared hstart t.tile (lt_of_lt_of_le hown.2.1 hle)
      rw [hm.ready hp hq] at hstop
      cases hstop
  refine ⟨fun j u hu => ?_, ?_, ?_, ?_, ?_, ?_⟩
  · rw [hm.created, List.getElem?_modify] at hu
    rw [hlive, hm.threads]
    obtain ⟨u₀, hu₀, rfl⟩ := Option.map_eq_some_iff.mp hu
    by_cases hj : id = j
    · subst hj
      obtain rfl := Option.some.inj (ht.symm.trans hu₀)
      rw [if_pos rfl]
      exact Or.inr hown
    · rw [if_neg hj]
      exact h.owned j u₀ hu₀
  · rw [hstarting, hm.threadsStarted, hm.stopRequested, hlive, hprepared]
    exact h.calm
  · rw [hstarting, hprepared]
    intro hstart i hi
    exact hm.queues i (h.cleared hstart i hi)
  · rw [hstarting, hprepared]
    intro hstart i hi
    refine (hm.running i (h.marked hstart i hi)).resolve_right ?_
    rw [henter hstart]
    simp
  · rw [hstarting, hm.created]
    intro hstart u hu
    obtain ⟨j, hj⟩ := List.mem_iff_getElem?.mp hu
    rw [List.getElem?_modify] at hj
    obtain ⟨u₀, hu₀, rfl⟩ := Option.map_eq_some_iff.mp hj
    split_ifs
    · exact Or.inr (Or.inr (hm.entering (henter hstart)))
    · exact h.waits hstart u₀ (List.mem_of_getElem? hu₀)
  · rw [hm.host, hm.config]
    exact h.marking_lt

/-- Where no tile is live, every thread has exited. -/
theorem ThreadsInv.exited (h : s.ThreadsInv) (hlive : s.live.2 ≤ s.live.1) : ∀ t ∈ s.created, t.phase = .exited := by
  intro t ht
  obtain ⟨id, hid⟩ := List.mem_iff_getElem?.mp ht
  refine (h.owned id t hid).resolve_right ?_
  rintro ⟨h1, h2, -⟩
  omega

/-- Before its second loop a start finds every thread exited. -/
theorem ThreadsInv.of_exited (hexit : ∀ t ∈ s.created, t.phase = .exited) (hlive : s.live.2 = 0)
    (hcalm : s.starting = true → s.threadsStarted = false ∧ s.stopRequested = false)
    (hcleared : s.starting = true → ∀ i < s.prepared.1, s.queues i = [])
    (hmarked : s.starting = true → ∀ i < s.prepared.2, s.running i = true)
    (hmarking : ∀ i, s.host = .marking i → i < s.config.tileCount) : s.ThreadsInv := by
  refine ⟨fun id t ht => .inl (hexit t (List.mem_of_getElem? ht)), fun hst => ?_, hcleared, hmarked,
    fun _ t ht => .inl (hexit t ht), hmarking⟩
  obtain ⟨hstarted, hstop⟩ := hcalm hst
  exact ⟨hstarted, hstop, hlive.le.trans (Nat.zero_le _)⟩

theorem ThreadsInv.clearing {i : ℕ} (h : s.ThreadsInv) (hh : s.host = .clearing i)
    (hs : s.hostStep creation = some (s', returned)) : s'.ThreadsInv := by
  have hst : s.starting = true := by
    unfold starting
    rw [hh]
  have hexit := h.exited (by
    unfold live
    rw [hh])
  have hcleared := h.cleared hst
  have hmarked := h.marked hst
  unfold prepared at hcleared hmarked
  obtain ⟨hstarted, hstop, -⟩ := h.calm hst
  unfold hostStep at hs
  simp only [hh] at hs hcleared hmarked
  split_ifs at hs with hi
  · obtain ⟨rfl, -⟩ := Prod.mk.inj (Option.some.inj hs)
    refine of_exited hexit rfl (fun _ => ⟨hstarted, hstop⟩) (fun _ j hj => ?_) (fun _ j hj => hmarked j hj)
      fun j hj => ?_
    swap
    · obtain rfl := HostPhase.marking.inj hj
      exact hi
    have hj : j < i + 1 := hj
    show Function.update s.queues i [] j = []
    rcases eq_or_ne j i with rfl | hne
    · exact Function.update_self ..
    · rw [Function.update_of_ne hne]
      exact hcleared j (by omega)
  · obtain ⟨rfl, -⟩ := Prod.mk.inj (Option.some.inj hs)
    refine of_exited hexit rfl (fun _ => ⟨hstarted, hstop⟩) (fun _ j hj => ?_) (fun _ j hj => ?_)
      fun _ hno => by cases hno
    · exact hcleared j (lt_of_lt_of_le hj (not_lt.mp hi))
    · exact hmarked j (lt_of_lt_of_le hj (not_lt.mp hi))

theorem ThreadsInv.marking {i : ℕ} (h : s.ThreadsInv) (hh : s.host = .marking i)
    (hs : s.hostStep creation = some (s', returned)) : s'.ThreadsInv := by
  have hst : s.starting = true := by
    unfold starting
    rw [hh]
  have hexit := h.exited (by
    unfold live
    rw [hh])
  have hcleared := h.cleared hst
  have hmarked := h.marked hst
  unfold prepared at hcleared hmarked
  obtain ⟨hstarted, hstop, -⟩ := h.calm hst
  unfold hostStep at hs
  simp only [hh] at hs hcleared hmarked
  obtain ⟨rfl, -⟩ := Prod.mk.inj (Option.some.inj hs)
  refine of_exited hexit rfl (fun _ => ⟨hstarted, hstop⟩) (fun _ j hj => hcleared j hj) (fun _ j hj => ?_)
    fun _ hno => by cases hno
  have hj : j < i + 1 := hj
  show (s.markTileRunning i true).running j = true
  rw [markTileRunning_running]
  split_ifs with hij
  · rfl
  · have hne : j ≠ i := fun heq => hij ⟨heq, h.marking_lt i hh⟩
    exact hmarked j (by omega)

theorem ThreadsInv.creating {i : ℕ} (h : s.ThreadsInv) (hh : s.host = .creating i)
    (hc : ∀ k, ¬ s.FailsAt creation k)
    (hs : s.hostStep creation = some (s', returned)) : s'.ThreadsInv := by
  have hst : s.starting = true := by
    unfold starting
    rw [hh]
  have hown := h.owned
  have hcleared := h.cleared hst
  have hmarked := h.marked hst
  unfold live at hown
  unfold prepared at hcleared hmarked
  obtain ⟨hstarted, hstop, hle⟩ := h.calm hst
  unfold hostStep at hs
  simp only [hh] at hs hcleared hmarked hown
  split_ifs at hs with hi
  · have hcreated : creation = .created := by
      by_contra hne
      exact hc i ⟨hh, hi, hne⟩
    subst hcreated
    obtain ⟨rfl, -⟩ := Prod.mk.inj (Option.some.inj hs)
    refine ⟨fun id t ht => ?_, fun _ => ⟨hstarted, hstop, hi⟩, fun _ j hj => hcleared j hj,
      fun _ j hj => hmarked j hj, fun _ t ht => ?_, fun _ hno => by cases hno⟩
    · have ht : (s.created ++ [⟨i, .entering, false⟩])[id]? = some t := ht
      show t.phase = .exited ∨ 0 ≤ t.tile ∧ t.tile < i + 1 ∧ Function.update s.threads i s.created.length t.tile = id
      rcases lt_or_ge id s.created.length with hid | hid
      · rw [List.getElem?_append_left hid] at ht
        refine (hown id t ht).imp_right fun ⟨h1, h2, h3⟩ => ⟨h1, by omega, ?_⟩
        rw [Function.update_of_ne h2.ne]
        exact h3
      · rw [List.getElem?_append_right hid, List.getElem?_singleton] at ht
        obtain ⟨hid', ht⟩ := Option.ite_none_right_eq_some.mp ht
        obtain rfl := Option.some.inj ht
        refine Or.inr ⟨Nat.zero_le _, Nat.lt_succ_self i, ?_⟩
        rw [Function.update_self]
        omega
    · rcases List.mem_append.mp ht with hold | hnew
      · exact h.waits hst t hold
      · obtain rfl := List.mem_singleton.mp hnew
        exact Or.inr (Or.inl rfl)
  · obtain ⟨rfl, -⟩ := Prod.mk.inj (Option.some.inj hs)
    refine ⟨fun id t ht => ?_, ?_, ?_, ?_, ?_, ?_⟩
    · refine (hown id t ht).imp_right fun ⟨h1, h2, h3⟩ => ⟨h1, ?_, h3⟩
      unfold live prepared at hle
      simp only [hh] at hle
      exact lt_of_lt_of_le h2 hle
    · intro hno
      cases hno
    · intro hno
      cases hno
    · intro hno
      cases hno
    · intro hno
      cases hno
    · intro _ hno
      cases hno

theorem hasExited_iff : s.hasExited id = true ↔ ∃ t, s.created[id]? = some t ∧ t.phase = .exited := by
  unfold hasExited
  cases s.created[id]? with
  | none => simp
  | some t =>
    obtain ⟨tile, phase, joined⟩ := t
    cases phase <;> simp

/-- A step of `att1_runtime_stop`, and the end of a start, need no more than the owners of the threads. -/
theorem ThreadsInv.of_owned (hst : s.starting = false)
    (hown : ∀ id t, s.created[id]? = some t → t.phase = .exited ∨
      s.live.1 ≤ t.tile ∧ t.tile < s.live.2 ∧ s.threads t.tile = id) : s.ThreadsInv := by
  have hno : ¬ s.starting = true := by
    rw [hst]
    exact Bool.false_ne_true
  refine ⟨hown, fun h => absurd h hno, fun h => absurd h hno, fun h => absurd h hno, fun h => absurd h hno, ?_⟩
  intro i hi
  unfold starting at hno
  rw [hi] at hno
  exact absurd rfl hno

theorem ThreadsInv.joining {i : ℕ} (h : s.ThreadsInv) (hh : s.host = .joining i)
    (hs : s.hostStep creation = some (s', returned)) : s'.ThreadsInv := by
  have hown := h.owned
  unfold live at hown
  unfold hostStep at hs
  simp only [hh] at hs hown
  split_ifs at hs with hi hexit
  · obtain ⟨rfl, -⟩ := Prod.mk.inj (Option.some.inj hs)
    refine of_owned rfl fun id t ht => ?_
    obtain ⟨e, he, hphase⟩ := hasExited_iff.mp hexit
    have ht : (s.created.modify (s.threads i) fun t => { t with joined := true })[id]? = some t := ht
    rw [List.getElem?_modify] at ht
    obtain ⟨u, hu, rfl⟩ := Option.map_eq_some_iff.mp ht
    have hu' := hown id u hu
    show _ ∨ i + 1 ≤ _ ∧ _
    by_cases hid : s.threads i = id
    · subst hid
      obtain rfl := Option.some.inj (he.symm.trans hu)
      rw [if_pos rfl]
      exact Or.inl hphase
    · rw [if_neg hid]
      refine hu'.imp_right fun ⟨h1, h2, h3⟩ => ⟨?_, h2, h3⟩
      have hne : u.tile ≠ i := by
        rintro rfl
        exact hid h3
      show i + 1 ≤ u.tile
      omega
  · obtain ⟨rfl, -⟩ := Prod.mk.inj (Option.some.inj hs)
    refine of_owned rfl fun id t ht => .inl ((hown id t ht).resolve_right ?_)
    rintro ⟨h1, h2, -⟩
    omega

theorem ThreadsInv.unmarking {i : ℕ} (h : s.ThreadsInv) (hh : s.host = .unmarking i)
    (hs : s.hostStep creation = some (s', returned)) : s'.ThreadsInv := by
  have hown := h.owned
  unfold live at hown
  unfold hostStep at hs
  simp only [hh] at hs hown
  obtain ⟨rfl, -⟩ := Prod.mk.inj (Option.some.inj hs)
  exact of_owned rfl hown

/-- A step in which no creation fails. -/
theorem ThreadsInv.step {e : ThreadEvent} (h : s.ThreadsInv) (hc : s.Creates e) (hs : Step s e s') :
    s'.ThreadsInv := by
  cases e with
  | start returned =>
    obtain ⟨hidle, hs⟩ := hs
    have hown := h.owned
    unfold live at hown
    simp only [hidle] at hown
    unfold start at hs
    split_ifs at hs with hstarted
    · obtain ⟨rfl, -⟩ := Prod.mk.inj hs
      exact h
    · obtain ⟨rfl, -⟩ := Prod.mk.inj hs
      rw [if_neg hstarted] at hown
      refine of_exited (fun t ht => ?_) rfl (fun _ => ⟨by simpa using hstarted, rfl⟩)
        (fun _ i hi => absurd hi (Nat.not_lt_zero i)) (fun _ i hi => absurd hi (Nat.not_lt_zero i))
        fun _ hno => by cases hno
      obtain ⟨id, hid⟩ := List.mem_iff_getElem?.mp ht
      exact (hown id t hid).resolve_right fun hno => absurd hno.2.1 (Nat.not_lt_zero _)
  | stop returned =>
    obtain ⟨hidle, hs⟩ := hs
    have hown := h.owned
    unfold live at hown
    simp only [hidle] at hown
    unfold stop at hs
    split_ifs at hs with hstarted
    · obtain ⟨rfl, -⟩ := Prod.mk.inj hs
      exact h
    · obtain ⟨rfl, -⟩ := Prod.mk.inj hs
      rw [if_pos (by simpa using hstarted)] at hown
      exact of_owned rfl hown
  | send tile command status =>
    obtain ⟨hidle, hs⟩ := hs
    have hst : s.starting = false := by
      unfold starting
      rw [hidle]
    unfold sendCommand at hs
    split_ifs at hs with h1 h2 h3 h4
    · obtain ⟨rfl, -⟩ := Prod.mk.inj hs
      exact h
    · obtain ⟨rfl, -⟩ := Prod.mk.inj hs
      exact h
    · obtain ⟨rfl, -⟩ := Prod.mk.inj hs
      exact h
    · obtain ⟨rfl, -⟩ := Prod.mk.inj hs
      exact of_owned hst h.owned
    · obtain ⟨rfl, -⟩ := Prod.mk.inj hs
      exact h
  | host creation returned =>
    cases hh : s.host with
    | idle =>
      unfold Step hostStep at hs
      rw [hh] at hs
      cases hs
    | clearing i => exact h.clearing hh hs
    | marking i => exact h.marking hh hs
    | creating i => exact h.creating hh hc hs
    | joining i => exact h.joining hh hs
    | unmarking i => exact h.unmarking hh hs
  | thread id => exact h.thread hs

/-! ### Runs -/

theorem step_deterministic : Deterministic Step := by
  intro s e t u ht hu
  cases e with
  | start returned => exact (Prod.mk.inj (ht.2.symm.trans hu.2)).1
  | stop returned => exact (Prod.mk.inj (ht.2.symm.trans hu.2)).1
  | send tile command status => exact (Prod.mk.inj (ht.2.symm.trans hu.2)).1
  | host creation returned => exact (Prod.mk.inj (Option.some.inj (Eq.trans (Eq.symm ht) hu))).1
  | thread id => exact Option.some.inj (Eq.trans (Eq.symm ht) hu)

/-- **A failed start** returns at once from its stop: it joins nothing, and every tile stays marked running. -/
theorem failed_start_spec {k : ℕ} (h : s.ThreadsInv) (hf : s.FailsAt creation k)
    (hs : s.hostStep creation = some (s', returned)) :
    s' = { s with host := .idle } ∧ (∃ status, returned = some status ∧ status ≠ .ok) ∧
      ∀ i < s'.config.tileCount, s'.running i = true := by
  obtain ⟨hh, hk, hne⟩ := hf
  have hst : s.starting = true := by
    unfold starting
    rw [hh]
  have hmarked := h.marked hst
  obtain ⟨hstarted, -⟩ := h.calm hst
  have hstop : { s with host := .idle }.stop = ({ s with host := .idle }, some .ok) := if_pos hstarted
  unfold prepared at hmarked
  unfold hostStep at hs
  simp only [hh, hk, if_true, failStart, hstop] at hs hmarked
  cases creation with
  | created => exact absurd rfl hne
  | noMemory =>
    obtain ⟨rfl, rfl⟩ := Prod.mk.inj (Option.some.inj hs)
    exact ⟨rfl, ⟨_, rfl, by decide⟩, hmarked⟩
  | noThread =>
    obtain ⟨rfl, rfl⟩ := Prod.mk.inj (Option.some.inj hs)
    exact ⟨rfl, ⟨_, rfl, by decide⟩, hmarked⟩

/-- The invariant of a run. -/
structure RunInv (s₀ : RuntimeThreads) (es : List ThreadEvent) (s : RuntimeThreads) : Prop where
  run : Run Step s₀ es s
  threads : s.ThreadsInv
  rolledBack : RolledBack s₀ es s

theorem RunInv.step {e : ThreadEvent} (h : RunInv s₀ es s) (hc : s.Creates e) (hs : Step s e s') :
    RunInv s₀ (es ++ [e]) s' := by
  refine ⟨h.run.snoc hs, h.threads.step hc hs, fun js creation returned t k hes hr hf => ?_⟩
  obtain ⟨rfl, he⟩ := List.append_inj' hes rfl
  obtain rfl : e = .host creation returned := by simpa using he
  obtain rfl := h.run.det step_deterministic hr
  exact absurd hf (hc k)

theorem RunInv.not_rolledBack {e : ThreadEvent} (h : RunInv s₀ es s) (hc : ¬ s.Creates e) (hs : Step s e s') :
    ¬ RolledBack s₀ (es ++ [e]) s' := by
  intro hback
  cases e with
  | host creation returned =>
    obtain ⟨k, hf⟩ := not_forall_not.mp hc
    obtain ⟨-, -, hrunning⟩ := failed_start_spec h.threads hf hs
    obtain ⟨status, -, hleft⟩ := hback es creation returned s k rfl h.run hf
    have hk : k < s'.config.tileCount := by
      obtain ⟨rfl, -⟩ := failed_start_spec h.threads hf hs
      exact hf.2.1
    have hstopped := hleft.stopped k hk
    rw [hrunning k hk] at hstopped
    cases hstopped
  | _ => exact hc trivial

/-- **Rollback of a failed start.**  In every run of starts, stops, commands and tile threads from a created runtime,
in any order of their sections, failed starts leave nothing running exactly as long as no start fails: the first one
that does, at any index, leaves its threads unjoined and every tile marked running. -/
theorem start_rollback_iff {config : RuntimeConfig} (hr : Run Step (create config) es s) :
    Lawful Step (create config) (RolledBack (create config)) es ↔ Guarded Step (create config) Creates es := by
  have h0 : RunInv (create config) [] (create config) := by
    refine ⟨Run.nil, create_threadsInv config, fun js creation returned t k hes => ?_⟩
    simp at hes
  refine hr.law_iff_guard step_deterministic h0 ?_ ?_ ?_
  · intro is t hi
    exact hi.rolledBack
  · intro is t e u hi hc hs
    exact hi.step hc hs
  · intro is t e u hi hc hs
    exact hi.not_rolledBack hc hs

/-- A turn of a loop in which nothing is returned. -/
def turn : ThreadEvent := .host .created none

/-- One tile is started and stopped; its thread sees the request to stop. -/
def startAndStop : List ThreadEvent :=
  [.start none, turn, turn, turn, turn, .host .created (some .ok), .thread 0, .stop none, .thread 0, .thread 0, turn,
    turn, .host .created (some .ok)]

theorem start_rollback_one_tile : ∃ s, Run Step (create ⟨1, 1, 1, 1⟩) startAndStop s ∧
    Lawful Step (create ⟨1, 1, 1, 1⟩) (RolledBack (create ⟨1, 1, 1, 1⟩)) startAndStop := by
  have hrun : ∃ s, Run (fun s e s' => Step s e s' ∧ s.Creates e) (create ⟨1, 1, 1, 1⟩) startAndStop s := by
    unfold startAndStop turn
    refine ⟨_, Run.cons ⟨⟨rfl, rfl⟩, trivial⟩ <| Run.cons ⟨rfl, ?_⟩ <| Run.cons ⟨rfl, ?_⟩ <| Run.cons ⟨rfl, ?_⟩ <|
      Run.cons ⟨rfl, ?_⟩ <| Run.cons ⟨rfl, ?_⟩ <| Run.cons ⟨rfl, trivial⟩ <| Run.cons ⟨⟨rfl, rfl⟩, trivial⟩ <|
      Run.cons ⟨rfl, trivial⟩ <| Run.cons ⟨rfl, trivial⟩ <| Run.cons ⟨rfl, ?_⟩ <| Run.cons ⟨rfl, ?_⟩ <|
      Run.cons ⟨rfl, ?_⟩ Run.nil⟩
    all_goals
      intro k hf
      exact hf.2.2 rfl
  obtain ⟨s, hr⟩ := hrun
  obtain ⟨hr, hg⟩ := hr.guarded step_deterministic
  exact ⟨s, hr, (start_rollback_iff hr).mpr hg⟩

/-- The first of two threads is created, the second is not. -/
def startFails : List ThreadEvent :=
  [.start none, turn, turn, turn, turn, turn, turn, .host .noThread (some .invalidArg)]

/-- The first thread is neither joined nor at its end, both tiles are marked running, and a stop changes nothing. -/
theorem failed_start_leaves_thread : ∃ s, Run Step (create ⟨2, 1, 1, 1⟩) startFails s ∧
    ¬ RolledBack (create ⟨2, 1, 1, 1⟩) startFails s ∧ s.created[s.threads 0]? = some ⟨0, .entering, false⟩ ∧
    s.running 0 = true ∧ s.running 1 = true ∧ s.stop = (s, some .ok) := by
  have hrun : ∃ t s, Run Step (create ⟨2, 1, 1, 1⟩) [.start none, turn, turn, turn, turn, turn, turn] t ∧
      Step t (.host .noThread (some .invalidArg)) s ∧ t.FailsAt .noThread 1 ∧
      s.created[s.threads 0]? = some ⟨0, .entering, false⟩ ∧ s.running 0 = true ∧ s.running 1 = true ∧
      s.stop = (s, some .ok) := by
    unfold turn
    refine ⟨_, _, Run.cons ⟨rfl, rfl⟩ <| Run.cons rfl <| Run.cons rfl <| Run.cons rfl <| Run.cons rfl <|
      Run.cons rfl <| Run.cons rfl Run.nil, rfl, ?_, rfl, rfl, rfl, rfl⟩
    exact ⟨rfl, by decide, by decide⟩
  obtain ⟨t, s, hr, hs, hf, hthread, h0, h1, hstop⟩ := hrun
  refine ⟨s, hr.snoc hs, fun hback => ?_, hthread, h0, h1, hstop⟩
  obtain ⟨status, -, hleft⟩ := hback _ _ _ t 1 rfl hr hf
  have hjoined : false = true := hleft.joined 0 Nat.one_pos _ hthread
  cases hjoined

end RuntimeThreads

end Att1
