import Att1.Lib.Ring
import Att1.Runtime.Threads

/-!
# Att1.Runtime.Queue — the command queues of the tiles (`src/runtime.c`, `simulator/sim_tile_thread.c`)

A tile's queue is a circular buffer with a head and a count.  `att1_runtime_send_command` writes behind the newest
command and `att1_runtime_dequeue` reads the oldest; each holds the queue's mutex, so that their sections follow one
another in some order.

* `sendCommand`, `dequeue`: the two sections.
* `BoundedFifo s tile accepted consumed`: what the queue of a tile is to keep.
* `tile_queues_fifo`: every run between a start and the next stop keeps it for every tile.
* `Represents`, `threads_represented`: the runtime of `Att1.Runtime.Threads`, whose queues are lists, is represented
  by this one in such runs.
-/

open Att1.Lib

namespace Att1

/-- `att1_runtime_command` with all its fields. -/
structure QueuedCommand extends RuntimeCommand where
  peerTile : UInt32 := 0
  layerStart : UInt32 := 0
  layerEnd : UInt32 := 0
  arg0 : UInt64 := 0
  tag : UInt64 := 0
  payload : Fin maxCommandPayload → UInt8 := fun _ => 0

/-- `sizeof (att1_runtime_command)`. -/
def commandBytes : ℕ := 104

/-- `att1_runtime_queue`. -/
structure RuntimeQueue where
  commands : ℕ → QueuedCommand
  head : ℕ
  count : ℕ

namespace RuntimeQueue

/-- `att1_runtime_queue_init`. -/
def init (host : Host) (capacity : ℕ) : Except Status RuntimeQueue :=
  if host.calloc capacity commandBytes = false then .error .oom
  else .ok { commands := fun _ => { type := .loadModelShard, payloadBytes := 0 }, head := 0, count := 0 }

/-- `att1_runtime_queue_clear`. -/
def clear (q : RuntimeQueue) : RuntimeQueue := { q with head := 0, count := 0 }

/-- What `att1_runtime_send_command` does to a queue with room. -/
def push (q : RuntimeQueue) (capacity : ℕ) (command : QueuedCommand) : RuntimeQueue :=
  let slot := sizeT (q.head + q.count) % capacity
  { q with commands := Function.update q.commands slot command, count := sizeT (q.count + 1) }

/-- What `att1_runtime_dequeue` does to a queue with a command. -/
def pop (q : RuntimeQueue) (capacity : ℕ) : RuntimeQueue :=
  { q with head := sizeT (q.head + 1) % capacity, count := q.count - 1 }

/-- The waiting commands, oldest first. -/
def contents (q : RuntimeQueue) (capacity : ℕ) : List QueuedCommand := window q.commands capacity q.head q.count

/-- The indices of a queue lie within its array. -/
structure InBounds (q : RuntimeQueue) (capacity : ℕ) : Prop where
  head_lt : q.head < capacity
  count_le : q.count ≤ capacity

end RuntimeQueue

/-- What `att1_runtime` and its `impl` hold of the queues. -/
structure RuntimeQueues where
  config : RuntimeConfig
  queues : ℕ → RuntimeQueue
  threadsStarted : Bool
  stopRequested : Bool

/-- A call on a queue, with what it returned. -/
inductive QueueEvent
  | start (status : Status)
  | send (tile : ℕ) (command : Option QueuedCommand) (status : Status)
  | dequeue (tile : ℕ) (command : Option QueuedCommand)

/-- The command a tile's queue has accepted. -/
def QueueEvent.accepted (tile : ℕ) : QueueEvent → List QueuedCommand
  | .send t command .ok => if t = tile then command.toList else []
  | _ => []

/-- The command a tile has consumed. -/
def QueueEvent.consumed (tile : ℕ) : QueueEvent → List QueuedCommand
  | .dequeue t command => if t = tile then command.toList else []
  | _ => []

namespace RuntimeQueues

/-- `att1_runtime_create`; `granted` says whether the host grants what it makes besides the queues. -/
def create (host : Host) (granted : Bool) (config : RuntimeConfig) : Except Status RuntimeQueues :=
  if Runtime.configValid config = false then .error .invalidArg
  else if granted = false then .error .oom
  else
    match RuntimeQueue.init host config.commandQueueCapacity with
    | .error _ => .error .oom
    | .ok queue => .ok { config := config, queues := fun _ => queue, threadsStarted := false, stopRequested := false }

/-- `att1_runtime_start`, with every thread created. -/
def start (s : RuntimeQueues) : RuntimeQueues × Status :=
  if s.threadsStarted then (s, .alreadyStarted)
  else
    ({ s with
        queues := fun tile => if tile < s.config.tileCount then (s.queues tile).clear else s.queues tile
        threadsStarted := true
        stopRequested := false }, .ok)

/-- Writes back the queue of a tile. -/
def setQueue (s : RuntimeQueues) (tile : ℕ) (queue : RuntimeQueue) : RuntimeQueues :=
  { s with queues := Function.update s.queues tile queue }

/-- `att1_runtime_send_command`. -/
def sendCommand (s : RuntimeQueues) (tile : ℕ) (command : Option QueuedCommand) : RuntimeQueues × Status :=
  match command with
  | none => (s, .invalidArg)
  | some command =>
    if s.threadsStarted = false then (s, .invalidArg)
    else if ¬ tile < s.config.tileCount then (s, .invalidArg)
    else if maxCommandPayload < command.payloadBytes then (s, .invalidArg)
    else if (s.queues tile).count = s.config.commandQueueCapacity then (s, .queueFull)
    else (s.setQueue tile ((s.queues tile).push s.config.commandQueueCapacity command), .ok)

/-- `att1_runtime_dequeue`: `none` while it waits, and no command when it gives up. -/
def dequeue (s : RuntimeQueues) (tile : ℕ) : Option (RuntimeQueues × Option QueuedCommand) :=
  let queue := s.queues tile
  if queue.count = 0 then if s.stopRequested then some (s, none) else none
  else some (s.setQueue tile (queue.pop s.config.commandQueueCapacity), some (queue.commands queue.head))

/-- One section, or a refused start. -/
def Step (s : RuntimeQueues) : QueueEvent → RuntimeQueues → Prop
  | .start status, t => s.start = (t, status)
  | .send tile command status, t => s.sendCommand tile command = (t, status)
  | .dequeue tile command, t => tile < s.config.tileCount ∧ s.dequeue tile = some (t, command)

/-- A bounded queue: it never holds more than its capacity; the commands it has accepted are those consumed followed
by those waiting; a full queue refuses a command without effect, and takes any that it may take otherwise; the next
command consumed is the oldest not yet consumed, and with none the tile waits. -/
structure BoundedFifo (s : RuntimeQueues) (tile : ℕ) (accepted consumed : List QueuedCommand) : Prop where
  bounded : (s.queues tile).count ≤ s.config.commandQueueCapacity
  count : consumed.length + (s.queues tile).count = accepted.length
  inOrder : consumed <+: accepted
  full : (s.queues tile).count = s.config.commandQueueCapacity → ∀ command : QueuedCommand,
    command.payloadBytes ≤ maxCommandPayload → s.sendCommand tile (some command) = (s, .queueFull)
  refused : ∀ command, (s.sendCommand tile command).2 ≠ .ok → (s.sendCommand tile command).1 = s
  room : (s.queues tile).count < s.config.commandQueueCapacity → ∀ command : QueuedCommand,
    command.payloadBytes ≤ maxCommandPayload → (s.sendCommand tile (some command)).2 = .ok
  next : ∀ command, accepted[consumed.length]? = some command → ∃ t, s.dequeue tile = some (t, some command)
  waits : accepted.length = consumed.length → s.dequeue tile = none

end RuntimeQueues

/-! ### One queue -/

namespace RuntimeQueue

variable {q : RuntimeQueue} {capacity : ℕ}

@[simp] theorem length_contents (q : RuntimeQueue) (capacity : ℕ) : (q.contents capacity).length = q.count :=
  length_window ..

/-- Two indices of an array in memory do not overflow a `size_t`. -/
theorem InBounds.sizeT_eq (h : q.InBounds capacity) (hcap : capacity * commandBytes ≤ sizeMax) {n : ℕ}
    (hn : n ≤ q.head + q.count ∨ n ≤ q.head + 1 ∨ n ≤ q.count + 1) : sizeT n = n := by
  obtain ⟨hhead, hcount⟩ := h
  unfold commandBytes at hcap
  exact Att1.sizeT_eq (by omega)

theorem InBounds.push (h : q.InBounds capacity) (hcap : capacity * commandBytes ≤ sizeMax)
    (hroom : q.count ≠ capacity) (command : QueuedCommand) :
    (q.push capacity command).InBounds capacity ∧
      (q.push capacity command).contents capacity = q.contents capacity ++ [command] := by
  have hlt : q.count < capacity := lt_of_le_of_ne h.count_le hroom
  have hslot := h.sizeT_eq hcap (Or.inl le_rfl)
  have hcount := h.sizeT_eq hcap (Or.inr (Or.inr le_rfl))
  unfold RuntimeQueue.push contents
  simp only [hslot, hcount]
  exact ⟨⟨h.head_lt, hlt⟩, window_push q.commands command hlt⟩

theorem InBounds.pop (h : q.InBounds capacity) (hcap : capacity * commandBytes ≤ sizeMax) (hne : q.count ≠ 0) :
    (q.pop capacity).InBounds capacity ∧
      q.contents capacity = q.commands q.head :: (q.pop capacity).contents capacity := by
  obtain ⟨n, hn⟩ := Nat.exists_eq_succ_of_ne_zero hne
  have hle := h.count_le
  have hhead := h.sizeT_eq hcap (Or.inr (Or.inl le_rfl))
  unfold RuntimeQueue.pop contents
  simp only [hhead, hn, Nat.succ_eq_add_one, Nat.add_sub_cancel]
  have hlt : n < capacity := by omega
  refine ⟨⟨Nat.mod_lt _ (by omega), hlt.le⟩, ?_⟩
  rw [window_pop, Nat.mod_eq_of_lt h.head_lt, window_congr (Nat.mod_mod _ _).symm]

theorem clear_inBounds (q : RuntimeQueue) (hpos : 0 < capacity) : q.clear.InBounds capacity := ⟨hpos, Nat.zero_le _⟩

end RuntimeQueue

/-! ### Runs -/

namespace RuntimeQueues

variable {s s' r : RuntimeQueues} {tile : ℕ} {es : List QueueEvent}

@[simp] theorem setQueue_config (s : RuntimeQueues) (tile : ℕ) (queue : RuntimeQueue) :
    (s.setQueue tile queue).config = s.config := rfl

@[simp] theorem setQueue_self (s : RuntimeQueues) (tile : ℕ) (queue : RuntimeQueue) :
    (s.setQueue tile queue).queues tile = queue := Function.update_self ..

theorem setQueue_of_ne (s : RuntimeQueues) {tile t : ℕ} (h : t ≠ tile) (queue : RuntimeQueue) :
    (s.setQueue tile queue).queues t = s.queues t := Function.update_of_ne h ..

/-- The array of a queue is in memory, and holds a command. -/
def Allocated (config : RuntimeConfig) : Prop :=
  0 < config.commandQueueCapacity ∧ config.commandQueueCapacity * commandBytes ≤ sizeMax

theorem create_allocated {host : Host} {granted : Bool} {config : RuntimeConfig}
    (h : create host granted config = .ok s) : s.config = config ∧ Allocated config := by
  unfold create at h
  split_ifs at h with hvalid hgranted
  unfold RuntimeQueue.init at h
  by_cases hcalloc : host.calloc config.commandQueueCapacity commandBytes = false
  · rw [if_pos hcalloc] at h
    cases h
  · rw [if_neg hcalloc] at h
    obtain rfl := Except.ok.inj h
    refine ⟨rfl, ?_, host.calloc_fits _ _ (by simpa using hcalloc)⟩
    unfold Runtime.configValid at hvalid
    split_ifs at hvalid with hzero
    · simp at hvalid
    · omega

/-- Between a start and the next stop. -/
structure Working (s : RuntimeQueues) : Prop where
  allocated : Allocated s.config
  started : s.threadsStarted = true
  noStop : s.stopRequested = false
  inBounds : ∀ tile < s.config.tileCount, (s.queues tile).InBounds s.config.commandQueueCapacity

/-- What a section does to the queues: it adds the accepted command to its tile and takes the consumed one. -/
structure Moves (s : RuntimeQueues) (e : QueueEvent) (s' : RuntimeQueues) : Prop where
  working : s'.Working
  config : s'.config = s.config
  balanced : ∀ tile < s.config.tileCount,
    (s.queues tile).contents s.config.commandQueueCapacity ++ e.accepted tile =
      e.consumed tile ++ (s'.queues tile).contents s.config.commandQueueCapacity

theorem Moves.refl {e : QueueEvent} (h : s.Working) (hacc : ∀ tile, e.accepted tile = [])
    (hcons : ∀ tile, e.consumed tile = []) : Moves s e s :=
  ⟨h, rfl, fun tile _ => by rw [hacc, hcons, List.append_nil, List.nil_append]⟩

/-- A section changes the queue of one tile. -/
theorem Moves.of_update {e : QueueEvent} {queue : RuntimeQueue} (h : s.Working)
    (hin : queue.InBounds s.config.commandQueueCapacity)
    (hbal : (s.queues tile).contents s.config.commandQueueCapacity ++ e.accepted tile =
      e.consumed tile ++ queue.contents s.config.commandQueueCapacity)
    (hother : ∀ t ≠ tile, e.accepted t = [] ∧ e.consumed t = []) :
    Moves s e (s.setQueue tile queue) := by
  refine ⟨⟨h.allocated, h.started, h.noStop, fun t ht => ?_⟩, rfl, fun t ht => ?_⟩
  · rw [setQueue_config] at ht ⊢
    rcases eq_or_ne t tile with rfl | hne
    · rw [setQueue_self]
      exact hin
    · rw [setQueue_of_ne s hne]
      exact h.inBounds t ht
  · rcases eq_or_ne t tile with rfl | hne
    · rw [setQueue_self]
      exact hbal
    · obtain ⟨hacc, hcons⟩ := hother t hne
      rw [setQueue_of_ne s hne, hacc, hcons, List.append_nil, List.nil_append]

/-- **One section.** -/
theorem step_moves {e : QueueEvent} (h : s.Working) (hs : Step s e s') : Moves s e s' := by
  cases e with
  | start status =>
    obtain ⟨rfl, -⟩ := Prod.mk.inj ((if_pos h.started).symm.trans hs)
    exact Moves.refl h (fun _ => rfl) fun _ => rfl
  | send tile command status =>
    have hs : s.sendCommand tile command = (s', status) := hs
    cases command with
    | none =>
      obtain ⟨rfl, rfl⟩ := Prod.mk.inj hs
      exact Moves.refl h (fun _ => rfl) fun _ => rfl
    | some command =>
      unfold sendCommand at hs
      simp only at hs
      split_ifs at hs with h1 h2 h3 h4
      · obtain ⟨rfl, rfl⟩ := Prod.mk.inj hs
        exact Moves.refl h (fun _ => rfl) fun _ => rfl
      · obtain ⟨rfl, rfl⟩ := Prod.mk.inj hs
        exact Moves.refl h (fun _ => rfl) fun _ => rfl
      · obtain ⟨rfl, rfl⟩ := Prod.mk.inj hs
        exact Moves.refl h (fun _ => rfl) fun _ => rfl
      · obtain ⟨rfl, rfl⟩ := Prod.mk.inj hs
        obtain ⟨hin, hpush⟩ := (h.inBounds tile h2).push h.allocated.2 h4 command
        refine Moves.of_update h hin ?_ fun t hne => ⟨if_neg hne.symm, rfl⟩
        rw [hpush]
        simp [QueueEvent.accepted, QueueEvent.consumed]
      · obtain ⟨rfl, rfl⟩ := Prod.mk.inj hs
        exact Moves.refl h (fun _ => rfl) fun _ => rfl
  | dequeue tile command =>
    obtain ⟨htile, hs⟩ := hs
    unfold dequeue at hs
    simp only [h.noStop, Bool.false_eq_true, if_false] at hs
    split_ifs at hs with hzero
    · obtain ⟨rfl, rfl⟩ := Prod.mk.inj (Option.some.inj hs)
      obtain ⟨hin, hpop⟩ := (h.inBounds tile htile).pop h.allocated.2 hzero
      refine Moves.of_update h hin ?_ fun t hne => ⟨rfl, if_neg hne.symm⟩
      rw [hpop]
      simp [QueueEvent.accepted, QueueEvent.consumed]

/-- What a run since the last start has accepted is what it has consumed and what waits. -/
structure Balanced (es : List QueueEvent) (s : RuntimeQueues) : Prop where
  working : s.Working
  tiles : ∀ tile < s.config.tileCount, es.flatMap (QueueEvent.accepted tile) =
    es.flatMap (QueueEvent.consumed tile) ++ (s.queues tile).contents s.config.commandQueueCapacity

theorem Balanced.step {e : QueueEvent} (h : Balanced es s) (hs : Step s e s') : Balanced (es ++ [e]) s' := by
  have hm := step_moves h.working hs
  refine ⟨hm.working, fun tile htile => ?_⟩
  rw [hm.config] at htile ⊢
  rw [List.flatMap_append, List.flatMap_append, List.flatMap_singleton, List.flatMap_singleton, h.tiles tile htile,
    List.append_assoc, List.append_assoc, hm.balanced tile htile]

/-- A start empties the queues. -/
theorem start_balanced (halloc : Allocated s.config) (hs : s.start = (s', .ok)) : Balanced [] s' := by
  unfold start at hs
  split_ifs at hs
  · cases hs
  · obtain ⟨rfl, -⟩ := Prod.mk.inj hs
    refine ⟨⟨halloc, rfl, rfl, fun tile htile => ?_⟩, fun tile htile => ?_⟩
    · simp only [if_pos htile]
      exact RuntimeQueue.clear_inBounds _ halloc.1
    · simp only [if_pos htile]
      rfl

theorem Balanced.boundedFifo (h : Balanced es s) (htile : tile < s.config.tileCount) :
    s.BoundedFifo tile (es.flatMap (QueueEvent.accepted tile)) (es.flatMap (QueueEvent.consumed tile)) := by
  have hw := h.working
  have heq := h.tiles tile htile
  have hlen := congrArg List.length heq
  rw [List.length_append, RuntimeQueue.length_contents] at hlen
  have hdequeue : (s.queues tile).count = 0 → s.dequeue tile = none := by
    intro hzero
    simp [dequeue, hzero, hw.noStop]
  refine ⟨(hw.inBounds tile htile).count_le, hlen.symm, ⟨_, heq.symm⟩, ?_, ?_, ?_, ?_, ?_⟩
  · intro hfull command hpayload
    simp [sendCommand, hw.started, htile, hfull, hpayload]
  · intro command hne
    cases command with
    | none => rfl
    | some command =>
      unfold sendCommand at hne ⊢
      simp only at hne ⊢
      split_ifs at hne ⊢ <;> first | rfl | exact absurd rfl hne
  · intro hroom command hpayload
    simp [sendCommand, hw.started, htile, hroom.ne, hpayload.not_gt]
  · intro command hnext
    by_cases hzero : (s.queues tile).count = 0
    · rw [List.getElem?_eq_none (by omega)] at hnext
      cases hnext
    · obtain ⟨-, hpop⟩ := (hw.inBounds tile htile).pop hw.allocated.2 hzero
      rw [heq, List.getElem?_append_right le_rfl, Nat.sub_self, hpop] at hnext
      obtain rfl := Option.some.inj hnext
      exact ⟨_, if_neg hzero⟩
  · intro hnone
    exact hdequeue (by omega)

theorem working_of_run (h : s.Working) (hr : Run Step s es s') : s'.Working := by
  induction hr with
  | nil => exact h
  | snoc _ hs ih => exact (step_moves ih hs).working

/-- **The command queues are bounded FIFOs.**  Whatever a created runtime has been through before a start, in every
run of commands sent and commands dequeued since, in any order of their sections, every tile's queue is. -/
theorem tile_queues_fifo {host : Host} {granted : Bool} {config : RuntimeConfig} {s₀ s₁ s₂ s : RuntimeQueues}
    (hc : create host granted config = .ok s₀) (h₁ : s₁.config = s₀.config) (hs : s₁.start = (s₂, .ok))
    (hr : Run Step s₂ es s) : ∀ tile < s.config.tileCount,
      s.BoundedFifo tile (es.flatMap (QueueEvent.accepted tile)) (es.flatMap (QueueEvent.consumed tile)) := by
  obtain ⟨hcfg, halloc⟩ := create_allocated hc
  rw [← hcfg, ← h₁] at halloc
  have hb : Balanced es s := hr.invariant (start_balanced halloc hs) fun _ _ _ _ _ hb hs => hb.step hs
  exact fun tile htile => hb.boundedFifo htile

/-- A queue of two commands, and one that does not fit; then the oldest is consumed and the newest wraps round. -/
def queueSample : List QueueEvent :=
  let nop : QueuedCommand := { type := .syncBarrier, payloadBytes := 0 }
  let layers (n : UInt32) : QueuedCommand := { type := .runLayerRange, payloadBytes := 0, layerEnd := n }
  [.send 0 (some (layers 1)) .ok, .send 0 (some (layers 2)) .ok, .send 0 (some nop) .queueFull,
    .dequeue 0 (some (layers 1)), .send 0 (some nop) .ok]

theorem tile_queues_fifo_wrap : ∃ s : RuntimeQueues, s.BoundedFifo 0 (queueSample.flatMap (QueueEvent.accepted 0))
    (queueSample.flatMap (QueueEvent.consumed 0)) ∧ (s.queues 0).head = 1 ∧ (s.queues 0).count = 2 := by
  obtain ⟨s₀, s₁, s, hc, hs, hr, htile, hhead, hcount⟩ : ∃ s₀ s₁ s,
      create .generous true ⟨1, 2, 1, 1⟩ = .ok s₀ ∧ s₀.start = (s₁, .ok) ∧ Run Step s₁ queueSample s ∧
        0 < s.config.tileCount ∧ (s.queues 0).head = 1 ∧ (s.queues 0).count = 2 := by
    refine ⟨_, _, _, rfl, rfl, Run.cons rfl <| Run.cons rfl <| Run.cons rfl <| Run.cons ⟨by decide, rfl⟩ <|
      Run.cons rfl Run.nil, by decide, by decide, by decide⟩
  exact ⟨s, tile_queues_fifo hc rfl hs hr 0 htile, hhead, hcount⟩

/-! ### The runtime whose queues are lists -/

/-- `s` keeps the contents of the queues of `r`, less the fields it leaves out. -/
structure Represents (s : RuntimeThreads) (r : RuntimeQueues) : Prop where
  config : s.config = r.config
  started : s.threadsStarted = r.threadsStarted
  stopRequested : s.stopRequested = r.stopRequested
  queues : ∀ tile < r.config.tileCount, s.queues tile =
    ((r.queues tile).contents r.config.commandQueueCapacity).map QueuedCommand.toRuntimeCommand
  tiles : ∀ t ∈ s.created, t.phase = .exited ∨ t.tile < r.config.tileCount

/-- A command sent or a section of a tile thread. -/
def Works : ThreadEvent → Prop
  | .send _ _ _ | .thread _ => True
  | _ => False

theorem Represents.length_queue {s : RuntimeThreads} (h : Represents s r) (htile : tile < r.config.tileCount) :
    (s.queues tile).length = (r.queues tile).count := by
  rw [h.queues tile htile, List.length_map, RuntimeQueue.length_contents]

/-- Writing one queue on either side. -/
theorem Represents.update {s : RuntimeThreads} (h : Represents s r) {queue : RuntimeQueue}
    {commands : List RuntimeCommand} {created : List TileThread}
    (hq : commands = (queue.contents r.config.commandQueueCapacity).map QueuedCommand.toRuntimeCommand)
    (hcreated : ∀ t ∈ created, t.phase = .exited ∨ t.tile < r.config.tileCount) :
    Represents { s with queues := Function.update s.queues tile commands, created := created }
      (r.setQueue tile queue) := by
  refine ⟨h.config, h.started, h.stopRequested, fun t ht => ?_, hcreated⟩
  show Function.update s.queues tile commands t = _
  rcases eq_or_ne t tile with rfl | hne
  · rw [Function.update_self, setQueue_self]
    exact hq
  · rw [Function.update_of_ne hne, setQueue_of_ne r hne]
    exact h.queues t ht

/-- Moving a thread on keeps its tile. -/
theorem Represents.setPhase_tiles {s : RuntimeThreads} (h : Represents s r) {id : ℕ} {t : TileThread}
    (ht : s.created[id]? = some t) (htile : t.tile < r.config.tileCount) (phase : ThreadPhase) :
    ∀ u ∈ (s.setPhase id phase).created, u.phase = .exited ∨ u.tile < r.config.tileCount := by
  intro u hu
  obtain ⟨i, hi⟩ := List.mem_iff_getElem?.mp hu
  have hi : (s.created.modify id fun t => { t with phase := phase })[i]? = some u := hi
  rw [List.getElem?_modify] at hi
  obtain ⟨v, hv, rfl⟩ := Option.map_eq_some_iff.mp hi
  by_cases hid : id = i
  · subst hid
    obtain rfl := Option.some.inj (ht.symm.trans hv)
    rw [if_pos rfl]
    exact Or.inr htile
  · rw [if_neg hid]
    exact h.tiles v (List.mem_of_getElem? hv)

theorem Represents.setPhase {s : RuntimeThreads} (h : Represents s r) {id : ℕ} {t : TileThread}
    (ht : s.created[id]? = some t) (htile : t.tile < r.config.tileCount) (phase : ThreadPhase) :
    Represents (s.setPhase id phase) r :=
  ⟨h.config, h.started, h.stopRequested, h.queues, h.setPhase_tiles ht htile phase⟩

theorem Represents.mark {s : RuntimeThreads} (h : Represents s r) (tile : ℕ) (running : Bool) :
    Represents (s.markTileRunning tile running) r :=
  ⟨h.config, h.started, h.stopRequested, h.queues, h.tiles⟩

/-- A section of a tile thread reads its queue, or none. -/
theorem Represents.thread {s s' : RuntimeThreads} (h : Represents s r) (hw : r.Working) {id : ℕ}
    (hs : s.threadStep id = some s') : ∃ qs r', Run Step r qs r' ∧ Represents s' r' := by
  unfold RuntimeThreads.threadStep at hs
  cases ht : s.created[id]? with
  | none =>
    rw [ht] at hs
    cases hs
  | some t =>
    rw [ht] at hs
    have halive := h.tiles t (List.mem_of_getElem? ht)
    obtain ⟨tile, phase, joined⟩ := t
    rcases halive with rfl | htile
    · cases hs
    have htile : tile < r.config.tileCount := htile
    cases phase with
    | entering =>
      obtain rfl := Option.some.inj hs
      exact ⟨[], r, Run.nil, (h.setPhase ht htile _).mark tile true⟩
    | ready =>
      have hqueue := h.queues tile htile
      simp only at hs
      cases hcommands : s.queues tile with
      | nil =>
        rw [hcommands] at hs
        simp only [h.stopRequested, hw.noStop, Bool.false_eq_true, if_false] at hs
        cases hs
      | cons command rest =>
        rw [hcommands] at hs hqueue
        obtain rfl := Option.some.inj hs
        have hlen := h.length_queue htile
        rw [hcommands, List.length_cons] at hlen
        have hne : (r.queues tile).count ≠ 0 := hlen ▸ Nat.succ_ne_zero _
        obtain ⟨-, hpop⟩ := (hw.inBounds tile htile).pop hw.allocated.2 hne
        rw [hpop, List.map_cons, List.cons.injEq] at hqueue
        exact ⟨[.dequeue tile _], _, Run.nil.snoc ⟨htile, if_neg hne⟩,
          (h.setPhase ht htile (.processing command)).update hqueue.2 (h.setPhase_tiles ht htile _)⟩
    | processing command =>
      obtain rfl := Option.some.inj hs
      exact ⟨[], r, Run.nil, h.setPhase ht htile _⟩
    | leaving =>
      obtain rfl := Option.some.inj hs
      exact ⟨[], r, Run.nil, (h.setPhase ht htile _).mark tile false⟩
    | exited => cases hs

/-- The end of a start, on both sides. -/
theorem represents_start {s s' : RuntimeThreads} {r' : RuntimeQueues} {creation : Creation} (h : s.ThreadsInv)
    (hh : s.host = .creating s.config.tileCount) (hs : s.hostStep creation = some (s', some .ok))
    (hcfg : s.config = r.config) (hr : r.start = (r', .ok)) : Represents s' r' := by
  have hst : s.starting = true := by
    unfold RuntimeThreads.starting
    rw [hh]
  have hown := h.owned
  have hcleared := h.cleared hst
  obtain ⟨-, hstop, -⟩ := h.calm hst
  unfold RuntimeThreads.live at hown
  unfold RuntimeThreads.prepared at hcleared
  unfold RuntimeThreads.hostStep at hs
  simp only [hh, lt_irrefl, if_false] at hs hcleared hown
  obtain ⟨rfl, -⟩ := Prod.mk.inj (Option.some.inj hs)
  unfold start at hr
  split_ifs at hr
  · cases hr
  · obtain ⟨rfl, -⟩ := Prod.mk.inj hr
    refine ⟨hcfg, rfl, hstop, fun tile htile => ?_, fun t ht => ?_⟩
    · simp only [if_pos htile]
      exact hcleared tile (hcfg ▸ htile)
    · obtain ⟨id, hid⟩ := List.mem_iff_getElem?.mp ht
      exact (hown id t hid).imp_right fun hlive => hcfg ▸ hlive.2.1

/-- A command sent is refused on both sides or appended on both. -/
theorem Represents.send {s s' : RuntimeThreads} (h : Represents s r) (hw : r.Working) {command : RuntimeCommand}
    {status : Status} (hs : s.sendCommand tile command = (s', status)) :
    ∃ qs r', Run Step r qs r' ∧ Represents s' r' := by
  unfold RuntimeThreads.sendCommand at hs
  split_ifs at hs with h1 h2 h3 h4
  · obtain ⟨rfl, -⟩ := Prod.mk.inj hs
    exact ⟨[], r, Run.nil, h⟩
  · obtain ⟨rfl, -⟩ := Prod.mk.inj hs
    exact ⟨[], r, Run.nil, h⟩
  · obtain ⟨rfl, -⟩ := Prod.mk.inj hs
    exact ⟨[], r, Run.nil, h⟩
  · obtain ⟨rfl, -⟩ := Prod.mk.inj hs
    rw [h.config] at h2 h4
    rw [h.length_queue h2] at h4
    have hsend : r.sendCommand tile (some { toRuntimeCommand := command }) = (r.setQueue tile
        ((r.queues tile).push r.config.commandQueueCapacity { toRuntimeCommand := command }), .ok) := by
      simp only [sendCommand]
      rw [if_neg (by simp [hw.started]), if_neg (not_not.mpr h2), if_neg h3, if_neg h4]
    obtain ⟨-, hpush⟩ := (hw.inBounds tile h2).push hw.allocated.2 h4 { toRuntimeCommand := command }
    refine ⟨[.send tile _ .ok], _, Run.nil.snoc hsend, h.update ?_ h.tiles⟩
    rw [hpush, List.map_append, h.queues tile h2]
    rfl
  · obtain ⟨rfl, -⟩ := Prod.mk.inj hs
    exact ⟨[], r, Run.nil, h⟩

/-- **The thread model is represented.**  What the threads and the caller do between a start and the next stop, the
circular queues do as well. -/
theorem threads_represented {s s' : RuntimeThreads} {ts : List ThreadEvent} (h : Represents s r) (hw : r.Working)
    (hr : Run RuntimeThreads.Step s ts s') (hworks : ∀ e ∈ ts, Works e) :
    ∃ qs r', Run Step r qs r' ∧ Represents s' r' := by
  induction hr with
  | nil => exact ⟨[], r, Run.nil, h⟩
  | snoc _ hs ih =>
    rename_i ts t e u _
    obtain ⟨qs, r', hr', h'⟩ := ih fun e he => hworks e (List.mem_append_left _ he)
    have hw' : r'.Working := working_of_run hw hr'
    have he : Works e := hworks e (by simp)
    obtain ⟨ps, r'', hr'', h''⟩ : ∃ ps r'', Run Step r' ps r'' ∧ Represents u r'' := by
      cases e with
      | send tile command status => exact h'.send hw' hs.2
      | thread id => exact h'.thread hw' hs
      | _ => exact he.elim
    exact ⟨qs ++ ps, r'', hr'.append hr'', h''⟩

/-- The lists hold no more than the queues have slots. -/
theorem threads_bounded {s s' : RuntimeThreads} {ts : List ThreadEvent} (h : Represents s r) (hw : r.Working)
    (hr : Run RuntimeThreads.Step s ts s') (hworks : ∀ e ∈ ts, Works e) :
    ∀ tile < s'.config.tileCount, (s'.queues tile).length ≤ s'.config.commandQueueCapacity := by
  obtain ⟨qs, r', hr', h'⟩ := threads_represented h hw hr hworks
  intro tile htile
  rw [h'.config] at htile ⊢
  rw [h'.length_queue htile]
  exact ((working_of_run hw hr').inBounds tile htile).count_le

end RuntimeQueues

end Att1
