import Att1.Endpoint.Buffers
import Att1.KvMmu.Refine

/-!
# Att1.Endpoint.Bounds — what the daemon touches of a request and its response

* `Area`, `Touch`: the arrays of fixed size, and one of their cells.
* `requestTouches`: the cells that a handler of `tools/att1-aimu-endpoint.c` reads or writes.
* `handlers_safe_iff`: when they lie within the arrays, and oversized lists and payloads are refused.
-/

open Att1.Lib Att1.Conformance

namespace Att1.Endpoint

open Fabric KvMmu

/-- The arrays of fixed size in a request and a response.  A KV operation has its keys in the first half of the payload
and its values in the second. -/
inductive Area
  | groupTiles
  | participants
  | requestPayload
  | requestKeys
  | requestValues
  | responsePayload
  | responseKeys
  | responseValues
  deriving DecidableEq, Repr

def Area.size : Area → ℕ
  | .groupTiles | .participants => maxGroupTiles
  | .requestPayload | .responsePayload => maxPayload
  | .requestKeys | .responseKeys => halfPayload
  | .requestValues | .responseValues => maxPayload - halfPayload

/-- A cell that is read or written. -/
structure Touch where
  area : Area
  index : ℕ

/-- The cells from `start` on. -/
def cells (area : Area) (start count : ℕ) : List Touch := (List.range count).map fun i => ⟨area, start + i⟩

def InBounds (touches : List Touch) : Prop := ∀ t ∈ touches, t.index < t.area.size

/-! ### The handlers -/

/-- `att1_fabric_send`: it copies the payload before it returns `ATT1_OK`, and nothing otherwise. -/
def sendTouches (f : Fabric) (req : Request) : List Touch :=
  let r := f.send req.sourceTile req.targetTile req.packetType (requestPayload req) req.payloadBytes req.value64
  if r.2 = .ok then cells .requestPayload 0 req.payloadBytes else []

/-- How many entries of a group the first loop of `att1_fabric_broadcast` reads. -/
def preflightReads (f : Fabric) (source : ℕ) : List ℕ → ℕ
  | [] => 0
  | target :: rest =>
    if ¬ f.validTile target then 1
    else if target ≠ source ∧ ¬ f.queueHasRoom target then 1
    else preflightReads f source rest + 1

/-- `att1_fabric_broadcast`: its first loop reads the group, and its second one again, with the payload for every
target but the source. -/
def broadcastTouches (f : Fabric) (req : Request) : List Touch :=
  if ¬ f.validTile req.sourceTile then []
  else if ¬ f.payloadValid (requestPayload req) req.payloadBytes then []
  else
    let group := (tileGroup req.groupTiles req.groupCount).tiles
    cells .groupTiles 0 (preflightReads f req.sourceTile group) ++
      if f.preflightGroup req.sourceTile group = .ok then
        (List.range group.length).flatMap fun i =>
          ⟨.groupTiles, i⟩ ::
            if req.groupTiles i ≠ req.sourceTile then cells .requestPayload 0 req.payloadBytes else []
      else []

/-- How many entries the loop of `att1_fabric_participant_set_valid` reads. -/
def markReads (f : Fabric) : List ℕ → (ℕ → Bool) → ℕ
  | [], _ => 0
  | tile :: rest, expected =>
    if ¬ f.validTile tile then 1
    else if expected tile then 1
    else markReads f rest (Function.update expected tile true) + 1

/-- How many entries `att1_fabric_participant_set_valid` reads. -/
def participantReads (f : Fabric) (tiles : List ℕ) : ℕ :=
  if tiles.length = 0 then 0
  else if f.config.tileCount < tiles.length then 0
  else markReads f tiles fun _ => false

/-- `att1_fabric_barrier_arrive`: the participants are read when a barrier begins, and when they are compared with
those of the barrier under way, which takes memory. -/
def barrierTouches (f : Fabric) (host : Host) (req : Request) : List Touch :=
  let participants := (tileGroup req.participants req.participantCount).tiles
  if ¬ f.validTile req.tileId then []
  else if f.barrierActive = false then cells .participants 0 (participantReads f participants)
  else if ¬ host.malloc f.config.tileCount then []
  else cells .participants 0 (participantReads f participants)

/-- `att1_fabric_receive`: the packet it takes goes into the response. -/
def receiveTouches (f : Fabric) (req : Request) : List Touch :=
  let capacity := if maxPayload < req.payloadCapacity then maxPayload else req.payloadCapacity
  match (f.receive req.tileId true true capacity).2.2 with
  | none => []
  | some m => cells .responsePayload 0 m.packet.payloadBytes

/-- `att1_kv_mmu_append`: it copies both vectors before it returns `ATT1_OK`, and nothing otherwise. -/
def appendTouches (m : KvMmu UInt32) (host : Host) (req : Request) : List Touch :=
  let key := if 0 < req.kvKeyBytes then some (floatsAt req.payload 0) else none
  let value := if 0 < req.kvValueBytes then some (floatsAt req.payload halfPayload) else none
  if (m.append host req.kvSessionId req.kvLayerId req.kvPosition key value).2 = .ok then
    cells .requestKeys 0 (sizeT (vectorLen m.config * floatSize)) ++
      cells .requestValues 0 (sizeT (vectorLen m.config * floatSize))
  else []

/-- What a slice stores through the two pointers, `offset` floats behind them. -/
def sliceTouches (offset : ℕ) (slice : KvSlice UInt32) : List Touch :=
  cells .responseKeys (offset * floatSize) ((slice.key.getD []).length * floatSize) ++
    cells .responseValues (offset * floatSize) ((slice.value.getD []).length * floatSize)

/-- `att1_kv_mmu_read`. -/
def readTouches (m : KvMmu UInt32) (req : Request) : List Touch :=
  match (m.read req.kvSessionId req.kvLayerId req.kvHeadId req.kvPosition
      (decide (0 < req.kvKeyBytes / floatSize)) (decide (0 < req.kvValueBytes / floatSize))).2.2 with
  | none => []
  | some slice => sliceTouches 0 slice

/-- `att1_kv_mmu_copy_range`, also when it fails on the way. -/
def copyRangeTouches (m : KvMmu UInt32) (req : Request) : List Touch :=
  (m.copyRange req.kvSessionId req.kvLayerId req.kvHeadId req.kvStartPosition req.kvPositionCount
    (decide (0 < req.kvKeyBytes / floatSize)) (decide (0 < req.kvValueBytes / floatSize))).2.2.flatMap
      fun write => sliceTouches write.offset write.slice

/-- `dispatch_cmd_submit`: the operand is copied out of the payload once its size and its buffer are there. -/
def submitTouches (mallocs : Mallocs) (req : CmdRequest) : List Touch :=
  let copied (bytes : UInt32) : List Touch :=
    if bytes = 0 ∨ bytes ≠ req.payloadBytes ∨ maxPayload < bytes.toNat then []
    else if mallocs.input = none then []
    else cells .requestPayload 0 bytes.toNat
  if isLoad req.cmd.commandType then
    if req.cmd.dtype ≠ dtypeF32 then [] else copied (tileBytes req.cmd)
  else if cmdTypeNeedsBufferXfer req.cmd.commandType then copied req.cmd.inputBufBytes
  else []

/-- `dispatch_cmd_poll_completion`: the output of the command is copied into the response if it fits. -/
def pollTouches (c : Daemon) : List Touch :=
  let r := c.endpoint.pollCompletion
  if r.2.1 = .ok then
    match c.buffers.pendingXferFind (r.2.2.getD {}).commandId with
    | none => []
    | some (_, x) =>
      if 0 < x.outputBytes ∧ x.outputBytes.toNat ≤ maxPayload then cells .responsePayload 0 x.outputBytes.toNat else []
  else []

/-- A request to the daemon: one on the fabric or the KV cache, a command, a poll, or one of the others, which use
neither an array of the request nor the payload of the response. -/
inductive DaemonRequest
  | memory (req : Request)
  | submit (mallocs : Mallocs) (req : CmdRequest)
  | poll
  | other

/-- The cells that a request makes the daemon touch. -/
def requestTouches (d : Inproc) (c : Daemon) (host : Host) : DaemonRequest → List Touch
  | .memory req =>
    match req.op with
    | .fabricSend => sendTouches d.fabric req
    | .fabricBroadcast => broadcastTouches d.fabric req
    | .fabricReceive => receiveTouches d.fabric req
    | .fabricBarrierArrive => barrierTouches d.fabric host req
    | .kvCreateSession | .kvDestroySession => []
    | .kvAppend => appendTouches d.kv host req
    | .kvRead => readTouches d.kv req
    | .kvCopyRange => copyRangeTouches d.kv req
  | .submit mallocs req => submitTouches mallocs req
  | .poll => pollTouches c
  | .other => []

/-- A list longer than its array, or a payload longer than the payload of a request. -/
def Oversized : DaemonRequest → Prop
  | .memory req =>
    match req.op with
    | .fabricSend => maxPayload < req.payloadBytes
    | .fabricBroadcast => maxGroupTiles < req.groupCount ∨ maxPayload < req.payloadBytes
    | .fabricBarrierArrive => maxGroupTiles < req.participantCount
    | _ => False
  | .submit _ req =>
    (isLoad req.cmd.commandType = true ∨ cmdTypeNeedsBufferXfer req.cmd.commandType = true) ∧
      maxPayload < req.payloadBytes.toNat
  | _ => False

/-- The daemon answers with an error. -/
def Rejects (d : Inproc) (c : Daemon) (host : Host) : DaemonRequest → Prop
  | .memory req => ∀ r, dispatchRequest d host req = some r → r.2.status ≠ .ok
  | .submit mallocs req => (c.dispatchCmdSubmit mallocs req).2.status ≠ .ok
  | _ => False

/-- A request is handled within the arrays, and refused when it is oversized. -/
structure HandledSafely (d : Inproc) (c : Daemon) (host : Host) (q : DaemonRequest) : Prop where
  inBounds : InBounds (requestTouches d c host q)
  rejects : Oversized q → Rejects d c host q

/-! ### Cells -/

variable {area : Area} {start count : ℕ} {touches touches' : List Touch}

@[simp] theorem inBounds_nil : InBounds [] := fun _ ht => absurd ht List.not_mem_nil

theorem inBounds_append : InBounds (touches ++ touches') ↔ InBounds touches ∧ InBounds touches' :=
  List.forall_mem_append

theorem inBounds_cells : InBounds (cells area start count) ↔ count = 0 ∨ start + count ≤ area.size := by
  unfold InBounds cells
  simp only [List.forall_mem_map, List.mem_range]
  constructor
  · intro h
    rcases Nat.eq_zero_or_pos count with h0 | hpos
    · exact Or.inl h0
    · have hlast := h (count - 1) (by omega)
      omega
  · rintro (rfl | h) i hi
    · exact absurd hi (Nat.not_lt_zero i)
    · omega

theorem inBounds_cells_zero : InBounds (cells area 0 count) ↔ count ≤ area.size := by
  rw [inBounds_cells, Nat.zero_add]
  omega

/-! ### Fabric requests -/

variable {f : Fabric} {req : Request} {source : ℕ}

/-- A send that the checks let through. -/
def SendGoes (f : Fabric) (req : Request) : Prop :=
  (f.validTile req.sourceTile = true ∧ f.validTile req.targetTile = true) ∧
    f.payloadValid (requestPayload req) req.payloadBytes = true ∧ f.queueHasRoom req.targetTile = true

theorem send_ok_iff :
    (f.send req.sourceTile req.targetTile req.packetType (requestPayload req) req.payloadBytes req.value64).2 = .ok ↔
      SendGoes f req := by
  unfold Fabric.send SendGoes
  by_cases h1 : f.validTile req.sourceTile = true ∧ f.validTile req.targetTile = true
  swap
  · rw [if_pos h1]
    exact iff_of_false (by simp) fun h => h1 h.1
  rw [if_neg (not_not.mpr h1), and_iff_right h1]
  by_cases h2 : f.payloadValid (requestPayload req) req.payloadBytes = true
  swap
  · rw [if_pos h2]
    exact iff_of_false (by simp) fun h => h2 h.1
  rw [if_neg (not_not.mpr h2), and_iff_right h2]
  by_cases h3 : f.queueHasRoom req.targetTile = true
  swap
  · rw [if_pos h3]
    exact iff_of_false (by simp) h3
  rw [if_neg (not_not.mpr h3)]
  exact iff_of_true rfl h3

theorem inBounds_send : InBounds (sendTouches f req) ↔ (SendGoes f req → req.payloadBytes ≤ maxPayload) := by
  unfold sendTouches
  by_cases h : SendGoes f req
  · rw [if_pos (send_ok_iff.mpr h), inBounds_cells_zero]
    exact ⟨fun hle _ => hle, fun hle => hle h⟩
  · rw [if_neg (mt send_ok_iff.mp h)]
    exact iff_of_true inBounds_nil fun hgo => absurd hgo h

/-- The first loop reads the whole group when it lets it through. -/
theorem preflightReads_ok {tiles : List ℕ} (h : f.preflightGroup source tiles = .ok) :
    preflightReads f source tiles = tiles.length := by
  induction tiles with
  | nil => rfl
  | cons target rest ih =>
    unfold preflightGroup at h
    unfold preflightReads
    by_cases h1 : f.validTile target = true
    swap
    · rw [if_pos h1] at h
      cases h
    rw [if_neg (not_not.mpr h1)] at h ⊢
    by_cases h2 : target ≠ source ∧ ¬ f.queueHasRoom target = true
    · rw [if_pos h2] at h
      cases h
    rw [if_neg h2] at h ⊢
    rw [ih h]
    rfl

/-- A broadcast whose first loop begins. -/
def BroadcastGoes (f : Fabric) (req : Request) : Prop :=
  f.validTile req.sourceTile = true ∧ f.payloadValid (requestPayload req) req.payloadBytes = true

theorem broadcast_ok_iff : (f.broadcast req.sourceTile (some (tileGroup req.groupTiles req.groupCount)) req.groupCount
      req.packetType (requestPayload req) req.payloadBytes req.value64).2 = .ok ↔
    BroadcastGoes f req ∧ f.preflightGroup req.sourceTile (tileGroup req.groupTiles req.groupCount).tiles = .ok := by
  unfold Fabric.broadcast BroadcastGoes
  by_cases h1 : f.validTile req.sourceTile = true
  swap
  · rw [if_pos h1]
    exact iff_of_false (by simp) fun h => h1 h.1.1
  rw [if_neg (not_not.mpr h1)]
  by_cases h2 : f.payloadValid (requestPayload req) req.payloadBytes = true
  swap
  · rw [if_pos h2]
    exact iff_of_false (by simp) fun h => h2 h.1.2
  rw [if_neg (not_not.mpr h2), and_iff_right ⟨h1, h2⟩]
  simp only
  generalize f.preflightGroup req.sourceTile (tileGroup req.groupTiles req.groupCount).tiles = status
  cases status <;> simp

/-- The second loop stays in the group it has read, and in the payload unless nothing goes to another tile. -/
theorem inBounds_broadcast : InBounds (broadcastTouches f req) ↔ (BroadcastGoes f req →
    preflightReads f req.sourceTile (tileGroup req.groupTiles req.groupCount).tiles ≤ maxGroupTiles ∧
      (f.preflightGroup req.sourceTile (tileGroup req.groupTiles req.groupCount).tiles = .ok →
        (∃ t ∈ (tileGroup req.groupTiles req.groupCount).tiles, t ≠ req.sourceTile) →
          req.payloadBytes ≤ maxPayload)) := by
  unfold broadcastTouches BroadcastGoes
  by_cases h1 : f.validTile req.sourceTile = true
  swap
  · rw [if_pos h1]
    exact iff_of_true inBounds_nil fun h => absurd h.1 h1
  rw [if_neg (not_not.mpr h1)]
  by_cases h2 : f.payloadValid (requestPayload req) req.payloadBytes = true
  swap
  · rw [if_pos h2]
    exact iff_of_true inBounds_nil fun h => absurd h.2 h2
  rw [if_neg (not_not.mpr h2), forall_prop_of_true ⟨h1, h2⟩]
  simp only
  rw [inBounds_append, inBounds_cells_zero]
  refine and_congr_right fun hreads => ?_
  by_cases h3 : f.preflightGroup req.sourceTile (tileGroup req.groupTiles req.groupCount).tiles = .ok
  swap
  · rw [if_neg h3]
    exact iff_of_true inBounds_nil fun h => absurd h h3
  rw [if_pos h3, forall_prop_of_true h3]
  rw [preflightReads_ok h3] at hreads
  have hlen : (tileGroup req.groupTiles req.groupCount).tiles.length = uint32 req.groupCount := by
    unfold tileGroup
    rw [List.length_map, List.length_range]
  rw [hlen] at hreads ⊢
  unfold tileGroup
  simp only [List.mem_map, List.mem_range]
  constructor
  · rintro h ⟨t, ⟨i, hi, rfl⟩, hne⟩
    have hcells : InBounds (cells .requestPayload 0 req.payloadBytes) := by
      intro u hu
      refine h u (List.mem_flatMap.mpr ⟨i, List.mem_range.mpr hi, List.mem_cons_of_mem _ ?_⟩)
      rw [if_pos hne]
      exact hu
    exact inBounds_cells_zero.mp hcells
  · intro h u hu
    obtain ⟨i, hi, hu⟩ := List.mem_flatMap.mp hu
    have hi := List.mem_range.mp hi
    rcases List.mem_cons.mp hu with rfl | hu
    · exact lt_of_lt_of_le hi hreads
    · by_cases hne : req.groupTiles i ≠ req.sourceTile
      · rw [if_pos hne] at hu
        exact inBounds_cells_zero.mpr (h ⟨_, ⟨i, hi, rfl⟩, hne⟩) u hu
      · rw [if_neg hne] at hu
        exact absurd hu List.not_mem_nil

/-- A barrier arrival that reads its participants. -/
def BarrierReads (f : Fabric) (host : Host) (req : Request) : Prop :=
  f.validTile req.tileId = true ∧ (f.barrierActive = true → host.malloc f.config.tileCount = true)

theorem inBounds_barrier {host : Host} : InBounds (barrierTouches f host req) ↔ (BarrierReads f host req →
    participantReads f (tileGroup req.participants req.participantCount).tiles ≤ maxGroupTiles) := by
  unfold barrierTouches BarrierReads
  simp only
  by_cases h1 : f.validTile req.tileId = true
  swap
  · rw [if_pos h1]
    exact iff_of_true inBounds_nil fun h => absurd h.1 h1
  rw [if_neg (not_not.mpr h1), and_iff_right h1]
  cases hact : f.barrierActive with
  | false =>
    rw [if_pos rfl, inBounds_cells_zero]
    exact ⟨fun hle _ => hle, fun hle => hle fun h => absurd h Bool.false_ne_true⟩
  | true =>
    rw [if_neg (by decide)]
    by_cases h2 : host.malloc f.config.tileCount = true
    · rw [if_neg (not_not.mpr h2), inBounds_cells_zero]
      exact ⟨fun hle _ => hle, fun hle => hle fun _ => h2⟩
    · rw [if_pos h2]
      exact iff_of_true inBounds_nil fun h => absurd (h rfl) h2

/-- The loop reads the whole list when it accepts it. -/
theorem markReads_valid {tiles : List ℕ} {expected : ℕ → Bool} (h : (f.markExpected tiles expected).2 = true) :
    markReads f tiles expected = tiles.length := by
  induction tiles generalizing expected with
  | nil => rfl
  | cons tile rest ih =>
    unfold markExpected at h
    unfold markReads
    by_cases h1 : f.validTile tile = true
    swap
    · rw [if_pos h1] at h
      cases h
    rw [if_neg (not_not.mpr h1)] at h ⊢
    by_cases h2 : expected tile = true
    · rw [if_pos h2] at h
      cases h
    rw [if_neg h2] at h ⊢
    rw [ih h]
    rfl

theorem participantReads_valid {group : TileGroup} (h : (f.participantSetValid (some group)).2 = true) :
    participantReads f group.tiles = group.tiles.length := by
  unfold participantSetValid at h
  unfold participantReads
  simp only at h
  by_cases h1 : group.tiles.length = 0
  · rw [if_pos h1] at h
    cases h
  rw [if_neg h1] at h ⊢
  by_cases h2 : f.config.tileCount < group.tiles.length
  · rw [if_pos h2] at h
    cases h
  rw [if_neg h2] at h ⊢
  exact markReads_valid h

/-- An arrival that is accepted has read all its participants. -/
theorem barrier_ok_reads {host : Host} {group : TileGroup}
    (h : (f.barrierArrive host req.tileId (some group)).2.1 = .ok) :
    BarrierReads f host req ∧ participantReads f group.tiles = group.tiles.length := by
  unfold Fabric.barrierArrive at h
  unfold BarrierReads
  by_cases h1 : f.validTile req.tileId = true
  swap
  · rw [if_pos h1] at h
    cases h
  rw [if_neg (not_not.mpr h1)] at h
  cases hact : f.barrierActive with
  | false =>
    rw [hact, if_pos rfl] at h
    simp only at h
    by_cases hv : (f.participantSetValid (some group)).2 = true
    · exact ⟨⟨h1, fun hno => absurd hno Bool.false_ne_true⟩, participantReads_valid hv⟩
    · rw [Bool.not_eq_true] at hv
      rw [if_pos hv] at h
      cases h
  | true =>
    rw [hact, if_neg (by decide)] at h
    by_cases hm : f.participantSetMatches host (some group) = true
    · unfold participantSetMatches at hm
      by_cases hmalloc : host.malloc f.config.tileCount = true
      · rw [if_neg (not_not.mpr hmalloc)] at hm
        exact ⟨⟨h1, fun _ => hmalloc⟩, participantReads_valid (Bool.and_eq_true_iff.mp hm).1⟩
      · rw [if_pos hmalloc] at hm
        cases hm
    · rw [Bool.not_eq_true] at hm
      rw [if_pos hm] at h
      cases h

/-- A receive writes no more than it was given room for. -/
theorem receive_payloadBytes_le {tile capacity : ℕ} {m : Delivery}
    (h : (f.receive tile true true capacity).2.2 = some m) : m.packet.payloadBytes ≤ capacity := by
  unfold Fabric.receive at h
  simp only [Bool.true_eq_false, if_false, and_false, or_false] at h
  by_cases h1 : f.validTile tile = true
  swap
  · rw [if_pos h1] at h
    cases h
  rw [if_neg (not_not.mpr h1)] at h
  by_cases h2 : (f.queues tile).count = 0
  · rw [if_pos h2] at h
    cases h
  rw [if_neg h2] at h
  by_cases h3 : capacity < ((f.queues tile).packets (f.queues tile).head).payloadBytes
  · rw [if_pos h3] at h
    cases h
  · rw [if_neg h3] at h
    obtain rfl := Option.some.inj h
    exact not_lt.mp h3

theorem inBounds_receive : InBounds (receiveTouches f req) := by
  unfold receiveTouches
  simp only
  cases h : (f.receive req.tileId true true
      (if maxPayload < req.payloadCapacity then maxPayload else req.payloadCapacity)).2.2 with
  | none => exact inBounds_nil
  | some m =>
    apply inBounds_cells_zero.mpr
    refine (receive_payloadBytes_le h).trans ?_
    show _ ≤ maxPayload
    split_ifs with hcap
    · exact le_refl _
    · exact not_lt.mp hcap

/-! ### KV requests -/

section Kv

variable {m : KvMmu UInt32} {s : FlatStore UInt32} {sid layer head pos : ℕ} {host : Host}

/-- An append for which everything is there: both vectors, the end of a live stream, and a page or a free slot with the
memory for one. -/
def AppendGoes (m : KvMmu UInt32) (s : FlatStore UInt32) (host : Host) (req : Request) : Prop :=
  (0 < req.kvKeyBytes ∧ 0 < req.kvValueBytes) ∧ Appendable m s req.kvSessionId req.kvLayerId req.kvPosition ∧
    ((∃ i, PageAt m i req.kvSessionId req.kvLayerId (req.kvPosition / m.config.pageTokens)) ∨
      (∃ i < m.config.maxPages, (m.pages i).active = false) ∧ PageGranted m host)

theorem append_ok_iff (hs : Simulates m s) :
    (m.append host req.kvSessionId req.kvLayerId req.kvPosition
        (if 0 < req.kvKeyBytes then some (floatsAt req.payload 0) else none)
        (if 0 < req.kvValueBytes then some (floatsAt req.payload halfPayload) else none)).2 = .ok ↔
      AppendGoes m s host req := by
  obtain ⟨-, -, hcases⟩ := append_outcome hs host req.kvSessionId req.kvLayerId req.kvPosition
    (if 0 < req.kvKeyBytes then some (floatsAt req.payload 0) else none)
    (if 0 < req.kvValueBytes then some (floatsAt req.payload halfPayload) else none)
  have hgiven : ∀ (count : ℕ) (floats : ℕ → UInt32),
      (if 0 < count then some floats else none).isSome = true ↔ 0 < count := by
    intro count floats
    split_ifs with h <;> simp [h]
  unfold AppendGoes
  rcases hcases with ⟨hno, -, -, hrefused⟩ | ⟨k, v, hk, hv, happ, hcases⟩
  · rw [hgiven, hgiven] at hrefused
    exact iff_of_false hno fun h => hrefused ⟨h.1.1, h.1.2, h.2.1⟩
  have hkey : 0 < req.kvKeyBytes := (hgiven _ _).mp (Option.isSome_of_eq_some hk)
  have hvalue : 0 < req.kvValueBytes := (hgiven _ _).mp (Option.isSome_of_eq_some hv)
  rw [and_iff_right ⟨hkey, hvalue⟩, and_iff_right happ]
  rcases hcases with ⟨i, hat, hok, -⟩ | ⟨hnone, ⟨hoom, hcases⟩ | ⟨i, hi, hfree, hgrant, hok, -⟩⟩
  · exact iff_of_true hok (Or.inl ⟨i, hat⟩)
  · refine iff_of_false (by simp [hoom]) ?_
    rintro (⟨i, hat⟩ | ⟨⟨i, hi, hfree⟩, hgrant⟩)
    · exact findPage_eq_none.mp hnone i hat
    · rcases hcases with ⟨-, hall⟩ | ⟨-, -, -, hrefused, -⟩
      · rw [hall i hi] at hfree
        cases hfree
      · exact hrefused hgrant
  · exact iff_of_true hok (Or.inr ⟨⟨i, hi, hfree⟩, hgrant⟩)

/-- The vectors of an append that is made fit into `size_t` bytes. -/
theorem AppendGoes.fits (hs : Simulates m s) (h : AppendGoes m s host req) :
    vectorLen m.config * floatSize ≤ sizeMax := by
  obtain ⟨hpt, -⟩ := configValid_bounds hs.valid
  have hle : vectorLen m.config * floatSize ≤ m.config.pageTokens * vectorLen m.config * floatSize :=
    Nat.mul_le_mul_right _ (Nat.le_mul_of_pos_left _ hpt)
  obtain ⟨-, -, ⟨i, hat⟩ | ⟨-, hgrant⟩⟩ := h
  · exact hle.trans (hs.page_fits i _ _ _ hat)
  · refine hle.trans ?_
    rw [← pageElements_eq hs.valid]
    exact host.calloc_fits _ _ hgrant.2

theorem inBounds_append_kv (hs : Simulates m s) : InBounds (appendTouches m host req) ↔
    (AppendGoes m s host req → vectorLen m.config * floatSize ≤ halfPayload) := by
  unfold appendTouches
  by_cases h : AppendGoes m s host req
  · rw [if_pos ((append_ok_iff hs).mpr h), inBounds_append, inBounds_cells_zero, inBounds_cells_zero,
      sizeT_eq (h.fits hs)]
    exact ⟨fun hle _ => hle.1, fun hle => ⟨hle h, hle h⟩⟩
  · rw [if_neg (mt (append_ok_iff hs).mp h)]
    exact iff_of_true inBounds_nil fun hgo => absurd hgo h

/-- A read that finds its token, with a pointer to store through. -/
def ReadGoes (config : KvMmuConfig) (s : FlatStore UInt32) (req : Request) : Prop :=
  (0 < req.kvKeyBytes / floatSize ∨ 0 < req.kvValueBytes / floatSize) ∧
    s.Readable config req.kvSessionId req.kvLayerId req.kvHeadId req.kvPosition

/-- The head's part of a stored vector is as long as the head. -/
theorem length_head {tok : KvToken UInt32} (hs : Simulates m s) (hr : s.Readable m.config sid layer head pos)
    (htok : (s.tokens sid layer)[pos]? = some tok) :
    ((tok.key.drop (head * m.config.headDim)).take m.config.headDim).length = m.config.headDim ∧
      ((tok.value.drop (head * m.config.headDim)).take m.config.headDim).length = m.config.headDim := by
  obtain ⟨i, hi⟩ := hs.stored sid layer pos tok htok
  have hin : head * m.config.headDim + m.config.headDim ≤ vectorLen m.config := by
    have hle := Nat.mul_le_mul_right m.config.headDim hr.2.2.1
    rwa [Nat.succ_mul] at hle
  rw [← hi.key, ← hi.value]
  simp only [List.length_take, List.length_drop, length_readBlock]
  omega

theorem inBounds_slice {outKey outValue : Bool} {tok : KvToken UInt32} (hout : outKey = true ∨ outValue = true)
    (hs : Simulates m s) (hr : s.Readable m.config sid layer head pos)
    (htok : (s.tokens sid layer)[pos]? = some tok) (offset : ℕ) :
    InBounds (sliceTouches offset (FlatStore.slice m.config head outKey outValue tok)) ↔
      m.config.headDim = 0 ∨ (offset + m.config.headDim) * floatSize ≤ halfPayload := by
  obtain ⟨hkey, hvalue⟩ := length_head hs hr htok
  have hiff : ∀ area : Area, area.size = halfPayload →
      (InBounds (cells area (offset * floatSize) (m.config.headDim * floatSize)) ↔
        m.config.headDim = 0 ∨ (offset + m.config.headDim) * floatSize ≤ halfPayload) := by
    intro area harea
    rw [inBounds_cells, harea, Nat.add_mul]
    unfold floatSize
    omega
  have hempty : ∀ area : Area, InBounds (cells area (offset * floatSize) (0 * floatSize)) := by
    intro area
    rw [inBounds_cells]
    exact Or.inl (Nat.zero_mul _)
  unfold sliceTouches FlatStore.slice
  rw [inBounds_append]
  cases outKey <;> cases outValue
  · simp at hout
  · simp only [Bool.false_eq_true, if_false, if_true, Option.getD_none, Option.getD_some, List.length_nil, hvalue]
    rw [and_iff_right (hempty _)]
    exact hiff .responseValues rfl
  · simp only [Bool.false_eq_true, if_false, if_true, Option.getD_none, Option.getD_some, List.length_nil, hkey]
    rw [and_iff_left (hempty _)]
    exact hiff .responseKeys rfl
  · simp only [if_true, Option.getD_some, hkey, hvalue]
    rw [hiff .responseKeys rfl, hiff .responseValues rfl, and_self]

theorem inBounds_read (hs : Simulates m s) : InBounds (readTouches m req) ↔
    (ReadGoes m.config s req → m.config.headDim * floatSize ≤ halfPayload) := by
  unfold readTouches ReadGoes
  obtain ⟨-, ⟨tok, hout, hr, htok, heq⟩ | ⟨hno, -, hnone⟩⟩ := read_spec hs req.kvSessionId req.kvLayerId
    req.kvHeadId req.kvPosition (decide (0 < req.kvKeyBytes / floatSize)) (decide (0 < req.kvValueBytes / floatSize))
  · rw [heq]
    simp only [decide_eq_true_eq] at hout
    rw [inBounds_slice (by simpa using hout) hs hr htok, Nat.zero_add]
    constructor
    · rintro (h0 | hle) -
      · rw [h0, Nat.zero_mul]
        exact Nat.zero_le _
      · exact hle
    · intro hle
      exact Or.inr (hle ⟨hout, hr⟩)
  · rw [hnone]
    simp only [decide_eq_true_eq] at hno
    exact iff_of_true inBounds_nil fun h => absurd h hno

/-- A range copy that starts. -/
def RangeGoes (m : KvMmu UInt32) (s : FlatStore UInt32) (req : Request) : Prop :=
  (0 < req.kvKeyBytes / floatSize ∨ 0 < req.kvValueBytes / floatSize) ∧
    m.validateRange req.kvStartPosition req.kvPositionCount = .ok ∧
    s.live req.kvSessionId = true ∧ req.kvLayerId < m.config.numLayers ∧ req.kvHeadId < m.config.numHeads

/-- The loop copies until the tokens of the stream end. -/
theorem copyRangeLoop_length (hs : Simulates m s) {start : ℕ} {outKeys outValues : Bool}
    (hout : outKeys = true ∨ outValues = true) (hlive : s.live sid = true) (hlayer : layer < m.config.numLayers)
    (hhead : head < m.config.numHeads) (remaining pos : ℕ) (hwrap : start + pos ≤ sizeMax) :
    (copyRangeLoop sid layer head start outKeys outValues remaining pos m).2.2.length =
      min remaining ((s.tokens sid layer).length - (start + pos)) := by
  induction remaining generalizing pos m with
  | zero => exact (Nat.zero_min _).symm
  | succ remaining ih =>
    have hmax := (configValid_bounds hs.valid).2.2.2
    have hlen := hs.length_le sid layer
    obtain ⟨hsame, hread⟩ := read_spec hs sid layer head (start + pos) outKeys outValues
    unfold copyRangeLoop
    rw [sizeT_eq hwrap]
    generalize m.read sid layer head (start + pos) outKeys outValues = r at hsame hread
    obtain ⟨m1, st, slice⟩ := r
    simp only at hsame hread
    rcases hread with ⟨tok, -, hreadable, -, hres⟩ | ⟨hnot, hst, -⟩
    · obtain ⟨rfl, rfl⟩ := Prod.mk.inj hres
      have hbelow : start + pos < (s.tokens sid layer).length := hreadable.2.2.2
      simp only [Option.toList_some, List.map_cons, List.map_nil, List.singleton_append, List.length_cons]
      rw [ih (hsame.simulates hs) (hsame.config ▸ hlayer) (hsame.config ▸ hhead) (pos + 1) (by omega)]
      omega
    · have hpast : (s.tokens sid layer).length ≤ start + pos := by
        by_contra hlt
        exact hnot ⟨hout, hlive, hlayer, hhead, not_le.mp hlt⟩
      cases st with
      | ok => exact absurd rfl hst
      | _ =>
        simp only [List.length_nil]
        omega

/-- Rounds of `h` floats fit into `limit` floats exactly when all of them do together, also where places wrap. -/
theorem rounds_fit {n h limit : ℕ} (hlimit : limit ≤ sizeMax) :
    (∀ i < n, h = 0 ∨ sizeT (i * h) + h ≤ limit) ↔ n * h ≤ limit := by
  constructor
  · intro hall
    rcases Nat.eq_zero_or_pos h with rfl | hpos
    · exact Nat.zero_le _
    by_contra hgt
    have hdiv : limit / h * h ≤ limit := Nat.div_mul_le_self limit h
    have hlt : limit / h < n := by
      by_contra hge
      exact hgt ((Nat.mul_le_mul_right h (not_lt.mp hge)).trans hdiv)
    have hnext : limit < limit / h * h + h := Nat.lt_div_mul_add hpos
    rcases hall _ hlt with h0 | hle
    · omega
    · rw [sizeT_eq (hdiv.trans hlimit)] at hle
      omega
  · intro hle i hi
    right
    have hwrap : sizeT (i * h) ≤ i * h := Nat.mod_le _ _
    have hround : (i + 1) * h ≤ n * h := Nat.mul_le_mul_right h hi
    rw [Nat.succ_mul] at hround
    omega

theorem copyRange_writes (m : KvMmu UInt32) (sid layer head start count : ℕ) (outKeys outValues : Bool) :
    (m.copyRange sid layer head start count outKeys outValues).2.2 =
      if (outKeys = true ∨ outValues = true) ∧ m.validateRange start count = .ok ∧ head < m.config.numHeads then
        (copyRangeLoop sid layer head start outKeys outValues count 0 m).2.2
      else [] := by
  have hgiven : (outKeys = true ∨ outValues = true) ↔ ¬ (outKeys = false ∧ outValues = false) := by
    cases outKeys <;> cases outValues <;> simp
  unfold copyRange
  by_cases hchecks : (outKeys = true ∨ outValues = true) ∧ m.validateRange start count = .ok ∧ head < m.config.numHeads
  · obtain ⟨hout, hrange, hhead⟩ := id hchecks
    rw [if_pos hchecks, if_neg (hgiven.mp hout), hrange]
    simp only
    rw [if_neg (not_le.mpr hhead)]
    rcases copyRangeLoop sid layer head start outKeys outValues count 0 m with ⟨m', status, writes⟩
    cases status <;> rfl
  · rw [if_neg hchecks]
    by_cases hout : outKeys = false ∧ outValues = false
    · rw [if_pos hout]
    rw [if_neg hout]
    cases hrange : m.validateRange start count with
    | ok =>
      have hhead : m.config.numHeads ≤ head := by
        by_contra hlt
        exact hchecks ⟨hgiven.mpr hout, hrange, not_le.mp hlt⟩
      simp only
      rw [if_pos hhead]
    | _ => rfl

theorem inBounds_copyRange (hs : Simulates m s) (hstart : req.kvStartPosition ≤ sizeMax) :
    InBounds (copyRangeTouches m req) ↔ (RangeGoes m s req →
      min req.kvPositionCount ((s.tokens req.kvSessionId req.kvLayerId).length - req.kvStartPosition) *
        m.config.headDim * floatSize ≤ halfPayload) := by
  unfold copyRangeTouches
  rw [copyRange_writes]
  simp only [decide_eq_true_eq]
  obtain ⟨-, hwrites, -⟩ := copyRangeLoop_spec hs req.kvSessionId req.kvLayerId req.kvHeadId req.kvStartPosition
    (decide (0 < req.kvKeyBytes / floatSize)) (decide (0 < req.kvValueBytes / floatSize)) req.kvPositionCount 0 hstart
  simp only [Nat.zero_add] at hwrites
  by_cases hgoes : RangeGoes m s req
  swap
  · refine iff_of_true ?_ fun h => absurd h hgoes
    split_ifs with hchecks
    · intro t ht
      obtain ⟨w, hw, -⟩ := List.mem_flatMap.mp ht
      obtain ⟨i, hi⟩ := List.mem_iff_getElem?.mp hw
      obtain ⟨-, hr, -⟩ := hwrites i w hi
      exact absurd ⟨hchecks.1, hchecks.2.1, hr.1, hr.2.1, hr.2.2.1⟩ hgoes
    · exact inBounds_nil
  obtain ⟨hout, hrange, hlive, hlayer, hhead⟩ := id hgoes
  have hlength := @copyRangeLoop_length m s req.kvSessionId req.kvLayerId req.kvHeadId hs req.kvStartPosition
    (decide (0 < req.kvKeyBytes / floatSize)) (decide (0 < req.kvValueBytes / floatSize)) (by simpa using hout) hlive
    hlayer hhead req.kvPositionCount 0 hstart
  rw [Nat.add_zero] at hlength
  rw [if_pos ⟨hout, hrange, hhead⟩, forall_prop_of_true hgoes]
  have hfit := @rounds_fit
    (min req.kvPositionCount ((s.tokens req.kvSessionId req.kvLayerId).length - req.kvStartPosition))
    m.config.headDim (halfPayload / floatSize) (by decide)
  rw [show ∀ n : ℕ, n * floatSize ≤ halfPayload ↔ n ≤ halfPayload / floatSize from
    fun n => (Nat.le_div_iff_mul_le (by decide)).symm, ← hfit, ← hlength]
  have hround : ∀ i w, (copyRangeLoop req.kvSessionId req.kvLayerId req.kvHeadId req.kvStartPosition
        (decide (0 < req.kvKeyBytes / floatSize)) (decide (0 < req.kvValueBytes / floatSize))
        req.kvPositionCount 0 m).2.2[i]? = some w →
      (InBounds (sliceTouches w.offset w.slice) ↔
        m.config.headDim = 0 ∨ sizeT (i * m.config.headDim) + m.config.headDim ≤ halfPayload / floatSize) := by
    intro i w hw
    obtain ⟨hoffset, hr, tok, htok, hslice⟩ := hwrites i w hw
    rw [hoffset, hslice, inBounds_slice (by simpa using hout) hs hr htok, Nat.le_div_iff_mul_le (by decide)]
  constructor
  · intro h i hi
    refine (hround i _ (List.getElem?_eq_getElem hi)).mp fun t ht => ?_
    exact h t (List.mem_flatMap.mpr ⟨_, List.getElem_mem hi, ht⟩)
  · intro h t ht
    obtain ⟨w, hw, ht⟩ := List.mem_flatMap.mp ht
    obtain ⟨i, hi⟩ := List.mem_iff_getElem?.mp hw
    have hlt : i < _ := (List.getElem?_eq_some_iff.mp hi).1
    exact (hround i w hi).mpr (h i hlt) t ht

end Kv

/-! ### Command requests -/

theorem inBounds_submit (mallocs : Mallocs) (req : CmdRequest) : InBounds (submitTouches mallocs req) := by
  have hcopied : ∀ bytes : UInt32, InBounds
      (if bytes = 0 ∨ bytes ≠ req.payloadBytes ∨ maxPayload < bytes.toNat then []
        else if mallocs.input = none then [] else cells .requestPayload 0 bytes.toNat) := by
    intro bytes
    split_ifs with h1 h2
    · exact inBounds_nil
    · exact inBounds_nil
    · rw [not_or, not_or] at h1
      exact inBounds_cells_zero.mpr (not_lt.mp h1.2.2)
  unfold submitTouches
  by_cases hload : isLoad req.cmd.commandType = true
  · rw [if_pos hload]
    by_cases hdtype : req.cmd.dtype ≠ dtypeF32
    · rw [if_pos hdtype]
      exact inBounds_nil
    · rw [if_neg hdtype]
      exact hcopied _
  · rw [if_neg hload]
    by_cases hxfer : cmdTypeNeedsBufferXfer req.cmd.commandType = true
    · rw [if_pos hxfer]
      exact hcopied _
    · rw [if_neg hxfer]
      exact inBounds_nil

theorem inBounds_poll (c : Daemon) : InBounds (pollTouches c) := by
  unfold pollTouches
  simp only
  split_ifs
  · cases c.buffers.pendingXferFind (c.endpoint.pollCompletion.2.2.getD {}).commandId with
    | none => exact inBounds_nil
    | some entry =>
      simp only
      split_ifs with h
      · exact inBounds_cells_zero.mpr h.2
      · exact inBounds_nil
  · exact inBounds_nil

/-- A submit that carries operands refuses more of them than a request holds. -/
theorem rejects_submit {c : Daemon} {mallocs : Mallocs} {req : CmdRequest}
    (h : (isLoad req.cmd.commandType = true ∨ cmdTypeNeedsBufferXfer req.cmd.commandType = true) ∧
      maxPayload < req.payloadBytes.toNat) : (c.dispatchCmdSubmit mallocs req).2.status ≠ .ok := by
  obtain ⟨hkind, hlong⟩ := h
  have hbad : ∀ bytes : UInt32, bytes = 0 ∨ bytes ≠ req.payloadBytes ∨ maxPayload < bytes.toNat := by
    intro bytes
    by_cases heq : bytes = req.payloadBytes
    · exact Or.inr (Or.inr (heq ▸ hlong))
    · exact Or.inr (Or.inl heq)
  have herror : ∃ status, status ≠ .ok ∧ c.prepare mallocs req = .error (c, status, req.cmd) := by
    unfold Daemon.prepare
    by_cases hload : isLoad req.cmd.commandType = true
    · rw [if_pos hload]
      unfold Daemon.prepareLoad
      by_cases hdtype : req.cmd.dtype ≠ dtypeF32
      · rw [if_pos hdtype]
        exact ⟨.unsupported, by decide, rfl⟩
      · rw [if_neg hdtype]
        simp only
        rw [if_pos (hbad _)]
        exact ⟨.invalidArg, by decide, rfl⟩
    · rw [if_neg hload, if_pos (hkind.resolve_left hload)]
      unfold Daemon.prepareExec
      simp only
      rw [if_pos (hbad _)]
      exact ⟨.invalidArg, by decide, rfl⟩
  obtain ⟨status, hne, heq⟩ := herror
  unfold Daemon.dispatchCmdSubmit
  rw [heq]
  exact hne

/-! ### All requests -/

/-- The lists and vectors that a request makes the daemon go through fit into their arrays, or it stops before. -/
def Fits (s : FlatStore UInt32) (d : Inproc) (host : Host) : DaemonRequest → Prop
  | .memory req =>
    match req.op with
    | .fabricSend => SendGoes d.fabric req → req.payloadBytes ≤ maxPayload
    | .fabricBroadcast => BroadcastGoes d.fabric req →
      preflightReads d.fabric req.sourceTile (tileGroup req.groupTiles req.groupCount).tiles ≤ maxGroupTiles ∧
        (d.fabric.preflightGroup req.sourceTile (tileGroup req.groupTiles req.groupCount).tiles = .ok →
          req.payloadBytes ≤ maxPayload)
    | .fabricBarrierArrive => BarrierReads d.fabric host req →
      participantReads d.fabric (tileGroup req.participants req.participantCount).tiles ≤ maxGroupTiles
    | .kvAppend => AppendGoes d.kv s host req → vectorLen d.kv.config * floatSize ≤ halfPayload
    | .kvRead => ReadGoes d.kv.config s req → d.kv.config.headDim * floatSize ≤ halfPayload
    | .kvCopyRange => RangeGoes d.kv s req →
      min req.kvPositionCount ((s.tokens req.kvSessionId req.kvLayerId).length - req.kvStartPosition) *
        d.kv.config.headDim * floatSize ≤ halfPayload
    | _ => True
  | _ => True

/-- The fields of a request are 32-bit numbers. -/
structure Wire (req : Request) : Prop where
  groupCount : req.groupCount ≤ uint32Max
  participantCount : req.participantCount ≤ uint32Max
  kvStartPosition : req.kvStartPosition ≤ uint32Max

theorem length_tileGroup {tiles : ℕ → ℕ} {n : ℕ} (h : n ≤ uint32Max) : (tileGroup tiles n).tiles.length = n := by
  unfold tileGroup
  rw [List.length_map, List.length_range, uint32_eq h]

section Requests

variable {s : FlatStore UInt32} {d : Inproc} {c : Daemon} {host : Host}

theorem handledSafely_send (hop : req.op = .fabricSend) :
    HandledSafely d c host (.memory req) ↔ (SendGoes d.fabric req → req.payloadBytes ≤ maxPayload) := by
  have htouches : requestTouches d c host (.memory req) = sendTouches d.fabric req := by
    simp only [requestTouches, hop]
  rw [← inBounds_send, ← htouches]
  refine ⟨fun h => h.inBounds, fun h => ⟨h, fun hlong r hr => ?_⟩⟩
  simp only [Oversized, hop] at hlong
  simp only [dispatchRequest, hop] at hr
  obtain rfl := Option.some.inj hr
  intro hok
  rw [htouches, inBounds_send] at h
  exact absurd (h (send_ok_iff.mp hok)) (not_le.mpr hlong)

theorem handledSafely_broadcast (hop : req.op = .fabricBroadcast) (hw : Wire req) :
    HandledSafely d c host (.memory req) ↔ (BroadcastGoes d.fabric req →
      preflightReads d.fabric req.sourceTile (tileGroup req.groupTiles req.groupCount).tiles ≤ maxGroupTiles ∧
        (d.fabric.preflightGroup req.sourceTile (tileGroup req.groupTiles req.groupCount).tiles = .ok →
          req.payloadBytes ≤ maxPayload)) := by
  have htouches : requestTouches d c host (.memory req) = broadcastTouches d.fabric req := by
    simp only [requestTouches, hop]
  have hreply : Rejects d c host (.memory req) ↔
      ¬ (BroadcastGoes d.fabric req ∧
        d.fabric.preflightGroup req.sourceTile (tileGroup req.groupTiles req.groupCount).tiles = .ok) := by
    rw [← broadcast_ok_iff]
    simp [Rejects, dispatchRequest, hop]
  have hover : Oversized (.memory req) ↔ maxGroupTiles < req.groupCount ∨ maxPayload < req.payloadBytes := by
    simp only [Oversized, hop]
  constructor
  · intro h hgoes
    have hin := h.inBounds
    rw [htouches, inBounds_broadcast] at hin
    refine ⟨(hin hgoes).1, fun hok => ?_⟩
    by_contra hlong
    exact hreply.mp (h.rejects (hover.mpr (Or.inr (not_le.mp hlong)))) ⟨hgoes, hok⟩
  · intro h
    refine ⟨?_, fun hlong => hreply.mpr ?_⟩
    · rw [htouches, inBounds_broadcast]
      exact fun hgoes => ⟨(h hgoes).1, fun hok _ => (h hgoes).2 hok⟩
    · rintro ⟨hgoes, hok⟩
      obtain ⟨hreads, hpayload⟩ := h hgoes
      rw [preflightReads_ok hok, length_tileGroup hw.groupCount] at hreads
      rcases hover.mp hlong with hlist | hlong
      · exact absurd hreads (not_le.mpr hlist)
      · exact absurd (hpayload hok) (not_le.mpr hlong)

theorem handledSafely_barrier (hop : req.op = .fabricBarrierArrive) (hw : Wire req) :
    HandledSafely d c host (.memory req) ↔ (BarrierReads d.fabric host req →
      participantReads d.fabric (tileGroup req.participants req.participantCount).tiles ≤ maxGroupTiles) := by
  have htouches : requestTouches d c host (.memory req) = barrierTouches d.fabric host req := by
    simp only [requestTouches, hop]
  rw [← inBounds_barrier, ← htouches]
  refine ⟨fun h => h.inBounds, fun h => ⟨h, fun hlong r hr => ?_⟩⟩
  simp only [Oversized, hop] at hlong
  simp only [dispatchRequest, hop] at hr
  obtain rfl := Option.some.inj hr
  intro hok
  obtain ⟨hgoes, hreads⟩ := barrier_ok_reads hok
  rw [htouches, inBounds_barrier] at h
  have hle := h hgoes
  rw [hreads, length_tileGroup hw.participantCount] at hle
  exact absurd hle (not_le.mpr hlong)

/-- A request that cannot be oversized is handled safely when it stays within the arrays. -/
theorem handledSafely_of_fits (hno : ¬ Oversized (.memory req)) :
    HandledSafely d c host (.memory req) ↔ InBounds (requestTouches d c host (.memory req)) :=
  ⟨fun h => h.inBounds, fun h => ⟨h, fun hlong => absurd hlong hno⟩⟩

/-- **The handlers of the daemon**, on a KV cache reached by any run: a request is handled within the arrays, and
refused when it is oversized, exactly when what it makes the daemon go through fits. -/
theorem handlers_safe_iff {host₀ : Host} {config : KvMmuConfig} {kv₀ : KvMmu UInt32} {es : List (KvEvent UInt32)}
    {q : DaemonRequest} (hc : KvMmu.create host₀ config = .ok kv₀) (hr : Run KvMmu.Step kv₀ es d.kv)
    (hw : ∀ req, q = .memory req → Wire req) :
    HandledSafely d c host q ↔ Fits (flatStore config es) d host q := by
  have hs := (run_inv hc hr).simulates
  cases q with
  | memory req =>
    have hw := hw req rfl
    cases hop : req.op with
    | fabricSend =>
      simp only [Fits, hop]
      exact handledSafely_send hop
    | fabricBroadcast =>
      simp only [Fits, hop]
      exact handledSafely_broadcast hop hw
    | fabricBarrierArrive =>
      simp only [Fits, hop]
      exact handledSafely_barrier hop hw
    | _ =>
      rw [handledSafely_of_fits (by simp only [Oversized, hop, not_false_iff])]
      simp only [requestTouches, Fits, hop]
      first
        | exact iff_of_true inBounds_receive trivial
        | exact iff_of_true inBounds_nil trivial
        | exact inBounds_append_kv hs
        | exact inBounds_read hs
        | exact inBounds_copyRange hs (hw.kvStartPosition.trans (by decide))
  | submit mallocs req => exact iff_of_true ⟨inBounds_submit mallocs req, rejects_submit⟩ trivial
  | poll => exact iff_of_true ⟨inBounds_poll c, fun h => h.elim⟩ trivial
  | other => exact iff_of_true ⟨inBounds_nil, fun h => h.elim⟩ trivial

end Requests

/-- One token of one element. -/
def tokenRun : List (KvEvent UInt32) :=
  [ ⟨.createSession 7, { status := .ok }⟩,
    ⟨.append .generous 7 0 0 (some fun _ => 10) (some fun _ => 20), { status := .ok }⟩ ]

theorem handlers_safe_read_token : ∃ q f kv₀ kv, createQueue .idle .generous (fun _ => 0) ⟨1, 4, 4⟩ = .ok q ∧
    Fabric.create .generous ⟨1, 1, 4⟩ = .ok f ∧ KvMmu.create .generous ⟨1, 1, 1, 1, 1, 4, 4⟩ = .ok kv₀ ∧
    Run KvMmu.Step kv₀ tokenRun kv ∧
    HandledSafely ⟨f, kv⟩ (Daemon.start q) .generous
      (.memory { op := .kvRead, kvSessionId := 7, kvKeyBytes := 4, kvValueBytes := 4 }) := by
  obtain ⟨kv₀, kv, hc, hr, hhead⟩ : ∃ kv₀ kv, KvMmu.create .generous ⟨1, 1, 1, 1, 1, 4, 4⟩ = .ok kv₀ ∧
      Run KvMmu.Step kv₀ tokenRun kv ∧ kv.config.headDim = 1 :=
    ⟨_, _, rfl, Run.cons (step_perform _ _) (Run.cons (step_perform _ _) Run.nil), rfl⟩
  refine ⟨_, _, kv₀, kv, rfl, rfl, hc, hr, (@handlers_safe_iff ⟨_, kv⟩ _ _ _ _ _ _ _ hc hr ?_).mpr fun _ => ?_⟩
  · rintro req ⟨⟩
    exact ⟨by decide, by decide, by decide⟩
  · rw [hhead]
    decide

/-- A broadcast of tile 0 to seventeen times itself, which is accepted. -/
theorem broadcast_past_group : ∃ q f kv, createQueue .idle .generous (fun _ => 0) ⟨1, 4, 4⟩ = .ok q ∧
    Fabric.create .generous ⟨1, 1, 4⟩ = .ok f ∧ KvMmu.create .generous ⟨1, 1, 1, 1, 1, 4, 4⟩ = .ok kv ∧
    ¬ HandledSafely ⟨f, kv⟩ (Daemon.start q) .generous
      (.memory { op := .fabricBroadcast, groupCount := 17 }) := by
  refine ⟨_, _, _, rfl, rfl, rfl, fun h => ?_⟩
  have hgroup : InBounds (cells .groupTiles 0 17) := fun t ht => h.inBounds t (List.mem_append_left _ ht)
  exact absurd (inBounds_cells_zero.mp hgroup) (by decide)

end Att1.Endpoint
