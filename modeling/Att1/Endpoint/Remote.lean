import Att1.Endpoint.Buffers

/-!
# Att1.Endpoint.Remote — commands through the socket client (`src/aimu_endpoint_client.c`)

The client copies the operand bytes into its request, remembers in a table of eight where the output of a command
belongs, and copies the output there when the completion is polled.

* `Remote`: the memory and the table of the client, with the daemon behind the socket.
* `clientCmdSubmit`, `clientCmdPollCompletion`: the two calls that touch the table.
* `Delivers`: a poll writes the output of the command it completes where the submit of this command said, if the
  command succeeded, and no other call writes anything.
* `outputs_delivered`: in every run of calls that satisfy `KeepsOutputs` every step delivers.

The socket is taken to deliver requests and responses whole.
-/

open Att1.Lib Att1.Conformance

namespace Att1.Endpoint

/-- `endpoint_client_pending_xfer`, with the number of its command. -/
structure ClientXfer where
  commandId : UInt32
  outputPtr : UInt64
  outputBytes : UInt32
  owner : ℕ
  deriving DecidableEq, Repr

/-- `ATT1_AIMU_ENDPOINT_CLIENT_MAX_PENDING_XFERS`. -/
def clientMaxPendingXfers : ℕ := 8

/-- The client and the daemon.  `outputs` says where the submit of a command asked for its output; no operation reads
it. -/
structure Remote where
  memory : Memory
  pending : ℕ → Option ClientXfer
  daemon : Daemon
  outputs : ℕ → Option (UInt64 × UInt32) := fun _ => none

/-- The request of `client_cmd_submit`. -/
def clientRequest (memory : Memory) (cmd : AimuCmd) : Except Status CmdRequest :=
  let withBytes (bytes : UInt32) : Except Status CmdRequest :=
    if bytes = 0 ∨ cmd.inputBufAddr = 0 ∨ maxPayload < bytes.toNat then .error .invalidArg
    else
      .ok
        { cmd := cmd
          payloadBytes := bytes
          payload := copyInto (fun _ => 0) 0 (readMemory memory cmd.inputBufAddr) 0 bytes.toNat }
  if isLoad cmd.commandType then
    if cmd.dtype ≠ dtypeF32 then .error .unsupported else withBytes (tileBytes cmd)
  else if cmdTypeNeedsBufferXfer cmd.commandType then withBytes cmd.inputBufBytes
  else .ok { cmd := cmd }

/-- Where the output of a command goes, and how long it is; a null pointer is no place. -/
def clientOutput (cmd : AimuCmd) : Option (UInt64 × UInt32) :=
  if isLoad cmd.commandType then none
  else if cmdTypeNeedsBufferXfer cmd.commandType ∧ 0 < cmd.outputBufBytes ∧ cmd.outputBufAddr ≠ 0 then
    some (cmd.outputBufAddr, cmd.outputBufBytes)
  else none

/-- `pending_xfer_register`. -/
def pendingXferRegister (pending : ℕ → Option ClientXfer) (x : ClientXfer) : ℕ → Option ClientXfer :=
  Function.update pending (allocSlot clientMaxPendingXfers pending) (some x)

namespace Remote

/-- `client_cmd_submit`, with the descriptor afterwards. -/
def clientCmdSubmit (s : Remote) (mallocs : Mallocs) (cmd : AimuCmd) : Remote × Status × AimuCmd :=
  match clientRequest s.memory cmd with
  | .error status => (s, status, cmd)
  | .ok req =>
    let r := s.daemon.dispatchCmdSubmit mallocs req
    if r.2.status = .ok then
      let s' : Remote :=
        { s with daemon := r.1, outputs := Function.update s.outputs s.daemon.next (clientOutput cmd) }
      match clientOutput cmd with
      | none => (s', .ok, r.2.cmd)
      | some (ptr, bytes) =>
        let x : ClientXfer := ⟨r.2.cmd.commandId, ptr, bytes, s.daemon.next⟩
        ({ s' with pending := pendingXferRegister s.pending x }, .ok, r.2.cmd)
    else ({ s with daemon := r.1 }, r.2.status, cmd)

/-- `client_cmd_poll_completion`, with the completion it returns. -/
def clientCmdPollCompletion (s : Remote) : Remote × Status × AimuCompletion :=
  let r := s.daemon.dispatchCmdPollCompletion
  if r.2.status = .ok then
    match findEntry clientMaxPendingXfers s.pending fun x => x.commandId == r.2.completion.commandId with
    | none => ({ s with daemon := r.1 }, .ok, r.2.completion)
    | some (slot, x) =>
      let s' : Remote := { s with daemon := r.1, pending := Function.update s.pending slot none }
      if r.2.payloadBytes = x.outputBytes then
        ({ s' with memory := writeMemory s.memory x.outputPtr r.2.payload r.2.payloadBytes.toNat }, .ok,
          r.2.completion)
      else (s', .io, r.2.completion)
  else ({ s with daemon := r.1 }, r.2.status, {})

/-- The commands of the daemon, with their numbers. -/
def ledger (s : Remote) : Ledger AimuCmd AimuCompletion := s.daemon.endpoint.ledger

end Remote

/-- A call of the client, or a write of the program to its own memory. -/
inductive RemoteCall
  | cmdSubmit (cmd : AimuCmd) (mallocs : Mallocs)
  | cmdDispatchOne
  | cmdDispatchAll
  | cmdPollCompletion
  | write (memory : Memory)

/-- One call. -/
def RemoteStep (s : Remote) (call : RemoteCall) (s' : Remote) : Prop :=
  match call with
  | .cmdSubmit cmd mallocs => Daemon.Fresh mallocs s.daemon.buffers ∧ (s.clientCmdSubmit mallocs cmd).1 = s'
  | .cmdDispatchOne => ∃ d, DaemonStep s.daemon .cmdDispatchOne d ∧ { s with daemon := d } = s'
  | .cmdDispatchAll => ∃ d, DaemonStep s.daemon .cmdDispatchAll d ∧ { s with daemon := d } = s'
  | .cmdPollCompletion => s.clientCmdPollCompletion.1 = s'
  | .write memory => { s with memory := memory } = s'

/-- The client and the daemon when the client has connected to a daemon that has just started. -/
def Remote.start (q : Cmdq ConfCtx) (memory : Memory) : Remote where
  memory := memory
  pending := fun _ => none
  daemon := Daemon.start q

/-! ### The law -/

/-- The memory that a poll has to leave: the output of the command whose completion it takes is at the place its
submit gave, if the completion reports OK. -/
def Remote.delivered (s : Remote) : Memory :=
  match s.ledger.answered.head? with
  | none => s.memory
  | some ((n, cmd), completion) =>
    match s.outputs n with
    | none => s.memory
    | some (ptr, bytes) =>
      if completion.resultCode = AimuResult.ok.code then
        writeMemory s.memory ptr (readMemory s.daemon.memory cmd.outputBufAddr) bytes.toNat
      else s.memory

/-- What a call has to do: the memory it leaves, that no completion is taken twice, and that an output that is copied
is read from a buffer of its command. -/
structure Delivers (s : Remote) (call : RemoteCall) (s' : Remote) : Prop where
  memory : s'.memory =
    match call with
    | .cmdPollCompletion => s.delivered
    | .write memory => memory
    | _ => s.memory
  once : (s'.ledger.collected.map fun x => x.1.1).Nodup
  live : call = .cmdPollCompletion → ∀ x ∈ s.ledger.answered.head?, ∀ o ∈ s.outputs x.1.1,
    x.2.resultCode = AimuResult.ok.code →
      Owned s.daemon.buffers.heap x.1.2.outputBufAddr o.2.toNat x.1.1

/-- The command id that is assigned next is not in use. -/
structure FreshId (s : Remote) : Prop where
  outstanding : ∀ j ∈ s.ledger.outstanding, j.2.commandId ≠ s.daemon.endpoint.queue.nextCommandId
  client : ∀ x, Holds clientMaxPendingXfers s.pending x → x.commandId ≠ s.daemon.endpoint.queue.nextCommandId
  daemon : ∀ y, Holds maxPendingXfers s.daemon.buffers.pendingXfers y →
    y.commandId ≠ s.daemon.endpoint.queue.nextCommandId

/-- No output of the job is still to be delivered. -/
def Settled (s : Remote) (owner : ℕ) : Prop := ∀ j ∈ s.ledger.outstanding, j.1 = owner → s.outputs j.1 = none

/-- What an admitted submit has to find: a command id and, where it needs them, slots that are not in use. -/
structure KeepsEntries (s : Remote) (cmd : AimuCmd) : Prop where
  freshId : FreshId s
  client : clientOutput cmd ≠ none → ∀ x, Displaced clientMaxPendingXfers s.pending x → Settled s x.owner
  daemon : cmdTypeNeedsBufferXfer cmd.commandType = true → cmd.outputBufBytes ≠ 0 →
    ∀ y, Displaced maxPendingXfers s.daemon.buffers.pendingXfers y → Settled s y.owner

/-- The condition on a call. -/
def KeepsOutputs (s : Remote) (call : RemoteCall) : Prop :=
  match call with
  | .cmdSubmit cmd mallocs =>
    ∀ req, clientRequest s.memory cmd = .ok req → s.daemon.Admits mallocs req → KeepsEntries s cmd
  | .cmdPollCompletion => ∀ x ∈ s.ledger.answered.head?, ∀ o ∈ s.outputs x.1.1,
    (x.2.resultCode = AimuResult.ok.code ↔ o.2.toNat ≤ maxPayload)
  | _ => True

/-! ### The invariant -/

/-- The invariant of a run. -/
structure RemoteInv (kernels : MathKernels) (s : Remote) : Prop where
  follows : s.daemon.endpoint.Follows
  hook : s.daemon.endpoint.queue.execHook = some (confExecHook kernels)
  sound : s.daemon.buffers.Sound s.daemon.next
  oneEach : OneEach ClientXfer.owner clientMaxPendingXfers s.pending
  lt_next : ∀ x, Holds clientMaxPendingXfers s.pending x → x.owner < s.daemon.next
  output : ∀ x, Holds clientMaxPendingXfers s.pending x → s.outputs x.owner = some (x.outputPtr, x.outputBytes)
  clientId : ∀ x, Holds clientMaxPendingXfers s.pending x → ∀ j ∈ s.ledger.outstanding,
    (x.commandId = j.2.commandId ↔ x.owner = j.1)
  daemonId : ∀ y, Holds maxPendingXfers s.daemon.buffers.pendingXfers y → ∀ j ∈ s.ledger.outstanding,
    (y.commandId = j.2.commandId ↔ y.owner = j.1)
  entries : ∀ j ∈ s.ledger.outstanding, ∀ o, s.outputs j.1 = some o →
    0 < o.2 ∧ (∃ x, Holds clientMaxPendingXfers s.pending x ∧ x.owner = j.1) ∧
      ∃ y, Holds maxPendingXfers s.daemon.buffers.pendingXfers y ∧ y.owner = j.1 ∧
        y.outputPtr = j.2.outputBufAddr ∧ y.outputBytes = o.2

section Steps

variable {kernels : MathKernels} {s s' : Remote} {cmd : AimuCmd} {mallocs : Mallocs} {req : CmdRequest}

theorem clientRequest_cmd {memory : Memory} (h : clientRequest memory cmd = .ok req) : req.cmd = cmd := by
  unfold clientRequest at h
  simp only at h
  split_ifs at h
  · obtain rfl := Except.ok.inj h
    rfl
  · obtain rfl := Except.ok.inj h
    rfl
  · obtain rfl := Except.ok.inj h
    rfl

theorem clientOutput_some {o : UInt64 × UInt32} (h : clientOutput cmd = some o) :
    isLoad cmd.commandType = false ∧ cmdTypeNeedsBufferXfer cmd.commandType = true ∧ 0 < o.2 ∧
      cmd.outputBufBytes = o.2 := by
  unfold clientOutput at h
  by_cases hl : isLoad cmd.commandType = true
  · rw [if_pos hl] at h
    cases h
  · rw [if_neg hl] at h
    by_cases hx : cmdTypeNeedsBufferXfer cmd.commandType ∧ 0 < cmd.outputBufBytes ∧ cmd.outputBufAddr ≠ 0
    · rw [if_pos hx] at h
      obtain rfl := Option.some.inj h
      exact ⟨eq_false_of_ne_true hl, hx.1, hx.2.1, rfl⟩
    · rw [if_neg hx] at h
      cases h

/-- What the invariant says is kept where the tables are the same and fewer commands are outstanding. -/
theorem RemoteInv.fewer {d : Daemon} {memory : Memory} (hi : RemoteInv kernels s) (hf : d.endpoint.Follows)
    (hh : d.endpoint.queue.execHook = s.daemon.endpoint.queue.execHook) (hb : d.buffers = s.daemon.buffers)
    (hn : d.next = s.daemon.next) (hsub : d.endpoint.ledger.outstanding.Sublist s.ledger.outstanding) :
    RemoteInv kernels { s with memory := memory, daemon := d } := by
  refine ⟨hf, hh.trans hi.hook, ?_, hi.oneEach, ?_, hi.output, ?_, ?_, ?_⟩
  · show d.buffers.Sound d.next
    rw [hb, hn]
    exact hi.sound
  · intro x hx
    show x.owner < d.next
    rw [hn]
    exact hi.lt_next x hx
  · intro x hx j hj
    exact hi.clientId x hx j (hsub.subset hj)
  · intro y hy j hj
    exact hi.daemonId y (hb ▸ hy) j (hsub.subset hj)
  · intro j hj o ho
    have hentries := hi.entries j (hsub.subset hj) o ho
    rw [← hb] at hentries
    exact hentries

/-- Dispatched commands stay outstanding, unless their completion is dropped. -/
theorem RemoteInv.served {q : Cmdq ConfCtx} {taken : ℕ} {answers : List AimuCompletion} (hi : RemoteInv kernels s)
    (hs : Cmdq.Served s.daemon.endpoint.queue q taken answers) :
    RemoteInv kernels { s with
      daemon := ⟨⟨q, Tracked.serveTo s.daemon.endpoint.ledger s.daemon.endpoint.queue q⟩, s.daemon.buffers⟩ } := by
  have hledger := Tracked.serveTo_eq (l := s.daemon.endpoint.ledger) hs
  refine hi.fewer (Tracked.follows_served hi.follows hs) hs.hook rfl ?_ ?_
  · show (Tracked.serveTo s.daemon.endpoint.ledger s.daemon.endpoint.queue q).next = s.daemon.next
    rw [hledger]
    rfl
  · show (Tracked.serveTo s.daemon.endpoint.ledger s.daemon.endpoint.queue q).outstanding.Sublist s.ledger.outstanding
    rw [hledger]
    exact Ledger.outstanding_serve _ taken answers

/-- What a submit does to one of the tables: it may store one entry, and keeps those that have something to deliver. -/
structure TableStep {α : Type} (s : Remote) (owner : α → ℕ) (n : ℕ) (t t' : ℕ → Option α) (isNew : α → Prop) : Prop where
  oneEach : OneEach owner n t'
  old : ∀ x, Holds n t' x → isNew x ∨ Holds n t x
  keeps : ∀ x, Holds n t x → ¬ Settled s (owner x) → Holds n t' x

/-- The table of the client after an admitted submit. -/
theorem register_step (hi : RemoteInv kernels s) {x : ClientXfer} (ho : x.owner = s.daemon.next)
    (hk : ∀ z, Displaced clientMaxPendingXfers s.pending z → Settled s z.owner) :
    TableStep s ClientXfer.owner clientMaxPendingXfers s.pending (pendingXferRegister s.pending x) (· = x) := by
  refine ⟨hi.oneEach.put ?_ _, fun y hy => hy.of_put, fun y hy hset => ?_⟩
  · intro y hy
    have hlt := hi.lt_next y hy
    omega
  · refine Holds.put ClientXfer.owner hy ?_ x
    intro z hz heq
    obtain hnone | ⟨hfull, hzero⟩ := @allocSlot_cases _ clientMaxPendingXfers s.pending
    · cases hnone.symm.trans hz
    · rw [hzero] at hz
      exact hset (heq ▸ hk z ⟨hfull, hz⟩)

/-- The table of the daemon after an admitted submit. -/
theorem store_step {b : Buffers} {cmd' : AimuCmd} (hi : RemoteInv kernels s) (hf : Daemon.Fresh mallocs s.daemon.buffers)
    (h : Daemon.Admitted s.daemon mallocs req b cmd')
    (hk : cmdTypeNeedsBufferXfer req.cmd.commandType = true → req.cmd.outputBufBytes ≠ 0 →
      ∀ y, Displaced maxPendingXfers s.daemon.buffers.pendingXfers y → Settled s y.owner) :
    TableStep s PendingXfer.owner maxPendingXfers s.daemon.buffers.pendingXfers b.pendingXfers
        (fun y => y.owner = s.daemon.next ∧ y.commandId = s.daemon.endpoint.queue.nextCommandId) ∧
      ∀ o, clientOutput req.cmd = some o → ∃ y, Holds maxPendingXfers b.pendingXfers y ∧ y.owner = s.daemon.next ∧
        y.outputPtr = cmd'.outputBufAddr ∧ y.outputBytes = o.2 := by
  have hsame : ∀ b' : Buffers, b'.pendingXfers = s.daemon.buffers.pendingXfers →
      TableStep s PendingXfer.owner maxPendingXfers s.daemon.buffers.pendingXfers b'.pendingXfers
        fun y => y.owner = s.daemon.next ∧ y.commandId = s.daemon.endpoint.queue.nextCommandId := by
    intro b' hb'
    rw [hb']
    exact ⟨hi.sound.oneEach, fun y hy => Or.inr hy, fun y hy _ => hy⟩
  have hsound : b.Sound (s.daemon.next + 1) := Admitted.sound hi.sound hf h
  cases h with
  | load hl hin hb =>
    refine ⟨hsame b (hb ▸ rfl), fun o ho => ?_⟩
    cases hl.symm.trans (clientOutput_some ho).1
  | noOutput hl hx hout hb =>
    refine ⟨hsame b (hb ▸ rfl), fun o ho => ?_⟩
    obtain ⟨-, -, hpos, hbytes⟩ := clientOutput_some ho
    exact absurd (hbytes ▸ hpos) (not_pos_of_zero hout)
  | @stored b' x cmd' hl hx hout hnew hb =>
    obtain ⟨-, -, howner⟩ := Allocates.sound hi.sound hnew
    obtain ⟨freeInput, hentry⟩ := hnew.entry
    have htable := hnew.table
    rw [hb] at hsound ⊢
    refine ⟨⟨hsound.oneEach, fun y hy => ?_, fun y hy hset => ?_⟩, fun o ho => ?_⟩
    · obtain rfl | hy := Buffers.of_holds_store hy
      · exact Or.inl ⟨howner, hentry ▸ rfl⟩
      · exact Or.inr (htable ▸ hy)
    · refine Buffers.holds_store_of (htable ▸ hy) ?_ x
      intro z hz heq
      exact hset (heq ▸ hk hx hout z (htable ▸ hz))
    · refine ⟨x, Buffers.holds_store b' x, howner, hentry ▸ rfl, ?_⟩
      rw [hentry]
      exact (clientOutput_some ho).2.2.2
  | plain hl hx hb =>
    refine ⟨hsame b (hb ▸ rfl), fun o ho => ?_⟩
    cases hx.symm.trans (clientOutput_some ho).2.1

/-- An admitted submit, whatever it does to the table of the client. -/
theorem remoteInv_admitted {d' : Daemon} {cmd' : AimuCmd} {pending : ℕ → Option ClientXfer} {isNew : ClientXfer → Prop}
    (hi : RemoteInv kernels s) (hf : Daemon.Fresh mallocs s.daemon.buffers) (hk : KeepsEntries s req.cmd)
    (hcase : Daemon.Admitted s.daemon mallocs req d'.buffers cmd')
    (hledger : d'.endpoint.ledger = s.ledger.enter (s.daemon.endpoint.queue.storedCmd cmd'))
    (hfollows : d'.endpoint.Follows) (hhook : d'.endpoint.queue.execHook = s.daemon.endpoint.queue.execHook)
    (hp : TableStep s ClientXfer.owner clientMaxPendingXfers s.pending pending isNew)
    (hisNew : ∀ x, isNew x → x.owner = s.daemon.next ∧ x.commandId = s.daemon.endpoint.queue.nextCommandId ∧
      clientOutput req.cmd = some (x.outputPtr, x.outputBytes))
    (hnew : ∀ o, clientOutput req.cmd = some o → ∃ x, Holds clientMaxPendingXfers pending x ∧ x.owner = s.daemon.next) :
    RemoteInv kernels ⟨s.memory, pending, d', Function.update s.outputs s.daemon.next (clientOutput req.cmd)⟩ := by
  obtain ⟨ht, htnew⟩ := store_step hi hf hcase hk.daemon
  have hnext : d'.next = s.daemon.next + 1 := congrArg Ledger.next hledger
  have hold : ∀ j ∈ s.ledger.outstanding, j.1 < s.daemon.next := hi.follows.numbered.lt_next
  have hout : ∀ j, j ∈ d'.endpoint.ledger.outstanding → j ∈ s.ledger.outstanding ∨
      j = (s.daemon.next, s.daemon.endpoint.queue.storedCmd cmd') := by
    intro j hj
    rw [hledger, Ledger.outstanding_enter] at hj
    obtain hj | hj := List.mem_append.mp hj
    · exact Or.inl hj
    · exact Or.inr (List.mem_singleton.mp hj)
  have hkept : ∀ n < s.daemon.next,
      Function.update s.outputs s.daemon.next (clientOutput req.cmd) n = s.outputs n :=
    fun n hn => Function.update_of_ne (Nat.ne_of_lt hn) _ _
  refine ⟨hfollows, hhook.trans hi.hook, ?_, hp.oneEach, ?_, ?_, ?_, ?_, ?_⟩
  · show d'.buffers.Sound d'.next
    rw [hnext]
    exact Admitted.sound hi.sound hf hcase
  · intro x hx
    show x.owner < d'.next
    rw [hnext]
    obtain hx | hx := hp.old x hx
    · have ho := (hisNew x hx).1
      omega
    · exact Nat.lt_succ_of_lt (hi.lt_next x hx)
  · intro x hx
    show Function.update s.outputs s.daemon.next (clientOutput req.cmd) x.owner = _
    obtain hx | hx := hp.old x hx
    · obtain ⟨ho, -, hcmd⟩ := hisNew x hx
      rw [ho, Function.update_self]
      exact hcmd
    · rw [hkept _ (hi.lt_next x hx)]
      exact hi.output x hx
  · intro x hx j hj
    obtain hx | hx := hp.old x hx
    · obtain ⟨ho, hid, -⟩ := hisNew x hx
      obtain hj | rfl := hout j hj
      · have hlt := hold j hj
        refine iff_of_false ?_ (by omega)
        rw [hid]
        exact (hk.freshId.outstanding j hj).symm
      · exact iff_of_true hid ho
    · obtain hj | rfl := hout j hj
      · exact hi.clientId x hx j hj
      · exact iff_of_false (hk.freshId.client x hx) (Nat.ne_of_lt (hi.lt_next x hx))
  · intro y hy j hj
    obtain ⟨ho, hid⟩ | hy := ht.old y hy
    · obtain hj | rfl := hout j hj
      · have hlt := hold j hj
        refine iff_of_false ?_ (by omega)
        rw [hid]
        exact (hk.freshId.outstanding j hj).symm
      · exact iff_of_true hid ho
    · obtain hj | rfl := hout j hj
      · exact hi.daemonId y hy j hj
      · exact iff_of_false (hk.freshId.daemon y hy) (Nat.ne_of_lt (hi.sound.lt_next y hy))
  · intro j hj o ho
    obtain hj | rfl := hout j hj
    · have ho' : s.outputs j.1 = some o := (hkept _ (hold j hj)).symm.trans ho
      obtain ⟨hpos, ⟨x, hx, hxj⟩, y, hy, hyj, hptr⟩ := hi.entries j hj o ho'
      have hset : ¬ Settled s j.1 := by
        intro hsettled
        cases (hsettled j hj rfl).symm.trans ho'
      exact ⟨hpos, ⟨x, hp.keeps x hx (hxj ▸ hset), hxj⟩, y, ht.keeps y hy (hyj ▸ hset), hyj, hptr⟩
    · have ho' : clientOutput req.cmd = some o := (Function.update_self _ _ s.outputs).symm.trans ho
      exact ⟨(clientOutput_some ho').2.2.1, hnew o ho', htnew o ho'⟩

theorem remoteInv_submit (hi : RemoteInv kernels s) (hf : Daemon.Fresh mallocs s.daemon.buffers)
    (hk : KeepsOutputs s (.cmdSubmit cmd mallocs)) :
    RemoteInv kernels (s.clientCmdSubmit mallocs cmd).1 ∧ (s.clientCmdSubmit mallocs cmd).1.memory = s.memory := by
  unfold Remote.clientCmdSubmit
  cases hreq : clientRequest s.memory cmd with
  | error status => exact ⟨hi, rfl⟩
  | ok req =>
    obtain rfl := clientRequest_cmd hreq
    simp only
    by_cases hadm : s.daemon.Admits mallocs req
    · obtain ⟨cmd', d', echo, heq, hid, hcase, hledger, hfollows, hhook⟩ :=
        Daemon.dispatchCmdSubmit_admitted hi.follows hf hadm
      have hke : KeepsEntries s req.cmd := hk req hreq hadm
      rw [heq]
      simp only [if_true]
      cases hout : clientOutput req.cmd with
      | none =>
        -- nothing is stored in the table of the client
        have hp : TableStep s ClientXfer.owner clientMaxPendingXfers s.pending s.pending fun _ => False :=
          ⟨hi.oneEach, fun x hx => Or.inr hx, fun x hx _ => hx⟩
        have hinv := remoteInv_admitted hi hf hke hcase hledger hfollows hhook hp (fun x hx => hx.elim)
          fun o ho => by cases hout.symm.trans ho
        rw [hout] at hinv
        exact ⟨hinv, rfl⟩
      | some o =>
        obtain ⟨ptr, bytes⟩ := o
        have hp : TableStep s ClientXfer.owner clientMaxPendingXfers s.pending
            (pendingXferRegister s.pending ⟨echo.commandId, ptr, bytes, s.daemon.next⟩) _ :=
          register_step hi rfl (hke.client fun hnone => by cases hout.symm.trans hnone)
        have hisNew : ∀ x : ClientXfer, x = ⟨echo.commandId, ptr, bytes, s.daemon.next⟩ → x.owner = s.daemon.next ∧
            x.commandId = s.daemon.endpoint.queue.nextCommandId ∧
            clientOutput req.cmd = some (x.outputPtr, x.outputBytes) := by
          intro x hx
          rw [hx]
          exact ⟨rfl, hid, hout⟩
        have hinv := remoteInv_admitted hi hf hke hcase hledger hfollows hhook hp hisNew
          fun o _ => ⟨_, holds_put _ (allocSlot_lt (Nat.succ_pos _) _) _, rfl⟩
        rw [hout] at hinv
        exact ⟨hinv, rfl⟩
    · obtain ⟨hst, hidle⟩ := Daemon.dispatchCmdSubmit_refused hi.follows hf hadm
      rw [if_neg hst]
      refine ⟨?_, rfl⟩
      refine hi.fewer hidle.follows hidle.hook hidle.buffers (congrArg Ledger.next hidle.ledger) ?_
      rw [hidle.ledger]
      exact List.Sublist.refl _

/-! ### Polls -/

theorem writeMemory_congr {memory : Memory} {ptr : UInt64} {f g : ℕ → UInt8} {n : ℕ} (h : ∀ i < n, f i = g i) :
    writeMemory memory ptr f n = writeMemory memory ptr g n := by
  ext a
  unfold writeMemory
  by_cases ha : (a - ptr).toNat < n
  · rw [if_pos ha, if_pos ha, h _ ha]
  · rw [if_neg ha, if_neg ha]

/-- What a poll that takes a completion leaves in the two tables: the entries of other jobs. -/
theorem clear_step {α : Type} {owner : α → ℕ} {n i : ℕ} {t : ℕ → Option α} {x y : α} (hy : Holds n t y)
    (hx : t i = some x) (hne : owner y ≠ owner x) : Holds n (Function.update t i none) y := by
  refine Holds.clear owner hy ?_
  intro z hz
  obtain rfl := Option.some.inj (hx.symm.trans hz)
  exact hne

/-- After a poll of the job `j`, with tables from which entries of `j` may have gone. -/
theorem remoteInv_polled {d' : Daemon} {x : (ℕ × AimuCmd) × AimuCompletion} {memory : Memory}
    {pending : ℕ → Option ClientXfer} (hi : RemoteInv kernels s) (hp : Daemon.Polls s.daemon d' x)
    (hsound : d'.buffers.Sound s.daemon.next)
    (hdaemon : ∀ y, Holds maxPendingXfers d'.buffers.pendingXfers y →
      Holds maxPendingXfers s.daemon.buffers.pendingXfers y)
    (hdaemon' : ∀ y, Holds maxPendingXfers s.daemon.buffers.pendingXfers y → y.owner ≠ x.1.1 →
      Holds maxPendingXfers d'.buffers.pendingXfers y)
    (hone : OneEach ClientXfer.owner clientMaxPendingXfers pending)
    (hclient : ∀ y, Holds clientMaxPendingXfers pending y → Holds clientMaxPendingXfers s.pending y)
    (hclient' : ∀ y, Holds clientMaxPendingXfers s.pending y → y.owner ≠ x.1.1 →
      Holds clientMaxPendingXfers pending y) :
    RemoteInv kernels ⟨memory, pending, d', s.outputs⟩ := by
  have hnext : d'.next = s.daemon.next := (congrArg Ledger.next hp.ledger).trans rfl
  obtain ⟨rest, hhead⟩ := hp.head
  have hout : ∀ j, j ∈ d'.endpoint.ledger.outstanding → j ∈ s.ledger.outstanding ∧ j.1 ≠ x.1.1 := by
    intro j hj
    rw [hp.ledger] at hj
    have hlt := hi.follows.numbered.head_lt hhead hj
    exact ⟨(Ledger.outstanding_collect _).subset hj, by omega⟩
  refine ⟨hp.follows, hp.hook.trans hi.hook, ?_, hone, ?_, ?_, ?_, ?_, ?_⟩
  · show d'.buffers.Sound d'.next
    rw [hnext]
    exact hsound
  · intro y hy
    show y.owner < d'.next
    rw [hnext]
    exact hi.lt_next y (hclient y hy)
  · intro y hy
    exact hi.output y (hclient y hy)
  · intro y hy j hj
    exact hi.clientId y (hclient y hy) j (hout j hj).1
  · intro y hy j hj
    exact hi.daemonId y (hdaemon y hy) j (hout j hj).1
  · intro j hj o ho
    obtain ⟨hj, hne⟩ := hout j hj
    obtain ⟨hpos, ⟨y, hy, hyj⟩, z, hz, hzj, hptr⟩ := hi.entries j hj o ho
    exact ⟨hpos, ⟨y, hclient' y hy (hyj ▸ hne), hyj⟩, z, hdaemon' z hz (hzj ▸ hne), hzj, hptr⟩

/-- The response to the poll of a job with an output: its bytes, if they fit. -/
theorem settles_output {x : (ℕ × AimuCmd) × AimuCompletion} {b : Buffers} {resp : CmdResponse}
    {o : UInt64 × UInt32} (hi : RemoteInv kernels s) (hx : x ∈ s.ledger.answered) (ho : s.outputs x.1.1 = some o)
    (hs : Daemon.Settles s.daemon x.2 b resp) :
    Owned s.daemon.buffers.heap x.1.2.outputBufAddr o.2.toNat x.1.1 ∧
      resp =
        if 0 < o.2 ∧ o.2.toNat ≤ maxPayload then
          { completion := x.2
            payloadBytes := o.2
            payload := copyInto (fun _ => 0) 0 (readMemory s.daemon.memory x.1.2.outputBufAddr) 0 o.2.toNat }
        else { completion := x.2 } := by
  have hmem : x.1 ∈ s.ledger.outstanding := Ledger.mem_outstanding_of_answered hx
  have hid : x.2.commandId = x.1.2.commandId := congrArg CmdIds.commandId (hi.follows.ids x hx)
  obtain ⟨hpos, -, y, hy, hyj, hptr, hbytes⟩ := hi.entries x.1 hmem o ho
  have hown := (hi.sound.live y hy).2
  rw [hyj, hptr, hbytes] at hown
  obtain ⟨slot, hfound⟩ : ∃ slot, s.daemon.buffers.pendingXferFind x.2.commandId = some (slot, y) := by
    refine findEntry_owner (o := x.1.1) ?_ hy hyj hi.sound.oneEach
    intro z hz
    rw [beq_iff_eq, hid]
    exact hi.daemonId z hz x.1 hmem
  refine ⟨hown, ?_⟩
  cases hs with
  | noEntry hfind _ => cases hfind.symm.trans hfound
  | @entry slot' y' hfind hb =>
    obtain ⟨-, rfl⟩ := Prod.mk.inj (Option.some.inj (hfind.symm.trans hfound))
    unfold PendingXfer.response
    rw [hptr, hbytes]

theorem settles_ok {d : Daemon} {completion : AimuCompletion} {b : Buffers} {resp : CmdResponse}
    (hs : Daemon.Settles d completion b resp) : resp.status = .ok ∧ resp.completion = completion := by
  cases hs with
  | noEntry _ _ => exact ⟨rfl, rfl⟩
  | @entry slot y hfind hb =>
    unfold PendingXfer.response
    split_ifs
    · exact ⟨rfl, rfl⟩
    · exact ⟨rfl, rfl⟩

/-- The table of the daemon after a poll: only entries of the job have gone. -/
theorem settles_table {x : (ℕ × AimuCmd) × AimuCompletion} {b : Buffers} {resp : CmdResponse}
    (hi : RemoteInv kernels s) (hx : x ∈ s.ledger.answered) (hs : Daemon.Settles s.daemon x.2 b resp) :
    b.Sound s.daemon.next ∧
      (∀ y, Holds maxPendingXfers b.pendingXfers y → Holds maxPendingXfers s.daemon.buffers.pendingXfers y) ∧
      ∀ y, Holds maxPendingXfers s.daemon.buffers.pendingXfers y → y.owner ≠ x.1.1 →
        Holds maxPendingXfers b.pendingXfers y := by
  cases hs with
  | noEntry _ hb =>
    rw [hb]
    exact ⟨hi.sound, fun y hy => hy, fun y hy _ => hy⟩
  | @entry slot y hfind hb =>
    have hid : x.2.commandId = x.1.2.commandId := congrArg CmdIds.commandId (hi.follows.ids x hx)
    obtain ⟨hslot, hy, hmatch⟩ := findEntry_some hfind
    rw [beq_iff_eq, hid] at hmatch
    have howner : y.owner = x.1.1 :=
      (hi.daemonId y ⟨slot, hslot, hy⟩ x.1 (Ledger.mem_outstanding_of_answered hx)).mp hmatch
    rw [hb]
    refine ⟨hi.sound.release hslot, fun z hz => ?_, fun z hz hne => ?_⟩
    · rw [Buffers.pendingXfers_release] at hz
      exact hz.of_clear
    · rw [Buffers.pendingXfers_release]
      exact clear_step hz hy (howner ▸ hne)

/-- The entry that the client finds for a completion is that of its job. -/
theorem client_found {x : (ℕ × AimuCmd) × AimuCompletion} {slot : ℕ} {y : ClientXfer} (hi : RemoteInv kernels s)
    (hx : x ∈ s.ledger.answered)
    (hfind : findEntry clientMaxPendingXfers s.pending (fun y => y.commandId == x.2.commandId) = some (slot, y)) :
    slot < clientMaxPendingXfers ∧ s.pending slot = some y ∧ y.owner = x.1.1 ∧
      s.outputs x.1.1 = some (y.outputPtr, y.outputBytes) := by
  have hid : x.2.commandId = x.1.2.commandId := congrArg CmdIds.commandId (hi.follows.ids x hx)
  obtain ⟨hslot, hy, hmatch⟩ := findEntry_some hfind
  rw [beq_iff_eq, hid] at hmatch
  have howner : y.owner = x.1.1 :=
    (hi.clientId y ⟨slot, hslot, hy⟩ x.1 (Ledger.mem_outstanding_of_answered hx)).mp hmatch
  exact ⟨hslot, hy, howner, howner ▸ hi.output y ⟨slot, hslot, hy⟩⟩

/-- A job with an output has an entry. -/
theorem client_finds {x : (ℕ × AimuCmd) × AimuCompletion} {o : UInt64 × UInt32} (hi : RemoteInv kernels s)
    (hx : x ∈ s.ledger.answered) (ho : s.outputs x.1.1 = some o) :
    ∃ r, findEntry clientMaxPendingXfers s.pending (fun y => y.commandId == x.2.commandId) = some r := by
  have hmem := Ledger.mem_outstanding_of_answered hx
  have hid : x.2.commandId = x.1.2.commandId := congrArg CmdIds.commandId (hi.follows.ids x hx)
  obtain ⟨-, ⟨y, hy, hyj⟩, -⟩ := hi.entries x.1 hmem o ho
  obtain ⟨slot, hfound⟩ := findEntry_owner (p := fun y => y.commandId == x.2.commandId) (o := x.1.1)
    (fun z hz => by rw [beq_iff_eq, hid]; exact hi.clientId z hz x.1 hmem) hy hyj hi.oneEach
  exact ⟨_, hfound⟩

theorem remoteInv_poll (hi : RemoteInv kernels s) (hk : KeepsOutputs s .cmdPollCompletion) :
    RemoteInv kernels s.clientCmdPollCompletion.1 ∧ s.clientCmdPollCompletion.1.memory = s.delivered ∧
      ∀ x ∈ s.ledger.answered.head?, ∀ o ∈ s.outputs x.1.1, x.2.resultCode = AimuResult.ok.code →
        Owned s.daemon.buffers.heap x.1.2.outputBufAddr o.2.toNat x.1.1 := by
  obtain ⟨hnil, heq⟩ | ⟨x, d', resp, heq, hp, hs⟩ := Daemon.dispatchCmdPollCompletion_cases hi.follows
  · have hnil' : s.ledger.answered = [] := hnil
    unfold Remote.clientCmdPollCompletion Remote.delivered
    rw [heq, hnil']
    refine ⟨hi, rfl, ?_⟩
    intro x hx
    cases hx
  · obtain ⟨rest, hans⟩ := hp.head
    have hhead : s.ledger.answered.head? = some x := congrArg List.head? hans
    have hx : x ∈ s.ledger.answered := List.mem_of_mem_head? hhead
    obtain ⟨hok, hcomp⟩ := settles_ok hs
    obtain ⟨hsound, hdaemon, hdaemon'⟩ := settles_table hi hx hs
    unfold Remote.clientCmdPollCompletion Remote.delivered
    rw [heq, hhead]
    simp only [hok, hcomp, if_true]
    cases hout : s.outputs x.1.1 with
    | none =>
      have hnone : findEntry clientMaxPendingXfers s.pending (fun y => y.commandId == x.2.commandId) = none := by
        cases hfind : findEntry clientMaxPendingXfers s.pending (fun y => y.commandId == x.2.commandId) with
        | none => rfl
        | some r => cases hout.symm.trans (client_found hi hx hfind).2.2.2
      rw [hnone]
      refine ⟨?_, rfl, ?_⟩
      · exact remoteInv_polled hi hp hsound hdaemon hdaemon' hi.oneEach (fun y hy => hy) fun y hy _ => hy
      · intro x' hx' o ho
        obtain rfl := Option.some.inj hx'
        cases hout.symm.trans ho
    | some o =>
      obtain ⟨⟨slot, y⟩, hfind⟩ := client_finds hi hx hout
      obtain ⟨hslot, hy, howner, hout'⟩ := client_found hi hx hfind
      obtain rfl := Option.some.inj (hout.symm.trans hout')
      obtain ⟨hown, hresp⟩ := settles_output hi hx hout hs
      have hmem := Ledger.mem_outstanding_of_answered hx
      obtain ⟨hpos, -⟩ := hi.entries x.1 hmem _ hout
      have hfits : x.2.resultCode = AimuResult.ok.code ↔ y.outputBytes.toNat ≤ maxPayload := hk x hhead _ hout
      have hinv : ∀ memory, RemoteInv kernels ⟨memory, Function.update s.pending slot none, d', s.outputs⟩ := by
        intro memory
        refine remoteInv_polled hi hp hsound hdaemon hdaemon' (hi.oneEach.clear slot) (fun z hz => hz.of_clear) ?_
        intro z hz hne
        exact clear_step hz hy (howner ▸ hne)
      rw [hfind]
      simp only
      refine ⟨?_, ?_, ?_⟩
      · split_ifs
        · exact hinv _
        · exact hinv _
      · by_cases hcode : x.2.resultCode = AimuResult.ok.code
        · rw [if_pos ⟨hpos, hfits.mp hcode⟩] at hresp
          rw [hresp, if_pos rfl, if_pos hcode]
          refine writeMemory_congr fun i hlt => ?_
          have hlt' : i < y.outputBytes.toNat := hlt
          show (if 0 ≤ i ∧ i < 0 + y.outputBytes.toNat then
            readMemory s.daemon.memory x.1.2.outputBufAddr (0 + (i - 0)) else 0) = _
          rw [if_pos ⟨Nat.zero_le i, by omega⟩, Nat.zero_add, Nat.sub_zero]
        · rw [if_neg fun h => hcode (hfits.mpr h.2)] at hresp
          rw [hresp, if_neg fun h : 0 = y.outputBytes => absurd hpos (not_pos_of_zero h.symm), if_neg hcode]
      · intro x' hx' o ho _
        obtain rfl := Option.some.inj hx'
        obtain rfl := Option.some.inj (hout.symm.trans ho)
        exact hown

theorem RemoteInv.once (hi : RemoteInv kernels s) : (s.ledger.collected.map fun x => x.1.1).Nodup := by
  have hsorted : (s.ledger.collected.map Prod.fst).Pairwise fun j j' => j.1 < j'.1 :=
    hi.follows.numbered.sorted.sublist (List.sublist_append_left _ _)
  have hnumbers : (s.ledger.collected.map fun x => x.1.1).Pairwise (· < ·) := by
    rw [List.pairwise_map] at hsorted ⊢
    exact hsorted
  exact hnumbers.imp Nat.ne_of_lt

theorem remoteInv_step {call : RemoteCall} (hi : RemoteInv kernels s) (hk : KeepsOutputs s call)
    (hs : RemoteStep s call s') : RemoteInv kernels s' ∧ Delivers s call s' := by
  have hkeeps : Cmdq.KeepsDescriptor s.daemon.endpoint.queue.execHook :=
    hi.hook ▸ confExecHook_keepsDescriptor kernels
  cases call with
  | cmdSubmit cmd mallocs =>
    obtain ⟨hf, rfl⟩ := hs
    obtain ⟨hinv, hmemory⟩ := remoteInv_submit hi hf hk
    refine ⟨hinv, hmemory, hinv.once, ?_⟩
    intro h
    cases h
  | cmdDispatchOne =>
    obtain ⟨d, rfl, rfl⟩ := hs
    obtain ⟨taken, answers, hserved, -⟩ := Cmdq.dispatchOne_served hi.follows.wellFormed hkeeps
    have hinv := hi.served hserved
    refine ⟨hinv, rfl, hinv.once, ?_⟩
    intro h
    cases h
  | cmdDispatchAll =>
    obtain ⟨d, ⟨fuel, q, status, hq, rfl⟩, rfl⟩ := hs
    obtain ⟨taken, answers, hserved⟩ := Cmdq.dispatchAllLoop_served hi.follows.wellFormed hkeeps hq
    have hinv := hi.served hserved
    refine ⟨hinv, rfl, hinv.once, ?_⟩
    intro h
    cases h
  | cmdPollCompletion =>
    obtain rfl := hs
    obtain ⟨hinv, hmemory, hlive⟩ := remoteInv_poll hi hk
    exact ⟨hinv, hmemory, hinv.once, fun _ => hlive⟩
  | write memory =>
    obtain rfl := hs
    have hinv := @RemoteInv.fewer kernels s s.daemon memory hi hi.follows rfl rfl rfl (List.Sublist.refl _)
    refine ⟨hinv, rfl, hinv.once, ?_⟩
    intro h
    cases h

end Steps

theorem remoteInv_start {kernels : MathKernels} {host : Host} {daemonMemory memory : Memory} {config : CmdqConfig}
    {q : Cmdq ConfCtx} (hq : createQueue kernels host daemonMemory config = .ok q) :
    RemoteInv kernels (Remote.start q memory) := by
  have hinv := bufferInv_start hq
  refine ⟨hinv.follows, hinv.hook, hinv.sound, oneEach_empty, ?_, ?_, ?_, ?_, ?_⟩
  · rintro x ⟨i, -, hx⟩
    cases hx
  · rintro x ⟨i, -, hx⟩
    cases hx
  · rintro x ⟨i, -, hx⟩
    cases hx
  · rintro x ⟨i, -, hx⟩
    cases hx
  · intro j hj
    cases hj

/-- In every run of calls that keep the entries and fail no command with an output that fits, every step delivers. -/
theorem outputs_delivered (kernels : MathKernels) (host : Host) (daemonMemory memory : Memory) (config : CmdqConfig)
    (q : Cmdq ConfCtx) (hq : createQueue kernels host daemonMemory config = .ok q) (calls : List RemoteCall)
    (hg : Guarded RemoteStep (Remote.start q memory) KeepsOutputs calls) :
    Always RemoteStep (Remote.start q memory) Delivers calls := by
  refine always_of_guarded (remoteInv_start hq) ?_ hg
  intro s call s' hi hk hs
  exact remoteInv_step hi hk hs

theorem remoteStep_deterministic : Deterministic RemoteStep := by
  intro s call s' s'' h h'
  cases call with
  | cmdSubmit cmd mallocs => exact h.2.symm.trans h'.2
  | cmdDispatchOne =>
    obtain ⟨d, hd, rfl⟩ := h
    obtain ⟨d', hd', rfl⟩ := h'
    rw [daemonStep_deterministic _ _ _ _ hd hd']
  | cmdDispatchAll =>
    obtain ⟨d, hd, rfl⟩ := h
    obtain ⟨d', hd', rfl⟩ := h'
    rw [daemonStep_deterministic _ _ _ _ hd hd']
  | cmdPollCompletion => exact h.symm.trans h'
  | write memory => exact h.symm.trans h'

/-- A kernel that writes one byte. -/
def writeSeven : MathKernels :=
  { MathKernels.idle with ropeF32 := fun memory values _ _ _ => (Function.update memory values 7, true) }

/-- A rotation in place of one float at the address 64 of the client. -/
def remoteRope : RemoteCall :=
  .cmdSubmit
    { commandType := 0x12, inputBufAddr := 64, inputBufBytes := 4, outputBufAddr := 64, outputBufBytes := 4 }
    { input := some 4096 }

/-- The result of a rotation arrives. -/
theorem outputs_delivered_rope : ∃ q s,
    createQueue writeSeven .generous (fun _ => 0) ⟨1, 4, 4⟩ = .ok q ∧
      Run RemoteStep (Remote.start q fun _ => 1) [remoteRope, .cmdDispatchOne, .cmdPollCompletion] s ∧
      s.memory 64 = 7 ∧
      Always RemoteStep (Remote.start q fun _ => 1) Delivers [remoteRope, .cmdDispatchOne, .cmdPollCompletion] := by
  have hrun : ∃ q, createQueue writeSeven .generous (fun _ => 0) ⟨1, 4, 4⟩ = .ok q ∧
      ∃ s, Run (fun s call s' => RemoteStep s call s' ∧ KeepsOutputs s call) (Remote.start q fun _ => 1)
        [remoteRope, .cmdDispatchOne, .cmdPollCompletion] s ∧ s.memory 64 = 7 := by
    refine ⟨_, rfl, _, Run.cons ⟨⟨fresh_input 4096 ?_, rfl⟩, ?_⟩ <| Run.cons ⟨⟨_, rfl, rfl⟩, trivial⟩ <|
      Run.cons ⟨rfl, ?_⟩ Run.nil, rfl⟩
    · decide
    · intro req _ _
      refine ⟨⟨fun j hj => ?_, ?_, ?_⟩, fun _ x hx => ?_, fun _ _ y hy => ?_⟩
      · cases hj
      · rintro x ⟨i, -, hx⟩
        cases hx
      · rintro y ⟨i, -, hy⟩
        cases hy
      · cases hx.2
      · cases hy.2
    · intro x hx o ho
      obtain rfl := Option.some.inj hx
      obtain rfl := Option.some.inj ho
      exact iff_of_true rfl (by decide)
  obtain ⟨q, hq, s, hr, hmemory⟩ := hrun
  obtain ⟨hr, hg⟩ := hr.guarded remoteStep_deterministic
  exact ⟨q, s, hq, hr, hmemory, outputs_delivered writeSeven .generous (fun _ => 0) (fun _ => 1) ⟨1, 4, 4⟩ q hq _ hg⟩

/-- A product with a tensor that was never loaded, the output at the address 128 of the client. -/
def remoteMatmul : RemoteCall :=
  .cmdSubmit
    { commandType := 0x10, opParam0 := 1, inputBufAddr := 64, inputBufBytes := 4, outputBufAddr := 128
      outputBufBytes := 4 }
    { input := some 4096, output := some 8192 }

/-- The completion of a product reports an error, and its output buffer is overwritten all the same. -/
theorem failed_output_overwritten : ∃ q s s',
    createQueue .idle .generous (fun _ => 0) ⟨1, 4, 4⟩ = .ok q ∧
      Run RemoteStep (Remote.start q fun _ => 1) [remoteMatmul, .cmdDispatchOne] s ∧
      RemoteStep s .cmdPollCompletion s' ∧
      s.clientCmdPollCompletion.2.2.resultCode = AimuResult.errInvalidTensor.code ∧ s'.memory 128 = 0 ∧
      ¬ Always RemoteStep (Remote.start q fun _ => 1) Delivers
        [remoteMatmul, .cmdDispatchOne, .cmdPollCompletion] := by
  have hrun : ∃ q, createQueue .idle .generous (fun _ => 0) ⟨1, 4, 4⟩ = .ok q ∧
      ∃ s s', Run RemoteStep (Remote.start q fun _ => 1) [remoteMatmul, .cmdDispatchOne] s ∧
        RemoteStep s .cmdPollCompletion s' ∧
        s.clientCmdPollCompletion.2.2.resultCode = AimuResult.errInvalidTensor.code ∧ s'.memory 128 = 0 ∧
        s.delivered 128 = 1 := by
    refine ⟨_, rfl, _, _, Run.cons ⟨⟨?_, ?_⟩, rfl⟩ <| Run.cons ⟨_, rfl, rfl⟩ Run.nil, rfl, rfl, rfl, rfl⟩
    · intro ptr hptr
      obtain rfl := Option.some.inj hptr
      refine ⟨by decide, fun b hb => ?_⟩
      cases hb
    · intro ptr hptr
      obtain rfl := Option.some.inj hptr
      refine ⟨by decide, fun b hb => ?_, by decide⟩
      cases hb
  obtain ⟨q, hq, s, s', hr, hs, hcode, hmemory, hdelivered⟩ := hrun
  refine ⟨q, s, s', hq, hr, hs, hcode, hmemory, fun halways => ?_⟩
  have hlaw := halways [remoteMatmul, .cmdDispatchOne] .cmdPollCompletion s s' List.prefix_rfl hr hs
  have hsame : s'.memory 128 = s.delivered 128 := congrFun hlaw.memory 128
  rw [hmemory, hdelivered] at hsame
  exact absurd hsame (by decide)

end Att1.Endpoint
