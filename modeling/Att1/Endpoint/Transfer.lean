import Att1.Conformance.Ops
import Att1.Endpoint.Protocol
import Att1.Lib.Heap
import Att1.Lib.Slots

/-!
# Att1.Endpoint.Transfer — the command requests of the endpoint daemon (`tools/att1-aimu-endpoint.c`)

The client of a socket cannot be followed into its memory, so a submit carries the operand bytes.  The daemon copies
them into buffers of its own, rewrites the addresses of the command, and remembers the buffers in a table until the
completion is polled.

* `Daemon`: the endpoint, the live buffers and the table of pending transfers.
* `dispatchCmdSubmit`, `dispatchCmdPollCompletion`: the two requests that touch the table.
* `dispatchCmdSubmit_refused`, `dispatchCmdSubmit_admitted`: what a submit does.

The results of `malloc` are arguments.  Each buffer and each entry of the table is labelled with the number of the
command it was made for, which no operation reads.
-/

open Att1.Lib Att1.Conformance

namespace Att1.Endpoint

/-- `att1_aimu_endpoint_pending_xfer`, with the number of its command. -/
structure PendingXfer where
  commandId : UInt32
  inputPtr : UInt64
  outputPtr : UInt64
  outputBytes : UInt32
  freeInput : Bool
  owner : ℕ
  deriving DecidableEq, Repr

/-- `ATT1_AIMU_ENDPOINT_MAX_PENDING_XFERS`. -/
def maxPendingXfers : ℕ := 16

/-- The live buffers and the table of pending transfers. -/
structure Buffers where
  heap : List (Block UInt64)
  pendingXfers : ℕ → Option PendingXfer

/-- The daemon. -/
structure Daemon where
  endpoint : Tracked ConfCtx
  buffers : Buffers

/-- The fields of a request that a submit reads. -/
structure CmdRequest where
  cmd : AimuCmd
  payloadBytes : UInt32 := 0
  payload : ℕ → UInt8 := fun _ => 0

/-- The fields of a response that the command requests write. -/
structure CmdResponse where
  status : Status := .ok
  cmd : AimuCmd := {}
  completion : AimuCompletion := {}
  payloadBytes : UInt32 := 0
  payload : ℕ → UInt8 := fun _ => 0

/-- The bytes from an address on. -/
def readMemory (memory : Memory) (ptr : UInt64) : ℕ → UInt8 := fun i => memory (ptr + UInt64.ofNat i)

/-- `memcpy` of `count` bytes to an address. -/
def writeMemory (memory : Memory) (ptr : UInt64) (bytes : ℕ → UInt8) (count : ℕ) : Memory := fun a =>
  if (a - ptr).toNat < count then bytes (a - ptr).toNat else memory a

/-- The results of the two calls of `malloc` in a submit, `none` for null. -/
structure Mallocs where
  input : Option UInt64 := none
  output : Option UInt64 := none

/-- `cmd_type_needs_buffer_xfer`. -/
def cmdTypeNeedsBufferXfer (commandType : UInt8) : Bool :=
  match AimuCmdType.ofCode commandType with
  | some .execMatmul | some .execRmsnorm | some .execRope | some .execFfn => true
  | _ => false

def isLoad (commandType : UInt8) : Bool := decide (AimuCmdType.ofCode commandType = some .loadTensorTile)

/-- The bytes of an f32 tensor tile, `dim0 * dim1 * 4u`. -/
def tileBytes (cmd : AimuCmd) : UInt32 := (cmd.opParam1 >>> 16) * (cmd.opParam1 &&& 0xFFFF) * 4

/-- The response to a poll that finds an entry for its completion: the bytes of the output buffer, if they fit. -/
def PendingXfer.response (x : PendingXfer) (memory : Memory) (completion : AimuCompletion) : CmdResponse :=
  if 0 < x.outputBytes ∧ x.outputBytes.toNat ≤ maxPayload then
    { completion := completion
      payloadBytes := x.outputBytes
      payload := copyInto (fun _ => 0) 0 (readMemory memory x.outputPtr) 0 x.outputBytes.toNat }
  else { completion := completion }

namespace Buffers

def malloc (b : Buffers) (ptr : UInt64) (size owner : ℕ) : Buffers :=
  { b with heap := ⟨ptr, size, owner⟩ :: b.heap }

def free (b : Buffers) (ptr : UInt64) : Buffers := { b with heap := Lib.free b.heap ptr }

/-- `pending_xfer_release`. -/
def pendingXferRelease (b : Buffers) (slot : ℕ) : Buffers :=
  match b.pendingXfers slot with
  | none => b
  | some x =>
    let b' := if x.freeInput then b.free x.inputPtr else b
    { b'.free x.outputPtr with pendingXfers := Function.update b.pendingXfers slot none }

/-- `pending_xfer_alloc_slot`. -/
def pendingXferAllocSlot (b : Buffers) : Buffers × ℕ :=
  match freeSlot maxPendingXfers b.pendingXfers with
  | some slot => (b, slot)
  | none => (b.pendingXferRelease 0, 0)

/-- `pending_xfer_find`. -/
def pendingXferFind (b : Buffers) (commandId : UInt32) : Option (ℕ × PendingXfer) :=
  findEntry maxPendingXfers b.pendingXfers fun x => x.commandId == commandId

/-- The entry that a submit stores. -/
def store (b : Buffers) (x : PendingXfer) : Buffers :=
  let s := b.pendingXferAllocSlot
  { s.1 with pendingXfers := Function.update s.1.pendingXfers s.2 (some x) }

end Buffers

namespace Daemon

/-- The number that the next command gets. -/
def next (d : Daemon) : ℕ := d.endpoint.ledger.next

def memory (d : Daemon) : Memory := d.endpoint.queue.execHookCtx.memory

/-- A new buffer with `size` bytes of the payload in it. -/
def copyIn (d : Daemon) (ptr : UInt64) (payload : ℕ → UInt8) (size : ℕ) : Daemon :=
  let queue := d.endpoint.queue
  let ctx := { queue.execHookCtx with memory := writeMemory d.memory ptr payload size }
  { endpoint := { d.endpoint with queue := { queue with execHookCtx := ctx } }
    buffers := d.buffers.malloc ptr size d.next }

/-- What `dispatch_cmd_submit` has in hand when it submits. -/
structure Prepared where
  daemon : Daemon
  cmd : AimuCmd
  daemonInput : Option UInt64 := none
  daemonOutput : Option UInt64 := none
  inPlace : Bool := false
  needsXfer : Bool := false

/-- The branch of `dispatch_cmd_submit` for `LOAD_TENSOR_TILE`, up to the submit. -/
def prepareLoad (d : Daemon) (mallocs : Mallocs) (req : CmdRequest) : Except (Daemon × Status × AimuCmd) Prepared :=
  if req.cmd.dtype ≠ dtypeF32 then .error (d, .unsupported, req.cmd)
  else
    let bytes := tileBytes req.cmd
    if bytes = 0 ∨ bytes ≠ req.payloadBytes ∨ maxPayload < bytes.toNat then .error (d, .invalidArg, req.cmd)
    else
      match mallocs.input with
      | none => .error (d, .oom, req.cmd)
      | some input =>
        .ok
          { daemon := d.copyIn input req.payload bytes.toNat
            cmd := { req.cmd with inputBufAddr := input }
            daemonInput := some input }

/-- The branch of `dispatch_cmd_submit` for the executed commands, up to the submit. -/
def prepareExec (d : Daemon) (mallocs : Mallocs) (req : CmdRequest) : Except (Daemon × Status × AimuCmd) Prepared :=
  let bytes := req.cmd.inputBufBytes
  if bytes = 0 ∨ bytes ≠ req.payloadBytes ∨ maxPayload < bytes.toNat then .error (d, .invalidArg, req.cmd)
  else
    match mallocs.input with
    | none => .error (d, .oom, req.cmd)
    | some input =>
      let d := d.copyIn input req.payload bytes.toNat
      let cmd := { req.cmd with inputBufAddr := input }
      if req.cmd.outputBufBytes = 0 then .ok { daemon := d, cmd := cmd, daemonInput := some input }
      else if req.cmd.outputBufAddr = req.cmd.inputBufAddr then
        -- in place, which two sizes cannot be
        if req.cmd.outputBufBytes ≠ bytes then
          .error ({ d with buffers := d.buffers.free input }, .invalidArg, cmd)
        else
          .ok
            { daemon := d
              cmd := { cmd with outputBufAddr := input }
              daemonInput := some input
              daemonOutput := some input
              inPlace := true
              needsXfer := true }
      else
        match mallocs.output with
        | none => .error ({ d with buffers := d.buffers.free input }, .oom, cmd)
        | some output =>
          .ok
            { daemon := { d with buffers := d.buffers.malloc output req.cmd.outputBufBytes.toNat d.next }
              cmd := { cmd with outputBufAddr := output }
              daemonInput := some input
              daemonOutput := some output
              needsXfer := true }

/-- `dispatch_cmd_submit` up to the submit; an error is returned at once. -/
def prepare (d : Daemon) (mallocs : Mallocs) (req : CmdRequest) : Except (Daemon × Status × AimuCmd) Prepared :=
  if isLoad req.cmd.commandType then d.prepareLoad mallocs req
  else if cmdTypeNeedsBufferXfer req.cmd.commandType then d.prepareExec mallocs req
  else .ok { daemon := d, cmd := req.cmd }

namespace Prepared

/-- The entry that a submit stores. -/
def entry (p : Prepared) (cmd : AimuCmd) : PendingXfer where
  commandId := cmd.commandId
  inputPtr := p.daemonInput.getD 0
  outputPtr := p.daemonOutput.getD 0
  outputBytes := cmd.outputBufBytes
  freeInput := !p.inPlace
  owner := p.daemon.next

/-- The buffers of an executed command that gets no entry are freed. -/
def dropBuffers (p : Prepared) (b : Buffers) : Buffers :=
  match p.daemonInput with
  | none => b
  | some input =>
    match p.daemonOutput with
    | none => b.free input
    | some output => if output ≠ input then (b.free output).free input else b.free input

/-- The buffers after the submit, which returned `status` and left the descriptor `cmd`. -/
def buffersAfter (p : Prepared) (status : Status) (cmd : AimuCmd) : Buffers :=
  if status = .ok ∧ p.needsXfer then p.daemon.buffers.store (p.entry cmd)
  else if isLoad cmd.commandType then
    if status ≠ .ok then p.daemon.buffers.free (p.daemonInput.getD 0) else p.daemon.buffers
  else p.dropBuffers p.daemon.buffers

end Prepared

/-- `dispatch_cmd_submit`; the echoed command has the addresses of the client. -/
def dispatchCmdSubmit (d : Daemon) (mallocs : Mallocs) (req : CmdRequest) : Daemon × CmdResponse :=
  match d.prepare mallocs req with
  | .error (d, status, cmd) => (d, { status := status, cmd := cmd })
  | .ok p =>
    let r := p.daemon.endpoint.submit p.cmd
    ({ endpoint := r.1, buffers := p.buffersAfter r.2.1 r.2.2 },
      { status := r.2.1
        cmd := { r.2.2 with inputBufAddr := req.cmd.inputBufAddr, outputBufAddr := req.cmd.outputBufAddr } })

/-- `dispatch_cmd_poll_completion`. -/
def dispatchCmdPollCompletion (d : Daemon) : Daemon × CmdResponse :=
  let r := d.endpoint.pollCompletion
  let completion := r.2.2.getD {}
  if r.2.1 = .ok then
    match d.buffers.pendingXferFind completion.commandId with
    | none => ({ d with endpoint := r.1 }, { status := r.2.1, completion := completion })
    | some (slot, x) =>
      ({ endpoint := r.1, buffers := d.buffers.pendingXferRelease slot },
        x.response r.1.queue.execHookCtx.memory completion)
  else ({ d with endpoint := r.1 }, { status := r.2.1, completion := completion })

/-! ### What a submit does -/

/-- The calls of `malloc` return memory that is not in use. -/
structure Fresh (mallocs : Mallocs) (b : Buffers) : Prop where
  input : ∀ ptr, mallocs.input = some ptr → ptr ≠ 0 ∧ Unused b.heap ptr
  output : ∀ ptr, mallocs.output = some ptr → ptr ≠ 0 ∧ Unused b.heap ptr ∧ mallocs.input ≠ some ptr

/-- A submit passes the checks of the daemon, and the command ring has room. -/
def Admits (d : Daemon) (mallocs : Mallocs) (req : CmdRequest) : Prop :=
  (∃ p, d.prepare mallocs req = .ok p) ∧ d.endpoint.queue.Accepts req.cmd

/-- The ways through `dispatch_cmd_submit` up to the submit. -/
inductive Prepares (d : Daemon) (mallocs : Mallocs) (req : CmdRequest) : Prepared → Prop
  | load {input : UInt64} (hl : isLoad req.cmd.commandType = true) (hin : mallocs.input = some input) :
      Prepares d mallocs req
        { daemon := d.copyIn input req.payload (tileBytes req.cmd).toNat
          cmd := { req.cmd with inputBufAddr := input }
          daemonInput := some input }
  | noOutput {input : UInt64} (hl : isLoad req.cmd.commandType = false)
      (hx : cmdTypeNeedsBufferXfer req.cmd.commandType = true) (hin : mallocs.input = some input)
      (hout : req.cmd.outputBufBytes = 0) :
      Prepares d mallocs req
        { daemon := d.copyIn input req.payload req.cmd.inputBufBytes.toNat
          cmd := { req.cmd with inputBufAddr := input }
          daemonInput := some input }
  | inPlace {input : UInt64} (hl : isLoad req.cmd.commandType = false)
      (hx : cmdTypeNeedsBufferXfer req.cmd.commandType = true) (hin : mallocs.input = some input)
      (hout : req.cmd.outputBufBytes ≠ 0) (hsame : req.cmd.outputBufBytes = req.cmd.inputBufBytes) :
      Prepares d mallocs req
        { daemon := d.copyIn input req.payload req.cmd.inputBufBytes.toNat
          cmd := { req.cmd with inputBufAddr := input, outputBufAddr := input }
          daemonInput := some input
          daemonOutput := some input
          inPlace := true
          needsXfer := true }
  | apart {input output : UInt64} (hl : isLoad req.cmd.commandType = false)
      (hx : cmdTypeNeedsBufferXfer req.cmd.commandType = true) (hin : mallocs.input = some input)
      (hmalloc : mallocs.output = some output) (hout : req.cmd.outputBufBytes ≠ 0) :
      Prepares d mallocs req
        { daemon :=
            { endpoint := (d.copyIn input req.payload req.cmd.inputBufBytes.toNat).endpoint
              buffers :=
                (d.buffers.malloc input req.cmd.inputBufBytes.toNat d.next).malloc output
                  req.cmd.outputBufBytes.toNat d.next }
          cmd := { req.cmd with inputBufAddr := input, outputBufAddr := output }
          daemonInput := some input
          daemonOutput := some output
          needsXfer := true }
  | plain (hl : isLoad req.cmd.commandType = false) (hx : cmdTypeNeedsBufferXfer req.cmd.commandType = false) :
      Prepares d mallocs req { daemon := d, cmd := req.cmd }

/-- The commands and the buffers are as before. -/
structure Idle (d d' : Daemon) : Prop where
  follows : d'.endpoint.Follows
  hook : d'.endpoint.queue.execHook = d.endpoint.queue.execHook
  ledger : d'.endpoint.ledger = d.endpoint.ledger
  buffers : d'.buffers = d.buffers

section Submit

variable {d d' : Daemon} {mallocs : Mallocs} {req : CmdRequest} {p : Prepared} {status : Status} {cmd : AimuCmd}

theorem copyIn_follows (ht : d.endpoint.Follows) (ptr : UInt64) (payload : ℕ → UInt8) (size : ℕ) :
    (d.copyIn ptr payload size).endpoint.Follows := by
  have hw := ht.wellFormed
  exact ⟨⟨hw.cmdDepth, hw.compDepth, hw.cmdOk, hw.compOk⟩, ht.numbered, ht.waiting, ht.answered, ht.ids⟩

theorem free_malloc {b : Buffers} {ptr : UInt64} (h : Unused b.heap ptr) (size owner : ℕ) :
    (b.malloc ptr size owner).free ptr = b := by
  show Buffers.mk (Lib.free (⟨ptr, size, owner⟩ :: b.heap) ptr) b.pendingXfers = b
  rw [free_new h]

/-- Either an error comes before the submit, and the buffers made so far are freed again, or it is prepared. -/
inductive PrepareOutcome (d : Daemon) (mallocs : Mallocs) (req : CmdRequest) :
    Except (Daemon × Status × AimuCmd) Prepared → Prop
  | error {d' : Daemon} {status : Status} {cmd : AimuCmd} (hst : status ≠ .ok) (hidle : Idle d d') :
      PrepareOutcome d mallocs req (.error (d', status, cmd))
  | ok {p : Prepared} (hp : Prepares d mallocs req p) : PrepareOutcome d mallocs req (.ok p)

theorem prepareLoad_outcome (ht : d.endpoint.Follows) (hl : isLoad req.cmd.commandType = true) :
    PrepareOutcome d mallocs req (d.prepareLoad mallocs req) := by
  have hsame : Idle d d := ⟨ht, rfl, rfl, rfl⟩
  unfold prepareLoad
  by_cases hdtype : req.cmd.dtype ≠ dtypeF32
  · rw [if_pos hdtype]
    exact .error Status.noConfusion hsame
  rw [if_neg hdtype]
  simp only
  by_cases hbytes : tileBytes req.cmd = 0 ∨ tileBytes req.cmd ≠ req.payloadBytes ∨
      maxPayload < (tileBytes req.cmd).toNat
  · rw [if_pos hbytes]
    exact .error Status.noConfusion hsame
  rw [if_neg hbytes]
  cases hin : mallocs.input with
  | none => exact .error Status.noConfusion hsame
  | some input => exact .ok (.load hl hin)

theorem prepareExec_outcome (ht : d.endpoint.Follows) (hf : Fresh mallocs d.buffers)
    (hl : isLoad req.cmd.commandType = false) (hx : cmdTypeNeedsBufferXfer req.cmd.commandType = true) :
    PrepareOutcome d mallocs req (d.prepareExec mallocs req) := by
  have hsame : Idle d d := ⟨ht, rfl, rfl, rfl⟩
  unfold prepareExec
  simp only
  by_cases hbytes : req.cmd.inputBufBytes = 0 ∨ req.cmd.inputBufBytes ≠ req.payloadBytes ∨
      maxPayload < req.cmd.inputBufBytes.toNat
  · rw [if_pos hbytes]
    exact .error Status.noConfusion hsame
  rw [if_neg hbytes]
  cases hin : mallocs.input with
  | none => exact .error Status.noConfusion hsame
  | some input =>
    simp only
    -- on an error from here on the operand has been copied in
    have hfree : Idle d ⟨(d.copyIn input req.payload req.cmd.inputBufBytes.toNat).endpoint,
        (d.copyIn input req.payload req.cmd.inputBufBytes.toNat).buffers.free input⟩ :=
      ⟨copyIn_follows ht input req.payload _, rfl, rfl, free_malloc (hf.input input hin).2 _ d.next⟩
    by_cases hout : req.cmd.outputBufBytes = 0
    · rw [if_pos hout]
      exact .ok (.noOutput hl hx hin hout)
    rw [if_neg hout]
    by_cases hsame : req.cmd.outputBufAddr = req.cmd.inputBufAddr
    · rw [if_pos hsame]
      by_cases hsize : req.cmd.outputBufBytes ≠ req.cmd.inputBufBytes
      · rw [if_pos hsize]
        exact .error Status.noConfusion hfree
      · rw [if_neg hsize]
        exact .ok (.inPlace hl hx hin hout (not_not.mp hsize))
    · rw [if_neg hsame]
      cases hmalloc : mallocs.output with
      | none => exact .error Status.noConfusion hfree
      | some output => exact .ok (.apart hl hx hin hmalloc hout)

theorem prepare_outcome (ht : d.endpoint.Follows) (hf : Fresh mallocs d.buffers) :
    PrepareOutcome d mallocs req (d.prepare mallocs req) := by
  unfold prepare
  by_cases hl : isLoad req.cmd.commandType = true
  · rw [if_pos hl]
    exact prepareLoad_outcome ht hl
  rw [if_neg hl]
  have hl' := eq_false_of_ne_true hl
  by_cases hx : cmdTypeNeedsBufferXfer req.cmd.commandType = true
  · rw [if_pos hx]
    exact prepareExec_outcome ht hf hl' hx
  · rw [if_neg hx]
    exact .ok (.plain hl' (eq_false_of_ne_true hx))

/-- After the checks the submit is one of the rewritten command. -/
theorem Prepares.jobs (ht : d.endpoint.Follows) (hp : Prepares d mallocs req p) :
    p.daemon.endpoint.Follows ∧ p.daemon.endpoint.ledger = d.endpoint.ledger ∧
      p.daemon.endpoint.queue.execHook = d.endpoint.queue.execHook ∧
      p.daemon.endpoint.queue.storedCmd p.cmd = d.endpoint.queue.storedCmd p.cmd ∧
      (p.daemon.endpoint.queue.Accepts p.cmd ↔ d.endpoint.queue.Accepts req.cmd) := by
  cases hp with
  | load _ _ => exact ⟨copyIn_follows ht _ _ _, rfl, rfl, rfl, Iff.rfl⟩
  | noOutput _ _ _ _ => exact ⟨copyIn_follows ht _ _ _, rfl, rfl, rfl, Iff.rfl⟩
  | inPlace _ _ _ _ _ => exact ⟨copyIn_follows ht _ _ _, rfl, rfl, rfl, Iff.rfl⟩
  | apart _ _ _ _ _ => exact ⟨copyIn_follows ht _ _ _, rfl, rfl, rfl, Iff.rfl⟩
  | plain _ _ => exact ⟨ht, rfl, rfl, rfl, Iff.rfl⟩

theorem buffersAfter_stored (hst : status = .ok) (hx : p.needsXfer = true) :
    p.buffersAfter status cmd = p.daemon.buffers.store (p.entry cmd) := if_pos ⟨hst, hx⟩

theorem buffersAfter_load (hx : status = .ok → p.needsXfer = false) (hl : isLoad cmd.commandType = true) :
    p.buffersAfter status cmd =
      if status ≠ .ok then p.daemon.buffers.free (p.daemonInput.getD 0) else p.daemon.buffers := by
  unfold Prepared.buffersAfter
  rw [if_neg (fun h => ne_true_of_eq_false (hx h.1) h.2), if_pos hl]

theorem buffersAfter_drop (hx : status = .ok → p.needsXfer = false) (hl : isLoad cmd.commandType = false) :
    p.buffersAfter status cmd = p.dropBuffers p.daemon.buffers := by
  unfold Prepared.buffersAfter
  rw [if_neg (fun h => ne_true_of_eq_false (hx h.1) h.2), if_neg (ne_true_of_eq_false hl)]

/-- The buffers of a command that is not submitted are freed. -/
theorem Prepares.buffersAfter_refused (hp : Prepares d mallocs req p) (hf : Fresh mallocs d.buffers)
    (hst : status ≠ .ok) : p.buffersAfter status p.cmd = d.buffers := by
  have hxfer : status = .ok → p.needsXfer = false := fun h => absurd h hst
  cases hp with
  | load hl hin =>
    refine Eq.trans (buffersAfter_load hxfer hl) ?_
    rw [if_pos hst]
    exact free_malloc (hf.input _ hin).2 _ _
  | noOutput hl hx hin hout =>
    refine Eq.trans (buffersAfter_drop hxfer hl) ?_
    exact free_malloc (hf.input _ hin).2 _ _
  | inPlace hl hx hin hout hsame =>
    refine Eq.trans (buffersAfter_drop hxfer hl) ?_
    unfold Prepared.dropBuffers
    simp only
    rw [if_neg (not_not.mpr rfl)]
    exact free_malloc (hf.input _ hin).2 _ _
  | @apart input output hl hx hin hmalloc hout =>
    obtain ⟨-, hunused, hne⟩ := hf.output _ hmalloc
    have hne' : output ≠ input := by
      rintro rfl
      exact hne hin
    have hunused' : Unused (d.buffers.malloc input req.cmd.inputBufBytes.toNat d.next).heap output := by
      intro b hb
      obtain rfl | hb := List.mem_cons.mp hb
      · exact hne'.symm
      · exact hunused b hb
    refine Eq.trans (buffersAfter_drop hxfer hl) ?_
    unfold Prepared.dropBuffers
    simp only
    rw [if_pos hne', free_malloc hunused']
    exact free_malloc (hf.input _ hin).2 _ _
  | plain hl hx => exact buffersAfter_drop hxfer hl

/-- What a submit that is not admitted does: nothing. -/
theorem dispatchCmdSubmit_refused (ht : d.endpoint.Follows) (hf : Fresh mallocs d.buffers)
    (h : ¬ d.Admits mallocs req) :
    (d.dispatchCmdSubmit mallocs req).2.status ≠ .ok ∧ Idle d (d.dispatchCmdSubmit mallocs req).1 := by
  unfold dispatchCmdSubmit
  have hout : PrepareOutcome d mallocs req (d.prepare mallocs req) := prepare_outcome ht hf
  cases hprep : d.prepare mallocs req with
  | error r =>
    rw [hprep] at hout
    cases hout with
    | error hst hidle => exact ⟨hst, hidle⟩
  | ok p =>
    rw [hprep] at hout
    cases hout with
    | ok hp =>
      obtain ⟨hf', hledger, hhook, -, hacc⟩ := hp.jobs ht
      have hno : ¬ p.daemon.endpoint.queue.Accepts p.cmd := fun hyes => h ⟨⟨p, hprep⟩, hacc.mp hyes⟩
      obtain ⟨q', status, heq, hst, hs, hq⟩ := Tracked.submit_refused hf' hno
      simp only
      rw [heq]
      exact ⟨hst, hq, hs.hook.trans hhook, hledger, hp.buffersAfter_refused hf hst⟩

/-- The new buffers of a command with an output, and the entry that remembers them. -/
structure Allocates (d : Daemon) (req : CmdRequest) (cmd : AimuCmd) (b : Buffers) (x : PendingXfer) : Prop where
  distinct : Distinct d.buffers.heap → Distinct b.heap
  keeps : ∀ ptr size o, Owned d.buffers.heap ptr size o → Owned b.heap ptr size o
  table : b.pendingXfers = d.buffers.pendingXfers
  input : Owned b.heap cmd.inputBufAddr cmd.inputBufBytes.toNat d.next
  output : Owned b.heap cmd.outputBufAddr cmd.outputBufBytes.toNat d.next
  outputBytes : cmd.outputBufBytes = req.cmd.outputBufBytes
  commandType : cmd.commandType = req.cmd.commandType
  entry : ∃ freeInput, x =
    ⟨d.endpoint.queue.nextCommandId, cmd.inputBufAddr, cmd.outputBufAddr, req.cmd.outputBufBytes, freeInput, d.next⟩

/-- The buffers `b` after a submit that is admitted, and the command it puts into the ring. -/
inductive Admitted (d : Daemon) (mallocs : Mallocs) (req : CmdRequest) (b : Buffers) : AimuCmd → Prop
  | load {input : UInt64} (hl : isLoad req.cmd.commandType = true) (hin : mallocs.input = some input)
      (hb : b = d.buffers.malloc input (tileBytes req.cmd).toNat d.next) :
      Admitted d mallocs req b { req.cmd with inputBufAddr := input }
  | noOutput {input : UInt64} (hl : isLoad req.cmd.commandType = false)
      (hx : cmdTypeNeedsBufferXfer req.cmd.commandType = true) (hout : req.cmd.outputBufBytes = 0)
      (hb : b = d.buffers) : Admitted d mallocs req b { req.cmd with inputBufAddr := input }
  | stored {b' : Buffers} {x : PendingXfer} {cmd : AimuCmd} (hl : isLoad req.cmd.commandType = false)
      (hx : cmdTypeNeedsBufferXfer req.cmd.commandType = true) (hout : req.cmd.outputBufBytes ≠ 0)
      (hnew : Allocates d req cmd b' x) (hb : b = b'.store x) : Admitted d mallocs req b cmd
  | plain (hl : isLoad req.cmd.commandType = false) (hx : cmdTypeNeedsBufferXfer req.cmd.commandType = false)
      (hb : b = d.buffers) : Admitted d mallocs req b req.cmd

theorem Prepares.buffersAfter_admitted (hp : Prepares d mallocs req p) (hf : Fresh mallocs d.buffers) :
    Admitted d mallocs req (p.buffersAfter .ok (d.endpoint.queue.storedCmd p.cmd)) p.cmd := by
  cases hp with
  | load hl hin =>
    refine .load hl hin ?_
    exact Eq.trans (buffersAfter_load (fun _ => rfl) hl) (if_neg (not_not.mpr rfl))
  | noOutput hl hx hin hout =>
    refine .noOutput hl hx hout ?_
    exact Eq.trans (buffersAfter_drop (fun _ => rfl) hl) (free_malloc (hf.input _ hin).2 _ _)
  | @inPlace input hl hx hin hout hsame =>
    refine .stored hl hx hout ?_ (buffersAfter_stored rfl rfl)
    have hunused := (hf.input _ hin).2
    refine ⟨fun h => h.cons hunused, fun _ _ _ h => h.cons _, rfl, owned_new _ _ _ le_rfl, ?_, rfl, rfl, _, rfl⟩
    exact owned_new _ _ _ (hsame ▸ le_rfl)
  | @apart input output hl hx hin hmalloc hout =>
    refine .stored hl hx hout ?_ (buffersAfter_stored rfl rfl)
    have hunused := (hf.input _ hin).2
    obtain ⟨-, hunused', hne⟩ := hf.output _ hmalloc
    have hapart : Unused (⟨input, req.cmd.inputBufBytes.toNat, d.next⟩ :: d.buffers.heap) output := by
      intro b hb
      obtain rfl | hb := List.mem_cons.mp hb
      · rintro rfl
        exact hne hin
      · exact hunused' b hb
    refine ⟨fun h => (h.cons hunused).cons hapart, fun _ _ _ h => (h.cons _).cons _, rfl,
      (owned_new _ _ _ le_rfl).cons _, owned_new _ _ _ le_rfl, rfl, rfl, _, rfl⟩
  | plain hl hx => exact .plain hl hx (buffersAfter_drop (fun _ => rfl) hl)

/-- What a submit that is admitted does. -/
theorem dispatchCmdSubmit_admitted (ht : d.endpoint.Follows) (hf : Fresh mallocs d.buffers)
    (h : d.Admits mallocs req) :
    ∃ cmd d' echo, d.dispatchCmdSubmit mallocs req = (d', { status := .ok, cmd := echo }) ∧
      echo.commandId = d.endpoint.queue.nextCommandId ∧ Admitted d mallocs req d'.buffers cmd ∧
      d'.endpoint.ledger = d.endpoint.ledger.enter (d.endpoint.queue.storedCmd cmd) ∧ d'.endpoint.Follows ∧
      d'.endpoint.queue.execHook = d.endpoint.queue.execHook := by
  obtain ⟨⟨p, hprep⟩, hacc⟩ := h
  have hout : PrepareOutcome d mallocs req (d.prepare mallocs req) := prepare_outcome ht hf
  rw [hprep] at hout
  cases hout with
  | ok hp =>
    obtain ⟨hf', hledger, hhook, hcmd, hacc'⟩ := hp.jobs ht
    obtain ⟨q', heq, hs, hq⟩ := Tracked.submit_accepted hf' (hacc'.mpr hacc)
    rw [hcmd, hledger] at heq hq
    unfold dispatchCmdSubmit
    rw [hprep]
    simp only
    rw [heq]
    exact ⟨p.cmd, _, _, rfl, rfl, hp.buffersAfter_admitted hf, rfl, hq, hs.hook.trans hhook⟩

end Submit

/-! ### What a poll does -/

/-- A poll that takes the completion of the job `x`. -/
structure Polls (d d' : Daemon) (x : (ℕ × AimuCmd) × AimuCompletion) : Prop where
  head : ∃ rest, d.endpoint.ledger.answered = x :: rest
  ledger : d'.endpoint.ledger = d.endpoint.ledger.collect
  follows : d'.endpoint.Follows
  hook : d'.endpoint.queue.execHook = d.endpoint.queue.execHook

/-- The two ways a poll that takes a completion goes: the table has an entry for its command id or it has not. -/
inductive Settles (d : Daemon) (completion : AimuCompletion) (b : Buffers) : CmdResponse → Prop
  | noEntry (hfind : d.buffers.pendingXferFind completion.commandId = none) (hb : b = d.buffers) :
      Settles d completion b { completion := completion }
  | entry {slot : ℕ} {y : PendingXfer} (hfind : d.buffers.pendingXferFind completion.commandId = some (slot, y))
      (hb : b = d.buffers.pendingXferRelease slot) : Settles d completion b (y.response d.memory completion)

theorem dispatchCmdPollCompletion_cases {d : Daemon} (ht : d.endpoint.Follows) :
    (d.endpoint.ledger.answered = [] ∧ d.dispatchCmdPollCompletion = (d, { status := .queueEmpty })) ∨
      ∃ x d' resp, d.dispatchCmdPollCompletion = (d', resp) ∧ Polls d d' x ∧ Settles d x.2 d'.buffers resp := by
  have hans := ht.answered
  unfold dispatchCmdPollCompletion
  obtain ⟨hnil, hempty⟩ | ⟨comp, q', hpoll, hs, hf⟩ := Tracked.pollCompletion_cases ht
  · left
    rw [hnil] at hans
    rw [hempty]
    exact ⟨List.map_eq_nil_iff.mp hans, rfl⟩
  · right
    rw [hs.completions] at hans
    obtain ⟨x, rest, hx, rfl, -⟩ := List.map_eq_cons_iff.mp hans
    rw [hpoll]
    have hmemory : q'.execHookCtx.memory = d.memory := congrArg ConfCtx.memory hs.ctx
    simp only [Option.getD_some, if_true]
    cases hfind : d.buffers.pendingXferFind x.2.commandId with
    | none => exact ⟨x, _, _, rfl, ⟨⟨rest, hx⟩, rfl, hf, hs.hook⟩, .noEntry hfind rfl⟩
    | some r =>
      obtain ⟨slot, y⟩ := r
      refine ⟨x, _, _, rfl, ⟨⟨rest, hx⟩, rfl, hf, hs.hook⟩, ?_⟩
      simp only
      rw [hmemory]
      exact .entry hfind rfl

end Daemon

end Att1.Endpoint
