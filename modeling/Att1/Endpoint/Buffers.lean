import Att1.Endpoint.Transfer
import Att1.Lib.Runs
import Att1.Cmdq.Fifo

/-!
# Att1.Endpoint.Buffers — the buffers of a command are live when it is dispatched

* `Buffers.Sound`: the buffers of the entries of the table are live, and no two entries belong to one command.
* `DaemonStep`: one request, of any client.
* `DispatchedBuffered`: a command that leaves the command ring in a request finds its buffers live and long enough.
* `KeepsBuffers`: the condition on a request under which it frees no buffer of a command that waits and admits no
  command without its buffers.
* `dispatched_buffered`: in every run of such requests every command that is dispatched finds its buffers.
-/

open Att1.Lib Att1.Conformance

namespace Att1.Endpoint

/-- The buffers of an entry are live. -/
def PendingXfer.Live (x : PendingXfer) (heap : List (Block UInt64)) : Prop :=
  Owned heap x.inputPtr 0 x.owner ∧ Owned heap x.outputPtr x.outputBytes.toNat x.owner

/-- The invariant of the buffers; `next` is the number of the command that is submitted next. -/
structure Buffers.Sound (b : Buffers) (next : ℕ) : Prop where
  distinct : Distinct b.heap
  oneEach : OneEach PendingXfer.owner maxPendingXfers b.pendingXfers
  live : ∀ x, Holds maxPendingXfers b.pendingXfers x → x.Live b.heap
  lt_next : ∀ x, Holds maxPendingXfers b.pendingXfers x → x.owner < next

namespace Buffers

variable {b : Buffers} {next slot size o : ℕ} {ptr : UInt64} {x y : PendingXfer}

theorem sound_empty (next : ℕ) : Sound ⟨[], fun _ => none⟩ next := by
  refine ⟨List.Pairwise.nil, oneEach_empty, ?_, ?_⟩
  · rintro x ⟨i, -, hx⟩
    cases hx
  · rintro x ⟨i, -, hx⟩
    cases hx

theorem pendingXfers_release (b : Buffers) (slot : ℕ) :
    (b.pendingXferRelease slot).pendingXfers = Function.update b.pendingXfers slot none := by
  unfold pendingXferRelease
  cases hx : b.pendingXfers slot with
  | none => exact (Function.update_eq_self_iff.mpr hx.symm).symm
  | some x => rfl

theorem Sound.live_of (hb : b.Sound next) (hslot : slot < maxPendingXfers) (hx : b.pendingXfers slot = some x) :
    x.Live b.heap := hb.live x ⟨slot, hslot, hx⟩

theorem Sound.distinct_release (hb : b.Sound next) (slot : ℕ) : Distinct (b.pendingXferRelease slot).heap := by
  unfold pendingXferRelease
  cases b.pendingXfers slot with
  | none => exact hb.distinct
  | some x =>
    simp only
    cases x.freeInput with
    | false => exact hb.distinct.free _
    | true => exact (hb.distinct.free _).free _

/-- A release leaves the buffers of other commands alone. -/
theorem Sound.owned_release (hb : b.Sound next) (hslot : slot < maxPendingXfers) (h : Owned b.heap ptr size o)
    (hne : ∀ x, b.pendingXfers slot = some x → x.owner ≠ o) :
    Owned (b.pendingXferRelease slot).heap ptr size o := by
  unfold pendingXferRelease
  cases hx : b.pendingXfers slot with
  | none => exact h
  | some x =>
    obtain ⟨hin, hout⟩ := hb.live_of hslot hx
    have hptrs : ptr ≠ x.inputPtr ∧ ptr ≠ x.outputPtr :=
      ⟨h.addr_ne hb.distinct hin (hne x hx).symm, h.addr_ne hb.distinct hout (hne x hx).symm⟩
    simp only
    cases x.freeInput with
    | false => exact h.free hptrs.2
    | true => exact (h.free hptrs.1).free hptrs.2

theorem Sound.release (hb : b.Sound next) (hslot : slot < maxPendingXfers) :
    (b.pendingXferRelease slot).Sound next := by
  have htable := pendingXfers_release b slot
  refine ⟨hb.distinct_release slot, htable ▸ hb.oneEach.clear slot, ?_, ?_⟩
  · intro y hy
    rw [htable] at hy
    have hold := hb.live y hy.of_clear
    have hne : ∀ x, b.pendingXfers slot = some x → x.owner ≠ y.owner := by
      intro x hx
      exact (hb.oneEach.owner_ne hslot hx hy).symm
    exact ⟨hb.owned_release hslot hold.1 hne, hb.owned_release hslot hold.2 hne⟩
  · intro y hy
    rw [htable] at hy
    exact hb.lt_next y hy.of_clear

/-! ### Storing an entry -/

/-- Storing an entry is storing it in a free slot, or in slot 0 after a release. -/
theorem store_cases (b : Buffers) (x : PendingXfer) :
    (∃ slot, slot < maxPendingXfers ∧ b.pendingXfers slot = none ∧
        b.store x = ⟨b.heap, Function.update b.pendingXfers slot (some x)⟩) ∨
      freeSlot maxPendingXfers b.pendingXfers = none ∧
        b.store x = ⟨(b.pendingXferRelease 0).heap, Function.update b.pendingXfers 0 (some x)⟩ := by
  unfold store pendingXferAllocSlot
  cases hfree : freeSlot maxPendingXfers b.pendingXfers with
  | some slot =>
    obtain ⟨hlt, hnone⟩ := freeSlot_some hfree
    exact Or.inl ⟨slot, hlt, hnone, rfl⟩
  | none =>
    refine Or.inr ⟨rfl, ?_⟩
    simp only
    rw [pendingXfers_release, Function.update_idem]

theorem Sound.owned_store (hb : b.Sound next) (h : Owned b.heap ptr size o)
    (hne : ∀ y, Displaced maxPendingXfers b.pendingXfers y → y.owner ≠ o) (x : PendingXfer) :
    Owned (b.store x).heap ptr size o := by
  obtain ⟨slot, -, -, heq⟩ | ⟨hfull, heq⟩ := store_cases b x
  · rw [heq]
    exact h
  · rw [heq]
    exact hb.owned_release (Nat.succ_pos _) h fun y hy => hne y ⟨hfull, hy⟩

theorem of_holds_store (h : Holds maxPendingXfers (b.store x).pendingXfers y) :
    y = x ∨ Holds maxPendingXfers b.pendingXfers y := by
  obtain ⟨slot, -, -, heq⟩ | ⟨-, heq⟩ := store_cases b x
  · rw [heq] at h
    exact h.of_put
  · rw [heq] at h
    exact h.of_put

theorem holds_store (b : Buffers) (x : PendingXfer) : Holds maxPendingXfers (b.store x).pendingXfers x := by
  obtain ⟨slot, hlt, -, heq⟩ | ⟨-, heq⟩ := store_cases b x
  · rw [heq]
    exact holds_put _ hlt x
  · rw [heq]
    exact holds_put _ (Nat.succ_pos _) x

/-- An entry that makes no room stays. -/
theorem holds_store_of (h : Holds maxPendingXfers b.pendingXfers y)
    (hne : ∀ z, Displaced maxPendingXfers b.pendingXfers z → z.owner ≠ y.owner) (x : PendingXfer) :
    Holds maxPendingXfers (b.store x).pendingXfers y := by
  obtain ⟨slot, -, hnone, heq⟩ | ⟨hfull, heq⟩ := store_cases b x
  · rw [heq]
    refine Holds.put PendingXfer.owner h ?_ x
    intro z hz
    cases hnone.symm.trans hz
  · rw [heq]
    exact Holds.put PendingXfer.owner h (fun z hz => (hne z ⟨hfull, hz⟩).symm) x

/-- A new entry on new buffers. -/
theorem Sound.store (hb : b.Sound next) (hx : x.Live b.heap) (ho : x.owner = next) :
    (b.store x).Sound (next + 1) := by
  have hold : ∀ y, Holds maxPendingXfers b.pendingXfers y → y.owner ≠ x.owner := by
    intro y hy
    have hlt := hb.lt_next y hy
    omega
  have hone : OneEach PendingXfer.owner maxPendingXfers (b.store x).pendingXfers := by
    obtain ⟨slot, -, -, heq⟩ | ⟨-, heq⟩ := store_cases b x
    · rw [heq]
      exact hb.oneEach.put hold slot
    · rw [heq]
      exact hb.oneEach.put hold 0
  have hdistinct : Distinct (b.store x).heap := by
    obtain ⟨slot, -, -, heq⟩ | ⟨-, heq⟩ := store_cases b x
    · rw [heq]
      exact hb.distinct
    · rw [heq]
      exact hb.distinct_release 0
  have hlive : ∀ y, Holds maxPendingXfers (b.store x).pendingXfers y → y.Live b.heap := by
    intro y hy
    obtain rfl | hy := of_holds_store hy
    · exact hx
    · exact hb.live y hy
  refine ⟨hdistinct, hone, ?_, ?_⟩
  · intro y hy
    -- the entry that makes room belongs to another command than those that stay
    have hne : ∀ z, Displaced maxPendingXfers b.pendingXfers z → z.owner ≠ y.owner := by
      rintro z ⟨hfull, hz⟩
      obtain ⟨slot, hlt, hnone, heq⟩ | ⟨-, heq⟩ := store_cases b x
      · obtain ⟨z', hz'⟩ := freeSlot_eq_none.mp hfull slot hlt
        cases hnone.symm.trans hz'
      · obtain ⟨j, hj, hy⟩ := hy
        rw [heq] at hy
        by_cases hj0 : j = 0
        · rw [hj0] at hy
          simp only [Function.update_self] at hy
          obtain rfl := Option.some.inj hy
          exact hold z ⟨0, Nat.succ_pos _, hz⟩
        · have hy' : b.pendingXfers j = some y := (Function.update_of_ne hj0 _ _).symm.trans hy
          intro ho'
          exact hj0 (hb.oneEach j hj 0 (Nat.succ_pos _) y z hy' hz ho'.symm)
    exact ⟨hb.owned_store (hlive y hy).1 hne x, hb.owned_store (hlive y hy).2 hne x⟩
  · intro y hy
    obtain rfl | hy := of_holds_store hy
    · omega
    · exact Nat.lt_succ_of_lt (hb.lt_next y hy)

theorem Sound.mono {next' : ℕ} (hb : b.Sound next) (hle : next ≤ next') : b.Sound next' :=
  ⟨hb.distinct, hb.oneEach, hb.live, fun x hx => (hb.lt_next x hx).trans_le hle⟩

/-- A new buffer that no entry is about. -/
theorem Sound.malloc (hb : b.Sound next) (h : Unused b.heap ptr) (size o : ℕ) : (b.malloc ptr size o).Sound next :=
  ⟨hb.distinct.cons h, hb.oneEach, fun x hx => ⟨(hb.live x hx).1.cons _, (hb.live x hx).2.cons _⟩, hb.lt_next⟩

end Buffers

/-! ### Requests -/

/-- The command types that take part in the claim below: `LOAD_TENSOR_TILE` and the `EXEC_` commands. -/
def usesBuffers (commandType : UInt8) : Bool :=
  match AimuCmdType.ofCode commandType with
  | some .loadTensorTile | some .execMatmul | some .execRmsnorm | some .execRope | some .execAttention
  | some .execFfn => true
  | _ => false

/-- A request. -/
inductive DaemonCall
  | cmdSubmit (req : CmdRequest) (mallocs : Mallocs)
  | cmdDispatchOne
  | cmdDispatchAll
  | cmdPollCompletion
  /-- Any other request: it touches neither the command queue nor the buffers. -/
  | other

/-- The daemon serves a request. -/
def DaemonStep (d : Daemon) (call : DaemonCall) (d' : Daemon) : Prop :=
  match call with
  | .cmdSubmit req mallocs => Daemon.Fresh mallocs d.buffers ∧ (d.dispatchCmdSubmit mallocs req).1 = d'
  | .cmdDispatchOne => { d with endpoint := d.endpoint.dispatchOne.1 } = d'
  | .cmdDispatchAll =>
    ∃ fuel q status, Cmdq.dispatchAllLoop fuel d.endpoint.queue = some (q, status) ∧
      { d with endpoint := ⟨q, Tracked.serveTo d.endpoint.ledger d.endpoint.queue q⟩ } = d'
  | .cmdPollCompletion => d.dispatchCmdPollCompletion.1 = d'
  | .other => d = d'

/-- A daemon that has just started. -/
def Daemon.start (q : Cmdq ConfCtx) : Daemon := ⟨⟨q, {}⟩, ⟨[], fun _ => none⟩⟩

/-- The addresses of a command, as far as they have a length, are those of live buffers of this command. -/
def Buffered (heap : List (Block UInt64)) (j : ℕ × AimuCmd) : Prop :=
  (0 < j.2.inputBufBytes → Owned heap j.2.inputBufAddr j.2.inputBufBytes.toNat j.1) ∧
    (0 < j.2.outputBufBytes → Owned heap j.2.outputBufAddr j.2.outputBufBytes.toNat j.1)

/-- A command that leaves the command ring, which it does when it is dispatched, finds its buffers. -/
def DispatchedBuffered (d : Daemon) (_ : DaemonCall) (d' : Daemon) : Prop :=
  ∀ j ∈ d.endpoint.ledger.waiting, j ∉ d'.endpoint.ledger.waiting → usesBuffers j.2.commandType = true →
    Buffered d.buffers.heap j

/-- The command of the entry is no longer in the command ring. -/
def PendingXfer.Dispatched (x : PendingXfer) (d : Daemon) : Prop :=
  ∀ j ∈ d.endpoint.ledger.waiting, j.1 ≠ x.owner

/-- What an admitted submit has to ask for: buffers for all bytes that the command names, and an entry that keeps them. -/
structure KeepsCommand (d : Daemon) (cmd : AimuCmd) : Prop where
  load : isLoad cmd.commandType = true → cmd.inputBufBytes ≤ tileBytes cmd ∧ cmd.outputBufBytes = 0
  attention : AimuCmdType.ofCode cmd.commandType = some .execAttention →
    cmd.inputBufBytes = 0 ∧ cmd.outputBufBytes = 0
  output : cmdTypeNeedsBufferXfer cmd.commandType = true → cmd.outputBufBytes ≠ 0
  table : cmdTypeNeedsBufferXfer cmd.commandType = true →
    ∀ x, Displaced maxPendingXfers d.buffers.pendingXfers x → x.Dispatched d

/-- The condition on a request. -/
def KeepsBuffers (d : Daemon) (call : DaemonCall) : Prop :=
  match call with
  | .cmdSubmit req mallocs => d.Admits mallocs req → KeepsCommand d req.cmd
  | .cmdPollCompletion =>
    ∀ comp ∈ d.endpoint.queue.completions.head?, ∀ r ∈ d.buffers.pendingXferFind comp.commandId, r.2.Dispatched d
  | _ => True

/-- The invariant of a run. -/
structure BufferInv (kernels : MathKernels) (d : Daemon) : Prop where
  follows : d.endpoint.Follows
  hook : d.endpoint.queue.execHook = some (confExecHook kernels)
  sound : d.buffers.Sound d.next
  buffered : ∀ j ∈ d.endpoint.ledger.waiting, usesBuffers j.2.commandType = true → Buffered d.buffers.heap j

section Steps

variable {kernels : MathKernels} {d d' : Daemon} {req : CmdRequest} {mallocs : Mallocs} {heap heap' : List (Block UInt64)}
  {j : ℕ × AimuCmd}

theorem not_pos_of_zero {n : UInt32} (h : n = 0) : ¬ 0 < n := h ▸ UInt32.lt_irrefl 0

theorem Buffered.mono (h : Buffered heap j)
    (hkeep : ∀ ptr size, Owned heap ptr size j.1 → Owned heap' ptr size j.1) : Buffered heap' j :=
  ⟨fun hin => hkeep _ _ (h.1 hin), fun hout => hkeep _ _ (h.2 hout)⟩

theorem usesBuffers_cases {commandType : UInt8} (h : usesBuffers commandType = true) :
    isLoad commandType = true ∨ cmdTypeNeedsBufferXfer commandType = true ∨
      AimuCmdType.ofCode commandType = some .execAttention := by
  unfold usesBuffers at h
  unfold isLoad cmdTypeNeedsBufferXfer
  cases hcode : AimuCmdType.ofCode commandType with
  | none =>
    rw [hcode] at h
    cases h
  | some ctype =>
    rw [hcode] at h
    cases ctype <;> simp at h ⊢

theorem BufferInv.idle (hi : BufferInv kernels d) (h : Daemon.Idle d d') : BufferInv kernels d' := by
  have hnext : d'.next = d.next := congrArg Ledger.next h.ledger
  refine ⟨h.follows, h.hook.trans hi.hook, ?_, ?_⟩
  · rw [h.buffers, hnext]
    exact hi.sound
  · rw [h.buffers, h.ledger]
    exact hi.buffered

/-- The buffers before the entry of an admitted command is stored. -/
theorem Allocates.sound {b : Buffers} {cmd : AimuCmd} {x : PendingXfer} (hs : d.buffers.Sound d.next)
    (h : Daemon.Allocates d req cmd b x) : b.Sound d.next ∧ x.Live b.heap ∧ x.owner = d.next := by
  obtain ⟨freeInput, rfl⟩ := h.entry
  refine ⟨⟨h.distinct hs.distinct, h.table ▸ hs.oneEach, ?_, ?_⟩, ⟨h.input.mono (Nat.zero_le _), ?_⟩, rfl⟩
  · intro x hx
    obtain ⟨hin, hout⟩ := hs.live x (h.table ▸ hx)
    exact ⟨h.keeps _ _ _ hin, h.keeps _ _ _ hout⟩
  · intro x hx
    exact hs.lt_next x (h.table ▸ hx)
  · have hout := h.output
    rw [h.outputBytes] at hout
    exact hout

theorem Admitted.sound {b : Buffers} {cmd : AimuCmd} (hs : d.buffers.Sound d.next)
    (hf : Daemon.Fresh mallocs d.buffers) (h : Daemon.Admitted d mallocs req b cmd) : b.Sound (d.next + 1) := by
  have hs' : d.buffers.Sound (d.next + 1) := hs.mono (Nat.le_succ _)
  cases h with
  | @load input hl hin hb => exact hb ▸ hs'.malloc (hf.input input hin).2 _ _
  | noOutput hl hx hout hb => exact hb ▸ hs'
  | stored hl hx hout hnew hb =>
    obtain ⟨hsound, hlive, howner⟩ := Allocates.sound hs hnew
    exact hb ▸ hsound.store hlive howner
  | plain hl hx hb => exact hb ▸ hs'

/-- The buffers of the admitted command, and those of the commands before it. -/
theorem admitted_buffered {b : Buffers} {cmd : AimuCmd} (hi : BufferInv kernels d)
    (hk : KeepsCommand d req.cmd) (h : Daemon.Admitted d mallocs req b cmd) :
    (usesBuffers cmd.commandType = true → Buffered b.heap (d.next, d.endpoint.queue.storedCmd cmd)) ∧
      ∀ j ∈ d.endpoint.ledger.waiting, ∀ ptr size, Owned d.buffers.heap ptr size j.1 → Owned b.heap ptr size j.1 := by
  cases h with
  | @load input hl hin hb =>
    obtain ⟨hbytes, hnone⟩ := hk.load hl
    rw [hb]
    refine ⟨fun _ => ⟨fun _ => ?_, fun hpos => absurd hpos (not_pos_of_zero hnone)⟩, ?_⟩
    · exact owned_new _ _ _ (UInt32.le_iff_toNat_le.mp hbytes)
    · intro j _ ptr size hown
      exact hown.cons _
  | noOutput hl hx hout hb => exact absurd hout (hk.output hx)
  | @stored b' x cmd hl hx hout hnew hb =>
    obtain ⟨hsound, -, -⟩ := Allocates.sound hi.sound hnew
    have hdisp : ∀ y, Displaced maxPendingXfers b'.pendingXfers y → y.Dispatched d := by
      intro y hy
      exact hk.table hx y (hnew.table ▸ hy)
    have hne : ∀ y, Displaced maxPendingXfers b'.pendingXfers y → y.owner ≠ d.next := by
      intro y hy
      exact Nat.ne_of_lt (hsound.lt_next y ⟨0, Nat.succ_pos _, hy.2⟩)
    rw [hb]
    refine ⟨fun _ => ⟨fun _ => hsound.owned_store hnew.input hne x, fun _ => hsound.owned_store hnew.output hne x⟩, ?_⟩
    intro j hj ptr size hown
    exact hsound.owned_store (hnew.keeps _ _ _ hown) (fun y hy => (hdisp y hy j hj).symm) x
  | plain hl hx hb =>
    rw [hb]
    refine ⟨fun huse => ?_, fun j _ ptr size hown => hown⟩
    obtain hload | hxfer | hattn := usesBuffers_cases huse
    · cases hl.symm.trans hload
    · cases hx.symm.trans hxfer
    · obtain ⟨hin, hout⟩ := hk.attention hattn
      exact ⟨fun hpos => absurd hpos (not_pos_of_zero hin), fun hpos => absurd hpos (not_pos_of_zero hout)⟩

theorem bufferInv_submit (hi : BufferInv kernels d) (hf : Daemon.Fresh mallocs d.buffers)
    (hk : d.Admits mallocs req → KeepsCommand d req.cmd) :
    BufferInv kernels (d.dispatchCmdSubmit mallocs req).1 := by
  by_cases hadm : d.Admits mallocs req
  · obtain ⟨cmd, d', echo, heq, -, hcase, hledger, hfollows, hhook⟩ :=
      Daemon.dispatchCmdSubmit_admitted hi.follows hf hadm
    obtain ⟨hown, hkeep⟩ := admitted_buffered hi (hk hadm) hcase
    have hsound : d'.buffers.Sound (d.next + 1) := Admitted.sound hi.sound hf hcase
    have hnext : d'.next = d.next + 1 := congrArg Ledger.next hledger
    have hwait : d'.endpoint.ledger.waiting =
        d.endpoint.ledger.waiting ++ [(d.next, d.endpoint.queue.storedCmd cmd)] := congrArg Ledger.waiting hledger
    rw [heq]
    refine ⟨hfollows, hhook.trans hi.hook, hnext ▸ hsound, ?_⟩
    intro j hj huse
    rw [hwait] at hj
    obtain hj | hj := List.mem_append.mp hj
    · exact (hi.buffered j hj huse).mono (hkeep j hj)
    · obtain rfl := List.mem_singleton.mp hj
      exact hown huse
  · exact hi.idle (Daemon.dispatchCmdSubmit_refused hi.follows hf hadm).2

/-- Commands that leave the ring take nothing with them. -/
theorem bufferInv_served {q : Cmdq ConfCtx} {taken : ℕ} {answers : List AimuCompletion} (hi : BufferInv kernels d)
    (hs : Cmdq.Served d.endpoint.queue q taken answers) :
    BufferInv kernels { d with endpoint := ⟨q, Tracked.serveTo d.endpoint.ledger d.endpoint.queue q⟩ } := by
  have hfollows := Tracked.follows_served hi.follows hs
  have hledger := Tracked.serveTo_eq (l := d.endpoint.ledger) hs
  refine ⟨hfollows, hs.hook.trans hi.hook, ?_, ?_⟩
  · have hnext : (Tracked.serveTo d.endpoint.ledger d.endpoint.queue q).next = d.next := by
      rw [hledger]
      rfl
    show d.buffers.Sound (Tracked.serveTo d.endpoint.ledger d.endpoint.queue q).next
    rw [hnext]
    exact hi.sound
  · intro j hj
    have hj' : j ∈ (d.endpoint.ledger.serve taken answers).waiting := hledger ▸ hj
    exact hi.buffered j (List.mem_of_mem_drop hj')

theorem bufferInv_poll (hi : BufferInv kernels d) (hk : KeepsBuffers d .cmdPollCompletion) :
    BufferInv kernels d.dispatchCmdPollCompletion.1 := by
  obtain ⟨-, heq⟩ | ⟨x, d', resp, heq, hp, hs⟩ := Daemon.dispatchCmdPollCompletion_cases hi.follows
  · rw [heq]
    exact hi
  · have hnext : d'.next = d.next := (congrArg Ledger.next hp.ledger).trans rfl
    have hwait : d'.endpoint.ledger.waiting = d.endpoint.ledger.waiting :=
      (congrArg Ledger.waiting hp.ledger).trans rfl
    have hhook := hp.hook.trans hi.hook
    rw [heq]
    cases hs with
    | noEntry hfind hb => exact ⟨hp.follows, hhook, hb ▸ hnext ▸ hi.sound, hb ▸ hwait ▸ hi.buffered⟩
    | @entry slot y hfind hb =>
      obtain ⟨rest, hans⟩ := hp.head
      have hcomp : x.2 ∈ d.endpoint.queue.completions.head? := by
        rw [← hi.follows.answered, hans]
        rfl
      have hdisp : y.Dispatched d := hk x.2 hcomp (slot, y) hfind
      obtain ⟨hslot, hy, -⟩ := findEntry_some hfind
      refine ⟨hp.follows, hhook, ?_, ?_⟩
      · show d'.buffers.Sound d'.next
        rw [hb, hnext]
        exact hi.sound.release hslot
      · intro j hj huse
        rw [hwait] at hj
        show Buffered d'.buffers.heap j
        rw [hb]
        refine (hi.buffered j hj huse).mono fun ptr size hown => ?_
        refine hi.sound.owned_release hslot hown ?_
        intro z hz
        obtain rfl := Option.some.inj (hy.symm.trans hz)
        exact (hdisp j hj).symm

theorem dispatched_of_inv {call : DaemonCall} (hi : BufferInv kernels d) : DispatchedBuffered d call d' := by
  intro j hj _ huse
  exact hi.buffered j hj huse

theorem bufferInv_step {call : DaemonCall} (hi : BufferInv kernels d) (hk : KeepsBuffers d call)
    (hs : DaemonStep d call d') : BufferInv kernels d' := by
  have hkeeps : Cmdq.KeepsDescriptor d.endpoint.queue.execHook := hi.hook ▸ confExecHook_keepsDescriptor kernels
  cases call with
  | cmdSubmit req mallocs =>
    obtain ⟨hf, rfl⟩ := hs
    exact bufferInv_submit hi hf hk
  | cmdDispatchOne =>
    obtain rfl := hs
    obtain ⟨taken, answers, hserved, -⟩ := Cmdq.dispatchOne_served hi.follows.wellFormed hkeeps
    exact bufferInv_served hi hserved
  | cmdDispatchAll =>
    obtain ⟨fuel, q, status, hq, rfl⟩ := hs
    obtain ⟨taken, answers, hserved⟩ := Cmdq.dispatchAllLoop_served hi.follows.wellFormed hkeeps hq
    exact bufferInv_served hi hserved
  | cmdPollCompletion =>
    obtain rfl := hs
    exact bufferInv_poll hi hk
  | other =>
    obtain rfl := hs
    exact hi

end Steps

theorem bufferInv_start {kernels : MathKernels} {host : Host} {memory : Memory} {config : CmdqConfig}
    {q : Cmdq ConfCtx} (hq : createQueue kernels host memory config = .ok q) :
    BufferInv kernels (Daemon.start q) := by
  obtain ⟨hw, hpend, hcomp, hhook, -⟩ := createQueue_ok hq
  refine ⟨⟨hw, Ledger.numbered_empty, hpend.symm, hcomp.symm, ?_⟩, hhook, Buffers.sound_empty _, ?_⟩
  · intro x hx
    cases hx
  · intro j hj
    cases hj

/-- In every run of requests that keep the buffers, every command that is dispatched finds its buffers. -/
theorem dispatched_buffered (kernels : MathKernels) (host : Host) (memory : Memory) (config : CmdqConfig)
    (q : Cmdq ConfCtx) (hq : createQueue kernels host memory config = .ok q) (calls : List DaemonCall)
    (hg : Guarded DaemonStep (Daemon.start q) KeepsBuffers calls) :
    Always DaemonStep (Daemon.start q) DispatchedBuffered calls := by
  refine always_of_guarded (bufferInv_start hq) ?_ hg
  intro d call d' hi hk hs
  exact ⟨bufferInv_step hi hk hs, dispatched_of_inv hi⟩

/-- A rotation in place of one float, and how much of it the daemon is asked to keep. -/
def ropeCall (outputBytes : UInt32) : DaemonCall :=
  .cmdSubmit
    { cmd := { commandType := 0x12, inputBufAddr := 64, inputBufBytes := 4, outputBufAddr := 64
               outputBufBytes := outputBytes }
      payloadBytes := 4 }
    { input := some 4096 }

theorem daemonStep_deterministic : Deterministic DaemonStep := by
  intro d call d' d'' h h'
  cases call with
  | cmdSubmit req mallocs => exact h.2.symm.trans h'.2
  | cmdDispatchOne => exact h.symm.trans h'
  | cmdDispatchAll =>
    obtain ⟨n, q, status, hq, rfl⟩ := h
    obtain ⟨m, q', status', hq', rfl⟩ := h'
    obtain ⟨rfl, -⟩ := Prod.mk.inj (Cmdq.dispatchAllLoop_det hq hq')
    rfl
  | cmdPollCompletion => exact h.symm.trans h'
  | other => exact h.symm.trans h'

theorem fresh_input (ptr : UInt64) (h : ptr ≠ 0) : Daemon.Fresh { input := some ptr } ⟨[], fun _ => none⟩ := by
  refine ⟨?_, fun ptr hptr => ?_⟩
  · intro ptr' hptr
    obtain rfl := Option.some.inj hptr
    refine ⟨h, fun b hb => ?_⟩
    cases hb
  · cases hptr

/-- A rotation that is submitted, dispatched and polled. -/
theorem dispatched_buffered_rope : ∃ q d,
    createQueue .idle .generous (fun _ => 0) ⟨1, 4, 4⟩ = .ok q ∧
      Run DaemonStep (Daemon.start q) [ropeCall 4, .cmdDispatchOne, .cmdPollCompletion] d ∧
      Always DaemonStep (Daemon.start q) DispatchedBuffered [ropeCall 4, .cmdDispatchOne, .cmdPollCompletion] := by
  have hrun : ∃ q, createQueue .idle .generous (fun _ => 0) ⟨1, 4, 4⟩ = .ok q ∧
      ∃ d, Run (fun d call d' => DaemonStep d call d' ∧ KeepsBuffers d call) (Daemon.start q)
        [ropeCall 4, .cmdDispatchOne, .cmdPollCompletion] d := by
    refine ⟨_, rfl, _, Run.cons ⟨⟨fresh_input 4096 ?_, rfl⟩, ?_⟩ <| Run.cons ⟨rfl, trivial⟩ <|
      Run.cons ⟨rfl, ?_⟩ Run.nil⟩
    · decide
    · intro _
      refine ⟨fun h => ?_, fun h => ?_, fun _ => ?_, fun _ x hx => ?_⟩
      · cases h
      · cases h
      · decide
      · cases hx.2
    · -- the command has left the ring
      intro comp _ r _ j hj
      cases hj
  obtain ⟨q, hq, d, hr⟩ := hrun
  obtain ⟨hr, hg⟩ := hr.guarded daemonStep_deterministic
  exact ⟨q, d, hq, hr, dispatched_buffered .idle .generous (fun _ => 0) ⟨1, 4, 4⟩ q hq _ hg⟩

/-- Without output bytes the operand is freed as soon as the rotation is in the ring. -/
theorem rope_operand_freed : ∃ q d d',
    createQueue .idle .generous (fun _ => 0) ⟨1, 4, 4⟩ = .ok q ∧ Run DaemonStep (Daemon.start q) [ropeCall 0] d ∧
      DaemonStep d .cmdDispatchOne d' ∧ d.buffers.heap = [] ∧
      ¬ Always DaemonStep (Daemon.start q) DispatchedBuffered [ropeCall 0, .cmdDispatchOne] := by
  have hrun : ∃ q, createQueue .idle .generous (fun _ => 0) ⟨1, 4, 4⟩ = .ok q ∧
      ∃ d d' j, Run DaemonStep (Daemon.start q) [ropeCall 0] d ∧ DaemonStep d .cmdDispatchOne d' ∧
        d.buffers.heap = [] ∧ d.endpoint.ledger.waiting = [j] ∧ d'.endpoint.ledger.waiting = [] ∧
        j.2.commandType = 0x12 ∧ j.2.inputBufBytes = 4 := by
    refine ⟨_, rfl, _, _, _, Run.cons ⟨fresh_input 4096 ?_, rfl⟩ Run.nil, rfl, rfl, rfl, rfl, rfl, rfl⟩
    decide
  obtain ⟨q, hq, d, d', j, hr, hs, hheap, hwait, hwait', htype, hbytes⟩ := hrun
  refine ⟨q, d, d', hq, hr, hs, hheap, fun halways => ?_⟩
  have hbuf : Buffered d.buffers.heap j := by
    refine halways [ropeCall 0] .cmdDispatchOne d d' List.prefix_rfl hr hs j ?_ ?_ ?_
    · rw [hwait]
      exact List.mem_singleton_self j
    · rw [hwait']
      exact List.not_mem_nil
    · rw [htype]
      rfl
  have hpos : 0 < j.2.inputBufBytes := by
    rw [hbytes]
    decide
  obtain ⟨b, hb, -⟩ := hbuf.1 hpos
  rw [hheap] at hb
  cases hb

end Att1.Endpoint
