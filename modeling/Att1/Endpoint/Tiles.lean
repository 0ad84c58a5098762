import Att1.Endpoint.Remote

/-!
# Att1.Endpoint.Tiles — the size of a tensor tile on both sides of the socket

* `wholeTileBytes`: the bytes of an f32 tensor of the dimensions in a `LOAD_TENSOR_TILE`, over the unbounded integers.
* `TransmitsTile`: the client sends all of them and the daemon keeps all of them, or both refuse the command.
* `transmitsTile_iff`: this holds unless the product wraps around to a small number.
-/

open Att1.Lib Att1.Conformance

namespace Att1.Endpoint

/-- `dim0 * dim1 * 4`. -/
def wholeTileBytes (cmd : AimuCmd) : ℕ := (cmd.opParam1 >>> 16).toNat * (cmd.opParam1 &&& 0xFFFF).toNat * 4

/-- The ways of a load through the client.  Where the client refuses, the daemon gets nothing, and would refuse any
request with the command, whose address it does not read, itself. -/
inductive TransmitsTile (s : Remote) (cmd : AimuCmd) : Prop
  | whole {req : CmdRequest} (hreq : clientRequest s.memory cmd = .ok req)
      (hbytes : req.payloadBytes.toNat = wholeTileBytes cmd)
      (hdaemon : ∀ (mallocs : Mallocs) (input : UInt64), mallocs.input = some input →
        ∃ p, s.daemon.prepare mallocs req = .ok p ∧ p.cmd.inputBufAddr = input ∧
          p.daemon.buffers = s.daemon.buffers.malloc input (wholeTileBytes cmd) s.daemon.next ∧
          ∀ i < wholeTileBytes cmd,
            p.daemon.memory (input + UInt64.ofNat i) = s.memory (cmd.inputBufAddr + UInt64.ofNat i))
  | refused {status : Status} (hst : status ≠ .ok) (hreq : clientRequest s.memory cmd = .error status)
      (hclient : ∀ mallocs, s.clientCmdSubmit mallocs cmd = (s, status, cmd))
      (hdaemon : cmd.inputBufAddr ≠ 0 → ∀ (d : Daemon) (mallocs : Mallocs) (req : CmdRequest), req.cmd = cmd →
        ∃ status, status ≠ Status.ok ∧ d.dispatchCmdSubmit mallocs req = (d, { status := status, cmd := cmd }))

/-- The product does not wrap around to a size that is taken. -/
def TileFits (cmd : AimuCmd) : Prop :=
  cmd.dtype ≠ dtypeF32 ∨ cmd.inputBufAddr = 0 ∨ wholeTileBytes cmd < 2 ^ 32 ∨ wholeTileBytes cmd % 2 ^ 32 = 0 ∨
    maxPayload < wholeTileBytes cmd % 2 ^ 32

section

variable {s : Remote} {cmd : AimuCmd} {d : Daemon} {mallocs : Mallocs} {req : CmdRequest}

theorem toNat_tileBytes (cmd : AimuCmd) : (tileBytes cmd).toNat = wholeTileBytes cmd % 2 ^ 32 := by
  unfold tileBytes wholeTileBytes
  rw [UInt32.toNat_mul, UInt32.toNat_mul, Nat.mod_mul_mod]
  rfl

/-- The bytes of a buffer that a payload was copied into. -/
theorem copyIn_memory (input : UInt64) (payload : ℕ → UInt8) {size i : ℕ} (hi : i < size) (hsize : size ≤ maxPayload) :
    (d.copyIn input payload size).memory (input + UInt64.ofNat i) = payload i := by
  have hback : (input + UInt64.ofNat i - input).toNat = i := by
    rw [UInt64.add_comm, UInt64.add_sub_cancel, UInt64.toNat_ofNat_of_lt']
    unfold maxPayload at hsize
    show i < 18446744073709551616
    omega
  show writeMemory d.memory input payload size (input + UInt64.ofNat i) = payload i
  unfold writeMemory
  rw [hback, if_pos hi]

/-- The client refuses a load for its data type, or for its size or address. -/
theorem clientRequest_refused (hl : isLoad cmd.commandType = true)
    (h : cmd.dtype ≠ dtypeF32 ∨ tileBytes cmd = 0 ∨ cmd.inputBufAddr = 0 ∨ maxPayload < (tileBytes cmd).toNat) :
    ∃ status, status ≠ .ok ∧ clientRequest s.memory cmd = .error status := by
  unfold clientRequest
  rw [if_pos hl]
  by_cases hdtype : cmd.dtype ≠ dtypeF32
  · rw [if_pos hdtype]
    exact ⟨.unsupported, Status.noConfusion, rfl⟩
  · rw [if_neg hdtype]
    simp only
    rw [if_pos (h.resolve_left hdtype)]
    exact ⟨.invalidArg, Status.noConfusion, rfl⟩

/-- So does the daemon, except for the address. -/
theorem prepare_refused (hl : isLoad cmd.commandType = true)
    (h : cmd.dtype ≠ dtypeF32 ∨ tileBytes cmd = 0 ∨ maxPayload < (tileBytes cmd).toNat) (hreq : req.cmd = cmd) :
    ∃ status, status ≠ .ok ∧ d.dispatchCmdSubmit mallocs req = (d, { status := status, cmd := cmd }) := by
  subst hreq
  unfold Daemon.dispatchCmdSubmit Daemon.prepare Daemon.prepareLoad
  rw [if_pos hl]
  by_cases hdtype : req.cmd.dtype ≠ dtypeF32
  · rw [if_pos hdtype]
    exact ⟨.unsupported, Status.noConfusion, rfl⟩
  · rw [if_neg hdtype]
    simp only
    have hsize : tileBytes req.cmd = 0 ∨ tileBytes req.cmd ≠ req.payloadBytes ∨
        maxPayload < (tileBytes req.cmd).toNat := (h.resolve_left hdtype).imp_right .inr
    rw [if_pos hsize]
    exact ⟨.invalidArg, Status.noConfusion, rfl⟩

/-- A load that the client sends, and what the daemon makes of it. -/
theorem clientRequest_sent (hl : isLoad cmd.commandType = true) (hdtype : cmd.dtype = dtypeF32)
    (hzero : tileBytes cmd ≠ 0) (haddr : cmd.inputBufAddr ≠ 0) (hmax : (tileBytes cmd).toNat ≤ maxPayload) :
    ∃ req, clientRequest s.memory cmd = .ok req ∧ req.payloadBytes = tileBytes cmd ∧
      ∀ (mallocs : Mallocs) (input : UInt64), mallocs.input = some input →
        ∃ p, s.daemon.prepare mallocs req = .ok p ∧ p.cmd.inputBufAddr = input ∧
          p.daemon.buffers = s.daemon.buffers.malloc input (tileBytes cmd).toNat s.daemon.next ∧
          ∀ i < (tileBytes cmd).toNat,
            p.daemon.memory (input + UInt64.ofNat i) = s.memory (cmd.inputBufAddr + UInt64.ofNat i) := by
  unfold clientRequest
  rw [if_pos hl, if_neg (not_not.mpr hdtype)]
  simp only
  have hsize : ¬ (tileBytes cmd = 0 ∨ cmd.inputBufAddr = 0 ∨ maxPayload < (tileBytes cmd).toNat) := by
    rintro (h | h | h)
    · exact hzero h
    · exact haddr h
    · exact absurd hmax (not_le.mpr h)
  rw [if_neg hsize]
  refine ⟨_, rfl, rfl, fun mallocs input hinput => ?_⟩
  unfold Daemon.prepare Daemon.prepareLoad
  simp only
  have hdaemon : ¬ (tileBytes cmd = 0 ∨ tileBytes cmd ≠ tileBytes cmd ∨ maxPayload < (tileBytes cmd).toNat) := by
    rintro (h | h | h)
    · exact hzero h
    · exact h rfl
    · exact absurd hmax (not_le.mpr h)
  rw [if_pos hl, if_neg (not_not.mpr hdtype), if_neg hdaemon, hinput]
  refine ⟨_, rfl, rfl, rfl, fun i hi => ?_⟩
  refine (copyIn_memory input _ hi hmax).trans ?_
  unfold copyInto
  rw [if_pos ⟨Nat.zero_le i, by omega⟩, Nat.sub_zero, Nat.zero_add]
  rfl

/-- **A tensor tile** is sent and kept whole, or refused on both sides, unless its size wraps around to one that is
taken. -/
theorem transmitsTile_iff (hl : isLoad cmd.commandType = true) : TransmitsTile s cmd ↔ TileFits cmd := by
  have hbytes := toNat_tileBytes cmd
  have hzero : tileBytes cmd = 0 ↔ wholeTileBytes cmd % 2 ^ 32 = 0 := by
    rw [← hbytes, ← UInt32.toNat_inj]
    rfl
  have hmax : maxPayload < wholeTileBytes cmd % 2 ^ 32 ↔ maxPayload < (tileBytes cmd).toNat := by rw [hbytes]
  by_cases hrefused : cmd.dtype ≠ dtypeF32 ∨ tileBytes cmd = 0 ∨ cmd.inputBufAddr = 0 ∨
      maxPayload < (tileBytes cmd).toNat
  · obtain ⟨status, hst, hreq⟩ := clientRequest_refused (s := s) hl hrefused
    refine iff_of_true (.refused hst hreq (fun mallocs => ?_) fun haddr d mallocs req hcmd => ?_) ?_
    · unfold Remote.clientCmdSubmit
      rw [hreq]
    · exact prepare_refused hl (hrefused.imp_right fun h => h.imp_right fun h => h.resolve_left haddr) hcmd
    · unfold TileFits
      rw [hmax, ← hzero]
      rcases hrefused with h | h | h | h
      · exact .inl h
      · exact .inr (.inr (.inr (.inl h)))
      · exact .inr (.inl h)
      · exact .inr (.inr (.inr (.inr h)))
  · simp only [not_or, not_not, not_lt] at hrefused
    obtain ⟨hdtype, hne, haddr, hle⟩ := hrefused
    obtain ⟨req, hreq, hsent, hdaemon⟩ := clientRequest_sent (s := s) hl hdtype hne haddr hle
    have hfits : TileFits cmd ↔ wholeTileBytes cmd < 2 ^ 32 := by
      unfold TileFits
      rw [hmax, ← hzero]
      constructor
      · rintro (h | h | h | h | h)
        · exact absurd hdtype h
        · exact absurd h haddr
        · exact h
        · exact absurd h hne
        · exact absurd hle (not_le.mpr h)
      · exact fun h => .inr (.inr (.inl h))
    rw [hfits]
    constructor
    · rintro (⟨hreq', hwhole, -⟩ | ⟨-, hreq', -, -⟩)
      · obtain rfl := Except.ok.inj (hreq.symm.trans hreq')
        rw [hsent] at hwhole
        exact hwhole ▸ (tileBytes cmd).toNat_lt
      · cases hreq.symm.trans hreq'
    · intro hlt
      rw [Nat.mod_eq_of_lt hlt] at hbytes
      rw [hbytes] at hdaemon
      exact .whole hreq (hsent ▸ hbytes) hdaemon

theorem transmitsTile_two_by_three : ∃ q, createQueue .idle .generous (fun _ => 0) ⟨1, 4, 4⟩ = .ok q ∧
    TransmitsTile (Remote.start q fun _ => 1) { commandType := 0x01, inputBufAddr := 64, opParam1 := 0x00020003 } :=
  ⟨_, rfl, (transmitsTile_iff rfl).mpr (.inr (.inr (.inl (by decide))))⟩

/-- A tile of 33025 by 32513, which is sent and kept as four bytes. -/
theorem tile_wraps_to_four : ∃ q, createQueue .idle .generous (fun _ => 0) ⟨1, 4, 4⟩ = .ok q ∧
    ¬ TransmitsTile (Remote.start q fun _ => 1)
      { commandType := 0x01, inputBufAddr := 64, opParam1 := 0x81017F01 } := by
  refine ⟨_, rfl, fun h => ?_⟩
  obtain ⟨req, hreq, hsent, -⟩ := @clientRequest_sent (Remote.start _ fun _ => 1)
    { commandType := 0x01, inputBufAddr := 64, opParam1 := 0x81017F01 } rfl rfl (by decide) (by decide) (by decide)
  cases h with
  | whole hreq' hbytes _ =>
    obtain rfl := Except.ok.inj (hreq.symm.trans hreq')
    rw [hsent] at hbytes
    exact absurd hbytes (by decide)
  | refused _ hreq' _ _ => cases hreq.symm.trans hreq'

end

end Att1.Endpoint
