import Att1.Aimu.HostRuns
import Att1.Cmdq.Idle

/-!
# Att1.Aimu.Replay — the replay of a command plan (`tools/att1-aimu-replay.c`)

The tool brings a host up and sends it the commands of a plan one at a time: submit, doorbell, dispatch, poll.  Before
a load it registers the regions of the tensor with the DMA simulator and has a descriptor validated.

* `replayOne`, `replayMain`: the tool, from the parsed plan on.
* `Verdict`, `verdicts`: what becomes of each command, with no host, queue or doorbell in sight.
* `PlanCmd.Decided`: what the tool has tested when it comes to a verdict.
* `Between`: the host between two commands; `Between.one` and `Between.loop` carry it through the plan.
* `replay_accounts`: the report of the tool counts the verdicts.
-/

open Att1.Lib

namespace Att1.Replay

/-- `plan_cmd_t`. -/
structure PlanCmd where
  commandId : ℤ := 0
  commandType : String := ""
  tileId : ℤ := -1
  dtype : String := ""
  packedBytes : ℤ := 0
  fenceId : ℤ := 0
  expectedStatus : String := ""
  quantGroupSize : ℤ := -1
  tensorId : ℤ := -1
  deriving DecidableEq, Repr

/-- The fields of `plan_header_t` that the replay reads. -/
structure PlanHeader where
  version : ℤ := 0
  tileCount : ℤ := -1
  commandCount : ℤ := -1
  status : String := ""
  deriving DecidableEq, Repr

/-- `plan_t`, with the commands that the file has. -/
structure CommandPlan where
  header : PlanHeader
  commands : List PlanCmd
  deriving DecidableEq, Repr

/-- The counts of `replay_report_t`. -/
structure ReplayReport where
  commandsReplayed : ℕ := 0
  completionsSeen : ℕ := 0
  failedCommands : ℕ := 0
  unsupportedCommands : ℕ := 0
  dmaValidations : ℕ := 0
  doorbellCount : ℕ := 0
  fenceFinal : ℕ := 0
  traceEventCount : ℕ := 0
  byType : ℕ → ℕ := fun _ => 0
  byTile : ℕ → ℕ := fun _ => 0
  statusPass : Bool := true

/-- `CMD_MAP` and `map_cmd_type`. -/
def mapCmdType (name : String) : Option AimuCmdType :=
  if name = "NOP" then some .nop
  else if name = "LOAD_TENSOR_TILE" then some .loadTensorTile
  else if name = "VALIDATE_TENSOR" then some .validateTensor
  else if name = "EXEC_MATMUL" then some .execMatmul
  else if name = "EXEC_RMSNORM" then some .execRmsnorm
  else if name = "EXEC_ROPE" then some .execRope
  else if name = "EXEC_ATTENTION" then some .execAttention
  else if name = "EXEC_FFN" then some .execFfn
  else if name = "KV_APPEND" then some .kvAppend
  else if name = "KV_READ" then some .kvRead
  else if name = "FABRIC_SEND" then some .fabricSend
  else if name = "FABRIC_REDUCE" then some .fabricReduce
  else if name = "TRACE_SNAPSHOT" then some .traceSnapshot
  else if name = "TILE_BARRIER" then some .tileBarrier
  else if name = "RESET_TILE" then some .resetTile
  else if name = "QUERY_COUNTERS" then some .queryCounters
  else none

/-- `map_expected_result`, whose return value the caller drops: what it does not know is expected to succeed. -/
def mapExpectedResult (name : String) : AimuResult :=
  if name = "ATT1_AIMU_ERR_OK" then .ok
  else if name = "ATT1_AIMU_ERR_UNSUPPORTED_OP" then .errUnsupportedOp
  else if name = "ATT1_AIMU_ERR_INVALID_COMMAND" then .errInvalidCommand
  else .ok

/-- `map_dtype`. -/
def mapDtype (dtype : String) : UInt8 := if dtype = "q8" then 1 else if dtype = "q4" then 2 else 0

namespace PlanCmd

/-- The place of the tensor of a load in the address space of the replay. -/
def slot (pc : PlanCmd) : ℤ := if 0 ≤ pc.tensorId then pc.tensorId else pc.commandId

/-- How many bytes a load moves. -/
def loadBytes (pc : PlanCmd) : UInt32 := if 0 < pc.packedBytes then UInt32.ofInt pc.packedBytes else 4096

/-- `HOST_BASE_ADDR + slot * ADDR_STRIDE`. -/
def hostAddr (pc : PlanCmd) : UInt64 := 0x0001000000000000 + UInt64.ofInt pc.slot * 0x10000

/-- `DEV_BASE_ADDR + slot * ADDR_STRIDE`. -/
def devAddr (pc : PlanCmd) : UInt64 := 0x0002000000000000 + UInt64.ofInt pc.slot * 0x10000

/-- The descriptor of a load. -/
def loadDesc (pc : PlanCmd) : DmaDesc where
  hostAddr := pc.hostAddr
  deviceAddr := pc.devAddr
  byteLength := pc.loadBytes
  direction := 0
  dtype := mapDtype pc.dtype
  quantGroupSize :=
    if pc.quantGroupSize = 32 ∨ pc.quantGroupSize = 64 then UInt8.ofInt pc.quantGroupSize else 0

/-- The simulator after the regions of a load were registered, or not: what the two calls return is dropped. -/
def register (pc : PlanCmd) (dma : AimuDma) : AimuDma :=
  let size := pc.loadBytes.toUInt64 + 128
  let dma := (dma.registerHostRegion pc.hostAddr size).1
  (dma.registerDeviceRegion pc.devAddr size).1

/-- The command that is submitted. -/
def toCmd (pc : PlanCmd) (ctype : AimuCmdType) : AimuCmd where
  commandType := ctype.code
  tileId := UInt8.ofInt pc.tileId
  commandId := UInt32.ofInt pc.commandId
  dtype := mapDtype pc.dtype
  fenceId := UInt16.ofInt pc.fenceId
  completionFenceId := UInt16.ofInt pc.fenceId
  tensorId := if 0 ≤ pc.tensorId then UInt16.ofInt pc.tensorId else 0
  inputBufBytes := if 0 < pc.packedBytes then UInt32.ofInt pc.packedBytes else 0

end PlanCmd

namespace ReplayReport

/-- A failed command. -/
def fail (rep : ReplayReport) : ReplayReport :=
  { rep with failedCommands := rep.failedCommands + 1, statusPass := false }

/-- A command that is not submitted because the device is not expected to know it. -/
def unsupported (strict : Bool) (rep : ReplayReport) : ReplayReport :=
  { rep with
    unsupportedCommands := rep.unsupportedCommands + 1
    statusPass := if strict then false else rep.statusPass }

/-- Step 10 of `replay_one`. -/
def tally (ctype : AimuCmdType) (pc : PlanCmd) (rep : ReplayReport) : ReplayReport :=
  let bin := (ctype.code &&& 0x0F).toNat
  { rep with
    byType := Function.update rep.byType bin (rep.byType bin + 1)
    byTile :=
      if 0 ≤ pc.tileId ∧ pc.tileId < 64 then
        Function.update rep.byTile pc.tileId.toNat (rep.byTile pc.tileId.toNat + 1)
      else rep.byTile }

/-- Steps 8 to 10 of `replay_one`, for the completion that was read; the flag says whether the replay stops. -/
def complete (strict : Bool) (ctype : AimuCmdType) (expected : AimuResult) (pc : PlanCmd) (comp : AimuCompletion)
    (rep : ReplayReport) : ReplayReport × Bool :=
  let rep :=
    { rep with
      completionsSeen := rep.completionsSeen + 1
      traceEventCount := rep.traceEventCount + comp.traceEventCount.toNat
      fenceFinal := if rep.fenceFinal < comp.fenceValue.toNat then comp.fenceValue.toNat else rep.fenceFinal }
  if comp.resultCode = expected.code then (rep.tally ctype pc, false)
  else if comp.resultCode = AimuResult.errUnsupportedOp.code ∧ expected = .ok then
    (({ rep with unsupportedCommands := rep.unsupportedCommands + 1 } : ReplayReport).tally ctype pc, false)
  else (rep.fail, strict)

end ReplayReport

variable {Ctx : Type}

/-- Steps 6 to 10 of `replay_one`. -/
def replaySubmit (strict : Bool) (ctype : AimuCmdType) (expected : AimuResult) (pc : PlanCmd) (h : AimuHost Ctx)
    (rep : ReplayReport) : (AimuHost Ctx × ReplayReport) × Bool :=
  match h.submitCmd (pc.toCmd ctype) with
  | (h, .ok, _) =>
    match h.ringDoorbell with
    | (h, .ok) =>
      let rep := { rep with doorbellCount := rep.doorbellCount + 1 }
      match h.processOne with
      | (h, .ok) =>
        let rep := { rep with commandsReplayed := rep.commandsReplayed + 1 }
        match h.readCompletion with
        | (h, .ok, some comp) =>
          let r := rep.complete strict ctype expected pc comp
          ((h, r.1), r.2)
        | (h, _, _) => ((h, rep.fail), strict)
      | (h, _) => ((h, rep.fail), strict)
    | (h, _) => ((h, rep.fail), strict)
  | (h, _, _) => ((h, rep.fail), strict)

/-- `replay_one`; the flag says whether the replay stops. -/
def replayOne (strict : Bool) (pc : PlanCmd) (h : AimuHost Ctx) (rep : ReplayReport) :
    (AimuHost Ctx × ReplayReport) × Bool :=
  match mapCmdType pc.commandType with
  | none => ((h, rep.unsupported strict), strict)
  | some ctype =>
    let expected := mapExpectedResult pc.expectedStatus
    if expected = .errUnsupportedOp then ((h, rep.unsupported strict), strict)
    else if pc.tileId < 0 ∨ (h.probe.tileCount.toNat : ℤ) ≤ pc.tileId then ((h, rep.fail), strict)
    else if ctype = .loadTensorTile then
      let h := { h with dma := pc.register h.dma }
      if h.dma.validate pc.loadDesc ≠ .ok then ((h, rep.fail), strict)
      else replaySubmit strict ctype expected pc h { rep with dmaValidations := rep.dmaValidations + 1 }
    else replaySubmit strict ctype expected pc h rep

/-- The loop over the commands. -/
def replayLoop (strict : Bool) : List PlanCmd → AimuHost Ctx → ReplayReport → AimuHost Ctx × ReplayReport
  | [], h, rep => (h, rep)
  | pc :: rest, h, rep =>
    match replayOne strict pc h rep with
    | (r, true) => r
    | (r, false) => replayLoop strict rest r.1 r.2

/-- What the tool prints of a replay: the report, and the two counts that go into its notes. -/
structure ReplayOutput where
  report : ReplayReport
  commandsSubmitted : UInt64
  commandsCompleted : UInt64

/-- `main`, from the parsed plan on: the exit code, and what is printed. -/
def replayMain (host : Host) (nullCtx : Ctx) (strict : Bool) (plan : CommandPlan) : ℕ × Option ReplayOutput :=
  let commands := plan.commands.take 256
  if ¬ (0 < plan.header.tileCount ∧ 0 ≤ plan.header.commandCount ∧ plan.header.version = 1) then (2, none)
  else if commands.length = 0 then (2, none)
  else if strict = true ∧ plan.header.status ≠ "pass" then (1, none)
  else
    match AimuHost.create host nullCtx (some { tileCount := plan.header.tileCount.toNat }) with
    | .error _ => (1, none)
    | .ok h =>
      match h.probeDevice with
      | (_, .error _) => (1, none)
      | (h, .ok _) =>
        if (h.enumerateTiles 64).1 ≠ .ok then (1, none)
        else
          match h.setupCmdq with
          | (h, .ok) =>
            let r := replayLoop strict commands h {}
            let summary := r.1.snapshotCounters.getSummary
            (if r.2.statusPass then 0 else 1,
              some ⟨r.2, summary.commandsSubmitted, summary.commandsCompleted⟩)
          | (_, _) => (1, none)

/-! ### What becomes of the commands -/

/-- What becomes of a command. -/
inductive Verdict
  | unknownType
  | expectedUnsupported
  | badTile
  | badDma
  | ran (ctype : AimuCmdType)
  deriving DecidableEq, Repr

namespace Verdict

/-- The command was submitted, dispatched and answered. -/
def isRan : Verdict → Bool
  | ran _ => true
  | _ => false

/-- The command was not sent to the device, on purpose. -/
def isSkipped : Verdict → Bool
  | unknownType | expectedUnsupported => true
  | _ => false

end Verdict

namespace PlanCmd

/-- What becomes of a command on a device of `tiles` tiles. -/
def verdict (tiles : ℕ) (dma : AimuDma) (pc : PlanCmd) : Verdict :=
  match mapCmdType pc.commandType with
  | none => .unknownType
  | some ctype =>
    if mapExpectedResult pc.expectedStatus = .errUnsupportedOp then .expectedUnsupported
    else if pc.tileId < 0 ∨ (tiles : ℤ) ≤ pc.tileId then .badTile
    else if ctype = .loadTensorTile ∧ (pc.register dma).validate pc.loadDesc ≠ .ok then .badDma
    else .ran ctype

/-- The command fails: it cannot be sent, or the device is expected to refuse it, which it never does. -/
def fails (pc : PlanCmd) : Verdict → Bool
  | .badTile | .badDma => true
  | .ran _ => mapExpectedResult pc.expectedStatus = .errInvalidCommand
  | _ => false

/-- The command is counted as one that the device does not implement. -/
def counts (pc : PlanCmd) : Verdict → Bool
  | .unknownType | .expectedUnsupported => true
  | .ran ctype => Cmdq.hooked ctype && mapExpectedResult pc.expectedStatus = .ok
  | _ => false

/-- The command moves the fence. -/
def fences (pc : PlanCmd) : Bool := UInt16.ofInt pc.fenceId ≠ 0

/-- The command has an answer that was expected. -/
def passes (pc : PlanCmd) (v : Verdict) : Bool := v.isRan && ! pc.fails v

/-- The simulator after a command. -/
def regions (tiles : ℕ) (dma : AimuDma) (pc : PlanCmd) : AimuDma :=
  match pc.verdict tiles dma with
  | .badDma | .ran .loadTensorTile => pc.register dma
  | _ => dma

end PlanCmd

/-- The commands that are replayed, each with what becomes of it. -/
def verdicts (strict : Bool) (tiles : ℕ) : AimuDma → List PlanCmd → List (PlanCmd × Verdict)
  | _, [] => []
  | dma, pc :: rest =>
    (pc, pc.verdict tiles dma) ::
      if strict = true ∧ pc.passes (pc.verdict tiles dma) = false then []
      else verdicts strict tiles (pc.regions tiles dma) rest

/-- The report counts the verdicts. -/
structure Accounts (strict : Bool) (ds : List (PlanCmd × Verdict)) (rep : ReplayReport) : Prop where
  replayed : rep.commandsReplayed = ds.countP fun d => d.2.isRan
  completions : rep.completionsSeen = ds.countP fun d => d.2.isRan
  doorbells : rep.doorbellCount = ds.countP fun d => d.2.isRan
  failed : rep.failedCommands = ds.countP fun d => d.1.fails d.2
  unsupported : rep.unsupportedCommands = ds.countP fun d => d.1.counts d.2
  dmas : rep.dmaValidations = ds.countP fun d => d.2 = .ran .loadTensorTile
  fence : rep.fenceFinal = ds.countP fun d => d.2.isRan && d.1.fences
  traceEvents : rep.traceEventCount = 0
  types : ∀ bin, rep.byType bin = ds.countP fun d =>
    d.1.passes d.2 && (mapCmdType d.1.commandType).any fun ctype => (ctype.code &&& 0x0F).toNat = bin
  tiles : ∀ tile : ℕ, rep.byTile tile = ds.countP fun d => d.1.passes d.2 && d.1.tileId = (tile : ℤ)
  status : rep.statusPass = true ↔ ∀ d ∈ ds, d.1.fails d.2 = false ∧ (strict = true → d.2.isSkipped = false)

section Snoc

variable {strict : Bool} {ds : List (PlanCmd × Verdict)} {rep rep' : ReplayReport} {pc : PlanCmd} {v : Verdict}

theorem countP_snoc {α : Type} (p : α → Bool) (l : List α) (x : α) :
    (l ++ [x]).countP p = l.countP p + (p x).toNat := by
  rw [List.countP_append, List.countP_singleton]
  cases p x <;> rfl

/-- The report after one more command. -/
structure Counts (strict : Bool) (pc : PlanCmd) (v : Verdict) (rep rep' : ReplayReport) : Prop where
  replayed : rep'.commandsReplayed = rep.commandsReplayed + v.isRan.toNat
  completions : rep'.completionsSeen = rep.completionsSeen + v.isRan.toNat
  doorbells : rep'.doorbellCount = rep.doorbellCount + v.isRan.toNat
  failed : rep'.failedCommands = rep.failedCommands + (pc.fails v).toNat
  unsupported : rep'.unsupportedCommands = rep.unsupportedCommands + (pc.counts v).toNat
  dmas : rep'.dmaValidations = rep.dmaValidations + (decide (v = .ran .loadTensorTile)).toNat
  fence : rep'.fenceFinal = rep.fenceFinal + (v.isRan && pc.fences).toNat
  traceEvents : rep'.traceEventCount = rep.traceEventCount
  types : ∀ bin, rep'.byType bin = rep.byType bin +
    (pc.passes v && (mapCmdType pc.commandType).any fun ctype => (ctype.code &&& 0x0F).toNat = bin).toNat
  tiles : ∀ tile : ℕ, rep'.byTile tile = rep.byTile tile + (pc.passes v && decide (pc.tileId = (tile : ℤ))).toNat
  status : rep'.statusPass = (rep.statusPass && ! pc.fails v && ! (strict && v.isSkipped))

theorem Accounts.snoc (h : Accounts strict ds rep) (hc : Counts strict pc v rep rep') :
    Accounts strict (ds ++ [(pc, v)]) rep' := by
  refine ⟨?_, ?_, ?_, ?_, ?_, ?_, ?_, hc.traceEvents.trans h.traceEvents, fun bin => ?_, fun tile => ?_, ?_⟩
  · rw [countP_snoc, ← h.replayed, hc.replayed]
  · rw [countP_snoc, ← h.completions, hc.completions]
  · rw [countP_snoc, ← h.doorbells, hc.doorbells]
  · rw [countP_snoc, ← h.failed, hc.failed]
  · rw [countP_snoc, ← h.unsupported, hc.unsupported]
  · rw [countP_snoc, ← h.dmas, hc.dmas]
  · rw [countP_snoc, ← h.fence, hc.fence]
  · rw [countP_snoc, ← h.types bin, hc.types bin]
  · rw [countP_snoc, ← h.tiles tile, hc.tiles tile]
  · rw [List.forall_mem_append, List.forall_mem_singleton, ← h.status, hc.status]
    cases rep.statusPass <;> cases pc.fails v <;> cases strict <;> cases v.isSkipped <;> simp

theorem counts_unsupported (hv : v = .unknownType ∨ v = .expectedUnsupported) :
    Counts strict pc v rep (rep.unsupported strict) := by
  have hstatus : (if strict then false else rep.statusPass) = (rep.statusPass && ! false && ! (strict && true)) := by
    cases strict <;> cases rep.statusPass <;> rfl
  rcases hv with rfl | rfl
  · exact ⟨rfl, rfl, rfl, rfl, rfl, rfl, rfl, rfl, fun bin => rfl, fun tile => rfl, hstatus⟩
  · exact ⟨rfl, rfl, rfl, rfl, rfl, rfl, rfl, rfl, fun bin => rfl, fun tile => rfl, hstatus⟩

theorem counts_fail (hv : v = .badTile ∨ v = .badDma) : Counts strict pc v rep rep.fail := by
  have hstatus : false = (rep.statusPass && ! true && ! (strict && false)) :=
    (congrArg (· && _) (Bool.and_false _)).symm
  rcases hv with rfl | rfl
  · exact ⟨rfl, rfl, rfl, rfl, rfl, rfl, rfl, rfl, fun bin => rfl, fun tile => rfl, hstatus⟩
  · exact ⟨rfl, rfl, rfl, rfl, rfl, rfl, rfl, rfl, fun bin => rfl, fun tile => rfl, hstatus⟩

theorem mapExpectedResult_cases (name : String) (h : mapExpectedResult name ≠ .errUnsupportedOp) :
    mapExpectedResult name = .ok ∨ mapExpectedResult name = .errInvalidCommand := by
  unfold mapExpectedResult at h ⊢
  split_ifs at h ⊢
  · exact .inl rfl
  · exact absurd rfl h
  · exact .inr rfl
  · exact .inl rfl

theorem update_succ (f : ℕ → ℕ) (i j : ℕ) : Function.update f i (f i + 1) j = f j + (decide (i = j)).toNat := by
  by_cases h : i = j
  · subst h
    rw [Function.update_self, decide_eq_true rfl]
    rfl
  · rw [Function.update_of_ne (Ne.symm h), decide_eq_false h]
    rfl

theorem tally_byTile (ctype : AimuCmdType) (htile : 0 ≤ pc.tileId ∧ pc.tileId < 64) (tile : ℕ) :
    (rep.tally ctype pc).byTile tile = rep.byTile tile + (decide (pc.tileId = (tile : ℤ))).toNat := by
  unfold ReplayReport.tally
  dsimp only
  rw [if_pos htile, update_succ]
  refine congrArg (fun b => rep.byTile tile + b) (congrArg Bool.toNat (decide_eq_decide.mpr ?_))
  omega

/-- The report before the completion of a command is read. -/
def ReplayReport.dispatched (rep : ReplayReport) (ctype : AimuCmdType) : ReplayReport :=
  { rep with
    dmaValidations := rep.dmaValidations + (decide (ctype = .loadTensorTile)).toNat
    doorbellCount := rep.doorbellCount + 1
    commandsReplayed := rep.commandsReplayed + 1 }

theorem complete_ok {ctype : AimuCmdType} {comp : AimuCompletion}
    (hresult : comp.resultCode = (if Cmdq.hooked ctype then AimuResult.errUnsupportedOp else .ok).code) :
    rep.complete strict ctype .ok pc comp =
      (({ rep with
          completionsSeen := rep.completionsSeen + 1
          traceEventCount := rep.traceEventCount + comp.traceEventCount.toNat
          fenceFinal := if rep.fenceFinal < comp.fenceValue.toNat then comp.fenceValue.toNat else rep.fenceFinal
          unsupportedCommands := rep.unsupportedCommands + (Cmdq.hooked ctype).toNat } : ReplayReport).tally ctype pc,
        false) := by
  unfold ReplayReport.complete
  rw [hresult]
  cases Cmdq.hooked ctype <;> rfl

/-- **The end of a command.**  It counts its verdict. -/
theorem counts_complete {ctype : AimuCmdType} {comp : AimuCompletion} (htype : mapCmdType pc.commandType = some ctype)
    (hexpected : mapExpectedResult pc.expectedStatus = .ok ∨ mapExpectedResult pc.expectedStatus = .errInvalidCommand)
    (hresult : comp.resultCode = (if Cmdq.hooked ctype then AimuResult.errUnsupportedOp else .ok).code)
    (hfence : comp.fenceValue.toNat = if pc.fences then rep.fenceFinal + 1 else 0) (htrace : comp.traceEventCount = 0)
    (htile : 0 ≤ pc.tileId ∧ pc.tileId < 64) :
    ∃ rep', (rep.dispatched ctype).complete strict ctype (mapExpectedResult pc.expectedStatus) pc comp =
        (rep', strict && ! pc.passes (.ran ctype)) ∧ Counts strict pc (.ran ctype) rep rep' := by
  have hfinal : (if rep.fenceFinal < comp.fenceValue.toNat then comp.fenceValue.toNat else rep.fenceFinal) =
      rep.fenceFinal + (true && pc.fences).toNat := by
    rw [hfence]
    cases pc.fences
    · exact if_neg (Nat.not_lt_zero _)
    · exact if_pos (Nat.lt_succ_self _)
  have htypes : ∀ bin, ((mapCmdType pc.commandType).any fun ctype => (ctype.code &&& 0x0F).toNat = bin) =
      decide ((ctype.code &&& 0x0F).toNat = bin) := fun bin => by
    rw [htype]
    rfl
  have hdmas : rep.dmaValidations + (decide (ctype = .loadTensorTile)).toNat =
      rep.dmaValidations + (decide (Verdict.ran ctype = .ran .loadTensorTile)).toNat := by
    cases ctype <;> rfl
  have hevents : rep.traceEventCount + comp.traceEventCount.toNat = rep.traceEventCount := by
    rw [htrace]
    rfl
  rcases hexpected with hok | hinvalid
  · have hpasses : pc.passes (.ran ctype) = true := by
      unfold PlanCmd.passes PlanCmd.fails
      rw [hok]
      rfl
    have hfails : pc.fails (.ran ctype) = false := by
      unfold PlanCmd.fails
      rw [hok]
      rfl
    have hcounts : pc.counts (.ran ctype) = Cmdq.hooked ctype := by
      unfold PlanCmd.counts
      rw [hok]
      exact Bool.and_true _
    have hstatus : rep.statusPass = (rep.statusPass && ! false && ! (strict && false)) := by
      cases strict <;> cases rep.statusPass <;> rfl
    rw [hok, complete_ok hresult, hpasses, Bool.not_true, Bool.and_false]
    refine ⟨_, rfl, ⟨rfl, rfl, rfl, ?_, ?_, hdmas, hfinal, hevents, fun bin => ?_, fun tile => ?_, ?_⟩⟩
    · rw [hfails]
      rfl
    · rw [hcounts]
      rfl
    · rw [hpasses, htypes]
      exact update_succ _ _ _
    · rw [hpasses]
      exact tally_byTile ctype htile tile
    · rw [hfails]
      exact hstatus
  · have hfails : pc.fails (.ran ctype) = true := by
      unfold PlanCmd.fails
      rw [hinvalid]
      rfl
    have hpasses : pc.passes (.ran ctype) = false := by
      unfold PlanCmd.passes
      rw [hfails]
      rfl
    have hcounts : pc.counts (.ran ctype) = false := by
      unfold PlanCmd.counts
      rw [hinvalid]
      exact Bool.and_false _
    have hne : comp.resultCode ≠ AimuResult.errInvalidCommand.code := by
      rw [hresult]
      cases Cmdq.hooked ctype <;> decide
    unfold ReplayReport.complete
    rw [hinvalid, hpasses, Bool.not_false, Bool.and_true]
    dsimp only
    rw [if_neg hne, if_neg fun h => by cases h.2]
    refine ⟨_, rfl, ⟨rfl, rfl, rfl, ?_, ?_, hdmas, hfinal, hevents, fun bin => ?_, fun tile => ?_, ?_⟩⟩
    · rw [hfails]
      rfl
    · rw [hcounts]
      rfl
    · rw [hpasses]
      rfl
    · rw [hpasses]
      rfl
    · rw [hfails]
      exact (congrArg (· && _) (Bool.and_false _)).symm

end Snoc

/-! ### The host between two commands -/

variable {strict : Bool} {tiles : ℕ} {ds : List (PlanCmd × Verdict)} {h : AimuHost Ctx} {rep : ReplayReport}
  {pc : PlanCmd}

/-- Between two commands the host is set up, its queue is idle, and its counters agree with the verdicts so far. -/
structure Between (strict : Bool) (tiles : ℕ) (ds : List (PlanCmd × Verdict)) (h : AimuHost Ctx) (rep : ReplayReport) :
    Prop where
  ready : h.cmdqReady = true
  probe : h.probe.tileCount.toNat = tiles
  fits : tiles ≤ 16
  idle : Cmdq.Idle h.cmdq
  config : h.cmdq.config.tileCount = UInt64.ofNat tiles
  submitted : h.cmdq.counters.commandsSubmitted = UInt64.ofNat (ds.countP fun d => d.2.isRan)
  completed : h.cmdq.counters.commandsCompleted = UInt64.ofNat (ds.countP fun d => d.2.isRan)
  fence : h.cmdq.counters.fenceValue = UInt64.ofNat (ds.countP fun d => d.2.isRan && d.1.fences)
  accounts : Accounts strict ds rep

theorem ringDoorbell_ok (hready : h.cmdqReady = true) : ∃ h', h.ringDoorbell = (h', .ok) ∧ h'.cmdq = h.cmdq ∧
    h'.cmdqReady = true ∧ h'.probe = h.probe ∧ h'.dma = h.dma := by
  unfold AimuHost.ringDoorbell
  rw [if_neg (by rw [hready]; exact Bool.noConfusion)]
  exact ⟨_, rfl, rfl, hready, rfl, rfl⟩

/-- A command that is not sent leaves the host as it was, but for the regions of the DMA simulator. -/
theorem Between.skip {v : Verdict} {rep' : ReplayReport} (hb : Between strict tiles ds h rep) (hv : v.isRan = false)
    (hc : Counts strict pc v rep rep') (dma : AimuDma) :
    Between strict tiles (ds ++ [(pc, v)]) { h with dma := dma } rep' := by
  refine ⟨hb.ready, hb.probe, hb.fits, hb.idle, hb.config, ?_, ?_, ?_, hb.accounts.snoc hc⟩
  · rw [countP_snoc, hv]
    exact hb.submitted
  · rw [countP_snoc, hv]
    exact hb.completed
  · rw [countP_snoc, hv]
    exact hb.fence

/-- The answer to a command is one of two, for a type that there is. -/
theorem answerOf_toCmd (pc : PlanCmd) (ctype : AimuCmdType) :
    Cmdq.answerOf (pc.toCmd ctype) = if Cmdq.hooked ctype then .errUnsupportedOp else .ok := by
  unfold Cmdq.answerOf PlanCmd.toCmd
  simp only [AimuCmdType.ofCode_code]

theorem toCmd_tileId (ctype : AimuCmdType) (htile : 0 ≤ pc.tileId ∧ pc.tileId < (tiles : ℤ)) (hfits : tiles ≤ 16) :
    (pc.toCmd ctype).tileId.toUInt64 < UInt64.ofNat tiles := by
  obtain ⟨n, hn⟩ : ∃ n : ℕ, pc.tileId = n := ⟨pc.tileId.toNat, (Int.toNat_of_nonneg htile.1).symm⟩
  rw [hn] at htile
  have hlt : n < tiles := by exact_mod_cast htile.2
  have hid : (pc.toCmd ctype).tileId.toNat = n := by
    show (UInt8.ofNat (pc.tileId % 2 ^ 8).toNat).toNat = n
    rw [hn, UInt8.toNat_ofNat_of_lt' (by show _ < 256; omega)]
    omega
  rw [UInt64.lt_iff_toNat_lt, UInt8.toNat_toUInt64, hid, UInt64.toNat_ofNat_of_lt' (by show _ < 2 ^ 64; omega)]
  exact hlt

theorem countP_le_length (p : PlanCmd × Verdict → Bool) (hlen : ds.length + 1 < 2 ^ 32) : ds.countP p + 1 < 2 ^ 32 :=
  lt_of_le_of_lt (Nat.succ_le_succ List.countP_le_length) hlen

/-- **A command that is sent** is accepted, served and answered, and counts its verdict. -/
theorem Between.send {ctype : AimuCmdType} (hb : Between strict tiles ds h rep) (hlen : ds.length + 1 < 2 ^ 32)
    (htype : mapCmdType pc.commandType = some ctype)
    (hexpected : mapExpectedResult pc.expectedStatus ≠ .errUnsupportedOp)
    (htile : 0 ≤ pc.tileId ∧ pc.tileId < (tiles : ℤ)) :
    ∃ h' rep', replaySubmit strict ctype (mapExpectedResult pc.expectedStatus) pc h
        { rep with dmaValidations := rep.dmaValidations + (decide (ctype = .loadTensorTile)).toNat } =
        ((h', rep'), strict && ! pc.passes (.ran ctype)) ∧
      Between strict tiles (ds ++ [(pc, .ran ctype)]) h' rep' ∧ h'.dma = h.dma := by
  obtain ⟨q₁, q₂, q₃, comp, hsubmit, hdispatch, hpoll, hcomp, hidle, hconfig, hcounters⟩ :=
    @Cmdq.Idle.wentThrough _ _ (pc.toCmd ctype) hb.idle (hb.config ▸ toCmd_tileId ctype htile hb.fits)
  set stored := h.cmdq.storedCmd (pc.toCmd ctype) with hstored
  have hanswer : Cmdq.answerOf stored = if Cmdq.hooked ctype then .errUnsupportedOp else .ok :=
    answerOf_toCmd pc ctype
  have hfences : stored.completionFenceId ≠ 0 ↔ pc.fences = true := decide_eq_true_iff.symm
  have hfence : comp.fenceValue.toNat = if pc.fences then rep.fenceFinal + 1 else 0 := by
    have hlt := countP_le_length (fun d => d.2.isRan && d.1.fences) hlen
    rw [hcomp, hb.accounts.fence]
    unfold Cmdq.completionOf
    dsimp only
    rw [hb.fence]
    cases hf : pc.fences with
    | false =>
      rw [if_neg (by rw [hfences, hf]; exact Bool.noConfusion)]
      rfl
    | true =>
      rw [if_pos (hfences.mpr hf), if_pos rfl]
      generalize (ds.countP fun d => d.2.isRan && d.1.fences) = f at hlt
      have hadd : UInt64.ofNat f + 1 = UInt64.ofNat (f + 1) := (UInt64.ofNat_add f 1).symm
      rw [hadd, UInt64.toNat_toUInt32, UInt64.toNat_ofNat_of_lt' (by show _ < 2 ^ 64; omega), Nat.mod_eq_of_lt hlt]
  have hsubmitCmd : h.submitCmd (pc.toCmd ctype) = ({ h with cmdq := q₁ }, .ok, some stored) := by
    unfold AimuHost.submitCmd
    rw [if_neg (by rw [hb.ready]; exact Bool.noConfusion)]
    simp only [hsubmit]
  obtain ⟨h₁, hring, hq₁, hready₁, hprobe₁, hdma₁⟩ := @ringDoorbell_ok _ { h with cmdq := q₁ } hb.ready
  have hprocess : h₁.processOne = ({ h₁ with cmdq := q₂ }, .ok) := by
    unfold AimuHost.processOne
    rw [hq₁]
    simp only [hdispatch]
  have hread : ({ h₁ with cmdq := q₂ } : AimuHost Ctx).readCompletion = ({ h₁ with cmdq := q₃ }, .ok, some comp) := by
    unfold AimuHost.readCompletion
    simp only [hpoll]
  obtain ⟨rep', hcomplete, hcounts⟩ := @counts_complete strict rep pc ctype comp htype
    (mapExpectedResult_cases _ hexpected) (by rw [hcomp, ← hanswer]; rfl) hfence (by rw [hcomp]; rfl)
    ⟨htile.1, lt_of_lt_of_le htile.2 (by have := hb.fits; omega)⟩
  refine ⟨{ h₁ with cmdq := q₃ }, rep', ?_, ?_, hdma₁⟩
  · unfold replaySubmit
    simp only [hsubmitCmd, hring, hprocess, hread]
    exact congrArg (fun r : ReplayReport × Bool => (({ h₁ with cmdq := q₃ }, r.1), r.2)) hcomplete
  · refine ⟨hready₁, ?_, hb.fits, hidle, ?_, ?_, ?_, ?_, hb.accounts.snoc hcounts⟩
    · show h₁.probe.tileCount.toNat = tiles
      rw [hprobe₁]
      exact hb.probe
    · show q₃.config.tileCount = _
      rw [hconfig]
      exact hb.config
    · show q₃.counters.commandsSubmitted = _
      rw [hcounters, Cmdq.countDispatch_submitted, countP_snoc]
      show h.cmdq.counters.commandsSubmitted + 1 = _
      rw [hb.submitted, UInt64.ofNat_add]
      rfl
    · show q₃.counters.commandsCompleted = _
      rw [hcounters, Cmdq.countDispatch_completed, countP_snoc, hanswer]
      show h.cmdq.counters.commandsCompleted + _ = _
      rw [hb.completed, UInt64.ofNat_add]
      cases Cmdq.hooked ctype <;> rfl
    · show q₃.counters.fenceValue = _
      rw [hcounters, Cmdq.countDispatch_fenceValue, countP_snoc]
      show (if stored.completionFenceId ≠ 0 then h.cmdq.counters.fenceValue + 1 else h.cmdq.counters.fenceValue) = _
      rw [hb.fence, UInt64.ofNat_add]
      cases hf : pc.fences with
      | false =>
        rw [if_neg (by rw [hfences, hf]; exact Bool.noConfusion)]
        exact (UInt64.add_zero _).symm
      | true =>
        rw [if_pos (hfences.mpr hf)]
        rfl

/-- What is tested before the verdict on a command, and the regions that the command leaves. -/
inductive PlanCmd.Decided (tiles : ℕ) (dma : AimuDma) (pc : PlanCmd) : Verdict → AimuDma → Prop
  | unknownType (htype : mapCmdType pc.commandType = none) : Decided tiles dma pc .unknownType dma
  | expectedUnsupported {ctype : AimuCmdType} (htype : mapCmdType pc.commandType = some ctype)
      (hexpected : mapExpectedResult pc.expectedStatus = .errUnsupportedOp) :
      Decided tiles dma pc .expectedUnsupported dma
  | badTile {ctype : AimuCmdType} (htype : mapCmdType pc.commandType = some ctype)
      (hexpected : mapExpectedResult pc.expectedStatus ≠ .errUnsupportedOp)
      (htile : pc.tileId < 0 ∨ (tiles : ℤ) ≤ pc.tileId) : Decided tiles dma pc .badTile dma
  | badDma (htype : mapCmdType pc.commandType = some .loadTensorTile)
      (hexpected : mapExpectedResult pc.expectedStatus ≠ .errUnsupportedOp)
      (htile : ¬ (pc.tileId < 0 ∨ (tiles : ℤ) ≤ pc.tileId))
      (hdma : (pc.register dma).validate pc.loadDesc ≠ .ok) : Decided tiles dma pc .badDma (pc.register dma)
  | load (htype : mapCmdType pc.commandType = some .loadTensorTile)
      (hexpected : mapExpectedResult pc.expectedStatus ≠ .errUnsupportedOp)
      (htile : ¬ (pc.tileId < 0 ∨ (tiles : ℤ) ≤ pc.tileId))
      (hdma : (pc.register dma).validate pc.loadDesc = .ok) :
      Decided tiles dma pc (.ran .loadTensorTile) (pc.register dma)
  | other {ctype : AimuCmdType} (htype : mapCmdType pc.commandType = some ctype) (hload : ctype ≠ .loadTensorTile)
      (hexpected : mapExpectedResult pc.expectedStatus ≠ .errUnsupportedOp)
      (htile : ¬ (pc.tileId < 0 ∨ (tiles : ℤ) ≤ pc.tileId)) : Decided tiles dma pc (.ran ctype) dma

theorem PlanCmd.decided (tiles : ℕ) (dma : AimuDma) (pc : PlanCmd) :
    pc.Decided tiles dma (pc.verdict tiles dma) (pc.regions tiles dma) := by
  unfold PlanCmd.regions PlanCmd.verdict
  cases htype : mapCmdType pc.commandType with
  | none => exact .unknownType htype
  | some ctype =>
    dsimp only
    by_cases hexpected : mapExpectedResult pc.expectedStatus = .errUnsupportedOp
    · rw [if_pos hexpected]
      exact .expectedUnsupported htype hexpected
    rw [if_neg hexpected]
    by_cases htile : pc.tileId < 0 ∨ (tiles : ℤ) ≤ pc.tileId
    · rw [if_pos htile]
      exact .badTile htype hexpected htile
    rw [if_neg htile]
    by_cases hload : ctype = .loadTensorTile
    · subst hload
      by_cases hdma : (pc.register dma).validate pc.loadDesc = .ok
      · rw [if_neg fun h => h.2 hdma]
        exact .load htype hexpected htile hdma
      · rw [if_pos ⟨rfl, hdma⟩]
        exact .badDma htype hexpected htile hdma
    · rw [if_neg fun h => hload h.1]
      have hregions : (match Verdict.ran ctype with
          | .badDma | .ran .loadTensorTile => pc.register dma
          | _ => dma) = dma := by
        cases ctype <;> first | rfl | exact absurd rfl hload
      rw [hregions]
      exact .other htype hload hexpected htile

theorem tile_of_not_bad (htile : ¬ (pc.tileId < 0 ∨ (tiles : ℤ) ≤ pc.tileId)) :
    0 ≤ pc.tileId ∧ pc.tileId < (tiles : ℤ) := by
  rw [not_or] at htile
  exact ⟨not_lt.mp htile.1, not_le.mp htile.2⟩

/-- **One command.** -/
theorem Between.one (hb : Between strict tiles ds h rep) (hlen : ds.length + 1 < 2 ^ 32) :
    ∃ h' rep', replayOne strict pc h rep =
        ((h', rep'), strict && ! pc.passes (pc.verdict tiles h.dma)) ∧
      Between strict tiles (ds ++ [(pc, pc.verdict tiles h.dma)]) h' rep' ∧ h'.dma = pc.regions tiles h.dma := by
  have hdecided := pc.decided tiles h.dma
  generalize pc.verdict tiles h.dma = v at hdecided ⊢
  generalize pc.regions tiles h.dma = dma at hdecided ⊢
  unfold replayOne
  cases hdecided with
  | unknownType htype =>
    refine ⟨h, rep.unsupported strict, ?_, hb.skip rfl (counts_unsupported (.inl rfl)) h.dma, rfl⟩
    rw [htype]
    exact congrArg (Prod.mk _) (Bool.and_true strict).symm
  | expectedUnsupported htype hexpected =>
    refine ⟨h, rep.unsupported strict, ?_, hb.skip rfl (counts_unsupported (.inr rfl)) h.dma, rfl⟩
    rw [htype]
    dsimp only
    rw [if_pos hexpected]
    exact congrArg (Prod.mk _) (Bool.and_true strict).symm
  | badTile htype hexpected htile =>
    refine ⟨h, rep.fail, ?_, hb.skip rfl (counts_fail (.inl rfl)) h.dma, rfl⟩
    rw [htype]
    dsimp only
    rw [if_neg hexpected, hb.probe, if_pos htile]
    exact congrArg (Prod.mk _) (Bool.and_true strict).symm
  | badDma htype hexpected htile hdma =>
    refine ⟨{ h with dma := pc.register h.dma }, rep.fail, ?_, hb.skip rfl (counts_fail (.inr rfl)) _, rfl⟩
    rw [htype]
    dsimp only
    rw [if_neg hexpected, hb.probe, if_neg htile, if_pos rfl, if_pos hdma]
    exact congrArg (Prod.mk _) (Bool.and_true strict).symm
  | load htype hexpected htile hdma =>
    have hb' : Between strict tiles ds { h with dma := pc.register h.dma } rep :=
      ⟨hb.ready, hb.probe, hb.fits, hb.idle, hb.config, hb.submitted, hb.completed, hb.fence, hb.accounts⟩
    obtain ⟨h', rep', hsend, hbetween, hdma'⟩ := hb'.send hlen htype hexpected (tile_of_not_bad htile)
    refine ⟨h', rep', ?_, hbetween, hdma'⟩
    rw [htype]
    dsimp only
    rw [if_neg hexpected, hb.probe, if_neg htile, if_pos rfl, if_neg (not_not.mpr hdma)]
    exact hsend
  | other htype hload hexpected htile =>
    obtain ⟨h', rep', hsend, hbetween, hdma'⟩ := hb.send hlen htype hexpected (tile_of_not_bad htile)
    refine ⟨h', rep', ?_, hbetween, hdma'⟩
    rw [htype]
    dsimp only
    rw [if_neg hexpected, hb.probe, if_neg htile, if_neg hload, ← hsend, decide_eq_false hload]
    rfl

/-- **The loop.** -/
theorem Between.loop {commands : List PlanCmd} (hb : Between strict tiles ds h rep)
    (hlen : ds.length + commands.length < 2 ^ 32) :
    ∃ h' rep', replayLoop strict commands h rep = (h', rep') ∧
      Between strict tiles (ds ++ verdicts strict tiles h.dma commands) h' rep' := by
  induction commands generalizing ds h rep with
  | nil => exact ⟨h, rep, rfl, by rwa [verdicts, List.append_nil]⟩
  | cons pc rest ih =>
    rw [List.length_cons] at hlen
    obtain ⟨h₁, rep₁, hone, hb₁, hdma⟩ := @Between.one _ _ _ _ _ _ pc hb (by omega)
    unfold replayLoop verdicts
    rw [hone]
    by_cases hstop : strict = true ∧ pc.passes (pc.verdict tiles h.dma) = false
    · rw [if_pos hstop, hstop.1, hstop.2]
      exact ⟨h₁, rep₁, rfl, hstop.1 ▸ hb₁⟩
    · have hgo : (strict && ! pc.passes (pc.verdict tiles h.dma)) = false := by
        cases strict <;> cases hp : pc.passes (pc.verdict tiles h.dma) <;> simp [hp] at hstop ⊢
      rw [if_neg hstop, hgo]
      obtain ⟨h₂, rep₂, hloop, hb₂⟩ := ih hb₁ (by rw [List.length_append, List.length_singleton]; omega)
      refine ⟨h₂, rep₂, hloop, ?_⟩
      rwa [hdma, List.append_assoc] at hb₂

/-! ### The tool -/

variable {host : Host} {nullCtx : Ctx} {plan : CommandPlan} {h₀ : AimuHost Ctx}

/-- The host that the tool creates. -/
structure Created (tiles : ℕ) (h : AimuHost Ctx) : Prop where
  device : h.device.tileCount = tiles
  fits : tiles ≤ 16
  idle : Cmdq.Idle h.cmdq
  config : h.cmdq.config.tileCount = UInt64.ofNat tiles
  counters : h.cmdq.counters = {}
  dma : h.dma = {}

theorem created_of_create (htiles : 0 < tiles)
    (hc : AimuHost.create host nullCtx (some { tileCount := tiles }) = .ok h₀) : Created tiles h₀ := by
  obtain ⟨-, hc⟩ := rejectIf_bind_eq_ok.mp hc
  obtain ⟨dev, hdev, hc⟩ := bind_eq_ok.mp hc
  obtain ⟨q, hq, hc⟩ := bind_eq_ok.mp hc
  obtain ⟨-, hc⟩ := rejectIf_bind_eq_ok.mp hc
  obtain ⟨-, hc⟩ := rejectIf_bind_eq_ok.mp hc
  obtain ⟨s, -, hc⟩ := bind_eq_ok.mp hc
  obtain rfl := Except.ok.inj hc
  have hne : tiles ≠ 0 := Nat.pos_iff_ne_zero.mp htiles
  have hdevice : dev.tileCount = tiles ∧ tiles ≤ 16 := by
    unfold AimuDevice.create at hdev
    simp only [Option.getD_some, if_neg hne] at hdev
    split_ifs at hdev with hmax
    exact ⟨(congrArg AimuDevice.tileCount (Except.ok.inj hdev)).symm, not_lt.mp hmax⟩
  have hqueue : Cmdq.Idle q ∧ q.config.tileCount = UInt64.ofNat tiles ∧ q.counters = {} := by
    unfold Cmdq.create at hq
    simp only [Option.getD_some, if_neg hne] at hq
    split_ifs at hq
    obtain rfl := Except.ok.inj hq
    exact ⟨⟨rfl, rfl, rfl, rfl, rfl⟩, rfl, rfl⟩
  exact ⟨hdevice.1, hdevice.2, hqueue.1, hqueue.2.1, hqueue.2.2, rfl⟩

theorem accounts_nil (strict : Bool) : Accounts strict [] {} :=
  ⟨rfl, rfl, rfl, rfl, rfl, rfl, rfl, rfl, fun _ => rfl, fun _ => rfl, iff_of_true rfl fun _ hd => by cases hd⟩

/-- The replay of a plan that the tool takes on a device that it can create: the loop runs to its end. -/
theorem replayMain_between (strict : Bool)
    (hheader : 0 < plan.header.tileCount ∧ 0 ≤ plan.header.commandCount ∧ plan.header.version = 1)
    (hsome : plan.commands ≠ []) (hstatus : strict = true → plan.header.status = "pass")
    (hc : AimuHost.create host nullCtx (some { tileCount := plan.header.tileCount.toNat }) = .ok h₀) :
    ∃ (h : AimuHost Ctx) (rep : ReplayReport), replayMain host nullCtx strict plan = (if rep.statusPass then 0 else 1,
        some ⟨rep, h.snapshotCounters.getSummary.commandsSubmitted,
          h.snapshotCounters.getSummary.commandsCompleted⟩) ∧
      Between strict plan.header.tileCount.toNat
        (verdicts strict plan.header.tileCount.toNat {} (plan.commands.take 256)) h rep := by
  have hcreated := created_of_create (Int.lt_toNat.mpr hheader.1) hc
  obtain ⟨probe, hprobe, -, -, htiles⟩ := AimuHost.probeDevice_ok h₀
  set h₁ : AimuHost Ctx := { h₀.sync with probe := probe, probed := true } with hh₁
  have hfits := hcreated.fits
  have hcount : probe.tileCount.toNat = plan.header.tileCount.toNat := by
    rw [htiles, hcreated.device]
    exact UInt32.toNat_ofNat_of_lt' (by show _ < 2 ^ 32; omega)
  have henumerate : (h₁.enumerateTiles 64).1 = .ok := by
    have hdevice : h₁.device.tileCount = plan.header.tileCount.toNat := hcreated.device
    unfold AimuHost.enumerateTiles
    rw [if_neg Bool.noConfusion, AimuHost.enumerateLoop_ok]
    · rw [hdevice]
      exact hfits
    · intro i hi
      rw [hdevice, ← hcount]
      exact lt_of_lt_of_le (List.mem_range.mp hi) (min_le_left _ _)
  obtain ⟨h₂, hsetup, hcmdq, hready, hprobe₂, hdma⟩ : ∃ h₂, h₁.setupCmdq = (h₂, .ok) ∧ h₂.cmdq = h₀.cmdq ∧
      h₂.cmdqReady = true ∧ h₂.probe = probe ∧ h₂.dma = h₀.dma := by
    unfold AimuHost.setupCmdq
    rw [if_neg Bool.noConfusion]
    exact ⟨_, rfl, rfl, rfl, rfl, rfl⟩
  have hb : Between strict plan.header.tileCount.toNat [] h₂ {} := by
    refine ⟨hready, hprobe₂ ▸ hcount, hfits, hcmdq ▸ hcreated.idle, hcmdq ▸ hcreated.config, ?_, ?_, ?_,
      accounts_nil strict⟩
    all_goals
      rw [hcmdq, hcreated.counters]
      rfl
  have hlength : (plan.commands.take 256).length ≤ 256 := List.length_take_le _ _
  obtain ⟨h₃, rep, hloop, hb₃⟩ := @Between.loop _ _ _ _ _ _ (plan.commands.take 256) hb (by
    rw [List.length_nil]
    omega)
  rw [List.nil_append, hdma, hcreated.dma] at hb₃
  refine ⟨h₃, rep, ?_, hb₃⟩
  have hempty : ¬ (plan.commands.take 256).length = 0 := by
    rw [List.length_take]
    have := List.length_pos_iff.mpr hsome
    omega
  unfold replayMain
  dsimp only
  rw [if_neg (not_not.mpr hheader), if_neg hempty, if_neg fun h => h.2 (hstatus h.1), hc]
  dsimp only
  rw [hprobe]
  dsimp only
  rw [if_neg (not_not.mpr henumerate), hsetup]
  dsimp only
  rw [hloop]

/-- **The report of a replay.**  For a plan that the tool takes and a device that it can create: the tool replays the
commands in order, up to the first that does not pass if it is strict; its report counts what becomes of each on its
own, and every command that is sent is completed. -/
theorem replay_accounts (strict : Bool)
    (hheader : 0 < plan.header.tileCount ∧ 0 ≤ plan.header.commandCount ∧ plan.header.version = 1)
    (hsome : plan.commands ≠ []) (hstatus : strict = true → plan.header.status = "pass")
    (hc : AimuHost.create host nullCtx (some { tileCount := plan.header.tileCount.toNat }) = .ok h₀) :
    ∃ out, replayMain host nullCtx strict plan = (if out.report.statusPass then 0 else 1, some out) ∧
      Accounts strict (verdicts strict plan.header.tileCount.toNat {} (plan.commands.take 256)) out.report ∧
      out.commandsSubmitted = UInt64.ofNat out.report.commandsReplayed ∧
      out.commandsCompleted = UInt64.ofNat out.report.commandsReplayed := by
  obtain ⟨h, rep, hmain, hb⟩ := replayMain_between strict hheader hsome hstatus hc
  refine ⟨⟨rep, h.snapshotCounters.getSummary.commandsSubmitted, h.snapshotCounters.getSummary.commandsCompleted⟩,
    hmain, hb.accounts, ?_, ?_⟩
  · rw [hb.accounts.replayed]
    show (if h.cmdqReady then h.cmdq.counters else {}).commandsSubmitted = _
    rw [hb.ready]
    exact hb.submitted
  · rw [hb.accounts.replayed]
    show (if h.cmdqReady then h.cmdq.counters else {}).commandsCompleted = _
    rw [hb.ready]
    exact hb.completed

/-- A load, a product that moves the fence, and a command for a tile that is not there. -/
def threeCommands : CommandPlan where
  header := { version := 1, tileCount := 2, commandCount := 3, status := "pass" }
  commands :=
    [{ commandId := 1, commandType := "LOAD_TENSOR_TILE", tileId := 0, dtype := "q8", packedBytes := 64,
        tensorId := 0 },
      { commandId := 2, commandType := "EXEC_MATMUL", tileId := 1, fenceId := 7 },
      { commandId := 3, commandType := "NOP", tileId := 5 }]

/-- Two commands are sent and one fails. -/
theorem replay_accounts_threeCommands : ∃ out, replayMain .generous () false threeCommands = (1, some out) ∧
    out.report.commandsReplayed = 2 ∧ out.report.failedCommands = 1 ∧ out.report.fenceFinal = 1 ∧
    out.commandsCompleted = 2 := by
  obtain ⟨h₀, hc⟩ : ∃ h₀, AimuHost.create .generous () (some { tileCount := threeCommands.header.tileCount.toNat }) =
      .ok h₀ := ⟨_, rfl⟩
  obtain ⟨out, hmain, haccounts, -, hcompleted⟩ :=
    replay_accounts false (by decide) (by decide) (fun h => by cases h) hc
  have hreplayed : out.report.commandsReplayed = 2 := haccounts.replayed.trans (by decide +kernel)
  have hfailed : out.report.failedCommands = 1 := haccounts.failed.trans (by decide +kernel)
  have hstatus : out.report.statusPass = false := by
    rw [← Bool.not_eq_true, haccounts.status]
    decide +kernel
  rw [hstatus] at hmain
  exact ⟨out, hmain, hreplayed, hfailed, haccounts.fence.trans (by decide +kernel),
    hcompleted.trans (by rw [hreplayed]; rfl)⟩

end Att1.Replay
