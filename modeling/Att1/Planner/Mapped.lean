import Att1.Lib.Returns
import Att1.Planner.ExecMap
import Att1.Routes.Mapper

/-!
# Att1.Planner.Mapped — the command plans of the mapper

* `Rule`: the mapping rules of the manual.
* `Image`: what becomes of a command.
* `mapped_accepted`: whatever plan the mapper accepts, it maps the commands one by one, and the route mapper accepts the
  result.
-/

open Att1.Lib

namespace Att1.ExecMap

/-! ### The rules -/

/-- The type and the status of the record for a command. -/
inductive Rule : String → Json → String → String → Prop
  | setup (ct : Json) : Rule "PREFILL_SETUP" ct "TILE_BARRIER" statusOk
  | enumeration (ct : Json) : Rule "TILE_ENUMERATION" ct "QUERY_COUNTERS" statusOk
  | advisory {phase : String} (ct : Json) (h : phase ∈ ["DEVICE_PROBE", "MEMORY_ALLOCATE"]) :
      Rule phase ct "NOP" statusOk
  | exec {phase type : String} (hphase : phase ∉ advisoryPhases) (htype : type ∈ execCmdTypes) :
      Rule phase (.str type) type statusUnsupported
  | reset {phase : String} {ct : Json} (hphase : phase ∉ advisoryPhases) (h : phase = "RESET" ∨ ct = .str "RESET") :
      Rule phase ct "RESET_TILE" statusOk
  | passes {phase type : String} (hphase : phase ∉ advisoryPhases) (hreset : phase ≠ "RESET")
      (htype : type ∈ passthroughCmdTypes) : Rule phase (.str type) type statusOk

/-- What becomes of a command: a record for the same tile, under the same fences. -/
structure Image (tiles : ℕ) (src : Fields) (mapped : MappedCommand) : Prop where
  tile : mapped.tileId = dictGet src "tile_id"
  inRange : ∃ t < tiles, mapped.tileId.asInt? = some (t : ℤ)
  fence : mapped.fenceId = dictGetD src "fence_id" (.int 0)
  dependency : mapped.dependencyFenceId = dictGetD src "dependency_fence_id" (.int 0)
  rule : ∃ phase, dictGet src "execution_phase" = .str phase ∧
    Rule phase (dictGet src "command_type") mapped.commandType mapped.expectedStatus

/-- Every record waits for nothing, for a known fence or for the fence of one before it. -/
def DepsMet : List ℤ → List MappedCommand → Prop
  | _, [] => True
  | known, cmd :: cmds =>
    (cmd.dependencyFenceId.isNone = true ∨ cmd.dependencyFenceId.eqInt 0 = true ∨
      ∃ n ∈ known, cmd.dependencyFenceId.asInt? = some n) ∧ DepsMet (cmd.fenceId.asInt?.toList ++ known) cmds

section Texts

variable {value : Json} {texts : List String} {name : String}

theorem inSet_eq_true (h : value.inSet texts = .ok true) : ∃ text ∈ texts, value = .str text := by
  cases value with
  | str text =>
    rw [inSet_str] at h
    exact ⟨text, of_decide_eq_true (Except.ok.inj h), rfl⟩
  | _ => simp [Json.inSet, Json.key, bind, Except.bind] at h

theorem textIn_str (text : String) (texts : List String) :
    textIn (.str text) texts = .ok (if text ∈ texts then some text else none) := by
  unfold textIn
  rw [inSet_str]
  by_cases h : text ∈ texts <;> simp [h, bind, Except.bind]

theorem textIn_eq_some (h : textIn value texts = .ok (some name)) : value = .str name ∧ name ∈ texts := by
  obtain ⟨known, hknown, h⟩ := bind_eq_ok.mp h
  cases known with
  | false => cases Except.ok.inj h
  | true =>
    obtain ⟨text, hmem, rfl⟩ := inSet_eq_true hknown
    obtain rfl := Option.some.inj (Except.ok.inj h)
    exact ⟨rfl, hmem⟩

end Texts

/-! ### Checked plans -/

/-- What the mapper checks of a command. -/
structure Checked (tileCount : Json) (src : Fields) : Prop where
  tile : ∃ t : ℕ, (dictGet src "tile_id").asInt? = some (t : ℤ) ∧ (t : ℤ) < tileCount.asInt?.getD 0
  phase : ∃ phase ∈ validExecutionPhases, dictGet src "execution_phase" = .str phase
  type : (dictGet src "command_type").isNone = false

theorem checked_tile {tileCount : Json} {src : Fields} (hpos : 0 < tileCount.asInt?.getD 0)
    (h : checkTile tileCount src = []) :
    ∃ t : ℕ, (dictGet src "tile_id").asInt? = some (t : ℤ) ∧ (t : ℤ) < tileCount.asInt?.getD 0 := by
  unfold checkTile at h
  cases htile : (dictGet src "tile_id").asInt? with
  | none => simp [htile] at h
  | some n =>
    simp only [htile] at h
    split_ifs at h with hneg hlarge
    exact ⟨n.toNat, by rw [Int.toNat_of_nonneg (by omega)], by omega⟩

theorem checked_phase {src : Fields} (h : checkPhase src = .ok []) :
    ∃ phase ∈ validExecutionPhases, dictGet src "execution_phase" = .str phase := by
  unfold checkPhase at h
  dsimp only at h
  split at h
  · cases Except.ok.inj h
  · obtain ⟨known, hknown, h⟩ := bind_eq_ok.mp h
    cases known with
    | false => cases Except.ok.inj h
    | true => exact inSet_eq_true hknown

theorem checked_type {src : Fields} (h : checkType src = []) : (dictGet src "command_type").isNone = false := by
  unfold checkType at h
  dsimp only at h
  by_contra hnone
  rw [if_pos (by simpa using hnone)] at h
  cases h

/-- The dependency of a command without errors is none, 0 or a fence seen. -/
theorem checked_dependency {fences : List ℤ} {src : Fields} (h : checkDependency fences src = []) :
    (dictGet src "dependency_fence_id").isNone = true ∨ (dictGet src "dependency_fence_id").eqInt 0 = true ∨
      ∃ n ∈ fences, (dictGet src "dependency_fence_id").asInt? = some n := by
  unfold checkDependency at h
  dsimp only at h
  split at h
  · next hnone =>
    rw [Bool.or_eq_true] at hnone
    exact hnone.imp_right .inl
  · cases hdep : (dictGet src "dependency_fence_id").asInt? with
    | none => simp [hdep] at h
    | some n =>
      simp only [hdep] at h
      split_ifs at h with hmem
      exact .inr (.inr ⟨n, hmem, rfl⟩)

/-- A command without errors is one that has been checked. -/
theorem checked_of_checkCommand {strict : Bool} {tileCount cmd : Json} {seen seen' : Seen} {idx : ℕ} {issues : Issues}
    (hpos : 0 < tileCount.asInt?.getD 0) (h : checkCommand strict tileCount seen idx cmd = .ok (seen', issues))
    (hnone : issues.errors = []) :
    ∃ src, cmd = .obj src ∧ Checked tileCount src ∧ checkDependency seen.fences src = [] ∧
      seen'.fences = recordFence seen.fences src := by
  cases cmd with
  | obj src =>
    refine ⟨src, rfl, ?_⟩
    unfold checkCommand at h
    obtain ⟨phaseErrors, hphase, h⟩ := bind_eq_ok.mp h
    obtain ⟨rfl, rfl⟩ := Prod.mk.inj (Except.ok.inj h)
    simp only [List.map_eq_nil_iff, List.append_eq_nil_iff] at hnone
    obtain ⟨⟨⟨⟨⟨-, htile⟩, rfl⟩, htype⟩, hdep⟩, -⟩ := hnone
    exact ⟨⟨checked_tile hpos htile, checked_phase hphase, checked_type htype⟩, hdep, rfl⟩
  | _ =>
    obtain ⟨-, rfl⟩ := Prod.mk.inj (Except.ok.inj h)
    simp at hnone

/-- The dependencies are on fences seen, from these on. -/
def DepsChecked : List ℤ → List Fields → Prop
  | _, [] => True
  | fences, src :: srcs => checkDependency fences src = [] ∧ DepsChecked (recordFence fences src) srcs

theorem checked_of_checkCommands {strict : Bool} {tileCount : Json} {cmds : List Json} {seen : Seen} {idx : ℕ}
    {issues : Issues} (hpos : 0 < tileCount.asInt?.getD 0)
    (h : checkCommands strict tileCount seen idx cmds = .ok issues) (hnone : issues.errors = []) :
    ∃ srcs : List Fields, cmds = srcs.map .obj ∧ (∀ src ∈ srcs, Checked tileCount src) ∧
      DepsChecked seen.fences srcs := by
  induction cmds generalizing seen idx issues with
  | nil => exact ⟨[], rfl, by simp, trivial⟩
  | cons cmd cmds ih =>
    unfold checkCommands at h
    obtain ⟨⟨seen', first⟩, hfirst, h⟩ := bind_eq_ok.mp h
    obtain ⟨rest, hrest, h⟩ := bind_eq_ok.mp h
    obtain rfl := Except.ok.inj h
    obtain ⟨hfirstNone, hrestNone⟩ := List.append_eq_nil_iff.mp hnone
    obtain ⟨src, rfl, hsrc, hdep, hseen⟩ := checked_of_checkCommand hpos hfirst hfirstNone
    obtain ⟨srcs, rfl, hsrcs, hdeps⟩ := ih hrest hrestNone
    exact ⟨src :: srcs, rfl, List.forall_mem_cons.mpr ⟨hsrc, hsrcs⟩, hdep, hseen ▸ hdeps⟩

/-! ### Mapped commands -/

section Mapped

variable {src : Fields} {cmdId : ℕ} {modelId sessionId tileCount : Json} {strict : Bool} {mapped : MappedCommand}
  {warnings : List FString}

/-- What a record keeps of a command; in strict mode no command is unsupported. -/
structure Kept (strict : Bool) (src : Fields) (cmdId : ℕ) (mapped : MappedCommand) : Prop where
  id : mapped.commandId = cmdId
  tile : mapped.tileId = dictGetD src "tile_id" (.int 0)
  fence : mapped.fenceId = dictGetD src "fence_id" (.int 0)
  dependency : mapped.dependencyFenceId = dictGetD src "dependency_fence_id" (.int 0)
  supported : strict = true → mapped.expectedStatus = statusOk

/-- **A command is mapped by the rules.** -/
theorem mapCommand_rule {phase : String} (hphase : dictGetD src "execution_phase" (.str "") = .str phase)
    (h : mapCommand src cmdId modelId sessionId strict = .ok (mapped, warnings)) :
    Kept strict src cmdId mapped ∧
      Rule phase (dictGetD src "command_type" (.str "")) mapped.commandType mapped.expectedStatus := by
  unfold mapCommand at h
  dsimp only at h
  rw [hphase] at h
  obtain ⟨⟨tensorName, totals⟩, -, h⟩ := bind_eq_ok.mp h
  obtain ⟨advisory, hadvisory, h⟩ := bind_eq_ok.mp h
  rw [textIn_str] at hadvisory
  obtain rfl := Except.ok.inj hadvisory
  by_cases hmem : phase ∈ advisoryPhases
  · -- the advisory phases
    rw [if_pos hmem] at h
    obtain ⟨rfl, -⟩ := Prod.mk.inj (Except.ok.inj h)
    refine ⟨⟨rfl, rfl, rfl, rfl, fun _ => rfl⟩, ?_⟩
    simp only [advisoryPhases, List.mem_cons, List.not_mem_nil, or_false] at hmem
    rcases hmem with rfl | rfl | rfl | rfl
    · exact .advisory _ (by decide)
    · exact .enumeration _
    · exact .advisory _ (by decide)
    · exact .setup _
  · rw [if_neg hmem] at h
    obtain ⟨exec, hexec, h⟩ := bind_eq_ok.mp h
    cases exec with
    | some name =>
      obtain ⟨hct, hname⟩ := textIn_eq_some hexec
      cases strict with
      | true => cases h
      | false =>
        obtain ⟨rfl, -⟩ := Prod.mk.inj (Except.ok.inj h)
        exact ⟨⟨rfl, rfl, rfl, rfl, fun h => absurd h Bool.false_ne_true⟩, hct ▸ .exec hmem hname⟩
    | none =>
      dsimp only at h
      split at h
      · next hreset =>
        obtain ⟨rfl, -⟩ := Prod.mk.inj (Except.ok.inj h)
        refine ⟨⟨rfl, rfl, rfl, rfl, fun _ => rfl⟩, .reset hmem ?_⟩
        rw [Bool.or_eq_true, eqStr_iff, eqStr_iff] at hreset
        exact hreset.symm.imp_left Json.str.inj
      · next hreset =>
        rw [Bool.or_eq_true, eqStr_iff, eqStr_iff, not_or] at hreset
        have hne : phase ≠ "RESET" := fun heq => hreset.2 (heq ▸ rfl)
        split at h
        · next hcleanup =>
          obtain ⟨rfl, -⟩ := Prod.mk.inj (Except.ok.inj h)
          rw [Bool.and_eq_true, eqStr_iff, eqStr_iff] at hcleanup
          exact ⟨⟨rfl, rfl, rfl, rfl, fun _ => rfl⟩, hcleanup.2 ▸ .passes hmem hne (by decide)⟩
        · obtain ⟨pass, hpass, h⟩ := bind_eq_ok.mp h
          cases pass with
          | none => cases h
          | some name =>
            obtain ⟨hct, hname⟩ := textIn_eq_some hpass
            obtain ⟨rfl, -⟩ := Prod.mk.inj (Except.ok.inj h)
            exact ⟨⟨rfl, rfl, rfl, rfl, fun _ => rfl⟩, hct ▸ .passes hmem hne hname⟩

theorem mapCommand_image {n : ℕ} (hn : tileCount.asInt? = some (n : ℤ)) (hsrc : Checked tileCount src)
    (h : mapCommand src cmdId modelId sessionId strict = .ok (mapped, warnings)) :
    Image n src mapped ∧ mapped.commandId = cmdId ∧ (strict = true → mapped.expectedStatus = statusOk) := by
  obtain ⟨phase, -, hphase⟩ := hsrc.phase
  obtain ⟨t, ht, hlt⟩ := hsrc.tile
  obtain ⟨hkept, hrule⟩ := mapCommand_rule (dictGetD_of_dictGet hphase rfl _) h
  have htile : mapped.tileId = dictGet src "tile_id" :=
    hkept.tile.trans (dictGetD_of_not_none (Json.isNone_of_asInt ht))
  rw [hn, Option.getD_some] at hlt
  rw [dictGetD_of_not_none hsrc.type] at hrule
  exact ⟨⟨htile, ⟨t, by omega, htile ▸ ht⟩, hkept.fence, hkept.dependency, phase, hphase, hrule⟩, hkept.id,
    hkept.supported⟩

theorem mapCommands_image {n : ℕ} (hn : tileCount.asInt? = some (n : ℤ)) {srcs : List Fields}
    (hsrcs : ∀ src ∈ srcs, Checked tileCount src) {outs : List MappedCommand}
    (h : mapCommands modelId sessionId strict cmdId (srcs.map .obj) = .ok (outs, warnings)) :
    List.Forall₂ (Image n) srcs outs ∧ outs.map (·.commandId) = List.range' cmdId outs.length ∧
      (strict = true → ∀ mapped ∈ outs, mapped.expectedStatus = statusOk) := by
  induction srcs generalizing cmdId outs warnings with
  | nil =>
    obtain ⟨rfl, -⟩ := Prod.mk.inj (Except.ok.inj h)
    exact ⟨.nil, rfl, by simp⟩
  | cons src srcs ih =>
    rw [List.map_cons, mapCommands] at h
    obtain ⟨⟨mapped, first⟩, hfirst, h⟩ := bind_eq_ok.mp h
    obtain ⟨⟨rest, more⟩, hrest, h⟩ := bind_eq_ok.mp h
    obtain ⟨rfl, -⟩ := Prod.mk.inj (Except.ok.inj h)
    obtain ⟨himage, hid, hok⟩ := mapCommand_image hn (hsrcs src List.mem_cons_self) hfirst
    obtain ⟨himages, hids, hoks⟩ := ih (fun src hsrc => hsrcs src (List.mem_cons_of_mem _ hsrc)) hrest
    refine ⟨.cons himage himages, ?_, fun hstrict => List.forall_mem_cons.mpr ⟨hok hstrict, hoks hstrict⟩⟩
    rw [List.map_cons, hid, hids, List.length_cons, List.range'_succ]

theorem dictGetD_zero_of_isNone {key : String} (h : (dictGet src key).isNone = true) :
    (dictGetD src key (.int 0)).isNone = true ∨ (dictGetD src key (.int 0)).eqInt 0 = true := by
  unfold dictGet dictGetD at h
  unfold dictGetD
  cases hl : src.lookup key with
  | none => exact .inr (by simp [Json.eqInt, Json.number?])
  | some v => exact .inl (by simpa [hl] using h)

theorem recordFence_subset {fences known : List ℤ} (hsub : fences ⊆ known) :
    recordFence fences src ⊆ (dictGetD src "fence_id" (.int 0)).asInt?.toList ++ known := by
  unfold recordFence
  cases hfence : (dictGet src "fence_id").asInt? with
  | none => exact fun n hn => List.mem_append_right _ (hsub hn)
  | some n =>
    rw [dictGetD_of_not_none (Json.isNone_of_asInt hfence), hfence]
    dsimp only
    split
    · exact fun n hn => List.mem_append_right _ (hsub hn)
    · exact List.cons_subset_cons _ hsub

/-- The fences of the records are those of the commands. -/
theorem depsMet_of_checked {n : ℕ} {srcs : List Fields} {outs : List MappedCommand} {fences known : List ℤ}
    (himages : List.Forall₂ (Image n) srcs outs) (hdeps : DepsChecked fences srcs) (hsub : fences ⊆ known) :
    DepsMet known outs := by
  induction himages generalizing fences known with
  | nil => trivial
  | @cons src mapped srcs outs himage himages ih =>
    refine ⟨?_, ih hdeps.2 (himage.fence ▸ recordFence_subset hsub)⟩
    rw [himage.dependency]
    rcases checked_dependency hdeps.1 with hnone | hzero | ⟨m, hm, hdep⟩
    · exact (dictGetD_zero_of_isNone hnone).imp_right .inl
    · cases hnone : (dictGet src "dependency_fence_id").isNone with
      | true => exact (dictGetD_zero_of_isNone hnone).imp_right .inl
      | false => exact .inr (.inl (by rw [dictGetD_of_not_none hnone, hzero]))
    · exact .inr (.inr ⟨m, hsub hm, by rw [dictGetD_of_not_none (Json.isNone_of_asInt hdep), hdep]⟩)

end Mapped

/-! ### The route mapper -/

/-- The types that the mapper passes through and the route mapper does not know. -/
def unroutedTypes : List String := ["EXEC_SWIGLU", "EXEC_RESIDUAL"]

/-- The warnings of the route mapper, from index `idx` on. -/
def unroutedWarnings : ℕ → List MappedCommand → List FString
  | _, [] => []
  | idx, cmd :: cmds =>
    (if cmd.commandType ∈ unroutedTypes then
      [Routes.commandLabel idx ++ [.lit ": unknown command_type=", .repr (.str cmd.commandType),
        .lit " — no fabric route will be emitted"]]
    else []) ++ unroutedWarnings (idx + 1) cmds

/-- Every type of the rules is known to the route mapper but two. -/
theorem Rule.known {phase type status : String} {ct : Json} (h : Rule phase ct type status) :
    type ∈ Routes.allKnownCmdTypes ↔ type ∉ unroutedTypes := by
  have hexec : ∀ type ∈ execCmdTypes, type ∈ Routes.allKnownCmdTypes ↔ type ∉ unroutedTypes := by decide
  have hpasses : ∀ type ∈ passthroughCmdTypes, type ∈ Routes.allKnownCmdTypes ↔ type ∉ unroutedTypes := by decide
  cases h with
  | exec hphase htype => exact hexec _ htype
  | passes hphase hreset htype => exact hpasses _ htype
  | _ => decide

/-- A command that is no transfer has no transfer for a record. -/
theorem Rule.not_transfer {phase ct type status : String} (h : Rule phase (.str ct) type status)
    (hct : ct ≠ "FABRIC_SEND" ∧ ct ≠ "FABRIC_REDUCE") : type ≠ "FABRIC_SEND" ∧ type ≠ "FABRIC_REDUCE" := by
  cases h with
  | exec hphase htype => exact hct
  | passes hphase hreset htype => exact hct
  | _ => decide

section Accepted

variable {n : ℕ} {fmt : FString → String}

theorem checkCommand_mapped {src : Fields} {mapped : MappedCommand} {seenIds : List ℤ} {idx : ℕ}
    (himage : Image n src mapped) (hfresh : (mapped.commandId : ℤ) ∉ seenIds) :
    Routes.checkCommand n seenIds idx (.obj (mapped.fields fmt)) =
      .ok ((mapped.commandId : ℤ) :: seenIds, unroutedWarnings idx [mapped]) := by
  obtain ⟨t, ht, htile⟩ := himage.inRange
  obtain ⟨phase, -, hrule⟩ := himage.rule
  have hmissing : Routes.missingKey (mapped.fields fmt) ["command_id", "command_type", "tile_id", "fence_id"] = none :=
    rfl
  have hid : (dictGet (mapped.fields fmt) "command_id").asInt? = some (mapped.commandId : ℤ) := rfl
  have htype : dictGet (mapped.fields fmt) "command_type" = .str mapped.commandType := rfl
  have htid : dictGet (mapped.fields fmt) "tile_id" = mapped.tileId := rfl
  have hrange : (0 : ℤ) ≤ t ∧ (t : ℤ) < n := by omega
  unfold Routes.checkCommand
  simp only [hmissing, hid, htype, htid, if_neg hfresh, inSet_str, hrule.known, bind_of_ok, htile, if_pos hrange,
    unroutedWarnings, List.append_nil, List.nil_append]
  by_cases hunrouted : mapped.commandType ∈ unroutedTypes <;> simp [hunrouted]

theorem checkCommands_mapped {srcs : List Fields} {outs : List MappedCommand} {seenIds : List ℤ} {idx start : ℕ}
    (himages : List.Forall₂ (Image n) srcs outs) (hids : outs.map (·.commandId) = List.range' start outs.length)
    (hseen : ∀ id ∈ seenIds, id < start) :
    Routes.checkCommands n seenIds idx (outs.map fun cmd => .obj (cmd.fields fmt)) =
      .ok (unroutedWarnings idx outs) := by
  induction himages generalizing seenIds idx start with
  | nil => rfl
  | @cons src mapped srcs outs himage himages ih =>
    rw [List.map_cons, List.length_cons, List.range'_succ, List.cons.injEq] at hids
    obtain ⟨hid, hids⟩ := hids
    have hfresh : (mapped.commandId : ℤ) ∉ seenIds := fun hmem => by
      have := hseen _ hmem
      omega
    have hrest := @ih ((mapped.commandId : ℤ) :: seenIds) (idx + 1) (start + 1) hids (by
      intro id hmem
      rcases List.mem_cons.mp hmem with rfl | hmem
      · omega
      · have := hseen id hmem
        omega)
    rw [List.map_cons, Routes.checkCommands, checkCommand_mapped himage hfresh, bind_of_ok]
    dsimp only
    rw [hrest, bind_of_ok]
    simp only [unroutedWarnings, List.append_nil]

/-- `header` of a command plan. -/
def CommandPlan.header (p : CommandPlan) : Fields :=
  [("command_plan_version", .int 1), ("source_execution_plan", .null), ("model_name", p.modelId),
    ("model_id", p.modelId), ("session_id", p.sessionId), ("tile_count", p.tileCount), ("tensor_count", .int 0),
    ("command_count", .int p.commands.length), ("status", .str "ok")]

theorem checkHeader_mapped {out : CommandPlan} {strict : Bool} (hn : out.tileCount.asInt? = some (n : ℤ))
    (hpos : 0 < n) : Routes.checkHeader (out.fields fmt) strict = .ok (n : ℤ) := by
  have hnot : ¬ (n : ℤ) ≤ 0 := by omega
  have hmissing : Routes.missingKey (out.fields fmt) ["command_plan_version", "header", "commands"] = none := rfl
  have hver : (dictGet (out.fields fmt) "command_plan_version").eqInt 1 = true :=
    show (Json.int 1).eqInt 1 = true by simp [Json.eqInt, Json.number?]
  have hheader : (Json.obj (out.fields fmt)).item "header" = .ok (.obj out.header) := rfl
  have htiles : (Json.obj out.header).contains "tile_count" = .ok true := rfl
  have hcount : (Json.obj out.header).contains "command_count" = .ok true := rfl
  have htileCount : dictGet out.header "tile_count" = out.tileCount := rfl
  have hcommands : (dictGet (out.fields fmt) "commands").asList? =
      some (out.commands.map fun cmd => .obj (cmd.fields fmt)) := rfl
  have hstatus : (dictGetD out.header "status" (.str "ok")).eqStr "ok" = true := rfl
  unfold Routes.checkHeader
  simp only [hmissing, hver, hheader, htiles, hcount, Json.asObj, htileCount, hn, if_neg hnot, hcommands, hstatus,
    bind_of_ok, Bool.not_true, Bool.and_false, Bool.false_eq_true, if_false]

theorem validatePlan_mapped {out : CommandPlan} {srcs : List Fields} {strict : Bool}
    (hn : out.tileCount.asInt? = some (n : ℤ)) (hpos : 0 < n) (himages : List.Forall₂ (Image n) srcs out.commands)
    (hids : out.commands.map (·.commandId) = List.range' 1 out.commands.length) :
    Routes.validatePlan (out.fields fmt) strict = .ok (unroutedWarnings 0 out.commands) := by
  have hcommands : dictGet (out.fields fmt) "commands" = .arr (out.commands.map fun cmd => .obj (cmd.fields fmt)) := rfl
  unfold Routes.validatePlan
  rw [checkHeader_mapped hn hpos, bind_of_ok, hcommands]
  exact checkCommands_mapped himages hids (by simp)

end Accepted

/-- What is known of an accepted header. -/
theorem validateHeader_eq_ok {plan : Fields} {header : PlanHeader} (h : validateHeader plan = .ok header) :
    (∃ n : ℕ, 0 < n ∧ header.tileCount.asInt? = some (n : ℤ)) ∧ dictGet plan "commands" = .arr header.commands := by
  unfold validateHeader at h
  dsimp only at h
  split at h
  · cases h
  · obtain ⟨key, -, h⟩ := bind_eq_ok.mp h
    split_ifs at h
    · cases h
    · cases h
    · cases h
    · unfold headerBody at h
      dsimp only at h
      cases hcount : (dictGet plan "tile_count").asInt? with
      | none => simp [hcount, mappingError] at h
      | some n =>
        simp only [hcount] at h
        split_ifs at h with hle
        · cases h
        · cases hcommands : dictGet plan "commands" with
          | arr commands =>
            rw [hcommands] at h
            obtain rfl := Except.ok.inj h
            exact ⟨⟨n.toNat, by omega, by rw [Int.toNat_of_nonneg (by omega)]; exact hcount⟩, rfl⟩
          | _ => simp [hcommands, Json.asList?, mappingError] at h

/-- What the mapper returns for a plan. -/
structure MapView (plan : Fields) (strict : Bool) (out : CommandPlan) where
  tiles : ℕ
  srcs : List Fields
  tiles_pos : 0 < tiles
  tileCount : out.tileCount.asInt? = some (tiles : ℤ)
  commands : dictGet plan "commands" = .arr (srcs.map .obj)
  images : List.Forall₂ (Image tiles) srcs out.commands
  ids : out.commands.map (·.commandId) = List.range' 1 out.commands.length
  deps : DepsMet [] out.commands
  supported : strict = true → ∀ cmd ∈ out.commands, cmd.expectedStatus = statusOk

theorem mapPlan_view {plan : Fields} {overrideModelId overrideSessionId : Json} {strict : Bool} {out : CommandPlan}
    (h : mapPlan plan overrideModelId overrideSessionId strict = .ok out) : Nonempty (MapView plan strict out) := by
  unfold mapPlan at h
  obtain ⟨header, hheader, h⟩ := bind_eq_ok.mp h
  obtain ⟨issues, hissues, h⟩ := bind_eq_ok.mp h
  obtain ⟨⟨n, hpos, hn⟩, hcommands⟩ := validateHeader_eq_ok hheader
  dsimp only at h
  split at h
  · cases h
  · next hnone =>
    obtain ⟨⟨commands, warnings⟩, hmapped, h⟩ := bind_eq_ok.mp h
    obtain rfl := Except.ok.inj h
    have htiles : 0 < header.tileCount.asInt?.getD 0 := by
      rw [hn, Option.getD_some]
      omega
    obtain ⟨srcs, hsrcs, hchecked, hdeps⟩ := checked_of_checkCommands htiles hissues (by simpa using hnone)
    rw [hsrcs] at hmapped
    obtain ⟨himages, hids, hoks⟩ := mapCommands_image hn hchecked hmapped
    exact ⟨{
      tiles := n
      srcs := srcs
      tiles_pos := hpos
      tileCount := hn
      commands := hsrcs ▸ hcommands
      images := himages
      ids := hids
      deps := depsMet_of_checked himages hdeps (List.Subset.refl _)
      supported := hoks }⟩

/-- **What the mapper accepts, it maps one by one**, and the route mapper accepts the result. -/
theorem mapped_accepted {plan : Fields} {overrideModelId overrideSessionId : Json} {strict : Bool} {out : CommandPlan}
    (h : mapPlan plan overrideModelId overrideSessionId strict = .ok out) (fmt : FString → String) (strict' : Bool) :
    ∃ (n : ℕ) (srcs : List Fields), out.tileCount.asInt? = some (n : ℤ) ∧
      dictGet plan "commands" = .arr (srcs.map .obj) ∧ List.Forall₂ (Image n) srcs out.commands ∧
      out.commands.map (·.commandId) = List.range' 1 out.commands.length ∧ DepsMet [] out.commands ∧
      (strict = true → ∀ cmd ∈ out.commands, cmd.expectedStatus = statusOk) ∧
      Routes.validatePlan (out.fields fmt) strict' = .ok (unroutedWarnings 0 out.commands) := by
  obtain ⟨view⟩ := mapPlan_view h
  exact ⟨view.tiles, view.srcs, view.tileCount, view.commands, view.images, view.ids, view.deps, view.supported,
    validatePlan_mapped view.tileCount view.tiles_pos view.images view.ids⟩

/-- A plan of two commands, the second behind the first, on the second of two tiles. -/
def chainedPlan : Fields :=
  [("execution_plan_version", .int 1), ("model_id", .str "m"), ("session_id", .str "s"), ("tile_count", .int 2),
    ("commands", .arr
      [.obj [("plan_command_id", .int 7), ("tile_id", .int 0), ("execution_phase", .str "PREFILL_SETUP"),
          ("command_type", .str "TILE_BARRIER"), ("fence_id", .int 3)],
        .obj [("plan_command_id", .int 5), ("tile_id", .int 1), ("execution_phase", .str "DECODE_STEP_PLAN"),
          ("command_type", .str "EXEC_SWIGLU"), ("fence_id", .int 4), ("dependency_fence_id", .int 3)]])]

theorem mapped_accepted_chainedPlan : ∃ out, mapPlan chainedPlan .null .null false = .ok out ∧
    DepsMet [] out.commands ∧
    Routes.validatePlan (out.fields fun _ => "") true = .ok (unroutedWarnings 0 out.commands) := by
  have hok : (mapPlan chainedPlan .null .null false).toOption.isSome = true := by decide +kernel
  obtain ⟨out, hout⟩ := Option.isSome_iff_exists.mp hok
  obtain ⟨n, srcs, -, -, -, -, hdeps, -, haccepted⟩ :=
    mapped_accepted (toOption_eq_some.mp hout) (fun _ => "") true
  exact ⟨out, toOption_eq_some.mp hout, hdeps, haccepted⟩

end Att1.ExecMap
