import Att1.Planner.Mapped
import Att1.Planner.Passes
import Att1.Routes.Agree

/-!
# Att1.Planner.Routed — from a placement report to fabric routes

* `mapPlan_planned`: the mapper takes every plan of the planner for a sensible report.
* `planned_routes`: the route mapper takes the result, its report validates, and the routes are replayed.
-/

open Att1.Lib

namespace Att1.Planner

/-! ### The checks of the mapper -/

section Checks

variable {tiles nLayers idx : ℕ} {tileCount : Json} {cmd : PlanCommand} {cmds : List PlanCommand} {seen : ExecMap.Seen}

theorem checkTile_planned (htiles : tileCount.asInt? = some (tiles : ℤ)) (h : PlaceOK tiles nLayers cmd.place) :
    ExecMap.checkTile tileCount cmd.fields = [] := by
  obtain ⟨n, hn, htile⟩ := h.tile
  have hid : (dictGet cmd.fields "tile_id").asInt? = some (n : ℤ) := by
    rw [dictGet_tileId, show cmd.tileId = .int n from htile]
    rfl
  have hneg : ¬ (n : ℤ) < 0 := by omega
  have hlarge : ¬ ((0 : ℤ) < tiles ∧ (tiles : ℤ) ≤ n) := by omega
  unfold ExecMap.checkTile
  simp only [hid, htiles, Option.getD_some, if_neg hneg, if_neg hlarge]

theorem checkPhase_planned (h : SpecOK cmd.place.spec) : ExecMap.checkPhase cmd.fields = .ok [] := by
  have hphase : cmd.executionPhase ∈ ExecMap.validExecutionPhases := h.phase
  unfold ExecMap.checkPhase
  simp only [dictGet_executionPhase, inSet_str, decide_eq_true hphase]
  rfl

theorem checkType_planned (h : SpecOK cmd.place.spec) : ExecMap.checkType cmd.fields = [] := by
  have hdeps : cmd.commandType ∈ tensorDepRequired → cmd.tensorDependencies ≠ [] := h.depRequired
  unfold ExecMap.checkType
  rw [dictGet_commandType, dictGetD_tensorDependencies]
  dsimp only
  rw [if_neg (by simp [Json.isNone]), if_neg]
  rintro hempty
  rw [Bool.and_eq_true, List.isEmpty_iff] at hempty
  refine hdeps ?_ hempty.2
  simpa [Json.inTuple, Json.eqStr, tensorDepRequired] using hempty.1

theorem checkSend_planned (h : SpecOK cmd.place.spec) : ExecMap.checkSend false cmd.fields = {} := by
  have htype : cmd.commandType ≠ "FABRIC_SEND" := h.noFabric.1
  unfold ExecMap.checkSend
  rw [dictGetD_of_dictGet (dictGet_commandType cmd) rfl, if_neg]
  simp [Json.eqStr, htype]

theorem checkDependency_planned {fences : List ℤ}
    (h : cmd.dependencyFenceId = 0 ∨ (cmd.dependencyFenceId : ℤ) ∈ fences) :
    ExecMap.checkDependency fences cmd.fields = [] := by
  unfold ExecMap.checkDependency
  rw [dictGet_dependencyFenceId]
  dsimp only
  rcases h with hzero | hmem
  · rw [if_pos (by simp [hzero, Json.eqInt, Json.number?])]
  · split
    · rfl
    · simp only [Json.asInt?, if_pos hmem]

theorem checkId_planned (hfresh : (cmd.planCommandId : ℤ) ∉ seen.ids) :
    ExecMap.checkId seen.ids cmd.fields = ((cmd.planCommandId : ℤ) :: seen.ids, []) := by
  unfold ExecMap.checkId
  simp only [dictGet_planCommandId, Json.asInt?, if_neg hfresh]

theorem checkCommand_planned (htiles : tileCount.asInt? = some (tiles : ℤ)) (h : PlaceOK tiles nLayers cmd.place)
    (hfresh : (cmd.planCommandId : ℤ) ∉ seen.ids)
    (hdep : cmd.dependencyFenceId = 0 ∨ (cmd.dependencyFenceId : ℤ) ∈ seen.fences) :
    ExecMap.checkCommand false tileCount seen idx (.obj cmd.fields) =
      .ok (⟨(cmd.planCommandId : ℤ) :: seen.ids, ExecMap.recordFence seen.fences cmd.fields⟩, {}) := by
  unfold ExecMap.checkCommand
  simp only
  rw [checkId_planned hfresh, checkPhase_planned h.spec, checkSend_planned h.spec, checkTile_planned htiles h,
    checkType_planned h.spec, checkDependency_planned hdep]
  rfl

theorem mem_recordFence {fences : List ℤ} {n : ℤ} (h : n ∈ fences) : n ∈ ExecMap.recordFence fences cmd.fields := by
  unfold ExecMap.recordFence
  rw [dictGet_fenceId]
  simp only [Json.asInt?]
  split
  · exact h
  · exact List.mem_cons_of_mem _ h

theorem fence_mem_recordFence (fences : List ℤ) (h : cmd.fenceId ≠ 0) :
    (cmd.fenceId : ℤ) ∈ ExecMap.recordFence fences cmd.fields := by
  have hne : (cmd.fenceId : ℤ) ≠ 0 := by omega
  unfold ExecMap.recordFence
  rw [dictGet_fenceId]
  simp only [Json.asInt?, if_neg hne, List.mem_cons_self]

/-- The mapper has no issues with the commands of the planner. -/
theorem checkCommands_planned (htiles : tileCount.asInt? = some (tiles : ℤ)) {start : ℕ} {known : List ℕ}
    (h : ∀ cmd ∈ cmds, PlaceOK tiles nLayers cmd.place)
    (hids : cmds.map PlanCommand.planCommandId = List.range' start cmds.length) (hseen : ∀ id ∈ seen.ids, id < start)
    (hdeps : DepsMet known cmds) (hknown : ∀ f ∈ known, f ≠ 0 → (f : ℤ) ∈ seen.fences) :
    ExecMap.checkCommands false tileCount seen idx (cmds.map fun cmd => .obj cmd.fields) = .ok {} := by
  induction cmds generalizing seen idx start known with
  | nil => rfl
  | cons cmd cmds ih =>
    rw [List.map_cons, List.length_cons, List.range'_succ, List.cons.injEq] at hids
    obtain ⟨hid, hids⟩ := hids
    have hfresh : (cmd.planCommandId : ℤ) ∉ seen.ids := by
      intro hmem
      have hlt := hseen _ hmem
      omega
    have hdep : cmd.dependencyFenceId = 0 ∨ (cmd.dependencyFenceId : ℤ) ∈ seen.fences := by
      by_cases hzero : cmd.dependencyFenceId = 0
      · exact .inl hzero
      · exact .inr (hknown _ (hdeps.1.resolve_left hzero) hzero)
    have hrest := @ih (idx + 1) ⟨(cmd.planCommandId : ℤ) :: seen.ids, ExecMap.recordFence seen.fences cmd.fields⟩
      (start + 1) (cmd.fenceId :: known) (fun cmd hcmd => h cmd (List.mem_cons_of_mem _ hcmd)) hids
      (by
        intro id hmem
        rcases List.mem_cons.mp hmem with rfl | hmem
        · omega
        · have hlt := hseen id hmem
          omega)
      hdeps.2
      (by
        intro f hf hne
        rcases List.mem_cons.mp hf with rfl | hf
        · exact fence_mem_recordFence _ hne
        · exact mem_recordFence (hknown f hf hne))
    rw [List.map_cons, ExecMap.checkCommands,
      checkCommand_planned htiles (h cmd List.mem_cons_self) hfresh hdep]
    simp only [bind_of_ok, hrest, List.append_nil]

end Checks

/-! ### The records of the mapper -/

section Records

variable {cmd : PlanCommand} {cmds : List PlanCommand} {cmdId : ℕ} {modelId sessionId : Json}

theorem orElse_arr (items : List Json) : (Json.arr items).orElse (.arr []) = .arr items := by
  unfold Json.orElse
  cases items <;> rfl

theorem addBuffer_nonneg {totals : ExecMap.BufferTotals} (htotals : 0 ≤ totals.byteCount) {b : Json} (h : BufferOK b) :
    0 ≤ (ExecMap.addBuffer totals b).byteCount := by
  obtain ⟨region, -, size, hsize, dtype, -, rfl⟩ := h
  have hbyteSize : dictGet [("region_type", .str region), ("byte_size", .int size), ("dtype", .str dtype)] "byte_size" =
      .int size := by simp [dictGet, dictGetD, List.lookup]
  unfold buf ExecMap.addBuffer
  simp only [hbyteSize, Json.asInt?]
  split
  · dsimp only
    omega
  · omega

theorem foldl_addBuffer_nonneg {bufs : List Json} (h : ∀ b ∈ bufs, BufferOK b) {totals : ExecMap.BufferTotals}
    (htotals : 0 ≤ totals.byteCount) : 0 ≤ (bufs.foldl ExecMap.addBuffer totals).byteCount := by
  induction bufs generalizing totals with
  | nil => exact htotals
  | cons b bufs ih =>
    exact ih (fun b hb => h b (List.mem_cons_of_mem _ hb)) (addBuffer_nonneg htotals (h b List.mem_cons_self))

theorem exists_tensorOf (h : SpecOK cmd.place.spec) :
    ∃ name totals, ExecMap.tensorOf cmd.fields = .ok (name, totals) ∧ 0 ≤ totals.byteCount := by
  have hbuffers : ∀ b ∈ cmd.inputBuffers ++ cmd.outputBuffers, BufferOK b := by
    intro b hb
    rcases List.mem_append.mp hb with hb | hb
    · exact h.inputs b hb
    · exact h.outputs b hb
  have htotals : 0 ≤ ((cmd.inputBuffers ++ cmd.outputBuffers).foldl ExecMap.addBuffer {}).byteCount :=
    foldl_addBuffer_nonneg hbuffers le_rfl
  unfold ExecMap.tensorOf
  simp only [dictGet, dictGetD_tensorDependencies, dictGetD_inputBuffers, dictGetD_outputBuffers, orElse_arr]
  cases cmd.tensorDependencies with
  | nil => exact ⟨.null, _, rfl, htotals⟩
  | cons name names => exact ⟨name, _, rfl, htotals⟩

/-- What the route mapper relies on in a record, apart from its type. -/
structure RecordOK (mapped : ExecMap.MappedCommand) : Prop where
  bytes : 0 ≤ mapped.byteCount
  tensorId : mapped.tensorId = .null

/-- The types of the commands of the planner. -/
theorem type_known (h : SpecOK cmd.place.spec) :
    cmd.commandType ∈ ExecMap.execCmdTypes ∨ cmd.commandType ∈ ExecMap.passthroughCmdTypes := by
  have hall : ∀ type ∈ validCommandTypes, type ∈ ExecMap.execCmdTypes ∨ type ∈ ExecMap.passthroughCmdTypes := by decide
  exact hall _ h.type

theorem exists_mapCommand (h : SpecOK cmd.place.spec) :
    ∃ mapped ws, ExecMap.mapCommand cmd.fields cmdId modelId sessionId false = .ok (mapped, ws) ∧ RecordOK mapped := by
  obtain ⟨name, totals, htensor, hbytes⟩ := exists_tensorOf h
  have hid : dictGet cmd.fields "tensor_id" = .null := by simp [dictGet, dictGetD, PlanCommand.fields, List.lookup]
  unfold ExecMap.mapCommand
  dsimp only
  rw [htensor, dictGetD_of_dictGet (dictGet_executionPhase cmd) rfl,
    dictGetD_of_dictGet (dictGet_commandType cmd) rfl]
  simp only [bind_of_ok, ExecMap.textIn_str, hid]
  by_cases hadvisory : cmd.executionPhase ∈ ExecMap.advisoryPhases
  · simp only [if_pos hadvisory]
    exact ⟨_, _, rfl, le_rfl, rfl⟩
  · simp only [if_neg hadvisory]
    by_cases hexec : cmd.commandType ∈ ExecMap.execCmdTypes
    · simp only [if_pos hexec]
      exact ⟨_, _, rfl, hbytes, rfl⟩
    · simp only [if_neg hexec, if_pos ((type_known h).resolve_left hexec)]
      split
      · exact ⟨_, _, rfl, le_rfl, rfl⟩
      · split
        · exact ⟨_, _, rfl, le_rfl, rfl⟩
        · exact ⟨_, _, rfl, hbytes, rfl⟩

theorem exists_mapCommands (h : ∀ cmd ∈ cmds, SpecOK cmd.place.spec) :
    ∃ outs ws,
      ExecMap.mapCommands modelId sessionId false cmdId (cmds.map fun cmd => .obj cmd.fields) = .ok (outs, ws) ∧
        ∀ mapped ∈ outs, RecordOK mapped := by
  induction cmds generalizing cmdId with
  | nil => exact ⟨[], [], rfl, by simp⟩
  | cons cmd cmds ih =>
    obtain ⟨mapped, first, hfirst, hok⟩ := @exists_mapCommand cmd cmdId modelId sessionId (h cmd List.mem_cons_self)
    obtain ⟨outs, rest, hrest, hoks⟩ := @ih (cmdId + 1) fun cmd hcmd => h cmd (List.mem_cons_of_mem _ hcmd)
    refine ⟨mapped :: outs, first ++ rest, ?_, List.forall_mem_cons.mpr ⟨hok, hoks⟩⟩
    rw [List.map_cons, ExecMap.mapCommands, hfirst, bind_of_ok]
    dsimp only
    rw [hrest, bind_of_ok]

end Records

/-! ### The plans of the planner -/

section Plans

variable {report : Fields} {tokenPhase : String} {strict : Bool} {p : ExecutionPlan} {fmt : FString → String} {n : ℕ}

theorem validateHeader_planned (hmodel : p.modelId ≠ "") (hsession : p.sessionId ≠ "") (htiles : p.tileCount = .int n)
    (hn : 0 < n) : ExecMap.validateHeader (p.fields fmt) =
      .ok ⟨p.tileCount, .str p.modelId, .str p.sessionId, p.commands.map fun cmd => .obj cmd.fields⟩ := by
  have hpos : ¬ (n : ℤ) ≤ 0 := by omega
  have hversion : dictGet (p.fields fmt) "execution_plan_version" = .int 1 := rfl
  have hmodelId : dictGet (p.fields fmt) "model_id" = .str p.modelId := rfl
  have hsessionId : dictGet (p.fields fmt) "session_id" = .str p.sessionId := rfl
  have hcount : dictGet (p.fields fmt) "tile_count" = p.tileCount := rfl
  have htileCount : p.tileCount.asInt? = some (n : ℤ) := htiles ▸ rfl
  have hcommands : (dictGet (p.fields fmt) "commands").asList? = some (p.commands.map fun cmd => .obj cmd.fields) := by
    rw [dictGet_commands]
    rfl
  unfold ExecMap.validateHeader ExecMap.headerBody
  simp only [hversion, hmodelId, hsessionId, hcount, htileCount, if_neg hpos, hcommands, Json.isNone, Json.key,
    Json.truthy, bind_of_ok]
  simp [hmodel, hsession]

theorem ReportOK.commandsOK (ok : ReportOK report) (view : PlanView report tokenPhase strict p)
    (hstatus : p.status ≠ "fail") (htiles : view.input.tiles = n) :
    ∀ cmd ∈ p.commands, PlaceOK n view.input.nLayers cmd.place := by
  intro cmd hcmd
  have hplace := ok.placesOK view hstatus _ (view.placed ▸ List.mem_map_of_mem hcmd)
  rwa [htiles, Int.toNat_natCast] at hplace

/-- **The mapper takes every plan** of the planner for a sensible report. -/
theorem mapPlan_planned (ok : ReportOK report) (view : PlanView report tokenPhase strict p) (hmodel : p.modelId ≠ "")
    (hsession : p.sessionId ≠ "") (hstatus : p.status ≠ "fail") (overrideModelId overrideSessionId : Json) :
    ∃ out, ExecMap.mapPlan (p.fields fmt) overrideModelId overrideSessionId false = .ok out ∧
      out.tileCount = p.tileCount ∧ ∀ mapped ∈ out.commands, RecordOK mapped := by
  obtain ⟨n, hn, hcount, htiles⟩ := ok.tiles_view view
  have hplaces := ok.commandsOK view hstatus htiles
  have htileCount : p.tileCount = .int n := view.tiles.trans hcount
  obtain ⟨outs, ws, hmapped, hok⟩ := @exists_mapCommands p.commands 1 (overrideModelId.orElse (.str p.modelId))
    (overrideSessionId.orElse (.str p.sessionId)) fun cmd hcmd => (hplaces cmd hcmd).spec
  have hchecked := @checkCommands_planned n view.input.nLayers 0 p.tileCount p.commands {} (htileCount ▸ rfl) 1 []
    hplaces view.ids (by simp) view.deps (by simp)
  refine ⟨⟨dictGet (p.fields fmt) "placement_report_path", overrideModelId.orElse (.str p.modelId),
    overrideSessionId.orElse (.str p.sessionId), p.tileCount, outs, ws⟩, ?_, rfl, hok⟩
  unfold ExecMap.mapPlan
  rw [validateHeader_planned hmodel hsession htileCount hn]
  simp only [bind_of_ok, hchecked, hmapped]
  rfl

/-- The records of a plan of the planner can be routed: they have sizes, and none of them is a transfer. -/
theorem records_routable {nLayers : ℕ} (hplaces : ∀ cmd ∈ p.commands, PlaceOK n nLayers cmd.place)
    {out : ExecMap.CommandPlan} (hok : ∀ mapped ∈ out.commands, RecordOK mapped)
    (himages : List.Forall₂ (ExecMap.Image n) (p.commands.map PlanCommand.fields) out.commands) {cmd : Fields}
    (hcmd : .obj cmd ∈ Routes.planCommands (out.fields fmt)) : Routes.Sizable cmd ∧ ¬ Routes.IsTransfer cmd := by
  have hcommands : Routes.planCommands (out.fields fmt) = out.commands.map fun mapped => .obj (mapped.fields fmt) := rfl
  rw [hcommands] at hcmd
  obtain ⟨mapped, hmem, hobj⟩ := List.mem_map.mp hcmd
  obtain rfl := Json.obj.inj hobj
  obtain ⟨src, hsrc, himage⟩ := exists_of_mem_right himages hmem
  obtain ⟨planned, hplanned, rfl⟩ := List.mem_map.mp hsrc
  obtain ⟨phase, -, hrule⟩ := himage.rule
  rw [dictGet_commandType] at hrule
  obtain ⟨hsend, hreduce⟩ := hrule.not_transfer (hplaces planned hplanned).spec.noFabric
  have htype : dictGet (mapped.fields fmt) "command_type" = .str mapped.commandType := rfl
  have htensor : dictGet (mapped.fields fmt) "tensor_id" = mapped.tensorId := rfl
  refine ⟨⟨.inr ⟨mapped.byteCount.toNat, ?_⟩, ?_, .inr ⟨_, rfl⟩⟩, ?_⟩
  · rw [Int.toNat_of_nonneg (hok mapped hmem).bytes]
    rfl
  · rw [htensor, (hok mapped hmem).tensorId]
    rfl
  · unfold Routes.IsTransfer
    rw [htype]
    rintro (h | h)
    · exact hsend (Json.str.inj h)
    · exact hreduce (Json.str.inj h)

/-- **From a placement report to fabric routes.**  The plan of a sensible report is mapped command by command; the route
mapper accepts the records, its report validates, and its routes are replayed. -/
theorem planned_routes (ok : ReportOK report) {commandPlan routeReport : Json} {modelId sessionId : String}
    (hmodel : modelId ≠ "") (hsession : sessionId ≠ "")
    (h : plan report commandPlan routeReport modelId sessionId tokenPhase strict = .ok p) (hstatus : p.status ≠ "fail")
    (fmt : FString → String) (args : Routes.ReportArgs) (tensorBytes : Routes.TensorBytes) :
    ∃ (n : ℕ) (out : ExecMap.CommandPlan), p.tileCount = .int n ∧
      ExecMap.mapPlan (p.fields fmt) .null .null false = .ok out ∧
      List.Forall₂ (ExecMap.Image n) (p.commands.map PlanCommand.fields) out.commands ∧
      Routes.validatePlan (out.fields fmt) args.strict = .ok (ExecMap.unroutedWarnings 0 out.commands) ∧
      ∃ b routed, Routes.mapPlanToRoutes (out.fields fmt) tensorBytes = .ok b ∧
        Routes.assembleReport (out.fields fmt) b args (ExecMap.unroutedWarnings 0 out.commands) = .ok routed ∧
        Routes.FaithfulReport (out.fields fmt) b.routes routed ∧
        ∀ parse strict', ∃ result, Routes.replayRoutes parse routed n strict' = .ok result ∧
          result.tileCounters = (List.range n).map (Routes.replayedTo b.routes) := by
  obtain ⟨⟨view⟩, rfl, rfl, -⟩ := plan_view h
  obtain ⟨n, hn, hcount, htiles⟩ := ok.tiles_view view
  have hplaces := ok.commandsOK view hstatus htiles
  have htileCount : p.tileCount = .int n := view.tiles.trans hcount
  obtain ⟨out, hout, hsameCount, hok⟩ :=
    @mapPlan_planned report tokenPhase strict p fmt ok view hmodel hsession hstatus .null .null
  obtain ⟨mapped⟩ := ExecMap.mapPlan_view hout
  -- the tile count and the commands are those of the plan
  have hsame : mapped.tiles = n := by
    have htiles' := mapped.tileCount
    rw [hsameCount, htileCount] at htiles'
    exact_mod_cast (Option.some.inj htiles').symm
  have hsrcs : mapped.srcs = p.commands.map PlanCommand.fields := by
    have hobjects : p.commands.map (fun cmd => Json.obj cmd.fields) = (p.commands.map PlanCommand.fields).map .obj :=
      List.map_map.symm
    have hcommands := mapped.commands
    rw [dictGet_commands, hobjects] at hcommands
    exact (List.map_injective_iff.mpr (fun _ _ => Json.obj.inj) (Json.arr.inj hcommands)).symm
  have himages := mapped.images
  rw [hsrcs, hsame] at himages
  have hvalid : Routes.validatePlan (out.fields fmt) args.strict = .ok (ExecMap.unroutedWarnings 0 out.commands) :=
    ExecMap.validatePlan_mapped mapped.tileCount mapped.tiles_pos mapped.images mapped.ids
  obtain ⟨accepted⟩ := Routes.acceptedPlan_of_validatePlan hvalid
  have hroutable : ∀ cmd, .obj cmd ∈ accepted.commands → Routes.Sizable cmd ∧ ¬ Routes.IsTransfer cmd := by
    rw [← accepted.planCommands_eq]
    exact fun cmd hcmd => records_routable hplaces hok himages hcmd
  obtain ⟨b, hb⟩ := (@Routes.mapPlan_ok_iff tensorBytes _ accepted fun cmd hcmd =>
    (hroutable cmd hcmd).1).mpr fun cmd hcmd htransfer => absurd htransfer (hroutable cmd hcmd).2
  obtain ⟨hledger, hemitted⟩ := Routes.mapPlan_emitted accepted hb
  have hsized := hemitted.sized fun cmd hcmd => (hroutable cmd hcmd).1
  obtain ⟨routed, hassemble, hreport⟩ :=
    Routes.assembleReport_ok accepted hledger hsized args (ExecMap.unroutedWarnings 0 out.commands)
  have hrouted : accepted.tileCount = n := by
    have hfield := accepted.tileCount_eq
    rw [← accepted.planTileCount_eq, show Routes.planTileCount (out.fields fmt) = out.tileCount from rfl, hsameCount,
      htileCount] at hfield
    exact_mod_cast (Option.some.inj hfield).symm
  refine ⟨n, out, htileCount, hout, himages, hvalid, b, routed, hb, hassemble,
    Routes.faithfulReport_of_emitted accepted hledger hemitted hsized hreport, fun parse strict' => ?_⟩
  rw [hrouted] at hledger
  exact Routes.replayRoutes_report hledger hsized hreport.routes

theorem planned_routes_sample : ∃ p out b, plan sampleReport .null .null "m" "s" "prefill" false = .ok p ∧
    ExecMap.mapPlan (p.fields fun _ => "") .null .null false = .ok out ∧
    Routes.mapPlanToRoutes (out.fields fun _ => "") (fun _ => none) = .ok b := by
  obtain ⟨p, hp, hstatus⟩ := plan_sampleReport_status
  obtain ⟨-, out, -, hout, -, -, b, -, hb, -⟩ := planned_routes sampleReportOK (by decide) (by decide) hp hstatus
    (fun _ => "") Routes.sampleArgs fun _ => none
  exact ⟨p, out, b, hp, hout, hb⟩

end Plans

end Att1.Planner
