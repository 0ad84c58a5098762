import Att1.Routes.Ledger

/-!
# Att1.Routes.Build — the routes of an accepted plan

* `AcceptedPlan`: what `_validate_plan` has checked of a plan.
* `mapCommand_mapped`: what one command does; `mapPlan_emitted`: so the routes of an accepted plan keep the ledger and
  stand in the order of its commands.
-/

open Att1.Lib

namespace Att1.Routes

/-! ### Accepted plans -/

/-- What `_validate_plan` checks of a command. -/
structure AcceptedCommand (n : ℕ) (cmd : Fields) : Prop where
  present : ∀ key ∈ ["command_id", "command_type", "tile_id", "fence_id"], cmd.lookup key = some (dictGet cmd key)
  ctype : (dictGet cmd "command_type").isContainer = false
  source : ∃ s < n, (dictGet cmd "tile_id").asInt? = some (s : ℤ)

/-- What `_validate_plan` checks of a plan. -/
structure AcceptedPlan (plan : Fields) where
  header : Fields
  tileCountField : Json
  tileCount : ℕ
  commands : List Json
  header_eq : plan.lookup "header" = some (.obj header)
  tileCountField_eq : header.lookup "tile_count" = some tileCountField
  tileCount_eq : tileCountField.asInt? = some (tileCount : ℤ)
  tileCount_pos : 0 < tileCount
  commands_eq : plan.lookup "commands" = some (.arr commands)
  accepted : ∀ command ∈ commands, ∃ cmd, command = .obj cmd ∧ AcceptedCommand tileCount cmd

theorem lookup_of_dictGet {fields : Fields} {key : String} (h : (dictGet fields key).isNone = false) :
    fields.lookup key = some (dictGet fields key) := by
  unfold dictGet dictGetD at h ⊢
  cases hl : fields.lookup key with
  | none =>
    rw [hl] at h
    cases h
  | some v => rfl

theorem lookup_of_missingKey {fields : Fields} {keys : List String} (h : missingKey fields keys = none) {key : String}
    (hkey : key ∈ keys) : fields.lookup key = some (dictGet fields key) := by
  have hsome := List.find?_eq_none.mp h key hkey
  unfold dictGet dictGetD
  cases hl : fields.lookup key with
  | none => simp [hl] at hsome
  | some v => rfl

theorem unknown_ok {value : Json} {texts : List String} {known : Bool} (h : value.inSet texts = .ok known) :
    value.isContainer = false := by
  obtain ⟨key, hkey, -⟩ := bind_eq_ok.mp h
  exact value.exists_key.mp ⟨key, hkey⟩

theorem accepted_of_checkCommand {n : ℕ} {seen seen' : List ℤ} {idx : ℕ} {command : Json} {ws : List FString}
    (h : checkCommand n seen idx command = .ok (seen', ws)) :
    ∃ cmd, command = .obj cmd ∧ AcceptedCommand n cmd := by
  cases command with
  | obj cmd =>
    refine ⟨cmd, rfl, ?_⟩
    unfold checkCommand at h
    cases hmissing : missingKey cmd ["command_id", "command_type", "tile_id", "fence_id"] with
    | some key => simp [hmissing, parseError] at h
    | none =>
      have hlookup := @lookup_of_missingKey cmd _ hmissing
      simp only [hmissing] at h
      cases hid : (dictGet cmd "command_id").asInt? with
      | none => simp [hid, parseError] at h
      | some cid =>
        simp only [hid] at h
        obtain ⟨known, hknown, h⟩ := bind_eq_ok.mp h
        cases htile : (dictGet cmd "tile_id").asInt? with
        | none => simp [htile, mappingError] at h
        | some t =>
          simp only [htile] at h
          by_cases hrange : 0 ≤ t ∧ t < n
          · refine ⟨fun key hkey => hlookup hkey, unknown_ok hknown, t.toNat, by omega, ?_⟩
            rw [htile, Int.toNat_of_nonneg hrange.1]
          · rw [if_neg hrange] at h
            cases h
  | _ => simp [checkCommand, parseError] at h

theorem accepted_of_checkCommands {n : ℕ} {seen : List ℤ} {idx : ℕ} {commands : List Json} {ws : List FString}
    (h : checkCommands n seen idx commands = .ok ws) :
    ∀ command ∈ commands, ∃ cmd, command = .obj cmd ∧ AcceptedCommand n cmd := by
  induction commands generalizing seen idx ws with
  | nil => simp
  | cons command commands ih =>
    unfold checkCommands at h
    obtain ⟨⟨seen', first⟩, hfirst, h⟩ := bind_eq_ok.mp h
    obtain ⟨rest, hrest, -⟩ := bind_eq_ok.mp h
    intro c hc
    rcases List.mem_cons.mp hc with rfl | hc
    · exact accepted_of_checkCommand hfirst
    · exact ih hrest c hc

/-- An accepted plan has what the mapper reads. -/
theorem acceptedPlan_of_validatePlan {plan : Fields} {strict : Bool} {ws : List FString}
    (h : validatePlan plan strict = .ok ws) : Nonempty (AcceptedPlan plan) := by
  unfold validatePlan at h
  obtain ⟨tileCount, hheader, h⟩ := bind_eq_ok.mp h
  unfold checkHeader at hheader
  cases hmissing : missingKey plan ["command_plan_version", "header", "commands"] with
  | some key => simp [hmissing, parseError] at hheader
  | none =>
    have hlookup := @lookup_of_missingKey plan _ hmissing
    simp only [hmissing] at hheader
    by_cases hver : (!(dictGet plan "command_plan_version").eqInt 1) = true
    · rw [if_pos hver] at hheader
      cases hheader
    rw [if_neg hver] at hheader
    obtain ⟨header, hitem, hheader⟩ := bind_eq_ok.mp hheader
    obtain ⟨hasTiles, -, hheader⟩ := bind_eq_ok.mp hheader
    by_cases htiles : (!hasTiles) = true
    · rw [if_pos htiles] at hheader
      cases hheader
    rw [if_neg htiles] at hheader
    obtain ⟨hasCount, -, hheader⟩ := bind_eq_ok.mp hheader
    by_cases hcount : (!hasCount) = true
    · rw [if_pos hcount] at hheader
      cases hheader
    rw [if_neg hcount] at hheader
    obtain ⟨fields, hfields, hheader⟩ := bind_eq_ok.mp hheader
    have hobj : header = .obj fields := by
      cases header <;> simp_all [Json.asObj]
    have hplan : plan.lookup "header" = some (.obj fields) := by
      unfold Json.item at hitem
      cases hl : plan.lookup "header" with
      | none => simp [hl] at hitem
      | some v =>
        simp only [hl] at hitem
        rw [Except.ok.inj hitem, hobj]
    cases hint : (dictGet fields "tile_count").asInt? with
    | none =>
      simp [hint, parseError] at hheader
    | some n =>
      simp only [hint] at hheader
      by_cases hpos : n ≤ 0
      · rw [if_pos hpos] at hheader
        cases hheader
      rw [if_neg hpos] at hheader
      cases hcommands : dictGet plan "commands" with
      | arr commands =>
        simp only [hcommands, Json.asList?] at hheader h
        obtain rfl : tileCount = n := by
          split at hheader
          · cases hheader
          · exact (Except.ok.inj hheader).symm
        have hn : ((tileCount.toNat : ℕ) : ℤ) = tileCount := Int.toNat_of_nonneg (by omega)
        rw [← hn] at h
        exact ⟨⟨fields, _, tileCount.toNat, commands, hplan, lookup_of_dictGet (Json.isNone_of_asInt hint),
          by rw [hint, hn], by omega, hcommands ▸ hlookup (by simp), accepted_of_checkCommands h⟩⟩
      | _ => simp [hcommands, Json.asList?, parseError] at hheader

/-! ### The ledger of a plan -/

variable {n : ℕ} {tensorBytes : TensorBytes}

theorem mem_of_firstNamed {notes : Json} {rbs : List String} {rb : String} (h : firstNamed notes rbs = .ok rb) :
    rb = "sum" ∨ rb ∈ rbs := by
  induction rbs with
  | nil =>
    obtain rfl := Except.ok.inj h
    exact Or.inl rfl
  | cons r rbs ih =>
    unfold firstNamed at h
    obtain ⟨named, -, h⟩ := bind_eq_ok.mp h
    by_cases hnamed : named = true
    · rw [if_pos hnamed] at h
      obtain rfl := Except.ok.inj h
      exact Or.inr List.mem_cons_self
    · rw [if_neg hnamed] at h
      exact (ih h).imp_right (List.mem_cons_of_mem r)

theorem mem_of_reductionBehaviorOf {cmd : Fields} {rb : String} (h : reductionBehaviorOf cmd = .ok rb) :
    rb ∈ ["sum", "concat", "max", "topk"] := by
  rcases mem_of_firstNamed h with rfl | hmem
  · simp
  · exact hmem

/-- A payload is never 0. -/
theorem payloadOf_ne_zero {ctype : String} {cmd : Fields} {cid payload : Json} {ws : List FString}
    (h : payloadOf tensorBytes ctype cmd cid = .ok (payload, ws)) : payload.eqInt 0 = false := by
  unfold payloadOf at h
  obtain ⟨first, -, h⟩ := bind_eq_ok.mp h
  obtain ⟨second, -, h⟩ := bind_eq_ok.mp h
  by_cases hzero : second.eqInt 0 = true
  · rw [if_pos hzero] at h
    obtain ⟨rfl, -⟩ := Prod.mk.inj (Except.ok.inj h)
    simp [defaultActivationPayloadBytes, Json.eqInt, Json.number?]
  · rw [if_neg hzero] at h
    obtain ⟨rfl, -⟩ := Prod.mk.inj (Except.ok.inj h)
    simpa using hzero

theorem item_of_lookup {cmd : Fields} {key : String} {v : Json} (h : cmd.lookup key = some v) :
    (Json.obj cmd).item key = .ok v := by
  simp [Json.item, h]

variable {b b' : Builder} {c c' : ℕ} {cmd : Fields} {tileCount : Json}

/-- The command is a `FABRIC_SEND` or a `FABRIC_REDUCE`. -/
def IsTransfer (cmd : Fields) : Prop :=
  dictGet cmd "command_type" = .str "FABRIC_SEND" ∨ dictGet cmd "command_type" = .str "FABRIC_REDUCE"

/-- A command is local, unknown, or handled by one of the branches with a route. -/
theorem mapCommand_cases (hcmd : AcceptedCommand n cmd) (P : Py (Builder × ℕ) → Prop)
    (hnone : ¬ IsTransfer cmd → P (.ok (b, c)))
    (hack : ¬ IsTransfer cmd →
      P (b.addControlAck (dictGet cmd "tile_id") (dictGet cmd "command_id") (dictGetD cmd "fence_id" (.int 0))
        >>= fun b => .ok (b, c)))
    (hbarrier : ¬ IsTransfer cmd →
      P (b.addTileBarrier (dictGet cmd "tile_id") (dictGet cmd "command_id") (dictGetD cmd "fence_id" (.int 0))
        >>= fun b => .ok (b, c)))
    (htrace : ¬ IsTransfer cmd →
      P (b.addTraceEvent (dictGet cmd "tile_id") (dictGet cmd "command_id") (dictGetD cmd "fence_id" (.int 0))
        (dictGet cmd "command_id") >>= fun b => .ok (b, c)))
    (hsend : IsTransfer cmd →
      P (mapSend tensorBytes tileCount b cmd (dictGet cmd "tile_id") (dictGet cmd "command_id")
        >>= fun b => .ok (b, c)))
    (hreduce : IsTransfer cmd →
      P (mapReduce tensorBytes tileCount b c cmd (dictGet cmd "tile_id") (dictGet cmd "command_id")))
    (hunknown : ∀ warning, ¬ IsTransfer cmd → P (.ok (b.warn warning, c))) :
    P (mapCommand tensorBytes tileCount (b, c) (.obj cmd)) := by
  obtain ⟨hpresent, hplain, -⟩ := hcmd
  have hitem := fun key hkey => item_of_lookup (hpresent key hkey)
  unfold mapCommand
  rw [hitem "command_type" (by simp), hitem "tile_id" (by simp), hitem "command_id" (by simp)]
  unfold IsTransfer at hnone hack hbarrier htrace hsend hreduce hunknown
  generalize dictGet cmd "command_type" = ctype at *
  obtain ⟨key, hkey⟩ := ctype.exists_key.mpr hplain
  have hlocal : ctype.inSet cmdTypesLocalOnly = .ok (cmdTypesLocalOnly.any fun text => key = .str text) := by
    unfold Json.inSet
    rw [hkey]
    rfl
  show P (ctype.inSet cmdTypesLocalOnly >>= _)
  rw [hlocal]
  show P (if _ then _ else _)
  by_cases h : (cmdTypesLocalOnly.any fun text => key = .str text) = true
  · rw [if_pos h]
    apply hnone
    rintro (rfl | rfl) <;> obtain rfl := Except.ok.inj hkey <;> simp [cmdTypesLocalOnly] at h
  rw [if_neg h]
  by_cases h : ctype.eqStr "VALIDATE_TENSOR" = true
  · rw [if_pos h]
    exact hack (by simp [eqStr_iff.mp h])
  rw [if_neg h]
  by_cases h : ctype.eqStr "TILE_BARRIER" = true
  · rw [if_pos h]
    exact hbarrier (by simp [eqStr_iff.mp h])
  rw [if_neg h]
  by_cases h : ctype.eqStr "QUERY_COUNTERS" = true
  · rw [if_pos h]
    exact hack (by simp [eqStr_iff.mp h])
  rw [if_neg h]
  by_cases h : ctype.eqStr "TRACE_SNAPSHOT" = true
  · rw [if_pos h]
    exact htrace (by simp [eqStr_iff.mp h])
  rw [if_neg h]
  by_cases hs : ctype.eqStr "FABRIC_SEND" = true
  · rw [if_pos hs]
    exact hsend (Or.inl (eqStr_iff.mp hs))
  rw [if_neg hs]
  by_cases hr : ctype.eqStr "FABRIC_REDUCE" = true
  · rw [if_pos hr]
    exact hreduce (Or.inr (eqStr_iff.mp hr))
  rw [if_neg hr]
  apply hunknown
  rintro (h | h)
  · exact hs (eqStr_iff.mpr h)
  · exact hr (eqStr_iff.mpr h)

/-! ### One command -/

/-- The payloads that a command can give its route. -/
def IsPayload (tensorBytes : TensorBytes) (cmd : Fields) (payload : Json) : Prop :=
  payload = .int 64 ∨ payload = .int 0 ∨
    ∃ ctype ws, payloadOf tensorBytes ctype cmd (dictGet cmd "command_id") = .ok (payload, ws)

/-- What a command does when it does not raise. -/
structure Mapped (n : ℕ) (tensorBytes : TensorBytes) (cmd : Fields) (b b' : Builder) : Prop where
  ledger : Ledger n b'
  adds : ∃ payload, Adds b b' (dictGet cmd "command_id") payload ∧ IsPayload tensorBytes cmd payload

section Transfers

variable {tileId : Json} (hn : tileCount.asInt? = some (n : ℤ)) (h : Ledger n b)
  (hsrc : ∃ s < n, tileId.asInt? = some (s : ℤ))

include hn h hsrc

theorem mapSend_mapped (hok : mapSend tensorBytes tileCount b cmd tileId (dictGet cmd "command_id") = .ok b') :
    Mapped n tensorBytes cmd b b' := by
  unfold mapSend at hok
  obtain ⟨⟨payload, ws⟩, hpayload, hok⟩ := bind_eq_ok.mp hok
  have his : IsPayload tensorBytes cmd payload := Or.inr (Or.inr ⟨_, ws, hpayload⟩)
  simp only [otherTiles_eq hn] at hok
  obtain ⟨dests, hdests, hok⟩ := bind_eq_ok.mp hok
  obtain rfl := Except.ok.inj hdests
  have hwarned := h.warnings (b.warnings ++ ws)
  by_cases hempty : (others n tileId).isEmpty = true
  · rw [if_pos hempty] at hok
    obtain rfl := Except.ok.inj hok
    exact ⟨hwarned.warn _, payload, Or.inl rfl, his⟩
  · rw [if_neg hempty] at hok
    obtain ⟨hledger, hadds⟩ :=
      addActivationSend_ledger hsrc hwarned (payloadOf_ne_zero hpayload) (by simpa using hempty) hok
    exact ⟨hledger, payload, hadds, his⟩

theorem mapReduce_mapped
    (hok : mapReduce tensorBytes tileCount b c cmd tileId (dictGet cmd "command_id") = .ok (b', c')) :
    Mapped n tensorBytes cmd b b' := by
  unfold mapReduce at hok
  obtain ⟨⟨payload, ws⟩, hpayload, hok⟩ := bind_eq_ok.mp hok
  have his : IsPayload tensorBytes cmd payload := Or.inr (Or.inr ⟨_, ws, hpayload⟩)
  obtain ⟨behavior, hbehavior, hok⟩ := bind_eq_ok.mp hok
  simp only [otherTiles_eq hn] at hok
  obtain ⟨dests, hdests, hok⟩ := bind_eq_ok.mp hok
  obtain rfl := Except.ok.inj hdests
  have hwarned := h.warnings (b.warnings ++ ws)
  by_cases hempty : (others n tileId).isEmpty = true
  · rw [if_pos hempty] at hok
    obtain ⟨rfl, -⟩ := Prod.mk.inj (Except.ok.inj hok)
    exact ⟨hwarned.warn _, payload, Or.inl rfl, his⟩
  · rw [if_neg hempty] at hok
    obtain ⟨b₁, hadd, hok⟩ := bind_eq_ok.mp hok
    obtain ⟨rfl, -⟩ := Prod.mk.inj (Except.ok.inj hok)
    obtain ⟨hledger, hadds⟩ := addPartialReduce_ledger hsrc hwarned (payloadOf_ne_zero hpayload)
      (mem_of_reductionBehaviorOf hbehavior) (by simpa using hempty) hadd
    exact ⟨hledger, payload, hadds, his⟩

end Transfers

/-- **One command** keeps the ledger and adds at most one route, with its own id. -/
theorem mapCommand_mapped (hn : tileCount.asInt? = some (n : ℤ)) (h : Ledger n b) (hcmd : AcceptedCommand n cmd)
    (hok : mapCommand tensorBytes tileCount (b, c) (.obj cmd) = .ok (b', c')) : Mapped n tensorBytes cmd b b' := by
  have hsrc := hcmd.source
  revert hok
  refine mapCommand_cases hcmd (fun r => r = .ok (b', c') → Mapped n tensorBytes cmd b b') ?_ ?_ ?_ ?_ ?_ ?_ ?_
  · intro _ hok
    obtain ⟨rfl, -⟩ := Prod.mk.inj (Except.ok.inj hok)
    exact ⟨h, .int 0, Or.inl rfl, Or.inr (Or.inl rfl)⟩
  · intro _ hok
    obtain ⟨b₁, hadd, hok⟩ := bind_eq_ok.mp hok
    obtain ⟨rfl, -⟩ := Prod.mk.inj (Except.ok.inj hok)
    obtain ⟨hledger, hadds⟩ := addControlAck_ledger hsrc h hadd
    exact ⟨hledger, _, hadds, Or.inl rfl⟩
  · intro _ hok
    obtain ⟨b₁, hadd, hok⟩ := bind_eq_ok.mp hok
    obtain ⟨rfl, -⟩ := Prod.mk.inj (Except.ok.inj hok)
    obtain ⟨hledger, hadds⟩ := addTileBarrier_ledger hsrc h hadd
    exact ⟨hledger, _, hadds, Or.inr (Or.inl rfl)⟩
  · intro _ hok
    obtain ⟨b₁, hadd, hok⟩ := bind_eq_ok.mp hok
    obtain ⟨rfl, -⟩ := Prod.mk.inj (Except.ok.inj hok)
    obtain ⟨hledger, hadds⟩ := addTraceEvent_ledger hsrc h hadd
    exact ⟨hledger, _, hadds, Or.inl rfl⟩
  · intro _ hok
    obtain ⟨b₁, hadd, hok⟩ := bind_eq_ok.mp hok
    obtain ⟨rfl, -⟩ := Prod.mk.inj (Except.ok.inj hok)
    exact mapSend_mapped hn h hsrc hadd
  · intro _ hok
    exact mapReduce_mapped hn h hsrc hok
  · intro warning _ hok
    obtain ⟨rfl, -⟩ := Prod.mk.inj (Except.ok.inj hok)
    exact ⟨h.warn warning, .int 0, Or.inl rfl, Or.inr (Or.inl rfl)⟩

/-! ### The loop over the commands -/

/-- `cmd["command_id"]`. -/
def commandIdOf : Json → Json
  | .obj cmd => dictGet cmd "command_id"
  | _ => .null

/-- What the commands did: the routes added have the ids of commands, in order, and payloads that a command gives. -/
structure Emitted (tensorBytes : TensorBytes) (commands : List Json) (b b' : Builder) (added : List Route) :
    Prop where
  routes : b'.routes = b.routes ++ added
  inOrder : (added.map (·.sourceCommandId)).Sublist (commands.map commandIdOf)
  payloads : ∀ r ∈ added, ∃ cmd, .obj cmd ∈ commands ∧ IsPayload tensorBytes cmd r.payloadBytes

theorem Emitted.cons {commands : List Json} {b₁ : Builder} {added : List Route}
    (hfirst : Mapped n tensorBytes cmd b b₁) (h : Emitted tensorBytes commands b₁ b' added) :
    ∃ added, Emitted tensorBytes (.obj cmd :: commands) b b' added := by
  obtain ⟨payload, hadds, his⟩ := hfirst.adds
  have hold : ∀ r ∈ added,
      ∃ cmd', .obj cmd' ∈ Json.obj cmd :: commands ∧ IsPayload tensorBytes cmd' r.payloadBytes := by
    intro r hr
    obtain ⟨cmd', hmem, hpayload⟩ := h.payloads r hr
    exact ⟨cmd', List.mem_cons_of_mem _ hmem, hpayload⟩
  rcases hadds with hsame | ⟨r, hroutes, hid, hpayload⟩
  · exact ⟨added, by rw [h.routes, hsame], h.inOrder.cons _, hold⟩
  · refine ⟨r :: added, by rw [h.routes, hroutes, List.append_assoc]; rfl, ?_, ?_⟩
    · rw [List.map_cons, List.map_cons, hid]
      exact h.inOrder.cons_cons _
    · intro r' hr'
      rcases List.mem_cons.mp hr' with rfl | hr'
      · exact ⟨cmd, List.mem_cons_self, hpayload ▸ his⟩
      · exact hold r' hr'

theorem mapCommands_emitted (hn : tileCount.asInt? = some (n : ℤ)) {commands : List Json}
    (hcommands : ∀ command ∈ commands, ∃ cmd, command = .obj cmd ∧ AcceptedCommand n cmd) (h : Ledger n b)
    (hok : commands.foldlM (mapCommand tensorBytes tileCount) (b, c) = .ok (b', c')) :
    Ledger n b' ∧ ∃ added, Emitted tensorBytes commands b b' added := by
  induction commands generalizing b c with
  | nil =>
    obtain ⟨rfl, -⟩ := Prod.mk.inj (Except.ok.inj hok)
    exact ⟨h, [], by simp, by simp, by simp⟩
  | cons command commands ih =>
    rw [List.foldlM_cons] at hok
    obtain ⟨⟨b₁, c₁⟩, hfirst, hrest⟩ := bind_eq_ok.mp hok
    obtain ⟨cmd, rfl, hcmd⟩ := hcommands command List.mem_cons_self
    have hmapped := mapCommand_mapped hn h hcmd hfirst
    obtain ⟨hledger, added, hemitted⟩ :=
      ih (fun command hc => hcommands command (List.mem_cons_of_mem _ hc)) hmapped.ledger hrest
    exact ⟨hledger, hemitted.cons hmapped⟩

/-- `_map_plan_to_routes` of an accepted plan is the loop over its commands. -/
theorem mapPlanToRoutes_eq {plan : Fields} (p : AcceptedPlan plan) (tensorBytes : TensorBytes) :
    mapPlanToRoutes plan tensorBytes =
      (p.commands.foldlM (mapCommand tensorBytes p.tileCountField) (({ tileCount := p.tileCountField } : Builder), 0)
        >>= fun r => .ok r.1) := by
  unfold mapPlanToRoutes
  rw [item_of_lookup p.header_eq, item_of_lookup p.commands_eq]
  show ((Json.obj p.header).item "tile_count" >>= _) = _
  rw [item_of_lookup p.tileCountField_eq]
  rfl

/-- **The routes of a plan** keep the ledger, and are those of its commands. -/
theorem mapPlan_emitted {plan : Fields} (p : AcceptedPlan plan) (hok : mapPlanToRoutes plan tensorBytes = .ok b) :
    Ledger p.tileCount b ∧ Emitted tensorBytes p.commands { tileCount := p.tileCountField } b b.routes := by
  rw [mapPlanToRoutes_eq p] at hok
  obtain ⟨⟨b₁, c₁⟩, hloop, hok⟩ := bind_eq_ok.mp hok
  obtain rfl := Except.ok.inj hok
  obtain ⟨hledger, added, hemitted⟩ :=
    mapCommands_emitted p.tileCount_eq p.accepted (ledger_start p.tileCount_eq) hloop
  obtain rfl : b₁.routes = added := hemitted.routes
  exact ⟨hledger, hemitted⟩

end Att1.Routes
