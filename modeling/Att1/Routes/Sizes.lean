import Att1.Routes.Build

/-!
# Att1.Routes.Sizes — plans whose transfers have sizes

* `Sizable`: the types of the optional fields that the mapper reads of a command.
* `NameUsable`: a transfer that has to be looked up by name has no list or dict for a name.
* `mapPlan_ok_iff`: for a plan of sizable commands that is exactly what it takes not to raise; `mapPlan_sized`: all
  payloads are sizes then.
-/

open Att1.Lib

namespace Att1.Routes

variable {n : ℕ} {tensorBytes : TensorBytes} {cmd : Fields} {payload payload' name : Json}

/-- `total_bytes` is absent, `null` or a size, `tensor_id` no list or dict, and `notes` absent, `null` or a text. -/
structure Sizable (cmd : Fields) : Prop where
  totalBytes : dictGet cmd "total_bytes" = .null ∨ ∃ p : ℕ, (dictGet cmd "total_bytes").asInt? = some (p : ℤ)
  tensorId : (dictGet cmd "tensor_id").isContainer = false
  notes : dictGet cmd "notes" = .null ∨ ∃ text, dictGet cmd "notes" = .str text

/-- Neither `total_bytes` nor `tensor_id` gives a size. -/
def Unsized (tensorBytes : TensorBytes) (cmd : Fields) : Prop :=
  (dictGet cmd "total_bytes").truthy = false ∧
    ∀ key, (dictGet cmd "tensor_id").isNone = false → (dictGet cmd "tensor_id").key = .ok key →
      (tensorBytes key).getD 0 = 0

/-- A transfer that has to be looked up by name has a name that a `dict` can be asked for. -/
def NameUsable (tensorBytes : TensorBytes) (cmd : Fields) : Prop :=
  IsTransfer cmd → Unsized tensorBytes cmd → (dictGet cmd "tensor_name").isContainer = false

/-! ### Payloads -/

/-- An integer not below 0. -/
def IsSize (payload : Json) : Prop := ∃ p : ℕ, payload.asInt? = some (p : ℤ)

/-- A value that is no list or dict can be looked up. -/
theorem lookupBytes_ok_iff :
    (∃ r, lookupBytes tensorBytes payload name = .ok r) ↔ (payload.eqInt 0 = true → name.isContainer = false) := by
  unfold lookupBytes
  by_cases hzero : payload.eqInt 0 = true
  · cases hname : name.isNone with
    | true =>
      have hnull : name = .null := by cases name <;> first | rfl | cases hname
      simp [hzero, hnull, Json.isContainer]
    | false =>
      have hkey := name.exists_key
      rw [hzero, if_pos (by rfl)]
      simp only [true_imp_iff, ← hkey, bind_eq_ok]
      constructor
      · rintro ⟨r, key, hok, -⟩
        exact ⟨key, hok⟩
      · rintro ⟨key, hok⟩
        exact ⟨_, key, hok, rfl⟩
  · simp [hzero]

theorem lookupBytes_isSize (h : IsSize payload) (hok : lookupBytes tensorBytes payload name = .ok payload') :
    IsSize payload' := by
  unfold lookupBytes at hok
  by_cases hlookup : (payload.eqInt 0 && !name.isNone) = true
  · rw [if_pos hlookup] at hok
    obtain ⟨key, -, hok⟩ := bind_eq_ok.mp hok
    obtain rfl := Except.ok.inj hok
    exact ⟨_, rfl⟩
  · rw [if_neg hlookup] at hok
    obtain rfl := Except.ok.inj hok
    exact h

theorem isSize_totalBytes (h : Sizable cmd) : IsSize ((dictGet cmd "total_bytes").orElse (.int 0)) := by
  unfold Json.orElse
  by_cases htrue : (dictGet cmd "total_bytes").truthy = true
  · rw [if_pos htrue]
    rcases h.totalBytes with hnull | hsize
    · rw [hnull] at htrue
      cases htrue
    · exact hsize
  · rw [if_neg htrue]
    exact ⟨0, rfl⟩

/-- The payload of a sizable command is a size. -/
theorem payloadOf_isSize {ctype : String} {cid : Json} {ws : List FString} (h : Sizable cmd)
    (hok : payloadOf tensorBytes ctype cmd cid = .ok (payload, ws)) : IsSize payload := by
  unfold payloadOf at hok
  obtain ⟨first, hfirst, hok⟩ := bind_eq_ok.mp hok
  obtain ⟨second, hsecond, hok⟩ := bind_eq_ok.mp hok
  have hsize := lookupBytes_isSize (lookupBytes_isSize (isSize_totalBytes h) hfirst) hsecond
  by_cases hzero : second.eqInt 0 = true
  · rw [if_pos hzero] at hok
    obtain ⟨rfl, -⟩ := Prod.mk.inj (Except.ok.inj hok)
    exact ⟨1024, rfl⟩
  · rw [if_neg hzero] at hok
    obtain ⟨rfl, -⟩ := Prod.mk.inj (Except.ok.inj hok)
    exact hsize

theorem isSize_of_isPayload (h : Sizable cmd) (his : IsPayload tensorBytes cmd payload) : IsSize payload := by
  rcases his with rfl | rfl | ⟨ctype, ws, hok⟩
  · exact ⟨64, rfl⟩
  · exact ⟨0, rfl⟩
  · exact payloadOf_isSize h hok

/-- A size is 0 or true. -/
theorem eqInt_zero_of_size (h : IsSize payload) : payload.eqInt 0 = !payload.truthy := by
  obtain ⟨p, hp⟩ := h
  rw [Json.eqInt_of_asInt hp, Json.truthy_of_asInt hp]
  simp

/-- What is left for the lookup by name is 0 exactly when nothing else gives a size. -/
theorem eqInt_zero_iff_unsized (h : Sizable cmd)
    (hok : lookupBytes tensorBytes ((dictGet cmd "total_bytes").orElse (.int 0)) (dictGet cmd "tensor_id")
      = .ok payload) : payload.eqInt 0 = true ↔ Unsized tensorBytes cmd := by
  have hsize := isSize_totalBytes h
  have hzero : ((dictGet cmd "total_bytes").orElse (.int 0)).eqInt 0 = !(dictGet cmd "total_bytes").truthy := by
    unfold Json.orElse at hsize ⊢
    by_cases htrue : (dictGet cmd "total_bytes").truthy = true
    · rw [if_pos htrue] at hsize ⊢
      exact eqInt_zero_of_size hsize
    · rw [if_neg htrue]
      simp [htrue, Json.eqInt, Json.number?]
  unfold lookupBytes at hok
  rw [hzero] at hok
  unfold Unsized
  cases htrue : (dictGet cmd "total_bytes").truthy with
  | true =>
    rw [htrue] at hok
    obtain rfl := Except.ok.inj hok
    simp [hzero, htrue]
  | false =>
    cases hid : (dictGet cmd "tensor_id").isNone with
    | true =>
      rw [htrue, hid] at hok
      obtain rfl := Except.ok.inj hok
      simp [hzero, htrue]
    | false =>
      rw [htrue, hid] at hok
      obtain ⟨key, hkey, hok⟩ := bind_eq_ok.mp hok
      obtain rfl := Except.ok.inj hok
      rw [Json.eqInt_of_asInt (show Json.asInt? (.int _) = some _ from rfl), hkey]
      simp

/-- **The payload of a sizable command** is known unless the name cannot be looked up. -/
theorem payloadOf_ok_iff {ctype : String} {cid : Json} (h : Sizable cmd) :
    (∃ r, payloadOf tensorBytes ctype cmd cid = .ok r) ↔
      (Unsized tensorBytes cmd → (dictGet cmd "tensor_name").isContainer = false) := by
  obtain ⟨first, hfirst⟩ := lookupBytes_ok_iff.mpr fun _ : (Json.eqInt _ _ : Bool) = true => h.tensorId
  rw [← eqInt_zero_iff_unsized h hfirst, ← lookupBytes_ok_iff]
  unfold payloadOf
  constructor
  · rintro ⟨r, hok⟩
    obtain ⟨first', hfirst', hok⟩ := bind_eq_ok.mp hok
    obtain ⟨second, hsecond, -⟩ := bind_eq_ok.mp hok
    obtain rfl : first = first' := Except.ok.inj (hfirst.symm.trans hfirst')
    exact ⟨second, hsecond⟩
  · rintro ⟨second, hsecond⟩
    simp only [bind_eq_ok]
    by_cases hzero : second.eqInt 0 = true
    · exact ⟨_, first, hfirst, second, hsecond, if_pos hzero⟩
    · exact ⟨_, first, hfirst, second, hsecond, if_neg hzero⟩

/-! ### Reductions -/

theorem exists_firstNamed (text : String) (rbs : List String) : ∃ rb, firstNamed (.str text) rbs = .ok rb := by
  induction rbs with
  | nil => exact ⟨_, rfl⟩
  | cons rb rbs ih =>
    obtain ⟨rest, hrest⟩ := ih
    unfold firstNamed
    simp only [bind_eq_ok]
    by_cases hnamed : rb.toList <:+: text.toList
    · exact ⟨rb, true, by simp [Json.contains, hnamed], rfl⟩
    · exact ⟨rest, false, by simp [Json.contains, hnamed], hrest⟩

theorem exists_reductionBehaviorOf (h : Sizable cmd) : ∃ rb, reductionBehaviorOf cmd = .ok rb := by
  unfold reductionBehaviorOf
  rcases h.notes with hnull | ⟨text, htext⟩
  · rw [hnull]
    exact exists_firstNamed _ _
  · rw [htext]
    unfold Json.orElse
    by_cases hempty : (Json.str text).truthy = true
    · rw [if_pos hempty]
      exact exists_firstNamed _ _
    · rw [if_neg hempty]
      exact exists_firstNamed _ _

/-! ### Without an exception -/

section Progress

variable {b : Builder} {c : ℕ} {tileCount tileId cid : Json} (hn : tileCount.asInt? = some (n : ℤ))
  (h : Ledger n b) (hints : IntPayloads b.routes) (hsizable : Sizable cmd)

include hn h hints hsizable

theorem mapSend_ok_iff (hsrc : ∃ s < n, tileId.asInt? = some (s : ℤ)) :
    (∃ b', mapSend tensorBytes tileCount b cmd tileId cid = .ok b') ↔
      (Unsized tensorBytes cmd → (dictGet cmd "tensor_name").isContainer = false) := by
  rw [← @payloadOf_ok_iff tensorBytes cmd "FABRIC_SEND" cid hsizable]
  unfold mapSend
  constructor
  · rintro ⟨b', hok⟩
    obtain ⟨r, hpayload, -⟩ := bind_eq_ok.mp hok
    exact ⟨r, hpayload⟩
  · rintro ⟨⟨payload, ws⟩, hpayload⟩
    have hwarned := h.warnings (b.warnings ++ ws)
    obtain ⟨p, hp⟩ := payloadOf_isSize hsizable hpayload
    rw [hpayload, otherTiles_eq hn]
    by_cases hempty : (others n tileId).isEmpty = true
    · exact ⟨_, if_pos hempty⟩
    · obtain ⟨b', hadd⟩ := @exists_addActivationSend n _ tileId cid (dictGetD cmd "fence_id" (.int 0)) payload
        (dictGet cmd "tensor_name") hsrc hwarned hints p (payloadOf_ne_zero hpayload) hp (by simpa using hempty)
      exact ⟨b', (if_neg hempty).trans hadd⟩

theorem mapReduce_ok_iff (hsrc : ∃ s < n, tileId.asInt? = some (s : ℤ)) :
    (∃ r, mapReduce tensorBytes tileCount b c cmd tileId cid = .ok r) ↔
      (Unsized tensorBytes cmd → (dictGet cmd "tensor_name").isContainer = false) := by
  rw [← @payloadOf_ok_iff tensorBytes cmd "FABRIC_REDUCE" cid hsizable]
  unfold mapReduce
  constructor
  · rintro ⟨r, hok⟩
    obtain ⟨r, hpayload, -⟩ := bind_eq_ok.mp hok
    exact ⟨r, hpayload⟩
  · rintro ⟨⟨payload, ws⟩, hpayload⟩
    have hwarned := h.warnings (b.warnings ++ ws)
    obtain ⟨p, hp⟩ := payloadOf_isSize hsizable hpayload
    obtain ⟨rb, hrb⟩ := exists_reductionBehaviorOf hsizable
    rw [hpayload, hrb, otherTiles_eq hn]
    by_cases hempty : (others n tileId).isEmpty = true
    · exact ⟨_, if_pos hempty⟩
    · obtain ⟨b', hadd⟩ := @exists_addPartialReduce n _ tileId cid (dictGetD cmd "fence_id" (.int 0)) payload
        (dictGet cmd "tensor_name") hsrc hwarned hints p (c + 1) rb (payloadOf_ne_zero hpayload) hp
        (mem_of_reductionBehaviorOf hrb) (by simpa using hempty)
      refine ⟨(b', c + 1), (if_neg hempty).trans ?_⟩
      exact bind_eq_ok.mpr ⟨b', hadd, rfl⟩

/-- **One command** raises exactly when it has to be looked up by a name that is a list or a dict. -/
theorem mapCommand_ok_iff (hcmd : AcceptedCommand n cmd) :
    (∃ r, mapCommand tensorBytes tileCount (b, c) (.obj cmd) = .ok r) ↔ NameUsable tensorBytes cmd := by
  have hsrc := hcmd.source
  have hlocal : ¬ IsTransfer cmd → NameUsable tensorBytes cmd := fun hnot htransfer => absurd htransfer hnot
  refine mapCommand_cases hcmd (fun r => (∃ s, r = .ok s) ↔ NameUsable tensorBytes cmd) ?_ ?_ ?_ ?_ ?_ ?_ ?_
  · intro hnot
    exact ⟨fun _ => hlocal hnot, fun _ => ⟨_, rfl⟩⟩
  · intro hnot
    refine ⟨fun _ => hlocal hnot, fun _ => ?_⟩
    obtain ⟨b', hadd⟩ := exists_addControlAck hsrc h hints
    exact ⟨_, bind_eq_ok.mpr ⟨b', hadd, rfl⟩⟩
  · intro hnot
    refine ⟨fun _ => hlocal hnot, fun _ => ?_⟩
    obtain ⟨b', hadd⟩ := exists_addTileBarrier hsrc h hints
    exact ⟨_, bind_eq_ok.mpr ⟨b', hadd, rfl⟩⟩
  · intro hnot
    refine ⟨fun _ => hlocal hnot, fun _ => ?_⟩
    obtain ⟨b', hadd⟩ := exists_addTraceEvent hsrc h hints
    exact ⟨_, bind_eq_ok.mpr ⟨b', hadd, rfl⟩⟩
  · intro htransfer
    have hiff := @mapSend_ok_iff n tensorBytes cmd b tileCount _ (dictGet cmd "command_id") hn h hints hsizable hsrc
    constructor
    · rintro ⟨s, hok⟩ -
      obtain ⟨b', hsend, -⟩ := bind_eq_ok.mp hok
      exact hiff.mp ⟨b', hsend⟩
    · intro husable
      obtain ⟨b', hsend⟩ := hiff.mpr (husable htransfer)
      exact ⟨_, bind_eq_ok.mpr ⟨b', hsend, rfl⟩⟩
  · intro htransfer
    have hiff :=
      @mapReduce_ok_iff n tensorBytes cmd b c tileCount _ (dictGet cmd "command_id") hn h hints hsizable hsrc
    exact ⟨fun hok _ => hiff.mp hok, fun husable => hiff.mpr (husable htransfer)⟩
  · intro warning hnot
    exact ⟨fun _ => hlocal hnot, fun _ => ⟨_, rfl⟩⟩

end Progress

/-! ### Plans -/

/-- The payloads of the routes are integers not below 0. -/
def Sized (routes : List Route) : Prop := ∀ r ∈ routes, r.payloadBytes.asInt? = some r.payload ∧ 0 ≤ r.payload

theorem payload_of_isSize {r : Route} (h : IsSize r.payloadBytes) :
    r.payloadBytes.asInt? = some r.payload ∧ 0 ≤ r.payload := by
  obtain ⟨p, hp⟩ := h
  unfold Route.payload
  rw [hp]
  exact ⟨rfl, by simp⟩

theorem Sized.ints {routes : List Route} (h : Sized routes) : IntPayloads routes := fun r hr => (h r hr).1

/-- Sizable commands add routes with sizes. -/
theorem Emitted.sized {commands : List Json} {b b' : Builder} {added : List Route}
    (h : Emitted tensorBytes commands b b' added) (hsizable : ∀ cmd, .obj cmd ∈ commands → Sizable cmd) :
    Sized added := by
  intro r hr
  obtain ⟨cmd, hmem, hpayload⟩ := h.payloads r hr
  exact payload_of_isSize (isSize_of_isPayload (hsizable cmd hmem) hpayload)

theorem Mapped.sized {b b' : Builder} (h : Mapped n tensorBytes cmd b b') (hsizable : Sizable cmd)
    (hb : Sized b.routes) : Sized b'.routes := by
  obtain ⟨payload, hadds, hpayload⟩ := h.adds
  rcases hadds with hsame | ⟨r, hroutes, -, hr⟩
  · rwa [hsame]
  · rw [hroutes]
    intro r' hr'
    rcases List.mem_append.mp hr' with hold | hnew
    · exact hb r' hold
    · obtain rfl := List.mem_singleton.mp hnew
      exact payload_of_isSize (hr ▸ isSize_of_isPayload hsizable hpayload)

/-- The loop over sizable commands raises exactly when one of them does. -/
theorem mapCommands_ok_iff {tileCount : Json} (hn : tileCount.asInt? = some (n : ℤ)) {commands : List Json}
    (hcommands : ∀ command ∈ commands, ∃ cmd, command = .obj cmd ∧ AcceptedCommand n cmd)
    (hsizable : ∀ cmd, .obj cmd ∈ commands → Sizable cmd) {b : Builder} {c : ℕ} (h : Ledger n b)
    (hb : Sized b.routes) :
    (∃ r, commands.foldlM (mapCommand tensorBytes tileCount) (b, c) = .ok r) ↔
      ∀ cmd, .obj cmd ∈ commands → NameUsable tensorBytes cmd := by
  induction commands generalizing b c with
  | nil => exact ⟨fun _ => by simp, fun _ => ⟨_, rfl⟩⟩
  | cons command commands ih =>
    obtain ⟨cmd, rfl, hcmd⟩ := hcommands command List.mem_cons_self
    have hfirst_sizable := hsizable cmd List.mem_cons_self
    have hfirst : _ ↔ NameUsable tensorBytes cmd :=
      @mapCommand_ok_iff n tensorBytes cmd b c tileCount hn h hb.ints hfirst_sizable hcmd
    have hrest := fun b₁ c₁ => @ih (fun command hc => hcommands command (List.mem_cons_of_mem _ hc))
      (fun cmd hc => hsizable cmd (List.mem_cons_of_mem _ hc)) b₁ c₁
    rw [List.foldlM_cons]
    constructor
    · rintro ⟨r, hok⟩
      obtain ⟨⟨b₁, c₁⟩, hstep, hloop⟩ := bind_eq_ok.mp hok
      have hmapped := mapCommand_mapped hn h hcmd hstep
      have hothers := (hrest b₁ c₁ hmapped.ledger (hmapped.sized hfirst_sizable hb)).mp ⟨r, hloop⟩
      intro cmd' hmem
      rcases List.mem_cons.mp hmem with heq | hmem
      · obtain rfl := Json.obj.inj heq
        exact hfirst.mp ⟨_, hstep⟩
      · exact hothers cmd' hmem
    · intro husable
      obtain ⟨⟨b₁, c₁⟩, hstep⟩ := hfirst.mpr (husable cmd List.mem_cons_self)
      have hmapped := mapCommand_mapped hn h hcmd hstep
      obtain ⟨r, hloop⟩ := (hrest b₁ c₁ hmapped.ledger (hmapped.sized hfirst_sizable hb)).mpr
        fun cmd' hmem => husable cmd' (List.mem_cons_of_mem _ hmem)
      exact ⟨r, bind_eq_ok.mpr ⟨_, hstep, hloop⟩⟩

/-- **A plan of sizable commands** has routes exactly when its names can be used. -/
theorem mapPlan_ok_iff {plan : Fields} (p : AcceptedPlan plan)
    (hsizable : ∀ cmd, .obj cmd ∈ p.commands → Sizable cmd) :
    (∃ b, mapPlanToRoutes plan tensorBytes = .ok b) ↔
      ∀ cmd, .obj cmd ∈ p.commands → NameUsable tensorBytes cmd := by
  rw [← mapCommands_ok_iff p.tileCount_eq p.accepted hsizable (ledger_start p.tileCount_eq) (by simp [Sized]),
    mapPlanToRoutes_eq p]
  constructor
  · rintro ⟨b, hok⟩
    obtain ⟨r, hloop, -⟩ := bind_eq_ok.mp hok
    exact ⟨r, hloop⟩
  · rintro ⟨r, hloop⟩
    exact ⟨r.1, bind_eq_ok.mpr ⟨r, hloop, rfl⟩⟩

end Att1.Routes
