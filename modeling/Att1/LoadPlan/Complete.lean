import Att1.LoadPlan.Collect

/-!
# Att1.LoadPlan.Complete — the load-phase plan is complete and well ordered

* `Planned`: the commands of some tiles, numbered on from an id, load and check their records.
* `planned_tile`, `planTile_grows`, `planTiles_grows`: one tile, and all of them.
* `CompletePlan`, `buildCommands_of_collects`: the whole plan.
-/

open Att1.Lib

namespace Att1.LoadPlan

variable {tileCount : ℤ} {strict : Bool} {s : Session} {t : Fields}

/-! ### Emitting -/

/-- Commands that are made of the elements of a list, numbered on from an id. -/
structure MadeFrom {α : Type} (make : ℕ → α → Py Command) (start : ℕ) (xs : List α) (cmds : List Command) : Prop where
  length : cmds.length = xs.length
  made : ∀ (i : ℕ) (hx : i < xs.length) (hc : i < cmds.length), make (start + i) xs[i] = .ok cmds[i]

/-- A loop that appends a command for each element numbers them. -/
theorem emitAll_ok {α : Type} {make : ℕ → α → Py Command} {xs : List α} (b : Builder)
    (h : ∀ x ∈ xs, ∀ id, ∃ cmd, make id x = .ok cmd) :
    ∃ cmds, emitAll make b xs =
        .ok ({ b with commands := b.commands ++ cmds, cmdId := b.cmdId + xs.length }, List.range' b.cmdId xs.length) ∧
      MadeFrom make b.cmdId xs cmds := by
  induction xs using List.reverseRecOn with
  | nil => exact ⟨[], by simp [emitAll, pure, Except.pure], rfl, fun i hx => absurd hx (Nat.not_lt_zero i)⟩
  | append_singleton xs x ih =>
    obtain ⟨cmds, hloop, hlength, hmade⟩ := ih fun y hy => h y (List.mem_append_left _ hy)
    obtain ⟨cmd, hcmd⟩ := h x (by simp) (b.cmdId + xs.length)
    refine ⟨cmds ++ [cmd], ?_, by simp [hlength], fun i hx hc => ?_⟩
    · unfold emitAll at hloop ⊢
      rw [List.foldlM_append, hloop]
      show (make (b.cmdId + xs.length) x >>= _) >>= _ = _
      rw [hcmd]
      simp [bind, Except.bind, pure, Except.pure, Builder.emit, List.range'_concat, add_assoc]
    · rw [List.length_append, List.length_singleton] at hx
      rcases Nat.lt_succ_iff_lt_or_eq.mp hx with hi | rfl
      · rw [List.getElem_append_left hi, List.getElem_append_left (hlength ▸ hi)]
        exact hmade i hi (hlength ▸ hi)
      · rw [List.getElem_concat_length rfl, List.getElem_concat_length hlength.symm]
        exact hcmd

theorem MadeFrom.ids {α : Type} {make : ℕ → α → Py Command} {start : ℕ} {xs : List α} {cmds : List Command}
    (h : MadeFrom make start xs cmds) (hid : ∀ id x cmd, make id x = .ok cmd → cmd.commandId = id) :
    cmds.map Command.commandId = List.range' start xs.length := by
  refine List.ext_getElem (by simp [h.length]) fun i hi hi' => ?_
  rw [List.getElem_map, List.getElem_range', one_mul]
  rw [List.length_map] at hi
  exact hid _ _ _ (h.made i (h.length ▸ hi) hi)

theorem MadeFrom.forall_mem {α : Type} {make : ℕ → α → Py Command} {start : ℕ} {xs : List α} {cmds : List Command}
    (h : MadeFrom make start xs cmds) {p : Command → Prop}
    (hp : ∀ x ∈ xs, ∀ id, start ≤ id → id < start + xs.length → ∀ cmd, make id x = .ok cmd → p cmd) :
    ∀ cmd ∈ cmds, p cmd := by
  intro cmd hcmd
  obtain ⟨i, hi, rfl⟩ := List.getElem_of_mem hcmd
  have hx : i < xs.length := h.length ▸ hi
  exact hp _ (List.getElem_mem hx) _ (Nat.le_add_right start i) (Nat.add_lt_add_left hx start) _ (h.made i hx hi)

/-- What the commands that load and check a record have from it. -/
structure Readable (t : Fields) : Prop where
  id : ∃ k, (dictGet t "tensor_id").asInt? = some k
  slice : ∃ q, ((dictGet t "slice_start").orElse (.int 0)).number? = some q
  packed : ∃ k, (packedBytes t).asInt? = some k
  scale : ∃ k, (scaleBytes t).asInt? = some k

/-- The packed and scale bytes of a record. -/
def totalOf (t : Fields) : ℤ := ((packedBytes t).asInt?).getD 0 + ((scaleBytes t).asInt?).getD 0

theorem add_of_readable (h : Readable t) : (packedBytes t).add (scaleBytes t) = .ok (.int (totalOf t)) := by
  obtain ⟨p, hp⟩ := h.packed
  obtain ⟨q, hq⟩ := h.scale
  have htotal : totalOf t = p + q := by
    unfold totalOf
    rw [hp, hq]
    rfl
  rw [htotal, Json.add.eq_3, hp, hq]
  · rintro a b ha -
    rw [ha] at hp
    cases hp
  · rintro a b ha -
    rw [ha] at hp
    cases hp

section Fields

variable {id loadId : ℕ} {cmd : Command}

theorem exists_loadCmd (h : Readable t) (s : Session) (id : ℕ) : ∃ cmd, makeLoadCmd s id t = .ok cmd := by
  obtain ⟨k, hk⟩ := h.id
  exact ⟨_, bind_eq_ok.mpr ⟨_, item_of_not_none (Json.isNone_of_asInt hk), bind_eq_ok.mpr ⟨_, add_of_readable h, rfl⟩⟩⟩

theorem exists_validateCmd (h : Readable t) (s : Session) (id loadId : ℕ) :
    ∃ cmd, makeValidateCmd s id t loadId = .ok cmd := by
  obtain ⟨k, hk⟩ := h.id
  exact ⟨_, bind_eq_ok.mpr ⟨_, item_of_not_none (Json.isNone_of_asInt hk), bind_eq_ok.mpr ⟨_, add_of_readable h, rfl⟩⟩⟩

theorem fields_of_load (h : makeLoadCmd s id t = .ok cmd) :
    cmd.commandId = id ∧ cmd.commandType = .loadTensorTile ∧ cmd.tileId = dictGetD t "owner_tile" (.int 0) ∧
      cmd.fenceId = 0 ∧ (packedBytes t).add (scaleBytes t) = .ok cmd.totalBytes := by
  obtain ⟨tensorId, -, h⟩ := bind_eq_ok.mp h
  obtain ⟨total, htotal, h⟩ := bind_eq_ok.mp h
  obtain rfl := Except.ok.inj h
  exact ⟨rfl, rfl, rfl, rfl, htotal⟩

theorem fields_of_validate (h : makeValidateCmd s id t loadId = .ok cmd) :
    cmd.commandId = id ∧ cmd.commandType = .validateTensor ∧ cmd.tileId = dictGetD t "owner_tile" (.int 0) ∧
      cmd.fenceId = loadId := by
  obtain ⟨tensorId, -, h⟩ := bind_eq_ok.mp h
  obtain ⟨total, -, h⟩ := bind_eq_ok.mp h
  obtain rfl := Except.ok.inj h
  exact ⟨rfl, rfl, rfl, rfl⟩

end Fields

/-! ### What a plan is -/

/-- A record with the commands that load and check it. -/
structure TensorLoad where
  record : Fields
  load : Command
  validate : Command

/-- Both commands are made from the record, on its owner tile, and the check waits for the load. -/
structure TensorLoad.Made (s : Session) (i : TensorLoad) : Prop where
  load : makeLoadCmd s i.load.commandId i.record = .ok i.load
  validate : makeValidateCmd s i.validate.commandId i.record i.load.commandId = .ok i.validate

def CommandType.phase : CommandType → ℕ
  | .loadTensorTile => 0
  | .validateTensor => 1
  | .tileBarrier => 2
  | .queryCounters => 3
  | .traceSnapshot => 4

/-- The commands of a type, in order. -/
def ofType (type : CommandType) (cmds : List Command) : List Command := cmds.filter fun c => c.commandType = type

theorem ofType_append (type : CommandType) (cmds cmds' : List Command) :
    ofType type (cmds ++ cmds') = ofType type cmds ++ ofType type cmds' := List.filter_append ..

theorem ofType_eq_self {type : CommandType} {cmds : List Command} (h : ∀ c ∈ cmds, c.commandType = type) :
    ofType type cmds = cmds := List.filter_eq_self.mpr fun c hc => decide_eq_true (h c hc)

theorem ofType_eq_nil {type : CommandType} {cmds : List Command} (h : ∀ c ∈ cmds, c.commandType ≠ type) :
    ofType type cmds = [] := List.filter_eq_nil_iff.mpr fun c hc => by simpa using h c hc

/-- The commands `cmds` of the tiles `tiles`, numbered on from `start`, load and check `issued`. -/
structure Planned (s : Session) (start : ℕ) (tiles : Groups Fields) (issued : List TensorLoad) (cmds : List Command) :
    Prop where
  ids : cmds.map Command.commandId = List.range' start cmds.length
  loads : ofType .loadTensorTile cmds = issued.map TensorLoad.load
  validates : ofType .validateTensor cmds = issued.map TensorLoad.validate
  made : ∀ i ∈ issued, i.Made s
  barriers : (ofType .tileBarrier cmds).map Command.tileId = tiles.map fun g => g.2.1
  fences : ∀ c ∈ cmds, c.fenceId < c.commandId
  tile : ∀ c ∈ cmds, ∃ g ∈ tiles, c.tileId.key = .ok g.1
  early : ∀ c ∈ cmds, c.commandType.phase ≤ 2
  phases : ∀ c ∈ cmds, ∀ c' ∈ cmds, c.tileId.key = c'.tileId.key → c.commandType.phase < c'.commandType.phase →
    c.commandId < c'.commandId

theorem planned_nil (s : Session) (start : ℕ) : Planned s start [] [] [] where
  ids := rfl
  loads := rfl
  validates := rfl
  made := by simp
  barriers := rfl
  fences := by simp
  tile := by simp
  early := by simp
  phases := by simp

section Append

variable {start : ℕ} {tiles tiles' : Groups Fields} {issued issued' : List TensorLoad} {cmds cmds' : List Command}

theorem Planned.id_bounds (h : Planned s start tiles issued cmds) {c : Command} (hc : c ∈ cmds) :
    start ≤ c.commandId ∧ c.commandId < start + cmds.length := by
  have hmem : c.commandId ∈ List.range' start cmds.length := h.ids ▸ List.mem_map_of_mem hc
  simpa using hmem

theorem Planned.append (h : Planned s start tiles issued cmds)
    (h' : Planned s (start + cmds.length) tiles' issued' cmds')
    (hkeys : ((tiles ++ tiles').map Prod.fst).Nodup) :
    Planned s start (tiles ++ tiles') (issued ++ issued') (cmds ++ cmds') where
  ids := by rw [List.map_append, h.ids, h'.ids, List.length_append, List.range'_append_1]
  loads := by rw [ofType_append, h.loads, h'.loads, List.map_append]
  validates := by rw [ofType_append, h.validates, h'.validates, List.map_append]
  made := List.forall_mem_append.mpr ⟨h.made, h'.made⟩
  barriers := by rw [ofType_append, List.map_append, h.barriers, h'.barriers, List.map_append]
  fences := List.forall_mem_append.mpr ⟨h.fences, h'.fences⟩
  tile c hc := by
    rcases List.mem_append.mp hc with hc | hc
    · obtain ⟨g, hg, hkey⟩ := h.tile c hc
      exact ⟨g, List.mem_append_left _ hg, hkey⟩
    · obtain ⟨g, hg, hkey⟩ := h'.tile c hc
      exact ⟨g, List.mem_append_right _ hg, hkey⟩
  early := List.forall_mem_append.mpr ⟨h.early, h'.early⟩
  phases c hc c' hc' hsame hphase := by
    rcases List.mem_append.mp hc with hc | hc <;> rcases List.mem_append.mp hc' with hc' | hc'
    · exact h.phases c hc c' hc' hsame hphase
    · exact (h.id_bounds hc).2.trans_le (h'.id_bounds hc').1
    · -- no tile is in both parts
      obtain ⟨g, hg, hkey⟩ := h'.tile c hc
      obtain ⟨g', hg', hkey'⟩ := h.tile c' hc'
      rw [List.map_append] at hkeys
      have hne := (List.nodup_append.mp hkeys).2.2 g'.1 (List.mem_map_of_mem hg') g.1 (List.mem_map_of_mem hg)
      rw [hkey, hkey'] at hsame
      exact absurd (Except.ok.inj hsame).symm hne
    · exact h'.phases c hc c' hc' hsame hphase

end Append

/-! ### One tile -/

section Tile

variable {key : Json.Key} {name : Json} {ts : List Fields} {k : ℕ} {loads validates : List Command}

/-- The records of a tile with their commands. -/
def issuedFor (ts : List Fields) (loads validates : List Command) : List TensorLoad :=
  ((ts.zip loads).zip validates).map fun entry => ⟨entry.1.1, entry.1.2, entry.2⟩

theorem map_record_issuedFor (hl : loads.length = ts.length) (hv : validates.length = ts.length) :
    (issuedFor ts loads validates).map TensorLoad.record = ts := by
  refine List.ext_getElem (by simp [issuedFor, hl, hv]) fun i _ _ => ?_
  simp [issuedFor]

theorem map_load_issuedFor (hl : loads.length = ts.length) (hv : validates.length = ts.length) :
    (issuedFor ts loads validates).map TensorLoad.load = loads := by
  refine List.ext_getElem (by simp [issuedFor, hl, hv]) fun i _ _ => ?_
  simp [issuedFor]

theorem map_validate_issuedFor (hl : loads.length = ts.length) (hv : validates.length = ts.length) :
    (issuedFor ts loads validates).map TensorLoad.validate = validates := by
  refine List.ext_getElem (by simp [issuedFor, hl, hv]) fun i _ _ => ?_
  simp [issuedFor]

theorem made_issuedFor (hloads : MadeFrom (makeLoadCmd s) k ts loads)
    (hvalidates : MadeFrom (fun id entry => makeValidateCmd s id entry.1 entry.2) (k + ts.length)
      (ts.zip (List.range' k ts.length)) validates) : ∀ i ∈ issuedFor ts loads validates, i.Made s := by
  intro issue hissue
  obtain ⟨i, hi, rfl⟩ := List.getElem_of_mem hissue
  simp only [issuedFor, List.length_map, List.length_zip] at hi
  have hload := hloads.made i (by omega) (by omega)
  have hvalidate := hvalidates.made i (by rw [List.length_zip, List.length_range']; omega) (by omega)
  simp only [List.getElem_zip, List.getElem_range', one_mul] at hvalidate
  simp only [issuedFor, List.getElem_map, List.getElem_zip]
  refine ⟨?_, ?_⟩
  · simp only [(fields_of_load hload).1]
    exact hload
  · simp only [(fields_of_load hload).1, (fields_of_validate hvalidate).1]
    exact hvalidate

/-- The commands of a tile: its loads, its checks, its barrier. -/
theorem planned_tile (hk : 0 < k) (hkey : name.key = .ok key)
    (howner : ∀ t ∈ ts, (dictGetD t "owner_tile" (.int 0)).key = .ok key) (records : List Fields)
    (hloads : MadeFrom (makeLoadCmd s) k ts loads)
    (hvalidates : MadeFrom (fun id entry => makeValidateCmd s id entry.1 entry.2) (k + ts.length)
      (ts.zip (List.range' k ts.length)) validates) :
    Planned s k [(key, name, records)] (issuedFor ts loads validates)
      (loads ++ validates ++
        [makeBarrierCmd s (k + ts.length + ts.length) name
          ((List.range' (k + ts.length) ts.length).getLast?.getD 0)]) := by
  have hzip : (ts.zip (List.range' k ts.length)).length = ts.length := by simp
  have hlength : validates.length = ts.length := hvalidates.length.trans hzip
  have hloadType : ∀ c ∈ loads, c.commandType = .loadTensorTile :=
    hloads.forall_mem fun t _ id _ _ c hc => (fields_of_load hc).2.1
  have hvalidateType : ∀ c ∈ validates, c.commandType = .validateTensor :=
    hvalidates.forall_mem fun entry _ id _ _ c hc => (fields_of_validate hc).2.1
  have hloadIds : ∀ c ∈ loads, k ≤ c.commandId ∧ c.commandId < k + ts.length :=
    hloads.forall_mem fun t _ id hlow hhigh c hc => (fields_of_load hc).1 ▸ ⟨hlow, hhigh⟩
  have hvalidateIds : ∀ c ∈ validates, k + ts.length ≤ c.commandId ∧ c.commandId < k + ts.length + ts.length :=
    hvalidates.forall_mem fun entry _ id hlow hhigh c hc => by
      rw [(fields_of_validate hc).1]
      omega
  have hlast : (List.range' (k + ts.length) ts.length).getLast?.getD 0 < k + ts.length + ts.length := by
    cases hend : (List.range' (k + ts.length) ts.length).getLast? with
    | none => simp only [Option.getD_none]; omega
    | some last =>
      have hmem := List.mem_of_getLast? hend
      simp only [List.mem_range'_1] at hmem
      exact hmem.2
  have hphases : ∀ c ∈ loads ++ validates ++ [makeBarrierCmd s (k + ts.length + ts.length) name
      ((List.range' (k + ts.length) ts.length).getLast?.getD 0)],
      c.commandType.phase = 0 ∧ c.commandId < k + ts.length ∨
        c.commandType.phase = 1 ∧ k + ts.length ≤ c.commandId ∧ c.commandId < k + ts.length + ts.length ∨
        c.commandType.phase = 2 ∧ c.commandId = k + ts.length + ts.length := by
    refine List.forall_mem_append.mpr ⟨List.forall_mem_append.mpr ⟨fun c hc => ?_, fun c hc => ?_⟩, ?_⟩
    · exact .inl ⟨congrArg CommandType.phase (hloadType c hc), (hloadIds c hc).2⟩
    · exact .inr (.inl ⟨congrArg CommandType.phase (hvalidateType c hc), hvalidateIds c hc⟩)
    · exact List.forall_mem_singleton.mpr (.inr (.inr ⟨rfl, rfl⟩))
  have htiles : ∀ c ∈ loads ++ validates ++ [makeBarrierCmd s (k + ts.length + ts.length) name
      ((List.range' (k + ts.length) ts.length).getLast?.getD 0)], c.tileId.key = .ok key := by
    refine List.forall_mem_append.mpr ⟨List.forall_mem_append.mpr ⟨?_, ?_⟩, List.forall_mem_singleton.mpr hkey⟩
    · exact hloads.forall_mem fun t ht id _ _ c hc => (fields_of_load hc).2.2.1 ▸ howner t ht
    · exact hvalidates.forall_mem fun entry hentry id _ _ c hc =>
        (fields_of_validate hc).2.2.1 ▸ howner entry.1 (List.of_mem_zip hentry).1
  refine ⟨?_, ?_, ?_, ?_, ?_, ?_, fun c hc => ⟨_, List.mem_singleton_self _, htiles c hc⟩, fun c hc => ?_, ?_⟩
  · have hcount : (loads ++ validates ++ [makeBarrierCmd s (k + ts.length + ts.length) name
        ((List.range' (k + ts.length) ts.length).getLast?.getD 0)]).length = ts.length + ts.length + 1 := by
      simp [hloads.length, hlength, add_assoc]
    rw [hcount, List.map_append, List.map_append, hloads.ids fun _ _ _ h => (fields_of_load h).1,
      hvalidates.ids fun _ _ _ h => (fields_of_validate h).1, hzip, List.range'_append_1, List.range'_concat, one_mul,
      ← add_assoc]
    rfl
  · rw [ofType_append, ofType_append, ofType_eq_self hloadType, ofType_eq_nil fun c hc => by
      rw [hvalidateType c hc]; exact nofun, ofType_eq_nil fun c hc => by
      rw [List.mem_singleton.mp hc]; exact nofun, List.append_nil, List.append_nil]
    exact (map_load_issuedFor hloads.length hlength).symm
  · rw [ofType_append, ofType_append, ofType_eq_self hvalidateType, ofType_eq_nil fun c hc => by
      rw [hloadType c hc]; exact nofun, ofType_eq_nil fun c hc => by
      rw [List.mem_singleton.mp hc]; exact nofun, List.append_nil, List.nil_append]
    exact (map_validate_issuedFor hloads.length hlength).symm
  · exact made_issuedFor hloads hvalidates
  · rw [ofType_append, ofType_append, ofType_eq_nil fun c hc => by
      rw [hloadType c hc]; exact nofun, ofType_eq_nil fun c hc => by
      rw [hvalidateType c hc]; exact nofun]
    rfl
  · refine List.forall_mem_append.mpr ⟨List.forall_mem_append.mpr ⟨?_, ?_⟩, List.forall_mem_singleton.mpr hlast⟩
    · refine hloads.forall_mem fun t _ id hlow _ c hc => ?_
      obtain ⟨hid, -, -, hfence, -⟩ := fields_of_load hc
      omega
    · refine hvalidates.forall_mem fun entry hentry id hlow _ c hc => ?_
      obtain ⟨hid, -, -, hfence⟩ := fields_of_validate hc
      have hload := (List.of_mem_zip hentry).2
      simp only [List.mem_range'_1] at hload
      omega
  · have hphase := hphases c hc
    omega
  · intro c hc c' hc' _ hphase
    have hfirst := hphases c hc
    have hsecond := hphases c' hc'
    omega

end Tile

/-! ### All tiles -/

/-- The groups of records that the commands of a run of the planner load and check. -/
structure Grows (s : Session) (b : Builder) (tiles : Groups Fields) (b' : Builder) (issued : List TensorLoad)
    (cmds : List Command) : Prop where
  commands : b'.commands = b.commands ++ cmds
  cmdId : b'.cmdId = b.cmdId + cmds.length
  planned : Planned s b.cmdId tiles issued cmds
  lastBarrier : b'.lastBarrierId < b'.cmdId

/-- What a group of records under their owner tile has. -/
structure TileGroup (g : Json.Key × Json × List Fields) : Prop where
  name : g.2.1.key = .ok g.1
  owner : ∀ t ∈ g.2.2, (dictGetD t "owner_tile" (.int 0)).key = .ok g.1
  readable : ∀ t ∈ g.2.2, Readable t

def sliceOf (t : Fields) : ℚ := (((dictGet t "slice_start").orElse (.int 0)).number?).getD 0

def idOf (t : Fields) : ℤ := ((dictGet t "tensor_id").asInt?).getD 0

theorem Readable.id_eq (h : Readable t) : (dictGetD t "tensor_id" (.int 0)).number? = some (idOf t : ℚ) := by
  obtain ⟨k, hk⟩ := h.id
  have hthere := item_of_not_none (Json.isNone_of_asInt hk)
  have hget : dictGetD t "tensor_id" (.int 0) = dictGet t "tensor_id" := by
    unfold dictGet dictGetD at *
    cases hlookup : t.lookup "tensor_id" with
    | some value => rfl
    | none => simp [Json.item, hlookup] at hthere
  rw [hget, Json.number_of_asInt hk, idOf, hk]
  rfl

theorem Readable.slice_eq (h : Readable t) :
    ((dictGet t "slice_start").orElse (.int 0)).number? = some (sliceOf t) := by
  obtain ⟨q, hq⟩ := h.slice
  rw [sliceOf, hq]
  rfl

/-- What the records of a tile are sorted by: the id, and the start of the slice. -/
def keyOf (t : Fields) : ℚ ×ₗ ℚ := toLex ((idOf t : ℚ), sliceOf t)

theorem lt_tensorKey {t t' : Fields} (h : Readable t) (h' : Readable t') :
    Json.lt (tensorKey t) (tensorKey t') = .ok (decide (keyOf t < keyOf t')) :=
  Json.lt_pair h.id_eq h.slice_eq h'.id_eq h'.slice_eq

/-- **One tile.** -/
theorem planTile_grows {b : Builder} (hb : 0 < b.cmdId) {g : Json.Key × Json × List Fields} (h : TileGroup g) :
    ∃ b' issued cmds, planTile s b g = .ok b' ∧ Grows s b [g] b' issued cmds ∧
      (issued.map TensorLoad.record).Perm g.2.2 := by
  obtain ⟨key, name, records⟩ := g
  obtain ⟨ts, hts, hperm, -⟩ := @sortedBy_of_order _ tensorKey _ _ keyOf records
    fun t ht t' ht' => lt_tensorKey (h.readable t ht) (h.readable t' ht')
  have hread : ∀ t ∈ ts, Readable t := fun t ht => h.readable t (hperm.mem_iff.mp ht)
  obtain ⟨loads, hloop, hloads⟩ := emitAll_ok b fun t ht id => exists_loadCmd (hread t ht) s id
  obtain ⟨validates, hloop', hvalidates⟩ := emitAll_ok
    { b with commands := b.commands ++ loads, cmdId := b.cmdId + ts.length }
    fun entry (hentry : entry ∈ ts.zip (List.range' b.cmdId ts.length)) id =>
      exists_validateCmd (hread entry.1 (List.of_mem_zip hentry).1) s id entry.2
  have hplanned := planned_tile hb h.name (fun t ht => h.owner t (hperm.mem_iff.mp ht)) records hloads hvalidates
  have hzip : (ts.zip (List.range' b.cmdId ts.length)).length = ts.length := by simp
  have hlength : validates.length = ts.length := hvalidates.length.trans hzip
  rw [hzip] at hloop'
  refine ⟨_, _, _, bind_eq_ok.mpr ⟨_, hts, bind_eq_ok.mpr ⟨_, hloop, bind_eq_ok.mpr ⟨_, hloop', rfl⟩⟩⟩,
    ⟨?_, ?_, hplanned, ?_⟩, ?_⟩
  · simp [Builder.emit]
  · simp [Builder.emit, hloads.length, hlength, add_assoc]
  · exact Nat.lt_succ_self _
  · rw [map_record_issuedFor hloads.length hlength]
    exact hperm

/-- **All tiles.** -/
theorem planTiles_grows {b : Builder} (hb : 0 < b.cmdId) (hlast : b.lastBarrierId < b.cmdId) {tiles : Groups Fields}
    (h : ∀ g ∈ tiles, TileGroup g) (hkeys : (tiles.map Prod.fst).Nodup) :
    ∃ b' issued cmds, tiles.foldlM (planTile s) b = .ok b' ∧ Grows s b tiles b' issued cmds ∧
      (issued.map TensorLoad.record).Perm (tiles.flatMap fun g => g.2.2) := by
  induction tiles generalizing b with
  | nil => exact ⟨b, [], [], rfl, ⟨by simp, by simp, planned_nil s b.cmdId, hlast⟩, .refl _⟩
  | cons g tiles ih =>
    obtain ⟨b₁, issued₁, cmds₁, hfirst, hgrows₁, hperm₁⟩ := @planTile_grows s b hb g (h g List.mem_cons_self)
    obtain ⟨b', issued, cmds, hrest, hgrows, hperm⟩ := @ih b₁ (by rw [hgrows₁.cmdId]; omega) hgrows₁.lastBarrier
      (fun g' hg' => h g' (List.mem_cons_of_mem _ hg')) (List.nodup_cons.mp hkeys).2
    refine ⟨b', issued₁ ++ issued, cmds₁ ++ cmds, ?_, ⟨?_, ?_, ?_, hgrows.lastBarrier⟩, ?_⟩
    · rw [List.foldlM_cons, hfirst]
      exact hrest
    · rw [hgrows.commands, hgrows₁.commands, List.append_assoc]
    · rw [hgrows.cmdId, hgrows₁.cmdId, List.length_append, add_assoc]
    · exact hgrows₁.planned.append (hgrows₁.cmdId ▸ hgrows.planned) hkeys
    · rw [List.map_append, List.flatMap_cons]
      exact hperm₁.append hperm

/-! ### The tiles of a plan -/

def nameOf (g : Json.Key × Json × List Fields) : ℤ := (g.2.1.asInt?).getD 0

theorem Validated.key_owner (h : Validated tileCount t) : (dictGet t "owner_tile").key = .ok (ownerKey t) := by
  obtain ⟨k, hk, -⟩ := h.owner
  rw [Json.key_of_asInt hk, ownerKey, ownerOf, hk]
  rfl

theorem Validated.owner_eq (h : Validated tileCount t) : (dictGet t "owner_tile").asInt? = some (ownerOf t) := by
  obtain ⟨k, hk, -⟩ := h.owner
  rw [ownerOf, hk]
  rfl

theorem Validated.owner_default (h : Validated tileCount t) (default : Json) :
    dictGetD t "owner_tile" default = dictGet t "owner_tile" := by
  obtain ⟨k, hk, -⟩ := h.owner
  have hthere := item_of_not_none (Json.isNone_of_asInt hk)
  unfold dictGet dictGetD at *
  cases hlookup : t.lookup "owner_tile" with
  | some value => rfl
  | none => simp [Json.item, hlookup] at hthere

section Tiles

variable {tensors : List Json} {c : Collected}

/-- The owner tile of a group. -/
theorem Collects.name_eq (h : Collects tileCount tensors c) {g : Json.Key × Json × List Fields} (hg : g ∈ c.byTile) :
    g.2.1.asInt? = some (nameOf g) ∧ g.1 = .num (nameOf g) ∧ ∃ t ∈ placedRecords tensors, ownerOf t = nameOf g := by
  obtain ⟨t, ht, hkey, hname⟩ := h.byTile.named g hg
  have howner := (h.validated t ht).owner_eq
  rw [hname] at howner
  have hint : nameOf g = ownerOf t := by
    rw [nameOf, howner]
    rfl
  rw [hint]
  exact ⟨howner, hkey.symm, t, ht, rfl⟩

theorem Collects.tileGroup (h : Collects tileCount tensors c) (hread : ∀ t ∈ placedRecords tensors, Readable t)
    {g : Json.Key × Json × List Fields} (hg : g ∈ c.byTile) : TileGroup g := by
  obtain ⟨hname, hkey, -⟩ := h.name_eq hg
  have hmem : ∀ t ∈ g.2.2, t ∈ placedRecords tensors ∧ ownerKey t = g.1 := by
    intro t ht
    rw [h.byTile.under g hg] at ht
    obtain ⟨hplaced, heq⟩ := List.mem_filter.mp ht
    exact ⟨hplaced, of_decide_eq_true heq⟩
  refine ⟨?_, fun t ht => ?_, fun t ht => hread t (hmem t ht).1⟩
  · rw [hkey]
    exact Json.key_of_asInt hname
  · have hvalid := h.validated t (hmem t ht).1
    rw [hvalid.owner_default, hvalid.key_owner, (hmem t ht).2]

/-- The tiles in the order of their numbers. -/
structure Sorted (tiles byTile : Groups Fields) : Prop where
  sorted : sortedBy (fun tile : Json.Key × Json × List Fields => tile.2.1) byTile = .ok tiles
  perm : tiles.Perm byTile
  increasing : (tiles.map nameOf).Pairwise (· < ·)

theorem Collects.exists_sorted (h : Collects tileCount tensors c) : ∃ tiles, Sorted tiles c.byTile := by
  obtain ⟨tiles, hsorted, hperm, hle⟩ := @sortedBy_of_order _ (fun tile : Json.Key × Json × List Fields => tile.2.1)
    _ _ nameOf c.byTile fun g hg g' hg' => Json.lt_of_asInt (h.name_eq hg).1 (h.name_eq hg').1
  refine ⟨tiles, hsorted, hperm, ?_⟩
  have hkeys : tiles.map Prod.fst = (tiles.map nameOf).map fun k : ℤ => Json.Key.num k := by
    rw [List.map_map]
    exact List.map_congr_left fun g hg => (h.name_eq (hperm.mem_iff.mp hg)).2.1
  have hnodup : (tiles.map nameOf).Nodup := by
    refine List.Nodup.of_map (fun k : ℤ => Json.Key.num k) ?_
    rw [← hkeys]
    exact (hperm.map Prod.fst).nodup_iff.mpr h.byTile.keys
  rw [List.pairwise_map] at *
  exact hle.imp₂ (fun _ _ hle hne => lt_of_le_of_ne hle hne) (List.pairwise_map.mp hnodup)

theorem Collects.mem_names (h : Collects tileCount tensors c) {tiles : Groups Fields} (hperm : tiles.Perm c.byTile)
    (k : ℤ) : k ∈ tiles.map nameOf ↔ ∃ t ∈ placedRecords tensors, ownerOf t = k := by
  rw [(hperm.map nameOf).mem_iff, List.mem_map]
  constructor
  · rintro ⟨g, hg, rfl⟩
    exact (h.name_eq hg).2.2
  · rintro ⟨t, ht, rfl⟩
    obtain ⟨g, hg, hkey⟩ := List.mem_map.mp (h.byTile.complete t ht)
    rw [(h.name_eq hg).2.1, ownerKey, Json.Key.num.injEq, Int.cast_inj] at hkey
    exact ⟨g, hg, hkey⟩

end Tiles

/-! ### The whole plan -/

/-- A complete and well ordered plan for the placed records. -/
structure CompletePlan (s : Session) (placed : List Fields) (commands : List Command) : Prop where
  ids : commands.map Command.commandId = List.range' 1 commands.length
  tensors : ∃ issued : List TensorLoad, (issued.map TensorLoad.record).Perm placed ∧
    ofType .loadTensorTile commands = issued.map TensorLoad.load ∧
    ofType .validateTensor commands = issued.map TensorLoad.validate ∧
    ∀ i ∈ issued, i.Made s ∧ i.load.tileId = dictGet i.record "owner_tile" ∧
      i.validate.tileId = dictGet i.record "owner_tile" ∧ i.validate.fenceId = i.load.commandId
  barriers : ∃ tiles : List ℤ, tiles.Pairwise (· < ·) ∧ (∀ k, k ∈ tiles ↔ ∃ t ∈ placed, ownerOf t = k) ∧
    (ofType .tileBarrier commands).map (fun c => c.tileId.asInt?) = tiles.map some
  fences : ∀ before c after, commands = before ++ c :: after → c.fenceId ≠ 0 →
    ∃ c' ∈ before, c'.commandId = c.fenceId
  tile : ∀ c ∈ commands, ∃ k : ℤ, c.tileId.key = .ok (.num k)
  phases : ∀ c ∈ commands, ∀ c' ∈ commands, c.tileId.key = c'.tileId.key →
    c.commandType.phase < c'.commandType.phase → c.commandId < c'.commandId

/-- In commands that are numbered from 1 a smaller number is that of an earlier command. -/
theorem exists_before {commands before after : List Command} {c : Command} {k : ℕ}
    (hids : commands.map Command.commandId = List.range' 1 commands.length) (hsplit : commands = before ++ c :: after)
    (hk : 0 < k) (hlt : k < c.commandId) : ∃ c' ∈ before, c'.commandId = k := by
  have hboth : before.map Command.commandId ++ c.commandId :: after.map Command.commandId =
      List.range' 1 before.length ++ (1 + before.length) :: List.range' (1 + before.length + 1) after.length := by
    rw [hsplit] at hids
    rw [← List.map_cons, ← List.map_append, hids, ← List.range'_succ, List.range'_append_1, List.length_append,
      List.length_cons]
  obtain ⟨hbefore, htail⟩ := List.append_inj hboth (by simp)
  have hid : c.commandId = 1 + before.length := (List.cons.inj htail).1
  have hmem : k ∈ before.map Command.commandId := by
    rw [hbefore, List.mem_range'_1]
    omega
  exact List.mem_map.mp hmem

section Whole

variable {tiles : Groups Fields} {issued : List TensorLoad} {cmds : List Command} {lastBarrierId : ℕ}

/-- The commands of the tiles and the two that end the plan. -/
def withEnd (s : Session) (cmds : List Command) (lastBarrierId : ℕ) : List Command :=
  cmds ++ [makeQueryCountersCmd s (1 + cmds.length) lastBarrierId,
    makeTraceSnapshotCmd s (1 + cmds.length + 1) lastBarrierId]

theorem ofType_withEnd {type : CommandType} (htype : type.phase ≤ 2) :
    ofType type (withEnd s cmds lastBarrierId) = ofType type cmds := by
  unfold withEnd
  rw [ofType_append]
  have hnone : ofType type [makeQueryCountersCmd s (1 + cmds.length) lastBarrierId,
      makeTraceSnapshotCmd s (1 + cmds.length + 1) lastBarrierId] = [] := by
    cases type with
    | queryCounters => exact absurd htype (by decide)
    | traceSnapshot => exact absurd htype (by decide)
    | _ => rfl
  rw [hnone, List.append_nil]

theorem ids_withEnd (h : Planned s 1 tiles issued cmds) :
    (withEnd s cmds lastBarrierId).map Command.commandId =
      List.range' 1 (withEnd s cmds lastBarrierId).length := by
  unfold withEnd
  rw [List.map_append, h.ids, List.length_append]
  show List.range' 1 cmds.length ++ [1 + cmds.length, 1 + cmds.length + 1] = List.range' 1 (cmds.length + 2)
  rw [← List.range'_append_1]
  rfl

theorem mem_withEnd (h : Planned s 1 tiles issued cmds) (hlast : lastBarrierId < 1 + cmds.length) {c : Command}
    (hc : c ∈ withEnd s cmds lastBarrierId) : c.fenceId < c.commandId ∧
      (c ∈ cmds ∧ c.commandType.phase ≤ 2 ∧ c.commandId < 1 + cmds.length ∨
        c.commandType.phase = 3 ∧ c.commandId = 1 + cmds.length ∨
        c.commandType.phase = 4 ∧ c.commandId = 1 + cmds.length + 1) := by
  rcases List.mem_append.mp hc with hc | hc
  · exact ⟨h.fences c hc, .inl ⟨hc, h.early c hc, (h.id_bounds hc).2⟩⟩
  · rcases List.mem_pair.mp hc with rfl | rfl
    · exact ⟨hlast, .inr (.inl ⟨rfl, rfl⟩)⟩
    · exact ⟨hlast.trans (Nat.lt_succ_self _), .inr (.inr ⟨rfl, rfl⟩)⟩

theorem completePlan_of_planned {placed : List Fields} (h : Planned s 1 tiles issued cmds)
    (hlast : lastBarrierId < 1 + cmds.length) (hperm : (issued.map TensorLoad.record).Perm placed)
    (hvalidated : ∀ t ∈ placed, Validated tileCount t)
    (hnames : ∀ g ∈ tiles, g.2.1.asInt? = some (nameOf g)) (hkeys : ∀ g ∈ tiles, g.1 = .num (nameOf g))
    (hincreasing : (tiles.map nameOf).Pairwise (· < ·))
    (hmem : ∀ k, k ∈ tiles.map nameOf ↔ ∃ t ∈ placed, ownerOf t = k) :
    CompletePlan s placed (withEnd s cmds lastBarrierId) where
  ids := ids_withEnd h
  tensors := by
    refine ⟨issued, hperm, ?_, ?_, fun i hi => ?_⟩
    · rw [ofType_withEnd (by decide), h.loads]
    · rw [ofType_withEnd (by decide), h.validates]
    · have hmade := h.made i hi
      have hvalid := hvalidated i.record (hperm.mem_iff.mp (List.mem_map_of_mem hi))
      obtain ⟨-, -, hload, -⟩ := fields_of_load hmade.load
      obtain ⟨-, -, hvalidate, hfence⟩ := fields_of_validate hmade.validate
      rw [hvalid.owner_default] at hload hvalidate
      exact ⟨hmade, hload, hvalidate, hfence⟩
  barriers := by
    refine ⟨tiles.map nameOf, hincreasing, hmem, ?_⟩
    have hmap := congrArg (List.map Json.asInt?) h.barriers
    rw [List.map_map, List.map_map] at hmap
    rw [ofType_withEnd (by decide)]
    refine Eq.trans hmap ?_
    rw [List.map_map]
    exact List.map_congr_left hnames
  fences before c after hsplit hne := by
    have hc : c ∈ withEnd s cmds lastBarrierId := by simp [hsplit]
    exact exists_before (ids_withEnd h) hsplit (Nat.pos_of_ne_zero hne) (mem_withEnd h hlast hc).1
  tile := by
    refine List.forall_mem_append.mpr ⟨fun c hc => ?_, List.forall_mem_cons.mpr ⟨⟨0, rfl⟩,
      List.forall_mem_singleton.mpr ⟨0, rfl⟩⟩⟩
    obtain ⟨g, hg, hkey⟩ := h.tile c hc
    exact ⟨nameOf g, hkey.trans (congrArg Except.ok (hkeys g hg))⟩
  phases c hc c' hc' hsame hphase := by
    rcases (mem_withEnd h hlast hc).2 with ⟨hc, hlow⟩ | hend | hend
    · rcases (mem_withEnd h hlast hc').2 with ⟨hc', -⟩ | hend | hend
      · exact h.phases c hc c' hc' hsame hphase
      · omega
      · omega
    · rcases (mem_withEnd h hlast hc').2 with hlow | hend' | hend' <;> omega
    · rcases (mem_withEnd h hlast hc').2 with hlow | hend' | hend' <;> omega

end Whole

/-- **The plan** of a report without tensor errors. -/
theorem buildCommands_of_collects {tensors : List Json} {warnings : List FString} {c : Collected}
    (hcollect : collectTensors tileCount strict warnings tensors = .ok c) (h : Collects tileCount tensors c)
    (hread : ∀ t ∈ placedRecords tensors, Readable t) {tiles : Groups Fields} (hsorted : Sorted tiles c.byTile) :
    ∃ commands, buildCommands tileCount strict s warnings tensors = .ok (.plan commands c.warnings) ∧
      CompletePlan s (placedRecords tensors) commands := by
  have hgroup : ∀ g ∈ tiles, TileGroup g := fun g hg => h.tileGroup hread (hsorted.perm.mem_iff.mp hg)
  obtain ⟨b, issued, cmds, hloop, hgrows, hperm⟩ := @planTiles_grows s {} Nat.one_pos Nat.one_pos tiles hgroup
    ((hsorted.perm.map Prod.fst).nodup_iff.mpr h.byTile.keys)
  have hplaced : (issued.map TensorLoad.record).Perm (placedRecords tensors) :=
    (hperm.trans (hsorted.perm.flatMap_right _)).trans h.byTile.perm
  refine ⟨withEnd s cmds b.lastBarrierId, ?_, completePlan_of_planned hgrows.planned ?_ hplaced h.validated
    (fun g hg => (h.name_eq (hsorted.perm.mem_iff.mp hg)).1) (fun g hg => (h.name_eq (hsorted.perm.mem_iff.mp hg)).2.1)
    hsorted.increasing (h.mem_names hsorted.perm)⟩
  · unfold buildCommands
    rw [hcollect]
    show (if (!c.errors.isEmpty) = true then _ else _) = _
    rw [if_neg (by rw [h.errors]; decide)]
    refine bind_eq_ok.mpr ⟨tiles, hsorted.sorted, bind_eq_ok.mpr ⟨b, hloop, ?_⟩⟩
    have hcommands : b.commands = cmds := hgrows.commands.trans (List.nil_append _)
    have hcmdId : b.cmdId = 1 + cmds.length := hgrows.cmdId
    simp only [Builder.emit, hcommands, hcmdId, withEnd, List.append_assoc, List.cons_append, List.nil_append]
  · exact hgrows.cmdId ▸ hgrows.lastBarrier

end Att1.LoadPlan
