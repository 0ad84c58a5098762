import Att1.Lib.Cover
import Att1.Placement.Validate

/-!
# Att1.Placement.Clean — what a report without an issue says

* `mem_pySet`, `isOnly_iff`: the sets of the group checks.
* `CleanRecord`, `group_of_checkGroup`: what the checks of a record and of the records of a tensor leave.
* `clean_of_validate`: a report without an issue has clean records and groups that pass their check.
-/

open Att1.Lib

namespace Att1.Placement

/-! ### What a report says -/

def fieldsOf? : Json → Option Fields
  | .obj fields => some fields
  | _ => none

/-- The objects in one of the lists of a report. -/
def objects (report : Fields) (key : String) : List Fields :=
  (((dictGet report key).asList?).getD []).filterMap fieldsOf?

/-- The tile count of the header. -/
def tileCountOf (report : Fields) : ℤ :=
  match dictGet report "header" with
  | .obj header => ((dictGet header "tile_count").asInt?).getD 0
  | _ => 0

/-- The ids of the tiles that the report lists. -/
def tileIds (report : Fields) : List ℤ :=
  (objects report "tiles").filterMap fun tile => (dictGet tile "tile_id").asInt?

def idOf (rec : Fields) : Option ℤ := (dictGet rec "tensor_id").asInt?

def ownerOf (rec : Fields) : Option ℤ := (dictGet rec "owner_tile").asInt?

def isReplicated (rec : Fields) : Bool := (policyOf rec).eqStr "replicated"

/-- The records of a tensor. -/
def recordsOf (report : Fields) (tid : ℤ) : List Fields :=
  (objects report "tensors").filter fun rec => decide (idOf rec = some tid)

/-- A record of the whole tensor. -/
def isWhole (rec : Fields) : Bool := (dictGet rec "slice_axis").isNone

def axisOf (rec : Fields) : Option ℤ := (dictGet rec "slice_axis").asInt?

/-- The size of the dimension that the record slices. -/
def sliceDim (rec : Fields) : Option ℤ := (dimAt rec (dictGet rec "slice_axis")).bind Json.asInt?

/-- The range from `slice_start` to `slice_end`, empty unless both are integers. -/
def rangeOf (rec : Fields) : ℤ × ℤ :=
  match (dictGet rec "slice_start").asInt?, (dictGet rec "slice_end").asInt? with
  | some s, some e => (s, e)
  | _, _ => (0, 0)

/-! ### Sets -/

section Sets

variable {α β : Type} [DecidableEq β] {key : α → β}

/-- Every element has the key of one that is kept. -/
theorem exists_mem_distinctBy {xs : List α} {x : α} (hx : x ∈ xs) : ∃ y ∈ distinctBy key xs, key y = key x := by
  induction xs with
  | nil => cases hx
  | cons z xs ih =>
    rcases List.mem_cons.mp hx with rfl | hx
    · exact ⟨x, List.mem_cons_self, rfl⟩
    · obtain ⟨y, hy, hkey⟩ := ih hx
      by_cases hz : key y = key z
      · exact ⟨z, List.mem_cons_self, hz.symm.trans hkey⟩
      · exact ⟨y, List.mem_cons_of_mem _ (List.mem_filter.mpr ⟨hy, by simpa using hz⟩), hkey⟩

theorem mem_of_mem_distinctBy {xs : List α} {x : α} (hx : x ∈ distinctBy key xs) : x ∈ xs := by
  induction xs with
  | nil => exact hx
  | cons z xs ih =>
    rcases List.mem_cons.mp hx with rfl | hx
    · exact List.mem_cons_self
    · exact List.mem_cons_of_mem _ (ih (List.mem_of_mem_filter hx))

/-- Elements that all have one key leave one of them. -/
theorem distinctBy_of_forall {x : α} {xs : List α} (h : ∀ y ∈ xs, key y = key x) : distinctBy key (x :: xs) = [x] := by
  have hnone : (distinctBy key xs).filter (fun y => key y ≠ key x) = [] := by
    refine List.filter_eq_nil_iff.mpr fun y hy => ?_
    simpa using h y (mem_of_mem_distinctBy hy)
  show x :: _ = [x]
  rw [hnone]

end Sets

variable {values : List Json} {set : List (Json.Key × Json)} {text : String} {n : ℤ}

/-- The members of a set, under their keys: each is one of the values, and each value has the key of one. -/
theorem mem_pySet (h : pySet values = .ok set) :
    (∀ m ∈ set, m.2 ∈ values ∧ m.2.key = .ok m.1) ∧ ∀ v ∈ values, ∃ m ∈ set, v.key = .ok m.1 := by
  unfold pySet at h
  obtain ⟨keyed, hkeyed, hset⟩ := bind_eq_ok.mp h
  cases hset
  have hall := mapM_eq_ok.mp hkeyed
  constructor
  · intro m hm
    obtain ⟨v, hv, hvm⟩ := exists_of_mem_right hall (mem_of_mem_distinctBy hm)
    obtain ⟨k, hk, hpair⟩ := bind_eq_ok.mp hvm
    cases hpair
    exact ⟨hv, hk⟩
  · intro v hv
    obtain ⟨m, hm, hvm⟩ := exists_of_mem_left hall hv
    obtain ⟨k, hk, hpair⟩ := bind_eq_ok.mp hvm
    cases hpair
    obtain ⟨m', hm', hkey⟩ := @exists_mem_distinctBy _ _ _ Prod.fst _ _ hm
    exact ⟨m', hm', hk.trans (congrArg Except.ok hkey.symm)⟩

/-- A text is the only value with its key. -/
theorem eqStr_iff_key {value : Json} : value.eqStr text = true ↔ value.key = .ok (.str text) := by
  cases value with
  | str t => simp [Json.eqStr, Json.key]
  | _ => simp [Json.eqStr, Json.key]

theorem isNone_iff_key {value : Json} : value.isNone = true ↔ value.key = .ok .null := by
  cases value with
  | null => exact iff_of_true rfl rfl
  | _ => exact iff_of_false Bool.false_ne_true fun h => by cases h

/-- Values with one key leave one of them. -/
theorem pySet_of_forall {v : Json} {k : Json.Key} (h : pySet (v :: values) = .ok set)
    (hkeys : ∀ w ∈ v :: values, w.key = .ok k) : set = [(k, v)] := by
  unfold pySet at h
  obtain ⟨keyed, hkeyed, hset⟩ := bind_eq_ok.mp h
  cases hset
  have hpairs : ∀ w ∈ v :: values, (do let key ← w.key; .ok (key, w) : Py (Json.Key × Json)) = .ok (k, w) := by
    intro w hw
    rw [hkeys w hw]
    rfl
  rw [mapM_eq_ok_map hpairs] at hkeyed
  cases hkeyed
  rw [List.map_cons, distinctBy_of_forall fun y hy => ?_]
  obtain ⟨w, _, rfl⟩ := List.mem_map.mp hy
  rfl

/-- A set has one member exactly where all values have its key. -/
theorem single_iff {k : Json.Key} (h : pySet values = .ok set) (hne : values ≠ []) :
    (∃ v, set = [(k, v)]) ↔ ∀ v ∈ values, v.key = .ok k := by
  constructor
  · rintro ⟨w, rfl⟩ v hv
    obtain ⟨m, hm, hkey⟩ := (mem_pySet h).2 v hv
    rw [hkey, List.mem_singleton.mp hm]
  · intro hall
    cases values with
    | nil => exact absurd rfl hne
    | cons v vs => exact ⟨v, pySet_of_forall h hall⟩

/-- The set has the text and no other member exactly where every value is the text. -/
theorem isOnly_iff (h : pySet values = .ok set) (hne : values ≠ []) :
    isOnly set text = true ↔ ∀ v ∈ values, v.eqStr text = true := by
  simp only [eqStr_iff_key]
  rw [← single_iff h hne]
  match set with
  | [] => simp [isOnly]
  | [(key, value)] =>
    have hown : value.key = .ok key := ((mem_pySet h).1 _ List.mem_cons_self).2
    show value.eqStr text = true ↔ _
    rw [eqStr_iff_key, hown]
    simp
  | _ :: _ :: _ => simp [isOnly]

/-! ### Ranges -/

section Ranges

variable {merged rest : List (ℤ × ℤ)} {last r : ℤ × ℤ} {x : ℤ} {slices : List Slice} {tid : ℤ}

/-- Merging adds no point. -/
theorem exists_of_mem_mergeRanges (hr : r ∈ mergeRanges merged last rest) (hx : inRange x r = true) :
    ∃ r' ∈ merged ++ last :: rest, inRange x r' = true := by
  induction rest generalizing merged last with
  | nil =>
    rw [mergeRanges, List.mem_reverse] at hr
    exact ⟨r, by simpa [or_comm] using hr, hx⟩
  | cons range rest ih =>
    obtain ⟨s, e⟩ := range
    rw [mergeRanges] at hr
    by_cases hmeet : s ≤ last.2
    · rw [if_pos hmeet] at hr
      obtain ⟨r', hr', hx'⟩ := ih hr
      rcases List.mem_append.mp hr' with hr' | hr'
      · exact ⟨r', List.mem_append_left _ hr', hx'⟩
      rcases List.mem_cons.mp hr' with rfl | hr'
      · -- a point of the two is in one of them, as the second begins within the first or at its end
        have hin := inRange_iff.mp hx'
        by_cases hlast : x < last.2
        · exact ⟨last, by simp, inRange_iff.mpr ⟨hin.1, hlast⟩⟩
        · refine ⟨(s, e), by simp, inRange_iff.mpr ?_⟩
          have hmax := hin.2
          simp only at hmax ⊢
          omega
      · exact ⟨r', by simp [hr'], hx'⟩
    · rw [if_neg hmeet] at hr
      obtain ⟨r', hr', hx'⟩ := ih hr
      refine ⟨r', ?_, hx'⟩
      simp only [List.mem_append, List.mem_cons] at hr' ⊢
      tauto

/-- No overlap of neighbours is recorded where each slice ends before the next one begins. -/
theorem overlaps_eq_nil : overlaps tid slices = [] ↔ slices.IsChain fun a b => a.last ≤ b.first := by
  induction slices with
  | nil => simp [overlaps]
  | cons a slices ih =>
    cases slices with
    | nil => simp [overlaps]
    | cons b slices =>
      rw [overlaps, List.isChain_cons_cons, List.append_eq_nil_iff, ih]
      refine and_congr_left fun _ => ?_
      by_cases h : b.first < a.last
      · rw [if_pos h]
        exact iff_of_false (List.cons_ne_nil _ _) (not_le.mpr h)
      · rw [if_neg h]
        exact iff_of_true rfl (not_lt.mp h)

end Ranges

/-! ### Records without an issue -/

variable {n : ℕ} {strict : Bool} {valid : List ℤ} {rec : Fields} {r : RecordName}

theorem asInt_of_intWith {value : Json} {p : ℤ → Bool} (h : intWith value p = true) :
    ∃ k, value.asInt? = some k ∧ p k = true := by
  unfold intWith at h
  cases hint : value.asInt? with
  | none => simp [hint] at h
  | some k => exact ⟨k, rfl, by simpa [hint] using h⟩

/-- A record as the placement needs it. -/
structure CleanRecord (valid : List ℤ) (n : ℕ) (rec : Fields) : Prop where
  owner : ∃ t, ownerOf rec = some t ∧ (valid ≠ [] → t ∈ valid) ∧ t < n
  range : isWhole rec = false → ∃ axis, axisOf rec = some axis ∧ 0 ≤ (rangeOf rec).1 ∧
    (rangeOf rec).1 < (rangeOf rec).2 ∧ sliceOf rec = some ⟨(rangeOf rec).1, (rangeOf rec).2, dictGet rec "owner_tile"⟩
  dim : isWhole rec = false → ∀ d, dimAt rec (dictGet rec "slice_axis") = some d →
    ∃ k, d.asInt? = some k ∧ (rangeOf rec).2 ≤ k

theorem owner_of_checkOwner (hn : 0 < n) (h : checkOwner r valid n rec = []) :
    ∃ t, ownerOf rec = some t ∧ (valid ≠ [] → t ∈ valid) ∧ t < n := by
  unfold checkOwner at h
  by_cases hnone : (dictGet rec "owner_tile").isNone = true
  · rw [if_pos hnone] at h
    cases h
  rw [if_neg hnone] at h
  cases hint : (dictGet rec "owner_tile").asInt? with
  | none => simp [hint] at h
  | some t =>
    simp only [hint] at h
    by_cases hmem : valid ≠ [] ∧ t ∉ valid
    · rw [if_pos hmem] at h
      cases h
    rw [if_neg hmem] at h
    by_cases hout : 0 < n ∧ (n : ℤ) ≤ t
    · rw [if_pos hout] at h
      cases h
    exact ⟨t, hint, fun hne => not_not.mp fun hno => hmem ⟨hne, hno⟩, not_le.mp fun hle => hout ⟨hn, hle⟩⟩

theorem int_of_checkShape (h : checkShape strict r rec "source_shape" = []) {axis d : Json}
    (hd : dimAt rec axis = some d) : ∃ k, d.asInt? = some k := by
  unfold checkShape at h
  by_cases hnone : (dictGet rec "source_shape").isNone = true
  · rw [if_pos hnone] at h
    cases h
  rw [if_neg hnone] at h
  by_cases hshape : isShape (dictGet rec "source_shape") = true
  · unfold isShape at hshape
    unfold dimAt at hd
    cases hlist : (dictGet rec "source_shape").asList? with
    | none => simp [hlist] at hshape
    | some dims =>
      rw [hlist] at hshape hd
      cases haxis : axis.asInt? with
      | none => simp [haxis] at hd
      | some a =>
        simp only [haxis, Option.bind_eq_bind, Option.bind_some] at hd
        by_cases ha : 0 ≤ a
        · rw [if_pos ha] at hd
          obtain ⟨k, hk, -⟩ := asInt_of_intWith (List.all_eq_true.mp hshape d (List.mem_of_getElem? hd))
          exact ⟨k, hk⟩
        · rw [if_neg ha] at hd
          cases hd
  · rw [if_neg hshape] at h
    cases h

/-- A slice that passes its checks is a range from 0 on that ends within the dimension. -/
theorem slice_of_checkSlice (h : checkSlice r rec = .ok []) (hwhole : isWhole rec = false) :
    ∃ axis s e : ℤ, axisOf rec = some axis ∧ (dictGet rec "slice_start").asInt? = some s ∧
      (dictGet rec "slice_end").asInt? = some e ∧ 0 ≤ s ∧ s < e ∧
      checkSliceBound r rec (dictGet rec "slice_axis") (dictGet rec "slice_end") = .ok [] := by
  unfold checkSlice at h
  simp only at h
  rw [if_neg (by simpa [isWhole] using hwhole)] at h
  by_cases hnone : ((dictGet rec "slice_start").isNone || (dictGet rec "slice_end").isNone) = true
  · rw [if_pos hnone] at h
    simp at h
  rw [if_neg hnone] at h
  by_cases hend : (!intWith (dictGet rec "slice_end") fun n => 0 < n) = true
  · rw [if_pos hend] at h
    simp at h
  rw [if_neg hend] at h
  obtain ⟨e, he, -⟩ := asInt_of_intWith (by simpa using hend)
  by_cases hempty : (intWith (dictGet rec "slice_start") fun s => (dictGet rec "slice_end").asInt?.getD 0 ≤ s) = true
  · rw [if_pos hempty] at h
    simp at h
  rw [if_neg hempty] at h
  obtain ⟨bound, hbound, h⟩ := bind_eq_ok.mp h
  have hparts := Except.ok.inj h
  simp only [List.append_eq_nil_iff] at hparts
  obtain ⟨⟨⟨haxes, hfirsts⟩, rfl⟩, -⟩ := hparts
  by_cases haxis : (!intWith (dictGet rec "slice_axis") fun n => 0 ≤ n) = true
  · rw [if_pos haxis] at haxes
    cases haxes
  obtain ⟨axis, haxis, -⟩ := asInt_of_intWith (by simpa using haxis)
  by_cases hfirst : (intWith (dictGet rec "slice_start") fun n => 0 ≤ n) = true
  · obtain ⟨s, hs, h0⟩ := asInt_of_intWith hfirst
    refine ⟨axis, s, e, haxis, hs, he, by simpa using h0, ?_, hbound⟩
    simpa [intWith, hs, he] using hempty
  · rw [if_neg hfirst] at hfirsts
    cases hfirsts

theorem le_of_checkSliceBound {axis last d : Json} {e k : ℤ} (h : checkSliceBound r rec axis last = .ok [])
    (hd : dimAt rec axis = some d) (hk : d.asInt? = some k) (he : last.asInt? = some e) : e ≤ k := by
  unfold checkSliceBound at h
  simp only [hd] at h
  rw [Json.lt_of_asInt hk he] at h
  have hnil := Except.ok.inj h
  by_cases hlt : k < e
  · rw [if_pos (decide_eq_true hlt)] at hnil
    cases hnil
  · exact not_lt.mp hlt

theorem cleanRecord_of_checkRecord (hn : 0 < n) (h : checkRecord strict valid n r rec = .ok []) :
    CleanRecord valid n rec := by
  unfold checkRecord at h
  obtain ⟨category, -, h⟩ := bind_eq_ok.mp h
  obtain ⟨dtype, -, h⟩ := bind_eq_ok.mp h
  obtain ⟨slice, hslice, h⟩ := bind_eq_ok.mp h
  obtain ⟨policy, -, h⟩ := bind_eq_ok.mp h
  obtain ⟨reduction, -, h⟩ := bind_eq_ok.mp h
  obtain ⟨routing, -, h⟩ := bind_eq_ok.mp h
  obtain ⟨status, -, h⟩ := bind_eq_ok.mp h
  have hparts := Except.ok.inj h
  simp only [List.append_eq_nil_iff] at hparts
  obtain ⟨⟨⟨⟨⟨⟨⟨⟨⟨⟨⟨⟨-, hshape⟩, -⟩, -⟩, -⟩, -⟩, -⟩, howner⟩, rfl⟩, -⟩, -⟩, -⟩, -⟩ := hparts
  refine ⟨owner_of_checkOwner hn howner, fun hwhole => ?_, fun hwhole d hd => ?_⟩
  · obtain ⟨axis, s, e, haxis, hs, he, h0, hlt, -⟩ := slice_of_checkSlice hslice hwhole
    have hrange : rangeOf rec = (s, e) := by simp [rangeOf, hs, he]
    rw [hrange]
    exact ⟨axis, haxis, h0, hlt, by simp [sliceOf, hs, he, hlt]⟩
  · obtain ⟨axis, s, e, -, hs, he, -, -, hbound⟩ := slice_of_checkSlice hslice hwhole
    obtain ⟨k, hk⟩ := int_of_checkShape hshape hd
    have hrange : rangeOf rec = (s, e) := by simp [rangeOf, hs, he]
    rw [hrange]
    exact ⟨k, hk, le_of_checkSliceBound hbound hd hk he⟩

/-! ### Lists without an issue -/

/-- Without an issue the valid ids are those of the tiles. -/
theorem checkTiles_clean {items : List Json} {seen ids : List ℤ} {i : ℕ}
    (h : checkTiles strict n seen i items = .ok (ids, [])) :
    ids = (items.filterMap fieldsOf?).filterMap fun tile => (dictGet tile "tile_id").asInt? := by
  induction items generalizing seen i ids with
  | nil =>
    cases h
    rfl
  | cons item items ih =>
    cases item with
    | obj tile =>
      rw [checkTiles] at h
      simp only at h
      by_cases hnone : (dictGet tile "tile_id").isNone = true
      · rw [if_pos hnone] at h
        obtain ⟨rest, -, h⟩ := bind_eq_ok.mp h
        cases h
      rw [if_neg hnone] at h
      cases hint : (dictGet tile "tile_id").asInt? with
      | none =>
        simp only [hint] at h
        obtain ⟨rest, -, h⟩ := bind_eq_ok.mp h
        cases h
      | some t =>
        simp only [hint] at h
        by_cases hseen : t ∈ seen
        · rw [if_pos hseen] at h
          obtain ⟨rest, -, h⟩ := bind_eq_ok.mp h
          cases h
        rw [if_neg hseen] at h
        by_cases hout : 0 < n ∧ (n : ℤ) ≤ t
        · rw [if_pos hout] at h
          obtain ⟨rest, -, h⟩ := bind_eq_ok.mp h
          cases h
        rw [if_neg hout] at h
        obtain ⟨issues, -, h⟩ := bind_eq_ok.mp h
        obtain ⟨⟨valid, rest⟩, hrest, h⟩ := bind_eq_ok.mp h
        obtain ⟨rfl, hnil⟩ := Prod.mk.inj (Except.ok.inj h)
        obtain ⟨-, rfl⟩ := List.append_eq_nil_iff.mp hnil
        rw [ih hrest, List.filterMap_cons_some (show fieldsOf? (.obj tile) = some tile from rfl),
          List.filterMap_cons_some (f := fun tile => (dictGet tile "tile_id").asInt?) hint]
    | _ =>
      rw [checkTiles] at h
      · obtain ⟨rest, -, h⟩ := bind_eq_ok.mp h
        cases h
      · rintro tile ⟨⟩

theorem checkTensorId_fst (i : ℕ) (rec : Fields) : (checkTensorId i rec).1 = idOf rec := by
  unfold checkTensorId idOf
  cases hint : (dictGet rec "tensor_id").asInt? with
  | none =>
    simp only [hint]
    split_ifs <;> rfl
  | some t =>
    simp only [hint]
    rw [if_neg (by simp [Json.isNone_of_asInt hint])]

/-- The records under their ids. -/
def identified (recs : List Fields) : List (ℤ × Fields) := recs.filterMap fun rec => (idOf rec).map fun t => (t, rec)

/-- The records with an id are kept. -/
theorem kept_of_checkRecords {ids : List ℤ} {items : List Json} {seen : List ℤ} {i n : ℕ}
    {x : List (ℤ × Fields) × List Issue} (h : checkRecords strict ids n seen i items = .ok x) :
    x.1 = identified (items.filterMap fieldsOf?) := by
  induction items generalizing seen i x with
  | nil =>
    rw [← Except.ok.inj h]
    rfl
  | cons item items ih =>
    cases item with
    | obj rec =>
      rw [checkRecords] at h
      simp only at h
      obtain ⟨issues, -, h⟩ := bind_eq_ok.mp h
      obtain ⟨rest, hrest, h⟩ := bind_eq_ok.mp h
      rw [← Except.ok.inj h, List.filterMap_cons_some (show fieldsOf? (.obj rec) = some rec from rfl)]
      simp only
      rw [ih hrest, checkTensorId_fst]
      unfold identified
      cases hown : idOf rec with
      | none => rw [List.filterMap_cons_none (by rw [hown]; rfl)]; rfl
      | some t => rw [List.filterMap_cons_some (by rw [hown]; rfl)]; rfl
    | _ =>
      rw [checkRecords] at h
      · obtain ⟨rest, hrest, h⟩ := bind_eq_ok.mp h
        rw [← Except.ok.inj h]
        exact (ih hrest :)
      · rintro rec ⟨⟩

/-- Without an issue every record is clean. -/
theorem checkRecords_clean {items : List Json} {seen : List ℤ} {i : ℕ} {kept : List (ℤ × Fields)} (hn : 0 < n)
    (h : checkRecords strict valid n seen i items = .ok (kept, [])) :
    ∀ rec ∈ items.filterMap fieldsOf?, CleanRecord valid n rec := by
  induction items generalizing seen i kept with
  | nil => exact fun rec hrec => absurd hrec List.not_mem_nil
  | cons item items ih =>
    cases item with
    | obj rec =>
      rw [checkRecords] at h
      simp only at h
      obtain ⟨issues, hissues, h⟩ := bind_eq_ok.mp h
      obtain ⟨⟨kept', rest⟩, hrest, h⟩ := bind_eq_ok.mp h
      obtain ⟨-, hnil⟩ := Prod.mk.inj (Except.ok.inj h)
      simp only [List.append_eq_nil_iff] at hnil
      obtain ⟨⟨⟨-, rfl⟩, -⟩, rfl⟩ := hnil
      rw [List.filterMap_cons_some (show fieldsOf? (.obj rec) = some rec from rfl)]
      exact List.forall_mem_cons.mpr ⟨cleanRecord_of_checkRecord hn hissues, ih hrest⟩
    | _ =>
      rw [checkRecords] at h
      · obtain ⟨rest, -, h⟩ := bind_eq_ok.mp h
        cases h
      · rintro rec ⟨⟩

/-- The records kept under an id are the records with it. -/
theorem filter_identified (recs : List Fields) (tid : ℤ) :
    ((identified recs).filter fun p => p.1 = tid).map Prod.snd =
      recs.filter fun rec => decide (idOf rec = some tid) := by
  induction recs with
  | nil => rfl
  | cons rec recs ih =>
    unfold identified at ih ⊢
    cases hown : idOf rec with
    | none =>
      rw [List.filterMap_cons_none (by rw [hown]; rfl), List.filter_cons_of_neg (by simp [hown])]
      exact ih
    | some t =>
      rw [List.filterMap_cons_some (by rw [hown]; rfl)]
      by_cases ht : t = tid
      · rw [List.filter_cons_of_pos (by simpa using ht), List.filter_cons_of_pos (by simp [hown, ht]), List.map_cons,
          ih]
      · rw [List.filter_cons_of_neg (by simpa using ht), List.filter_cons_of_neg (by simp [hown, ht]), ih]

/-- The groups have the records of every tensor. -/
theorem mem_byId {recs : List Fields} {tid : ℤ} (hrec : rec ∈ recs) (hid : idOf rec = some tid) :
    (tid, recs.filter fun rec => decide (idOf rec = some tid)) ∈ byId (identified recs) := by
  have hmem : (tid, rec) ∈ identified recs := by
    unfold identified
    exact List.mem_filterMap.mpr ⟨rec, hrec, by simp [hid]⟩
  obtain ⟨first, hfirst, hkey⟩ := @exists_mem_distinctBy _ _ _ Prod.fst _ _ hmem
  refine List.mem_map.mpr ⟨first, hfirst, ?_⟩
  simp only at hkey
  rw [hkey, filter_identified]

/-! ### The records of a tensor -/

variable {tid : ℤ} {recs : List Fields} {axis : Json} {slices : List Slice}

/-- The pair that a slice covers. -/
def Slice.range (s : Slice) : ℤ × ℤ := (s.first, s.last)

/-- Slices without an overlap of neighbours are apart. -/
theorem apart_of_overlaps (hsorted : sortSlices (recs.filterMap sliceOf) = .ok slices)
    (hnone : overlaps tid slices = []) (hclean : ∀ rec ∈ recs, CleanRecord valid n rec)
    (hsliced : ∀ rec ∈ recs, isWhole rec = false) :
    (recs.map rangeOf).Pairwise (Apart Prod.fst Prod.snd) ∧ (slices.map Slice.range).Perm (recs.map rangeOf) := by
  have hperm : (slices.map Slice.range).Perm (recs.map rangeOf) := by
    have hslices : (recs.filterMap sliceOf).map Slice.range = recs.map rangeOf := by
      rw [List.map_filterMap]
      refine List.filterMap_eq_map_iff_forall_eq_some.mpr fun rec hrec => ?_
      obtain ⟨_, -, -, -, hslice⟩ := (hclean rec hrec).range (hsliced rec hrec)
      rw [hslice]
      rfl
    rw [← hslices]
    exact (sortedBy_perm hsorted).map Slice.range
  refine ⟨?_, hperm⟩
  have hchain : (slices.map Slice.range).IsChain fun a b => a.2 ≤ b.1 := by
    rw [List.isChain_map]
    exact overlaps_eq_nil.mp hnone
  have horder : ∀ r ∈ slices.map Slice.range, r.1 ≤ r.2 := by
    intro r hr
    obtain ⟨rec, hrec, rfl⟩ := List.mem_map.mp (hperm.subset hr)
    obtain ⟨_, -, -, hlt, -⟩ := (hclean rec hrec).range (hsliced rec hrec)
    exact hlt.le
  have hpairs := pairwise_of_isChain horder hchain
  exact (hperm.pairwise_iff Apart.symm).mp (hpairs.imp fun hab => Or.inl hab)

/-- Slices with no warning of their coverage leave no gap, if every status is `placed`. -/
theorem gapless_of_checkCoverage {d : Json} {dim : ℤ} (h : checkCoverage strict tid recs axis slices = .ok [])
    (hhead : (recs.head?.bind fun rec => dimAt rec axis) = some d) (hd : d.asInt? = some dim) (hne : slices ≠ [])
    (hplaced : ∀ rec ∈ recs, (statusOf rec).eqStr "placed" = true) :
    ∀ x, 0 ≤ x → x < dim → ∃ r ∈ slices.map Slice.range, inRange x r = true := by
  have hwarns : ¬ checkCoverage.uncovered strict tid recs d = .ok [] := by
    intro hnone
    unfold checkCoverage.uncovered at hnone
    obtain ⟨statuses, hset, hnone⟩ := bind_eq_ok.mp hnone
    have hrecs : recs.map statusOf ≠ [] := by
      cases recs with
      | nil => cases hhead
      | cons rec recs => exact List.cons_ne_nil _ _
    have honly : isOnly statuses "placed" = true := by
      rw [isOnly_iff hset hrecs]
      exact List.forall_mem_map.mpr hplaced
    rw [if_pos honly] at hnone
    cases hnone
  unfold checkCoverage at h
  have hrange : ∀ r ∈ coveredRanges slices, r ∈ slices.map Slice.range := fun r hr => mem_of_mem_distinctBy hr
  cases hcovered : coveredRanges slices with
  | nil =>
    cases slices with
    | nil => exact absurd rfl hne
    | cons s slices => cases hcovered
  | cons range ranges =>
    rw [hcovered] at hrange
    simp only [hhead, hcovered] at h
    intro x h0 hx
    cases hmerged : mergeRanges [] range ranges with
    | nil => exact absurd (by simpa only [hmerged] using h) hwarns
    | cons last more =>
      cases more with
      | cons _ _ => exact absurd (by simpa only [hmerged] using h) hwarns
      | nil =>
        obtain ⟨s, e⟩ := last
        simp only [hmerged] at h
        by_cases hall : s = 0 ∧ d.eq (.int e)
        · obtain ⟨rfl, hdim⟩ := hall
          rw [Json.eq_int_right hd] at hdim
          obtain rfl := of_decide_eq_true hdim
          obtain ⟨r, hr, hin⟩ := exists_of_mem_mergeRanges (hmerged ▸ List.mem_cons_self) (inRange_iff.mpr ⟨h0, hx⟩)
          exact ⟨r, hrange r (by simpa using hr), hin⟩
        · rw [if_neg hall] at h
          exact absurd h hwarns

theorem dimAt_congr {a b : Json} (h : a.asInt? = b.asInt?) (rec : Fields) : dimAt rec a = dimAt rec b := by
  unfold dimAt
  rw [h]

/-- The dimension that the coverage is checked against. -/
theorem head_of_sliceDim {dim : ℤ} (hne : recs ≠ []) (hdim : ∀ rec ∈ recs, sliceDim rec = some dim)
    (haxis : ∀ rec ∈ recs, axisOf rec = axis.asInt?) :
    ∃ d, (recs.head?.bind fun rec => dimAt rec axis) = some d ∧ d.asInt? = some dim := by
  cases recs with
  | nil => exact absurd rfl hne
  | cons rec recs =>
    have hown := hdim rec List.mem_cons_self
    unfold sliceDim at hown
    rw [dimAt_congr (haxis rec List.mem_cons_self)] at hown
    exact Option.bind_eq_some_iff.mp hown

/-- What the check of a group says of records that are not all replicated. -/
theorem group_of_checkGroup (h : checkGroup strict tid recs = .ok []) (hlen : 2 ≤ recs.length)
    (hclean : ∀ rec ∈ recs, CleanRecord valid n rec) (hpolicy : ∃ rec ∈ recs, isReplicated rec = false) :
    (∃ axis, ∀ rec ∈ recs, isWhole rec = false ∧ axisOf rec = some axis) ∧
      (recs.map rangeOf).Pairwise (Apart Prod.fst Prod.snd) ∧
      ∀ dim, (∀ rec ∈ recs, sliceDim rec = some dim) → (∀ rec ∈ recs, (statusOf rec).eqStr "placed" = true) →
        ∀ x, 0 ≤ x → x < dim → ∃ r ∈ recs.map rangeOf, inRange x r = true := by
  obtain ⟨rec₀, hrec₀, hunique⟩ := hpolicy
  unfold checkGroup at h
  rw [if_neg (by omega)] at h
  obtain ⟨axes, haxes, h⟩ := bind_eq_ok.mp h
  obtain ⟨policies, hpolicies, h⟩ := bind_eq_ok.mp h
  have hmixed : ¬ isOnly policies "replicated" = true := by
    intro honly
    rw [isOnly_iff hpolicies (List.ne_nil_of_mem (List.mem_map_of_mem hrec₀))] at honly
    have hall := honly _ (List.mem_map_of_mem hrec₀)
    unfold isReplicated at hunique
    rw [hunique] at hall
    cases hall
  rw [if_neg hmixed] at h
  obtain ⟨hmem, hkeys⟩ := mem_pySet haxes
  match axes with
  | [] =>
    obtain ⟨m, hm, -⟩ := hkeys _ (List.mem_map_of_mem hrec₀)
    cases hm
  | _ :: _ :: _ => cases h
  | [(key, axis)] =>
    have hshared : ∀ rec ∈ recs, (dictGet rec "slice_axis").key = .ok key := by
      intro rec hrec
      obtain ⟨m, hm, hkey⟩ := hkeys _ (List.mem_map_of_mem hrec)
      obtain rfl := List.mem_singleton.mp hm
      exact hkey
    have haxis := (hmem _ List.mem_cons_self).2
    simp only at h haxis
    by_cases hnone : axis.isNone = true
    · -- whole records, of which one is not replicated
      rw [if_pos hnone, if_pos (List.any_eq_true.mpr ⟨rec₀, hrec₀, by simpa [isReplicated] using hunique⟩)] at h
      cases h
    rw [if_neg hnone] at h
    obtain ⟨slices, hsorted, h⟩ := bind_eq_ok.mp h
    obtain ⟨coverage, hcoverage, h⟩ := bind_eq_ok.mp h
    obtain ⟨reductions, -, h⟩ := bind_eq_ok.mp h
    have hparts := Except.ok.inj h
    simp only [List.append_eq_nil_iff] at hparts
    obtain ⟨⟨hnone', rfl⟩, -⟩ := hparts
    have hsliced : ∀ rec ∈ recs, isWhole rec = false := by
      intro rec hrec
      refine Bool.eq_false_iff.mpr fun hwhole => hnone ?_
      rw [isNone_iff_key, haxis, ← hshared rec hrec]
      exact isNone_iff_key.mp hwhole
    obtain ⟨a, ha, -⟩ := (hclean rec₀ hrec₀).range (hsliced rec₀ hrec₀)
    have hkey : key = .num a := Except.ok.inj ((hshared rec₀ hrec₀).symm.trans (Json.key_of_asInt ha))
    have hagree : ∀ rec ∈ recs, axisOf rec = some a := by
      intro rec hrec
      obtain ⟨b, hb, -⟩ := (hclean rec hrec).range (hsliced rec hrec)
      have hkey' := Except.ok.inj ((hshared rec hrec).symm.trans (Json.key_of_asInt hb))
      rw [hkey] at hkey'
      have hab : a = b := by exact_mod_cast Json.Key.num.inj hkey'
      rw [hab]
      exact hb
    obtain ⟨hapart, hperm⟩ := apart_of_overlaps hsorted hnone' hclean hsliced
    refine ⟨⟨a, fun rec hrec => ⟨hsliced rec hrec, hagree rec hrec⟩⟩, hapart, fun dim hdim hplaced x h0 hx => ?_⟩
    have hint : axis.asInt? = some a := by
      obtain ⟨rec, hrec, rfl⟩ := List.mem_map.mp (hmem _ List.mem_cons_self).1
      exact hagree rec hrec
    obtain ⟨d, hhead, hd⟩ := head_of_sliceDim (List.ne_nil_of_mem hrec₀) hdim fun rec hrec =>
      (hagree rec hrec).trans hint.symm
    have hne : slices ≠ [] := by
      rintro rfl
      exact List.ne_nil_of_mem (List.mem_map_of_mem hrec₀) (List.nil_perm.mp hperm)
    obtain ⟨r, hr, hin⟩ := gapless_of_checkCoverage hcoverage hhead hd hne hplaced x h0 hx
    exact ⟨r, hperm.subset hr, hin⟩

/-! ### Reports without an issue -/

variable {report : Fields}

/-- What a report without an issue gives. -/
structure CleanReport (strict : Bool) (report : Fields) (n : ℕ) : Prop where
  count : tileCountOf report = n
  records : ∀ rec ∈ objects report "tensors", CleanRecord (tileIds report) n rec
  groups : ∀ tid, recordsOf report tid ≠ [] → checkGroup strict tid (recordsOf report tid) = .ok []

theorem tileCount_of_validateHeader (h : validateHeader strict report = .ok (n, [])) :
    0 < n ∧ tileCountOf report = n := by
  unfold validateHeader at h
  simp only at h
  by_cases hnone : (dictGet report "header").isNone = true
  · rw [if_pos hnone] at h
    cases h
  rw [if_neg hnone] at h
  obtain ⟨version, -, h⟩ := bind_eq_ok.mp h
  obtain ⟨named, -, h⟩ := bind_eq_ok.mp h
  obtain ⟨header, hheader, h⟩ := bind_eq_ok.mp h
  obtain ⟨dtype, -, h⟩ := bind_eq_ok.mp h
  obtain ⟨family, -, h⟩ := bind_eq_ok.mp h
  obtain ⟨hn, hnil⟩ := Prod.mk.inj (Except.ok.inj h)
  simp only [List.append_eq_nil_iff] at hnil
  obtain ⟨⟨-, htiles⟩, -⟩ := hnil
  have hobj : dictGet report "header" = .obj header := by
    cases hvalue : dictGet report "header" with
    | obj fields =>
      rw [hvalue] at hheader
      exact congrArg Json.obj (Except.ok.inj hheader)
    | _ =>
      rw [hvalue] at hheader
      cases hheader
  unfold checkTileCount at hn htiles
  simp only at hn htiles
  by_cases habsent : (dictGet header "tile_count").isNone = true
  · rw [if_pos habsent] at htiles
    cases htiles
  rw [if_neg habsent] at hn htiles
  by_cases hcount : (intWith (dictGet header "tile_count") fun n => 0 < n) = true
  · rw [if_pos hcount] at hn
    obtain ⟨k, hk, hpos⟩ := asInt_of_intWith hcount
    have hpos : 0 < k := of_decide_eq_true hpos
    rw [hk] at hn
    simp only [Option.getD_some] at hn
    have hcountOf : tileCountOf report = k := by
      unfold tileCountOf
      rw [hobj]
      simp only [hk, Option.getD_some]
    omega
  · rw [if_neg hcount] at htiles
    cases htiles

theorem objects_of_arr {items : List Json} {key : String} (h : dictGetD report key (.arr []) = .arr items) :
    objects report key = items.filterMap fieldsOf? := by
  unfold dictGetD at h
  unfold objects dictGet dictGetD
  cases hvalue : report.lookup key with
  | none =>
    rw [hvalue] at h
    obtain rfl := Json.arr.inj h
    rfl
  | some value =>
    rw [hvalue] at h
    simp only [Option.getD_some] at h
    subst h
    rfl

theorem tileIds_of_validateTiles {ids : List ℤ} (h : validateTiles strict report n = .ok (ids, [])) :
    ids = tileIds report := by
  unfold validateTiles at h
  cases hvalue : dictGetD report "tiles" (.arr []) with
  | arr items =>
    simp only [hvalue] at h
    unfold tileIds
    rw [objects_of_arr hvalue]
    exact checkTiles_clean h
  | _ =>
    simp only [hvalue] at h
    cases h

theorem clean_of_validate (h : validate strict report = .ok []) : ∃ n, CleanReport strict report n := by
  unfold validate at h
  obtain ⟨⟨n, header⟩, hheader, h⟩ := bind_eq_ok.mp h
  obtain ⟨⟨ids, tiles⟩, htiles, h⟩ := bind_eq_ok.mp h
  obtain ⟨tensors, htensors, h⟩ := bind_eq_ok.mp h
  have hparts := Except.ok.inj h
  simp only [List.append_eq_nil_iff] at hparts
  obtain ⟨⟨⟨rfl, -⟩, rfl⟩, rfl⟩ := hparts
  obtain ⟨hn, hcount⟩ := tileCount_of_validateHeader hheader
  obtain rfl := tileIds_of_validateTiles htiles
  unfold validateTensors at htensors
  cases hvalue : dictGetD report "tensors" (.arr []) with
  | arr items =>
    simp only [hvalue] at htensors
    obtain ⟨⟨kept, issues⟩, hrecords, htensors⟩ := bind_eq_ok.mp htensors
    obtain ⟨groups, hgroups, htensors⟩ := bind_eq_ok.mp htensors
    obtain ⟨rfl, hnone⟩ := List.append_eq_nil_iff.mp (Except.ok.inj htensors)
    have hclean := checkRecords_clean hn hrecords
    obtain rfl : kept = _ := kept_of_checkRecords hrecords
    rw [← objects_of_arr hvalue] at hclean hgroups
    refine ⟨n, hcount, hclean, fun tid hne => ?_⟩
    obtain ⟨rec, hrec⟩ := List.exists_mem_of_ne_nil _ hne
    obtain ⟨hmem, hid⟩ := List.mem_filter.mp hrec
    obtain ⟨found, hfound, hok⟩ := exists_of_mem_left (mapM_eq_ok.mp hgroups) (mem_byId hmem (of_decide_eq_true hid))
    rw [List.flatten_eq_nil_iff.mp hnone found hfound] at hok
    exact hok
  | _ =>
    simp only [hvalue] at htensors
    cases htensors

end Att1.Placement
