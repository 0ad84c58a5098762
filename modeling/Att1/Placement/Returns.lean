import Att1.Lib.Order
import Att1.Placement.Clean

/-!
# Att1.Placement.Returns — the placement reports that the validator decides

* `HeaderScalars`, `TileFits`, `RecordFits`: what the checks of the header, of a tile and of a record rely on.
* `GroupFits`: what the checks of the records of a tensor rely on: sets, sorted slices.
* `validate_returns`: nothing else can raise.
-/

open Att1.Lib

namespace Att1.Placement

variable {strict : Bool} {report tile rec : Fields} {n : ℕ} {r : RecordName}

/-! ### What the validator relies on -/

/-- The header is absent, or an object with fields that are looked up, and so is the version then. -/
def HeaderScalars (report : Fields) : Prop :=
  (dictGet report "header").isNone = true ∨
    ∃ header, dictGet report "header" = .obj header ∧ Scalars ["report_version"] report ∧
      Scalars ["dtype", "quantization_family"] header

/-- A utilization that is compared is a number, and one that is formatted can be converted to a float. -/
def UtilizationFits (tile : Fields) : Prop :=
  (dictGet tile "capacity_status").inTuple validCapacityStatuses = true →
    (dictGet tile "memory_utilization_percent").isNone = false →
    ∃ q, (dictGet tile "memory_utilization_percent").number? = some q ∧
      ((dictGet tile "capacity_status").eqStr "PASS" = true → 100 < q →
        ∀ k, dictGet tile "memory_utilization_percent" = .int k → fitsFloat k = true)

/-- What the checks of a tile rely on. -/
structure TileFits (tile : Fields) : Prop where
  fields : Scalars ["capacity_status", "bandwidth_status"] tile
  utilization : UtilizationFits tile

def tileIdOf (tile : Fields) : Option ℤ := (dictGet tile "tile_id").asInt?

/-- The first tile with an id that is new, and below the tile count, if there is one. -/
def FirstWithId (n : ℕ) (seen : List ℤ) (tiles : List Fields) (tile : Fields) : Prop :=
  ∃ before after t, tiles = before ++ tile :: after ∧ tileIdOf tile = some t ∧ t ∉ seen ∧
    (∀ other ∈ before, tileIdOf other ≠ some t) ∧ (0 < n → t < n)

/-- A dimension that the end of a slice is compared with is a number. -/
def SliceFits (rec : Fields) : Prop :=
  ∀ dim e, dimAt rec (dictGet rec "slice_axis") = some dim → (dictGet rec "slice_end").asInt? = some e → 0 < e →
    (dictGet rec "slice_start").isNone = false → (∀ s, (dictGet rec "slice_start").asInt? = some s → s < e) →
    dim.number?.isSome = true

/-- What the checks of a record rely on. -/
structure RecordFits (rec : Fields) : Prop where
  fields : Scalars ["tensor_category", "dtype", "replication_policy", "reduction_behavior", "routing_requirements",
    "placement_status"] rec
  slice : SliceFits rec

/-- Slices of one range have tiles that can be compared. -/
def OwnersCompare (a b : Slice) : Prop :=
  a.first = b.first → a.last = b.last → ∃ o, Json.order a.owner b.owner = some o

/-- The records slice one axis. -/
def SliceOneAxis (records : List Fields) : Prop :=
  ∃ k, k ≠ .null ∧ ∀ rec ∈ records, (dictGet rec "slice_axis").key = .ok k

/-- No record has a reduction: all say so, or all have `null` for it. -/
def Unreduced (records : List Fields) : Prop :=
  (∀ rec ∈ records, (dictGetD rec "reduction_behavior" (.str "none")).eqStr "none" = true) ∨
    ∀ rec ∈ records, (dictGetD rec "reduction_behavior" (.str "none")).isNone = true

/-- What the checks of the records of a tensor rely on. -/
structure GroupFits (records : List Fields) : Prop where
  axes : ∀ rec ∈ records, Scalars ["slice_axis"] rec
  slices : (∃ rec ∈ records, isReplicated rec = false) → SliceOneAxis records →
    (records.filterMap sliceOf).Pairwise OwnersCompare
  names : (∃ rec ∈ records, isReplicated rec = false) → SliceOneAxis records → Unreduced records →
    ∀ rec ∈ records, Scalars ["tensor_name"] rec

/-- What the validator relies on in a report. -/
structure ReportScalars (report : Fields) : Prop where
  header : HeaderScalars report
  tiles : ∀ tile, FirstWithId (tileCountOf report).toNat [] (objects report "tiles") tile → TileFits tile
  records : ∀ rec ∈ objects report "tensors", RecordFits rec
  groups : ∀ tid, 2 ≤ (recordsOf report tid).length → GroupFits (recordsOf report tid)

/-! ### Header -/

@[simp] theorem returns_notIn {value : Json} {texts : List String} :
    Returns (notIn value texts) ↔ value.isContainer = false := by
  unfold notIn
  rw [returns_bind_ok, returns_inSet]

theorem checkVersion_returns :
    Returns (checkVersion report) ↔ (dictGet report "report_version").isContainer = false := by
  unfold checkVersion
  exact returns_lookup_ok returns_key

theorem checkDtype_returns {header : Fields} :
    Returns (checkDtype header) ↔ (dictGet header "dtype").isContainer = false := by
  unfold checkDtype
  exact returns_lookup_ok returns_notIn

theorem checkQuantizationFamily_returns {header : Fields} :
    Returns (checkQuantizationFamily strict header) ↔ (dictGet header "quantization_family").isContainer = false := by
  unfold checkQuantizationFamily
  exact returns_lookup_ok returns_notIn

theorem validateHeader_returns : Returns (validateHeader strict report) ↔ HeaderScalars report := by
  unfold validateHeader HeaderScalars
  cases hheader : dictGet report "header" with
  | null => exact iff_of_true (returns_ok _) (Or.inl rfl)
  | obj header =>
    rw [if_neg (by simp [Json.isNone])]
    simp only [Json.contains, Json.asObj, bind_of_ok]
    rw [returns_bind_iff fun _ _ => returns_bind_iff fun _ _ => returns_bind_ok, checkVersion_returns,
      checkDtype_returns, checkQuantizationFamily_returns]
    simp [Json.isNone]
  | _ =>
    refine iff_of_false (fun h => ?_) (by simp [Json.isNone])
    obtain ⟨_, -, h⟩ := returns_bind.mp h
    obtain ⟨_, -, h⟩ := returns_bind.mp h
    obtain ⟨_, hobj, -⟩ := returns_bind.mp h
    cases hobj

/-! ### Tiles -/

theorem fixedOne_returns {value : Json} : Returns (fixedOne value) ↔ Returns value.isFinite := by
  unfold fixedOne
  exact returns_bind_ok

theorem inSet_of_scalar {value : Json} {texts : List String} (h : value.isContainer = false) :
    value.inSet texts = .ok (value.inTuple texts) := by
  obtain ⟨k, hk⟩ := value.exists_key.mpr h
  unfold Json.inSet Json.inTuple
  rw [hk, bind_of_ok]
  congr 2
  funext text
  rw [Bool.eq_iff_iff, eqStr_iff_key, hk, decide_eq_true_iff, Except.ok.injEq]

/-- A comparison with a number returns for a number only. -/
theorem lt_number_returns {a b : Json} {p : ℚ} (ha : a.number? = some p) :
    Returns (Json.lt a b) ↔ b.number?.isSome = true := by
  cases hb : b.number? with
  | some q => simp [Json.lt_of_number ha hb]
  | none =>
    refine iff_of_false (fun ⟨_, hlt⟩ => ?_) (by simp)
    cases a <;> cases ha <;> cases b <;> cases hb <;> cases hlt

theorem lt_returns_number {a b : Json} {q : ℚ} (hb : b.number? = some q) :
    Returns (Json.lt a b) ↔ a.number?.isSome = true := by
  cases ha : a.number? with
  | some p => simp [Json.lt_of_number ha hb]
  | none =>
    refine iff_of_false (fun ⟨_, hlt⟩ => ?_) (by simp)
    cases b <;> cases hb <;> cases a <;> cases ha <;> cases hlt

theorem finite_returns {value : Json} (h : value.number?.isSome = true) :
    Returns value.isFinite ↔ ∀ k, value = .int k → fitsFloat k = true := by
  cases value with
  | int k => simp [Json.isFinite, returns_ite]
  | bool b => exact iff_of_true (returns_ok _) (by simp)
  | float q => exact iff_of_true (returns_ok _) (by simp)
  | _ => cases h

theorem checkCapacityStatus_returns {tid : Json} :
    Returns (checkCapacityStatus tid tile) ↔
      (dictGet tile "capacity_status").isContainer = false ∧ UtilizationFits tile := by
  unfold checkCapacityStatus UtilizationFits
  by_cases hcap : (dictGet tile "capacity_status").isContainer = false
  · unfold notIn
    simp only
    rw [inSet_of_scalar hcap, and_iff_right hcap]
    simp only [bind_of_ok]
    rw [returns_ite_left, returns_ite_left]
    refine imp_congr (by simp) (imp_congr (by simp) ?_)
    have h100 : Json.number? (.int 100) = some 100 := rfl
    cases hutil : (dictGet tile "memory_utilization_percent").number? with
    | none =>
      refine iff_of_false (fun h => ?_) (by simp)
      obtain ⟨_, hlt, -⟩ := returns_bind.mp h
      have hsome := (lt_number_returns h100).mp ⟨_, hlt⟩
      rw [hutil] at hsome
      cases hsome
    | some q =>
      rw [Json.lt_of_number h100 hutil, bind_of_ok, returns_ite_right, returns_bind_ok, fixedOne_returns,
        finite_returns (by rw [hutil]; rfl)]
      simp only [Bool.and_eq_true, decide_eq_true_eq, Option.some.injEq, exists_eq_left']
      exact ⟨fun h hpass hlt => h ⟨hlt, hpass⟩, fun h hboth => h hboth.2 hboth.1⟩
  · refine iff_of_false (fun h => ?_) fun h => hcap h.1
    obtain ⟨_, hknown, -⟩ := returns_bind.mp h
    exact hcap (returns_notIn.mp ⟨_, hknown⟩)

theorem checkBandwidthStatus_returns {tid : Json} :
    Returns (checkBandwidthStatus tid tile) ↔ (dictGet tile "bandwidth_status").isContainer = false := by
  unfold checkBandwidthStatus
  simp

theorem checkTile_returns {tid : Json} : Returns (checkTile strict tid tile) ↔ TileFits tile := by
  unfold checkTile
  rw [returns_bind_iff fun _ _ => returns_bind_ok, checkCapacityStatus_returns, checkBandwidthStatus_returns]
  constructor
  · rintro ⟨⟨hcap, hutil⟩, hbw⟩
    exact ⟨by simp [hcap, hbw], hutil⟩
  · rintro ⟨hfields, hutil⟩
    exact ⟨⟨hfields _ (by simp), hutil⟩, hfields _ (by simp)⟩

theorem firstWithId_cons {seen seen' : List ℤ} {tiles : List Fields} {x : Fields}
    (hseen : ∀ t, t ∈ seen' ↔ t ∈ seen ∨ tileIdOf tile = some t) :
    FirstWithId n seen (tile :: tiles) x ↔
      (x = tile ∧ ∃ t, tileIdOf tile = some t ∧ t ∉ seen ∧ (0 < n → t < n)) ∨ FirstWithId n seen' tiles x := by
  constructor
  · rintro ⟨before, after, t, htiles, hid, hnew, hfirst, hrange⟩
    cases before with
    | nil =>
      obtain ⟨rfl, rfl⟩ := List.cons.inj htiles
      exact Or.inl ⟨rfl, t, hid, hnew, hrange⟩
    | cons other before =>
      obtain ⟨rfl, rfl⟩ := List.cons.inj htiles
      obtain ⟨hother, hbefore⟩ := List.forall_mem_cons.mp hfirst
      exact Or.inr ⟨before, after, t, rfl, hid, fun hmem => ((hseen t).mp hmem).elim hnew hother, hbefore, hrange⟩
  · rintro (⟨rfl, t, hid, hnew, hrange⟩ | ⟨before, after, t, rfl, hid, hnew, hfirst, hrange⟩)
    · exact ⟨[], tiles, t, rfl, hid, hnew, by simp, hrange⟩
    · exact ⟨tile :: before, after, t, rfl, hid, fun hmem => hnew ((hseen t).mpr (Or.inl hmem)),
        List.forall_mem_cons.mpr ⟨fun hown => hnew ((hseen t).mpr (Or.inr hown)), hfirst⟩, hrange⟩

section FirstWithId

variable {seen seen' : List ℤ} {tiles : List Fields} {P : Fields → Prop}

/-- A tile that is not checked. -/
theorem forall_firstWithId_skip (hseen : ∀ t, t ∈ seen' ↔ t ∈ seen ∨ tileIdOf tile = some t)
    (hnot : ∀ t, tileIdOf tile = some t → t ∉ seen → ¬ (0 < n → t < n)) :
    (∀ x, FirstWithId n seen (tile :: tiles) x → P x) ↔ ∀ x, FirstWithId n seen' tiles x → P x := by
  refine forall_congr' fun x => imp_congr_left ?_
  rw [firstWithId_cons hseen]
  exact or_iff_right fun ⟨_, t, hid, hnew, hrange⟩ => hnot t hid hnew hrange

/-- A tile that is checked. -/
theorem forall_firstWithId_cons (hseen : ∀ t, t ∈ seen' ↔ t ∈ seen ∨ tileIdOf tile = some t) {t : ℤ}
    (hid : tileIdOf tile = some t) (hnew : t ∉ seen) (hrange : 0 < n → t < n) :
    (∀ x, FirstWithId n seen (tile :: tiles) x → P x) ↔ P tile ∧ ∀ x, FirstWithId n seen' tiles x → P x := by
  simp only [firstWithId_cons hseen]
  constructor
  · exact fun h => ⟨h tile (Or.inl ⟨rfl, t, hid, hnew, hrange⟩), fun x hx => h x (Or.inr hx)⟩
  · rintro ⟨hfirst, hrest⟩ x (⟨rfl, -⟩ | hx)
    · exact hfirst
    · exact hrest x hx

end FirstWithId

theorem checkTiles_returns {items : List Json} {seen : List ℤ} {i : ℕ} :
    Returns (checkTiles strict n seen i items) ↔
      ∀ tile, FirstWithId n seen (objectsOf (.arr items)) tile → TileFits tile := by
  induction items generalizing seen i with
  | nil =>
    refine iff_of_true (returns_ok _) fun tile h => ?_
    obtain ⟨before, after, t, hnil, -⟩ := h
    simp at hnil
  | cons item items ih =>
    cases item with
    | obj tile =>
      rw [objectsOf_arr_obj, checkTiles]
      simp only
      cases hid : (dictGet tile "tile_id").asInt? with
      | none =>
        have hnone : ∀ t, tileIdOf tile ≠ some t := fun t ht => absurd (hid.symm.trans ht) (by simp)
        rw [forall_firstWithId_skip (fun t => (or_iff_left (hnone t)).symm) fun t ht => absurd ht (hnone t)]
        by_cases hnull : (dictGet tile "tile_id").isNone = true
        · rw [if_pos hnull]
          exact returns_bind_ok.trans ih
        · rw [if_neg hnull]
          exact returns_bind_ok.trans ih
      | some t =>
        have hown : tileIdOf tile = some t := hid
        have hadded : ∀ u, u ∈ t :: seen ↔ u ∈ seen ∨ tileIdOf tile = some u := by
          intro u
          rw [hown, List.mem_cons, or_comm, Option.some.injEq, eq_comm]
        rw [if_neg (by simp [Json.isNone_of_asInt hid])]
        simp only
        by_cases hmem : t ∈ seen
        · have hsame : ∀ u, u ∈ seen ↔ u ∈ seen ∨ tileIdOf tile = some u := by
            intro u
            rw [← hadded, List.mem_cons]
            exact (or_iff_right_of_imp fun heq => heq ▸ hmem).symm
          rw [if_pos hmem, forall_firstWithId_skip hsame fun u hu hfresh =>
            absurd hmem (Option.some.inj (hown.symm.trans hu) ▸ hfresh)]
          exact returns_bind_ok.trans ih
        rw [if_neg hmem]
        by_cases hrange : 0 < n ∧ (n : ℤ) ≤ t
        · rw [if_pos hrange, forall_firstWithId_skip hadded fun u hu _ hlt => ?_]
          · exact returns_bind_ok.trans ih
          · obtain rfl := Option.some.inj (hown.symm.trans hu)
            exact absurd (hlt hrange.1) (not_lt.mpr hrange.2)
        · rw [if_neg hrange, returns_bind_iff fun _ _ => returns_bind_ok.trans ih, checkTile_returns,
            forall_firstWithId_cons hadded hown hmem fun hn => not_le.mp fun hle => hrange ⟨hn, hle⟩]
    | _ =>
      rw [checkTiles]
      · exact returns_bind_ok.trans ih
      · rintro tile ⟨⟩

theorem objects_eq (report : Fields) (key : String) :
    objects report key = objectsOf (dictGetD report key (.arr [])) := objectsOf_dictGetD.symm

theorem validateTiles_returns :
    Returns (validateTiles strict report n) ↔
      ∀ tile, FirstWithId n [] (objects report "tiles") tile → TileFits tile := by
  unfold validateTiles
  rw [objects_eq]
  cases dictGetD report "tiles" (.arr []) with
  | arr tiles => exact checkTiles_returns
  | _ =>
    refine iff_of_true (returns_ok _) fun tile ⟨before, after, t, hnil, _⟩ => ?_
    simp [objectsOf, Json.asList?] at hnil

theorem checkTileCount_fst (header : Fields) :
    (checkTileCount header).1 = ((dictGet header "tile_count").asInt?.getD 0).toNat := by
  unfold checkTileCount
  cases hint : (dictGet header "tile_count").asInt? with
  | none =>
    have hwith : (intWith (dictGet header "tile_count") fun n => 0 < n) = false := by
      unfold intWith
      rw [hint]
    simp only [hwith, Bool.false_eq_true, if_false]
    split_ifs <;> rfl
  | some k =>
    have hwith : (intWith (dictGet header "tile_count") fun n => 0 < n) = decide (0 < k) := by
      unfold intWith
      rw [hint]
    simp only [hwith, Json.isNone_of_asInt hint, hint]
    by_cases hk : 0 < k
    · simp [hk]
    · simp [hk, Int.toNat_of_nonpos (not_lt.mp hk)]

theorem tileCount_of_header {x : ℕ × List Issue} (h : validateHeader strict report = .ok x) :
    x.1 = (tileCountOf report).toNat := by
  unfold validateHeader at h
  unfold tileCountOf
  cases hheader : dictGet report "header" with
  | null =>
    rw [hheader] at h
    rw [← Except.ok.inj h]
    rfl
  | obj header =>
    rw [hheader] at h
    obtain ⟨_, -, h⟩ := bind_eq_ok.mp h
    obtain ⟨_, -, h⟩ := bind_eq_ok.mp h
    obtain ⟨_, hobj, h⟩ := bind_eq_ok.mp h
    obtain ⟨_, -, h⟩ := bind_eq_ok.mp h
    obtain ⟨_, -, h⟩ := bind_eq_ok.mp h
    obtain rfl := Except.ok.inj hobj
    rw [← Except.ok.inj h]
    exact checkTileCount_fst _
  | _ =>
    rw [hheader] at h
    obtain ⟨_, -, h⟩ := bind_eq_ok.mp h
    obtain ⟨_, -, h⟩ := bind_eq_ok.mp h
    obtain ⟨_, hobj, -⟩ := bind_eq_ok.mp h
    cases hobj

/-! ### Records -/

theorem checkCategory_returns :
    Returns (checkCategory strict r rec) ↔ (dictGet rec "tensor_category").isContainer = false := by
  unfold checkCategory
  exact returns_lookup_ok returns_notIn

theorem checkRecordDtype_returns :
    Returns (checkRecordDtype strict r rec) ↔ (dictGet rec "dtype").isContainer = false := by
  unfold checkRecordDtype
  exact returns_lookup_ok returns_notIn

theorem checkMember_returns {field text sorted : String} {texts : List String} :
    Returns (checkMember r rec field (.str text) texts sorted) ↔ (dictGet rec field).isContainer = false := by
  unfold checkMember
  rw [returns_bind_ok, returns_notIn, isContainer_dictGetD rfl]

theorem checkRouting_returns :
    Returns (checkRouting strict r rec) ↔ (dictGet rec "routing_requirements").isContainer = false := by
  unfold checkRouting
  rw [returns_bind_ok, returns_notIn, isContainer_dictGetD rfl]

theorem checkSliceBound_returns {axis last : Json} {e : ℤ} (h : last.asInt? = some e) :
    Returns (checkSliceBound r rec axis last) ↔ ∀ dim, dimAt rec axis = some dim → dim.number?.isSome = true := by
  unfold checkSliceBound
  cases dimAt rec axis with
  | none => simp
  | some dim =>
    rw [returns_bind_ok, lt_returns_number (Json.number_of_asInt h)]
    simp

theorem checkSlice_returns : Returns (checkSlice r rec) ↔ SliceFits rec := by
  unfold checkSlice SliceFits
  simp only
  rw [returns_ite_left, returns_ite_left, returns_ite_left, returns_ite_left, returns_bind_ok]
  cases hlast : (dictGet rec "slice_end").asInt? with
  | none => simp [intWith, hlast]
  | some e =>
    have hpositive : (intWith (dictGet rec "slice_end") fun n => 0 < n) = decide (0 < e) := by
      unfold intWith
      rw [hlast]
    have hempty : (intWith (dictGet rec "slice_start") fun s => e ≤ s) = false ↔
        ∀ s, (dictGet rec "slice_start").asInt? = some s → s < e := by
      unfold intWith
      cases (dictGet rec "slice_start").asInt? with
      | none => simp
      | some s => simp
    have haxis : ∀ dim, dimAt rec (dictGet rec "slice_axis") = some dim →
        (dictGet rec "slice_axis").isNone = false := by
      intro dim hdim
      cases hvalue : dictGet rec "slice_axis" with
      | null => simp [hvalue, dimAt, Json.asInt?] at hdim
      | _ => rfl
    rw [checkSliceBound_returns hlast, hpositive, Option.getD_some, Json.isNone_of_asInt hlast]
    constructor
    · rintro h dim e' hdim ⟨⟩ hpos hfirst hlt
      exact h (by simp [haxis dim hdim]) (by simp [hfirst]) (by simpa using hpos) (by simpa using hempty.mpr hlt) dim
        hdim
    · intro h _ hfirst hpos hlt dim hdim
      exact h dim e hdim rfl (by simpa using hpos) (by simpa using hfirst) (hempty.mp (by simpa using hlt))

theorem checkRecord_returns {ids : List ℤ} : Returns (checkRecord strict ids n r rec) ↔ RecordFits rec := by
  unfold checkRecord
  rw [returns_bind_iff fun _ _ => returns_bind_iff fun _ _ => returns_bind_iff fun _ _ => returns_bind_iff fun _ _ =>
    returns_bind_iff fun _ _ => returns_bind_iff fun _ _ => returns_bind_ok, checkCategory_returns,
    checkRecordDtype_returns, checkSlice_returns, checkMember_returns, checkMember_returns, checkRouting_returns,
    checkMember_returns]
  constructor
  · rintro ⟨hcategory, hdtype, hslice, hpolicy, hreduction, hrouting, hstatus⟩
    exact ⟨by simp [hcategory, hdtype, hpolicy, hreduction, hrouting, hstatus], hslice⟩
  · rintro ⟨hfields, hslice⟩
    simp only [scalars_cons] at hfields
    obtain ⟨hcategory, hdtype, hpolicy, hreduction, hrouting, hstatus, -⟩ := hfields
    exact ⟨hcategory, hdtype, hslice, hpolicy, hreduction, hrouting, hstatus⟩

theorem checkRecords_returns {ids : List ℤ} {items : List Json} {seen : List ℤ} {i : ℕ} :
    Returns (checkRecords strict ids n seen i items) ↔ ∀ rec ∈ objectsOf (.arr items), RecordFits rec := by
  induction items generalizing seen i with
  | nil => exact iff_of_true (returns_ok _) (by simp)
  | cons item items ih =>
    cases item with
    | obj rec =>
      rw [checkRecords, objectsOf_arr_obj, List.forall_mem_cons]
      simp only
      rw [returns_bind_iff fun _ _ => returns_bind_ok.trans ih, checkRecord_returns]
    | _ =>
      rw [checkRecords]
      · exact returns_bind_ok.trans ih
      · rintro rec ⟨⟩

/-! ### The records of a tensor -/

variable {tid : ℤ} {records : List Fields}

theorem pySet_returns {values : List Json} : Returns (pySet values) ↔ ∀ v ∈ values, v.isContainer = false := by
  unfold pySet
  rw [returns_bind_ok, returns_mapM]
  simp

/-- Lists that begin with integers can be compared if these differ. -/
theorem exists_orderItems_int {m k : ℤ} {xs ys : List Json} :
    (∃ o, Json.orderItems (.int m :: xs) (.int k :: ys) = some o) ↔ (m = k → ∃ o, Json.orderItems xs ys = some o) := by
  have hint : Json.order (.int m) (.int k) = some (cmp (m : ℚ) k) := Json.order_number rfl rfl
  rw [Json.orderItems, hint]
  by_cases hmk : m = k
  · rw [hmk, cmp_self_eq_eq]
    simp
  · have hne : cmp (m : ℚ) k ≠ .eq := fun h => hmk (by exact_mod_cast (cmp_eq_eq_iff _ _).mp h)
    refine iff_of_true ?_ fun h => absurd h hmk
    cases hcmp : cmp (m : ℚ) k with
    | eq => exact absurd hcmp hne
    | lt => exact ⟨_, rfl⟩
    | gt => exact ⟨_, rfl⟩

theorem comparable_slices {a b : Slice} :
    Comparable (fun s : Slice => .arr [.int s.first, .int s.last, s.owner]) a b ↔ OwnersCompare a b := by
  unfold Comparable OwnersCompare
  simp only [Json.order_arr]
  rw [exists_orderItems_int]
  refine imp_congr_right fun _ => ?_
  rw [exists_orderItems_int]
  refine imp_congr_right fun _ => ?_
  rw [Json.orderItems]
  cases Json.order a.owner b.owner with
  | none => simp
  | some o => cases o <;> simp [Json.orderItems]

theorem sortSlices_returns {slices : List Slice} (h : ∀ s ∈ slices, s.owner.Unique) :
    Returns (sortSlices slices) ↔ slices.Pairwise OwnersCompare := by
  unfold sortSlices
  rw [sortedBy_returns fun s hs => ⟨.arr ?_, _, rfl⟩]
  · exact ⟨fun h => h.imp comparable_slices.mp, fun h => h.imp comparable_slices.mpr⟩
  · intro x hx
    simp only [List.mem_cons, List.not_mem_nil, or_false] at hx
    rcases hx with rfl | rfl | rfl
    · exact .scalar rfl
    · exact .scalar rfl
    · exact h s hs

theorem checkCoverage_returns {axis : Json} {slices : List Slice}
    (h : ∀ rec ∈ records, (dictGet rec "placement_status").isContainer = false) :
    Returns (checkCoverage strict tid records axis slices) := by
  have hstatuses : Returns (pySet (records.map statusOf)) := by
    rw [pySet_returns, List.forall_mem_map]
    exact fun rec hrec => (isContainer_dictGetD rfl).trans (h rec hrec)
  unfold checkCoverage checkCoverage.uncovered
  split
  · split
    · exact returns_ite_left.mpr fun _ => returns_bind_ok.mpr hstatuses
    · exact returns_bind_ok.mpr hstatuses
  · exact returns_ok _

theorem unreduced_iff {reds : List (Json.Key × Json)} (hne : records ≠ [])
    (h : pySet (records.map fun rec => dictGetD rec "reduction_behavior" (.str "none")) = .ok reds) :
    unreduced reds = true ↔ Unreduced records := by
  unfold unreduced Unreduced
  rw [Bool.or_eq_true, isOnly_iff h (by simpa using hne), List.forall_mem_map]
  refine or_congr_right ?_
  have hsingle := single_iff (k := .null) h (by simpa using hne)
  simp only [List.forall_mem_map, ← isNone_iff_key] at hsingle
  rw [← hsingle]
  match reds with
  | [] => simp
  | [(key, value)] =>
    have hown : value.key = .ok key := ((mem_pySet h).1 _ List.mem_cons_self).2
    show value.isNone = true ↔ _
    rw [isNone_iff_key, hown]
    simp
  | _ :: _ :: _ => simp

theorem checkReductions_returns (hne : records ≠ [])
    (h : ∀ rec ∈ records, (dictGet rec "reduction_behavior").isContainer = false) :
    Returns (checkReductions strict tid records) ↔
      (Unreduced records → ∀ rec ∈ records, Scalars ["tensor_name"] rec) := by
  have hreds : Returns (pySet (records.map fun rec => dictGetD rec "reduction_behavior" (.str "none"))) := by
    rw [pySet_returns, List.forall_mem_map]
    exact fun rec hrec => (isContainer_dictGetD rfl).trans (h rec hrec)
  unfold checkReductions
  refine (returns_bind_iff fun reds hset => ?_).trans (and_iff_right hreds)
  rw [returns_ite_right, unreduced_iff hne hset, returns_bind_ok, pySet_returns, List.forall_mem_map]
  refine imp_congr_right fun _ => forall₂_congr fun rec _ => ?_
  rw [isContainer_dictGetD rfl]
  simp

theorem returns_axes :
    Returns (pySet (records.map fun rec => dictGet rec "slice_axis")) ↔
      ∀ rec ∈ records, Scalars ["slice_axis"] rec := by
  rw [pySet_returns, List.forall_mem_map]
  simp

theorem isOnly_policies {policies : List (Json.Key × Json)} (hne : records ≠ [])
    (h : pySet (records.map policyOf) = .ok policies) :
    isOnly policies "replicated" = true ↔ ¬ ∃ rec ∈ records, isReplicated rec = false := by
  rw [isOnly_iff h (by simpa using hne), List.forall_mem_map]
  simp [isReplicated]

theorem sliceOneAxis_iff {axes : List (Json.Key × Json)} (hne : records ≠ [])
    (h : pySet (records.map fun rec => dictGet rec "slice_axis") = .ok axes) :
    SliceOneAxis records ↔ ∃ k axis, axes = [(k, axis)] ∧ axis.isNone = false := by
  unfold SliceOneAxis
  constructor
  · rintro ⟨k, hk, hkeys⟩
    obtain ⟨axis, rfl⟩ := (single_iff h (by simpa using hne)).mpr (List.forall_mem_map.mpr hkeys)
    have hown : axis.key = .ok k := ((mem_pySet h).1 _ List.mem_cons_self).2
    refine ⟨k, axis, rfl, Bool.eq_false_iff.mpr fun hnone => hk ?_⟩
    exact Except.ok.inj (hown.symm.trans (isNone_iff_key.mp hnone))
  · rintro ⟨k, axis, rfl, hnone⟩
    have hown : axis.key = .ok k := ((mem_pySet h).1 _ List.mem_cons_self).2
    refine ⟨k, ?_, List.forall_mem_map.mp ((single_iff h (by simpa using hne)).mp ⟨axis, rfl⟩)⟩
    rintro rfl
    rw [isNone_iff_key.mpr hown] at hnone
    cases hnone

theorem owner_of_sliceOf {slice : Slice} (hunique : ∀ rec ∈ records, (dictGet rec "owner_tile").Unique)
    (h : slice ∈ records.filterMap sliceOf) : slice.owner.Unique := by
  obtain ⟨rec, hrec, hslice⟩ := List.mem_filterMap.mp h
  obtain ⟨s, -, hslice⟩ := Option.bind_eq_some_iff.mp hslice
  obtain ⟨e, -, hslice⟩ := Option.bind_eq_some_iff.mp hslice
  by_cases hlt : s < e
  · rw [if_pos hlt] at hslice
    rw [← Option.some.inj hslice]
    exact hunique rec hrec
  · rw [if_neg hlt] at hslice
    cases hslice

/-- The checks of two or more records of a tensor. -/
theorem checkGroup_returns (hlength : 2 ≤ records.length) (hfits : ∀ rec ∈ records, RecordFits rec)
    (hunique : ∀ rec ∈ records, (dictGet rec "owner_tile").Unique) :
    Returns (checkGroup strict tid records) ↔ GroupFits records := by
  have hne : records ≠ [] := by
    rintro rfl
    simp at hlength
  have hpolicies : Returns (pySet (records.map policyOf)) := by
    rw [pySet_returns, List.forall_mem_map]
    exact fun rec hrec => (isContainer_dictGetD rfl).trans ((hfits rec hrec).fields _ (by simp))
  have hreductions : ∀ rec ∈ records, (dictGet rec "reduction_behavior").isContainer = false :=
    fun rec hrec => (hfits rec hrec).fields _ (by simp)
  have hstatuses : ∀ rec ∈ records, (dictGet rec "placement_status").isContainer = false :=
    fun rec hrec => (hfits rec hrec).fields _ (by simp)
  unfold checkGroup
  rw [if_neg (by omega)]
  by_cases haxes : ∀ rec ∈ records, Scalars ["slice_axis"] rec
  · obtain ⟨axes, hset⟩ := returns_axes.mpr haxes
    obtain ⟨policies, hpolicy⟩ := hpolicies
    rw [hset, bind_of_ok, hpolicy, bind_of_ok]
    by_cases hrep : isOnly policies "replicated" = true
    · rw [if_pos hrep]
      have hnone := (isOnly_policies hne hpolicy).mp hrep
      exact iff_of_true (returns_ok _) ⟨haxes, fun h => absurd h hnone, fun h => absurd h hnone⟩
    rw [if_neg hrep]
    have hsome : ∃ rec ∈ records, isReplicated rec = false := not_not.mp (mt (isOnly_policies hne hpolicy).mpr hrep)
    by_cases hone : SliceOneAxis records
    · obtain ⟨k, axis, rfl, haxis⟩ := (sliceOneAxis_iff hne hset).mp hone
      have hrest : ∀ slices, Returns (checkCoverage strict tid records axis slices >>= fun coverage =>
          checkReductions strict tid records >>= fun reductions =>
            .ok (overlaps tid slices ++ coverage ++ reductions)) ↔
          (Unreduced records → ∀ rec ∈ records, Scalars ["tensor_name"] rec) := by
        intro slices
        rw [returns_bind_iff fun _ _ => returns_bind_ok, and_iff_right (checkCoverage_returns hstatuses),
          checkReductions_returns hne hreductions]
      simp only [haxis, Bool.false_eq_true, if_false]
      rw [returns_bind_iff fun slices _ => hrest slices, sortSlices_returns fun slice => owner_of_sliceOf hunique]
      exact ⟨fun h => ⟨haxes, fun _ _ => h.1, fun _ _ => h.2⟩, fun h => ⟨h.slices hsome hone, h.names hsome hone⟩⟩
    · refine iff_of_true ?_ ⟨haxes, fun _ h => absurd h hone, fun _ h => absurd h hone⟩
      match axes with
      | [] => exact returns_ok _
      | [(k, axis)] =>
        have haxis : axis.isNone = true := by
          by_contra h
          exact hone ((sliceOneAxis_iff hne hset).mpr ⟨k, axis, rfl, by simpa using h⟩)
        simp only [haxis, if_true]
        exact returns_ok _
      | _ :: _ :: _ => exact returns_ok _
  · refine iff_of_false (fun h => ?_) fun h => haxes h.axes
    obtain ⟨_, hset, -⟩ := returns_bind.mp h
    exact haxes (returns_axes.mp ⟨_, hset⟩)

/-! ### The validator -/

/-- The groups of the records with an id are those of the tensors with a record. -/
theorem forall_byId {recs : List Fields} {P : ℤ → List Fields → Prop} :
    (∀ group ∈ byId (identified recs), P group.1 group.2) ↔
      ∀ tid, (∃ rec ∈ recs, idOf rec = some tid) → P tid (recs.filter fun rec => decide (idOf rec = some tid)) := by
  constructor
  · rintro h tid ⟨rec, hrec, hid⟩
    exact h _ (mem_byId hrec hid)
  · intro h group hgroup
    obtain ⟨first, hfirst, rfl⟩ := List.mem_map.mp hgroup
    obtain ⟨rec, hrec, hpair⟩ := List.mem_filterMap.mp (mem_of_mem_distinctBy hfirst)
    obtain ⟨t, hid, rfl⟩ := Option.map_eq_some_iff.mp hpair
    have hgroup := h t ⟨rec, hrec, hid⟩
    rwa [← filter_identified] at hgroup

theorem unique_of_dictGet {fields : Fields} {name : String} (h : (Json.obj fields).Unique) :
    (dictGet fields name).Unique := by
  unfold dictGet dictGetD
  cases hlookup : fields.lookup name with
  | none => exact .scalar rfl
  | some value => exact (Json.unique_obj.mp h).2 _ (Json.mem_of_lookup hlookup)

theorem unique_of_objects {key : String} (h : (Json.obj report).Unique) :
    ∀ rec ∈ objects report key, (Json.obj rec).Unique := by
  intro rec hrec
  have hlist := @unique_of_dictGet report key h
  change rec ∈ objectsOf (dictGet report key) at hrec
  cases hvalue : dictGet report key with
  | arr items =>
    rw [hvalue] at hlist hrec
    exact Json.unique_arr.mp hlist _ (mem_objectsOf.mp hrec)
  | _ =>
    rw [hvalue] at hrec
    cases hrec

/-- The checks of the records of a tensor, however many there are. -/
theorem checkGroup_returns_iff (hfits : ∀ rec ∈ records, RecordFits rec)
    (hunique : ∀ rec ∈ records, (dictGet rec "owner_tile").Unique) :
    Returns (checkGroup strict tid records) ↔ (2 ≤ records.length → GroupFits records) := by
  by_cases hlength : 2 ≤ records.length
  · rw [checkGroup_returns hlength hfits hunique]
    simp [hlength]
  · refine iff_of_true ?_ fun h => absurd h hlength
    unfold checkGroup
    rw [if_pos (by omega)]
    exact returns_ok _

theorem validateTensors_returns {ids : List ℤ} (hunique : (Json.obj report).Unique) :
    Returns (validateTensors strict report ids n) ↔ (∀ rec ∈ objects report "tensors", RecordFits rec) ∧
      ∀ tid, 2 ≤ (recordsOf report tid).length → GroupFits (recordsOf report tid) := by
  unfold validateTensors recordsOf
  have howners : ∀ rec ∈ objects report "tensors", (dictGet rec "owner_tile").Unique := fun rec hrec =>
    unique_of_dictGet (unique_of_objects hunique rec hrec)
  cases htensors : dictGetD report "tensors" (.arr []) with
  | arr items =>
    have hobjects : objects report "tensors" = objectsOf (.arr items) := by rw [objects_eq, htensors]
    simp only
    rw [hobjects] at howners ⊢
    rw [← @checkRecords_returns strict n ids items [] 0]
    refine returns_bind_iff fun x hx => ?_
    have hfits := checkRecords_returns.mp ⟨x, hx⟩
    rw [returns_bind_ok, returns_mapM,
      show x.1 = identified (objectsOf (.arr items)) from kept_of_checkRecords hx]
    refine (forall_byId (P := fun tid records => Returns (checkGroup strict tid records))).trans
      (forall_congr' fun tid => ?_)
    rw [checkGroup_returns_iff (fun rec hrec => hfits rec (List.mem_of_mem_filter hrec)) fun rec hrec =>
      howners rec (List.mem_of_mem_filter hrec)]
    constructor
    · intro h hlength
      obtain ⟨rec, hrec⟩ := List.exists_mem_of_length_pos (Nat.lt_of_lt_of_le Nat.zero_lt_two hlength)
      obtain ⟨hmem, hid⟩ := List.mem_filter.mp hrec
      exact h ⟨rec, hmem, of_decide_eq_true hid⟩ hlength
    · exact fun h _ => h
  | _ =>
    refine iff_of_true (returns_ok _) ?_
    rw [objects_eq, htensors]
    simp [objectsOf, Json.asList?]

/-- **The validator returns** exactly where the report has what it relies on. -/
theorem validate_returns (hunique : (Json.obj report).Unique) :
    Returns (validate strict report) ↔ ReportScalars report := by
  unfold validate
  constructor
  · intro h
    obtain ⟨⟨tileCount, header⟩, hheader, h⟩ := returns_bind.mp h
    obtain ⟨⟨ids, tiles⟩, htiles, h⟩ := returns_bind.mp h
    obtain ⟨hrecords, hgroups⟩ := (validateTensors_returns hunique).mp (returns_bind_ok.mp h)
    have hcount : tileCount = (tileCountOf report).toNat := tileCount_of_header hheader
    exact ⟨validateHeader_returns.mp ⟨_, hheader⟩, hcount ▸ validateTiles_returns.mp ⟨_, htiles⟩, hrecords, hgroups⟩
  · intro h
    obtain ⟨⟨tileCount, header⟩, hheader⟩ := (@validateHeader_returns strict _).mpr h.header
    have hcount : tileCount = (tileCountOf report).toNat := tileCount_of_header hheader
    obtain ⟨⟨ids, tiles⟩, htiles⟩ := (@validateTiles_returns strict report tileCount).mpr (hcount ▸ h.tiles)
    refine returns_bind.mpr ⟨_, hheader, returns_bind.mpr ⟨_, htiles, ?_⟩⟩
    rw [returns_bind_ok]
    exact (validateTensors_returns hunique).mpr ⟨h.records, h.groups⟩

end Att1.Placement
