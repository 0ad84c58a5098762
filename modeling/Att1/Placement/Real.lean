import Att1.Placement.Clean

/-!
# Att1.Placement.Real — a clean report and real placements

* `RealPlacement`: every owner is a tile, and the records of a tensor hold all of it once.
* `PlacementGuard`: the conditions that `validate` does not check.
* `realPlacement_iff`: a report without an issue is a real placement exactly where they hold.
-/

open Att1.Lib

namespace Att1.Placement

/-! ### What is promised -/

/-- The records slice one dimension into ranges that have each of its points once. -/
def Partitioned (recs : List Fields) : Prop :=
  ∃ axis dim : ℤ, (∀ rec ∈ recs, axisOf rec = some axis ∧ sliceDim rec = some dim) ∧ Covers dim (recs.map rangeOf)

/-- The records are one of the whole tensor, or the slices of a partition. -/
def Held (recs : List Fields) : Prop := (∃ rec, recs = [rec] ∧ isWhole rec = true) ∨ Partitioned recs

/-- The placement that a report describes can be made. -/
structure RealPlacement (report : Fields) : Prop where
  owners : ∀ rec ∈ objects report "tensors", ∃ t, ownerOf rec = some t ∧ 0 ≤ t ∧ t < tileCountOf report
  tensors : ∀ tid, (∃ rec ∈ recordsOf report tid, isReplicated rec = false) →
    Held (recordsOf report tid) ∧ ∀ rec ∈ recordsOf report tid, ∃ t ∈ tileIds report, ownerOf rec = some t

/-- The status of every record is `placed`, and there are at least two. -/
def Compared (recs : List Fields) : Prop := 2 ≤ recs.length ∧ ∀ rec ∈ recs, (statusOf rec).eqStr "placed" = true

/-- What `validate` does not check: that an owner is not negative, that there are tiles, that the records of a sliced
tensor give its dimension alike, and, unless it compares them, that their lengths add up to it. -/
structure PlacementGuard (report : Fields) : Prop where
  owners : ∀ rec ∈ objects report "tensors", ∀ t, ownerOf rec = some t → 0 ≤ t
  tiles : (∃ tid, ∃ rec ∈ recordsOf report tid, isReplicated rec = false) → tileIds report ≠ []
  slices : ∀ tid, (∃ rec ∈ recordsOf report tid, isReplicated rec = false) →
    (∃ rec ∈ recordsOf report tid, isWhole rec = false) →
    ∃ dim, (∀ rec ∈ recordsOf report tid, sliceDim rec = some dim) ∧
      (Compared (recordsOf report tid) ∨
        ((recordsOf report tid).map fun rec => (rangeOf rec).2 - (rangeOf rec).1).sum = dim)

/-! ### The two conditions -/

variable {n : ℕ} {strict : Bool} {valid : List ℤ} {rec : Fields} {tid : ℤ} {recs : List Fields} {report : Fields}

theorem mem_objects_of_mem_recordsOf (h : rec ∈ recordsOf report tid) : rec ∈ objects report "tensors" :=
  List.mem_of_mem_filter h

/-- The range of a slice of a dimension. -/
theorem range_of_sliceDim {dim : ℤ} (hclean : CleanRecord valid n rec) (hwhole : isWhole rec = false)
    (hdim : sliceDim rec = some dim) :
    0 ≤ (rangeOf rec).1 ∧ (rangeOf rec).1 ≤ (rangeOf rec).2 ∧ (rangeOf rec).2 ≤ dim := by
  obtain ⟨_, -, h0, hlt, -⟩ := hclean.range hwhole
  obtain ⟨d, hd, hint⟩ := Option.bind_eq_some_iff.mp hdim
  obtain ⟨k, hk, hle⟩ := hclean.dim hwhole d hd
  obtain rfl : k = dim := Option.some.inj (hk.symm.trans hint)
  exact ⟨h0, hlt.le, hle⟩

/-- Records that name an axis are slices. -/
theorem not_isWhole_of_axisOf {a : ℤ} (h : axisOf rec = some a) : isWhole rec = false := Json.isNone_of_asInt h

theorem sum_of_partitioned (hne : recs ≠ []) (hclean : ∀ rec ∈ recs, CleanRecord valid n rec) (h : Partitioned recs) :
    ∃ dim, (∀ rec ∈ recs, sliceDim rec = some dim) ∧
      (recs.map fun rec => (rangeOf rec).2 - (rangeOf rec).1).sum = dim := by
  obtain ⟨axis, dim, hrecs, hcover⟩ := h
  refine ⟨dim, fun rec hrec => (hrecs rec hrec).2, ?_⟩
  have hin : ∀ r ∈ recs.map rangeOf, 0 ≤ r.1 ∧ r.1 ≤ r.2 ∧ r.2 ≤ dim := by
    refine List.forall_mem_map.mpr fun rec hrec => ?_
    obtain ⟨haxis, hdim⟩ := hrecs rec hrec
    exact range_of_sliceDim (hclean rec hrec) (not_isWhole_of_axisOf haxis) hdim
  obtain ⟨rec, hrec⟩ := List.exists_mem_of_ne_nil _ hne
  have hfirst := hin _ (List.mem_map_of_mem hrec)
  rw [← hcover.sum_eq (by omega) hin, List.map_map]
  rfl

theorem partitioned_of_guard {dim : ℤ} (hclean : ∀ rec ∈ recs, CleanRecord valid n rec)
    (hgroup : checkGroup strict tid recs = .ok []) (hpolicy : ∃ rec ∈ recs, isReplicated rec = false)
    (hsliced : ∃ rec ∈ recs, isWhole rec = false) (hdim : ∀ rec ∈ recs, sliceDim rec = some dim)
    (h : Compared recs ∨ (recs.map fun rec => (rangeOf rec).2 - (rangeOf rec).1).sum = dim) : Partitioned recs := by
  obtain ⟨rec₁, hrec₁, hwhole₁⟩ := hsliced
  have hshape : (∃ axis, ∀ rec ∈ recs, isWhole rec = false ∧ axisOf rec = some axis) ∧
      (recs.map rangeOf).Pairwise (Apart Prod.fst Prod.snd) ∧
      (Compared recs → ∀ x, 0 ≤ x → x < dim → ∃ r ∈ recs.map rangeOf, inRange x r = true) := by
    by_cases hlen : 2 ≤ recs.length
    · obtain ⟨haxis, hapart, hgapless⟩ := group_of_checkGroup hgroup hlen hclean hpolicy
      exact ⟨haxis, hapart, fun hcompared => hgapless dim hdim hcompared.2⟩
    · -- a single slice
      obtain ⟨rec, rfl⟩ : ∃ rec, recs = [rec] := by
        refine List.length_eq_one_iff.mp ?_
        have hpos := List.length_pos_of_mem hrec₁
        omega
      obtain rfl := List.mem_singleton.mp hrec₁
      obtain ⟨axis, haxis, -⟩ := (hclean rec₁ hrec₁).range hwhole₁
      refine ⟨⟨axis, fun rec hrec => ?_⟩, List.pairwise_singleton _ _, fun hcompared => absurd hcompared.1 (by simp)⟩
      obtain rfl := List.mem_singleton.mp hrec
      exact ⟨hwhole₁, haxis⟩
  obtain ⟨⟨axis, haxis⟩, hapart, hgapless⟩ := hshape
  have hin : ∀ r ∈ recs.map rangeOf, 0 ≤ r.1 ∧ r.1 ≤ r.2 ∧ r.2 ≤ dim :=
    List.forall_mem_map.mpr fun rec hrec => range_of_sliceDim (hclean rec hrec) (haxis rec hrec).1 (hdim rec hrec)
  have hdim0 : 0 ≤ dim := by
    have hfirst := hin _ (List.mem_map_of_mem hrec₁)
    omega
  refine ⟨axis, dim, fun rec hrec => ⟨(haxis rec hrec).2, hdim rec hrec⟩, ?_⟩
  rcases h with hcompared | hsum
  · exact (covers_iff_forall hapart fun r hr => ⟨(hin r hr).1, (hin r hr).2.2⟩).mpr (hgapless hcompared)
  · rw [covers_iff_sum hdim0 hapart hin, List.map_map]
    exact hsum

theorem guard_of_real (hclean : CleanReport strict report n) (h : RealPlacement report) : PlacementGuard report := by
  have hrecords : ∀ {tid}, ∀ rec ∈ recordsOf report tid, CleanRecord (tileIds report) n rec := fun rec hrec =>
    hclean.records rec (mem_objects_of_mem_recordsOf hrec)
  refine ⟨fun rec hrec t ht => ?_, ?_, ?_⟩
  · obtain ⟨t', ht', h0, -⟩ := h.owners rec hrec
    obtain rfl := Option.some.inj (ht.symm.trans ht')
    exact h0
  · rintro ⟨tid, rec, hrec, hunique⟩
    obtain ⟨t, ht, -⟩ := (h.tensors tid ⟨rec, hrec, hunique⟩).2 rec hrec
    exact List.ne_nil_of_mem ht
  · rintro tid hpolicy ⟨rec, hrec, hwhole⟩
    rcases (h.tensors tid hpolicy).1 with ⟨rec', heq, hwhole'⟩ | hpartitioned
    · rw [heq] at hrec
      obtain rfl := List.mem_singleton.mp hrec
      rw [hwhole] at hwhole'
      cases hwhole'
    · obtain ⟨dim, hdim, hsum⟩ := sum_of_partitioned (List.ne_nil_of_mem hrec) hrecords hpartitioned
      exact ⟨dim, hdim, Or.inr hsum⟩

theorem real_of_guard (hclean : CleanReport strict report n) (h : PlacementGuard report) : RealPlacement report := by
  have hrecords : ∀ {tid}, ∀ rec ∈ recordsOf report tid, CleanRecord (tileIds report) n rec := fun rec hrec =>
    hclean.records rec (mem_objects_of_mem_recordsOf hrec)
  refine ⟨fun rec hrec => ?_, fun tid hpolicy => ⟨?_, fun rec hrec => ?_⟩⟩
  · obtain ⟨t, ht, -, hlt⟩ := (hclean.records rec hrec).owner
    exact ⟨t, ht, h.owners rec hrec t ht, hclean.count ▸ hlt⟩
  · have hgroup : checkGroup strict tid (recordsOf report tid) = .ok [] := by
      obtain ⟨rec, hrec, -⟩ := hpolicy
      exact hclean.groups tid (List.ne_nil_of_mem hrec)
    by_cases hsliced : ∃ rec ∈ recordsOf report tid, isWhole rec = false
    · obtain ⟨dim, hdim, hcompared⟩ := h.slices tid hpolicy hsliced
      exact Or.inr (partitioned_of_guard hrecords hgroup hpolicy hsliced hdim hcompared)
    · -- the records are whole, and several of them would have been refused
      have hwhole : ∀ rec ∈ recordsOf report tid, isWhole rec = true := fun rec hrec =>
        Bool.ne_false_iff.mp fun hno => hsliced ⟨rec, hrec, hno⟩
      obtain ⟨rec, hrec, hunique⟩ := hpolicy
      by_cases hlen : 2 ≤ (recordsOf report tid).length
      · obtain ⟨⟨axis, haxis⟩, -⟩ := group_of_checkGroup hgroup hlen hrecords ⟨rec, hrec, hunique⟩
        exact absurd ⟨rec, hrec, (haxis rec hrec).1⟩ hsliced
      · obtain ⟨rec', heq⟩ : ∃ rec', recordsOf report tid = [rec'] := by
          refine List.length_eq_one_iff.mp ?_
          have hpos := List.length_pos_of_mem hrec
          omega
        exact Or.inl ⟨rec', heq, hwhole rec' (heq ▸ List.mem_cons_self)⟩
  · obtain ⟨t, ht, hmem, -⟩ := (hrecords rec hrec).owner
    exact ⟨t, hmem (h.tiles ⟨tid, hpolicy⟩), ht⟩

/-- A report without an issue is a real placement exactly where the conditions that are not checked hold. -/
theorem realPlacement_iff (strict : Bool) (report : Fields) (h : validate strict report = .ok []) :
    RealPlacement report ↔ PlacementGuard report := by
  obtain ⟨n, hclean⟩ := clean_of_validate h
  exact ⟨guard_of_real hclean, real_of_guard hclean⟩

/-- The record of a tile. -/
def sampleTile (tid : ℤ) : Json :=
  .obj [("tile_id", .int tid), ("model_bytes", .int 64), ("kv_bytes", .int 0), ("activation_bytes_per_token", .int 8),
    ("logits_bytes_per_token", .int 8), ("fabric_payload_bytes_per_token", .int 16), ("capacity_status", .str "PASS"),
    ("bandwidth_status", .str "PASS")]

/-- The record of rows of a tensor with 8 rows. -/
def sampleSlice (owner first last : ℤ) : Fields :=
  [("tensor_id", .int 0), ("tensor_name", .str "wq"), ("tensor_category", .str "attention_q"),
    ("source_shape", .arr [.int 8, .int 8]), ("placed_shape", .arr [.int (last - first), .int 8]),
    ("dtype", .str "f32"), ("owner_tile", .int owner), ("slice_axis", .int 0), ("slice_start", .int first),
    ("slice_end", .int last), ("replication_policy", .str "partial"), ("reduction_behavior", .str "concat")]

def sampleReport (tensors : List Fields) : Fields :=
  [("report_version", .int 1),
    ("header", .obj [("model_name", .str "toy"), ("dtype", .str "f32"), ("quantization_family", .str "none"),
      ("tile_count", .int 2)]),
    ("tiles", .arr [sampleTile 0, sampleTile 1]), ("tensors", .arr (tensors.map .obj))]

theorem realPlacement_two_slices :
    RealPlacement (sampleReport [sampleSlice 0 0 4, sampleSlice 1 4 8]) ↔
      PlacementGuard (sampleReport [sampleSlice 0 0 4, sampleSlice 1 4 8]) :=
  realPlacement_iff false _ rfl

/-- A report with half of a tensor, in one record, has no issue. -/
theorem half_a_tensor_clean :
    ∃ report, validate false report = .ok [] ∧ ¬ RealPlacement report := by
  have hclean : validate false (sampleReport [sampleSlice 0 0 4]) = .ok [] := rfl
  refine ⟨_, hclean, fun hreal => ?_⟩
  obtain ⟨n, hreport⟩ := clean_of_validate hclean
  have hslices := (guard_of_real hreport hreal).slices 0
  rw [show recordsOf (sampleReport [sampleSlice 0 0 4]) 0 = [sampleSlice 0 0 4] from rfl] at hslices
  obtain ⟨dim, hdim, hsum⟩ := hslices ⟨_, List.mem_cons_self, rfl⟩ ⟨_, List.mem_cons_self, rfl⟩
  obtain rfl : 8 = dim := Option.some.inj (hdim _ List.mem_cons_self)
  rcases hsum with ⟨hlen, -⟩ | hsum
  · exact absurd hlen (by decide)
  · exact absurd hsum (by decide)

end Att1.Placement
