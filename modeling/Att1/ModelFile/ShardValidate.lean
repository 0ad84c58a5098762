import Mathlib.Data.List.Flatten
import Att1.Lib.Table
import Att1.ModelFile.ShardMeta

/-!
# Att1.ModelFile.ShardValidate — the check of shard metadata (`att1_shard_meta_validate`)

`shardMetaValidate` goes over the records and appends a violation for each check that fails.  `Rule` names the checks,
`Breaks` says when a record breaks one.

* `shardMetaValidate_eq_ok`: what is reported, by record and rule.
* `reported_eq_broken_iff`: it is what is broken exactly where every record is `Judged`.
-/

open Att1.Lib

namespace Att1.ModelFile

/-- `att1_shard_meta_violation`; a char array is the C string in it. -/
structure ShardMetaViolation where
  tensorId : ℕ
  field : List UInt8
  description : List UInt8
  deriving DecidableEq

/-- `ATT1_SHARD_DTYPE_F32`. -/
def shardDtypeF32 : ℕ := 1

/-- `ATT1_SHARD_META_VIOLATION_FIELD_SIZE`. -/
def violationFieldSize : ℕ := 32

/-- `ATT1_SHARD_META_VIOLATION_DESC_SIZE`. -/
def violationDescSize : ℕ := 128

/-- `sizeof(att1_shard_meta_violation)`. -/
def shardMetaViolationSize : ℕ := 164

/-- `violation_append`.  A `realloc` is granted where a `malloc` of the new size is. -/
def violationAppend (host : Host) (violations : List ShardMetaViolation) (tensorId : ℕ) (field desc : List UInt8) :
    Except Status (List ShardMetaViolation) := do
  rejectIf (sizeMax / shardMetaViolationSize ≤ violations.length) .oom
  rejectIf (¬ host.malloc ((violations.length + 1) * shardMetaViolationSize)) .oom
  .ok (violations ++ [⟨tensorId, field.take (violationFieldSize - 1), desc.take (violationDescSize - 1)⟩])

/-- A check of the record loop: a violation is appended where `c` holds. -/
def reportIf (c : Prop) [Decidable c] (host : Host) (violations : List ShardMetaViolation) (tensorId : ℕ)
    (field desc : List UInt8) : Except Status (List ShardMetaViolation) :=
  if c then violationAppend host violations tensorId field desc else .ok violations

/-- One turn of the record loop. -/
def validateRecord (host : Host) (config : ModelConfig) (tensors : List ModelTensor)
    (violations : List ShardMetaViolation) (record : ShardMetaRecord) : Except Status (List ShardMetaViolation) := do
  let violations ← reportIf
    (record.tileId ≠ shardTileUnassigned ∧ 0 < config.nTiles ∧ config.nTiles ≤ record.tileId)
    host violations record.tensorId (ascii "tile_id")
    (ascii "tile_id " ++ decimal record.tileId ++ ascii " out of range (n_tiles=" ++ decimal config.nTiles ++ ascii ")")
  let violations ← reportIf (0 < config.nTiles ∧ config.nTiles ≤ record.ownerAimu)
    host violations record.tensorId (ascii "owner_aimu")
    (ascii "owner_aimu " ++ decimal record.ownerAimu ++ ascii " out of range (n_tiles=" ++ decimal config.nTiles ++
      ascii ")")
  if record.tensorId < uint32 tensors.length then
    match tensors[record.tensorId]? with
    | none => .ok violations
    | some t =>
      -- a q8 record has no matching model dtype here
      let violations ← reportIf (¬ (record.dtype = shardDtypeF32 ∧ t.dtype = dtypeF32))
        host violations record.tensorId (ascii "dtype")
        (ascii "dtype mismatch: shard=" ++ decimal record.dtype ++ ascii " tensor=" ++ decimal t.dtype)
      reportIf (record.byteOffset ≠ t.offset) host violations record.tensorId (ascii "byte_offset")
        (ascii "byte_offset " ++ decimal record.byteOffset ++ ascii " does not match tensor offset " ++
          decimal t.offset)
  else .ok violations

/-- `att1_shard_meta_validate` with an `out` to fill.  Metadata that is absent has no records, absent tensors are none,
and an absent config is `none`; a failed call frees what it reported. -/
def shardMetaValidate (host : Host) (records : List ShardMetaRecord) (config : Option ModelConfig)
    (tensors : List ModelTensor) : Except Status (List ShardMetaViolation) :=
  match config with
  | none => .ok []
  | some config => records.foldlM (validateRecord host config tensors) []

/-! ### The rules -/

/-- The checks of a record, in the order they are made. -/
inductive Rule
  | tileId
  | ownerAimu
  | dtype
  | byteOffset
  deriving DecidableEq, Repr

namespace Rule

/-- Every rule. -/
def all : List Rule := [tileId, ownerAimu, dtype, byteOffset]

/-- The field that a violation of the rule names. -/
def field : Rule → List UInt8
  | tileId => ascii "tile_id"
  | ownerAimu => ascii "owner_aimu"
  | dtype => ascii "dtype"
  | byteOffset => ascii "byte_offset"

theorem mem_all (rule : Rule) : rule ∈ all := by cases rule <;> decide

theorem field_injective : Function.Injective field := by
  intro rule rule' h
  cases rule <;> cases rule' <;> first | rfl | exact absurd h (by decide)

end Rule

section Rules

variable (config : ModelConfig) (tensors : List ModelTensor) (record : ShardMetaRecord)

/-- A record breaks a rule: its tile or its owner is out of range, or it does not agree with the tensor it names. -/
def Breaks : Rule → Prop
  | .tileId => record.tileId ≠ shardTileUnassigned ∧ 0 < config.nTiles ∧ config.nTiles ≤ record.tileId
  | .ownerAimu => 0 < config.nTiles ∧ config.nTiles ≤ record.ownerAimu
  | .dtype => ∃ t ∈ tensors[record.tensorId]?, record.dtype ≠ t.dtype
  | .byteOffset => ∃ t ∈ tensors[record.tensorId]?, record.byteOffset ≠ t.offset

/-- The rule for which a violation is reported. -/
def Reports : Rule → Prop
  | .tileId => record.tileId ≠ shardTileUnassigned ∧ 0 < config.nTiles ∧ config.nTiles ≤ record.tileId
  | .ownerAimu => 0 < config.nTiles ∧ config.nTiles ≤ record.ownerAimu
  | .dtype => record.tensorId < uint32 tensors.length ∧
      ∃ t ∈ tensors[record.tensorId]?, ¬ (record.dtype = shardDtypeF32 ∧ t.dtype = dtypeF32)
  | .byteOffset => record.tensorId < uint32 tensors.length ∧
      ∃ t ∈ tensors[record.tensorId]?, record.byteOffset ≠ t.offset

instance (rule : Rule) : Decidable (Breaks config tensors record rule) := by
  cases rule <;> unfold Breaks <;> infer_instance

instance (rule : Rule) : Decidable (Reports config tensors record rule) := by
  cases rule <;> unfold Reports <;> infer_instance

/-- The broken rules of a record, as violations name them. -/
def broken : List (ℕ × List UInt8) :=
  (Rule.all.filter fun rule => Breaks config tensors record rule).map fun rule => (record.tensorId, rule.field)

/-- The violations of a record, by tensor and field. -/
def reported : List (ℕ × List UInt8) :=
  (Rule.all.filter fun rule => Reports config tensors record rule).map fun rule => (record.tensorId, rule.field)

end Rules

/-! ### What is reported -/

/-- The tensor and the field that a violation names. -/
def ShardMetaViolation.named (violation : ShardMetaViolation) : ℕ × List UInt8 := (violation.tensorId, violation.field)

/-- Violations that name the given pairs are appended. -/
def Appends (x : Except Status (List ShardMetaViolation)) (violations : List ShardMetaViolation)
    (pairs : List (ℕ × List UInt8)) : Prop :=
  ∃ more, x = .ok (violations ++ more) ∧ more.map ShardMetaViolation.named = pairs

/-- The host grants the array for that many violations. -/
def GrantsViolations (host : Host) (n : ℕ) : Prop :=
  ∀ count ≤ n, host.malloc (count * shardMetaViolationSize) = true

section Turn

variable {host : Host} {violations : List ShardMetaViolation} {pairs pairs' : List (ℕ × List UInt8)}

theorem Appends.nil : Appends (.ok violations) violations [] := ⟨[], by rw [List.append_nil], rfl⟩

theorem Appends.bind {x : Except Status (List ShardMetaViolation)}
    {k : List ShardMetaViolation → Except Status (List ShardMetaViolation)} (h : Appends x violations pairs)
    (hk : ∀ violations', violations'.length = violations.length + pairs.length →
      Appends (k violations') violations' pairs') : Appends (x >>= k) violations (pairs ++ pairs') := by
  obtain ⟨more, rfl, hmore⟩ := h
  have hlength : (violations ++ more).length = violations.length + pairs.length := by
    rw [List.length_append, ← hmore, List.length_map]
  obtain ⟨more', heq, hmore'⟩ := hk (violations ++ more) hlength
  refine ⟨more ++ more', ?_, ?_⟩
  · show k (violations ++ more) = _
    rw [heq, List.append_assoc]
  · rw [List.map_append, hmore, hmore']

/-- A check reports its field where it fails. -/
theorem appends_reportIf {c : Prop} [Decidable c] {tensorId : ℕ} {field desc : List UInt8}
    (hfield : field.length < violationFieldSize)
    (hgrant : host.malloc ((violations.length + 1) * shardMetaViolationSize) = true) :
    Appends (reportIf c host violations tensorId field desc) violations (if c then [(tensorId, field)] else []) := by
  unfold reportIf
  by_cases hc : c
  · rw [if_pos hc, if_pos hc]
    have hfits := host.malloc_fits _ hgrant
    have hcount : ¬ sizeMax / shardMetaViolationSize ≤ violations.length := by
      rw [← Nat.le_div_iff_mul_le (by decide)] at hfits
      omega
    refine ⟨[⟨tensorId, field.take (violationFieldSize - 1), desc.take (violationDescSize - 1)⟩], ?_, ?_⟩
    · exact rejectIf_bind_eq_ok.mpr ⟨hcount, rejectIf_bind_eq_ok.mpr ⟨not_not.mpr hgrant, rfl⟩⟩
    · show [(tensorId, field.take (violationFieldSize - 1))] = _
      rw [List.take_of_length_le (by omega)]
  · rw [if_neg hc, if_neg hc]
    exact .nil

variable {config : ModelConfig} {tensors : List ModelTensor} {record : ShardMetaRecord}

/-- A filter of the four rules, check by check. -/
theorem map_filter_all {p : Rule → Prop} [DecidablePred p] {tensorId : ℕ} :
    (Rule.all.filter fun rule => p rule).map (fun rule => (tensorId, rule.field)) =
      (if p .tileId then [(tensorId, ascii "tile_id")] else []) ++
        ((if p .ownerAimu then [(tensorId, ascii "owner_aimu")] else []) ++
          ((if p .dtype then [(tensorId, ascii "dtype")] else []) ++
            (if p .byteOffset then [(tensorId, ascii "byte_offset")] else []))) := by
  unfold Rule.all
  simp only [List.filter_cons, List.filter_nil, decide_eq_true_iff]
  split_ifs <;> rfl

/-- One turn reports the violations of its record. -/
theorem appends_validateRecord (hgrants : GrantsViolations host (violations.length + 4)) :
    Appends (validateRecord host config tensors violations record) violations (reported config tensors record) := by
  have hle (c : Prop) [Decidable c] (pair : ℕ × List UInt8) : (if c then [pair] else []).length ≤ 1 := by
    split_ifs <;> simp
  unfold reported
  rw [map_filter_all]
  refine .bind (appends_reportIf (by decide) (hgrants _ (by omega))) fun second hsecond => ?_
  have h₂ := hle (Reports config tensors record .tileId) (record.tensorId, ascii "tile_id")
  refine .bind (appends_reportIf (by decide) (hgrants _ (by omega))) fun third hthird => ?_
  have h₃ := hle (Reports config tensors record .ownerAimu) (record.tensorId, ascii "owner_aimu")
  have hnone (h : ¬ (record.tensorId < uint32 tensors.length ∧ ∃ t, tensors[record.tensorId]? = some t)) :
      (if Reports config tensors record .dtype then [(record.tensorId, ascii "dtype")] else []) ++
        (if Reports config tensors record .byteOffset then [(record.tensorId, ascii "byte_offset")] else []) = [] := by
    rw [if_neg fun ⟨hlt, t, ht, _⟩ => h ⟨hlt, t, ht⟩, if_neg fun ⟨hlt, t, ht, _⟩ => h ⟨hlt, t, ht⟩]
    rfl
  by_cases hlt : record.tensorId < uint32 tensors.length
  · rw [if_pos hlt]
    cases ht : tensors[record.tensorId]? with
    | none =>
      rw [hnone fun ⟨_, t, ht'⟩ => by simp [ht] at ht']
      exact .nil
    | some t =>
      have hdtype : Reports config tensors record .dtype ↔ ¬ (record.dtype = shardDtypeF32 ∧ t.dtype = dtypeF32) := by
        simp only [Reports, hlt, ht, Option.mem_some_iff, exists_eq_left', true_and]
      have hoffset : Reports config tensors record .byteOffset ↔ record.byteOffset ≠ t.offset := by
        simp only [Reports, hlt, ht, Option.mem_some_iff, exists_eq_left', true_and]
      simp only [hdtype, hoffset]
      refine .bind (appends_reportIf (by decide) (hgrants _ (by omega))) fun fourth hfourth => ?_
      have h₄ := hle (¬ (record.dtype = shardDtypeF32 ∧ t.dtype = dtypeF32)) (record.tensorId, ascii "dtype")
      exact appends_reportIf (by decide) (hgrants _ (by omega))
  · rw [if_neg hlt, hnone fun h => hlt h.1]
    exact .nil

/-- The loop reports the violations of the records, in order. -/
theorem appends_foldlM {records : List ShardMetaRecord}
    (hgrants : GrantsViolations host (violations.length + 4 * records.length)) :
    Appends (records.foldlM (validateRecord host config tensors) violations) violations
      (records.flatMap (reported config tensors)) := by
  induction records generalizing violations with
  | nil => exact .nil
  | cons record records ih =>
    rw [List.length_cons] at hgrants
    rw [List.foldlM_cons, List.flatMap_cons]
    refine .bind (appends_validateRecord fun count hcount => hgrants count (by omega)) fun violations' hlength => ?_
    have hle : (reported config tensors record).length ≤ 4 := by
      unfold reported
      rw [List.length_map]
      exact List.length_filter_le _ _
    exact ih fun count hcount => hgrants count (by omega)

/-- **What is reported**, by tensor and field. -/
theorem shardMetaValidate_eq_ok {records : List ShardMetaRecord} (hgrants : GrantsViolations host (4 * records.length)) :
    ∃ violations, shardMetaValidate host records (some config) tensors = .ok violations ∧
      violations.map ShardMetaViolation.named = records.flatMap (reported config tensors) := by
  have hgrants' : GrantsViolations host (([] : List ShardMetaViolation).length + 4 * records.length) := by
    rwa [List.length_nil, Nat.zero_add]
  obtain ⟨violations, hfold, hnamed⟩ := @appends_foldlM host [] config tensors records hgrants'
  exact ⟨violations, hfold, hnamed⟩

end Turn

/-! ### Reported and broken -/

section Judged

variable {config : ModelConfig} {tensors : List ModelTensor} {record : ShardMetaRecord}

/-- The checks of a record decide its rules: the record of a tensor among the first `(uint32_t)tensor_count` does not
have the dtype of its tensor unless that is f32, and a record of a later tensor agrees with it. -/
def Judged (tensors : List ModelTensor) (record : ShardMetaRecord) : Prop :=
  ∀ t ∈ tensors[record.tensorId]?,
    if record.tensorId < uint32 tensors.length then record.dtype = t.dtype → record.dtype = shardDtypeF32
    else record.dtype = t.dtype ∧ record.byteOffset = t.offset

theorem reported_eq_broken : reported config tensors record = broken config tensors record ↔
    ∀ rule, Reports config tensors record rule ↔ Breaks config tensors record rule := by
  unfold reported broken
  rw [List.map_inj_right fun rule rule' h => Rule.field_injective (Prod.mk.inj h).2]
  constructor
  · intro h rule
    have hmem : rule ∈ Rule.all.filter (fun rule => Reports config tensors record rule) ↔
        rule ∈ Rule.all.filter (fun rule => Breaks config tensors record rule) := by rw [h]
    simpa only [List.mem_filter, Rule.mem_all, true_and, decide_eq_true_iff] using hmem
  · exact fun h => List.filter_congr fun rule _ => decide_eq_decide.mpr (h rule)

/-- A broken rule of one of the first tensors is reported. -/
theorem Breaks.reports {rule : Rule} (hlt : record.tensorId < uint32 tensors.length)
    (h : Breaks config tensors record rule) : Reports config tensors record rule := by
  cases rule with
  | tileId => exact h
  | ownerAimu => exact h
  | dtype =>
    obtain ⟨t, ht, hne⟩ := h
    exact ⟨hlt, t, ht, fun ⟨hrecord, htensor⟩ => hne (hrecord.trans htensor.symm)⟩
  | byteOffset => exact ⟨hlt, h⟩

/-- Of a later tensor, what is reported is broken. -/
theorem Reports.breaks {rule : Rule} (hlt : ¬ record.tensorId < uint32 tensors.length)
    (h : Reports config tensors record rule) : Breaks config tensors record rule := by
  cases rule with
  | tileId => exact h
  | ownerAimu => exact h
  | dtype => exact absurd h.1 hlt
  | byteOffset => exact absurd h.1 hlt

/-- The rules of one record are reported as they are broken. -/
theorem reports_iff_breaks : (∀ rule, Reports config tensors record rule ↔ Breaks config tensors record rule) ↔
    Judged tensors record := by
  unfold Judged
  by_cases hlt : record.tensorId < uint32 tensors.length
  · simp only [if_pos hlt]
    constructor
    · intro h t ht hdtype
      by_contra hne
      obtain ⟨t', ht', hne'⟩ := (h .dtype).mp ⟨hlt, t, ht, fun hf => hne hf.1⟩
      exact hne' (Option.mem_unique ht ht' ▸ hdtype)
    · intro h rule
      refine ⟨fun hreports => ?_, Breaks.reports hlt⟩
      cases rule with
      | tileId => exact hreports
      | ownerAimu => exact hreports
      | dtype =>
        obtain ⟨-, t, ht, hne⟩ := hreports
        exact ⟨t, ht, fun hdtype => hne ⟨h t ht hdtype, hdtype.symm.trans (h t ht hdtype)⟩⟩
      | byteOffset => exact hreports.2
  · simp only [if_neg hlt]
    constructor
    · intro h t ht
      by_contra hne
      rw [Decidable.not_and_iff_not_or_not] at hne
      obtain hne | hne := hne
      · exact hlt ((h .dtype).mpr ⟨t, ht, hne⟩).1
      · exact hlt ((h .byteOffset).mpr ⟨t, ht, hne⟩).1
    · intro h rule
      refine ⟨Reports.breaks hlt, fun hbreaks => ?_⟩
      cases rule with
      | tileId => exact hbreaks
      | ownerAimu => exact hbreaks
      | dtype =>
        obtain ⟨t, ht, hne⟩ := hbreaks
        exact absurd (h t ht).1 hne
      | byteOffset =>
        obtain ⟨t, ht, hne⟩ := hbreaks
        exact absurd (h t ht).2 hne

/-- The pairs of one record on one side of a bound: all or none. -/
theorem filter_named {n : ℕ} {p : Rule → Prop} [DecidablePred p] (b : Bool) :
    ((Rule.all.filter fun rule => p rule).map fun rule => (record.tensorId, rule.field)).filter
        (fun pair => decide (pair.1 < n) == b) =
      if decide (record.tensorId < n) = b then
        (Rule.all.filter fun rule => p rule).map fun rule => (record.tensorId, rule.field)
      else [] := by
  by_cases hn : decide (record.tensorId < n) = b
  · rw [if_pos hn, List.filter_eq_self]
    intro pair hpair
    obtain ⟨rule, -, rfl⟩ := List.mem_map.mp hpair
    simpa using hn
  · rw [if_neg hn, List.filter_eq_nil_iff]
    intro pair hpair
    obtain ⟨rule, -, rfl⟩ := List.mem_map.mp hpair
    simpa using hn

/-- **Reported and broken**: the lists are equal exactly where every record is judged. -/
theorem reported_eq_broken_iff {records : List ShardMetaRecord} :
    records.flatMap (reported config tensors) = records.flatMap (broken config tensors) ↔
      ∀ record ∈ records, Judged tensors record := by
  have hjudged (record : ShardMetaRecord) :
      reported config tensors record = broken config tensors record ↔ Judged tensors record :=
    reported_eq_broken.trans reports_iff_breaks
  simp only [← hjudged]
  refine ⟨fun h => ?_, List.flatMap_congr⟩
  -- what is reported of the first tensors is broken and more, of the later ones less
  let side (b : Bool) (pairs : List (ℕ × List UInt8)) : List (ℕ × List UInt8) :=
    pairs.filter fun pair => decide (pair.1 < uint32 tensors.length) == b
  have hpart (b : Bool) : records.flatMap (fun record => side b (reported config tensors record)) =
      records.flatMap (fun record => side b (broken config tensors record)) := by
    rw [← List.filter_flatMap, ← List.filter_flatMap, h]
  have hreported (b : Bool) (record : ShardMetaRecord) : side b (reported config tensors record) =
      if decide (record.tensorId < uint32 tensors.length) = b then reported config tensors record else [] :=
    filter_named b
  have hbroken (b : Bool) (record : ShardMetaRecord) : side b (broken config tensors record) =
      if decide (record.tensorId < uint32 tensors.length) = b then broken config tensors record else [] :=
    filter_named b
  intro record hrecord
  by_cases hlt : record.tensorId < uint32 tensors.length
  · have heq := forall_eq_of_flatMap_length (fun record _ => ?_) (congrArg List.length (hpart true).symm) record hrecord
    · rwa [hreported, hbroken, if_pos (decide_eq_true hlt), if_pos (decide_eq_true hlt), eq_comm] at heq
    · rw [hreported, hbroken]
      by_cases hrecordLt : record.tensorId < uint32 tensors.length
      · rw [if_pos (decide_eq_true hrecordLt), if_pos (decide_eq_true hrecordLt)]
        exact (List.monotone_filter_right _ fun rule hrule =>
          decide_eq_true (Breaks.reports hrecordLt (of_decide_eq_true hrule))).map _
      · rw [if_neg (by simpa using hrecordLt), if_neg (by simpa using hrecordLt)]
  · have heq := forall_eq_of_flatMap_length (fun record _ => ?_) (congrArg List.length (hpart false)) record hrecord
    · rwa [hreported, hbroken, if_pos (decide_eq_false hlt), if_pos (decide_eq_false hlt)] at heq
    · rw [hreported, hbroken]
      by_cases hrecordLt : record.tensorId < uint32 tensors.length
      · rw [if_neg (by simpa using hrecordLt), if_neg (by simpa using hrecordLt)]
      · rw [if_pos (decide_eq_false hrecordLt), if_pos (decide_eq_false hrecordLt)]
        exact (List.monotone_filter_right _ fun rule hrule =>
          decide_eq_true (Reports.breaks hrecordLt (of_decide_eq_true hrule))).map _

end Judged

end Att1.ModelFile
