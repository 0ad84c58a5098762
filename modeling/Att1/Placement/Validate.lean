import Att1.Lib.Checked
import Att1.Lib.Json
import Att1.Lib.Rounding

/-!
# Att1.Placement.Validate — the placement-report validator (`compiler/validate_tensor_placement_report.py`)

A check returns the issues it records, in order.  `validate` runs the checks of the header, the tiles and the tensors.
-/

open Att1.Lib

namespace Att1.Placement

/-! ### Constants -/

/-- `VALID_DTYPES`. -/
def validDtypes : List String := ["f32", "q8", "q4", "bf16"]

/-- `VALID_QUANTIZATION_FAMILIES`. -/
def validQuantizationFamilies : List String := ["none", "per_row_q8", "per_group_q4", "per_tensor_q8"]

/-- `VALID_TENSOR_CATEGORIES`. -/
def validTensorCategories : List String :=
  ["embedding", "attention_q", "attention_k", "attention_v", "attention_o", "ffn_gate", "ffn_up", "ffn_down", "norm",
    "lm_head", "kv_cache", "activation", "other"]

/-- `VALID_REPLICATION_POLICIES`. -/
def validReplicationPolicies : List String := ["unique", "replicated", "partial"]

/-- `VALID_REDUCTION_BEHAVIORS`. -/
def validReductionBehaviors : List String := ["none", "sum", "max", "concat"]

/-- `VALID_ROUTING_REQUIREMENTS`. -/
def validRoutingRequirements : List String :=
  ["none", "broadcast_activation", "fixed_path", "lookup_route", "concat_return"]

/-- `VALID_PLACEMENT_STATUSES`. -/
def validPlacementStatuses : List String := ["placed", "unplaced", "partial", "overflow", "invalid"]

/-- `VALID_CAPACITY_STATUSES`. -/
def validCapacityStatuses : List String := ["PASS", "WARN", "FAIL", "UNKNOWN"]

/-- `VALID_BANDWIDTH_STATUSES`. -/
def validBandwidthStatuses : List String := ["PASS", "WARN", "FAIL", "UNKNOWN"]

/-- `_Q4_DEFAULT_GROUP_SIZE`. -/
def q4DefaultGroupSize : ℤ := 32

/-! ### Result collector -/

inductive IssueSeverity
  | warning
  | error
  deriving DecidableEq

/-- A record of `ValidationResult`, with its keyword arguments. -/
structure Issue where
  severity : IssueSeverity
  rule : ℕ
  message : FString
  about : Fields

/-- `res.error`. -/
def resError (rule : ℕ) (message : FString) (about : Fields) : Issue := ⟨.error, rule, message, about⟩

/-- `res.issue("warning", …)`: an error in the strict mode. -/
def resIssue (strict : Bool) (rule : ℕ) (message : FString) (about : Fields) : Issue :=
  ⟨if strict then .error else .warning, rule, message, about⟩

/-- `value not in texts`, for a set. -/
def notIn (value : Json) (texts : List String) : Py Bool := do
  let known ← value.inSet texts
  .ok (!known)

/-- The integer of a value that is one and satisfies the test. -/
def intWith (value : Json) (p : ℤ → Bool) : Bool :=
  match value.asInt? with
  | some n => p n
  | none => false

/-- `isinstance(value, (int, float)) and p(value)`. -/
def numberWith (value : Json) (p : ℚ → Bool) : Bool :=
  match value.number? with
  | some q => p q
  | none => false

/-- `{value:.1f}` of a number, which converts an integer to a float. -/
def fixedOne (value : Json) : Py FPart := do
  let _ ← value.isFinite
  let tenths := roundEven (value.number?.getD 0 * 10)
  .ok (.lit (toString (tenths / 10) ++ "." ++ toString (tenths % 10)))

/-- The first element under each key. -/
def distinctBy {α β : Type} [DecidableEq β] (key : α → β) : List α → List α
  | [] => []
  | x :: xs => x :: (distinctBy key xs).filter fun y => key y ≠ key x

/-- A set of values, with what it keeps of them. -/
def pySet (values : List Json) : Py (List (Json.Key × Json)) := do
  let keyed ← values.mapM fun value => do
    let key ← value.key
    .ok (key, value)
  .ok (distinctBy Prod.fst keyed)

/-- `set == {text}`. -/
def isOnly (set : List (Json.Key × Json)) (text : String) : Bool :=
  match set with
  | [(_, value)] => value.eqStr text
  | _ => false

/-! ### Header -/

/-- A check of an optional field of the header. -/
def checkOptional (header : Fields) (field : String) (good : Json → Bool) (text : String) : List Issue :=
  let value := dictGet header field
  if !value.isNone && !good value then [resError 0 [.lit (field ++ text), .repr value] []] else []

/-- `validate_header`: the checks of the version. -/
def checkVersion (report : Fields) : Py (List Issue) :=
  let ver := dictGet report "report_version"
  if ver.isNone then .ok [resError 0 [.lit "Missing 'report_version'"] []]
  else do
    let key ← ver.key
    .ok <|
      if key = .num 1 then []
      else [resError 0 [.lit "Unsupported report_version=", .repr ver, .lit "; supported: [1]"] []]

/-- `validate_header`: the checks of the dtype. -/
def checkDtype (header : Fields) : Py (List Issue) :=
  let dtype := dictGet header "dtype"
  if dtype.isNone then .ok [resError 0 [.lit "Missing 'dtype' in header"] []]
  else do
    let unknown ← notIn dtype validDtypes
    .ok (if unknown then [resError 0 [.lit "Unknown dtype=", .repr dtype] []] else [])

/-- `validate_header`: the checks of the quantization family. -/
def checkQuantizationFamily (strict : Bool) (header : Fields) : Py (List Issue) :=
  let qf := dictGet header "quantization_family"
  if qf.isNone then .ok [resIssue strict 0 [.lit "Missing 'quantization_family' in header"] []]
  else do
    let unknown ← notIn qf validQuantizationFamilies
    .ok (if unknown then [resError 0 [.lit "Unknown quantization_family=", .repr qf] []] else [])

/-- `validate_header`: the tile count, 0 on error, and its issues. -/
def checkTileCount (header : Fields) : ℕ × List Issue :=
  let tileCount := dictGet header "tile_count"
  if tileCount.isNone then (0, [resError 0 [.lit "Missing 'tile_count' in header"] []])
  else if intWith tileCount fun n => 0 < n then ((tileCount.asInt?.getD 0).toNat, [])
  else (0, [resError 0 [.lit "tile_count must be a positive integer; got ", .repr tileCount] []])

/-- `validate_header`. -/
def validateHeader (strict : Bool) (report : Fields) : Py (ℕ × List Issue) :=
  let header := dictGet report "header"
  if header.isNone then .ok (0, [resError 0 [.lit "Missing 'header' section"] []])
  else do
    let version ← checkVersion report
    let named ← header.contains "model_name"
    let header ← header.asObj
    let dtype ← checkDtype header
    let family ← checkQuantizationFamily strict header
    let tiles := checkTileCount header
    let name := if named then [] else [resIssue strict 0 [.lit "Missing 'model_name' in header"] []]
    let optional :=
      checkOptional header "target_context_length" (intWith · fun n => 1 ≤ n) " must be >= 1; got " ++
      checkOptional header "target_sessions" (intWith · fun n => 1 ≤ n) " must be >= 1; got " ++
      checkOptional header "tile_memory_mib" (numberWith · fun q => 0 < q) " must be a positive number; got " ++
      checkOptional header "fabric_gib_sec" (numberWith · fun q => 0 < q) " must be a positive number; got "
    .ok (tiles.1, version ++ name ++ dtype ++ family ++ tiles.2 ++ optional)

/-! ### Tile summaries -/

/-- `tiles[tile_id={tid}]`, and a text. -/
def aboutTile (tid : Json) (text : String) : FString := [.lit "tiles[tile_id=", .val tid, .lit ("]" ++ text)]

/-- The check of one of the byte counts. -/
def checkByteCount (strict : Bool) (tid : Json) (tile : Fields) (field : String) : List Issue :=
  let val := dictGet tile field
  if val.isNone then [resIssue strict 0 (aboutTile tid (" missing '" ++ field ++ "'")) []]
  else if intWith val fun n => 0 ≤ n then []
  else [resError 0 (aboutTile tid ("." ++ field ++ " must be a non-negative integer; got ") ++ [.repr val]) []]

/-- The checks of `fabric_packets_per_token` and `memory_utilization_percent`. -/
def checkTileNumbers (tid : Json) (tile : Fields) : List Issue :=
  let ppt := dictGet tile "fabric_packets_per_token"
  let util := dictGet tile "memory_utilization_percent"
  (if ppt.isNone || intWith ppt fun n => 0 ≤ n then []
    else [resError 0 (aboutTile tid ".fabric_packets_per_token must be non-negative; got " ++ [.repr ppt]) []]) ++
  (if util.isNone || numberWith util fun q => 0 ≤ q then []
    else
      [resError 0 (aboutTile tid ".memory_utilization_percent must be a non-negative number; got " ++ [.repr util]) []])

/-- The checks of `capacity_status`; its second comparison with the utilization repeats the first. -/
def checkCapacityStatus (tid : Json) (tile : Fields) : Py (List Issue) := do
  let cap := dictGet tile "capacity_status"
  let util := dictGet tile "memory_utilization_percent"
  let unknown ← notIn cap validCapacityStatuses
  if unknown then
    .ok [resError 0 (aboutTile tid ".capacity_status=" ++
      [.repr cap, .lit " not in ['FAIL', 'PASS', 'UNKNOWN', 'WARN']"]) []]
  else if util.isNone then .ok []
  else do
    let exceeds ← Json.lt (.int 100) util
    if exceeds && cap.eqStr "PASS" then do
      let percent ← fixedOne util
      .ok
        [resError 0 (aboutTile tid " capacity_status=PASS but memory_utilization_percent=" ++
            [percent, .lit "% > 100%"]) [],
          resError 0 (aboutTile tid " utilization " ++ [percent, .lit "% exceeds capacity but status=PASS"]) []]
    else .ok []

/-- The check of `bandwidth_status`. -/
def checkBandwidthStatus (tid : Json) (tile : Fields) : Py (List Issue) := do
  let bw := dictGet tile "bandwidth_status"
  let unknown ← notIn bw validBandwidthStatuses
  .ok <|
    if unknown then
      [resError 0 (aboutTile tid ".bandwidth_status=" ++
        [.repr bw, .lit " not in ['FAIL', 'PASS', 'UNKNOWN', 'WARN']"]) []]
    else []

/-- The byte counts that every tile has. -/
def byteFields : List String :=
  ["model_bytes", "kv_bytes", "activation_bytes_per_token", "logits_bytes_per_token",
    "fabric_payload_bytes_per_token"]

/-- The checks of a tile whose id is valid. -/
def checkTile (strict : Bool) (tid : Json) (tile : Fields) : Py (List Issue) := do
  let capacity ← checkCapacityStatus tid tile
  let bandwidth ← checkBandwidthStatus tid tile
  .ok (byteFields.flatMap (checkByteCount strict tid tile) ++ checkTileNumbers tid tile ++ capacity ++ bandwidth)

/-- `tiles[{i}]`, and a text. -/
def atIndex (list : String) (i : ℕ) (text : String) : FString :=
  [.lit (list ++ "["), .val (.int i), .lit ("]" ++ text)]

/-- The loop of `validate_tiles` from index `i` on: the valid ids and the issues. -/
def checkTiles (strict : Bool) (tileCount : ℕ) : List ℤ → ℕ → List Json → Py (List ℤ × List Issue)
  | _, _, [] => .ok ([], [])
  | seen, i, .obj tile :: tiles =>
    let tid := dictGet tile "tile_id"
    if tid.isNone then do
      let (valid, rest) ← checkTiles strict tileCount seen (i + 1) tiles
      .ok (valid, resError 0 (atIndex "tiles" i " missing 'tile_id'") [] :: rest)
    else
      match tid.asInt? with
      | none => do
        let (valid, rest) ← checkTiles strict tileCount seen (i + 1) tiles
        .ok (valid, resError 0 (atIndex "tiles" i ".tile_id must be an integer; got " ++ [.repr tid]) [] :: rest)
      | some t =>
        if t ∈ seen then do
          let (valid, rest) ← checkTiles strict tileCount seen (i + 1) tiles
          .ok (valid, resError 0 [.lit "Duplicate tile_id=", .val tid] [] :: rest)
        else if 0 < tileCount ∧ (tileCount : ℤ) ≤ t then do
          let (valid, rest) ← checkTiles strict tileCount (t :: seen) (i + 1) tiles
          .ok (valid, resError 4 [.lit "tile_id=", .val tid, .lit " out of range for tile_count=",
            .val (.int tileCount)] [] :: rest)
        else do
          let issues ← checkTile strict tid tile
          let (valid, rest) ← checkTiles strict tileCount (t :: seen) (i + 1) tiles
          .ok (t :: valid, issues ++ rest)
  | seen, i, _ :: tiles => do
    let (valid, rest) ← checkTiles strict tileCount seen (i + 1) tiles
    .ok (valid, resError 0 (atIndex "tiles" i " is not an object") [] :: rest)

/-- `validate_tiles`. -/
def validateTiles (strict : Bool) (report : Fields) (tileCount : ℕ) : Py (List ℤ × List Issue) :=
  match dictGetD report "tiles" (.arr []) with
  | .arr tiles => checkTiles strict tileCount [] 0 tiles
  | _ => .ok ([], [resError 0 [.lit "'tiles' must be a JSON array"] []])

/-! ### Tensor records -/

/-- What the messages of a record say of it. -/
structure RecordName where
  index : ℕ
  tid : Json
  name : Json

/-- `tensors[{i}] '{name}'`, and a text. -/
def RecordName.says (r : RecordName) (text : String) : FString :=
  [.lit "tensors[", .val (.int r.index), .lit "] '", .val r.name, .lit ("'" ++ text)]

/-- The keyword arguments of most issues of a record. -/
def RecordName.about (r : RecordName) : Fields := [("tensor_id", r.tid), ("tensor_name", r.name)]

def RecordName.error (r : RecordName) (rule : ℕ) (text : String) (more : FString) : Issue :=
  resError rule ( RecordName.says r text ++ more) r.about

def RecordName.issue (r : RecordName) (strict : Bool) (rule : ℕ) (text : String) (more : FString) : Issue :=
  resIssue strict rule ( RecordName.says r text ++ more) r.about

/-- The checks of `tensor_id`: the id that counts, and the issues. -/
def checkTensorId (i : ℕ) (rec : Fields) : Option ℤ × List Issue :=
  let tid := dictGet rec "tensor_id"
  let name := dictGetD rec "tensor_name" (.str ("<tensor " ++ toString i ++ ">"))
  if tid.isNone then
    (none,
      if name.truthy then []
      else [resError 1 (atIndex "tensors" i " must have 'tensor_id' or 'tensor_name'") [("tensor_index", .int i)]])
  else
    match tid.asInt? with
    | some t => (some t, [])
    | none =>
      (none, [resError 0 (atIndex "tensors" i ".tensor_id must be an integer; got " ++ [.repr tid])
        [("tensor_index", .int i)]])

/-- The check of `tensor_category`. -/
def checkCategory (strict : Bool) (r : RecordName) (rec : Fields) : Py (List Issue) :=
  let cat := dictGet rec "tensor_category"
  if cat.isNone then .ok [r.issue strict 0 " missing 'tensor_category'" []]
  else do
    let unknown ← notIn cat validTensorCategories
    .ok <|
      if unknown then
        [r.issue strict 0 " unrecognised category=" [.repr cat, .lit "; use 'other' for custom categories"]]
      else []

/-- A list of positive integers. -/
def isShape (value : Json) : Bool :=
  match value.asList? with
  | some dims => dims.all fun d => intWith d fun n => 0 < n
  | none => false

/-- The check of one of the shapes. -/
def checkShape (strict : Bool) (r : RecordName) (rec : Fields) (field : String) : List Issue :=
  let shape := dictGet rec field
  if shape.isNone then [r.issue strict 0 (" missing '" ++ field ++ "'") []]
  else if isShape shape then []
  else [r.error 0 (" " ++ field ++ " must be a list of positive integers; got ") [.repr shape]]

/-- The check of `dtype`. -/
def checkRecordDtype (strict : Bool) (r : RecordName) (rec : Fields) : Py (List Issue) :=
  let dtype := dictGet rec "dtype"
  if dtype.isNone then .ok [r.issue strict 0 " missing 'dtype'" []]
  else do
    let unknown ← notIn dtype validDtypes
    .ok (if unknown then [r.error 5 " unknown dtype=" [.repr dtype]] else [])

/-- The checks of the quantization metadata. -/
def checkQuantization (r : RecordName) (rec : Fields) : List Issue :=
  let groupSize := dictGet rec "quantization_group_size"
  if (dictGetD rec "quantization" (.str "none")).eqStr "per_group_q4" then
    if groupSize.isNone then [r.error 6 " quantization=per_group_q4 but quantization_group_size is absent" []]
    else if intWith groupSize fun n => 0 < n then []
    else [r.error 6 " quantization_group_size must be a positive integer; got " [.repr groupSize]]
  else []

/-- The check of `packed_bytes` or `scale_bytes`. -/
def checkBytes (r : RecordName) (rec : Fields) (field : String) : List Issue :=
  let bv := dictGet rec field
  if bv.isNone || intWith bv fun n => 0 ≤ n then []
  else [r.error 0 (" " ++ field ++ " must be a non-negative integer; got ") [.repr bv]]

/-- The checks of `owner_tile`. -/
def checkOwner (r : RecordName) (validTileIds : List ℤ) (tileCount : ℕ) (rec : Fields) : List Issue :=
  let owner := dictGet rec "owner_tile"
  if owner.isNone then [r.error 0 " missing 'owner_tile'" []]
  else
    match owner.asInt? with
    | none => [r.error 0 " owner_tile must be integer; got " [.repr owner]]
    | some t =>
      if validTileIds ≠ [] ∧ t ∉ validTileIds then
        [r.error 4 " owner_tile=" [.val owner, .lit " does not exist in tiles list"]]
      else if 0 < tileCount ∧ (tileCount : ℤ) ≤ t then
        [r.error 4 " owner_tile=" [.val owner, .lit " >= tile_count=", .val (.int tileCount)]]
      else []

/-- `source_shape[axis]`, if there is such a dimension. -/
def dimAt (rec : Fields) (axis : Json) : Option Json := do
  let shape ← (dictGet rec "source_shape").asList?
  let a ← axis.asInt?
  if 0 ≤ a then shape[a.toNat]? else none

/-- The check of the slice against the dimension. -/
def checkSliceBound (r : RecordName) (rec : Fields) (axis last : Json) : Py (List Issue) :=
  match dimAt rec axis with
  | none => .ok []
  | some dim => do
    let beyond ← Json.lt dim last
    .ok <|
      if beyond then
        [r.error 0 " slice_end=" [.val last, .lit " > source_shape[", .val axis, .lit "]=", .val dim]]
      else []

/-- The group size that the alignment is checked against. -/
def alignment (rec : Fields) : ℤ :=
  let gs := (dictGet rec "quantization_group_size").orElse (.int q4DefaultGroupSize)
  if intWith gs fun n => 0 < n then gs.asInt?.getD q4DefaultGroupSize else q4DefaultGroupSize

/-- The alignment of a slice of a q4 tensor. -/
def checkAlignment (r : RecordName) (rec : Fields) (axis first last : Json) : List Issue :=
  let gs := alignment rec
  let isQ4 := (dictGetD rec "quantization" (.str "none")).eqStr "per_group_q4" || (dictGet rec "dtype").eqStr "q4"
  let isEnd := match dimAt rec axis with
    | some dim => last.eq dim
    | none => false
  if isQ4 then
    (if intWith first fun n => n % gs ≠ 0 then
      [r.error 6 " slice_start=" [.val first, .lit " not aligned to q4 group_size=", .val (.int gs)]]
    else []) ++
    (if (intWith last fun n => n % gs ≠ 0) && !isEnd then
      [r.error 6 " slice_end=" [.val last, .lit " not aligned to q4 group_size=", .val (.int gs),
        .lit " and is not end of dimension"]]
    else [])
  else []

/-- The checks of the slice fields. -/
def checkSlice (r : RecordName) (rec : Fields) : Py (List Issue) :=
  let axis := dictGet rec "slice_axis"
  let first := dictGet rec "slice_start"
  let last := dictGet rec "slice_end"
  let rank := ((dictGet rec "source_shape").asList?.getD []).length
  if axis.isNone then .ok []
  else
    let axes :=
      if !intWith axis fun n => 0 ≤ n then
        [r.error 0 " slice_axis must be a non-negative integer; got " [.repr axis]]
      else if 0 < rank ∧ intWith axis fun n => (rank : ℤ) ≤ n then
        [r.error 0 " slice_axis=" [.val axis, .lit " out of range for rank=", .val (.int rank)]]
      else []
    if first.isNone || last.isNone then
      .ok (axes ++ [r.error 0 " slice_axis is set but slice_start or slice_end is absent" []])
    else
      let firsts :=
        if intWith first fun n => 0 ≤ n then []
        else [r.error 0 " slice_start must be a non-negative integer; got " [.repr first]]
      if !intWith last fun n => 0 < n then
        .ok (axes ++ firsts ++ [r.error 0 " slice_end must be a positive integer; got " [.repr last]])
      else if intWith first fun s => last.asInt?.getD 0 ≤ s then
        .ok (axes ++ firsts ++
          [r.error 0 " slice_end=" [.val last, .lit " <= slice_start=", .val first, .lit ": empty range"]])
      else do
        let bound ← checkSliceBound r rec axis last
        .ok (axes ++ firsts ++ bound ++ checkAlignment r rec axis first last)

/-- The check of a field against a set, for which an error is recorded. -/
def checkMember (r : RecordName) (rec : Fields) (field : String) (default : Json) (texts : List String)
    (sorted : String) : Py (List Issue) := do
  let value := dictGetD rec field default
  let unknown ← notIn value texts
  .ok (if unknown then [r.error 0 (" " ++ field ++ "=") [.repr value, .lit (" not in " ++ sorted)]] else [])

/-- The check of `routing_requirements`. -/
def checkRouting (strict : Bool) (r : RecordName) (rec : Fields) : Py (List Issue) := do
  let rr := dictGetD rec "routing_requirements" (.str "none")
  let unknown ← notIn rr validRoutingRequirements
  .ok <|
    if unknown then
      [r.issue strict 0 " routing_requirements=" [.repr rr, .lit " not in recognised set; continuing"]]
    else []

/-- `rec.get("replication_policy", "unique")`. -/
def policyOf (rec : Fields) : Json := dictGetD rec "replication_policy" (.str "unique")

/-- `rec.get("placement_status", "placed")`. -/
def statusOf (rec : Fields) : Json := dictGetD rec "placement_status" (.str "placed")

/-- The checks of a record, without the one for duplicates. -/
def checkRecord (strict : Bool) (validTileIds : List ℤ) (tileCount : ℕ) (r : RecordName) (rec : Fields) :
    Py (List Issue) := do
  let category ← checkCategory strict r rec
  let dtype ← checkRecordDtype strict r rec
  let slice ← checkSlice r rec
  let policy ← checkMember r rec "replication_policy" (.str "unique") validReplicationPolicies
    "['partial', 'replicated', 'unique']"
  let reduction ← checkMember r rec "reduction_behavior" (.str "none") validReductionBehaviors
    "['concat', 'max', 'none', 'sum']"
  let routing ← checkRouting strict r rec
  let status ← checkMember r rec "placement_status" (.str "placed") validPlacementStatuses
    "['invalid', 'overflow', 'partial', 'placed', 'unplaced']"
  .ok (category ++ checkShape strict r rec "source_shape" ++ checkShape strict r rec "placed_shape" ++ dtype ++
    checkQuantization r rec ++ checkBytes r rec "packed_bytes" ++ checkBytes r rec "scale_bytes" ++
    checkOwner r validTileIds tileCount rec ++ slice ++ policy ++ reduction ++ routing ++ status)

/-- The check for duplicates of a tensor with a unique record: the ids seen from now on, and the issues. -/
def checkUnique (seen : List ℤ) (r : RecordName) (tid : Option ℤ) (rec : Fields) : List ℤ × List Issue :=
  match tid with
  | none => (seen, [])
  | some t =>
    if (policyOf rec).eqStr "unique" then
      if t ∈ seen then
        (seen, [resError 2 [.lit "Duplicate 'unique' placement record for tensor_id=", .val (.int t), .lit " ('",
          .val r.name, .lit "')"] r.about])
      else (t :: seen, [])
    else (seen, [])

/-- The first loop of `validate_tensors` from index `i` on: the records with an id, and the issues. -/
def checkRecords (strict : Bool) (validTileIds : List ℤ) (tileCount : ℕ) :
    List ℤ → ℕ → List Json → Py (List (ℤ × Fields) × List Issue)
  | _, _, [] => .ok ([], [])
  | seen, i, .obj rec :: tensors => do
    let (tid, ids) := checkTensorId i rec
    let r : RecordName :=
      ⟨i, (tid.map .int).getD .null, dictGetD rec "tensor_name" (.str ("<tensor " ++ toString i ++ ">"))⟩
    let issues ← checkRecord strict validTileIds tileCount r rec
    let (seen, unique) := checkUnique seen r tid rec
    let (kept, rest) ← checkRecords strict validTileIds tileCount seen (i + 1) tensors
    .ok ((tid.map fun t => (t, rec)).toList ++ kept, ids ++ issues ++ unique ++ rest)
  | seen, i, _ :: tensors => do
    let (kept, rest) ← checkRecords strict validTileIds tileCount seen (i + 1) tensors
    .ok (kept, resError 0 (atIndex "tensors" i " is not an object") [] :: rest)

/-! ### Coverage -/

/-- The items of `by_id`. -/
def byId (kept : List (ℤ × Fields)) : List (ℤ × List Fields) :=
  (distinctBy Prod.fst kept).map fun first => (first.1, (kept.filter fun r => r.1 = first.1).map Prod.snd)

/-- A slice: its start, its end and the tile. -/
structure Slice where
  first : ℤ
  last : ℤ
  owner : Json

/-- The slice of a record, unless it is empty or not given in integers. -/
def sliceOf (rec : Fields) : Option Slice := do
  let s ← (dictGet rec "slice_start").asInt?
  let e ← (dictGet rec "slice_end").asInt?
  if s < e then some ⟨s, e, dictGet rec "owner_tile"⟩ else none

/-- `slices.sort()`: by start, end and tile. -/
def sortSlices (slices : List Slice) : Py (List Slice) :=
  sortedBy (fun s => .arr [.int s.first, .int s.last, s.owner]) slices

/-- The overlap check of neighbours. -/
def overlaps (tid : ℤ) : List Slice → List Issue
  | a :: b :: rest =>
    (if b.first < a.last then
      [resError 2 [.lit "tensor_id=", .val (.int tid), .lit ": overlapping slices [", .val (.int a.first), .lit ",",
        .val (.int a.last), .lit ") on tile ", .val a.owner, .lit " and [", .val (.int b.first), .lit ",",
        .val (.int b.last), .lit ") on tile ", .val b.owner] []]
    else []) ++ overlaps tid (b :: rest)
  | _ => []

/-- The loop that merges ranges: `merged` holds the merged ranges but the last one, in reverse. -/
def mergeRanges : List (ℤ × ℤ) → ℤ × ℤ → List (ℤ × ℤ) → List (ℤ × ℤ)
  | merged, last, [] => (last :: merged).reverse
  | merged, last, (s, e) :: rest =>
    if s ≤ last.2 then mergeRanges merged (last.1, max last.2 e) rest
    else mergeRanges (last :: merged) (s, e) rest

/-- `sorted({(s, e) for (s, e, _) in slices})` of slices in order. -/
def coveredRanges (slices : List Slice) : List (ℤ × ℤ) := distinctBy id (slices.map fun s => (s.first, s.last))

/-- The coverage check of a tensor whose slices are in order. -/
def checkCoverage (strict : Bool) (tid : ℤ) (records : List Fields) (axis : Json) (slices : List Slice) :
    Py (List Issue) :=
  match (records.head?.bind fun rec => dimAt rec axis), coveredRanges slices with
  | some dim, range :: ranges =>
    match mergeRanges [] range ranges with
    | [(s, e)] => if s = 0 ∧ dim.eq (.int e) then .ok [] else uncovered dim
    | _ => uncovered dim
  | _, _ => .ok []
where
  /-- The warning, unless a record has another status than `placed`. -/
  uncovered (dim : Json) : Py (List Issue) := do
    let statuses ← pySet (records.map statusOf)
    .ok <|
      if isOnly statuses "placed" then
        [resIssue strict 3 [.lit "tensor_id=", .val (.int tid), .lit ": slices do not fully cover [0,", .val dim,
          .lit "); check for gaps or partial placement"] []]
      else []

/-- `reds == {"none"} or reds == {None}`. -/
def unreduced (reds : List (Json.Key × Json)) : Bool :=
  isOnly reds "none" || (match reds with | [(_, value)] => value.isNone | _ => false)

/-- The check of `reduction_behavior`; the name in its message is that of any of the records. -/
def checkReductions (strict : Bool) (tid : ℤ) (records : List Fields) : Py (List Issue) := do
  let reds ← pySet (records.map fun rec => dictGetD rec "reduction_behavior" (.str "none"))
  if unreduced reds then do
    let names ← pySet (records.map fun rec => dictGetD rec "tensor_name" (.str ("tensor_id=" ++ toString tid)))
    .ok [resIssue strict 8 [.lit "tensor_id=", .val (.int tid), .lit " ('", .val ((names.map Prod.snd).headD .null),
      .lit ("'): split across multiple tiles but reduction_behavior is 'none' for all slices; " ++
        "set reduction_behavior if a partial sum is required")] [("tensor_id", .int tid)]]
  else .ok []

/-- The coverage and overlap checks of a tensor. -/
def checkGroup (strict : Bool) (tid : ℤ) (records : List Fields) : Py (List Issue) :=
  if records.length ≤ 1 then .ok []
  else do
    let axes ← pySet (records.map fun rec => dictGet rec "slice_axis")
    let policies ← pySet (records.map policyOf)
    if isOnly policies "replicated" then .ok []
    else
      match axes with
      | [(_, axis)] =>
        if axis.isNone then
          .ok <|
            if records.any fun rec => !(policyOf rec).eqStr "replicated" then
              [resError 2 [.lit "tensor_id=", .val (.int tid), .lit (": multiple whole-tensor placement records but " ++
                "replication_policy is not 'replicated'")] []]
            else []
        else do
          let slices ← sortSlices (records.filterMap sliceOf)
          let coverage ← checkCoverage strict tid records axis slices
          let reductions ← checkReductions strict tid records
          .ok (overlaps tid slices ++ coverage ++ reductions)
      | _ =>
        .ok [resError 0 ([.lit "tensor_id=", .val (.int tid), .lit ": inconsistent slice_axis values across records: ",
          .lit "\x7b"] ++ (axes.map fun a => FPart.repr a.2).intersperse (.lit ", ") ++ [.lit "\x7d"]) []]

/-- `validate_tensors`. -/
def validateTensors (strict : Bool) (report : Fields) (validTileIds : List ℤ) (tileCount : ℕ) : Py (List Issue) :=
  match dictGetD report "tensors" (.arr []) with
  | .arr tensors => do
    let (kept, issues) ← checkRecords strict validTileIds tileCount [] 0 tensors
    let groups ← (byId kept).mapM fun group => checkGroup strict group.1 group.2
    .ok (issues ++ groups.flatten)
  | _ => .ok [resError 0 [.lit "'tensors' must be a JSON array"] []]

/-- `validate`. -/
def validate (strict : Bool) (report : Fields) : Py (List Issue) := do
  let (tileCount, header) ← validateHeader strict report
  let absent := ["tiles", "tensors"].flatMap fun key =>
    if (report.lookup key).isSome then []
    else [resIssue strict 0 [.lit ("Top-level '" ++ key ++ "' list is absent; no " ++ key ++ " will be checked")] []]
  let (validTileIds, tiles) ← validateTiles strict report tileCount
  let tensors ← validateTensors strict report validTileIds tileCount
  .ok (header ++ absent ++ tiles ++ tensors)

end Att1.Placement
