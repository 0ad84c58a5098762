import Att1.ModelFile.Size
import Att1.ModelFile.ShardMeta
import Att1.ModelFile.TokMeta

/-!
# Att1.ModelFile.Loader — `att1_model_load` (`src/model_loader.c`)

* `load host file`: the whole call.  `file` is what the path leads to, `none` where it cannot be opened, measured or
  read.  The result has the status, the output model and the heap blocks of the call that are still allocated.
* `readFile`, `parseHeader`, `parseTensors`: its stages; each fails with the status the C code returns there.
* `load_error`, `load_ok`: what a call leaves behind.
-/

open Att1.Lib

namespace Att1.ModelFile

/-! ### The stages -/

/-- `LONG_MAX`, the largest size `ftell` reports. -/
def longMax : ℕ := 2 ^ 63 - 1

/-- `sizeof(att1_model_tensor)`. -/
def modelTensorSize : ℕ := 136

/-- `att1_range_valid`. -/
def rangeValid (fileSize offset size : ℕ) : Bool :=
  if fileSize < offset then false else if fileSize - offset < size then false else true

/-- `att1_model_read_file`. -/
def readFile (host : Host) (file : Option (List UInt8)) : Option (List UInt8) := do
  let data ← file
  guard (data.length ≤ longMax)
  guard (host.malloc data.length ∨ data.length = 0)
  some data

/-- The header fields that `att1_model_load` reads into its locals. -/
structure Header where
  configOffset : ℕ
  configSize : ℕ
  descOffset : ℕ
  tensorCount : ℕ
  dataOffset : ℕ
  dataSize : ℕ
  shardOffset : ℕ
  shardSize : ℕ
  tokMetaOffset : ℕ
  tokMetaSize : ℕ
  deriving DecidableEq, Repr

/-- The header fields; a version-1 file has no tokenizer metadata. -/
def headerFields (data : List UInt8) : Header where
  configOffset := readU64 data 16
  configSize := readU64 data 24
  descOffset := readU64 data 32
  tensorCount := readU64 data 40
  dataOffset := readU64 data 48
  dataSize := readU64 data 56
  shardOffset := readU64 data 64
  shardSize := readU64 data 72
  tokMetaOffset := if readU32 data 8 = 1 then 0 else readU64 data 80
  tokMetaSize := if readU32 data 8 = 1 then 0 else readU64 data 88

/-- The version test: version 1 with 80 and version 2 with 96 header bytes. -/
def checkVersion (data : List UInt8) : Except Status Unit :=
  if readU32 data 8 = 1 then
    rejectIf (readU32 data 12 ≠ modelHeaderSize) .unsupported
  else if readU32 data 8 = 2 then do
    rejectIf (readU32 data 12 ≠ modelHeaderSizeV2) .unsupported
    rejectIf (¬ rangeValid data.length 0 modelHeaderSizeV2) .badFormat
  else .error .unsupported

/-- A section is absent with both its fields zero, or lies inside the file. -/
def sectionValid (fileSize offset size : ℕ) : Bool :=
  !((offset == 0) != (size == 0) || (size != 0 && !rangeValid fileSize offset size))

/-- Two ranges overlap, as the loader computes it. -/
def rangesOverlap (offset size offset' size' : ℕ) : Bool :=
  offset < sizeT (offset' + size') && offset' < sizeT (offset + size)

/-- The checks of `att1_model_load` before it allocates the tensor table. -/
def parseHeader (data : List UInt8) : Except Status Header := do
  rejectIf (¬ rangeValid data.length 0 modelHeaderSize) .badFormat
  rejectIf (slice data 0 8 ≠ modelMagic) .badFormat
  checkVersion data
  let h := headerFields data
  rejectIf (h.configSize ≠ modelConfigSize) .badFormat
  rejectIf (¬ rangeValid data.length h.configOffset h.configSize ∨
    ¬ rangeValid data.length h.dataOffset h.dataSize) .badFormat
  rejectIf (¬ sectionValid data.length h.shardOffset h.shardSize) .badFormat
  rejectIf (¬ sectionValid data.length h.tokMetaOffset h.tokMetaSize) .badFormat
  let descBytes ← orFail (mulSize h.tensorCount modelTensorDescSize) .badFormat
  rejectIf (¬ rangeValid data.length h.descOffset descBytes) .badFormat
  rejectIf (h.shardSize ≠ 0 ∧ rangesOverlap h.shardOffset h.shardSize h.descOffset descBytes) .badFormat
  rejectIf (h.shardSize ≠ 0 ∧ rangesOverlap h.shardOffset h.shardSize h.dataOffset h.dataSize) .badFormat
  rejectIf (sizeMax / modelTensorSize < h.tensorCount) .oom
  .ok h

/-- `att1_model_parse_config` at `data[p]`. -/
def parseConfig (data : List UInt8) (p : ℕ) : ModelConfig where
  vocabSize := readU32 data (p + 0)
  nLayers := readU32 data (p + 4)
  nHeads := readU32 data (p + 8)
  dModel := readU32 data (p + 12)
  dFf := readU32 data (p + 16)
  maxSeqLen := readU32 data (p + 20)
  ropeDim := readU32 data (p + 24)
  nTiles := readU32 data (p + 28)
  shardCount := readU32 data (p + 32)

/-- `att1_model_parse_tensor` at `data[p]`. -/
def parseTensor (data : List UInt8) (p : ℕ) : ModelTensor where
  name := slice data p (modelNameSize - 1) ++ [0]
  dtype := readU32 data (p + 64)
  ndims := readU32 data (p + 68)
  shape i := readU64 data (p + (72 + i * 8))
  offset := readU64 data (p + 104)
  nbytes := readU64 data (p + 112)
  shardId := readU32 data (p + 120)
  flags := readU32 data (p + 124)
  data := none

/-- One turn of the descriptor loop. -/
def loadTensor (data : List UInt8) (h : Header) (i : ℕ) : Except Status ModelTensor := do
  let tensor := parseTensor data (sizeT (h.descOffset + i * modelTensorDescSize))
  let expectedNbytes ← orFail (nbytesExpected tensor) .shape
  rejectIf (tensor.nbytes ≠ expectedNbytes) .shape
  rejectIf (¬ rangeValid h.dataSize tensor.offset tensor.nbytes) .badFormat
  .ok { tensor with data := some (sizeT (h.dataOffset + tensor.offset)) }

/-- The descriptor loop. -/
def parseTensors (data : List UInt8) (h : Header) : Except Status (List ModelTensor) :=
  (List.range h.tensorCount).mapM (loadTensor data h)

/-- The shard metadata stage; a file without the section has no records. -/
def loadShardMeta (host : Host) (data : List UInt8) (h : Header) (tensors : List ModelTensor) :
    Except Status (List ShardMetaRecord) :=
  if h.shardSize = 0 then .ok []
  else shardMetaParse host (slice data h.shardOffset h.shardSize) h.shardSize tensors

/-- The tokenizer metadata stage. -/
def loadTokMeta (data : List UInt8) (h : Header) (vocabSize : ℕ) : Except Status TokMeta :=
  if h.tokMetaSize = 0 then .ok {}
  else tokMetaParse (slice data h.tokMetaOffset h.tokMetaSize) h.tokMetaSize vocabSize

/-! ### The call -/

/-- The heap blocks a load allocates. -/
inductive Block
  | fileData
  | tensors
  | shardRecords
  deriving DecidableEq, Repr

/-- What a call leaves behind. -/
structure LoadResult where
  status : Status
  model : Model
  live : List Block

/-- `att1_model_free`, then the return: the three blocks of the model are freed and the model is all-zero. -/
def modelFree (status : Status) (live : List Block) : LoadResult where
  status := status
  model := {}
  live := ((live.erase .tensors).erase .shardRecords).erase .fileData

/-- The stages of the load that run once the tensor table is allocated. -/
def loadBody (host : Host) (data : List UInt8) (h : Header) (live : List Block) : LoadResult :=
  match parseTensors data h with
  | .error status => modelFree status live
  | .ok tensors =>
    let config := parseConfig data h.configOffset
    match loadShardMeta host data h tensors with
    | .error status => modelFree status live
    | .ok shardMeta =>
      let live := if shardMeta = [] then live else .shardRecords :: live
      match loadTokMeta data h config.vocabSize with
      | .error status => modelFree status live
      | .ok tokMeta => ⟨.ok, ⟨config, tensors, data, shardMeta, tokMeta⟩, live⟩

/-- `att1_model_load`. -/
def load (host : Host) (file : Option (List UInt8)) : LoadResult :=
  match readFile host file with
  | none => ⟨.io, {}, []⟩
  | some data =>
    let live := [.fileData]
    match parseHeader data with
    | .error status => ⟨status, {}, live.erase .fileData⟩
    | .ok h =>
      let granted := host.calloc h.tensorCount modelTensorSize
      if ¬ granted ∧ h.tensorCount ≠ 0 then ⟨.oom, {}, live.erase .fileData⟩
      else loadBody host data h (if granted then .tensors :: live else live)

/-! ### The checks of the header -/

theorem rangeValid_iff {fileSize offset size : ℕ} :
    rangeValid fileSize offset size = true ↔ offset + size ≤ fileSize := by
  unfold rangeValid
  by_cases h₁ : fileSize < offset
  · rw [if_pos h₁]
    simp
    omega
  · rw [if_neg h₁]
    by_cases h₂ : fileSize - offset < size
    · rw [if_pos h₂]
      simp
      omega
    · rw [if_neg h₂]
      simp
      omega

theorem readFile_eq_some {host : Host} {file : Option (List UInt8)} {data : List UInt8} :
    readFile host file = some data ↔
      file = some data ∧ data.length ≤ longMax ∧ (host.malloc data.length ∨ data.length = 0) := by
  unfold readFile
  rw [Option.bind_eq_bind, Option.bind_eq_some_iff]
  constructor
  · rintro ⟨bytes, hfile, h⟩
    simp only [guard_bind_eq_some, Option.some.injEq] at h
    obtain ⟨hsize, hmalloc, rfl⟩ := h
    exact ⟨hfile, hsize, hmalloc⟩
  · rintro ⟨hfile, hsize, hmalloc⟩
    refine ⟨data, hfile, ?_⟩
    simp only [guard_bind_eq_some]
    exact ⟨hsize, hmalloc, trivial⟩

theorem checkVersion_eq_ok {data : List UInt8} {u : Unit} :
    checkVersion data = .ok u ↔
      readU32 data 8 = 1 ∧ readU32 data 12 = modelHeaderSize ∨
      readU32 data 8 = 2 ∧ readU32 data 12 = modelHeaderSizeV2 ∧ modelHeaderSizeV2 ≤ data.length := by
  unfold checkVersion
  by_cases h1 : readU32 data 8 = 1
  · rw [if_pos h1, rejectIf_eq_ok, h1]
    simp
  rw [if_neg h1]
  by_cases h2 : readU32 data 8 = 2
  · rw [if_pos h2, rejectIf_bind_eq_ok, rejectIf_eq_ok, not_not, not_not, rangeValid_iff, h2]
    simp
  · rw [if_neg h2]
    simp [h1, h2]

theorem sectionValid_iff {fileSize offset size : ℕ} :
    sectionValid fileSize offset size = true ↔ (offset = 0 ↔ size = 0) ∧ (size ≠ 0 → offset + size ≤ fileSize) := by
  unfold sectionValid
  rw [← rangeValid_iff]
  by_cases ho : offset = 0 <;> by_cases hs : size = 0 <;> simp [ho, hs]

/-- What an accepted header satisfies. -/
structure HeaderOk (data : List UInt8) (h : Header) : Prop where
  size : modelHeaderSize ≤ data.length
  magic : slice data 0 8 = modelMagic
  version : checkVersion data = .ok ()
  configSize : h.configSize = modelConfigSize
  config : h.configOffset + modelConfigSize ≤ data.length
  payload : h.dataOffset + h.dataSize ≤ data.length
  shard : sectionValid data.length h.shardOffset h.shardSize = true
  tokMeta : sectionValid data.length h.tokMetaOffset h.tokMetaSize = true
  desc : h.descOffset + h.tensorCount * modelTensorDescSize ≤ data.length
  shardDesc : h.shardSize ≠ 0 →
    ¬ rangesOverlap h.shardOffset h.shardSize h.descOffset (h.tensorCount * modelTensorDescSize)
  shardData : h.shardSize ≠ 0 → ¬ rangesOverlap h.shardOffset h.shardSize h.dataOffset h.dataSize

theorem parseHeader_eq_ok {data : List UInt8} {h : Header} (hlen : data.length ≤ longMax) :
    parseHeader data = .ok h ↔ h = headerFields data ∧ HeaderOk data h := by
  unfold parseHeader
  simp only [rejectIf_bind_eq_ok, bind_eq_ok (x := checkVersion data), orFail_bind_eq_ok, mulSize_eq_some, not_not,
    not_or, not_and, rangeValid_iff, Except.ok.injEq]
  constructor
  · rintro ⟨hsize, hmagic, _, hversion, hconfigSize, ⟨hconfig, hdata⟩, hshard, htok, _, ⟨rfl, -⟩, hdesc, hsd, hsp, -,
      rfl⟩
    rw [hconfigSize] at hconfig
    exact ⟨rfl, by omega, hmagic, hversion, hconfigSize, hconfig, hdata, hshard, htok, hdesc, hsd, hsp⟩
  · rintro ⟨rfl, hok⟩
    -- a table inside a file is small enough for both size tests
    have hdesc := hok.desc
    have hsmall : (headerFields data).tensorCount * 128 ≤ 2 ^ 63 - 1 := (Nat.le_add_left _ _).trans (hdesc.trans hlen)
    have hconfig := hok.config
    rw [← hok.configSize] at hconfig
    refine ⟨by have := hok.size; omega, hok.magic, (), hok.version, hok.configSize, ⟨hconfig, hok.payload⟩, hok.shard,
      hok.tokMeta, _, ⟨rfl, ?_⟩, hdesc, hok.shardDesc, hok.shardData, ?_, rfl⟩
    · unfold sizeMax modelTensorDescSize
      omega
    · unfold sizeMax modelTensorSize
      omega

/-! ### The descriptor loop -/

/-- What an accepted tensor satisfies. -/
structure TensorOk (data : List UInt8) (h : Header) (i : ℕ) (tensor : ModelTensor) : Prop where
  read : { tensor with data := none } = parseTensor data (h.descOffset + i * modelTensorDescSize)
  data_eq : tensor.data = some (h.dataOffset + tensor.offset)
  shape : tensor.ValidShape
  elements : tensor.dims.prod ≤ sizeMax
  nbytes : tensor.nbytes = tensor.exactNbytes
  payload : tensor.offset + tensor.nbytes ≤ h.dataSize

section Tensors

variable {data : List UInt8} {h : Header}

theorem loadTensor_eq_ok (hlen : data.length ≤ longMax) (hok : HeaderOk data h) {i : ℕ} (hi : i < h.tensorCount)
    {tensor : ModelTensor} : loadTensor data h i = .ok tensor ↔ TensorOk data h i tensor := by
  have hlong : longMax ≤ sizeMax := by decide
  -- neither address of the loop wraps around: both stay inside the file
  have hpos : sizeT (h.descOffset + i * modelTensorDescSize) = h.descOffset + i * modelTensorDescSize := by
    have hdesc := hok.desc
    have hle : i * modelTensorDescSize ≤ h.tensorCount * modelTensorDescSize := Nat.mul_le_mul_right _ hi.le
    exact sizeT_eq (by omega)
  have hdata {off : ℕ} (hoff : off ≤ h.dataSize) : sizeT (h.dataOffset + off) = h.dataOffset + off := by
    have hpayload := hok.payload
    exact sizeT_eq (by omega)
  unfold loadTensor
  rw [hpos]
  simp only [rejectIf_bind_eq_ok, orFail_bind_eq_ok, not_not, rangeValid_iff, nbytesExpected_eq_some,
    Except.ok.injEq]
  constructor
  · rintro ⟨n, ⟨hshape, helements, -, rfl⟩, hnbytes, hrange, rfl⟩
    exact ⟨rfl, congrArg some (hdata (by omega)), hshape.withData _, helements, hnbytes, hrange⟩
  · rintro ⟨hread, hdataEq, hshape, helements, hnbytes, hrange⟩
    have hmax : tensor.exactNbytes ≤ sizeMax := by
      have hpayload := hok.payload
      omega
    rw [← hread]
    refine ⟨tensor.exactNbytes, ⟨hshape.withData _, helements, hmax, rfl⟩, hnbytes, hrange, ?_⟩
    rw [hdata (show tensor.offset ≤ h.dataSize by omega), ← hdataEq]

theorem parseTensors_eq_ok (hlen : data.length ≤ longMax) (hok : HeaderOk data h) {tensors : List ModelTensor} :
    parseTensors data h = .ok tensors ↔
      tensors.length = h.tensorCount ∧ ∀ i tensor, tensors[i]? = some tensor → TensorOk data h i tensor := by
  unfold parseTensors
  rw [mapM_range_eq_ok]
  refine and_congr_right fun hlength => forall₃_congr fun i tensor hi => ?_
  obtain ⟨hlt, -⟩ := List.getElem?_eq_some_iff.mp hi
  exact loadTensor_eq_ok hlen hok (by omega)

end Tensors

/-! ### No stage fails with `ATT1_OK` -/

section Errors

variable {host : Host} {data : List UInt8} {h : Header}

theorem parseHeader_fails : FailsIn (· ≠ .ok) (parseHeader data) := by
  have hversion : FailsIn (· ≠ .ok) (checkVersion data) :=
    .ite (.rejectIf (by decide)) (.ite (.bind (.rejectIf (by decide)) fun _ => .rejectIf (by decide))
      (.error (by decide)))
  unfold parseHeader
  iterate 2 refine .bind (.rejectIf (by decide)) fun _ => ?_
  refine .bind hversion fun _ => ?_
  iterate 4 refine .bind (.rejectIf (by decide)) fun _ => ?_
  refine .bind (.orFail (by decide)) fun _ => ?_
  iterate 4 refine .bind (.rejectIf (by decide)) fun _ => ?_
  exact .ok

theorem parseTensors_fails : FailsIn (· ≠ .ok) (parseTensors data h) :=
  .mapM _ fun _ => .bind (.orFail (by decide)) fun _ => .bind (.rejectIf (by decide)) fun _ =>
    .bind (.rejectIf (by decide)) fun _ => .ok

theorem loadShardMeta_fails {tensors : List ModelTensor} :
    FailsIn (· ≠ .ok) (loadShardMeta host data h tensors) := by
  have hrecord (x : ModelTensor × ℕ) :
      FailsIn (· ≠ .ok) (shardMetaRecord (slice data h.shardOffset h.shardSize) x.2 x.1) := by
    unfold shardMetaRecord
    iterate 7 refine .bind (.rejectIf (by decide)) fun _ => ?_
    exact .ok
  refine .ite .ok ?_
  unfold shardMetaParse
  iterate 2 refine .bind (.rejectIf (by decide)) fun _ => ?_
  refine .ite .ok ?_
  iterate 2 refine .bind (.rejectIf (by decide)) fun _ => ?_
  exact .mapM _ hrecord

theorem loadTokMeta_fails {vocabSize : ℕ} : FailsIn (· ≠ .ok) (loadTokMeta data h vocabSize) := by
  refine .ite .ok ?_
  unfold tokMetaParse
  iterate 12 refine .bind (.rejectIf (by decide)) fun _ => ?_
  exact .ok

end Errors

/-! ### What a call leaves behind -/

/-- What a successful load has read and checked. -/
structure Loaded (host : Host) (data : List UInt8) (m : Model) : Prop where
  size : data.length ≤ longMax
  malloc : host.malloc data.length ∨ data.length = 0
  calloc : host.calloc (headerFields data).tensorCount modelTensorSize ∨ (headerFields data).tensorCount = 0
  header : HeaderOk data (headerFields data)
  config : m.config = parseConfig data (headerFields data).configOffset
  fileData : m.fileData = data
  length : m.tensors.length = (headerFields data).tensorCount
  tensors : ∀ i tensor, m.tensors[i]? = some tensor → TensorOk data (headerFields data) i tensor
  shardMeta : loadShardMeta host data (headerFields data) m.tensors = .ok m.shardMeta
  tokMeta : loadTokMeta data (headerFields data) m.config.vocabSize = .ok m.tokMeta

/-- A failed call leaves an all-zero model and no heap block. -/
def Cleared (r : LoadResult) : Prop := ∃ status, status ≠ .ok ∧ r = ⟨status, {}, []⟩

/-- The blocks of a load besides the file data: the tensor table, where it was granted, and the shard records. -/
def liveBlocks (tensors records : Bool) : List Block :=
  (if records then [.shardRecords] else []) ++ ((if tensors then [.tensors] else []) ++ [.fileData])

theorem liveBlocks_tensors (granted : Bool) :
    (if granted then [.tensors, .fileData] else [.fileData]) = liveBlocks granted false := by
  cases granted <;> rfl

theorem cleared_modelFree {status : Status} (hne : status ≠ .ok) (tensors records : Bool) :
    Cleared (modelFree status (liveBlocks tensors records)) := by
  refine ⟨status, hne, ?_⟩
  cases tensors <;> cases records <;> rfl

theorem loadBody_cases (host : Host) (data : List UInt8) (h : Header) (granted : Bool) :
    Cleared (loadBody host data h (liveBlocks granted false)) ∨
    ∃ tensors shardMeta tokMeta live, parseTensors data h = .ok tensors ∧
      loadShardMeta host data h tensors = .ok shardMeta ∧
      loadTokMeta data h (parseConfig data h.configOffset).vocabSize = .ok tokMeta ∧
      loadBody host data h (liveBlocks granted false) =
        ⟨.ok, ⟨parseConfig data h.configOffset, tensors, data, shardMeta, tokMeta⟩, live⟩ := by
  unfold loadBody
  cases htensors : parseTensors data h with
  | error status => exact .inl (cleared_modelFree (parseTensors_fails _ htensors) granted false)
  | ok tensors =>
    dsimp only
    cases hshard : loadShardMeta host data h tensors with
    | error status => exact .inl (cleared_modelFree (loadShardMeta_fails _ hshard) granted false)
    | ok shardMeta =>
      dsimp only
      cases htok : loadTokMeta data h (parseConfig data h.configOffset).vocabSize with
      | error status =>
        left
        by_cases hempty : shardMeta = []
        · rw [if_pos hempty]
          exact cleared_modelFree (loadTokMeta_fails _ htok) granted false
        · rw [if_neg hempty]
          exact cleared_modelFree (loadTokMeta_fails _ htok) granted true
      | ok tokMeta => exact .inr ⟨tensors, shardMeta, tokMeta, _, rfl, hshard, rfl, rfl⟩

/-- **Every call** clears all it did, or has loaded the file. -/
theorem load_cases (host : Host) (file : Option (List UInt8)) :
    Cleared (load host file) ∨
    ∃ data m live, file = some data ∧ Loaded host data m ∧ load host file = ⟨.ok, m, live⟩ := by
  unfold load
  cases hread : readFile host file with
  | none => exact .inl ⟨.io, by decide, rfl⟩
  | some data =>
    obtain ⟨hfile, hlen, hmalloc⟩ := readFile_eq_some.mp hread
    dsimp only
    cases hheader : parseHeader data with
    | error status => exact .inl ⟨status, parseHeader_fails _ hheader, rfl⟩
    | ok h =>
      obtain ⟨rfl, hok⟩ := (parseHeader_eq_ok hlen).mp hheader
      dsimp only
      by_cases hoom : ¬ host.calloc (headerFields data).tensorCount modelTensorSize ∧
          (headerFields data).tensorCount ≠ 0
      · rw [if_pos hoom]
        exact .inl ⟨.oom, by decide, rfl⟩
      rw [if_neg hoom, liveBlocks_tensors]
      obtain hc | ⟨tensors, shardMeta, tokMeta, live, htensors, hshard, htok, heq⟩ :=
        loadBody_cases host data (headerFields data) (host.calloc (headerFields data).tensorCount modelTensorSize)
      · exact .inl hc
      · obtain ⟨hlength, hall⟩ := (parseTensors_eq_ok hlen hok).mp htensors
        have hgranted : host.calloc (headerFields data).tensorCount modelTensorSize ∨
            (headerFields data).tensorCount = 0 := by
          rwa [not_and_or, not_not, not_not] at hoom
        refine .inr ⟨data, _, live, hfile, ?_, heq⟩
        exact ⟨hlen, hmalloc, hgranted, hok, rfl, rfl, hlength, hall, hshard, htok⟩

theorem loaded_of_ok {host : Host} {data : List UInt8} (hok : (load host (some data)).status = .ok) :
    Loaded host data (load host (some data)).model := by
  obtain ⟨status, hne, heq⟩ | ⟨data', m, live, hfile, hl, heq⟩ := load_cases host (some data)
  · rw [heq] at hok
    exact absurd hok hne
  · rw [heq, Option.some.inj hfile]
    exact hl

/-- The checks of `Loaded` are all that `att1_model_load` asks for. -/
theorem load_of_loaded {host : Host} {data : List UInt8} {m : Model} (hl : Loaded host data m) :
    ∃ live, load host (some data) = ⟨.ok, m, live⟩ := by
  have hread : readFile host (some data) = some data := readFile_eq_some.mpr ⟨rfl, hl.size, hl.malloc⟩
  have hheader : parseHeader data = .ok (headerFields data) := (parseHeader_eq_ok hl.size).mpr ⟨rfl, hl.header⟩
  have htensors : parseTensors data (headerFields data) = .ok m.tensors :=
    (parseTensors_eq_ok hl.size hl.header).mpr ⟨hl.length, hl.tensors⟩
  have hoom : ¬ (¬ host.calloc (headerFields data).tensorCount modelTensorSize ∧
      (headerFields data).tensorCount ≠ 0) := by
    have := hl.calloc
    tauto
  have htok := hl.tokMeta
  rw [hl.config] at htok
  unfold load
  rw [hread]
  dsimp only
  rw [hheader]
  dsimp only
  rw [if_neg hoom]
  unfold loadBody
  rw [htensors]
  dsimp only
  rw [hl.shardMeta]
  dsimp only
  rw [htok, ← hl.config, ← hl.fileData]
  exact ⟨_, rfl⟩

end Att1.ModelFile
