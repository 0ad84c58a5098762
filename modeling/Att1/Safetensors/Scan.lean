import Mathlib.Data.List.Chain
import Att1.Lib.Bytes
import Att1.Lib.Checked
import Att1.Lib.Extents
import Att1.Lib.PyObj

/-!
# Att1.Safetensors.Scan — the metadata scanner (`compiler/scan_safetensors.py`)

* `scanSafetensors`: the scan of a file; decoding the JSON text is a parameter.
* `ScanLaw`: the scan ends with a result or a `ScanError`, and a result without errors is sound.
* `scanLaw_iff`: when it is so.

The numbers in the messages come out of the header, or are sums of such; only the product of a shape can be too long for
`str`.
-/

open Att1.Lib

namespace Att1.Safetensors

/-! ### Messages and exceptions -/

/-- A part of an f-string: its text, a value under `str`, or a value under `repr`. -/
inductive Part
  | lit (text : String)
  | val (value : PyObj)
  | repr (value : PyObj)

abbrev Message := List Part

/-- An exception of the reader: its own two, or one of the interpreter. -/
inductive ReadError
  | scanError (message : Message)
  | loadError (message : Message)
  | raised (exception : PyRaise)

abbrev Read := Except ReadError

/-- An operation of the interpreter that may raise. -/
def lift {α : Type} : Except PyRaise α → Read α
  | .ok a => .ok a
  | .error e => .error (.raised e)

/-- The items of a `dict`. -/
abbrev Entries := List (String × PyObj)

/-- `fields.get(key)`. -/
def getKey (fields : Entries) (key : String) : PyObj := (fields.lookup key).getD .null

def num (n : ℤ) : Part := .val (.int n)

/-! ### The scanner -/

/-- `_ELEMENT_SIZES`. -/
def elementSizes : List (String × ℕ) :=
  [("F64", 8), ("I64", 8), ("F32", 4), ("I32", 4), ("U32", 4), ("BF16", 2), ("F16", 2), ("I16", 2), ("U16", 2),
    ("I8", 1), ("U8", 1), ("BOOL", 1)]

/-- `_ELEMENT_SIZES.get(dtype, 0)`. -/
def elementSize (dtype : String) : ℕ := (elementSizes.lookup dtype).getD 0

/-- A tensor in the result of a scan. -/
structure TensorInfo where
  name : String
  dtype : String
  shape : List PyObj
  dataBegin : ℤ
  dataEnd : ℤ
  nbytes : ℤ
  elementSize : ℕ
  expectedNbytes : PyObj

/-- The result of a scan. -/
structure Scan where
  fileSize : ℕ
  headerLen : ℕ
  dataOffset : ℕ
  dataSize : ℕ
  metadata : Entries
  tensors : List TensorInfo
  errors : List Message

/-- How the JSON text of a header can fail. -/
inductive DecodeError
  | unicode (text : String)
  | json (text : String)

/-- `json.loads(raw_header.decode("utf-8"))`. -/
abbrev Decode := List UInt8 → Except DecodeError PyObj

/-- `tensor {name!r}`, and a text. -/
def about (name : String) (text : String) : Message := [.lit "tensor ", .repr (.str name), .lit text]

/-- The `dtype` of an entry, with the errors. -/
def dtypeOf (name : String) (fields : Entries) : String × List Message :=
  match getKey fields "dtype" with
  | .null => ("?", [about name ": missing 'dtype'"])
  | .str dtype => (dtype, [])
  | _ => ("?", [about name ": 'dtype' is not a string"])

/-- The `shape` of an entry, with the errors. -/
def shapeOf (name : String) (fields : Entries) : List PyObj × List Message :=
  match getKey fields "shape" with
  | .null => ([], [about name ": missing 'shape'"])
  | .list shape => (shape, [])
  | _ => ([], [about name ": 'shape' is not a list"])

/-- The `data_offsets` of an entry, with the errors. -/
def offsetsOf (py : Interp) (name : String) (fields : Entries) : Except PyRaise ((ℤ × ℤ) × List Message) :=
  match getKey fields "data_offsets" with
  | .null => .ok ((0, 0), [about name ": missing 'data_offsets'"])
  | .list [first, second] => do
    let first ← first.toInt py
    let second ← second.toInt py
    .ok ((first, second), [])
  | _ => .ok ((0, 0), [about name ": 'data_offsets' must be a 2-element list"])

/-- `_product(shape) * element_size if element_size else 0`. -/
def expectedOf (py : Interp) (shape : List PyObj) (size : ℕ) : Except PyRaise PyObj :=
  if size = 0 then .ok (.int 0)
  else do
    let count ← PyObj.product py shape
    count.mul py (.int size)

/-- `str` writes the value: an integer must not be too long. -/
def printable (py : Interp) : PyObj → Bool
  | .int value => py.prints value
  | _ => true

/-- `element_size and shape and expected != nbytes`. -/
def Mismatch (shape : List PyObj) (size : ℕ) (nbytes : ℤ) (expected : PyObj) : Prop :=
  size ≠ 0 ∧ shape ≠ [] ∧ expected.eqInt nbytes = false

instance (shape : List PyObj) (size : ℕ) (nbytes : ℤ) (expected : PyObj) :
    Decidable (Mismatch shape size nbytes expected) :=
  inferInstanceAs (Decidable (_ ∧ _))

/-- The comparison of the declared bytes with the shape: nothing, or an error. -/
def sizeErrors (py : Interp) (name dtype : String) (shape : List PyObj) (size : ℕ) (nbytes : ℤ) (expected : PyObj) :
    Except PyRaise (List Message) :=
  if Mismatch shape size nbytes expected then
    if printable py expected then
      .ok [about name ": declared " ++ [num nbytes, .lit " bytes but shape ", .val (.list shape), .lit " × ",
        .val (.str dtype), .lit " (", num size, .lit " B/elem) implies ", .val expected, .lit " bytes"]]
    else .error .valueError
  else .ok []

/-- The body of the loop for an entry that is an object. -/
def scanTensor (py : Interp) (dataSize : ℕ) (name : String) (fields : Entries) : Read (TensorInfo × List Message) := do
  let dtype := dtypeOf name fields
  let shape := shapeOf name fields
  let offsets ← lift (offsetsOf py name fields)
  let (first, last) := offsets.1
  let order :=
    if last < first then
      [about name ": data_offsets[0] (" ++
        [num first, .lit ") > data_offsets[1] (", num last, .lit ")"]]
    else []
  if dataSize < last then
    .error (.scanError (about name ": data_offsets[1] (" ++
      [num last, .lit ") exceeds data region size (", num dataSize,
        .lit ") — file is truncated or offsets are corrupt"]))
  else
    let size := elementSize dtype.1
    let expected ← lift (expectedOf py shape.1 size)
    let sizes ← lift (sizeErrors py name dtype.1 shape.1 size (last - first) expected)
    .ok (⟨name, dtype.1, shape.1, first, last, last - first, size, expected⟩,
      dtype.2 ++ shape.2 ++ offsets.2 ++ order ++ sizes)

/-- The loop over the header: the tensors and the errors. -/
def scanEntries (py : Interp) (dataSize : ℕ) : Entries → Read (List TensorInfo × List Message)
  | [] => .ok ([], [])
  | (name, entry) :: entries =>
    if name = "__metadata__" then scanEntries py dataSize entries
    else
      match entry with
      | .dict fields => do
        let (tensor, errors) ← scanTensor py dataSize name fields
        let (tensors, rest) ← scanEntries py dataSize entries
        .ok (tensor :: tensors, errors ++ rest)
      | _ => do
        let (tensors, rest) ← scanEntries py dataSize entries
        .ok (tensors, about name ": entry is not an object — skipped" :: rest)

/-- `sorted(tensors, key=lambda t: t["data_offsets"][0])`. -/
def sortByBegin (tensors : List TensorInfo) : List TensorInfo :=
  tensors.mergeSort fun a b => decide (a.dataBegin ≤ b.dataBegin)

/-- The overlap check of neighbours. -/
def overlaps : List TensorInfo → List Message
  | a :: b :: rest =>
    (if b.dataBegin < a.dataEnd then
      [[.lit "tensor ", .repr (.str a.name), .lit " and ", .repr (.str b.name), .lit ": overlapping data regions ([",
        num a.dataBegin, .lit ",", num a.dataEnd, .lit "] vs [", num b.dataBegin, .lit ",",
        num b.dataEnd, .lit "])"]]
    else []) ++ overlaps (b :: rest)
  | _ => []

/-- `metadata`: the entry `__metadata__`, if it is an object. -/
def metadataOf (header : Entries) : Entries :=
  match getKey header "__metadata__" with
  | .dict fields => fields
  | _ => []

/-- The header of a file with its length, or the `ScanError`. -/
def readHeader (decode : Decode) (file : Option (List UInt8)) : Read (List UInt8 × ℕ × Entries) :=
  match file with
  | none => .error (.scanError [.lit "file not found"])
  | some bytes =>
    if bytes.length < 8 then
      .error (.scanError [.lit "file too small: ", num bytes.length,
        .lit " byte(s) (minimum 8 bytes required for header length prefix)"])
    else
      let headerLen := readLe bytes 0 8
      if headerLen = 0 then .error (.scanError [.lit "header_len is zero — not a valid safetensors file"])
      else if bytes.length < 8 + headerLen then
        .error (.scanError [.lit "header_len (", num headerLen, .lit ") extends beyond file size (",
          num bytes.length, .lit "): file is truncated or corrupt"])
      else
        match decode (slice bytes 8 headerLen) with
        | .error (.unicode text) => .error (.scanError [.lit ("JSON header is not valid UTF-8: " ++ text)])
        | .error (.json text) => .error (.scanError [.lit ("JSON header parse error: " ++ text)])
        | .ok (.dict header) => .ok (bytes, headerLen, header)
        | .ok _ => .error (.scanError [.lit "JSON header root is not an object"])

/-- `scan_safetensors`. -/
def scanSafetensors (py : Interp) (decode : Decode) (file : Option (List UInt8)) : Read Scan := do
  let (bytes, headerLen, header) ← readHeader decode file
  let dataOffset := 8 + headerLen
  let (tensors, errors) ← scanEntries py (bytes.length - dataOffset) header
  .ok
    { fileSize := bytes.length
      headerLen := headerLen
      dataOffset := dataOffset
      dataSize := bytes.length - dataOffset
      metadata := metadataOf header
      tensors := tensors
      errors := errors ++ overlaps (sortByBegin tensors) }

/-! ### The law -/

variable {py : Interp} {decode : Decode} {dataSize : ℕ}

/-- What a scan without errors promises. -/
structure Scan.Sound (py : Interp) (s : Scan) : Prop where
  region : ∀ t ∈ s.tensors, 0 ≤ t.dataBegin ∧ t.dataBegin ≤ t.dataEnd ∧ t.dataEnd ≤ s.dataSize
  length : ∀ t ∈ s.tensors, Att1.Safetensors.elementSize t.dtype ≠ 0 →
    ∃ expected, expectedOf py t.shape (Att1.Safetensors.elementSize t.dtype) = .ok expected ∧
      expected.eqInt (t.dataEnd - t.dataBegin) = true
  disjoint : s.tensors.Pairwise fun a b =>
    ∀ x, ¬ ((a.dataBegin ≤ x ∧ x < a.dataEnd) ∧ b.dataBegin ≤ x ∧ x < b.dataEnd)

/-- A scan ends with a `ScanError` or a result, and a result without errors is sound. -/
def ScanLaw (py : Interp) (decode : Decode) (file : Option (List UInt8)) : Prop :=
  match scanSafetensors py decode file with
  | .ok s => s.errors = [] → s.Sound py
  | .error (.scanError _) => True
  | .error _ => False

/-! ### The condition -/

/-- The entries that are scanned as tensors. -/
def tensorEntries (header : Entries) : List (String × Entries) :=
  header.filterMap fun entry =>
    if entry.1 = "__metadata__" then none
    else
      match entry.2 with
      | .dict fields => some (entry.1, fields)
      | _ => none

/-- The element size of an entry. -/
def sizeOf (e : String × Entries) : ℕ := elementSize (dtypeOf e.1 e.2).1

/-- The offsets of an entry are these, with these errors. -/
def HasRegion (py : Interp) (e : String × Entries) (first last : ℤ) (errors : List Message) : Prop :=
  offsetsOf py e.1 e.2 = .ok ((first, last), errors)

/-- The region of an entry ends within the data. -/
def EntryFits (py : Interp) (dataSize : ℕ) (e : String × Entries) : Prop :=
  ∃ first last errors, HasRegion py e first last errors ∧ last ≤ dataSize

/-- The interpreter raises nothing over an entry: its offsets are integers to `int`, and, unless the scan ends here, its
shape can be multiplied and a wrong size can be written. -/
def EntryRuns (py : Interp) (dataSize : ℕ) (e : String × Entries) : Prop :=
  ∃ first last errors, HasRegion py e first last errors ∧ (last ≤ dataSize →
    ∃ expected, expectedOf py (shapeOf e.1 e.2).1 (sizeOf e) = .ok expected ∧
      (Mismatch (shapeOf e.1 e.2).1 (sizeOf e) (last - first) expected → printable py expected = true))

/-- The interpreter raises nothing up to the entry that ends the scan. -/
def EntriesRun (py : Interp) (dataSize : ℕ) : List (String × Entries) → Prop
  | [] => True
  | e :: rest => EntryRuns py dataSize e ∧ (EntryFits py dataSize e → EntriesRun py dataSize rest)

/-- An entry with which the scanner finds no fault. -/
structure EntryClean (py : Interp) (dataSize : ℕ) (e : String × Entries) : Prop where
  dtype : (dtypeOf e.1 e.2).2 = []
  shape : (shapeOf e.1 e.2).2 = []
  region : ∃ first last, HasRegion py e first last [] ∧ first ≤ last ∧ last ≤ dataSize ∧
    ∀ expected, expectedOf py (shapeOf e.1 e.2).1 (sizeOf e) = .ok expected →
      ¬ Mismatch (shapeOf e.1 e.2).1 (sizeOf e) (last - first) expected

/-- The regions of the entries. -/
def regionsOf (py : Interp) (entries : List (String × Entries)) : List (ℤ × ℤ) :=
  entries.filterMap fun e => (offsetsOf py e.1 e.2).toOption.map Prod.fst

/-- Regions of which none, in the order of their starts, begins before the last one ends. -/
def InTurn (regions : List (ℤ × ℤ)) : Prop :=
  (regions.mergeSort fun a b => decide (a.1 ≤ b.1)).IsChain fun a b => a.2 ≤ b.1

/-- A header with which the scanner finds no fault. -/
structure HeaderClean (py : Interp) (dataSize : ℕ) (header : Entries) : Prop where
  objects : ∀ entry ∈ header, entry.1 ≠ "__metadata__" → ∃ fields, entry.2 = .dict fields
  entry : ∀ e ∈ tensorEntries header, EntryClean py dataSize e
  inTurn : InTurn (regionsOf py (tensorEntries header))

/-- What the scanner does not look at: the sign of a start, and the size of a tensor without dimensions. -/
def EntryPlaced (py : Interp) (e : String × Entries) : Prop :=
  ∀ first last, HasRegion py e first last [] →
    0 ≤ first ∧ (sizeOf e ≠ 0 → (shapeOf e.1 e.2).1 = [] → last - first = sizeOf e)

/-- The headers on which the scan keeps its law. -/
structure ScanGuard (py : Interp) (dataSize : ℕ) (header : Entries) : Prop where
  runs : EntriesRun py dataSize (tensorEntries header)
  placed : HeaderClean py dataSize header → ∀ e ∈ tensorEntries header, EntryPlaced py e

/-! ### One entry -/

variable {e : String × Entries}

/-- The errors of an entry that is scanned. -/
def entryErrors (e : String × Entries) (first last : ℤ) (offsetErrors sizes : List Message) : List Message :=
  (dtypeOf e.1 e.2).2 ++ (shapeOf e.1 e.2).2 ++ offsetErrors ++
    (if last < first then
      [about e.1 ": data_offsets[0] (" ++ [num first, .lit ") > data_offsets[1] (", num last, .lit ")"]]
    else []) ++ sizes

/-- What happens with an entry: it raises, it ends the scan, or it is a tensor. -/
theorem scanTensor_cases (py : Interp) (dataSize : ℕ) (e : String × Entries) :
    (¬ EntryRuns py dataSize e ∧ ∃ x, scanTensor py dataSize e.1 e.2 = .error (.raised x)) ∨
    (EntryRuns py dataSize e ∧ ¬ EntryFits py dataSize e ∧
      ∃ message, scanTensor py dataSize e.1 e.2 = .error (.scanError message)) ∨
    (EntryRuns py dataSize e ∧ ∃ first last errors expected sizes, HasRegion py e first last errors ∧ last ≤ dataSize ∧
      expectedOf py (shapeOf e.1 e.2).1 (sizeOf e) = .ok expected ∧
      (sizes = [] ↔ ¬ Mismatch (shapeOf e.1 e.2).1 (sizeOf e) (last - first) expected) ∧
      scanTensor py dataSize e.1 e.2 = .ok
        (⟨e.1, (dtypeOf e.1 e.2).1, (shapeOf e.1 e.2).1, first, last, last - first, sizeOf e, expected⟩,
          entryErrors e first last errors sizes)) := by
  have hone : ∀ {first last errors first' last' errors'}, HasRegion py e first last errors →
      HasRegion py e first' last' errors' → first = first' ∧ last = last' := by
    intro first last errors first' last' errors' h h'
    have heq := Prod.mk.inj (Except.ok.inj (h.symm.trans h'))
    exact Prod.mk.inj heq.1
  unfold scanTensor
  cases hoff : offsetsOf py e.1 e.2 with
  | error x =>
    refine Or.inl ⟨?_, x, rfl⟩
    rintro ⟨first, last, errors, h, -⟩
    cases hoff.symm.trans h
  | ok r =>
    obtain ⟨⟨first, last⟩, errors⟩ := r
    simp only [lift, bind, Except.bind]
    by_cases hfit : (dataSize : ℤ) < last
    · rw [if_pos hfit]
      refine Or.inr (Or.inl ⟨⟨first, last, errors, hoff, fun h => absurd hfit (not_lt.mpr h)⟩, ?_, _, rfl⟩)
      rintro ⟨first', last', errors', h', hle⟩
      obtain ⟨rfl, rfl⟩ := hone hoff h'
      exact absurd hfit (not_lt.mpr hle)
    rw [if_neg hfit]
    cases hexp : expectedOf py (shapeOf e.1 e.2).1 (elementSize (dtypeOf e.1 e.2).1) with
    | error x =>
      refine Or.inl ⟨?_, x, rfl⟩
      rintro ⟨first', last', errors', h', hruns⟩
      obtain ⟨rfl, rfl⟩ := hone hoff h'
      obtain ⟨expected, hok, -⟩ := hruns (not_lt.mp hfit)
      cases hexp.symm.trans hok
    | ok expected =>
      simp only
      unfold sizeErrors
      by_cases hbad : Mismatch (shapeOf e.1 e.2).1 (elementSize (dtypeOf e.1 e.2).1) (last - first) expected
      · rw [if_pos hbad]
        by_cases hprint : printable py expected = true
        · rw [if_pos hprint]
          refine Or.inr (Or.inr ⟨⟨first, last, errors, hoff, fun _ => ⟨expected, hexp, fun _ => hprint⟩⟩, first, last,
            errors, expected, _, hoff, not_lt.mp hfit, hexp, ?_, rfl⟩)
          exact iff_of_false (List.cons_ne_nil _ _) (not_not.mpr hbad)
        · rw [if_neg hprint]
          refine Or.inl ⟨?_, _, rfl⟩
          rintro ⟨first', last', errors', h', hruns⟩
          obtain ⟨rfl, rfl⟩ := hone hoff h'
          obtain ⟨expected', hok, hprints⟩ := hruns (not_lt.mp hfit)
          obtain rfl := Except.ok.inj (hexp.symm.trans hok)
          exact hprint (hprints hbad)
      · rw [if_neg hbad]
        refine Or.inr (Or.inr ⟨⟨first, last, errors, hoff, fun _ => ⟨expected, hexp, ?_⟩⟩, first, last, errors,
          expected, [], hoff, not_lt.mp hfit, hexp, iff_of_true rfl hbad, rfl⟩)
        exact fun h => absurd h hbad

/-! ### The loop -/

/-- All entries but the metadata are objects. -/
def AllObjects (header : Entries) : Prop :=
  ∀ entry ∈ header, entry.1 ≠ "__metadata__" → ∃ fields, entry.2 = .dict fields

/-- What happens with a header. -/
theorem scanEntries_cases (py : Interp) (dataSize : ℕ) (header : Entries) :
    (¬ EntriesRun py dataSize (tensorEntries header) ∧ ∃ x, scanEntries py dataSize header = .error (.raised x)) ∨
    (EntriesRun py dataSize (tensorEntries header) ∧ (∃ e ∈ tensorEntries header, ¬ EntryFits py dataSize e) ∧
      ∃ message, scanEntries py dataSize header = .error (.scanError message)) ∨
    (EntriesRun py dataSize (tensorEntries header) ∧ ∃ rs errors,
      List.Forall₂ (fun e r => scanTensor py dataSize e.1 e.2 = .ok r) (tensorEntries header) rs ∧
      scanEntries py dataSize header = .ok (rs.map Prod.fst, errors) ∧
      (errors = [] ↔ AllObjects header ∧ ∀ r ∈ rs, r.2 = [])) := by
  induction header with
  | nil => exact Or.inr (Or.inr ⟨trivial, [], [], .nil, rfl, by simp [AllObjects]⟩)
  | cons entry header ih =>
    obtain ⟨name, value⟩ := entry
    by_cases hmeta : name = "__metadata__"
    · have htensors : tensorEntries ((name, value) :: header) = tensorEntries header := by simp [tensorEntries, hmeta]
      have hobjects : AllObjects ((name, value) :: header) ↔ AllObjects header := by
        unfold AllObjects
        rw [List.forall_mem_cons]
        exact and_iff_right fun h => absurd hmeta h
      have hscan : scanEntries py dataSize ((name, value) :: header) = scanEntries py dataSize header := by
        simp [scanEntries, hmeta]
      rw [htensors, hobjects, hscan]
      exact ih
    by_cases hdict : ∃ fields, value = .dict fields
    · obtain ⟨fields, rfl⟩ := hdict
      have htensors : tensorEntries ((name, .dict fields) :: header) = (name, fields) :: tensorEntries header := by
        simp [tensorEntries, hmeta]
      have hobjects : AllObjects ((name, .dict fields) :: header) ↔ AllObjects header := by
        unfold AllObjects
        rw [List.forall_mem_cons]
        exact and_iff_right fun _ => ⟨fields, rfl⟩
      have hscan : scanEntries py dataSize ((name, .dict fields) :: header) = (do
          let (tensor, errors) ← scanTensor py dataSize name fields
          let (tensors, rest) ← scanEntries py dataSize header
          .ok (tensor :: tensors, errors ++ rest)) := by
        simp [scanEntries, hmeta]
      rw [htensors, hobjects, hscan]
      unfold EntriesRun
      rcases scanTensor_cases py dataSize (name, fields) with ⟨hno, x, heq⟩ | ⟨hruns, hfit, message, heq⟩ |
        ⟨hruns, first, last, errors, expected, sizes, hregion, hle, -, -, heq⟩
      · refine Or.inl ⟨fun h => hno h.1, x, ?_⟩
        rw [show scanTensor py dataSize name fields = _ from heq]
        rfl
      · refine Or.inr (Or.inl ⟨⟨hruns, fun h => absurd h hfit⟩, ⟨_, List.mem_cons_self, hfit⟩, message, ?_⟩)
        rw [show scanTensor py dataSize name fields = _ from heq]
        rfl
      have hfit : EntryFits py dataSize (name, fields) := ⟨first, last, errors, hregion, hle⟩
      rw [show scanTensor py dataSize name fields = _ from heq]
      rcases ih with ⟨hno, x, hrest⟩ | ⟨hrun, ⟨e, he, hout⟩, message, hrest⟩ | ⟨hrun, rs, errs, hall, hrest, herrs⟩
      · refine Or.inl ⟨fun h => hno (h.2 hfit), x, ?_⟩
        rw [hrest]
        rfl
      · refine Or.inr (Or.inl ⟨⟨hruns, fun _ => hrun⟩, ⟨e, List.mem_cons_of_mem _ he, hout⟩, message, ?_⟩)
        rw [hrest]
        rfl
      · refine Or.inr (Or.inr ⟨⟨hruns, fun _ => hrun⟩, _ :: rs,
          entryErrors (name, fields) first last errors sizes ++ errs, .cons heq hall, ?_, ?_⟩)
        · rw [hrest]
          rfl
        · rw [List.append_eq_nil_iff, herrs, List.forall_mem_cons]
          exact and_left_comm
    · have htensors : tensorEntries ((name, value) :: header) = tensorEntries header := by
        cases value with
        | dict fields => exact absurd ⟨fields, rfl⟩ hdict
        | _ => simp [tensorEntries, hmeta]
      have hobjects : ¬ AllObjects ((name, value) :: header) :=
        fun h => hdict (h (name, value) List.mem_cons_self hmeta)
      have hscan : scanEntries py dataSize ((name, value) :: header) = (do
          let (tensors, rest) ← scanEntries py dataSize header
          .ok (tensors, about name ": entry is not an object — skipped" :: rest)) := by
        cases value with
        | dict fields => exact absurd ⟨fields, rfl⟩ hdict
        | _ => simp [scanEntries, hmeta]
      rw [htensors, hscan]
      rcases ih with ⟨hno, x, hrest⟩ | ⟨hrun, hout, message, hrest⟩ | ⟨hrun, rs, errs, hall, hrest, -⟩
      · exact Or.inl ⟨hno, x, by rw [hrest]; rfl⟩
      · exact Or.inr (Or.inl ⟨hrun, hout, message, by rw [hrest]; rfl⟩)
      · refine Or.inr (Or.inr ⟨hrun, rs, _, hall, by rw [hrest]; rfl, ?_⟩)
        exact iff_of_false (List.cons_ne_nil _ _) fun h => hobjects h.1

/-! ### The overlap check -/

/-- The region of a tensor. -/
def TensorInfo.region (t : TensorInfo) : ℤ × ℤ := (t.dataBegin, t.dataEnd)

theorem overlaps_eq_nil (tensors : List TensorInfo) :
    overlaps tensors = [] ↔ tensors.IsChain fun a b => a.dataEnd ≤ b.dataBegin := by
  induction tensors with
  | nil => simp [overlaps]
  | cons a rest ih =>
    cases rest with
    | nil => simp [overlaps]
    | cons b rest =>
      unfold overlaps
      rw [List.append_eq_nil_iff, ih, List.isChain_cons_cons]
      refine and_congr_left fun _ => ?_
      by_cases h : b.dataBegin < a.dataEnd
      · rw [if_pos h]
        exact iff_of_false (List.cons_ne_nil _ _) (not_le.mpr h)
      · rw [if_neg h]
        exact iff_of_true rfl (not_lt.mp h)

theorem overlaps_sorted (tensors : List TensorInfo) :
    overlaps (sortByBegin tensors) = [] ↔ InTurn (tensors.map TensorInfo.region) := by
  rw [overlaps_eq_nil]
  unfold InTurn sortByBegin
  rw [← List.map_mergeSort (r := fun a b : TensorInfo => decide (a.dataBegin ≤ b.dataBegin)) (f := TensorInfo.region)
    fun a _ b _ => rfl, List.isChain_map]
  rfl

/-- Neighbours that do not overlap are enough: no two regions of a list in turn do. -/
theorem pairwise_of_inTurn {tensors : List TensorInfo} (h : InTurn (tensors.map TensorInfo.region))
    (hle : ∀ t ∈ tensors, t.dataBegin ≤ t.dataEnd) :
    tensors.Pairwise (Apart TensorInfo.dataBegin TensorInfo.dataEnd) := by
  rw [← overlaps_sorted, overlaps_eq_nil] at h
  have hperm : (sortByBegin tensors).Perm tensors := List.mergeSort_perm _ _
  have hchain : (sortByBegin tensors).Pairwise fun a b => a.dataEnd ≤ b.dataBegin := by
    exact pairwise_of_isChain (fun t ht => hle t (hperm.subset ht)) h
  exact (hperm.pairwise_iff Apart.symm).mp (hchain.imp fun hab => Or.inl hab)

/-! ### The result -/

theorem region_of_scanned {rs : List (TensorInfo × List Message)} {entries : List (String × Entries)}
    (hall : List.Forall₂ (fun e r => scanTensor py dataSize e.1 e.2 = .ok r) entries rs) :
    regionsOf py entries = rs.map fun r => r.1.region := by
  induction hall with
  | nil => rfl
  | @cons e r entries rs heq hall ih =>
    rcases scanTensor_cases py dataSize e with ⟨-, x, h⟩ | ⟨-, -, message, h⟩ |
      ⟨-, first, last, errors, expected, sizes, hregion, -, -, -, h⟩
    · cases heq.symm.trans h
    · cases heq.symm.trans h
    · obtain rfl := Except.ok.inj (heq.symm.trans h)
      unfold regionsOf at ih ⊢
      rw [List.filterMap_cons, show offsetsOf py e.1 e.2 = _ from hregion, ih]
      rfl

/-- An entry is scanned without errors exactly when it is clean. -/
theorem entryErrors_eq_nil {first last : ℤ} {errors sizes : List Message} {expected : PyObj}
    (hregion : HasRegion py e first last errors) (hle : last ≤ dataSize)
    (hexp : expectedOf py (shapeOf e.1 e.2).1 (sizeOf e) = .ok expected)
    (hsizes : sizes = [] ↔ ¬ Mismatch (shapeOf e.1 e.2).1 (sizeOf e) (last - first) expected) :
    entryErrors e first last errors sizes = [] ↔ EntryClean py dataSize e := by
  unfold entryErrors
  simp only [List.append_eq_nil_iff]
  constructor
  · rintro ⟨⟨⟨⟨hdtype, hshape⟩, rfl⟩, horder⟩, hnone⟩
    refine ⟨hdtype, hshape, first, last, hregion, ?_, hle, fun expected' hexp' => ?_⟩
    · by_contra hlt
      rw [if_pos (not_le.mp hlt)] at horder
      cases horder
    · obtain rfl := Except.ok.inj (hexp.symm.trans hexp')
      exact hsizes.mp hnone
  · rintro ⟨hdtype, hshape, first', last', hregion', horder, -, hmatch⟩
    obtain ⟨hpair, rfl⟩ := Prod.mk.inj (Except.ok.inj (hregion.symm.trans hregion'))
    obtain ⟨rfl, rfl⟩ := Prod.mk.inj hpair
    exact ⟨⟨⟨⟨hdtype, hshape⟩, rfl⟩, if_neg (not_lt.mpr horder)⟩, hsizes.mpr (hmatch expected hexp)⟩

/-- What is known of a tensor that is scanned without errors. -/
theorem scanned_clean {r : TensorInfo × List Message} (heq : scanTensor py dataSize e.1 e.2 = .ok r) :
    (r.2 = [] ↔ EntryClean py dataSize e) ∧ ∃ errors, HasRegion py e r.1.dataBegin r.1.dataEnd errors ∧
      r.1.dataEnd ≤ dataSize ∧ r.1.name = e.1 ∧ r.1.dtype = (dtypeOf e.1 e.2).1 ∧ r.1.shape = (shapeOf e.1 e.2).1 ∧
      ∃ expected, expectedOf py (shapeOf e.1 e.2).1 (sizeOf e) = .ok expected := by
  rcases scanTensor_cases py dataSize e with ⟨-, x, h⟩ | ⟨-, -, message, h⟩ |
    ⟨-, first, last, errors, expected, sizes, hregion, hle, hexp, hsizes, h⟩
  · cases heq.symm.trans h
  · cases heq.symm.trans h
  · obtain rfl := Except.ok.inj (heq.symm.trans h)
    exact ⟨entryErrors_eq_nil hregion hle hexp hsizes, errors, hregion, hle, rfl, rfl, rfl, expected, hexp⟩

/-- The scan of an entry without dimensions expects one element. -/
theorem expectedOf_nil {size : ℕ} (hsize : size ≠ 0) : expectedOf py [] size = .ok (.int size) := by
  unfold expectedOf
  rw [if_neg hsize, PyObj.product_nil]
  show PyObj.mul py (.int 1) (.int size) = _
  simp [PyObj.mul, PyObj.asInt?, PyObj.mulInt]

/-- The promise of a scan without errors is kept exactly when its entries are placed. -/
theorem sound_iff_placed {s : Scan} {entries : List (String × Entries)} {rs : List (TensorInfo × List Message)}
    (hall : List.Forall₂ (fun e r => scanTensor py dataSize e.1 e.2 = .ok r) entries rs)
    (htensors : s.tensors = rs.map Prod.fst) (hsize : s.dataSize = dataSize)
    (hclean : ∀ e ∈ entries, EntryClean py dataSize e) (hturn : InTurn (regionsOf py entries)) :
    s.Sound py ↔ ∀ e ∈ entries, EntryPlaced py e := by
  rw [region_of_scanned hall] at hturn
  have hregions : rs.map (fun r => r.1.region) = s.tensors.map TensorInfo.region := by
    rw [htensors, List.map_map]
    rfl
  rw [hregions] at hturn
  constructor
  · intro hsound e he first last hregion
    obtain ⟨r, hr, heq⟩ := exists_of_mem_left hall he
    obtain ⟨-, errors, hregion', hle, hname, hdtype, hshape, hexp⟩ := scanned_clean heq
    obtain ⟨hpair, rfl⟩ := Prod.mk.inj (Except.ok.inj (hregion.symm.trans hregion'))
    obtain ⟨rfl, rfl⟩ := Prod.mk.inj hpair
    have hmem : r.1 ∈ s.tensors := htensors ▸ List.mem_map_of_mem hr
    refine ⟨(hsound.region r.1 hmem).1, fun hsize hempty => ?_⟩
    have hlength := hsound.length r.1 hmem
    rw [hdtype, hshape, hempty] at hlength
    obtain ⟨expected, hok, heqInt⟩ := hlength hsize
    rw [expectedOf_nil (show elementSize (dtypeOf e.1 e.2).1 ≠ 0 from hsize)] at hok
    obtain rfl := Except.ok.inj hok
    exact (of_decide_eq_true heqInt).symm
  · intro hplaced
    have hclean' : ∀ t ∈ s.tensors, ∃ e ∈ entries, HasRegion py e t.dataBegin t.dataEnd [] ∧ t.dataBegin ≤ t.dataEnd ∧
        t.dataEnd ≤ dataSize ∧ t.dtype = (dtypeOf e.1 e.2).1 ∧ t.shape = (shapeOf e.1 e.2).1 ∧
        ∃ expected, expectedOf py t.shape (sizeOf e) = .ok expected ∧
          ¬ Mismatch t.shape (sizeOf e) (t.dataEnd - t.dataBegin) expected := by
      intro t ht
      rw [htensors] at ht
      obtain ⟨r, hr, rfl⟩ := List.mem_map.mp ht
      obtain ⟨e, he, heq⟩ := exists_of_mem_right hall hr
      obtain ⟨-, errors, hregion, hle, hname, hdtype, hshape, expected, hexp⟩ := scanned_clean heq
      obtain ⟨first, last, hregion', horder, -, hmatch⟩ := (hclean e he).region
      obtain ⟨hpair, rfl⟩ := Prod.mk.inj (Except.ok.inj (hregion.symm.trans hregion'))
      obtain ⟨rfl, rfl⟩ := Prod.mk.inj hpair
      rw [hshape]
      exact ⟨e, he, hregion, horder, hle, hdtype, rfl, expected, hexp, hmatch expected hexp⟩
    constructor
    · intro t ht
      obtain ⟨e, he, hregion, horder, hle, -⟩ := hclean' t ht
      exact ⟨(hplaced e he _ _ hregion).1, horder, hsize ▸ hle⟩
    · intro t ht hne
      obtain ⟨e, he, hregion, -, -, hdtype, hshape, expected, hexp, hmatch⟩ := hclean' t ht
      unfold sizeOf at hexp hmatch
      rw [← hdtype] at hexp hmatch
      refine ⟨expected, hexp, ?_⟩
      by_cases hempty : t.shape = []
      · have hone := (hplaced e he _ _ hregion).2 (by unfold sizeOf; rwa [← hdtype]) (hshape ▸ hempty)
        unfold sizeOf at hone
        rw [← hdtype] at hone
        rw [hempty, expectedOf_nil hne] at hexp
        obtain rfl := Except.ok.inj hexp
        exact decide_eq_true hone.symm
      · by_contra hno
        exact hmatch ⟨hne, hempty, by simpa using hno⟩
    · refine (pairwise_of_inTurn hturn fun t ht => ?_).imp fun hab x hx => Set.disjoint_left.mp hab.disjoint hx.1 hx.2
      obtain ⟨e, -, -, horder, -⟩ := hclean' t ht
      exact horder

/-- The header is read, or the file is refused. -/
theorem readHeader_cases (decode : Decode) (file : Option (List UInt8)) :
    (∃ r, readHeader decode file = .ok r) ∨ ∃ message, readHeader decode file = .error (.scanError message) := by
  unfold readHeader
  cases file with
  | none => exact Or.inr ⟨_, rfl⟩
  | some bytes =>
    simp only
    by_cases h8 : bytes.length < 8
    · rw [if_pos h8]
      exact Or.inr ⟨_, rfl⟩
    rw [if_neg h8]
    by_cases h0 : readLe bytes 0 8 = 0
    · rw [if_pos h0]
      exact Or.inr ⟨_, rfl⟩
    rw [if_neg h0]
    by_cases hlen : bytes.length < 8 + readLe bytes 0 8
    · rw [if_pos hlen]
      exact Or.inr ⟨_, rfl⟩
    rw [if_neg hlen]
    cases decode (slice bytes 8 (readLe bytes 0 8)) with
    | error x => cases x <;> exact Or.inr ⟨_, rfl⟩
    | ok value =>
      cases value with
      | dict header => exact Or.inl ⟨_, rfl⟩
      | _ => exact Or.inr ⟨_, rfl⟩

/-- No fault is found with a header exactly when it is clean. -/
theorem headerClean_iff {header : Entries} {rs : List (TensorInfo × List Message)}
    (hall : List.Forall₂ (fun e r => scanTensor py dataSize e.1 e.2 = .ok r) (tensorEntries header) rs) :
    HeaderClean py dataSize header ↔
      (AllObjects header ∧ ∀ r ∈ rs, r.2 = []) ∧ overlaps (sortByBegin (rs.map Prod.fst)) = [] := by
  rw [overlaps_sorted, List.map_map]
  have hturn : InTurn (regionsOf py (tensorEntries header)) ↔ InTurn (rs.map (TensorInfo.region ∘ Prod.fst)) := by
    rw [region_of_scanned hall]
    rfl
  constructor
  · rintro ⟨hobjects, hentry, hin⟩
    refine ⟨⟨hobjects, fun r hr => ?_⟩, hturn.mp hin⟩
    obtain ⟨e, he, heq⟩ := exists_of_mem_right hall hr
    exact (scanned_clean heq).1.mpr (hentry e he)
  · rintro ⟨⟨hobjects, hnone⟩, hin⟩
    refine ⟨hobjects, fun e he => ?_, hturn.mpr hin⟩
    obtain ⟨r, hr, heq⟩ := exists_of_mem_left hall he
    exact (scanned_clean heq).1.mp (hnone r hr)

/-- **The scan of a safetensors file.**  Whatever the file and the JSON decoder are, the scan keeps its law exactly when
the file is refused before its header is read, or the interpreter raises nothing over the header and, if no fault is
found with it, the entries are placed where the scanner does not look. -/
theorem scanLaw_iff (py : Interp) (decode : Decode) (file : Option (List UInt8)) :
    ScanLaw py decode file ↔ ∀ bytes headerLen header, readHeader decode file = .ok (bytes, headerLen, header) →
      ScanGuard py (bytes.length - (8 + headerLen)) header := by
  unfold ScanLaw scanSafetensors
  rcases readHeader_cases decode file with ⟨⟨bytes, headerLen, header⟩, hread⟩ | ⟨message, hread⟩
  swap
  · rw [hread]
    refine iff_of_true trivial fun bytes headerLen header h => ?_
    cases h
  · rw [hread]
    have hforall : (∀ bytes' headerLen' header', (Except.ok (bytes, headerLen, header) : Read _) =
        .ok (bytes', headerLen', header') → ScanGuard py (bytes'.length - (8 + headerLen')) header') ↔
        ScanGuard py (bytes.length - (8 + headerLen)) header := by
      constructor
      · intro h
        exact h bytes headerLen header rfl
      · rintro h _ _ _ ⟨⟩
        exact h
    rw [hforall]
    simp only [bind, Except.bind]
    rcases scanEntries_cases py (bytes.length - (8 + headerLen)) header with ⟨hno, x, heq⟩ |
      ⟨hrun, ⟨e, he, hout⟩, message, heq⟩ | ⟨hrun, rs, errors, hall, heq, herrors⟩
    · rw [heq]
      exact iff_of_false id fun h => hno h.runs
    · rw [heq]
      refine iff_of_true trivial ⟨hrun, fun hclean => ?_⟩
      obtain ⟨first, last, hregion, -, hle, -⟩ := (hclean.entry e he).region
      exact absurd ⟨first, last, [], hregion, hle⟩ hout
    · rw [heq]
      simp only [List.append_eq_nil_iff]
      rw [herrors, ← headerClean_iff hall]
      constructor
      · intro hsound
        exact ⟨hrun, fun hclean => (sound_iff_placed hall rfl rfl hclean.entry hclean.inTurn).mp (hsound hclean)⟩
      · intro hguard hclean
        exact (sound_iff_placed hall rfl rfl hclean.entry hclean.inTurn).mpr (hguard.placed hclean)

end Att1.Safetensors
