import Att1.Safetensors.Scan

/-!
# Att1.Safetensors.Load — the tensor reader (`compiler/load_safetensors.py`)

* `loadTensor`: one tensor of a file, decoded.
* `coerceBf16_eq`, `coerceF16_eq`: the two coercions read the formats they are named after.
* `reading_sound_iff`: when the scanner and the reader keep their laws.
-/

open Att1.Lib

namespace Att1.Safetensors

/-! ### Decoding -/

/-- `struct.unpack(f"<{n}f", raw)` with `n = nbytes // 4`. -/
def unpackF32 (nbytes : ℤ) (raw : List UInt8) : Except PyRaise (List PyFloat) :=
  let n := (nbytes / 4).toNat
  if raw.length = 4 * n then .ok ((List.range n).map fun i => .ofIeee 8 23 (readLe raw (4 * i) 4))
  else .error .structError

/-- `_coerce_bf16`. -/
def coerceBf16 (raw : List UInt8) : List PyFloat :=
  (List.range (raw.length / 2)).map fun i =>
    .ofIeee 8 23 (leValue [0, 0, raw.getD (2 * i) 0, raw.getD (2 * i + 1) 0])

/-- The body of the loop of `_coerce_f16`; its products and quotients are exact. -/
def f16Value (h : ℕ) : PyFloat :=
  let sign : ℚ := if h >>> 15 ≠ 0 then -1 else 1
  let exp5 := (h >>> 10) &&& 0x1F
  let mant := h &&& 0x3FF
  if exp5 = 0 then .finite (sign * (mant / 1024) * 2 ^ (-14 : ℤ))
  else if exp5 = 31 then if mant ≠ 0 then .nan else .inf (decide (sign < 0))
  else .finite (sign * (1 + mant / 1024) * 2 ^ ((exp5 : ℤ) - 15))

/-- `_coerce_f16`. -/
def coerceF16 (raw : List UInt8) : List PyFloat :=
  (List.range (raw.length / 2)).map fun i => f16Value (readLe raw (2 * i) 2)

/-! ### The reader -/

/-- `_READABLE_DTYPES`. -/
def readableDtypes : List String := ["F32", "BF16", "F16"]

/-- `_coercible`. -/
def coercible : List String := ["BF16", "F16"]

/-- `_dtype_ok`. -/
def dtypeOk (expected : Option String) (dtype : String) : Bool :=
  match expected with
  | none => true
  | some e => decide (dtype = e) || (decide (e = "F32") && decide (dtype ∈ coercible))

/-- `list(expected_shape) == td["shape"]`. -/
def sameShape : List ℤ → List PyObj → Bool
  | [], [] => true
  | n :: ns, d :: ds => d.eqInt n && sameShape ns ds
  | _, _ => false

def shapeOk (expected : Option (List ℤ)) (shape : List PyObj) : Bool :=
  match expected with
  | none => true
  | some ns => sameShape ns shape

/-- `TensorData`. -/
structure TensorData where
  name : String
  dtype : String
  shape : List PyObj
  values : List PyFloat
  nbytes : ℤ
  coerced : Bool

/-- `{t["name"]: t for t in scan["tensors"]}.get(name)`. -/
def Scan.index (s : Scan) (name : String) : Option TensorInfo := s.tensors.reverse.find? fun t => t.name = name

/-- `fh.seek(offset)` and `fh.read(nbytes)`, where -1 reads the rest of the file. -/
def seekRead (bytes : List UInt8) (offset nbytes : ℤ) : Except PyRaise (List UInt8) :=
  if offset < 0 then .error .osError
  else if nbytes < -1 then .error .valueError
  else if nbytes = -1 then .ok (bytes.drop offset.toNat)
  else .ok (slice bytes offset.toNat nbytes.toNat)

/-- The decoding by dtype, with `coerced`. -/
def decodePayload (dtype : String) (nbytes : ℤ) (raw : List UInt8) : Read (List PyFloat × Bool) :=
  if dtype = "F32" then do
    let values ← lift (unpackF32 nbytes raw)
    .ok (values, false)
  else if dtype = "BF16" then .ok (coerceBf16 raw, true)
  else if dtype = "F16" then .ok (coerceF16 raw, true)
  else .error (.loadError [.lit "internal: unhandled dtype ", .repr (.str dtype)])

/-- The end of `load_tensor`: the payload is read and decoded. -/
def readTensor (bytes : List UInt8) (dataOffset : ℕ) (td : TensorInfo) : Read TensorData := do
  let nbytes := td.dataEnd - td.dataBegin
  let fileOffset := dataOffset + td.dataBegin
  let raw ← lift (seekRead bytes fileOffset nbytes)
  if raw.length ≠ nbytes then
    .error (.loadError [.lit "truncated payload for ", .repr (.str td.name), .lit ": expected ", num nbytes,
      .lit " bytes at file offset ", num fileOffset, .lit ", got ", num raw.length])
  else
    let (values, coerced) ← decodePayload td.dtype nbytes raw
    .ok ⟨td.name, td.dtype, td.shape, values, nbytes, coerced⟩

/-- `load_tensor`. -/
def loadTensor (py : Interp) (decode : Decode) (file : Option (List UInt8)) (name : String)
    (expectedDtype : Option String) (expectedShape : Option (List ℤ)) : Read TensorData := do
  let scan ← scanSafetensors py decode file
  match scan.index name with
  | none => .error (.loadError [.lit "tensor not found: ", .repr (.str name)])
  | some td =>
    if dtypeOk expectedDtype td.dtype = false then
      .error (.loadError [.lit "dtype mismatch for ", .repr (.str name), .lit ": expected ",
        .repr ((expectedDtype.map .str).getD .null), .lit ", got ", .repr (.str td.dtype)])
    else if td.dtype ∉ readableDtypes then
      .error (.loadError [.lit "unsupported dtype ", .repr (.str td.dtype), .lit " for tensor ", .repr (.str name),
        .lit " (supported: ['BF16', 'F16', 'F32'])"])
    else if shapeOk expectedShape td.shape = false then
      .error (.loadError [.lit "shape mismatch for ", .repr (.str name), .lit ": expected ",
        .val (.list ((expectedShape.getD []).map .int)), .lit ", got ", .val (.list td.shape)])
    else readTensor (file.getD []) scan.dataOffset td

/-! ### The formats -/

/-- The value of one element in its format. -/
def elementValue (dtype : String) (bytes : List UInt8) : PyFloat :=
  if dtype = "F32" then .ofIeee 8 23 (leValue bytes)
  else if dtype = "BF16" then .ofIeee 8 7 (leValue bytes)
  else .ofIeee 5 10 (leValue bytes)

/-- The elements in a list of bytes. -/
def elementsOf (dtype : String) (raw : List UInt8) : List PyFloat :=
  (List.range (raw.length / elementSize dtype)).map fun i =>
    elementValue dtype (slice raw (i * elementSize dtype) (elementSize dtype))

theorem slice_two {raw : List UInt8} {i : ℕ} (hi : i < raw.length / 2) :
    slice raw (i * 2) 2 = [raw.getD (2 * i) 0, raw.getD (2 * i + 1) 0] := by
  rw [slice_eq_map (by omega) 0]
  simp [List.range_succ, Nat.mul_comm]

/-- The coercion of `BF16` reads eight bits of exponent and seven of fraction. -/
theorem coerceBf16_eq (raw : List UInt8) : coerceBf16 raw = elementsOf "BF16" raw := by
  unfold coerceBf16 elementsOf
  refine List.map_congr_left fun i hi => ?_
  rw [show elementSize "BF16" = 2 from rfl, slice_two (List.mem_range.mp hi)]
  have hword : leValue [0, 0, raw.getD (2 * i) 0, raw.getD (2 * i + 1) 0] =
      leValue [raw.getD (2 * i) 0, raw.getD (2 * i + 1) 0] * 2 ^ 16 := by
    simp only [leValue]
    norm_num
    ring
  rw [hword]
  exact PyFloat.ofIeee_extend 8 7 16 _

theorem f16Value_eq {h : ℕ} (hlt : h < 2 ^ 16) : f16Value h = .ofIeee 5 10 h := by
  have hsign : h >>> 15 ≠ 0 ↔ h / 2 ^ (5 + 10) % 2 = 1 := by
    rw [Nat.shiftRight_eq_div_pow]
    omega
  have hexp : (h >>> 10) &&& 0x1F = h / 2 ^ 10 % 2 ^ 5 := by
    rw [Nat.shiftRight_eq_div_pow]
    exact Nat.and_two_pow_sub_one_eq_mod _ 5
  have hmant : h &&& 0x3FF = h % 2 ^ 10 := Nat.and_two_pow_sub_one_eq_mod _ 10
  unfold f16Value PyFloat.ofIeee
  simp only [hsign, hexp, hmant]
  by_cases hzero : h / 2 ^ 10 % 2 ^ 5 = 0
  · rw [if_pos hzero, if_pos hzero]
    norm_num
  rw [if_neg hzero, if_neg hzero]
  by_cases htop : h / 2 ^ 10 % 2 ^ 5 = 31
  · rw [if_pos htop, if_pos (show h / 2 ^ 10 % 2 ^ 5 = 2 ^ 5 - 1 from htop)]
    by_cases hfraction : h % 2 ^ 10 = 0
    · rw [if_neg (not_not.mpr hfraction), if_pos hfraction]
    · rw [if_pos hfraction, if_neg hfraction]
  · rw [if_neg htop, if_neg (show ¬ h / 2 ^ 10 % 2 ^ 5 = 2 ^ 5 - 1 from htop)]
    norm_num

/-- The coercion of `F16` reads five bits of exponent and ten of fraction. -/
theorem coerceF16_eq (raw : List UInt8) : coerceF16 raw = elementsOf "F16" raw := by
  unfold coerceF16 elementsOf
  refine List.map_congr_left fun i hi => ?_
  rw [show elementSize "F16" = 2 from rfl, Nat.mul_comm i 2]
  exact f16Value_eq (readLe_lt raw (2 * i) 2)

/-- The reader unpacks whole words only. -/
theorem unpackF32_eq (raw : List UInt8) : unpackF32 raw.length raw =
    if 4 ∣ raw.length then .ok (elementsOf "F32" raw) else .error .structError := by
  have hn : ((raw.length : ℤ) / 4).toNat = raw.length / 4 := by omega
  unfold unpackF32
  simp only [hn]
  by_cases hdvd : 4 ∣ raw.length
  · rw [if_pos (Nat.mul_div_cancel' hdvd).symm, if_pos hdvd]
    unfold elementsOf
    congr 1
    refine List.map_congr_left fun i _ => ?_
    rw [show elementSize "F32" = 4 from rfl, Nat.mul_comm i 4]
    rfl
  · rw [if_neg (fun h => hdvd ⟨_, h⟩), if_neg hdvd]

/-- A payload is decoded to its elements, unless a word of `F32` is cut off. -/
theorem decodePayload_eq {dtype : String} (hread : dtype ∈ readableDtypes) (raw : List UInt8) :
    decodePayload dtype raw.length raw =
      if dtype = "F32" ∧ ¬ 4 ∣ raw.length then .error (.raised .structError)
      else .ok (elementsOf dtype raw, decide (dtype ≠ "F32")) := by
  unfold decodePayload
  rw [coerceBf16_eq, coerceF16_eq, unpackF32_eq]
  simp only [readableDtypes, List.mem_cons, List.not_mem_nil, or_false] at hread
  rcases hread with rfl | rfl | rfl
  · by_cases hdvd : 4 ∣ raw.length
    · simp [hdvd, lift, bind, Except.bind]
    · simp [hdvd, lift, bind, Except.bind]
  · simp
  · simp

/-! ### The law -/

variable {py : Interp} {decode : Decode} {name : String} {expectedDtype : Option String}
  {expectedShape : Option (List ℤ)}

/-- Exactly as many values as the shape says, decoded from the region of the tensor in the data section. -/
structure DecodesRegion (py : Interp) (bytes : List UInt8) (s : Scan) (t : TensorInfo) (values : List PyFloat) :
    Prop where
  region : 0 ≤ t.dataBegin ∧ t.dataBegin ≤ t.dataEnd ∧ t.dataEnd ≤ s.dataSize
  count : ∃ n, PyObj.product py t.shape = .ok n ∧ n.eqInt values.length = true
  inside : values.length * elementSize t.dtype ≤ t.dataEnd - t.dataBegin
  value : ∀ i < values.length, values[i]? = some (elementValue t.dtype
    (slice bytes (s.dataOffset + t.dataBegin.toNat + i * elementSize t.dtype) (elementSize t.dtype)))

/-- A load ends with a `ScanError`, a `LoadError` or the values of the tensor. -/
def LoadLaw (py : Interp) (decode : Decode) (file : Option (List UInt8)) (name : String) (expectedDtype : Option String)
    (expectedShape : Option (List ℤ)) : Prop :=
  match loadTensor py decode file name expectedDtype expectedShape with
  | .ok td => ∃ s t, scanSafetensors py decode file = .ok s ∧ s.index name = some t ∧
    DecodesRegion py (file.getD []) s t td.values
  | .error (.raised _) => False
  | .error _ => True

/-- The last entry of that name. -/
def entryNamed (header : Entries) (name : String) : Option (String × Entries) :=
  (tensorEntries header).reverse.find? fun e => e.1 = name

/-- An entry that the reader does not refuse by its dtype or shape. -/
def Requested (expectedDtype : Option String) (expectedShape : Option (List ℤ)) (e : String × Entries) : Prop :=
  dtypeOk expectedDtype (dtypeOf e.1 e.2).1 = true ∧ (dtypeOf e.1 e.2).1 ∈ readableDtypes ∧
    shapeOk expectedShape (shapeOf e.1 e.2).1 = true

/-- A region that the reader can take: it lies in the data section, holds whole words for `F32`, and has as many
elements as the shape says; or its length is -1, behind the start of the file, which the reader finds to be wrong. -/
def RegionReadable (py : Interp) (dataOffset : ℕ) (e : String × Entries) : Prop :=
  ∀ first last errors, HasRegion py e first last errors →
    (last - first = -1 ∧ 0 ≤ dataOffset + first) ∨
    (0 ≤ first ∧ first ≤ last ∧ ((dtypeOf e.1 e.2).1 = "F32" → 4 ∣ last - first) ∧
      ∃ n, PyObj.product py (shapeOf e.1 e.2).1 = .ok n ∧ n.eqInt ((last - first) / sizeOf e) = true)

/-- The headers on which the load of a tensor keeps its law. -/
structure LoadGuard (py : Interp) (dataOffset dataSize : ℕ) (header : Entries) (name : String)
    (expectedDtype : Option String) (expectedShape : Option (List ℤ)) : Prop where
  runs : EntriesRun py dataSize (tensorEntries header)
  readable : (∀ e ∈ tensorEntries header, EntryFits py dataSize e) → ∀ e, entryNamed header name = some e →
    Requested expectedDtype expectedShape e → RegionReadable py dataOffset e

/-! ### The region -/

/-- Related lists are searched alike. -/
theorem find_related {α β : Type} {R : α → β → Prop} {xs : List α} {ys : List β} {p : α → Bool} {q : β → Bool}
    (h : List.Forall₂ R xs ys) (hpq : ∀ x y, R x y → p x = q y) :
    (xs.find? p = none ∧ ys.find? q = none) ∨ ∃ x y, xs.find? p = some x ∧ ys.find? q = some y ∧ R x y := by
  induction h with
  | nil => exact Or.inl ⟨rfl, rfl⟩
  | @cons x y xs ys hxy hrest ih =>
    rw [List.find?_cons, List.find?_cons, hpq x y hxy]
    cases q y with
    | true => exact Or.inr ⟨x, y, rfl, rfl, hxy⟩
    | false => exact ih

/-- A region is taken lawfully: an exception of the interpreter is not, a `LoadError` is. -/
def ReadLaw (py : Interp) (bytes : List UInt8) (s : Scan) (t : TensorInfo) : Prop :=
  match readTensor bytes s.dataOffset t with
  | .ok td => DecodesRegion py bytes s t td.values
  | .error (.raised _) => False
  | .error _ => True

/-- The elements of a region are those of the file at its place. -/
theorem decodesRegion_iff {bytes : List UInt8} {s : Scan} {t : TensorInfo}
    (hsize : s.dataOffset + s.dataSize = bytes.length) (hfit : t.dataEnd ≤ s.dataSize)
    (horder : t.dataBegin ≤ t.dataEnd) (hstart : 0 ≤ s.dataOffset + t.dataBegin) :
    DecodesRegion py bytes s t (elementsOf t.dtype
        (slice bytes (s.dataOffset + t.dataBegin).toNat (t.dataEnd - t.dataBegin).toNat)) ↔
      0 ≤ t.dataBegin ∧ ∃ n, PyObj.product py t.shape = .ok n ∧
        n.eqInt ((t.dataEnd - t.dataBegin) / elementSize t.dtype) = true := by
  have hlen : (slice bytes (s.dataOffset + t.dataBegin).toNat (t.dataEnd - t.dataBegin).toNat).length =
      (t.dataEnd - t.dataBegin).toNat := length_slice (by omega)
  have hcount : (elementsOf t.dtype (slice bytes (s.dataOffset + t.dataBegin).toNat
      (t.dataEnd - t.dataBegin).toNat)).length = (t.dataEnd - t.dataBegin).toNat / elementSize t.dtype := by
    unfold elementsOf
    rw [List.length_map, List.length_range, hlen]
  have hdiv : (((t.dataEnd - t.dataBegin).toNat / elementSize t.dtype : ℕ) : ℤ) =
      (t.dataEnd - t.dataBegin) / elementSize t.dtype := by
    rw [Int.natCast_div, Int.toNat_of_nonneg (by omega)]
  constructor
  · rintro ⟨hregion, hn, -, -⟩
    rw [hcount, hdiv] at hn
    exact ⟨hregion.1, hn⟩
  · rintro ⟨hnonneg, hn⟩
    have hinside : (t.dataEnd - t.dataBegin).toNat / elementSize t.dtype * elementSize t.dtype ≤
        (t.dataEnd - t.dataBegin).toNat := Nat.div_mul_le_self _ _
    refine ⟨⟨hnonneg, horder, hfit⟩, by rwa [hcount, hdiv], ?_, fun i hi => ?_⟩
    · rw [hcount]
      omega
    · rw [hcount] at hi
      have hblock : i * elementSize t.dtype + elementSize t.dtype ≤ (t.dataEnd - t.dataBegin).toNat := by
        rw [← Nat.succ_mul]
        exact (Nat.mul_le_mul_right _ hi).trans hinside
      unfold elementsOf
      rw [List.getElem?_map, List.getElem?_range (by rwa [hlen]), Option.map_some, slice_slice hblock,
        Int.toNat_add (by omega) hnonneg, Int.toNat_natCast]

/-- A region is taken lawfully exactly when the reader can take it. -/
theorem readLaw_iff {bytes : List UInt8} {s : Scan} {t : TensorInfo} (hsize : s.dataOffset + s.dataSize = bytes.length)
    (hfit : t.dataEnd ≤ s.dataSize) (hread : t.dtype ∈ readableDtypes) :
    ReadLaw py bytes s t ↔ (t.dataEnd - t.dataBegin = -1 ∧ 0 ≤ s.dataOffset + t.dataBegin) ∨
      (0 ≤ t.dataBegin ∧ t.dataBegin ≤ t.dataEnd ∧ (t.dtype = "F32" → 4 ∣ t.dataEnd - t.dataBegin) ∧
        ∃ n, PyObj.product py t.shape = .ok n ∧
          n.eqInt ((t.dataEnd - t.dataBegin) / elementSize t.dtype) = true) := by
  unfold ReadLaw readTensor seekRead
  simp only
  by_cases hstart : (s.dataOffset : ℤ) + t.dataBegin < 0
  · rw [if_pos hstart]
    refine iff_of_false id ?_
    rintro (⟨-, h⟩ | ⟨h, -⟩) <;> omega
  rw [if_neg hstart]
  by_cases hneg : t.dataEnd - t.dataBegin < -1
  · rw [if_pos hneg]
    refine iff_of_false id ?_
    rintro (⟨h, -⟩ | ⟨-, h, -⟩) <;> omega
  rw [if_neg hneg]
  by_cases hone : t.dataEnd - t.dataBegin = -1
  · rw [if_pos hone]
    simp only [lift, bind, Except.bind]
    rw [if_pos (by omega)]
    exact iff_of_true trivial (Or.inl ⟨hone, not_lt.mp hstart⟩)
  rw [if_neg hone]
  have hlen : (slice bytes (s.dataOffset + t.dataBegin).toNat (t.dataEnd - t.dataBegin).toNat).length =
      (t.dataEnd - t.dataBegin).toNat := length_slice (by omega)
  have hnbytes : ((slice bytes (s.dataOffset + t.dataBegin).toNat (t.dataEnd - t.dataBegin).toNat).length : ℤ) =
      t.dataEnd - t.dataBegin := by
    rw [hlen]
    omega
  simp only [lift, bind, Except.bind]
  rw [if_neg (not_not.mpr hnbytes)]
  have hdecode := decodePayload_eq hread
    (slice bytes (s.dataOffset + t.dataBegin).toNat (t.dataEnd - t.dataBegin).toNat)
  rw [hnbytes] at hdecode
  rw [hdecode, or_iff_right fun h => hone h.1]
  have hdvd : 4 ∣ (slice bytes (s.dataOffset + t.dataBegin).toNat (t.dataEnd - t.dataBegin).toNat).length ↔
      4 ∣ t.dataEnd - t.dataBegin := by
    rw [hlen]
    omega
  by_cases hcut : t.dtype = "F32" ∧ ¬ 4 ∣ t.dataEnd - t.dataBegin
  · rw [if_pos (by rwa [hdvd])]
    exact iff_of_false id fun h => hcut.2 (h.2.2.1 hcut.1)
  · rw [if_neg (by rwa [hdvd])]
    simp only
    rw [decodesRegion_iff hsize hfit (by omega) (not_lt.mp hstart)]
    constructor
    · rintro ⟨hnonneg, hn⟩
      exact ⟨hnonneg, by omega, fun hf32 => by_contra fun hno => hcut ⟨hf32, hno⟩, hn⟩
    · rintro ⟨hnonneg, -, -, hn⟩
      exact ⟨hnonneg, hn⟩

/-- A header that is read lies within the file. -/
theorem readHeader_ok {file : Option (List UInt8)} {bytes : List UInt8} {headerLen : ℕ} {header : Entries}
    (h : readHeader decode file = .ok (bytes, headerLen, header)) :
    file = some bytes ∧ 8 + headerLen ≤ bytes.length := by
  unfold readHeader at h
  cases file with
  | none => cases h
  | some content =>
    simp only at h
    by_cases h8 : content.length < 8
    · rw [if_pos h8] at h
      cases h
    rw [if_neg h8] at h
    by_cases h0 : readLe content 0 8 = 0
    · rw [if_pos h0] at h
      cases h
    rw [if_neg h0] at h
    by_cases hlen : content.length < 8 + readLe content 0 8
    · rw [if_pos hlen] at h
      cases h
    rw [if_neg hlen] at h
    cases hdecode : decode (slice content 8 (readLe content 0 8)) with
    | error x =>
      rw [hdecode] at h
      cases x <;> cases h
    | ok value =>
      rw [hdecode] at h
      cases value with
      | dict fields =>
        cases h
        exact ⟨rfl, not_lt.mp hlen⟩
      | _ => cases h

/-- The tensor under a name comes from the entry of that name. -/
theorem index_of_scanned {dataSize : ℕ} {header : Entries} {rs : List (TensorInfo × List Message)} {s : Scan}
    (hall : List.Forall₂ (fun e r => scanTensor py dataSize e.1 e.2 = .ok r) (tensorEntries header) rs)
    (htensors : s.tensors = rs.map Prod.fst) (name : String) :
    (entryNamed header name = none ∧ s.index name = none) ∨
      ∃ e r, entryNamed header name = some e ∧ s.index name = some r.1 ∧ scanTensor py dataSize e.1 e.2 = .ok r := by
  unfold entryNamed Scan.index
  rw [htensors, ← List.map_reverse, List.find?_map]
  have hrev := List.forall₂_reverse_iff.mpr hall
  have hfind := @find_related _ _ _ _ _ (fun e : String × Entries => decide (e.1 = name))
    ((fun t : TensorInfo => decide (t.name = name)) ∘ Prod.fst) hrev fun e r heq => by
      obtain ⟨-, errors, -, -, hname, -⟩ := scanned_clean heq
      rw [Function.comp_apply, hname]
  rcases hfind with ⟨hnone, hnone'⟩ | ⟨e, r, he, hr, heq⟩
  · exact Or.inl ⟨hnone, by rw [hnone']; rfl⟩
  · exact Or.inr ⟨e, r, he, by rw [hr]; rfl, heq⟩

/-- **The load of a tensor.**  Whatever the file, the decoder and the tensor asked for are, the reader keeps its law
exactly when the file is refused before its header is read, or the interpreter raises nothing over the header and, if
the tensor is there and wanted, its region can be taken. -/
theorem loadLaw_iff (py : Interp) (decode : Decode) (file : Option (List UInt8)) (name : String)
    (expectedDtype : Option String) (expectedShape : Option (List ℤ)) :
    LoadLaw py decode file name expectedDtype expectedShape ↔
      ∀ bytes headerLen header, readHeader decode file = .ok (bytes, headerLen, header) →
        LoadGuard py (8 + headerLen) (bytes.length - (8 + headerLen)) header name expectedDtype expectedShape := by
  unfold LoadLaw loadTensor
  rcases readHeader_cases decode file with ⟨⟨bytes, headerLen, header⟩, hread⟩ | ⟨message, hread⟩
  swap
  · have hscan : scanSafetensors py decode file = .error (.scanError message) := by
      unfold scanSafetensors
      rw [hread]
      rfl
    rw [hscan, hread]
    refine iff_of_true trivial fun bytes headerLen header h => ?_
    cases h
  have hforall : (∀ bytes' headerLen' header', readHeader decode file = .ok (bytes', headerLen', header') →
      LoadGuard py (8 + headerLen') (bytes'.length - (8 + headerLen')) header' name expectedDtype expectedShape) ↔
      LoadGuard py (8 + headerLen) (bytes.length - (8 + headerLen)) header name expectedDtype expectedShape := by
    constructor
    · intro h
      exact h bytes headerLen header hread
    · intro h _ _ _ heq
      cases hread.symm.trans heq
      exact h
  rw [hforall]
  obtain ⟨rfl, hlen⟩ := readHeader_ok hread
  rcases scanEntries_cases py (bytes.length - (8 + headerLen)) header with ⟨hno, x, heq⟩ |
    ⟨hrun, ⟨e, he, hout⟩, message, heq⟩ | ⟨hrun, rs, errors, hall, heq, -⟩
  · have hscan : scanSafetensors py decode (some bytes) = .error (.raised x) := by
      unfold scanSafetensors
      rw [hread]
      simp only [bind, Except.bind, heq]
    rw [hscan]
    exact iff_of_false id fun h => hno h.runs
  · have hscan : scanSafetensors py decode (some bytes) = .error (.scanError message) := by
      unfold scanSafetensors
      rw [hread]
      simp only [bind, Except.bind, heq]
    rw [hscan]
    exact iff_of_true trivial ⟨hrun, fun hfits => absurd (hfits e he) hout⟩
  obtain ⟨s, hscan, htensors, hoffset, hsize⟩ : ∃ s, scanSafetensors py decode (some bytes) = .ok s ∧
      s.tensors = rs.map Prod.fst ∧ s.dataOffset = 8 + headerLen ∧ s.dataSize = bytes.length - (8 + headerLen) := by
    unfold scanSafetensors
    rw [hread]
    simp only [bind, Except.bind, heq]
    exact ⟨_, rfl, rfl, rfl, rfl⟩
  have hfits : ∀ e ∈ tensorEntries header, EntryFits py (bytes.length - (8 + headerLen)) e := by
    intro e he
    obtain ⟨r, hr, heq⟩ := exists_of_mem_left hall he
    obtain ⟨-, errors, hregion, hle, -⟩ := scanned_clean heq
    exact ⟨_, _, errors, hregion, hle⟩
  rw [hscan]
  simp only [bind, Except.bind, Option.getD_some]
  rcases index_of_scanned hall htensors name with ⟨hnone, hindex⟩ | ⟨e, r, hnamed, hindex, heq⟩
  · rw [hindex]
    refine iff_of_true trivial ⟨hrun, fun _ e he => ?_⟩
    cases hnone.symm.trans he
  rw [hindex]
  obtain ⟨-, regionErrors, hregion, hle, hname, hdtype, hshape, -⟩ := scanned_clean heq
  have hguard : LoadGuard py (8 + headerLen) (bytes.length - (8 + headerLen)) header name expectedDtype expectedShape ↔
      (Requested expectedDtype expectedShape e → RegionReadable py (8 + headerLen) e) := by
    constructor
    · intro h
      exact h.readable hfits e hnamed
    · intro h
      refine ⟨hrun, fun _ e' he' => ?_⟩
      obtain rfl := Option.some.inj (hnamed.symm.trans he')
      exact h
  rw [hguard]
  unfold Requested
  rw [← hdtype, ← hshape]
  simp only
  by_cases hdtypeOk : dtypeOk expectedDtype r.1.dtype = false
  · rw [if_pos hdtypeOk]
    refine iff_of_true trivial fun h => ?_
    rw [hdtypeOk] at h
    cases h.1
  rw [if_neg hdtypeOk]
  by_cases hreadable : r.1.dtype ∉ readableDtypes
  · rw [if_pos hreadable]
    exact iff_of_true trivial fun h => absurd h.2.1 hreadable
  rw [if_neg hreadable]
  by_cases hshapeOk : shapeOk expectedShape r.1.shape = false
  · rw [if_pos hshapeOk]
    refine iff_of_true trivial fun h => ?_
    rw [hshapeOk] at h
    cases h.2.2
  rw [if_neg hshapeOk, forall_prop_of_true ⟨by simpa using hdtypeOk, not_not.mp hreadable, by simpa using hshapeOk⟩]
  have hlaw := @readLaw_iff py bytes s r.1 (by omega) (by omega) (not_not.mp hreadable)
  have hregionReadable : RegionReadable py (8 + headerLen) e ↔ ReadLaw py bytes s r.1 := by
    rw [hlaw, hdtype, hshape, hoffset]
    constructor
    · intro h
      exact h _ _ _ hregion
    · intro h first last errors hregion'
      obtain ⟨hpair, rfl⟩ := Prod.mk.inj (Except.ok.inj (hregion.symm.trans hregion'))
      obtain ⟨rfl, rfl⟩ := Prod.mk.inj hpair
      exact h
  rw [hregionReadable]
  unfold ReadLaw
  cases readTensor bytes s.dataOffset r.1 with
  | error x => cases x <;> rfl
  | ok td =>
    constructor
    · rintro ⟨s', t', hs', ht', hdecodes⟩
      obtain rfl := Except.ok.inj hs'
      obtain rfl := Option.some.inj (hindex.symm.trans ht')
      exact hdecodes
    · intro hdecodes
      exact ⟨s, r.1, rfl, hindex, hdecodes⟩

/-- **Safetensors reading.**  The scanner and the reader keep their laws on a file exactly when the file is refused
before its header is read, or both guards hold of the header. -/
theorem reading_sound_iff (py : Interp) (decode : Decode) (file : Option (List UInt8)) (name : String)
    (expectedDtype : Option String) (expectedShape : Option (List ℤ)) :
    (ScanLaw py decode file ∧ LoadLaw py decode file name expectedDtype expectedShape) ↔
      ∀ bytes headerLen header, readHeader decode file = .ok (bytes, headerLen, header) →
        ScanGuard py (bytes.length - (8 + headerLen)) header ∧
        LoadGuard py (8 + headerLen) (bytes.length - (8 + headerLen)) header name expectedDtype expectedShape := by
  rw [scanLaw_iff, loadLaw_iff]
  constructor
  · rintro ⟨hscan, hload⟩ bytes headerLen header h
    exact ⟨hscan bytes headerLen header h, hload bytes headerLen header h⟩
  · intro h
    exact ⟨fun bytes headerLen header hread => (h bytes headerLen header hread).1,
      fun bytes headerLen header hread => (h bytes headerLen header hread).2⟩

/-- An interpreter with exact floats and unbounded memory, which reads no number from a text. -/
def plainInterp : Interp where
  intOfText _ := none
  floatOfInt n := some (.finite n)
  mulFloat x y :=
    match x, y with
    | .finite p, .finite q => .finite (p * q)
    | _, _ => .nan
  allocates _ := true
  prints _ := true

/-- A tensor without dimensions, of type `F32`, over eight bytes. -/
def scalarHeader : Entries :=
  [("t", .dict [("dtype", .str "F32"), ("shape", .list []), ("data_offsets", .list [.int 0, .int 8])])]

def scalarText : List UInt8 := 
  ascii "\x7b\"t\":\x7b\"dtype\":\"F32\",\"shape\":[],\"data_offsets\":[0,8]\x7d\x7d"

def decodeScalar : Decode := fun bytes => if bytes = scalarText then .ok (.dict scalarHeader) else .error (.json "")

def scalarFile : List UInt8 := leBytes 8 scalarText.length ++ scalarText ++ List.replicate 8 0

/-- The scan finds no fault with the file, and the reader returns two values for the one element. -/
theorem scalar_of_eight_bytes : ¬ ScanLaw plainInterp decodeScalar (some scalarFile) ∧
    ¬ LoadLaw plainInterp decodeScalar (some scalarFile) "t" none none := by
  have hread : readHeader decodeScalar (some scalarFile) = .ok (scalarFile, scalarText.length, scalarHeader) := by
    unfold readHeader
    have hlen : scalarFile.length = 8 + scalarText.length + 8 := by decide
    have hheader : readLe scalarFile 0 8 = scalarText.length := by decide
    have htext : slice scalarFile 8 scalarText.length = scalarText := by decide
    simp only
    rw [hheader, htext, if_neg (by omega), if_neg (by decide), if_neg (by omega)]
    rfl
  have hentries : scanEntries plainInterp 8 scalarHeader =
      .ok ([⟨"t", "F32", [], 0, 8, 8, 4, .int 4⟩], []) := rfl
  have hscan : ∃ s, scanSafetensors plainInterp decodeScalar (some scalarFile) = .ok s ∧ s.errors = [] ∧
      s.tensors = [⟨"t", "F32", [], 0, 8, 8, 4, .int 4⟩] := by
    unfold scanSafetensors
    rw [hread]
    simp only [bind, Except.bind]
    rw [show scalarFile.length - (8 + scalarText.length) = 8 by decide, hentries]
    exact ⟨_, rfl, by simp [sortByBegin, overlaps], rfl⟩
  obtain ⟨s, hscan, herrors, htensors⟩ := hscan
  constructor
  · unfold ScanLaw
    rw [hscan]
    intro hsound
    obtain ⟨expected, hexpected, heq⟩ := (hsound herrors).length _ (htensors ▸ List.mem_cons_self) (by decide)
    rw [expectedOf_nil (by decide)] at hexpected
    obtain rfl := Except.ok.inj hexpected
    exact absurd heq (by decide)
  · intro hload
    obtain ⟨-, hreadable⟩ := (loadLaw_iff _ _ _ _ _ _).mp hload _ _ _ hread
    have hentry : entryNamed scalarHeader "t" =
        some ("t", [("dtype", .str "F32"), ("shape", .list []), ("data_offsets", .list [.int 0, .int 8])]) := rfl
    have hregion := hreadable (fun e he => ?_) _ hentry ⟨rfl, by decide, rfl⟩ 0 8 [] rfl
    · rcases hregion with ⟨hone, -⟩ | ⟨-, -, -, n, hproduct, hcount⟩
      · exact absurd hone (by decide)
      · obtain rfl := Except.ok.inj hproduct
        exact absurd hcount (by decide)
    · obtain rfl := List.mem_singleton.mp he
      exact ⟨0, 8, [], rfl, by decide⟩

end Att1.Safetensors
