import Att1.ModelFile.Sound
import Att1.Reader.Weights

/-!
# Att1.Reader.Agree — the Python reader against the C loader

* `LookupAgrees m pm name`: both sides find no tensor `name`, or tensors with the same dtype, rank, shape, payload
  and q4 group size, and with the same dequantized matrix.
* `ReaderCondition data`: what the descriptor table must look like.  The loader compares the first 63 name bytes up
  to a NUL and takes the first match; the reader strips the NULs at the end of all 64 name bytes and takes the last
  match; and the reader takes the q4 group size from the shard id.
* `reader_agrees_iff`: on every file the loader accepts the reader succeeds with the same config, and all lookups
  agree exactly where `ReaderCondition` holds.
-/

open Att1.Lib Att1.ModelFile

namespace Att1.Reader

/-! ### Agreement -/

/-- A name that both sides can be asked for: ASCII characters other than NUL. -/
def AsciiName (name : List UInt8) : Prop := ∀ b ∈ name, b ≠ 0 ∧ b.toNat < 128

instance (name : List UInt8) : Decidable (AsciiName name) :=
  inferInstanceAs (Decidable (∀ b ∈ name, b ≠ 0 ∧ b.toNat < 128))

/-- The same name as a Python string. -/
def pyName (name : List UInt8) : List ℕ := name.map UInt8.toNat

/-- The payload bytes of a loaded tensor. -/
def payloadBytes (m : Model) (t : ModelTensor) : List UInt8 := slice m.fileData (t.data.getD 0) t.nbytes

/-- Both tensors have the same descriptor and payload. -/
structure SameTensor (m : Model) (t : ModelTensor) (p : Att1Tensor) : Prop where
  dtype : t.dtype = p.dtype
  ndims : t.ndims = p.ndims
  shape : t.dims = p.shape
  payload : payloadBytes m t = p.raw
  group : t.dtype = dtypeQ4 → t.q4GroupSize = p.q4GroupSize

/-- The matrix the reader dequantizes is the matrix of the C view. -/
def SameWeights (m : Model) (name : List UInt8) (p : Att1Tensor) : Prop :=
  ∀ (F : Type) (scaled : ℤ → List UInt8 → F) (rows cols : ℕ),
    (∀ q, viewTensorQ8 m name rows cols = .ok q → p.dequantize scaled = some (q.weights scaled m.fileData)) ∧
    (∀ q, viewTensorQ4 m name rows cols = .ok q → p.dequantize scaled = some (q.weights scaled m.fileData))

/-- The lookup of `name` yields the same on both sides. -/
@[irreducible] def LookupAgrees (m : Model) (pm : Att1Model) (name : List UInt8) : Prop :=
  match findTensor m name, pm.findTensor (pyName name) with
  | none, none => True
  | some t, some p => SameTensor m t p ∧ SameWeights m name p
  | _, _ => False

/-! ### The condition on the file -/

section Condition

variable (data : List UInt8)

/-- Where descriptor `i` starts. -/
def descAt (i : ℕ) : ℕ := (headerFields data).descOffset + i * modelTensorDescSize

/-- The 64 name bytes of descriptor `i`. -/
def nameField (i : ℕ) : List UInt8 := slice data (descAt data i) modelNameSize

/-- The first 63 name bytes of descriptor `i`, up to the first NUL. -/
def cName (i : ℕ) : List UInt8 := cString (slice data (descAt data i) (modelNameSize - 1))

/-- The name bytes of descriptor `i` are `name`, filled up with NULs. -/
def Padded (i : ℕ) (name : List UInt8) : Prop :=
  nameField data i = name ++ List.replicate (modelNameSize - name.length) 0

/-- No descriptor before `i` has the same C name. -/
def FirstNamed (i : ℕ) : Prop := ∀ k < i, cName data k ≠ cName data i

/-- Descriptor `j` is the last one padded with `name`. -/
def LastPadded (j : ℕ) (name : List UInt8) : Prop :=
  Padded data j name ∧ ∀ k < (headerFields data).tensorCount, j < k → ¬ Padded data k name

/-- The dimensions in use of descriptor `i`. -/
def entryShape (i : ℕ) : List ℕ :=
  (List.range (readU32 data (descAt data i + 68))).map fun k => readU64 data (descAt data i + 72 + k * 8)

/-- The payload bytes of descriptor `i`. -/
def entryPayload (i : ℕ) : List UInt8 :=
  slice data ((headerFields data).dataOffset + readU64 data (descAt data i + 104)) (readU64 data (descAt data i + 112))

/-- The group size that the low byte of a 32-bit field stands for. -/
def groupOf (field : ℕ) : ℕ := if field &&& 0xFF = 0 then 32 else field &&& 0xFF

/-- Descriptors `i` and `j` describe the same tensor, the flags of `i` being compared with the shard id of `j`. -/
structure SameEntry (i j : ℕ) : Prop where
  dtype : readU32 data (descAt data i + 64) = readU32 data (descAt data j + 64)
  ndims : readU32 data (descAt data i + 68) = readU32 data (descAt data j + 68)
  shape : entryShape data i = entryShape data j
  payload : entryPayload data i = entryPayload data j
  group : readU32 data (descAt data i + 64) = 3 →
    groupOf (readU32 data (descAt data i + 124)) = groupOf (readU32 data (descAt data j + 120))

/-- No name fills its field; every ASCII name of the C table is padded with NULs in some descriptor; and the first
descriptor with a C name describes the same tensor as the last one padded with that name. -/
structure ReaderCondition : Prop where
  short : ∀ i < (headerFields data).tensorCount, ¬ AsciiName (nameField data i)
  padded : ∀ i < (headerFields data).tensorCount, AsciiName (cName data i) →
    ∃ j < (headerFields data).tensorCount, Padded data j (cName data i)
  same : ∀ i < (headerFields data).tensorCount, ∀ j < (headerFields data).tensorCount,
    AsciiName (cName data i) → FirstNamed data i → LastPadded data j (cName data i) → SameEntry data i j

instance (i : ℕ) (name : List UInt8) : Decidable (Padded data i name) := inferInstanceAs (Decidable (_ = _))

instance (i : ℕ) : Decidable (FirstNamed data i) :=
  inferInstanceAs (Decidable (∀ k < i, cName data k ≠ cName data i))

instance (j : ℕ) (name : List UInt8) : Decidable (LastPadded data j name) :=
  inferInstanceAs (Decidable (_ ∧ ∀ k < (headerFields data).tensorCount, j < k → ¬ Padded data k name))

instance (i j : ℕ) : Decidable (SameEntry data i j) :=
  decidable_of_iff
    (readU32 data (descAt data i + 64) = readU32 data (descAt data j + 64) ∧
      readU32 data (descAt data i + 68) = readU32 data (descAt data j + 68) ∧
      entryShape data i = entryShape data j ∧ entryPayload data i = entryPayload data j ∧
      (readU32 data (descAt data i + 64) = 3 →
        groupOf (readU32 data (descAt data i + 124)) = groupOf (readU32 data (descAt data j + 120))))
    ⟨fun ⟨h1, h2, h3, h4, h5⟩ => ⟨h1, h2, h3, h4, h5⟩, fun ⟨h1, h2, h3, h4, h5⟩ => ⟨h1, h2, h3, h4, h5⟩⟩

end Condition

/-! ### Names -/

section Names

variable {name field : List UInt8}

theorem decodeAscii_eq_pyName (h : AsciiName name) : decodeAscii field = pyName name ↔ field = name := by
  unfold decodeAscii pyName
  constructor
  · intro heq
    refine List.ext_getElem (by simpa using congrArg List.length heq) fun i h₁ h₂ => ?_
    have hi := congrArg (fun l => l[i]?) heq
    simp only [List.getElem?_map, List.getElem?_eq_getElem h₁, List.getElem?_eq_getElem h₂, Option.map_some,
      Option.some.injEq] at hi
    have hlt := (h name[i] (List.getElem_mem h₂)).2
    by_cases hb : field[i].toNat < 128
    · rw [if_pos hb] at hi
      exact UInt8.toNat_inj.mp hi
    · rw [if_neg hb] at hi
      omega
  · rintro rfl
    exact List.map_congr_left fun b hb => if_pos (h b hb).2

theorem rstripNul_append_replicate (h : AsciiName name) (k : ℕ) :
    rstripNul (name ++ List.replicate k 0) = name := by
  unfold rstripNul
  induction k with
  | zero =>
    rw [List.replicate_zero, List.append_nil, List.rdropWhile_eq_self_iff]
    intro hne
    simpa using (h _ (List.getLast_mem hne)).1
  | succ k ih =>
    rw [List.replicate_succ', ← List.append_assoc, List.rdropWhile_concat_pos _ _ _ (by simp), ih]

theorem exists_rstripNul_append (bytes : List UInt8) :
    ∃ k, bytes = rstripNul bytes ++ List.replicate k 0 := by
  unfold rstripNul
  induction bytes using List.reverseRecOn with
  | nil => exact ⟨0, rfl⟩
  | append_singleton bytes b ih =>
    by_cases hb : b = 0
    · obtain ⟨k, hk⟩ := ih
      refine ⟨k + 1, ?_⟩
      rw [List.rdropWhile_concat_pos _ _ _ (by simpa using hb), List.replicate_succ', ← List.append_assoc, ← hk, hb]
    · refine ⟨0, ?_⟩
      rw [List.rdropWhile_concat_neg _ _ _ (by simpa using hb), List.replicate_zero, List.append_nil]

/-- The reader's name of a field is `name` exactly where the field is `name` filled up with NULs. -/
theorem decodeAscii_rstripNul (h : AsciiName name) :
    decodeAscii (rstripNul field) = pyName name ↔
      field = name ++ List.replicate (field.length - name.length) 0 := by
  rw [decodeAscii_eq_pyName h]
  constructor
  · intro heq
    obtain ⟨k, hk⟩ := exists_rstripNul_append field
    rw [heq] at hk
    have hlen : field.length - name.length = k := by simp [hk]
    rw [hlen]
    exact hk
  · intro heq
    rw [heq]
    exact rstripNul_append_replicate h _

theorem cString_concat_zero (bytes : List UInt8) : cString (bytes ++ [0]) = cString bytes := by
  induction bytes with
  | nil => rfl
  | cons b bs ih =>
    unfold cString at ih ⊢
    by_cases hb : b = 0
    · simp [hb]
    · simpa [hb] using ih

/-- The loader compares the C string in the first 63 bytes of a name field with the name asked for. -/
theorem strncmpEq_name (h : AsciiName name) (hfield : field.length ≤ modelNameSize - 1) :
    strncmpEq modelNameSize (field ++ [0]) name = true ↔ cString field = name := by
  have hname : cString name = name := cString_of_ne_zero fun b hb => (h b hb).1
  have hlen : (cString field).length ≤ modelNameSize - 1 := (cString_length_le field).trans hfield
  rw [strncmpEq_iff, cString_concat_zero, hname, List.take_of_length_le (by omega)]
  constructor
  · intro heq
    have hshort : name.length ≤ modelNameSize := by
      by_contra hlong
      have := congrArg List.length heq
      rw [List.length_take, Nat.min_eq_left (by omega)] at this
      unfold modelNameSize at *
      omega
    rw [heq, List.take_of_length_le hshort]
  · rintro rfl
    exact (List.take_of_length_le (by omega)).symm

end Names

/-! ### Both sides on one file -/

section File

variable {host : Host} {data : List UInt8} {m : Model}

/-- The reader's tensor of descriptor `i`. -/
def pyTensor (data : List UInt8) (i : ℕ) : Att1Tensor := tensorAt data (headerFields data).dataOffset (descAt data i)

/-- What the reader makes of a file that the loader accepts. -/
def pyModel (data : List UInt8) : Att1Model where
  version := readU32 data 8
  config := configAt data (headerFields data).configOffset
  tensors := (List.range (headerFields data).tensorCount).map (pyTensor data)

theorem checkVersion_of_loader (h : ModelFile.checkVersion data = .ok ()) : checkVersion data = .ok () := by
  unfold checkVersion
  obtain ⟨h1, hsize⟩ | ⟨h2, hsize, hlen⟩ := checkVersion_eq_ok.mp h
  · rw [if_pos h1, rejectIf_eq_ok, not_not]
    exact hsize
  · rw [if_neg (by rw [h2]; decide), if_pos h2, rejectIf_bind_eq_ok, rejectIf_eq_ok, not_not, Nat.not_lt]
    exact ⟨hsize, hlen⟩

/-- What the reader asks of the header and of the descriptor table. -/
structure TableOk (data : List UInt8) : Prop where
  header : HeaderOk data (headerFields data)
  tensor : ∀ i < (headerFields data).tensorCount, ∃ t, TensorOk data (headerFields data) i t

theorem exists_tensor (hl : Loaded host data m) {i : ℕ} (hi : i < (headerFields data).tensorCount) :
    ∃ t, m.tensors[i]? = some t ∧ TensorOk data (headerFields data) i t := by
  have hlt : i < m.tensors.length := by
    rw [hl.length]
    exact hi
  exact ⟨_, List.getElem?_eq_getElem hlt, hl.tensors i _ (List.getElem?_eq_getElem hlt)⟩

theorem tableOk_of_loaded (hl : Loaded host data m) : TableOk data where
  header := hl.header
  tensor i hi := by
    obtain ⟨t, -, hok⟩ := exists_tensor hl hi
    exact ⟨t, hok⟩

theorem readTensor_eq_ok (htable : TableOk data) {i : ℕ} (hi : i < (headerFields data).tensorCount) :
    readTensor data (headerFields data).descOffset (headerFields data).dataOffset (headerFields data).dataSize i =
      .ok (pyTensor data i) := by
  obtain ⟨t, hok⟩ := htable.tensor i hi
  have hndims : t.ndims = readU32 data (descAt data i + 68) := congrArg ModelTensor.ndims hok.read
  have hoffset : t.offset = readU64 data (descAt data i + 104) := congrArg ModelTensor.offset hok.read
  have hnbytes : t.nbytes = readU64 data (descAt data i + 112) := congrArg ModelTensor.nbytes hok.read
  have hpos := hok.shape.ndims_pos
  have hle := hok.shape.ndims_le
  have hrange := hok.payload
  unfold readTensor
  simp only [rejectIf_bind_eq_ok]
  refine ⟨?_, ?_, rfl⟩
  · show ¬ (readU32 data (descAt data i + 68) = 0 ∨ modelMaxDims < readU32 data (descAt data i + 68))
    omega
  · show ¬ (headerFields data).dataSize < readU64 data (descAt data i + 104) + readU64 data (descAt data i + 112)
    omega

/-- The reader accepts what the loader accepts. -/
theorem readAtt1Model_eq_ok (htable : TableOk data) : readAtt1Model data = .ok (pyModel data) := by
  have hok := htable.header
  have hsize := hok.size
  have hconfigSize := hok.configSize
  have hconfig := hok.config
  have hdesc := hok.desc
  have hpayload := hok.payload
  have htensors : (List.range (headerFields data).tensorCount).mapM
      (readTensor data (headerFields data).descOffset (headerFields data).dataOffset (headerFields data).dataSize) =
        .ok (pyModel data).tensors := by
    refine mapM_range_eq_ok.mpr ⟨by simp [pyModel], fun i p hi => ?_⟩
    obtain ⟨hlt, rfl⟩ := List.getElem?_eq_some_iff.mp hi
    have hlt' : i < (headerFields data).tensorCount := by simpa [pyModel] using hlt
    rw [readTensor_eq_ok htable hlt']
    simp [pyModel]
  unfold readAtt1Model
  simp only [rejectIf_bind_eq_ok, bind_eq_ok (x := checkVersion data), not_not, Nat.not_lt]
  refine ⟨hsize, hok.magic, (), checkVersion_of_loader hok.version, hconfigSize, ?_, hdesc, hpayload, ?_⟩
  · show (headerFields data).configOffset + (headerFields data).configSize ≤ data.length
    omega
  · exact bind_eq_ok.mpr ⟨_, htensors, rfl⟩

/-! ### Lookups -/

/-- The loader's name test of descriptor `i`. -/
theorem strncmpEq_tensor (hl : Loaded host data m) {name : List UInt8} (hname : AsciiName name) {i : ℕ}
    {t : ModelTensor} (hi : m.tensors[i]? = some t) :
    strncmpEq modelNameSize t.name name = true ↔ cName data i = name := by
  have hread : t.name = slice data (descAt data i) (modelNameSize - 1) ++ [0] :=
    congrArg ModelTensor.name (hl.tensors i t hi).read
  rw [hread, strncmpEq_name hname length_slice_le, cName]

/-- The loader finds the first descriptor with the C name. -/
theorem findTensor_iff (hl : Loaded host data m) {name : List UInt8} (hname : AsciiName name) {t : ModelTensor} :
    findTensor m name = some t ↔
      ∃ i, m.tensors[i]? = some t ∧ cName data i = name ∧ ∀ k < i, cName data k ≠ name := by
  unfold findTensor
  rw [find?_eq_some_iff_firstAt]
  refine exists_congr fun i => and_congr_right fun hi => ?_
  rw [strncmpEq_tensor hl hname hi]
  refine and_congr_right fun _ => ⟨fun h k hk => ?_, fun h k y hk hy => ?_⟩
  · have hlt := (List.getElem?_eq_some_iff.mp hi).1
    have hk' : m.tensors[k]? = some m.tensors[k] := List.getElem?_eq_getElem (by omega)
    have hfalse : strncmpEq modelNameSize m.tensors[k].name name = false := h k _ hk hk'
    rw [ne_eq, ← strncmpEq_tensor hl hname hk', hfalse]
    exact Bool.false_ne_true
  · rw [← Bool.not_eq_true, strncmpEq_tensor hl hname hy]
    exact h k hk

theorem pyModel_getElem? {i : ℕ} {p : Att1Tensor} :
    (pyModel data).tensors[i]? = some p ↔ i < (headerFields data).tensorCount ∧ p = pyTensor data i := by
  rw [pyModel, List.getElem?_map, Option.map_eq_some_iff]
  constructor
  · rintro ⟨k, hk, rfl⟩
    obtain ⟨hlt, rfl⟩ := List.getElem?_eq_some_iff.mp hk
    rw [List.length_range] at hlt
    exact ⟨hlt, by rw [List.getElem_range]⟩
  · rintro ⟨hlt, rfl⟩
    exact ⟨i, List.getElem?_range hlt, rfl⟩

theorem length_nameField (htable : TableOk data) {i : ℕ} (hi : i < (headerFields data).tensorCount) :
    (nameField data i).length = modelNameSize := by
  have hdesc := htable.header.desc
  have hle : (i + 1) * modelTensorDescSize ≤ (headerFields data).tensorCount * modelTensorDescSize :=
    Nat.mul_le_mul_right _ hi
  refine length_slice ?_
  unfold descAt modelTensorDescSize modelNameSize at *
  omega

theorem pyTensor_name_iff (htable : TableOk data) {name : List UInt8} (hname : AsciiName name) {i : ℕ}
    (hi : i < (headerFields data).tensorCount) : (pyTensor data i).name = pyName name ↔ Padded data i name := by
  show decodeAscii (rstripNul (nameField data i)) = pyName name ↔ _
  rw [decodeAscii_rstripNul hname, length_nameField htable hi, Padded]

/-- The reader finds the last descriptor padded with the name. -/
theorem pyFindTensor_iff (htable : TableOk data) {name : List UInt8} (hname : AsciiName name) {p : Att1Tensor} :
    (pyModel data).findTensor (pyName name) = some p ↔
      ∃ j < (headerFields data).tensorCount, p = pyTensor data j ∧ LastPadded data j name := by
  unfold Att1Model.findTensor
  rw [lastMatch_eq_some]
  refine exists_congr fun j => ?_
  unfold LastAt
  rw [pyModel_getElem?, and_assoc]
  refine and_congr_right fun hj => and_congr_right fun hp => ?_
  subst hp
  rw [decide_eq_true_iff, pyTensor_name_iff htable hname hj]
  refine and_congr_right fun _ => ⟨fun h k hk hlt => ?_, fun h k y hlt hy => ?_⟩
  · have := h k _ hlt (pyModel_getElem?.mpr ⟨hk, rfl⟩)
    rw [decide_eq_false_iff_not, pyTensor_name_iff htable hname hk] at this
    exact this
  · obtain ⟨hk, rfl⟩ := pyModel_getElem?.mp hy
    rw [decide_eq_false_iff_not, pyTensor_name_iff htable hname hk]
    exact h k hk hlt

/-- Tensors of the two sides are the same exactly where their descriptors are. -/
theorem sameTensor_iff (hl : Loaded host data m) {i j : ℕ} {t : ModelTensor} (hi : m.tensors[i]? = some t) :
    SameTensor m t (pyTensor data j) ↔ SameEntry data i j := by
  have hok := hl.tensors i t hi
  have hdtype : t.dtype = readU32 data (descAt data i + 64) := congrArg ModelTensor.dtype hok.read
  have hndims : t.ndims = readU32 data (descAt data i + 68) := congrArg ModelTensor.ndims hok.read
  have hoffset : t.offset = readU64 data (descAt data i + 104) := congrArg ModelTensor.offset hok.read
  have hnbytes : t.nbytes = readU64 data (descAt data i + 112) := congrArg ModelTensor.nbytes hok.read
  have hflags : t.flags = readU32 data (descAt data i + 124) := congrArg ModelTensor.flags hok.read
  have hpayload : payloadBytes m t = entryPayload data i := by
    rw [payloadBytes, hok.data_eq, hl.fileData, hoffset, hnbytes]
    rfl
  have hshape : t.shape = fun k : Fin 4 => readU64 data (descAt data i + (72 + k * 8)) :=
    congrArg ModelTensor.shape hok.read
  have hdims : t.dims = entryShape data i := by
    have hle : t.ndims ≤ 4 := hok.shape.ndims_le
    refine List.ext_getElem (by simp [ModelTensor.dims, entryShape, ← hndims, hle]) fun k h₁ h₂ => ?_
    simp only [ModelTensor.dims, entryShape, hshape, List.getElem_take, List.getElem_ofFn, List.getElem_map,
      List.getElem_range, Nat.add_assoc]
  have hgroup : t.q4GroupSize = groupOf (readU32 data (descAt data i + 124)) := by
    rw [ModelTensor.q4GroupSize, hflags]
    rfl
  have hgroup' : (pyTensor data j).q4GroupSize = groupOf (readU32 data (descAt data j + 120)) := by
    show (if 0 < readU32 data (descAt data j + 120) &&& 0xFF then _ else _) = _
    unfold groupOf
    by_cases hzero : readU32 data (descAt data j + 120) &&& 0xFF = 0
    · rw [if_pos hzero, if_neg (by omega)]
      rfl
    · rw [if_neg hzero, if_pos (by omega)]
      rfl
  constructor
  · rintro ⟨h1, h2, h3, h4, h5⟩
    rw [hdtype] at h1 h5
    rw [hndims] at h2
    rw [hdims] at h3
    rw [hpayload] at h4
    rw [hgroup, hgroup'] at h5
    exact ⟨h1, h2, h3, h4, h5⟩
  · rintro ⟨h1, h2, h3, h4, h5⟩
    refine ⟨hdtype.trans h1, hndims.trans h2, hdims.trans h3, hpayload.trans h4, fun h => ?_⟩
    rw [hdtype] at h
    rw [hgroup, hgroup', h5 h]

/-- The same descriptor and payload give the same matrix. -/
theorem sameWeights (hl : Loaded host data m) {name : List UInt8} {t : ModelTensor} {p : Att1Tensor}
    (hfind : findTensor m name = some t) (hsame : SameTensor m t p) : SameWeights m name p := by
  obtain ⟨hvalid, hsize, hstart, hinside⟩ := hl.payload (findTensor_some hfind).1
  have helements := hl.elements (findTensor_some hfind).1
  have hraw : p.raw = slice data ((headerFields data).dataOffset + t.offset) t.nbytes := by
    rw [← hsame.payload, payloadBytes, hstart, hl.fileData]
    rfl
  intro F scaled rows cols
  constructor
  · intro q hview
    obtain ⟨-, t', hfind', hshape, rfl⟩ := viewTensorQ8_eq_ok.mp hview
    obtain rfl : t = t' := Option.some.inj (hfind.symm.trans hfind')
    obtain ⟨hdtype, hndims, rfl, rfl⟩ := tensorIsQ8Shape_iff.mp hshape
    rw [ModelTensor.prod_dims_of_two hndims] at helements
    have hnbytes := hsize.trans (ModelTensor.exactNbytes_q8 hdtype)
    have hpshape : p.shape = [t.shape 0, t.shape 1] := by rw [← hsame.shape, ModelTensor.dims_of_two hndims]
    rw [hnbytes] at hraw hinside
    have hq8 : p.dtype = dtypeQ8 := hsame.dtype.symm.trans hdtype
    rw [Att1Tensor.dequantize, if_pos hq8, dequantizeQ8_eq hpshape hraw hinside, hl.fileData, hstart, Option.map_some,
      sizeT_eq helements]
  · intro q hview
    obtain ⟨-, t', hfind', hshape, rfl⟩ := viewTensorQ4_eq_ok.mp hview
    obtain rfl : t = t' := Option.some.inj (hfind.symm.trans hfind')
    obtain ⟨hdtype, hndims, rfl, rfl⟩ := tensorIsQ4Shape_iff.mp hshape
    rw [ModelTensor.prod_dims_of_two hndims] at helements
    have hnbytes := hsize.trans (ModelTensor.exactNbytes_q4 hdtype)
    have hpshape : p.shape = [t.shape 0, t.shape 1] := by rw [← hsame.shape, ModelTensor.dims_of_two hndims]
    have hq4shape := hvalid.q4Shape hdtype
    rw [hnbytes] at hraw hinside
    have hq4 : p.dtype = dtypeQ4 := hsame.dtype.symm.trans hdtype
    have hq8 : p.dtype ≠ dtypeQ8 := by
      rw [hq4]
      decide
    rw [Att1Tensor.dequantize, if_neg hq8, if_pos hq4, dequantizeQ4_eq hpshape (hsame.group hdtype).symm
      (even_of_groupSizeOk hq4shape.group) hq4shape.dvd hraw hinside, hl.fileData, hstart, Option.map_some,
      sizeT_eq helements]

end File

/-! ### The condition is exact -/

section Main

variable {host : Host} {data : List UInt8} {m : Model} {name : List UInt8}

/-- A field padded with a short name has that C name. -/
theorem cName_of_padded {j : ℕ} (hname : AsciiName name) (hlen : name.length ≤ modelNameSize - 1)
    (hpad : Padded data j name) : cName data j = name := by
  have hslice : slice data (descAt data j) (modelNameSize - 1) = (nameField data j).take (modelNameSize - 1) := by
    unfold nameField slice
    rw [List.take_take]
    rfl
  have hzeros : (List.replicate (modelNameSize - name.length) (0 : UInt8)).take (modelNameSize - 1 - name.length) =
      List.replicate (modelNameSize - 1 - name.length) 0 := by
    rw [List.take_replicate, Nat.min_eq_left (by omega)]
  rw [cName, hslice, hpad, List.take_append, List.take_of_length_le hlen, hzeros]
  cases modelNameSize - 1 - name.length with
  | zero =>
    rw [List.replicate_zero, List.append_nil]
    exact cString_of_ne_zero fun b hb => (hname b hb).1
  | succ k => exact cString_append_zero fun b hb => (hname b hb).1

theorem cName_length (data : List UInt8) (i : ℕ) : (cName data i).length ≤ modelNameSize - 1 :=
  (cString_length_le _).trans length_slice_le

/-- The last descriptor padded with a name, where there is one. -/
theorem exists_pyFindTensor (htable : TableOk data) (hname : AsciiName name) {j : ℕ}
    (hj : j < (headerFields data).tensorCount) (hpad : Padded data j name) :
    ∃ p, (pyModel data).findTensor (pyName name) = some p := by
  rw [← Option.isSome_iff_exists, ← Option.ne_none_iff_isSome]
  intro hnone
  have hnot := lastMatch_eq_none.mp hnone (pyTensor data j)
    (List.mem_iff_getElem?.mpr ⟨j, pyModel_getElem?.mpr ⟨hj, rfl⟩⟩)
  rw [decide_eq_false_iff_not] at hnot
  exact hnot ((pyTensor_name_iff htable hname hj).mpr hpad)

theorem findTensor_eq_none (hl : Loaded host data m) (hname : AsciiName name) :
    findTensor m name = none ↔ ∀ i < (headerFields data).tensorCount, cName data i ≠ name := by
  unfold findTensor
  rw [List.find?_eq_none]
  constructor
  · intro hnone i hi heq
    obtain ⟨t, ht, -⟩ := exists_tensor hl hi
    exact hnone t (List.mem_of_getElem? ht) ((strncmpEq_tensor hl hname ht).mpr heq)
  · intro hall t ht heq
    obtain ⟨i, hi⟩ := List.mem_iff_getElem?.mp ht
    have hlt := (List.getElem?_eq_some_iff.mp hi).1
    rw [hl.length] at hlt
    exact hall i hlt ((strncmpEq_tensor hl hname hi).mp heq)

theorem readerCondition_of_agrees (hl : Loaded host data m)
    (hagree : ∀ name, AsciiName name → LookupAgrees m (pyModel data) name) : ReaderCondition data := by
  refine ⟨fun i hi hascii => ?_, fun i hi hascii => ?_, fun i hi j hj hascii hfirst hlast => ?_⟩
  · -- a name of 64 characters is found by the reader only
    have hlen := length_nameField (tableOk_of_loaded hl) hi
    have hpad : Padded data i (nameField data i) := by simp [Padded, hlen]
    have hnone : findTensor m (nameField data i) = none := by
      refine (findTensor_eq_none hl hascii).mpr fun k _ hk => ?_
      have hle := cName_length data k
      rw [hk, hlen] at hle
      exact absurd hle (by decide)
    obtain ⟨p, hp⟩ := exists_pyFindTensor (tableOk_of_loaded hl) hascii hi hpad
    have h := hagree _ hascii
    rw [LookupAgrees, hnone, hp] at h
    exact h
  · have hsome : findTensor m (cName data i) ≠ none := fun hnone =>
      (findTensor_eq_none hl hascii).mp hnone i hi rfl
    obtain ⟨t, ht⟩ := Option.ne_none_iff_exists'.mp hsome
    have h := hagree _ hascii
    rw [LookupAgrees, ht] at h
    cases hp : (pyModel data).findTensor (pyName (cName data i)) with
    | none =>
      rw [hp] at h
      exact h.elim
    | some p =>
      obtain ⟨j, hj, -, hpad, -⟩ := (pyFindTensor_iff (tableOk_of_loaded hl) hascii).mp hp
      exact ⟨j, hj, hpad⟩
  · obtain ⟨t, hi', -⟩ := exists_tensor hl hi
    have ht := (findTensor_iff hl hascii).mpr ⟨i, hi', rfl, hfirst⟩
    have hp := (pyFindTensor_iff (tableOk_of_loaded hl) hascii).mpr ⟨j, hj, rfl, hlast⟩
    have h := hagree _ hascii
    rw [LookupAgrees, ht, hp] at h
    exact (sameTensor_iff hl hi').mp h.1

theorem agrees_of_readerCondition (hl : Loaded host data m) (hc : ReaderCondition data) (hname : AsciiName name) :
    LookupAgrees m (pyModel data) name := by
  unfold LookupAgrees
  cases ht : findTensor m name with
  | none =>
    cases hp : (pyModel data).findTensor (pyName name) with
    | none => trivial
    | some p =>
      obtain ⟨j, hj, -, hpad, -⟩ := (pyFindTensor_iff (tableOk_of_loaded hl) hname).mp hp
      -- the reader's name fills the field, or the loader finds the descriptor as well
      by_cases hlen : name.length ≤ modelNameSize - 1
      · exact (findTensor_eq_none hl hname).mp ht j hj (cName_of_padded hname hlen hpad)
      · have hfull : nameField data j = name := by
          rw [hpad, show modelNameSize - name.length = 0 by omega, List.replicate_zero, List.append_nil]
        exact hc.short j hj (hfull ▸ hname)
  | some t =>
    obtain ⟨i, hi, rfl, hfirst⟩ := (findTensor_iff hl hname).mp ht
    have hlt : i < (headerFields data).tensorCount := by
      rw [← hl.length]
      exact (List.getElem?_eq_some_iff.mp hi).1
    obtain ⟨j, hj, hpad⟩ := hc.padded i hlt hname
    obtain ⟨p, hp⟩ := exists_pyFindTensor (tableOk_of_loaded hl) hname hj hpad
    obtain ⟨j', hj', rfl, hlast⟩ := (pyFindTensor_iff (tableOk_of_loaded hl) hname).mp hp
    rw [hp]
    have hsame := (sameTensor_iff hl hi).mpr (hc.same i hlt j' hj' hname hfirst hlast)
    exact ⟨hsame, sameWeights hl ht hsame⟩

/-- **The reader agrees with the loader** on the config of every file the loader accepts, and on its tensors exactly
where `ReaderCondition` holds. -/
theorem reader_agrees_iff (host : Host) (data : List UInt8) (hok : (load host (some data)).status = .ok) :
    ∃ pm, readAtt1Model data = .ok pm ∧ pm.config = (load host (some data)).model.config ∧
      ((∀ name, AsciiName name → LookupAgrees (load host (some data)).model pm name) ↔ ReaderCondition data) := by
  have hl := loaded_of_ok hok
  exact ⟨pyModel data, readAtt1Model_eq_ok (tableOk_of_loaded hl), hl.config.symm, readerCondition_of_agrees hl,
    fun hc name hname => agrees_of_readerCondition hl hc hname⟩

/-- In the sample file with shard id 0 the loader reads group size 16, the reader the default 32. -/
theorem reader_drops_group_size :
    (load Host.generous (some (sampleFile 0))).status = .ok ∧
    ∃ pm, readAtt1Model (sampleFile 0) = .ok pm ∧
      ¬ ∀ name, AsciiName name → LookupAgrees (load Host.generous (some (sampleFile 0))).model pm name := by
  have hok : (load Host.generous (some (sampleFile 0))).status = .ok := by decide +kernel
  have hl := loaded_of_ok hok
  refine ⟨hok, pyModel (sampleFile 0), readAtt1Model_eq_ok (tableOk_of_loaded hl), fun hagree => ?_⟩
  have hsame := (readerCondition_of_agrees hl hagree).same 1 (by decide +kernel) 1 (by decide +kernel)
    (by decide +kernel) (by decide +kernel) (by decide +kernel)
  exact absurd (hsame.group (by decide +kernel)) (by decide +kernel)

/-- With 16 in the low byte of the shard id as well, both sides agree on the sample file. -/
theorem reader_agrees_equal_bytes :
    ∃ pm, readAtt1Model (sampleFile 16) = .ok pm ∧
      ∀ name, AsciiName name → LookupAgrees (load Host.generous (some (sampleFile 16))).model pm name := by
  obtain ⟨pm, hread, -, hiff⟩ := reader_agrees_iff Host.generous (sampleFile 16) (by decide +kernel)
  exact ⟨pm, hread, hiff.mpr ⟨by decide +kernel, by decide +kernel, by decide +kernel⟩⟩

end Main

end Att1.Reader
