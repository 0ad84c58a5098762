import Att1.Converter.RoundTrip
import Att1.Reader.Agree

/-!
# Att1.Reader.Emitted — what the Python reader makes of the files of the converter

* `emittedTensor`: the reader's tensor of a tensor that was encoded.
* `Built.readAtt1Model_eq`, `Built.findTensor_pyModel`: the reader accepts the file, also with the shard metadata of q4
  tensors that the C loader refuses, and finds every tensor under its name.
-/

open Att1.Lib Att1.ModelFile Att1.Reader

namespace Att1.Converter

/-! ### Names -/

theorem ascii_of_mem_layerSuffixes : ∀ suffix ∈ layerSuffixes, ∀ b ∈ suffix, b.toNat < 128 := by
  decide +kernel

/-- The names of a plan are ASCII. -/
theorem asciiName_of_mem_planNames {nLayers : ℕ} {name : List UInt8} (h : name ∈ planNames nLayers) :
    AsciiName name := by
  have hends : ∀ name ∈ [ascii "tok_embeddings.weight", ascii "output_norm.weight", ascii "output.weight"],
      ∀ b ∈ name, b.toNat < 128 := by decide +kernel
  have hprefix (layer : ℕ) : ∀ b ∈ layerPrefix layer, b.toNat < 128 := by
    intro b hb
    rcases List.mem_append.mp hb with hb | hb
    · exact (by decide +kernel : ∀ b ∈ ascii "layers.", b.toNat < 128) b hb
    · have hdigit := mem_decimal hb
      omega
  refine fun b hb => ⟨ne_zero_of_mem_planNames h b hb, ?_⟩
  rcases List.mem_cons.mp h with rfl | h
  · exact hends _ (by simp) b hb
  rcases List.mem_append.mp h with h | h
  · obtain ⟨layer, -, h⟩ := List.mem_flatMap.mp h
    obtain ⟨suffix, hsuffix, rfl⟩ := List.mem_map.mp h
    rcases List.mem_append.mp hb with hb | hb
    · exact hprefix layer b hb
    · exact ascii_of_mem_layerSuffixes suffix hsuffix b hb
  · exact hends _ (List.mem_cons_of_mem _ h) b hb

/-- A name is filled up to the size of its field in one way. -/
theorem namePadded_inj {name other : List UInt8} (hname : ∀ c ∈ name, c ≠ 0) (hother : ∀ c ∈ other, c ≠ 0)
    (h : namePadded name = namePadded other) : name = other := by
  have hcut := congrArg cString h
  unfold namePadded at hcut
  rwa [cString_append_replicate hname, cString_append_replicate hother] at hcut

/-! ### The file -/

/-- The reader's tensor; the group size that the converter puts into the flags is not where the reader looks. -/
def emittedTensor (t : PyTensor) : Att1Tensor where
  name := pyName t.name
  dtype := t.dtype
  ndims := t.shape.length
  shape := t.shape
  raw := t.data
  flags := 0

namespace Built

variable {att1 : Att1Dict} {tensors : List PyTensor} {emitShardMeta : Bool} {descs : List (List UInt8)}
  {shardBlob bytes : List UInt8} (hb : Built att1 tensors emitShardMeta descs shardBlob bytes)
include hb

theorem tensorCount_eq : (headerFields bytes).tensorCount = tensors.length := by
  rw [hb.headerFields_eq]
  rfl

theorem descAt_eq (i : ℕ) : descAt bytes i = descOffset + i * modelTensorDescSize := by
  unfold descAt
  rw [hb.headerFields_eq]
  rfl

theorem tableOk (hdims : NonzeroDims att1) (hform : ∀ t ∈ tensors, DefaultForm t) : TableOk bytes where
  header := hb.headerOk
  tensor i hi := by
    rw [hb.tensorCount_eq] at hi
    exact ⟨_, hb.tensorOk hdims hform (getElem?_loadedTensors (List.getElem?_eq_getElem hi))⟩

/-- The 64 name bytes. -/
theorem nameField_eq {i : ℕ} {t : PyTensor} (hi : tensors[i]? = some t) : nameField bytes i = namePadded t.name := by
  obtain ⟨d, hd, hdesc⟩ := hb.descriptors i t hi
  obtain ⟨hname, h⟩ := rejectIf_bind_eq_ok.mp hdesc
  obtain ⟨fields, -, h⟩ := bind_eq_ok.mp h
  have hwhole := hb.slice_descriptors hd
  rw [← Except.ok.inj h] at hwhole
  unfold nameField
  rw [hb.descAt_eq, ← Nat.add_zero (descOffset + i * modelTensorDescSize),
    ← slice_slice (show 0 + modelNameSize ≤ modelTensorDescSize by decide), hwhole]
  exact slice_append_head (length_namePadded (not_le.mp hname).le)

theorem padded_iff {i : ℕ} {t : PyTensor} {name : List UInt8} (hi : tensors[i]? = some t) (hname : AsciiName name) :
    Padded bytes i name ↔ t.name = name := by
  unfold Padded
  rw [hb.nameField_eq hi]
  constructor
  · exact namePadded_inj (hb.name_ne_zero hi) fun b hb => (hname b hb).1
  · rintro rfl
    rfl

/-- The reader's tensor of descriptor `i`. -/
theorem pyTensor_eq {i : ℕ} {t : PyTensor} (hrank : t.shape.length ≤ modelMaxDims) (hi : tensors[i]? = some t) :
    pyTensor bytes i = emittedTensor t := by
  have hparse := hb.parseTensor_eq hi
  rw [← hb.descAt_eq] at hparse
  have hdtype : readU32 bytes (descAt bytes i + 64) = t.dtype := congrArg ModelTensor.dtype hparse
  have hndims : readU32 bytes (descAt bytes i + 68) = t.shape.length := congrArg ModelTensor.ndims hparse
  have hoffset : readU64 bytes (descAt bytes i + 104) = blockStart (payloads tensors) i :=
    congrArg ModelTensor.offset hparse
  have hnbytes : readU64 bytes (descAt bytes i + 112) = t.data.length := congrArg ModelTensor.nbytes hparse
  have hflags : readU32 bytes (descAt bytes i + 120) = 0 := congrArg ModelTensor.shardId hparse
  have hshape : (List.range t.shape.length).map (fun j => readU64 bytes (descAt bytes i + 72 + j * 8)) = t.shape := by
    refine List.ext_getElem (by simp) fun j h₁ h₂ => ?_
    have hdim := congrFun (congrArg ModelTensor.shape hparse) ⟨j, by unfold modelMaxDims at hrank; omega⟩
    rw [List.getElem_map, List.getElem_range, Nat.add_assoc]
    refine hdim.trans ?_
    show (padShape t.shape).getD j 0 = t.shape[j]
    unfold padShape
    rw [List.getD_eq_getElem?_getD, List.getElem?_append_left h₂, List.getElem?_eq_getElem h₂, Option.getD_some]
  have hname : decodeAscii (rstripNul (nameField bytes i)) = pyName t.name := by
    have hascii := asciiName_of_mem_planNames (List.mem_of_getElem? (hb.planName hi))
    rw [hb.nameField_eq hi]
    unfold namePadded
    rw [rstripNul_append_replicate hascii, decodeAscii_eq_pyName hascii]
  unfold pyTensor tensorAt emittedTensor
  rw [Att1Tensor.mk.injEq, hndims, hnbytes, hoffset, hb.headerFields_eq]
  exact ⟨hname, hdtype, rfl, hshape, hb.payload_eq hi, hflags⟩

/-- **The reader** accepts the file. -/
theorem readAtt1Model_eq (hdims : NonzeroDims att1) (hform : ∀ t ∈ tensors, DefaultForm t) :
    readAtt1Model bytes = .ok (pyModel bytes) := readAtt1Model_eq_ok (hb.tableOk hdims hform)

/-- Every tensor is found under its name. -/
theorem findTensor_pyModel (hdims : NonzeroDims att1) (hform : ∀ t ∈ tensors, DefaultForm t) {i : ℕ} {t : PyTensor}
    (hi : tensors[i]? = some t) : (pyModel bytes).findTensor (pyName t.name) = some (emittedTensor t) := by
  have hascii := asciiName_of_mem_planNames (List.mem_of_getElem? (hb.planName hi))
  have hlt := (List.getElem?_eq_some_iff.mp hi).1
  rw [pyFindTensor_iff (hb.tableOk hdims hform) hascii, hb.tensorCount_eq]
  refine ⟨i, hlt, (hb.pyTensor_eq (hb.rank_le hdims hi) hi).symm, (hb.padded_iff hi hascii).mpr rfl, fun k hk hlater => ?_⟩
  rw [hb.tensorCount_eq] at hk
  rw [hb.padded_iff (List.getElem?_eq_getElem hk) hascii]
  intro hname
  -- two places of the plan have one name
  have hk' := hb.planName (List.getElem?_eq_getElem hk)
  rw [hname] at hk'
  have hinside := (List.getElem?_eq_some_iff.mp hk').1
  have heq := (List.getElem?_inj hinside (nodup_planNames _)).mp (hk'.trans (hb.planName hi).symm)
  omega

end Built

end Att1.Converter
