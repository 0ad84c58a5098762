import Att1.ModelFile.Loader
import Att1.ModelFile.View

/-!
# Att1.ModelFile.Sound — what a loaded model may be trusted for

* `Payload data t`: the payload of `t` lies inside the file, and its size is the exact size of its shape.
* `Within p len t`: the `len` bytes from `p` on lie inside the payload of `t`.
* `load_sound`: for every host and every file, a load that fails leaves nothing, and after a load that succeeds all
  payloads are sound and every q8 or q4 view stays inside the payload it was taken from.
-/

open Att1.Lib

namespace Att1.ModelFile

/-- The fields of a tensor are those of descriptor `i` of the file. -/
def DescribedAt (data : List UInt8) (i : ℕ) (t : ModelTensor) : Prop :=
  { t with data := none } = parseTensor data ((headerFields data).descOffset + i * modelTensorDescSize)

/-- The payload of a tensor is a range of the file, of the size that its shape asks for. -/
structure Payload (data : List UInt8) (t : ModelTensor) : Prop where
  shape : t.ValidShape
  size : t.nbytes = t.exactNbytes
  start : t.data = some ((headerFields data).dataOffset + t.offset)
  inside : (headerFields data).dataOffset + t.offset + t.nbytes ≤ data.length

/-- The bytes `[p, p + len)` lie inside the payload of `t`. -/
def Within (p len : ℕ) (t : ModelTensor) : Prop :=
  ∃ base, t.data = some base ∧ base ≤ p ∧ p + len ≤ base + t.nbytes

/-- The value and scale ranges of a q8 view of `t` lie inside its payload, one after the other. -/
def Q8Within (t : ModelTensor) (m : Q8Matrix) : Prop :=
  ∃ values scales, m.values = some values ∧ m.scales = some scales ∧ values + m.rows * m.cols ≤ scales ∧
    Within values (m.rows * m.cols) t ∧ Within scales (m.rows * sizeofFloat) t

/-- The packed and scale ranges of a q4 view of `t` lie inside its payload, one after the other. -/
def Q4Within (t : ModelTensor) (m : Q4Matrix) : Prop :=
  ∃ packed scales, m.packed = some packed ∧ m.scales = some scales ∧ packed + m.rows * (m.cols / 2) ≤ scales ∧
    Within packed (m.rows * (m.cols / 2)) t ∧ Within scales (m.rows * (m.cols / m.groupSize) * sizeofFloat) t

section Loaded

variable {host : Host} {data : List UInt8} {m : Model} {t : ModelTensor}

theorem Loaded.payload (hl : Loaded host data m) (ht : t ∈ m.tensors) : Payload data t := by
  obtain ⟨i, hi⟩ := List.mem_iff_getElem?.mp ht
  have hok := hl.tensors i t hi
  have hrange := hok.payload
  have hfile := hl.header.payload
  exact ⟨hok.shape, hok.nbytes, hok.data_eq, by omega⟩

/-- The element count of a loaded tensor is a 64-bit number. -/
theorem Loaded.elements (hl : Loaded host data m) (ht : t ∈ m.tensors) : t.dims.prod ≤ sizeMax := by
  obtain ⟨i, hi⟩ := List.mem_iff_getElem?.mp ht
  exact (hl.tensors i t hi).elements

theorem Loaded.viewTensorQ8 (hl : Loaded host data m) {name : List UInt8} {rows cols : ℕ} {out : Q8Matrix}
    (hview : viewTensorQ8 m name rows cols = .ok out) :
    ∃ t ∈ m.tensors, findTensor m name = some t ∧ Q8Within t out := by
  obtain ⟨-, t, hfind, hshape, rfl⟩ := viewTensorQ8_eq_ok.mp hview
  obtain ⟨hdtype, hndims, rfl, rfl⟩ := tensorIsQ8Shape_iff.mp hshape
  have ht := (findTensor_some hfind).1
  obtain ⟨-, hsize, hstart, -⟩ := hl.payload ht
  have helements := hl.elements ht
  rw [ModelTensor.prod_dims_of_two hndims] at helements
  have hnbytes := hsize.trans (ModelTensor.exactNbytes_q8 hdtype)
  refine ⟨t, ht, hfind, _, _, hstart, ?_, le_rfl, ⟨_, hstart, le_rfl, ?_⟩, ⟨_, hstart, ?_, ?_⟩⟩
  · rw [hstart, Option.map_some, sizeT_eq helements]
  · dsimp only
    omega
  · omega
  · dsimp only [sizeofFloat]
    omega

theorem Loaded.viewTensorQ4 (hl : Loaded host data m) {name : List UInt8} {rows cols : ℕ} {out : Q4Matrix}
    (hview : viewTensorQ4 m name rows cols = .ok out) :
    ∃ t ∈ m.tensors, findTensor m name = some t ∧ Q4Within t out := by
  obtain ⟨-, t, hfind, hshape, rfl⟩ := viewTensorQ4_eq_ok.mp hview
  obtain ⟨hdtype, hndims, rfl, rfl⟩ := tensorIsQ4Shape_iff.mp hshape
  have ht := (findTensor_some hfind).1
  obtain ⟨hvalid, hsize, hstart, -⟩ := hl.payload ht
  have helements := hl.elements ht
  rw [ModelTensor.prod_dims_of_two hndims] at helements
  have hnbytes := hsize.trans (ModelTensor.exactNbytes_q4 hdtype)
  -- the loader halves the columns, the view halves the product
  have hhalf : t.shape 0 * (t.shape 1 / 2) = t.shape 0 * t.shape 1 / 2 := by
    have heven := (hvalid.q4Shape hdtype).even
    exact (Nat.mul_div_assoc _ (Nat.dvd_of_mod_eq_zero heven)).symm
  refine ⟨t, ht, hfind, _, _, hstart, ?_, le_rfl, ⟨_, hstart, le_rfl, ?_⟩, ⟨_, hstart, ?_, ?_⟩⟩
  · rw [hstart, Option.map_some, sizeT_eq helements, hhalf]
  · dsimp only
    omega
  · omega
  · dsimp only [sizeofFloat]
    omega

end Loaded

/-- **Loader soundness**, for every byte string and every behaviour of the allocator. -/
theorem load_sound (host : Host) (file : Option (List UInt8)) :
    ((load host file).status ≠ .ok → (load host file).model = {} ∧ (load host file).live = []) ∧
    ((load host file).status = .ok → ∃ data, file = some data ∧
      (load host file).model.tensors.length = (headerFields data).tensorCount ∧
      (∀ i t, (load host file).model.tensors[i]? = some t → DescribedAt data i t ∧ Payload data t) ∧
      (∀ name rows cols out, viewTensorQ8 (load host file).model name rows cols = .ok out →
        ∃ t ∈ (load host file).model.tensors, findTensor (load host file).model name = some t ∧ Q8Within t out) ∧
      (∀ name rows cols out, viewTensorQ4 (load host file).model name rows cols = .ok out →
        ∃ t ∈ (load host file).model.tensors, findTensor (load host file).model name = some t ∧ Q4Within t out)) := by
  obtain ⟨status, hne, heq⟩ | ⟨data, m, live, hfile, hl, heq⟩ := load_cases host file
  · rw [heq]
    exact ⟨fun _ => ⟨rfl, rfl⟩, fun h => absurd h hne⟩
  · rw [heq]
    exact ⟨fun h => absurd rfl h, fun _ => ⟨data, hfile, hl.length,
      fun i t hi => ⟨(hl.tensors i t hi).read, hl.payload (List.mem_of_getElem? hi)⟩,
      fun _ _ _ _ hview => hl.viewTensorQ8 hview, fun _ _ _ _ hview => hl.viewTensorQ4 hview⟩⟩

/-- A version-1 file with one q8 tensor `a` of shape 1 × 2 and one q4 tensor `b` of shape 1 × 16, group size 16 and
the given shard id. -/
def sampleFile (shardId : ℕ) : List UInt8 :=
  modelMagic ++ leBytes 4 1 ++ leBytes 4 80 ++
    [80, 36, 116, 2, 372, 18, 0, 0].flatMap (leBytes 8) ++ leBytes 36 0 ++
    (0x61 :: leBytes 63 0) ++ leBytes 4 2 ++ leBytes 4 2 ++ [1, 2, 0, 0, 0, 6].flatMap (leBytes 8) ++ leBytes 8 0 ++
    (0x62 :: leBytes 63 0) ++ leBytes 4 3 ++ leBytes 4 2 ++ [1, 16, 0, 0, 6, 12].flatMap (leBytes 8) ++
    leBytes 4 shardId ++ leBytes 4 16 ++ leBytes 18 0

/-- In the sample file the q4 view of `b` starts behind the payload of `a` and ends with the file. -/
theorem load_sound_sampleFile :
    (load Host.generous (some (sampleFile 0))).status = .ok ∧
    ∃ t ∈ (load Host.generous (some (sampleFile 0))).model.tensors,
      findTensor (load Host.generous (some (sampleFile 0))).model (ascii "b") = some t ∧
        Q4Within t ⟨1, 16, 16, some 378, some 386⟩ := by
  have hok : (load Host.generous (some (sampleFile 0))).status = .ok := by decide +kernel
  obtain ⟨-, -, -, -, -, hq4⟩ := (load_sound Host.generous (some (sampleFile 0))).2 hok
  exact ⟨hok, hq4 (ascii "b") 1 16 ⟨1, 16, 16, some 378, some 386⟩ (by decide +kernel)⟩

end Att1.ModelFile
