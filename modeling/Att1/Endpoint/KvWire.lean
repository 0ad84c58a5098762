import Att1.Endpoint.Client

/-!
# Att1.Endpoint.KvWire — keys and values in a request or response payload

* `floatsAt_floatBytes`: a float array survives the way through its bytes.
* `storeWrites_spec`: what a range copy leaves in a response payload, and in the buffers of a direct caller.
-/

open Att1.Lib

namespace Att1.Endpoint

variable {bytes bytes' dst src : ℕ → UInt8} {floats : ℕ → UInt32} {off base i n : ℕ}

/-! ### Floats and their bytes -/

theorem readBlock_floatBytes (floats : ℕ → UInt32) (i : ℕ) :
    readBlock (floatBytes floats) (i * KvMmu.floatSize) KvMmu.floatSize =
      leBytes KvMmu.floatSize (floats i).toNat := by
  have hcell : ∀ j < 4, floatBytes floats (i * 4 + j) = UInt8.ofNat ((floats i).toNat / 256 ^ j) := by
    intro j hj
    unfold floatBytes KvMmu.floatSize
    rw [show (i * 4 + j) / 4 = i by omega, show (i * 4 + j) % 4 = j by omega]
  show [floatBytes floats (i * 4 + 0), floatBytes floats (i * 4 + 1), floatBytes floats (i * 4 + 2),
    floatBytes floats (i * 4 + 3)] = [_, _, _, _]
  rw [hcell 0 (by omega), hcell 1 (by omega), hcell 2 (by omega), hcell 3 (by omega)]
  simp only [Nat.div_div_eq_div_mul, pow_zero, Nat.div_one, List.cons.injEq, and_true]
  exact ⟨trivial, rfl, rfl, rfl⟩

theorem floatsAt_congr (h : readBlock bytes (off + i * KvMmu.floatSize) KvMmu.floatSize =
    readBlock bytes' (base + n * KvMmu.floatSize) KvMmu.floatSize) :
    floatsAt bytes off i = floatsAt bytes' base n := by
  unfold floatsAt
  rw [h]

theorem floatsAt_floatBytes (floats : ℕ → UInt32) (i : ℕ) : floatsAt (floatBytes floats) 0 i = floats i := by
  have hlt : (floats i).toNat < 256 ^ KvMmu.floatSize := (floats i).toNat_lt
  unfold floatsAt
  rw [Nat.zero_add, readBlock_floatBytes, leValue_leBytes hlt, UInt32.ofNat_toNat]

theorem floatsAt_zero (off i : ℕ) : floatsAt (fun _ => 0) off i = 0 := rfl

/-- A float inside a copied array. -/
theorem floatsAt_copyInto (dst : ℕ → UInt8) (floats : ℕ → UInt32) (base o n : ℕ) (hi : i < n) :
    floatsAt (copyInto dst (base + o * KvMmu.floatSize) (floatBytes floats) 0 (n * KvMmu.floatSize)) base (o + i) =
      floats i := by
  refine Eq.trans ?_ (floatsAt_floatBytes floats i)
  apply floatsAt_congr
  have hin : i * KvMmu.floatSize + KvMmu.floatSize ≤ n * KvMmu.floatSize :=
    calc i * KvMmu.floatSize + KvMmu.floatSize = (i + 1) * KvMmu.floatSize := (Nat.succ_mul _ _).symm
      _ ≤ n * KvMmu.floatSize := Nat.mul_le_mul_right _ hi
  have hsub := readBlock_copyInto_sub dst (base + o * KvMmu.floatSize) (floatBytes floats) 0 _ hin
  rwa [Nat.add_assoc, ← Nat.add_mul] at hsub

/-- A float outside of it. -/
theorem floatsAt_copyInto_of_disjoint (dst src : ℕ → UInt8) {doff n : ℕ}
    (h : base + (i + 1) * KvMmu.floatSize ≤ doff ∨ doff + n ≤ base + i * KvMmu.floatSize) :
    floatsAt (copyInto dst doff src 0 n) base i = floatsAt dst base i := by
  apply floatsAt_congr
  apply readBlock_copyInto_of_disjoint
  rw [Nat.succ_mul] at h
  omega

/-! ### Requests -/

theorem streamBytes_mod (count : ℕ) : streamBytes count % KvMmu.floatSize = 0 := by
  unfold streamBytes sizeT KvMmu.floatSize
  omega

theorem streamBytes_eq (count : ℕ) : streamBytes count / KvMmu.floatSize * KvMmu.floatSize = streamBytes count :=
  Nat.div_mul_cancel (Nat.dvd_of_mod_eq_zero (streamBytes_mod count))

theorem streamsFit_iff {keyCount valueCount : ℕ} : streamsFit keyCount valueCount = true ↔
    streamBytes keyCount ≤ halfPayload ∧ streamBytes valueCount ≤ halfPayload := by
  unfold streamsFit
  rw [Bool.and_eq_true, decide_eq_true_iff, decide_eq_true_iff]

theorem uint32_of_le_halfPayload (h : n ≤ halfPayload) : uint32 n = n := by
  unfold halfPayload maxPayload at h
  apply uint32_eq
  unfold uint32Max
  omega

/-- The floats of a stream put over zeros. -/
theorem floatsAt_copyInto_stream (dst : ℕ → UInt8) (floats : ℕ → UInt32) (off count : ℕ)
    (hzero : floatsAt dst off i = 0) :
    floatsAt (copyInto dst off (floatBytes floats) 0 (streamBytes count)) off i =
      if i < streamBytes count / KvMmu.floatSize then floats i else 0 := by
  rw [← streamBytes_eq count, Nat.mul_div_cancel _ (by decide : 0 < KvMmu.floatSize)]
  split_ifs with h
  · have hin := floatsAt_copyInto dst floats off 0 _ h
    rwa [Nat.zero_mul, Nat.add_zero, Nat.zero_add] at hin
  · refine Eq.trans ?_ hzero
    apply floatsAt_copyInto_of_disjoint
    right
    exact Nat.add_le_add_left (Nat.mul_le_mul_right _ (not_lt.mp h)) _

/-- The keys the daemon finds in a request: the floats sent, and zeros behind them. -/
theorem floatsAt_requestFloats_key (key : ℕ → UInt32) (value : Option (ℕ → UInt32)) (keyCount valueBytes : ℕ)
    (hi : (i + 1) * KvMmu.floatSize ≤ halfPayload) :
    floatsAt (requestFloats (some key) (streamBytes keyCount) value valueBytes) 0 i =
      if i < streamBytes keyCount / KvMmu.floatSize then key i else 0 := by
  have hkey := floatsAt_copyInto_stream (fun _ => 0) key 0 keyCount (floatsAt_zero 0 i)
  unfold requestFloats
  cases value with
  | none => exact hkey
  | some value =>
    refine Eq.trans ?_ hkey
    apply floatsAt_copyInto_of_disjoint
    left
    rwa [Nat.zero_add]

/-- The values it finds. -/
theorem floatsAt_requestFloats_value (key : Option (ℕ → UInt32)) (value : ℕ → UInt32) {keyCount : ℕ}
    (valueCount : ℕ) (hkey : streamBytes keyCount ≤ halfPayload) :
    floatsAt (requestFloats key (streamBytes keyCount) (some value) (streamBytes valueCount)) halfPayload i =
      if i < streamBytes valueCount / KvMmu.floatSize then value i else 0 := by
  unfold requestFloats
  cases key with
  | none => exact floatsAt_copyInto_stream _ value halfPayload valueCount (floatsAt_zero halfPayload i)
  | some key =>
    apply floatsAt_copyInto_stream
    refine Eq.trans ?_ (floatsAt_zero halfPayload i)
    apply floatsAt_copyInto_of_disjoint
    omega

/-! ### Results -/

/-- A list stored in a caller's array. -/
def storeArray (array : ℕ → UInt32) (off : ℕ) (floats : List UInt32) : ℕ → UInt32 :=
  copyInto array off (fun i => floats.getD i 0) 0 floats.length

/-- Lists stored at their offsets, in order. -/
def storeBlocks (array : ℕ → UInt32) (blocks : List (ℕ × List UInt32)) : ℕ → UInt32 :=
  blocks.foldl (fun array block => storeArray array block.1 block.2) array

/-- The keys that a range copy stores. -/
def keyBlocks (writes : List (KvRangeWrite UInt32)) : List (ℕ × List UInt32) :=
  writes.map fun write => (write.offset, write.slice.key.getD [])

/-- The values. -/
def valueBlocks (writes : List (KvRangeWrite UInt32)) : List (ℕ × List UInt32) :=
  writes.map fun write => (write.offset, write.slice.value.getD [])

/-- One of the lists is stored over cell `i`. -/
def Covered (blocks : List (ℕ × List UInt32)) (i : ℕ) : Prop :=
  ∃ block ∈ blocks, block.1 ≤ i ∧ i < block.1 + block.2.length

theorem storeArray_congr {array array' : ℕ → UInt32} (o : ℕ) (list : List UInt32) (h : array i = array' i) :
    storeArray array o list i = storeArray array' o list i := by
  unfold storeArray copyInto
  rw [h]

theorem storeBlocks_congr {array array' : ℕ → UInt32} (blocks : List (ℕ × List UInt32))
    (h : array i = array' i) : storeBlocks array blocks i = storeBlocks array' blocks i := by
  induction blocks generalizing array array' with
  | nil => exact h
  | cons block rest ih => exact ih (storeArray_congr _ _ h)

/-- Over a covered cell it does not matter what was there before. -/
theorem storeBlocks_covered {blocks : List (ℕ × List UInt32)} (array array' : ℕ → UInt32)
    (h : Covered blocks i) : storeBlocks array blocks i = storeBlocks array' blocks i := by
  induction blocks generalizing array array' with
  | nil =>
    obtain ⟨_, hmem, -⟩ := h
    exact absurd hmem List.not_mem_nil
  | cons block rest ih =>
    by_cases hrest : Covered rest i
    · exact ih _ _ hrest
    · apply storeBlocks_congr rest
      obtain ⟨b, hmem, hb⟩ := h
      rcases List.mem_cons.mp hmem with rfl | hin
      · show storeArray array b.1 b.2 i = storeArray array' b.1 b.2 i
        unfold storeArray copyInto
        rw [if_pos hb, if_pos hb]
      · exact absurd ⟨b, hin, hb⟩ hrest

theorem storeBlocks_uncovered {blocks : List (ℕ × List UInt32)} (array : ℕ → UInt32) (h : ¬ Covered blocks i) :
    storeBlocks array blocks i = array i := by
  induction blocks generalizing array with
  | nil => rfl
  | cons block rest ih =>
    have hrest : ¬ Covered rest i := fun ⟨b, hin, hb⟩ => h ⟨b, List.mem_cons_of_mem _ hin, hb⟩
    refine (ih _ hrest).trans ?_
    show storeArray array block.1 block.2 i = array i
    unfold storeArray copyInto
    rw [if_neg fun hb => h ⟨block, List.mem_cons_self, hb⟩]

/-- The same store, seen as floats and as bytes. -/
theorem storeFloats_spec (payload : ℕ → UInt8) (base o : ℕ) (floats : List UInt32)
    (hfit : base + (o + floats.length) * KvMmu.floatSize ≤ maxPayload) :
    ∃ payload', storeFloats payload (base + o * KvMmu.floatSize) floats = some payload' ∧
      (∀ i, floatsAt payload' base i = storeArray (floatsAt payload base) o floats i) ∧
      ∀ other i, other + (i + 1) * KvMmu.floatSize ≤ base ∨
          base + (o + floats.length) * KvMmu.floatSize ≤ other →
        floatsAt payload' other i = floatsAt payload other i := by
  rw [Nat.add_mul, ← Nat.add_assoc] at hfit
  refine ⟨_, if_pos (Or.inr hfit), fun i => ?_, fun other i h => ?_⟩
  · unfold storeArray copyInto
    split_ifs with hi
    · have hin := floatsAt_copyInto payload (fun i => floats.getD i 0) base o floats.length (i := i - o) (by omega)
      rw [Nat.add_sub_cancel' hi.1] at hin
      rw [Nat.zero_add]
      exact hin
    · apply floatsAt_copyInto_of_disjoint
      rw [not_and_or, not_le, not_lt] at hi
      rcases hi with hlt | hge
      · left
        exact Nat.add_le_add_left (Nat.mul_le_mul_right _ hlt) _
      · right
        rw [Nat.add_assoc, ← Nat.add_mul]
        exact Nat.add_le_add_left (Nat.mul_le_mul_right _ hge) _
  · apply floatsAt_copyInto_of_disjoint
    rw [Nat.add_mul o] at h
    omega

/-- A slice at offset `o` stays in its halves. -/
def FitsHalves (o : ℕ) (slice : KvSlice UInt32) : Prop :=
  (o + (slice.key.getD []).length) * KvMmu.floatSize ≤ halfPayload ∧
    (o + (slice.value.getD []).length) * KvMmu.floatSize ≤ halfPayload

theorem storeSlice_spec (payload : ℕ → UInt8) {o : ℕ} {slice : KvSlice UInt32} (hfit : FitsHalves o slice) :
    ∃ payload', storeSlice payload (o * KvMmu.floatSize) slice = some payload' ∧
      (∀ i, (i + 1) * KvMmu.floatSize ≤ halfPayload →
        floatsAt payload' 0 i = storeArray (floatsAt payload 0) o (slice.key.getD []) i) ∧
      ∀ i, floatsAt payload' halfPayload i =
        storeArray (floatsAt payload halfPayload) o (slice.value.getD []) i := by
  obtain ⟨hk, hv⟩ := hfit
  have hmax : halfPayload + halfPayload = maxPayload := rfl
  obtain ⟨p₁, h₁, hkeys, hother⟩ := storeFloats_spec payload 0 o (slice.key.getD []) (by omega)
  obtain ⟨p₂, h₂, hvalues, hother'⟩ := storeFloats_spec p₁ halfPayload o (slice.value.getD []) (by omega)
  rw [Nat.zero_add] at h₁
  refine ⟨p₂, ?_, fun i hi => ?_, fun i => ?_⟩
  · unfold storeSlice
    rw [h₁]
    exact h₂
  · rw [hother' 0 i (Or.inl (by omega)), hkeys]
  · rw [hvalues]
    unfold storeArray copyInto
    split_ifs
    · rfl
    · exact hother halfPayload i (Or.inr (by omega))

/-- A range copy into a response stores in each half what it stores in the array of a direct caller. -/
theorem storeWrites_spec (payload : ℕ → UInt8) {writes : List (KvRangeWrite UInt32)}
    (hfit : ∀ write ∈ writes, FitsHalves write.offset write.slice) :
    ∃ payload', storeWrites payload writes = some payload' ∧
      ∀ i, (i + 1) * KvMmu.floatSize ≤ halfPayload →
        floatsAt payload' 0 i = storeBlocks (floatsAt payload 0) (keyBlocks writes) i ∧
          floatsAt payload' halfPayload i = storeBlocks (floatsAt payload halfPayload) (valueBlocks writes) i := by
  induction writes generalizing payload with
  | nil => exact ⟨payload, rfl, fun _ _ => ⟨rfl, rfl⟩⟩
  | cons write rest ih =>
    obtain ⟨hwrite, hrest⟩ := List.forall_mem_cons.mp hfit
    obtain ⟨p₁, h₁, hkeys, hvalues⟩ := storeSlice_spec payload hwrite
    obtain ⟨p₂, h₂, hboth⟩ := ih p₁ hrest
    refine ⟨p₂, ?_, fun i hi => ?_⟩
    · unfold storeWrites
      rw [h₁]
      exact h₂
    · obtain ⟨hk, hv⟩ := hboth i hi
      rw [hk, hv]
      exact ⟨storeBlocks_congr _ (hkeys i hi), storeBlocks_congr _ (hvalues i)⟩

/-- A caller that asks for exactly the floats that were stored gets what a direct call stores. -/
theorem deliverFloats_eq {payload : ℕ → UInt8} {array zeros : ℕ → UInt32} {blocks : List (ℕ × List UInt32)}
    {count : ℕ} (hcover : ∀ i, Covered blocks i ↔ i < n) (hcount : streamBytes count = n * KvMmu.floatSize)
    (hfit : streamBytes count ≤ halfPayload)
    (hpayload : ∀ i, (i + 1) * KvMmu.floatSize ≤ halfPayload → floatsAt payload off i = storeBlocks zeros blocks i) :
    deliverFloats (some array) payload off count (streamBytes count) = some (storeBlocks array blocks) := by
  unfold deliverFloats
  simp only [lt_irrefl, if_false, if_neg (not_lt.mpr hfit), Option.map_some, Option.some.injEq]
  rw [hcount, Nat.mul_div_cancel _ (by decide : 0 < KvMmu.floatSize)]
  funext i
  unfold copyInto
  split_ifs with hi
  · rw [Nat.zero_add] at hi
    rw [Nat.sub_zero, Nat.zero_add, hpayload i ?_]
    · exact storeBlocks_covered _ _ ((hcover i).mpr hi.2)
    · rw [hcount] at hfit
      exact (Nat.mul_le_mul_right _ hi.2).trans hfit
  · refine (storeBlocks_uncovered _ fun h => hi ⟨Nat.zero_le i, ?_⟩).symm
    rw [Nat.zero_add]
    exact (hcover i).mp h

end Att1.Endpoint
