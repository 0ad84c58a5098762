import Att1.Cmdq.Service
import Att1.Lib.Bytes
import Att1.Lib.Crc

/-!
# Att1.Cmdq.Checksum — what the checksum of the command queue is, and what it protects

* `crc32Iso`: CRC-32/ISO-HDLC, bit by bit.  `crc32_update` says it computes this, by a table.
* `faultyEntries`: the 89 entries of that table that are not the reduction of their index: six mistyped words, and
  all from index 173 on, where words are left out and the initialiser ends 76 short of the declared 256.
* `HostField`: the fields of a descriptor that the host fills in, with their offsets in `att1_aimu_cmd`.  The
  checksum field is at offset 40, so what comes after it is not summed.
* `crc32Update_iso_iff`, `checksum_differs_iff`: when the checksum is that of the standard, and when it tells two
  commands apart that differ in one bit.
-/

open Att1.Lib

namespace Att1

/-! ### The standard -/

/-- The reflected polynomial. -/
def isoPoly : BitVec 32 := 0xEDB88320#32

def isoInit : BitVec 32 := BitVec.allOnes 32

def byteVecs (data : List UInt8) : List (BitVec 8) := data.map UInt8.toBitVec

/-- CRC-32/ISO-HDLC. -/
def crc32Iso (data : List UInt8) : UInt32 := ⟨crc isoPoly isoInit (BitVec.allOnes 32) (byteVecs data)⟩

/-- The eight-step reduction of a table index. -/
def isoEntry (index : ℕ) : UInt32 := ⟨crcReduce isoPoly 8 (BitVec.ofNat 32 index)⟩

-- The check value of the standard, for the digits from 1 to 9.
example : crc32Iso (ascii "123456789") = 0xCBF43926 := by decide +kernel

/-! ### The table -/

/-- The indices at which the table is wrong. -/
def faultyEntries : List ℕ := [10, 13, 14, 15, 52, 76] ++ List.range' 173 83

theorem crcEntry_eq_iff {i : ℕ} (h : i < 256) : crcEntry i = isoEntry i ↔ i ∉ faultyEntries := by
  have hall : ∀ i ∈ List.range 256, crcEntry i = isoEntry i ↔ i ∉ faultyEntries := by decide +kernel
  exact hall i (List.mem_range.mpr h)

/-- The table as a function of a byte. -/
def tableWord (i : BitVec 8) : BitVec 32 := (crcEntry i.toNat).toBitVec

theorem tableWord_eq_iff (i : BitVec 8) : tableWord i = reducedByte isoPoly i ↔ i.toNat ∉ faultyEntries := by
  have hentry : (isoEntry i.toNat).toBitVec = reducedByte isoPoly i := by
    unfold isoEntry reducedByte
    rw [BitVec.ofNat_toNat]
  rw [← crcEntry_eq_iff i.isLt, ← UInt32.toBitVec_inj, hentry]
  rfl

theorem crc32Byte_toBitVec (c : UInt32) (byte : UInt8) :
    (crc32Byte c byte).toBitVec = tableStep tableWord c.toBitVec byte.toBitVec := by
  have hindex : ((c ^^^ byte.toUInt32) &&& 0xFF).toNat = (c.toBitVec.setWidth 8 ^^^ byte.toBitVec).toNat := by
    have h255 : (255 : ℕ) = 2 ^ 8 - 1 := rfl
    have hc : c.toBitVec.toNat = c.toNat := rfl
    have hb : byte.toBitVec.toNat = byte.toNat := rfl
    have hlt := byte.toNat_lt
    rw [UInt32.toNat_and, UInt32.toNat_xor, UInt8.toNat_toUInt32, BitVec.toNat_xor, BitVec.toNat_setWidth, hc, hb]
    show (c.toNat ^^^ byte.toNat) &&& 255 = _
    rw [h255, Nat.and_two_pow_sub_one_eq_mod, Nat.xor_mod_two_pow, Nat.mod_eq_of_lt hlt]
  unfold crc32Byte tableStep tableWord
  rw [UInt32.toBitVec_xor, hindex]
  rfl

theorem foldl_crc32Byte (c : UInt32) (data : List UInt8) :
    (data.foldl crc32Byte c).toBitVec = (byteVecs data).foldl (tableStep tableWord) c.toBitVec := by
  induction data generalizing c with
  | nil => rfl
  | cons byte data ih =>
    rw [List.foldl_cons, ih, crc32Byte_toBitVec]
    rfl

/-- The error that the faulty entries leave in the register. -/
def isoError (data : List UInt8) : BitVec 32 := lookupError isoPoly tableWord isoInit 0#32 (byteVecs data)

/-- The table indices that the bytes look up, at the register of the standard. -/
def isoLookups (data : List UInt8) : List ℕ := (lookups isoPoly isoInit (byteVecs data)).map BitVec.toNat

theorem crc32Update_toBitVec (data : List UInt8) :
    (crc32Update 0 data).toBitVec = (byteVecs data).foldl (tableStep tableWord) isoInit ^^^ BitVec.allOnes 32 := by
  unfold crc32Update
  rw [UInt32.toBitVec_xor, foldl_crc32Byte]
  rfl

/-- The checksum is that of the standard, off by the error of the table. -/
theorem crc32Update_eq_xor (data : List UInt8) :
    (crc32Update 0 data).toBitVec = (crc32Iso data).toBitVec ^^^ isoError data := by
  have hfold := @foldl_tableStep 32 isoPoly tableWord isoInit 0#32 (byteVecs data)
  rw [BitVec.xor_zero] at hfold
  rw [crc32Update_toBitVec, hfold, BitVec.xor_assoc, BitVec.xor_comm (lookupError _ _ _ _ _), ← BitVec.xor_assoc]
  rfl

theorem isoError_eq_zero {data : List UInt8} (h : ∀ i ∈ isoLookups data, i ∉ faultyEntries) : isoError data = 0#32 := by
  refine lookupError_eq_zero _ fun i hi => (tableWord_eq_iff i).mpr ?_
  exact h i.toNat (List.mem_map_of_mem hi)

theorem prefixes_iso_iff (data : List UInt8) :
    (∀ p, p <+: data → crc32Update 0 p = crc32Iso p) ↔ ∀ i ∈ isoLookups data, i ∉ faultyEntries := by
  have heq (p : List UInt8) : crc32Update 0 p = crc32Iso p ↔
      (byteVecs p).foldl (tableStep tableWord) isoInit = crcRegister isoPoly isoInit (byteVecs p) := by
    rw [← UInt32.toBitVec_inj, crc32Update_toBitVec]
    exact BitVec.xor_left_inj _
  have htable := @table_prefix_iff 32 isoPoly tableWord isoInit (byteVecs data)
  constructor
  · intro h i hi
    obtain ⟨v, hv, rfl⟩ := List.mem_map.mp hi
    refine (tableWord_eq_iff v).mp (htable.mp (fun p hp => ?_) v hv)
    have hp' : p = byteVecs (data.take p.length) := by
      unfold byteVecs
      rw [List.map_take]
      exact List.prefix_iff_eq_take.mp hp
    rw [hp']
    exact (heq _).mp (h _ (List.take_prefix _ _))
  · intro h p hp
    refine (heq p).mpr (htable.mpr (fun i hi => ?_) _ (hp.map _))
    exact (tableWord_eq_iff i).mpr (h i.toNat (List.mem_map_of_mem hi))

/-- **Where `crc32_update` is CRC-32/ISO-HDLC.**  An entry of the table is the reduction of its index unless it is
one of the faulty ones; a string and all its prefixes get their CRC iff no byte looks up one of these; and the
string itself does iff the errors of those lookups cancel. -/
theorem crc32Update_iso_iff (data : List UInt8) :
    (∀ i < 256, crcEntry i = isoEntry i ↔ i ∉ faultyEntries) ∧
      ((∀ p, p <+: data → crc32Update 0 p = crc32Iso p) ↔ ∀ i ∈ isoLookups data, i ∉ faultyEntries) ∧
        (crc32Update 0 data = crc32Iso data ↔ isoError data = 0#32) := by
  refine ⟨fun i => crcEntry_eq_iff, prefixes_iso_iff data, ?_⟩
  rw [← UInt32.toBitVec_inj, crc32Update_eq_xor]
  constructor
  · intro h
    rw [← BitVec.xor_right_inj (crc32Iso data).toBitVec, h, BitVec.xor_zero]
  · intro h
    rw [h, BitVec.xor_zero]

/-- The one-byte string `F5` looks up entry 10, which is mistyped. -/
theorem crc32Update_not_iso : crc32Update 0 [0xF5] ≠ crc32Iso [0xF5] ∧ crcEntry 10 ≠ isoEntry 10 := by
  decide +kernel

/-! ### What the checksum protects -/

/-- The fields of a descriptor that the host writes. -/
inductive HostField
  | inputBufAddr
  | outputBufAddr
  | inputBufBytes
  | outputBufBytes
  | kvPosition
  | opParam0
  | opParam1
  | modelId
  | tensorId
  | fenceId
  | completionFenceId
  | timeoutMs
  | commandType
  | tileId
  | sessionId
  | dtype
  | traceFlags
  | priority
  deriving DecidableEq, Repr

namespace HostField

/-- The number in the field. -/
def read (cmd : AimuCmd) : HostField → ℕ
  | inputBufAddr => cmd.inputBufAddr.toNat
  | outputBufAddr => cmd.outputBufAddr.toNat
  | inputBufBytes => cmd.inputBufBytes.toNat
  | outputBufBytes => cmd.outputBufBytes.toNat
  | kvPosition => cmd.kvPosition.toNat
  | opParam0 => cmd.opParam0.toNat
  | opParam1 => cmd.opParam1.toNat
  | modelId => cmd.modelId.toNat
  | tensorId => cmd.tensorId.toNat
  | fenceId => cmd.fenceId.toNat
  | completionFenceId => cmd.completionFenceId.toNat
  | timeoutMs => cmd.timeoutMs.toNat
  | commandType => cmd.commandType.toNat
  | tileId => cmd.tileId.toNat
  | sessionId => cmd.sessionId.toNat
  | dtype => cmd.dtype.toNat
  | traceFlags => cmd.traceFlags.toNat
  | priority => cmd.priority.toNat

/-- Its offset in `att1_aimu_cmd`. -/
def offset : HostField → ℕ
  | inputBufAddr => 0
  | outputBufAddr => 8
  | inputBufBytes => 20
  | outputBufBytes => 24
  | kvPosition => 28
  | opParam0 => 32
  | opParam1 => 36
  | modelId => 44
  | tensorId => 46
  | fenceId => 48
  | completionFenceId => 50
  | timeoutMs => 52
  | commandType => 54
  | tileId => 55
  | sessionId => 56
  | dtype => 57
  | traceFlags => 58
  | priority => 59

end HostField

/-- `offsetof(att1_aimu_cmd, checksum)`. -/
def checksumOffset : ℕ := 40

/-- Two commands differ in bit `bit` of the field and in nothing else the host writes. -/
structure DifferInBit (field : HostField) (bit : ℕ) (cmd cmd' : AimuCmd) : Prop where
  flip : field.read cmd' = field.read cmd ^^^ 2 ^ bit
  same : ∀ other ≠ field, other.read cmd' = other.read cmd

namespace Cmdq

variable {Ctx : Type} {q q' r r' : Cmdq Ctx} {cmd cmd' c c' : AimuCmd} {field : HostField} {bit : ℕ}

/-- The fields before the checksum with their widths; the one that is no host field is the command id. -/
def checksummedSlots : List (ℕ × Option HostField) :=
  [(8, some .inputBufAddr), (8, some .outputBufAddr), (4, none), (4, some .inputBufBytes), (4, some .outputBufBytes),
    (4, some .kvPosition), (4, some .opParam0), (4, some .opParam1)]

def slotValue (cmd : AimuCmd) : Option HostField → ℕ
  | none => cmd.commandId.toNat
  | some field => field.read cmd

def checksummedFields (cmd : AimuCmd) : List (ℕ × ℕ) :=
  checksummedSlots.map fun slot => (slot.1, slotValue cmd slot.2)

theorem checksummedBytes_eq (cmd : AimuCmd) : checksummedBytes cmd = packFields (checksummedFields cmd) := by
  have hbytes (w n : ℕ) : ((List.range w).map fun i => UInt8.ofNat (n / 256 ^ i)) = leBytes w n := by
    induction w generalizing n with
    | zero => rfl
    | succ w ih =>
      rw [List.range_succ_eq_map, List.map_cons, List.map_map, leBytes, ← ih]
      simp [Function.comp_def, pow_succ', Nat.div_div_eq_div_mul]
  unfold checksummedBytes
  simp only [hbytes]
  simp [checksummedFields, checksummedSlots, slotValue, packFields, HostField.read]

theorem length_checksummedBytes (cmd : AimuCmd) : (checksummedBytes cmd).length = checksumOffset := by
  rw [checksummedBytes_eq, length_packFields]
  rfl

theorem slotValue_lt {slot : ℕ × Option HostField} (h : slot ∈ checksummedSlots) (cmd : AimuCmd) :
    slotValue cmd slot.2 < 256 ^ slot.1 := by
  simp only [checksummedSlots, List.mem_cons, List.not_mem_nil, or_false] at h
  obtain rfl | rfl | rfl | rfl | rfl | rfl | rfl | rfl := h
  · exact cmd.inputBufAddr.toNat_lt
  · exact cmd.outputBufAddr.toNat_lt
  · exact cmd.commandId.toNat_lt
  · exact cmd.inputBufBytes.toNat_lt
  · exact cmd.outputBufBytes.toNat_lt
  · exact cmd.kvPosition.toNat_lt
  · exact cmd.opParam0.toNat_lt
  · exact cmd.opParam1.toNat_lt

/-- A field before the checksum is one of the summed ones. -/
theorem checksummedSlots_split (h : field.offset < checksumOffset) : ∃ pre width post,
    checksummedSlots = pre ++ (width, some field) :: post ∧ (pre.map Prod.fst).sum = field.offset ∧
      ∀ slot ∈ pre ++ post, slot.2 ≠ some field := by
  have split (i : ℕ) (hi : i < 8) (hf : (checksummedSlots.get ⟨i, hi⟩).2 = some field)
      (hsum : ((checksummedSlots.take i).map Prod.fst).sum = field.offset)
      (hother : ∀ slot ∈ checksummedSlots.take i ++ checksummedSlots.drop (i + 1), slot.2 ≠ some field) :
      ∃ pre width post, checksummedSlots = pre ++ (width, some field) :: post ∧
        (pre.map Prod.fst).sum = field.offset ∧ ∀ slot ∈ pre ++ post, slot.2 ≠ some field := by
    refine ⟨_, (checksummedSlots.get ⟨i, hi⟩).1, _, ?_, hsum, hother⟩
    rw [← hf]
    exact ((List.take_append_drop i checksummedSlots).symm.trans
      (congrArg _ (List.drop_eq_getElem_cons (show i < checksummedSlots.length from hi))))
  cases field with
  | inputBufAddr => exact split 0 (by omega) rfl rfl (by decide)
  | outputBufAddr => exact split 1 (by omega) rfl rfl (by decide)
  | inputBufBytes => exact split 3 (by omega) rfl rfl (by decide)
  | outputBufBytes => exact split 4 (by omega) rfl rfl (by decide)
  | kvPosition => exact split 5 (by omega) rfl rfl (by decide)
  | opParam0 => exact split 6 (by omega) rfl rfl (by decide)
  | opParam1 => exact split 7 (by omega) rfl rfl (by decide)
  | _ => exact absurd h (by decide)

/-- The bit is in a byte before the checksum, at the same place in both commands. -/
theorem checksummedBytes_flip (h : field.offset < checksumOffset) (hd : DifferInBit field bit c c')
    (hid : c'.commandId = c.commandId) : ∃ before b after, checksummedBytes c = before ++ b :: after ∧
      checksummedBytes c' = before ++ (b ^^^ UInt8.ofNat (2 ^ (bit % 8))) :: after ∧
        after.length = checksumOffset - 1 - (field.offset + bit / 8) := by
  obtain ⟨pre, width, post, hslots, hsum, hother⟩ := checksummedSlots_split h
  have hmem : (width, some field) ∈ checksummedSlots := by simp [hslots]
  have hsame : ∀ slot ∈ pre ++ post, (slot.1, slotValue c' slot.2) = (slot.1, slotValue c slot.2) := by
    intro slot hslot
    obtain ⟨w, other⟩ := slot
    cases other with
    | none => simp [slotValue, hid]
    | some other => exact congrArg _ (hd.same other fun heq => hother _ hslot (congrArg some heq))
  have hpre := List.map_congr_left fun slot hslot => hsame slot (List.mem_append_left _ hslot)
  have hpost := List.map_congr_left fun slot hslot => hsame slot (List.mem_append_right _ hslot)
  have hbit : bit < 8 * width := by
    have hpow : (256 : ℕ) ^ width = 2 ^ (8 * width) := by rw [Nat.pow_mul]
    have hlt : field.read c < 2 ^ (8 * width) := hpow ▸ slotValue_lt hmem c
    have hlt' : field.read c' < 2 ^ (8 * width) := hpow ▸ slotValue_lt hmem c'
    have hxor : field.read c ^^^ field.read c' = 2 ^ bit := by
      rw [hd.flip, ← Nat.xor_assoc, Nat.xor_self, Nat.zero_xor]
    exact (Nat.pow_lt_pow_iff_right (by omega)).mp (hxor ▸ Nat.xor_lt_two_pow hlt hlt')
  have hc : checksummedFields c = (pre.map fun slot => (slot.1, slotValue c slot.2)) ++
      (width, field.read c) :: post.map fun slot => (slot.1, slotValue c slot.2) := by
    unfold checksummedFields
    rw [hslots, List.map_append, List.map_cons]
    rfl
  have hc' : checksummedFields c' = (pre.map fun slot => (slot.1, slotValue c slot.2)) ++
      (width, field.read c ^^^ 2 ^ bit) :: post.map fun slot => (slot.1, slotValue c slot.2) := by
    unfold checksummedFields
    rw [hslots, List.map_append, List.map_cons, hpre, hpost, ← hd.flip]
    rfl
  obtain ⟨before, b, after, hb, hb', hlen⟩ := packFields_flip
    (pre.map fun slot => (slot.1, slotValue c slot.2)) (field.read c)
    (post.map fun slot => (slot.1, slotValue c slot.2)) hbit
  rw [← hc, ← checksummedBytes_eq] at hb
  rw [← hc', ← checksummedBytes_eq] at hb'
  refine ⟨before, b, after, hb, hb', ?_⟩
  have hall := congrArg List.length hb
  rw [length_checksummedBytes, List.length_append, List.length_cons, hlen, List.map_map] at hall
  have hsum' : (pre.map (Prod.fst ∘ fun slot : ℕ × Option HostField => (slot.1, slotValue c slot.2))).sum =
    field.offset := hsum
  omega

/-- A field behind the checksum is not summed. -/
theorem checksummedBytes_same (h : ¬ field.offset < checksumOffset) (hd : DifferInBit field bit c c')
    (hid : c'.commandId = c.commandId) : checksummedBytes c' = checksummedBytes c := by
  have hslots : ∀ slot ∈ checksummedSlots, ∀ other, slot.2 = some other → other.offset < checksumOffset := by
    decide
  have hfields : checksummedFields c' = checksummedFields c := by
    refine List.map_congr_left fun slot hslot => ?_
    obtain ⟨w, other⟩ := slot
    cases other with
    | none => simp [slotValue, hid]
    | some other => exact congrArg _ (hd.same other fun heq => h (heq ▸ hslots _ hslot other rfl))
  rw [checksummedBytes_eq, checksummedBytes_eq, hfields]

/-- What a flipped bit does to the CRC of the bytes before the checksum. -/
def bitSyndrome (field : HostField) (bit : ℕ) : BitVec 32 :=
  crcSyndrome isoPoly (BitVec.ofNat 8 (2 ^ (bit % 8))) (checksumOffset - 1 - (field.offset + bit / 8))

theorem bitSyndrome_ne_zero (field : HostField) (bit : ℕ) : bitSyndrome field bit ≠ 0#32 := by
  refine crcSyndrome_ne_zero (by omega) (by decide) (fun h => ?_) _
  have hall : ∀ k < 8, BitVec.ofNat 8 (2 ^ k) ≠ 0#8 := by decide
  exact hall (bit % 8) (Nat.mod_lt _ (by omega)) h

theorem crc32Iso_flip (h : field.offset < checksumOffset) (hd : DifferInBit field bit c c')
    (hid : c'.commandId = c.commandId) : (crc32Iso (checksummedBytes c')).toBitVec =
      (crc32Iso (checksummedBytes c)).toBitVec ^^^ bitSyndrome field bit := by
  obtain ⟨before, b, after, hb, hb', hlen⟩ := checksummedBytes_flip h hd hid
  have hvecs : byteVecs (checksummedBytes c) = byteVecs before ++ b.toBitVec :: byteVecs after := by
    rw [hb]
    exact List.map_append
  have hvecs' : byteVecs (checksummedBytes c') =
      byteVecs before ++ (b.toBitVec ^^^ BitVec.ofNat 8 (2 ^ (bit % 8))) :: byteVecs after := by
    rw [hb']
    exact List.map_append
  have hafter : (byteVecs after).length = checksumOffset - 1 - (field.offset + bit / 8) := by
    rw [← hlen]
    exact List.length_map _
  show crcRegister _ _ _ ^^^ _ = (crcRegister _ _ _ ^^^ _) ^^^ _
  rw [hvecs, hvecs', crcRegister_change, hafter, BitVec.xor_assoc, BitVec.xor_assoc,
    BitVec.xor_comm (crcSyndrome _ _ _)]
  rfl

theorem submit_checksum (h : q.submit (some cmd) = (r, .ok, some c)) : c.checksum = cmdChecksum c := by
  unfold submit at h
  simp only at h
  split_ifs at h with h1 h2
  · cases h
  · cases h
  · obtain rfl := Option.some.inj (congrArg (fun out => out.2.2) h)
    rfl

/-- **What the checksum protects.**  Of two commands stored under one id that differ in one bit of a field the host
writes, the checksums differ iff the field lies before the checksum in the descriptor and the faulty entries of the
table do not make up for the bit; they do not when neither command looks one up. -/
theorem checksum_differs_iff (h : q.submit (some cmd) = (r, .ok, some c))
    (h' : q'.submit (some cmd') = (r', .ok, some c')) (hid : c'.commandId = c.commandId)
    (hd : DifferInBit field bit c c') :
    (c.checksum ≠ c'.checksum ↔ field.offset < checksumOffset ∧
      isoError (checksummedBytes c) ^^^ isoError (checksummedBytes c') ≠ bitSyndrome field bit) ∧
    (field.offset < checksumOffset →
      (∀ i ∈ isoLookups (checksummedBytes c) ++ isoLookups (checksummedBytes c'), i ∉ faultyEntries) →
        c.checksum ≠ c'.checksum) := by
  have hiff : c.checksum ≠ c'.checksum ↔ field.offset < checksumOffset ∧
      isoError (checksummedBytes c) ^^^ isoError (checksummedBytes c') ≠ bitSyndrome field bit := by
    rw [submit_checksum h, submit_checksum h']
    unfold cmdChecksum
    by_cases hoff : field.offset < checksumOffset
    · rw [and_iff_right hoff, not_iff_not, ← UInt32.toBitVec_inj, crc32Update_eq_xor, crc32Update_eq_xor,
        crc32Iso_flip hoff hd hid, BitVec.xor_assoc, BitVec.xor_right_inj]
      constructor
      · intro heq
        rw [heq, BitVec.xor_assoc, BitVec.xor_self, BitVec.xor_zero]
      · intro heq
        rw [← heq, BitVec.xor_assoc, BitVec.xor_self, BitVec.xor_zero]
    · refine iff_of_false (fun hne => hne ?_) fun hcov => hoff hcov.1
      rw [checksummedBytes_same hoff hd hid]
  refine ⟨hiff, fun hoff hread => hiff.mpr ⟨hoff, ?_⟩⟩
  rw [isoError_eq_zero fun i hi => hread i (List.mem_append_left _ hi),
    isoError_eq_zero fun i hi => hread i (List.mem_append_right _ hi), BitVec.xor_self]
  exact (bitSyndrome_ne_zero field bit).symm

/-- A new queue of two tiles. -/
def twoTileQueue : Cmdq Unit where
  config := ⟨2, 4, 4⟩
  counters := {}
  cmdRing := fun _ => {}
  cmdHead := 0
  cmdTail := 0
  compRing := fun _ => {}
  compHead := 0
  compTail := 0
  nextCommandId := 1
  execHook := none
  execHookCtx := ()

theorem create_twoTileQueue : create .generous () (some ⟨2, 4, 4⟩) = .ok twoTileQueue := rfl

theorem submit_twoTileQueue (cmd : AimuCmd) (h : cmd.tileId.toUInt64 < 2) :
    ∃ r, twoTileQueue.submit (some cmd) = (r, .ok, some (twoTileQueue.storedCmd cmd)) := by
  have hacc : twoTileQueue.Accepts cmd := ⟨h, by decide⟩
  obtain ⟨r, hr, -⟩ := submit_accepted (create_ok create_twoTileQueue).1 hacc
  exact ⟨r, hr⟩

/-- The descriptor that the new queue stores for a command. -/
def firstStored (cmd : AimuCmd) : AimuCmd := twoTileQueue.storedCmd cmd

theorem checksum_differs_opParam1 :
    (firstStored {}).checksum ≠ (firstStored { opParam1 := 1 }).checksum := by
  have hd : DifferInBit .opParam1 0 (firstStored {}) (firstStored { opParam1 := 1 }) :=
    ⟨rfl, fun other hne => by cases other <;> first | rfl | exact absurd rfl hne⟩
  have hmask : isoError (checksummedBytes (firstStored {})) ^^^
      isoError (checksummedBytes (firstStored { opParam1 := 1 })) ≠ bitSyndrome .opParam1 0 := by
    decide +kernel
  obtain ⟨r, hr⟩ := submit_twoTileQueue {} (by decide)
  obtain ⟨r', hr'⟩ := submit_twoTileQueue { opParam1 := 1 } (by decide)
  exact (checksum_differs_iff hr hr' rfl hd).1.mpr ⟨by decide, hmask⟩

/-- The tile of a command is behind the checksum; and a bit of the input address, which is before it, is lost among
the entries the table lacks. -/
theorem checksum_misses_bit : create .generous () (some ⟨2, 4, 4⟩) = .ok twoTileQueue ∧
    (∀ cmd ∈ [{}, { tileId := 1 }, { inputBufAddr := 1 }],
      ∃ r, twoTileQueue.submit (some cmd) = (r, .ok, some (firstStored cmd))) ∧
    (DifferInBit .tileId 0 (firstStored {}) (firstStored { tileId := 1 }) ∧
      (firstStored {}).checksum = (firstStored { tileId := 1 }).checksum) ∧
    (DifferInBit .inputBufAddr 0 (firstStored {}) (firstStored { inputBufAddr := 1 }) ∧
      (firstStored {}).checksum = (firstStored { inputBufAddr := 1 }).checksum) := by
  refine ⟨create_twoTileQueue, fun cmd hcmd => submit_twoTileQueue cmd ?_, ⟨⟨rfl, ?_⟩, rfl⟩, ⟨rfl, ?_⟩, by decide +kernel⟩
  · have hall : ∀ cmd ∈ ([{}, { tileId := 1 }, { inputBufAddr := 1 }] : List AimuCmd), cmd.tileId.toUInt64 < 2 := by
      decide
    exact hall cmd hcmd
  · exact fun other hne => by cases other <;> first | rfl | exact absurd rfl hne
  · exact fun other hne => by cases other <;> first | rfl | exact absurd rfl hne

end Cmdq

end Att1
