import Att1.Aimu.Control

/-!
# Att1.Aimu.MmioAccess — what a write to the register file changes

* `DeviceOwned`: the cells that the side effects of a write go to.  `SameHostCells`: all other cells are kept; each
  refresh has a lemma.
* `Disciplined`: what a 32-bit write does by the access type of its register.
* `write64_error`: a 64-bit write is two 32-bit writes; the first may have been made when the second is refused.
-/

namespace Att1

namespace MmioState

open Att1.Lib Mmio

variable {Ctx : Type} {s : MmioState Ctx} {offset value off : UInt32} {regs regs' regs'' : RegFile}
  {cells : List (UInt32 × UInt32)}

/-! ### The cells of the device -/

/-- The read-only registers, CQ_TAIL and the tile windows. -/
def DeviceOwned (off : UInt32) : Prop :=
  off ∈ readOnlyRegs ∨ (cntBase ≤ off ∧ off < cntEnd) ∨ off = cqTail ∨ tileBase ≤ off

instance (off : UInt32) : Decidable (DeviceOwned off) := inferInstanceAs (Decidable (_ ∨ _ ∨ _ ∨ _))

/-- INTERRUPT_ENABLE, the bases and sizes of the rings, and the route table. -/
def hostCells : List UInt32 :=
  [0x0020, 0x1000, 0x1004, 0x1008, 0x1024, 0x1028, 0x102C, 0x200C, 0x2010, 0x2014, 0x3008, 0x300C, 0x3010]

/-- All other cells are the same in both register files. -/
def SameHostCells (regs regs' : RegFile) : Prop := ∀ off, ¬ DeviceOwned off → regs' off = regs off

theorem SameHostCells.refl (regs : RegFile) : SameHostCells regs regs := fun _ _ => rfl

theorem SameHostCells.trans (h : SameHostCells regs regs') (h' : SameHostCells regs' regs'') :
    SameHostCells regs regs'' := fun off hoff => (h' off hoff).trans (h off hoff)

theorem sameHostCells_store_of_forall (regs : RegFile) (h : ∀ c ∈ cells, DeviceOwned c.1) :
    SameHostCells regs (regs.store cells) := by
  intro off hoff
  refine RegFile.store_of_not_mem fun c hc heq => hoff ?_
  rw [← heq]
  exact h c hc

/-- The offsets of the cells are known, whatever their values are. -/
theorem sameHostCells_store (regs : RegFile) (offsets : List UInt32) (hfst : cells.map Prod.fst = offsets)
    (h : (offsets.all fun off => DeviceOwned off) = true) : SameHostCells regs (regs.store cells) := by
  refine sameHostCells_store_of_forall regs fun c hc => forall_mem_of_all h c.1 ?_
  rw [← hfst]
  exact List.mem_map_of_mem hc

/-! ### The refreshes -/

theorem sameHostCells_setDefaults (regs : RegFile) : SameHostCells regs (setDefaults regs) :=
  sameHostCells_store regs [deviceId, registerMapVersion, globalStatus, deviceVersion] rfl (by decide +kernel)

theorem sameHostCells_syncFromDevice (dev : Option AimuDevice) (regs : RegFile) :
    SameHostCells regs (syncFromDevice dev regs) := by
  cases dev with
  | none => exact SameHostCells.refl regs
  | some dev =>
    have hdevice := @sameHostCells_store (deviceCells dev) regs
      [deviceId, deviceVersion, registerMapVersion, featureFlagsLow, featureFlagsHigh, tileCount, commandQueueCount]
      rfl (by decide +kernel)
    have hwindows : ∀ regs : RegFile, SameHostCells regs (regs.store (windowCells dev)) := fun regs =>
      sameHostCells_store_of_forall regs fun c hc => .inr (.inr (.inr (windowCells_le dev c hc)))
    have hstatus : ∀ regs : RegFile, ∀ v, SameHostCells regs (regs.store [(globalStatus, v)]) := fun regs v =>
      sameHostCells_store regs [globalStatus] rfl (by decide +kernel)
    exact (hdevice.trans (hstatus _ _)).trans (hwindows _)

theorem sameHostCells_syncFromCmdq (q : Option (Cmdq Ctx)) (regs : RegFile) :
    SameHostCells regs (syncFromCmdq q regs) := by
  cases q with
  | none => exact SameHostCells.refl regs
  | some q =>
    exact sameHostCells_store regs [cqHead, cqTail, cqFenceValue, cqStatus, cntCmdIssuedLo, cntCmdIssuedLo + 4,
      cntCmdCompletedLo, cntCmdCompletedLo + 4, cntStallQueueFullLo, cntStallQueueFullLo + 4] rfl (by decide +kernel)

theorem sameHostCells_syncFromTrace (tr : Option AimuTrace) (regs : RegFile) :
    SameHostCells regs (syncFromTrace tr regs) := by
  cases tr with
  | none => exact SameHostCells.refl regs
  | some tr =>
    unfold syncFromTrace
    simp only
    split_ifs with hempty
    · exact SameHostCells.refl regs
    · exact sameHostCells_store regs [cntCmdIssuedLo, cntCmdIssuedLo + 4, cntCmdCompletedLo, cntCmdCompletedLo + 4,
        cntStallQueueFullLo, cntStallQueueFullLo + 4, cntErrorsTotalLo, cntErrorsTotalLo + 4, cntTensorBytesRdLo,
        cntTensorBytesRdLo + 4, cntTensorBytesWrLo, cntTensorBytesWrLo + 4, cntFabricPktSentLo, cntFabricPktSentLo + 4,
        cntFabricPktRecvLo, cntFabricPktRecvLo + 4, fabricPktCtrLow, fabricPktCtrLow + 4, fabricPayloadBytesLow,
        fabricPayloadBytesLow + 4, fabricCongestionCtr] rfl (by decide +kernel)

theorem sameHostCells_refresh (s : MmioState Ctx) (regs : RegFile) : SameHostCells regs (s.refresh regs) := by
  have hdevice := (sameHostCells_setDefaults regs).trans (sameHostCells_syncFromDevice s.sims.device _)
  exact (hdevice.trans (sameHostCells_syncFromCmdq s.sims.cmdq _)).trans (sameHostCells_syncFromTrace s.sims.trace _)

/-! ### Side effects -/

/-- A write to GLOBAL_CONTROL, RESET_CONTROL, CQ_DOORBELL, a TILE_RESET_CONTROL, or of SNAP_NOW. -/
def SideEffect (offset value : UInt32) : Prop :=
  offset = globalControl ∨ offset = resetControl ∨ offset = cqDoorbell ∨
    (tileBase ≤ offset ∧ (offset - tileBase) % tileStride = tileResetControl) ∨
    (offset = counterSnapshotControl ∧ value &&& snapNow ≠ 0)

theorem sameHostCells_writeResetControl (s : MmioState Ctx) (value : UInt32) :
    SameHostCells s.mmio.regs (s.writeResetControl value).mmio.regs := by
  have hsoft : ∀ s : MmioState Ctx, SameHostCells s.mmio.regs s.softResetAll.mmio.regs := fun s =>
    sameHostCells_refresh _ _
  have hcounters : ∀ s : MmioState Ctx, SameHostCells s.mmio.regs s.resetCounters.mmio.regs := fun s off hoff =>
    if_neg fun h => hoff (.inr (.inl h))
  have htrace : ∀ s : MmioState Ctx, SameHostCells s.mmio.regs s.resetTrace.mmio.regs := fun s =>
    sameHostCells_store _ [traceWritePtr, traceDroppedEvents] rfl (by decide +kernel)
  have hif : ∀ (p : Prop) [Decidable p] (f : MmioState Ctx → MmioState Ctx) (s : MmioState Ctx),
      SameHostCells s.mmio.regs (f s).mmio.regs → SameHostCells s.mmio.regs (if p then f s else s).mmio.regs := by
    intro p _ f s h
    split_ifs
    · exact h
    · exact SameHostCells.refl _
  unfold writeResetControl
  exact ((hif _ softResetAll s (hsoft s)).trans (hif _ resetCounters _ (hcounters _))).trans
    (hif _ resetTrace _ (htrace _))

theorem sameHostCells_resetTile (s : MmioState Ctx) (tileN : UInt32) :
    SameHostCells s.mmio.regs (s.resetTile tileN).mmio.regs := by
  unfold resetTile
  cases s.sims.device with
  | none => exact SameHostCells.refl _
  | some dev => exact sameHostCells_syncFromDevice (some _) s.mmio.regs

theorem sameHostCells_woWrite (s : MmioState Ctx) (offset value : UInt32) :
    SameHostCells s.mmio.regs (s.woWrite offset value).mmio.regs := by
  unfold woWrite
  split_ifs
  · exact sameHostCells_resetTile s _
  · exact SameHostCells.refl _
  · exact sameHostCells_store _ [globalStatus] rfl (by decide +kernel)
  · exact sameHostCells_writeResetControl s value
  · exact sameHostCells_store _ [cqTail] rfl (by decide +kernel)
  · exact SameHostCells.refl _

/-- A snapshot changes no cell of the host but COUNTER_SNAPSHOT_CONTROL. -/
theorem writeSnapshotControl_regs (s : MmioState Ctx) (value : UInt32) (hoff : ¬ DeviceOwned off)
    (hne : off ≠ counterSnapshotControl) : (s.writeSnapshotControl value).mmio.regs off = s.mmio.regs off := by
  have hlast : ∀ (regs : RegFile) (v : UInt32), regs.store [(counterSnapshotControl, v)] off = regs off :=
    fun _ _ => RegFile.store_of_not_mem (by simpa using hne.symm)
  unfold writeSnapshotControl
  split_ifs with hsnap
  · simp only
    cases s.sims.trace with
    | none => exact (hlast _ _).trans (sameHostCells_syncFromCmdq s.sims.cmdq _ off hoff)
    | some tr => exact (hlast _ _).trans (sameHostCells_syncFromTrace _ _ off hoff)
  · exact hlast _ _

/-! ### Writes of 32 bits -/

theorem store_singleton (regs : RegFile) (off v : UInt32) : regs.store [(off, v)] = Function.update regs off v := rfl

/-- The register file with other registers. -/
def withRegs (s : MmioState Ctx) (regs : RegFile) : MmioState Ctx := { s with mmio := { s.mmio with regs := regs } }

theorem write32_invalid (hv : ¬ validOffset offset = true) : s.write32 offset value = (s, .invalidArg) := if_pos hv

theorem write32_reserved (hv : validOffset offset = true) (hat : accessType offset = .reserved) :
    s.write32 offset value = (s, .ok) := by
  unfold write32
  rw [if_neg (not_not.mpr hv), hat]

theorem write32_ro (hv : validOffset offset = true) (hat : accessType offset = .ro) :
    s.write32 offset value = (s, .unsupported) := by
  unfold write32
  rw [if_neg (not_not.mpr hv), hat]

theorem write32_rw (hv : validOffset offset = true) (hat : accessType offset = .rw)
    (hsnap : ¬ (offset = counterSnapshotControl ∧ value &&& snapNow ≠ 0)) :
    s.write32 offset value = (s.withRegs (Function.update s.mmio.regs offset value), .ok) := by
  unfold write32
  rw [if_neg (not_not.mpr hv), hat]
  simp only
  split_ifs with hcontrol
  · subst hcontrol
    unfold writeSnapshotControl
    rw [if_neg fun hset => hsnap ⟨rfl, hset⟩]
    rfl
  · rfl

theorem write32_rw1c (hv : validOffset offset = true) (hat : accessType offset = .rw1c) :
    s.write32 offset value =
      (s.withRegs (Function.update s.mmio.regs offset (s.mmio.regs offset &&& ~~~ value)), .ok) := by
  unfold write32
  rw [if_neg (not_not.mpr hv), hat]
  rfl

theorem write32_wo (hv : validOffset offset = true) (hat : accessType offset = .wo) :
    s.write32 offset value = (s.woWrite offset value, .ok) := by
  unfold write32
  rw [if_neg (not_not.mpr hv), hat]

/-- The write-only registers have side effects. -/
theorem sideEffect_of_wo (value : UInt32) (hat : accessType offset = .wo) : SideEffect offset value := by
  unfold accessType at hat
  split_ifs at hat with hro hrw hclear hwo hcount hbase
  · simp only [writeOnlyRegs, List.mem_cons, List.not_mem_nil, or_false] at hwo
    rcases hwo with h | h | h
    · exact .inl h
    · exact .inr (.inl h)
    · exact .inr (.inr (.inl h))
  · unfold tileAccessType at hat
    split_ifs at hat with hlow herror hreset
    exact .inr (.inr (.inr (.inl ⟨hbase, hreset⟩)))

/-- Whatever a write does, a cell of the host is kept unless it is the one that is written. -/
theorem write32_hostCell (s : MmioState Ctx) (offset value : UInt32) (hoff : ¬ DeviceOwned off) (hne : off ≠ offset) :
    (s.write32 offset value).1.mmio.regs off = s.mmio.regs off := by
  by_cases hv : validOffset offset = true
  · cases hat : accessType offset with
    | ro => rw [write32_ro hv hat]
    | reserved => rw [write32_reserved hv hat]
    | wo =>
      rw [write32_wo hv hat]
      exact sameHostCells_woWrite s offset value off hoff
    | rw1c =>
      rw [write32_rw1c hv hat]
      exact Function.update_of_ne hne _ _
    | rw =>
      by_cases hsnap : offset = counterSnapshotControl ∧ value &&& snapNow ≠ 0
      · obtain ⟨rfl, -⟩ := hsnap
        exact writeSnapshotControl_regs s value hoff hne
      · rw [write32_rw hv hat hsnap]
        exact Function.update_of_ne hne _ _
  · rw [write32_invalid hv]

/-- A write without a side effect keeps every other cell. -/
theorem write32_other (s : MmioState Ctx) (offset value : UInt32) (hside : ¬ SideEffect offset value)
    (hne : off ≠ offset) : (s.write32 offset value).1.mmio.regs off = s.mmio.regs off := by
  by_cases hv : validOffset offset = true
  · cases hat : accessType offset with
    | ro => rw [write32_ro hv hat]
    | reserved => rw [write32_reserved hv hat]
    | wo => exact absurd (sideEffect_of_wo value hat) hside
    | rw1c =>
      rw [write32_rw1c hv hat]
      exact Function.update_of_ne hne _ _
    | rw =>
      rw [write32_rw hv hat fun hsnap => hside (.inr (.inr (.inr (.inr hsnap))))]
      exact Function.update_of_ne hne _ _
  · rw [write32_invalid hv]

/-- The access discipline, for one write. -/
structure Disciplined (s : MmioState Ctx) (offset value : UInt32) : Prop where
  outOfRange : validOffset offset = false → s.write32 offset value = (s, .invalidArg)
  reserved : validOffset offset = true → accessType offset = .reserved → s.write32 offset value = (s, .ok)
  readOnly : validOffset offset = true → accessType offset = .ro → s.write32 offset value = (s, .unsupported)
  readWrite : validOffset offset = true → accessType offset = .rw →
    ¬ (offset = counterSnapshotControl ∧ value &&& snapNow ≠ 0) →
      s.write32 offset value = (s.withRegs (Function.update s.mmio.regs offset value), .ok)
  clear : validOffset offset = true → accessType offset = .rw1c → ∃ v,
    s.write32 offset value = (s.withRegs (Function.update s.mmio.regs offset v), .ok) ∧
      ∀ bit, v.toNat.testBit bit = ((s.mmio.regs offset).toNat.testBit bit && ! value.toNat.testBit bit)
  others : ∀ off, off ≠ offset → (s.write32 offset value).1.mmio.regs off ≠ s.mmio.regs off → SideEffect offset value
  host : SideEffect offset value → ∀ off ∈ hostCells, (s.write32 offset value).1.mmio.regs off = s.mmio.regs off

theorem testBit_and_not (x y : UInt32) (bit : ℕ) :
    (x &&& ~~~ y).toNat.testBit bit = (x.toNat.testBit bit && ! y.toNat.testBit bit) := by
  show (x.toBitVec &&& ~~~ y.toBitVec).getLsbD bit = (x.toBitVec.getLsbD bit && ! y.toBitVec.getLsbD bit)
  rw [BitVec.getLsbD_and, BitVec.getLsbD_not]
  by_cases hbit : bit < 32
  · rw [decide_eq_true hbit, Bool.true_and]
  · rw [BitVec.getLsbD_of_ge _ _ (Nat.not_lt.mp hbit), Bool.false_and, Bool.false_and]

/-- No write to a cell of the host has a side effect. -/
theorem SideEffect.not_mem_hostCells (h : SideEffect offset value) : offset ∉ hostCells := by
  have hlow : ∀ off ∈ hostCells, ¬ tileBase ≤ off := forall_mem_of_all (by decide +kernel)
  intro hmem
  rcases h with rfl | rfl | rfl | ⟨hbase, -⟩ | ⟨rfl, -⟩
  · exact absurd hmem (by decide)
  · exact absurd hmem (by decide)
  · exact absurd hmem (by decide)
  · exact hlow offset hmem hbase
  · exact absurd hmem (by decide)

/-- **Register access discipline**: every write of 32 bits keeps to the access type of its register, and reads change
nothing. -/
theorem access_discipline (s : MmioState Ctx) (offset value : UInt32) :
    Disciplined s offset value ∧ (s.perform (.read32 offset)).1 = s ∧ (s.perform (.read64 offset)).1 = s := by
  have hhost : ∀ off ∈ hostCells, ¬ DeviceOwned off := forall_mem_of_all (by decide +kernel)
  refine ⟨?_, rfl, rfl⟩
  exact
    { outOfRange := fun hv => write32_invalid (by simp [hv])
      reserved := write32_reserved
      readOnly := write32_ro
      readWrite := write32_rw
      clear := fun hv hat => ⟨_, write32_rw1c hv hat, testBit_and_not _ _⟩
      others := fun off hne hchange => by
        by_contra hside
        exact hchange (write32_other s offset value hside hne)
      host := fun hside off hoff => by
        refine write32_hostCell s offset value (hhost off hoff) ?_
        rintro rfl
        exact hside.not_mem_hostCells hoff }

/-! ### Writes of 64 bits -/

/-- The pairs with a lower register that the host writes and a read-only upper one. -/
def splitPairs : List UInt32 := [0x0020, 0x0030, 0x1008, 0x2000, 0x3010, 0x5008, 0x5010]

/-- What the first of the two writes stores, in a register that the host writes. -/
def lowerWritten (s : MmioState Ctx) (offset : UInt32) (value : UInt64) : UInt32 :=
  if accessType offset = .rw1c then s.mmio.regs offset &&& ~~~ value.toUInt32 else value.toUInt32

theorem toNat_of_validPair (hv : validPair offset = true) :
    offset.toNat % 8 = 0 ∧ (offset + 4).toNat = offset.toNat + 4 ∧ offset.toNat + 4 < 0x10000 := by
  obtain ⟨halign, hsize⟩ := (Bool.and_eq_true _ _).mp hv
  have h8 := congrArg UInt32.toNat (of_decide_eq_true halign)
  have hlt := UInt32.lt_iff_toNat_lt.mp (of_decide_eq_true hsize)
  have height : (8 : UInt32).toNat = 8 := rfl
  have hfour : (4 : UInt32).toNat = 4 := rfl
  have hbar : bar0Size.toNat = 0x10000 := rfl
  have hzero : (0 : UInt32).toNat = 0 := rfl
  have hbound := offset.toNat_lt
  rw [UInt32.toNat_mod, height, hzero] at h8
  rw [UInt32.toNat_add, hfour, hbar] at hlt
  rw [UInt32.toNat_add, hfour]
  omega

theorem validOffset_of_validPair (hv : validPair offset = true) :
    validOffset offset = true ∧ validOffset (offset + 4) = true := by
  obtain ⟨h8, hadd, hlt⟩ := toNat_of_validPair hv
  have hvalid : ∀ off : UInt32, off.toNat % 4 = 0 → off.toNat < 0x10000 → validOffset off = true := by
    intro off halign hsize
    have hmod : off % 4 = 0 := UInt32.toNat_inj.mp ((UInt32.toNat_mod _ _).trans halign)
    have hlt : off < bar0Size := UInt32.lt_iff_toNat_lt.mpr hsize
    simp [validOffset, hmod, hlt]
  exact ⟨hvalid _ (by omega) (by omega), hvalid _ (by omega) (by omega)⟩

theorem tileAccessType_ro_iff {tileOff : UInt32} :
    tileAccessType tileOff = .ro ↔ tileOff.toNat < 0x3C ∧ tileOff.toNat % 4 = 0 := by
  have hmod : tileOff % 4 = 0 ↔ tileOff.toNat % 4 = 0 := by
    rw [← UInt32.toNat_inj, UInt32.toNat_mod]
    rfl
  have hlt : tileOff < tileErrorStatus ↔ tileOff.toNat < 0x3C := UInt32.lt_iff_toNat_lt
  rw [← hmod, ← hlt]
  unfold tileAccessType
  split_ifs with hro
  · exact iff_of_true rfl hro
  all_goals exact iff_of_false (by simp) hro

/-- The two registers of a pair are in the same tile window. -/
theorem windowOffset_of_upper {n : ℕ} (h8 : n % 8 = 0) (hle : 0x8000 ≤ n) (hlt : (n + 4 - 0x8000) % 0x800 < 0x3C) :
    (n - 0x8000) % 0x800 < 0x3C ∧ (n - 0x8000) % 0x800 % 4 = 0 := by
  obtain ⟨m, rfl⟩ := Nat.exists_eq_add_of_le hle
  rw [Nat.add_assoc, Nat.add_sub_cancel_left] at hlt
  rw [Nat.add_sub_cancel_left]
  have hm : m % 8 = 0 := by omega
  have hmod : m % 0x800 % 8 = 0 := (Nat.mod_mod_of_dvd m (by decide)).trans hm
  have hwindow : m % 0x800 < 0x800 := Nat.mod_lt m (by decide)
  have hupper : (m + 4) % 0x800 = m % 0x800 + 4 := by
    rw [Nat.add_mod]
    exact Nat.mod_eq_of_lt (by omega)
  omega

/-- Where only the upper register of a pair is read-only, the pair is one of seven. -/
theorem mem_splitPairs (hv : validPair offset = true) (hlow : accessType offset ≠ .ro)
    (hhigh : accessType (offset + 4) = .ro) : offset ∈ splitPairs := by
  obtain ⟨h8, hadd, hlt⟩ := toNat_of_validPair hv
  by_cases hlisted : offset + 4 ∈ readOnlyRegs
  · have hall : ∀ off ∈ readOnlyRegs, validPair (off - 4) = true → accessType (off - 4) ≠ .ro →
        off - 4 ∈ splitPairs := forall_mem_of_all (by decide +kernel)
    have hback : offset + 4 - 4 = offset := UInt32.add_sub_cancel offset 4
    have h := hall _ hlisted
    rw [hback] at h
    exact h hv hlow
  -- Elsewhere read-only registers stand in blocks that start at a multiple of eight.
  exfalso
  by_cases hbase : tileBase ≤ offset + 4
  · have hbase' := UInt32.le_iff_toNat_le.mp hbase
    have hstart : tileBase.toNat = 0x8000 := rfl
    have hstride : tileStride.toNat = 0x800 := rfl
    have hbelow : tileBase ≤ offset := UInt32.le_iff_toNat_le.mpr (by omega)
    rw [accessType_window hbase, tileAccessType_ro_iff, UInt32.toNat_mod, UInt32.toNat_sub_of_le _ _ hbase, hstart,
      hstride, hadd] at hhigh
    refine hlow ?_
    rw [accessType_window hbelow, tileAccessType_ro_iff, UInt32.toNat_mod, UInt32.toNat_sub_of_le _ _ hbelow, hstart,
      hstride]
    exact windowOffset_of_upper h8 (hstart ▸ UInt32.le_iff_toNat_le.mp hbelow) hhigh.1
  · have hcount : cntBase ≤ offset + 4 ∧ offset + 4 < cntEnd := by
      unfold accessType at hhigh
      split_ifs at hhigh with hrw hclear hwo hcount
      exact hcount
    have hfirst := UInt32.le_iff_toNat_le.mp hcount.1
    have hlast := UInt32.lt_iff_toNat_lt.mp hcount.2
    have hstart : cntBase.toNat = 0x4000 := rfl
    have hend : cntEnd.toNat = 0x40B8 := rfl
    refine hlow (accessType_counter ⟨UInt32.le_iff_toNat_le.mpr ?_, UInt32.lt_iff_toNat_lt.mpr ?_⟩) <;> omega

/-- A refused 32-bit write at a register offset is one to a read-only register. -/
theorem write32_error (hv : validOffset offset = true) (h : (s.write32 offset value).2 ≠ .ok) :
    accessType offset = .ro := by
  by_contra hro
  refine h ?_
  unfold write32
  rw [if_neg (not_not.mpr hv)]
  cases hat : accessType offset with
  | ro => exact absurd hat hro
  | rw =>
    simp only
    split_ifs <;> rfl
  | rw1c => rfl
  | wo => rfl
  | reserved => rfl

/-- A 64-bit write that is refused has changed nothing, unless its lower register is one that the host writes below a
read-only one: then that register, and nothing else, has been written. -/
theorem write64_error {value : UInt64} (h : (s.write64 offset value).2 ≠ .ok) :
    (s.write64 offset value).1 =
      if offset ∈ splitPairs then s.withRegs (Function.update s.mmio.regs offset (s.lowerWritten offset value))
      else s := by
  have hsplit : ∀ off ∈ splitPairs, validPair off = true ∧ off ≠ counterSnapshotControl ∧
      (accessType off = .rw ∨ accessType off = .rw1c) := forall_mem_of_all (by decide +kernel)
  unfold write64 at h ⊢
  by_cases hv : validPair offset = true
  · obtain ⟨hlow, hhigh⟩ := validOffset_of_validPair hv
    rw [if_neg (not_not.mpr hv)] at h ⊢
    by_cases hmem : offset ∈ splitPairs
    · obtain ⟨-, hsnap, hat⟩ := hsplit offset hmem
      have hfirst : s.write32 offset value.toUInt32 =
          (s.withRegs (Function.update s.mmio.regs offset (s.lowerWritten offset value)), .ok) := by
        unfold lowerWritten
        rcases hat with hat | hat
        · rw [write32_rw hlow hat fun hc => hsnap hc.1, hat]
          rfl
        · rw [write32_rw1c hlow hat, if_pos hat]
      rw [if_pos hmem]
      rw [hfirst] at h ⊢
      exact (write32_refused h).1
    · rw [if_neg hmem]
      by_cases hok : (s.write32 offset value.toUInt32).2 = .ok
      · obtain ⟨s₁, hs₁⟩ : ∃ s₁, s.write32 offset value.toUInt32 = (s₁, .ok) := ⟨_, Prod.ext rfl hok⟩
        rw [hs₁] at h
        have hro : accessType offset = .ro := by
          by_contra hlower
          exact hmem (mem_splitPairs hv hlower (write32_error hhigh h))
        rw [write32_ro hlow hro] at hok
        exact absurd hok (by simp)
      · obtain ⟨hsame, -⟩ := write32_refused hok
        generalize s.write32 offset value.toUInt32 = r at hsame hok ⊢
        obtain ⟨s₁, st⟩ := r
        cases st <;> first | exact hsame | exact absurd rfl hok
  · rw [if_pos hv, if_neg fun hmem => hv (hsplit offset hmem).1]

/-- A 64-bit write to the COMMAND QUEUE size and head of a new register file. -/
theorem write64_error_queue : ∃ s : MmioState Unit, create .generous = .ok s ∧
    (s.write64 0x1008 0x40).1 =
      if (0x1008 : UInt32) ∈ splitPairs then
        s.withRegs (Function.update s.mmio.regs 0x1008 (s.lowerWritten 0x1008 0x40))
      else s := by
  obtain ⟨s, hs, hst⟩ : ∃ s : MmioState Unit, create .generous = .ok s ∧ (s.write64 0x1008 0x40).2 = .unsupported :=
    ⟨_, rfl, rfl⟩
  refine ⟨s, hs, write64_error ?_⟩
  rw [hst]
  decide

/-- The write of CQ_SIZE and CQ_HEAD is refused for CQ_HEAD, and CQ_SIZE has changed. -/
theorem write64_splits : ∃ s : MmioState Unit, create .generous = .ok s ∧
    (s.write64 0x1008 0x40).2 = .unsupported ∧ s.mmio.regs 0x1008 = 0 ∧
    (s.write64 0x1008 0x40).1.mmio.regs 0x1008 = 0x40 := ⟨_, rfl, rfl, rfl, rfl⟩

end MmioState

end Att1
