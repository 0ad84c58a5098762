import Att1.Aimu.Mmio
import Att1.Lib.Runs

/-!
# Att1.Aimu.Control — control bits and the refreshes of GLOBAL_STATUS

* `ControlState`: what the writes to GLOBAL_CONTROL ask for, since the last full reset.
* `ControlLaw`: DEVICE_READY and TRACE_ACTIVE are what was asked for, and a probe succeeds exactly when the device is
  enabled.
* `control_law_iff`: a run obeys the law throughout exactly when every refresh of all registers finds the device
  enabled and the trace disabled, and every reset of a tile of an attached device finds the device enabled.
-/

open Att1.Lib

namespace Att1

open Mmio

/-- What was last asked for: an enabled device and no trace after a full reset. -/
@[ext]
structure ControlState where
  device : Bool := true
  trace : Bool := false
  deriving DecidableEq, Repr

namespace ControlState

/-- A write to GLOBAL_CONTROL; a write that sets both bits of a pair disables. -/
def control (c : ControlState) (value : UInt32) : ControlState where
  device :=
    if value &&& gctrlDisableDevice ≠ 0 then false
    else if value &&& gctrlEnableDevice ≠ 0 then true
    else c.device
  trace :=
    if value &&& gctrlDisableTrace ≠ 0 then false
    else if value &&& gctrlEnableTrace ≠ 0 then true
    else c.trace

/-- A write to a register: only the two control registers say something about the device and the trace. -/
def write (c : ControlState) (offset value : UInt32) : ControlState :=
  if offset = globalControl then c.control value
  else if offset = resetControl ∧ value &&& rstctlSoftResetAll ≠ 0 then {}
  else c

end ControlState

/-! ### The two bits in GLOBAL_STATUS -/

/-- DEVICE_READY and TRACE_ACTIVE of a GLOBAL_STATUS value. -/
def controlBits (status : UInt32) : ControlState where
  device := status &&& gstatDeviceReady ≠ 0
  trace := status &&& gstatTraceActive ≠ 0

theorem or_and_ne_zero (a b m : UInt32) : (a ||| b) &&& m ≠ 0 ↔ a &&& m ≠ 0 ∨ b &&& m ≠ 0 := by
  have hdistrib : (a ||| b) &&& m = a &&& m ||| b &&& m := by
    apply UInt32.toBitVec_inj.mp
    exact BitVec.and_or_distrib_right
  rw [hdistrib, ne_eq, UInt32.or_eq_zero_iff, not_and_or]

theorem controlBits_or (a b : UInt32) :
    controlBits (a ||| b) =
      ⟨(controlBits a).device || (controlBits b).device, (controlBits a).trace || (controlBits b).trace⟩ := by
  ext <;> simp only [controlBits, or_and_ne_zero, Bool.decide_or]

theorem controlBits_clear (status : UInt32) :
    controlBits (status &&& ~~~ gstatDeviceReady) = { controlBits status with device := false } ∧
      controlBits (status &&& ~~~ gstatTraceActive) = { controlBits status with trace := false } := by
  have hrr : ~~~ gstatDeviceReady &&& gstatDeviceReady = 0 := rfl
  have htt : ~~~ gstatTraceActive &&& gstatTraceActive = 0 := rfl
  have hrt : ~~~ gstatDeviceReady &&& gstatTraceActive = gstatTraceActive := rfl
  have htr : ~~~ gstatTraceActive &&& gstatDeviceReady = gstatDeviceReady := rfl
  constructor <;> ext <;> simp [controlBits, UInt32.and_assoc, hrr, htt, hrt, htr]

theorem controlBits_ready : controlBits gstatDeviceReady = {} := rfl

theorem controlBits_active : controlBits gstatTraceActive = ⟨false, true⟩ := rfl

theorem controlBits_controlStatus (value status : UInt32) :
    controlBits (MmioState.controlStatus value status) = (controlBits status).control value := by
  unfold MmioState.controlStatus ControlState.control
  ext <;> simp only <;> split_ifs <;>
    simp [controlBits_or, controlBits_clear, controlBits_ready, controlBits_active]

/-- The states of the tiles neither clear DEVICE_READY nor set TRACE_ACTIVE. -/
theorem controlBits_tileStatusBits (dev : AimuDevice) : controlBits (tileStatusBits dev) = {} := by
  have htiles : controlBits gstatAnyTileActive = ⟨false, false⟩ ∧
      controlBits gstatAnyTileError = ⟨false, false⟩ := ⟨rfl, rfl⟩
  unfold tileStatusBits
  generalize List.range dev.tileCount = tiles
  suffices h : ∀ bits, controlBits bits = {} → controlBits (tiles.foldl _ bits) = {} from h _ controlBits_ready
  induction tiles with
  | nil => exact fun bits hb => hb
  | cons i tiles ih =>
    intro bits hb
    apply ih
    simp only
    split_ifs <;> simp [controlBits_or, hb, htiles]

/-! ### What the refreshes do to the two bits -/

namespace MmioState

variable {Ctx : Type} {s : MmioState Ctx}

/-- The two bits in GLOBAL_STATUS. -/
def bits (s : MmioState Ctx) : ControlState := controlBits (s.mmio.regs globalStatus)

theorem setDefaults_status (regs : RegFile) : setDefaults regs globalStatus = gstatDeviceReady := rfl

/-- The tile windows are the upper half of the register file. -/
theorem windowReg_le {n : ℕ} (hn : n < 16) {f : UInt32} (hf : f < 0x100) :
    tileBase ≤ tileBase + UInt32.ofNat n * tileStride + f := by
  have hnat : (UInt32.ofNat n).toNat = n := UInt32.toNat_ofNat_of_lt (lt_trans hn (by decide))
  have hbase : tileBase.toNat = 0x8000 := rfl
  have hstride : tileStride.toNat = 0x800 := rfl
  have hlt : f.toNat < 256 := UInt32.lt_iff_toNat_lt.mp hf
  apply UInt32.le_iff_toNat_le.mpr
  simp only [UInt32.toNat_add, UInt32.toNat_mul, hnat, hbase, hstride]
  omega

theorem tileCells_le (dev : AimuDevice) {n : ℕ} (hn : n < 16) : ∀ c ∈ tileCells dev n, tileBase ≤ c.1 := by
  have hreg : ∀ f : UInt32, f < 0x100 → tileBase ≤ tileBase + UInt32.ofNat n * tileStride + f :=
    fun _ => windowReg_le hn
  have hpair : ∀ (f : UInt32) (v : UInt64), f < 0x100 → f + 4 < 0x100 →
      ∀ c ∈ wr64 (tileBase + UInt32.ofNat n * tileStride + f) v, tileBase ≤ c.1 := by
    intro f v hlo hhi c hc
    simp only [wr64, List.mem_cons, List.not_mem_nil, or_false, UInt32.add_assoc _ f] at hc
    rcases hc with rfl | rfl
    · exact hreg f hlo
    · exact hreg (f + 4) hhi
  have hzero := hreg 0 (by decide)
  rw [UInt32.add_zero] at hzero
  intro c hc
  simp only [tileCells, List.mem_append, List.mem_cons, List.not_mem_nil, or_false] at hc
  rcases hc with ((((hc | hc) | hc) | hc) | hc) | hc
  · rcases hc with rfl | rfl | rfl
    · exact hzero
    · exact hreg 0x04 (by decide)
    · exact hreg 0x08 (by decide)
  · exact hpair 0x0C _ (by decide) (by decide) c hc
  · exact hpair 0x14 _ (by decide) (by decide) c hc
  · exact hpair 0x1C _ (by decide) (by decide) c hc
  · exact hpair 0x24 _ (by decide) (by decide) c hc
  · rcases hc with rfl | rfl | rfl | rfl | rfl
    · exact hreg 0x2C (by decide)
    · exact hreg 0x30 (by decide)
    · exact hreg 0x34 (by decide)
    · exact hreg 0x38 (by decide)
    · exact hreg tileErrorStatus (by decide)

theorem windowCells_le (dev : AimuDevice) : ∀ c ∈ windowCells dev, tileBase ≤ c.1 := by
  intro c hc
  obtain ⟨n, hn, hcell⟩ := List.mem_flatMap.mp hc
  exact tileCells_le dev (lt_of_lt_of_le (List.mem_range.mp hn) (min_le_right _ _)) c hcell

theorem windowCells_ne (dev : AimuDevice) : ∀ c ∈ windowCells dev, c.1 ≠ globalStatus := by
  intro c hc hstatus
  exact absurd (hstatus ▸ windowCells_le dev c hc) (by decide)

/-- Copying a device into the registers sets DEVICE_READY. -/
theorem controlBits_syncFromDevice (dev : AimuDevice) (regs : RegFile) :
    controlBits (syncFromDevice (some dev) regs globalStatus) =
      { controlBits (regs globalStatus) with device := true } := by
  have hkept : regs.store (deviceCells dev) globalStatus = regs globalStatus := by
    apply RegFile.store_of_not_mem
    intro c hc
    simp only [deviceCells, List.mem_cons, List.not_mem_nil, or_false] at hc
    rcases hc with rfl | rfl | rfl | rfl | rfl | rfl | rfl <;> simp only [ne_eq] <;> decide
  have htrace : controlBits (regs globalStatus &&& gstatTraceActive) =
      ⟨false, (controlBits (regs globalStatus)).trace⟩ := by
    have hrt : gstatTraceActive &&& gstatDeviceReady = 0 := rfl
    ext <;> simp [controlBits, UInt32.and_assoc, hrt]
  have hstatus : syncFromDevice (some dev) regs globalStatus =
      tileStatusBits dev ||| (regs globalStatus &&& gstatTraceActive) := by
    unfold syncFromDevice
    simp only
    rw [RegFile.store_of_not_mem (windowCells_ne dev), hkept]
    rfl
  rw [hstatus, controlBits_or, controlBits_tileStatusBits, htrace]
  rfl

theorem syncFromCmdq_status (q : Option (Cmdq Ctx)) (regs : RegFile) :
    syncFromCmdq q regs globalStatus = regs globalStatus := by
  cases q with
  | none => rfl
  | some q => rfl

theorem syncFromTrace_status (tr : Option AimuTrace) (regs : RegFile) :
    syncFromTrace tr regs globalStatus = regs globalStatus := by
  cases tr with
  | none => rfl
  | some tr =>
    unfold syncFromTrace
    simp only
    split_ifs <;> rfl

theorem bits_sync (s : MmioState Ctx) : s.sync.bits = {} := by
  have hregs : s.sync.mmio.regs globalStatus = syncFromDevice s.sims.device (setDefaults s.mmio.regs) globalStatus :=
    (syncFromTrace_status _ _).trans (syncFromCmdq_status _ _)
  unfold bits
  rw [hregs]
  cases s.sims.device with
  | none => exact congrArg controlBits (setDefaults_status s.mmio.regs)
  | some dev => rw [controlBits_syncFromDevice, setDefaults_status, controlBits_ready]

theorem bits_reset (s : MmioState Ctx) : s.reset.bits = {} :=
  congrArg controlBits (setDefaults_status fun _ => 0)

theorem bits_resetTile (s : MmioState Ctx) (tileN : UInt32) :
    (s.resetTile tileN).bits = if s.sims.device.isSome then { s.bits with device := true } else s.bits := by
  unfold resetTile
  cases hdev : s.sims.device with
  | none => rfl
  | some dev => exact controlBits_syncFromDevice _ _

/-! ### Writes -/

/-- A write to a TILE_RESET_CONTROL register while a device is attached. -/
def ResetsTile (s : MmioState Ctx) (offset : UInt32) : Prop :=
  offset < bar0Size ∧ tileBase ≤ offset ∧ (offset - tileBase) % tileStride = tileResetControl ∧
    s.sims.device.isSome

instance (s : MmioState Ctx) (offset : UInt32) : Decidable (s.ResetsTile offset) :=
  inferInstanceAs (Decidable (_ ∧ _ ∧ _ ∧ _))

theorem bits_writeResetControl (s : MmioState Ctx) (value : UInt32) :
    (s.writeResetControl value).bits = if value &&& rstctlSoftResetAll ≠ 0 then {} else s.bits := by
  have hsoft : s.softResetAll.bits = {} := bits_sync _
  have hcounters : ∀ s : MmioState Ctx, s.resetCounters.bits = s.bits := fun _ => rfl
  have htrace : ∀ s : MmioState Ctx, s.resetTrace.bits = s.bits := fun _ => rfl
  unfold writeResetControl
  split_ifs <;> simp [hsoft, hcounters, htrace]

theorem bits_writeSnapshotControl (s : MmioState Ctx) (value : UInt32) :
    (s.writeSnapshotControl value).bits = s.bits := by
  unfold writeSnapshotControl bits
  by_cases hsnap : value &&& snapNow ≠ 0
  · simp only
    rw [if_pos hsnap]
    cases s.sims.trace with
    | none => exact congrArg controlBits (syncFromCmdq_status s.sims.cmdq s.mmio.regs)
    | some tr =>
      let tr' := tr.snapshotAll (s.sims.cmdq.map Cmdq.counters) s.sims.device none
      exact congrArg controlBits (syncFromTrace_status (some tr') s.mmio.regs)
  · simp only
    rw [if_neg hsnap]
    rfl

theorem bits_woWrite (s : MmioState Ctx) {offset : UInt32} (value : UInt32) (hv : validOffset offset = true) :
    (s.woWrite offset value).bits =
      if s.ResetsTile offset then { s.bits with device := true } else s.bits.write offset value := by
  obtain ⟨-, hsize⟩ := (Bool.and_eq_true _ _).mp hv
  unfold woWrite
  by_cases hbase : tileBase ≤ offset
  · have hcontrol : offset ≠ globalControl ∧ offset ≠ resetControl := by
      constructor <;> rintro rfl <;> exact absurd hbase (by decide)
    have hwrite : s.bits.write offset value = s.bits := by
      unfold ControlState.write
      rw [if_neg hcontrol.1, if_neg fun h => hcontrol.2 h.1]
    rw [if_pos hbase, hwrite]
    by_cases htile : (offset - tileBase) % tileStride = tileResetControl
    · rw [if_pos htile, bits_resetTile]
      simp only [ResetsTile, hbase, htile, of_decide_eq_true hsize, true_and]
    · rw [if_neg htile, if_neg fun h => htile h.2.2.1]
  · have hreset : ¬ s.ResetsTile offset := fun h => hbase h.2.1
    rw [if_neg hbase, if_neg hreset]
    unfold ControlState.write
    by_cases hcontrol : offset = globalControl
    · rw [if_pos hcontrol, if_pos hcontrol]
      exact controlBits_controlStatus value _
    · rw [if_neg hcontrol, if_neg hcontrol]
      by_cases hrc : offset = resetControl
      · rw [if_pos hrc, bits_writeResetControl]
        simp only [hrc, true_and]
      · have hsame : ¬ (offset = resetControl ∧ value &&& rstctlSoftResetAll ≠ 0) := fun h => hrc h.1
        rw [if_neg hrc, if_neg hsame]
        by_cases hdoorbell : offset = cqDoorbell
        · rw [if_pos hdoorbell]
          rfl
        · rw [if_neg hdoorbell]

/-- A register that is in none of the four lists of single registers. -/
theorem accessType_of_not_listed {offset : UInt32}
    (h : ∀ regs ∈ [readOnlyRegs, readWriteRegs, clearRegs, writeOnlyRegs], offset ∉ regs) :
    accessType offset =
      if cntBase ≤ offset ∧ offset < cntEnd then .ro
      else if tileBase ≤ offset then tileAccessType ((offset - tileBase) % tileStride)
      else .reserved := by
  unfold accessType
  rw [if_neg (h _ (by simp)), if_neg (h _ (by simp)), if_neg (h _ (by simp)), if_neg (h _ (by simp))]

/-- The registers of the counter block. -/
theorem accessType_counter {offset : UInt32} (h : cntBase ≤ offset ∧ offset < cntEnd) : accessType offset = .ro := by
  have hlisted : ∀ off ∈ [readOnlyRegs, readWriteRegs, clearRegs, writeOnlyRegs].flatten,
      ¬ (cntBase ≤ off ∧ off < cntEnd) := forall_mem_of_all (by decide +kernel)
  rw [accessType_of_not_listed fun regs hregs hmem => hlisted offset (List.mem_flatten_of_mem hregs hmem) h, if_pos h]

/-- The registers of the tile windows. -/
theorem accessType_window {offset : UInt32} (h : tileBase ≤ offset) :
    accessType offset = tileAccessType ((offset - tileBase) % tileStride) := by
  have hlisted : ∀ off ∈ [readOnlyRegs, readWriteRegs, clearRegs, writeOnlyRegs].flatten, ¬ tileBase ≤ off :=
    forall_mem_of_all (by decide +kernel)
  have hcount : ¬ (cntBase ≤ offset ∧ offset < cntEnd) := fun hc =>
    absurd (UInt32.lt_of_le_of_lt h hc.2) (by decide)
  rw [accessType_of_not_listed fun regs hregs hmem => hlisted offset (List.mem_flatten_of_mem hregs hmem) h, if_neg hcount,
    if_pos h]

/-- The control registers and the tile resets are write-only. -/
theorem accessType_wo {s : MmioState Ctx} {offset : UInt32}
    (h : offset = globalControl ∨ offset = resetControl ∨ s.ResetsTile offset) :
    validOffset offset = true ∧ accessType offset = .wo := by
  rcases h with rfl | rfl | ⟨hsize, hbase, htile, -⟩
  · exact ⟨rfl, rfl⟩
  · exact ⟨rfl, rfl⟩
  · have halign : offset % 4 = 0 := by
      apply UInt32.toNat_inj.mp
      have h1 := congrArg UInt32.toNat htile
      have h2 := UInt32.le_iff_toNat_le.mp hbase
      have hstride : tileStride.toNat = 0x800 := rfl
      have hstart : tileBase.toNat = 0x8000 := rfl
      have hoff : tileResetControl.toNat = 0x40 := rfl
      have hfour : (4 : UInt32).toNat = 4 := rfl
      have hzero : (0 : UInt32).toNat = 0 := rfl
      rw [UInt32.toNat_mod, UInt32.toNat_sub_of_le _ _ hbase, hstride, hstart, hoff] at h1
      rw [UInt32.toNat_mod, hfour, hzero]
      omega
    refine ⟨by simp [validOffset, halign, hsize], ?_⟩
    rw [accessType_window hbase, htile]
    rfl

theorem bits_write32 (s : MmioState Ctx) (offset value : UInt32) :
    (s.write32 offset value).1.bits =
      if s.ResetsTile offset then { s.bits with device := true } else s.bits.write offset value := by
  have hquiet : ¬ (validOffset offset = true ∧ accessType offset = .wo) →
      (if s.ResetsTile offset then { s.bits with device := true } else s.bits.write offset value) = s.bits := by
    intro h
    unfold ControlState.write
    rw [if_neg fun hr => h (accessType_wo (.inr (.inr hr))),
      if_neg fun hc => h (accessType_wo (s := s) (.inl hc)),
      if_neg fun hc => h (accessType_wo (s := s) (.inr (.inl hc.1)))]
  unfold write32
  by_cases hv : validOffset offset = true
  · rw [if_neg (not_not.mpr hv)]
    have hother : ∀ cells : List (UInt32 × UInt32), offset ≠ globalStatus → (∀ c ∈ cells, c.1 = offset) →
        bits { s with mmio := { s.mmio with regs := s.mmio.regs.store cells } } = s.bits := by
      intro cells hne hcells
      exact congrArg controlBits (RegFile.store_of_not_mem fun c hc => hcells c hc ▸ hne)
    cases hat : accessType offset with
    | ro => exact (hquiet fun h => by simp [hat] at h).symm
    | rw =>
      have hne : offset ≠ globalStatus := by
        rintro rfl
        cases hat
      rw [hquiet fun h => by simp [hat] at h]
      simp only
      split_ifs with hsnap
      · exact bits_writeSnapshotControl s value
      · exact hother _ hne (by simp)
    | rw1c =>
      have hne : offset ≠ globalStatus := by
        rintro rfl
        cases hat
      rw [hquiet fun h => by simp [hat] at h]
      exact hother _ hne (by simp)
    | wo => exact bits_woWrite s value hv
    | reserved => exact (hquiet fun h => by simp [hat] at h).symm
  · rw [if_pos hv]
    exact (hquiet fun h => hv h.1).symm

/-- The upper half of a pair is no TILE_RESET_CONTROL, and it is a control register only above another one. -/
theorem validPair_upper {offset : UInt32} (h : validPair offset = true) :
    ¬ s.ResetsTile (offset + 4) ∧ offset + 4 ≠ globalControl ∧
      (offset + 4 = resetControl → offset = globalControl) := by
  obtain ⟨halign, hsize⟩ := (Bool.and_eq_true _ _).mp h
  have h8 := congrArg UInt32.toNat (of_decide_eq_true halign)
  have hlt := UInt32.lt_iff_toNat_lt.mp (of_decide_eq_true hsize)
  have height : (8 : UInt32).toNat = 8 := rfl
  have hfour : (4 : UInt32).toNat = 4 := rfl
  have hbar : bar0Size.toNat = 0x10000 := rfl
  have hzero : (0 : UInt32).toNat = 0 := rfl
  have hbound := offset.toNat_lt
  rw [UInt32.toNat_mod, height, hzero] at h8
  rw [UInt32.toNat_add, hfour, hbar] at hlt
  refine ⟨?_, ?_, ?_⟩
  · rintro ⟨-, hbase, htile, -⟩
    have h1 := congrArg UInt32.toNat htile
    have h2 := UInt32.le_iff_toNat_le.mp hbase
    have hstride : tileStride.toNat = 0x800 := rfl
    have hstart : tileBase.toNat = 0x8000 := rfl
    have hoff : tileResetControl.toNat = 0x40 := rfl
    rw [UInt32.toNat_mod, UInt32.toNat_sub_of_le _ _ hbase, UInt32.toNat_add, hstride, hstart, hoff, hfour] at h1
    rw [UInt32.toNat_add, hstart, hfour] at h2
    omega
  · intro h
    have h1 := congrArg UInt32.toNat h
    have hcontrol : globalControl.toNat = 0x28 := rfl
    rw [UInt32.toNat_add, hfour, hcontrol] at h1
    omega
  · intro h
    have h1 := congrArg UInt32.toNat h
    have hcontrol : resetControl.toNat = 0x2C := rfl
    rw [UInt32.toNat_add, hfour, hcontrol] at h1
    apply UInt32.toNat_inj.mp
    have hcontrol : globalControl.toNat = 0x28 := rfl
    omega

/-- A refused write leaves the register file alone. -/
theorem write32_refused {offset value : UInt32} (h : (s.write32 offset value).2 ≠ .ok) :
    (s.write32 offset value).1 = s ∧ ¬ (validOffset offset = true ∧ accessType offset = .wo) := by
  unfold write32 at h ⊢
  by_cases hv : validOffset offset = true
  · rw [if_neg (not_not.mpr hv)] at h ⊢
    cases hat : accessType offset <;> simp only [hat] at h ⊢
    · simp
    · split_ifs at h <;> exact absurd rfl h
    all_goals exact absurd rfl h
  · rw [if_pos hv]
    exact ⟨rfl, fun hw => hv hw.1⟩

theorem bits_write64 (s : MmioState Ctx) {offset : UInt32} (value : UInt64) (hv : validPair offset = true) :
    (s.write64 offset value).1.bits =
      if s.ResetsTile offset then { s.bits with device := true }
      else (s.bits.write offset value.toUInt32).write (offset + 4) (value >>> 32).toUInt32 := by
  have hupper : ∀ s : MmioState Ctx, ¬ s.ResetsTile (offset + 4) := fun s => (validPair_upper (s := s) hv).1
  obtain ⟨-, hgc, hrc⟩ := validPair_upper (s := s) hv
  -- Unless the lower half is GLOBAL_CONTROL, the upper half controls nothing.
  have hquiet : ∀ c : ControlState, offset ≠ globalControl →
      c.write (offset + 4) (value >>> 32).toUInt32 = c := by
    intro c hne
    unfold ControlState.write
    rw [if_neg hgc, if_neg fun h => hne (hrc h.1)]
  have hlower := bits_write32 s offset value.toUInt32
  unfold write64
  rw [if_neg (not_not.mpr hv)]
  by_cases hok : (s.write32 offset value.toUInt32).2 = .ok
  · obtain ⟨s₁, hs₁⟩ : ∃ s₁, s.write32 offset value.toUInt32 = (s₁, .ok) := ⟨_, Prod.ext rfl hok⟩
    rw [hs₁] at hlower ⊢
    show (s₁.write32 (offset + 4) (value >>> 32).toUInt32).1.bits = _
    rw [bits_write32, if_neg (hupper s₁), hlower]
    by_cases htile : s.ResetsTile offset
    · rw [if_pos htile, if_pos htile]
      refine hquiet _ ?_
      rintro rfl
      exact absurd htile.2.1 (by decide)
    · rw [if_neg htile, if_neg htile]
  · obtain ⟨hsame, hwo⟩ := write32_refused hok
    have htile : ¬ s.ResetsTile offset := fun h => hwo (accessType_wo (.inr (.inr h)))
    have hcontrol : offset ≠ globalControl := fun h => hwo (accessType_wo (s := s) (.inl h))
    rw [if_neg htile, hsame] at hlower
    rw [if_neg htile, hquiet _ hcontrol, ← hlower]
    generalize s.write32 offset value.toUInt32 = r at hsame hok ⊢
    obtain ⟨s₁, st⟩ := r
    obtain rfl : s₁ = s := hsame
    cases st <;> first | rfl | exact absurd rfl hok

end MmioState

/-! ### Runs -/

/-- What is done with a register file; `attach` stands for the attach calls and for everything that happens to the
attached simulators elsewhere. -/
inductive MmioOp (Ctx : Type)
  | read32 (offset : UInt32)
  | write32 (offset value : UInt32)
  | read64 (offset : UInt32)
  | write64 (offset : UInt32) (value : UInt64)
  | sync
  | reset
  | probe
  | snapshotCounters (q : Option CmdqCounters) (dma : Option DmaCounters)
  | attach (sims : Sims Ctx)

/-- The status that a call with a result returns. -/
def statusOf {α : Type} : Except Status α → Status
  | .ok _ => .ok
  | .error st => st

/-- `att1_aimu_host_snapshot_counters`, on a register file with a trace. -/
def MmioState.snapshotCounters {Ctx : Type} (s : MmioState Ctx) (q : Option CmdqCounters)
    (dma : Option DmaCounters) : MmioState Ctx :=
  { s with sims := { s.sims with trace := s.sims.trace.map (AimuTrace.snapshotAll · q s.sims.device dma) } }.sync

/-- The state and the status after an operation; a probe refreshes the registers and then reads them. -/
def MmioState.perform {Ctx : Type} (s : MmioState Ctx) : MmioOp Ctx → MmioState Ctx × Status
  | .read32 offset => (s, statusOf (s.read32 offset))
  | .write32 offset value => s.write32 offset value
  | .read64 offset => (s, statusOf (s.read64 offset))
  | .write64 offset value => s.write64 offset value
  | .sync => (s.sync, .ok)
  | .reset => (s.reset, .ok)
  | .probe => (s.sync, statusOf s.sync.probe)
  | .snapshotCounters q dma => (s.snapshotCounters q dma, .ok)
  | .attach sims => ({ s with sims := sims }, .ok)

/-- What an operation asks for. -/
def ControlState.after {Ctx : Type} (c : ControlState) : MmioOp Ctx → ControlState
  | .write32 offset value => c.write offset value
  | .write64 offset value =>
    if MmioState.validPair offset then
      (c.write offset value.toUInt32).write (offset + 4) (value >>> 32).toUInt32
    else c
  | .reset => {}
  | _ => c

/-- What a history asks for. -/
def asked {Ctx : Type} (is : List (MmioOp Ctx × Status)) : ControlState :=
  is.foldl (fun c i => c.after i.1) {}

namespace MmioState

variable {Ctx : Type} {s s' : MmioState Ctx} {is : List (MmioOp Ctx × Status)} {i : MmioOp Ctx × Status}

/-- One operation with the status it returned. -/
def Step (s : MmioState Ctx) (i : MmioOp Ctx × Status) (s' : MmioState Ctx) : Prop := s.perform i.1 = (s', i.2)

theorem step_deterministic : Deterministic (Step : MmioState Ctx → MmioOp Ctx × Status → MmioState Ctx → Prop) := by
  intro s i t u ht hu
  exact congrArg Prod.fst (ht.symm.trans hu)

/-- DEVICE_READY and TRACE_ACTIVE are what was asked for, and a probe that ends the history succeeded exactly when
the device was enabled. -/
def ControlLaw (is : List (MmioOp Ctx × Status)) (s : MmioState Ctx) : Prop :=
  s.bits = asked is ∧ ∀ js st, is = js ++ [(.probe, st)] → (st = .ok ↔ (asked js).device = true)

/-- The operation copies no default over a control bit: a refresh of all registers comes with the device enabled and
the trace disabled, the reset of a tile with the device enabled. -/
def Keeps (s : MmioState Ctx) : MmioOp Ctx → Prop
  | .sync | .probe | .snapshotCounters .. => s.bits.device = true ∧ s.bits.trace = false
  | .write32 offset _ => s.ResetsTile offset → s.bits.device = true
  | .write64 offset _ => validPair offset → s.ResetsTile offset → s.bits.device = true
  | _ => True

theorem asked_snoc (is : List (MmioOp Ctx × Status)) (i : MmioOp Ctx × Status) :
    asked (is ++ [i]) = (asked is).after i.1 := by
  unfold asked
  rw [List.foldl_append]
  rfl

theorem default_eq_iff (c : ControlState) : ({} : ControlState) = c ↔ c.device = true ∧ c.trace = false := by
  rw [ControlState.ext_iff]
  exact and_congr eq_comm eq_comm

/-- A write that resets no tile does what it asks for, and one that does sets DEVICE_READY. -/
theorem reset_eq_iff {c c' : ControlState} {p : Prop} [Decidable p] (hp : p → c' = c) :
    (if p then { c with device := true } else c') = c' ↔ (p → c.device = true) := by
  by_cases h : p
  · rw [if_pos h, hp h, ControlState.ext_iff]
    exact ⟨fun heq _ => heq.1.symm, fun hd => ⟨(hd h).symm, rfl⟩⟩
  · rw [if_neg h]
    exact iff_of_true rfl fun hp => absurd hp h

/-- A tile reset asks for nothing. -/
theorem ResetsTile.write_eq {offset : UInt32} (h : s.ResetsTile offset) (c : ControlState) (value : UInt32) :
    c.write offset value = c := by
  have hne : ∀ off, off < tileBase → offset ≠ off := by
    rintro off hlow rfl
    exact UInt32.not_le.mpr hlow h.2.1
  unfold ControlState.write
  rw [if_neg (hne _ (by decide)), if_neg fun hc => hne _ (by decide) hc.1]

/-- An operation does to the two bits what it asks for exactly when it copies no default over them. -/
theorem bits_perform_iff (s : MmioState Ctx) (op : MmioOp Ctx) :
    (s.perform op).1.bits = s.bits.after op ↔ s.Keeps op := by
  cases op with
  | read32 offset => exact iff_true_intro rfl
  | read64 offset => exact iff_true_intro rfl
  | attach sims => exact iff_true_intro rfl
  | reset => exact iff_true_intro (bits_reset s)
  | sync =>
    show s.sync.bits = s.bits ↔ _
    rw [bits_sync]
    exact default_eq_iff _
  | probe =>
    show s.sync.bits = s.bits ↔ _
    rw [bits_sync]
    exact default_eq_iff _
  | snapshotCounters q dma =>
    show (s.snapshotCounters q dma).bits = s.bits ↔ _
    unfold snapshotCounters
    rw [bits_sync]
    exact default_eq_iff _
  | write32 offset value =>
    show (s.write32 offset value).1.bits = s.bits.write offset value ↔ _
    rw [bits_write32]
    exact reset_eq_iff fun h => h.write_eq _ _
  | write64 offset value =>
    show (s.write64 offset value).1.bits =
      (if validPair offset then (s.bits.write offset value.toUInt32).write (offset + 4) (value >>> 32).toUInt32
        else s.bits) ↔ _
    by_cases hv : validPair offset = true
    · rw [bits_write64 s value hv, if_pos hv]
      have hup : ∀ c : ControlState, s.ResetsTile offset → c.write (offset + 4) (value >>> 32).toUInt32 = c := by
        intro c h
        obtain ⟨-, hgc, hrc⟩ := validPair_upper (s := s) hv
        unfold ControlState.write
        rw [if_neg hgc, if_neg]
        rintro ⟨hc, -⟩
        obtain rfl := hrc hc
        exact absurd h.2.1 (by decide)
      refine (reset_eq_iff fun h => ?_).trans ⟨fun h _ => h, fun h => h hv⟩
      rw [h.write_eq, hup _ h]
    · unfold write64
      rw [if_pos hv, if_neg hv]
      exact iff_of_true rfl fun h => absurd h hv

/-- After a refresh of all registers a probe succeeds. -/
theorem probe_sync (s : MmioState Ctx) : statusOf s.sync.probe = .ok := by
  have hready : ¬ (s.sync.mmio.regs globalStatus &&& gstatDeviceReady = 0) := by
    have h := congrArg ControlState.device s.bits_sync
    exact of_decide_eq_true h
  have hread : s.sync.read32 globalStatus = .ok (s.sync.mmio.regs globalStatus) := rfl
  have hprobe : s.sync.probe =
      (if s.sync.mmio.regs globalStatus &&& gstatDeviceReady = 0 then .error .state
        else .ok ⟨s.sync.mmio.regs deviceId, s.sync.mmio.regs registerMapVersion, s.sync.mmio.regs globalStatus,
          s.sync.mmio.regs tileCount⟩) := by
    unfold probe
    rw [hread]
    rfl
  rw [hprobe, if_neg hready]
  rfl

/-- **Control bits survive exactly the guarded runs.**  In a run from a new register file, with anything attached at
any time, DEVICE_READY and TRACE_ACTIVE are throughout what was last asked for since the last full reset, and probes
succeed exactly while the device is enabled, if and only if no operation of the run copies a default over them. -/
theorem control_law_iff {host : Host} {s₀ : MmioState Ctx} (hc : create host = .ok s₀) (hr : Run Step s₀ is s) :
    Lawful Step s₀ ControlLaw is ↔ Guarded Step s₀ (fun s i => s.Keeps i.1) is := by
  have h0 : ControlLaw [] s₀ := by
    unfold create at hc
    split_ifs at hc
    cases hc
    exact ⟨congrArg controlBits (setDefaults_status fun _ => 0), fun js st h => by simp at h⟩
  have hbits : ∀ {is : List (MmioOp Ctx × Status)} {s i s'}, ControlLaw is s → Step s i s' →
      (s'.bits = asked (is ++ [i]) ↔ s.Keeps i.1) := by
    intro is s i s' hi hs
    rw [asked_snoc, ← hi.1, ← bits_perform_iff, show s.perform i.1 = (s', i.2) from hs]
  refine hr.law_iff_guard step_deterministic h0 (fun _ _ h => h) ?_ ?_
  · intro is s i s' hi hg hs
    refine ⟨(hbits hi hs).mpr hg, ?_⟩
    intro js st heq
    obtain ⟨rfl, hlast⟩ := List.append_inj' heq rfl
    obtain rfl : i = (.probe, st) := by simpa using hlast
    have hst : st = .ok := (congrArg Prod.snd hs).symm.trans (probe_sync s)
    rw [← hi.1]
    exact iff_of_true hst hg.1
  · intro is s i s' hi hg hs hlaw
    exact hg ((hbits hi hs).mp hlaw.1)

/-- A device is disabled and enabled again before the refresh, and the trace enabled after it. -/
theorem control_law_iff_reenabled : ∃ s₀ s : MmioState Unit, create .generous = .ok s₀ ∧
    Run Step s₀ [(.write32 globalControl gctrlDisableDevice, .ok), (.write32 globalControl gctrlEnableDevice, .ok),
      (.probe, .ok), (.write32 globalControl gctrlEnableTrace, .ok)] s ∧
    Lawful Step s₀ ControlLaw [(.write32 globalControl gctrlDisableDevice, .ok),
      (.write32 globalControl gctrlEnableDevice, .ok), (.probe, .ok),
      (.write32 globalControl gctrlEnableTrace, .ok)] := by
  obtain ⟨s, hrun⟩ : ∃ s, Run (fun s i t => Step s i t ∧ s.Keeps i.1)
      (⟨{ regs := setDefaults fun _ => 0 }, {}⟩ : MmioState Unit)
      [(.write32 globalControl gctrlDisableDevice, .ok), (.write32 globalControl gctrlEnableDevice, .ok),
        (.probe, .ok), (.write32 globalControl gctrlEnableTrace, .ok)] s := by
    refine ⟨_, Run.cons ⟨rfl, ?_⟩ <| Run.cons ⟨rfl, ?_⟩ <| Run.cons ⟨rfl, ?_⟩ <| Run.cons ⟨rfl, ?_⟩ Run.nil⟩
    · exact fun h => absurd h.2.1 (by decide)
    · exact fun h => absurd h.2.1 (by decide)
    · exact ⟨rfl, rfl⟩
    · exact fun h => absurd h.2.1 (by decide)
  obtain ⟨hr, hg⟩ := hrun.guarded step_deterministic
  have hc : create .generous = .ok (⟨{ regs := setDefaults fun _ => 0 }, {}⟩ : MmioState Unit) := rfl
  exact ⟨_, s, hc, hr, (control_law_iff hc hr).mpr hg⟩

/-- A probe breaks the law in every state in which something else than the defaults was asked for. -/
theorem probe_breaks {s₀ : MmioState Ctx} (hr : Run Step s₀ is s) (h : asked is ≠ {}) :
    Run Step s₀ (is ++ [(.probe, .ok)]) s.sync ∧ ¬ ControlLaw (is ++ [(.probe, .ok)]) s.sync := by
  refine ⟨hr.snoc (Prod.ext rfl (probe_sync s)), ?_⟩
  rintro ⟨hbits, -⟩
  rw [bits_sync, asked_snoc] at hbits
  exact h hbits.symm

/-- A refresh disables the trace and enables the device again, and the probe of the disabled device succeeds. -/
theorem refresh_undoes_control : ∃ (dev : AimuDevice) (s₀ s : MmioState Unit),
    AimuDevice.create .generous none = .ok dev ∧ create .generous = .ok s₀ ∧
    Run Step s₀ [(.attach { device := some dev }, .ok),
      (.write32 globalControl (gctrlEnableTrace ||| gctrlDisableDevice), .ok), (.probe, .ok)] s ∧
    s.bits = ⟨true, false⟩ ∧
    ¬ ControlLaw [(.attach { device := some dev }, .ok),
      (.write32 globalControl (gctrlEnableTrace ||| gctrlDisableDevice), .ok), (.probe, .ok)] s := by
  obtain ⟨dev, hdev⟩ : ∃ dev, AimuDevice.create .generous none = .ok dev := ⟨_, rfl⟩
  obtain ⟨s₀, s, hc, hr⟩ : ∃ s₀ s : MmioState Unit, create .generous = .ok s₀ ∧
      Run Step s₀ [(.attach { device := some dev }, .ok),
        (.write32 globalControl (gctrlEnableTrace ||| gctrlDisableDevice), .ok)] s :=
    ⟨_, _, rfl, Run.cons rfl (Run.cons rfl Run.nil)⟩
  have hasked : asked [((.attach { device := some dev } : MmioOp Unit), Status.ok),
      (.write32 globalControl (gctrlEnableTrace ||| gctrlDisableDevice), .ok)] ≠ {} := by
    intro h
    have htrace : true = false := congrArg ControlState.trace h
    cases htrace
  obtain ⟨hrun, hlaw⟩ := probe_breaks hr hasked
  exact ⟨dev, s₀, s.sync, hdev, hc, hrun, bits_sync s, hlaw⟩

end MmioState

end Att1
