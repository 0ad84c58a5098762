import Att1.Aimu.DmaRules
import Att1.Aimu.Replay

/-!
# Att1.Aimu.ReplayLoads — which plans are replayed without a failure

The replay puts each tensor into an address range of its own and registers a region for it on either side, as long as
the DMA simulator has room for it.

* `Registered`: the regions after some loads; `validate_loadDesc`: which loads are then valid.
* `replay_passes_iff`: the plans of tensors that lie apart which are replayed without a failure.
-/

open Att1.Lib

namespace Att1.Replay

variable {Ctx : Type} {tiles : ℕ} {host : Host} {nullCtx : Ctx} {plan : CommandPlan} {h₀ : AimuHost Ctx}

/-! ### Plans of tensors that lie apart -/

namespace PlanCmd

/-- The command is a load that reaches the DMA simulator. -/
def loads (tiles : ℕ) (pc : PlanCmd) : Bool :=
  mapCmdType pc.commandType = some .loadTensorTile ∧ mapExpectedResult pc.expectedStatus ≠ .errUnsupportedOp ∧
    0 ≤ pc.tileId ∧ pc.tileId < (tiles : ℤ)

/-- The command is sent, if its tile is there. -/
def Sent (pc : PlanCmd) : Prop :=
  mapCmdType pc.commandType ≠ none ∧ mapExpectedResult pc.expectedStatus ≠ .errUnsupportedOp

/-- A command that is sent names a tile of the device, is not expected to be refused, and if it is a load of 4-bit
weights, then of whole groups. -/
structure Sound (tiles : ℕ) (pc : PlanCmd) : Prop where
  tile : pc.Sent → 0 ≤ pc.tileId ∧ pc.tileId < (tiles : ℤ)
  expected : pc.Sent → mapExpectedResult pc.expectedStatus ≠ .errInvalidCommand
  groups : pc.loads tiles = true → AimuDma.q4Misaligned pc.loadDesc = false

/-- The tensor of a load lies in the address range of its slot, with the margin of its region. -/
def InSlot (pc : PlanCmd) : Prop := 0 ≤ pc.slot ∧ pc.slot < 2 ^ 32 ∧ pc.packedBytes ≤ 65408

instance (pc : PlanCmd) : Decidable pc.InSlot :=
  inferInstanceAs (Decidable (0 ≤ pc.slot ∧ pc.slot < 2 ^ 32 ∧ pc.packedBytes ≤ 65408))

variable {pc : PlanCmd}

theorem loadBytes_bounds (h : pc.InSlot) : 1 ≤ pc.loadBytes.toNat ∧ pc.loadBytes.toNat ≤ 65408 := by
  unfold loadBytes
  split_ifs with hpos
  · have hbytes : (UInt32.ofInt pc.packedBytes).toNat = pc.packedBytes.toNat := by
      have hle := h.2.2
      show (UInt32.ofNat (pc.packedBytes % 2 ^ 32).toNat).toNat = _
      rw [UInt32.toNat_ofNat_of_lt' (by show _ < 2 ^ 32; omega)]
      omega
    have hle := h.2.2
    rw [hbytes]
    omega
  · decide

/-- The address of a slot. -/
theorem toNat_address (h : pc.InSlot) {base : UInt64} (hbase : base.toNat ≤ 2 ^ 62) :
    (base + UInt64.ofInt pc.slot * 0x10000).toNat = base.toNat + pc.slot.toNat * 65536 := by
  obtain ⟨hnonneg, hlt, -⟩ := h
  have hslot : (UInt64.ofInt pc.slot).toNat = pc.slot.toNat := by
    show (UInt64.ofNat (pc.slot % 2 ^ 64).toNat).toNat = _
    rw [UInt64.toNat_ofNat_of_lt' (by show _ < 2 ^ 64; omega)]
    omega
  rw [UInt64.toNat_add, UInt64.toNat_mul, hslot]
  show (base.toNat + pc.slot.toNat * 65536 % 2 ^ 64) % 2 ^ 64 = _
  omega

/-- The regions that are registered for the loads so far: the table has eight entries. -/
def regionsOf (base : UInt64) (seen : List PlanCmd) : List DmaRegion :=
  (seen.take 8).map fun pc => ⟨base + UInt64.ofInt pc.slot * 0x10000, pc.loadBytes.toUInt64 + 128⟩

theorem length_regionsOf (base : UInt64) (seen : List PlanCmd) : (regionsOf base seen).length = min 8 seen.length := by
  unfold regionsOf
  rw [List.length_map, List.length_take]

theorem regionsOf_snoc (base : UInt64) (seen : List PlanCmd) (pc : PlanCmd) :
    regionsOf base (seen ++ [pc]) = if 8 ≤ (regionsOf base seen).length then regionsOf base seen
      else regionsOf base seen ++ [⟨base + UInt64.ofInt pc.slot * 0x10000, pc.loadBytes.toUInt64 + 128⟩] := by
  rw [length_regionsOf]
  unfold regionsOf
  split_ifs with h
  · rw [List.take_append_of_le_length (le_trans h (min_le_right _ _))]
  · have hlt : seen.length < 8 := by omega
    rw [@List.take_of_length_le _ _ (seen ++ [pc]) (by rw [List.length_append, List.length_singleton]; omega),
      List.take_of_length_le (by omega), List.map_append]
    rfl

theorem aligned_address (base : UInt64) (hbase : 64 ∣ base.toNat) (slot : UInt64) :
    (base + slot * 0x10000) % 64 = 0 := by
  rw [← UInt64.toNat_inj, UInt64.toNat_mod, UInt64.toNat_add, UInt64.toNat_mul]
  show (base.toNat + slot.toNat * 65536 % 2 ^ 64) % 2 ^ 64 % 64 = 0
  omega

theorem regionSize_ne_zero (pc : PlanCmd) : pc.loadBytes.toUInt64 + 128 ≠ 0 := by
  intro h
  have hlt := pc.loadBytes.toNat_lt
  rw [← UInt64.toNat_inj, UInt64.toNat_add, UInt32.toNat_toUInt64] at h
  replace h : (pc.loadBytes.toNat + 128) % 2 ^ 64 = 0 := h
  omega

theorem registerHostRegion_regions (sim : AimuDma) {base size : UInt64} (hsize : size ≠ 0) (hbase : base % 64 = 0) :
    (sim.registerHostRegion base size).1.hostRegions =
        (if 8 ≤ sim.hostRegions.length then sim.hostRegions else sim.hostRegions ++ [⟨base, size⟩]) ∧
      (sim.registerHostRegion base size).1.deviceRegions = sim.deviceRegions := by
  unfold AimuDma.registerHostRegion
  rw [if_neg (by rw [not_or, not_not]; exact ⟨hsize, hbase⟩)]
  split_ifs <;> exact ⟨rfl, rfl⟩

theorem registerDeviceRegion_regions (sim : AimuDma) {base size : UInt64} (hsize : size ≠ 0) (hbase : base % 64 = 0) :
    (sim.registerDeviceRegion base size).1.deviceRegions =
        (if 8 ≤ sim.deviceRegions.length then sim.deviceRegions else sim.deviceRegions ++ [⟨base, size⟩]) ∧
      (sim.registerDeviceRegion base size).1.hostRegions = sim.hostRegions := by
  unfold AimuDma.registerDeviceRegion
  rw [if_neg (by rw [not_or, not_not]; exact ⟨hsize, hbase⟩)]
  split_ifs <;> exact ⟨rfl, rfl⟩

/-- The simulator after some loads. -/
structure Registered (seen : List PlanCmd) (dma : AimuDma) : Prop where
  host : dma.hostRegions = regionsOf 0x0001000000000000 seen
  device : dma.deviceRegions = regionsOf 0x0002000000000000 seen

variable {seen : List PlanCmd} {dma : AimuDma}

theorem Registered.register (h : Registered seen dma) (pc : PlanCmd) :
    Registered (seen ++ [pc]) (pc.register dma) := by
  obtain ⟨hhost, hkept⟩ := registerHostRegion_regions dma (regionSize_ne_zero pc)
    (aligned_address 0x0001000000000000 (by decide) (UInt64.ofInt pc.slot))
  obtain ⟨hdevice, hkept'⟩ := registerDeviceRegion_regions
    (dma.registerHostRegion pc.hostAddr (pc.loadBytes.toUInt64 + 128)).1 (regionSize_ne_zero pc)
    (aligned_address 0x0002000000000000 (by decide) (UInt64.ofInt pc.slot))
  constructor
  · rw [regionsOf_snoc, ← h.host]
    exact hkept'.trans hhost
  · rw [regionsOf_snoc, ← h.device]
    refine hdevice.trans ?_
    rw [show (dma.registerHostRegion pc.hostAddr (pc.loadBytes.toUInt64 + 128)).1.deviceRegions = _ from hkept]

/-- A load of a slot of its own is inside a region exactly if there was room to register its own. -/
theorem inside_iff {base : UInt64} (hbase : base.toNat ≤ 2 ^ 62) (hslots : ∀ pc' ∈ seen ++ [pc], pc'.InSlot)
    (hapart : ∀ pc' ∈ seen, pc'.slot ≠ pc.slot) {desc : DmaDesc} (hbytes : desc.byteLength = pc.loadBytes) :
    (∃ r ∈ regionsOf base (seen ++ [pc]), desc.bytesAt (base + UInt64.ofInt pc.slot * 0x10000) ⊆ r.bytes ∧
        r.base.toNat + r.size.toNat < 2 ^ 64) ↔ seen.length < 8 := by
  have hpc := hslots pc (List.mem_append_right _ List.mem_cons_self)
  have haddr := toNat_address hpc hbase
  have hlen := loadBytes_bounds hpc
  have hsize : ∀ pc' : PlanCmd, pc'.InSlot → (pc'.loadBytes.toUInt64 + 128).toNat = pc'.loadBytes.toNat + 128 := by
    intro pc' h
    have hle := (loadBytes_bounds h).2
    rw [UInt64.toNat_add, UInt32.toNat_toUInt64]
    show (pc'.loadBytes.toNat + 128) % 2 ^ 64 = _
    omega
  unfold regionsOf DmaDesc.bytesAt DmaRegion.bytes
  rw [hbytes]
  constructor
  · rintro ⟨r, hr, hsub, -⟩
    obtain ⟨pc', hmem, rfl⟩ := List.mem_map.mp hr
    by_contra hfull
    have hseen : pc' ∈ seen := by
      rw [List.take_append_of_le_length (by omega)] at hmem
      exact List.mem_of_mem_take hmem
    have hpc' := hslots pc' (List.mem_append_left _ hseen)
    have hle := (loadBytes_bounds hpc').2
    -- the first byte of the load is in the region of another slot, which is too short for that
    have hfirst := hsub (Set.mem_Ico.mpr ⟨le_rfl, by omega⟩)
    rw [Set.mem_Ico, hsize pc' hpc', toNat_address hpc' hbase, haddr] at hfirst
    have hne := hapart pc' hseen
    obtain ⟨hnonneg, -, -⟩ := hpc
    obtain ⟨hnonneg', -, -⟩ := hpc'
    omega
  · intro hroom
    refine ⟨_, List.mem_map_of_mem (a := pc) ?_, ?_, ?_⟩
    · rw [List.take_of_length_le (by rw [List.length_append, List.length_singleton]; omega)]
      exact List.mem_append_right _ List.mem_cons_self
    · refine Set.Ico_subset_Ico_right (Nat.add_le_add_left ?_ _)
      rw [hsize pc hpc]
      exact Nat.le_add_right _ _
    · rw [hsize pc hpc, haddr]
      obtain ⟨hnonneg, hlt, -⟩ := hpc
      omega

/-- **Which loads are valid**: those of whole groups, up to the eighth. -/
theorem validate_loadDesc (h : Registered seen dma) (hslots : ∀ pc' ∈ seen ++ [pc], pc'.InSlot)
    (hapart : ∀ pc' ∈ seen, pc'.slot ≠ pc.slot) :
    (pc.register dma).validate pc.loadDesc = .ok ↔ AimuDma.q4Misaligned pc.loadDesc = false ∧ seen.length < 8 := by
  have hreg := h.register pc
  have hpc := hslots pc (List.mem_append_right _ List.mem_cons_self)
  have hlen := loadBytes_bounds hpc
  have hdirection : ¬ pc.loadDesc.direction = 2 := by
    show ¬ (0 : UInt8) = 2
    decide
  have hends : (pc.register dma).ends pc.loadDesc =
      [(pc.hostAddr, regionsOf 0x0001000000000000 (seen ++ [pc])),
        (pc.devAddr, regionsOf 0x0002000000000000 (seen ++ [pc]))] := by
    unfold AimuDma.ends
    rw [if_neg hdirection, hreg.host, hreg.device]
    rfl
  have hne : ∀ base, regionsOf base (seen ++ [pc]) ≠ [] := by
    intro base hnil
    have hlength := length_regionsOf base (seen ++ [pc])
    rw [hnil, List.length_nil, List.length_append, List.length_singleton] at hlength
    omega
  have hhost := @inside_iff pc seen 0x0001000000000000 (by decide) hslots hapart pc.loadDesc rfl
  have hdevice := @inside_iff pc seen 0x0002000000000000 (by decide) hslots hapart pc.loadDesc rfl
  rw [AimuDma.validate_ok_iff, AimuDma.q4Misaligned_iff]
  constructor
  · rintro ⟨hrules, hbelow⟩
    refine ⟨hrules.q4, hhost.mp (hbelow (pc.hostAddr, regionsOf 0x0001000000000000 (seen ++ [pc])) ?_ (hne _))⟩
    rw [hends]
    exact List.mem_cons_self
  · rintro ⟨hq4, hroom⟩
    have hbelow : AimuDma.BelowTop (pc.register dma) pc.loadDesc := by
      unfold AimuDma.BelowTop
      rw [hends, List.forall_mem_cons, List.forall_mem_singleton]
      exact ⟨fun _ => hhost.mpr hroom, fun _ => hdevice.mpr hroom⟩
    refine ⟨⟨Nat.zero_le 2, ⟨hlen.1, le_trans hlen.2 (by decide)⟩, ?_, ?_, hq4, ?_, ?_, ?_, fun hdir => ?_⟩, hbelow⟩
    · intro bit hbit
      exact Nat.zero_testBit bit
    · show (mapDtype pc.dtype).toNat ≤ 2
      unfold mapDtype
      split_ifs <;> decide
    · rw [hends, List.forall_mem_cons, List.forall_mem_singleton]
      constructor
      · exact Nat.dvd_of_mod_eq_zero
          (UInt64.toNat_inj.mpr (aligned_address 0x0001000000000000 (by decide) (UInt64.ofInt pc.slot)))
      · exact Nat.dvd_of_mod_eq_zero
          (UInt64.toNat_inj.mpr (aligned_address 0x0002000000000000 (by decide) (UInt64.ofInt pc.slot)))
    · rw [hends, List.forall_mem_cons, List.forall_mem_singleton]
      have h1 := @toNat_address _ hpc 0x0001000000000000 (by decide)
      have h2 := @toNat_address _ hpc 0x0002000000000000 (by decide)
      obtain ⟨hnonneg, hlt, -⟩ := hpc
      refine ⟨?_, ?_⟩
      · show pc.hostAddr.toNat + pc.loadBytes.toNat < 2 ^ 64
        unfold hostAddr
        rw [h1]
        show 0x0001000000000000 + _ + _ < 2 ^ 64
        omega
      · show pc.devAddr.toNat + pc.loadBytes.toNat < 2 ^ 64
        unfold devAddr
        rw [h2]
        show 0x0002000000000000 + _ + _ < 2 ^ 64
        omega
    · intro e he hregions
      obtain ⟨r, hr, hsub, -⟩ := hbelow e he hregions
      exact ⟨r, hr, hsub⟩
    · exact absurd hdir hdirection

end PlanCmd

namespace PlanCmd

variable {pc : PlanCmd} {seen : List PlanCmd} {dma : AimuDma} {tiles : ℕ}

theorem loads_iff : pc.loads tiles = true ↔ mapCmdType pc.commandType = some .loadTensorTile ∧
    mapExpectedResult pc.expectedStatus ≠ .errUnsupportedOp ∧ 0 ≤ pc.tileId ∧ pc.tileId < (tiles : ℤ) :=
  decide_eq_true_iff

/-- When a command does not fail. -/
theorem fails_iff : pc.fails (pc.verdict tiles dma) = false ↔ (pc.Sent → (0 ≤ pc.tileId ∧ pc.tileId < (tiles : ℤ)) ∧
    mapExpectedResult pc.expectedStatus ≠ .errInvalidCommand) ∧
      (pc.loads tiles = true → (pc.register dma).validate pc.loadDesc = .ok) := by
  rw [loads_iff]
  unfold Sent
  have hran : ∀ ctype, pc.fails (.ran ctype) = false ↔
      mapExpectedResult pc.expectedStatus ≠ .errInvalidCommand := fun _ => decide_eq_false_iff_not
  have hdecided := pc.decided tiles dma
  generalize pc.verdict tiles dma = v at hdecided ⊢
  generalize pc.regions tiles dma = dma' at hdecided
  cases hdecided with
  | unknownType htype =>
    rw [htype]
    exact iff_of_true rfl ⟨fun h => absurd rfl h.1, fun h => by cases h.1⟩
  | expectedUnsupported htype hexpected =>
    exact iff_of_true rfl ⟨fun h => absurd hexpected h.2, fun h => absurd hexpected h.2.1⟩
  | badTile htype hexpected htile =>
    rw [htype]
    refine iff_of_false Bool.noConfusion fun h => ?_
    have hin := (h.1 ⟨Option.some_ne_none _, hexpected⟩).1
    omega
  | badDma htype hexpected htile hdma =>
    exact iff_of_false Bool.noConfusion fun h => hdma (h.2 ⟨htype, hexpected, tile_of_not_bad htile⟩)
  | load htype hexpected htile hdma =>
    rw [hran, htype]
    constructor
    · exact fun h => ⟨fun _ => ⟨tile_of_not_bad htile, h⟩, fun _ => hdma⟩
    · exact fun h => (h.1 ⟨Option.some_ne_none _, hexpected⟩).2
  | other htype hload hexpected htile =>
    rw [hran, htype]
    constructor
    · exact fun h => ⟨fun _ => ⟨tile_of_not_bad htile, h⟩, fun h => absurd (Option.some.inj h.1) hload⟩
    · exact fun h => (h.1 ⟨Option.some_ne_none _, hexpected⟩).2

theorem regions_eq : pc.regions tiles dma = if pc.loads tiles = true then pc.register dma else dma := by
  have hdecided := pc.decided tiles dma
  generalize pc.verdict tiles dma = v at hdecided
  generalize pc.regions tiles dma = dma' at hdecided ⊢
  cases hdecided with
  | unknownType htype => exact (if_neg fun h => by cases htype.symm.trans (loads_iff.mp h).1).symm
  | expectedUnsupported htype hexpected => exact (if_neg fun h => (loads_iff.mp h).2.1 hexpected).symm
  | badTile htype hexpected htile =>
    refine (if_neg fun h => ?_).symm
    have hin := (loads_iff.mp h).2.2
    omega
  | badDma htype hexpected htile => exact (if_pos (loads_iff.mpr ⟨htype, hexpected, tile_of_not_bad htile⟩)).symm
  | load htype hexpected htile => exact (if_pos (loads_iff.mpr ⟨htype, hexpected, tile_of_not_bad htile⟩)).symm
  | other htype hload =>
    exact (if_neg fun h => hload (Option.some.inj (htype.symm.trans (loads_iff.mp h).1))).symm

end PlanCmd

/-- The loads of a plan are of tensors that lie apart, each in the range of its slot. -/
structure TensorsApart (tiles : ℕ) (commands : List PlanCmd) : Prop where
  apart : (commands.filter (PlanCmd.loads tiles)).Pairwise fun pc pc' => pc.slot ≠ pc'.slot
  inSlot : ∀ pc ∈ commands, pc.loads tiles = true → pc.InSlot

/-- No command fails exactly if each is sound and the loads are at most eight, with those seen before. -/
theorem no_fails_iff {commands seen : List PlanCmd} {dma : AimuDma} (hreg : PlanCmd.Registered seen dma)
    (hseen : ∀ pc ∈ seen, pc.InSlot) (hcommands : ∀ pc ∈ commands, pc.loads tiles = true → pc.InSlot)
    (hapart : (seen ++ commands.filter (PlanCmd.loads tiles)).Pairwise fun pc pc' => pc.slot ≠ pc'.slot) :
    (∀ d ∈ verdicts false tiles dma commands, d.1.fails d.2 = false) ↔ (∀ pc ∈ commands, pc.Sound tiles) ∧
      (commands.countP (PlanCmd.loads tiles) = 0 ∨ seen.length + commands.countP (PlanCmd.loads tiles) ≤ 8) := by
  induction commands generalizing seen dma with
  | nil => exact iff_of_true (fun d hd => by cases hd) ⟨fun pc hpc => (by cases hpc), .inl rfl⟩
  | cons pc rest ih =>
    have hrest : ∀ pc ∈ rest, pc.loads tiles = true → pc.InSlot := fun pc hpc =>
      hcommands pc (List.mem_cons_of_mem _ hpc)
    unfold verdicts
    rw [if_neg (fun h => Bool.noConfusion h.1), List.forall_mem_cons, List.forall_mem_cons, PlanCmd.fails_iff]
    by_cases hload : pc.loads tiles = true
    · rw [List.filter_cons_of_pos hload] at hapart
      have hslot := hcommands pc List.mem_cons_self hload
      have hall : ∀ pc' ∈ seen ++ [pc], pc'.InSlot := by
        rw [List.forall_mem_append, List.forall_mem_singleton]
        exact ⟨hseen, hslot⟩
      have hothers : ∀ pc' ∈ seen, pc'.slot ≠ pc.slot := fun pc' hpc' =>
        (List.pairwise_append.mp hapart).2.2 pc' hpc' pc List.mem_cons_self
      have hvalid := PlanCmd.validate_loadDesc hreg hall hothers
      rw [PlanCmd.regions_eq, if_pos hload, ih (hreg.register pc) hall hrest (by rwa [List.append_assoc]), hvalid,
        List.countP_cons_of_pos hload, List.length_append, List.length_singleton]
      constructor
      · rintro ⟨⟨hsent, hgroups⟩, hsound, hcount⟩
        have hroom := (hgroups hload).2
        refine ⟨⟨⟨fun h => (hsent h).1, fun h => (hsent h).2, fun h => (hgroups h).1⟩, hsound⟩, .inr ?_⟩
        omega
      · rintro ⟨⟨hpc, hsound⟩, hcount⟩
        refine ⟨⟨fun h => ⟨hpc.tile h, hpc.expected h⟩, fun h => ⟨hpc.groups h, ?_⟩⟩, hsound, .inr ?_⟩
        · omega
        · omega
    · rw [List.filter_cons_of_neg hload] at hapart
      rw [PlanCmd.regions_eq, if_neg hload, ih hreg hseen hrest hapart, List.countP_cons_of_neg hload]
      constructor
      · rintro ⟨⟨hsent, -⟩, hsound, hcount⟩
        exact ⟨⟨⟨fun h => (hsent h).1, fun h => (hsent h).2, fun h => absurd h hload⟩, hsound⟩, hcount⟩
      · rintro ⟨⟨hpc, hsound⟩, hcount⟩
        exact ⟨⟨fun h => ⟨hpc.tile h, hpc.expected h⟩, fun h => absurd h hload⟩, hsound, hcount⟩

/-- **Which plans are replayed.**  Where the loaded tensors lie apart, the tool (not strict) exits with 0 exactly if
every command that is sent names a tile of the device and is not expected to be refused, every 4-bit load is of whole
groups, and at most eight tensors are loaded: the DMA simulator has eight regions on either side. -/
theorem replay_passes_iff
    (hheader : 0 < plan.header.tileCount ∧ 0 ≤ plan.header.commandCount ∧ plan.header.version = 1)
    (hsome : plan.commands ≠ [])
    (hc : AimuHost.create host nullCtx (some { tileCount := plan.header.tileCount.toNat }) = .ok h₀)
    (hapart : TensorsApart plan.header.tileCount.toNat (plan.commands.take 256)) :
    (replayMain host nullCtx false plan).1 = 0 ↔
      (∀ pc ∈ plan.commands.take 256, pc.Sound plan.header.tileCount.toNat) ∧
        (plan.commands.take 256).countP (PlanCmd.loads plan.header.tileCount.toNat) ≤ 8 := by
  obtain ⟨h, rep, hmain, hb⟩ := replayMain_between false hheader hsome (fun h => Bool.noConfusion h) hc
  have hexit : (replayMain host nullCtx false plan).1 = 0 ↔ rep.statusPass = true := by
    rw [hmain]
    cases rep.statusPass
    · exact iff_of_false Nat.one_ne_zero Bool.noConfusion
    · exact iff_of_true rfl rfl
  have hstatus : rep.statusPass = true ↔
      ∀ d ∈ verdicts false plan.header.tileCount.toNat {} (plan.commands.take 256), d.1.fails d.2 = false :=
    hb.accounts.status.trans (forall₂_congr fun _ _ => and_iff_left fun h => Bool.noConfusion h)
  rw [hexit, hstatus, @no_fails_iff _ _ [] _ ⟨rfl, rfl⟩ (fun pc hpc => by cases hpc) hapart.inSlot hapart.apart,
    List.length_nil, Nat.zero_add]
  exact and_congr_right fun _ => ⟨fun h => by omega, .inr⟩

/-- The loads of the first `n` tensors. -/
def loadPlan (n : ℕ) : CommandPlan where
  header := { version := 1, tileCount := 1, commandCount := n }
  commands := (List.range n).map fun i =>
    { commandType := "LOAD_TENSOR_TILE", tileId := 0, dtype := "q8", packedBytes := 4096, tensorId := (i : ℤ) }

/-- Eight tensors are loaded, nine are not. -/
theorem replay_passes_iff_nine : (replayMain .generous () false (loadPlan 8)).1 = 0 ∧
    (replayMain .generous () false (loadPlan 9)).1 ≠ 0 := by
  obtain ⟨h₀, hc⟩ : ∃ h₀, AimuHost.create .generous () (some { tileCount := 1 }) = .ok h₀ := ⟨_, rfl⟩
  constructor
  · have htile : ∀ pc ∈ (loadPlan 8).commands.take 256,
        0 ≤ pc.tileId ∧ pc.tileId < ((loadPlan 8).header.tileCount.toNat : ℤ) := by decide +kernel
    have hexpected : ∀ pc ∈ (loadPlan 8).commands.take 256,
        mapExpectedResult pc.expectedStatus ≠ .errInvalidCommand := by decide +kernel
    have hgroups : ∀ pc ∈ (loadPlan 8).commands.take 256, AimuDma.q4Misaligned pc.loadDesc = false := by decide +kernel
    refine (@replay_passes_iff _ _ _ (loadPlan 8) _ (by decide) (by decide) hc
      ⟨by decide +kernel, by decide +kernel⟩).mpr ⟨fun pc hpc => ?_, by decide +kernel⟩
    exact ⟨fun _ => htile pc hpc, fun _ => hexpected pc hpc, fun _ => hgroups pc hpc⟩
  · refine mt (@replay_passes_iff _ _ _ (loadPlan 9) _ (by decide) (by decide) hc
      ⟨by decide +kernel, by decide +kernel⟩).mp fun h => absurd h.2 (by decide +kernel)

end Att1.Replay
