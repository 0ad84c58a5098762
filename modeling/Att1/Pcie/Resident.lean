import Att1.Aimu.DmaRules
import Att1.Lib.Partition
import Att1.Lib.Table

/-!
# Att1.Pcie.Resident — explicit weight transfers of the PCIe backend (`src/backend_pcie.c`)

`att1_backend_pcie_load_tensor` cuts a tensor into descriptors and hands them to the DMA queue of its endpoint, one
after the other, until one is refused.  The endpoint is a parameter, `dmaSubmit`.

* `loadPlan`: the descriptors of a transfer; `tiles_loadPlan`: they tile it.
* `loadChunks_submits`: the loop hands over the plan, up to the first descriptor that is refused.
* `loadTensor_tiles`: what a call hands over, and when the tensor is resident after it.
-/

open Att1.Lib

namespace Att1.Pcie

/-! ### The code -/

/-- `att1_aimu_dma_desc`. -/
structure LoadDesc extends DmaDesc where
  descriptorId : UInt32 := 0
  commandId : UInt32 := 0
  tensorId : UInt32 := 0
  checksum : UInt32 := 0
  dim0 : UInt16 := 0
  dim1 : UInt16 := 0
  deriving DecidableEq, Repr

/-- `att1_pcie_resident_tensor`. -/
structure PcieResidentTensor where
  tensorId : UInt32 := 0
  deviceAddr : UInt64 := 0
  byteLength : UInt64 := 0
  deriving DecidableEq, Repr

/-- `att1_backend_pcie_residency_counters`. -/
structure ResidencyCounters where
  tensorsResident : UInt64 := 0
  transfersSubmitted : UInt64 := 0
  descriptorsSubmitted : UInt64 := 0
  bytesTransferred : UInt64 := 0
  duplicateTransferRejections : UInt64 := 0
  deriving DecidableEq, Repr

/-- The part of `att1_pcie_backend_data` that explicit transfers use. -/
structure PcieTransferData where
  resident : ℕ → PcieResidentTensor := fun _ => {}
  residentCount : ℕ := 0
  nextDescriptorId : UInt32 := 0
  residencyCounters : ResidencyCounters := {}

/-- `ATT1_BACKEND_PCIE_MAX_RESIDENT_TENSORS`. -/
def maxResidentTensors : ℕ := 4096

/-- `ATT1_AIMU_DMA_FLAG_LAST_DESCRIPTOR`. -/
def flagLastDescriptor : UInt16 := 0x0004

/-- `ATT1_AIMU_DMA_HOST_TO_DEVICE`. -/
def hostToDevice : UInt8 := 0

/-- `resident_find`, up to the place in the table. -/
def PcieTransferData.residentFind (data : PcieTransferData) (tensorId : UInt32) : Option ℕ :=
  findSlot data.residentCount fun i => (data.resident i).tensorId == tensorId

/-- `att1_backend_pcie_tensor_is_resident`. -/
def PcieTransferData.isResident (data : PcieTransferData) (tensorId : UInt32) : Bool :=
  (data.residentFind tensorId).isSome

/-- What a caller of `att1_backend_pcie_load_tensor` passes. -/
structure LoadRequest where
  tensorId : UInt32
  hostAddr : UInt64
  deviceAddr : UInt64
  byteLength : UInt64
  dtype : UInt8 := 0
  quantGroupSize : UInt8 := 0
  deriving DecidableEq, Repr

/-- `ATT1_AIMU_DMA_MAX_TRANSFER_BYTES` as a `uint64_t`. -/
def maxChunk : UInt64 := AimuDma.maxTransferBytes.toUInt64

/-- The descriptor of the chunk at `offset`. -/
def chunkDesc (req : LoadRequest) (descriptorId : UInt32) (offset chunk : UInt64) : LoadDesc where
  hostAddr := req.hostAddr + offset
  deviceAddr := req.deviceAddr + offset
  byteLength := chunk.toUInt32
  descriptorId := descriptorId
  tensorId := req.tensorId
  dim0 := 0
  dim1 := 0
  dtype := req.dtype
  quantGroupSize := req.quantGroupSize
  direction := hostToDevice
  flags := if req.byteLength ≤ offset + chunk then flagLastDescriptor else 0

section Code

variable {σ : Type} (dmaSubmit : σ → LoadDesc → σ × Status)

/-- The bytes of the chunk at `offset`. -/
def chunkAt (byteLength offset : UInt64) : UInt64 :=
  let remaining := byteLength - offset
  if maxChunk < remaining then maxChunk else remaining

theorem toNat_chunkAt {byteLength offset : UInt64} (h : offset ≤ byteLength) :
    (chunkAt byteLength offset).toNat = min (0x10000000) (byteLength.toNat - offset.toNat) := by
  have hmax : maxChunk.toNat = 0x10000000 := rfl
  have hremaining := UInt64.toNat_sub_of_le _ _ h
  unfold chunkAt
  dsimp only
  by_cases hlarge : maxChunk < byteLength - offset
  · have hlt := UInt64.lt_iff_toNat_lt.mp hlarge
    rw [if_pos hlarge]
    omega
  · have hge := mt UInt64.lt_iff_toNat_lt.mpr hlarge
    rw [if_neg hlarge]
    omega

theorem toNat_add_chunkAt {byteLength offset : UInt64} (h : offset ≤ byteLength) :
    (offset + chunkAt byteLength offset).toNat = min (offset.toNat + 0x10000000) byteLength.toNat := by
  have hchunk := toNat_chunkAt h
  have hle := UInt64.le_iff_toNat_le.mp h
  have hlt := byteLength.toNat_lt
  rw [UInt64.toNat_add, hchunk]
  omega

/-- A chunk leaves less to do. -/
theorem chunkAt_decreases {byteLength offset : UInt64} (hlt : offset < byteLength) :
    byteLength.toNat - (offset + chunkAt byteLength offset).toNat < byteLength.toNat - offset.toNat := by
  have hlt := UInt64.lt_iff_toNat_lt.mp hlt
  rw [toNat_add_chunkAt (UInt64.le_iff_toNat_le.mpr (by omega))]
  omega

/-- The loop of `att1_backend_pcie_load_tensor`. -/
def loadChunks (req : LoadRequest) (endpoint : σ) (data : PcieTransferData) (offset : UInt64) :
    σ × PcieTransferData × Status :=
  if offset < req.byteLength then
    let chunk := chunkAt req.byteLength offset
    let r := dmaSubmit endpoint (chunkDesc req data.nextDescriptorId offset chunk)
    let data := { data with nextDescriptorId := data.nextDescriptorId + 1 }
    if r.2 ≠ .ok then (r.1, data, r.2)
    else
      let counters :=
        { data.residencyCounters with
          descriptorsSubmitted := data.residencyCounters.descriptorsSubmitted + 1
          bytesTransferred := data.residencyCounters.bytesTransferred + chunk }
      loadChunks req r.1 { data with residencyCounters := counters } (offset + chunk)
  else (endpoint, data, .ok)
termination_by req.byteLength.toNat - offset.toNat
decreasing_by
  rename_i hlt _
  exact chunkAt_decreases hlt

/-- `att1_backend_pcie_load_tensor`, on a PCIe backend. -/
def loadTensor (req : LoadRequest) (endpoint : σ) (data : PcieTransferData) : σ × PcieTransferData × Status :=
  if req.byteLength = 0 then (endpoint, data, .invalidArg)
  else if (data.residentFind req.tensorId).isSome then
    let counters :=
      { data.residencyCounters with
        duplicateTransferRejections := data.residencyCounters.duplicateTransferRejections + 1 }
    (endpoint, { data with residencyCounters := counters }, .state)
  else if maxResidentTensors ≤ data.residentCount then (endpoint, data, .state)
  else
    match loadChunks dmaSubmit req endpoint data 0 with
    | (endpoint, data, .ok) =>
      let counters :=
        { data.residencyCounters with
          transfersSubmitted := data.residencyCounters.transfersSubmitted + 1
          tensorsResident := UInt64.ofNat (data.residentCount + 1) }
      (endpoint,
        { data with
          resident := Function.update data.resident data.residentCount ⟨req.tensorId, req.deviceAddr, req.byteLength⟩
          residentCount := data.residentCount + 1
          residencyCounters := counters }, .ok)
    | (endpoint, data, status) => (endpoint, data, status)

end Code

/-! ### What is handed over -/

/-- An endpoint that keeps what it is handed, with its answers. -/
def logged {σ δ : Type} (submit : σ → δ → σ × Status) (s : σ × List (δ × Status)) (d : δ) :
    (σ × List (δ × Status)) × Status :=
  (((submit s.1 d).1, s.2 ++ [(d, (submit s.1 d).2)]), (submit s.1 d).2)

/-- The plan was handed over in order: all of it was accepted, or a first descriptor was refused with the status. -/
def Submitted {δ : Type} (plan : List δ) (events : List (δ × Status)) (status : Status) : Prop :=
  status = .ok ∧ events = plan.map (fun d => (d, Status.ok)) ∨
    status ≠ .ok ∧ ∃ before d after, plan = before ++ d :: after ∧
      events = before.map (fun d => (d, Status.ok)) ++ [(d, status)]

theorem Submitted.cons {δ : Type} {plan : List δ} {events : List (δ × Status)} {status : Status}
    (h : Submitted plan events status) (d : δ) : Submitted (d :: plan) ((d, .ok) :: events) status := by
  obtain ⟨hok, rfl⟩ | ⟨hne, before, e, after, rfl, rfl⟩ := h
  · exact .inl ⟨hok, rfl⟩
  · exact .inr ⟨hne, d :: before, e, after, rfl, rfl⟩

/-- The call succeeds exactly where the whole plan was accepted. -/
theorem Submitted.ok_iff {δ : Type} {plan : List δ} {events : List (δ × Status)} {status : Status}
    (h : Submitted plan events status) : status = .ok ↔ events = plan.map fun d => (d, Status.ok) := by
  obtain ⟨hok, heq⟩ | ⟨hne, before, e, after, rfl, rfl⟩ := h
  · exact iff_of_true hok heq
  · refine iff_of_false hne fun heq => hne ?_
    have hmem : (e, status) ∈ (before ++ e :: after).map fun d => (d, Status.ok) := by
      rw [← heq]
      exact List.mem_append_right _ List.mem_cons_self
    obtain ⟨d, -, hd⟩ := List.mem_map.mp hmem
    exact (Prod.mk.inj hd).2.symm

/-- The number of bytes that a descriptor moves. -/
def LoadDesc.bytes (d : LoadDesc) : ℕ := d.byteLength.toNat

/-- The descriptors tile a transfer: one starts where the one before ends, none is empty or too long, together they have
the length, and the last one has the flag.  An address is a 64-bit number. -/
structure Tiles (plan : List LoadDesc) (hostAddr deviceAddr length : ℕ) : Prop where
  host : ∀ i d, plan[i]? = some d → d.hostAddr.toNat = (hostAddr + startOf (plan.map LoadDesc.bytes) i) % 2 ^ 64
  device : ∀ i d, plan[i]? = some d → d.deviceAddr.toNat = (deviceAddr + startOf (plan.map LoadDesc.bytes) i) % 2 ^ 64
  size : ∀ d ∈ plan, 0 < d.bytes ∧ d.bytes ≤ AimuDma.maxTransferBytes.toNat
  total : (plan.map LoadDesc.bytes).sum = length
  last : ∀ i d, plan[i]? = some d → (d.flags = flagLastDescriptor ↔ i + 1 = plan.length)

/-- Where the addresses do not wrap, a descriptor covers its part of the interval. -/
theorem Tiles.host_eq {plan : List LoadDesc} {hostAddr deviceAddr length : ℕ}
    (h : Tiles plan hostAddr deviceAddr length) (hfits : hostAddr + length ≤ 2 ^ 64) {i : ℕ} {d : LoadDesc}
    (hi : plan[i]? = some d) :
    d.hostAddr.toNat = hostAddr + startOf (plan.map LoadDesc.bytes) i ∧
      d.hostAddr.toNat + d.bytes = hostAddr + startOf (plan.map LoadDesc.bytes) (i + 1) ∧
      d.hostAddr.toNat + d.bytes ≤ hostAddr + length := by
  obtain ⟨hlt, rfl⟩ := List.getElem?_eq_some_iff.mp hi
  have hlt' : i < (plan.map LoadDesc.bytes).length := by rwa [List.length_map]
  have hnext := startOf_succ hlt'
  rw [List.getElem_map] at hnext
  have hle := startOf_mono (plan.map LoadDesc.bytes) (show i + 1 ≤ (plan.map LoadDesc.bytes).length by omega)
  rw [startOf_length, h.total] at hle
  have hpos := (h.size _ (List.getElem_mem hlt)).1
  have haddr := h.host i _ hi
  rw [Nat.mod_eq_of_lt (by omega)] at haddr
  omega

/-! ### The plan -/

/-- The length of chunk `i`. -/
def chunkBytes (length i : ℕ) : ℕ := min (0x10000000) (length - i * 0x10000000)

/-- The number of chunks. -/
def chunkCount (length : ℕ) : ℕ := (length + 0x10000000 - 1) / 0x10000000

/-- The descriptor of chunk `i`. -/
def plannedDesc (req : LoadRequest) (firstId : UInt32) (i : ℕ) : LoadDesc :=
  chunkDesc req (firstId + UInt32.ofNat i) (UInt64.ofNat (i * 0x10000000))
    (UInt64.ofNat (chunkBytes req.byteLength.toNat i))

/-- The descriptors of a transfer, with ids from `firstId` on. -/
def loadPlan (req : LoadRequest) (firstId : UInt32) : List LoadDesc :=
  (List.range (chunkCount req.byteLength.toNat)).map (plannedDesc req firstId)

section Plan

variable {req : LoadRequest} {firstId : UInt32} {length i : ℕ}

theorem lt_chunkCount : i < chunkCount length ↔ i * 0x10000000 < length := by
  unfold chunkCount
  omega

theorem getElem?_loadPlan {d : LoadDesc} : (loadPlan req firstId)[i]? = some d ↔
    i * 0x10000000 < req.byteLength.toNat ∧ plannedDesc req firstId i = d := by
  unfold loadPlan
  rw [List.getElem?_map, ← lt_chunkCount]
  by_cases hi : i < chunkCount req.byteLength.toNat
  · rw [List.getElem?_range hi, Option.map_some, Option.some.injEq, and_iff_right hi]
  · rw [List.getElem?_eq_none (by rw [List.length_range]; omega)]
    exact iff_of_false (by simp) fun h => hi h.1

theorem bytes_plannedDesc : (plannedDesc req firstId i).bytes = chunkBytes req.byteLength.toNat i := by
  have hle : chunkBytes req.byteLength.toNat i ≤ 0x10000000 := Nat.min_le_left _ _
  show (UInt64.ofNat (chunkBytes req.byteLength.toNat i)).toUInt32.toNat = _
  rw [UInt64.toNat_toUInt32, UInt64.toNat_ofNat']
  omega

theorem startOf_loadPlan (hi : i ≤ chunkCount req.byteLength.toNat) :
    startOf ((loadPlan req firstId).map LoadDesc.bytes) i = min (i * 0x10000000) req.byteLength.toNat := by
  induction i with
  | zero => simp
  | succ i ih =>
    have hlt : i < ((loadPlan req firstId).map LoadDesc.bytes).length := by
      rw [List.length_map, loadPlan, List.length_map, List.length_range]
      omega
    have hlt' := lt_chunkCount.mp (show i < chunkCount req.byteLength.toNat by omega)
    rw [startOf_succ hlt, ih (by omega), List.getElem_map]
    unfold loadPlan
    rw [List.getElem_map, List.getElem_range, bytes_plannedDesc]
    unfold chunkBytes
    omega

/-- **The plan tiles the transfer.** -/
theorem tiles_loadPlan (req : LoadRequest) (firstId : UInt32) :
    Tiles (loadPlan req firstId) req.hostAddr.toNat req.deviceAddr.toNat req.byteLength.toNat := by
  have hlength : (loadPlan req firstId).length = chunkCount req.byteLength.toNat := by
    unfold loadPlan
    rw [List.length_map, List.length_range]
  have hlt64 := req.byteLength.toNat_lt
  have hstart {i : ℕ} (hi : i * 0x10000000 < req.byteLength.toNat) :
      startOf ((loadPlan req firstId).map LoadDesc.bytes) i = i * 0x10000000 := by
    rw [startOf_loadPlan (le_of_lt (lt_chunkCount.mpr hi))]
    omega
  refine ⟨?_, ?_, ?_, ?_, ?_⟩
  · intro i d hd
    obtain ⟨hi, rfl⟩ := getElem?_loadPlan.mp hd
    show (req.hostAddr + UInt64.ofNat (i * 0x10000000)).toNat = _
    rw [hstart hi, UInt64.toNat_add, UInt64.toNat_ofNat']
    omega
  · intro i d hd
    obtain ⟨hi, rfl⟩ := getElem?_loadPlan.mp hd
    show (req.deviceAddr + UInt64.ofNat (i * 0x10000000)).toNat = _
    rw [hstart hi, UInt64.toNat_add, UInt64.toNat_ofNat']
    omega
  · intro d hd
    obtain ⟨i, hd⟩ := List.mem_iff_getElem?.mp hd
    obtain ⟨hi, rfl⟩ := getElem?_loadPlan.mp hd
    have hmax : AimuDma.maxTransferBytes.toNat = 0x10000000 := rfl
    rw [bytes_plannedDesc, hmax]
    unfold chunkBytes
    omega
  · rw [← startOf_length, List.length_map, hlength, startOf_loadPlan (Nat.le_refl _)]
    unfold chunkCount
    omega
  · intro i d hd
    obtain ⟨hi, rfl⟩ := getElem?_loadPlan.mp hd
    have hchunk : chunkBytes req.byteLength.toNat i = min (0x10000000) (req.byteLength.toNat - i * 0x10000000) := rfl
    have hend : (UInt64.ofNat (i * 0x10000000) + UInt64.ofNat (chunkBytes req.byteLength.toNat i)).toNat =
        min ((i + 1) * 0x10000000) req.byteLength.toNat := by
      rw [UInt64.toNat_add, UInt64.toNat_ofNat', UInt64.toNat_ofNat']
      omega
    have hflag : (plannedDesc req firstId i).flags = flagLastDescriptor ↔
        req.byteLength ≤ UInt64.ofNat (i * 0x10000000) + UInt64.ofNat (chunkBytes req.byteLength.toNat i) := by
      show (if req.byteLength ≤ _ then flagLastDescriptor else 0) = _ ↔ _
      rw [ite_eq_left_iff, not_imp_comm]
      exact ⟨fun h => h (by decide), fun h _ => h⟩
    rw [hflag, UInt64.le_iff_toNat_le, hend, hlength]
    unfold chunkCount
    omega

end Plan

/-! ### A transfer -/

section Transfer

variable {σ : Type} {dmaSubmit : σ → LoadDesc → σ × Status} {req : LoadRequest} {firstId : UInt32}
  {log : List (LoadDesc × Status)} {s : σ} {data : PcieTransferData} {offset : UInt64} {i : ℕ}

/-- One turn of the loop. -/
theorem loadChunks_step {α : Type} {submit : α → LoadDesc → α × Status} {a : α} (h : offset < req.byteLength) :
    loadChunks submit req a data offset =
      let r := submit a (chunkDesc req data.nextDescriptorId offset (chunkAt req.byteLength offset))
      if r.2 ≠ .ok then (r.1, { data with nextDescriptorId := data.nextDescriptorId + 1 }, r.2)
      else
        loadChunks submit req r.1
          { data with
            nextDescriptorId := data.nextDescriptorId + 1
            residencyCounters :=
              { data.residencyCounters with
                descriptorsSubmitted := data.residencyCounters.descriptorsSubmitted + 1
                bytesTransferred := data.residencyCounters.bytesTransferred + chunkAt req.byteLength offset } }
          (offset + chunkAt req.byteLength offset) := by
  rw [loadChunks, if_pos h]

theorem loadChunks_end {α : Type} {submit : α → LoadDesc → α × Status} {a : α} (h : ¬ offset < req.byteLength) :
    loadChunks submit req a data offset = (a, data, .ok) := by
  rw [loadChunks, if_neg h]

/-- The log does not change what the loop does. -/
theorem loadChunks_logged : loadChunks dmaSubmit req s data offset =
    ((loadChunks (logged dmaSubmit) req (s, log) data offset).1.1,
      (loadChunks (logged dmaSubmit) req (s, log) data offset).2) := by
  induction hn : req.byteLength.toNat - offset.toNat using Nat.strong_induction_on generalizing s log data offset with
  | _ n ih =>
    by_cases hlt : offset < req.byteLength
    · rw [loadChunks_step hlt, loadChunks_step hlt]
      unfold logged
      dsimp only
      split_ifs
      · rfl
      · exact ih _ (hn ▸ chunkAt_decreases hlt) rfl
    · rw [loadChunks_end hlt, loadChunks_end hlt]

/-- From the start of chunk `i` to that of the next one. -/
theorem next_chunk {start chunk length : ℕ} (h : start = min (i * chunk) length) (hlt : start < length) :
    start = i * chunk ∧ min (start + chunk) length = min ((i + 1) * chunk) length := by
  rw [Nat.succ_mul]
  omega

/-- At the offset of chunk `i` the loop hands over the plan from there, and leaves the table as it is. -/
theorem loadChunks_submits (hoffset : offset.toNat = min (i * 0x10000000) req.byteLength.toNat)
    (hid : data.nextDescriptorId = firstId + UInt32.ofNat i) :
    ∃ events, (loadChunks (logged dmaSubmit) req (s, log) data offset).1.2 = log ++ events ∧
      Submitted ((loadPlan req firstId).drop i) events (loadChunks (logged dmaSubmit) req (s, log) data offset).2.2 ∧
      (loadChunks (logged dmaSubmit) req (s, log) data offset).2.1.resident = data.resident ∧
      (loadChunks (logged dmaSubmit) req (s, log) data offset).2.1.residentCount = data.residentCount := by
  have hlength : (loadPlan req firstId).length = chunkCount req.byteLength.toNat := by
    unfold loadPlan
    rw [List.length_map, List.length_range]
  induction hn : req.byteLength.toNat - offset.toNat using Nat.strong_induction_on
    generalizing s log data offset i with
  | _ n ih =>
    by_cases hlt : offset < req.byteLength
    · have hlt' := UInt64.lt_iff_toNat_lt.mp hlt
      have hle : offset ≤ req.byteLength := UInt64.le_iff_toNat_le.mpr (by omega)
      have hnext := toNat_add_chunkAt hle
      obtain ⟨hsame, hoffset'⟩ := next_chunk hoffset hlt'
      rw [← hnext] at hoffset'
      have hi : i * 0x10000000 < req.byteLength.toNat := hsame ▸ hlt'
      -- the descriptor is that of chunk `i`
      have hofNat : UInt64.ofNat (i * 0x10000000) = offset := by rw [← hsame, UInt64.ofNat_toNat]
      have hchunk : UInt64.ofNat (chunkBytes req.byteLength.toNat i) = chunkAt req.byteLength offset := by
        have hat := toNat_chunkAt hle
        rw [hsame] at hat
        unfold chunkBytes
        rw [← hat, UInt64.ofNat_toNat]
      have hdesc : chunkDesc req data.nextDescriptorId offset (chunkAt req.byteLength offset) =
          plannedDesc req firstId i := by
        unfold plannedDesc
        rw [hid, hofNat, hchunk]
      have hdrop : (loadPlan req firstId).drop i =
          plannedDesc req firstId i :: (loadPlan req firstId).drop (i + 1) := by
        obtain ⟨hlt, heq⟩ := List.getElem?_eq_some_iff.mp (getElem?_loadPlan.mpr ⟨hi, rfl⟩)
        rw [List.drop_eq_getElem_cons hlt, heq]
      rw [loadChunks_step hlt, hdesc, hdrop]
      dsimp only
      by_cases hok : (dmaSubmit s (plannedDesc req firstId i)).2 = .ok
      · have hnextId : data.nextDescriptorId + 1 = firstId + UInt32.ofNat (i + 1) := by
          rw [hid, UInt32.ofNat_add, ← UInt32.add_assoc]
          rfl
        have hlogged : logged dmaSubmit (s, log) (plannedDesc req firstId i) =
            (((dmaSubmit s (plannedDesc req firstId i)).1, log ++ [(plannedDesc req firstId i, .ok)]), .ok) := by
          unfold logged
          rw [hok]
        rw [hlogged, if_neg (not_not.mpr rfl)]
        obtain ⟨events, hlog, hsub, hresident, hcount⟩ := @ih _ (hn ▸ chunkAt_decreases hlt)
          (log ++ [(plannedDesc req firstId i, .ok)]) (dmaSubmit s (plannedDesc req firstId i)).1
          { data with
            nextDescriptorId := data.nextDescriptorId + 1
            residencyCounters :=
              { data.residencyCounters with
                descriptorsSubmitted := data.residencyCounters.descriptorsSubmitted + 1
                bytesTransferred := data.residencyCounters.bytesTransferred + chunkAt req.byteLength offset } }
          (offset + chunkAt req.byteLength offset) (i + 1) hoffset' hnextId rfl
        rw [List.append_assoc] at hlog
        exact ⟨_, hlog, hsub.cons _, hresident, hcount⟩
      · have hrefused : (logged dmaSubmit (s, log) (plannedDesc req firstId i)).2 ≠ .ok := hok
        rw [if_pos hrefused]
        exact ⟨[(plannedDesc req firstId i, _)], rfl, .inr ⟨hok, [], _, _, rfl, rfl⟩, rfl, rfl⟩
    · have hge := mt UInt64.lt_iff_toNat_lt.mpr hlt
      have hdone : (loadPlan req firstId).drop i = [] := by
        refine List.drop_eq_nil_of_le ?_
        rw [hlength]
        unfold chunkCount
        omega
      rw [loadChunks_end hlt, hdone]
      exact ⟨[], (List.append_nil _).symm, .inl ⟨rfl, rfl⟩, rfl, rfl⟩

/-! ### A call -/

/-- A call that is refused before anything is handed over. -/
def Refused (req : LoadRequest) (data : PcieTransferData) : Prop :=
  req.byteLength = 0 ∨ data.isResident req.tensorId = true ∨ maxResidentTensors ≤ data.residentCount

instance : Decidable (Refused req data) := inferInstanceAs (Decidable (_ ∨ _ ∨ _))

/-- The tensors in the table. -/
theorem isResident_iff {tensorId : UInt32} :
    data.isResident tensorId = true ↔ ∃ i < data.residentCount, (data.resident i).tensorId = tensorId := by
  unfold PcieTransferData.isResident PcieTransferData.residentFind
  rw [findSlot_isSome]
  simp only [beq_iff_eq]

/-- The log does not change what a call does. -/
theorem loadTensor_logged : loadTensor dmaSubmit req s data =
    ((loadTensor (logged dmaSubmit) req (s, log) data).1.1, (loadTensor (logged dmaSubmit) req (s, log) data).2) := by
  unfold loadTensor
  rw [@loadChunks_logged σ dmaSubmit req log s data 0]
  obtain ⟨⟨s', log'⟩, data', status⟩ := loadChunks (logged dmaSubmit) req (s, log) data 0
  split_ifs
  · rfl
  · rfl
  · rfl
  · cases status <;> rfl

/-- A call that is refused leaves the endpoint and the table as they are. -/
theorem loadTensor_refused {α : Type} {submit : α → LoadDesc → α × Status} {a : α} (h : Refused req data) :
    ∃ data' status, loadTensor submit req a data = (a, data', status) ∧ status ≠ .ok ∧
      data'.resident = data.resident ∧ data'.residentCount = data.residentCount := by
  unfold loadTensor
  by_cases hzero : req.byteLength = 0
  · simp only [if_pos hzero]
    exact ⟨_, _, rfl, by decide, rfl, rfl⟩
  · simp only [if_neg hzero]
    by_cases hresident : (data.residentFind req.tensorId).isSome = true
    · simp only [if_pos hresident]
      exact ⟨_, _, rfl, by decide, rfl, rfl⟩
    · simp only [if_neg hresident]
      have hfull : maxResidentTensors ≤ data.residentCount := (h.resolve_left hzero).resolve_left hresident
      simp only [if_pos hfull]
      exact ⟨_, _, rfl, by decide, rfl, rfl⟩

/-- A call that is not refused runs the loop, and enters the tensor where the loop succeeds. -/
theorem loadTensor_accepted {α : Type} {submit : α → LoadDesc → α × Status} {a : α} (h : ¬ Refused req data) :
    (loadTensor submit req a data).1 = (loadChunks submit req a data 0).1 ∧
      (loadTensor submit req a data).2.2 = (loadChunks submit req a data 0).2.2 ∧
      (loadTensor submit req a data).2.1.resident =
        (if (loadChunks submit req a data 0).2.2 = .ok then
          Function.update (loadChunks submit req a data 0).2.1.resident
            (loadChunks submit req a data 0).2.1.residentCount ⟨req.tensorId, req.deviceAddr, req.byteLength⟩
        else (loadChunks submit req a data 0).2.1.resident) ∧
      (loadTensor submit req a data).2.1.residentCount =
        (if (loadChunks submit req a data 0).2.2 = .ok then (loadChunks submit req a data 0).2.1.residentCount + 1
        else (loadChunks submit req a data 0).2.1.residentCount) := by
  obtain ⟨hzero, hresident, hfull⟩ : req.byteLength ≠ 0 ∧ ¬ (data.residentFind req.tensorId).isSome = true ∧
      ¬ maxResidentTensors ≤ data.residentCount := by
    unfold Refused at h
    push Not at h
    exact ⟨h.1, h.2.1, Nat.not_le.mpr h.2.2⟩
  unfold loadTensor
  rw [if_neg hzero, if_neg hresident, if_neg hfull]
  obtain ⟨endpoint, data', status⟩ := loadChunks submit req a data 0
  cases status
  case ok => exact ⟨rfl, rfl, rfl, rfl⟩
  all_goals exact ⟨rfl, rfl, rfl, rfl⟩

/-- **Weight chunking.**  The plan of a transfer tiles it, without a wrap where the transfer ends in the address space.
A call that is not refused hands over the plan in order, up to the first descriptor that the endpoint refuses; a call
that is refused hands over nothing.  The tensor is resident
after the call exactly where it was before, or the call was not refused and the whole plan was accepted; the other
tensors stay as they are. -/
theorem loadTensor_tiles (dmaSubmit : σ → LoadDesc → σ × Status) (req : LoadRequest) (s : σ)
    (data : PcieTransferData) :
    Tiles (loadPlan req data.nextDescriptorId) req.hostAddr.toNat req.deviceAddr.toNat req.byteLength.toNat ∧
    (req.hostAddr.toNat + req.byteLength.toNat ≤ 2 ^ 64 → ∀ i d, (loadPlan req data.nextDescriptorId)[i]? = some d →
      d.hostAddr.toNat = req.hostAddr.toNat + startOf ((loadPlan req data.nextDescriptorId).map LoadDesc.bytes) i) ∧
    ∃ s' events data' status, loadTensor dmaSubmit req s data = (s', data', status) ∧
      loadTensor (logged dmaSubmit) req (s, []) data = ((s', events), data', status) ∧
      (Refused req data → events = [] ∧ status ≠ .ok) ∧
      (¬ Refused req data → Submitted (loadPlan req data.nextDescriptorId) events status) ∧
      ∀ tensorId, data'.isResident tensorId = true ↔ data.isResident tensorId = true ∨
        tensorId = req.tensorId ∧ ¬ Refused req data ∧
          events = (loadPlan req data.nextDescriptorId).map fun d => (d, Status.ok) := by
  have htiles := tiles_loadPlan req data.nextDescriptorId
  refine ⟨htiles, fun hfits i d hi => (htiles.host_eq hfits hi).1, ?_⟩
  have hplain := @loadTensor_logged σ dmaSubmit req [] s data
  by_cases hrefused : Refused req data
  · obtain ⟨data', status, hcall, hstatus, hresident, hcount⟩ :=
      @loadTensor_refused req data (σ × List (LoadDesc × Status)) (logged dmaSubmit) (s, []) hrefused
    rw [hcall] at hplain
    refine ⟨s, [], data', status, hplain, hcall, fun _ => ⟨rfl, hstatus⟩, fun h => absurd hrefused h,
      fun tensorId => ?_⟩
    rw [isResident_iff, isResident_iff, hresident, hcount]
    exact (or_iff_left fun h => h.2.1 hrefused).symm
  · obtain ⟨hend, hstatus, hresident, hcount⟩ :=
      @loadTensor_accepted req data (σ × List (LoadDesc × Status)) (logged dmaSubmit) (s, []) hrefused
    have hid : data.nextDescriptorId = data.nextDescriptorId + UInt32.ofNat 0 := (UInt32.add_zero _).symm
    obtain ⟨events, hlog, hsub, hresident', hcount'⟩ := @loadChunks_submits σ dmaSubmit req data.nextDescriptorId [] s
      data 0 0 (by rw [Nat.zero_mul, Nat.zero_min]; rfl) hid
    rw [List.nil_append] at hlog
    rw [List.drop_zero] at hsub
    rw [hresident', hcount'] at hresident
    rw [hcount'] at hcount
    refine ⟨_, events, _, _, hplain, ?_, fun h => absurd h hrefused, fun _ => hstatus ▸ hsub, fun tensorId => ?_⟩
    · rw [← hlog, ← hend]
    · rw [isResident_iff, isResident_iff, hresident, hcount, and_iff_right hrefused, ← hsub.ok_iff]
      by_cases hok : (loadChunks (logged dmaSubmit) req (s, []) data 0).2.2 = .ok
      · simp only [if_pos hok, and_iff_left hok]
        constructor
        · rintro ⟨i, hi, hentry⟩
          rcases eq_or_ne i data.residentCount with rfl | hne
          · rw [Function.update_self] at hentry
            exact .inr hentry.symm
          · rw [Function.update_of_ne hne] at hentry
            exact .inl ⟨i, by omega, hentry⟩
        · rintro (⟨i, hi, hentry⟩ | rfl)
          · exact ⟨i, by omega, by rwa [Function.update_of_ne (by omega)]⟩
          · exact ⟨data.residentCount, Nat.lt_succ_self _, by rw [Function.update_self]⟩
      · rw [if_neg hok, if_neg hok]
        exact (or_iff_left fun h => hok h.2).symm

end Transfer

/-- A table that is full. -/
def fullTable : PcieTransferData where
  resident i := ⟨UInt32.ofNat (i + 2), 0, 64⟩
  residentCount := maxResidentTensors

theorem fullTable_not_resident : fullTable.isResident 1 = false := by
  rw [Bool.eq_false_iff, Ne, isResident_iff]
  rintro ⟨i, hi, hid⟩
  have hlt : i < 4096 := hi
  have htoNat := congrArg UInt32.toNat hid
  have hone : (1 : UInt32).toNat = 1 := rfl
  rw [show (fullTable.resident i).tensorId = UInt32.ofNat (i + 2) from rfl, UInt32.toNat_ofNat', hone] at htoNat
  omega

/-- A transfer of no bytes has no chunk that could fail, and its tensor is not resident; a transfer of 64 bytes hands
over nothing where the table is full. -/
theorem loadTensor_no_bytes_full :
    (loadTensor (logged fun (sim : AimuDma) desc => sim.submit desc.toDmaDesc) ⟨1, 0, 0, 0, 0, 0⟩ ({}, []) {} =
        (({}, []), {}, .invalidArg) ∧
      ([] : List (LoadDesc × Status)) = (loadPlan ⟨1, 0, 0, 0, 0, 0⟩ 0).map (fun d => (d, Status.ok)) ∧
      PcieTransferData.isResident {} 1 = false) ∧
    loadTensor (logged fun (sim : AimuDma) desc => sim.submit desc.toDmaDesc) ⟨1, 0, 0, 64, 0, 0⟩ ({}, []) fullTable =
        (({}, []), fullTable, .state) ∧
      fullTable.isResident 1 = false := by
  refine ⟨⟨?_, by decide, by decide⟩, ?_, fullTable_not_resident⟩
  · unfold loadTensor
    rw [if_pos rfl]
  · have hfree : ¬ (fullTable.residentFind 1).isSome = true := Bool.eq_false_iff.mp fullTable_not_resident
    have hfull : maxResidentTensors ≤ fullTable.residentCount := Nat.le_refl _
    unfold loadTensor
    rw [if_neg (by decide), if_neg hfree, if_pos hfull]

end Att1.Pcie
