import Att1.Endpoint.KvWire
import Att1.KvMmu.Checks
import Att1.KvMmu.Refine
import Att1.Lib.Lockstep

/-!
# Att1.Endpoint.KvOps — KV calls through the socket against direct ones

The request carries layers, heads, positions and counts in 32 bits and a null pointer as a count of no bytes.

* `offeredKv`: a call as the claim has it, refused by the client for its sizes or else made on the store itself.
* `KvTransparent`: the calls that survive the way: the arguments pass the same checks before and after it, and the
  counts say how much is stored or handed out.
* `kv_refinement`: in a run of transparent calls both ways agree throughout, in the store, statuses and outputs.
-/

open Att1.Lib

namespace Att1.Endpoint

/-- The `kv_` defaults of `att1_aimu_conformance_default_config`, which the daemon has no option for. -/
def defaultKvConfig : KvMmuConfig where
  maxSessions := 16
  maxPages := 256
  numLayers := 4
  numHeads := 4
  headDim := 16
  pageTokens := 16
  maxPositions := 256

/-- A KV call with the counts that the endpoint interface adds to its pointers. -/
inductive KvOp
  | createSession (sessionId : ℕ)
  | destroySession (sessionId : ℕ)
  | append (host : Host) (sessionId layerId position : ℕ) (key : Option (ℕ → UInt32)) (keyCount : ℕ)
      (value : Option (ℕ → UInt32)) (valueCount : ℕ)
  | read (sessionId layerId headId position : ℕ) (outKey : Option (ℕ → UInt32)) (keyCount : ℕ)
      (outValue : Option (ℕ → UInt32)) (valueCount : ℕ)
  | copyRange (sessionId layerId headId startPosition positionCount : ℕ) (outKeys : Option (ℕ → UInt32))
      (keysCount : ℕ) (outValues : Option (ℕ → UInt32)) (valuesCount : ℕ) (sized : positionCount ≤ sizeMax)

/-- The call on the store; it has no use for the counts. -/
def KvOp.call : KvOp → KvMmu.KvCall UInt32
  | .createSession sid => .createSession sid
  | .destroySession sid => .destroySession sid
  | .append host sid layer pos key _ value _ => .append host sid layer pos key value
  | .read sid layer head pos outKey _ outValue _ => .read sid layer head pos outKey.isSome outValue.isSome
  | .copyRange sid layer head start count outKeys _ outValues _ _ =>
    .copyRange sid layer head start count outKeys.isSome outValues.isSome

/-- The output pointers after the given writes. -/
def replyWrites (status : Status) (outKey outValue : Option (ℕ → UInt32)) (writes : List (KvRangeWrite UInt32)) :
    Reply where
  status := status
  key := outKey.map fun array => storeBlocks array (keyBlocks writes)
  value := outValue.map fun array => storeBlocks array (valueBlocks writes)

/-- What a direct caller sees. -/
def KvOp.reply (response : KvMmu.KvResponse UInt32) : KvOp → Reply
  | .read _ _ _ _ outKey _ outValue _ =>
    replyWrites response.status outKey outValue (response.slice.toList.map (⟨0, ·⟩))
  | .copyRange _ _ _ _ _ outKeys _ outValues _ _ => replyWrites response.status outKeys outValues response.writes
  | _ => { status := response.status }

/-- The call made on the store of an in-process endpoint. -/
def performKv (d : Inproc) (op : KvOp) : Inproc × Reply :=
  let r := d.kv.perform op.call
  ({ d with kv := r.1 }, op.reply r.2)

/-- The client lets the call pass. -/
def KvOp.fits : KvOp → Bool
  | .append _ _ _ _ _ keyCount _ valueCount => streamsFit keyCount valueCount
  | .read _ _ _ _ _ keyCount _ valueCount => streamsFit keyCount valueCount
  | .copyRange _ _ _ _ _ _ keysCount _ valuesCount _ => streamsFit keysCount valuesCount
  | _ => true

/-- What the caller sees of a call that the client refuses by itself. -/
def KvOp.rejection : KvOp → Reply
  | .read _ _ _ _ outKey _ outValue _ => { status := .invalidArg, key := outKey, value := outValue }
  | .copyRange _ _ _ _ _ outKeys _ outValues _ _ => { status := .invalidArg, key := outKeys, value := outValues }
  | _ => { status := .invalidArg }

def offeredKv (d : Inproc) (op : KvOp) : Inproc × Reply := if op.fits then performKv d op else (d, op.rejection)

/-- The same call through the client and the daemon. -/
def performKvRemote (host : Host) (d : Inproc) : KvOp → Option (Inproc × Reply)
  | .createSession sid => clientKvCreateSession d host sid
  | .destroySession sid => clientKvDestroySession d host sid
  | .append host sid layer pos key keyCount value valueCount =>
    clientKvAppend d host sid layer pos key keyCount value valueCount
  | .read sid layer head pos outKey keyCount outValue valueCount =>
    clientKvRead d host sid layer head pos outKey keyCount outValue valueCount
  | .copyRange sid layer head start count outKeys keysCount outValues valuesCount _ =>
    clientKvCopyRange d host sid layer head start count outKeys keysCount outValues valuesCount

/-- A stream of so many floats takes up bytes of a request. -/
def Sent (count : ℕ) : Bool := decide (0 < streamBytes count)

/-- Behind the floats that are sent the array holds zeros, as the request does. -/
def Supplied (floats : Option (ℕ → UInt32)) (count n : ℕ) : Prop :=
  ∀ array ∈ floats, ∀ i < n, streamBytes count / KvMmu.floatSize ≤ i → array i = 0

/-- The caller asks for all floats that are stored through the pointer, and no more. -/
def Asked (out : Option (ℕ → UInt32)) (count n : ℕ) : Prop := out ≠ none → streamBytes count = n * KvMmu.floatSize

/-- The calls that survive the way. -/
def KvTransparent (m : KvMmu UInt32) : KvOp → Prop
  | .createSession _ => True
  | .destroySession _ => True
  | .append _ sid layer pos key keyCount value valueCount => streamsFit keyCount valueCount = true →
      m.appendCheck (Sent keyCount && Sent valueCount) sid (uint32 layer) (uint32 pos) =
          m.appendCheck (key.isSome && value.isSome) sid layer pos ∧
        (m.appendCheck (key.isSome && value.isSome) sid layer pos = .ok → pos = m.nextPosition sid layer →
          Supplied key keyCount (KvMmu.vectorLen m.config) ∧ Supplied value valueCount (KvMmu.vectorLen m.config))
  | .read sid layer head pos outKey keyCount outValue valueCount => streamsFit keyCount valueCount = true →
      m.readCheck (Sent keyCount || Sent valueCount) sid (uint32 layer) (uint32 head) (uint32 pos) =
          m.readCheck (outKey.isSome || outValue.isSome) sid layer head pos ∧
        (m.readCheck (outKey.isSome || outValue.isSome) sid layer head pos = .ok →
          m.tokenPresent sid layer pos = true →
          Asked outKey keyCount m.config.headDim ∧ Asked outValue valueCount m.config.headDim)
  | .copyRange sid layer head start count outKeys keysCount outValues valuesCount _ =>
      streamsFit keysCount valuesCount = true →
      m.rangeCheck (Sent keysCount || Sent valuesCount) sid (uint32 layer) (uint32 head) (uint32 start) (uint32 count) =
          m.rangeCheck (outKeys.isSome || outValues.isSome) sid layer head start count ∧
        (m.rangeCheck (outKeys.isSome || outValues.isSome) sid layer head start count = .ok →
          m.tokenPresent sid layer start = false ∨
            (∀ i < count, m.tokenPresent sid layer (start + i) = true) ∧
              Asked outKeys keysCount (count * m.config.headDim) ∧
              Asked outValues valuesCount (count * m.config.headDim))

variable {d : Inproc} {host : Host} {sid layer head pos start count keyCount valueCount : ℕ}
  {key value outKey outValue : Option (ℕ → UInt32)}

/-! ### Appending -/

theorem clientKvAppend_eq (hfit : streamsFit keyCount valueCount = true) :
    clientKvAppend d host sid layer pos key keyCount value valueCount =
      some
        ({ d with
            kv := (d.kv.append host sid (uint32 layer) (uint32 pos)
              (if 0 < streamBytes keyCount then
                some (floatsAt (requestFloats key (streamBytes keyCount) value (streamBytes valueCount)) 0) else none)
              (if 0 < streamBytes valueCount then
                some (floatsAt (requestFloats key (streamBytes keyCount) value (streamBytes valueCount)) halfPayload)
                else none)).1 },
          { status := (d.kv.append host sid (uint32 layer) (uint32 pos)
              (if 0 < streamBytes keyCount then
                some (floatsAt (requestFloats key (streamBytes keyCount) value (streamBytes valueCount)) 0) else none)
              (if 0 < streamBytes valueCount then
                some (floatsAt (requestFloats key (streamBytes keyCount) value (streamBytes valueCount)) halfPayload)
                else none)).2 }) := by
  obtain ⟨hk, hv⟩ := streamsFit_iff.mp hfit
  unfold clientKvAppend
  rw [if_neg (by rw [hfit]; exact Bool.noConfusion), uint32_of_le_halfPayload hk, uint32_of_le_halfPayload hv]
  rfl

theorem isSome_ite {α : Type*} (p : Prop) [Decidable p] (a : α) :
    (if p then some a else none).isSome = decide p := by
  split_ifs with h
  · exact (decide_eq_true h).symm
  · exact (decide_eq_false h).symm

theorem small_eq {n : ℕ} (h : n < 2 ^ 32) : uint32 n = n := Nat.mod_eq_of_lt h

theorem append_carried (hc : d.kv.config = defaultKvConfig)
    (h : KvTransparent d.kv (.append host sid layer pos key keyCount value valueCount)) :
    performKvRemote host d (.append host sid layer pos key keyCount value valueCount) =
      some (offeredKv d (.append host sid layer pos key keyCount value valueCount)) := by
  show clientKvAppend d host sid layer pos key keyCount value valueCount =
    some (if streamsFit keyCount valueCount = true then _ else _)
  cases hfit : streamsFit keyCount valueCount with
  | false =>
    unfold clientKvAppend
    rw [if_pos hfit, if_neg Bool.noConfusion]
    rfl
  | true =>
    obtain ⟨hcheck, hfloats⟩ := h hfit
    obtain ⟨hk, hv⟩ := streamsFit_iff.mp hfit
    rw [if_pos rfl, clientKvAppend_eq hfit]
    set key' := if 0 < streamBytes keyCount then
      some (floatsAt (requestFloats key (streamBytes keyCount) value (streamBytes valueCount)) 0) else none with hkey'
    set value' := if 0 < streamBytes valueCount then
      some (floatsAt (requestFloats key (streamBytes keyCount) value (streamBytes valueCount)) halfPayload)
      else none with hvalue'
    have hsent : (key'.isSome && value'.isSome) = (Sent keyCount && Sent valueCount) := by
      rw [hkey', hvalue', isSome_ite, isSome_ite]
      rfl
    have hsame : d.kv.append host sid (uint32 layer) (uint32 pos) key' value' =
        d.kv.append host sid layer pos key value := by
      by_cases hok : d.kv.appendCheck (key.isSome && value.isSome) sid layer pos = .ok
      · -- all arguments are in range, so that 32 bits hold them
        obtain ⟨hgiven, haddr, hpos⟩ := KvMmu.appendCheck_ok.mp hok
        obtain ⟨hsent', -, -⟩ := KvMmu.appendCheck_ok.mp (hcheck.trans hok)
        have hlayer := KvMmu.layer_lt_of_validateAddress haddr
        rw [hc] at hpos hlayer
        rw [small_eq (hlayer.trans (by decide)), small_eq (hpos.trans (by decide))]
        obtain ⟨hkg, hvg⟩ := Bool.and_eq_true_iff.mp hgiven
        obtain ⟨key, rfl⟩ := Option.isSome_iff_exists.mp hkg
        obtain ⟨value, rfl⟩ := Option.isSome_iff_exists.mp hvg
        obtain ⟨hks, hvs⟩ := Bool.and_eq_true_iff.mp hsent'
        rw [hkey', hvalue', if_pos (of_decide_eq_true hks), if_pos (of_decide_eq_true hvs)]
        apply KvMmu.append_congr
        intro hnext i hi
        obtain ⟨hsk, hsv⟩ := hfloats hok hnext
        have hvec : KvMmu.vectorLen d.kv.config = 64 := by rw [hc]; rfl
        have hin : (i + 1) * KvMmu.floatSize ≤ halfPayload := by
          unfold KvMmu.floatSize halfPayload maxPayload
          omega
        constructor
        · rw [floatsAt_requestFloats_key key _ _ _ hin]
          split_ifs with hlt
          · rfl
          · exact (hsk key rfl i hi (not_lt.mp hlt)).symm
        · rw [floatsAt_requestFloats_value _ value _ hk]
          split_ifs with hlt
          · rfl
          · exact (hsv value rfl i hi (not_lt.mp hlt)).symm
      · rw [KvMmu.append_refused host rfl hok, KvMmu.append_refused host (hsent ▸ hcheck) hok]
    rw [hsame]
    rfl

/-! ### Reading -/

/-- Lists that fill the first `n` cells of both arrays. -/
structure Fills (blocks : List (ℕ × List UInt32 × List UInt32)) (n : ℕ) : Prop where
  le : ∀ b ∈ blocks, b.1 + b.2.1.length ≤ n ∧ b.1 + b.2.2.length ≤ n
  covers : ∀ i < n, (∃ b ∈ blocks, b.1 ≤ i ∧ i < b.1 + b.2.1.length) ∧
    ∃ b ∈ blocks, b.1 ≤ i ∧ i < b.1 + b.2.2.length

variable {blocks : List (ℕ × List UInt32 × List UInt32)} {n : ℕ}

theorem keyBlocks_writesOf (outValue : Bool) (blocks : List (ℕ × List UInt32 × List UInt32)) :
    keyBlocks (KvMmu.writesOf true outValue blocks) = blocks.map fun b => (b.1, b.2.1) := by
  unfold keyBlocks KvMmu.writesOf
  rw [List.map_map]
  rfl

theorem valueBlocks_writesOf (outKey : Bool) (blocks : List (ℕ × List UInt32 × List UInt32)) :
    valueBlocks (KvMmu.writesOf outKey true blocks) = blocks.map fun b => (b.1, b.2.2) := by
  unfold valueBlocks KvMmu.writesOf
  rw [List.map_map]
  rfl

theorem Fills.covered_key (h : Fills blocks n) (i : ℕ) :
    Covered (blocks.map fun b => (b.1, b.2.1)) i ↔ i < n := by
  constructor
  · rintro ⟨block, hmem, hle, hlt⟩
    obtain ⟨b, hb, rfl⟩ := List.mem_map.mp hmem
    exact hlt.trans_le (h.le b hb).1
  · intro hi
    obtain ⟨b, hb, hle, hlt⟩ := (h.covers i hi).1
    exact ⟨_, List.mem_map_of_mem hb, hle, hlt⟩

theorem Fills.covered_value (h : Fills blocks n) (i : ℕ) :
    Covered (blocks.map fun b => (b.1, b.2.2)) i ↔ i < n := by
  constructor
  · rintro ⟨block, hmem, hle, hlt⟩
    obtain ⟨b, hb, rfl⟩ := List.mem_map.mp hmem
    exact hlt.trans_le (h.le b hb).2
  · intro hi
    obtain ⟨b, hb, hle, hlt⟩ := (h.covers i hi).2
    exact ⟨_, List.mem_map_of_mem hb, hle, hlt⟩

theorem Fills.fitsHalves (h : Fills blocks n) (hfit : n * KvMmu.floatSize ≤ halfPayload) (outKey outValue : Bool) :
    ∀ write ∈ KvMmu.writesOf outKey outValue blocks, FitsHalves write.offset write.slice := by
  intro write hmem
  obtain ⟨b, hb, rfl⟩ := List.mem_map.mp hmem
  obtain ⟨hk, hv⟩ := h.le b hb
  have hgetD : ∀ (out : Bool) (list : List UInt32), b.1 + list.length ≤ n →
      (b.1 + ((if out then some list else none).getD []).length) * KvMmu.floatSize ≤ halfPayload := by
    intro out list hle
    refine (Nat.mul_le_mul_right _ ?_).trans hfit
    cases out with
    | true => exact hle
    | false => exact (Nat.le_add_right _ _).trans hle
  exact ⟨hgetD outKey b.2.1 hk, hgetD outValue b.2.2 hv⟩

/-- What is asked for exactly arrives as a direct caller gets it. -/
theorem deliver_carried (h : Fills blocks n) (hn : 0 < n) (hfit : streamsFit keyCount valueCount = true)
    (hgiven : (outKey.isSome || outValue.isSome) = true) (hk : Asked outKey keyCount n)
    (hv : Asked outValue valueCount n) :
    ∃ payload, storeWrites (fun _ => 0) (KvMmu.writesOf (Sent keyCount) (Sent valueCount) blocks) = some payload ∧
      deliverFloats outKey payload 0 keyCount (streamBytes keyCount) =
        outKey.map (fun array => storeBlocks array
          (keyBlocks (KvMmu.writesOf outKey.isSome outValue.isSome blocks))) ∧
      deliverFloats outValue payload halfPayload valueCount (streamBytes valueCount) =
        outValue.map (fun array => storeBlocks array
          (valueBlocks (KvMmu.writesOf outKey.isSome outValue.isSome blocks))) := by
  obtain ⟨hkb, hvb⟩ := streamsFit_iff.mp hfit
  have hnfit : n * KvMmu.floatSize ≤ halfPayload := by
    rcases Bool.or_eq_true_iff.mp hgiven with hs | hs
    · rw [← hk (Option.isSome_iff_ne_none.mp hs)]
      exact hkb
    · rw [← hv (Option.isSome_iff_ne_none.mp hs)]
      exact hvb
  have hsent : ∀ {count : ℕ}, streamBytes count = n * KvMmu.floatSize → Sent count = true := by
    intro count hcount
    unfold Sent
    rw [hcount]
    exact decide_eq_true (Nat.mul_pos hn (by decide))
  obtain ⟨payload, hstore, hboth⟩ := storeWrites_spec (fun _ => 0)
    (h.fitsHalves hnfit (Sent keyCount) (Sent valueCount))
  refine ⟨payload, hstore, ?_, ?_⟩
  · cases outKey with
    | none => rfl
    | some array =>
      have hcount := hk (Option.some_ne_none array)
      rw [hsent hcount, keyBlocks_writesOf] at hboth
      rw [Option.isSome_some, keyBlocks_writesOf, Option.map_some]
      exact deliverFloats_eq h.covered_key hcount hkb fun i hi => (hboth i hi).1
  · cases outValue with
    | none => rfl
    | some array =>
      have hcount := hv (Option.some_ne_none array)
      rw [hsent hcount, valueBlocks_writesOf] at hboth
      rw [Option.isSome_some, valueBlocks_writesOf, Option.map_some]
      exact deliverFloats_eq h.covered_value hcount hvb fun i hi => (hboth i hi).2

theorem sent_iff (count : ℕ) : decide (0 < streamBytes count / KvMmu.floatSize) = Sent count := by
  have hmod := streamBytes_mod count
  unfold Sent
  rw [decide_eq_decide]
  unfold KvMmu.floatSize at hmod ⊢
  omega

/-- The response to a read or a range copy whose stores are those of `blocks`. -/
theorem response_carried {m : KvMmu UInt32} {status : Status}
    (blocks : List (ℕ × List UInt32 × List UInt32)) (hfit : streamsFit keyCount valueCount = true)
    (hok : status = .ok → (outKey.isSome || outValue.isSome) = true ∧
      ∃ n, 0 < n ∧ Fills blocks n ∧ Asked outKey keyCount n ∧ Asked outValue valueCount n)
    (herror : status ≠ .ok → blocks = []) :
    (storeWrites (fun _ => 0) (KvMmu.writesOf (Sent keyCount) (Sent valueCount) blocks)).map
        (fun payload => deliverReply outKey keyCount outValue valueCount
          ({ d with kv := m },
            { status := status
              payload := payload
              kvKeyBytes := if status = .ok then streamBytes keyCount else 0
              kvValueBytes := if status = .ok then streamBytes valueCount else 0 })) =
      some ({ d with kv := m },
        replyWrites status outKey outValue (KvMmu.writesOf outKey.isSome outValue.isSome blocks)) := by
  by_cases hst : status = .ok
  · obtain ⟨hgiven, n, hn, hfills, hk, hv⟩ := hok hst
    obtain ⟨payload, hstore, hkey, hvalue⟩ := deliver_carried hfills hn hfit hgiven hk hv
    rw [hstore, Option.map_some, if_pos hst, if_pos hst]
    unfold deliverReply replyWrites
    rw [if_neg (not_not.mpr hst), hkey, hvalue]
  · obtain rfl := herror hst
    show some (deliverReply outKey keyCount outValue valueCount _) = some (_, replyWrites status outKey outValue [])
    unfold deliverReply replyWrites
    rw [if_pos hst]
    cases outKey <;> cases outValue <;> rfl

/-- A read stores what a range copy of one token at the start stores. -/
theorem storeSlice_eq (payload : ℕ → UInt8) (slice : Option (KvSlice UInt32)) :
    storeSlice payload 0 (slice.getD ⟨none, none⟩) = storeWrites payload (slice.toList.map (⟨0, ·⟩)) := by
  have hnil : ∀ off, storeFloats payload off [] = some payload := by
    intro off
    refine (if_pos (Or.inl rfl)).trans (congrArg some (funext fun i => ?_))
    unfold copyInto
    rw [if_neg]
    rintro ⟨hle, hlt⟩
    rw [List.length_nil, Nat.zero_mul] at hlt
    omega
  cases slice with
  | none =>
    show (storeFloats payload 0 [] >>= fun p => storeFloats p (halfPayload + 0) []) = some payload
    rw [hnil]
    exact hnil _
  | some slice =>
    show storeSlice payload 0 slice = (storeSlice payload (0 * KvMmu.floatSize) slice >>= fun p => some p)
    rw [Nat.zero_mul]
    cases storeSlice payload 0 slice <;> rfl

theorem clientKvRead_eq (hfit : streamsFit keyCount valueCount = true) :
    clientKvRead d host sid layer head pos outKey keyCount outValue valueCount =
      (fun r : KvMmu UInt32 × Status × Option (KvSlice UInt32) =>
        (storeWrites (fun _ => 0) (r.2.2.toList.map (⟨0, ·⟩))).map fun payload =>
          deliverReply outKey keyCount outValue valueCount
            ({ d with kv := r.1 },
              { status := r.2.1
                payload := payload
                kvKeyBytes := if r.2.1 = .ok then streamBytes keyCount else 0
                kvValueBytes := if r.2.1 = .ok then streamBytes valueCount else 0 }))
        (d.kv.read sid (uint32 layer) (uint32 head) (uint32 pos) (Sent keyCount) (Sent valueCount)) := by
  obtain ⟨hk, hv⟩ := streamsFit_iff.mp hfit
  unfold clientKvRead
  rw [if_neg (by rw [hfit]; exact Bool.noConfusion), uint32_of_le_halfPayload hk, uint32_of_le_halfPayload hv]
  unfold dispatchRequest
  simp only [sent_iff]
  rw [storeSlice_eq, Option.map_map]
  rfl

theorem clientKvCopyRange_eq (hfit : streamsFit keyCount valueCount = true) :
    clientKvCopyRange d host sid layer head start count outKey keyCount outValue valueCount =
      (fun r : KvMmu UInt32 × Status × List (KvRangeWrite UInt32) =>
        (storeWrites (fun _ => 0) r.2.2).map fun payload =>
          deliverReply outKey keyCount outValue valueCount
            ({ d with kv := r.1 },
              { status := r.2.1
                payload := payload
                kvKeyBytes := if r.2.1 = .ok then streamBytes keyCount else 0
                kvValueBytes := if r.2.1 = .ok then streamBytes valueCount else 0 }))
        (d.kv.copyRange sid (uint32 layer) (uint32 head) (uint32 start) (uint32 count) (Sent keyCount)
          (Sent valueCount)) := by
  obtain ⟨hk, hv⟩ := streamsFit_iff.mp hfit
  unfold clientKvCopyRange
  rw [if_neg (by rw [hfit]; exact Bool.noConfusion), uint32_of_le_halfPayload hk, uint32_of_le_halfPayload hv]
  unfold dispatchRequest
  simp only [sent_iff]
  rw [Option.map_map]
  rfl

theorem read_carried (hc : d.kv.config = defaultKvConfig)
    (h : KvTransparent d.kv (.read sid layer head pos outKey keyCount outValue valueCount)) :
    performKvRemote host d (.read sid layer head pos outKey keyCount outValue valueCount) =
      some (offeredKv d (.read sid layer head pos outKey keyCount outValue valueCount)) := by
  show clientKvRead d host sid layer head pos outKey keyCount outValue valueCount =
    some (if streamsFit keyCount valueCount = true then _ else _)
  cases hfit : streamsFit keyCount valueCount with
  | false =>
    unfold clientKvRead
    rw [if_pos hfit, if_neg Bool.noConfusion]
    rfl
  | true =>
    obtain ⟨hcheck, hasked⟩ := h hfit
    rw [if_pos rfl, clientKvRead_eq hfit]
    show _ = some ({ d with kv := (d.kv.read sid layer head pos outKey.isSome outValue.isSome).1 },
      replyWrites (d.kv.read sid layer head pos outKey.isSome outValue.isSome).2.1 outKey outValue
        ((d.kv.read sid layer head pos outKey.isSome outValue.isSome).2.2.toList.map (⟨0, ·⟩)))
    by_cases hok : d.kv.readCheck (outKey.isSome || outValue.isSome) sid layer head pos = .ok
    · obtain ⟨hgiven, haddr, hpos, hhead⟩ := KvMmu.readCheck_ok.mp hok
      have hlayer := KvMmu.layer_lt_of_validateAddress haddr
      rw [hc] at hpos hlayer hhead
      rw [small_eq (hlayer.trans (by decide)), small_eq (hpos.trans (by decide)),
        small_eq (hhead.trans (by decide))] at hcheck ⊢
      rw [KvMmu.read_checked hok, KvMmu.read_checked (hcheck.trans hok)]
      have hwrites : ∀ outK outV : Bool, ((d.kv.readAt sid layer head pos).2.map
          (KvMmu.sliceOf outK outV)).toList.map (fun slice => (⟨0, slice⟩ : KvRangeWrite UInt32)) =
          KvMmu.writesOf outK outV ((d.kv.readAt sid layer head pos).2.toList.map fun blocks => (0, blocks)) := by
        intro outK outV
        cases (d.kv.readAt sid layer head pos).2 <;> rfl
      simp only [hwrites]
      apply response_carried _ hfit
      · intro hst
        refine ⟨hgiven, d.kv.config.headDim, by rw [hc]; decide, ?_, ?_⟩
        · cases hr : (d.kv.readAt sid layer head pos).2 with
          | none =>
            rw [hr] at hst
            cases hst
          | some blocks =>
            obtain ⟨hk, hv⟩ := KvMmu.readAt_length hr
            have hcount : KvMmu.copyCount d.kv.config.headDim = d.kv.config.headDim := by rw [hc]; rfl
            rw [hcount] at hk hv
            constructor
            · intro b hb
              obtain rfl : b = (0, blocks) := List.mem_singleton.mp hb
              rw [hk, hv, Nat.zero_add]
              exact ⟨le_rfl, le_rfl⟩
            · intro i hi
              refine ⟨⟨(0, blocks), List.mem_singleton_self _, Nat.zero_le i, ?_⟩,
                ⟨(0, blocks), List.mem_singleton_self _, Nat.zero_le i, ?_⟩⟩
              · rwa [hk, Nat.zero_add]
              · rwa [hv, Nat.zero_add]
        · apply hasked hok
          by_contra habs
          rw [(KvMmu.readAt_spec d.kv sid layer head pos).2, if_neg habs] at hst
          cases hst
      · intro hst
        cases hr : (d.kv.readAt sid layer head pos).2 with
        | none => rfl
        | some blocks =>
          rw [hr] at hst
          exact absurd rfl hst
    · rw [KvMmu.read_refused rfl hok, KvMmu.read_refused hcheck hok]
      exact response_carried [] hfit (fun hst => absurd hst hok) fun _ => rfl

/-- A range that passes the checks in 32 bits and in full is the same range. -/
theorem validateRange_narrow {m : KvMmu UInt32} (hmax : m.config.maxPositions < 2 ^ 32) (hcount : count ≤ sizeMax)
    (h : m.validateRange start count = .ok) (h' : m.validateRange (uint32 start) (uint32 count) = .ok) :
    start + count ≤ m.config.maxPositions := by
  by_cases hsum : start + count ≤ sizeMax
  · exact (KvMmu.validateRange_fits h hsum).2
  · -- the end of the range wraps to 0, but not that of the 32-bit range
    exfalso
    have hs : uint32 start < 2 ^ 32 := Nat.mod_lt _ (by decide)
    have hn : uint32 count < 2 ^ 32 := Nat.mod_lt _ (by decide)
    obtain ⟨hne, hfits⟩ := KvMmu.validateRange_fits h' (by unfold sizeMax; omega)
    have hstart : start ≤ sizeMax - (count - 1) := by
      unfold KvMmu.validateRange at h
      split_ifs at h with h1 h2 h3
      exact not_lt.mp h2
    unfold uint32 at hs hn hne hfits
    unfold sizeMax at hcount hsum hstart
    omega

theorem copyRange_carried (hc : d.kv.config = defaultKvConfig) (sized : count ≤ sizeMax)
    (h : KvTransparent d.kv (.copyRange sid layer head start count outKey keyCount outValue valueCount sized)) :
    performKvRemote host d (.copyRange sid layer head start count outKey keyCount outValue valueCount sized) =
      some (offeredKv d (.copyRange sid layer head start count outKey keyCount outValue valueCount sized)) := by
  show clientKvCopyRange d host sid layer head start count outKey keyCount outValue valueCount =
    some (if streamsFit keyCount valueCount = true then _ else _)
  cases hfit : streamsFit keyCount valueCount with
  | false =>
    unfold clientKvCopyRange
    rw [if_pos hfit, if_neg Bool.noConfusion]
    rfl
  | true =>
    obtain ⟨hcheck, hasked⟩ := h hfit
    rw [if_pos rfl, clientKvCopyRange_eq hfit]
    show _ = some ({ d with kv := (d.kv.copyRange sid layer head start count outKey.isSome outValue.isSome).1 },
      replyWrites (d.kv.copyRange sid layer head start count outKey.isSome outValue.isSome).2.1 outKey outValue
        (d.kv.copyRange sid layer head start count outKey.isSome outValue.isSome).2.2)
    by_cases hok : d.kv.rangeCheck (outKey.isSome || outValue.isSome) sid layer head start count = .ok
    · obtain ⟨hgiven, hrange, hhead, haddr⟩ := KvMmu.rangeCheck_ok.mp hok
      obtain ⟨-, hrange', -, -⟩ := KvMmu.rangeCheck_ok.mp (hcheck.trans hok)
      have hlayer := KvMmu.layer_lt_of_validateAddress haddr
      have hmax : d.kv.config.maxPositions = 256 := by rw [hc]; rfl
      have hend := validateRange_narrow (by rw [hmax]; decide) sized hrange hrange'
      have hsum : start + count ≤ sizeMax := by unfold sizeMax; omega
      have hne := (KvMmu.validateRange_fits hrange hsum).1
      rw [hc] at hlayer hhead
      rw [small_eq (hlayer.trans (by decide)), small_eq (by omega : start < 2 ^ 32),
        small_eq (by omega : count < 2 ^ 32), small_eq (hhead.trans (by decide))] at hcheck ⊢
      have hbound : d.kv.config.maxPositions ≤ sizeMax := by rw [hmax]; decide
      rw [KvMmu.copyRange_checked hok hsum hbound, KvMmu.copyRange_checked (hcheck.trans hok) hsum hbound]
      rcases hasked hok with habs | ⟨hpres, hk, hv⟩
      · -- the first read fails, and nothing has been stored
        obtain ⟨n, rfl⟩ := Nat.exists_eq_succ_of_ne_zero hne
        have hnone : (KvMmu.rangeAt sid layer head start (n + 1) 0 d.kv).2 = (false, []) :=
          KvMmu.rangeAt_absent n (by unfold sizeMax; omega) habs
        simp only [hnone]
        exact response_carried [] hfit (fun hst => by cases hst) fun _ => rfl
      · obtain ⟨hall, hlen, hget⟩ := KvMmu.rangeAt_present head count 0 hsum hpres
        have hdim : d.kv.config.headDim = 16 := by rw [hc]; rfl
        simp only [hall, if_true]
        apply response_carried _ hfit ?_ fun hst => absurd rfl hst
        intro _
        refine ⟨hgiven, count * d.kv.config.headDim, Nat.mul_pos (Nat.pos_of_ne_zero hne) (by omega), ?_, hk, hv⟩
        have hblock : ∀ i < count, ∃ blocks : List UInt32 × List UInt32,
            (KvMmu.rangeAt sid layer head start count 0 d.kv).2.2[i]? = some (i * 16, blocks) ∧
              blocks.1.length = 16 ∧ blocks.2.length = 16 := by
          intro i hi
          obtain ⟨blocks, hb, hg⟩ := hget i hi
          have hlength := KvMmu.readAt_length hb
          rw [hdim] at hlength hg
          rw [Nat.zero_add, sizeT_eq (by unfold sizeMax; omega)] at hg
          exact ⟨blocks, hg, hlength⟩
        constructor
        · intro b hb
          obtain ⟨i, hi, hbi⟩ := List.mem_iff_getElem.mp hb
          obtain ⟨blocks, hg, hk16, hv16⟩ := hblock i (hlen ▸ hi)
          rw [List.getElem?_eq_getElem hi, hbi] at hg
          obtain rfl := Option.some.inj hg
          simp only [hk16, hv16, hdim]
          omega
        · intro i hi
          rw [hdim] at hi
          obtain ⟨blocks, hg, hk16, hv16⟩ := hblock (i / 16) (by omega)
          have hmem := List.mem_of_getElem? hg
          exact ⟨⟨_, hmem, by simp only; omega, by simp only [hk16]; omega⟩,
            ⟨_, hmem, by simp only; omega, by simp only [hv16]; omega⟩⟩
    · rw [KvMmu.copyRange_refused rfl hok, KvMmu.copyRange_refused hcheck hok]
      exact response_carried [] hfit (fun hst => absurd hst hok) fun _ => rfl

/-! ### Runs -/

theorem transparent_carried (hc : d.kv.config = defaultKvConfig) (op : KvOp) (h : KvTransparent d.kv op) :
    performKvRemote host d op = some (offeredKv d op) := by
  cases op with
  | createSession sid => rfl
  | destroySession sid => rfl
  | append host sid layer pos key keyCount value valueCount => exact append_carried hc h
  | read sid layer head pos outKey keyCount outValue valueCount => exact read_carried hc h
  | copyRange sid layer head start count outKeys keysCount outValues valuesCount sized =>
    exact copyRange_carried hc sized h

/-- The store is a paged store of the default configuration. -/
structure KvInv (d : Inproc) : Prop where
  config_eq : d.kv.config = defaultKvConfig
  simulates : ∃ s, KvMmu.Simulates d.kv s

theorem kvInv_offered (h : KvInv d) (op : KvOp) : KvInv (offeredKv d op).1 := by
  unfold offeredKv
  split_ifs
  · obtain ⟨s, hs⟩ := h.simulates
    obtain ⟨hconf, hsim, -⟩ := KvMmu.step_simulates hs (KvMmu.step_perform d.kv op.call)
    exact ⟨hconf.trans h.config_eq, _, hsim⟩
  · exact h

/-- **KV calls through the socket.**  As long as the calls are transparent, the daemon's store and all it answers
stay those of the direct calls, or of a refusal by the client. -/
theorem kv_refinement {host' : Host} {kv₀ : KvMmu UInt32} {fabric : Fabric} {es : List (Exchange KvOp Reply)}
    (hc : KvMmu.create host' defaultKvConfig = .ok kv₀)
    (hg : Guarded (Lockstep offeredKv (performKvRemote host)) (⟨fabric, kv₀⟩, ⟨fabric, kv₀⟩)
      (fun p e => KvTransparent p.1.kv e.call) es) :
    Lawful (Lockstep offeredKv (performKvRemote host)) (⟨fabric, kv₀⟩, ⟨fabric, kv₀⟩) Agreement es := by
  obtain ⟨hconf, hsim⟩ := KvMmu.create_simulates hc
  have h0 : KvInv (Inproc.mk fabric kv₀) := ⟨hconf, _, hsim⟩
  apply agreement_of_guarded h0
  · intro d op hd _
    exact kvInv_offered hd op
  · intro d op hd hop
    exact transparent_carried hd.config_eq op hop
  · exact hg

/-- The first token of layer 0 in session 7: all four heads at once. -/
def appendToken : KvOp := .append .generous 7 0 0 (some fun i => UInt32.ofNat i) 64 (some fun i => UInt32.ofNat (100 + i)) 64

/-- Its third head, keys only. -/
def readKey : KvOp := .read 7 0 2 0 (some fun _ => 1) 16 none 0

theorem session_carried : ∃ f kv₀ es t, Fabric.create .generous ⟨1, 1, 1⟩ = .ok f ∧
    KvMmu.create .generous defaultKvConfig = .ok kv₀ ∧
    Run (Lockstep offeredKv (performKvRemote .generous)) (⟨f, kv₀⟩, ⟨f, kv₀⟩) es t ∧
    es.map Exchange.call = [.createSession 7, appendToken, readKey] ∧
    Lawful (Lockstep offeredKv (performKvRemote .generous)) (⟨f, kv₀⟩, ⟨f, kv₀⟩) Agreement es := by
  have hrun : ∃ f kv₀, Fabric.create .generous ⟨1, 1, 1⟩ = .ok f ∧
      KvMmu.create .generous defaultKvConfig = .ok kv₀ ∧ ∃ es t,
      Run (fun s e t => Lockstep offeredKv (performKvRemote .generous) s e t ∧ KvTransparent s.1.kv e.call)
        (⟨f, kv₀⟩, ⟨f, kv₀⟩) es t ∧ es.map Exchange.call = [.createSession 7, appendToken, readKey] := by
    refine ⟨_, _, rfl, rfl, _, _, Run.cons ⟨lockstep_exchange _ _ _ (.createSession 7), ?_⟩ <|
      Run.cons ⟨lockstep_exchange _ _ _ appendToken, ?_⟩ <|
      Run.cons ⟨lockstep_exchange _ _ _ readKey, ?_⟩ Run.nil, rfl⟩
    · trivial
    · refine fun _ => ⟨rfl, fun _ _ => ⟨?_, ?_⟩⟩
      · intro _ _ i hi hge
        exact absurd hi (not_lt.mpr hge)
      · intro _ _ i hi hge
        exact absurd hi (not_lt.mpr hge)
    · exact fun _ => ⟨rfl, fun _ _ => ⟨fun _ => rfl, fun h => absurd rfl h⟩⟩
  obtain ⟨f, kv₀, hf, hc, es, t, hr, hcalls⟩ := hrun
  obtain ⟨hr, hg⟩ := hr.guarded (lockstep_deterministic _ _)
  exact ⟨f, kv₀, es, t, hf, hc, hr, hcalls, kv_refinement hc hg⟩

/-- The first token of a layer that the store does not have. -/
def appendBeyond : KvOp :=
  .append .generous 7 (2 ^ 32) 0 (some fun i => UInt32.ofNat i) 64 (some fun i => UInt32.ofNat (100 + i)) 64

/-- It is refused, but the daemon appends to layer 0. -/
theorem layer_wraps_to_zero : ∃ f kv₀ es t, Fabric.create .generous ⟨1, 1, 1⟩ = .ok f ∧
    KvMmu.create .generous defaultKvConfig = .ok kv₀ ∧
    Run (Lockstep offeredKv (performKvRemote .generous)) (⟨f, kv₀⟩, ⟨f, kv₀⟩) es t ∧
    es.map Exchange.call = [.createSession 7, appendBeyond] ∧
    es.map (fun e => e.direct.status) = [.ok, .invalidArg] ∧
    es.map (fun e => e.remote.map Reply.status) = [some .ok, some .ok] ∧ ¬ Agreement es t := by
  refine ⟨_, _, _, _, rfl, rfl, Run.cons (lockstep_exchange _ _ _ (.createSession 7)) <|
    Run.cons (lockstep_exchange _ _ _ appendBeyond) Run.nil, rfl, rfl, rfl, ?_⟩
  rintro ⟨-, hall⟩
  have hlast := congrArg (Option.map Reply.status) (hall _ (List.mem_cons_of_mem _ List.mem_cons_self))
  cases hlast

end Att1.Endpoint
