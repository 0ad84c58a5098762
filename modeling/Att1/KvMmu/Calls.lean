import Att1.KvMmu.Flat

/-!
# Att1.KvMmu.Calls — each call on the paged store, seen from the flat store

`read_spec`, `copyRange_spec` and `lookupPage_spec` say what the calls that change nothing return;
`createSession_spec` and `destroySession_spec` which flat store the others leave.
-/

open Att1.Lib

namespace Att1.KvMmu

variable {F : Type} {m m' : KvMmu F} {s : FlatStore F} {sid layer head pos : ℕ} {outKey outValue : Bool}

/-! ### Reading -/

theorem lookupExisting_spec (m : KvMmu F) (sid layer pos : ℕ) :
    SameStore m (m.lookupExisting sid layer pos).1 ∧
      (m.lookupExisting sid layer pos).2 = m.findPage sid layer (pos / m.config.pageTokens) := by
  unfold lookupExisting
  cases m.findPage sid layer (pos / m.config.pageTokens) with
  | none => exact ⟨⟨rfl, rfl, rfl⟩, rfl⟩
  | some i => exact ⟨⟨rfl, rfl, rfl⟩, rfl⟩

/-- The offset of a head's part of a token does not wrap. -/
theorem positionOffset_eq (hs : Simulates m s) {t : ℕ} (ht : t < m.config.pageTokens)
    (hhead : head < m.config.numHeads) :
    m.positionOffset t head = t * vectorLen m.config + head * m.config.headDim := by
  have hfit := (configValid_bounds hs.valid).2.2.1
  have hflat : t * m.config.numHeads + head < m.config.pageTokens * m.config.numHeads :=
    calc t * m.config.numHeads + head < t * m.config.numHeads + m.config.numHeads := by omega
      _ = (t + 1) * m.config.numHeads := (Nat.succ_mul _ _).symm
      _ ≤ m.config.pageTokens * m.config.numHeads := Nat.mul_le_mul_right _ ht
  have hprod : (t * m.config.numHeads + head) * m.config.headDim ≤ sizeMax := by
    refine (Nat.mul_le_mul_right _ hflat.le).trans ?_
    unfold vectorLen at hfit
    rwa [← Nat.mul_assoc] at hfit
  unfold positionOffset vectorLen
  rcases Nat.eq_zero_or_pos m.config.headDim with h0 | hpos
  · rw [h0]
    simp [sizeT]
  · have hsum : t * m.config.numHeads + head ≤ sizeMax := (Nat.le_mul_of_pos_right _ hpos).trans hprod
    rw [sizeT_eq (n := t * m.config.numHeads) (by omega), sizeT_eq hsum, sizeT_eq hprod, Nat.add_mul,
      Nat.mul_assoc]

/-- The part of a stored vector that belongs to a head. -/
theorem readBlock_head (hs : Simulates m s) {i : ℕ} {tok : KvToken F} (h : Holds m i sid layer pos tok)
    (hhead : head < m.config.numHeads) :
    readBlock (m.pages i).keys (m.positionOffset (pos % m.config.pageTokens) head)
        (copyCount m.config.headDim) = (tok.key.drop (head * m.config.headDim)).take m.config.headDim ∧
      readBlock (m.pages i).values (m.positionOffset (pos % m.config.pageTokens) head)
        (copyCount m.config.headDim) =
          (tok.value.drop (head * m.config.headDim)).take m.config.headDim := by
  obtain ⟨hpt, -, -, -⟩ := configValid_bounds hs.valid
  have hin : head * m.config.headDim + m.config.headDim ≤ vectorLen m.config :=
    calc head * m.config.headDim + m.config.headDim = (head + 1) * m.config.headDim := (Nat.succ_mul _ _).symm
      _ ≤ m.config.numHeads * m.config.headDim := Nat.mul_le_mul_right _ hhead
  have hvec : vectorLen m.config ≤ m.config.pageTokens * vectorLen m.config := Nat.le_mul_of_pos_left _ hpt
  have hfit := hs.page_fits i sid layer _ h.pageAt
  have hcount : copyCount m.config.headDim = m.config.headDim := by
    refine copyCount_eq (le_trans (Nat.mul_le_mul_right _ ?_) hfit)
    omega
  rw [positionOffset_eq hs (Nat.mod_lt pos hpt) hhead, hcount, ← h.key, ← h.value]
  exact ⟨(take_drop_readBlock _ _ hin).symm, (take_drop_readBlock _ _ hin).symm⟩

/-- **Reading** a position of a live stream returns the head's part of the token there; any other read fails and
returns nothing. -/
theorem read_spec (hs : Simulates m s) (sid layer head pos : ℕ) (outKey outValue : Bool) :
    SameStore m (m.read sid layer head pos outKey outValue).1 ∧
      ((∃ tok, (outKey = true ∨ outValue = true) ∧ s.Readable m.config sid layer head pos ∧
          (s.tokens sid layer)[pos]? = some tok ∧
          (m.read sid layer head pos outKey outValue).2 =
            (.ok, some (FlatStore.slice m.config head outKey outValue tok))) ∨
        (¬ ((outKey = true ∨ outValue = true) ∧ s.Readable m.config sid layer head pos) ∧
          (m.read sid layer head pos outKey outValue).2.1 ≠ .ok ∧
          (m.read sid layer head pos outKey outValue).2.2 = none)) := by
  have hlen := hs.length_le sid layer
  unfold read
  by_cases hout : outKey = false ∧ outValue = false
  · rw [if_pos hout]
    refine ⟨sameStore_countError m, Or.inr ⟨?_, by simp, rfl⟩⟩
    rintro ⟨h, -⟩
    simp [hout.1, hout.2] at h
  rw [if_neg hout]
  have hout' : outKey = true ∨ outValue = true := by
    rw [not_and_or, Bool.not_eq_false, Bool.not_eq_false] at hout
    exact hout
  cases haddr : m.validateAddress sid layer with
  | ok =>
    obtain ⟨hlive, hlayer⟩ := (validateAddress_ok hs).mp haddr
    unfold validatePosition
    by_cases hmax : m.config.maxPositions ≤ pos
    · rw [if_pos hmax]
      refine ⟨sameStore_countError m, Or.inr ⟨?_, by simp, rfl⟩⟩
      rintro ⟨-, -, -, -, hpos⟩
      omega
    rw [if_neg hmax]
    simp only
    by_cases hhead : m.config.numHeads ≤ head
    · rw [if_pos hhead]
      refine ⟨sameStore_countError m, Or.inr ⟨?_, by simp, rfl⟩⟩
      rintro ⟨-, -, -, hh, -⟩
      omega
    rw [if_neg hhead]
    obtain ⟨hsame, hlook⟩ := lookupExisting_spec m sid layer pos
    have hpres : m.tokenPresent sid layer pos = true ↔ pos < (s.tokens sid layer).length := tokenPresent_iff hs
    unfold tokenPresent at hpres
    generalize m.lookupExisting sid layer pos = r at hsame hlook
    obtain ⟨m1, page⟩ := r
    simp only at hlook
    subst hlook
    cases hf : m.findPage sid layer (pos / m.config.pageTokens) with
    | none =>
      rw [hf] at hpres
      simp only
      refine ⟨hsame.trans (sameStore_countError m1), Or.inr ⟨?_, by simp, by simp⟩⟩
      rintro ⟨-, -, -, -, hpos⟩
      exact absurd (hpres.mpr hpos) (by simp)
    | some i =>
      rw [hf] at hpres
      simp only at hpres ⊢
      rw [hsame.pages]
      by_cases htok : (m.pages i).tokenPresent (pos % m.config.pageTokens) = false
      · rw [if_pos htok]
        refine ⟨hsame.trans (sameStore_countError m1), Or.inr ⟨?_, by simp, rfl⟩⟩
        rintro ⟨-, -, -, -, hpos⟩
        simp [htok] at hpres
        omega
      · rw [if_neg htok]
        have hpos := hpres.mp (by simpa using htok)
        obtain ⟨j, hj⟩ := hs.stored sid layer pos _ (List.getElem?_eq_getElem hpos)
        obtain rfl : j = i := Option.some.inj ((findPage_of_pageAt hs hj.pageAt).symm.trans hf)
        obtain ⟨hkey, hvalue⟩ := readBlock_head hs hj (by omega : head < m.config.numHeads)
        refine ⟨hsame.trans ⟨rfl, rfl, hsame.pages.symm⟩, Or.inl ⟨_, hout', ⟨hlive, hlayer, by omega, hpos⟩,
          List.getElem?_eq_getElem hpos, ?_⟩⟩
        have hoff : m1.positionOffset (pos % m.config.pageTokens) head =
            m.positionOffset (pos % m.config.pageTokens) head := by
          unfold positionOffset
          rw [hsame.config]
        unfold FlatStore.slice
        rw [hsame.config, hoff, hkey, hvalue]
  | _ =>
    refine ⟨sameStore_countError m, Or.inr ⟨?_, by simp, rfl⟩⟩
    rintro ⟨-, hlive, hlayer, -⟩
    rw [(validateAddress_ok hs).mpr ⟨hlive, hlayer⟩] at haddr
    cases haddr

/-! ### Copying a range -/

/-- The writes of a copy of `start, start + 1, …`: the `i`-th one is the head's part of the token at `start + i`. -/
def WritesOf (s : FlatStore F) (config : KvMmuConfig) (sid layer head start : ℕ) (outKeys outValues : Bool)
    (writes : List (KvRangeWrite F)) : Prop :=
  ∀ i w, writes[i]? = some w → w.offset = sizeT (i * config.headDim) ∧
    s.Readable config sid layer head (start + i) ∧
    ∃ tok, (s.tokens sid layer)[start + i]? = some tok ∧
      w.slice = FlatStore.slice config head outKeys outValues tok

/-- The loop writes a token for each position until one cannot be read. -/
theorem copyRangeLoop_spec (hs : Simulates m s) (sid layer head start : ℕ) (outKeys outValues : Bool)
    (remaining pos : ℕ) (hwrap : start + pos ≤ sizeMax) :
    let r := copyRangeLoop sid layer head start outKeys outValues remaining pos m
    SameStore m r.1 ∧
      (∀ i w, r.2.2[i]? = some w → w.offset = sizeT ((pos + i) * m.config.headDim) ∧
        s.Readable m.config sid layer head (start + (pos + i)) ∧
        ∃ tok, (s.tokens sid layer)[start + (pos + i)]? = some tok ∧
          w.slice = FlatStore.slice m.config head outKeys outValues tok) ∧
      (r.2.1 = .ok ↔ ∀ i < remaining, (outKeys = true ∨ outValues = true) ∧
        s.Readable m.config sid layer head (start + (pos + i))) ∧
      (r.2.1 = .ok → r.2.2.length = remaining) := by
  induction remaining generalizing pos m with
  | zero => exact ⟨SameStore.refl m, by simp [copyRangeLoop], by simp [copyRangeLoop], fun _ => rfl⟩
  | succ remaining ih =>
    have hpos : sizeT (start + pos) = start + pos := sizeT_eq hwrap
    have hmax := (configValid_bounds hs.valid).2.2.2
    have hlen := hs.length_le sid layer
    obtain ⟨hsame, hread⟩ := read_spec hs sid layer head (start + pos) outKeys outValues
    unfold copyRangeLoop
    rw [hpos]
    generalize m.read sid layer head (start + pos) outKeys outValues = r at hsame hread
    obtain ⟨m1, st, slice⟩ := r
    simp only at hsame hread
    rcases hread with ⟨tok, hout, hreadable, htok, hres⟩ | ⟨hnot, hst, hnone⟩
    · obtain ⟨rfl, rfl⟩ := Prod.mk.inj hres
      simp only [Option.toList_some, List.map_cons, List.map_nil, List.singleton_append]
      -- a position that was read is below the limit, so the next one does not wrap
      have hbelow : start + pos < (s.tokens sid layer).length := hreadable.2.2.2
      obtain ⟨hsame', hwrites, hok, hcount⟩ := ih (hsame.simulates hs) (pos + 1) (by omega)
      rw [hsame.config] at hwrites hok ⊢
      refine ⟨hsame.trans hsame', fun i w hw => ?_, ?_, fun h => by rw [List.length_cons, hcount h]⟩
      · cases i with
        | zero =>
          obtain rfl : _ = w := Option.some.inj hw
          exact ⟨rfl, hreadable, tok, htok, rfl⟩
        | succ i =>
          have hstep := hwrites i w (by simpa using hw)
          rwa [show pos + 1 + i = pos + (i + 1) by omega] at hstep
      · rw [hok]
        constructor
        · intro h i hi
          cases i with
          | zero => exact ⟨hout, hreadable⟩
          | succ i =>
            have hstep := h i (by omega)
            rwa [show pos + 1 + i = pos + (i + 1) by omega] at hstep
        · intro h i hi
          have hstep := h (i + 1) (by omega)
          rwa [show pos + (i + 1) = pos + 1 + i by omega] at hstep
    · cases st with
      | ok => exact absurd rfl hst
      | _ =>
        refine ⟨hsame, by simp, ?_, by simp⟩
        simp only [reduceCtorEq, false_iff]
        exact fun h => hnot (h 0 (by omega))

/-- **Copying a range** writes only the head's parts of the tokens at `start, start + 1, …`, also when it fails,
and succeeds exactly when all positions of a non-empty range are readable. -/
theorem copyRange_spec (hs : Simulates m s) (sid layer head start count : ℕ) (outKeys outValues : Bool) :
    let r := m.copyRange sid layer head start count outKeys outValues
    SameStore m r.1 ∧ WritesOf s m.config sid layer head start outKeys outValues r.2.2 ∧
      (r.2.1 = .ok ↔ (outKeys = true ∨ outValues = true) ∧ 0 < count ∧ s.live sid = true ∧
        layer < m.config.numLayers ∧ head < m.config.numHeads ∧
        start + count ≤ (s.tokens sid layer).length) ∧
      (r.2.1 = .ok → r.2.2.length = count) := by
  obtain ⟨-, -, -, hmaxle⟩ := configValid_bounds hs.valid
  have hlen := hs.length_le sid layer
  have hnil : WritesOf s m.config sid layer head start outKeys outValues [] := fun i w hw => by simp at hw
  unfold copyRange
  by_cases hout : outKeys = false ∧ outValues = false
  · rw [if_pos hout]
    refine ⟨sameStore_countError m, hnil, ?_, by simp⟩
    simp [hout.1, hout.2]
  rw [if_neg hout]
  unfold validateRange
  by_cases hzero : count = 0
  · rw [if_pos hzero]
    exact ⟨sameStore_countError m, hnil, by simp [hzero], by simp⟩
  rw [if_neg hzero]
  by_cases hstart : sizeMax - (count - 1) < start
  · rw [if_pos hstart]
    refine ⟨sameStore_countError m, hnil, ?_, by simp⟩
    simp only [reduceCtorEq, false_iff]
    rintro ⟨-, -, -, -, -, hle⟩
    omega
  rw [if_neg hstart]
  by_cases hrange : m.config.maxPositions < sizeT (start + count)
  · rw [if_pos hrange]
    refine ⟨sameStore_countError m, hnil, ?_, by simp⟩
    simp only [reduceCtorEq, false_iff]
    rintro ⟨-, -, -, -, -, hle⟩
    rw [sizeT_eq (by omega)] at hrange
    omega
  rw [if_neg hrange]
  simp only
  by_cases hhead : m.config.numHeads ≤ head
  · rw [if_pos hhead]
    refine ⟨sameStore_countError m, hnil, ?_, by simp⟩
    simp only [reduceCtorEq, false_iff]
    rintro ⟨-, -, -, -, hlt, -⟩
    omega
  rw [if_neg hhead]
  obtain ⟨hsame, hwrites, hok, hlength⟩ :=
    copyRangeLoop_spec hs sid layer head start outKeys outValues count 0 (by omega)
  have hiff : (∀ i < count, (outKeys = true ∨ outValues = true) ∧
        s.Readable m.config sid layer head (start + (0 + i))) ↔
      (outKeys = true ∨ outValues = true) ∧ 0 < count ∧ s.live sid = true ∧
        layer < m.config.numLayers ∧ head < m.config.numHeads ∧
        start + count ≤ (s.tokens sid layer).length := by
    constructor
    · intro h
      obtain ⟨ho, hlive, hlayer, hh, hlast⟩ := h (count - 1) (by omega)
      exact ⟨ho, by omega, hlive, hlayer, hh, by omega⟩
    · rintro ⟨ho, -, hlive, hlayer, hh, hle⟩ i hi
      exact ⟨ho, hlive, hlayer, hh, by omega⟩
  rw [hiff] at hok
  simp only [Nat.zero_add] at hwrites
  generalize copyRangeLoop sid layer head start outKeys outValues count 0 m = r at hsame hwrites hok hlength
  obtain ⟨m1, st, writes⟩ := r
  cases st with
  | ok => exact ⟨hsame.trans ⟨rfl, rfl, rfl⟩, hwrites, hok, hlength⟩
  | _ => exact ⟨hsame, hwrites, hok, by simp⟩

/-! ### Looking up a page -/

/-- A lookup finds exactly the pages in use, and reports the address asked for. -/
theorem lookupPage_spec (hs : Simulates m s) (sid layer pos : ℕ) (outPage : Bool) :
    SameStore m (m.lookupPage sid layer pos outPage).1 ∧
      ((m.lookupPage sid layer pos outPage).2.1 = .ok ↔
        outPage = true ∧ s.live sid = true ∧ layer < m.config.numLayers ∧ pos < m.config.maxPositions ∧
          pos / m.config.pageTokens * m.config.pageTokens < (s.tokens sid layer).length) ∧
      ∀ ref ∈ (m.lookupPage sid layer pos outPage).2.2,
        ref.sessionId = sid ∧ ref.layerId = layer ∧ ref.logicalPage = pos / m.config.pageTokens ∧
          ref.pageTokens = m.config.pageTokens := by
  unfold lookupPage
  by_cases hout : outPage = false
  · rw [if_pos hout]
    exact ⟨sameStore_countError m, by simp [hout], by simp⟩
  rw [if_neg hout]
  cases haddr : m.validateAddress sid layer with
  | ok =>
    obtain ⟨hlive, hlayer⟩ := (validateAddress_ok hs).mp haddr
    unfold validatePosition
    by_cases hmax : m.config.maxPositions ≤ pos
    · rw [if_pos hmax]
      refine ⟨sameStore_countError m, ?_, by simp⟩
      simp only [reduceCtorEq, false_iff]
      rintro ⟨-, -, -, hlt, -⟩
      omega
    rw [if_neg hmax]
    obtain ⟨hsame, hlook⟩ := lookupExisting_spec m sid layer pos
    generalize m.lookupExisting sid layer pos = r at hsame hlook
    obtain ⟨m1, page⟩ := r
    simp only at hsame hlook ⊢
    subst hlook
    cases hf : m.findPage sid layer (pos / m.config.pageTokens) with
    | none =>
      refine ⟨hsame, ?_, by simp⟩
      simp only [reduceCtorEq, false_iff]
      rintro ⟨-, -, -, -, hused⟩
      obtain ⟨i, hi⟩ := hs.stored sid layer _ _ (List.getElem?_eq_getElem hused)
      have hat := hi.pageAt
      rw [Nat.mul_div_cancel _ (configValid_bounds hs.valid).1] at hat
      exact findPage_eq_none.mp hf i hat
    | some i =>
      have hat := findPage_some hf
      refine ⟨hsame, ?_, ?_⟩
      · simp only [true_iff]
        exact ⟨by simpa using hout, hlive, hlayer, by omega, hs.page_used i sid layer _ hat⟩
      · rintro ref ⟨⟩
        simp only
        rw [hsame.pages, hsame.config]
        exact ⟨hat.sessionId, hat.layerId, rfl, rfl⟩
  | _ =>
    refine ⟨sameStore_countError m, ?_, by simp⟩
    simp only [reduceCtorEq, false_iff]
    rintro ⟨-, hlive, hlayer, -⟩
    rw [(validateAddress_ok hs).mpr ⟨hlive, hlayer⟩] at haddr
    cases haddr

/-! ### Sessions -/

/-- Creating a session starts a new, empty incarnation; it fails for a live session and for a full table. -/
theorem createSession_spec (hs : Simulates m s) (sid : ℕ) :
    (m.createSession sid).1.config = m.config ∧
      (((m.createSession sid).2 = .ok ∧ s.live sid = false ∧
          Simulates (m.createSession sid).1 (s.create sid)) ∨
        ((m.createSession sid).2 ≠ .ok ∧ Simulates (m.createSession sid).1 s)) := by
  have hlive : (m.findSession sid).isSome ↔ s.live sid = true := findSession_isSome hs
  unfold createSession
  by_cases hfound : (m.findSession sid).isSome
  · rw [if_pos hfound]
    exact ⟨rfl, Or.inr ⟨by simp, (sameStore_countError m).simulates hs⟩⟩
  rw [if_neg hfound]
  have hdead : s.live sid = false := by
    rw [hlive, Bool.not_eq_true] at hfound
    exact hfound
  cases hfree : findSlot m.config.maxSessions fun i => !(m.sessions i).active with
  | none => exact ⟨rfl, Or.inr ⟨by simp, (sameStore_countError m).simulates hs⟩⟩
  | some i =>
    obtain ⟨hi, hinactive⟩ := findSlot_some hfree
    rw [Bool.not_eq_true'] at hinactive
    refine ⟨rfl, Or.inl ⟨rfl, hdead, ?_⟩⟩
    -- a dead session has no tokens, so the new incarnation changes no stream
    have htokens : (s.create sid).tokens = s.tokens := by
      funext sid' layer
      rcases eq_or_ne sid' sid with rfl | hne
      · simp [FlatStore.create, hs.dead _ hdead layer]
      · simp [FlatStore.create, hne]
    refine ⟨hs.valid, fun sid' => ?_, ?_, fun i j sid layer logical hi hj =>
      hs.page_unique i j sid layer logical (hi.of_page_eq rfl rfl) (hj.of_page_eq rfl rfl), ?_, ?_,
      fun i sid layer logical hi => hs.page_fits i sid layer logical (hi.of_page_eq rfl rfl), ?_, ?_, ?_, ?_⟩
    · -- the new slot is the only one that changed, and it was free
      rcases eq_or_ne sid' sid with rfl | hne
      · simp only [FlatStore.create, Function.update_self, true_iff]
        exact ⟨i, hi, by simp⟩
      · simp only [FlatStore.create, Function.update_of_ne hne]
        rw [hs.live_iff sid']
        constructor
        · rintro ⟨j, hj, hact, hid⟩
          have hji : j ≠ i := by
            rintro rfl
            simp [hinactive] at hact
          exact ⟨j, hj, by rw [Function.update_of_ne hji]; exact ⟨hact, hid⟩⟩
        · rintro ⟨j, hj, hact, hid⟩
          rcases eq_or_ne j i with rfl | hji
          · rw [Function.update_self] at hid
            exact absurd hid.symm hne
          · rw [Function.update_of_ne hji] at hact hid
            exact ⟨j, hj, hact, hid⟩
    · have hfresh : ∀ j < m.config.maxSessions, (m.sessions j).active = true → (m.sessions j).sessionId ≠ sid :=
        fun j hj hact hid => by
          rw [(hs.live_iff sid).mpr ⟨j, hj, hact, hid⟩] at hdead
          cases hdead
      intro j hj k hk hact hact' hid
      rcases eq_or_ne j i with rfl | hji <;> rcases eq_or_ne k j with rfl | hki
      · rfl
      · simp only [Function.update_self, Function.update_of_ne hki] at hact' hid
        exact absurd hid.symm (hfresh k hk hact')
      · rfl
      · rcases eq_or_ne k i with rfl | hki'
        · simp only [Function.update_self, Function.update_of_ne hji] at hact hid
          exact absurd hid (hfresh j hj hact)
        · simp only [Function.update_of_ne hji, Function.update_of_ne hki'] at hact hact' hid
          exact hs.session_unique j hj k hk hact hact' hid
    · intro j sid' layer logical hj
      have hl := hs.page_live j sid' layer logical (hj.of_page_eq rfl rfl)
      rcases eq_or_ne sid' sid with rfl | hne
      · simp [FlatStore.create]
      · simpa [FlatStore.create, hne] using hl
    · rw [htokens]
      exact fun j sid layer logical hj => hs.page_used j sid layer logical (hj.of_page_eq rfl rfl)
    · rw [htokens]
      exact fun j sid layer logical hj => hs.present j sid layer logical (hj.of_page_eq rfl rfl)
    · rw [htokens]
      intro sid layer pos tok htok
      obtain ⟨j, hj⟩ := hs.stored sid layer pos tok htok
      exact ⟨j, hj.of_page_eq rfl rfl⟩
    · rw [htokens]
      intro sid' hdead'
      refine hs.dead sid' ?_
      rcases eq_or_ne sid' sid with rfl | hne
      · exact hdead
      · simpa [FlatStore.create, hne] using hdead'
    · rw [htokens]
      exact hs.length_le

/-- Destroying a live session releases its pages and ends its incarnation. -/
theorem destroySession_spec [Zero F] (hs : Simulates m s) (sid : ℕ) :
    (m.destroySession sid).1.config = m.config ∧
      (((m.destroySession sid).2 = .ok ∧ s.live sid = true ∧
          Simulates (m.destroySession sid).1 (s.destroy sid)) ∨
        ((m.destroySession sid).2 ≠ .ok ∧ s.live sid = false ∧ Simulates (m.destroySession sid).1 s)) := by
  have hlive : (m.findSession sid).isSome ↔ s.live sid = true := findSession_isSome hs
  unfold destroySession
  cases hf : m.findSession sid with
  | none =>
    rw [hf] at hlive
    simp only [Option.isSome_none, Bool.false_eq_true, false_iff, Bool.not_eq_true] at hlive
    exact ⟨rfl, Or.inr ⟨by simp, hlive, (sameStore_countError m).simulates hs⟩⟩
  | some slot =>
    rw [hf] at hlive
    simp only [Option.isSome_some, true_iff] at hlive
    obtain ⟨hslot, hslotAct, hslotId⟩ := findSession_some hf
    refine ⟨rfl, Or.inl ⟨rfl, hlive, ?_⟩⟩
    set m' : KvMmu F :=
      { m with
        pages := fun i =>
          if i < m.config.maxPages ∧ (m.pages i).active = true ∧ (m.pages i).sessionId = sid then
            releasePage (m.pages i)
          else m.pages i
        sessions := Function.update m.sessions slot {} }
    -- what is still there belongs to another session and is unchanged
    have hpage : ∀ {i sid' layer logical}, PageAt m' i sid' layer logical →
        sid' ≠ sid ∧ PageAt m i sid' layer logical ∧ m'.pages i = m.pages i := by
      intro i sid' layer logical h
      have hact := h.active
      by_cases hc : i < m.config.maxPages ∧ (m.pages i).active = true ∧ (m.pages i).sessionId = sid
      · have hrel : m'.pages i = releasePage (m.pages i) := if_pos hc
        rw [hrel] at hact
        simp [releasePage] at hact
      · have hsame : m'.pages i = m.pages i := if_neg hc
        have hat : PageAt m i sid' layer logical := h.of_page_eq rfl hsame.symm
        refine ⟨?_, hat, hsame⟩
        rintro rfl
        exact hc ⟨hat.lt, hat.active, hat.sessionId⟩
    have hkeep : ∀ {sid' layer}, sid' ≠ sid → (s.destroy sid).tokens sid' layer = s.tokens sid' layer := by
      intro sid' layer hne
      simp [FlatStore.destroy, hne]
    have hgone : ∀ {layer}, (s.destroy sid).tokens sid layer = [] := by simp [FlatStore.destroy]
    refine ⟨hs.valid, fun sid' => ?_, ?_, ?_, ?_, ?_, ?_, ?_, ?_, ?_, ?_⟩
    · rcases eq_or_ne sid' sid with rfl | hne
      · simp only [FlatStore.destroy, Function.update_self, Bool.false_eq_true, false_iff]
        rintro ⟨j, hj, hact, hid⟩
        rcases eq_or_ne j slot with rfl | hjs
        · simp at hact
        · simp only [Function.update_of_ne hjs] at hact hid
          exact hjs (hs.session_unique j hj slot hslot hact hslotAct (hid.trans hslotId.symm))
      · simp only [FlatStore.destroy, Function.update_of_ne hne]
        rw [hs.live_iff sid']
        constructor
        · rintro ⟨j, hj, hact, hid⟩
          have hjs : j ≠ slot := by
            rintro rfl
            exact hne (hid.symm.trans hslotId)
          exact ⟨j, hj, by simp only [Function.update_of_ne hjs]; exact ⟨hact, hid⟩⟩
        · rintro ⟨j, hj, hact, hid⟩
          rcases eq_or_ne j slot with rfl | hjs
          · simp at hact
          · simp only [Function.update_of_ne hjs] at hact hid
            exact ⟨j, hj, hact, hid⟩
    · intro j hj k hk hact hact' hid
      rcases eq_or_ne j slot with rfl | hjs
      · simp at hact
      rcases eq_or_ne k slot with rfl | hks
      · simp at hact'
      simp only [Function.update_of_ne hjs, Function.update_of_ne hks] at hact hact' hid
      exact hs.session_unique j hj k hk hact hact' hid
    · intro i j sid' layer logical hi hj
      exact hs.page_unique i j sid' layer logical (hpage hi).2.1 (hpage hj).2.1
    · intro i sid' layer logical hi
      obtain ⟨hne, hat, -⟩ := hpage hi
      simpa [FlatStore.destroy, hne] using hs.page_live i sid' layer logical hat
    · intro i sid' layer logical hi
      obtain ⟨hne, hat, -⟩ := hpage hi
      rw [hkeep hne]
      exact hs.page_used i sid' layer logical hat
    · intro i sid' layer logical hi
      exact hs.page_fits i sid' layer logical (hpage hi).2.1
    · intro i sid' layer logical hi t ht hpres
      obtain ⟨hne, hat, hsame⟩ := hpage hi
      rw [hkeep hne]
      rw [hsame] at hpres
      exact hs.present i sid' layer logical hat t ht hpres
    · intro sid' layer pos tok htok
      rcases eq_or_ne sid' sid with rfl | hne
      · rw [hgone] at htok
        simp at htok
      · rw [hkeep hne] at htok
        obtain ⟨i, hi⟩ := hs.stored sid' layer pos tok htok
        have hsame : m'.pages i = m.pages i := by
          refine if_neg ?_
          rintro ⟨-, -, hid⟩
          exact hne (hi.pageAt.sessionId.symm.trans hid)
        exact ⟨i, hi.of_page_eq rfl hsame⟩
    · intro sid' hdead layer
      rcases eq_or_ne sid' sid with rfl | hne
      · exact hgone
      · rw [hkeep hne]
        refine hs.dead sid' ?_ layer
        simpa [FlatStore.destroy, hne] using hdead
    · intro sid' layer
      rcases eq_or_ne sid' sid with rfl | hne
      · rw [hgone]
        exact Nat.zero_le _
      · rw [hkeep hne]
        exact hs.length_le sid' layer

end Att1.KvMmu
