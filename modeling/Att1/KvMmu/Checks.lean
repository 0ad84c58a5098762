import Att1.KvMmu.Append

/-!
# Att1.KvMmu.Checks — each call as its argument checks and what follows them

* `appendCheck`, `readCheck`, `rangeCheck`: the status of the first argument check that fails.
* `append_refused`, `read_refused`, `copyRange_refused`: a call that fails one only counts an error.
* `read_checked`, `copyRange_checked`: what the others do depends on the two pointers only in what is handed out.
-/

open Att1.Lib

namespace Att1.KvMmu

variable {F : Type} {m m' : KvMmu F} {sid layer head pos start count : ℕ} {outKey outValue : Bool}
  {status : Status}

def addressCheck (m : KvMmu F) (sid layer pos : ℕ) : Status :=
  match m.validateAddress sid layer with
  | .ok => m.validatePosition pos
  | status => status

/-- The checks of `att1_kv_mmu_append`; `given` says whether both pointers are non-null. -/
def appendCheck (m : KvMmu F) (given : Bool) (sid layer pos : ℕ) : Status :=
  if given = false then .invalidArg else m.addressCheck sid layer pos

/-- The checks of `att1_kv_mmu_read`; `given` says whether one of the pointers is non-null. -/
def readCheck (m : KvMmu F) (given : Bool) (sid layer head pos : ℕ) : Status :=
  if given = false then .invalidArg
  else
    match m.addressCheck sid layer pos with
    | .ok => if m.config.numHeads ≤ head then .invalidArg else .ok
    | status => status

/-- The checks of `att1_kv_mmu_copy_range`, that of the address being made by its first read. -/
def rangeCheck (m : KvMmu F) (given : Bool) (sid layer head start count : ℕ) : Status :=
  if given = false then .invalidArg
  else
    match m.validateRange start count with
    | .ok => if m.config.numHeads ≤ head then .invalidArg else m.validateAddress sid layer
    | status => status

theorem addressCheck_ok : m.addressCheck sid layer pos = .ok ↔
    m.validateAddress sid layer = .ok ∧ m.validatePosition pos = .ok := by
  unfold addressCheck
  cases m.validateAddress sid layer <;> simp

theorem layer_lt_of_validateAddress (h : m.validateAddress sid layer = .ok) : layer < m.config.numLayers := by
  unfold validateAddress at h
  split_ifs at h with h1 h2
  exact not_le.mp h2

theorem validatePosition_ok : m.validatePosition pos = .ok ↔ pos < m.config.maxPositions := by
  unfold validatePosition
  split_ifs with h
  · exact iff_of_false (by simp) (not_lt.mpr h)
  · exact iff_of_true rfl (not_le.mp h)

theorem appendCheck_ok {given : Bool} : m.appendCheck given sid layer pos = .ok ↔
    given = true ∧ m.validateAddress sid layer = .ok ∧ pos < m.config.maxPositions := by
  unfold appendCheck
  cases given with
  | false => simp
  | true => simp [addressCheck_ok, validatePosition_ok]

theorem readCheck_ok {given : Bool} : m.readCheck given sid layer head pos = .ok ↔
    given = true ∧ m.validateAddress sid layer = .ok ∧ pos < m.config.maxPositions ∧
      head < m.config.numHeads := by
  have hsplit : (match m.addressCheck sid layer pos with
      | .ok => if m.config.numHeads ≤ head then .invalidArg else .ok
      | status => status) = Status.ok ↔
      m.addressCheck sid layer pos = .ok ∧ head < m.config.numHeads := by
    cases m.addressCheck sid layer pos <;> simp
  unfold readCheck
  cases given with
  | false => simp
  | true =>
    simp only [Bool.true_eq_false, if_false, true_and]
    rw [hsplit, addressCheck_ok, validatePosition_ok, and_assoc]

theorem rangeCheck_ok {given : Bool} : m.rangeCheck given sid layer head start count = .ok ↔
    given = true ∧ m.validateRange start count = .ok ∧ head < m.config.numHeads ∧
      m.validateAddress sid layer = .ok := by
  have hsplit : (match m.validateRange start count with
      | .ok => if m.config.numHeads ≤ head then .invalidArg else m.validateAddress sid layer
      | status => status) = Status.ok ↔
      m.validateRange start count = .ok ∧ head < m.config.numHeads ∧ m.validateAddress sid layer = .ok := by
    cases m.validateRange start count with
    | ok =>
      simp only [true_and]
      split_ifs with h
      · exact iff_of_false (by simp) fun h' => absurd h'.1 (not_lt.mpr h)
      · exact (and_iff_right (not_le.mp h)).symm
    | _ => simp
  unfold rangeCheck
  cases given with
  | false => simp
  | true =>
    simp only [Bool.true_eq_false, if_false, true_and]
    exact hsplit

/-! ### Refused calls -/

theorem some_pointer (h : (outKey || outValue) = true) : ¬ (outKey = false ∧ outValue = false) := by
  rw [← Bool.or_eq_false_iff, h]
  exact Bool.noConfusion

theorem append_refused [Zero F] {key value : Option (ℕ → F)} (host : Host)
    (h : m.appendCheck (key.isSome && value.isSome) sid layer pos = status) (hne : status ≠ .ok) :
    m.append host sid layer pos key value = (m.countError, status) := by
  subst h
  unfold appendCheck addressCheck at hne ⊢
  unfold append
  cases key with
  | none => rfl
  | some key =>
    cases value with
    | none => rfl
    | some value =>
      simp only [Option.isSome_some, Bool.and_self, Bool.true_eq_false, if_false] at hne ⊢
      cases ha : m.validateAddress sid layer with
      | ok =>
        simp only [ha] at hne ⊢
        cases hp : m.validatePosition pos with
        | ok => exact absurd hp hne
        | _ => rfl
      | _ => rfl

theorem read_refused (h : m.readCheck (outKey || outValue) sid layer head pos = status) (hne : status ≠ .ok) :
    m.read sid layer head pos outKey outValue = (m.countError, status, none) := by
  subst h
  unfold readCheck addressCheck at hne ⊢
  unfold read
  cases hg : outKey || outValue with
  | false =>
    rw [Bool.or_eq_false_iff] at hg
    rw [if_pos hg]
    rfl
  | true =>
    rw [if_neg (some_pointer hg)]
    simp only [hg, Bool.true_eq_false, if_false] at hne ⊢
    cases ha : m.validateAddress sid layer with
    | ok =>
      simp only [ha] at hne ⊢
      cases hp : m.validatePosition pos with
      | ok =>
        simp only [hp] at hne ⊢
        by_cases hh : m.config.numHeads ≤ head
        · rw [if_pos hh, if_pos hh]
        · exact absurd (if_neg hh) hne
      | _ => rfl
    | _ => rfl

theorem copyRange_refused (h : m.rangeCheck (outKey || outValue) sid layer head start count = status)
    (hne : status ≠ .ok) :
    m.copyRange sid layer head start count outKey outValue = (m.countError, status, []) := by
  subst h
  have hread : ∀ p, (outKey || outValue) = true → m.validateAddress sid layer ≠ .ok →
      m.read sid layer head p outKey outValue = (m.countError, m.validateAddress sid layer, none) := by
    intro p hg ha
    apply read_refused ?_ ha
    unfold readCheck addressCheck
    rw [hg, if_neg Bool.noConfusion]
    cases hv : m.validateAddress sid layer with
    | ok => exact absurd hv ha
    | _ => rfl
  unfold rangeCheck at hne ⊢
  unfold copyRange
  cases hg : outKey || outValue with
  | false =>
    rw [Bool.or_eq_false_iff] at hg
    rw [if_pos hg]
    rfl
  | true =>
    rw [if_neg (some_pointer hg)]
    simp only [hg, Bool.true_eq_false, if_false] at hne ⊢
    cases hr : m.validateRange start count with
    | ok =>
      simp only [hr] at hne ⊢
      by_cases hh : m.config.numHeads ≤ head
      · rw [if_pos hh, if_pos hh]
      · rw [if_neg hh] at hne ⊢
        rw [if_neg hh]
        -- the range is not empty, so its first read is made
        obtain ⟨n, rfl⟩ : ∃ n, count = n + 1 := by
          apply Nat.exists_eq_succ_of_ne_zero
          rintro rfl
          cases hr
        unfold copyRangeLoop
        rw [hread _ hg hne]
        cases hv : m.validateAddress sid layer with
        | ok => exact absurd hv hne
        | _ => rfl
    | _ => rfl

/-! ### What follows the checks -/

/-- The key and the value of the token at `pos` of page `page`, for one head. -/
def headBlocks (m : KvMmu F) (page head pos : ℕ) : List F × List F :=
  (readBlock (m.pages page).keys (m.positionOffset (pos % m.config.pageTokens) head) (copyCount m.config.headDim),
    readBlock (m.pages page).values (m.positionOffset (pos % m.config.pageTokens) head) (copyCount m.config.headDim))

/-- A read behind its checks, with all it can hand out. -/
def readAt (m : KvMmu F) (sid layer head pos : ℕ) : KvMmu F × Option (List F × List F) :=
  match m.lookupExisting sid layer pos with
  | (m, none) => (m.countError, none)
  | (m, some page) =>
    if (m.pages page).tokenPresent (pos % m.config.pageTokens) = false then (m.countError, none)
    else ({ m with counters := { m.counters with readOps := m.counters.readOps + 1 } }, some (m.headBlocks page head pos))

/-- The part of a key and a value that is handed out. -/
def sliceOf (outKey outValue : Bool) (blocks : List F × List F) : KvSlice F where
  key := if outKey then some blocks.1 else none
  value := if outValue then some blocks.2 else none

/-- The rounds of a range copy, with all they can hand out. -/
def rangeAt (sid layer head start : ℕ) : ℕ → ℕ → KvMmu F → KvMmu F × Bool × List (ℕ × List F × List F)
  | 0, _, m => (m, true, [])
  | remaining + 1, pos, m =>
    match m.readAt sid layer head (sizeT (start + pos)) with
    | (m, none) => (m, false, [])
    | (m, some blocks) =>
      let r := rangeAt sid layer head start remaining (pos + 1) m
      (r.1, r.2.1, (sizeT (pos * m.config.headDim), blocks) :: r.2.2)

/-- The writes of a range copy with these pointers. -/
def writesOf (outKey outValue : Bool) (blocks : List (ℕ × List F × List F)) : List (KvRangeWrite F) :=
  blocks.map fun block => ⟨block.1, sliceOf outKey outValue block.2⟩

theorem read_checked (h : m.readCheck (outKey || outValue) sid layer head pos = .ok) :
    m.read sid layer head pos outKey outValue =
      ((m.readAt sid layer head pos).1,
        if (m.readAt sid layer head pos).2.isSome then .ok else .notFound,
        (m.readAt sid layer head pos).2.map (sliceOf outKey outValue)) := by
  obtain ⟨hg, ha, hp, hh⟩ := readCheck_ok.mp h
  unfold read readAt
  rw [if_neg (some_pointer hg), ha, validatePosition_ok.mpr hp]
  simp only
  rw [if_neg (not_le.mpr hh)]
  unfold lookupExisting
  cases m.findPage sid layer (pos / m.config.pageTokens) with
  | none => rfl
  | some page =>
    simp only
    by_cases hpres : (m.pages page).tokenPresent (pos % m.config.pageTokens) = false
    · rw [if_pos hpres, if_pos hpres]
      rfl
    · rw [if_neg hpres, if_neg hpres]
      rfl

theorem readAt_spec (m : KvMmu F) (sid layer head pos : ℕ) :
    SameStore m (m.readAt sid layer head pos).1 ∧
      (m.readAt sid layer head pos).2 =
        if m.tokenPresent sid layer pos = true then
          (m.findPage sid layer (pos / m.config.pageTokens)).map fun page => m.headBlocks page head pos
        else none := by
  unfold readAt lookupExisting tokenPresent
  cases m.findPage sid layer (pos / m.config.pageTokens) with
  | none => exact ⟨⟨rfl, rfl, rfl⟩, rfl⟩
  | some page =>
    simp only
    by_cases hpres : (m.pages page).tokenPresent (pos % m.config.pageTokens) = true
    · rw [if_pos hpres, if_neg (by rw [hpres]; exact Bool.noConfusion)]
      exact ⟨⟨rfl, rfl, rfl⟩, rfl⟩
    · rw [if_neg hpres, if_pos (Bool.not_eq_true _ ▸ hpres)]
      exact ⟨⟨rfl, rfl, rfl⟩, rfl⟩

theorem readAt_length {blocks : List F × List F} (h : (m.readAt sid layer head pos).2 = some blocks) :
    blocks.1.length = copyCount m.config.headDim ∧ blocks.2.length = copyCount m.config.headDim := by
  rw [(readAt_spec m sid layer head pos).2] at h
  split_ifs at h
  obtain ⟨page, -, rfl⟩ := Option.map_eq_some_iff.mp h
  exact ⟨length_readBlock _ _ _, length_readBlock _ _ _⟩

theorem SameStore.tokenPresent_eq (h : SameStore m m') (sid layer pos : ℕ) :
    m'.tokenPresent sid layer pos = m.tokenPresent sid layer pos := by
  unfold tokenPresent findPage
  rw [h.config, h.pages]

theorem SameStore.validateAddress_eq (h : SameStore m m') (sid layer : ℕ) :
    m'.validateAddress sid layer = m.validateAddress sid layer := by
  unfold validateAddress findSession
  rw [h.config, h.sessions]

theorem SameStore.blocks_eq (h : SameStore m m') (sid layer head pos : ℕ) :
    (m'.readAt sid layer head pos).2 = (m.readAt sid layer head pos).2 := by
  rw [(readAt_spec m' sid layer head pos).2, (readAt_spec m sid layer head pos).2, h.tokenPresent_eq]
  unfold findPage headBlocks positionOffset
  rw [h.config, h.pages]

theorem copyRangeLoop_checked (hg : (outKey || outValue) = true) (ha : m.validateAddress sid layer = .ok)
    (hh : head < m.config.numHeads) (hmax : m.config.maxPositions ≤ sizeMax) (remaining pos : ℕ)
    (hp : start + pos + remaining ≤ m.config.maxPositions) :
    copyRangeLoop sid layer head start outKey outValue remaining pos m =
      ((rangeAt sid layer head start remaining pos m).1,
        if (rangeAt sid layer head start remaining pos m).2.1 then .ok else .notFound,
        writesOf outKey outValue (rangeAt sid layer head start remaining pos m).2.2) := by
  induction remaining generalizing pos m with
  | zero => rfl
  | succ remaining ih =>
    have hpos : sizeT (start + pos) = start + pos := sizeT_eq (by omega)
    have hlt : start + pos < m.config.maxPositions := by omega
    have hcheck : m.readCheck (outKey || outValue) sid layer head (start + pos) = .ok :=
      readCheck_ok.mpr ⟨hg, ha, hlt, hh⟩
    obtain ⟨hsame, -⟩ := readAt_spec m sid layer head (start + pos)
    unfold copyRangeLoop rangeAt
    rw [hpos, read_checked hcheck]
    rcases hr : m.readAt sid layer head (start + pos) with ⟨m₁, blocks⟩
    rw [hr] at hsame
    cases blocks with
    | none => rfl
    | some blocks =>
      have hrest := ih (m := m₁) (hsame.validateAddress_eq sid layer ▸ ha) (hsame.config ▸ hh) (hsame.config ▸ hmax)
        (pos + 1) (by rw [hsame.config]; omega)
      simp only [Option.isSome_some, if_true, Option.map_some]
      rw [hrest]
      rfl

/-- When the first token is missing, nothing is handed out. -/
theorem rangeAt_absent (remaining : ℕ) (hpos : start + pos ≤ sizeMax)
    (h : m.tokenPresent sid layer (start + pos) = false) :
    (rangeAt sid layer head start (remaining + 1) pos m).2 = (false, []) := by
  obtain ⟨-, hblocks⟩ := readAt_spec m sid layer head (start + pos)
  rw [h, if_neg Bool.noConfusion] at hblocks
  unfold rangeAt
  rw [sizeT_eq hpos]
  rcases hr : m.readAt sid layer head (start + pos) with ⟨m₁, blocks⟩
  rw [hr] at hblocks
  obtain rfl : blocks = none := hblocks
  rfl

/-- When all tokens are there, they are handed out in order, each in its place. -/
theorem rangeAt_present (head remaining pos : ℕ) (hmax : start + pos + remaining ≤ sizeMax)
    (h : ∀ i < remaining, m.tokenPresent sid layer (start + pos + i) = true) :
    (rangeAt sid layer head start remaining pos m).2.1 = true ∧
      (rangeAt sid layer head start remaining pos m).2.2.length = remaining ∧
      ∀ i < remaining, ∃ blocks, (m.readAt sid layer head (start + pos + i)).2 = some blocks ∧
        (rangeAt sid layer head start remaining pos m).2.2[i]? =
          some (sizeT ((pos + i) * m.config.headDim), blocks) := by
  induction remaining generalizing pos m with
  | zero => exact ⟨rfl, rfl, fun i hi => absurd hi (Nat.not_lt_zero i)⟩
  | succ remaining ih =>
    obtain ⟨hsame, hblocks⟩ := readAt_spec m sid layer head (start + pos)
    have hfirst : m.tokenPresent sid layer (start + pos) = true := h 0 (Nat.succ_pos remaining)
    rw [if_pos hfirst] at hblocks
    obtain ⟨page, hpage⟩ : ∃ page, m.findPage sid layer ((start + pos) / m.config.pageTokens) = some page := by
      unfold tokenPresent at hfirst
      cases hf : m.findPage sid layer ((start + pos) / m.config.pageTokens) with
      | none =>
        rw [hf] at hfirst
        cases hfirst
      | some page => exact ⟨page, rfl⟩
    rw [hpage, Option.map_some] at hblocks
    unfold rangeAt
    rw [sizeT_eq (by omega : start + pos ≤ sizeMax)]
    rcases hr : m.readAt sid layer head (start + pos) with ⟨m₁, blocks⟩
    rw [hr] at hsame hblocks
    obtain rfl : blocks = some (m.headBlocks page head (start + pos)) := hblocks
    have hconf : m₁.config = m.config := hsame.config
    obtain ⟨hall, hlen, hget⟩ := ih (m := m₁) (pos + 1) (by omega) (fun i hi => by
      rw [hsame.tokenPresent_eq, show start + (pos + 1) + i = start + pos + (i + 1) by omega]
      exact h (i + 1) (by omega))
    refine ⟨hall, congrArg (· + 1) hlen, fun i hi => ?_⟩
    cases i with
    | zero =>
      refine ⟨_, congrArg Prod.snd hr, ?_⟩
      show some (sizeT (pos * m₁.config.headDim), _) = some (sizeT ((pos + 0) * m.config.headDim), _)
      rw [hconf, Nat.add_zero]
    | succ i =>
      obtain ⟨blocks, hb, hg⟩ := hget i (by omega)
      refine ⟨blocks, ?_, ?_⟩
      · rw [← hb, hsame.blocks_eq, show start + (pos + 1) + i = start + pos + (i + 1) by omega]
      · rw [show pos + (i + 1) = pos + 1 + i by omega, ← hconf]
        exact hg

theorem validateRange_fits (h : m.validateRange start count = .ok) (hsum : start + count ≤ sizeMax) :
    count ≠ 0 ∧ start + count ≤ m.config.maxPositions := by
  unfold validateRange at h
  rw [sizeT_eq hsum] at h
  split_ifs at h with h1 h2 h3
  exact ⟨h1, not_lt.mp h3⟩

/-- The state a range copy leaves. -/
def afterRange (r : KvMmu F × Bool × List (ℕ × List F × List F)) : KvMmu F :=
  if r.2.1 then { r.1 with counters := { r.1.counters with rangeCopyOps := r.1.counters.rangeCopyOps + 1 } } else r.1

theorem copyRange_checked (h : m.rangeCheck (outKey || outValue) sid layer head start count = .ok)
    (hsum : start + count ≤ sizeMax) (hmax : m.config.maxPositions ≤ sizeMax) :
    m.copyRange sid layer head start count outKey outValue =
      (afterRange (rangeAt sid layer head start count 0 m),
        if (rangeAt sid layer head start count 0 m).2.1 then .ok else .notFound,
        writesOf outKey outValue (rangeAt sid layer head start count 0 m).2.2) := by
  obtain ⟨hg, hr, hh, ha⟩ := rangeCheck_ok.mp h
  have hfits := (validateRange_fits hr hsum).2
  unfold copyRange
  rw [if_neg (some_pointer hg), hr]
  simp only
  rw [if_neg (not_le.mpr hh), copyRangeLoop_checked hg ha hh hmax count 0 hfits]
  unfold afterRange
  cases (rangeAt sid layer head start count 0 m).2.1 with
  | true => rfl
  | false => rfl

/-! ### Appending -/

theorem copyCount_le (n : ℕ) : copyCount n ≤ n := by
  unfold copyCount sizeT floatSize
  omega

theorem storeToken_congr {page tokenInPage : ℕ} {key key' value value' : ℕ → F}
    (h : ∀ i < vectorLen m.config, key i = key' i ∧ value i = value' i) :
    m.storeToken page tokenInPage key value = m.storeToken page tokenInPage key' value' := by
  have hcopy : ∀ {n : ℕ}, n = vectorLen m.config → ∀ (dst src src' : ℕ → F) (doff : ℕ),
      (∀ i < vectorLen m.config, src i = src' i) →
      copyInto dst doff src 0 (copyCount n) = copyInto dst doff src' 0 (copyCount n) := by
    intro n hn dst src src' doff hsrc
    funext i
    unfold copyInto
    split_ifs with hi
    · have hle := copyCount_le n
      exact hsrc _ (by omega)
    · rfl
  unfold storeToken
  split_ifs
  · rfl
  · cases hmul : mulSize m.config.numHeads m.config.headDim with
    | none => rfl
    | some headValues =>
      have hlen : headValues = vectorLen m.config := (mulSize_eq_some.mp hmul).1
      simp only
      rw [hcopy hlen _ key key' _ fun i hi => (h i hi).1, hcopy hlen _ value value' _ fun i hi => (h i hi).2]

/-- The vectors of an append matter only where a token is stored. -/
theorem append_congr [Zero F] {key key' value value' : ℕ → F} (host : Host)
    (h : pos = m.nextPosition sid layer → ∀ i < vectorLen m.config, key i = key' i ∧ value i = value' i) :
    m.append host sid layer pos (some key) (some value) = m.append host sid layer pos (some key') (some value') := by
  unfold append
  simp only
  cases m.validateAddress sid layer with
  | ok =>
    cases m.validatePosition pos with
    | ok =>
      simp only
      by_cases hpos : pos ≠ m.nextPosition sid layer
      · rw [if_pos hpos, if_pos hpos]
      · rw [if_neg hpos, if_neg hpos]
        have hvec := h (not_not.mp hpos)
        have hsame := (lookupExisting_spec m sid layer pos).1
        rcases hl : m.lookupExisting sid layer pos with ⟨m₁, page⟩
        rw [hl] at hsame
        have hc₁ : m₁.config = m.config := hsame.config
        cases page with
        | some page => exact storeToken_congr (hc₁ ▸ hvec)
        | none =>
          have hc₂ := (allocPage_cases m₁ host sid layer (pos / m₁.config.pageTokens)).1
          simp only
          rcases ha : m₁.allocPage host sid layer (pos / m₁.config.pageTokens) with ⟨m₂, page⟩
          rw [ha] at hc₂
          cases page with
          | some page =>
            have hc : m₂.config = m.config := hc₂.trans hc₁
            exact storeToken_congr (hc ▸ hvec)
          | none => rfl
    | _ => rfl
  | _ => rfl

end Att1.KvMmu
