import Att1.KvMmu.Model

/-!
# Att1.KvMmu.Flat — the flat store behind the pages, and the simulation

* `FlatStore`: which sessions are live and, for each session and layer, the list of (key, value) vectors appended
  in the session's current incarnation.  Creating a session starts a new incarnation with empty streams.
* `Simulates m s`: the page table `m` holds exactly the streams of `s`.
* one lemma for each call says what it returns in terms of the flat store and which flat store it leaves.
-/

open Att1.Lib

namespace Att1

/-- The vectors appended at one position. -/
structure KvToken (F : Type) where
  key : List F
  value : List F
  deriving DecidableEq, Repr

/-- The live sessions and their streams. -/
structure FlatStore (F : Type) where
  live : ℕ → Bool
  tokens : ℕ → ℕ → List (KvToken F)

namespace FlatStore

variable {F : Type}

def empty : FlatStore F := ⟨fun _ => false, fun _ _ => []⟩

/-- A new incarnation of a session. -/
def create (s : FlatStore F) (sessionId : ℕ) : FlatStore F where
  live := Function.update s.live sessionId true
  tokens := Function.update s.tokens sessionId fun _ => []

/-- The end of a session's incarnation. -/
def destroy (s : FlatStore F) (sessionId : ℕ) : FlatStore F where
  live := Function.update s.live sessionId false
  tokens := Function.update s.tokens sessionId fun _ => []

def append (s : FlatStore F) (sessionId layerId : ℕ) (tok : KvToken F) : FlatStore F where
  live := s.live
  tokens := Function.update s.tokens sessionId
    (Function.update (s.tokens sessionId) layerId (s.tokens sessionId layerId ++ [tok]))

/-- The part of a token's vectors that belongs to a head. -/
def slice (config : KvMmuConfig) (headId : ℕ) (outKey outValue : Bool) (tok : KvToken F) : KvSlice F where
  key := if outKey then some ((tok.key.drop (headId * config.headDim)).take config.headDim) else none
  value := if outValue then some ((tok.value.drop (headId * config.headDim)).take config.headDim) else none

/-- A position that can be read. -/
def Readable (s : FlatStore F) (config : KvMmuConfig) (sessionId layerId headId position : ℕ) : Prop :=
  s.live sessionId = true ∧ layerId < config.numLayers ∧ headId < config.numHeads ∧
    position < (s.tokens sessionId layerId).length

end FlatStore

namespace KvMmu

variable {F : Type} {m m' : KvMmu F} {s : FlatStore F} {sid layer pos : ℕ}

/-- The number of elements of one vector. -/
def vectorLen (config : KvMmuConfig) : ℕ := config.numHeads * config.headDim

/-- A page slot holds the logical page of a session's layer. -/
structure PageAt (m : KvMmu F) (i sid layer logical : ℕ) : Prop where
  lt : i < m.config.maxPages
  active : (m.pages i).active = true
  sessionId : (m.pages i).sessionId = sid
  layerId : (m.pages i).layerId = layer
  logicalPage : (m.pages i).logicalPage = logical

/-- A page slot holds a token at a position. -/
structure Holds (m : KvMmu F) (i sid layer pos : ℕ) (tok : KvToken F) : Prop where
  pageAt : PageAt m i sid layer (pos / m.config.pageTokens)
  present : (m.pages i).tokenPresent (pos % m.config.pageTokens) = true
  key : readBlock (m.pages i).keys (pos % m.config.pageTokens * vectorLen m.config) (vectorLen m.config) =
    tok.key
  value : readBlock (m.pages i).values (pos % m.config.pageTokens * vectorLen m.config)
    (vectorLen m.config) = tok.value

/-- The page table holds exactly the streams of the flat store. -/
structure Simulates (m : KvMmu F) (s : FlatStore F) : Prop where
  valid : configValid m.config = true
  live_iff : ∀ sid, s.live sid = true ↔
    ∃ i < m.config.maxSessions, (m.sessions i).active = true ∧ (m.sessions i).sessionId = sid
  session_unique : ∀ i < m.config.maxSessions, ∀ j < m.config.maxSessions, (m.sessions i).active = true →
    (m.sessions j).active = true → (m.sessions i).sessionId = (m.sessions j).sessionId → i = j
  page_unique : ∀ i j sid layer logical, PageAt m i sid layer logical → PageAt m j sid layer logical → i = j
  page_live : ∀ i sid layer logical, PageAt m i sid layer logical → s.live sid = true
  page_used : ∀ i sid layer logical, PageAt m i sid layer logical →
    logical * m.config.pageTokens < (s.tokens sid layer).length
  page_fits : ∀ i sid layer logical, PageAt m i sid layer logical →
    m.config.pageTokens * vectorLen m.config * floatSize ≤ sizeMax
  present : ∀ i sid layer logical, PageAt m i sid layer logical → ∀ t < m.config.pageTokens,
    (m.pages i).tokenPresent t = true → logical * m.config.pageTokens + t < (s.tokens sid layer).length
  stored : ∀ sid layer pos tok, (s.tokens sid layer)[pos]? = some tok → ∃ i, Holds m i sid layer pos tok
  dead : ∀ sid, s.live sid = false → ∀ layer, s.tokens sid layer = []
  length_le : ∀ sid layer, (s.tokens sid layer).length ≤ m.config.maxPositions

/-- Nothing but counters differs. -/
structure SameStore (m m' : KvMmu F) : Prop where
  config : m'.config = m.config
  sessions : m'.sessions = m.sessions
  pages : m'.pages = m.pages

/-! ### Configurations -/

theorem configValid_bounds {config : KvMmuConfig} (h : configValid config = true) :
    0 < config.pageTokens ∧ vectorLen config ≤ sizeMax ∧
      config.pageTokens * vectorLen config ≤ sizeMax ∧ config.maxPositions ≤ sizeMax := by
  unfold configValid at h
  split_ifs at h with h1
  cases hh : mulSize config.numHeads config.headDim with
  | none => simp [hh] at h
  | some headsDims =>
    obtain ⟨rfl, hfit⟩ := mulSize_eq_some.mp hh
    cases hp : mulSize config.pageTokens (config.numHeads * config.headDim) with
    | none => simp [hh, hp] at h
    | some elements =>
      obtain ⟨rfl, hfit'⟩ := mulSize_eq_some.mp hp
      cases hc : mulSize config.maxPages config.pageTokens with
      | none => simp [hh, hp, hc] at h
      | some capacity =>
        obtain ⟨rfl, hfit''⟩ := mulSize_eq_some.mp hc
        simp only [hh, hp, hc] at h
        split_ifs at h with h2
        exact ⟨by omega, hfit, hfit', by omega⟩

theorem pos_div_mod (config : KvMmuConfig) (pos : ℕ) :
    pos / config.pageTokens * config.pageTokens + pos % config.pageTokens = pos := by
  rw [Nat.mul_comm]
  exact Nat.div_add_mod pos config.pageTokens

theorem copyCount_eq {n : ℕ} (h : n * floatSize ≤ sizeMax) : copyCount n = n := by
  unfold copyCount
  rw [sizeT_eq h]
  exact Nat.mul_div_cancel n (by decide)

/-! ### What only touches counters -/

theorem SameStore.refl (m : KvMmu F) : SameStore m m := ⟨rfl, rfl, rfl⟩

theorem SameStore.trans {m'' : KvMmu F} (h1 : SameStore m m') (h2 : SameStore m' m'') : SameStore m m'' :=
  ⟨h2.config.trans h1.config, h2.sessions.trans h1.sessions, h2.pages.trans h1.pages⟩

theorem sameStore_countError (m : KvMmu F) : SameStore m m.countError := ⟨rfl, rfl, rfl⟩

theorem PageAt.of_page_eq {i logical : ℕ} (h : PageAt m i sid layer logical) (hc : m'.config = m.config)
    (hp : m'.pages i = m.pages i) : PageAt m' i sid layer logical := by
  refine ⟨?_, ?_, ?_, ?_, ?_⟩
  · rw [hc]
    exact h.lt
  all_goals rw [hp]
  exacts [h.active, h.sessionId, h.layerId, h.logicalPage]

theorem Holds.of_page_eq {i : ℕ} {tok : KvToken F} (h : Holds m i sid layer pos tok)
    (hc : m'.config = m.config) (hp : m'.pages i = m.pages i) : Holds m' i sid layer pos tok := by
  obtain ⟨hat, hpres, hk, hv⟩ := h
  have hat' := hat.of_page_eq hc hp
  rw [← hc] at hat' hpres hk hv
  rw [← hp] at hpres hk hv
  exact ⟨hat', hpres, hk, hv⟩

/-- Only the sessions and the active pages matter. -/
theorem Simulates.of_active (hs : Simulates m s) (hc : m'.config = m.config)
    (hsess : m'.sessions = m.sessions)
    (hp' : ∀ i, (m'.pages i).active = true → m'.pages i = m.pages i)
    (hp : ∀ i, (m.pages i).active = true → m'.pages i = m.pages i) : Simulates m' s := by
  have hback : ∀ {i sid layer logical}, PageAt m' i sid layer logical → PageAt m i sid layer logical :=
    fun h => h.of_page_eq hc.symm (hp' _ h.active).symm
  refine ⟨?_, ?_, ?_, ?_, ?_, ?_, ?_, ?_, ?_, hs.dead, ?_⟩
  · rw [hc]
    exact hs.valid
  · rw [hc, hsess]
    exact hs.live_iff
  · rw [hc, hsess]
    exact hs.session_unique
  · intro i j sid layer logical hi hj
    exact hs.page_unique i j sid layer logical (hback hi) (hback hj)
  · intro i sid layer logical hi
    exact hs.page_live i sid layer logical (hback hi)
  · intro i sid layer logical hi
    rw [hc]
    exact hs.page_used i sid layer logical (hback hi)
  · intro i sid layer logical hi
    rw [hc]
    exact hs.page_fits i sid layer logical (hback hi)
  · intro i sid layer logical hi
    rw [hc, hp' i hi.active]
    exact hs.present i sid layer logical (hback hi)
  · intro sid layer pos tok htok
    obtain ⟨i, hi⟩ := hs.stored sid layer pos tok htok
    exact ⟨i, hi.of_page_eq hc (hp i hi.pageAt.active)⟩
  · rw [hc]
    exact hs.length_le

theorem SameStore.simulates (h : SameStore m m') (hs : Simulates m s) : Simulates m' s :=
  hs.of_active h.config h.sessions (fun i _ => congrFun h.pages i) (fun i _ => congrFun h.pages i)

/-! ### Searches -/

theorem findPage_some {logical i : ℕ} (h : m.findPage sid layer logical = some i) :
    PageAt m i sid layer logical := by
  obtain ⟨hlt, hp⟩ := findSlot_some h
  simp only [Bool.and_eq_true, decide_eq_true_eq] at hp
  exact ⟨hlt, hp.1.1.1, hp.1.1.2, hp.1.2, hp.2⟩

theorem findPage_eq_none {logical : ℕ} :
    m.findPage sid layer logical = none ↔ ∀ i, ¬ PageAt m i sid layer logical := by
  unfold findPage
  rw [findSlot_eq_none]
  constructor
  · intro h i hp
    have hi := h i hp.lt
    simp [hp.active, hp.sessionId, hp.layerId, hp.logicalPage] at hi
  · intro h i hi
    by_contra hp
    simp only [Bool.not_eq_false, Bool.and_eq_true, decide_eq_true_eq] at hp
    exact h i ⟨hi, hp.1.1.1, hp.1.1.2, hp.1.2, hp.2⟩

theorem findSession_some {i : ℕ} (h : m.findSession sid = some i) :
    i < m.config.maxSessions ∧ (m.sessions i).active = true ∧ (m.sessions i).sessionId = sid := by
  obtain ⟨hlt, hp⟩ := findSlot_some h
  simp only [Bool.and_eq_true, decide_eq_true_eq] at hp
  exact ⟨hlt, hp⟩

section Search

variable (hs : Simulates m s)

include hs

theorem findPage_of_pageAt {i logical : ℕ} (h : PageAt m i sid layer logical) :
    m.findPage sid layer logical = some i := by
  cases hf : m.findPage sid layer logical with
  | none => exact absurd h (findPage_eq_none.mp hf i)
  | some j => rw [hs.page_unique j i sid layer logical (findPage_some hf) h]

theorem findSession_isSome : (m.findSession sid).isSome ↔ s.live sid = true := by
  rw [hs.live_iff sid]
  unfold findSession
  rw [findSlot_isSome]
  simp

/-- A token is present at exactly the positions of the stream. -/
theorem tokenPresent_iff :
    m.tokenPresent sid layer pos = true ↔ pos < (s.tokens sid layer).length := by
  unfold tokenPresent
  constructor
  · intro h
    cases hf : m.findPage sid layer (pos / m.config.pageTokens) with
    | none => simp [hf] at h
    | some i =>
      rw [hf] at h
      have hpos := (configValid_bounds hs.valid).1
      have hlt := hs.present i sid layer _ (findPage_some hf) _ (Nat.mod_lt pos hpos) h
      rwa [pos_div_mod] at hlt
  · intro h
    obtain ⟨i, hi⟩ := hs.stored sid layer pos _ (List.getElem?_eq_getElem h)
    rw [findPage_of_pageAt hs hi.pageAt]
    exact hi.present

/-- **The scan for the next position** finds the length of the stream. -/
theorem nextPosition_eq : m.nextPosition sid layer = (s.tokens sid layer).length := by
  have hle := hs.length_le sid layer
  have habs : ∀ p, m.tokenPresent sid layer p = false ↔ (s.tokens sid layer).length ≤ p := by
    intro p
    rw [← not_lt, ← tokenPresent_iff hs, Bool.not_eq_true]
  unfold nextPosition
  rcases lt_or_eq_of_le hle with hlt | heq
  · rw [findSlot_of_first hlt (by simp [(habs _).mpr le_rfl])]
    · rfl
    · intro j hj
      simp [(tokenPresent_iff hs).mpr hj]
  · have hnone : findSlot m.config.maxPositions (fun p => !m.tokenPresent sid layer p) = none := by
      refine findSlot_eq_none.mpr fun p hp => ?_
      simp [(tokenPresent_iff hs).mpr (heq ▸ hp)]
    rw [hnone, heq]
    rfl

theorem validateAddress_ok :
    m.validateAddress sid layer = .ok ↔ s.live sid = true ∧ layer < m.config.numLayers := by
  have hlive : (m.findSession sid).isSome ↔ s.live sid = true := findSession_isSome hs
  unfold validateAddress
  split_ifs with h1 h2
  · rw [Option.isNone_iff_eq_none] at h1
    rw [h1] at hlive
    simp at hlive
    simp [hlive]
  · simp [h2]
  · have hsome : (m.findSession sid).isSome := by simpa [Option.isSome_iff_ne_none] using h1
    simp [hlive.mp hsome]
    omega

end Search

end KvMmu

end Att1
