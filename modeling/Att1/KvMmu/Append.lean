import Att1.KvMmu.Calls

/-!
# Att1.KvMmu.Append — appending a token

`append_spec`: an append either fails and leaves the streams alone, or its position is the length of the stream and
the token goes to its end.  The store into a page, fresh or in use, is `Simulates.store`.
-/

open Att1.Lib

namespace Att1.KvMmu

variable {F : Type} {m m' : KvMmu F} {s : FlatStore F} {sid layer pos : ℕ}

/-- The token an append of these buffers stores. -/
def tokenOf (config : KvMmuConfig) (key value : ℕ → F) : KvToken F where
  key := readBlock key 0 (vectorLen config)
  value := readBlock value 0 (vectorLen config)

/-- The page after a token has been stored into it. -/
def storedPage (config : KvMmuConfig) (page : KvPage F) (t : ℕ) (key value : ℕ → F) : KvPage F :=
  { page with
    keys := copyInto page.keys (t * vectorLen config) key 0 (vectorLen config)
    values := copyInto page.values (t * vectorLen config) value 0 (vectorLen config)
    tokenPresent := Function.update page.tokenPresent t true }

theorem append_tokens (s : FlatStore F) (sid layer : ℕ) (tok : KvToken F) (sid' layer' : ℕ) :
    (s.append sid layer tok).tokens sid' layer' =
      if sid' = sid ∧ layer' = layer then s.tokens sid layer ++ [tok] else s.tokens sid' layer' := by
  unfold FlatStore.append
  rcases eq_or_ne sid' sid with rfl | hs
  · rcases eq_or_ne layer' layer with rfl | hl
    · simp
    · simp [hl]
  · simp [hs]

theorem length_le_append (s : FlatStore F) (sid layer : ℕ) (tok : KvToken F) (sid' layer' : ℕ) :
    (s.tokens sid' layer').length ≤ ((s.append sid layer tok).tokens sid' layer').length := by
  rw [append_tokens]
  split_ifs with h
  · obtain ⟨rfl, rfl⟩ := h
    simp
  · exact le_rfl

/-- Tokens of other positions of the page keep their blocks. -/
theorem readBlock_storedPage_of_ne (config : KvMmuConfig) (page : KvPage F) {t t' : ℕ} (key value : ℕ → F)
    (h : t' ≠ t) :
    readBlock (storedPage config page t key value).keys (t' * vectorLen config) (vectorLen config) =
        readBlock page.keys (t' * vectorLen config) (vectorLen config) ∧
      readBlock (storedPage config page t key value).values (t' * vectorLen config) (vectorLen config) =
        readBlock page.values (t' * vectorLen config) (vectorLen config) :=
  ⟨readBlock_copyInto_of_disjoint _ _ _ _ _ (slot_disjoint _ h),
    readBlock_copyInto_of_disjoint _ _ _ _ _ (slot_disjoint _ h)⟩

/-- **Storing the next token** of a stream, into the page that holds its logical page or into a free slot, given
as `page` with its address already set. -/
theorem Simulates.store (hs : Simulates m s) {i : ℕ} {page : KvPage F} {key value : ℕ → F}
    (hlive : s.live sid = true) (hpos : pos = (s.tokens sid layer).length) (hmax : pos < m.config.maxPositions)
    (hi : i < m.config.maxPages) (hact : page.active = true) (hsid : page.sessionId = sid)
    (hlayer : page.layerId = layer) (hlogical : page.logicalPage = pos / m.config.pageTokens)
    (hslot : page = m.pages i ∨ (m.pages i).active = false)
    (hpres : ∀ t < m.config.pageTokens, page.tokenPresent t = true →
      pos / m.config.pageTokens * m.config.pageTokens + t < (s.tokens sid layer).length)
    (huniq : ∀ j, PageAt m j sid layer (pos / m.config.pageTokens) → j = i)
    (hfits : m.config.pageTokens * vectorLen m.config * floatSize ≤ sizeMax)
    (hc : m'.config = m.config) (hsess : m'.sessions = m.sessions)
    (hpages : m'.pages = Function.update m.pages i
      (storedPage m.config page (pos % m.config.pageTokens) key value)) :
    Simulates m' (s.append sid layer (tokenOf m.config key value)) := by
  have hself : m'.pages i = storedPage m.config page (pos % m.config.pageTokens) key value := by
    rw [hpages, Function.update_self]
  have hother : ∀ {j}, j ≠ i → m'.pages j = m.pages j := by
    intro j hj
    rw [hpages, Function.update_of_ne hj]
  -- the slot holds the page of the new token, and every other slot what it held
  have hpage : ∀ {j sid' layer' logical}, PageAt m' j sid' layer' logical →
      (j = i ∧ sid' = sid ∧ layer' = layer ∧ logical = pos / m.config.pageTokens) ∨
        (j ≠ i ∧ PageAt m j sid' layer' logical) := by
    intro j sid' layer' logical h
    rcases eq_or_ne j i with rfl | hj
    · obtain ⟨-, -, h1, h2, h3⟩ := h
      rw [hself] at h1 h2 h3
      exact Or.inl ⟨rfl, h1.symm.trans hsid, h2.symm.trans hlayer, h3.symm.trans hlogical⟩
    · exact Or.inr ⟨hj, h.of_page_eq hc.symm (hother hj).symm⟩
  have hnew : (s.append sid layer (tokenOf m.config key value)).tokens sid layer =
      s.tokens sid layer ++ [tokenOf m.config key value] := by
    rw [append_tokens, if_pos ⟨rfl, rfl⟩]
  have hnewLen : ((s.append sid layer (tokenOf m.config key value)).tokens sid layer).length = pos + 1 := by
    rw [hnew, List.length_append, List.length_singleton, hpos]
  have hgrow := length_le_append s sid layer (tokenOf m.config key value)
  have hsplit := pos_div_mod m.config pos
  refine ⟨?_, ?_, ?_, ?_, ?_, ?_, ?_, ?_, ?_, ?_, ?_⟩
  · rw [hc]
    exact hs.valid
  · rw [hc, hsess]
    exact hs.live_iff
  · rw [hc, hsess]
    exact hs.session_unique
  · intro j k sid' layer' logical hj hk
    rcases hpage hj with ⟨rfl, rfl, rfl, rfl⟩ | ⟨hji, hj'⟩
    · rcases hpage hk with ⟨rfl, -⟩ | ⟨-, hk'⟩
      · rfl
      · exact (huniq k hk').symm
    · rcases hpage hk with ⟨rfl, rfl, rfl, rfl⟩ | ⟨-, hk'⟩
      · exact huniq j hj'
      · exact hs.page_unique j k sid' layer' logical hj' hk'
  · intro j sid' layer' logical hj
    rcases hpage hj with ⟨-, rfl, -⟩ | ⟨-, hj'⟩
    · exact hlive
    · exact hs.page_live j sid' layer' logical hj'
  · intro j sid' layer' logical hj
    rw [hc]
    rcases hpage hj with ⟨-, rfl, rfl, rfl⟩ | ⟨-, hj'⟩
    · rw [hnewLen]
      omega
    · exact (hs.page_used j sid' layer' logical hj').trans_le (hgrow sid' layer')
  · intro j sid' layer' logical hj
    rw [hc]
    exact hfits
  · intro j sid' layer' logical hj t ht htp
    rw [hc] at ht ⊢
    rcases hpage hj with ⟨rfl, rfl, rfl, rfl⟩ | ⟨hji, hj'⟩
    · rw [hself] at htp
      rw [hnewLen]
      rcases eq_or_ne t (pos % m.config.pageTokens) with rfl | hne
      · omega
      · have hold := hpres t ht (by simpa [storedPage, hne] using htp)
        omega
    · rw [hother hji] at htp
      exact (hs.present j sid' layer' logical hj' t ht htp).trans_le (hgrow sid' layer')
  · intro sid' layer' pos' tok htok
    have hat : PageAt m' i sid layer (pos / m.config.pageTokens) := by
      refine ⟨hc ▸ hi, ?_, ?_, ?_, ?_⟩ <;> rw [hself]
      exacts [hact, hsid, hlayer, hlogical]
    -- a token that was there already
    have hold : (s.tokens sid' layer')[pos']? = some tok → ∃ j, Holds m' j sid' layer' pos' tok := by
      intro htok'
      obtain ⟨j, hj⟩ := hs.stored sid' layer' pos' tok htok'
      refine ⟨j, ?_⟩
      rcases eq_or_ne j i with rfl | hji
      · have hp : page = m.pages j := hslot.resolve_right (by simp [hj.pageAt.active])
        subst hp
        obtain rfl : sid' = sid := hj.pageAt.sessionId.symm.trans hsid
        obtain rfl : layer' = layer := hj.pageAt.layerId.symm.trans hlayer
        have hlog : pos' / m.config.pageTokens = pos / m.config.pageTokens :=
          hj.pageAt.logicalPage.symm.trans hlogical
        have hlt : pos' < pos := by
          rw [hpos]
          exact (List.getElem?_eq_some_iff.mp htok').1
        have hsplit' := pos_div_mod m.config pos'
        rw [hlog] at hsplit'
        have hne : pos' % m.config.pageTokens ≠ pos % m.config.pageTokens := by omega
        obtain ⟨hk, hv⟩ := readBlock_storedPage_of_ne m.config (m.pages j) key value hne
        refine ⟨?_, ?_, ?_, ?_⟩
        · rw [hc, hlog]
          exact hat
        · rw [hself, hc]
          simpa [storedPage, hne] using hj.present
        · rw [hself, hc, hk]
          exact hj.key
        · rw [hself, hc, hv]
          exact hj.value
      · exact hj.of_page_eq hc (hother hji)
    rw [append_tokens] at htok
    split_ifs at htok with h
    · obtain ⟨rfl, rfl⟩ := h
      rcases lt_or_ge pos' (s.tokens sid' layer').length with hlt | hge
      · rw [List.getElem?_append_left hlt] at htok
        exact hold htok
      · rw [List.getElem?_append_right hge] at htok
        obtain ⟨hzero, htok⟩ := List.getElem?_eq_some_iff.mp htok
        rw [List.length_singleton] at hzero
        obtain rfl : pos' = pos := by omega
        simp only [List.getElem_singleton] at htok
        subst htok
        refine ⟨i, ?_, ?_, ?_, ?_⟩
        · rw [hc]
          exact hat
        · rw [hself, hc]
          simp [storedPage]
        · rw [hself, hc]
          exact readBlock_copyInto_self _ _ _ _ _
        · rw [hself, hc]
          exact readBlock_copyInto_self _ _ _ _ _
    · exact hold htok
  · intro sid' hdead layer'
    have hne : sid' ≠ sid := by
      rintro rfl
      have hlive' : (s.append sid' layer (tokenOf m.config key value)).live sid' = true := hlive
      rw [hlive'] at hdead
      cases hdead
    rw [append_tokens, if_neg (fun hc => hne hc.1)]
    exact hs.dead sid' hdead layer'
  · intro sid' layer'
    rw [hc, append_tokens]
    split_ifs with h
    · rw [List.length_append, List.length_singleton, ← hpos]
      exact hmax
    · exact hs.length_le sid' layer'

/-- What the end of an append does to a page without the token. -/
theorem storeToken_eq {config : KvMmuConfig} (hc : m.config = config) (hv : configValid config = true)
    (i : ℕ) {t : ℕ} (key value : ℕ → F) (ht : t < config.pageTokens)
    (habs : (m.pages i).tokenPresent t = false)
    (hfits : config.pageTokens * vectorLen config * floatSize ≤ sizeMax) :
    (m.storeToken i t key value).2 = .ok ∧ (m.storeToken i t key value).1.config = config ∧
      (m.storeToken i t key value).1.sessions = m.sessions ∧
      (m.storeToken i t key value).1.pages =
        Function.update m.pages i (storedPage config (m.pages i) t key value) := by
  subst hc
  obtain ⟨hpt, hvec, hpage, -⟩ := configValid_bounds hv
  have hmul : mulSize m.config.numHeads m.config.headDim = some (vectorLen m.config) :=
    mulSize_eq_some.mpr ⟨rfl, hvec⟩
  have hoff : sizeT (t * vectorLen m.config) = t * vectorLen m.config :=
    sizeT_eq ((Nat.mul_le_mul_right _ ht.le).trans hpage)
  have hcount : copyCount (vectorLen m.config) = vectorLen m.config :=
    copyCount_eq ((Nat.mul_le_mul_right _ (Nat.le_mul_of_pos_left _ hpt)).trans hfits)
  unfold storeToken
  rw [habs, hmul]
  simp only [Bool.false_eq_true, if_false, hoff, hcount]
  exact ⟨trivial, trivial, trivial, rfl⟩

theorem pageElements_eq (hv : configValid m.config = true) :
    m.pageElements = m.config.pageTokens * vectorLen m.config := by
  obtain ⟨-, -, hpage, -⟩ := configValid_bounds hv
  unfold vectorLen at hpage ⊢
  rw [← Nat.mul_assoc] at hpage ⊢
  unfold pageElements
  rcases Nat.eq_zero_or_pos m.config.headDim with h0 | hpos
  · rw [h0]
    simp [sizeT]
  · rw [sizeT_eq ((Nat.le_mul_of_pos_right _ hpos).trans hpage), sizeT_eq hpage]

/-- The page in a slot that an allocation has taken. -/
def openedPage [Zero F] (page : KvPage F) (sid layer logical : ℕ) : KvPage F :=
  { page with
    sessionId := sid
    layerId := layer
    logicalPage := logical
    active := true
    tokenPresent := fun _ => false
    keys := fun _ => 0
    values := fun _ => 0 }

/-- The host grants what a new page needs. -/
def PageGranted (m : KvMmu F) (host : Host) : Prop :=
  host.calloc m.config.pageTokens 1 = true ∧ host.calloc m.pageElements floatSize = true

/-- A page allocation opens a page in a free slot, or finds no slot, or clears a free slot when the host refuses. -/
theorem allocPage_cases [Zero F] (m : KvMmu F) (host : Host) (sid layer logical : ℕ) :
    (m.allocPage host sid layer logical).1.config = m.config ∧
      (m.allocPage host sid layer logical).1.sessions = m.sessions ∧
      (((m.allocPage host sid layer logical).2 = none ∧ (m.allocPage host sid layer logical).1.pages = m.pages ∧
          ∀ i < m.config.maxPages, (m.pages i).active = true) ∨
        ∃ i < m.config.maxPages, (m.pages i).active = false ∧
          ((¬ PageGranted m host ∧ (m.allocPage host sid layer logical).2 = none ∧
              (m.allocPage host sid layer logical).1.pages = Function.update m.pages i (releasePage (m.pages i))) ∨
            (PageGranted m host ∧ (m.allocPage host sid layer logical).2 = some i ∧
              (m.allocPage host sid layer logical).1.pages =
                Function.update m.pages i (openedPage (m.pages i) sid layer logical)))) := by
  unfold allocPage
  cases hfree : findSlot m.config.maxPages fun i => !(m.pages i).active with
  | none =>
    refine ⟨rfl, rfl, Or.inl ⟨rfl, rfl, fun i hi => ?_⟩⟩
    simpa using findSlot_eq_none.mp hfree i hi
  | some i =>
    obtain ⟨hi, hinactive⟩ := findSlot_some hfree
    rw [Bool.not_eq_true'] at hinactive
    simp only
    by_cases hhost : host.calloc m.config.pageTokens 1 = true ∧ host.calloc m.pageElements floatSize = true
    · rw [if_neg (not_not.mpr hhost)]
      exact ⟨rfl, rfl, Or.inr ⟨i, hi, hinactive, Or.inr ⟨hhost, rfl, rfl⟩⟩⟩
    · rw [if_pos hhost]
      exact ⟨rfl, rfl, Or.inr ⟨i, hi, hinactive, Or.inl ⟨hhost, rfl, rfl⟩⟩⟩

/-- An append that gets past its checks: the address is that of a live stream, and the position its end. -/
structure Appendable (m : KvMmu F) (s : FlatStore F) (sid layer pos : ℕ) : Prop where
  live : s.live sid = true
  layer_lt : layer < m.config.numLayers
  at_end : pos = (s.tokens sid layer).length
  pos_lt : pos < m.config.maxPositions

theorem validateAddress_ne_oom (m : KvMmu F) (sid layer : ℕ) : m.validateAddress sid layer ≠ .oom := by
  unfold validateAddress
  split_ifs <;> simp

/-- **What an append can do.**  It is refused, or there is no page for it, or it stores the token in the page of its
stream or in a page that it opens. -/
theorem append_outcome [Zero F] (hs : Simulates m s) (host : Host) (sid layer pos : ℕ)
    (key value : Option (ℕ → F)) :
    (m.append host sid layer pos key value).1.config = m.config ∧
      (m.append host sid layer pos key value).1.sessions = m.sessions ∧
      (((m.append host sid layer pos key value).2 ≠ .ok ∧ (m.append host sid layer pos key value).2 ≠ .oom ∧
          (m.append host sid layer pos key value).1.pages = m.pages ∧
          ¬ (key.isSome = true ∧ value.isSome = true ∧ Appendable m s sid layer pos)) ∨
        ∃ k v, key = some k ∧ value = some v ∧ Appendable m s sid layer pos ∧
          ((∃ i, PageAt m i sid layer (pos / m.config.pageTokens) ∧
              (m.append host sid layer pos key value).2 = .ok ∧
              (m.append host sid layer pos key value).1.pages =
                Function.update m.pages i (storedPage m.config (m.pages i) (pos % m.config.pageTokens) k v)) ∨
            (m.findPage sid layer (pos / m.config.pageTokens) = none ∧
              (((m.append host sid layer pos key value).2 = .oom ∧
                  (((m.append host sid layer pos key value).1.pages = m.pages ∧
                      ∀ i < m.config.maxPages, (m.pages i).active = true) ∨
                    ∃ i < m.config.maxPages, (m.pages i).active = false ∧ ¬ PageGranted m host ∧
                      (m.append host sid layer pos key value).1.pages =
                        Function.update m.pages i (releasePage (m.pages i)))) ∨
                ∃ i < m.config.maxPages, (m.pages i).active = false ∧ PageGranted m host ∧
                  (m.append host sid layer pos key value).2 = .ok ∧
                  (m.append host sid layer pos key value).1.pages =
                    Function.update m.pages i
                      (storedPage m.config (openedPage (m.pages i) sid layer (pos / m.config.pageTokens))
                        (pos % m.config.pageTokens) k v))))) := by
  obtain ⟨hpt, -, -, -⟩ := configValid_bounds hs.valid
  have htlt : pos % m.config.pageTokens < m.config.pageTokens := Nat.mod_lt pos hpt
  unfold append
  cases key with
  | none => exact ⟨rfl, rfl, Or.inl ⟨by simp, by simp, rfl, by simp⟩⟩
  | some k =>
    cases value with
    | none => exact ⟨rfl, rfl, Or.inl ⟨by simp, by simp, rfl, by simp⟩⟩
    | some v =>
      simp only
      cases haddr : m.validateAddress sid layer with
      | ok =>
        obtain ⟨hlive, hlayer⟩ := (validateAddress_ok hs).mp haddr
        unfold validatePosition
        by_cases hmax : m.config.maxPositions ≤ pos
        · rw [if_pos hmax]
          exact ⟨rfl, rfl, Or.inl ⟨by simp, by simp, rfl, fun h => absurd h.2.2.pos_lt (not_lt.mpr hmax)⟩⟩
        rw [if_neg hmax]
        simp only
        by_cases hnext : pos ≠ m.nextPosition sid layer
        · rw [if_pos hnext]
          refine ⟨rfl, rfl, Or.inl ⟨by simp, by simp, rfl, fun h => hnext ?_⟩⟩
          rw [nextPosition_eq hs]
          exact h.2.2.at_end
        rw [if_neg hnext]
        have hpos : pos = (s.tokens sid layer).length := by
          rw [← nextPosition_eq hs]
          exact not_not.mp hnext
        have happ : Appendable m s sid layer pos := ⟨hlive, hlayer, hpos, not_le.mp hmax⟩
        have hsplit := pos_div_mod m.config pos
        obtain ⟨hsame, hlook⟩ := lookupExisting_spec m sid layer pos
        generalize m.lookupExisting sid layer pos = r at hsame hlook
        obtain ⟨m1, found⟩ := r
        simp only at hsame hlook
        subst hlook
        cases hf : m.findPage sid layer (pos / m.config.pageTokens) with
        | some i =>
          have hat := findPage_some hf
          have hpres := hs.present i sid layer _ hat
          have hfits := hs.page_fits i sid layer _ hat
          have habs : (m1.pages i).tokenPresent (pos % m.config.pageTokens) = false := by
            rw [hsame.pages, ← Bool.not_eq_true]
            intro hc
            have := hpres _ htlt hc
            omega
          simp only
          rw [hsame.config]
          obtain ⟨hok, hc, hsess, hpages⟩ := storeToken_eq hsame.config hs.valid i k v htlt habs hfits
          rw [hsame.pages] at hpages
          exact ⟨hc, hsess.trans hsame.sessions, Or.inr ⟨k, v, rfl, rfl, happ, Or.inl ⟨i, hat, hok, hpages⟩⟩⟩
        | none =>
          simp only
          have hgrant : PageGranted m1 host ↔ PageGranted m host := by
            unfold PageGranted pageElements
            rw [hsame.config]
          rw [hsame.config]
          obtain ⟨hc2, hsess2, hcases⟩ := allocPage_cases m1 host sid layer (pos / m.config.pageTokens)
          generalize m1.allocPage host sid layer (pos / m.config.pageTokens) = r at hc2 hsess2 hcases
          obtain ⟨m2, allocated⟩ := r
          simp only at hc2 hsess2 hcases
          have hc : m2.config = m.config := hc2.trans hsame.config
          rw [hsame.config, hsame.pages, hgrant] at hcases
          rcases hcases with ⟨rfl, hpages2, hfull⟩ | ⟨i, hi, hfree, ⟨hno, rfl, hpages2⟩ | ⟨hyes, rfl, hpages2⟩⟩
          · exact ⟨hc, hsess2.trans hsame.sessions, Or.inr ⟨k, v, rfl, rfl, happ, Or.inr ⟨trivial, Or.inl ⟨rfl,
              Or.inl ⟨hpages2, hfull⟩⟩⟩⟩⟩
          · exact ⟨hc, hsess2.trans hsame.sessions, Or.inr ⟨k, v, rfl, rfl, happ, Or.inr ⟨trivial, Or.inl ⟨rfl,
              Or.inr ⟨i, hi, hfree, hno, hpages2⟩⟩⟩⟩⟩
          · have hfits : m.config.pageTokens * vectorLen m.config * floatSize ≤ sizeMax := by
              rw [← pageElements_eq hs.valid]
              exact host.calloc_fits _ _ hyes.2
            have hpage2 : m2.pages i = openedPage (m.pages i) sid layer (pos / m.config.pageTokens) := by
              rw [hpages2, Function.update_self]
            have habs2 : (m2.pages i).tokenPresent (pos % m.config.pageTokens) = false := by
              rw [hpage2]
              rfl
            simp only
            rw [hc]
            obtain ⟨hok, hc3, hsess3, hpages3⟩ := storeToken_eq hc hs.valid i k v htlt habs2 hfits
            rw [hpage2, hpages2, Function.update_idem] at hpages3
            exact ⟨hc3, hsess3.trans (hsess2.trans hsame.sessions), Or.inr ⟨k, v, rfl, rfl, happ, Or.inr ⟨trivial,
              Or.inr ⟨i, hi, hfree, hyes, hok, hpages3⟩⟩⟩⟩
      | _ =>
        refine ⟨rfl, rfl, Or.inl ⟨by simp, fun hoom => ?_, rfl, fun h => ?_⟩⟩
        · exact validateAddress_ne_oom m sid layer (haddr.trans hoom)
        · have hok := (validateAddress_ok hs).mpr ⟨h.2.2.live, h.2.2.layer_lt⟩
          rw [haddr] at hok
          cases hok

/-- **Appending** succeeds only at the end of a live stream, and then puts the vectors there; otherwise the streams
stay as they are. -/
theorem append_spec [Zero F] (hs : Simulates m s) (host : Host) (sid layer pos : ℕ)
    (key value : Option (ℕ → F)) :
    (m.append host sid layer pos key value).1.config = m.config ∧
      ((∃ k v, key = some k ∧ value = some v ∧ (m.append host sid layer pos key value).2 = .ok ∧
          s.live sid = true ∧ layer < m.config.numLayers ∧ pos = (s.tokens sid layer).length ∧
          Simulates (m.append host sid layer pos key value).1
            (s.append sid layer (tokenOf m.config k v))) ∨
        ((m.append host sid layer pos key value).2 ≠ .ok ∧
          Simulates (m.append host sid layer pos key value).1 s)) := by
  obtain ⟨hc, hsess, hcases⟩ := append_outcome hs host sid layer pos key value
  generalize m.append host sid layer pos key value = r at hc hsess hcases
  obtain ⟨m', status⟩ := r
  simp only at hc hsess hcases ⊢
  refine ⟨hc, ?_⟩
  rcases hcases with ⟨hne, -, hpages, -⟩ | ⟨k, v, rfl, rfl, happ, hcases⟩
  · exact Or.inr ⟨hne, (SameStore.mk hc hsess hpages).simulates hs⟩
  obtain ⟨hlive, hlayer, hpos, hlt⟩ := happ
  rcases hcases with ⟨i, hat, rfl, hpages⟩ | ⟨hf, ⟨rfl, hcases⟩ | ⟨i, hi, hfree, hgrant, rfl, hpages⟩⟩
  · refine Or.inl ⟨k, v, rfl, rfl, rfl, hlive, hlayer, hpos, ?_⟩
    exact hs.store hlive hpos (by omega) hat.lt hat.active hat.sessionId hat.layerId hat.logicalPage (Or.inl rfl)
      (hs.present i sid layer _ hat) (fun j hj => hs.page_unique j i sid layer _ hj hat)
      (hs.page_fits i sid layer _ hat) hc hsess hpages
  · refine Or.inr ⟨by simp, ?_⟩
    rcases hcases with ⟨hpages, -⟩ | ⟨i, -, hfree, -, hpages⟩
    · exact (SameStore.mk hc hsess hpages).simulates hs
    · -- only a free slot was cleared
      refine hs.of_active hc hsess (fun j hj => ?_) fun j hj => ?_
      · rcases eq_or_ne j i with rfl | hne
        · rw [hpages, Function.update_self] at hj
          cases hj
        · rw [hpages, Function.update_of_ne hne]
      · rcases eq_or_ne j i with rfl | hne
        · rw [hfree] at hj
          cases hj
        · rw [hpages, Function.update_of_ne hne]
  · have hfits : m.config.pageTokens * vectorLen m.config * floatSize ≤ sizeMax := by
      rw [← pageElements_eq hs.valid]
      exact host.calloc_fits _ _ hgrant.2
    refine Or.inl ⟨k, v, rfl, rfl, rfl, hlive, hlayer, hpos, ?_⟩
    exact hs.store hlive hpos (by omega) hi rfl rfl rfl rfl (Or.inr hfree)
      (fun t _ ht => absurd ht Bool.false_ne_true) (fun j hj => absurd hj (findPage_eq_none.mp hf j)) hfits hc hsess
      hpages

end Att1.KvMmu
