import Att1.Decoder.Attention
import Att1.KvMmu.Refine

/-!
# Att1.KvMmu.Contiguous — the paged store and the contiguous caches

A decoder keeps one contiguous cache for each layer (`src/kv_cache.c`); the MMU keeps the streams of all sessions and
layers in pages.  `Att1.Decoder.KvCache.Streams` says which tokens a contiguous cache holds, and both stores are
compared through the flat store: whatever is appended to both, they answer alike.
-/

open Att1.Lib

namespace Att1

/-! ### Reading a contiguous cache -/

namespace Decoder.KvCache

variable {R : Type} (cache : KvCache R)

/-- What is copied from the vectors of a head. -/
def sliceOf (outKeys outValues : Bool) (key value : ℕ → R) : KvSlice R where
  key := if outKeys then some (readBlock key 0 cache.headDim) else none
  value := if outValues then some (readBlock value 0 cache.headDim) else none

/-- The vectors of a head that `att1_kv_cache_key` and `att1_kv_cache_value` point to. -/
def slice (position head : ℕ) (outKeys outValues : Bool) : Option (KvSlice R) := do
  let key ← cache.key position head
  let value ← cache.value position head
  some (cache.sliceOf outKeys outValues key value)

/-- The loop of `att1_kv_cache_copy_range` from `pos` on, with `remaining` rounds to go: whether it ran to its end, and
the writes it made. -/
def copyRangeLoop (startPosition head : ℕ) (outKeys outValues : Bool) : ℕ → ℕ → Bool × List (KvRangeWrite R)
  | 0, _ => (true, [])
  | remaining + 1, pos =>
    match cache.key (sizeT (startPosition + pos)) head, cache.value (sizeT (startPosition + pos)) head with
    | some key, some value =>
      let r := copyRangeLoop startPosition head outKeys outValues remaining (pos + 1)
      (r.1, ⟨sizeT (pos * cache.headDim), cache.sliceOf outKeys outValues key value⟩ :: r.2)
    | _, _ => (false, [])

/-- `att1_kv_cache_copy_range`, with the writes it made. -/
def copyRange (startPosition positionCount head : ℕ) (outKeys outValues : Bool) : Bool × List (KvRangeWrite R) :=
  if outKeys = false ∧ outValues = false then (false, [])
  else if positionCount = 0 ∨ cache.numHeads ≤ head then (false, [])
  else if cache.length < startPosition then (false, [])
  else if cache.length - startPosition < positionCount then (false, [])
  else cache.copyRangeLoop startPosition head outKeys outValues positionCount 0

/-! ### The tokens a cache holds -/

/-- The cache holds a list of tokens and has room for `maxPositions` of them. -/
structure Streams (config : KvMmuConfig) (toks : List (KvToken R)) : Prop where
  maxPositions : cache.maxPositions = config.maxPositions
  numHeads : cache.numHeads = config.numHeads
  headDim : cache.headDim = config.headDim
  length : cache.length = toks.length
  keys : ∀ pos tok, toks[pos]? = some tok →
    readBlock cache.keys (pos * KvMmu.vectorLen config) (KvMmu.vectorLen config) = tok.key
  values : ∀ pos tok, toks[pos]? = some tok →
    readBlock cache.values (pos * KvMmu.vectorLen config) (KvMmu.vectorLen config) = tok.value

variable {cache} {config : KvMmuConfig} {toks : List (KvToken R)}

theorem init_streams [Zero R] {host : Host}
    (h : KvCache.init host config.maxPositions config.numHeads config.headDim = .ok cache) :
    cache.Streams config [] := by
  obtain ⟨-, h⟩ := rejectIf_bind_eq_ok.mp h
  obtain ⟨vectors, -, h⟩ := orFail_bind_eq_ok.mp h
  obtain ⟨elements, -, h⟩ := orFail_bind_eq_ok.mp h
  obtain ⟨-, h⟩ := rejectIf_bind_eq_ok.mp h
  obtain rfl := Except.ok.inj h
  exact ⟨rfl, rfl, rfl, rfl, fun pos tok htok => absurd htok (by simp), fun pos tok htok => absurd htok (by simp)⟩

theorem slot_eq (hs : cache.Streams config toks) (position head : ℕ) :
    kvCacheSlot cache.headDim cache.numHeads position head =
      position * KvMmu.vectorLen config + head * config.headDim := by
  unfold kvCacheSlot KvMmu.vectorLen
  rw [hs.numHeads, hs.headDim]
  ring

/-- An append goes through exactly if there is room, and puts a token at the end. -/
theorem append_streams (hs : cache.Streams config toks) (hfit : KvMmu.vectorLen config ≤ sizeMax) (key value : ℕ → R) :
    ((cache.append key value).isSome ↔ toks.length < config.maxPositions) ∧
      ∀ cache', cache.append key value = some cache' →
        cache'.Streams config (toks ++ [KvMmu.tokenOf config key value]) := by
  have hmul : mulSize cache.numHeads cache.headDim = some (KvMmu.vectorLen config) := by
    rw [hs.numHeads, hs.headDim]
    exact mulSize_eq_some.mpr ⟨rfl, hfit⟩
  have hslot : kvCacheSlot cache.headDim cache.numHeads cache.length 0 = toks.length * KvMmu.vectorLen config := by
    rw [slot_eq hs, Nat.zero_mul, Nat.add_zero, hs.length]
  unfold append
  simp only [hmul, hslot, Option.bind_eq_bind, Option.bind_some]
  refine ⟨?_, fun cache' h => ?_⟩
  · rw [hs.length, hs.maxPositions]
    by_cases hroom : toks.length < config.maxPositions
    · simp [hroom, guard]
    · simp [hroom, guard]
  · obtain ⟨-, h⟩ := guard_bind_eq_some.mp h
    obtain rfl := Option.some.inj h
    -- a position before the end is in another slot than the one that is written
    have hsame : ∀ (buffer src : ℕ → R) (get : KvToken R → List R) (new : KvToken R),
        (∀ pos tok, toks[pos]? = some tok →
          readBlock buffer (pos * KvMmu.vectorLen config) (KvMmu.vectorLen config) = get tok) →
        get new = readBlock src 0 (KvMmu.vectorLen config) →
        ∀ pos tok, (toks ++ [new])[pos]? = some tok →
          readBlock (copyInto buffer (toks.length * KvMmu.vectorLen config) src 0 (KvMmu.vectorLen config))
            (pos * KvMmu.vectorLen config) (KvMmu.vectorLen config) = get tok := by
      intro buffer src get new hold hnew pos tok htok
      rcases lt_trichotomy pos toks.length with hlt | rfl | hgt
      · rw [List.getElem?_append_left hlt] at htok
        rw [readBlock_copyInto_of_disjoint _ _ _ _ _ (slot_disjoint _ (Nat.ne_of_lt hlt))]
        exact hold pos tok htok
      · rw [List.getElem?_concat_length] at htok
        obtain rfl := Option.some.inj htok
        rw [readBlock_copyInto_self, hnew]
      · rw [List.getElem?_eq_none (by simpa using hgt)] at htok
        cases htok
    refine ⟨hs.maxPositions, hs.numHeads, hs.headDim, ?_, ?_, ?_⟩
    · simp [hs.length]
    · exact hsame cache.keys key KvToken.key _ hs.keys rfl
    · exact hsame cache.values value KvToken.value _ hs.values rfl

/-- The vectors of a head are the head's part of the token. -/
theorem slice_streams (hs : cache.Streams config toks) (position head : ℕ) (outKeys outValues : Bool) :
    cache.slice position head outKeys outValues =
      if head < config.numHeads then toks[position]?.map (FlatStore.slice config head outKeys outValues)
      else none := by
  unfold slice key value
  rw [hs.length, hs.numHeads]
  by_cases hhead : head < config.numHeads
  · rw [if_pos hhead]
    by_cases hpos : position < toks.length
    · have hin : ¬ (toks.length ≤ position ∨ config.numHeads ≤ head) := by omega
      have htok : toks[position]? = some toks[position] := List.getElem?_eq_getElem hpos
      have hpart : head * config.headDim + config.headDim ≤ KvMmu.vectorLen config := by
        unfold KvMmu.vectorLen
        calc head * config.headDim + config.headDim = (head + 1) * config.headDim := (Nat.succ_mul _ _).symm
          _ ≤ config.numHeads * config.headDim := Nat.mul_le_mul_right _ hhead
      have hblock : ∀ (buffer : ℕ → R) (toksPart : List R),
          readBlock buffer (position * KvMmu.vectorLen config) (KvMmu.vectorLen config) = toksPart →
          readBlock (fun i => buffer (kvCacheSlot cache.headDim cache.numHeads position head + i)) 0 cache.headDim =
            (toksPart.drop (head * config.headDim)).take config.headDim := by
        rintro buffer _ rfl
        rw [take_drop_readBlock _ _ hpart, hs.headDim]
        refine readBlock_congr fun i _ => ?_
        rw [Nat.zero_add, ← hs.headDim, slot_eq hs, hs.headDim]
      rw [if_neg hin, if_neg hin, htok]
      simp only [Option.bind_eq_bind, Option.bind_some, Option.map_some, sliceOf, FlatStore.slice, ← hs.numHeads]
      rw [hblock _ _ (hs.keys position _ htok), hblock _ _ (hs.values position _ htok)]
    · rw [if_pos (Or.inl (not_lt.mp hpos)), List.getElem?_eq_none (not_lt.mp hpos)]
      rfl
  · rw [if_neg hhead, if_pos (Or.inr (not_lt.mp hhead))]
    rfl

/-- The loop writes a token for each position, as long as there are any. -/
theorem copyRangeLoop_streams (hs : cache.Streams config toks) (hmax : toks.length ≤ sizeMax) {head : ℕ}
    (hhead : head < config.numHeads) (outKeys outValues : Bool) (start : ℕ) :
    ∀ remaining pos, start + pos + remaining ≤ toks.length →
      let r := cache.copyRangeLoop start head outKeys outValues remaining pos
      r.1 = true ∧ r.2.length = remaining ∧ ∀ i w, r.2[i]? = some w →
        w.offset = sizeT ((pos + i) * config.headDim) ∧ ∃ tok, toks[start + (pos + i)]? = some tok ∧
          w.slice = FlatStore.slice config head outKeys outValues tok := by
  intro remaining
  induction remaining with
  | zero => exact fun pos _ => ⟨rfl, rfl, fun i w hw => absurd hw (by simp [copyRangeLoop])⟩
  | succ remaining ih =>
    intro pos hend
    obtain ⟨htrue, hlength, hwrites⟩ := ih (pos + 1) (by omega)
    have hwrap : sizeT (start + pos) = start + pos := sizeT_eq (by omega)
    have hslice := slice_streams hs (start + pos) head outKeys outValues
    rw [if_pos hhead, List.getElem?_eq_getElem (show start + pos < toks.length by omega)] at hslice
    obtain ⟨key, hkey, hslice⟩ := Option.bind_eq_some_iff.mp hslice
    obtain ⟨value, hvalue, hslice⟩ := Option.bind_eq_some_iff.mp hslice
    unfold copyRangeLoop
    rw [hwrap, hkey, hvalue]
    refine ⟨htrue, congrArg (· + 1) hlength, fun i w hw => ?_⟩
    cases i with
    | zero =>
      obtain rfl := Option.some.inj hw
      exact ⟨by rw [hs.headDim]; rfl, _, List.getElem?_eq_getElem _, Option.some.inj hslice⟩
    | succ i =>
      have hrest := hwrites i w hw
      rwa [show pos + 1 + i = pos + (i + 1) by omega] at hrest

/-- **A copy of a range** is all or nothing. -/
theorem copyRange_streams (hs : cache.Streams config toks) (hmax : toks.length ≤ sizeMax) (start count head : ℕ)
    (outKeys outValues : Bool) :
    let r := cache.copyRange start count head outKeys outValues
    (r.1 = true ↔ (outKeys = true ∨ outValues = true) ∧ 0 < count ∧ head < config.numHeads ∧
      start + count ≤ toks.length) ∧
    (r.1 = false → r.2 = []) ∧
    (r.1 = true → r.2.length = count ∧ ∀ i w, r.2[i]? = some w →
      w.offset = sizeT (i * config.headDim) ∧ ∃ tok, toks[start + i]? = some tok ∧
        w.slice = FlatStore.slice config head outKeys outValues tok) := by
  unfold copyRange
  rw [hs.length, hs.numHeads]
  by_cases hout : outKeys = false ∧ outValues = false
  · rw [if_pos hout]
    exact ⟨iff_of_false Bool.false_ne_true (by simp [hout]), fun _ => rfl, fun h => absurd h Bool.false_ne_true⟩
  rw [if_neg hout]
  have hgiven : outKeys = true ∨ outValues = true := by
    rcases Bool.eq_false_or_eq_true outKeys with h | h
    · exact Or.inl h
    · exact Or.inr ((Bool.eq_false_or_eq_true outValues).resolve_right fun h' => hout ⟨h, h'⟩)
  by_cases hrange : 0 < count ∧ head < config.numHeads ∧ start + count ≤ toks.length
  · obtain ⟨hcount, hhead, hend⟩ := hrange
    rw [if_neg (by omega), if_neg (by omega), if_neg (by omega)]
    obtain ⟨htrue, hlength, hwrites⟩ := copyRangeLoop_streams hs hmax hhead outKeys outValues start count 0
      (by omega)
    simp only [Nat.zero_add] at hwrites
    exact ⟨iff_of_true htrue ⟨hgiven, hcount, hhead, hend⟩, fun h => absurd (htrue.symm.trans h) Bool.noConfusion,
      fun _ => ⟨hlength, hwrites⟩⟩
  · have hrefused : ∀ r : Bool × List (KvRangeWrite R), r = (false, []) →
        (r.1 = true ↔ (outKeys = true ∨ outValues = true) ∧ 0 < count ∧ head < config.numHeads ∧
          start + count ≤ toks.length) ∧ (r.1 = false → r.2 = []) ∧
        (r.1 = true → r.2.length = count ∧ ∀ i w, r.2[i]? = some w →
          w.offset = sizeT (i * config.headDim) ∧ ∃ tok, toks[start + i]? = some tok ∧
            w.slice = FlatStore.slice config head outKeys outValues tok) := by
      rintro _ rfl
      exact ⟨iff_of_false Bool.false_ne_true fun h => hrange h.2, fun _ => rfl, fun h => absurd h Bool.false_ne_true⟩
    refine hrefused _ ?_
    split_ifs <;> first | rfl | omega

end Decoder.KvCache

/-! ### Both stores side by side -/

namespace KvMmu

open Decoder (KvCache)

variable {F : Type} {config : KvMmuConfig} {caches : ℕ → Option (ℕ → KvCache F)} {s : FlatStore F} {m m' : KvMmu F}
  {e : KvEvent F} {fresh : KvCache F}

/-- The cache of a layer of a session, given the caches of each live session. -/
def cacheOf (config : KvMmuConfig) (caches : ℕ → Option (ℕ → KvCache F)) (sid layer : ℕ) : Option (KvCache F) :=
  if layer < config.numLayers then (caches sid).map (· layer) else none

/-- The caches after an event: what the store accepted is done to the caches too. -/
def cachesAfter (fresh : KvCache F) (caches : ℕ → Option (ℕ → KvCache F)) (e : KvEvent F) :
    ℕ → Option (ℕ → KvCache F) :=
  if e.response.status ≠ .ok then caches
  else
    match e.call with
    | .createSession sid => Function.update caches sid (some fun _ => fresh)
    | .destroySession sid => Function.update caches sid none
    | .append _ sid layer _ (some key) (some value) =>
      Function.update caches sid ((caches sid).map fun cs =>
        Function.update cs layer (((cs layer).append key value).getD (cs layer)))
    | _ => caches

/-- The caches a history leaves. -/
def localCaches (fresh : KvCache F) (es : List (KvEvent F)) : ℕ → Option (ℕ → KvCache F) :=
  es.foldl (cachesAfter fresh) fun _ => none

/-- What an event returned is what the caches before it give. -/
def Agrees (config : KvMmuConfig) (caches : ℕ → Option (ℕ → KvCache F)) (e : KvEvent F) : Prop :=
  match e.call with
  | .createSession sid => e.response.status = .ok → caches sid = none
  | .destroySession sid => e.response.status = .ok ↔ (caches sid).isSome
  | .append _ sid layer pos key value =>
    (e.response.status = .ok ∨ e.response.status = .oom) ↔
      ∃ k v cache, key = some k ∧ value = some v ∧ cacheOf config caches sid layer = some cache ∧
        cache.length = pos ∧ (cache.append k v).isSome
  | .read sid layer head pos outKey outValue =>
    (e.response.status = .ok ↔ e.response.slice.isSome) ∧
      e.response.slice = if outKey = true ∨ outValue = true then
        (cacheOf config caches sid layer).bind fun cache => cache.slice pos head outKey outValue
        else none
  | .copyRange sid layer head start count outKeys outValues =>
    (e.response.status = .ok ↔
      ∃ cache, cacheOf config caches sid layer = some cache ∧
        (cache.copyRange start count head outKeys outValues).1 = true) ∧
    ∀ cache, cacheOf config caches sid layer = some cache → e.response.status = .ok →
      e.response.writes = (cache.copyRange start count head outKeys outValues).2
  | .lookupPage sid layer pos outPage =>
    e.response.status = .ok ↔ outPage = true ∧ pos < config.maxPositions ∧
      ∃ cache, cacheOf config caches sid layer = some cache ∧ pos / config.pageTokens * config.pageTokens < cache.length

/-- The caches hold the streams of the flat store. -/
structure CachesHold (config : KvMmuConfig) (s : FlatStore F) (caches : ℕ → Option (ℕ → KvCache F)) : Prop where
  dead : ∀ sid, s.live sid = false → caches sid = none
  live : ∀ sid, s.live sid = true → ∃ cs, caches sid = some cs ∧ ∀ layer, (cs layer).Streams config (s.tokens sid layer)

theorem CachesHold.isSome_iff (hh : CachesHold config s caches) (sid : ℕ) :
    (caches sid).isSome ↔ s.live sid = true := by
  rcases Bool.eq_false_or_eq_true (s.live sid) with h | h
  · obtain ⟨cs, hcs, -⟩ := hh.live sid h
    exact iff_of_true (by rw [hcs]; rfl) h
  · exact iff_of_false (by rw [hh.dead sid h]; exact Bool.false_ne_true) (by rw [h]; exact Bool.false_ne_true)

/-- There is a cache for each layer of each live session, and it holds the stream. -/
theorem CachesHold.cacheOf_cases (hh : CachesHold config s caches) (sid layer : ℕ) :
    (∃ cache, cacheOf config caches sid layer = some cache ∧ s.live sid = true ∧ layer < config.numLayers ∧
      cache.Streams config (s.tokens sid layer)) ∨
    (cacheOf config caches sid layer = none ∧ ¬ (s.live sid = true ∧ layer < config.numLayers)) := by
  unfold cacheOf
  by_cases hlayer : layer < config.numLayers
  · rw [if_pos hlayer]
    rcases Bool.eq_false_or_eq_true (s.live sid) with h | h
    · obtain ⟨cs, hcs, hstreams⟩ := hh.live sid h
      exact Or.inl ⟨cs layer, by rw [hcs]; rfl, h, hlayer, hstreams layer⟩
    · exact Or.inr ⟨by rw [hh.dead sid h]; rfl, fun hboth => by simp [h] at hboth⟩
  · rw [if_neg hlayer]
    exact Or.inr ⟨rfl, fun hboth => hlayer hboth.2⟩

/-- Writes of one range are the same. -/
theorem WritesOf.unique {sid layer head start : ℕ} {outKeys outValues : Bool} {ws ws' : List (KvRangeWrite F)}
    (h : WritesOf s config sid layer head start outKeys outValues ws)
    (h' : ∀ i w, ws'[i]? = some w → w.offset = sizeT (i * config.headDim) ∧
      ∃ tok, (s.tokens sid layer)[start + i]? = some tok ∧ w.slice = FlatStore.slice config head outKeys outValues tok)
    (hlength : ws.length = ws'.length) : ws = ws' := by
  refine List.ext_getElem hlength fun i hi hi' => ?_
  obtain ⟨hoff, -, tok, htok, hslice⟩ := h i _ (List.getElem?_eq_getElem hi)
  obtain ⟨hoff', tok', htok', hslice'⟩ := h' i _ (List.getElem?_eq_getElem hi')
  obtain rfl := Option.some.inj (htok.symm.trans htok')
  calc ws[i] = ⟨ws[i].offset, ws[i].slice⟩ := rfl
    _ = ⟨ws'[i].offset, ws'[i].slice⟩ := by rw [hoff, hoff', hslice, hslice']
    _ = ws'[i] := rfl

/-! ### One step -/

/-- A stream is found unchanged when another session's or layer's changes. -/
theorem CachesHold.update (hh : CachesHold config s caches) {s' : FlatStore F} {sid : ℕ}
    {entry : Option (ℕ → KvCache F)} (hlive : ∀ sid' ≠ sid, s'.live sid' = s.live sid')
    (htokens : ∀ sid' ≠ sid, s'.tokens sid' = s.tokens sid')
    (hdead : s'.live sid = false → entry = none)
    (hnew : s'.live sid = true → ∃ cs, entry = some cs ∧ ∀ layer, (cs layer).Streams config (s'.tokens sid layer)) :
    CachesHold config s' (Function.update caches sid entry) := by
  refine ⟨fun sid' h => ?_, fun sid' h => ?_⟩
  · rcases eq_or_ne sid' sid with rfl | hne
    · rw [Function.update_self]
      exact hdead h
    · rw [Function.update_of_ne hne]
      exact hh.dead sid' ((hlive sid' hne).symm.trans h)
  · rcases eq_or_ne sid' sid with rfl | hne
    · rw [Function.update_self]
      exact hnew h
    · rw [Function.update_of_ne hne, htokens sid' hne]
      exact hh.live sid' ((hlive sid' hne).symm.trans h)

/-- **One call** keeps the caches in step with the flat store. -/
theorem step_holds [Zero F] (hv : configValid m.config = true) (hs : Simulates m s) (hh : CachesHold m.config s caches)
    (hfresh : fresh.Streams m.config []) (h : Step m e m') :
    CachesHold m.config (after m.config s e) (cachesAfter fresh caches e) := by
  obtain ⟨hc', hs', hexp⟩ := step_simulates hs h
  have hvector := (configValid_bounds hv).2.1
  unfold after at hs' ⊢
  unfold cachesAfter
  by_cases hok : e.response.status ≠ .ok
  · rw [if_pos hok, if_pos hok]
    exact hh
  rw [if_neg hok] at hs' ⊢
  rw [if_neg hok]
  obtain ⟨call, response⟩ := e
  cases call with
  | createSession sid =>
    refine hh.update (fun _ hne => Function.update_of_ne hne _ _) (fun _ hne => Function.update_of_ne hne _ _) ?_ ?_
    · exact fun hdead => absurd ((Function.update_self _ _ _).symm.trans hdead) Bool.noConfusion
    · refine fun _ => ⟨_, rfl, fun layer => ?_⟩
      show fresh.Streams _ (Function.update s.tokens sid (fun _ => []) sid layer)
      rw [Function.update_self]
      exact hfresh
  | destroySession sid =>
    refine hh.update (fun _ hne => Function.update_of_ne hne _ _) (fun _ hne => Function.update_of_ne hne _ _) ?_ ?_
    · exact fun _ => rfl
    · exact fun hlive => absurd ((Function.update_self _ _ _).symm.trans hlive) Bool.noConfusion
  | append host sid layer pos key value =>
    cases key with
    | none => exact hh
    | some key =>
      cases value with
      | none => exact hh
      | some value =>
        obtain ⟨hlive, hlayer, hpos⟩ := hexp (not_not.mp hok)
        obtain ⟨cs, hcs, hstreams⟩ := hh.live sid hlive
        -- the store has taken the token, so there is room for it
        have hroom : (s.tokens sid layer).length < m.config.maxPositions := by
          have hlen := hs'.length_le sid layer
          rw [hc', append_tokens, if_pos ⟨rfl, rfl⟩, List.length_append, List.length_singleton] at hlen
          exact hlen
        obtain ⟨hgoes, htoken⟩ := KvCache.append_streams (hstreams layer) hvector key value
        obtain ⟨cache', hcache'⟩ := Option.isSome_iff_exists.mp (hgoes.mpr hroom)
        refine hh.update (fun _ _ => rfl) (fun sid' hne => Function.update_of_ne hne _ _) ?_ fun _ => ?_
        · exact fun hdead => absurd (hlive.symm.trans hdead) Bool.noConfusion
        · refine ⟨_, congrArg (Option.map _) hcs, fun layer' => ?_⟩
          rw [append_tokens]
          simp only [hcache', Option.getD_some, true_and]
          rcases eq_or_ne layer' layer with rfl | hne
          · rw [Function.update_self, if_pos rfl]
            exact htoken cache' hcache'
          · rw [Function.update_of_ne hne, if_neg hne]
            exact hstreams layer'
  | read => exact hh
  | copyRange => exact hh
  | lookupPage => exact hh

/-- **One call** returns what the caches give. -/
theorem step_agrees [Zero F] (hv : configValid m.config = true) (hs : Simulates m s)
    (hh : CachesHold m.config s caches) (h : Step m e m') : Agrees m.config caches e := by
  obtain ⟨-, -, hexp⟩ := step_simulates hs h
  obtain ⟨-, hvector, -, hmax⟩ := configValid_bounds hv
  have hfits : ∀ sid layer, (s.tokens sid layer).length ≤ sizeMax := fun sid layer =>
    (hs.length_le sid layer).trans hmax
  obtain ⟨call, response⟩ := e
  cases call with
  | createSession sid => exact fun hok => hh.dead sid (hexp hok)
  | destroySession sid => exact hexp.trans (hh.isSome_iff sid).symm
  | append host sid layer pos key value =>
    obtain ⟨rfl, rfl⟩ := Prod.mk.inj h
    show (_ = Status.ok ∨ _ = Status.oom) ↔ _
    -- past its checks an append ends well or for want of a page
    have hchecks : ((m.append host sid layer pos key value).2 = .ok ∨
        (m.append host sid layer pos key value).2 = .oom) ↔
        key.isSome = true ∧ value.isSome = true ∧ Appendable m s sid layer pos := by
      obtain ⟨-, -, ⟨hok, hoom, -, hnot⟩ | ⟨k, v, rfl, rfl, happ, hcases⟩⟩ :=
        append_outcome hs host sid layer pos key value
      · exact iff_of_false (not_or.mpr ⟨hok, hoom⟩) hnot
      · refine iff_of_true ?_ ⟨rfl, rfl, happ⟩
        rcases hcases with ⟨-, -, hok, -⟩ | ⟨-, ⟨hoom, -⟩ | ⟨-, -, -, -, hok, -⟩⟩
        · exact Or.inl hok
        · exact Or.inr hoom
        · exact Or.inl hok
    refine hchecks.trans ⟨?_, ?_⟩
    · rintro ⟨hkey, hvalue, happ⟩
      obtain ⟨k, hkey⟩ := Option.isSome_iff_exists.mp hkey
      obtain ⟨v, hvalue⟩ := Option.isSome_iff_exists.mp hvalue
      rcases hh.cacheOf_cases sid layer with ⟨cache, hcache, -, -, hstreams⟩ | ⟨-, hnot⟩
      · refine ⟨k, v, cache, hkey, hvalue, hcache, hstreams.length.trans happ.at_end.symm, ?_⟩
        refine (KvCache.append_streams hstreams hvector k v).1.mpr ?_
        rw [← happ.at_end]
        exact happ.pos_lt
      · exact absurd ⟨happ.live, happ.layer_lt⟩ hnot
    · rintro ⟨k, v, cache, hkey, hvalue, hcache, hpos, hgoes⟩
      rcases hh.cacheOf_cases sid layer with ⟨cache', hcache', hlive, hlayer, hstreams⟩ | ⟨hnone, -⟩
      · obtain rfl := Option.some.inj (hcache.symm.trans hcache')
        have hroom := (KvCache.append_streams hstreams hvector k v).1.mp hgoes
        have hend : pos = (s.tokens sid layer).length := hpos.symm.trans hstreams.length
        exact ⟨by rw [hkey]; rfl, by rw [hvalue]; rfl, hlive, hlayer, hend, hend ▸ hroom⟩
      · rw [hcache] at hnone
        cases hnone
  | read sid layer head pos outKey outValue =>
    obtain ⟨hiff, hslice, hnone⟩ := hexp
    have hsome : response.status = .ok ↔ response.slice.isSome := by
      refine ⟨fun hok => ?_, fun h' => by_contra fun hne => ?_⟩
      · obtain ⟨tok, -, heq⟩ := hslice hok
        exact heq ▸ rfl
      · rw [hnone hne] at h'
        cases h'
    refine ⟨hsome, ?_⟩
    show response.slice = _
    by_cases hok : response.status = .ok
    · obtain ⟨hout, hlive, hlayer, hhead, hpos⟩ := hiff.mp hok
      obtain ⟨tok, htok, heq⟩ := hslice hok
      rcases hh.cacheOf_cases sid layer with ⟨cache, hcache, -, -, hstreams⟩ | ⟨-, hnot⟩
      · rw [if_pos hout, hcache, heq, Option.bind_some, KvCache.slice_streams hstreams, if_pos hhead, htok]
        rfl
      · exact absurd ⟨hlive, hlayer⟩ hnot
    · rw [hnone hok]
      symm
      by_cases hout : outKey = true ∨ outValue = true
      · rw [if_pos hout]
        rcases hh.cacheOf_cases sid layer with ⟨cache, hcache, hlive, hlayer, hstreams⟩ | ⟨hcache, -⟩
        · rw [hcache, Option.bind_some, KvCache.slice_streams hstreams]
          by_cases hhead : head < m.config.numHeads
          · rw [if_pos hhead, Option.map_eq_none_iff, List.getElem?_eq_none_iff]
            exact not_lt.mp fun hpos => hok (hiff.mpr ⟨hout, hlive, hlayer, hhead, hpos⟩)
          · exact if_neg hhead
        · rw [hcache]
          rfl
      · exact if_neg hout
  | copyRange sid layer head start count outKeys outValues =>
    obtain ⟨hiff, hlength, hwrites⟩ := hexp
    have hcopy : response.status = .ok ↔ ∃ cache, cacheOf m.config caches sid layer = some cache ∧
        (cache.copyRange start count head outKeys outValues).1 = true := by
      refine hiff.trans ?_
      rcases hh.cacheOf_cases sid layer with ⟨cache, hcache, hlive, hlayer, hstreams⟩ | ⟨hcache, hnot⟩
      · obtain ⟨htrue, -, -⟩ := KvCache.copyRange_streams hstreams (hfits sid layer) start count head outKeys outValues
        constructor
        · rintro ⟨hout, hcount, -, -, hhead, hend⟩
          exact ⟨cache, hcache, htrue.mpr ⟨hout, hcount, hhead, hend⟩⟩
        · rintro ⟨cache', hcache', hgoes⟩
          obtain rfl := Option.some.inj (hcache.symm.trans hcache')
          obtain ⟨hout, hcount, hhead, hend⟩ := htrue.mp hgoes
          exact ⟨hout, hcount, hlive, hlayer, hhead, hend⟩
      · refine iff_of_false ?_ ?_
        · rintro ⟨-, -, hlive, hlayer, -⟩
          exact hnot ⟨hlive, hlayer⟩
        · rintro ⟨cache', hcache', -⟩
          rw [hcache] at hcache'
          cases hcache'
    refine ⟨hcopy, fun cache hcache hok => ?_⟩
    rcases hh.cacheOf_cases sid layer with ⟨cache', hcache', -, -, hstreams⟩ | ⟨hnone, -⟩
    · obtain rfl := Option.some.inj (hcache.symm.trans hcache')
      obtain ⟨cache', hcache'', hgoes⟩ := hcopy.mp hok
      obtain rfl := Option.some.inj (hcache.symm.trans hcache'')
      obtain ⟨-, -, hall⟩ := KvCache.copyRange_streams hstreams (hfits sid layer) start count head outKeys outValues
      obtain ⟨hlength', hwrites'⟩ := hall hgoes
      exact hwrites.unique hwrites' ((hlength hok).trans hlength'.symm)
    · rw [hcache] at hnone
      cases hnone
  | lookupPage sid layer pos outPage =>
    refine hexp.1.trans ?_
    rcases hh.cacheOf_cases sid layer with ⟨cache, hcache, hlive, hlayer, hstreams⟩ | ⟨hcache, hnot⟩
    · constructor
      · rintro ⟨hout, -, -, hpos, hpage⟩
        exact ⟨hout, hpos, cache, hcache, hstreams.length ▸ hpage⟩
      · rintro ⟨hout, hpos, cache', hcache', hpage⟩
        obtain rfl := Option.some.inj (hcache.symm.trans hcache')
        exact ⟨hout, hlive, hlayer, hpos, hstreams.length ▸ hpage⟩
    · refine iff_of_false ?_ ?_
      · rintro ⟨-, hlive, hlayer, -⟩
        exact hnot ⟨hlive, hlayer⟩
      · rintro ⟨-, -, cache', hcache', -⟩
        rw [hcache] at hcache'
        cases hcache'

/-! ### Runs -/

variable {m₀ : KvMmu F} {es : List (KvEvent F)} {host host' : Host}

theorem run_holds [Zero F] (hc : create host config = .ok m₀)
    (hf : KvCache.init host' config.maxPositions config.numHeads config.headDim = .ok fresh) (hr : Run Step m₀ es m) :
    m.config = config ∧ Simulates m (flatStore config es) ∧
      CachesHold config (flatStore config es) (localCaches fresh es) := by
  obtain ⟨hcfg, hsim⟩ := create_simulates hc
  have hnone : CachesHold config (flatStore config []) (localCaches fresh []) :=
    ⟨fun _ _ => rfl, fun _ h => absurd h Bool.false_ne_true⟩
  refine @Run.invariant _ _ _ _ _ _ (fun es m => m.config = config ∧ Simulates m (flatStore config es) ∧
    CachesHold config (flatStore config es) (localCaches fresh es)) ⟨hcfg, hsim, hnone⟩ ?_ hr
  intro es m e m' _ hi hstep
  obtain ⟨rfl, hsim, hh⟩ := hi
  obtain ⟨hcfg', hsim', -⟩ := step_simulates hsim hstep
  unfold flatStore localCaches
  rw [List.foldl_append, List.foldl_append]
  exact ⟨hcfg', hsim', step_holds hsim.valid hsim hh (KvCache.init_streams hf) hstep⟩

/-- **Paged and contiguous agree.**  Keep, next to the MMU, a contiguous cache for each layer of each live session, and
append to it what the MMU accepts.  After any run, every call on the MMU returns what those caches give: an append past
its checks is one that the cache takes at its end (and then only a page can be wanting), a read is the cache's vectors
and a range copy makes the same writes, or both refuse. -/
theorem paged_agrees_contiguous [Zero F] (hc : create host config = .ok m₀)
    (hf : KvCache.init host' config.maxPositions config.numHeads config.headDim = .ok fresh) (hr : Run Step m₀ es m)
    (hstep : Step m e m') : Agrees config (localCaches fresh es) e := by
  obtain ⟨rfl, hsim, hh⟩ := run_holds hc hf hr
  exact step_agrees hsim.valid hsim hh hstep

/-- A session with two tokens in two pages. -/
def twoTokens : List (KvEvent ℕ) :=
  [ ⟨.createSession 7, { status := .ok }⟩,
    ⟨.append .generous 7 0 0 (some fun i => 10 + i) (some fun i => 20 + i), { status := .ok }⟩,
    ⟨.append .generous 7 0 1 (some fun i => 30 + i) (some fun i => 40 + i), { status := .ok }⟩ ]

/-- The keys of both tokens. -/
def bothKeys : KvEvent ℕ :=
  ⟨.copyRange 7 0 0 0 2 true false,
    { status := .ok, writes := [⟨0, ⟨some [10, 11], none⟩⟩, ⟨2, ⟨some [30, 31], none⟩⟩] }⟩

theorem paged_agrees_contiguous_copied : ∃ m₀ m m' : KvMmu ℕ, ∃ fresh,
    create .generous ⟨1, 2, 1, 1, 2, 1, 2⟩ = .ok m₀ ∧ KvCache.init .generous 2 1 2 = .ok fresh ∧
    Run Step m₀ twoTokens m ∧ Step m bothKeys m' ∧
    Agrees ⟨1, 2, 1, 1, 2, 1, 2⟩ (localCaches fresh twoTokens) bothKeys := by
  obtain ⟨m₀, m, m', hc, hr, hstep⟩ : ∃ m₀ m m' : KvMmu ℕ, create .generous ⟨1, 2, 1, 1, 2, 1, 2⟩ = .ok m₀ ∧
      Run Step m₀ twoTokens m ∧ Step m bothKeys m' :=
    ⟨_, _, _, rfl, Run.cons (step_perform _ _) <| Run.cons (step_perform _ _) <| Run.cons (step_perform _ _) Run.nil,
      step_perform _ _⟩
  obtain ⟨fresh, hf⟩ : ∃ fresh : KvCache ℕ, KvCache.init .generous 2 1 2 = .ok fresh := ⟨_, rfl⟩
  exact ⟨m₀, m, m', fresh, hc, hf, hr, hstep, paged_agrees_contiguous hc hf hr hstep⟩

end KvMmu

end Att1
