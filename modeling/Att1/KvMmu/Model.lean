import Mathlib.Logic.Function.Basic
import Att1.Base
import Att1.Lib.Buffer
import Att1.Lib.Table

/-!
# Att1.KvMmu.Model — the paged KV store (`src/kv_mmu.c`)

Key and value vectors live in pages of `page_tokens` positions; a page is found by a linear search for its session,
layer and logical page, and a session by a linear search for its id.  `F` is the type of the stored numbers.  A
pointer argument that is only written through is a `Bool` that says whether it is non-null; what a call stores
through it is part of what the call returns.
-/

open Att1.Lib

namespace Att1

/-- `att1_kv_mmu_config`. -/
structure KvMmuConfig where
  maxSessions : ℕ
  maxPages : ℕ
  numLayers : ℕ
  numHeads : ℕ
  headDim : ℕ
  pageTokens : ℕ
  maxPositions : ℕ
  deriving DecidableEq, Repr

/-- `att1_kv_mmu_counters`. -/
structure KvMmuCounters where
  pageHits : UInt64 := 0
  pageMisses : UInt64 := 0
  pageAllocations : UInt64 := 0
  appendOps : UInt64 := 0
  readOps : UInt64 := 0
  rangeCopyOps : UInt64 := 0
  errors : UInt64 := 0
  deriving DecidableEq, Repr

/-- `att1_kv_mmu_session`. -/
structure KvSession where
  sessionId : ℕ := 0
  active : Bool := false
  deriving DecidableEq, Repr

/-- `att1_kv_mmu_page`. -/
structure KvPage (F : Type) where
  physicalPage : ℕ
  sessionId : ℕ
  layerId : ℕ
  logicalPage : ℕ
  active : Bool
  tokenPresent : ℕ → Bool
  keys : ℕ → F
  values : ℕ → F

/-- `att1_kv_mmu`. -/
structure KvMmu (F : Type) where
  config : KvMmuConfig
  counters : KvMmuCounters
  sessions : ℕ → KvSession
  pages : ℕ → KvPage F

/-- What a read stores: a key and a value vector, each only if there is a pointer for it. -/
structure KvSlice (F : Type) where
  key : Option (List F)
  value : Option (List F)
  deriving DecidableEq, Repr

/-- One round of a range copy: where in the output arrays it writes, and what. -/
structure KvRangeWrite (F : Type) where
  offset : ℕ
  slice : KvSlice F
  deriving DecidableEq, Repr

/-- `att1_kv_mmu_page_ref`. -/
structure KvPageRef where
  physicalPage : ℕ
  sessionId : ℕ
  layerId : ℕ
  logicalPage : ℕ
  pageTokens : ℕ
  deriving DecidableEq, Repr

namespace KvMmu

variable {F : Type} [Zero F]

/-- `sizeof(float)`. -/
def floatSize : ℕ := 4

def configValid (config : KvMmuConfig) : Bool :=
  if config.maxSessions = 0 ∨ config.maxPages = 0 ∨ config.numLayers = 0 ∨ config.numHeads = 0 ∨
      config.headDim = 0 ∨ config.pageTokens = 0 ∨ config.maxPositions = 0 then false
  else
    match mulSize config.numHeads config.headDim with
    | none => false
    | some headsDims =>
      match mulSize config.pageTokens headsDims with
      | none => false
      | some pageElements =>
        match mulSize config.maxPages config.pageTokens with
        | none => false
        | some capacityPositions =>
          if capacityPositions < config.maxPositions then false else decide (0 < pageElements)

/-- `att1_kv_mmu_page_elements`. -/
def pageElements (m : KvMmu F) : ℕ :=
  sizeT (sizeT (m.config.pageTokens * m.config.numHeads) * m.config.headDim)

/-- `att1_kv_mmu_position_offset`. -/
def positionOffset (m : KvMmu F) (tokenInPage headId : ℕ) : ℕ :=
  sizeT (sizeT (sizeT (tokenInPage * m.config.numHeads) + headId) * m.config.headDim)

/-- The number of elements a `memcpy` of `n * sizeof(float)` bytes copies. -/
def copyCount (n : ℕ) : ℕ := sizeT (n * floatSize) / floatSize

def countError (m : KvMmu F) : KvMmu F :=
  { m with counters := { m.counters with errors := m.counters.errors + 1 } }

/-- `att1_kv_mmu_find_session`: the slot of the session. -/
def findSession (m : KvMmu F) (sessionId : ℕ) : Option ℕ :=
  findSlot m.config.maxSessions fun i =>
    (m.sessions i).active && decide ((m.sessions i).sessionId = sessionId)

/-- `att1_kv_mmu_find_page`: the slot of the page. -/
def findPage (m : KvMmu F) (sessionId layerId logicalPage : ℕ) : Option ℕ :=
  findSlot m.config.maxPages fun i =>
    (m.pages i).active && decide ((m.pages i).sessionId = sessionId) &&
      decide ((m.pages i).layerId = layerId) && decide ((m.pages i).logicalPage = logicalPage)

/-- `att1_kv_mmu_release_page`: a zeroed page that keeps its physical number. -/
def releasePage (page : KvPage F) : KvPage F where
  physicalPage := page.physicalPage
  sessionId := 0
  layerId := 0
  logicalPage := 0
  active := false
  tokenPresent := fun _ => false
  keys := fun _ => 0
  values := fun _ => 0

/-- `att1_kv_mmu_alloc_page`: the first inactive slot, unless an allocation fails there. -/
def allocPage (m : KvMmu F) (host : Host) (sessionId layerId logicalPage : ℕ) : KvMmu F × Option ℕ :=
  match findSlot m.config.maxPages fun i => !(m.pages i).active with
  | none => (m, none)
  | some i =>
    if ¬ (host.calloc m.config.pageTokens 1 ∧ host.calloc m.pageElements floatSize) then
      ({ m with pages := Function.update m.pages i (releasePage (m.pages i)) }, none)
    else
      ({ m with
          pages := Function.update m.pages i
            { m.pages i with
              sessionId := sessionId
              layerId := layerId
              logicalPage := logicalPage
              active := true
              tokenPresent := fun _ => false
              keys := fun _ => 0
              values := fun _ => 0 }
          counters := { m.counters with pageAllocations := m.counters.pageAllocations + 1 } },
        some i)

/-- `att1_kv_mmu_lookup_existing`. -/
def lookupExisting (m : KvMmu F) (sessionId layerId position : ℕ) : KvMmu F × Option ℕ :=
  match m.findPage sessionId layerId (position / m.config.pageTokens) with
  | none => ({ m with counters := { m.counters with pageMisses := m.counters.pageMisses + 1 } }, none)
  | some i => ({ m with counters := { m.counters with pageHits := m.counters.pageHits + 1 } }, some i)

/-- `att1_kv_mmu_token_present`. -/
def tokenPresent (m : KvMmu F) (sessionId layerId position : ℕ) : Bool :=
  match m.findPage sessionId layerId (position / m.config.pageTokens) with
  | none => false
  | some i => (m.pages i).tokenPresent (position % m.config.pageTokens)

/-- `att1_kv_mmu_next_position`: the first position below the limit whose token is absent, or the limit. -/
def nextPosition (m : KvMmu F) (sessionId layerId : ℕ) : ℕ :=
  (findSlot m.config.maxPositions fun position => !m.tokenPresent sessionId layerId position).getD
    m.config.maxPositions

/-- `att1_kv_mmu_validate_address` (the error counter is bumped by its callers here). -/
def validateAddress (m : KvMmu F) (sessionId layerId : ℕ) : Status :=
  if (m.findSession sessionId).isNone then .notFound
  else if m.config.numLayers ≤ layerId then .invalidArg
  else .ok

/-- `att1_kv_mmu_validate_position`. -/
def validatePosition (m : KvMmu F) (position : ℕ) : Status :=
  if m.config.maxPositions ≤ position then .invalidArg else .ok

/-- `att1_kv_mmu_validate_range`. -/
def validateRange (m : KvMmu F) (startPosition positionCount : ℕ) : Status :=
  if positionCount = 0 then .invalidArg
  else if sizeMax - (positionCount - 1) < startPosition then .invalidArg
  else if m.config.maxPositions < sizeT (startPosition + positionCount) then .invalidArg
  else .ok

/-- `att1_kv_mmu_create`. -/
def create (host : Host) (config : KvMmuConfig) : Except Status (KvMmu F) :=
  if ¬ configValid config then .error .invalidArg
  else if ¬ host.calloc 1 128 then .error .oom
  else if ¬ (host.calloc config.maxSessions 16 ∧ host.calloc config.maxPages 64) then .error .oom
  else .ok
    { config := config
      counters := {}
      sessions := fun _ => {}
      pages := fun i =>
        { physicalPage := i
          sessionId := 0
          layerId := 0
          logicalPage := 0
          active := false
          tokenPresent := fun _ => false
          keys := fun _ => 0
          values := fun _ => 0 } }

/-- `att1_kv_mmu_create_session`. -/
def createSession (m : KvMmu F) (sessionId : ℕ) : KvMmu F × Status :=
  if (m.findSession sessionId).isSome then (m.countError, .state)
  else
    match findSlot m.config.maxSessions fun i => !(m.sessions i).active with
    | none => (m.countError, .oom)
    | some i =>
      ({ m with sessions := Function.update m.sessions i { sessionId := sessionId, active := true } }, .ok)

/-- `att1_kv_mmu_destroy_session`. -/
def destroySession (m : KvMmu F) (sessionId : ℕ) : KvMmu F × Status :=
  match m.findSession sessionId with
  | none => (m.countError, .notFound)
  | some slot =>
    ({ m with
        pages := fun i =>
          if i < m.config.maxPages ∧ (m.pages i).active = true ∧ (m.pages i).sessionId = sessionId then
            releasePage (m.pages i)
          else m.pages i
        sessions := Function.update m.sessions slot {} }, .ok)

/-- The end of `att1_kv_mmu_append`, once the page is there. -/
def storeToken (m : KvMmu F) (page tokenInPage : ℕ) (key value : ℕ → F) : KvMmu F × Status :=
  if (m.pages page).tokenPresent tokenInPage then (m.countError, .state)
  else
    match mulSize m.config.numHeads m.config.headDim with
    | none => (m.countError, .invalidArg)
    | some headValues =>
      let positionValues := sizeT (tokenInPage * headValues)
      let p := m.pages page
      ({ m with
          pages := Function.update m.pages page
            { p with
              keys := copyInto p.keys positionValues key 0 (copyCount headValues)
              values := copyInto p.values positionValues value 0 (copyCount headValues)
              tokenPresent := Function.update p.tokenPresent tokenInPage true }
          counters := { m.counters with appendOps := m.counters.appendOps + 1 } }, .ok)

/-- `att1_kv_mmu_append`. -/
def append (m : KvMmu F) (host : Host) (sessionId layerId position : ℕ) (key value : Option (ℕ → F)) :
    KvMmu F × Status :=
  match key, value with
  | some key, some value =>
    match m.validateAddress sessionId layerId with
    | .ok =>
      match m.validatePosition position with
      | .ok =>
        if position ≠ m.nextPosition sessionId layerId then (m.countError, .state)
        else
          match m.lookupExisting sessionId layerId position with
          | (m, some page) => m.storeToken page (position % m.config.pageTokens) key value
          | (m, none) =>
            match m.allocPage host sessionId layerId (position / m.config.pageTokens) with
            | (m, some page) => m.storeToken page (position % m.config.pageTokens) key value
            | (m, none) => (m.countError, .oom)
      | status => (m.countError, status)
    | status => (m.countError, status)
  | _, _ => (m.countError, .invalidArg)

/-- `att1_kv_mmu_read`. -/
def read (m : KvMmu F) (sessionId layerId headId position : ℕ) (outKey outValue : Bool) :
    KvMmu F × Status × Option (KvSlice F) :=
  if outKey = false ∧ outValue = false then (m.countError, .invalidArg, none)
  else
    match m.validateAddress sessionId layerId with
    | .ok =>
      match m.validatePosition position with
      | .ok =>
        if m.config.numHeads ≤ headId then (m.countError, .invalidArg, none)
        else
          let tokenInPage := position % m.config.pageTokens
          match m.lookupExisting sessionId layerId position with
          | (m, none) => (m.countError, .notFound, none)
          | (m, some page) =>
            if (m.pages page).tokenPresent tokenInPage = false then (m.countError, .notFound, none)
            else
              let offset := m.positionOffset tokenInPage headId
              let count := copyCount m.config.headDim
              ({ m with counters := { m.counters with readOps := m.counters.readOps + 1 } }, .ok,
                some
                  { key := if outKey then some (readBlock (m.pages page).keys offset count) else none
                    value :=
                      if outValue then some (readBlock (m.pages page).values offset count) else none })
      | status => (m.countError, status, none)
    | status => (m.countError, status, none)

/-- The loop of `att1_kv_mmu_copy_range` from `pos` on, with `remaining` rounds to go, and the writes it made. -/
def copyRangeLoop (sessionId layerId headId startPosition : ℕ) (outKeys outValues : Bool) :
    ℕ → ℕ → KvMmu F → KvMmu F × Status × List (KvRangeWrite F)
  | 0, _, m => (m, .ok, [])
  | remaining + 1, pos, m =>
    match m.read sessionId layerId headId (sizeT (startPosition + pos)) outKeys outValues with
    | (m, .ok, slice) =>
      let r := copyRangeLoop sessionId layerId headId startPosition outKeys outValues remaining (pos + 1) m
      (r.1, r.2.1, slice.toList.map (⟨sizeT (pos * m.config.headDim), ·⟩) ++ r.2.2)
    | (m, status, _) => (m, status, [])

/-- `att1_kv_mmu_copy_range`, with all writes it made, also when it fails. -/
def copyRange (m : KvMmu F) (sessionId layerId headId startPosition positionCount : ℕ)
    (outKeys outValues : Bool) : KvMmu F × Status × List (KvRangeWrite F) :=
  if outKeys = false ∧ outValues = false then (m.countError, .invalidArg, [])
  else
    match m.validateRange startPosition positionCount with
    | .ok =>
      if m.config.numHeads ≤ headId then (m.countError, .invalidArg, [])
      else
        match copyRangeLoop sessionId layerId headId startPosition outKeys outValues positionCount 0 m with
        | (m, .ok, writes) =>
          ({ m with counters := { m.counters with rangeCopyOps := m.counters.rangeCopyOps + 1 } }, .ok, writes)
        | r => r
    | status => (m.countError, status, [])

/-- `att1_kv_mmu_lookup_page`; `outPage` says whether the output pointer is non-null. -/
def lookupPage (m : KvMmu F) (sessionId layerId position : ℕ) (outPage : Bool) :
    KvMmu F × Status × Option KvPageRef :=
  if outPage = false then (m.countError, .invalidArg, none)
  else
    match m.validateAddress sessionId layerId with
    | .ok =>
      match m.validatePosition position with
      | .ok =>
        match m.lookupExisting sessionId layerId position with
        | (m, none) => (m, .notFound, none)
        | (m, some page) =>
          (m, .ok,
            some
              { physicalPage := (m.pages page).physicalPage
                sessionId := (m.pages page).sessionId
                layerId := (m.pages page).layerId
                logicalPage := position / m.config.pageTokens
                pageTokens := m.config.pageTokens })
      | status => (m.countError, status, none)
    | status => (m.countError, status, none)

end KvMmu

end Att1
