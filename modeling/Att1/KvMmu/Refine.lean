import Att1.KvMmu.Append
import Att1.Lib.Runs

/-!
# Att1.KvMmu.Refine — the paged store refines the flat store over whole runs

* `flatStore config es`: the flat store that the successful calls of a history leave.
* `Explained config s e`: what an event returned is what the flat store `s` before it says.
* `paged_refines_flat`: after every run the page table simulates the flat store of the history, and every event of
  the run is explained by the flat store of the events before it.
-/

open Att1.Lib

namespace Att1.KvMmu

variable {F : Type}

/-- A call on the store; an append comes with the host allocations it may make. -/
inductive KvCall (F : Type)
  | createSession (sessionId : ℕ)
  | destroySession (sessionId : ℕ)
  | append (host : Host) (sessionId layerId position : ℕ) (key value : Option (ℕ → F))
  | read (sessionId layerId headId position : ℕ) (outKey outValue : Bool)
  | copyRange (sessionId layerId headId startPosition positionCount : ℕ) (outKeys outValues : Bool)
  | lookupPage (sessionId layerId position : ℕ) (outPage : Bool)

/-- Everything a call gives back. -/
structure KvResponse (F : Type) where
  status : Status
  slice : Option (KvSlice F) := none
  writes : List (KvRangeWrite F) := []
  page : Option KvPageRef := none

structure KvEvent (F : Type) where
  call : KvCall F
  response : KvResponse F

def perform [Zero F] (m : KvMmu F) : KvCall F → KvMmu F × KvResponse F
  | .createSession sid => let r := m.createSession sid; (r.1, { status := r.2 })
  | .destroySession sid => let r := m.destroySession sid; (r.1, { status := r.2 })
  | .append host sid layer pos key value =>
    let r := m.append host sid layer pos key value; (r.1, { status := r.2 })
  | .read sid layer head pos outKey outValue =>
    let r := m.read sid layer head pos outKey outValue; (r.1, { status := r.2.1, slice := r.2.2 })
  | .copyRange sid layer head start count outKeys outValues =>
    let r := m.copyRange sid layer head start count outKeys outValues
    (r.1, { status := r.2.1, writes := r.2.2 })
  | .lookupPage sid layer pos outPage =>
    let r := m.lookupPage sid layer pos outPage; (r.1, { status := r.2.1, page := r.2.2 })

/-- One call on the store. -/
def Step [Zero F] (m : KvMmu F) (e : KvEvent F) (m' : KvMmu F) : Prop := m.perform e.call = (m', e.response)

theorem step_perform [Zero F] (m : KvMmu F) (call : KvCall F) :
    Step m ⟨call, (m.perform call).2⟩ (m.perform call).1 := rfl

/-- The flat store after an event: only calls that succeeded count. -/
def after (config : KvMmuConfig) (s : FlatStore F) (e : KvEvent F) : FlatStore F :=
  if e.response.status ≠ .ok then s
  else
    match e.call with
    | .createSession sid => s.create sid
    | .destroySession sid => s.destroy sid
    | .append _ sid layer _ (some key) (some value) => s.append sid layer (tokenOf config key value)
    | _ => s

/-- The flat store a history leaves. -/
def flatStore (config : KvMmuConfig) (es : List (KvEvent F)) : FlatStore F := es.foldl (after config) .empty

/-- What an event returned is what the flat store before it says. -/
def Explained (config : KvMmuConfig) (s : FlatStore F) (e : KvEvent F) : Prop :=
  match e.call with
  | .createSession sid => e.response.status = .ok → s.live sid = false
  | .destroySession sid => e.response.status = .ok ↔ s.live sid = true
  | .append _ sid layer pos _ _ =>
    e.response.status = .ok →
      s.live sid = true ∧ layer < config.numLayers ∧ pos = (s.tokens sid layer).length
  | .read sid layer head pos outKey outValue =>
    (e.response.status = .ok ↔
      (outKey = true ∨ outValue = true) ∧ s.live sid = true ∧ layer < config.numLayers ∧
        head < config.numHeads ∧ pos < (s.tokens sid layer).length) ∧
    (e.response.status = .ok → ∃ tok, (s.tokens sid layer)[pos]? = some tok ∧
      e.response.slice = some (FlatStore.slice config head outKey outValue tok)) ∧
    (e.response.status ≠ .ok → e.response.slice = none)
  | .copyRange sid layer head start count outKeys outValues =>
    (e.response.status = .ok ↔
      (outKeys = true ∨ outValues = true) ∧ 0 < count ∧ s.live sid = true ∧ layer < config.numLayers ∧
        head < config.numHeads ∧ start + count ≤ (s.tokens sid layer).length) ∧
    (e.response.status = .ok → e.response.writes.length = count) ∧
    WritesOf s config sid layer head start outKeys outValues e.response.writes
  | .lookupPage sid layer pos outPage =>
    (e.response.status = .ok ↔
      outPage = true ∧ s.live sid = true ∧ layer < config.numLayers ∧ pos < config.maxPositions ∧
        pos / config.pageTokens * config.pageTokens < (s.tokens sid layer).length) ∧
    ∀ ref ∈ e.response.page, ref.sessionId = sid ∧ ref.layerId = layer ∧
      ref.logicalPage = pos / config.pageTokens ∧ ref.pageTokens = config.pageTokens

/-! ### Creation -/

theorem create_simulates [Zero F] {host : Host} {config : KvMmuConfig} {m : KvMmu F}
    (h : create host config = .ok m) : m.config = config ∧ Simulates m .empty := by
  unfold create at h
  split_ifs at h with h1 h2 h3
  injection h with h
  subst h
  have hnone : ∀ {i sid layer logical}, ¬ PageAt
      ({ config := config
         counters := {}
         sessions := fun _ => {}
         pages := fun i =>
          { physicalPage := i
            sessionId := 0
            layerId := 0
            logicalPage := 0
            active := false
            tokenPresent := fun _ => false
            keys := fun _ => 0
            values := fun _ => 0 } } : KvMmu F) i sid layer logical := by
    intro i sid layer logical hp
    cases hp.active
  refine ⟨rfl, by simpa using h1, fun sid => ?_, ?_, fun _ _ _ _ _ hi => absurd hi hnone,
    fun _ _ _ _ hi => absurd hi hnone, fun _ _ _ _ hi => absurd hi hnone,
    fun _ _ _ _ hi => absurd hi hnone, fun _ _ _ _ hi => absurd hi hnone, ?_, fun _ _ _ => rfl,
    fun _ _ => Nat.zero_le _⟩
  · simp [FlatStore.empty]
  · intro i _ j _ hact
    cases hact
  · intro sid layer pos tok htok
    simp [FlatStore.empty] at htok

/-! ### One step -/

/-- **One call** on a store that simulates a flat store returns what the flat store says and leaves a store that
simulates the flat store after the call. -/
theorem step_simulates [Zero F] {m m' : KvMmu F} {s : FlatStore F} {e : KvEvent F} (hs : Simulates m s)
    (h : Step m e m') :
    m'.config = m.config ∧ Simulates m' (after m.config s e) ∧ Explained m.config s e := by
  obtain ⟨call, response⟩ := e
  cases call with
  | createSession sid =>
    obtain ⟨rfl, rfl⟩ := Prod.mk.inj h
    obtain ⟨hc, ⟨hst, hdead, hsim⟩ | ⟨hst, hsim⟩⟩ := createSession_spec hs sid
    · refine ⟨hc, ?_, fun _ => hdead⟩
      rw [after, if_neg (not_not.mpr hst)]
      exact hsim
    · refine ⟨hc, ?_, fun hok => absurd hok hst⟩
      rw [after, if_pos hst]
      exact hsim
  | destroySession sid =>
    obtain ⟨rfl, rfl⟩ := Prod.mk.inj h
    obtain ⟨hc, ⟨hst, hlive, hsim⟩ | ⟨hst, hdead, hsim⟩⟩ := destroySession_spec hs sid
    · refine ⟨hc, ?_, iff_of_true hst hlive⟩
      rw [after, if_neg (not_not.mpr hst)]
      exact hsim
    · refine ⟨hc, ?_, iff_of_false hst (by simp [hdead])⟩
      rw [after, if_pos hst]
      exact hsim
  | append host sid layer pos key value =>
    obtain ⟨rfl, rfl⟩ := Prod.mk.inj h
    obtain ⟨hc, ⟨k, v, rfl, rfl, hst, hlive, hlayer, hpos, hsim⟩ | ⟨hst, hsim⟩⟩ :=
      append_spec hs host sid layer pos key value
    · refine ⟨hc, ?_, fun _ => ⟨hlive, hlayer, hpos⟩⟩
      rw [after, if_neg (not_not.mpr hst)]
      exact hsim
    · refine ⟨hc, ?_, fun hok => absurd hok hst⟩
      rw [after, if_pos hst]
      exact hsim
  | read sid layer head pos outKey outValue =>
    obtain ⟨rfl, rfl⟩ := Prod.mk.inj h
    obtain ⟨hsame, hcases⟩ := read_spec hs sid layer head pos outKey outValue
    refine ⟨hsame.config, ?_, ?_⟩
    · rw [after, ite_self]
      exact hsame.simulates hs
    · rcases hcases with ⟨tok, hout, hread, htok, hres⟩ | ⟨hnot, hst, hnone⟩
      · have hst := congrArg Prod.fst hres
        have hslice := congrArg Prod.snd hres
        exact ⟨iff_of_true hst ⟨hout, hread⟩, fun _ => ⟨tok, htok, hslice⟩, fun hne => absurd hst hne⟩
      · exact ⟨iff_of_false hst hnot, fun hok => absurd hok hst, fun _ => hnone⟩
  | copyRange sid layer head start count outKeys outValues =>
    obtain ⟨rfl, rfl⟩ := Prod.mk.inj h
    obtain ⟨hsame, hwrites, hiff, hlen⟩ := copyRange_spec hs sid layer head start count outKeys outValues
    refine ⟨hsame.config, ?_, hiff, hlen, hwrites⟩
    rw [after, ite_self]
    exact hsame.simulates hs
  | lookupPage sid layer pos outPage =>
    obtain ⟨rfl, rfl⟩ := Prod.mk.inj h
    obtain ⟨hsame, hiff, href⟩ := lookupPage_spec hs sid layer pos outPage
    refine ⟨hsame.config, ?_, hiff, href⟩
    rw [after, ite_self]
    exact hsame.simulates hs

/-! ### Runs -/

/-- The paged store is where the history puts it, and every event so far is explained. -/
structure RunInv (config : KvMmuConfig) (es : List (KvEvent F)) (m : KvMmu F) : Prop where
  config_eq : m.config = config
  simulates : Simulates m (flatStore config es)
  explained : ∀ js e ks, es = js ++ e :: ks → Explained config (flatStore config js) e

theorem run_inv [Zero F] {host : Host} {config : KvMmuConfig} {m₀ m : KvMmu F} {es : List (KvEvent F)}
    (hc : create host config = .ok m₀) (hr : Run Step m₀ es m) : RunInv config es m := by
  obtain ⟨hcfg, hsim⟩ := create_simulates hc
  have h0 : RunInv config [] m₀ := ⟨hcfg, hsim, by simp⟩
  refine hr.invariant h0 fun es m e m' _ hi hstep => ?_
  obtain ⟨rfl, hsim, hexp⟩ := hi
  obtain ⟨hcfg', hsim', hexp'⟩ := step_simulates hsim hstep
  refine ⟨hcfg', ?_, fun js e' ks heq => ?_⟩
  · unfold flatStore
    rw [List.foldl_append]
    exact hsim'
  · rcases List.eq_nil_or_concat ks with rfl | ⟨ks', last, rfl⟩
    · obtain ⟨rfl, h1⟩ := List.append_inj' heq rfl
      obtain rfl : e = e' := by simpa using h1
      exact hexp'
    · rw [List.concat_eq_append, ← List.cons_append, ← List.append_assoc] at heq
      exact hexp js e' ks' (List.append_inj' heq rfl).1

/-- **The paged store refines the flat store.**  After every run of calls on a created store, in any order and
whatever allocations succeed, the pages hold exactly the streams of the flat store of the history; and every call
of the run returned what the flat store of the calls before it says. -/
theorem paged_refines_flat [Zero F] {host : Host} {config : KvMmuConfig} {m₀ m : KvMmu F}
    {es : List (KvEvent F)} (hc : create host config = .ok m₀) (hr : Run Step m₀ es m) :
    Simulates m (flatStore config es) ∧
      ∀ js e ks, es = js ++ e :: ks → Explained config (flatStore config js) e := by
  have hinv := run_inv hc hr
  exact ⟨hinv.simulates, hinv.explained⟩

/-- One page, used by one incarnation of session 7, released, and not readable in the next incarnation. -/
def reusedSession : List (KvEvent ℕ) :=
  [ ⟨.createSession 7, { status := .ok }⟩,
    ⟨.append .generous 7 0 0 (some fun i => 10 + i) (some fun i => 20 + i), { status := .ok }⟩,
    ⟨.read 7 0 0 0 true true, { status := .ok, slice := some ⟨some [10, 11], some [20, 21]⟩ }⟩,
    ⟨.destroySession 7, { status := .ok }⟩,
    ⟨.createSession 7, { status := .ok }⟩,
    ⟨.read 7 0 0 0 true true, { status := .notFound }⟩ ]

theorem reusedSession_refines : ∃ m₀ m, create .generous ⟨1, 1, 1, 1, 2, 1, 1⟩ = .ok m₀ ∧
    Run Step m₀ reusedSession m ∧ Simulates m (flatStore ⟨1, 1, 1, 1, 2, 1, 1⟩ reusedSession) ∧
    ∀ js e ks, reusedSession = js ++ e :: ks →
      Explained ⟨1, 1, 1, 1, 2, 1, 1⟩ (flatStore ⟨1, 1, 1, 1, 2, 1, 1⟩ js) e := by
  obtain ⟨m₀, m, hc, hr⟩ : ∃ m₀ m, create .generous ⟨1, 1, 1, 1, 2, 1, 1⟩ = .ok m₀ ∧
      Run Step m₀ reusedSession m :=
    ⟨_, _, rfl, Run.cons (step_perform _ _) <| Run.cons (step_perform _ _) <| Run.cons (step_perform _ _) <|
      Run.cons (step_perform _ _) <| Run.cons (step_perform _ _) <| Run.cons (step_perform _ _) Run.nil⟩
  exact ⟨m₀, m, hc, hr, paged_refines_flat hc hr⟩

end Att1.KvMmu
