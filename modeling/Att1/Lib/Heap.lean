import Mathlib.Data.List.Basic
import Mathlib.Data.List.Pairwise

/-!
# Att1.Lib.Heap — the live blocks of a heap, and who owns them

A heap is the list of its live blocks.  Each block remembers the job it was allocated for.

* `free`: the block at an address is no longer live.
* `Distinct`: no two live blocks start at the same address; allocation at an unused address and `free` keep it.
* `Owned heap p n o`: at `p` starts a live block of the job `o` with at least `n` bytes.  Freeing an address of
  another job keeps it.
-/

namespace Att1.Lib

variable {α : Type*}

/-- A live block. -/
structure Block (α : Type*) where
  addr : α
  size : ℕ
  owner : ℕ
  deriving DecidableEq, Repr

variable {heap : List (Block α)} {b c : Block α} {p p' : α} {n n' o o' : ℕ}

def free [DecidableEq α] (heap : List (Block α)) (p : α) : List (Block α) :=
  heap.filter fun b => decide (b.addr ≠ p)

/-- No live block starts at the address. -/
def Unused (heap : List (Block α)) (p : α) : Prop := ∀ b ∈ heap, b.addr ≠ p

def Distinct (heap : List (Block α)) : Prop := heap.Pairwise fun b c => b.addr ≠ c.addr

def Owned (heap : List (Block α)) (p : α) (n o : ℕ) : Prop :=
  ∃ b ∈ heap, b.addr = p ∧ n ≤ b.size ∧ b.owner = o

theorem Distinct.eq (hd : Distinct heap) (hb : b ∈ heap) (hc : c ∈ heap) (h : b.addr = c.addr) : b = c := by
  by_contra hne
  have : Std.Symm fun b c : Block α => b.addr ≠ c.addr := ⟨fun _ _ h => h.symm⟩
  exact hd.forall hb hc hne h

theorem Distinct.cons (hd : Distinct heap) (h : Unused heap b.addr) : Distinct (b :: heap) := by
  refine List.pairwise_cons.mpr ⟨?_, hd⟩
  intro c hc
  exact (h c hc).symm

theorem Owned.cons (h : Owned heap p n o) (b : Block α) : Owned (b :: heap) p n o := by
  obtain ⟨c, hc, hp⟩ := h
  exact ⟨c, List.mem_cons_of_mem b hc, hp⟩

theorem owned_new (heap : List (Block α)) (p : α) (o : ℕ) (h : n ≤ n') : Owned (⟨p, n', o⟩ :: heap) p n o :=
  ⟨_, List.mem_cons_self, rfl, h, rfl⟩

theorem Owned.mono (h : Owned heap p n o) (hle : n' ≤ n) : Owned heap p n' o := by
  obtain ⟨b, hb, hp, hn, ho⟩ := h
  exact ⟨b, hb, hp, Nat.le_trans hle hn, ho⟩

/-- Blocks of different jobs start at different addresses. -/
theorem Owned.addr_ne (hd : Distinct heap) (h : Owned heap p n o) (h' : Owned heap p' n' o') (hne : o ≠ o') :
    p ≠ p' := by
  obtain ⟨b, hb, rfl, -, rfl⟩ := h
  obtain ⟨c, hc, rfl, -, rfl⟩ := h'
  intro heq
  exact hne (congrArg Block.owner (hd.eq hb hc heq))

section Free

variable [DecidableEq α]

theorem mem_free : b ∈ free heap p ↔ b ∈ heap ∧ b.addr ≠ p := by
  unfold free
  rw [List.mem_filter, decide_eq_true_iff]

theorem free_of_unused (h : Unused heap p) : free heap p = heap := by
  unfold free
  rw [List.filter_eq_self]
  intro b hb
  exact decide_eq_true (h b hb)

/-- What was just allocated is freed again. -/
theorem free_new (h : Unused heap p) : free (⟨p, n, o⟩ :: heap) p = heap := by
  have hself : decide ((⟨p, n, o⟩ : Block α).addr ≠ p) = false := decide_eq_false (not_not.mpr rfl)
  have hcons : free (⟨p, n, o⟩ :: heap) p = free heap p := List.filter_cons_of_neg (by rw [hself]; exact Bool.noConfusion)
  rw [hcons, free_of_unused h]

theorem Distinct.free (hd : Distinct heap) (p : α) : Distinct (free heap p) := List.Pairwise.filter _ hd

theorem Owned.free (h : Owned heap p n o) (hne : p ≠ p') : Owned (free heap p') p n o := by
  obtain ⟨b, hb, rfl, hn, ho⟩ := h
  exact ⟨b, mem_free.mpr ⟨hb, hne⟩, rfl, hn, ho⟩

end Free

end Att1.Lib
