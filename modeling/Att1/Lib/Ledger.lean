import Mathlib.Data.List.Basic
import Mathlib.Data.List.Pairwise

/-!
# Att1.Lib.Ledger — numbered jobs of a server with two queues

Jobs get consecutive numbers as they enter a queue.  A server answers them in order, and where it has no room for an
answer drops it.  Answers are collected in order.

* `Ledger.enter`, `Ledger.serve`, `Ledger.collect`: the three steps.
* `Numbered`: the numbers grow from the answers that have been collected on to the job that waits last, which the
  three steps keep; so a number names one job.
-/

namespace Att1.Lib

variable {α β : Type*}

/-- The jobs that wait, the answers that are to be collected and those that have been, each with its number. -/
structure Ledger (α β : Type*) where
  next : ℕ := 0
  waiting : List (ℕ × α) := []
  answered : List ((ℕ × α) × β) := []
  collected : List ((ℕ × α) × β) := []

namespace Ledger

variable {l : Ledger α β} {j j' : ℕ × α}

def enter (l : Ledger α β) (job : α) : Ledger α β :=
  { l with next := l.next + 1, waiting := l.waiting ++ [(l.next, job)] }

/-- The first `taken` jobs are served; if there are fewer answers, the last ones of them get none. -/
def serve (l : Ledger α β) (taken : ℕ) (answers : List β) : Ledger α β :=
  { l with waiting := l.waiting.drop taken, answered := l.answered ++ (l.waiting.take taken).zip answers }

def collect (l : Ledger α β) : Ledger α β :=
  { l with answered := l.answered.tail, collected := l.collected ++ l.answered.head?.toList }

/-- The jobs between entry and collection. -/
def outstanding (l : Ledger α β) : List (ℕ × α) := l.answered.map Prod.fst ++ l.waiting

/-- The jobs that have not been dropped. -/
def history (l : Ledger α β) : List (ℕ × α) := l.collected.map Prod.fst ++ l.outstanding

/-- The numbers grow along the history and are all used up. -/
structure Numbered (l : Ledger α β) : Prop where
  sorted : l.history.Pairwise fun j j' => j.1 < j'.1
  history_lt : ∀ j ∈ l.history, j.1 < l.next

theorem numbered_empty : (Ledger.mk 0 [] [] [] : Ledger α β).Numbered := by
  refine ⟨List.Pairwise.nil, ?_⟩
  intro j hj
  cases hj

theorem mem_outstanding_of_waiting (h : j ∈ l.waiting) : j ∈ l.outstanding := List.mem_append_right _ h

theorem mem_outstanding_of_answered {x : (ℕ × α) × β} (h : x ∈ l.answered) : x.1 ∈ l.outstanding :=
  List.mem_append_left _ (List.mem_map_of_mem h)

theorem outstanding_enter (l : Ledger α β) (job : α) :
    (l.enter job).outstanding = l.outstanding ++ [(l.next, job)] := (List.append_assoc _ _ _).symm

theorem map_fst_zip_sublist (xs : List α) (ys : List β) : ((xs.zip ys).map Prod.fst).Sublist xs := by
  induction xs generalizing ys with
  | nil => exact List.Sublist.refl []
  | cons x xs ih =>
    cases ys with
    | nil => exact List.nil_sublist _
    | cons y ys => exact (ih ys).cons_cons x

theorem outstanding_serve (l : Ledger α β) (taken : ℕ) (answers : List β) :
    (l.serve taken answers).outstanding.Sublist l.outstanding := by
  have hsplit := (map_fst_zip_sublist (l.waiting.take taken) answers).append (List.Sublist.refl (l.waiting.drop taken))
  rw [List.take_append_drop] at hsplit
  unfold outstanding serve
  rw [List.map_append, List.append_assoc]
  exact (List.Sublist.refl _).append hsplit

theorem outstanding_collect (l : Ledger α β) : l.collect.outstanding.Sublist l.outstanding := by
  unfold outstanding collect
  exact ((List.tail_sublist _).map _).append (List.Sublist.refl _)

theorem history_enter (l : Ledger α β) (job : α) : (l.enter job).history = l.history ++ [(l.next, job)] := by
  unfold history
  rw [outstanding_enter]
  exact (List.append_assoc _ _ _).symm

theorem history_serve (l : Ledger α β) (taken : ℕ) (answers : List β) :
    (l.serve taken answers).history.Sublist l.history :=
  (List.Sublist.refl _).append (outstanding_serve l taken answers)

/-- A collected answer moves from one part of the history to the other. -/
theorem history_collect (l : Ledger α β) : l.collect.history = l.history := by
  unfold history outstanding collect
  cases l.answered with
  | nil => simp
  | cons x rest => simp

theorem Numbered.enter (h : l.Numbered) (job : α) : (l.enter job).Numbered := by
  constructor
  · rw [history_enter, List.pairwise_append]
    refine ⟨h.sorted, List.pairwise_singleton _ _, ?_⟩
    intro j hj j' hj'
    obtain rfl := List.mem_singleton.mp hj'
    exact h.history_lt j hj
  · intro j hj
    rw [history_enter] at hj
    show j.1 < l.next + 1
    obtain hj | hj := List.mem_append.mp hj
    · have hlt := h.history_lt j hj
      omega
    · obtain rfl := List.mem_singleton.mp hj
      omega

theorem Numbered.serve (h : l.Numbered) (taken : ℕ) (answers : List β) : (l.serve taken answers).Numbered := by
  have hsub := history_serve l taken answers
  refine ⟨h.sorted.sublist hsub, ?_⟩
  intro j hj
  exact h.history_lt j (hsub.subset hj)

theorem Numbered.collect (h : l.Numbered) : l.collect.Numbered := by
  have heq := history_collect l
  refine ⟨heq ▸ h.sorted, ?_⟩
  intro j hj
  exact h.history_lt j (heq ▸ hj)

theorem Numbered.outstanding_sorted (h : l.Numbered) : l.outstanding.Pairwise fun j j' => j.1 < j'.1 :=
  h.sorted.sublist (List.sublist_append_right _ _)

theorem Numbered.lt_next (h : l.Numbered) : ∀ j ∈ l.outstanding, j.1 < l.next := by
  intro j hj
  exact h.history_lt j (List.mem_append_right _ hj)

/-- A number names one job. -/
theorem Numbered.unique (h : l.Numbered) (hj : j ∈ l.outstanding) (hj' : j' ∈ l.outstanding) (heq : j.1 = j'.1) :
    j = j' := by
  by_contra hne
  have hapart : l.outstanding.Pairwise fun j j' => j.1 ≠ j'.1 := h.outstanding_sorted.imp Nat.ne_of_lt
  have : Std.Symm fun j j' : ℕ × α => j.1 ≠ j'.1 := ⟨fun _ _ h => h.symm⟩
  exact hapart.forall hj hj' hne heq

/-- The job whose answer is collected next is not behind itself. -/
theorem Numbered.head_lt {x : (ℕ × α) × β} {rest : List ((ℕ × α) × β)} (h : l.Numbered)
    (hx : l.answered = x :: rest) (hj : j ∈ l.collect.outstanding) : x.1.1 < j.1 := by
  have hsorted := h.outstanding_sorted
  unfold outstanding at hsorted
  rw [hx] at hsorted
  unfold outstanding Ledger.collect at hj
  rw [hx] at hj
  exact (List.pairwise_cons.mp hsorted).1 j hj

/-- A job that waits has not been answered. -/
theorem Numbered.answered_lt {x : (ℕ × α) × β} (h : l.Numbered) (hx : x ∈ l.answered) (hj : j ∈ l.waiting) :
    x.1.1 < j.1 :=
  (List.pairwise_append.mp h.outstanding_sorted).2.2 x.1 (List.mem_map_of_mem hx) j hj

/-- An answer that has been collected belongs to a job before those that are outstanding. -/
theorem Numbered.collected_lt {x : (ℕ × α) × β} (h : l.Numbered) (hx : x ∈ l.collected) (hj : j ∈ l.outstanding) :
    x.1.1 < j.1 :=
  (List.pairwise_append.mp h.sorted).2.2 x.1 (List.mem_map_of_mem hx) j hj

end Ledger

end Att1.Lib
