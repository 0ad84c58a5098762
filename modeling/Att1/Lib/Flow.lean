import Mathlib.Algebra.BigOperators.Group.List.Basic
import Mathlib.Algebra.BigOperators.Group.Finset.Basic
import Mathlib.Algebra.BigOperators.Ring.Finset
import Mathlib.Algebra.BigOperators.Ring.List
import Mathlib.Tactic.Ring

/-!
# Att1.Lib.Flow — what transfers carry out of a node and into it

A transfer has a source and a list of destinations and carries the weight `w` to each of them, as often as it names it.

* `sentFrom`, `receivedAt`: the weights out of a node and into it, over a list of transfers.
* They do not depend on the order of the transfers (`sentFrom_perm`, `receivedAt_perm`), are linear in the weight
  (`sentFrom_linear`, `receivedAt_linear`), and what all nodes receive is what the transfers deliver (`sum_receivedAt`).
-/

namespace Att1.Lib

variable {τ ν R : Type*} [DecidableEq ν] [CommSemiring R] (source : τ → ν) (dests : τ → List ν)

/-- What leaves a node. -/
def sentFrom (w : τ → R) (ts : List τ) (v : ν) : R := (ts.map fun t => if source t = v then w t else 0).sum

/-- What reaches a node. -/
def receivedAt (w : τ → R) (ts : List τ) (v : ν) : R := (ts.map fun t => ((dests t).count v : R) * w t).sum

variable {source dests} {w w' : τ → R} {ts ts' : List τ} {v : ν}

@[simp] theorem sentFrom_nil (w : τ → R) (v : ν) : sentFrom source w [] v = 0 := rfl

@[simp] theorem receivedAt_nil (w : τ → R) (v : ν) : receivedAt dests w [] v = 0 := rfl

@[simp] theorem sentFrom_cons (w : τ → R) (t : τ) (ts : List τ) (v : ν) :
    sentFrom source w (t :: ts) v = (if source t = v then w t else 0) + sentFrom source w ts v := by
  simp [sentFrom]

@[simp] theorem receivedAt_cons (w : τ → R) (t : τ) (ts : List τ) (v : ν) :
    receivedAt dests w (t :: ts) v = (dests t).count v * w t + receivedAt dests w ts v := by
  simp [receivedAt]

@[simp] theorem sentFrom_zero (ts : List τ) (v : ν) : sentFrom source (fun _ => (0 : R)) ts v = 0 := by
  simp [sentFrom]

@[simp] theorem receivedAt_zero (ts : List τ) (v : ν) : receivedAt dests (fun _ => (0 : R)) ts v = 0 := by
  simp [receivedAt]

theorem sentFrom_concat (w : τ → R) (ts : List τ) (t : τ) (v : ν) :
    sentFrom source w (ts ++ [t]) v = sentFrom source w ts v + if source t = v then w t else 0 := by
  simp [sentFrom]

theorem receivedAt_concat (w : τ → R) (ts : List τ) (t : τ) (v : ν) :
    receivedAt dests w (ts ++ [t]) v = receivedAt dests w ts v + (dests t).count v * w t := by
  simp [receivedAt]

/-- The order of the transfers does not matter. -/
theorem sentFrom_perm (h : ts.Perm ts') : sentFrom source w ts v = sentFrom source w ts' v := (h.map _).sum_eq

theorem receivedAt_perm (h : ts.Perm ts') : receivedAt dests w ts v = receivedAt dests w ts' v := (h.map _).sum_eq

/-- Transfers of a combined weight. -/
theorem sentFrom_linear (c : R) :
    sentFrom source (fun t => w t + c * w' t) ts v = sentFrom source w ts v + c * sentFrom source w' ts v := by
  induction ts using List.reverseRecOn with
  | nil => simp
  | append_singleton ts t ih =>
    rw [sentFrom_concat, sentFrom_concat, sentFrom_concat, ih]
    split_ifs <;> ring

theorem receivedAt_linear (c : R) :
    receivedAt dests (fun t => w t + c * w' t) ts v = receivedAt dests w ts v + c * receivedAt dests w' ts v := by
  induction ts using List.reverseRecOn with
  | nil => simp
  | append_singleton ts t ih =>
    rw [receivedAt_concat, receivedAt_concat, receivedAt_concat, ih]
    ring

/-- Every delivery is received somewhere. -/
theorem sum_receivedAt (nodes : Finset ν) (h : ∀ t ∈ ts, ∀ d ∈ dests t, d ∈ nodes) :
    ∑ v ∈ nodes, receivedAt dests w ts v = (ts.map fun t => ((dests t).length : R) * w t).sum := by
  induction ts using List.reverseRecOn with
  | nil => simp
  | append_singleton ts t ih =>
    have hcard : ∑ v ∈ nodes, (dests t : Multiset ν).count v = (dests t : Multiset ν).card :=
      Multiset.sum_count_eq_card fun d hd => h t (by simp) d hd
    have hcount : ∑ v ∈ nodes, (dests t).count v = (dests t).length := by simpa using hcard
    simp only [receivedAt_concat, Finset.sum_add_distrib]
    rw [ih fun t' ht' => h t' (by simp [ht']), ← Finset.sum_mul, ← Nat.cast_sum, hcount]
    simp

end Att1.Lib
