import Att1.Lib.Fallible

/-!
# Att1.Lib.Paired — two computations with state that end alike

`Alike m s n t Q E`: `m` run from `s` and `n` run from `t` both return a value, with `Q`, or both stop with the same
error, with `E`.  The two states may be of different types, and either side may take steps that the other does not
have.

* Rules for steps that both take: sequencing, the same check, the same partial result, loops over one list.
* `alike_left`, `alike_right`: a step of one side alone that returns.
* `forM_flatMap`: a loop of loops is one loop.
-/

namespace Att1.Lib

namespace Fallible

variable {σ τ ε α β γ δ : Type}

/-- Both return a value, with `Q`, or both stop with the same error, with `E`. -/
def Alike (m : Fallible σ ε α) (s : σ) (n : Fallible τ ε β) (t : τ) (Q : α → β → σ → τ → Prop)
    (E : σ → τ → Prop) : Prop :=
  match m.exec s, n.exec t with
  | (.ok a, s'), (.ok b, t') => Q a b s' t'
  | (.error e, s'), (.error e', t') => e = e' ∧ E s' t'
  | _, _ => False

variable {m : Fallible σ ε α} {n : Fallible τ ε β} {k : α → Fallible σ ε γ} {l : β → Fallible τ ε δ} {s : σ} {t : τ}
  {Q Q' : α → β → σ → τ → Prop} {R : γ → δ → σ → τ → Prop} {E E' : σ → τ → Prop}

theorem Alike.mono (h : Alike m s n t Q E) (hQ : ∀ a b s t, Q a b s t → Q' a b s t) (hE : ∀ s t, E s t → E' s t) :
    Alike m s n t Q' E' := by
  unfold Alike at h ⊢
  rcases hm : m.exec s with ⟨e | a, s'⟩ <;> rcases hn : n.exec t with ⟨e' | b, t'⟩ <;> rw [hm, hn] at h
  · exact ⟨h.1, hE _ _ h.2⟩
  · exact h
  · exact h
  · exact hQ _ _ _ _ h

/-- What the two sides returned or stopped with, and what then holds of the states. -/
theorem Alike.ends (h : Alike m s n t Q E) :
    (∃ a b s' t', m.exec s = (.ok a, s') ∧ n.exec t = (.ok b, t') ∧ Q a b s' t') ∨
      ∃ e s' t', m.exec s = (.error e, s') ∧ n.exec t = (.error e, t') ∧ E s' t' := by
  unfold Alike at h
  rcases hm : m.exec s with ⟨e | a, s'⟩ <;> rcases hn : n.exec t with ⟨e' | b, t'⟩ <;> rw [hm, hn] at h
  · obtain ⟨rfl, hE⟩ := h
    exact .inr ⟨e, s', t', rfl, rfl, hE⟩
  · exact h.elim
  · exact h.elim
  · exact .inl ⟨a, b, s', t', rfl, rfl, h⟩

theorem exec_failIf {c : Prop} [Decidable c] {e : ε} (h : ¬ c) :
    (failIf c e : Fallible σ ε Unit).exec s = (.ok (), s) := by
  simp only [failIf, if_neg h]
  rfl

theorem alike_pure {a : α} {b : β} (h : Q a b s t) :
    Alike (pure a : Fallible σ ε α) s (pure b : Fallible τ ε β) t Q E := h

theorem alike_throw {e : ε} (h : E s t) :
    Alike (throw e : Fallible σ ε α) s (throw e : Fallible τ ε β) t Q E := ⟨rfl, h⟩

theorem alike_bind (h : Alike m s n t (fun a b s' t' => Alike (k a) s' (l b) t' R E) E) :
    Alike (m >>= k) s (n >>= l) t R E := by
  unfold Alike at h ⊢
  rw [exec_bind, exec_bind]
  rcases hm : m.exec s with ⟨e | a, s'⟩ <;> rcases hn : n.exec t with ⟨e' | b, t'⟩ <;> rw [hm, hn] at h
  · exact h
  · exact h.elim
  · exact h.elim
  · exact h

/-- The rest of a computation whose first step is known. -/
theorem exec_bind_of_ok {a : α} {s' : σ} (hm : m.exec s = (.ok a, s')) : (m >>= k).exec s = (k a).exec s' := by
  rw [exec_bind, hm]

/-- A step of the left side alone. -/
theorem alike_left {a : α} {s' : σ} {n : Fallible τ ε δ} (hm : m.exec s = (.ok a, s')) (h : Alike (k a) s' n t R E) :
    Alike (m >>= k) s n t R E := by
  unfold Alike at h ⊢
  rw [exec_bind, hm]
  exact h

/-- A step of the right side alone. -/
theorem alike_right {b : β} {t' : τ} {m : Fallible σ ε γ} (hn : n.exec t = (.ok b, t')) (h : Alike m s (l b) t' R E) :
    Alike m s (n >>= l) t R E := by
  unfold Alike at h ⊢
  rw [exec_bind, hn]
  exact h


/-- Both look at their own state. -/
theorem alike_get {k : σ → Fallible σ ε γ} {l : τ → Fallible τ ε δ} (h : Alike (k s) s (l t) t R E) :
    Alike (get >>= k) s (get >>= l) t R E := h

theorem alike_set {k : PUnit → Fallible σ ε γ} {l : PUnit → Fallible τ ε δ} {s' : σ} {t' : τ}
    (h : Alike (k ()) s' (l ()) t' R E) : Alike (set s' >>= k) s (set t' >>= l) t R E := h

theorem alike_modify {k : PUnit → Fallible σ ε γ} {l : PUnit → Fallible τ ε δ} {f : σ → σ} {g : τ → τ}
    (h : Alike (k ()) (f s) (l ()) (g t) R E) : Alike (modify f >>= k) s (modify g >>= l) t R E := h

/-- The same partial result on both sides. -/
theorem alike_ofExcept {x : Except ε α} {k : α → Fallible σ ε γ} {l : α → Fallible τ ε δ}
    (hok : ∀ a, x = .ok a → Alike (k a) s (l a) t R E) (herr : ∀ e, x = .error e → E s t) :
    Alike (ofExcept x >>= k) s (ofExcept x >>= l) t R E := by
  cases x with
  | ok a => exact hok a rfl
  | error e => exact ⟨rfl, herr e rfl⟩

/-- The same check on both sides. -/
theorem alike_failIf {c : Prop} [Decidable c] {e : ε} {k : Unit → Fallible σ ε γ} {l : Unit → Fallible τ ε δ}
    (hE : c → E s t) (hk : ¬ c → Alike (k ()) s (l ()) t R E) :
    Alike (failIf c e >>= k) s (failIf c e >>= l) t R E := by
  by_cases hc : c
  · simp only [failIf, if_pos hc]
    exact ⟨rfl, hE hc⟩
  · simp only [failIf, if_neg hc]
    exact hk hc

/-- A loop of both sides over one list: the invariant speaks about the elements still to come. -/
theorem alike_forM {ι : Type} {f : ι → Fallible σ ε PUnit} {g : ι → Fallible τ ε PUnit} (I : List ι → σ → τ → Prop)
    (hstep : ∀ i rest s t, I (i :: rest) s t → Alike (f i) s (g i) t (fun _ _ s' t' => I rest s' t') E) {is : List ι}
    (h : I is s t) : Alike (is.forM f) s (is.forM g) t (fun _ _ s' t' => I [] s' t') E := by
  induction is generalizing s t with
  | nil => exact h
  | cons i rest ih =>
    show Alike (f i >>= fun _ => rest.forM f) s (g i >>= fun _ => rest.forM g) t _ E
    exact alike_bind ((hstep i rest s t h).mono (fun _ _ _ _ ht => ih ht) fun _ _ he => he)

theorem alike_foldlM {ι : Type} {f : α → ι → Fallible σ ε α} {g : β → ι → Fallible τ ε β} (I : α → β → σ → τ → Prop)
    (hstep : ∀ a b i s t, I a b s t → Alike (f a i) s (g b i) t I E) {is : List ι} {a : α} {b : β} (h : I a b s t) :
    Alike (is.foldlM f a) s (is.foldlM g b) t I E := by
  induction is generalizing s t a b with
  | nil => exact h
  | cons i rest ih =>
    rw [List.foldlM_cons, List.foldlM_cons]
    exact alike_bind ((hstep a b i s t h).mono (fun _ _ _ _ ht => ih ht) fun _ _ he => he)

/-- A loop over two lists, one after the other. -/
theorem forM_append_bind {ι : Type} {f : ι → Fallible σ ε PUnit} {k : PUnit → Fallible σ ε γ} (is js : List ι) :
    ((is ++ js).forM f >>= k) = is.forM f >>= fun _ => js.forM f >>= k := by
  rw [List.forM_eq_forM, List.forM_append, bind_assoc]

theorem forM_singleton_bind {ι : Type} {f : ι → Fallible σ ε PUnit} {k : PUnit → Fallible σ ε γ} (i : ι) :
    ([i].forM f >>= k) = f i >>= k := by
  rw [List.forM_eq_forM, List.forM_cons, bind_assoc]
  rfl

/-- A loop whose turns are loops. -/
theorem forM_flatMap {ι κ : Type} {f : κ → Fallible σ ε PUnit} (g : ι → List κ) (is : List ι) :
    (is.flatMap g).forM f = is.forM fun i => (g i).forM f := by
  induction is with
  | nil => rfl
  | cons i rest ih =>
    rw [List.flatMap_cons, List.forM_eq_forM, List.forM_append]
    show _ = (g i).forM f >>= fun _ => rest.forM fun i => (g i).forM f
    rw [← ih]
    rfl

end Fallible

end Att1.Lib
