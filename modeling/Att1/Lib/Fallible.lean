import Mathlib.Data.List.Basic

/-!
# Att1.Lib.Fallible — state and failure: a small program logic

`Fallible σ ε α`: a computation on a state of type `σ` that returns a value or stops with an error; the state
reached is kept in both cases.  `Ends m s Q E` says that `m` run from `s` returns a value with `Q` or stops with `E`.
One rule for each construct: return, error, sequencing, reading and changing the state, checks, and loops over a
list with an invariant on what is left of it.
-/

namespace Att1.Lib

/-- A computation on a state that may stop with an error. -/
abbrev Fallible (σ ε α : Type) : Type := ExceptT ε (StateM σ) α

namespace Fallible

variable {σ ε α β : Type}

/-- The result and the state left. -/
def exec (m : Fallible σ ε α) (s : σ) : Except ε α × σ := (ExceptT.run m).run s

/-- Stop with `e` if `c` holds. -/
def failIf (c : Prop) [Decidable c] (e : ε) : Fallible σ ε Unit := if c then throw e else pure ()

/-- `m` run from `s` returns a value with `Q`, or stops with an error with `E`. -/
def Ends (m : Fallible σ ε α) (s : σ) (Q : α → σ → Prop) (E : ε → σ → Prop) : Prop :=
  match m.exec s with
  | (.ok a, t) => Q a t
  | (.error e, t) => E e t

variable {m : Fallible σ ε α} {k : α → Fallible σ ε β} {s : σ} {Q Q' : α → σ → Prop} {R : β → σ → Prop}
  {E E' : ε → σ → Prop}

theorem exec_pure (a : α) (s : σ) : exec (pure a : Fallible σ ε α) s = (.ok a, s) := rfl

theorem exec_bind (m : Fallible σ ε α) (k : α → Fallible σ ε β) (s : σ) :
    exec (m >>= k) s =
      match m.exec s with
      | (.ok a, t) => (k a).exec t
      | (.error e, t) => (.error e, t) := by
  show (ExceptT.run (m >>= k)).run s = _
  rw [ExceptT.run_bind, StateT.run_bind]
  show (match (m.exec s).1 with
    | .ok a => ExceptT.run (k a)
    | .error e => pure (.error e)).run (m.exec s).2 = _
  rcases m.exec s with ⟨_ | a, t⟩
  · rfl
  · rfl

theorem Ends.mono (h : Ends m s Q E) (hQ : ∀ a t, Q a t → Q' a t) (hE : ∀ e t, E e t → E' e t) :
    Ends m s Q' E' := by
  unfold Ends at h ⊢
  rcases hm : m.exec s with ⟨_ | a, t⟩
  · rw [hm] at h
    exact hE _ _ h
  · rw [hm] at h
    exact hQ _ _ h

/-- What holds of every value holds of the one returned. -/
theorem Ends.of_exec {a : α} {t : σ} (h : Ends m s Q E) (hexec : m.exec s = (.ok a, t)) : Q a t := by
  unfold Ends at h
  rwa [hexec] at h

theorem ends_pure {a : α} (h : Q a s) : Ends (pure a : Fallible σ ε α) s Q E := h

theorem ends_throw {e : ε} (h : E e s) : Ends (throw e : Fallible σ ε α) s Q E := h

theorem ends_bind (h : Ends m s (fun a t => Ends (k a) t R E) E) : Ends (m >>= k) s R E := by
  unfold Ends at h ⊢
  rw [exec_bind]
  rcases hm : m.exec s with ⟨_ | a, t⟩
  · rw [hm] at h
    exact h
  · rw [hm] at h
    exact h

theorem ends_get {Q : σ → σ → Prop} (h : Q s s) : Ends (get : Fallible σ ε σ) s Q E := h

theorem ends_set {Q : PUnit → σ → Prop} {t : σ} (h : Q () t) : Ends (set t : Fallible σ ε PUnit) s Q E := h

theorem ends_modify {Q : PUnit → σ → Prop} {f : σ → σ} (h : Q () (f s)) :
    Ends (modify f : Fallible σ ε PUnit) s Q E := h

theorem ends_ofExcept {x : Except ε α} (hok : ∀ a, x = .ok a → Q a s) (herr : ∀ e, x = .error e → E e s) :
    Ends (ofExcept x : Fallible σ ε α) s Q E := by
  cases x with
  | ok a => exact hok a rfl
  | error e => exact herr e rfl

theorem ends_ite {c : Prop} [Decidable c] {m' : Fallible σ ε α} (ht : c → Ends m s Q E)
    (hf : ¬ c → Ends m' s Q E) : Ends (if c then m else m') s Q E := by
  by_cases h : c
  · rw [if_pos h]
    exact ht h
  · rw [if_neg h]
    exact hf h

theorem ends_failIf {c : Prop} [Decidable c] {e : ε} {Q : Unit → σ → Prop} (hE : c → E e s) (hQ : ¬ c → Q () s) :
    Ends (failIf c e : Fallible σ ε Unit) s Q E :=
  ends_ite (fun h => ends_throw (hE h)) fun h => ends_pure (hQ h)

/-- A loop over a list: the invariant speaks about the elements still to come. -/
theorem ends_forM {ι : Type} {f : ι → Fallible σ ε PUnit} (I : List ι → σ → Prop)
    (hstep : ∀ i rest s, I (i :: rest) s → Ends (f i) s (fun _ t => I rest t) E) {is : List ι} (h : I is s) :
    Ends (is.forM f) s (fun _ t => I [] t) E := by
  induction is generalizing s with
  | nil => exact h
  | cons i rest ih =>
    show Ends (f i >>= fun _ => rest.forM f) s _ E
    exact ends_bind ((hstep i rest s h).mono (fun _ _ ht => ih ht) fun _ _ he => he)

end Fallible

end Att1.Lib
