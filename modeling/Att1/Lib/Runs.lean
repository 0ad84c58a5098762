import Mathlib.Data.List.Basic
import Mathlib.Data.List.Infix

/-!
# Att1.Lib.Runs — runs of a labelled step relation

A step relation `Step : σ → ι → σ → Prop` says which states one labelled step can lead to.  A label
carries the call and what it returned, so a list of labels is the history an observer sees.

* `Run Step s is t`: the labels `is`, in order, lead from `s` to `t`.
* `Run.invariant`: what holds at the start and is kept by every step of a run holds at its end.  The
  invariant may speak about the history.
* `Always`: every step of a run satisfies a relation between the state before, the label and the state after.
* `Run.law_iff_guard`: a law of histories that a guarded step keeps and an unguarded step breaks holds at
  every prefix of a run if and only if every step of the run was guarded.
-/

namespace Att1.Lib

variable {σ ι : Type*} {Step : σ → ι → σ → Prop} {s t u : σ} {is js : List ι} {i : ι}

/-- The labels `is`, in order, lead from `s` to the last argument. -/
inductive Run (Step : σ → ι → σ → Prop) (s : σ) : List ι → σ → Prop
  | nil : Run Step s [] s
  | snoc {is : List ι} {t : σ} {i : ι} {u : σ} :
      Run Step s is t → Step t i u → Run Step s (is ++ [i]) u

/-- A label leads to at most one state. -/
def Deterministic (Step : σ → ι → σ → Prop) : Prop :=
  ∀ s i t u, Step s i t → Step s i u → t = u

theorem Run.nil_inv (h : Run Step s [] t) : t = s := by
  generalize hl : ([] : List ι) = l at h
  cases h with
  | nil => rfl
  | snoc _ _ => simp at hl

theorem Run.snoc_inv (h : Run Step s (is ++ [i]) u) : ∃ t, Run Step s is t ∧ Step t i u := by
  generalize hl : is ++ [i] = l at h
  cases h with
  | nil => simp at hl
  | @snoc is' t i' _ hr hs =>
    obtain ⟨rfl, h2⟩ := List.append_inj' hl rfl
    obtain rfl : i = i' := by simpa using h2
    exact ⟨t, hr, hs⟩

theorem Run.cons (hs : Step s i t) (h : Run Step t is u) : Run Step s (i :: is) u := by
  induction h with
  | nil => exact Run.snoc Run.nil hs
  | snoc _ hl ih => exact Run.snoc ih hl

theorem Run.append (h : Run Step s is t) (h' : Run Step t js u) : Run Step s (is ++ js) u := by
  induction h' with
  | nil => rwa [List.append_nil]
  | snoc _ hs ih =>
    rw [← List.append_assoc]
    exact ih.snoc hs

/-- A run goes through a state behind every prefix of its labels. -/
theorem Run.append_inv (h : Run Step s (is ++ js) u) : ∃ t, Run Step s is t ∧ Run Step t js u := by
  induction js using List.reverseRecOn generalizing u with
  | nil => exact ⟨u, by rwa [List.append_nil] at h, Run.nil⟩
  | append_singleton js j ih =>
    rw [← List.append_assoc] at h
    obtain ⟨v, hv, hs⟩ := h.snoc_inv
    obtain ⟨t, ht, htv⟩ := ih hv
    exact ⟨t, ht, htv.snoc hs⟩

theorem Run.det (hd : Deterministic Step) (h : Run Step s is t) (h' : Run Step s is u) : t = u := by
  induction h generalizing u with
  | nil => exact h'.nil_inv.symm
  | snoc _ hs ih =>
    obtain ⟨t', hr', hs'⟩ := h'.snoc_inv
    obtain rfl := ih hr'
    exact hd _ _ _ _ hs hs'

/-- What holds at the start and is kept by every step of a run holds at its end. -/
theorem Run.invariant {Inv : List ι → σ → Prop} (h0 : Inv [] s)
    (hstep : ∀ is t i u, Run Step s is t → Inv is t → Step t i u → Inv (is ++ [i]) u)
    (h : Run Step s is t) : Inv is t := by
  induction h with
  | nil => exact h0
  | snoc hr hs ih => exact hstep _ _ _ _ hr ih hs

/-- Every step of the run, taken where the run takes it, satisfies `Guard`. -/
def Guarded (Step : σ → ι → σ → Prop) (s : σ) (Guard : σ → ι → Prop) (is : List ι) : Prop :=
  ∀ js j t, js ++ [j] <+: is → Run Step s js t → Guard t j

/-- Every state a prefix of the run reaches satisfies `Law`. -/
def Lawful (Step : σ → ι → σ → Prop) (s : σ) (Law : List ι → σ → Prop) (is : List ι) : Prop :=
  ∀ js t, js <+: is → Run Step s js t → Law js t

theorem Guarded.of_prefix {Guard : σ → ι → Prop} (h : Guarded Step s Guard is) (hp : js <+: is) :
    Guarded Step s Guard js :=
  fun ks k t hk hr => h ks k t (hk.trans hp) hr

theorem Lawful.of_prefix {Law : List ι → σ → Prop} (h : Lawful Step s Law is) (hp : js <+: is) :
    Lawful Step s Law js :=
  fun ks t hk hr => h ks t (hk.trans hp) hr

theorem guarded_nil (Guard : σ → ι → Prop) : Guarded Step s Guard [] := by
  intro js j t hp
  simp at hp

theorem Guarded.snoc {Guard : σ → ι → Prop} (h : Guarded Step s Guard is)
    (hi : ∀ t, Run Step s is t → Guard t i) : Guarded Step s Guard (is ++ [i]) := by
  intro js j t hp hr
  rcases List.prefix_concat_iff.mp hp with heq | hlt
  · obtain ⟨rfl, h2⟩ := List.append_inj' heq rfl
    obtain rfl : j = i := by simpa using h2
    exact hi t hr
  · exact h js j t hlt hr

/-- In a deterministic system the guard of the last step has to be checked in one state only. -/
theorem Guarded.snoc_of_run {Guard : σ → ι → Prop} (hd : Deterministic Step) (h : Guarded Step s Guard is)
    (hr : Run Step s is t) (hi : Guard t i) : Guarded Step s Guard (is ++ [i]) := by
  apply h.snoc
  intro t' hr'
  exact hr.det hd hr' ▸ hi

/-- A run of guarded steps is a guarded run. -/
theorem Run.guarded {Guard : σ → ι → Prop} (hd : Deterministic Step)
    (h : Run (fun s i t => Step s i t ∧ Guard s i) s is t) : Run Step s is t ∧ Guarded Step s Guard is := by
  induction h with
  | nil => exact ⟨Run.nil, guarded_nil Guard⟩
  | snoc _ hs ih => exact ⟨ih.1.snoc hs.1, ih.2.snoc_of_run hd ih.1 hs.2⟩

/-- Every step of the run satisfies `R`. -/
def Always (Step : σ → ι → σ → Prop) (s : σ) (R : σ → ι → σ → Prop) (is : List ι) : Prop :=
  ∀ js j t u, js ++ [j] <+: is → Run Step s js t → Step t j u → R t j u

section LawGuard

variable {Inv Law : List ι → σ → Prop} {Guard : σ → ι → Prop}

/-- A run all of whose steps are guarded keeps an invariant that guarded steps keep. -/
theorem Run.inv_of_guarded (h0 : Inv [] s)
    (hgood : ∀ is t i u, Inv is t → Guard t i → Step t i u → Inv (is ++ [i]) u)
    (h : Run Step s is t) (hg : Guarded Step s Guard is) : Inv is t := by
  induction h with
  | nil => exact h0
  | @snoc is t i u hr hs ih =>
    have hi : Inv is t := ih (hg.of_prefix (List.prefix_append is [i]))
    exact hgood is t i u hi (hg is i t List.prefix_rfl hr) hs

/-- Guarded steps that keep an invariant and satisfy `R` do so all through a run. -/
theorem always_of_guarded {Inv : σ → Prop} {R : σ → ι → σ → Prop} (h0 : Inv s)
    (hstep : ∀ t i u, Inv t → Guard t i → Step t i u → Inv u ∧ R t i u) (hg : Guarded Step s Guard is) :
    Always Step s R is := by
  intro js j t u hp hr hs
  have hinv : Inv t := by
    refine @Run.inv_of_guarded σ ι Step s t js (fun _ => Inv) Guard h0 ?_ hr
      (hg.of_prefix ((List.prefix_append js [j]).trans hp))
    intro _ t i u hi hgi hsi
    exact (hstep t i u hi hgi hsi).1
  exact (hstep t j u hinv (hg js j t hp hr) hs).2

/-- **Law and guard.**  If guarded steps keep an invariant that implies the law, and an unguarded step
from the invariant breaks the law, then a run is lawful throughout exactly when all its steps are
guarded. -/
theorem Run.law_iff_guard (hd : Deterministic Step) (h0 : Inv [] s)
    (hlaw : ∀ is t, Inv is t → Law is t)
    (hgood : ∀ is t i u, Inv is t → Guard t i → Step t i u → Inv (is ++ [i]) u)
    (hbad : ∀ is t i u, Inv is t → ¬ Guard t i → Step t i u → ¬ Law (is ++ [i]) u)
    (h : Run Step s is t) : Lawful Step s Law is ↔ Guarded Step s Guard is := by
  constructor
  · intro hl
    induction h with
    | nil => exact guarded_nil Guard
    | @snoc is t i u hr hs ih =>
      have hg : Guarded Step s Guard is := ih (hl.of_prefix (List.prefix_append is [i]))
      have hi : Inv is t := hr.inv_of_guarded h0 hgood hg
      refine hg.snoc fun t' hr' => ?_
      obtain rfl := hr.det hd hr'
      by_contra hng
      exact hbad _ _ _ _ hi hng hs (hl _ _ List.prefix_rfl (hr.snoc hs))
  · intro hg js t' hp hr'
    exact hlaw _ _ (hr'.inv_of_guarded h0 hgood (hg.of_prefix hp))

end LawGuard

end Att1.Lib
