import Att1.Lib.Runs

/-!
# Att1.Lib.Lockstep — two implementations of the same calls, run side by side

`direct` answers every call; `remote` answers it too or fails to (`none`), on its own copy of the state.  Both get
the same calls, and an exchange records what each of them answered.

* `Agreement`: the two copies are equal and every call got the same answer.
* `agreement_iff`: if the calls that `Guard` admits are answered alike, and only those, then a run agrees
  throughout exactly when `Guard` admits all its calls.
-/

namespace Att1.Lib

/-- A call and what the two sides answered. -/
structure Exchange (ι ρ : Type*) where
  call : ι
  direct : ρ
  remote : Option ρ

variable {σ ι ρ : Type*} (direct : σ → ι → σ × ρ) (remote : σ → ι → Option (σ × ρ))

/-- One call, on both copies of the state. -/
def Lockstep (s : σ × σ) (e : Exchange ι ρ) (t : σ × σ) : Prop :=
  direct s.1 e.call = (t.1, e.direct) ∧
    t.2 = ((remote s.2 e.call).map Prod.fst).getD s.2 ∧ e.remote = (remote s.2 e.call).map Prod.snd

/-- The copies are equal, and so were all answers. -/
def Agreement (es : List (Exchange ι ρ)) (s : σ × σ) : Prop :=
  s.2 = s.1 ∧ ∀ e ∈ es, e.remote = some e.direct

theorem lockstep_deterministic : Deterministic (Lockstep direct remote) := by
  intro s e t u ht hu
  apply Prod.ext
  · have h := ht.1.symm.trans hu.1
    exact (Prod.mk.inj h).1
  · exact ht.2.1.trans hu.2.1.symm

/-- Every call can be made. -/
theorem lockstep_exchange (s : σ × σ) (i : ι) :
    Lockstep direct remote s ⟨i, (direct s.1 i).2, (remote s.2 i).map Prod.snd⟩
      ((direct s.1 i).1, ((remote s.2 i).map Prod.fst).getD s.2) :=
  ⟨rfl, rfl, rfl⟩

variable {direct remote} {Guard : σ → ι → Prop} {Inv : σ → Prop} {s : σ} {t u : σ × σ}
  {es : List (Exchange ι ρ)} {e : Exchange ι ρ}

theorem Agreement.nil (s : σ) : Agreement ([] : List (Exchange ι ρ)) (s, s) :=
  ⟨rfl, fun _ he => absurd he List.not_mem_nil⟩

/-- A call that both sides answer alike keeps the agreement. -/
theorem Agreement.step (h : Agreement es t) (hcall : remote t.1 e.call = some (direct t.1 e.call))
    (hs : Lockstep direct remote t e u) : Agreement (es ++ [e]) u := by
  obtain ⟨heq, hall⟩ := h
  obtain ⟨hd, hu, hr⟩ := hs
  rw [heq, hcall, hd] at hu hr
  refine ⟨hu, fun e' he' => ?_⟩
  rcases List.mem_append.mp he' with hold | hnew
  · exact hall e' hold
  · obtain rfl := List.mem_singleton.mp hnew
    exact hr

/-- A call that they answer differently ends it. -/
theorem Agreement.step_breaks (h : Agreement es t) (hcall : remote t.1 e.call ≠ some (direct t.1 e.call))
    (hs : Lockstep direct remote t e u) : ¬ Agreement (es ++ [e]) u := by
  rintro ⟨heq', hall'⟩
  obtain ⟨heq, -⟩ := h
  obtain ⟨hd, hu, hr⟩ := hs
  rw [heq] at hu hr
  have hanswer := hall' e (List.mem_append_right es (List.mem_singleton_self e))
  rw [hr] at hanswer
  cases hrem : remote t.1 e.call with
  | none =>
    rw [hrem] at hanswer
    cases hanswer
  | some p =>
    rw [hrem] at hanswer hu
    apply hcall
    rw [hrem, hd]
    congr 1
    apply Prod.ext
    · exact hu.symm.trans heq'
    · exact Option.some.inj hanswer

/-- The agreement together with an invariant of the state. -/
structure Twin (Inv : σ → Prop) (es : List (Exchange ι ρ)) (s : σ × σ) : Prop where
  agreement : Agreement es s
  inv : Inv s.1

theorem Twin.step (h : Twin Inv es t) (hinv : Inv (direct t.1 e.call).1)
    (hcall : remote t.1 e.call = some (direct t.1 e.call)) (hs : Lockstep direct remote t e u) :
    Twin Inv (es ++ [e]) u := by
  refine ⟨h.agreement.step hcall hs, ?_⟩
  rwa [hs.1] at hinv

/-- Runs of calls that are answered alike agree throughout. -/
theorem agreement_of_guarded (h0 : Inv s) (hinv : ∀ t i, Inv t → Guard t i → Inv (direct t i).1)
    (hcall : ∀ t i, Inv t → Guard t i → remote t i = some (direct t i))
    (hg : Guarded (Lockstep direct remote) (s, s) (fun p e => Guard p.1 e.call) es) :
    Lawful (Lockstep direct remote) (s, s) Agreement es := by
  intro js t hp hr
  have h00 : Twin Inv ([] : List (Exchange ι ρ)) (s, s) := ⟨Agreement.nil s, h0⟩
  have htwin : Twin Inv js t := by
    apply hr.inv_of_guarded h00 ?_ (hg.of_prefix hp)
    intro is t e u h hge hs
    exact h.step (hinv t.1 e.call h.inv hge) (hcall t.1 e.call h.inv hge) hs
  exact htwin.agreement

/-- **Lockstep refinement.** -/
theorem agreement_iff (h0 : Inv s) (hinv : ∀ t i, Inv t → Inv (direct t i).1)
    (hcall : ∀ t i, Inv t → (remote t i = some (direct t i) ↔ Guard t i))
    (hr : Run (Lockstep direct remote) (s, s) es t) :
    Lawful (Lockstep direct remote) (s, s) Agreement es ↔
      Guarded (Lockstep direct remote) (s, s) (fun p e => Guard p.1 e.call) es := by
  have h00 : Twin Inv ([] : List (Exchange ι ρ)) (s, s) := ⟨Agreement.nil s, h0⟩
  refine hr.law_iff_guard (lockstep_deterministic direct remote) h00 (fun _ _ h => h.agreement) ?_ ?_
  · intro is t e u h hg hs
    exact h.step (hinv t.1 e.call h.inv) ((hcall t.1 e.call h.inv).mpr hg) hs
  · intro is t e u h hg hs
    exact h.agreement.step_breaks (mt (hcall t.1 e.call h.inv).mp hg) hs

end Att1.Lib
