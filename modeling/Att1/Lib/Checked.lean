import Mathlib.Data.List.Forall2

/-!
# Att1.Lib.Checked — validation that stops at the first failed check

`rejectIf c e` fails with `e` where `c` holds.  A chain of checks succeeds exactly where every condition fails
(`rejectIf_bind_eq_ok`, `bind_eq_ok`); a checked loop over a list succeeds exactly where every element does
(`mapM_eq_ok`).  `FailsIn S` bounds the errors of a chain, with one rule for each construct.
-/

namespace Att1.Lib

variable {ε : Type*} {α β : Type}

/-- Fail with `e` if `c` holds. -/
def rejectIf (c : Prop) [Decidable c] (e : ε) : Except ε Unit := if c then .error e else .ok ()

/-- The value of a step that may fail for one reason only. -/
def orFail (x : Option α) (e : ε) : Except ε α := x.elim (.error e) .ok

theorem bind_eq_ok {x : Except ε α} {k : α → Except ε β} {b : β} :
    (x >>= k) = .ok b ↔ ∃ a, x = .ok a ∧ k a = .ok b := by
  cases x with
  | error e =>
    constructor
    · intro h
      cases h
    · rintro ⟨_, h, _⟩
      cases h
  | ok a => exact ⟨fun h => ⟨a, rfl, h⟩, fun ⟨_, ha, h⟩ => by cases ha; exact h⟩

theorem toOption_eq_some {x : Except ε α} {a : α} : x.toOption = some a ↔ x = .ok a := by
  cases x with
  | error e => simp [Except.toOption]
  | ok b => simp [Except.toOption]

theorem rejectIf_eq_ok {c : Prop} [Decidable c] {e : ε} {u : Unit} : rejectIf c e = .ok u ↔ ¬ c := by
  unfold rejectIf
  by_cases h : c
  · simp [h]
  · simp [h]

theorem rejectIf_bind_eq_ok {c : Prop} [Decidable c] {e : ε} {k : Unit → Except ε α} {a : α} :
    (rejectIf c e >>= k) = .ok a ↔ ¬ c ∧ k () = .ok a := by
  rw [bind_eq_ok]
  exact ⟨fun ⟨_, h, hk⟩ => ⟨rejectIf_eq_ok.mp h, hk⟩, fun ⟨h, hk⟩ => ⟨(), rejectIf_eq_ok.mpr h, hk⟩⟩

theorem orFail_eq_ok {x : Option α} {e : ε} {a : α} : orFail x e = .ok a ↔ x = some a := by
  cases x with
  | none => simp [orFail]
  | some b => simp [orFail]

theorem orFail_bind_eq_ok {x : Option α} {e : ε} {k : α → Except ε β} {b : β} :
    (orFail x e >>= k) = .ok b ↔ ∃ a, x = some a ∧ k a = .ok b := by
  rw [bind_eq_ok]
  simp only [orFail_eq_ok]

theorem guard_bind_eq_some {p : Prop} [Decidable p] {k : Unit → Option β} {b : β} :
    (guard p >>= k) = some b ↔ p ∧ k () = some b := by
  by_cases h : p
  · simp [guard, h]
  · simp [guard, h]

/-- A checked loop succeeds exactly where every element does. -/
theorem mapM_eq_ok {γ : Type*} {f : γ → Except ε β} {xs : List γ} {ys : List β} :
    xs.mapM f = .ok ys ↔ List.Forall₂ (fun x y => f x = .ok y) xs ys := by
  induction xs generalizing ys with
  | nil =>
    rw [List.mapM_nil]
    constructor
    · rintro ⟨⟩
      exact .nil
    · rintro ⟨⟩
      rfl
  | cons x xs ih =>
    rw [List.mapM_cons, bind_eq_ok]
    constructor
    · rintro ⟨y, hy, h⟩
      obtain ⟨ys', hys, h⟩ := bind_eq_ok.mp h
      cases h
      exact .cons hy (ih.mp hys)
    · rintro (_ | ⟨hy, hys⟩)
      exact ⟨_, hy, bind_eq_ok.mpr ⟨_, ih.mpr hys, rfl⟩⟩

/-- A checked loop whose turns all succeed. -/
theorem mapM_eq_ok_map {γ : Type*} {f : γ → Except ε β} {g : γ → β} {xs : List γ} (h : ∀ x ∈ xs, f x = .ok (g x)) :
    xs.mapM f = .ok (xs.map g) := by
  rw [mapM_eq_ok, List.forall₂_map_right_iff, List.forall₂_same]
  exact h

/-- A list is related to some list where every element is related to some element. -/
theorem exists_forall₂_iff {γ δ : Type*} {R : γ → δ → Prop} {xs : List γ} :
    (∃ ys, List.Forall₂ R xs ys) ↔ ∀ x ∈ xs, ∃ y, R x y := by
  induction xs with
  | nil => exact ⟨fun _ x hx => absurd hx (by simp), fun _ => ⟨[], .nil⟩⟩
  | cons x xs ih =>
    rw [List.forall_mem_cons, ← ih]
    constructor
    · rintro ⟨_, _ | ⟨hy, hys⟩⟩
      exact ⟨⟨_, hy⟩, _, hys⟩
    · rintro ⟨⟨y, hy⟩, ys, hys⟩
      exact ⟨y :: ys, .cons hy hys⟩

/-- Related lists have an element for each element of the other. -/
theorem exists_of_mem_left {γ δ : Type*} {R : γ → δ → Prop} {xs : List γ} {ys : List δ} (h : List.Forall₂ R xs ys)
    {x : γ} (hx : x ∈ xs) : ∃ y ∈ ys, R x y := by
  induction h with
  | nil => cases hx
  | cons hab hrest ih =>
    rcases List.mem_cons.mp hx with rfl | hx
    · exact ⟨_, List.mem_cons_self, hab⟩
    · obtain ⟨y, hy, hxy⟩ := ih hx
      exact ⟨y, List.mem_cons_of_mem _ hy, hxy⟩

theorem exists_of_mem_right {γ δ : Type*} {R : γ → δ → Prop} {xs : List γ} {ys : List δ} (h : List.Forall₂ R xs ys)
    {y : δ} (hy : y ∈ ys) : ∃ x ∈ xs, R x y :=
  exists_of_mem_left (List.Forall₂.flip h) hy

/-- The result of a checked loop at one element. -/
theorem getElem?_of_mapM {γ : Type*} {f : γ → Except ε β} {xs : List γ} {ys : List β} (h : xs.mapM f = .ok ys) :
    ys.length = xs.length ∧ ∀ (i : ℕ) x, xs[i]? = some x → ∃ y, ys[i]? = some y ∧ f x = .ok y := by
  obtain ⟨hlength, hall⟩ := List.forall₂_iff_get.mp (mapM_eq_ok.mp h)
  refine ⟨hlength.symm, fun i x hi => ?_⟩
  obtain ⟨hlt, rfl⟩ := List.getElem?_eq_some_iff.mp hi
  have hlt' : i < ys.length := hlength ▸ hlt
  exact ⟨ys[i], List.getElem?_eq_getElem hlt', hall i hlt hlt'⟩

/-- A checked loop over `0 … n - 1`. -/
theorem mapM_range_eq_ok {f : ℕ → Except ε β} {n : ℕ} {ys : List β} :
    (List.range n).mapM f = .ok ys ↔ ys.length = n ∧ ∀ i y, ys[i]? = some y → f i = .ok y := by
  rw [mapM_eq_ok, List.forall₂_iff_get]
  constructor
  · rintro ⟨hlength, hall⟩
    rw [List.length_range] at hlength
    refine ⟨hlength.symm, fun i y hi => ?_⟩
    obtain ⟨hlt, rfl⟩ := List.getElem?_eq_some_iff.mp hi
    have h := hall i (by rw [List.length_range]; omega) hlt
    rwa [List.get_eq_getElem, List.getElem_range] at h
  · rintro ⟨hlength, hall⟩
    refine ⟨by rw [List.length_range, hlength], fun i h₁ h₂ => ?_⟩
    rw [List.get_eq_getElem, List.getElem_range]
    exact hall i _ (List.getElem?_eq_getElem h₂)

/-- What every accepted step of a fold ensures of its item. -/
theorem forall_of_foldlM {γ : Type*} {P : γ → Prop} {f : α → γ → Except ε α} {xs : List γ} {a b : α}
    (hstep : ∀ a x b, f a x = .ok b → P x) (h : xs.foldlM f a = .ok b) : ∀ x ∈ xs, P x := by
  induction xs generalizing a with
  | nil => exact fun _ hx => absurd hx List.not_mem_nil
  | cons x xs ih =>
    rw [List.foldlM_cons] at h
    obtain ⟨next, hx, hxs⟩ := bind_eq_ok.mp h
    exact List.forall_mem_cons.mpr ⟨hstep a x next hx, ih hxs⟩

/-- What a checked fold starts with and every turn keeps holds at its end. -/
theorem foldlM_invariant {γ : Type*} {P : α → Prop} {f : α → γ → Except ε α} {xs : List γ} {a b : α} (h : P a)
    (hstep : ∀ a x a', x ∈ xs → P a → f a x = .ok a' → P a') (hf : xs.foldlM f a = .ok b) : P b := by
  induction xs generalizing a with
  | nil =>
    cases hf
    exact h
  | cons x xs ih =>
    rw [List.foldlM_cons] at hf
    obtain ⟨a', ha, hf⟩ := bind_eq_ok.mp hf
    exact ih (hstep a x a' List.mem_cons_self h ha)
      (fun a x a' hx => hstep a x a' (List.mem_cons_of_mem _ hx)) hf

/-- A checked fold whose turns all succeed. -/
theorem foldlM_eq_ok_foldl {γ : Type*} {f : α → γ → Except ε α} {g : α → γ → α} {xs : List γ}
    (h : ∀ x ∈ xs, ∀ a, f a x = .ok (g a x)) (a : α) : xs.foldlM f a = .ok (xs.foldl g a) := by
  induction xs generalizing a with
  | nil => rfl
  | cons x xs ih =>
    rw [List.foldlM_cons, h x List.mem_cons_self]
    exact ih (fun y hy => h y (List.mem_cons_of_mem _ hy)) (g a x)

/-! ### Errors -/

/-- Every error of `x` is in `S`. -/
def FailsIn (S : ε → Prop) (x : Except ε α) : Prop := ∀ e, x = .error e → S e

namespace FailsIn

variable {S : ε → Prop}

theorem ok {a : α} : FailsIn S (.ok a : Except ε α) := fun _ h => by cases h

theorem error {e : ε} (h : S e) : FailsIn S (.error e : Except ε α) := fun _ he => by
  cases he
  exact h

theorem rejectIf {c : Prop} [Decidable c] {e : ε} (h : S e) : FailsIn S (rejectIf c e) := by
  unfold Lib.rejectIf
  by_cases hc : c
  · rw [if_pos hc]
    exact error h
  · rw [if_neg hc]
    exact ok

theorem orFail {x : Option α} {e : ε} (h : S e) : FailsIn S (orFail x e) := by
  cases x with
  | none => exact error h
  | some a => exact ok

theorem bind {x : Except ε α} {k : α → Except ε β} (hx : FailsIn S x) (hk : ∀ a, FailsIn S (k a)) :
    FailsIn S (x >>= k) := by
  cases x with
  | error e => exact error (hx e rfl)
  | ok a => exact hk a

theorem ite {c : Prop} [Decidable c] {x y : Except ε α} (hx : FailsIn S x) (hy : FailsIn S y) :
    FailsIn S (if c then x else y) := by
  by_cases hc : c
  · rwa [if_pos hc]
  · rwa [if_neg hc]

theorem mapM {γ : Type*} {f : γ → Except ε β} (xs : List γ) (h : ∀ x, FailsIn S (f x)) :
    FailsIn S (xs.mapM f) := by
  induction xs with
  | nil => exact ok
  | cons x xs ih =>
    rw [List.mapM_cons]
    exact bind (h x) fun _ => bind ih fun _ => ok

end FailsIn

end Att1.Lib
