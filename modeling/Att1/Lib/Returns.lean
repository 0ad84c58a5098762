import Att1.Lib.Checked
import Att1.Lib.Json

/-!
# Att1.Lib.Returns — computations that return

`Returns x` says that a computation that may fail returns a value.  One rule for each construct turns it into a
condition on the inputs: the steps of a chain whose values do not decide how it goes on (`returns_bind_iff`), a branch,
a checked loop.  A value is a key where it is no list and no object (`returns_key`); `Scalars` says so of some fields of
a record.
-/

namespace Att1.Lib

variable {ε : Type*} {α β γ : Type}

/-- The computation returns a value. -/
def Returns (x : Except ε α) : Prop := ∃ a, x = .ok a

@[simp] theorem returns_ok (a : α) : Returns (.ok a : Except ε α) := ⟨a, rfl⟩

@[simp] theorem not_returns_error (e : ε) : ¬ Returns (.error e : Except ε α) := fun ⟨_, h⟩ => by cases h

theorem bind_of_ok (a : α) (k : α → Except ε β) : ((.ok a : Except ε α) >>= k) = k a := rfl

theorem returns_bind {x : Except ε α} {k : α → Except ε β} :
    Returns (x >>= k) ↔ ∃ a, x = .ok a ∧ Returns (k a) := by
  constructor
  · rintro ⟨b, hb⟩
    obtain ⟨a, ha, hk⟩ := bind_eq_ok.mp hb
    exact ⟨a, ha, b, hk⟩
  · rintro ⟨a, ha, b, hb⟩
    exact ⟨b, bind_eq_ok.mpr ⟨a, ha, hb⟩⟩

/-- A chain whose rest returns under one condition, whatever the first step returns. -/
theorem returns_bind_iff {x : Except ε α} {k : α → Except ε β} {P : Prop}
    (h : ∀ a, x = .ok a → (Returns (k a) ↔ P)) : Returns (x >>= k) ↔ Returns x ∧ P := by
  rw [returns_bind]
  constructor
  · rintro ⟨a, ha, hk⟩
    exact ⟨⟨a, ha⟩, (h a ha).mp hk⟩
  · rintro ⟨⟨a, ha⟩, hP⟩
    exact ⟨a, ha, (h a ha).mpr hP⟩

/-- A chain that ends in a value. -/
@[simp] theorem returns_bind_ok {x : Except ε α} {g : α → β} : Returns (x >>= fun a => .ok (g a)) ↔ Returns x := by
  rw [returns_bind_iff fun a _ => iff_true_intro (returns_ok (g a)), and_true]

theorem returns_ite {c : Prop} [Decidable c] {x y : Except ε α} :
    Returns (if c then x else y) ↔ (c → Returns x) ∧ (¬ c → Returns y) := by
  by_cases hc : c
  · simp [hc]
  · simp [hc]

/-- A branch that returns at once. -/
theorem returns_ite_left {c : Prop} [Decidable c] {a : α} {y : Except ε α} :
    Returns (if c then .ok a else y) ↔ (¬ c → Returns y) := by
  rw [returns_ite]
  exact and_iff_right fun _ => returns_ok a

theorem returns_ite_right {c : Prop} [Decidable c] {x : Except ε α} {a : α} :
    Returns (if c then x else .ok a) ↔ (c → Returns x) := by
  rw [returns_ite]
  exact and_iff_left fun _ => returns_ok a

theorem returns_mapM {f : γ → Except ε β} {xs : List γ} : Returns (xs.mapM f) ↔ ∀ x ∈ xs, Returns (f x) := by
  unfold Returns
  simp only [mapM_eq_ok]
  exact exists_forall₂_iff

/-- A checked fold whose turns return under a condition on their item. -/
theorem returns_foldlM {f : α → γ → Except ε α} {P : γ → Prop} {xs : List γ}
    (h : ∀ x ∈ xs, ∀ a, Returns (f a x) ↔ P x) (a : α) : Returns (xs.foldlM f a) ↔ ∀ x ∈ xs, P x := by
  induction xs generalizing a with
  | nil => exact iff_of_true (returns_ok a) (by simp)
  | cons x xs ih =>
    rw [List.foldlM_cons, List.forall_mem_cons,
      returns_bind_iff fun b _ => ih (fun y hy => h y (List.mem_cons_of_mem _ hy)) b, h x List.mem_cons_self]

/-- A checked fold whose turns return and keep an invariant. -/
theorem returns_foldlM_of_invariant {f : α → γ → Except ε α} {I : α → Prop} {xs : List γ} {a : α}
    (h : ∀ a, I a → ∀ x ∈ xs, ∃ a', f a x = .ok a' ∧ I a') (ha : I a) : ∃ a', xs.foldlM f a = .ok a' ∧ I a' := by
  induction xs generalizing a with
  | nil => exact ⟨a, rfl, ha⟩
  | cons x xs ih =>
    obtain ⟨next, hnext, hI⟩ := h a ha x List.mem_cons_self
    rw [List.foldlM_cons, hnext]
    exact ih (fun a ha y hy => h a ha y (List.mem_cons_of_mem _ hy)) hI

/-! ### Values as keys -/

section Keys

variable {value default : Json} {record : Fields} {name : String} {names : List String}

@[simp] theorem returns_key : Returns value.key ↔ value.isContainer = false := value.exists_key

@[simp] theorem returns_inSet {texts : List String} : Returns (value.inSet texts) ↔ value.isContainer = false := by
  unfold Json.inSet
  rw [returns_bind_ok, returns_key]

/-- A check that is left out of `None`. -/
theorem unless_none : (¬ value.isNone = true → value.isContainer = false) ↔ value.isContainer = false := by
  cases value <;> simp [Json.isNone, Json.isContainer]

/-- A value that is looked up unless it is `None`, before a rest that returns under one condition. -/
theorem returns_lookup {look : Py β} {x : Py α} {k : β → Py α} {P : Prop}
    (hlook : Returns look ↔ value.isContainer = false) (hnone : value.isNone = true → (Returns x ↔ P))
    (hk : ∀ b, look = .ok b → (Returns (k b) ↔ P)) :
    Returns (if value.isNone = true then x else look >>= k) ↔ value.isContainer = false ∧ P := by
  by_cases h : value.isNone = true
  · rw [if_pos h, hnone h, and_iff_right (unless_none.mp (absurd h))]
  · rw [if_neg h, returns_bind_iff hk, hlook]

theorem returns_lookup_ok {look : Py β} {a : α} {g : β → α} (hlook : Returns look ↔ value.isContainer = false) :
    Returns (if value.isNone = true then .ok a else look >>= fun b => (.ok (g b) : Py α)) ↔
      value.isContainer = false := by
  rw [returns_lookup hlook (fun _ => iff_true_intro (returns_ok a)) fun b _ => iff_true_intro (returns_ok (g b)),
    and_true]

/-- None of these fields is a list or an object. -/
def Scalars (names : List String) (record : Fields) : Prop := ∀ name ∈ names, (dictGet record name).isContainer = false

@[simp] theorem scalars_nil : Scalars [] record := by simp [Scalars]

@[simp] theorem scalars_cons :
    Scalars (name :: names) record ↔ (dictGet record name).isContainer = false ∧ Scalars names record :=
  List.forall_mem_cons

/-- A default that is no list and no object does not matter. -/
theorem isContainer_dictGetD (hdefault : default.isContainer = false) :
    (dictGetD record name default).isContainer = (dictGet record name).isContainer := by
  unfold dictGet dictGetD
  cases record.lookup name with
  | none => exact hdefault
  | some value => rfl

/-- The objects among the items of a list. -/
def objectsOf (value : Json) : List Fields :=
  (value.asList?.getD []).filterMap fun item =>
    match item with
    | .obj fields => some fields
    | _ => none

@[simp] theorem objectsOf_arr_nil : objectsOf (.arr []) = [] := rfl

@[simp] theorem objectsOf_arr_obj {items : List Json} :
    objectsOf (.arr (.obj record :: items)) = record :: objectsOf (.arr items) := rfl

theorem mem_objectsOf {items : List Json} : record ∈ objectsOf (.arr items) ↔ Json.obj record ∈ items := by
  unfold objectsOf
  rw [List.mem_filterMap]
  constructor
  · rintro ⟨item, hitem, hsome⟩
    cases item with
    | obj fields => exact Option.some.inj hsome ▸ hitem
    | _ => cases hsome
  · exact fun h => ⟨_, h, rfl⟩

/-- An absent list has no objects. -/
theorem objectsOf_dictGetD : objectsOf (dictGetD record name (.arr [])) = objectsOf (dictGet record name) := by
  unfold dictGet dictGetD
  cases record.lookup name with
  | none => rfl
  | some value => rfl

end Keys

end Att1.Lib
