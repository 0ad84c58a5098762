import Att1.Lib.Returns
import Att1.Lib.Table

/-!
# Att1.Lib.Order — the values that Python can put in order

`==` is an equivalence of the values in whose objects each key stands once (`Json.Unique`), and `<` agrees with it.
`Json.order` is what both say of two values: less, equal, greater, or nothing, where `<` raises.  What it says turns
around with its arguments (`order_swap`) and is transitive (`order_trans`), so a list can be sorted exactly where every
two of its elements can be compared (`sortedBy_returns`).
-/

namespace Att1.Lib

/-- Each object has each of its keys once, as a `dict` does. -/
inductive Json.Unique : Json → Prop
  | scalar {value : Json} (h : value.isContainer = false) : Unique value
  | arr {items : List Json} (h : ∀ x ∈ items, Unique x) : Unique (.arr items)
  | obj {fields : Fields} (hkeys : (fields.map Prod.fst).Nodup) (h : ∀ f ∈ fields, Unique f.2) : Unique (.obj fields)

namespace Json

@[simp] theorem unique_arr {items : List Json} : (Json.arr items).Unique ↔ ∀ x ∈ items, x.Unique := by
  constructor
  · rintro (⟨hcontainer⟩ | ⟨h⟩ | _)
    · cases hcontainer
    · exact h
  · exact .arr

@[simp] theorem unique_obj {fields : Fields} :
    (Json.obj fields).Unique ↔ (fields.map Prod.fst).Nodup ∧ ∀ f ∈ fields, f.2.Unique := by
  constructor
  · rintro (⟨hcontainer⟩ | _ | ⟨hkeys, h⟩)
    · cases hcontainer
    · exact ⟨hkeys, h⟩
  · exact fun h => .obj h.1 h.2

@[simp] theorem unique_int (n : ℤ) : (Json.int n).Unique := .scalar rfl

@[simp] theorem unique_str (text : String) : (Json.str text).Unique := .scalar rfl

@[simp] theorem unique_null : Json.null.Unique := .scalar rfl

variable {a b c : Json} {xs ys zs : List Json} {k l : Key} {o o' : Ordering}

/-! ### Equality -/

theorem key_num {p : ℚ} : a.key = .ok (.num p) ↔ a.number? = some p := by
  cases a <;> simp [key, number?]

theorem eq_number {p : ℚ} (h : a.number? = some p) : eq a b = true ↔ b.number? = some p := by
  have hb : eq a b = (b.number? == some p) := by
    cases a <;> cases h <;> cases b <;> simp [eq, number?, beq_eq_decide] <;> exact eq_comm
  rw [hb, beq_iff_eq]

/-- A value that is no list and no object equals those that are the same key. -/
theorem eq_scalar (h : a.key = .ok k) : eq a b = true ↔ b.key = .ok k := by
  cases k with
  | null =>
    cases a <;> cases h
    cases b <;> simp [eq, key, number?]
  | str text =>
    cases a <;> cases h
    cases b <;> simp [eq, key, number?]
    exact eq_comm
  | num p => rw [key_num, eq_number (key_num.mp h)]

theorem eqItems_iff : eqItems xs ys = true ↔ List.Forall₂ (fun x y => eq x y = true) xs ys := by
  induction xs generalizing ys with
  | nil => cases ys <;> simp [eqItems]
  | cons x xs ih => cases ys <;> simp [eqItems, ih]

theorem eqFields_iff {xs ys : Fields} :
    eqFields xs ys = true ↔ ∀ f ∈ xs, ∃ y, ys.lookup f.1 = some y ∧ eq f.2 y = true := by
  induction xs with
  | nil => simp [eqFields]
  | cons f xs ih =>
    obtain ⟨name, x⟩ := f
    rw [eqFields, Bool.and_eq_true, ih, List.forall_mem_cons]
    cases ys.lookup name <;> simp

theorem eq_arr : eq (.arr xs) b = true ↔ ∃ ys, b = .arr ys ∧ List.Forall₂ (fun x y => eq x y = true) xs ys := by
  cases b <;> simp [eq, eqItems_iff, number?]

theorem eq_obj {xs : Fields} : eq (.obj xs) b = true ↔ ∃ ys, b = .obj ys ∧ xs.length = ys.length ∧
    ∀ f ∈ xs, ∃ y, ys.lookup f.1 = some y ∧ eq f.2 y = true := by
  cases b <;> simp [eq, eqFields_iff, number?]

theorem mem_of_lookup {fields : Fields} {name : String} (h : fields.lookup name = some a) : (name, a) ∈ fields := by
  obtain ⟨before, after, rfl, -⟩ := List.lookup_eq_some_iff.mp h
  simp

theorem eq_trans (hab : eq a b = true) (hbc : eq b c = true) (ha : a.Unique) : eq a c = true := by
  induction ha generalizing b c with
  | @scalar a h =>
    obtain ⟨k, hk⟩ := a.exists_key.mpr h
    rw [eq_scalar hk] at hab ⊢
    exact (eq_scalar hab).mp hbc
  | @arr xs h ih =>
    obtain ⟨ys, rfl, hxy⟩ := eq_arr.mp hab
    obtain ⟨zs, rfl, hyz⟩ := eq_arr.mp hbc
    refine eq_arr.mpr ⟨zs, rfl, ?_⟩
    clear hab hbc h
    induction hxy generalizing zs with
    | nil =>
      cases hyz
      exact .nil
    | cons hxy hrest ih' =>
      rcases hyz with _ | ⟨hyz, hyzs⟩
      exact .cons (ih _ List.mem_cons_self hxy hyz) (ih' (fun x hx => ih x (List.mem_cons_of_mem _ hx)) _ hyzs)
  | @obj xs hkeys h ih =>
    obtain ⟨ys, rfl, hlength, hxy⟩ := eq_obj.mp hab
    obtain ⟨zs, rfl, hlength', hyz⟩ := eq_obj.mp hbc
    refine eq_obj.mpr ⟨zs, rfl, hlength.trans hlength', fun f hf => ?_⟩
    obtain ⟨y, hy, heq⟩ := hxy f hf
    obtain ⟨z, hz, heq'⟩ := hyz (f.1, y) (mem_of_lookup hy)
    exact ⟨z, hz, ih f hf heq heq'⟩

theorem eq_symm (hab : eq a b = true) (ha : a.Unique) (hb : b.Unique) : eq b a = true := by
  induction ha generalizing b with
  | @scalar a h =>
    obtain ⟨k, hk⟩ := a.exists_key.mpr h
    rw [eq_scalar hk] at hab
    exact (eq_scalar hab).mpr hk
  | @arr xs h ih =>
    obtain ⟨ys, rfl, hxy⟩ := eq_arr.mp hab
    have hys := unique_arr.mp hb
    refine eq_arr.mpr ⟨xs, rfl, ?_⟩
    clear hab h hb
    induction hxy with
    | nil => exact .nil
    | cons hxy hrest ih' =>
      exact .cons (ih _ List.mem_cons_self hxy (hys _ List.mem_cons_self))
        (ih' (fun x hx => ih x (List.mem_cons_of_mem _ hx)) fun y hy => hys y (List.mem_cons_of_mem _ hy))
  | @obj xs hkeys h ih =>
    obtain ⟨ys, rfl, hlength, hxy⟩ := eq_obj.mp hab
    obtain ⟨hkeys', hys⟩ := unique_obj.mp hb
    refine eq_obj.mpr ⟨xs, rfl, hlength.symm, fun f hf => ?_⟩
    have hsub : xs.map Prod.fst ⊆ ys.map Prod.fst := by
      intro name hname
      obtain ⟨g, hg, rfl⟩ := List.mem_map.mp hname
      obtain ⟨y, hy, -⟩ := hxy g hg
      exact List.mem_map.mpr ⟨(g.1, y), mem_of_lookup hy, rfl⟩
    -- as many keys in both, so each key of the second stands in the first
    have hperm : (xs.map Prod.fst).Perm (ys.map Prod.fst) :=
      (List.subperm_of_subset hkeys hsub).perm_of_length_le (by simp [hlength])
    obtain ⟨g, hg, hname⟩ := List.mem_map.mp (hperm.mem_iff.mpr (List.mem_map_of_mem hf))
    obtain ⟨y, hy, heq⟩ := hxy g hg
    have hfirst : ys.lookup f.1 = some f.2 := lookup_of_mem hkeys' hf
    obtain rfl : f.2 = y := Option.some.inj (hfirst.symm.trans (hname ▸ hy))
    exact ⟨g.2, lookup_of_mem hkeys (hname ▸ hg), ih g hg heq (hys f hf)⟩

/-! ### Order -/

/-- How the first value compares with the second, unless that raises. -/
def order (a b : Json) : Option Ordering :=
  if eq a b then some .eq
  else
    match lt a b with
    | .ok less => some (if less then .lt else .gt)
    | .error _ => none

/-- The order of keys: of numbers, and of texts. -/
def Key.order : Key → Key → Option Ordering
  | .null, .null => some .eq
  | .num p, .num q => some (cmp p q)
  | .str s, .str t => some (cmp s t)
  | _, _ => none

/-- Lists are compared at the first items that differ, and then by their lengths. -/
def orderItems : List Json → List Json → Option Ordering
  | [], [] => some .eq
  | [], _ :: _ => some .lt
  | _ :: _, [] => some .gt
  | x :: xs, y :: ys =>
    match order x y with
    | some .eq => orderItems xs ys
    | o => o

theorem order_number {p q : ℚ} (ha : a.number? = some p) (hb : b.number? = some q) : order a b = some (cmp p q) := by
  unfold order
  rw [eq_of_number ha hb, lt_of_number ha hb]
  rcases lt_trichotomy p q with h | rfl | h
  · simp [h, h.ne, cmp, cmpUsing]
  · simp
  · simp [h, h.ne', not_lt.mpr h.le, cmp, cmpUsing]

theorem order_str (s t : String) : order (.str s) (.str t) = some (cmp s t) := by
  unfold order
  rw [eq, lt]
  rcases lt_trichotomy s t with h | rfl | h
  · simp [h, h.ne, cmp, cmpUsing]
  · simp
  · simp [h, h.ne', not_lt.mpr h.le, cmp, cmpUsing]

theorem order_key (ha : a.key = .ok k) (hb : b.key = .ok l) : order a b = k.order l := by
  cases k with
  | null =>
    cases a <;> cases ha
    cases b <;> cases hb <;> simp [order, eq, lt, number?, Key.order]
  | str text =>
    cases a <;> cases ha
    cases b <;> cases hb <;> first | exact order_str _ _ | simp [order, eq, lt, number?, Key.order]
  | num p =>
    have hp := key_num.mp ha
    cases l with
    | num q => exact order_number hp (key_num.mp hb)
    | _ => cases a <;> cases ha <;> cases b <;> cases hb <;> simp [order, eq, lt, number?, Key.order]

theorem order_scalar_container (ha : a.isContainer = false) (hb : b.isContainer = true) : order a b = none := by
  cases a <;> cases ha <;> cases b <;> cases hb <;> simp [order, eq, lt, number?]

theorem order_container_scalar (ha : a.isContainer = true) (hb : b.isContainer = false) : order a b = none := by
  cases a <;> cases ha <;> cases b <;> cases hb <;> simp [order, eq, lt, number?]

theorem order_arr : order (.arr xs) (.arr ys) = orderItems xs ys := by
  induction xs generalizing ys with
  | nil => cases ys <;> simp [order, eq, eqItems, lt, ltItems, orderItems]
  | cons x xs ih =>
    cases ys with
    | nil => simp [order, eq, eqItems, lt, ltItems, orderItems]
    | cons y ys =>
      rw [orderItems, ← ih]
      unfold order
      rw [eq, lt, eqItems, ltItems, eq, lt]
      by_cases hxy : eq x y = true
      · simp [hxy]
      · simp only [hxy, Bool.false_and, Bool.false_eq_true, if_false]
        cases lt x y with
        | ok less => cases less <;> rfl
        | error e => rfl

theorem order_obj {xs ys : Fields} : order (.obj xs) (.obj ys) = if eq (.obj xs) (.obj ys) then some .eq else none := by
  simp [order, lt, number?]


theorem Key.order_swap (k l : Key) : l.order k = (k.order l).map Ordering.swap := by
  cases k <;> cases l <;> simp [Key.order, cmp_swap]

theorem orderItems_swap (h : ∀ x ∈ xs, ∀ y ∈ ys, order y x = (order x y).map Ordering.swap) :
    orderItems ys xs = (orderItems xs ys).map Ordering.swap := by
  induction xs generalizing ys with
  | nil => cases ys <;> rfl
  | cons x xs ih =>
    cases ys with
    | nil => rfl
    | cons y ys =>
      have hrest := ih fun x hx y hy => h x (List.mem_cons_of_mem _ hx) y (List.mem_cons_of_mem _ hy)
      rw [orderItems, orderItems, h x List.mem_cons_self y List.mem_cons_self]
      cases order x y with
      | none => rfl
      | some o => cases o <;> first | exact hrest | rfl

/-- Exchanged, two values compare the other way around. -/
theorem order_swap (ha : a.Unique) (hb : b.Unique) : order b a = (order a b).map Ordering.swap := by
  induction ha generalizing b with
  | @scalar a h =>
    obtain ⟨k, hk⟩ := a.exists_key.mpr h
    by_cases hscalar : b.isContainer = false
    · obtain ⟨l, hl⟩ := b.exists_key.mpr hscalar
      rw [order_key hk hl, order_key hl hk, Key.order_swap]
    · rw [order_scalar_container h (by simpa using hscalar), order_container_scalar (by simpa using hscalar) h]
      rfl
  | @arr xs h ih =>
    cases hb with
    | scalar hb => rw [order_scalar_container hb rfl, order_container_scalar rfl hb]; rfl
    | arr hys =>
      rw [order_arr, order_arr]
      exact orderItems_swap fun x hx y hy => ih x hx (hys y hy)
    | obj _ _ => simp [order, eq, lt, number?]
  | @obj xs hkeys h ih =>
    cases hb with
    | scalar hb => rw [order_scalar_container hb rfl, order_container_scalar rfl hb]; rfl
    | arr _ => simp [order, eq, lt, number?]
    | @obj ys hkeys' hys =>
      have hiff : eq (.obj xs) (.obj ys) = true ↔ eq (.obj ys) (.obj xs) = true :=
        ⟨fun heq => eq_symm heq (.obj hkeys h) (.obj hkeys' hys), fun heq =>
          eq_symm heq (.obj hkeys' hys) (.obj hkeys h)⟩
      rw [order_obj, order_obj]
      by_cases heq : eq (.obj xs) (.obj ys) = true
      · rw [if_pos heq, if_pos (hiff.mp heq)]
        rfl
      · rw [if_neg heq, if_neg fun h => heq (hiff.mpr h)]
        rfl

theorem cmp_then {α : Type} [LinearOrder α] {x y z : α} (hxy : (cmp x y).isLE = true) (hyz : (cmp y z).isLE = true) :
    cmp x z = (cmp x y).then (cmp y z) := by
  rcases lt_trichotomy x y with h | rfl | h
  · have hle : y ≤ z := not_lt.mp fun hlt => by simp [cmp_eq_gt_iff .. |>.mpr hlt] at hyz
    rw [(cmp_eq_lt_iff x z).mpr (h.trans_le hle), (cmp_eq_lt_iff x y).mpr h]
    rfl
  · rw [cmp_self_eq_eq]
    rfl
  · rw [(cmp_eq_gt_iff x y).mpr h] at hxy
    cases hxy

theorem Key.order_trans {m : Key} (hkl : k.order l = some o) (hlm : l.order m = some o') (ho : o.isLE = true)
    (ho' : o'.isLE = true) : k.order m = some (o.then o') := by
  cases k <;> cases l <;> cases hkl <;> cases m <;> cases hlm
  · rfl
  · exact congrArg some (cmp_then ho ho')
  · exact congrArg some (cmp_then ho ho')

theorem orderItems_trans
    (h : ∀ x ∈ xs, ∀ y z {o o' : Ordering}, order x y = some o → order y z = some o' → o.isLE = true →
      o'.isLE = true → order x z = some (o.then o'))
    (hxy : orderItems xs ys = some o) (hyz : orderItems ys zs = some o') (ho : o.isLE = true) (ho' : o'.isLE = true) :
    orderItems xs zs = some (o.then o') := by
  induction xs generalizing ys zs with
  | nil =>
    cases ys with
    | nil =>
      cases hxy
      exact hyz
    | cons y ys =>
      cases hxy
      cases zs with
      | nil =>
        cases hyz
        cases ho'
      | cons z zs => rfl
  | cons x xs ih =>
    cases ys with
    | nil =>
      cases hxy
      cases ho
    | cons y ys =>
      cases zs with
      | nil =>
        cases hyz
        cases ho'
      | cons z zs =>
        have htrans := @h x List.mem_cons_self y z
        rw [orderItems] at hxy hyz ⊢
        cases hfirst : order x y with
        | none => simp [hfirst] at hxy
        | some p =>
          cases hsecond : order y z with
          | none => simp [hsecond] at hyz
          | some q =>
            rw [hfirst] at hxy
            rw [hsecond] at hyz
            cases p with
            | gt =>
              cases hxy
              cases ho
            | lt =>
              cases hxy
              cases q with
              | gt =>
                cases hyz
                cases ho'
              | lt => rw [htrans hfirst hsecond rfl rfl]; rfl
              | eq => rw [htrans hfirst hsecond rfl rfl]; rfl
            | eq =>
              cases q with
              | gt =>
                cases hyz
                cases ho'
              | lt =>
                cases hyz
                rw [htrans hfirst hsecond rfl rfl]
                cases o with
                | gt => cases ho
                | _ => rfl
              | eq =>
                rw [htrans hfirst hsecond rfl rfl]
                exact ih (fun x hx => h x (List.mem_cons_of_mem _ hx)) hxy hyz

theorem exists_arr_of_order (h : order (.arr xs) b = some o) : ∃ ys, b = .arr ys := by
  cases b <;> simp [order, eq, lt, number?] at h ⊢

theorem eq_of_order_obj {xs : Fields} (h : order (.obj xs) b = some o) : eq (.obj xs) b = true ∧ o = .eq := by
  cases b <;> simp [order, eq, lt, number?] at h ⊢
  exact ⟨h.1, h.2.symm⟩

theorem isContainer_of_order (ha : a.isContainer = false) (h : order a b = some o) : b.isContainer = false := by
  by_contra hb
  rw [order_scalar_container ha (by simpa using hb)] at h
  cases h

/-- The order is transitive. -/
theorem order_trans (hab : order a b = some o) (hbc : order b c = some o') (ho : o.isLE = true) (ho' : o'.isLE = true)
    (ha : a.Unique) : order a c = some (o.then o') := by
  induction ha generalizing b c o o' with
  | @scalar a h =>
    have hb := isContainer_of_order h hab
    obtain ⟨k, hk⟩ := a.exists_key.mpr h
    obtain ⟨l, hl⟩ := b.exists_key.mpr hb
    obtain ⟨m, hm⟩ := c.exists_key.mpr (isContainer_of_order hb hbc)
    rw [order_key hk hl] at hab
    rw [order_key hl hm] at hbc
    rw [order_key hk hm]
    exact Key.order_trans hab hbc ho ho'
  | @arr xs h ih =>
    obtain ⟨ys, rfl⟩ := exists_arr_of_order hab
    obtain ⟨zs, rfl⟩ := exists_arr_of_order hbc
    rw [order_arr] at hab hbc ⊢
    exact orderItems_trans (fun x hx y z _ _ hxy hyz ho ho' => ih x hx hxy hyz ho ho') hab hbc ho ho'
  | @obj xs hkeys h ih =>
    obtain ⟨heq, rfl⟩ := eq_of_order_obj hab
    obtain ⟨ys, rfl, -⟩ := eq_obj.mp heq
    obtain ⟨heq', rfl⟩ := eq_of_order_obj hbc
    unfold order
    rw [if_pos (eq_trans heq heq' (.obj hkeys h))]
    rfl

theorem ltItems_of_eq (h : eqItems xs ys = true) : ltItems xs ys = .ok false := by
  induction xs generalizing ys with
  | nil =>
    cases ys with
    | nil => rfl
    | cons y ys => simp [eqItems] at h
  | cons x xs ih =>
    cases ys with
    | nil => rfl
    | cons y ys =>
      rw [eqItems, Bool.and_eq_true] at h
      rw [ltItems, if_pos h.1]
      exact ih h.2

/-- Of lists the order says what `<` does. -/
theorem toOption_lt_arr : (lt (.arr xs) (.arr ys)).toOption = (order (.arr xs) (.arr ys)).map fun o => decide (o = .lt) := by
  unfold order
  by_cases h : eq (.arr xs) (.arr ys) = true
  · rw [if_pos h, lt, ltItems_of_eq (by rwa [eq] at h)]
    rfl
  · rw [if_neg h]
    cases lt (.arr xs) (.arr ys) with
    | ok less => cases less <;> rfl
    | error e => rfl

end Json

/-! ### `sorted` -/

section Sorted

variable {α : Type} {sortKey : α → Json} {x y z : α} {xs ys zs : List α}

/-- A key that is a list, in whose objects each key stands once. -/
structure ListKey (key : Json) : Prop where
  unique : key.Unique
  list : ∃ items, key = .arr items

/-- The first element stands before the second, or they are equal. -/
def InOrder (sortKey : α → Json) (x y : α) : Prop :=
  ∃ o, Json.order (sortKey x) (sortKey y) = some o ∧ o.isLE = true

/-- The two elements can be compared. -/
def Comparable (sortKey : α → Json) (x y : α) : Prop := ∃ o, Json.order (sortKey x) (sortKey y) = some o

theorem lt_eq_ok (hx : ListKey (sortKey x)) (hy : ListKey (sortKey y)) {less : Bool} :
    Json.lt (sortKey x) (sortKey y) = .ok less ↔
      ∃ o, Json.order (sortKey x) (sortKey y) = some o ∧ decide (o = .lt) = less := by
  obtain ⟨xs, hxs⟩ := hx.list
  obtain ⟨ys, hys⟩ := hy.list
  rw [hxs, hys, ← toOption_eq_some, Json.toOption_lt_arr, Option.map_eq_some_iff]

theorem returns_lt (hx : ListKey (sortKey x)) (hy : ListKey (sortKey y)) :
    Returns (Json.lt (sortKey x) (sortKey y)) ↔ Comparable sortKey x y := by
  constructor
  · rintro ⟨less, h⟩
    obtain ⟨o, ho, -⟩ := (lt_eq_ok hx hy).mp h
    exact ⟨o, ho⟩
  · rintro ⟨o, ho⟩
    exact ⟨_, (lt_eq_ok hx hy).mpr ⟨o, ho, rfl⟩⟩

theorem Comparable.symm (hx : ListKey (sortKey x)) (hy : ListKey (sortKey y)) (h : Comparable sortKey x y) :
    Comparable sortKey y x := by
  obtain ⟨o, ho⟩ := h
  refine ⟨o.swap, ?_⟩
  rw [Json.order_swap hx.unique hy.unique, ho]
  rfl

theorem inOrder_of_lt (hx : ListKey (sortKey x)) (hy : ListKey (sortKey y))
    (h : Json.lt (sortKey x) (sortKey y) = .ok true) : InOrder sortKey x y := by
  obtain ⟨o, ho, hlt⟩ := (lt_eq_ok hx hy).mp h
  obtain rfl := of_decide_eq_true hlt
  exact ⟨_, ho, rfl⟩

theorem inOrder_of_not_lt (hx : ListKey (sortKey x)) (hy : ListKey (sortKey y))
    (h : Json.lt (sortKey x) (sortKey y) = .ok false) : InOrder sortKey y x := by
  obtain ⟨o, ho, hlt⟩ := (lt_eq_ok hx hy).mp h
  refine ⟨o.swap, by rw [Json.order_swap hx.unique hy.unique, ho]; rfl, ?_⟩
  cases o with
  | lt => cases hlt
  | _ => rfl

theorem InOrder.trans (hx : ListKey (sortKey x)) (hxy : InOrder sortKey x y) (hyz : InOrder sortKey y z) :
    InOrder sortKey x z := by
  obtain ⟨o, ho, hle⟩ := hxy
  obtain ⟨o', ho', hle'⟩ := hyz
  refine ⟨_, Json.order_trans ho ho' hle hle' hx.unique, ?_⟩
  cases o with
  | gt => cases hle
  | lt => rfl
  | eq => exact hle'

theorem sortInsert_inOrder (hx : ListKey (sortKey x)) (hys : ∀ y ∈ ys, ListKey (sortKey y))
    (h : sortInsert sortKey x ys = .ok zs) (hsorted : ys.Pairwise (InOrder sortKey)) :
    zs.Pairwise (InOrder sortKey) := by
  induction ys generalizing zs with
  | nil =>
    obtain rfl := Except.ok.inj h
    exact List.pairwise_singleton _ _
  | cons y ys ih =>
    obtain ⟨hy, hys⟩ := List.forall_mem_cons.mp hys
    obtain ⟨hfirst, hrest⟩ := List.pairwise_cons.mp hsorted
    unfold sortInsert at h
    obtain ⟨less, hless, h⟩ := bind_eq_ok.mp h
    cases less with
    | true =>
      obtain rfl := Except.ok.inj h
      have hxy := inOrder_of_lt hx hy hless
      exact List.pairwise_cons.mpr ⟨List.forall_mem_cons.mpr ⟨hxy, fun z hz => hxy.trans hx (hfirst z hz)⟩, hsorted⟩
    | false =>
      obtain ⟨rest, hinsert, h⟩ := bind_eq_ok.mp h
      obtain rfl := Except.ok.inj h
      refine List.pairwise_cons.mpr ⟨fun z hz => ?_, ih hys hinsert hrest⟩
      rcases List.mem_cons.mp ((sortInsert_perm hinsert).mem_iff.mp hz) with rfl | hz
      · exact inOrder_of_not_lt hx hy hless
      · exact hfirst z hz

theorem sortedBy_inOrder (hxs : ∀ x ∈ xs, ListKey (sortKey x)) (h : sortedBy sortKey xs = .ok ys) :
    ys.Pairwise (InOrder sortKey) := by
  induction xs using List.reverseRecOn generalizing ys with
  | nil =>
    obtain rfl := Except.ok.inj h
    exact .nil
  | append_singleton xs x ih =>
    unfold sortedBy at h
    rw [List.foldlM_append] at h
    obtain ⟨sorted, hsorted, h⟩ := bind_eq_ok.mp h
    rw [List.foldlM_cons] at h
    obtain ⟨zs, hinsert, h⟩ := bind_eq_ok.mp h
    obtain rfl := Except.ok.inj h
    have hkeys : ∀ y ∈ sorted, ListKey (sortKey y) := fun y hy =>
      hxs y (List.mem_append_left _ ((sortedBy_perm hsorted).mem_iff.mp hy))
    exact sortInsert_inOrder (hxs x (by simp)) hkeys hinsert
      (ih (fun y hy => hxs y (List.mem_append_left _ hy)) hsorted)

theorem sortInsert_returns (h : ∀ y ∈ ys, Returns (Json.lt (sortKey x) (sortKey y))) :
    Returns (sortInsert sortKey x ys) := by
  induction ys with
  | nil => exact returns_ok _
  | cons y ys ih =>
    obtain ⟨hfirst, hrest⟩ := List.forall_mem_cons.mp h
    obtain ⟨less, hless⟩ := hfirst
    unfold sortInsert
    refine returns_bind.mpr ⟨less, hless, ?_⟩
    cases less with
    | true => exact returns_ok _
    | false => exact returns_bind_ok.mpr (ih hrest)

/-- **A list can be sorted** exactly where every two of its elements can be compared. -/
theorem sortedBy_returns (hxs : ∀ x ∈ xs, ListKey (sortKey x)) :
    Returns (sortedBy sortKey xs) ↔ xs.Pairwise (Comparable sortKey) := by
  constructor
  · rintro ⟨ys, hys⟩
    have hperm := sortedBy_perm hys
    have hboth : ys.Pairwise fun x y => Comparable sortKey x y ∧ Comparable sortKey y x :=
      (sortedBy_inOrder hxs hys).imp_of_mem fun hx hy horder =>
        have hcomparable := horder.imp fun _ h => h.1
        ⟨hcomparable, hcomparable.symm (hxs _ (hperm.mem_iff.mp hx)) (hxs _ (hperm.mem_iff.mp hy))⟩
    exact ((hperm.pairwise_iff fun h => ⟨h.2, h.1⟩).mp hboth).imp fun h => h.1
  · intro h
    induction xs using List.reverseRecOn with
    | nil => exact returns_ok _
    | append_singleton xs x ih =>
      obtain ⟨hpair, -, hlast⟩ := List.pairwise_append.mp h
      obtain ⟨ys, hys⟩ := ih (fun y hy => hxs y (List.mem_append_left _ hy)) hpair
      have hx := hxs x (by simp)
      have hinsert : Returns (sortInsert sortKey x ys) := sortInsert_returns fun y hy => by
        have hmem := (sortedBy_perm hys).mem_iff.mp hy
        have hy := hxs y (List.mem_append_left _ hmem)
        exact (returns_lt hx hy).mpr (Comparable.symm hy hx (hlast y hmem x (by simp)))
      unfold sortedBy at hys ⊢
      rw [List.foldlM_append, hys, bind_of_ok, List.foldlM_cons]
      exact returns_bind_ok.mpr hinsert

end Sorted

end Att1.Lib
