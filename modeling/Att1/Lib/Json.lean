import Mathlib

/-!
# Att1.Lib.Json — JSON values under Python's operators

* `Json`: what `json.load` returns.  A float is the rational number it stands for.
* The operators a tool applies to such a value without knowing its type: truth, `isinstance`, `==`, `<`, `+`, `*`,
  membership, iteration, `dict.get`, `sorted`, grouping in a `defaultdict(list)`.  Where Python raises, the result is an
  error.
* `FString`: an f-string, as the list of its parts.
-/

namespace Att1.Lib

/-- A value that `json.load` returns. -/
inductive Json
  | null
  | bool (value : Bool)
  | int (value : ℤ)
  | float (value : ℚ)
  | str (value : String)
  | arr (items : List Json)
  | obj (fields : List (String × Json))

/-- The items of a `dict` with string keys, in the order of insertion. -/
abbrev Fields := List (String × Json)

/-- A part of an f-string: its text, a value under `str`, or a value under `repr`. -/
inductive FPart
  | lit (text : String)
  | val (value : Json)
  | repr (value : Json)

abbrev FString := List FPart

/-- `text.startswith(start)`, of a text that begins with a literal part that is long enough. -/
def FString.startsWith : FString → String → Bool
  | .lit text :: _, start => start.toList.isPrefixOf text.toList
  | _, _ => false

/-- An exception: of the interpreter, or one that a tool raises. -/
inductive PyError
  | typeError
  | attributeError
  | keyError
  | raised (exception : String) (message : FString)

abbrev Py := Except PyError

/-- An integer that rounds to a finite float of 64 bits. -/
def fitsFloat (n : ℤ) : Bool := decide (n.natAbs < 2 ^ 1024 - 2 ^ 970)

def overflowError : PyError := .raised "OverflowError" [.lit "int too large to convert to float"]

/-- `fields.get(key, default)`. -/
def dictGetD (fields : Fields) (key : String) (default : Json) : Json := (fields.lookup key).getD default

/-- `fields.get(key)`. -/
def dictGet (fields : Fields) (key : String) : Json := dictGetD fields key .null

namespace Json

/-- The value as an object whose `get` is called. -/
def asObj : Json → Py Fields
  | .obj fields => .ok fields
  | _ => .error .attributeError

/-- `isinstance(value, list)`, with the items. -/
def asList? : Json → Option (List Json)
  | .arr items => some items
  | _ => none

/-- `isinstance(value, int)`, with the integer: a bool is one. -/
def asInt? : Json → Option ℤ
  | .bool value => some (if value then 1 else 0)
  | .int value => some value
  | _ => none

/-- The value as an operand of arithmetic. -/
def number? : Json → Option ℚ
  | .bool value => some (if value then 1 else 0)
  | .int value => some value
  | .float value => some value
  | _ => none

/-- `bool(value)`. -/
def truthy : Json → Bool
  | .null => false
  | .bool value => value
  | .int value => value != 0
  | .float value => value != 0
  | .str value => value != ""
  | .arr items => !items.isEmpty
  | .obj fields => !fields.isEmpty

/-- `value is None`. -/
def isNone : Json → Bool
  | .null => true
  | _ => false

/-- `value or other`. -/
def orElse (value other : Json) : Json := if value.truthy then value else other

/-- `value == n`. -/
def eqInt (value : Json) (n : ℤ) : Bool := value.number? == some (n : ℚ)

/-- `value == text`. -/
def eqStr : Json → String → Bool
  | .str value, text => value == text
  | _, _ => false

/-- `value in (text, ...)`. -/
def inTuple (value : Json) (texts : List String) : Bool := texts.any value.eqStr

/-- What a `dict` or a `set` keeps of a key: numbers that are equal are one key. -/
inductive Key
  | null
  | num (value : ℚ)
  | str (value : String)
  deriving DecidableEq

/-- `hash(value)`. -/
def key : Json → Py Key
  | .null => .ok .null
  | .bool value => .ok (.num (if value then 1 else 0))
  | .int value => .ok (.num value)
  | .float value => .ok (.num value)
  | .str value => .ok (.str value)
  | .arr _ => .error .typeError
  | .obj _ => .error .typeError

/-- A list or a dict, which cannot be a key. -/
def isContainer : Json → Bool
  | .arr _ => true
  | .obj _ => true
  | _ => false

theorem exists_key (value : Json) : (∃ k, value.key = .ok k) ↔ value.isContainer = false := by
  cases value <;> simp [key, isContainer]

/-- `value in {text, ...}`. -/
def inSet (value : Json) (texts : List String) : Py Bool := do
  let k ← value.key
  .ok (texts.any fun text => k = .str text)

mutual

/-- `a == b`. -/
def eq : Json → Json → Bool
  | .null, .null => true
  | .str a, .str b => a == b
  | .arr xs, .arr ys => eqItems xs ys
  | .obj xs, .obj ys => xs.length == ys.length && eqFields xs ys
  | a, b => a.number?.isSome && a.number? == b.number?

def eqItems : List Json → List Json → Bool
  | [], [] => true
  | x :: xs, y :: ys => eq x y && eqItems xs ys
  | _, _ => false

/-- Every item of the first `dict` is one of the second. -/
def eqFields : List (String × Json) → List (String × Json) → Bool
  | [], _ => true
  | (name, x) :: xs, ys =>
    (match ys.lookup name with
      | some y => eq x y
      | none => false) && eqFields xs ys

end

mutual

/-- `a < b`. -/
def lt : Json → Json → Py Bool
  | .str a, .str b => .ok (a < b)
  | .arr xs, .arr ys => ltItems xs ys
  | a, b =>
    match a.number?, b.number? with
    | some p, some q => .ok (p < q)
    | _, _ => .error .typeError

def ltItems : List Json → List Json → Py Bool
  | _, [] => .ok false
  | [], _ :: _ => .ok true
  | x :: xs, y :: ys => if eq x y then ltItems xs ys else lt x y

end

/-- `a >= b`. -/
def ge (a b : Json) : Py Bool := do
  let less ← lt a b
  .ok (!less)

/-- `a + b`. -/
def add : Json → Json → Py Json
  | .str a, .str b => .ok (.str (a ++ b))
  | .arr xs, .arr ys => .ok (.arr (xs ++ ys))
  | a, b =>
    match a.asInt?, b.asInt?, a.number?, b.number? with
    | some m, some n, _, _ => .ok (.int (m + n))
    | _, _, some p, some q => .ok (.float (p + q))
    | _, _, _, _ => .error .typeError

/-- `a * n` for an integer `n`. -/
def mulInt : Json → ℤ → Py Json
  | .bool value, n => .ok (.int ((if value then 1 else 0) * n))
  | .int value, n => .ok (.int (value * n))
  | .float value, n => .ok (.float (value * n))
  | .str value, n => .ok (.str (String.join (List.replicate n.toNat value)))
  | .arr items, n => .ok (.arr (List.replicate n.toNat items).flatten)
  | .null, _ => .error .typeError
  | .obj _, _ => .error .typeError

/-- The argument of `range`. -/
def rangeLength (value : Json) : Py ℕ :=
  match value.asInt? with
  | some n => .ok n.toNat
  | none => .error .typeError

/-- `value[name]`. -/
def item : Json → String → Py Json
  | .obj fields, name =>
    match fields.lookup name with
    | some value => .ok value
    | none => .error .keyError
  | _, _ => .error .typeError

/-- `text in value`. -/
def contains : Json → String → Py Bool
  | .str value, text => .ok (decide (text.toList <:+: value.toList))
  | .arr items, text => .ok (items.any (·.eqStr text))
  | .obj fields, text => .ok (fields.lookup text).isSome
  | _, _ => .error .typeError

/-- `int(value)`, where `parse` says what `int` reads from a text. -/
def toInt (parse : String → Option ℤ) : Json → Py ℤ
  | .bool value => .ok (if value then 1 else 0)
  | .int value => .ok value
  | .float value => .ok (if 0 ≤ value then ⌊value⌋ else ⌈value⌉)
  | .str text =>
    match parse text with
    | some value => .ok value
    | none => .error (.raised "ValueError" [])
  | _ => .error .typeError

/-- `math.isfinite(value)`, which converts an integer to a float. -/
def isFinite : Json → Py Bool
  | .bool _ => .ok true
  | .int value => if fitsFloat value then .ok true else .error overflowError
  | .float _ => .ok true
  | _ => .error .typeError

/-- The values that a `for` loop over the value yields. -/
def iter : Json → Py (List Json)
  | .str value => .ok (value.toList.map fun c => .str (String.singleton c))
  | .arr items => .ok items
  | .obj fields => .ok (fields.map fun field => .str field.1)
  | _ => .error .typeError

/-- `value[0]` of a value that is true. -/
def first : Json → Py Json
  | .str value => .ok (.str (String.ofList (value.toList.take 1)))
  | .arr (item :: _) => .ok item
  | .arr [] => .error .keyError
  | .obj _ => .error .keyError
  | _ => .error .typeError

end Json

/-! ### Integers -/

section Integers

variable {value : Json} {n : ℤ}

/-- An integer is its number. -/
theorem Json.number_of_asInt (h : value.asInt? = some n) : value.number? = some (n : ℚ) := by
  cases value with
  | bool b =>
    obtain rfl : (if b then 1 else 0) = n := by simpa [Json.asInt?] using h
    cases b <;> simp [Json.number?]
  | int m =>
    obtain rfl : m = n := by simpa [Json.asInt?] using h
    rfl
  | _ => simp [Json.asInt?] at h

theorem Json.key_of_asInt (h : value.asInt? = some n) : value.key = .ok (.num n) := by
  have hnum := Json.number_of_asInt h
  cases value with
  | bool b => simpa [Json.key, Json.number?] using hnum
  | int m => simpa [Json.key, Json.number?] using hnum
  | _ => simp [Json.asInt?] at h

theorem Json.eqInt_of_asInt (h : value.asInt? = some n) (k : ℤ) : value.eqInt k = decide (n = k) := by
  unfold Json.eqInt
  rw [Json.number_of_asInt h]
  simp [beq_eq_decide]

theorem Json.truthy_of_asInt (h : value.asInt? = some n) : value.truthy = decide (n ≠ 0) := by
  cases value with
  | bool b =>
    obtain rfl : (if b then 1 else 0) = n := by simpa [Json.asInt?] using h
    cases b <;> rfl
  | int m =>
    obtain rfl : m = n := by simpa [Json.asInt?] using h
    simp [Json.truthy, bne, beq_eq_decide]
  | _ => simp [Json.asInt?] at h

theorem Json.orElse_zero (m : ℤ) : (Json.int m).orElse (.int 0) = .int m := by
  unfold Json.orElse
  split
  · rfl
  · next h =>
    rw [Json.truthy_of_asInt (show Json.asInt? (.int m) = some m from rfl)] at h
    obtain rfl : m = 0 := by simpa using h
    rfl

theorem Json.isNone_of_asInt (h : value.asInt? = some n) : value.isNone = false := by
  cases value <;> first | rfl | simp [Json.asInt?] at h

theorem Json.add_of_asInt (m : ℤ) (h : value.asInt? = some n) : Json.add (.int m) value = .ok (.int (m + n)) := by
  cases value <;> simp [Json.asInt?] at h <;> simp [Json.add, Json.asInt?, h]

theorem Json.lt_of_asInt {other : Json} {m : ℤ} (h : value.asInt? = some n) (hother : other.asInt? = some m) :
    Json.lt value other = .ok (decide (n < m)) := by
  have hnum := Json.number_of_asInt h
  have hnum' := Json.number_of_asInt hother
  rw [Json.lt.eq_3 value other, hnum, hnum']
  · simp
  · rintro text _ rfl
    cases h
  · rintro items _ rfl
    cases h

theorem Json.toInt_of_asInt (parse : String → Option ℤ) (h : value.asInt? = some n) : value.toInt parse = .ok n := by
  cases value <;> simp [Json.asInt?] at h <;> simp [Json.toInt, h]

theorem Json.eq_int_of_asInt (m : ℤ) (h : value.asInt? = some n) : Json.eq (.int m) value = decide (m = n) := by
  have hnum := Json.number_of_asInt h
  cases value with
  | bool b => simp_all [Json.eq, Json.number?, beq_eq_decide]
  | int k => simp_all [Json.eq, Json.number?, beq_eq_decide]
  | _ => simp [Json.asInt?] at h

theorem Json.eq_int_right (h : value.asInt? = some n) (m : ℤ) : Json.eq value (.int m) = decide (n = m) := by
  have hnum := Json.number_of_asInt h
  cases value with
  | bool b => simp_all [Json.eq, Json.number?, beq_eq_decide]
  | int i => simp_all [Json.eq, Json.number?, beq_eq_decide]
  | _ => simp [Json.asInt?] at h

end Integers

/-! ### Numbers -/

section Numbers

variable {a b c d : Json} {p q r t : ℚ}

theorem Json.eq_of_number (ha : a.number? = some p) (hb : b.number? = some q) : Json.eq a b = decide (p = q) := by
  cases a <;> cases b <;> simp_all [Json.eq, Json.number?, beq_eq_decide]

theorem Json.lt_of_number (ha : a.number? = some p) (hb : b.number? = some q) :
    Json.lt a b = .ok (decide (p < q)) := by
  cases a <;> cases b <;> simp_all [Json.lt, Json.number?]

/-- Pairs of numbers compare by the first number and then by the second. -/
theorem Json.lt_pair (ha : a.number? = some p) (hb : b.number? = some q) (hc : c.number? = some r)
    (hd : d.number? = some t) :
    Json.lt (.arr [a, b]) (.arr [c, d]) = .ok (decide (toLex (p, q) < toLex (r, t))) := by
  rw [Json.lt, Json.ltItems, Json.eq_of_number ha hc, Json.lt_of_number ha hc, Json.ltItems, Json.eq_of_number hb hd,
    Json.lt_of_number hb hd, Json.ltItems]
  simp only [Prod.Lex.toLex_lt_toLex, decide_eq_true_eq]
  by_cases hfirst : p = r
  · rw [if_pos hfirst]
    by_cases hsecond : q = t
    · simp [hfirst, hsecond]
    · simp [hfirst, hsecond]
  · rw [if_neg hfirst]
    simp [hfirst]

end Numbers

/-! ### Texts -/

theorem eqStr_iff {value : Json} {text : String} : value.eqStr text = true ↔ value = .str text := by
  cases value <;> simp [Json.eqStr]

theorem inSet_str (text : String) (texts : List String) : (Json.str text).inSet texts = .ok (decide (text ∈ texts)) := by
  have hany : (texts.any fun t => decide (Json.Key.str text = Json.Key.str t)) = decide (text ∈ texts) := by
    rw [Bool.eq_iff_iff]
    simp
  rw [← hany]
  rfl

/-! ### Keys of an object -/

@[simp] theorem dictGetD_cons_self (key : String) (value default : Json) (fields : Fields) :
    dictGetD ((key, value) :: fields) key default = value := by
  simp [dictGetD]

theorem dictGetD_cons_of_ne {key name : String} (hne : name ≠ key) (value default : Json) (fields : Fields) :
    dictGetD ((key, value) :: fields) name default = dictGetD fields name default := by
  simp [dictGetD, List.lookup_cons, beq_eq_false_iff_ne.mpr hne]

/-- A field is there, or it is absent. -/
theorem dictGet_of_dictGetD (fields : Fields) (key : String) (default : Json) :
    dictGet fields key = dictGetD fields key default ∨ dictGet fields key = .null ∧
      dictGetD fields key default = default := by
  unfold dictGet dictGetD at *
  cases hlookup : fields.lookup key with
  | none => exact Or.inr ⟨rfl, rfl⟩
  | some value => exact Or.inl rfl

/-- A field that is not null is there. -/
theorem dictGetD_of_not_none {fields : Fields} {key : String} {default : Json}
    (h : (dictGet fields key).isNone = false) : dictGetD fields key default = dictGet fields key := by
  unfold dictGet dictGetD at *
  cases hlookup : fields.lookup key with
  | none =>
    rw [hlookup] at h
    cases h
  | some value => rfl

/-- What a dict has and is no `None` does not depend on a default. -/
theorem dictGetD_of_dictGet {fields : Fields} {key : String} {value : Json} (h : dictGet fields key = value)
    (hvalue : value.isNone = false) (default : Json) : dictGetD fields key default = value := by
  subst h
  exact dictGetD_of_not_none hvalue

theorem item_of_not_none {fields : Fields} {key : String} (h : (dictGet fields key).isNone = false) :
    Json.item (.obj fields) key = .ok (dictGet fields key) := by
  unfold dictGet dictGetD at *
  simp only [Json.item]
  cases hlookup : fields.lookup key with
  | some value => rfl
  | none =>
    rw [hlookup] at h
    cases h

/-! ### `sorted` -/

section Sorted

variable {α : Type} (sortKey : α → Json)

/-- Insert an element behind those that are not greater. -/
def sortInsert (x : α) : List α → Py (List α)
  | [] => .ok [x]
  | y :: ys => do
    if ← Json.lt (sortKey x) (sortKey y) then .ok (x :: y :: ys)
    else
      let rest ← sortInsert x ys
      .ok (y :: rest)

/-- `sorted(xs, key=sortKey)`, which raises where a comparison does. -/
def sortedBy (xs : List α) : Py (List α) := xs.foldlM (fun sorted x => sortInsert sortKey x sorted) []

variable {sortKey}

theorem sortInsert_perm {x : α} {xs ys : List α} (h : sortInsert sortKey x xs = .ok ys) : ys.Perm (x :: xs) := by
  induction xs generalizing ys with
  | nil =>
    simp only [sortInsert, Except.ok.injEq] at h
    exact h ▸ .refl _
  | cons y xs ih =>
    simp only [sortInsert, bind, Except.bind] at h
    split at h
    · simp at h
    · split at h
      · simp only [Except.ok.injEq] at h
        exact h ▸ .refl _
      · split at h
        · simp at h
        · rename_i rest hrest
          simp only [Except.ok.injEq] at h
          subst h
          exact ((ih hrest).cons y).trans (.swap x y xs)

/-- `sorted` returns the elements it is given. -/
theorem sortedBy_perm {xs ys : List α} (h : sortedBy sortKey xs = .ok ys) : ys.Perm xs := by
  have hfold : ∀ (xs acc : List α) {ys}, xs.foldlM (fun sorted x => sortInsert sortKey x sorted) acc = .ok ys →
      ys.Perm (xs ++ acc) := by
    intro xs
    induction xs with
    | nil =>
      intro acc ys h
      simp only [List.foldlM_nil, pure, Except.pure, Except.ok.injEq] at h
      exact h ▸ .refl _
    | cons x xs ih =>
      intro acc ys h
      rw [List.foldlM_cons] at h
      cases hx : sortInsert sortKey x acc with
      | error e => simp [hx, bind, Except.bind] at h
      | ok acc' =>
        rw [hx] at h
        have hperm : (xs ++ acc').Perm (xs ++ x :: acc) := (sortInsert_perm hx).append_left xs
        exact ((ih acc' h).trans hperm).trans List.perm_middle
  simpa using hfold xs [] h

theorem sortInsert_of_not_lt {x : α} {xs : List α}
    (h : ∀ y ∈ xs, Json.lt (sortKey x) (sortKey y) = .ok false) : sortInsert sortKey x xs = .ok (xs ++ [x]) := by
  induction xs with
  | nil => rfl
  | cons y ys ih =>
    unfold sortInsert
    rw [h y List.mem_cons_self, ih fun z hz => h z (List.mem_cons_of_mem _ hz)]
    rfl

/-- `sorted` keeps a list in which no element is less than one before it. -/
theorem sortedBy_of_sorted {xs : List α} (h : xs.Pairwise fun x y => Json.lt (sortKey y) (sortKey x) = .ok false) :
    sortedBy sortKey xs = .ok xs := by
  induction xs using List.reverseRecOn with
  | nil => rfl
  | append_singleton xs x ih =>
    obtain ⟨hxs, -, hlast⟩ := List.pairwise_append.mp h
    have hinsert : sortInsert sortKey x xs = .ok (xs ++ [x]) :=
      sortInsert_of_not_lt fun y hy => hlast y hy x List.mem_cons_self
    unfold sortedBy at ih ⊢
    rw [List.foldlM_append, ih hxs]
    show (sortInsert sortKey x xs >>= _) = _
    rw [hinsert]
    rfl

variable {β : Type} [LinearOrder β] {g : α → β}

theorem sortInsert_of_order {x : α} {ys : List α}
    (h : ∀ y ∈ ys, Json.lt (sortKey x) (sortKey y) = .ok (decide (g x < g y))) (hys : ys.Pairwise fun a b => g a ≤ g b) :
    ∃ zs, sortInsert sortKey x ys = .ok zs ∧ zs.Perm (x :: ys) ∧ zs.Pairwise fun a b => g a ≤ g b := by
  induction ys with
  | nil => exact ⟨[x], rfl, .refl _, List.pairwise_singleton _ _⟩
  | cons y ys ih =>
    obtain ⟨hle, hys'⟩ := List.pairwise_cons.mp hys
    unfold sortInsert
    rw [h y List.mem_cons_self]
    by_cases hlt : g x < g y
    · refine ⟨x :: y :: ys, by simp [hlt, bind, Except.bind], .refl _, List.pairwise_cons.mpr ⟨fun z hz => ?_, hys⟩⟩
      rcases List.mem_cons.mp hz with rfl | hz
      · exact hlt.le
      · exact hlt.le.trans (hle z hz)
    · obtain ⟨zs, hzs, hperm, hsorted⟩ := ih (fun z hz => h z (List.mem_cons_of_mem _ hz)) hys'
      refine ⟨y :: zs, by simp [hlt, hzs, bind, Except.bind], (hperm.cons y).trans (.swap x y ys),
        List.pairwise_cons.mpr ⟨fun z hz => ?_, hsorted⟩⟩
      rcases List.mem_cons.mp (hperm.mem_iff.mp hz) with rfl | hz
      · exact not_lt.mp hlt
      · exact hle z hz

/-- `sorted` under keys that compare as the elements of a linear order. -/
theorem sortedBy_of_order {xs : List α}
    (h : ∀ x ∈ xs, ∀ y ∈ xs, Json.lt (sortKey x) (sortKey y) = .ok (decide (g x < g y))) :
    ∃ ys, sortedBy sortKey xs = .ok ys ∧ ys.Perm xs ∧ ys.Pairwise fun a b => g a ≤ g b := by
  induction xs using List.reverseRecOn with
  | nil => exact ⟨[], rfl, .refl _, .nil⟩
  | append_singleton xs x ih =>
    obtain ⟨ys, hys, hperm, hsorted⟩ := ih fun a ha b hb => h a (by simp [ha]) b (by simp [hb])
    obtain ⟨zs, hzs, hperm', hsorted'⟩ := sortInsert_of_order
      (fun y hy => h x (by simp) y (by simp [hperm.mem_iff.mp hy])) hsorted
    refine ⟨zs, ?_, (hperm'.trans (hperm.cons x)).trans (List.perm_append_singleton x xs).symm, hsorted'⟩
    unfold sortedBy at hys ⊢
    rw [List.foldlM_append, hys]
    show (sortInsert sortKey x ys >>= _) = _
    rw [hzs]
    rfl

/-- Elements with different keys are sorted alike however they are given. -/
theorem sortedBy_eq_of_perm {xs ys : List α} (hperm : xs.Perm ys)
    (h : ∀ x ∈ xs, ∀ y ∈ xs, Json.lt (sortKey x) (sortKey y) = .ok (decide (g x < g y)))
    (hinj : ∀ x ∈ xs, ∀ y ∈ xs, g x = g y → x = y) : sortedBy sortKey xs = sortedBy sortKey ys := by
  obtain ⟨xs', hxs, hperm₁, hsorted₁⟩ := sortedBy_of_order h
  obtain ⟨ys', hys, hperm₂, hsorted₂⟩ := @sortedBy_of_order _ sortKey _ _ g ys fun x hx y hy =>
    h x (hperm.mem_iff.mpr hx) y (hperm.mem_iff.mpr hy)
  rw [hxs, hys]
  congr 1
  refine List.Perm.eq_of_pairwise (fun a b ha hb hab hba => ?_) hsorted₁ hsorted₂
    ((hperm₁.trans hperm).trans hperm₂.symm)
  exact hinj a (hperm₁.mem_iff.mp ha) b (hperm.mem_iff.mpr (hperm₂.mem_iff.mp hb)) (le_antisymm hab hba)

end Sorted

/-! ### `defaultdict(list)` -/

section Groups

variable {α : Type}

/-- The items of a `defaultdict(list)`: what is kept of the key, the key, and the list under it. -/
abbrev Groups (α : Type) := List (Json.Key × Json × List α)

/-- `groups[name].append(x)` for a name that is kept as `key`. -/
def Groups.appendAt (key : Json.Key) (name : Json) (x : α) : Groups α → Groups α
  | [] => [(key, name, [x])]
  | (k, n, xs) :: groups => if k = key then (k, n, xs ++ [x]) :: groups else (k, n, xs) :: appendAt key name x groups

/-- Append every element under its name. -/
def groupBy (name : α → Json) (xs : List α) : Py (Groups α) :=
  xs.foldlM (fun groups x => do
    let key ← (name x).key
    .ok (Groups.appendAt key (name x) x groups)) []

/-- `groups.get(text, [])`. -/
def Groups.under (groups : Groups α) (text : String) : List α :=
  match groups.find? fun group => group.1 = .str text with
  | some group => group.2.2
  | none => []

variable {name : α → Json}

/-- A group of an append is an old one, the old one with the new element, or the new element alone. -/
theorem Groups.mem_appendAt {key : Json.Key} {n : Json} {x : α} {groups : Groups α} {g : Json.Key × Json × List α}
    (h : g ∈ groups.appendAt key n x) :
    g ∈ groups ∨ (∃ xs, (key, g.2.1, xs) ∈ groups ∧ g = (key, g.2.1, xs ++ [x])) ∨ g = (key, n, [x]) := by
  induction groups with
  | nil => exact .inr (.inr (by simpa [appendAt] using h))
  | cons group groups ih =>
    obtain ⟨k, n', xs⟩ := group
    rw [appendAt] at h
    by_cases hk : k = key
    · rw [if_pos hk] at h
      rcases List.mem_cons.mp h with rfl | hmem
      · exact .inr (.inl ⟨xs, by simp [hk], by simp [hk]⟩)
      · exact .inl (List.mem_cons_of_mem _ hmem)
    · rw [if_neg hk] at h
      rcases List.mem_cons.mp h with rfl | hmem
      · exact .inl List.mem_cons_self
      · rcases ih hmem with hold | ⟨ys, hys, heq⟩ | hnew
        · exact .inl (List.mem_cons_of_mem _ hold)
        · exact .inr (.inl ⟨ys, List.mem_cons_of_mem _ hys, heq⟩)
        · exact .inr (.inr hnew)

/-- The new element is in a group, and every old element still is. -/
theorem Groups.exists_mem_appendAt {key : Json.Key} {n : Json} {x y : α} {groups : Groups α}
    (h : y = x ∨ ∃ g ∈ groups, y ∈ g.2.2) : ∃ g ∈ groups.appendAt key n x, y ∈ g.2.2 := by
  induction groups with
  | nil =>
    rcases h with rfl | ⟨g, hg, -⟩
    · exact ⟨_, List.mem_cons_self, by simp⟩
    · simp at hg
  | cons group groups ih =>
    obtain ⟨k, n', xs⟩ := group
    rw [appendAt]
    by_cases hk : k = key
    · rw [if_pos hk]
      rcases h with rfl | ⟨g, hg, hy⟩
      · exact ⟨_, List.mem_cons_self, by simp⟩
      · rcases List.mem_cons.mp hg with rfl | hg
        · exact ⟨_, List.mem_cons_self, by simp [show y ∈ xs from hy]⟩
        · exact ⟨g, List.mem_cons_of_mem _ hg, hy⟩
    · rw [if_neg hk]
      rcases h with rfl | ⟨g, hg, hy⟩
      · obtain ⟨g, hg, hy⟩ := ih (.inl rfl)
        exact ⟨g, List.mem_cons_of_mem _ hg, hy⟩
      · rcases List.mem_cons.mp hg with rfl | hg
        · exact ⟨_, List.mem_cons_self, hy⟩
        · obtain ⟨g, hg, hy⟩ := ih (.inr ⟨g, hg, hy⟩)
          exact ⟨g, List.mem_cons_of_mem _ hg, hy⟩

/-- Appending adds the element to those in the groups. -/
theorem Groups.appendAt_perm (key : Json.Key) (n : Json) (x : α) (groups : Groups α) :
    ((groups.appendAt key n x).flatMap fun g => g.2.2).Perm (x :: groups.flatMap fun g => g.2.2) := by
  induction groups with
  | nil => exact List.Perm.refl _
  | cons group groups ih =>
    obtain ⟨k, n', xs⟩ := group
    rw [appendAt]
    by_cases hk : k = key
    · rw [if_pos hk, List.flatMap_cons, List.flatMap_cons, List.append_assoc]
      exact List.perm_middle
    · rw [if_neg hk, List.flatMap_cons, List.flatMap_cons]
      exact (ih.append_left xs).trans List.perm_middle

/-- What holds of a grouping: a group stands under the name of one of its elements, its elements are given ones with
an equal name, and every element given is in a group. -/
structure Grouped (name : α → Json) (xs : List α) (groups : Groups α) : Prop where
  named : ∀ g ∈ groups, g.2.1.key = .ok g.1 ∧ ∃ x ∈ xs, name x = g.2.1
  sound : ∀ g ∈ groups, ∀ x ∈ g.2.2, x ∈ xs ∧ (name x).key = .ok g.1
  complete : ∀ x ∈ xs, ∃ g ∈ groups, x ∈ g.2.2

theorem Grouped.appendAt {xs : List α} {groups : Groups α} {x : α} {key : Json.Key} (h : Grouped name xs groups)
    (hkey : (name x).key = .ok key) : Grouped name (xs ++ [x]) (groups.appendAt key (name x) x) where
  named g hg := by
    rcases Groups.mem_appendAt hg with hold | ⟨ys, hys, heq⟩ | rfl
    · obtain ⟨hk, y, hy, hname⟩ := h.named g hold
      exact ⟨hk, y, by simp [hy], hname⟩
    · obtain ⟨hk, y, hy, hname⟩ := h.named _ hys
      rw [heq]
      exact ⟨hk, y, by simp [hy], hname⟩
    · exact ⟨hkey, x, by simp, rfl⟩
  sound g hg y hy := by
    rcases Groups.mem_appendAt hg with hold | ⟨ys, hys, heq⟩ | rfl
    · obtain ⟨hmem, hk⟩ := h.sound g hold y hy
      exact ⟨by simp [hmem], hk⟩
    · rw [heq] at hy ⊢
      rcases List.mem_append.mp hy with hy | hy
      · obtain ⟨hmem, hk⟩ := h.sound _ hys y hy
        exact ⟨by simp [hmem], hk⟩
      · obtain rfl := List.mem_singleton.mp hy
        exact ⟨by simp, hkey⟩
    · obtain rfl := List.mem_singleton.mp hy
      exact ⟨by simp, hkey⟩
  complete y hy := by
    rcases List.mem_append.mp hy with hy | hy
    · exact Groups.exists_mem_appendAt (.inr (h.complete y hy))
    · exact Groups.exists_mem_appendAt (.inl (List.mem_singleton.mp hy))

theorem groupBy_grouped {xs : List α} {groups : Groups α} (h : groupBy name xs = .ok groups) :
    Grouped name xs groups := by
  induction xs using List.reverseRecOn generalizing groups with
  | nil =>
    simp only [groupBy, List.foldlM_nil, pure, Except.pure, Except.ok.injEq] at h
    subst h
    exact ⟨by simp, by simp, by simp⟩
  | append_singleton xs x ih =>
    unfold groupBy at h
    rw [List.foldlM_append] at h
    change (groupBy name xs >>= _) = _ at h
    cases hxs : groupBy name xs with
    | error e => simp [hxs, bind, Except.bind] at h
    | ok groups' =>
      rw [hxs] at h
      cases hkey : (name x).key with
      | error e => simp [hkey, bind, Except.bind, List.foldlM_cons] at h
      | ok key =>
        simp only [List.foldlM_cons, List.foldlM_nil, hkey, bind, Except.bind, pure, Except.pure,
          Except.ok.injEq] at h
        exact h ▸ (ih hxs).appendAt hkey

/-- What holds of a grouping by a key that every element has: each group is what is given under its key, in order. -/
structure GroupedBy (keyOf : α → Json.Key) (name : α → Json) (xs : List α) (groups : Groups α) : Prop where
  keys : (groups.map Prod.fst).Nodup
  under : ∀ g ∈ groups, g.2.2 = xs.filter fun x => keyOf x = g.1
  named : ∀ g ∈ groups, ∃ x ∈ xs, keyOf x = g.1 ∧ name x = g.2.1
  complete : ∀ x ∈ xs, keyOf x ∈ groups.map Prod.fst
  perm : (groups.flatMap fun g => g.2.2).Perm xs

variable {keyOf : α → Json.Key}

theorem Groups.map_fst_appendAt (key : Json.Key) (n : Json) (x : α) (groups : Groups α) :
    (groups.appendAt key n x).map Prod.fst =
      if key ∈ groups.map Prod.fst then groups.map Prod.fst else groups.map Prod.fst ++ [key] := by
  induction groups with
  | nil => rfl
  | cons group groups ih =>
    obtain ⟨k, n', xs⟩ := group
    rw [appendAt]
    by_cases hk : k = key
    · rw [if_pos hk, List.map_cons, List.map_cons, if_pos (by simp [hk])]
    · rw [if_neg hk, List.map_cons, List.map_cons, ih]
      by_cases hmem : key ∈ groups.map Prod.fst
      · rw [if_pos hmem, if_pos (List.mem_cons_of_mem _ hmem)]
      · rw [if_neg hmem, if_neg, List.cons_append]
        exact fun h => (List.mem_cons.mp h).elim (fun heq => hk heq.symm) hmem

/-- In groups with different keys a group of an append has the old elements and, under its key, the new one. -/
theorem Groups.appendAt_filter {key : Json.Key} {n : Json} {x : α} {xs : List α} {groups : Groups α}
    (hkeys : (groups.map Prod.fst).Nodup) (hkey : keyOf x = key)
    (hunder : ∀ g ∈ groups, g.2.2 = xs.filter fun y => keyOf y = g.1)
    (hnew : key ∉ groups.map Prod.fst → (xs.filter fun y => keyOf y = key) = []) :
    ∀ g ∈ groups.appendAt key n x, g.2.2 = (xs ++ [x]).filter fun y => keyOf y = g.1 := by
  have hlast : ∀ k, (xs ++ [x]).filter (fun y => decide (keyOf y = k)) =
      xs.filter (fun y => decide (keyOf y = k)) ++ if key = k then [x] else [] := by
    intro k
    rw [List.filter_append, List.filter_singleton, hkey]
    by_cases hk : key = k <;> simp [hk]
  intro g hg
  rw [hlast]
  induction groups with
  | nil =>
    obtain rfl := List.mem_singleton.mp hg
    rw [hnew (by simp), if_pos rfl]
    rfl
  | cons group groups ih =>
    obtain ⟨k, n', ys⟩ := group
    obtain ⟨hnot, hnodup⟩ := List.nodup_cons.mp (show ((k, n', ys) :: groups).map Prod.fst |>.Nodup from hkeys)
    have hhead : ys = xs.filter fun y => keyOf y = k := hunder _ List.mem_cons_self
    have htail : ∀ g ∈ groups, g.2.2 = xs.filter fun y => keyOf y = g.1 := fun g hg =>
      hunder g (List.mem_cons_of_mem _ hg)
    rw [appendAt] at hg
    by_cases hk : k = key
    · rw [if_pos hk] at hg
      rcases List.mem_cons.mp hg with rfl | hg
      · rw [if_pos hk.symm, ← hhead]
      · rw [if_neg, List.append_nil]
        · exact htail g hg
        · intro heq
          refine hnot (show k ∈ groups.map Prod.fst from ?_)
          rw [hk, heq]
          exact List.mem_map_of_mem hg
    · rw [if_neg hk] at hg
      rcases List.mem_cons.mp hg with rfl | hg
      · rw [if_neg fun h => hk h.symm, List.append_nil]
        exact hhead
      · refine ih hnodup htail (fun hmem => hnew fun h => ?_) hg
        rcases List.mem_cons.mp h with heq | h
        · exact hk heq.symm
        · exact hmem h

theorem GroupedBy.appendAt {xs : List α} {groups : Groups α} (h : GroupedBy keyOf name xs groups) (x : α) :
    GroupedBy keyOf name (xs ++ [x]) (groups.appendAt (keyOf x) (name x) x) where
  keys := by
    rw [Groups.map_fst_appendAt]
    split_ifs with hmem
    · exact h.keys
    · exact List.nodup_append.mpr ⟨h.keys, List.nodup_singleton _, by
        rintro a ha b hb rfl
        exact hmem (List.mem_singleton.mp hb ▸ ha)⟩
  under := by
    refine Groups.appendAt_filter h.keys rfl h.under fun hnot => List.filter_eq_nil_iff.mpr fun y hy hyx => ?_
    exact hnot (of_decide_eq_true hyx ▸ h.complete y hy)
  named g hg := by
    rcases Groups.mem_appendAt hg with hold | ⟨ys, hys, heq⟩ | rfl
    · obtain ⟨y, hy, hkey, hname⟩ := h.named g hold
      exact ⟨y, List.mem_append_left _ hy, hkey, hname⟩
    · obtain ⟨y, hy, hkey, hname⟩ := h.named _ hys
      rw [heq]
      exact ⟨y, List.mem_append_left _ hy, hkey, hname⟩
    · exact ⟨x, by simp, rfl, rfl⟩
  complete y hy := by
    rw [Groups.map_fst_appendAt]
    rcases List.mem_append.mp hy with hy | hy
    · split_ifs
      · exact h.complete y hy
      · exact List.mem_append_left _ (h.complete y hy)
    · obtain rfl := List.mem_singleton.mp hy
      split_ifs with hmem
      · exact hmem
      · simp
  perm :=
    ((Groups.appendAt_perm (keyOf x) (name x) x groups).trans (h.perm.cons x)).trans
      (List.perm_append_singleton x xs).symm

theorem groupedBy_nil : GroupedBy keyOf name [] ([] : Groups α) := ⟨.nil, by simp, by simp, by simp, .refl _⟩

end Groups

end Att1.Lib
