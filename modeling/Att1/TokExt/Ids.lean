import Att1.Lib.Split
import Att1.TokExt.Model

/-!
# Att1.TokExt.Ids — which texts are ID lists

* `parseOneId_eq_ok`: an ID is accepted, and read, by the first 63 bytes of its segment.
* `IdList`: the grammar of ID lists, with values of any size; `idList_iff`: it is read part by part.
* `parseIdsStr_eq_ok`: what the parser accepts; `parseIdsStr_iff`: when that is the grammar.
-/

open Att1.Lib

namespace Att1.TokExt

/-! ### One ID -/

/-- The text is a numeral that stands for a token of the vocabulary. -/
def TokenId (vocabSize : ℕ) (text : List UInt8) : Prop := IsNumeral text ∧ digitsValue text < vocabSize

instance (vocabSize : ℕ) (text : List UInt8) : Decidable (TokenId vocabSize text) := inferInstanceAs (Decidable (_ ∧ _))

/-- What `parse_one_id` reads of a segment. -/
def inBuffer (seg : List UInt8) : List UInt8 := seg.take (idBufferSize - 1)

section One

variable {vocabSize position id : ℕ} {text seg : List UInt8}

/-- A conversion that stops at the end and sets no `errno` has read a numeral. -/
theorem strtoul_eq_iff {val : ℕ} : strtoul text = (val, [], false) ↔
    (∀ c ∈ text, isDigit c = true) ∧ digitsValue text = val ∧ val ≤ sizeMax := by
  unfold strtoul
  by_cases hdigits : ∀ c ∈ text, isDigit c = true
  · have htake : text.takeWhile isDigit = text := List.takeWhile_eq_self_iff.mpr hdigits
    have hdrop : text.dropWhile isDigit = [] := List.dropWhile_eq_nil_iff.mpr hdigits
    simp only [htake, hdrop, and_iff_right hdigits]
    by_cases hlarge : sizeMax < digitsValue text
    · rw [if_pos hlarge]
      exact iff_of_false (by simp) fun ⟨heq, hle⟩ => by omega
    · rw [if_neg hlarge]
      constructor
      · intro h
        cases h
        exact ⟨rfl, by omega⟩
      · rintro ⟨rfl, -⟩
        rfl
  · refine iff_of_false (fun h => ?_) fun h => hdigits h.1
    have hrest : text.dropWhile isDigit = [] := by
      dsimp only at h
      split_ifs at h
      · exact absurd (Prod.mk.inj (Prod.mk.inj h).2).2 (by decide)
      · exact (Prod.mk.inj (Prod.mk.inj h).2).1
    exact hdigits (List.dropWhile_eq_nil_iff.mp hrest)

/-- **One ID** is accepted where the first 63 bytes of its segment are, and has their value. -/
theorem parseOneId_eq_ok (hvocab : vocabSize ≤ uint32Max) : parseOneId seg vocabSize position = .ok id ↔
    TokenId vocabSize (inBuffer seg) ∧ id = digitsValue (inBuffer seg) := by
  have hread : parseOneId seg vocabSize position = .ok id ↔
      ¬ (seg.length = 0 ∨ ¬ (inBuffer seg).head?.any isDigit) ∧
        ∃ val, strtoul (inBuffer seg) = (val, [], false) ∧ val ≤ uint32Max ∧ uint32 val < vocabSize ∧ uint32 val = id := by
    unfold parseOneId
    dsimp only
    rw [rejectIf_bind_eq_ok]
    refine and_congr_right fun _ => ?_
    have hbuf : seg.take (idBufferSize - 1) = inBuffer seg := rfl
    rw [hbuf]
    generalize strtoul (inBuffer seg) = conversion
    obtain ⟨val, endp, errno⟩ := conversion
    simp only [rejectIf_bind_eq_ok, Except.ok.injEq, Prod.mk.injEq, not_or, not_not, Nat.not_le, Nat.not_lt,
      Bool.not_eq_true]
    constructor
    · rintro ⟨⟨hendp, herrno, hval⟩, hrange, hid⟩
      exact ⟨val, ⟨rfl, hendp, herrno⟩, hval, hrange, hid⟩
    · rintro ⟨_, ⟨rfl, hendp, herrno⟩, hval, hrange, hid⟩
      exact ⟨⟨hendp, herrno, hval⟩, hrange, hid⟩
  have hhead : (∀ c ∈ inBuffer seg, isDigit c = true) →
      (¬ (seg.length = 0 ∨ ¬ (inBuffer seg).head?.any isDigit) ↔ inBuffer seg ≠ []) := by
    intro hdigits
    cases seg with
    | nil => simp [inBuffer]
    | cons c seg =>
      have hc := hdigits c List.mem_cons_self
      simp [inBuffer, idBufferSize, hc]
  rw [hread]
  simp only [strtoul_eq_iff]
  constructor
  · rintro ⟨hne, val, ⟨hdigits, rfl, -⟩, hval, hrange, rfl⟩
    rw [uint32_eq hval] at hrange ⊢
    exact ⟨⟨⟨(hhead hdigits).mp hne, hdigits⟩, hrange⟩, rfl⟩
  · rintro ⟨⟨hnumeral, hrange⟩, rfl⟩
    have hval : digitsValue (inBuffer seg) ≤ uint32Max := by omega
    have hsize : digitsValue (inBuffer seg) ≤ sizeMax := hval.trans (by decide)
    refine ⟨(hhead hnumeral.digits).mpr hnumeral.ne_nil, _, ⟨hnumeral.digits, rfl, hsize⟩, hval, ?_, uint32_eq hval⟩
    rwa [uint32_eq hval]

/-- A token ID is one in its first 63 bytes. -/
theorem TokenId.inBuffer (h : TokenId vocabSize seg) : TokenId vocabSize (inBuffer seg) := by
  obtain ⟨hnumeral, hlt⟩ := h
  refine ⟨⟨?_, fun c hc => hnumeral.digits c (List.mem_of_mem_take hc)⟩, ?_⟩
  · have hpos := List.length_pos_iff.mpr hnumeral.ne_nil
    rw [← List.length_pos_iff]
    unfold TokExt.inBuffer idBufferSize
    rw [List.length_take]
    omega
  · exact (digitsValue_take_le _ _).trans_lt hlt

/-- A segment that fits the buffer, or has the digit 0 only. -/
def Fits (seg : List UInt8) : Prop := idBufferSize ≤ seg.length → ∀ c ∈ seg, c = 0x30

instance : Decidable (Fits seg) := inferInstanceAs (Decidable (_ → _))

/-- Such a segment is read as it stands. -/
theorem Fits.read (h : Fits seg) (hid : TokenId vocabSize (inBuffer seg)) :
    TokenId vocabSize seg ∧ digitsValue (inBuffer seg) = digitsValue seg := by
  by_cases hlong : idBufferSize ≤ seg.length
  · have hzeros := h hlong
    have hdigits : ∀ c ∈ seg, isDigit c = true := fun c hc => hzeros c hc ▸ (by decide)
    have hvalue := (digitsValue_eq_zero_iff hdigits).mpr hzeros
    have hle := digitsValue_take_le (idBufferSize - 1) seg
    have hne : seg ≠ [] := by
      rintro rfl
      exact absurd hlong (by decide)
    refine ⟨⟨⟨hne, hdigits⟩, ?_⟩, ?_⟩
    · have := hid.2
      omega
    · show digitsValue (seg.take (idBufferSize - 1)) = _
      omega
  · have heq : TokExt.inBuffer seg = seg := List.take_of_length_le (by omega)
    rw [heq] at hid ⊢
    exact ⟨hid, rfl⟩

/-- No other segment is. -/
theorem fits_of_read (hdigits : ∀ c ∈ seg, isDigit c = true)
    (hvalue : digitsValue (inBuffer seg) = digitsValue seg) : Fits seg := fun hlong =>
  (digitsValue_take_eq_iff hdigits (by
    unfold idBufferSize at *
    omega)).mp hvalue

end One

/-! ### Lists -/

/-- The text is a list of token IDs with these values: numerals of any length, with a comma between two. -/
def IdList (vocabSize : ℕ) (str : List UInt8) (ids : List ℕ) : Prop :=
  ∃ segs, segs ≠ [] ∧ [comma].intercalate segs = str ∧ (∀ seg ∈ segs, TokenId vocabSize seg) ∧
    ids = segs.map digitsValue

section Lists

variable {vocabSize : ℕ} {str seg rest p : List UInt8} {ids out : List ℕ}

/-- An ID list is read part by part. -/
theorem idList_iff : IdList vocabSize str ids ↔
    (∀ seg ∈ str.splitOn comma, TokenId vocabSize seg) ∧ ids = (str.splitOn comma).map digitsValue := by
  constructor
  · rintro ⟨segs, hne, rfl, hall, rfl⟩
    have hcomma : ∀ seg ∈ segs, comma ∉ seg := fun seg hseg hc =>
      absurd ((hall seg hseg).1.digits comma hc) (by decide)
    rw [List.splitOn_intercalate comma hcomma hne]
    exact ⟨hall, rfl⟩
  · rintro ⟨hall, rfl⟩
    exact ⟨_, List.splitOn_ne_nil _ _, List.intercalate_splitOn comma, hall, rfl⟩

theorem scanSegments_last (h : comma ∉ p) : scanSegments vocabSize p ids =
    (parseOneId p vocabSize (ids.length + 1) >>= fun id => .ok (ids ++ [id])) := by
  obtain ⟨htake, hdrop⟩ := takeWhile_ne_self h
  rw [scanSegments, htake]
  congr 1
  funext id
  split
  · rfl
  · rename_i heq
    rw [hdrop] at heq
    cases heq

theorem scanSegments_cons (h : comma ∉ seg) : scanSegments vocabSize (seg ++ comma :: rest) ids =
    (parseOneId seg vocabSize (ids.length + 1) >>= fun id => scanSegments vocabSize rest (ids ++ [id])) := by
  obtain ⟨htake, hdrop⟩ := @takeWhile_ne_append _ _ comma seg rest h
  rw [scanSegments, htake]
  congr 1
  funext id
  split
  · rename_i heq
    rw [hdrop] at heq
    cases heq
  · rename_i heq
    rw [hdrop] at heq
    cases heq
    rfl

/-- The loop reads every segment by its first 63 bytes. -/
theorem scanSegments_eq_ok (hvocab : vocabSize ≤ uint32Max) : scanSegments vocabSize p ids = .ok out ↔
    (∀ seg ∈ p.splitOn comma, TokenId vocabSize (inBuffer seg)) ∧
      out = ids ++ (p.splitOn comma).map fun seg => digitsValue (inBuffer seg) := by
  induction hlength : p.length using Nat.strong_induction_on generalizing p ids with
  | _ n ih =>
    by_cases hcomma : comma ∈ p
    · obtain ⟨seg, rest, rfl, hseg⟩ := List.eq_append_cons_of_mem hcomma
      have hrest (id : ℕ) := @ih rest.length (by
        rw [← hlength, List.length_append, List.length_cons]
        omega) rest (ids ++ [id]) rfl
      rw [scanSegments_cons hseg, bind_eq_ok, List.splitOn_append_cons_self_of_not_mem hseg]
      simp only [parseOneId_eq_ok hvocab, hrest, List.forall_mem_cons, List.map_cons, List.append_assoc,
        List.singleton_append]
      constructor
      · rintro ⟨id, ⟨hid, rfl⟩, hall, hout⟩
        exact ⟨⟨hid, hall⟩, hout⟩
      · rintro ⟨⟨hid, hall⟩, hout⟩
        exact ⟨_, ⟨hid, rfl⟩, hall, hout⟩
    · rw [scanSegments_last hcomma, bind_eq_ok, List.splitOn_eq_singleton hcomma]
      simp only [parseOneId_eq_ok hvocab, Except.ok.injEq, List.forall_mem_singleton, List.map_cons, List.map_nil]
      constructor
      · rintro ⟨id, ⟨hid, rfl⟩, rfl⟩
        exact ⟨hid, rfl⟩
      · rintro ⟨hid, rfl⟩
        exact ⟨_, ⟨hid, rfl⟩, rfl⟩

/-- **What the parser accepts**, and reads, where the array is granted. -/
theorem parseIdsStr_eq_ok {host : Host} (hvocab : vocabSize ≤ uint32Max)
    (hmalloc : host.malloc ((1 + str.count comma) * idSize) = true) : parseIdsStr host (some str) vocabSize = .ok ids ↔
      (∀ seg ∈ str.splitOn comma, TokenId vocabSize (inBuffer seg)) ∧
        ids = (str.splitOn comma).map fun seg => digitsValue (inBuffer seg) := by
  have hsize : sizeT ((1 + str.count comma) * idSize) = (1 + str.count comma) * idSize :=
    sizeT_eq (host.malloc_fits _ hmalloc)
  unfold parseIdsStr
  dsimp only
  rw [rejectIf_bind_eq_ok, rejectIf_bind_eq_ok, hsize, not_not, and_iff_right hmalloc, scanSegments_eq_ok hvocab,
    List.nil_append]
  refine and_iff_right_of_imp ?_
  rintro ⟨hall, -⟩ rfl
  exact (hall [] (by decide)).1.ne_nil rfl

/-- **When the parser accepts exactly the grammar**: where it refuses a segment by its first 63 bytes, or every segment
of 64 bytes or more has the digit 0 only. -/
theorem parseIdsStr_iff {host : Host} (hvocab : vocabSize ≤ uint32Max)
    (hmalloc : host.malloc ((1 + str.count comma) * idSize) = true) :
    (∀ ids, parseIdsStr host (some str) vocabSize = .ok ids ↔ IdList vocabSize str ids) ↔
      (∃ seg ∈ str.splitOn comma, ¬ TokenId vocabSize (inBuffer seg)) ∨ ∀ seg ∈ str.splitOn comma, Fits seg := by
  simp only [parseIdsStr_eq_ok hvocab hmalloc, idList_iff]
  by_cases hread : ∀ seg ∈ str.splitOn comma, TokenId vocabSize (inBuffer seg)
  · have hnone : ¬ ∃ seg ∈ str.splitOn comma, ¬ TokenId vocabSize (inBuffer seg) := by
      push Not
      exact hread
    rw [or_iff_right hnone]
    constructor
    · intro h seg hseg
      obtain ⟨hall, hvalues⟩ := (h _).mp ⟨hread, rfl⟩
      exact fits_of_read (hall seg hseg).1.digits (List.map_inj_left.mp hvalues seg hseg)
    · intro hfits ids
      have hvalues : ((str.splitOn comma).map fun seg => digitsValue (inBuffer seg)) =
          (str.splitOn comma).map digitsValue :=
        List.map_congr_left fun seg hseg => ((hfits seg hseg).read (hread seg hseg)).2
      rw [hvalues]
      exact and_congr_left fun _ =>
        iff_of_true hread fun seg hseg => ((hfits seg hseg).read (hread seg hseg)).1
  · have hrefused : ∃ seg ∈ str.splitOn comma, ¬ TokenId vocabSize (inBuffer seg) := by
      push Not at hread
      exact hread
    refine iff_of_true (fun ids => iff_of_false (fun h => hread h.1) fun h => ?_) (.inl hrefused)
    exact hread fun seg hseg => (h.1 seg hseg).inBuffer

end Lists

/-- Leading zeros within 63 bytes do no harm. -/
theorem parseIdsStr_leading_zeros :
    parseIdsStr .generous (some (ascii "1,002,3")) 16 = .ok [1, 2, 3] ↔ IdList 16 (ascii "1,002,3") [1, 2, 3] :=
  (parseIdsStr_iff (by decide) (by decide)).mpr (.inr (by decide)) [1, 2, 3]

/-- 63 zeros and a letter are accepted as the ID 0. -/
theorem parseIdsStr_trailing_letter :
    parseIdsStr .generous (some (List.replicate 63 0x30 ++ ascii "x")) 16 = .ok [0] ∧
      ¬ IdList 16 (List.replicate 63 0x30 ++ ascii "x") [0] := by
  constructor
  · exact (parseIdsStr_eq_ok (by decide) (by decide)).mpr (by decide +kernel)
  · rw [idList_iff]
    decide +kernel

end Att1.TokExt
