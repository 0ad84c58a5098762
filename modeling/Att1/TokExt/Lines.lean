import Att1.Lib.Table
import Att1.TokExt.Ids

/-!
# Att1.TokExt.Lines — which files are ID files

The reading loop sees a line in pieces of at most 255 bytes, and takes each piece for a line of its own.

* `fgets_cases`: the next piece of a file.
* `parseIdsFile_eq_ok`: what the parser accepts, piece by piece.
* `dataPieces_eq`: where lines come whole, the pieces are the lines.
* `parseIdsFile_iff`: when the parser reads exactly the lines.
-/

open Att1.Lib

namespace Att1.TokExt

/-! ### Lines and pieces -/

/-- A text that is neither blank nor a comment. -/
def IsData (text : List UInt8) : Prop := text ≠ [] ∧ text.head? ≠ some hash

instance (text : List UInt8) : Decidable (IsData text) := inferInstanceAs (Decidable (_ ∧ _))

/-- The lines of a file that hold data. -/
def dataLines (file : List UInt8) : List (List UInt8) := (file.splitOn newline).filter fun line => IsData line

/-- What the loop sees of a file, empty pieces left out. -/
def pieces (file : List UInt8) : List (List UInt8) := (file.splitOn newline).flatMap (chunks (lineBufferSize - 1))

/-- The pieces of a file that are taken for data. -/
def dataPieces (file : List UInt8) : List (List UInt8) := (pieces file).filter fun piece => IsData piece

section Pieces

variable {file part rest text : List UInt8}

theorem pieces_newline (h : newline ∉ text) :
    pieces (text ++ newline :: rest) = chunks (lineBufferSize - 1) text ++ pieces rest := by
  unfold pieces
  rw [List.splitOn_append_cons_self_of_not_mem h, List.flatMap_cons]

theorem pieces_part (h : newline ∉ part) (hlength : part.length = lineBufferSize - 1) :
    pieces (part ++ rest) = part :: pieces rest := by
  unfold pieces
  rw [splitOn_append h]
  obtain ⟨line, lines, hsplit⟩ := List.exists_cons_of_ne_nil (List.splitOn_ne_nil newline rest)
  rw [hsplit, List.modifyHead_cons, List.flatMap_cons, List.flatMap_cons, chunks_append (by decide) hlength,
    List.cons_append]

theorem pieces_last (h : newline ∉ file) : pieces file = chunks (lineBufferSize - 1) file := by
  unfold pieces
  rw [List.splitOn_eq_singleton h, List.flatMap_singleton]

/-- A short text is one piece, or none where it is empty. -/
theorem filter_chunks (hle : text.length ≤ lineBufferSize - 1) :
    (chunks (lineBufferSize - 1) text).filter (fun piece => IsData piece) = [text].filter fun piece => IsData piece := by
  rcases eq_or_ne text [] with rfl | hne
  · rw [chunks_nil (by decide)]
    decide
  · rw [chunks_eq_singleton (by decide) hne hle]

/-- **The next piece** of a file: a line up to its newline, or 255 bytes of one, or what is left of the file. -/
theorem fgets_cases (hne : file ≠ []) : ∃ line rest, fgets lineBufferSize file = some (line, rest) ∧ file = line ++ rest ∧
    dataPieces file = [line.takeWhile fun c => c ≠ newline].filter (fun piece => IsData piece) ++ dataPieces rest := by
  unfold fgets
  rw [if_neg hne]
  dsimp only
  generalize hpart : file.take (lineBufferSize - 1) = part
  have hfile : part ++ file.drop (lineBufferSize - 1) = file := hpart ▸ List.take_append_drop _ _
  have hlength : part.length = min (lineBufferSize - 1) file.length := by rw [← hpart, List.length_take]
  by_cases hnewline : newline ∈ part
  · obtain ⟨text, tail, rfl, htext⟩ := List.eq_append_cons_of_mem hnewline
    obtain ⟨htake, -⟩ := @takeWhile_ne_append _ _ newline text tail htext
    have hline : (text ++ newline :: tail).take (text.length + 1) = text ++ [newline] := by
      rw [List.append_cons]
      exact List.take_left' (by rw [List.length_append, List.length_singleton])
    rw [htake, hline]
    rw [List.append_assoc, List.cons_append, List.append_cons] at hfile
    have hrest : file.drop (text ++ [newline]).length = tail ++ file.drop (lineBufferSize - 1) := by
      conv_lhs => rw [← hfile]
      exact List.drop_left
    refine ⟨_, _, rfl, by rw [hrest, hfile], ?_⟩
    obtain ⟨htake', -⟩ := @takeWhile_ne_append _ _ newline text [] htext
    rw [List.length_append, List.length_cons] at hlength
    rw [hrest, htake']
    unfold dataPieces
    conv_lhs => rw [← hfile, ← List.append_cons]
    rw [pieces_newline htext, List.filter_append, filter_chunks (by omega)]
  · obtain ⟨htake, -⟩ := takeWhile_ne_self hnewline
    rw [htake, List.take_of_length_le (Nat.le_succ _)]
    have hrest : file.drop part.length = file.drop (lineBufferSize - 1) := by
      conv_lhs => rw [← hfile]
      exact List.drop_left
    refine ⟨_, _, rfl, by rw [hrest, hfile], ?_⟩
    rw [hrest, htake]
    unfold dataPieces
    by_cases hlong : lineBufferSize - 1 ≤ file.length
    · conv_lhs => rw [← hfile, pieces_part hnewline (by omega)]
      exact List.filter_append [part] _
    · have hnil : file.drop (lineBufferSize - 1) = [] := List.drop_eq_nil_of_le (by omega)
      rw [hnil, List.append_nil] at hfile
      have hempty : pieces [] = [] := by decide
      rw [hnil, hempty, List.filter_nil, List.append_nil, ← hfile, pieces_last hnewline, filter_chunks (by omega)]

end Pieces

/-! ### The reading loop -/

/-- The host grants an array of that many IDs. -/
def GrantsIds (host : Host) (n : ℕ) : Prop := ∀ cap ≤ n, host.malloc (cap * idSize) = true

/-- An ID stored, in an array that doubles where it is full. -/
def ReadState.push (state : ReadState) (id : ℕ) : ReadState :=
  ⟨state.ids ++ [id], if state.cap ≤ state.ids.length then state.cap * 2 else state.cap, state.lineno + 1⟩

section Loop

variable {host : Host} {vocabSize : ℕ} {state : ReadState} {file line text : List UInt8} {ids : List ℕ}

/-- Blank lines and comments are skipped. -/
theorem readLine_skip (hnul : 0 ∉ line) (hskip : ¬ IsData (line.takeWhile fun c => c ≠ newline)) :
    readLine host vocabSize state line = .ok { state with lineno := state.lineno + 1 } := by
  unfold readLine
  rw [cString_of_ne_zero fun _ hc => ne_of_mem_of_not_mem hc hnul]
  refine if_pos ?_
  by_contra hdata
  exact hskip (not_or.mp hdata)

/-- The other lines are read as one ID. -/
theorem readLine_data (hvocab : vocabSize ≤ uint32Max) (hgrants : GrantsIds host (2 * state.ids.length)) (hnul : 0 ∉ line)
    (hdata : IsData (line.takeWhile fun c => c ≠ newline)) {state' : ReadState} :
    readLine host vocabSize state line = .ok state' ↔
      TokenId vocabSize (inBuffer (line.takeWhile fun c => c ≠ newline)) ∧
        state' = state.push (digitsValue (inBuffer (line.takeWhile fun c => c ≠ newline))) := by
  have hstore (id : ℕ) : (if state.cap ≤ state.ids.length then
        rejectIf (¬ host.malloc (sizeT (sizeT (state.cap * 2) * idSize))) .oomGrowing >>= fun _ =>
          .ok ⟨state.ids ++ [id], sizeT (state.cap * 2), state.lineno + 1⟩
      else .ok ⟨state.ids ++ [id], state.cap, state.lineno + 1⟩ : Except TokExtError ReadState) =
        .ok (state.push id) := by
    unfold ReadState.push
    by_cases hfull : state.cap ≤ state.ids.length
    · have hgrant := hgrants (state.cap * 2) (by omega)
      have hfits := host.malloc_fits _ hgrant
      have hcap : sizeT (state.cap * 2) = state.cap * 2 := sizeT_eq (le_trans (Nat.le_mul_of_pos_right _ (by decide)) hfits)
      rw [if_pos hfull, if_pos hfull, hcap, sizeT_eq hfits]
      exact rejectIf_bind_eq_ok.mpr ⟨not_not.mpr hgrant, rfl⟩
    · rw [if_neg hfull, if_neg hfull]
  unfold readLine
  rw [cString_of_ne_zero fun _ hc => ne_of_mem_of_not_mem hc hnul]
  dsimp only
  rw [if_neg (not_or.mpr hdata), bind_eq_ok]
  simp only [parseOneId_eq_ok hvocab, hstore, Except.ok.injEq]
  constructor
  · rintro ⟨id, ⟨hid, rfl⟩, rfl⟩
    exact ⟨hid, rfl⟩
  · rintro ⟨hid, rfl⟩
    exact ⟨_, ⟨hid, rfl⟩, rfl⟩

theorem readLines_nil : readLines host vocabSize [] state = .ok state := by
  rw [readLines]
  rfl

theorem readLines_cons {rest : List UInt8} (h : fgets lineBufferSize file = some (line, rest)) :
    readLines host vocabSize file state =
      (readLine host vocabSize state line >>= fun state => readLines host vocabSize rest state) := by
  rw [readLines]
  split
  · rename_i hnone
    rw [h] at hnone
    cases hnone
  · rename_i line' rest' hsome
    rw [h] at hsome
    cases hsome
    rfl

/-- **The loop** reads every piece that it takes for data by its first 63 bytes. -/
theorem readLines_eq_ok (hvocab : vocabSize ≤ uint32Max) (hnul : 0 ∉ file)
    (hgrants : GrantsIds host (2 * (state.ids.length + file.length))) :
    (∃ state', readLines host vocabSize file state = .ok state' ∧ state'.ids = ids) ↔
      (∀ piece ∈ dataPieces file, TokenId vocabSize (inBuffer piece)) ∧
        ids = state.ids ++ (dataPieces file).map fun piece => digitsValue (inBuffer piece) := by
  induction hlength : file.length using Nat.strong_induction_on generalizing file state with
  | _ n ih =>
    rcases eq_or_ne file [] with rfl | hne
    · have hempty : dataPieces [] = [] := by decide
      rw [readLines_nil, hempty, List.map_nil, List.append_nil]
      constructor
      · rintro ⟨state', hstate, rfl⟩
        exact ⟨fun _ h => absurd h List.not_mem_nil, by rw [Except.ok.inj hstate]⟩
      · rintro ⟨-, rfl⟩
        exact ⟨state, rfl, rfl⟩
    · obtain ⟨line, rest, hread, hfile, hpieces⟩ := fgets_cases hne
      have hlt := fgets_lt (by decide) hread
      have hnul' : 0 ∉ line ∧ 0 ∉ rest := by rwa [hfile, List.mem_append, not_or] at hnul
      rw [readLines_cons hread, hpieces]
      by_cases hdata : IsData (line.takeWhile fun c => c ≠ newline)
      · have hgrantsLine : GrantsIds host (2 * state.ids.length) := fun cap hcap => hgrants cap (by omega)
        have hrest (id : ℕ) := @ih rest.length (by omega) (state.push id) rest hnul'.2 (fun cap hcap => by
          simp only [ReadState.push, List.length_append, List.length_singleton] at hcap
          exact hgrants cap (by omega)) rfl
        have hstep : (∃ state', (readLine host vocabSize state line >>= fun state => readLines host vocabSize rest state) =
              .ok state' ∧ state'.ids = ids) ↔
            TokenId vocabSize (inBuffer (line.takeWhile fun c => c ≠ newline)) ∧
              ∃ state', readLines host vocabSize rest
                (state.push (digitsValue (inBuffer (line.takeWhile fun c => c ≠ newline)))) = .ok state' ∧
                  state'.ids = ids := by
          simp only [bind_eq_ok, readLine_data hvocab hgrantsLine hnul'.1 hdata]
          constructor
          · rintro ⟨state', ⟨_, ⟨hid, rfl⟩, hloop⟩, hids⟩
            exact ⟨hid, state', hloop, hids⟩
          · rintro ⟨hid, state', hloop, hids⟩
            exact ⟨state', ⟨_, ⟨hid, rfl⟩, hloop⟩, hids⟩
        have hfilter : [line.takeWhile fun c => c ≠ newline].filter (fun piece => IsData piece) =
            [line.takeWhile fun c => c ≠ newline] := List.filter_eq_self.mpr (List.forall_mem_singleton.mpr (by simpa using hdata))
        rw [hstep, hrest, hfilter, List.singleton_append, List.forall_mem_cons, List.map_cons, and_assoc]
        simp only [ReadState.push, List.append_assoc, List.singleton_append]
      · have hfilter : [line.takeWhile fun c => c ≠ newline].filter (fun piece => IsData piece) = [] :=
          List.filter_eq_nil_iff.mpr (List.forall_mem_singleton.mpr (by simpa using hdata))
        rw [readLine_skip hnul'.1 hdata, hfilter, List.nil_append]
        exact @ih rest.length (by omega) { state with lineno := state.lineno + 1 } rest hnul'.2
          (fun cap hcap => hgrants cap (by
            dsimp only at hcap
            omega)) rfl

/-- **What the parser accepts**, piece by piece. -/
theorem parseIdsFile_eq_ok (hvocab : vocabSize ≤ uint32Max) (hnul : 0 ∉ file)
    (hgrants : GrantsIds host (16 + 2 * file.length)) {path : List UInt8} :
    parseIdsFile host (some path) (some file) vocabSize = .ok ids ↔
      (dataPieces file ≠ [] ∧ ∀ piece ∈ dataPieces file, TokenId vocabSize (inBuffer piece)) ∧
        ids = (dataPieces file).map fun piece => digitsValue (inBuffer piece) := by
  have hmalloc := hgrants 16 (by omega)
  have hloop := @readLines_eq_ok host vocabSize {} file ids hvocab hnul
    (fun cap hcap => hgrants cap (by
      rw [List.length_nil] at hcap
      omega))
  rw [List.nil_append] at hloop
  have hread : parseIdsFile host (some path) (some file) vocabSize = .ok ids ↔
      ids ≠ [] ∧ ∃ state', readLines host vocabSize file {} = .ok state' ∧ state'.ids = ids := by
    unfold parseIdsFile
    dsimp only
    rw [rejectIf_bind_eq_ok, sizeT_eq (host.malloc_fits _ hmalloc), not_not, and_iff_right hmalloc, bind_eq_ok]
    simp only [rejectIf_bind_eq_ok, Except.ok.injEq]
    constructor
    · rintro ⟨state', hstate, hne, rfl⟩
      exact ⟨hne, state', hstate, rfl⟩
    · rintro ⟨hne, state', hstate, rfl⟩
      exact ⟨state', hstate, hne, rfl⟩
  rw [hread, hloop]
  constructor
  · rintro ⟨hne, hall, rfl⟩
    exact ⟨⟨mt List.map_eq_nil_iff.mpr hne, hall⟩, rfl⟩
  · rintro ⟨⟨hne, hall⟩, rfl⟩
    exact ⟨mt List.map_eq_nil_iff.mp hne, hall, rfl⟩

end Loop

/-! ### Lines that come whole -/

/-- The loop sees a comment, however long, as comments only, and any other line in one piece. -/
def Whole (line : List UInt8) : Prop :=
  if line.head? = some hash then ∀ piece ∈ chunks (lineBufferSize - 1) line, piece.head? = some hash
  else line.length < lineBufferSize

instance (line : List UInt8) : Decidable (Whole line) := inferInstanceAs (Decidable (ite _ _ _))

section Whole

variable {file line : List UInt8} {vocabSize : ℕ}

theorem Whole.filter_chunks (h : Whole line) :
    (chunks (lineBufferSize - 1) line).filter (fun piece => IsData piece) = [line].filter fun piece => IsData piece := by
  unfold Whole at h
  by_cases hcomment : line.head? = some hash
  · rw [if_pos hcomment] at h
    have hline : ¬ IsData line := fun hdata => hdata.2 hcomment
    have hpieces : ∀ piece ∈ chunks (lineBufferSize - 1) line, ¬ decide (IsData piece) = true := fun piece hpiece hdata =>
      (of_decide_eq_true hdata).2 (h piece hpiece)
    rw [List.filter_eq_nil_iff.mpr hpieces,
      List.filter_eq_nil_iff.mpr (List.forall_mem_singleton.mpr (by simpa using hline))]
  · rw [if_neg hcomment] at h
    exact TokExt.filter_chunks (by omega)

theorem filter_eq_flatMap {α : Type*} (p : α → Bool) (xs : List α) : xs.filter p = xs.flatMap fun x => [x].filter p := by
  conv_lhs => rw [← List.flatMap_singleton' xs, List.filter_flatMap]

/-- Where every line comes whole, the pieces are the lines. -/
theorem dataPieces_eq (h : ∀ line ∈ file.splitOn newline, Whole line) : dataPieces file = dataLines file := by
  unfold dataPieces dataLines pieces
  rw [List.filter_flatMap, filter_eq_flatMap]
  exact List.flatMap_congr fun line hline => (h line hline).filter_chunks

/-- A data line makes a data piece. -/
theorem sublist_chunks (line : List UInt8) :
    (if IsData line then [line.take (lineBufferSize - 1)] else []).Sublist
      ((chunks (lineBufferSize - 1) line).filter fun piece => IsData piece) := by
  by_cases hdata : IsData line
  · have hfirst : IsData (line.take (lineBufferSize - 1)) := by
      obtain ⟨c, cs, rfl⟩ := List.exists_cons_of_ne_nil hdata.1
      exact ⟨by simp [lineBufferSize], hdata.2⟩
    rw [if_pos hdata, chunks_eq_cons (by decide) hdata.1, List.filter_cons, if_pos (decide_eq_true hfirst)]
    exact (List.nil_sublist _).cons_cons _
  · rw [if_neg hdata]
    exact List.nil_sublist _

/-- Where there are as many pieces as lines and the lines are token IDs, every line comes whole. -/
theorem whole_of_length (hids : ∀ line ∈ dataLines file, TokenId vocabSize line)
    (hlength : (dataLines file).length = (dataPieces file).length) : ∀ line ∈ file.splitOn newline, Whole line := by
  have hcount : ((file.splitOn newline).flatMap fun line =>
      if IsData line then [line.take (lineBufferSize - 1)] else []).length =
        ((file.splitOn newline).flatMap fun line =>
          (chunks (lineBufferSize - 1) line).filter fun piece => IsData piece).length := by
    rw [← List.filter_flatMap]
    refine Eq.trans ?_ hlength
    unfold dataLines
    rw [filter_eq_flatMap, List.length_flatMap, List.length_flatMap]
    congr 1
    refine List.map_congr_left fun line _ => ?_
    by_cases hdata : IsData line
    · simp [hdata]
    · simp [hdata]
  intro line hline
  have hpieces := forall_eq_of_flatMap_length (fun line _ => sublist_chunks line) hcount line hline
  unfold Whole
  by_cases hcomment : line.head? = some hash
  · have hnone : ¬ IsData line := fun hdata => hdata.2 hcomment
    rw [if_neg hnone, eq_comm, List.filter_eq_nil_iff] at hpieces
    rw [if_pos hcomment]
    intro piece hpiece
    have hdata := hpieces piece hpiece
    rw [decide_eq_true_iff] at hdata
    exact not_ne_iff.mp fun hne => hdata ⟨ne_nil_of_mem_chunks hpiece, hne⟩
  · rw [if_neg hcomment]
    rcases eq_or_ne line [] with rfl | hne
    · decide
    · have hdata : IsData line := ⟨hne, hcomment⟩
      have hnumeral := (hids line (List.mem_filter.mpr ⟨hline, decide_eq_true hdata⟩)).1
      have hall : (chunks (lineBufferSize - 1) line).filter (fun piece => IsData piece) = chunks (lineBufferSize - 1) line := by
        refine List.filter_eq_self.mpr fun piece hpiece => decide_eq_true ⟨ne_nil_of_mem_chunks hpiece, fun hhash => ?_⟩
        have hdigit := hnumeral.digits hash ((mem_chunks hpiece).subset (List.mem_of_head? hhash))
        exact absurd hdigit (by decide)
      rw [if_pos hdata, hall] at hpieces
      have hone : (chunks (lineBufferSize - 1) line).length = 1 := by rw [← hpieces, List.length_singleton]
      have hle := ((chunks_length_eq_one_iff (by decide)).mp hone).2
      unfold lineBufferSize at *
      omega

end Whole

/-! ### The file -/

/-- The file holds these token IDs: each line that is neither blank nor a comment is one, whatever its length, and there
is such a line. -/
def FileIds (vocabSize : ℕ) (file : List UInt8) (ids : List ℕ) : Prop :=
  (dataLines file ≠ [] ∧ ∀ line ∈ dataLines file, TokenId vocabSize line) ∧ ids = (dataLines file).map digitsValue

/-- **When the parser reads exactly the lines**: where every line comes whole and every data line of 64 bytes or more has
the digit 0 only; and where the file holds no token IDs and the parser sees a piece that is none, or no data. -/
theorem parseIdsFile_iff {host : Host} {vocabSize : ℕ} {path file : List UInt8} (hvocab : vocabSize ≤ uint32Max)
    (hnul : 0 ∉ file) (hgrants : GrantsIds host (16 + 2 * file.length)) :
    (∀ ids, parseIdsFile host (some path) (some file) vocabSize = .ok ids ↔ FileIds vocabSize file ids) ↔
      ((∀ line ∈ file.splitOn newline, Whole line) ∧ ∀ line ∈ dataLines file, Fits line) ∨
        ((dataLines file = [] ∨ ∃ line ∈ dataLines file, ¬ TokenId vocabSize line) ∧
          (dataPieces file = [] ∨ ∃ piece ∈ dataPieces file, ¬ TokenId vocabSize (inBuffer piece))) := by
  have hnot {xs : List (List UInt8)} {p : List UInt8 → Prop} : (xs = [] ∨ ∃ x ∈ xs, ¬ p x) ↔ ¬ (xs ≠ [] ∧ ∀ x ∈ xs, p x) := by
    push Not
    exact or_iff_not_imp_left
  simp only [parseIdsFile_eq_ok hvocab hnul hgrants, hnot]
  unfold FileIds
  constructor
  · intro h
    by_cases hlines : dataLines file ≠ [] ∧ ∀ line ∈ dataLines file, TokenId vocabSize line
    · obtain ⟨hpieces, hvalues⟩ := (h _).mpr ⟨hlines, rfl⟩
      have hlength := congrArg List.length hvalues
      rw [List.length_map, List.length_map] at hlength
      have hwhole := whole_of_length hlines.2 hlength
      rw [dataPieces_eq hwhole] at hvalues
      exact .inl ⟨hwhole, fun line hline =>
        fits_of_read (hlines.2 line hline).1.digits (List.map_inj_left.mp hvalues line hline).symm⟩
    · exact .inr ⟨hlines, fun hpieces => hlines ((h _).mp ⟨hpieces, rfl⟩).1⟩
  · rintro (⟨hwhole, hfits⟩ | ⟨hlines, hpieces⟩) ids
    · rw [dataPieces_eq hwhole]
      have hread : (dataLines file ≠ [] ∧ ∀ line ∈ dataLines file, TokenId vocabSize (inBuffer line)) ↔
          dataLines file ≠ [] ∧ ∀ line ∈ dataLines file, TokenId vocabSize line :=
        and_congr_right fun _ => forall₂_congr fun line hline =>
          ⟨fun hid => ((hfits line hline).read hid).1, TokenId.inBuffer⟩
      rw [hread]
      refine and_congr_right fun hlines => ?_
      have hvalues : ((dataLines file).map fun line => digitsValue (inBuffer line)) = (dataLines file).map digitsValue :=
        List.map_congr_left fun line hline => ((hfits line hline).read (hlines.2 line hline).inBuffer).2
      rw [hvalues]
    · exact iff_of_false (fun h => hpieces h.1) fun h => hlines h.1

/-- Two IDs, a blank line and a comment, the last line without a newline. -/
def sampleIds : List UInt8 := ascii "7\n\n# end\n0012"

theorem grantsIds_generous {n : ℕ} (h : n ≤ 1000) : GrantsIds .generous n := fun cap hcap =>
  Host.generous_malloc (by
    unfold sizeMax idSize
    omega)

theorem parseIdsFile_sampleIds : parseIdsFile .generous (some (ascii "ids")) (some sampleIds) 16 = .ok [7, 12] ↔
    FileIds 16 sampleIds [7, 12] :=
  (parseIdsFile_iff (by decide) (by decide) (grantsIds_generous (by decide))).mpr (.inl (by decide +kernel)) [7, 12]

/-- A line of 63 zeros and a letter is accepted as the ID 0. -/
theorem parseIdsFile_trailing_letter :
    parseIdsFile .generous (some (ascii "ids")) (some (List.replicate 63 0x30 ++ ascii "x\n")) 16 = .ok [0] ∧
      ¬ FileIds 16 (List.replicate 63 0x30 ++ ascii "x\n") [0] := by
  constructor
  · exact (parseIdsFile_eq_ok (by decide) (by decide) (grantsIds_generous (by decide))).mpr (by decide +kernel)
  · unfold FileIds
    decide +kernel

end Att1.TokExt
