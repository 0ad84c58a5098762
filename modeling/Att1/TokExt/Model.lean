import Att1.Base
import Att1.Lib.Checked
import Att1.Lib.Digits

/-!
# Att1.TokExt.Model — external token IDs (`src/tok_ext.c`)

`parseOneId` reads one ID, `parseIdsStr` the IDs of a comma-separated text and `parseIdsFile` those of a file with one
ID a line.  A call that fails frees its array and leaves a message on `stderr`; `TokExtError` is what that message says.
-/

open Att1.Lib

namespace Att1.TokExt

/-- `','`. -/
def comma : UInt8 := 0x2c

/-- `'\n'`. -/
def newline : UInt8 := 0x0a

/-- `'#'`. -/
def hash : UInt8 := 0x23

/-- `sizeof(uint32_t)`, the size of an ID in the array. -/
def idSize : ℕ := 4

/-- `sizeof(buf)` in `parse_one_id`. -/
def idBufferSize : ℕ := 64

/-- `sizeof(line)` in `att1_tok_ext_parse_ids_file`. -/
def lineBufferSize : ℕ := 256

/-! ### Errors -/

/-- How a call fails. -/
inductive TokExtError
  | nullOrEmpty
  | oomArray
  | malformed (text : List UInt8) (position : ℕ)
  | outOfRange (val position vocabSize : ℕ)
  | nullArgument
  | cannotOpen (path : List UInt8)
  | oomGrowing
  | noIds (path : List UInt8)
  deriving DecidableEq, Repr

/-- The status that is returned. -/
def TokExtError.status : TokExtError → Status
  | nullOrEmpty => .invalidArg
  | oomArray => .oom
  | malformed _ _ => .badFormat
  | outOfRange _ _ _ => .badFormat
  | nullArgument => .invalidArg
  | cannotOpen _ => .notFound
  | oomGrowing => .oom
  | noIds _ => .invalidArg

/-- The message that is printed. -/
def TokExtError.message : TokExtError → List UInt8
  | nullOrEmpty => ascii "error: external token IDs string is NULL or empty\n"
  | oomArray => ascii "error: out of memory allocating token ID array\n"
  | malformed text position =>
    ascii "error: malformed token ID '" ++ text ++ ascii "' at position " ++ decimal position ++ ascii "\n"
  | outOfRange val position vocabSize =>
    ascii "error: token ID " ++ decimal val ++ ascii " out of range at position " ++ decimal position ++
      ascii " (vocab_size=" ++ decimal vocabSize ++ ascii ")\n"
  | nullArgument => ascii "error: NULL argument passed to att1_tok_ext_parse_ids_file\n"
  | cannotOpen path => ascii "error: cannot open token IDs file: " ++ path ++ ascii "\n"
  | oomGrowing => ascii "error: out of memory growing token ID array\n"
  | noIds path => ascii "error: token IDs file contains no valid IDs: " ++ path ++ ascii "\n"

/-! ### One ID -/

/-- `strtoul(text, &endp, 10)` of a text that starts with a digit: the value, the text at `endp` and whether `errno` is
set. -/
def strtoul (text : List UInt8) : ℕ × List UInt8 × Bool :=
  let value := digitsValue (text.takeWhile isDigit)
  if sizeMax < value then (sizeMax, text.dropWhile isDigit, true) else (value, text.dropWhile isDigit, false)

/-- `parse_one_id`.  A segment has no NUL byte, so the C string in `buf` is what was copied. -/
def parseOneId (seg : List UInt8) (vocabSize position : ℕ) : Except TokExtError ℕ := do
  let buf := seg.take (idBufferSize - 1)
  rejectIf (seg.length = 0 ∨ ¬ buf.head?.any isDigit) (.malformed buf position)
  let (val, endp, errno) := strtoul buf
  rejectIf (endp ≠ [] ∨ errno ∨ uint32Max < val) (.malformed buf position)
  rejectIf (vocabSize ≤ uint32 val) (.outOfRange val position vocabSize)
  .ok (uint32 val)

/-! ### IDs in a text -/

/-- The scanning loop of `att1_tok_ext_parse_ids_str`, at `p` with the IDs stored so far. -/
def scanSegments (vocabSize : ℕ) (p : List UInt8) (ids : List ℕ) : Except TokExtError (List ℕ) := do
  let id ← parseOneId (p.takeWhile fun c => c ≠ comma) vocabSize (ids.length + 1)
  match _hrest : p.dropWhile fun c => c ≠ comma with
  | [] => .ok (ids ++ [id])
  | _ :: rest => scanSegments vocabSize rest (ids ++ [id])
termination_by p.length
decreasing_by
  have hle := (List.dropWhile_suffix (l := p) fun c => c ≠ comma).length_le
  rw [_hrest, List.length_cons] at hle
  omega

/-- `att1_tok_ext_parse_ids_str`, with both outputs given; `none` is a NULL text. -/
def parseIdsStr (host : Host) (str : Option (List UInt8)) (vocabSize : ℕ) : Except TokExtError (List ℕ) :=
  match str with
  | none => .error .nullOrEmpty
  | some str => do
    rejectIf (str = []) .nullOrEmpty
    let cap := 1 + str.count comma
    rejectIf (¬ host.malloc (sizeT (cap * idSize))) .oomArray
    scanSegments vocabSize str []

/-! ### IDs in a file -/

/-- `fgets` with a buffer of `size` bytes: what is read, up to `size - 1` bytes and not past a newline, and what is left
of the file.  At the end of the file there is nothing to read. -/
def fgets (size : ℕ) (file : List UInt8) : Option (List UInt8 × List UInt8) :=
  if file = [] then none
  else
    let text := (file.take (size - 1)).takeWhile fun c => c ≠ newline
    let line := (file.take (size - 1)).take (text.length + 1)
    some (line, file.drop line.length)

theorem fgets_lt {size : ℕ} {file line rest : List UInt8} (hsize : 1 < size) (h : fgets size file = some (line, rest)) :
    rest.length < file.length := by
  unfold fgets at h
  by_cases hfile : file = []
  · rw [if_pos hfile] at h
    cases h
  · rw [if_neg hfile] at h
    cases h
    have hpos := List.length_pos_iff.mpr hfile
    simp only [List.length_drop, List.length_take]
    omega

/-- What the reading loop carries. -/
structure ReadState where
  ids : List ℕ := []
  cap : ℕ := 16
  lineno : ℕ := 0

/-- What the loop does with one line, which is counted, cut at its newline and read unless it is blank or a comment. -/
def readLine (host : Host) (vocabSize : ℕ) (state : ReadState) (line : List UInt8) : Except TokExtError ReadState := do
  let lineno := state.lineno + 1
  let text := (cString line).takeWhile fun c => c ≠ newline
  if text = [] ∨ text.head? = some hash then .ok { state with lineno := lineno }
  else
    let id ← parseOneId text vocabSize lineno
    if state.cap ≤ state.ids.length then
      let cap := sizeT (state.cap * 2)
      rejectIf (¬ host.malloc (sizeT (cap * idSize))) .oomGrowing
      .ok ⟨state.ids ++ [id], cap, lineno⟩
    else .ok ⟨state.ids ++ [id], state.cap, lineno⟩

/-- The reading loop. -/
def readLines (host : Host) (vocabSize : ℕ) (file : List UInt8) (state : ReadState) : Except TokExtError ReadState :=
  match _hread : fgets lineBufferSize file with
  | none => .ok state
  | some (line, rest) => do
    let state ← readLine host vocabSize state line
    readLines host vocabSize rest state
termination_by file.length
decreasing_by exact fgets_lt (by decide) _hread

/-- `att1_tok_ext_parse_ids_file`, with both outputs given: `path` is `none` for NULL and `file` is what the file holds,
or `none` where it cannot be opened. -/
def parseIdsFile (host : Host) (path : Option (List UInt8)) (file : Option (List UInt8)) (vocabSize : ℕ) :
    Except TokExtError (List ℕ) :=
  match path with
  | none => .error .nullArgument
  | some path =>
    match file with
    | none => .error (.cannotOpen path)
    | some file => do
      rejectIf (¬ host.malloc (sizeT ((16 : ℕ) * idSize))) .oomArray
      let state ← readLines host vocabSize file {}
      rejectIf (state.ids = []) (.noIds path)
      .ok state.ids

end Att1.TokExt
