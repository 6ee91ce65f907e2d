import QueryGrading.Text.Letter
import QueryGrading.Text.LowerCase
import QueryGrading.Text.Blank

/-!
# Words of a statement

A text is cut into pieces: words, and the single characters between them. Words are replaced and
removed in the pieces, so that all else of the text stays. `words` is `tokenize`, `replaceWords` is
`replace_words` and `removeWord` is `remove_word`, which work with the places of words in the text
instead of pieces; those loops are in `Repair.Spans`.

`sameNames` compares two words by `word_core`, the names that are left when quotes and punctuation
are taken as separators. `normalize` is `preprocess_query`.
-/

namespace QueryGrading

/-! ## 1. Pieces -/

/-- The characters between words. -/
def isSeparator (c : Char) : Bool := c = ' ' || c = '\t' || c = '\n' || c = ';' || c = ','

/-- A piece of a text: a word, or a character between words. -/
inductive Piece
  | word (letters : List Char)
  | gap (c : Char)
  deriving DecidableEq, Repr

namespace Piece

/-- The characters of a piece. -/
def letters : Piece → List Char
  | word cs => cs
  | gap c => [c]

/-- The text of some pieces. -/
def text (pieces : List Piece) : String := String.ofList (pieces.flatMap letters)

/-- A letter in front of some pieces; it joins a word that stands first. -/
def consLetter (c : Char) : List Piece → List Piece
  | word cs :: rest => word (c :: cs) :: rest
  | pieces => word [c] :: pieces

/-- The pieces of a text. -/
def ofChars : List Char → List Piece
  | [] => []
  | c :: rest => if isSeparator c then gap c :: ofChars rest else consLetter c (ofChars rest)

/-- The pieces of a text. -/
def ofText (s : String) : List Piece := ofChars s.toList

/-- The word that a piece is. -/
def word? : Piece → Option String
  | word cs => some (String.ofList cs)
  | gap _ => none

/-- A word with a property gives way to other characters. -/
def substitute (p : String → Bool) (replacement : List Char) : Piece → Piece
  | word cs => if p (String.ofList cs) then word replacement else word cs
  | gap c => gap c

/-- Without any word with these letters. Each takes the comma behind it along, or else the comma
in front of it; `held` says that such a comma in front has not been written yet. -/
def remove (letters : List Char) (held : Bool) : List Piece → List Piece
  | [] => if held then [gap ','] else []
  | gap c :: rest =>
    let before := if held then [gap ','] else []
    if c = ',' then before ++ remove letters true rest
    else before ++ gap c :: remove letters false rest
  | word cs :: gap ',' :: rest =>
    let before := if held then [gap ','] else []
    if cs = letters then before ++ remove letters false rest
    else before ++ word cs :: remove letters true rest
  | word cs :: rest =>
    if cs = letters then remove letters false rest
    else if held then gap ',' :: word cs :: remove letters false rest
    else word cs :: remove letters false rest

end Piece

/-! ## 2. Words -/

namespace Text

/-- The words of a text. -/
def words (s : String) : List String := (Piece.ofText s).filterMap Piece.word?

/-- Every word with a property gives way to a replacement. -/
def replaceWords (p : String → Bool) (replacement : String) (s : String) : String :=
  Piece.text ((Piece.ofText s).map (Piece.substitute p replacement.toList))

/-- Every occurrence of a word is removed with one comma beside it. -/
def removeWord (word : String) (s : String) : String :=
  Piece.text (Piece.remove word.toList false (Piece.ofText s))

/-- A character of a name. -/
def isNameChar (c : Char) : Bool := isLetterOrDigit c || c = '_'

/-- The names in some characters: the longest runs of name characters. -/
def nameRuns : List Char → List (List Char)
  | [] => []
  | [c] => if isNameChar c then [[c]] else []
  | c :: d :: rest =>
    if !isNameChar c then nameRuns (d :: rest)
    else if !isNameChar d then [c] :: nameRuns (d :: rest)
    else
      match nameRuns (d :: rest) with
      | run :: runs => (c :: run) :: runs
      | [] => [[c]]

/-- Two words hold the same names, in any order and number. -/
def sameNames (a b : String) : Bool :=
  let x := nameRuns a.toList
  let y := nameRuns b.toList
  x.all y.contains && y.all x.contains

/-- One space for each run of spaces. -/
def squeeze : List Char → List Char
  | [] => []
  | [c] => [c]
  | c :: d :: rest => if c = ' ' ∧ d = ' ' then squeeze (d :: rest) else c :: squeeze (d :: rest)

/-- A statement as it is compared: with single spaces and in lower case. -/
def normalize (s : String) : String := lower (String.ofList (squeeze s.toList))

end Text

end QueryGrading
