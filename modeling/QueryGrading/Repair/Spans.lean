import QueryGrading.Repair.Words

/-!
# Words by their places in the text

`word_spans`, `replace_words` and `remove_word` do not cut a text into pieces: they work with byte
offsets into it. The first walks through the characters and notes where each word begins and ends;
the other two go through these spans with a cursor and copy what lies between it and the next word
that is replaced or removed.

Here are the three loops, on the bytes of the text. A slice is one that can fail (`slice?`): there
is none where the offsets are in the wrong order or lie behind the end or inside of a character,
just where the program would stop. `starts_with` and `ends_with` are asked of slices too.
-/

namespace QueryGrading

namespace Text

/-! ## 1. Slices -/

/-- The part of a text between two byte offsets. There is none if they are in the wrong order, or if
one of them is no boundary of a character of the text. -/
def slice? (s : String) (i j : Nat) : Option String :=
  if h : i ≤ j ∧ String.Pos.Raw.IsValid s ⟨i⟩ ∧ String.Pos.Raw.IsValid s ⟨j⟩ then
    some (String.extract (s.pos ⟨i⟩ h.2.1) (s.pos ⟨j⟩ h.2.2))
  else none

/-! ## 2. Where the words are -/

/-- The spans of the words in some characters, the first of which stands at `offset`; `start` is
where a word has begun that has not ended yet. -/
def spansFrom (offset : Nat) (start : Option Nat) : List Char → List (Nat × Nat)
  | [] => (start.map fun i => (i, offset)).toList
  | c :: rest =>
    if isSeparator c then
      (start.map fun i => (i, offset)).toList ++ spansFrom (offset + c.utf8Size) none rest
    else spansFrom (offset + c.utf8Size) (start.or (some offset)) rest

/-- Where each word of a text begins and ends, in bytes. -/
def wordSpans (s : String) : List (Nat × Nat) := spansFrom 0 none s.toList

/-! ## 3. Replacing and removing at the spans -/

/-- What has been written, and the offset up to which the text has been used. -/
structure Copied where
  written : String
  used : Nat

/-- One word is replaced if it has a property: what lies in front of it is copied, and the
replacement is written. -/
def replaceAt? (p : String → Bool) (replacement s : String) (state : Copied)
    (span : Nat × Nat) : Option Copied := do
  let word ← slice? s span.1 span.2
  if p word then
    let before ← slice? s state.used span.1
    some ⟨state.written ++ before ++ replacement, span.2⟩
  else some state

/-- One word is removed if it is the given one. The comma behind it is taken along, or else that in
front of it, unless it has been taken already. -/
def removeAt? (removed s : String) (state : Copied) (span : Nat × Nat) : Option Copied := do
  let word ← slice? s span.1 span.2
  if word ≠ removed then some state
  else
    let behind ← slice? s span.2 s.utf8ByteSize
    if behind.toList.head? = some ',' then
      let before ← slice? s state.used (max span.1 state.used)
      some ⟨state.written ++ before, span.2 + 1⟩
    else
      let front ← slice? s 0 span.1
      let start := if front.toList.getLast? = some ',' then span.1 - 1 else span.1
      let before ← slice? s state.used (max start state.used)
      some ⟨state.written ++ before, span.2⟩

/-- The rest of the text is copied. -/
def finish? (s : String) (state : Copied) : Option String := do
  let rest ← slice? s state.used s.utf8ByteSize
  some (state.written ++ rest)

/-- A step for each of some spans, and then the rest of the text. -/
def copyFrom? (step : Copied → Nat × Nat → Option Copied) (s : String) (spans : List (Nat × Nat))
    (state : Copied) : Option String :=
  (spans.foldlM step state).bind (finish? s)

/-- Every word with a property is replaced at its place. -/
def replaceBySpans? (p : String → Bool) (replacement s : String) : Option String :=
  copyFrom? (replaceAt? p replacement s) s (wordSpans s) ⟨"", 0⟩

/-- Every occurrence of a word is removed at its place, with one comma beside it. -/
def removeBySpans? (removed s : String) : Option String :=
  copyFrom? (removeAt? removed s) s (wordSpans s) ⟨"", 0⟩

end Text

end QueryGrading
