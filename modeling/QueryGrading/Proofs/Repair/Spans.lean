import QueryGrading.Proofs.Repair.Words
import QueryGrading.Repair.Spans

/-!
# Words by their places in the text

Words can be found, replaced and removed by byte offsets, without cutting the text into pieces. Of
`wordSpans`, `replaceBySpans?` and `removeBySpans?`, which are `word_spans`, `replace_words` and
`remove_word`, three things are shown. No slice fails, so no offset lies inside of a character
(`slice?_eq_some_iff` says when a slice does). The texts that come out are those that the pieces
give (`replaceBySpans?_eq`, `removeBySpans?_eq`). And the words are what `tokenize` finds, the parts
of the text between its separators without the empty ones (`words_eq_splitOnP`). `word_spans_exact`
puts this together.

The loop that removes has a cursor, and a comma that one word has taken along is not there for the
next. In the pieces such a comma is held back until it is known who takes it. `Writes` is the
invariant that relates the two.
-/

namespace QueryGrading

namespace Text

open String (utf8Len utf8Len_nil utf8Len_append)

variable {s t : String} {i j : Nat}

/-! ## 1. Slices

The source cuts strings at byte offsets, and an offset inside a character is an error. A slice is
therefore partial here, and it is shown to be defined where it is used. -/

/-- A part of a text is the slice between its ends. -/
theorem slice?_append (a t b : String) :
    slice? (a ++ t ++ b) a.utf8ByteSize (a ++ t).utf8ByteSize = some t := by
  have hi : String.Pos.Raw.IsValid (a ++ t ++ b) ⟨a.utf8ByteSize⟩ :=
    String.Pos.Raw.isValid_iff_exists_append.mpr ⟨a, t ++ b, String.append_assoc, rfl⟩
  have hj : String.Pos.Raw.IsValid (a ++ t ++ b) ⟨(a ++ t).utf8ByteSize⟩ :=
    String.Pos.Raw.isValid_iff_exists_append.mpr ⟨a ++ t, b, rfl, rfl⟩
  have hle : a.utf8ByteSize ≤ (a ++ t).utf8ByteSize := by
    rw [String.utf8ByteSize_append]
    exact Nat.le_add_right _ _
  have hbytes : (a.toByteArray ++ (t.toByteArray ++ b.toByteArray)).extract
      (a.toByteArray.size + 0) (a.toByteArray.size + t.toByteArray.size) = t.toByteArray := by
    rw [ByteArray.extract_append_size_add, ByteArray.extract_append_eq_left rfl]
  rw [slice?, dif_pos ⟨hle, hi, hj⟩, Option.some.injEq, ← String.toByteArray_inj,
    String.toByteArray_extract, String.toByteArray_append, String.toByteArray_append,
    ByteArray.append_assoc]
  rw [Nat.add_zero, String.size_toByteArray, String.size_toByteArray,
    ← String.utf8ByteSize_append] at hbytes
  exact hbytes

/-- **A slice is a part of the text, at its place.** -/
theorem slice?_eq_some_iff : slice? s i j = some t ↔
    ∃ a b, s = a ++ t ++ b ∧ i = a.utf8ByteSize ∧ j = (a ++ t).utf8ByteSize := by
  constructor
  · intro h
    by_cases hvalid : i ≤ j ∧ String.Pos.Raw.IsValid s ⟨i⟩ ∧ String.Pos.Raw.IsValid s ⟨j⟩
    · obtain ⟨hle, hi, hj⟩ := hvalid
      obtain ⟨a, rest, heq, ha⟩ := String.Pos.Raw.isValid_iff_exists_append.mp hi
      obtain ⟨c, b, heq', hc⟩ := String.Pos.Raw.isValid_iff_exists_append.mp hj
      have hfront : (s.pos ⟨i⟩ hi).Splits a rest := ⟨heq, ha⟩
      have hback : (s.pos ⟨j⟩ hj).Splits c b := ⟨heq', hc⟩
      obtain ⟨m, rfl, rfl⟩ := (hfront.le_iff_exists_eq_append hback).mp hle
      have hia : i = a.utf8ByteSize := congrArg String.Pos.Raw.byteIdx ha
      have hja : j = (a ++ m).utf8ByteSize := congrArg String.Pos.Raw.byteIdx hc
      have hslice := slice?_append a m b
      rw [← hia, ← hja, ← heq', h, Option.some.injEq] at hslice
      exact ⟨a, b, hslice ▸ heq', hia, hslice ▸ hja⟩
    · rw [slice?, dif_neg hvalid] at h
      cases h
  · rintro ⟨a, b, rfl, rfl, rfl⟩
    exact slice?_append a t b

/-- The same for texts given by their characters. -/
theorem slice?_ofList (xs ys zs : List Char) :
    slice? (String.ofList (xs ++ ys ++ zs)) (utf8Len xs) (utf8Len (xs ++ ys)) =
      some (String.ofList ys) := by
  rw [slice?_eq_some_iff]
  refine ⟨String.ofList xs, String.ofList zs, ?_, ?_, ?_⟩
  · rw [String.ofList_append, String.ofList_append]
  · rw [String.utf8ByteSize_ofList]
  · rw [← String.ofList_append, String.utf8ByteSize_ofList]

/-! ## 2. Where the words are

`word_spans` goes through the characters and notes where a word begins. Its two states are two
functions on the pieces of a text, which are related by a letter or a separator in front. -/

end Text

namespace Piece

open String (utf8Len utf8Len_nil utf8Len_append)

/-- The spans of the words among some pieces, the first of which stands at `offset`. -/
def spans (offset : Nat) : List Piece → List (Nat × Nat)
  | [] => []
  | gap c :: rest => spans (offset + c.utf8Size) rest
  | word cs :: rest => (offset, offset + utf8Len cs) :: spans (offset + utf8Len cs) rest

/-- The same where a word has begun at `start` already; it goes on if a word stands first. -/
def spansWithin (start offset : Nat) : List Piece → List (Nat × Nat)
  | word cs :: rest => (start, offset + utf8Len cs) :: spans (offset + utf8Len cs) rest
  | pieces => (start, offset) :: spans offset pieces

theorem add_utf8Len_cons (offset : Nat) (c : Char) (cs : List Char) :
    offset + utf8Len (c :: cs) = offset + c.utf8Size + utf8Len cs := by
  rw [utf8Len]
  omega

/-- A word that begins with a letter in front of some pieces goes on with the word among them. -/
theorem spans_consLetter (offset : Nat) (c : Char) (ps : List Piece) :
    spans offset (consLetter c ps) = spansWithin offset (offset + c.utf8Size) ps := by
  rcases ps with _ | ⟨ds | d, qs⟩ <;>
    simp only [consLetter, spans, spansWithin, add_utf8Len_cons, utf8Len_nil, Nat.add_zero]

/-- A letter goes on with the word that has begun. -/
theorem spansWithin_consLetter (start offset : Nat) (c : Char) (ps : List Piece) :
    spansWithin start offset (consLetter c ps) = spansWithin start (offset + c.utf8Size) ps := by
  rcases ps with _ | ⟨ds | d, qs⟩ <;>
    simp only [consLetter, spans, spansWithin, add_utf8Len_cons, utf8Len_nil, Nat.add_zero]

/-- The walk through the characters and the cut into pieces find the same words. -/
theorem spansFrom_eq (cs : List Char) : ∀ offset,
    Text.spansFrom offset none cs = spans offset (ofChars cs) ∧
      ∀ start, Text.spansFrom offset (some start) cs = spansWithin start offset (ofChars cs) := by
  induction cs with
  | nil => exact fun offset => ⟨rfl, fun start => rfl⟩
  | cons c rest ih =>
    intro offset
    obtain ⟨hnone, hsome⟩ := ih (offset + c.utf8Size)
    rw [ofChars]
    by_cases hc : isSeparator c = true
    · simp only [Text.spansFrom, if_pos hc, hnone]
      exact ⟨rfl, fun start => rfl⟩
    · simp only [Text.spansFrom, if_neg hc, Option.none_or, Option.some_or, hsome]
      exact ⟨(spans_consLetter offset c _).symm, fun start =>
        (spansWithin_consLetter start offset c _).symm⟩

theorem flatMap_letters_gap (c : Char) (ps : List Piece) :
    (gap c :: ps).flatMap letters = [c] ++ ps.flatMap letters :=
  rfl

theorem flatMap_letters_word (cs : List Char) (ps : List Piece) :
    (word cs :: ps).flatMap letters = cs ++ ps.flatMap letters :=
  rfl

/-- A separator moves the offset on. -/
theorem spans_gap (xs : List Char) (c : Char) (ps : List Piece) :
    spans (utf8Len xs) (gap c :: ps) = spans (utf8Len (xs ++ [c])) ps := by
  rw [spans, utf8Len_append, String.utf8Len_cons, utf8Len_nil, Nat.zero_add]

/-- A word has its span, and moves the offset to its end. -/
theorem spans_word (xs cs : List Char) (ps : List Piece) :
    spans (utf8Len xs) (word cs :: ps) =
      (utf8Len xs, utf8Len (xs ++ cs)) :: spans (utf8Len (xs ++ cs)) ps := by
  rw [spans, utf8Len_append]

/-- What stands at the spans are the words; `xs` are the characters in front of the pieces. -/
theorem mapM_slice?_spans : ∀ (ps : List Piece) (xs : List Char),
    (spans (utf8Len xs) ps).mapM (fun span =>
      Text.slice? (String.ofList (xs ++ ps.flatMap letters)) span.1 span.2) =
        some (ps.filterMap word?)
  | [], _ => rfl
  | gap c :: rest, xs => by
    have ih := mapM_slice?_spans rest (xs ++ [c])
    rwa [List.append_assoc, ← flatMap_letters_gap, ← spans_gap] at ih
  | word cs :: rest, xs => by
    have ih := mapM_slice?_spans rest (xs ++ cs)
    have hslice := Text.slice?_ofList xs cs (rest.flatMap letters)
    rw [List.append_assoc] at ih hslice
    rw [spans_word, flatMap_letters_word, List.mapM_cons, hslice, ih]
    rfl

end Piece

namespace Text

open String (utf8Len utf8Len_nil utf8Len_append)

/-- The spans of a text are those of its pieces. -/
theorem wordSpans_eq (s : String) : wordSpans s = Piece.spans 0 (Piece.ofText s) :=
  (Piece.spansFrom_eq s.toList 0).1

/-- **The slices at the spans are the words**, and none of them fails. -/
theorem mapM_slice?_wordSpans (s : String) :
    (wordSpans s).mapM (fun span => slice? s span.1 span.2) = some (words s) := by
  have h := Piece.mapM_slice?_spans (Piece.ofText s) []
  rw [utf8Len_nil, List.nil_append, ← wordSpans_eq] at h
  rwa [show (Piece.ofText s).flatMap Piece.letters = s.toList from Piece.letters_ofChars s.toList,
    String.ofList_toList] at h

end Text

/-! ## 3. Words by splitting

`split` gives the parts between separators, among them empty ones. -/

namespace Piece

/-- The parts of a text between its separators, also the empty ones. -/
def parts : List Piece → List (List Char)
  | [] => [[]]
  | gap _ :: rest => [] :: parts rest
  | word cs :: rest => (parts rest).modifyHead (cs ++ ·)

/-- A letter belongs to the first part. -/
theorem parts_consLetter (c : Char) (ps : List Piece) :
    parts (consLetter c ps) = (parts ps).modifyHead (List.cons c) := by
  rcases ps with _ | ⟨ds | d, qs⟩
  · rfl
  · rw [consLetter, parts, parts, List.modifyHead_modifyHead]
    rfl
  · rfl

/-- Splitting a text at its separators gives the parts of its pieces. -/
theorem splitOnP_eq_parts (cs : List Char) : cs.splitOnP isSeparator = parts (ofChars cs) := by
  induction cs with
  | nil => rfl
  | cons c rest ih =>
    rw [List.splitOnP_cons_eq_if_modifyHead, ofChars, ih]
    split
    · rfl
    · rw [parts_consLetter]

/-- The parts that are not empty are the words. -/
theorem map_filter_parts : ∀ {ps : List Piece}, Proper ps →
    ((parts ps).filter (· ≠ [])).map String.ofList = ps.filterMap word?
  | [], _ => rfl
  | gap c :: rest, ⟨_, hrest⟩ => by
    rw [parts, List.filter_cons_of_neg (by simp), map_filter_parts hrest]
    rfl
  | [word cs], ⟨hword, _, _⟩ => by
    rw [parts, parts, List.modifyHead_cons, List.append_nil,
      List.filter_cons_of_pos (by simpa using hword.1)]
    rfl
  | word cs :: gap c :: rest, ⟨hword, _, hrest⟩ => by
    have ih := map_filter_parts hrest.2
    rw [parts, parts, List.modifyHead_cons, List.append_nil,
      List.filter_cons_of_pos (by simpa using hword.1), List.map_cons, ih]
    rfl
  | word cs :: word ds :: rest, ⟨_, hnext, _⟩ => absurd rfl (hnext ds)

end Piece

namespace Text

/-- **The words of a text are its parts between separators**, without the empty ones. -/
theorem words_eq_splitOnP (s : String) :
    words s = ((s.toList.splitOnP isSeparator).filter (· ≠ [])).map String.ofList := by
  rw [Piece.splitOnP_eq_parts, Piece.map_filter_parts (Piece.proper_ofChars s.toList)]
  rfl

/-! ## 4. What is written

`replace_words` and `remove_word` copy what stands between the spans that they change. The invariant
is the offset up to which the text was copied. -/

open String (utf8Len utf8Len_nil utf8Len_append)

variable {xs ys zs done kept : List Char} {out w removed behind front before : String} {k : Nat}
  {step : Copied → Nat × Nat → Option Copied} {state state' : Copied} {span : Nat × Nat}
  {spans : List (Nat × Nat)} {p : String → Bool} {replacement : String}

theorem slice?_of_eq (h : s = String.ofList (xs ++ ys ++ zs)) :
    slice? s (utf8Len xs) (utf8Len (xs ++ ys)) = some (String.ofList ys) := by
  rw [h, slice?_ofList]

theorem slice?_end_of_eq (h : s = String.ofList (xs ++ ys)) :
    slice? s (utf8Len xs) s.utf8ByteSize = some (String.ofList ys) := by
  rw [← List.append_nil ys, ← List.append_assoc] at h
  rw [h, String.utf8ByteSize_ofList, List.append_nil (xs ++ ys), ← slice?_ofList xs ys [],
    List.append_nil]

/-- One span, and then the others. -/
theorem copyFrom?_cons (h : step state span = some state') :
    copyFrom? step s (span :: spans) state = copyFrom? step s spans state' := by
  rw [copyFrom?, List.foldlM_cons, h]
  rfl

/-- At the end what was not copied yet is copied. -/
theorem copyFrom?_nil (h : s = String.ofList (done ++ kept)) :
    copyFrom? step s [] ⟨out, utf8Len done⟩ = some (out ++ String.ofList kept) := by
  rw [copyFrom?, List.foldlM_nil]
  simp only [Option.pure_def, Option.bind_some, finish?, slice?_end_of_eq h]
  rfl

/-- A word that is meant is replaced, and what lies in front of it is copied. -/
theorem replaceAt?_of_pos (hword : slice? s i j = some w) (hp : p w = true)
    (hbefore : slice? s k i = some before) :
    replaceAt? p replacement s ⟨out, k⟩ (i, j) = some ⟨out ++ before ++ replacement, j⟩ := by
  simp [replaceAt?, hword, hp, hbefore]

/-- Any other word is passed over. -/
theorem replaceAt?_of_neg (hword : slice? s i j = some w) (hp : ¬ p w = true) :
    replaceAt? p replacement s state (i, j) = some state := by
  simp [replaceAt?, hword, hp]

/-- A word that is not removed is passed over. -/
theorem removeAt?_of_ne (state : Copied) (hword : slice? s i j = some w) (hne : w ≠ removed) :
    removeAt? removed s state (i, j) = some state := by
  simp [removeAt?, hword, hne]

/-- A word with a comma behind it takes that along. -/
theorem removeAt?_of_comma (out : String) (hword : slice? s i j = some removed)
    (hbehind : slice? s j s.utf8ByteSize = some behind) (hcomma : behind.toList.head? = some ',')
    (hbefore : slice? s k (max i k) = some before) :
    removeAt? removed s ⟨out, k⟩ (i, j) = some ⟨out ++ before, j + 1⟩ := by
  simp [removeAt?, hword, hbehind, hcomma, hbefore]

/-- Any other takes the comma in front of it along, if there is one that has not been used. -/
theorem removeAt?_of_no_comma (out : String) (hword : slice? s i j = some removed)
    (hbehind : slice? s j s.utf8ByteSize = some behind) (hcomma : behind.toList.head? ≠ some ',')
    (hfront : slice? s 0 i = some front)
    (hbefore : slice? s k (max (if front.toList.getLast? = some ',' then i - 1 else i) k) =
      some before) :
    removeAt? removed s ⟨out, k⟩ (i, j) = some ⟨out ++ before, j⟩ := by
  simp [removeAt?, hword, hbehind, hcomma, hfront, hbefore]

end Text

namespace Piece

open String (utf8Len utf8Len_nil utf8Len_append)
open Text (Copied slice? copyFrom? replaceAt? removeAt?)

variable {s : String}

/-- The words that are left are replaced, or copied with what lies between them: `done` has been
used, and `kept` is still to be copied. -/
theorem copyFrom?_replaceAt? (p : String → Bool) (replacement : String) :
    ∀ (ps : List Piece) (out : String) (done kept : List Char),
    s = String.ofList (done ++ kept ++ ps.flatMap letters) →
    copyFrom? (replaceAt? p replacement s) s (spans (utf8Len (done ++ kept)) ps)
      ⟨out, utf8Len done⟩ =
    some (out ++ String.ofList (kept ++
      (ps.map (substitute p replacement.toList)).flatMap letters))
  | [], out, done, kept, hs => by
    rw [List.flatMap_nil, List.append_nil] at hs
    rw [spans, Text.copyFrom?_nil hs, List.map_nil, List.flatMap_nil, List.append_nil]
  | gap c :: rest, out, done, kept, hs => by
    rw [flatMap_letters_gap, ← List.append_assoc, List.append_assoc done] at hs
    rw [spans_gap, List.append_assoc done, copyFrom?_replaceAt? p replacement rest out done _ hs,
      List.map_cons, substitute, flatMap_letters_gap, List.append_assoc kept]
  | word cs :: rest, out, done, kept, hs => by
    rw [flatMap_letters_word, ← List.append_assoc] at hs
    have hword := Text.slice?_of_eq hs
    rw [spans_word, List.map_cons, substitute]
    by_cases hp : p (String.ofList cs) = true
    · have hbefore : slice? s (utf8Len done) (utf8Len (done ++ kept)) =
          some (String.ofList kept) := by
        rw [List.append_assoc] at hs
        exact Text.slice?_of_eq hs
      have ih := copyFrom?_replaceAt? p replacement rest (out ++ String.ofList kept ++ replacement)
        (done ++ kept ++ cs) [] (by rw [List.append_nil]; exact hs)
      rw [List.append_nil] at ih
      rw [Text.copyFrom?_cons (Text.replaceAt?_of_pos hword hp hbefore), ih, if_pos hp,
        flatMap_letters_word, List.nil_append]
      simp only [String.ofList_append, String.ofList_toList, String.append_assoc]
    · rw [List.append_assoc done] at hs
      rw [Text.copyFrom?_cons (Text.replaceAt?_of_neg hword hp), List.append_assoc done,
        copyFrom?_replaceAt? p replacement rest out done _ hs, if_neg hp, flatMap_letters_word,
        List.append_assoc kept]

/-- The comma that is held back, if there is one. -/
def heldComma (held : Bool) : List Char := if held then [','] else []

@[simp] theorem heldComma_true : heldComma true = [','] := rfl

@[simp] theorem heldComma_false : heldComma false = [] := rfl

/-- A comma takes one byte. -/
theorem utf8Len_concat_comma (xs : List Char) : utf8Len (xs ++ [',']) = utf8Len xs + 1 := by
  rw [utf8Len_append]
  rfl

theorem flatMap_letters_held (held : Bool) (ps : List Piece) :
    ((if held = true then [gap ','] else []) ++ ps).flatMap letters =
      heldComma held ++ ps.flatMap letters := by
  cases held <;> rfl

theorem head?_letters_ne_comma {ps : List Piece} (h : StartsApart ps)
    (hcomma : ∀ rest, ps ≠ gap ',' :: rest) : (ps.flatMap letters).head? ≠ some ',' := by
  rcases ps with _ | ⟨cs | c, rest⟩
  · simp
  · exact absurd h (not_startsApart_word cs rest)
  · rw [flatMap_letters_gap, List.singleton_append, List.head?_cons]
    rintro heq
    exact hcomma rest (by rw [Option.some.inj heq])

theorem getLast?_append_word {cs : List Char} (h : IsWord cs) (xs : List Char) :
    (xs ++ cs).getLast? ≠ some ',' := by
  rw [List.getLast?_append_of_ne_nil _ h.1]
  intro hlast
  have hletter := h.2 ',' (List.mem_of_getLast? hlast)
  exact absurd hletter (by decide)

/-- Where a word with nothing but a comma in front of it begins to be removed: at that comma if it
is held back, and never before what has been used. -/
theorem removal_start {held : Bool} {done kept : List Char}
    (h : held = false → kept.getLast? ≠ some ',') :
    max (if (done ++ (kept ++ heldComma held)).getLast? = some ',' then
        utf8Len (done ++ (kept ++ heldComma held)) - 1
      else utf8Len (done ++ (kept ++ heldComma held))) (utf8Len done) =
      utf8Len (done ++ kept) := by
  have hlen : utf8Len (done ++ kept) = utf8Len done + utf8Len kept := utf8Len_append _ _
  cases held with
  | true =>
    have hcomma : utf8Len (done ++ (kept ++ heldComma true)) = utf8Len (done ++ kept) + 1 := by
      rw [heldComma_true, ← List.append_assoc, utf8Len_concat_comma]
    have hlast : (done ++ (kept ++ heldComma true)).getLast? = some ',' := by
      rw [← List.append_assoc]
      exact List.getLast?_concat
    rw [if_pos hlast, hcomma]
    omega
  | false =>
    rw [heldComma_false, List.append_nil]
    rcases List.eq_nil_or_concat kept with rfl | ⟨init, c, rfl⟩
    · -- the comma in front has been used
      rw [List.append_nil]
      split <;> omega
    · have hlast := h rfl
      rw [List.concat_eq_append, List.getLast?_concat] at hlast
      rw [if_neg (by rw [List.concat_eq_append, ← List.append_assoc, List.getLast?_concat]
                     exact hlast)]
      omega

/-- From these pieces on, some characters are written where the word with the letters `removed` is
removed: `done` has been used, and `kept` is still to be copied, with the comma that is held
back. -/
def Writes (s : String) (removed : List Char) (held : Bool) (ps : List Piece)
    (written : List Char) : Prop :=
  ∀ (out : String) (done kept : List Char),
    s = String.ofList (done ++ (kept ++ heldComma held) ++ ps.flatMap letters) →
    (held = false → kept.getLast? ≠ some ',') →
    copyFrom? (removeAt? (String.ofList removed) s) s
      (spans (utf8Len (done ++ (kept ++ heldComma held))) ps) ⟨out, utf8Len done⟩ =
    some (out ++ String.ofList (kept ++ written))

variable {removed written : List Char} {held : Bool} {c : Char} {cs : List Char} {ps : List Piece}

/-- At the end the comma that is held back is copied. -/
theorem writes_nil (s : String) (removed : List Char) (held : Bool) :
    Writes s removed held [] (heldComma held) := by
  intro out done kept hs _
  rw [List.flatMap_nil, List.append_nil] at hs
  rw [spans, Text.copyFrom?_nil hs]

/-- A comma is held back, and one that was held back before is copied. -/
theorem Writes.comma (h : Writes s removed true ps written) :
    Writes s removed held (gap ',' :: ps) (heldComma held ++ written) := by
  intro out done kept hs _
  rw [flatMap_letters_gap, ← List.append_assoc, List.append_assoc done] at hs
  have hrest := h out done (kept ++ heldComma held) hs fun hfalse => nomatch hfalse
  rw [spans_gap, List.append_assoc done, ← List.append_assoc kept]
  exact hrest

/-- What is copied and does not end in a comma leaves none to be held back. -/
theorem Writes.kept (h : Writes s removed false ps written) (out : String) {done kept : List Char}
    (hs : s = String.ofList (done ++ kept ++ ps.flatMap letters))
    (hlast : kept.getLast? ≠ some ',') :
    copyFrom? (removeAt? (String.ofList removed) s) s (spans (utf8Len (done ++ kept)) ps)
      ⟨out, utf8Len done⟩ = some (out ++ String.ofList (kept ++ written)) := by
  have hrest := h out done kept (by rw [heldComma_false, List.append_nil]; exact hs) fun _ => hlast
  rwa [heldComma_false, List.append_nil] at hrest

/-- Any other separator is copied, behind a comma that was held back. -/
theorem Writes.gap (h : Writes s removed false ps written) (hc : c ≠ ',') :
    Writes s removed held (gap c :: ps) (heldComma held ++ c :: written) := by
  intro out done kept hs _
  rw [flatMap_letters_gap, ← List.append_assoc, List.append_assoc done] at hs
  have hlast : (kept ++ heldComma held ++ [c]).getLast? ≠ some ',' := by
    rw [List.getLast?_concat]
    exact fun heq => hc (Option.some.inj heq)
  rw [spans_gap, List.append_assoc done, h.kept out hs hlast]
  simp only [List.append_assoc, List.singleton_append]

/-- Another word is copied. -/
theorem Writes.other (h : Writes s removed false ps written) (hword : IsWord cs)
    (hne : cs ≠ removed) :
    Writes s removed held (word cs :: ps) (heldComma held ++ (cs ++ written)) := by
  intro out done kept hs _
  rw [flatMap_letters_word, ← List.append_assoc] at hs
  have hne' : String.ofList cs ≠ String.ofList removed := fun heq =>
    hne (String.ofList_injective heq)
  have hstep := Text.removeAt?_of_ne ⟨out, utf8Len done⟩ (Text.slice?_of_eq hs) hne'
  rw [List.append_assoc done] at hs
  rw [spans_word, Text.copyFrom?_cons hstep, List.append_assoc done,
    h.kept out hs (getLast?_append_word hword _)]
  simp only [List.append_assoc]

/-- What follows is written after all that has been used. -/
theorem Writes.used (h : Writes s removed false ps written) (out : String) {done : List Char}
    (hs : s = String.ofList (done ++ ps.flatMap letters)) :
    copyFrom? (removeAt? (String.ofList removed) s) s (spans (utf8Len done) ps)
      ⟨out, utf8Len done⟩ = some (out ++ String.ofList written) := by
  have hempty : s = String.ofList (done ++ [] ++ ps.flatMap letters) := by
    rw [List.append_nil, hs]
  have hrest := h.kept out hempty (by simp)
  rwa [List.append_nil] at hrest

/-- The word is removed with the comma behind it; a comma in front of it is copied. -/
theorem Writes.taken_comma (h : Writes s removed false ps written) :
    Writes s removed held (word removed :: .gap ',' :: ps) (heldComma held ++ written) := by
  intro out done kept hs _
  rw [flatMap_letters_word, ← List.append_assoc] at hs
  have hmax : max (utf8Len (done ++ (kept ++ heldComma held))) (utf8Len done) =
      utf8Len (done ++ (kept ++ heldComma held)) := by
    rw [utf8Len_append]
    omega
  have hbefore : slice? s (utf8Len done)
      (max (utf8Len (done ++ (kept ++ heldComma held))) (utf8Len done)) =
        some (String.ofList (kept ++ heldComma held)) := by
    rw [hmax]
    rw [List.append_assoc] at hs
    exact Text.slice?_of_eq hs
  have hcomma : (String.ofList ((Piece.gap ',' :: ps).flatMap letters)).toList.head? =
      some ',' := by
    rw [String.toList_ofList]
    rfl
  have hstep := Text.removeAt?_of_comma out (Text.slice?_of_eq hs) (Text.slice?_end_of_eq hs)
    hcomma hbefore
  rw [flatMap_letters_gap, ← List.append_assoc] at hs
  have hrest := h.used (out ++ String.ofList (kept ++ heldComma held)) hs
  rw [utf8Len_concat_comma] at hrest
  rw [spans_word, Text.copyFrom?_cons hstep, spans_gap, utf8Len_concat_comma, hrest,
    String.append_assoc, ← String.ofList_append, List.append_assoc]

/-- The word is removed with the comma in front of it, if that is held back. -/
theorem Writes.taken (h : Writes s removed false ps written)
    (hnext : (ps.flatMap letters).head? ≠ some ',') :
    Writes s removed held (word removed :: ps) written := by
  intro out done kept hs hkept
  rw [flatMap_letters_word, ← List.append_assoc] at hs
  have hfront : slice? s 0 (utf8Len (done ++ (kept ++ heldComma held))) =
      some (String.ofList (done ++ (kept ++ heldComma held))) := by
    rw [List.append_assoc, ← List.nil_append (done ++ (kept ++ heldComma held))] at hs
    exact Text.slice?_of_eq hs
  have hbefore : slice? s (utf8Len done) (utf8Len (done ++ kept)) = some (String.ofList kept) := by
    rw [← List.append_assoc done, List.append_assoc, List.append_assoc] at hs
    exact Text.slice?_of_eq hs
  rw [← removal_start hkept] at hbefore
  have hstep := Text.removeAt?_of_no_comma out (Text.slice?_of_eq hs) (Text.slice?_end_of_eq hs)
    (by rwa [String.toList_ofList]) hfront (by rwa [String.toList_ofList])
  rw [spans_word, Text.copyFrom?_cons hstep, h.used _ hs, String.append_assoc,
    ← String.ofList_append]

/-- **The loop over the spans writes what the removal from the pieces leaves.** -/
theorem writes_remove (s : String) (removed : List Char) (held : Bool) {ps : List Piece}
    (h : Proper ps) : Writes s removed held ps ((remove removed held ps).flatMap letters) := by
  fun_induction remove removed held ps with
  | case1 => exact writes_nil s removed true
  | case2 held hheld =>
    rw [Bool.not_eq_true] at hheld
    subst hheld
    exact writes_nil s removed false
  | case3 held rest before ih =>
    rw [flatMap_letters_held]
    exact (ih h.2).comma
  | case4 held c rest before hc ih =>
    rw [flatMap_letters_held]
    exact (ih h.2).gap hc
  | case5 held rest before ih =>
    rw [flatMap_letters_held]
    exact (ih h.2.2.2).taken_comma
  | case6 held cs rest before hcs ih =>
    rw [flatMap_letters_held, flatMap_letters_word]
    exact (ih h.2.2.2).comma.other h.1 hcs
  | case7 held rest hnocomma ih =>
    exact (ih h.2.2).taken (head?_letters_ne_comma h.2.1 hnocomma)
  | case8 cs rest hnocomma hcs ih => exact (ih h.2.2).other h.1 hcs
  | case9 held cs rest hnocomma hcs hheld ih =>
    rw [Bool.not_eq_true] at hheld
    subst hheld
    exact (ih h.2.2).other h.1 hcs

end Piece

namespace Text

open String (utf8Len utf8Len_nil)

/-- **No copy fails, and the replaced text is that of the pieces.** -/
theorem replaceBySpans?_eq (p : String → Bool) (replacement s : String) :
    replaceBySpans? p replacement s = some (replaceWords p replacement s) := by
  have hs : s = String.ofList ([] ++ [] ++ (Piece.ofText s).flatMap Piece.letters) := by
    rw [List.nil_append, List.nil_append]
    exact (Piece.text_ofText s).symm
  have h := Piece.copyFrom?_replaceAt? p replacement (Piece.ofText s) "" [] [] hs
  rw [List.nil_append, List.nil_append, utf8Len_nil, ← wordSpans_eq, String.empty_append] at h
  exact h

/-- **No copy fails, and the text without the word is that of the pieces.** -/
theorem removeBySpans?_eq (removed s : String) :
    removeBySpans? removed s = some (removeWord removed s) := by
  have hs : s = String.ofList ([] ++ ([] ++ Piece.heldComma false) ++
      (Piece.ofText s).flatMap Piece.letters) :=
    (Piece.text_ofText s).symm
  have h := Piece.writes_remove s removed.toList false (Piece.proper_ofChars s.toList) "" [] [] hs
    (by simp)
  rw [String.ofList_toList, List.nil_append, String.empty_append] at h
  rw [removeBySpans?, wordSpans_eq]
  exact h

/-- A text in which words were replaced by a word is cut into the same pieces, with the words
replaced. -/
theorem ofText_replaceWords (p : String → Bool) {replacement : String}
    (h : Piece.IsWord replacement.toList) (s : String) :
    Piece.ofText (replaceWords p replacement s) =
      (Piece.ofText s).map (Piece.substitute p replacement.toList) := by
  rw [replaceWords_eq_mapWords, ofText_mapWords]
  · exact List.map_congr_left fun q _ => (Piece.substitute_eq_mapWord p replacement q).symm
  · intro w hw
    split
    · exact h
    · exact isWord_of_mem_words hw

/-- **Words by their places are words.**  For every text, the slices at the spans are its words, and
these are its parts between separators without the empty ones. Replacing and removing at the spans
never cuts the text where there is no slice. Words are replaced by a word as a whole, and all else
stays in its place; a word that is removed is gone, and all other words stay as they are. -/
theorem word_spans_exact (s : String) :
    (wordSpans s).mapM (fun span => slice? s span.1 span.2) = some (words s) ∧
    words s = ((s.toList.splitOnP isSeparator).filter (· ≠ [])).map String.ofList ∧
    (∀ p replacement, replaceBySpans? p replacement s = some (replaceWords p replacement s) ∧
      (Piece.IsWord replacement.toList →
        words (replaceWords p replacement s) =
          (words s).map (fun w => if p w = true then replacement else w) ∧
        Piece.ofText (replaceWords p replacement s) =
          (Piece.ofText s).map (Piece.substitute p replacement.toList))) ∧
    ∀ w, removeBySpans? w s = some (removeWord w s) ∧
      words (removeWord w s) = (words s).filter (· ≠ w) := by
  refine ⟨mapM_slice?_wordSpans s, words_eq_splitOnP s, fun p replacement => ?_, fun w => ?_⟩
  · exact ⟨replaceBySpans?_eq p replacement s, fun hword =>
      ⟨words_replaceWords hword s, ofText_replaceWords p hword s⟩⟩
  · exact ⟨removeBySpans?_eq w s, words_removeWord w s⟩

-- the comma between the two is used by the first, and there is none left for the second
example : removeBySpans? "é" "x é,é; é, y" = some "x ;  y" := by decide +kernel

end Text

end QueryGrading
