import Mathlib
import QueryGrading.Repair.Words

/-!
# Words that are exchanged and removed

A text is cut into pieces so that no word is empty, none holds a separator, and no two words are
neighbours (`Piece.Proper`). The words are what `tokenize` gives. Proper pieces are found again in
their text (`Piece.ofText_text`), so what is done to the pieces is done to the words.

Where each word is exchanged for another one, the words of the new text are the exchanged words, and
all between them stays (`Text.words_mapWords`); a replacement by `replace_words` is such an
exchange. Where a word is removed by `remove_word`, with a comma beside it, two words never become
neighbours, so the words of the new text are the other words (`Text.words_removeWord`): the comma in
front is taken only if none stands behind. Where all blanks of a text are separators, trimming takes
no word away (`Text.words_trim`).

The replacement must be a word itself (`Piece.IsWord`). In a repair it is, as it comes from another
text or from the list of reserved words.
-/

namespace QueryGrading

namespace Piece

/-! ## 1. Pieces of a text

A text is cut into words and the separators between them, which can be put together again. -/

/-- Some characters make a word: there are some, and none is a separator. -/
def IsWord (cs : List Char) : Prop := cs ≠ [] ∧ ∀ c ∈ cs, isSeparator c = false

/-- The pieces are those that a text is cut into. -/
def Proper : List Piece → Prop
  | [] => True
  | gap c :: rest => isSeparator c = true ∧ Proper rest
  | word cs :: rest => IsWord cs ∧ (∀ ds, rest.head? ≠ some (word ds)) ∧ Proper rest

variable {c : Char} {cs : List Char} {ps : List Piece} {f : String → String}

/-- A letter in front of proper pieces leaves them proper. -/
theorem proper_consLetter (hc : isSeparator c = false) (h : Proper ps) :
    Proper (consLetter c ps) := by
  match ps, h with
  | [], _ => exact ⟨⟨List.cons_ne_nil c [], by simpa using hc⟩, by simp, trivial⟩
  | gap d :: rest, h => exact ⟨⟨List.cons_ne_nil c [], by simpa using hc⟩, by simp, h⟩
  | word cs :: rest, ⟨hword, hnext, hrest⟩ =>
    refine ⟨⟨List.cons_ne_nil c cs, ?_⟩, hnext, hrest⟩
    rw [List.forall_mem_cons]
    exact ⟨hc, hword.2⟩

/-- The pieces of a text are proper. -/
theorem proper_ofChars : ∀ cs : List Char, Proper (ofChars cs)
  | [] => trivial
  | c :: rest => by
    rw [ofChars]
    split
    · next hc => exact ⟨hc, proper_ofChars rest⟩
    · next hc => exact proper_consLetter (Bool.eq_false_of_not_eq_true hc) (proper_ofChars rest)

/-- A word in front of pieces that do not start with a word is cut off whole. -/
theorem ofChars_append {cs rest : List Char} (h : IsWord cs)
    (hnext : ∀ ds, (ofChars rest).head? ≠ some (word ds)) :
    ofChars (cs ++ rest) = word cs :: ofChars rest := by
  obtain ⟨hne, hletters⟩ := h
  induction cs with
  | nil => exact absurd rfl hne
  | cons c cs ih =>
    rw [List.forall_mem_cons] at hletters
    rw [List.cons_append, ofChars, if_neg (by simp [hletters.1])]
    cases cs with
    | nil =>
      rw [List.nil_append]
      cases hrest : ofChars rest with
      | nil => rfl
      | cons q qs =>
        cases q with
        | gap d => rfl
        | word ds => exact absurd (by rw [hrest, List.head?_cons]) (hnext ds)
    | cons d ds => rw [ih (List.cons_ne_nil d ds) hletters.2, consLetter]

/-- Proper pieces are found again in their text. -/
theorem ofChars_letters : ∀ {ps : List Piece}, Proper ps → ofChars (ps.flatMap letters) = ps
  | [], _ => rfl
  | gap c :: rest, ⟨hc, hrest⟩ => by
    rw [List.flatMap_cons, letters, List.singleton_append, ofChars, if_pos hc,
      ofChars_letters hrest]
  | word cs :: rest, ⟨hword, hnext, hrest⟩ => by
    have ih := ofChars_letters hrest
    rw [List.flatMap_cons, letters, ofChars_append hword (by rwa [ih]), ih]

/-- Proper pieces are what their text is cut into. -/
theorem ofText_text (h : Proper ps) : ofText (text ps) = ps := by
  rw [ofText, text, String.toList_ofList, ofChars_letters h]

/-- A letter in front is a letter in front of the characters. -/
theorem letters_consLetter (c : Char) (ps : List Piece) :
    (consLetter c ps).flatMap letters = c :: ps.flatMap letters := by
  unfold consLetter
  split <;> rfl

/-- No character is lost when a text is cut. -/
theorem letters_ofChars : ∀ cs : List Char, (ofChars cs).flatMap letters = cs
  | [] => rfl
  | c :: rest => by
    rw [ofChars]
    split
    · rw [List.flatMap_cons, letters_ofChars rest, letters, List.singleton_append]
    · rw [letters_consLetter, letters_ofChars rest]

/-- No character of a text is lost. -/
theorem text_ofText (s : String) : text (ofText s) = s := by
  rw [text, ofText, letters_ofChars, String.ofList_toList]

/-- A word among proper pieces is a word. -/
theorem isWord_of_mem : ∀ {ps : List Piece} {cs : List Char}, Proper ps → word cs ∈ ps → IsWord cs
  | gap c :: rest, cs, ⟨_, hrest⟩, h => by
    rcases List.mem_cons.mp h with heq | hmem
    · cases heq
    · exact isWord_of_mem hrest hmem
  | word ds :: rest, cs, ⟨hword, _, hrest⟩, h => by
    rcases List.mem_cons.mp h with heq | hmem
    · cases heq
      exact hword
    · exact isWord_of_mem hrest hmem

/-! ## 2. Exchange

A word is exchanged wherever it stands, and the separators stay. -/

/-- A word is exchanged for what a function makes of it. -/
def mapWord (f : String → String) : Piece → Piece
  | word cs => word (f (String.ofList cs)).toList
  | gap c => gap c

theorem word?_mapWord (f : String → String) (q : Piece) : (q.mapWord f).word? = q.word?.map f := by
  cases q with
  | gap c => rfl
  | word cs => rw [mapWord, word?, word?, Option.map_some, String.ofList_toList]

/-- One exchange after another is one exchange. -/
theorem mapWord_mapWord (f g : String → String) (q : Piece) :
    (q.mapWord f).mapWord g = q.mapWord (g ∘ f) := by
  cases q with
  | gap c => rfl
  | word cs => rw [mapWord, mapWord, mapWord, String.ofList_toList, Function.comp_apply]

/-- Substitution exchanges the words that are meant, and no others. -/
theorem substitute_eq_mapWord (p : String → Bool) (replacement : String) (q : Piece) :
    q.substitute p replacement.toList = q.mapWord fun w => if p w then replacement else w := by
  cases q with
  | gap c => rfl
  | word cs =>
    rw [substitute, mapWord]
    split
    · rfl
    · rw [String.toList_ofList]

/-- Words that are exchanged for words leave proper pieces proper. -/
theorem proper_map_mapWord : ∀ {ps : List Piece}, Proper ps →
    (∀ cs, word cs ∈ ps → IsWord (f (String.ofList cs)).toList) → Proper (ps.map (mapWord f))
  | [], _, _ => trivial
  | gap c :: rest, ⟨hc, hrest⟩, hf =>
    ⟨hc, proper_map_mapWord hrest fun cs hcs => hf cs (List.mem_cons_of_mem _ hcs)⟩
  | word cs :: rest, ⟨_, hnext, hrest⟩, hf => by
    refine ⟨hf cs List.mem_cons_self, fun ds => ?_,
      proper_map_mapWord hrest fun cs hcs => hf cs (List.mem_cons_of_mem _ hcs)⟩
    cases rest with
    | nil => simp
    | cons q qs =>
      cases q with
      | gap d => simp [mapWord]
      | word es => exact absurd rfl (hnext es)

/-! ## 3. Removal

A word is removed together with a comma beside it if there is one, so this looks at the pieces
around it. -/

/-- The pieces do not start with a word. -/
def StartsApart (ps : List Piece) : Prop := ∀ cs, ps.head? ≠ some (word cs)

theorem startsApart_gap (c : Char) (ps : List Piece) : StartsApart (gap c :: ps) := by
  intro cs
  simp

theorem not_startsApart_word (cs : List Char) (ps : List Piece) : ¬ StartsApart (word cs :: ps) :=
  fun h => h cs rfl

/-- A comma that was held back is written in front. -/
theorem proper_held (held : Bool) (h : Proper ps) :
    Proper ((if held = true then [gap ','] else []) ++ ps) ∧
      (held = true ∨ StartsApart ps →
        StartsApart ((if held = true then [gap ','] else []) ++ ps)) := by
  cases held with
  | true => exact ⟨⟨rfl, h⟩, fun _ => startsApart_gap ',' ps⟩
  | false => exact ⟨h, fun hps => hps.resolve_left Bool.false_ne_true⟩

/-- **Where a word is removed from proper pieces, no two words become neighbours.** A comma that is
held back stands in front of all that is left, or is taken away with the word behind it; then a
separator follows, or nothing. -/
theorem proper_remove (removed : List Char) (held : Bool) {ps : List Piece} (h : Proper ps) :
    Proper (remove removed held ps) ∧
      (held = true ∨ StartsApart ps → StartsApart (remove removed held ps)) := by
  -- a case for each branch: the end, a comma, another separator, and a word, with or without a
  -- comma behind it
  fun_induction remove removed held ps with
  | case1 => exact ⟨⟨rfl, trivial⟩, fun _ => startsApart_gap ',' []⟩
  | case2 => exact ⟨trivial, fun _ cs => by simp⟩
  | case3 held rest before ih =>
    obtain ⟨hproper, hapart⟩ := ih h.2
    obtain ⟨hheld, hheldApart⟩ := proper_held held hproper
    exact ⟨hheld, fun _ => hheldApart (.inr (hapart (.inl rfl)))⟩
  | case4 held c rest before hc ih =>
    obtain ⟨hproper, -⟩ := ih h.2
    have hgap : Proper (gap c :: remove removed false rest) := ⟨h.1, hproper⟩
    obtain ⟨hheld, hheldApart⟩ := proper_held held hgap
    exact ⟨hheld, fun _ => hheldApart (.inr (startsApart_gap c _))⟩
  | case5 held rest before ih =>
    obtain ⟨hproper, -⟩ := ih h.2.2.2
    obtain ⟨hheld, hheldApart⟩ := proper_held held hproper
    exact ⟨hheld, fun hps => hheldApart (.inl (hps.resolve_right (not_startsApart_word _ _)))⟩
  | case6 held cs rest before hcs ih =>
    obtain ⟨hproper, hapart⟩ := ih h.2.2.2
    have hword : Proper (word cs :: remove removed true rest) := ⟨h.1, hapart (.inl rfl), hproper⟩
    obtain ⟨hheld, hheldApart⟩ := proper_held held hword
    exact ⟨hheld, fun hps => hheldApart (.inl (hps.resolve_right (not_startsApart_word _ _)))⟩
  | case7 held rest hnocomma ih =>
    obtain ⟨hproper, hapart⟩ := ih h.2.2
    exact ⟨hproper, fun _ => hapart (.inr h.2.1)⟩
  | case8 cs rest hnocomma hcs ih =>
    obtain ⟨hproper, hapart⟩ := ih h.2.2
    exact ⟨⟨rfl, h.1, hapart (.inr h.2.1), hproper⟩, fun _ => startsApart_gap ',' _⟩
  | case9 held cs rest hnocomma hcs hheld ih =>
    obtain ⟨hproper, hapart⟩ := ih h.2.2
    refine ⟨⟨h.1, hapart (.inr h.2.1), hproper⟩, fun hps => ?_⟩
    exact absurd (hps.resolve_left hheld) (not_startsApart_word _ _)

theorem filterMap_word?_gap (c : Char) (ps : List Piece) :
    (gap c :: ps).filterMap word? = ps.filterMap word? :=
  rfl

theorem filterMap_word?_word (cs : List Char) (ps : List Piece) :
    (word cs :: ps).filterMap word? = String.ofList cs :: ps.filterMap word? :=
  rfl

theorem filterMap_word?_held (held : Bool) (ps : List Piece) :
    ((if held = true then [gap ','] else []) ++ ps).filterMap word? = ps.filterMap word? := by
  cases held <;> rfl

/-- The words that are left are the others. -/
theorem filterMap_word?_remove (removed : List Char) (held : Bool) (ps : List Piece) :
    (remove removed held ps).filterMap word? =
      (ps.filterMap word?).filter (· ≠ String.ofList removed) := by
  have hdropped : ∀ qs : List Piece,
      ((word removed :: qs).filterMap word?).filter (· ≠ String.ofList removed) =
        (qs.filterMap word?).filter (· ≠ String.ofList removed) := by
    intro qs
    rw [filterMap_word?_word, List.filter_cons_of_neg (by simp)]
  have hkept : ∀ {cs : List Char} (qs : List Piece), cs ≠ removed →
      ((word cs :: qs).filterMap word?).filter (· ≠ String.ofList removed) =
        String.ofList cs :: (qs.filterMap word?).filter (· ≠ String.ofList removed) := by
    intro cs qs hcs
    have hne : String.ofList cs ≠ String.ofList removed :=
      fun heq => hcs (String.ofList_injective heq)
    rw [filterMap_word?_word, List.filter_cons_of_pos (by simpa using hne)]
  fun_induction remove removed held ps with
  | case1 => rfl
  | case2 => rfl
  | case3 held rest before ih => rw [filterMap_word?_held, ih, filterMap_word?_gap]
  | case4 held c rest before hc ih =>
    rw [filterMap_word?_held, filterMap_word?_gap, ih, filterMap_word?_gap]
  | case5 held rest before ih => rw [filterMap_word?_held, ih, hdropped, filterMap_word?_gap]
  | case6 held cs rest before hcs ih =>
    rw [filterMap_word?_held, filterMap_word?_word, ih, hkept _ hcs, filterMap_word?_gap]
  | case7 held rest hnocomma ih => rw [ih, hdropped]
  | case8 cs rest hnocomma hcs ih =>
    rw [filterMap_word?_gap, filterMap_word?_word, ih, hkept _ hcs]
  | case9 held cs rest hnocomma hcs hheld ih => rw [filterMap_word?_word, ih, hkept _ hcs]

/-! ## 4. The ends of a text -/

/-- A separator at the end is not reached by a letter in front. -/
theorem consLetter_append_gap (d c : Char) (ps : List Piece) :
    consLetter d (ps ++ [gap c]) = consLetter d ps ++ [gap c] := by
  cases ps with
  | nil => rfl
  | cons q qs => cases q <;> rfl

/-- A separator at the end is a piece at the end. -/
theorem ofChars_concat (hc : isSeparator c = true) (cs : List Char) :
    ofChars (cs ++ [c]) = ofChars cs ++ [gap c] := by
  induction cs with
  | nil => exact if_pos hc
  | cons d cs ih =>
    rw [List.cons_append, ofChars, ofChars, ih]
    split
    · rfl
    · exact consLetter_append_gap d c _

/-- Separators that are left out at the front take no word away. -/
theorem filterMap_word?_dropWhile {p : Char → Bool}
    (h : ∀ c ∈ cs, p c = true → isSeparator c = true) :
    (ofChars (cs.dropWhile p)).filterMap word? = (ofChars cs).filterMap word? := by
  induction cs with
  | nil => rfl
  | cons c cs ih =>
    rw [List.forall_mem_cons] at h
    rw [List.dropWhile_cons]
    split
    · next hc => rw [ih h.2, ofChars, if_pos (h.1 hc), filterMap_word?_gap]
    · rfl

/-- Nor do they at the end. -/
theorem filterMap_word?_rdropWhile {p : Char → Bool}
    (h : ∀ c ∈ cs, p c = true → isSeparator c = true) :
    (ofChars (cs.rdropWhile p)).filterMap word? = (ofChars cs).filterMap word? := by
  induction cs using List.reverseRecOn with
  | nil => rfl
  | append_singleton cs c ih =>
    simp only [List.forall_mem_append, List.forall_mem_singleton] at h
    by_cases hc : p c = true
    · rw [List.rdropWhile_concat_pos _ _ _ hc, ih h.1, ofChars_concat (h.2 hc),
        List.filterMap_append]
      exact (List.append_nil _).symm
    · rw [List.rdropWhile_concat_neg _ _ _ hc]

end Piece

namespace Text

variable {w s : String} {f g : String → String}

/-! ## 5. The words of a text -/

/-- The words of a text are those among its pieces. -/
theorem mem_words_iff : w ∈ words s ↔ .word w.toList ∈ Piece.ofText s := by
  rw [words, List.mem_filterMap]
  constructor
  · rintro ⟨q, hq, hw⟩
    cases q with
    | gap c => cases hw
    | word cs =>
      cases hw
      rwa [String.toList_ofList]
  · intro h
    exact ⟨_, h, by rw [Piece.word?, String.ofList_toList]⟩

theorem ofList_mem_words {cs : List Char} (h : .word cs ∈ Piece.ofText s) :
    String.ofList cs ∈ words s := by
  rw [mem_words_iff, String.toList_ofList]
  exact h

/-- The words of a text are words. -/
theorem isWord_of_mem_words (h : w ∈ words s) : Piece.IsWord w.toList :=
  Piece.isWord_of_mem (Piece.proper_ofChars s.toList) (mem_words_iff.mp h)

/-- A character of a word is one of the text. -/
theorem mem_of_mem_words {c : Char} (h : w ∈ words s) (hc : c ∈ w.toList) : c ∈ s.toList := by
  rw [← Piece.letters_ofChars s.toList]
  exact List.mem_flatMap.mpr ⟨_, mem_words_iff.mp h, hc⟩

/-- A text with each of its words exchanged for what a function makes of it. -/
def mapWords (f : String → String) (s : String) : String :=
  Piece.text ((Piece.ofText s).map (Piece.mapWord f))

/-- The pieces of the new text are the old ones, with the words exchanged. -/
theorem ofText_mapWords (h : ∀ w ∈ words s, Piece.IsWord (f w).toList) :
    Piece.ofText (mapWords f s) = (Piece.ofText s).map (Piece.mapWord f) := by
  have hproper : Piece.Proper ((Piece.ofText s).map (Piece.mapWord f)) :=
    Piece.proper_map_mapWord (Piece.proper_ofChars s.toList) fun cs hcs =>
      h _ (ofList_mem_words hcs)
  exact Piece.ofText_text hproper

/-- **Where words are exchanged for words**, the words of the new text are the exchanged words. -/
theorem words_mapWords (h : ∀ w ∈ words s, Piece.IsWord (f w).toList) :
    words (mapWords f s) = (words s).map f := by
  rw [words, ofText_mapWords h, List.filterMap_map, words, List.map_filterMap]
  exact List.filterMap_congr fun q _ => Piece.word?_mapWord f q

/-- One exchange after another is one exchange. -/
theorem mapWords_mapWords (g : String → String) (h : ∀ w ∈ words s, Piece.IsWord (f w).toList) :
    mapWords g (mapWords f s) = mapWords (g ∘ f) s := by
  rw [mapWords, ofText_mapWords h, List.map_map, mapWords]
  congr 1
  exact List.map_congr_left fun q _ => Piece.mapWord_mapWord f g q

/-- Only what becomes of the words of the text matters. -/
theorem mapWords_congr (h : ∀ w ∈ words s, f w = g w) : mapWords f s = mapWords g s := by
  rw [mapWords, mapWords]
  congr 1
  refine List.map_congr_left fun q hq => ?_
  cases q with
  | gap c => rfl
  | word cs =>
    rw [Piece.mapWord, Piece.mapWord, h _ (ofList_mem_words hq)]

/-- A character of the new text is one of the old text or of an exchanged word. -/
theorem mem_mapWords_cases {c : Char} (h : c ∈ (mapWords f s).toList) :
    c ∈ s.toList ∨ ∃ w ∈ words s, c ∈ (f w).toList := by
  rw [mapWords, Piece.text, String.toList_ofList, List.mem_flatMap] at h
  obtain ⟨q', hq', hc⟩ := h
  obtain ⟨q, hq, rfl⟩ := List.mem_map.mp hq'
  cases q with
  | gap d =>
    refine .inl ?_
    rw [← Piece.letters_ofChars s.toList]
    exact List.mem_flatMap.mpr ⟨_, hq, hc⟩
  | word cs => exact .inr ⟨_, ofList_mem_words hq, hc⟩

/-- A text of which no word is exchanged stays. -/
theorem mapWords_id (s : String) : mapWords id s = s := by
  have hid : Piece.mapWord id = id := by
    funext q
    cases q with
    | gap c => rfl
    | word cs => rw [Piece.mapWord, id, String.toList_ofList]; rfl
  rw [mapWords, hid, List.map_id, Piece.text_ofText]

/-- A replacement exchanges the words that are meant for one word. -/
theorem replaceWords_eq_mapWords (p : String → Bool) (replacement s : String) :
    replaceWords p replacement s = mapWords (fun w => if p w then replacement else w) s := by
  rw [replaceWords, mapWords]
  congr 1
  exact List.map_congr_left fun q _ => Piece.substitute_eq_mapWord p replacement q

/-- A text in which words were replaced by a word has the old words, each replaced or kept. -/
theorem words_replaceWords {p : String → Bool} {replacement : String}
    (h : Piece.IsWord replacement.toList) (s : String) :
    words (replaceWords p replacement s) =
      (words s).map fun w => if p w = true then replacement else w := by
  rw [replaceWords_eq_mapWords]
  refine words_mapWords fun w hw => ?_
  split
  · exact h
  · exact isWord_of_mem_words hw

/-- **A text from which a word was removed** has the other words. -/
theorem words_removeWord (w s : String) : words (removeWord w s) = (words s).filter (· ≠ w) := by
  have hproper : Piece.Proper (Piece.remove w.toList false (Piece.ofText s)) :=
    (Piece.proper_remove w.toList false (Piece.proper_ofChars s.toList)).1
  rw [words, removeWord, Piece.ofText_text hproper, Piece.filterMap_word?_remove,
    String.ofList_toList, words]

/-- **A text whose blanks are separators keeps its words when it is trimmed.** -/
theorem words_trim (h : ∀ c ∈ s.toList, isBlank c = true → isSeparator c = true) :
    words (trim s) = words s := by
  have hfront : ∀ c ∈ s.toList.dropWhile isBlank, isBlank c = true → isSeparator c = true :=
    fun c hc => h c (List.dropWhile_subset _ hc)
  rw [trim, trimEnd, String.toList_ofList, ← List.rdropWhile, words, Piece.ofText,
    String.toList_ofList, Piece.filterMap_word?_rdropWhile hfront,
    Piece.filterMap_word?_dropWhile h]
  rfl

end Text

end QueryGrading
