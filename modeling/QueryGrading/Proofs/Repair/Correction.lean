import QueryGrading.Proofs.Collection
import QueryGrading.Proofs.Repair.Words
import QueryGrading.Repair.Statement

/-!
# Words that are nearly reserved

`closest_keyword` corrects a word to the earliest of the nearest reserved words within the limits
`KEYWORD_MAX_DISTANCE` and `KEYWORD_MAX_NORMALIZED`, if there is one
(`Repair.closestKeyword?_eq_some_iff`). `repair_with_keywords` takes such a correction for every
word that is not reserved, and makes them one after another, each in the whole text.

A correction writes a reserved word, which no other one exchanges, and words that are the same up to
case have the same correction. So all of them together exchange each word for its own correction
(`Repair.exchange_eq_corrected`), and a second repair finds nothing to correct
(`Repair.withKeywords?_corrects`). The text is trimmed at the end, and a blank that does not
separate words, such as a carriage return, may be trimmed off a word; the last statement leaves
texts with such blanks out.

All that is used of the list `SQL_2016_KEYWORDS` is that its words are spelled with the characters
of `isKeywordChar`. The normalized distance is a floating-point number in the source and a fraction
here; for one or two changes no quotient comes near the limit, so rounding does not matter.
-/

namespace QueryGrading

/-! ## 1. Upper case -/

namespace Text

/-- Upper case is upper case already. -/
theorem asciiUpper_asciiUpper (s : String) : asciiUpper (asciiUpper s) = asciiUpper s := by
  refine String.toList_injective ?_
  simp only [asciiUpper, String.toList_map, List.map_map]
  exact List.map_congr_left fun c _ => Char.toUpper_toUpper_eq_toUpper c

theorem length_asciiUpper (s : String) : (asciiUpper s).length = s.length := by
  rw [← String.length_toList, ← String.length_toList, asciiUpper, String.toList_map,
    List.length_map]

/-- Names are the same just where they have the same upper case. -/
theorem sameName_iff {a b : String} : sameName a b = true ↔ asciiUpper a = asciiUpper b := by
  have hupper : ∀ s, asciiUpper (asciiLower s) = asciiUpper s := by
    intro s
    refine String.toList_injective ?_
    simp only [asciiUpper, asciiLower, String.toList_map, List.map_map]
    exact List.map_congr_left fun c _ => Char.toUpper_toLower_eq_toUpper c
  have hlower : ∀ s, asciiLower (asciiUpper s) = asciiLower s := by
    intro s
    refine String.toList_injective ?_
    simp only [asciiUpper, asciiLower, String.toList_map, List.map_map]
    exact List.map_congr_left fun c _ => Char.toLower_toUpper_eq_toLower c
  rw [sameName, beq_iff_eq]
  constructor
  · intro h
    rw [← hupper a, h, hupper b]
  · intro h
    rw [← hlower a, h, hlower b]

end Text

/-! ## 2. Reserved words

What is needed of the reserved words is a property of their characters, which is checked on the list
once. All else follows for any word with these characters. -/

/-- The characters of reserved words: capital letters, digits, underscores and hyphens. -/
def isKeywordChar (c : Char) : Bool := c.isUpper || c.isDigit || c == '_' || c == '-'

/-- The list of reserved words is gone through once, and used by this alone. -/
theorem keywords_spelled :
    (keywords.all fun k => !k.toList.isEmpty && k.toList.all isKeywordChar) = true := by
  decide +kernel

section Spelling

variable {c : Char} {k : String}

/-- They lie above the blanks of ASCII and below the small letters. -/
theorem toNat_of_isKeywordChar (h : isKeywordChar c = true) : 45 ≤ c.toNat ∧ c.toNat ≤ 95 := by
  simp only [isKeywordChar, Char.isUpper, Char.isDigit, Bool.or_eq_true, Bool.and_eq_true,
    decide_eq_true_eq, beq_iff_eq, ge_iff_le, UInt32.le_iff_toNat_le] at h
  rcases h with ((hupper | hdigit) | rfl) | rfl
  · have hle : 65 ≤ c.toNat ∧ c.toNat ≤ 90 := hupper
    omega
  · have hle : 48 ≤ c.toNat ∧ c.toNat ≤ 57 := hdigit
    omega
  · decide
  · decide

theorem toUpper_of_isKeywordChar (h : isKeywordChar c = true) : c.toUpper = c := by
  obtain ⟨-, hle⟩ := toNat_of_isKeywordChar h
  refine dif_neg fun hletter => ?_
  have hge : 97 ≤ c.toNat := UInt32.le_iff_toNat_le.mp hletter.1
  omega

theorem isSeparator_of_isKeywordChar (h : isKeywordChar c = true) : isSeparator c = false := by
  rw [Bool.eq_false_iff]
  intro hseparator
  simp only [isSeparator, Bool.or_eq_true, decide_eq_true_eq] at hseparator
  rcases hseparator with (((rfl | rfl) | rfl) | rfl) | rfl <;> revert h <;> decide

theorem isBlank_of_isKeywordChar (h : isKeywordChar c = true) : Text.isBlank c = false := by
  obtain ⟨hge, hle⟩ := toNat_of_isKeywordChar h
  -- the third range of blanks is the first one above
  have hcontrol : ¬ c.toNat ≤ 13 := by omega
  have hspace : ¬ c.toNat ≤ 32 := by omega
  have hnext : c.toNat < 133 := by omega
  simp [Text.isBlank, Text.blankRanges, Text.inRanges, hcontrol, hspace, hnext]

theorem isKeywordChar_of_mem (h : k ∈ keywords) (hc : c ∈ k.toList) : isKeywordChar c = true := by
  have hk := List.all_eq_true.mp keywords_spelled k h
  rw [Bool.and_eq_true] at hk
  exact List.all_eq_true.mp hk.2 c hc

/-- A reserved word is a word of a text. -/
theorem isWord_of_mem_keywords (h : k ∈ keywords) : Piece.IsWord k.toList := by
  have hk := List.all_eq_true.mp keywords_spelled k h
  rw [Bool.and_eq_true] at hk
  refine ⟨by simpa using hk.1, fun c hc => ?_⟩
  exact isSeparator_of_isKeywordChar (isKeywordChar_of_mem h hc)

/-- Reserved words are in upper case. -/
theorem asciiUpper_of_mem_keywords (h : k ∈ keywords) : Text.asciiUpper k = k := by
  refine String.toList_injective ?_
  rw [Text.asciiUpper, String.toList_map]
  conv_rhs => rw [← List.map_id k.toList]
  exact List.map_congr_left fun c hc => toUpper_of_isKeywordChar (isKeywordChar_of_mem h hc)

/-- The words of the list are reserved. -/
theorem isKeyword_of_mem (h : k ∈ keywords) : isKeyword k = true := by
  rw [isKeyword, asciiUpper_of_mem_keywords h]
  exact List.contains_iff_mem.mpr h

end Spelling

/-- Whether a word is reserved is for its upper case to say. -/
theorem isKeyword_congr {a b : String} (h : Text.asciiUpper a = Text.asciiUpper b) :
    isKeyword a = isKeyword b := by
  rw [isKeyword, h, isKeyword]

namespace Repair

variable {q word keyword w : String} {p : String × String} {words : List String}
  {pairs : List (String × String)}

/-! ## 3. The nearest reserved word

`closest_keyword` keeps the best word so far while it goes through the list. Its result is described
without the loop: the least distance, and of several words of this distance the first. -/

/-- A reserved word is within the limits of a correction: at most two changes lead from the word in
upper case to it, and the distance in relation to the lengths is at most 0.27. -/
def InReach (word keyword : String) : Prop :=
  editDistance (Text.asciiUpper word) keyword ≤ 2 ∧
    200 * editDistance (Text.asciiUpper word) keyword ≤
      27 * (word.length + keyword.length + editDistance (Text.asciiUpper word) keyword)

/-- The reserved word is the earliest of the nearest ones in reach. -/
def IsNearest (word keyword : String) : Prop :=
  ∃ before after, keywords = before ++ keyword :: after ∧ InReach word keyword ∧
    (∀ k ∈ before, InReach word k →
      editDistance (Text.asciiUpper word) keyword < editDistance (Text.asciiUpper word) k) ∧
    ∀ k ∈ after, InReach word k →
      editDistance (Text.asciiUpper word) keyword ≤ editDistance (Text.asciiUpper word) k

/-- What the search for the nearest reserved word compares: the reserved word with its distance, if
it is in reach. -/
def candidate? (upper keyword : String) : Option (Nat × String) :=
  if isNear upper keyword (editDistance upper keyword) then
    some (editDistance upper keyword, keyword)
  else none

/-- A candidate is a reserved word in reach with its distance. -/
theorem candidate?_eq_some_iff {d : Nat} {k : String} :
    candidate? (Text.asciiUpper word) k = some (d, keyword) ↔
      k = keyword ∧ InReach word k ∧ editDistance (Text.asciiUpper word) k = d := by
  unfold candidate?
  simp only [isNear, Text.length_asciiUpper, Bool.and_eq_true, decide_eq_true_eq, InReach]
  constructor
  · intro h
    obtain ⟨hreach, heq⟩ := Option.ite_none_right_eq_some.mp h
    cases heq
    exact ⟨rfl, hreach, rfl⟩
  · rintro ⟨rfl, hreach, rfl⟩
    exact if_pos hreach

/-- The search keeps the first candidate of the least distance so far. -/
theorem nearest?_eq_foldl (upper : String) (keywords : List String) (best : Option (Nat × String)) :
    nearest? upper best keywords =
      (keywords.filterMap (candidate? upper)).foldl (List.argAux fun b c => b.1 < c.1) best := by
  induction keywords generalizing best with
  | nil => rfl
  | cons keyword rest ih =>
    rw [List.filterMap_cons, candidate?]
    by_cases hnear : isNear upper keyword (editDistance upper keyword) = true
    · rw [if_pos hnear, List.foldl_cons, ← ih]
      cases best with
      | none => simp [nearest?, hnear, List.argAux]
      | some least => simp [nearest?, hnear, List.argAux]
    · rw [if_neg hnear, ← ih]
      cases best with
      | none => simp only [nearest?, hnear, Bool.false_and, Bool.false_eq_true, if_false]
      | some least => simp only [nearest?, hnear, Bool.false_and, Bool.false_eq_true, if_false]

/-- The search finds the first candidate of the least distance. -/
theorem closestKeyword?_eq_argmin (word : String) :
    closestKeyword? word =
      ((keywords.filterMap (candidate? (Text.asciiUpper word))).argmin (·.1)).map (·.2) := by
  rw [closestKeyword?, nearest?_eq_foldl]
  rfl

/-- **A word is corrected to the earliest of the nearest reserved words in reach.** -/
theorem closestKeyword?_eq_some_iff :
    closestKeyword? word = some keyword ↔ IsNearest word keyword := by
  rw [closestKeyword?_eq_argmin, Option.map_eq_some_iff]
  constructor
  · rintro ⟨⟨d, k⟩, hleast, rfl⟩
    obtain ⟨before, k', after, hsplit, hk, hbefore, hafter⟩ :=
      argmin_filterMap_eq_some_iff.mp hleast
    obtain ⟨rfl, hreach, rfl⟩ := candidate?_eq_some_iff.mp hk
    refine ⟨before, after, hsplit, hreach, fun k hk hreach' => ?_, fun k hk hreach' => ?_⟩
    · exact hbefore k hk (_, k) (candidate?_eq_some_iff.mpr ⟨rfl, hreach', rfl⟩)
    · exact hafter k hk (_, k) (candidate?_eq_some_iff.mpr ⟨rfl, hreach', rfl⟩)
  · rintro ⟨before, after, hsplit, hreach, hbefore, hafter⟩
    refine ⟨(editDistance (Text.asciiUpper word) keyword, keyword),
      argmin_filterMap_eq_some_iff.mpr ⟨before, keyword, after, hsplit,
        candidate?_eq_some_iff.mpr ⟨rfl, hreach, rfl⟩, ?_, ?_⟩, rfl⟩
    · rintro k hk ⟨d, k'⟩ hcandidate
      obtain ⟨rfl, hreach', rfl⟩ := candidate?_eq_some_iff.mp hcandidate
      exact hbefore k hk hreach'
    · rintro k hk ⟨d, k'⟩ hcandidate
      obtain ⟨rfl, hreach', rfl⟩ := candidate?_eq_some_iff.mp hcandidate
      exact hafter k hk hreach'

/-- There is no correction where no reserved word is in reach. -/
theorem closestKeyword?_eq_none_iff :
    closestKeyword? word = none ↔ ∀ k ∈ keywords, ¬ InReach word k := by
  rw [closestKeyword?_eq_argmin, Option.map_eq_none_iff, argmin_filterMap_eq_none_iff]
  refine forall₂_congr fun k _ => ?_
  rw [Option.eq_none_iff_forall_ne_some]
  constructor
  · intro h hreach
    exact h (_, k) (candidate?_eq_some_iff.mpr ⟨rfl, hreach, rfl⟩)
  · rintro h ⟨d, k'⟩ hsome
    exact h (candidate?_eq_some_iff.mp hsome).2.1

theorem mem_keywords_of_closest (h : closestKeyword? word = some keyword) : keyword ∈ keywords := by
  obtain ⟨before, after, hsplit, -⟩ := closestKeyword?_eq_some_iff.mp h
  rw [hsplit]
  exact List.mem_append_right _ List.mem_cons_self

/-- Words that are the same up to case have the same correction. -/
theorem closestKeyword?_congr {a b : String} (h : Text.asciiUpper a = Text.asciiUpper b) :
    closestKeyword? a = closestKeyword? b := by
  rw [closestKeyword?, h, closestKeyword?]

/-! ## 4. One correction after another

The corrections are made one after another on the whole text. A word that was corrected is a
reserved word then, which no later correction touches; so the order of the corrections does not
matter. -/

/-- What becomes of a word by its correction. -/
def corrected (word : String) : String :=
  if isKeyword word = true then word else (closestKeyword? word).getD word

theorem corrected_of_isKeyword (h : isKeyword word = true) : corrected word = word := if_pos h

/-- A word that is not reserved becomes the nearest reserved word. -/
theorem corrected_of_closest (h : isKeyword word = false)
    (hclosest : closestKeyword? word = some keyword) : corrected word = keyword := by
  rw [corrected, h, hclosest]
  rfl

/-- A word without a reserved word in reach is kept. -/
theorem corrected_of_closest_none (h : closestKeyword? word = none) : corrected word = word := by
  rw [corrected, h, Option.getD_none, ite_self]

/-- A word is kept, or it is not reserved and becomes a reserved word. -/
theorem corrected_cases (word : String) :
    corrected word = word ∨ isKeyword word = false ∧
      closestKeyword? word = some (corrected word) ∧ corrected word ∈ keywords := by
  by_cases hkeyword : isKeyword word = true
  · exact .inl (corrected_of_isKeyword hkeyword)
  · have hfalse : isKeyword word = false := Bool.eq_false_iff.mpr hkeyword
    cases hclosest : closestKeyword? word with
    | none => exact .inl (corrected_of_closest_none hclosest)
    | some keyword =>
      rw [corrected_of_closest hfalse hclosest]
      exact .inr ⟨hfalse, rfl, mem_keywords_of_closest hclosest⟩

/-- A correction is not corrected again. -/
theorem corrected_corrected (word : String) : corrected (corrected word) = corrected word := by
  rcases corrected_cases word with heq | ⟨-, -, hmem⟩
  · rw [heq, heq]
  · exact corrected_of_isKeyword (isKeyword_of_mem hmem)

/-- What a word becomes is a word. -/
theorem isWord_corrected (h : Piece.IsWord word.toList) :
    Piece.IsWord (corrected word).toList := by
  rcases corrected_cases word with heq | ⟨-, -, hmem⟩
  · rwa [heq]
  · exact isWord_of_mem_keywords hmem

/-- The first word with a correction leaves out the later ones that are the same up to case. -/
theorem corrections_cons (word : String) (rest : List String) :
    corrections (word :: rest) =
      if isKeyword word = true then corrections rest
      else
        match closestKeyword? word with
        | some keyword =>
          (Text.asciiUpper word, keyword) ::
            (corrections rest).filter (·.1 ≠ Text.asciiUpper word)
        | none => corrections rest :=
  (rfl)

/-- The corrections are those of the words that have one. -/
theorem mem_corrections_iff :
    p ∈ corrections words ↔ ∃ w ∈ words, isKeyword w = false ∧ p.1 = Text.asciiUpper w ∧
      closestKeyword? w = some p.2 := by
  induction words with
  | nil => exact ⟨nofun, nofun⟩
  | cons word rest ih =>
    rw [corrections_cons, List.exists_mem_cons_iff]
    by_cases hkeyword : isKeyword word = true
    · rw [if_pos hkeyword, ih, hkeyword]
      exact ⟨.inr, fun h => h.resolve_left nofun⟩
    · rw [if_neg hkeyword]
      cases hclosest : closestKeyword? word with
      | none =>
        dsimp only
        rw [ih]
        exact ⟨.inr, fun h => h.resolve_left nofun⟩
      | some keyword =>
        have hfalse : isKeyword word = false := Bool.eq_false_iff.mpr hkeyword
        dsimp only
        rw [List.mem_cons, List.mem_filter, ih, decide_eq_true_eq]
        constructor
        · rintro (rfl | ⟨hrest, -⟩)
          · exact .inl ⟨hfalse, rfl, rfl⟩
          · exact .inr hrest
        · rintro (⟨-, hupper, hkey⟩ | ⟨w, hw, hword, hupper, hkey⟩)
          · exact .inl (Prod.ext hupper (Option.some.inj hkey).symm)
          · by_cases hsame : p.1 = Text.asciiUpper word
            · -- a later word that is the same has the same correction
              rw [closestKeyword?_congr (hupper.symm.trans hsame), hclosest] at hkey
              exact .inl (Prod.ext hsame (Option.some.inj hkey).symm)
            · exact .inr ⟨⟨w, hw, hword, hupper, hkey⟩, hsame⟩

/-- What becomes of a word when corrections are made one after another. -/
def exchange (pairs : List (String × String)) (word : String) : String :=
  pairs.foldl (fun w p => if Text.sameName w p.1 = true then p.2 else w) word

/-- The first pair is exchanged, and then the others. -/
theorem exchange_cons (p : String × String) (pairs : List (String × String)) (w : String) :
    exchange (p :: pairs) w =
      exchange pairs (if Text.sameName w p.1 = true then p.2 else w) :=
  rfl

/-- A word that is called as none of the corrected ones stays. -/
theorem exchange_eq_self (h : ∀ p ∈ pairs, ¬ Text.sameName w p.1 = true) :
    exchange pairs w = w := by
  induction pairs with
  | nil => rfl
  | cons p rest ih =>
    rw [List.forall_mem_cons] at h
    rw [exchange_cons, if_neg h.1, ih h.2]

/-- A pair is the correction of a word. -/
def IsCorrection (p : String × String) : Prop :=
  isKeyword p.1 = false ∧ closestKeyword? p.1 = some p.2

/-- The pairs of a text are corrections. -/
theorem isCorrection_of_mem (h : p ∈ corrections words) : IsCorrection p := by
  obtain ⟨w, -, hword, hupper, hkey⟩ := mem_corrections_iff.mp h
  have hsame : Text.asciiUpper p.1 = Text.asciiUpper w := by
    rw [hupper, Text.asciiUpper_asciiUpper]
  exact ⟨by rw [isKeyword_congr hsame, hword], by rw [closestKeyword?_congr hsame, hkey]⟩

/-- Reserved words are not exchanged. -/
theorem exchange_of_isKeyword (h : ∀ p ∈ pairs, IsCorrection p) (hw : isKeyword w = true) :
    exchange pairs w = w := by
  refine exchange_eq_self fun p hp hsame => ?_
  have hp' := (h p hp).1
  rw [← isKeyword_congr (Text.sameName_iff.mp hsame), hw] at hp'
  exact Bool.false_ne_true hp'.symm

/-- A word that is called as a corrected one becomes its own correction: the first exchange makes a
reserved word of it. -/
theorem exchange_of_mem (h : ∀ p ∈ pairs, IsCorrection p) (hp : p ∈ pairs)
    (hsame : Text.sameName w p.1 = true) : exchange pairs w = corrected w := by
  induction pairs with
  | nil => cases hp
  | cons p' rest ih =>
    rw [List.forall_mem_cons] at h
    rw [exchange_cons]
    by_cases hfirst : Text.sameName w p'.1 = true
    · have hupper := Text.sameName_iff.mp hfirst
      have hkeyword : isKeyword w = false := by rw [isKeyword_congr hupper, h.1.1]
      have hclosest : closestKeyword? w = some p'.2 := by rw [closestKeyword?_congr hupper, h.1.2]
      rw [if_pos hfirst, corrected_of_closest hkeyword hclosest]
      exact exchange_of_isKeyword h.2 (isKeyword_of_mem (mem_keywords_of_closest hclosest))
    · rw [if_neg hfirst]
      rcases List.mem_cons.mp hp with rfl | hmem
      · exact absurd hsame hfirst
      · exact ih h.2 hmem

/-- **All corrections, one after another, make of each word its own correction.** -/
theorem exchange_eq_corrected (hw : w ∈ words) : exchange (corrections words) w = corrected w := by
  have hpairs : ∀ p ∈ corrections words, IsCorrection p := fun p => isCorrection_of_mem
  by_cases hkeyword : isKeyword w = true
  · rw [exchange_of_isKeyword hpairs hkeyword, corrected_of_isKeyword hkeyword]
  · cases hclosest : closestKeyword? w with
    | none =>
      rw [corrected_of_closest_none hclosest]
      refine exchange_eq_self fun p hp hsame => ?_
      have hp' := (hpairs p hp).2
      rw [← closestKeyword?_congr (Text.sameName_iff.mp hsame), hclosest] at hp'
      cases hp'
    | some keyword =>
      have hmem : (Text.asciiUpper w, keyword) ∈ corrections words :=
        mem_corrections_iff.mpr ⟨w, hw, Bool.eq_false_iff.mpr hkeyword, rfl, hclosest⟩
      refine exchange_of_mem hpairs hmem (Text.sameName_iff.mpr ?_)
      exact (Text.asciiUpper_asciiUpper w).symm

/-- There is nothing to correct where each word is kept. -/
theorem corrections_eq_nil_iff : corrections words = [] ↔ ∀ w ∈ words, corrected w = w := by
  rw [List.eq_nil_iff_forall_not_mem]
  constructor
  · intro h w hw
    rcases corrected_cases w with heq | ⟨hkeyword, hclosest, -⟩
    · exact heq
    · exact absurd (mem_corrections_iff.mpr ⟨w, hw, hkeyword, rfl, hclosest⟩)
        (h (Text.asciiUpper w, corrected w))
  · intro h p hp
    obtain ⟨w, hw, hkeyword, -, hclosest⟩ := mem_corrections_iff.mp hp
    -- the reserved word is not the word itself
    have hreserved := isKeyword_of_mem (mem_keywords_of_closest hclosest)
    rw [← corrected_of_closest hkeyword hclosest, h w hw, hkeyword] at hreserved
    exact Bool.false_ne_true hreserved

/-- Texts in which corrections are made one after another are the text in which each word is
exchanged for what becomes of it. -/
theorem foldl_replaceWords_eq (hpairs : ∀ p ∈ pairs, Piece.IsWord p.2.toList) (s : String) :
    pairs.foldl (fun text p => Text.replaceWords (Text.sameName · p.1) p.2 text) s =
      Text.mapWords (exchange pairs) s := by
  induction pairs generalizing s with
  | nil => exact (Text.mapWords_id s).symm
  | cons p rest ih =>
    rw [List.forall_mem_cons] at hpairs
    rw [List.foldl_cons, ih hpairs.2, Text.replaceWords_eq_mapWords, Text.mapWords_mapWords]
    · rfl
    · intro w hw
      split
      · exact hpairs.1
      · exact Text.isWord_of_mem_words hw

/-! ## 5. The repair -/

/-- The repair exchanges each word for its correction and trims the text. -/
theorem withKeywords?_eq (q : String) :
    withKeywords? q =
      if corrections (Text.words q) = [] then none
      else some (Text.trim (Text.mapWords corrected q)) := by
  have hpairs : ∀ p ∈ corrections (Text.words q), Piece.IsWord p.2.toList := fun p hp =>
    isWord_of_mem_keywords (mem_keywords_of_closest (isCorrection_of_mem hp).2)
  have htext := foldl_replaceWords_eq hpairs q
  rw [Text.mapWords_congr fun w hw => exchange_eq_corrected hw] at htext
  rw [← htext, withKeywords?]
  cases corrections (Text.words q) with
  | nil => rfl
  | cons p rest => rfl

/-- There is no repair where each word is kept. -/
theorem withKeywords?_eq_none_iff :
    withKeywords? q = none ↔ ∀ w ∈ Text.words q, corrected w = w := by
  rw [withKeywords?_eq, ← corrections_eq_nil_iff]
  constructor
  · intro h
    by_contra hne
    rw [if_neg hne] at h
    cases h
  · exact fun hnil => if_pos hnil

/-- Where all blanks of a text are separators, those of the corrected text are. -/
theorem isSeparator_of_mem_mapWords
    (h : ∀ c ∈ q.toList, Text.isBlank c = true → isSeparator c = true) :
    ∀ c ∈ (Text.mapWords corrected q).toList, Text.isBlank c = true → isSeparator c = true := by
  intro c hc hblank
  rcases Text.mem_mapWords_cases hc with hold | ⟨w, hw, hnew⟩
  · exact h c hold hblank
  · rcases corrected_cases w with heq | ⟨-, -, hmem⟩
    · rw [heq] at hnew
      exact h c (Text.mem_of_mem_words hw hnew) hblank
    · rw [isBlank_of_isKeywordChar (isKeywordChar_of_mem hmem hnew)] at hblank
      exact absurd hblank Bool.false_ne_true

/-- **The repair by the reserved words.** A word is corrected to the earliest of the nearest
reserved words in reach. There is no repair just where no word is changed by its correction;
otherwise it is the trimmed text with each word exchanged for its correction. Where a text has no
blanks other than spaces, tabs and line feeds, its repair is not repaired again. -/
theorem withKeywords?_corrects :
    (∀ word keyword, closestKeyword? word = some keyword ↔ IsNearest word keyword) ∧
      ∀ q : String,
        (withKeywords? q = none ↔ ∀ w ∈ Text.words q, corrected w = w) ∧
        ((∃ w ∈ Text.words q, corrected w ≠ w) →
          withKeywords? q = some (Text.trim (Text.mapWords corrected q))) ∧
        ((∀ c ∈ q.toList, Text.isBlank c = true → c = ' ' ∨ c = '\t' ∨ c = '\n') →
          ∀ r, withKeywords? q = some r → withKeywords? r = none) := by
  refine ⟨fun _ _ => closestKeyword?_eq_some_iff, fun q => ⟨?_, ?_, ?_⟩⟩
  · rw [withKeywords?_eq_none_iff]
  · rintro ⟨w, hw, hne⟩
    have hsome : corrections (Text.words q) ≠ [] :=
      fun hnil => hne (corrections_eq_nil_iff.mp hnil w hw)
    rw [withKeywords?_eq, if_neg hsome]
  · intro hblank r hr
    have hseparator : ∀ c ∈ q.toList, Text.isBlank c = true → isSeparator c = true := by
      intro c hc hc'
      rcases hblank c hc hc' with rfl | rfl | rfl <;> rfl
    rw [withKeywords?_eq] at hr
    obtain ⟨-, heq⟩ := Option.ite_none_left_eq_some.mp hr
    have hwords : Text.words r = (Text.words q).map corrected := by
      rw [← Option.some.inj heq, Text.words_trim (isSeparator_of_mem_mapWords hseparator),
        Text.words_mapWords fun w hw => isWord_corrected (Text.isWord_of_mem_words hw)]
    rw [withKeywords?_eq_none_iff, hwords, List.forall_mem_map]
    exact fun w _ => corrected_corrected w

/-- A word that is one letter short of a reserved one is corrected, and only once. -/
theorem withKeywords?_corrects_shortened :
    (∃ w ∈ Text.words "\tselec * from t;", corrected w ≠ w) ∧
      ∃ r, withKeywords? "\tselec * from t;" = some r ∧ withKeywords? r = none := by
  have hreach : InReach "selec" "SELECT" := by
    unfold InReach
    decide +kernel
  have hkeyword : isKeyword "selec" = false := by decide +kernel
  have hchanged : corrected "selec" ≠ "selec" := by
    intro heq
    rcases hclosest : closestKeyword? "selec" with _ | k
    · have hmem : "SELECT" ∈ keywords := by decide +kernel
      exact closestKeyword?_eq_none_iff.mp hclosest "SELECT" hmem hreach
    · have hmem := isKeyword_of_mem (mem_keywords_of_closest hclosest)
      rw [← corrected_of_closest hkeyword hclosest, heq, hkeyword] at hmem
      exact Bool.false_ne_true hmem
  have hwords : Text.words "\tselec * from t;" = ["selec", "*", "from", "t"] := by decide +kernel
  have hword : ∃ w ∈ Text.words "\tselec * from t;", corrected w ≠ w :=
    ⟨"selec", by rw [hwords]; exact List.mem_cons_self, hchanged⟩
  have hblanks : ∀ c ∈ "\tselec * from t;".toList, Text.isBlank c = true →
      c = ' ' ∨ c = '\t' ∨ c = '\n' := by
    refine List.forall_iff_forall_mem.mp ?_
    decide +kernel
  obtain ⟨-, hrepair, hblank⟩ := withKeywords?_corrects.2 "\tselec * from t;"
  exact ⟨hword, _, hrepair hword, hblank hblanks _ (hrepair hword)⟩

end Repair

end QueryGrading
