import QueryGrading.Proofs.Collection
import QueryGrading.Proofs.Repair.Script
import QueryGrading.Proofs.Repair.Words
import QueryGrading.Repair.Statement

/-!
# Names that are carried over

A repair by a reference, `repair_from_reference`, takes the words of the reference and carries over
the names of the submission, step by step: each step that has one name in place of another exchanges
the one for the other by `replace_words`, in the whole text. So a name that an earlier step has
written is exchanged again by a later one, and so is every other word that is the same.

Where the script keeps and replaces words only, the words of the repair are those of the reference,
each carried through all steps (`words_fromReference?`). Each word becomes what its own step makes
of it just where equal words become the same word, and no step writes a word that a later one
exchanges (`Steady`). The proof is one on pairs of words (`carry_eq_wanted_iff`); the text and its
pieces enter only in what one step does to the words (`words_applyEdit`).

Two words count as the same names if they have the same `word_core`. Steps that delete or insert
words are not considered: their words have no place in the other list to be compared with.
-/

namespace QueryGrading

/-! ## 1. One exchange after another

A word that comes in by one exchange may go out by a later one. So what becomes of a word is the
fold of all exchanges over it. -/

section Carry

variable {α : Type} [DecidableEq α]

/-- What becomes of a word when pairs are exchanged one after another. -/
def carry (pairs : List (α × α)) (w : α) : α :=
  pairs.foldl (fun w p => if w = p.1 then p.2 else w) w

variable {pairs : List (α × α)} {p : α × α} {w : α}

/-- The first pair is exchanged, and then the others. -/
theorem carry_cons (p : α × α) (pairs : List (α × α)) (w : α) :
    carry (p :: pairs) w = carry pairs (if w = p.1 then p.2 else w) :=
  rfl

/-- A word that the first pair exchanges goes on as the other one. -/
theorem carry_cons_self (p : α × α) (pairs : List (α × α)) :
    carry (p :: pairs) p.1 = carry pairs p.2 := by
  rw [carry_cons, if_pos rfl]

/-- Any other word goes on as it is. -/
theorem carry_cons_of_ne (h : w ≠ p.1) : carry (p :: pairs) w = carry pairs w := by
  rw [carry_cons, if_neg h]

/-- A word that no pair exchanges stays. -/
theorem carry_eq_self (h : ∀ p ∈ pairs, p.1 ≠ w) : carry pairs w = w := by
  induction pairs with
  | nil => rfl
  | cons p rest ih =>
    rw [List.forall_mem_cons] at h
    rw [carry_cons_of_ne h.1.symm, ih h.2]

/-- Pairs of two equal words can be left out. -/
theorem carry_filter (pairs : List (α × α)) (w : α) :
    carry (pairs.filter fun p => p.1 ≠ p.2) w = carry pairs w := by
  induction pairs generalizing w with
  | nil => rfl
  | cons p rest ih =>
    by_cases hp : p.1 = p.2
    · rw [List.filter_cons_of_neg (by simpa using hp), ih, carry_cons]
      split
      · next hw => rw [hw, hp]
      · rfl
    · rw [List.filter_cons_of_pos (by simpa using hp), carry_cons, ih, carry_cons]

/-- An exchanged word stays as it is written if no pair at all exchanges it. -/
theorem carry_eq_of_mem {f : α → α} (hf : ∀ p ∈ pairs, p.2 = f p.1) (hp : p ∈ pairs)
    (hstop : ∀ q ∈ pairs, q.1 ≠ f p.1) : carry pairs p.1 = f p.1 := by
  induction pairs with
  | nil => cases hp
  | cons q rest ih =>
    rw [List.forall_mem_cons] at hf hstop
    by_cases hpq : p.1 = q.1
    · rw [hpq, carry_cons_self, hf.1, ← hpq, carry_eq_self hstop.2]
    · have hmem : p ∈ rest := by
        rcases List.mem_cons.mp hp with rfl | hmem
        · exact absurd rfl hpq
        · exact hmem
      rw [carry_cons_of_ne hpq, ih hf.2 hmem hstop.2]

/-- The pairs of a function, of which none writes what a later one exchanges. -/
theorem carry_of_pairwise {f : α → α} (hf : ∀ p ∈ pairs, p.2 = f p.1)
    (hpairs : pairs.Pairwise fun p q => q.1 ≠ p.2) : ∀ p ∈ pairs, carry pairs p.1 = f p.1 := by
  induction pairs with
  | nil => simp
  | cons q rest ih =>
    rw [List.pairwise_cons] at hpairs
    rw [List.forall_mem_cons] at hf
    have hhead : carry (q :: rest) q.1 = f q.1 := by
      rw [carry_cons_self, carry_eq_self hpairs.1, hf.1]
    rintro p hp
    by_cases hpq : p.1 = q.1
    · rw [hpq, hhead]
    · have hmem : p ∈ rest := by
        rcases List.mem_cons.mp hp with rfl | hmem
        · exact absurd rfl hpq
        · exact hmem
      rw [carry_cons_of_ne hpq, ih hf.2 hpairs.2 p hmem]

/-- Conversely, where every word ends as the function says, none is written that a later pair
exchanges. `done` are the words that were exchanged before: what they became is not exchanged again,
and so an exchanged word is not brought back. -/
theorem pairwise_of_carry {f : α → α} {done : List α} (hf : ∀ p ∈ pairs, p.2 = f p.1 ∧ f p.1 ≠ p.1)
    (hdone : ∀ d ∈ done, ∀ p ∈ pairs, p.1 ≠ f d)
    (hcarry : ∀ p ∈ pairs, p.1 ∉ done → carry pairs p.1 = f p.1) :
    pairs.Pairwise fun p q => q.1 ≠ p.2 := by
  induction pairs generalizing done with
  | nil => exact .nil
  | cons q rest ih =>
    simp only [List.forall_mem_cons] at hf hdone
    obtain ⟨⟨hq, hqne⟩, hrest⟩ := hf
    -- what `q` writes is not exchanged later
    have hhead : ∀ p ∈ rest, p.1 ≠ q.2 := by
      by_cases hold : q.1 ∈ done
      · rw [hq]
        exact (hdone q.1 hold).2
      · intro p hp hpq
        have hback : carry rest q.2 = q.2 := by
          have h := hcarry q List.mem_cons_self hold
          rwa [carry_cons_self, ← hq] at h
        by_cases hagain : p.1 ∈ done
        · -- the first exchange of `q.2` writes what no later pair exchanges
          have h := carry_eq_of_mem (fun r hr => (hrest r hr).1) hp (hdone p.1 hagain).2
          rw [hpq, hback] at h
          exact (hrest p hp).2 (by rw [hpq, ← h])
        · have hne : p.1 ≠ q.1 := by rw [hpq, hq]; exact hqne
          have h := hcarry p (List.mem_cons_of_mem q hp) hagain
          rw [carry_cons_of_ne hne, hpq, hback] at h
          exact (hrest p hp).2 (by rw [hpq, ← h])
    have hdone' : ∀ d ∈ q.1 :: done, ∀ p ∈ rest, p.1 ≠ f d := by
      rw [List.forall_mem_cons, ← hq]
      exact ⟨hhead, fun d hd => (hdone d hd).2⟩
    refine List.pairwise_cons.mpr ⟨hhead, ih hrest hdone' fun p hp hnew => ?_⟩
    rw [List.mem_cons, not_or] at hnew
    rw [← hcarry p (List.mem_cons_of_mem q hp) hnew.2, carry_cons_of_ne hnew.1]

end Carry

/-! ## 2. The steps of a repair

The steps of a repair follow from the script between the words of the reference and those of the
submission; not every step changes the text. -/

namespace WordEdit

/-- A step that keeps or replaces a word. -/
def IsStraight : WordEdit → Prop
  | keep _ => True
  | replace _ _ => True
  | _ => False

instance decidableIsStraight : ∀ e : WordEdit, Decidable e.IsStraight
  | keep _ => .isTrue trivial
  | replace _ _ => .isTrue trivial
  | delete _ => .isFalse id
  | insert _ => .isFalse id

/-- The word of the reference that a step starts from. -/
def known : WordEdit → String
  | keep word => word
  | delete word => word
  | insert word => word
  | replace _ target => target

/-- What a step makes of it: the word of the reference where it is reserved or holds the same names,
and else that of the submission. -/
def wanted : WordEdit → String
  | keep word => word
  | delete word => word
  | insert word => word
  | replace source target =>
    if isKeyword target = true ∨ Text.sameNames source target = true then target else source

/-- The exchange that a step makes; there is none if the two words are equal. -/
def pair (e : WordEdit) : String × String := (e.known, e.wanted)

/-- A step that keeps or replaces a word starts from one word of the reference. -/
theorem target_eq {e : WordEdit} (h : e.IsStraight) : e.target = [e.known] := by
  cases e with
  | keep word => rfl
  | replace source target => rfl
  | delete word => exact h.elim
  | insert word => exact h.elim

end WordEdit

/-- The exchanges of some steps. -/
def substitutions (steps : List WordEdit) : List (String × String) :=
  (steps.map WordEdit.pair).filter fun p => p.1 ≠ p.2

/-- The steps do not get in each other's way: they make the same word of words that are the same,
and none writes a word that a later one exchanges. -/
structure Steady (steps : List WordEdit) : Prop where
  alike : ∀ e ∈ steps, ∀ e' ∈ steps, e.known = e'.known → e.wanted = e'.wanted
  unchained : (substitutions steps).Pairwise fun p q => q.1 ≠ p.2

instance decidableSteady (steps : List WordEdit) : Decidable (Steady steps) :=
  decidable_of_iff
    ((∀ e ∈ steps, ∀ e' ∈ steps, e.known = e'.known → e.wanted = e'.wanted) ∧
      (substitutions steps).Pairwise fun p q => q.1 ≠ p.2)
    ⟨fun ⟨halike, hunchained⟩ => ⟨halike, hunchained⟩, fun h => ⟨h.alike, h.unchained⟩⟩

/-- The exchanges are the pairs of the steps that change a word. -/
theorem mem_substitutions_iff {steps : List WordEdit} {p : String × String} :
    p ∈ substitutions steps ↔ ∃ e ∈ steps, e.pair = p ∧ p.1 ≠ p.2 := by
  simp only [substitutions, List.mem_filter, List.mem_map, decide_eq_true_eq]
  exact ⟨fun ⟨⟨e, he, heq⟩, hne⟩ => ⟨e, he, heq, hne⟩, fun ⟨e, he, heq, hne⟩ => ⟨⟨e, he, heq⟩, hne⟩⟩

/-- **Every word becomes what its own step makes of it just where the steps do not get in each
other's way.** -/
theorem carry_eq_wanted_iff (steps : List WordEdit) :
    (∀ e ∈ steps, carry (steps.map WordEdit.pair) e.known = e.wanted) ↔ Steady steps := by
  constructor
  · intro h
    have hpairs : ∀ p ∈ substitutions steps, p.2 = carry (steps.map WordEdit.pair) p.1 := by
      intro p hp
      obtain ⟨e, he, rfl, -⟩ := mem_substitutions_iff.mp hp
      exact (h e he).symm
    refine ⟨fun e he e' he' hknown => by rw [← h e he, ← h e' he', hknown], ?_⟩
    have hchanged : ∀ p ∈ substitutions steps, p.2 = carry (steps.map WordEdit.pair) p.1 ∧
        carry (steps.map WordEdit.pair) p.1 ≠ p.1 := by
      intro p hp
      obtain ⟨-, -, -, hne⟩ := mem_substitutions_iff.mp hp
      exact ⟨hpairs p hp, by rw [← hpairs p hp]; exact hne.symm⟩
    exact pairwise_of_carry hchanged (List.forall_mem_nil _) fun p _ _ => carry_filter _ _
  · intro h e he
    -- by `alike` what becomes of a word is a function of the word
    let f (w : String) : String := ((steps.find? (·.known == w)).map WordEdit.wanted).getD w
    have hf : ∀ e ∈ steps, f e.known = e.wanted := by
      intro e he
      have hfound := (forall_find?_key_iff WordEdit.known WordEdit.wanted steps).mpr h.alike e he
      simp only [f, hfound, Option.getD_some]
    rw [← carry_filter]
    by_cases hne : e.known = e.wanted
    · rw [← hne]
      refine carry_eq_self fun p hp hknown => ?_
      obtain ⟨e', he', rfl, hne'⟩ := mem_substitutions_iff.mp hp
      have hwanted := h.alike e' he' e he hknown
      exact hne' (hknown.trans (hne.trans hwanted.symm))
    · have hmem : e.pair ∈ substitutions steps := mem_substitutions_iff.mpr ⟨e, he, rfl, hne⟩
      have hpairs : ∀ p ∈ substitutions steps, p.2 = f p.1 := by
        intro p hp
        obtain ⟨e', he', rfl, -⟩ := mem_substitutions_iff.mp hp
        exact (hf e' he').symm
      exact (carry_of_pairwise hpairs h.unchained e.pair hmem).trans (hf e he)

namespace Repair

/-! ## 3. The words of a repair -/

/-- The steps from a submission to a reference, word by word. -/
def script (submission reference : String) : EditScript :=
  EditScript.between (Text.words submission) (Text.words reference)

/-- A word that is exchanged for itself changes nothing. -/
theorem map_same (word : String) (words : List String) :
    words.map (fun w => if w = word then word else w) = words := by
  conv_rhs => rw [← List.map_id words]
  refine List.map_congr_left fun w _ => ?_
  split
  · next hw => exact hw.symm
  · rfl

/-- A step that keeps or replaces a word exchanges the one for the other in the whole text. -/
theorem words_applyEdit {e : WordEdit} (h : e.IsStraight)
    (hword : ∀ w ∈ e.source, Piece.IsWord w.toList) (state : String × Nat) :
    Text.words (applyEdit state e).1 =
      (Text.words state.1).map fun w => if w = e.known then e.wanted else w := by
  cases e with
  | keep word => exact (map_same word _).symm
  | replace source target =>
    by_cases hkeyword : isKeyword target = true
    · simp only [applyEdit, WordEdit.known, WordEdit.wanted, hkeyword, if_true, true_or]
      exact (map_same target _).symm
    · by_cases hsame : Text.sameNames source target = true
      · simp only [applyEdit, WordEdit.known, WordEdit.wanted, hkeyword, hsame, if_true, or_true]
        exact (map_same target _).symm
      · simp only [applyEdit, WordEdit.known, WordEdit.wanted, hkeyword, hsame, or_self,
          Bool.false_eq_true, if_false]
        rw [Text.words_replaceWords (hword source List.mem_cons_self)]
        simp only [beq_iff_eq]
  | delete word => exact h.elim
  | insert word => exact h.elim

/-- All steps carry each word through all exchanges. -/
theorem words_foldl_applyEdit {steps : List WordEdit} (h : ∀ e ∈ steps, e.IsStraight)
    (hword : ∀ e ∈ steps, ∀ w ∈ e.source, Piece.IsWord w.toList) (state : String × Nat) :
    Text.words (steps.foldl applyEdit state).1 =
      (Text.words state.1).map (carry (steps.map WordEdit.pair)) := by
  induction steps generalizing state with
  | nil => exact (List.map_id _).symm
  | cons e rest ih =>
    rw [List.forall_mem_cons] at h hword
    rw [List.foldl_cons, ih h.2 hword.2, words_applyEdit h.1 hword.1, List.map_map]
    rfl

variable {submission reference : String} {threshold : Nat} {repair : Repair}

/-- The text of a repair is that of the reference after all steps. -/
theorem text_fromReference? (h : fromReference? submission reference threshold = some repair) :
    repair.text = ((script submission reference).steps.foldl applyEdit (reference, 0)).1 := by
  obtain ⟨-, heq⟩ := Option.ite_none_left_eq_some.mp h
  exact congrArg Repair.text (Option.some.inj heq).symm

/-- The words that the steps spell of their source are those of the submission. -/
theorem mem_words_of_mem_source {e : WordEdit} (he : e ∈ (script submission reference).steps)
    {w : String} (hw : w ∈ e.source) : w ∈ Text.words submission := by
  have hturns : (script submission reference).Turns (Text.words submission)
      (Text.words reference) := EditScript.between_turns _ _
  rw [← hturns.source]
  exact List.mem_flatMap.mpr ⟨e, he, hw⟩

/-- The words of a repair are those of the reference, carried through all steps. -/
theorem words_fromReference? (h : fromReference? submission reference threshold = some repair)
    (hstraight : ∀ e ∈ (script submission reference).steps, e.IsStraight) :
    Text.words repair.text = (script submission reference).steps.map fun e =>
      carry ((script submission reference).steps.map WordEdit.pair) e.known := by
  have hturns : (script submission reference).Turns (Text.words submission)
      (Text.words reference) := EditScript.between_turns _ _
  have hword : ∀ e ∈ (script submission reference).steps, ∀ w ∈ e.source,
      Piece.IsWord w.toList := fun e he w hw =>
    Text.isWord_of_mem_words (mem_words_of_mem_source he hw)
  have hreference : Text.words reference =
      (script submission reference).steps.map WordEdit.known := by
    rw [← hturns.target, List.map_eq_flatMap]
    exact List.flatMap_congr fun e he => WordEdit.target_eq (hstraight e he)
  rw [text_fromReference? h, words_foldl_applyEdit hstraight hword, hreference, List.map_map]
  rfl

/-- **The words of a repair** are, position by position, those of the reference where a step keeps
the word, where the word is reserved, or where the submission has the same names, and those of the
submission everywhere else: just where the steps do not get in each other's way. -/
theorem words_fromReference?_iff
    (h : fromReference? submission reference threshold = some repair)
    (hstraight : ∀ e ∈ (script submission reference).steps, e.IsStraight) :
    Text.words repair.text = (script submission reference).steps.map WordEdit.wanted ↔
      Steady (script submission reference).steps := by
  rw [words_fromReference? h hstraight, List.map_inj_left, carry_eq_wanted_iff]

/-- One name takes the place of another, and no word is called as either. -/
theorem words_fromReference?_iff_renamed :
    fromReference? "selec b from t" "select a from t" 2 = some ⟨"select b from t", 1, 2⟩ ∧
      (∀ e ∈ (script "selec b from t" "select a from t").steps, e.IsStraight) ∧
      Text.words "select b from t" =
        (script "selec b from t" "select a from t").steps.map WordEdit.wanted := by
  have hrepair : fromReference? "selec b from t" "select a from t" 2 =
      some ⟨"select b from t", 1, 2⟩ := by decide +kernel
  have hstraight : ∀ e ∈ (script "selec b from t" "select a from t").steps, e.IsStraight := by
    decide +kernel
  have hsteady : Steady (script "selec b from t" "select a from t").steps := by decide +kernel
  exact ⟨hrepair, hstraight, (words_fromReference?_iff hrepair hstraight).mpr hsteady⟩

/-- The column is carried over, and with the table it is exchanged again. -/
theorem words_fromReference?_chained :
    fromReference? "selec b from c" "select a from b" 2 = some ⟨"select c from c", 1, 3⟩ ∧
      (∀ e ∈ (script "selec b from c" "select a from b").steps, e.IsStraight) ∧
      Text.words "select c from c" = ["select", "c", "from", "c"] ∧
      (script "selec b from c" "select a from b").steps.map WordEdit.wanted =
        ["select", "b", "from", "c"] := by
  decide +kernel

end Repair

end QueryGrading
