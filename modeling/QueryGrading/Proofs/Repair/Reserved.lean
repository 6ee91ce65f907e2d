import QueryGrading.Proofs.Repair.Substitution

/-!
# Reserved words in a repair

A repair by a reference, `repair_from_reference`, removes and exchanges names only. Each step leaves
the reserved words of the reference in their places among the words of the text, and writes words of
the submission only (`Repair.Keeps`). So the reserved words of the reference stand in the repaired
text in their order and as they are spelled, and every word of it is one of the reference or of the
submission (`Repair.Keeps.foldl_applyEdit`).

This holds of every repair, whatever the edit script and the threshold, and also where the steps get
in each other's way: an exchange that is made again by a later step is still an exchange of a name
for a word of the submission. The word that is written may itself be reserved, so the reserved words
of the repaired text are those of the reference and possibly more.
-/

namespace QueryGrading

namespace Repair

variable {submission reference ws : List String} {w t : String}

/-! ## 1. One step

A step of a repair removes a name or puts a word of the submission in its place. The invariant is on
the words of the text, so it is checked for each of the two. -/

/-- Some words keep the reserved words of a reference, in order, and all of them are words of the
reference or of a submission. -/
structure Keeps (submission reference ws : List String) : Prop where
  reserved : (reference.filter (isKeyword ·)).Sublist ws
  known : ∀ w ∈ ws, w ∈ reference ∨ w ∈ submission

/-- The words of the reference itself keep its reserved words. -/
theorem keeps_reference (submission reference : List String) :
    Keeps submission reference reference where
  reserved := List.filter_sublist
  known _ hw := .inl hw

/-- A name is no reserved word. -/
theorem ne_of_mem_reserved (ht : isKeyword t = false)
    (hw : w ∈ reference.filter (isKeyword ·)) : w ≠ t := by
  rintro rfl
  rw [(List.mem_filter.mp hw).2] at ht
  exact Bool.false_ne_true ht.symm

/-- A name is removed. -/
theorem Keeps.remove (h : Keeps submission reference ws) (ht : isKeyword t = false) :
    Keeps submission reference (ws.filter (· ≠ t)) where
  reserved := by
    have hall : (reference.filter (isKeyword ·)).filter (· ≠ t) =
        reference.filter (isKeyword ·) := by
      rw [List.filter_eq_self]
      intro w hw
      exact decide_eq_true (ne_of_mem_reserved ht hw)
    rw [← hall]
    exact h.reserved.filter _
  known w hw := h.known w (List.mem_of_mem_filter hw)

/-- A name gives way to a word of the submission. -/
theorem Keeps.replace (h : Keeps submission reference ws) (ht : isKeyword t = false)
    (hw : w ∈ submission) :
    Keeps submission reference (ws.map fun v => if v = t then w else v) where
  reserved := by
    have hall : (reference.filter (isKeyword ·)).map (fun v => if v = t then w else v) =
        reference.filter (isKeyword ·) := by
      conv_rhs => rw [← List.map_id (reference.filter (isKeyword ·))]
      exact List.map_congr_left fun v hv => if_neg (ne_of_mem_reserved ht hv)
    rw [← hall]
    exact h.reserved.map _
  known v hv := by
    obtain ⟨u, hu, rfl⟩ := List.mem_map.mp hv
    split
    · exact .inr hw
    · exact h.known u hu

/-- What a step does to the words of a text: nothing, or it removes a name, or it puts a word of its
source in the place of a name. -/
theorem words_applyEdit_cases {e : WordEdit} (hsource : ∀ w ∈ e.source, Piece.IsWord w.toList)
    (state : String × Nat) :
    Text.words (applyEdit state e).1 = Text.words state.1 ∨
      (∃ t, isKeyword t = false ∧
        Text.words (applyEdit state e).1 = (Text.words state.1).filter (· ≠ t)) ∨
      ∃ t w, isKeyword t = false ∧ w ∈ e.source ∧
        Text.words (applyEdit state e).1 =
          (Text.words state.1).map fun v => if v = t then w else v := by
  cases e with
  | keep word => exact .inl rfl
  | delete word => exact .inl rfl
  | insert word =>
    -- a reserved word of the reference is never removed
    by_cases hkeyword : isKeyword word = true
    · simp only [applyEdit, hkeyword, if_true, true_or]
    · refine .inr (.inl ⟨word, Bool.eq_false_iff.mpr hkeyword, ?_⟩)
      simp only [applyEdit, hkeyword, Bool.false_eq_true, if_false]
      exact Text.words_removeWord word state.1
  | replace source target =>
    have hwords := words_applyEdit (e := .replace source target) trivial hsource state
    -- nor is it exchanged, and neither are names that are the same
    by_cases hkept : isKeyword target = true ∨ Text.sameNames source target = true
    · rw [WordEdit.wanted, if_pos hkept, WordEdit.known, map_same] at hwords
      exact .inl hwords
    · rw [WordEdit.wanted, if_neg hkept, WordEdit.known] at hwords
      rw [not_or] at hkept
      exact .inr (.inr ⟨target, source, Bool.eq_false_iff.mpr hkept.1, List.mem_cons_self, hwords⟩)

/-- **Every step keeps the reserved words**, if the words of its source are words of the
submission. -/
theorem Keeps.applyEdit {state : String × Nat} {e : WordEdit}
    (h : Keeps submission reference (Text.words state.1))
    (hword : ∀ w ∈ e.source, Piece.IsWord w.toList) (hsource : e.source ⊆ submission) :
    Keeps submission reference (Text.words (applyEdit state e).1) := by
  rcases words_applyEdit_cases hword state with heq | ⟨t, ht, heq⟩ | ⟨t, w, ht, hw, heq⟩
  · rwa [heq]
  · rw [heq]
    exact h.remove ht
  · rw [heq]
    exact h.replace ht (hsource hw)

/-! ## 2. All steps -/

/-- All steps together keep the reserved words, by induction over them. -/
theorem Keeps.foldl_applyEdit {steps : List WordEdit} {state : String × Nat}
    (h : Keeps submission reference (Text.words state.1))
    (hword : ∀ e ∈ steps, ∀ w ∈ e.source, Piece.IsWord w.toList)
    (hsource : ∀ e ∈ steps, e.source ⊆ submission) :
    Keeps submission reference (Text.words (steps.foldl Repair.applyEdit state).1) := by
  induction steps generalizing state with
  | nil => exact h
  | cons e rest ih =>
    rw [List.forall_mem_cons] at hword hsource
    rw [List.foldl_cons]
    exact ih (h.applyEdit hword.1 hsource.1) hword.2 hsource.2

/-- **A repair by a reference never removes or respells a reserved word of the reference**: these
words stand among the words of the repaired text, in their order. Every word of it is one of the
reference or of the submission. -/
theorem reserved_sublist_fromReference? {submission reference : String} {threshold : Nat}
    {repair : Repair} (h : fromReference? submission reference threshold = some repair) :
    ((Text.words reference).filter (isKeyword ·)).Sublist (Text.words repair.text) ∧
      ∀ w ∈ Text.words repair.text, w ∈ Text.words reference ∨ w ∈ Text.words submission := by
  have hsource : ∀ e ∈ (script submission reference).steps, e.source ⊆ Text.words submission :=
    fun e he w hw => mem_words_of_mem_source he hw
  have hword : ∀ e ∈ (script submission reference).steps, ∀ w ∈ e.source,
      Piece.IsWord w.toList := fun e he w hw => Text.isWord_of_mem_words (hsource e he hw)
  have hstart : Keeps (Text.words submission) (Text.words reference)
      (Text.words (reference, 0).1) := keeps_reference _ _
  obtain ⟨hreserved, hknown⟩ := hstart.foldl_applyEdit hword hsource
  rw [text_fromReference? h]
  exact ⟨hreserved, hknown⟩

/-- Names are removed with a comma and at the end, and another one is exchanged. -/
theorem reserved_sublist_fromReference?_columns :
    fromReference? "selec b from u" "select a,b from t order by a" 20 =
        some ⟨"select b from u order by ", 8, 6⟩ ∧
      ["select", "from", "order", "by"].Sublist (Text.words "select b from u order by ") ∧
      ∀ w ∈ Text.words "select b from u order by ",
        w ∈ Text.words "select a,b from t order by a" ∨ w ∈ Text.words "selec b from u" := by
  have hrepair : fromReference? "selec b from u" "select a,b from t order by a" 20 =
      some ⟨"select b from u order by ", 8, 6⟩ := by decide +kernel
  have hreserved : (Text.words "select a,b from t order by a").filter (isKeyword ·) =
      ["select", "from", "order", "by"] := by decide +kernel
  obtain ⟨hsublist, hknown⟩ := reserved_sublist_fromReference? hrepair
  rw [hreserved] at hsublist
  exact ⟨hrepair, hsublist, hknown⟩

end Repair

end QueryGrading
