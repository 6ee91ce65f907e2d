import QueryGrading.Proofs.Grade.Copy
import QueryGrading.Proofs.Grade.Outcome

/-!
# What a student is told

The feedback of a statement without the full grade is put together from the explanations of the
three axes. In a run without faults it is empty in two cases (`Untold`): the statement does not
parse where meaning is not judged, for only the stage on meaning explains that; and it is near a
right statement where meaning has two verdicts and results are not judged, for the explanation on
meaning is taken back then. In all other cases there is feedback (`feedback_eq_empty_iff`).

The feedback of a record is the text of `construct_message`, here `tell`, which joins
`syntax_message`, `semantics_message` and `results_message` with the headings around them. The
messages that are joined are long and their wording does not matter here: of each it is proved that
it is not empty, and of each stage which of the three it sets (`told`). The premises of the stages
are `Fresh`, `GrammarTold`, `ResultsTold` and `AllTold`, in this order.
-/

namespace QueryGrading

/-! ## 1. Texts

Each text begins with words of its own, so it is not empty, whatever is put into it. -/

namespace Submission

/-- The part of the feedback on grammar and results is empty only with both of its texts. -/
theorem furtherInformation_eq_empty_iff (grammar results : String) :
    furtherInformation grammar results = "" ↔ grammar = "" ∧ results = "" := by
  unfold furtherInformation
  by_cases hg : grammar = ""
  · by_cases hr : results = ""
    · simp [hg, hr]
    · simp [hg, hr]
  · simp [hg]

/-- The feedback is put together from the explanations, unless the grade is full. -/
theorem tell_eq_empty_iff (s : Submission) :
    s.tell = "" ↔ s.grade ≠ 1 ∧ s.explanations = ⟨"", "", ""⟩ := by
  unfold tell
  split
  · next hfull => exact iff_of_false (by decide) fun h => h.1 hfull
  · next hgrade =>
    rw [String.append_eq_empty_iff, furtherInformation_eq_empty_iff, and_iff_right hgrade]
    rcases s.explanations with ⟨grammar, meaning, results⟩
    simp only [PerAxis.mk.injEq]
    tauto

/-- What a student can be told about a statement. -/
def told (s : Submission) : PerAxis String × Option Nat := (s.explanations, s.treeDistance)

@[simp] theorem explanations_note (s : Submission) (text : String) :
    (s.note text).explanations = s.explanations := rfl

@[simp] theorem explanations_judge (s : Submission) (axis : Axis) (v : Verdict) :
    (s.judge axis v).explanations = s.explanations := rfl

@[simp] theorem explanations_explain (s : Submission) (axis : Axis) (text : String) :
    (s.explain axis text).explanations = s.explanations.set axis text := rfl

@[simp] theorem treeDistance_note (s : Submission) (text : String) :
    (s.note text).treeDistance = s.treeDistance := rfl

end Submission

/-- Unless the outputs are equal, there is a message and a hint. -/
def OutputReport.Explains (r : OutputReport) : Prop :=
  r.equal = true ∨ r.messages ≠ [] ∧ r.hints ≠ []

/-- A comparison of rows explains itself, whichever of its ways out it takes. -/
theorem Grid.explains_compareCanonical (expected actual : Grid) :
    (compareCanonical expected actual).Explains := by
  simp only [compareCanonical]
  split
  · exact .inl rfl
  · split <;> exact .inr ⟨by simp, by simp⟩

/-- **A comparison of outputs explains what it finds.** -/
theorem Output.explains_compare (ordered : Bool) (expected actual : Output) :
    (compare ordered expected actual).Explains := by
  rcases expected with e | e <;> rcases actual with a | a
  · cases e <;> cases a
    · exact .inl rfl
    · exact .inr ⟨by simp [compare, Grid.compare], by simp [compare, Grid.compare]⟩
    · exact .inr ⟨by simp [compare, Grid.compare], by simp [compare, Grid.compare]⟩
    · exact Grid.explains_compareCanonical _ _
  · exact .inr ⟨by simp [compare], by simp [compare]⟩
  · exact .inr ⟨by simp [compare], by simp [compare]⟩
  · simp only [OutputReport.Explains, compare, Change.compare]
    cases leftover e a <;> cases leftover a e <;> simp

namespace Grader

variable {g : Grader} {c : Circumstances} {peers : List Peer} {s s' : Submission}

/-- The explanation lists the messages and the hints of the comparison, and there is one of each. -/
theorem explainDifferences_ne_empty {r : OutputReport} (hmessages : r.messages ≠ [])
    (hhints : r.hints ≠ []) : explainDifferences r ≠ "" := by
  obtain ⟨m, ms, hm⟩ := List.exists_cons_of_ne_nil hmessages
  obtain ⟨t, ts, ht⟩ := List.exists_cons_of_ne_nil hhints
  simp [explainDifferences, hm, ht, Text.concat, toString]

/-- The verdict on results comes with an explanation, unless it is right. -/
theorem resultsVerdict_explains (levels : PerAxis Sensitivity) {r : OutputReport}
    (h : r.Explains) :
    (resultsVerdict levels r).1 = .correct ∧ (resultsVerdict levels r).2.1 = none ∨
      (resultsVerdict levels r).1 ≠ .correct ∧
        ∃ text ≠ "", (resultsVerdict levels r).2.1 = some text := by
  unfold resultsVerdict
  split
  · exact .inl ⟨rfl, rfl⟩
  · next hequal =>
    split
    · refine .inr ⟨?_, _, by decide, rfl⟩
      dsimp only
      split <;> nofun
    · obtain ⟨hmessages, hhints⟩ := h.resolve_left hequal
      exact .inr ⟨nofun, _, explainDifferences_ne_empty hmessages hhints, rfl⟩

/-! ## 2. The stages before meaning

The lemmas say of each stage which explanations it sets, in terms of `told`: what a stage does not
tell it leaves as it was. -/

/-- Taking over what the engine says of a text explains nothing. -/
theorem told_adopt {parsed : Parsed} (h : g.adopt parsed s = .ok s') : s'.told = s.told := by
  unfold adopt at h
  split at h
  · cases h
  · cases h
    rfl

/-- The first stage explains nothing. -/
theorem told_preprocess (h : g.preprocess s = .ok s') : s'.told = s.told := by
  unfold preprocess at h
  split at h
  · cases h
    rfl
  · split at h
    · cases h
    · cases h
      rfl
    · exact told_adopt h

/-- A repair is explained, by a text that quotes it and so is not empty. -/
theorem explanations_takeRepair {mended : Mended} {distance : Option Nat}
    (h : g.takeRepair mended distance s = .ok s') :
    ∃ text ≠ "", s'.told = (s.explanations.set .grammar text, s.treeDistance) := by
  simp only [takeRepair] at h
  split at h
  · cases h
  · next hadopt =>
    cases h
    refine ⟨s!"Syntax minor error. The query was changed to '{mended.text}' make it parseable.\n",
      ?_, told_adopt hadopt⟩
    simp [toString]

/-- The stage on grammar explains a repair and nothing else. -/
theorem told_judgeGrammar (ho : s.originalText = none) (h : g.judgeGrammar peers s = (s', none)) :
    (s'.originalText = none ∧ s'.told = s.told) ∨
      (s'.originalText ≠ none ∧ s'.parseable = true ∧
        ∃ text ≠ "", s'.told = (s.explanations.set .grammar text, s.treeDistance)) := by
  unfold judgeGrammar at h
  split at h
  · cases h
    exact .inl ⟨ho, rfl⟩
  · split at h
    · cases h
      exact .inl ⟨ho, rfl⟩
    · simp only at h
      split at h
      · cases h
      · cases h
        exact .inl ⟨ho, rfl⟩
      · split at h
        · cases h
        · next hrepair =>
          cases h
          -- of all ways out only this one sets an explanation
          obtain ⟨hparse, horiginal, -⟩ := takeRepair_eq_ok hrepair
          obtain ⟨text, htext, htold⟩ := explanations_takeRepair hrepair
          rw [noteUnparseable, Submission.explanations_note, Submission.treeDistance_note] at htold
          refine .inr ⟨?_, hparse, text, htext, htold⟩
          rw [horiginal]
          nofun

/-- The stage on results explains what is wrong, where it compares outputs. -/
theorem told_judgeResults (hmodels : g.models ≠ []) (s : Submission) :
    ((g.judgeResults s).told = s.told ∧ (g.session.levels.results = .absent ∨
        s.parseable = false ∨ (g.judgeResults s).verdicts.results = .correct)) ∨
      ((g.session.levels.results ≠ .absent ∧ s.parseable = true ∧
        (g.judgeResults s).verdicts.results ≠ .correct) ∧
        ∃ text ≠ "", (g.judgeResults s).told = (s.explanations.set .results text, s.treeDistance))
    := by
  unfold judgeResults
  split
  · next hl => exact .inl ⟨rfl, .inl hl⟩
  · next hl =>
    split
    · next hp => exact .inl ⟨rfl, .inr (.inl (by simpa using hp))⟩
    · next hp =>
      have hparse : s.parseable = true := by simpa using hp
      split
      · -- a grader has a model, so the outputs are compared
        next hnone => exact absurd hnone hmodels
      · next model _ _ =>
        have hexplains := resultsVerdict_explains g.session.levels
          (Output.explains_compare g.session.ordered model.output s.output)
        split
        next v explanation note heq =>
        rw [heq] at hexplains
        rcases hexplains with ⟨hv, hnone⟩ | ⟨hv, text, htext, hsome⟩
        · cases hnone
          exact .inl ⟨rfl, .inr (.inr hv)⟩
        · cases hsome
          exact .inr ⟨⟨hl, hparse, hv⟩, text, htext, rfl⟩

/-! ## 3. Meaning

The stage on meaning explains in every way that it can go out, except where meaning is not judged;
and it takes its explanation back where a statement is near a right one but there is no verdict for
that. -/

/-- What a student can be told once meaning is judged: nothing more where it is not, or else an
explanation, which is taken back where the statement is nearly right and this has no verdict. -/
inductive MeaningTold (levels : PerAxis Sensitivity) (s s' : Submission) : Prop
  | unjudged (hl : levels.meaning = .absent) (htold : s'.told = s.told)
    (hv : s'.verdicts = s.verdicts.set .meaning .invalid)
  | explained (hl : levels.meaning ≠ .absent) (text : String) (htext : text ≠ "")
    (htold : s'.explanations = s.explanations.set .meaning text)
    (hfar : s'.treeDistance = s.treeDistance ∨ s'.verdicts.meaning ≠ .incorrect)
  | withdrawn (hl : levels.meaning = .two)
    (htold : s'.explanations = s.explanations.set .meaning "")
    (hnear : s'.treeDistance.isSome = true) (hv : s'.verdicts.meaning = .incorrect)
    (hp : s.parseable = true) (hr : s.verdicts.results ≠ .correct)

theorem explanations_keepDistances (n : Option Neighbour) (s : Submission) :
    (keepDistances n s).explanations = s.explanations := by
  cases n <;> rfl

/-- The text of the candidate stands in a sentence, so this is not empty even if the candidate is.
-/
theorem suggestion_ne_empty (text : String) : suggestion text ≠ "" := by
  unfold suggestion
  simp [toString]

/-- The comparison of clauses always says something. -/
theorem told_judgeClauses (levels : PerAxis Sensitivity) (r : Report) (s : Submission) :
    ∃ text ≠ "", (judgeClauses levels r s).told =
      (s.explanations.set .meaning text, s.treeDistance) := by
  have htext : (if r.message = "" then "2️⃣3️⃣\nNo detailed feedback.\n" else r.message) ≠ "" := by
    split
    · decide
    · next h => exact h
  refine ⟨_, htext, ?_⟩
  simp only [judgeClauses]
  split
  · split <;> rfl
  · rfl

/-- One case for each end of the search: a candidate decides it, one is near, or the clauses are
compared. Only the second may take its explanation back. -/
theorem meaningTold_judgeByOthers (hl : g.session.levels.meaning ≠ .absent)
    (hp : s.parseable = true) (hr : s.verdicts.results ≠ .correct) (tree : Tree) :
    MeaningTold g.session.levels s (g.judgeByOthers peers tree s) := by
  simp only [judgeByOthers]
  split
  · next near same hsearch =>
    split
    · refine .explained hl rightMeaning (by decide) ?_ (.inr (by rintro ⟨⟩))
      change (keepDistances near s).explanations.set .meaning rightMeaning = _
      rw [explanations_keepDistances]
    · exact .explained hl _ (suggestion_ne_empty same.text) rfl (.inr (by rintro ⟨⟩))
  · next near hsearch =>
    simp only [judgeNear]
    split
    · exact .explained hl _ (suggestion_ne_empty near.text) rfl (.inr (by rintro ⟨⟩))
    · next hminor =>
      have htwo : g.session.levels.meaning = .two := by
        cases hlevel : g.session.levels.meaning <;> simp_all [Sensitivity.hasMinor]
      -- the one place where an explanation is taken back
      exact .withdrawn htwo rfl rfl rfl hp hr
  · obtain ⟨text, htext, htold⟩ := told_judgeClauses g.session.levels
      (g.bestReport tree (rightPeers s.id peers)) s
    obtain ⟨hexplained, hfar⟩ := Prod.mk.inj htold
    exact .explained hl text htext hexplained (.inl hfar)

/-- What each way out of the stage on meaning tells the student. -/
theorem meaningTold_judgeMeaning (g : Grader) (peers : List Peer) (s : Submission) :
    MeaningTold g.session.levels s (g.judgeMeaning peers s) := by
  unfold judgeMeaning
  split
  · next hl => exact .unjudged hl rfl rfl
  · next hl =>
    split
    · exact .explained hl rightMeaning (by decide) rfl (.inl rfl)
    · next hr =>
      have hr : s.verdicts.results ≠ .correct := by simpa [Submission.isRight] using hr
      split
      · next hp _ => exact meaningTold_judgeByOthers hl hp hr _
      · exact .explained hl _ (by decide) rfl (.inl rfl)

/-! ## 4. The end of a run

The last stage asks for the explanations of all axes at once. What is empty then is read off the
conditions that the stages have left, axis by axis. -/

/-- A statement is near a right one, and wrong all the same: meaning has two verdicts. -/
structure Withdrawn (levels : PerAxis Sensitivity) (s : Submission) : Prop where
  meaning : levels.meaning = .two
  near : s.treeDistance.isSome = true
  wrong : s.verdicts.meaning = .incorrect

/-- The student is told nothing about a statement. Either meaning is not judged, something else is,
and the statement does not parse; or results are not judged, the statement was not repaired, and it
is near a right one. -/
def Untold (levels : PerAxis Sensitivity) (s : Submission) : Prop :=
  (levels.meaning = .absent ∧ (levels.grammar ≠ .absent ∨ levels.results ≠ .absent) ∧
      s.parseable = false) ∨
    (levels.results = .absent ∧ s.originalText = none ∧ Withdrawn levels s)

/-- A repair is explained, and it is the only thing about grammar that is. -/
structure GrammarTold (levels : PerAxis Sensitivity) (s : Submission) : Prop where
  verdicts : Tentative levels s.parseable s.verdicts
  judged : GrammarJudged levels s
  explained : s.explanations.grammar = "" ↔ s.originalText = none
  unparsed : s.parseable = false → s.originalText = none

/-- What is not judged afresh stays told. -/
theorem GrammarTold.later {levels : PerAxis Sensitivity} (h : GrammarTold levels s)
    (hstanding : s'.standing = s.standing)
    (hexplained : s'.explanations.grammar = s.explanations.grammar)
    (hgrammar : s'.verdicts.grammar = s.verdicts.grammar)
    (hverdicts : Tentative levels s'.parseable s'.verdicts) : GrammarTold levels s' := by
  obtain ⟨hparse, horiginal⟩ := Submission.eq_of_standing_eq hstanding
  refine ⟨hverdicts, ?_, ?_, ?_⟩
  · rw [GrammarJudged, hparse, horiginal, hgrammar]
    exact h.judged
  · rw [hexplained, horiginal]
    exact h.explained
  · rw [hparse, horiginal]
    exact h.unparsed

/-- What the stage on grammar leaves: it explains a repair and nothing else. -/
theorem grammarTold_judgeGrammar (ho : s.originalText = none)
    (htold : s.told = (⟨"", "", ""⟩, none))
    (hv : Tentative g.session.levels s.parseable s.verdicts)
    (h : g.judgeGrammar peers s = (s', none)) :
    GrammarTold g.session.levels s' ∧ s'.told = (⟨s'.explanations.grammar, "", ""⟩, none) := by
  obtain ⟨hexplanations, hdistance⟩ := Prod.mk.inj htold
  have hverdicts := tentative_judgeGrammar hv h
  have hjudged := judgeGrammar_eq_none ho h
  rcases told_judgeGrammar ho h with ⟨horiginal, heq⟩ | ⟨horiginal, hparse, text, htext, heq⟩
  · rw [htold] at heq
    obtain ⟨hnew, -⟩ := Prod.mk.inj heq
    refine ⟨⟨hverdicts, hjudged, iff_of_true ?_ horiginal, fun _ => horiginal⟩, ?_⟩
    · rw [hnew]
    · rw [heq, hnew]
  · rw [hexplanations, hdistance] at heq
    obtain ⟨hnew, -⟩ := Prod.mk.inj heq
    refine ⟨⟨hverdicts, hjudged, iff_of_false ?_ horiginal, fun hp => ?_⟩, ?_⟩
    · rw [hnew]
      exact htext
    · exact absurd (hparse.symm.trans hp) nofun
    · rw [heq, hnew]
      rfl

/-- What the stage on results leaves: it explains what it finds wrong in an output. -/
structure ResultsTold (levels : PerAxis Sensitivity) (s : Submission) : Prop
    extends GrammarTold levels s where
  results : s.explanations.results = "" ↔
    levels.results = .absent ∨ s.parseable = false ∨ s.verdicts.results = .correct
  meaning : s.explanations.meaning = ""
  far : s.treeDistance = none

/-- A stage that explains results has judged them, and a statement that does not parse is not
explained here. -/
theorem resultsTold_judgeResults (hmodels : g.models ≠ []) (h : GrammarTold g.session.levels s)
    (htold : s.told = (⟨s.explanations.grammar, "", ""⟩, none)) :
    ResultsTold g.session.levels (g.judgeResults s) := by
  obtain ⟨hexplanations, hdistance⟩ := Prod.mk.inj htold
  have hstanding := standing_judgeResults g s
  obtain ⟨hparse, -⟩ := Submission.eq_of_standing_eq hstanding
  obtain ⟨v, -, hv, -⟩ := judgeResults_spec g s
  have hgrammar : (g.judgeResults s).verdicts.grammar = s.verdicts.grammar := by
    rw [hv]
    rfl
  have hverdicts := tentative_judgeResults h.verdicts
  rcases told_judgeResults hmodels s with ⟨heq, hright⟩ | ⟨hwrong, text, htext, heq⟩
  · rw [htold] at heq
    obtain ⟨hnew, hfar⟩ := Prod.mk.inj heq
    refine ⟨h.later hstanding (by rw [hnew]) hgrammar hverdicts, ?_, by rw [hnew], hfar⟩
    rw [hnew, hparse]
    exact iff_of_true rfl hright
  · rw [hexplanations, hdistance] at heq
    obtain ⟨hnew, hfar⟩ := Prod.mk.inj heq
    refine ⟨h.later hstanding (by rw [hnew]; rfl) hgrammar hverdicts, ?_, by rw [hnew]; rfl, hfar⟩
    rw [hnew, hparse]
    refine iff_of_false htext ?_
    rintro (hl | hp | hv')
    · exact hwrong.1 hl
    · exact absurd (hwrong.2.1.symm.trans hp) nofun
    · exact hwrong.2.2 hv'

/-- **What the stage on meaning leaves.**  Neither meaning nor results are explained just where
there is nothing to explain about results and meaning is not judged, or where the explanation on
meaning was taken back and results are not judged. -/
structure AllTold (levels : PerAxis Sensitivity) (s : Submission) : Prop
    extends GrammarTold levels s where
  silent : s.explanations.meaning = "" ∧ s.explanations.results = "" ↔
    (levels.meaning = .absent ∧
      (levels.results = .absent ∨ s.parseable = false ∨ s.verdicts.results = .correct)) ∨
    (levels.results = .absent ∧ Withdrawn levels s)

/-- The conditions under which neither meaning nor results are explained, read off the way on which
the stage on meaning was left. -/
theorem MeaningTold.silent_iff {levels : PerAxis Sensitivity} (h : MeaningTold levels s s')
    (hs : ResultsTold levels s) (hparse : s'.parseable = s.parseable) :
    s'.explanations.meaning = "" ∧ s'.explanations.results = "" ↔
      (levels.meaning = .absent ∧
        (levels.results = .absent ∨ s'.parseable = false ∨ s'.verdicts.results = .correct)) ∨
      (levels.results = .absent ∧ Withdrawn levels s') := by
  rw [hparse]
  cases h with
  | unjudged hl htold hv =>
    obtain ⟨hexplanations, -⟩ := Prod.mk.inj htold
    -- nothing is taken back where meaning is not judged
    have hnot : ¬ Withdrawn levels s' := fun hw => absurd (hl.symm.trans hw.meaning) nofun
    rw [hexplanations, and_iff_right hs.meaning, hs.results, hv]
    simp [hl, hnot, PerAxis.set]
  | explained hl text htext htold hfar =>
    have hnot : ¬ Withdrawn levels s' := fun hw => by
      rcases hfar with hfar | hv
      · have hnear := hw.near
        rw [hfar, hs.far] at hnear
        cases hnear
      · exact hv hw.wrong
    simp [htold, PerAxis.set, htext, hl, hnot]
  | withdrawn hl htold hnear hv hp hr =>
    have hw : Withdrawn levels s' := ⟨hl, hnear, hv⟩
    have hresults : s'.explanations.results = s.explanations.results := by
      rw [htold]
      rfl
    rw [hresults, hs.results, htold]
    simp [PerAxis.set, hw, hl, hp, hr]

theorem MeaningTold.explanations_grammar {levels : PerAxis Sensitivity}
    (h : MeaningTold levels s s') : s'.explanations.grammar = s.explanations.grammar := by
  cases h with
  | unjudged hl htold => rw [(Prod.mk.inj htold).1]
  | explained hl text htext htold =>
    rw [htold]
    rfl
  | withdrawn hl htold =>
    rw [htold]
    rfl

/-- The stage on meaning keeps what was told of grammar, and completes the rest. -/
theorem allTold_judgeMeaning (h : ResultsTold g.session.levels s) :
    AllTold g.session.levels (g.judgeMeaning peers s) := by
  have htold := meaningTold_judgeMeaning g peers s
  have hstanding := standing_judgeMeaning g peers s
  obtain ⟨hparse, -⟩ := Submission.eq_of_standing_eq hstanding
  exact ⟨h.toGrammarTold.later hstanding htold.explanations_grammar
    (meaningJudged_judgeMeaning g peers s).grammar (tentative_judgeMeaning h.verdicts),
    htold.silent_iff h hparse⟩

/-- The last stage explains nothing; it only puts together what was explained. -/
theorem told_finalize (g : Grader) (s : Submission) : (g.finalize s).told = s.told := by
  simp only [finalize]
  split <;> split <;> rfl

theorem feedback_finalize (g : Grader) (s : Submission) :
    (g.finalize s).feedback = (g.finalize s).tell := by
  simp only [finalize]
  split <;> split <;> rfl

/-- The last stage writes no distance, and no verdict but the one on results where these are not
judged. -/
theorem withdrawn_finalize_iff (g : Grader) (levels : PerAxis Sensitivity) (s : Submission) :
    Withdrawn levels (g.finalize s) ↔ Withdrawn levels s := by
  have hdistance : (g.finalize s).treeDistance = s.treeDistance :=
    congrArg Prod.snd (told_finalize g s)
  have hmeaning : (g.finalize s).verdicts.meaning = s.verdicts.meaning := by
    rw [verdicts_finalize, settled_meaning]
  constructor
  · rintro ⟨hl, hnear, hwrong⟩
    exact ⟨hl, hdistance ▸ hnear, hmeaning ▸ hwrong⟩
  · rintro ⟨hl, hnear, hwrong⟩
    exact ⟨hl, hdistance.symm ▸ hnear, hmeaning.symm ▸ hwrong⟩

/-- All that is judged is right about a statement. -/
def AllRight (levels : PerAxis Sensitivity) (v : Verdicts) : Prop :=
  ∀ axis, levels.get axis ≠ .absent → v.get axis = .correct

/-- A statement that parses is right where meaning is not judged and nothing is to explain. -/
theorem GrammarTold.allRight {levels : PerAxis Sensitivity} (h : GrammarTold levels s)
    (hp : s.parseable = true) (ho : s.originalText = none) (hmeaning : levels.meaning = .absent)
    (hresults : levels.results = .absent ∨ s.verdicts.results = .correct) :
    AllRight levels (settled levels s.verdicts) := by
  intro axis hl
  rw [get_settled hl]
  cases axis with
  | grammar =>
    have hjudged := h.judged
    rw [GrammarJudged, hp, ho] at hjudged
    exact hjudged.trans (grammarVerdict_parses hl)
  | meaning => exact absurd hmeaning hl
  | results => exact hresults.resolve_left hl

/-- Nothing is right about a statement that does not parse. -/
theorem GrammarTold.not_allRight {levels : PerAxis Sensitivity} (h : GrammarTold levels s)
    (hp : s.parseable = false) (axis : Axis) (hl : levels.get axis ≠ .absent) :
    ¬ AllRight levels (settled levels s.verdicts) := by
  intro hright
  have hcorrect := hright axis hl
  rw [get_settled hl] at hcorrect
  exact h.verdicts.unparseable hp axis hcorrect

/-- The explanations are empty and not all is right just where the student is told nothing. -/
theorem AllTold.untold_iff {levels : PerAxis Sensitivity} (h : AllTold levels s) :
    ¬ AllRight levels (settled levels s.verdicts) ∧ s.explanations = ⟨"", "", ""⟩ ↔
      Untold levels s := by
  -- what each of the three texts being empty means
  have hempty : s.explanations = ⟨"", "", ""⟩ ↔ s.originalText = none ∧
      ((levels.meaning = .absent ∧
        (levels.results = .absent ∨ s.parseable = false ∨ s.verdicts.results = .correct)) ∨
      (levels.results = .absent ∧ Withdrawn levels s)) := by
    rw [← h.explained, ← h.silent]
    rcases s.explanations with ⟨grammar, meaning, results⟩
    rw [PerAxis.mk.injEq]
  rw [hempty]
  constructor
  · rintro ⟨hwrong, ho, ⟨hmeaning, hresults⟩ | ⟨hresults, hw⟩⟩
    · cases hp : s.parseable with
      | true =>
        rw [hp] at hresults
        have hresults : levels.results = .absent ∨ s.verdicts.results = .correct := by
          simpa using hresults
        exact absurd (h.allRight hp ho hmeaning hresults) hwrong
      | false =>
        refine .inl ⟨hmeaning, ?_, hp⟩
        by_contra hnone
        obtain ⟨hg, hr⟩ := not_or.mp hnone
        -- if neither grammar nor results were judged, all would be right
        refine hwrong fun axis hl => absurd ?_ hl
        cases axis with
        | grammar => exact not_not.mp hg
        | meaning => exact hmeaning
        | results => exact not_not.mp hr
    · exact .inr ⟨hresults, ho, hw⟩
  · rintro (⟨hmeaning, hjudged, hp⟩ | ⟨hresults, ho, hw⟩)
    · refine ⟨?_, h.unparsed hp, .inl ⟨hmeaning, .inr (.inl hp)⟩⟩
      rcases hjudged with hg | hr
      · exact h.not_allRight hp .grammar hg
      · exact h.not_allRight hp .results hr
    · refine ⟨fun hright => ?_, ho, .inr ⟨hresults, hw⟩⟩
      -- meaning is judged and wrong, so not all is right
      have hcorrect := hright .meaning (by rw [PerAxis.get, hw.meaning]; decide)
      rw [PerAxis.get, settled_meaning, hw.wrong] at hcorrect
      cases hcorrect

/-- **The last stage tells the student nothing in these two cases only.** -/
theorem feedback_finalize_eq_empty_iff (hscale : g.scale = .ofSession g.session)
    (h : AllTold g.session.levels s) :
    (g.finalize s).feedback = "" ↔ Untold g.session.levels (g.finalize s) := by
  have hgraded : Graded g.session ⟨s.id, s.attempt, s.question, s.text⟩ (g.finalize s) :=
    graded_finalize hscale ⟨rfl, rfl, rfl, h.verdicts⟩
  have hexplanations : (g.finalize s).explanations = s.explanations :=
    congrArg Prod.fst (told_finalize g s)
  obtain ⟨hparse, horiginal⟩ := Submission.eq_of_standing_eq (standing_finalize g s)
  rw [feedback_finalize, Submission.tell_eq_empty_iff, Ne, hgraded.full, hexplanations,
    verdicts_finalize]
  refine h.untold_iff.trans ?_
  rw [Untold, Untold, hparse, horiginal, withdrawn_finalize_iff]

/-! ## 5. The whole run

The first stage leaves a fresh submission, and each later one what the next one starts from. -/

/-- Without a reference there is no grader. -/
theorem ofModels?_models_ne_nil {session : Session} {engine : Engine} {models : List String}
    (h : ofModels? session engine models = .ok g) : g.models ≠ [] := by
  cases models with
  | nil => cases h
  | cons first rest =>
    obtain ⟨-, m, others, hmodels, -⟩ := exists_models_eq h
    rw [hmodels]
    nofun

/-- What the first stage leaves: nothing is explained, nothing is repaired. -/
structure Fresh (levels : PerAxis Sensitivity) (s : Submission) : Prop where
  unrepaired : s.originalText = none
  untold : s.told = (⟨"", "", ""⟩, none)
  verdicts : Tentative levels s.parseable s.verdicts

/-- The record of a text that was handed in has no explanation, and the first stage adds none. -/
theorem fresh_first {h : HandIn} (hrun : g.runStage .preprocess peers (.ofHandIn h) = (s', none)) :
    Fresh g.session.levels s' := by
  refine ⟨(standing_runStage hrun).originalText_eq, ?_, tentative_first hrun⟩
  simp only [runStage] at hrun
  split at hrun
  · next hok =>
    cases hrun
    exact told_preprocess hok
  · cases hrun

/-- **In a run without faults a record has no feedback in two cases only.**  Its text does not parse
where meaning is not judged; or it was not repaired and is near a right one where meaning has two
verdicts and results are not judged. -/
theorem feedback_eq_empty_iff {session : Session} {engine : Engine} {models : List String}
    (hg : ofModels? session engine models = .ok g) {handIns : List HandIn}
    (h : g.UndisturbedUnder c Stage.all (handIns.map .ofHandIn)) :
    ∀ s ∈ g.runUnder c handIns,
      (s.toRecord session.ranking).feedback = "" ↔ Untold session.levels s := by
  obtain ⟨rfl, hscale, -, -⟩ := ofModels?_eq_ok hg
  have hmodels := ofModels?_models_ne_nil hg
  obtain ⟨hpreprocess, hgrammar, hresults, hmeaning, hfinalize, -⟩ := h
  have h₀ : ∀ s ∈ handIns.map Submission.ofHandIn, ∃ h, s = .ofHandIn h := by
    intro s hs
    obtain ⟨h, -, rfl⟩ := List.mem_map.mp hs
    exact ⟨h, rfl⟩
  have h₁ := forall_stepUnder (Q := Fresh g.session.levels) hpreprocess h₀ <| by
    rintro engine peers _ s' ⟨h, rfl⟩ hrun
    -- each stage hands its premise on to the next
    exact fresh_first (g := g.withEngine engine) hrun
  have h₂ := forall_stepUnder (Q := fun s => GrammarTold g.session.levels s ∧
      s.told = (⟨s.explanations.grammar, "", ""⟩, none)) hgrammar h₁
    fun engine _ _ _ hs hrun =>
      grammarTold_judgeGrammar (g := g.withEngine engine) hs.unrepaired hs.untold hs.verdicts hrun
  have h₃ := forall_stepUnder (Q := ResultsTold g.session.levels) hresults h₂
    fun engine _ _ _ hs hrun => by
      cases hrun
      exact resultsTold_judgeResults (g := g.withEngine engine) hmodels hs.1 hs.2
  have h₄ := forall_stepUnder (Q := AllTold g.session.levels) hmeaning h₃
    fun engine _ _ _ hs hrun => by
      cases hrun
      exact allTold_judgeMeaning (g := g.withEngine engine) hs
  refine forall_stepUnder hfinalize h₄ fun engine _ _ _ hs hrun => ?_
  cases hrun
  exact feedback_finalize_eq_empty_iff (g := g.withEngine engine) hscale hs

/-- The usual session with other levels. -/
def judging (levels : PerAxis Sensitivity) : Session := { Session.standard with levels }

/-- A query without names, which does not parse and which nothing repairs. -/
def unfinished : HandIn := ⟨"s2", 1, "", "SELECT FROM"⟩

theorem alwaysAnswers_emptyEngine : AlwaysAnswers emptyEngine where
  parse text := by
    simp only [emptyEngine]
    split <;> exact ⟨_, rfl⟩
  execute text tree := by
    simp only [Engine.execute, emptyEngine]
    split <;> exact ⟨_, rfl⟩

/-- Where meaning is not judged, a copy of the model is told that it is right, and a text that does
not parse is told nothing. -/
theorem feedback_eq_empty_iff_unfinished :
    let session := judging ⟨.three, .absent, .two⟩
    let g := emptyGrader session
    ofModels? session emptyEngine ["SELECT a FROM t"] = .ok g ∧
    g.UndisturbedUnder (.steady emptyEngine) Stage.all ([copied, unfinished].map .ofHandIn) ∧
    ∀ s ∈ g.runUnder (.steady emptyEngine) [copied, unfinished],
      (s.toRecord session.ranking).feedback = "" ↔ s.parseable = false := by
  intro session g
  have hg : ofModels? session emptyEngine ["SELECT a FROM t"] = .ok g := ofModels?_emptyGrader rfl
  have hquiet : g.UndisturbedUnder (.steady g.engine) Stage.all
      ([copied, unfinished].map .ofHandIn) :=
    undisturbedUnder_steady (alwaysAnswers_emptyEngine.undisturbed Stage.all _)
  refine ⟨hg, hquiet, fun s hs => ?_⟩
  have hlevels : Untold session.levels s ↔ s.parseable = false := by
    simp [Untold, session, judging]
  exact (feedback_eq_empty_iff hg hquiet s hs).trans hlevels

/-- A text that does not parse where meaning is not judged, and one that is near a right statement
where meaning has two verdicts and results are not judged: neither is told anything. -/
theorem feedback_eq_empty :
    (let session := judging ⟨.three, .absent, .two⟩
      let g := emptyGrader session
      ofModels? session emptyEngine ["SELECT a FROM t"] = .ok g ∧
        g.Undisturbed Stage.all ([unfinished].map .ofHandIn) ∧
        ∃ s ∈ g.run [unfinished],
          s.verdicts = ⟨.incorrect, .invalid, .incorrect⟩ ∧ s.grade = 0 ∧
            (s.toRecord session.ranking).feedback = "") ∧
    (let session := judging ⟨.three, .two, .absent⟩
      let g := emptyGrader session
      ofModels? session emptyEngine ["SELECT a FROM t"] = .ok g ∧
        g.Undisturbed Stage.all ([copied].map .ofHandIn) ∧
        ∃ s ∈ g.run [copied], s.verdicts = ⟨.correct, .incorrect, .invalid⟩ ∧
          (s.toRecord session.ranking).feedback = "") :=
  have hquiet : ∀ session batch, (emptyGrader session).Undisturbed Stage.all batch :=
    fun _ => alwaysAnswers_emptyEngine.undisturbed Stage.all
  ⟨⟨ofModels?_emptyGrader rfl, hquiet _ _, by decide +kernel⟩,
    ofModels?_emptyGrader rfl, hquiet _ _, by decide +kernel⟩

end Grader

end QueryGrading
