import QueryGrading.Proofs.Grade.Best
import QueryGrading.Proofs.Grade.Placement

/-!
# What a run ends with

The verdicts of a run without faults agree with each other and with whether the statement parses
(`agreed_runUnder`). A stage that is stopped can leave verdicts that no run without faults has, but
never a right one on a statement that does not parse (`Tentative`). So whatever stops the stages
before the last, every statement that was handed in comes back in its place with a level and a
grade, and its grade is full just when all that is judged is right (`graded_runUnder`).

In `run_stage` a task that is stopped leaves its submission as it was before the stage, with a note.
So a statement may reach `finalize` with any stages left out, and the invariant cannot say what the
verdicts are, only which ones they cannot be: `Ungraded` is kept by every stage before the last,
stopped or not, and `graded_finalize` needs no more. The last stage itself asks nobody, and a panic
of it is excluded by the premise on `finalize`.
-/

namespace QueryGrading

/-! ## 1. Verdicts that agree

Coherent verdicts are those of a statement of which all stages have run; the properties that a
reader of a record would look for follow from them. -/

/-- The verdicts on a statement are possible ones, and agree with each other and with whether the
statement parses. -/
structure Agreed (levels : PerAxis Sensitivity) (s : Submission) : Prop where
  possible : ∀ axis, s.verdicts.get axis ∈ (levels.get axis).verdicts
  unparseable : s.parseable = false →
    ∀ axis, levels.get axis ≠ .absent → s.verdicts.get axis = .incorrect
  grammar : levels.grammar = .three → (s.verdicts.grammar = .incorrect ↔ s.parseable = false)
  meant : levels.results ≠ .absent → s.verdicts.meaning = .correct → s.verdicts.results = .correct
  right : s.verdicts.results = .correct →
    s.verdicts.meaning = .correct ∨ s.verdicts.meaning = .minorIncorrect ∨
      (s.verdicts.meaning = .incorrect ∧ levels.meaning = .two) ∨
      (s.verdicts.meaning = .invalid ∧ levels.meaning = .absent)

/-- Verdicts that are coherent agree. -/
theorem Coherent.agreed {levels : PerAxis Sensitivity} {s : Submission}
    (h : Coherent levels s.parseable s.originalText.isSome s.verdicts)
    (hg : levels.grammar ≠ .six) : Agreed levels s where
  possible axis := by
    cases axis with
    | grammar =>
      have hmem := grammarVerdict_mem hg s.parseable s.originalText.isSome
      rw [← h.grammar] at hmem
      exact hmem
    | meaning => exact h.meaning
    | results => exact h.results
  unparseable hp axis hl := by
    cases axis with
    | grammar =>
      have hgrammar := h.grammar
      rw [hp] at hgrammar
      exact hgrammar.trans (grammarVerdict_unparseable hl _)
    | meaning => exact (h.unparseable hp).1 hl
    | results => exact (h.unparseable hp).2 hl
  grammar hl := by
    rw [h.grammar, grammarVerdict_eq_incorrect_iff, hl]
    simp
  meant hl hm := h.meant hl (.inl hm)
  right hr := by
    rcases h.right hr with hm | hm | hm | hl
    · exact .inl hm
    · exact .inr (.inl hm)
    · exact .inr (.inr (.inl hm))
    · have hmem := h.meaning
      rw [hl] at hmem
      exact .inr (.inr (.inr ⟨List.mem_singleton.mp hmem, hl⟩))

namespace Grader

variable {g : Grader} {c : Circumstances} {peers : List Peer} {stage : Stage}

/-- **The verdicts of a run without faults agree**, whatever the engine answers. -/
theorem agreed_runUnder {session : Session} {engine : Engine} {models : List String}
    (hg : ofModels? session engine models = .ok g) {handIns : List HandIn}
    (h : g.UndisturbedUnder c Stage.all (handIns.map .ofHandIn)) :
    ∀ s ∈ g.runUnder c handIns, Agreed session.levels s := by
  intro s hs
  obtain ⟨rfl, -, hgrammar, -⟩ := ofModels?_eq_ok hg
  exact (coherent_runUnder h s hs).1.agreed hgrammar

/-- A statement that was repaired and has partial credit. -/
theorem agreed_runUnder_misspelled :
    ofModels? creditSession assertionEngine ["CREATE ASSERTION a"] = .ok creditGrader ∧
    creditGrader.UndisturbedUnder (.steady assertionEngine) Stage.all (misspelled.map .ofHandIn) ∧
    ∃ s ∈ creditGrader.runUnder (.steady assertionEngine) misspelled,
      s.verdicts = ⟨.incorrect, .sm3, .incorrect⟩ ∧ Agreed creditSession.levels s := by
  obtain ⟨s, hs, hverdicts⟩ : ∃ s ∈ creditGrader.runUnder (.steady assertionEngine) misspelled,
      s.verdicts = ⟨.incorrect, .sm3, .incorrect⟩ := by
    decide +kernel
  exact ⟨ofModels?_creditGrader, undisturbedUnder_misspelled, s, hs, hverdicts,
    agreed_runUnder ofModels?_creditGrader undisturbedUnder_misspelled s hs⟩

end Grader

/-! ## 2. Before the last stage

Of the verdicts between two stages less is known, since a stage may have been left out. `Tentative`
is what every stage keeps and no stopped stage can break. -/

/-- What is sure of the verdicts on a statement before the last stage, whatever stopped the others.
An axis that is not judged has no verdict, except that a text that does not parse may be wrong in
grammar; and nothing is right about such a text. -/
structure Tentative (levels : PerAxis Sensitivity) (parseable : Bool) (v : Verdicts) : Prop where
  grammar : levels.grammar = .absent → parseable = true → v.grammar = .invalid
  meaning : levels.meaning = .absent → v.meaning = .invalid
  unparseable : parseable = false → ∀ axis, v.get axis ≠ .correct

theorem PerAxis.get_set {α : Type} (v : PerAxis α) (axis other : Axis) (x : α) :
    (v.set axis x).get other = if other = axis then x else v.get other := by
  cases axis <;> cases other <;> rfl

namespace Tentative

variable {levels : PerAxis Sensitivity} {parseable : Bool} {v : Verdicts}

theorem unjudged (levels : PerAxis Sensitivity) (parseable : Bool) :
    Tentative levels parseable .unjudged where
  grammar _ _ := rfl
  meaning _ := rfl
  unparseable _ axis := by cases axis <;> decide

theorem rejected (levels : PerAxis Sensitivity) :
    Tentative levels false (Verdicts.unjudged.set .grammar .incorrect) where
  grammar := nofun
  meaning _ := rfl
  unparseable _ axis := by cases axis <;> decide

/-- Another verdict on an axis, which is none if the axis is not judged, and not a right one on a
statement that does not parse. -/
theorem set (h : Tentative levels parseable v) (axis : Axis) {x : Verdict}
    (habsent : axis ≠ .results → levels.get axis = .absent → x = .invalid)
    (hwrong : parseable = false → x ≠ .correct) :
    Tentative levels parseable (v.set axis x) where
  grammar hl hp := by
    cases axis with
    | grammar => exact habsent nofun hl
    | meaning => exact h.grammar hl hp
    | results => exact h.grammar hl hp
  meaning hl := by
    cases axis with
    | grammar => exact h.meaning hl
    | meaning => exact habsent nofun hl
    | results => exact h.meaning hl
  unparseable hp other := by
    rw [PerAxis.get_set]
    split
    · exact hwrong hp
    · exact h.unparseable hp other

/-- A repair makes a statement parse; only where grammar is judged there are repairs. -/
theorem repaired (h : Tentative levels parseable v) (hl : levels.grammar ≠ .absent) (x : Verdict) :
    Tentative levels true (v.set .grammar x) where
  grammar hl' := absurd hl' hl
  meaning := h.meaning
  unparseable := nofun

/-- What is right parses. -/
theorem parseable_of_correct (h : Tentative levels parseable v) (axis : Axis)
    (hright : v.get axis = .correct) : parseable = true := by
  by_contra hp
  exact h.unparseable (Bool.eq_false_iff.mpr hp) axis hright

end Tentative

namespace Grader

variable {g : Grader} {c : Circumstances} {peers : List Peer} {stage : Stage} {s s' : Submission}

/-- The first stage: a text that is rejected or empty is wrong in grammar, and all else is open. -/
theorem tentative_first {h : HandIn}
    (hrun : g.runStage .preprocess peers (.ofHandIn h) = (s', none)) :
    Tentative g.session.levels s'.parseable s'.verdicts := by
  simp only [runStage, preprocess] at hrun
  split at hrun
  · next hok =>
    cases hrun
    split at hok
    · cases hok
      exact .rejected _
    · split at hok
      · cases hok
      · cases hok
        exact .rejected _
      · rw [(adopt_eq_ok hok).2.2]
        exact .unjudged _ _
  · cases hrun

/-- The stage on grammar: not judged, parses, cannot be repaired, or is repaired. -/
theorem tentative_judgeGrammar (hs : Tentative g.session.levels s.parseable s.verdicts)
    (h : g.judgeGrammar peers s = (s', none)) :
    Tentative g.session.levels s'.parseable s'.verdicts := by
  unfold judgeGrammar at h
  split at h
  · cases h
    exact hs.set .grammar (fun _ _ => rfl) nofun
  · next hl =>
    split at h
    · next hp =>
      cases h
      exact hs.set .grammar (fun _ hl' => absurd hl' hl)
        fun hp' => absurd (hp.symm.trans hp') nofun
    · simp only at h
      split at h
      · cases h
      · cases h
        exact hs.set .grammar (fun _ hl' => absurd hl' hl) nofun
      · split at h
        · cases h
        · next hrepair =>
          cases h
          obtain ⟨hp, -, hv⟩ := takeRepair_eq_ok hrepair
          rw [hp, hv]
          exact hs.repaired hl _

theorem tentative_judgeResults (hs : Tentative g.session.levels s.parseable s.verdicts) :
    Tentative g.session.levels (g.judgeResults s).parseable (g.judgeResults s).verdicts := by
  obtain ⟨hparse, -⟩ := Submission.eq_of_standing_eq (standing_judgeResults g s)
  obtain ⟨x, hmem, hv, hwrong⟩ := judgeResults_spec g s
  rw [hparse, hv]
  refine hs.set .results (fun hne => absurd rfl hne) fun hp => ?_
  by_cases hl : g.session.levels.results = .absent
  · rw [hl] at hmem
    rw [List.mem_singleton.mp hmem]
    nofun
  · rw [hwrong hp hl]
    nofun

theorem MeaningJudged.tentative {levels : PerAxis Sensitivity} {v : Verdicts}
    (h : MeaningJudged levels s v) (hs : Tentative levels s.parseable s.verdicts) :
    Tentative levels s.parseable v := by
  -- a verdict that may be right is only given to what parses
  have hparsed : s.parseable = true → ∀ x : Verdict, s.parseable = false → x ≠ .correct :=
    fun hp _ hp' => absurd (hp.symm.trans hp') nofun
  cases h with
  | ungraded => exact hs.set .meaning (fun _ _ => rfl) nofun
  | right hl hr =>
    have hp := hs.parseable_of_correct .results hr
    exact hs.set .meaning (fun _ hl' => absurd hl' hl) (hparsed hp _)
  | near hl hp =>
    have hresults := hs.set .results (fun hne => absurd rfl hne) (hparsed hp .correct)
    exact hresults.set .meaning (fun _ hl' => absurd hl' hl) (hparsed hp _)
  | meant hl hp => exact hs.set .meaning (fun _ hl' => absurd hl' hl) (hparsed hp _)
  | wrong hl => exact hs.set .meaning (fun _ hl' => absurd hl' hl) nofun
  | partly hl hp =>
    exact hs.set .meaning (fun _ hl' => absurd (hl.symm.trans hl') nofun) (hparsed hp _)

theorem tentative_judgeMeaning (hs : Tentative g.session.levels s.parseable s.verdicts) :
    Tentative g.session.levels (g.judgeMeaning peers s).parseable
      (g.judgeMeaning peers s).verdicts := by
  obtain ⟨hparse, -⟩ := Submission.eq_of_standing_eq (standing_judgeMeaning g peers s)
  rw [hparse]
  exact (meaningJudged_judgeMeaning g peers s).tentative hs

/-- A stage between the first and the last keeps the verdicts tentative. -/
theorem tentative_runStage (hs : Tentative g.session.levels s.parseable s.verdicts)
    (hstage : stage ∈ [Stage.grammar, .results, .meaning])
    (hrun : g.runStage stage peers s = (s', none)) :
    Tentative g.session.levels s'.parseable s'.verdicts := by
  cases stage with
  | preprocess => exact absurd hstage (by decide)
  | grammar => exact tentative_judgeGrammar hs hrun
  | results =>
    cases hrun
    exact tentative_judgeResults hs
  | meaning =>
    cases hrun
    exact tentative_judgeMeaning hs
  | finalize => exact absurd hstage (by decide)

/-- A statement before the last stage: it is the one that was handed in, and its verdicts are
tentative. -/
structure Ungraded (levels : PerAxis Sensitivity) (h : HandIn) (s : Submission) : Prop where
  id : s.id = h.id
  attempt : s.attempt = h.attempt
  question : s.question = h.question
  verdicts : Tentative levels s.parseable s.verdicts

theorem Ungraded.of_becomes {levels : PerAxis Sensitivity} {engine : Engine} {h : HandIn}
    {s s' : Submission} (hs : Ungraded levels h s)
    (hbecomes : Standing.Becomes engine stage s.standing s'.standing)
    (hv : Tentative levels s'.parseable s'.verdicts) : Ungraded levels h s' := by
  obtain ⟨hid, hattempt, hquestion⟩ := hbecomes.keeps
  exact ⟨hid.trans hs.id, hattempt.trans hs.attempt, hquestion.trans hs.question, hv⟩

/-- The first stage, on what was handed in. -/
theorem ungraded_preprocess (g : Grader) (c : Circumstances) (peers : List Peer) (i : Nat)
    (h : HandIn) :
    Ungraded g.session.levels h (g.stepAt c .preprocess peers i (.ofHandIn h)) := by
  have hstart : Ungraded g.session.levels h (.ofHandIn h) := ⟨rfl, rfl, rfl, .unjudged _ _⟩
  refine hstart.of_becomes (standing_stepAt g c .preprocess peers i _) ?_
  rcases stepAt_cases g c .preprocess peers i (.ofHandIn h) with ⟨-, hrun⟩ | ⟨fault, -, hnote⟩
  · exact tentative_first (g := g.withEngine (c.engine .preprocess i)) hrun
  · rw [hnote]
    exact .unjudged _ _

/-- **Each further stage before the last one** leaves a statement that can be graded, whatever
stops its task. -/
theorem ungraded_stepAt {h : HandIn} (hs : Ungraded g.session.levels h s) (c : Circumstances)
    (peers : List Peer) (i : Nat) (hstage : stage ∈ [Stage.grammar, .results, .meaning]) :
    Ungraded g.session.levels h (g.stepAt c stage peers i s) := by
  -- a task that is stopped leaves the verdicts, so both cases keep them tentative
  refine hs.of_becomes (standing_stepAt g c stage peers i s) ?_
  rcases stepAt_cases g c stage peers i s with ⟨-, hrun⟩ | ⟨fault, -, hnote⟩
  · exact tentative_runStage (g := g.withEngine (c.engine stage i)) hs.verdicts hstage hrun
  · rw [hnote]
    exact hs.verdicts

/-! ## 3. The grade

The grade is the value of the level of the verdicts, or of the lowest level if they have none. So it
is full only for the best verdicts, and these are right wherever something is judged. -/

/-- What comes back for a statement: the same student, attempt and question, a level of the scale,
its value as the grade, and the full grade just when all that is judged is right. -/
structure Graded (session : Session) (h : HandIn) (s : Submission) : Prop where
  id : s.id = h.id
  attempt : s.attempt = h.attempt
  question : s.question = h.question
  level : 1 ≤ s.level ∧ s.level ≤ (Scale.ofSession session).size
  value : s.value = s.grade
  grade : 0 ≤ s.grade ∧ s.grade ≤ 1
  full : s.grade = 1 ↔
    ∀ axis, session.levels.get axis ≠ .absent → s.verdicts.get axis = .correct

theorem get_settled {levels : PerAxis Sensitivity} {axis : Axis} (h : levels.get axis ≠ .absent)
    (v : Verdicts) : (settled levels v).get axis = v.get axis := by
  cases axis with
  | grammar => exact settled_grammar levels v
  | meaning => exact settled_meaning levels v
  | results => exact settled_results h v

/-- All that is judged is right just where nothing is judged or the verdicts are the best. -/
theorem all_right_iff {session : Session} {parseable : Bool} {v : Verdicts}
    (h : Tentative session.levels parseable v) :
    (∀ axis, session.levels.get axis ≠ .absent →
      (settled session.levels v).get axis = .correct) ↔
      (∀ axis, session.levels.get axis = .absent) ∨ settled session.levels v = session.best := by
  constructor
  · intro hright
    by_cases hall : ∀ axis, session.levels.get axis = .absent
    · exact .inl hall
    · -- what is right on one axis parses, so grammar has no verdict where it is not judged
      obtain ⟨axis, haxis⟩ := not_forall.mp hall
      have hcorrect := hright axis haxis
      rw [get_settled haxis] at hcorrect
      have hparse := h.parseable_of_correct axis hcorrect
      have hbest : ∀ axis, (session.levels.get axis = .absent →
          (settled session.levels v).get axis = .invalid) →
          (settled session.levels v).get axis = session.best.get axis := by
        intro axis habsent
        rw [session.get_best]
        by_cases hl : session.levels.get axis = .absent
        · rw [habsent hl, hl]
          rfl
        · rw [hright axis hl, Sensitivity.best_eq_correct hl]
      refine .inr (PerAxis.eq_of_parts (hbest .grammar fun hl => ?_) (hbest .meaning fun hl => ?_)
        (hbest .results fun hl => ?_))
      · exact (settled_grammar _ v).trans (h.grammar hl hparse)
      · exact (settled_meaning _ v).trans (h.meaning hl)
      · exact settled_results_absent hl v
  · rintro (hall | hbest) axis hl
    · exact absurd (hall axis) hl
    · rw [hbest, session.get_best, Sensitivity.best_eq_correct hl]

/-- The last stage grades every statement. -/
theorem graded_finalize (hscale : g.scale = .ofSession g.session) {h : HandIn}
    (hs : Ungraded g.session.levels h s) : Graded g.session h (g.finalize s) := by
  have hstanding := standing_finalize g s
  have hlevel : 1 ≤ (g.finalize s).level ∧ (g.finalize s).level ≤ g.scale.size := by
    rw [level_finalize]
    cases hplace : g.scale.level? (g.finalize s).verdicts with
    -- verdicts without a place get the lowest level, which every scale has
    | none => exact ⟨Nat.le_refl 1, hscale ▸ Scale.size_pos g.session⟩
    | some level => exact Scale.level?_bounds hplace
  have hgrade : (g.finalize s).grade = g.scale.value (g.finalize s).level := rfl
  refine ⟨?_, ?_, ?_, hscale ▸ hlevel, rfl, ?_, ?_⟩
  · exact (congrArg Standing.id hstanding).trans hs.id
  · exact (congrArg Standing.attempt hstanding).trans hs.attempt
  · exact (congrArg Standing.question hstanding).trans hs.question
  · rw [hgrade]
    exact ⟨Scale.value_nonneg _ _, Scale.value_le_one hlevel.2⟩
  · rw [hgrade, level_finalize, hscale, Scale.value_getD_eq_one_iff, verdicts_finalize,
      all_right_iff hs.verdicts]

/-- **Every statement comes back graded**, in the order in which they were handed in, whatever the
engine answers and whatever stops the tasks of the stages before the last. -/
theorem graded_runUnder {session : Session} {engine : Engine} {models : List String}
    (hg : ofModels? session engine models = .ok g) (hlast : ∀ i, c.fault? .finalize i = none)
    (handIns : List HandIn) :
    List.Forall₂ (Graded session) handIns (g.runUnder c handIns) := by
  obtain ⟨rfl, hscale, -, -⟩ := ofModels?_eq_ok hg
  have hungraded : List.Forall₂ (Ungraded g.session.levels) handIns
      (g.afterUnder c [.preprocess, .grammar, .results, .meaning] handIns) :=
    forall₂_afterUnder (ungraded_preprocess g c) (fun _ hstage peers i _ _ hs =>
      ungraded_stepAt hs c peers i hstage) handIns
  refine forall₂_stepUnder hungraded fun peers i h s hs => ?_
  have hfinalize : g.stepAt c .finalize peers i s = g.finalize s := by
    simp only [stepAt, task, hlast, runStage]
    rfl
  rw [hfinalize]
  exact graded_finalize hscale hs

/-- One engine; the task that judges the grammar of the first statement crashes. -/
def crash : Circumstances where
  engine _ _ := assertionEngine
  fault? stage i := if stage = .grammar ∧ i = 0 then some (.crashed "out of memory") else none

/-- Without a verdict on its grammar a statement that is right has no place on the scale. It comes
back with the lowest level. -/
theorem graded_runUnder_crash :
    ofModels? creditSession assertionEngine ["CREATE ASSERTION a"] = .ok creditGrader ∧
    (∀ i, crash.fault? .finalize i = none) ∧
    List.Forall₂ (Graded creditSession) misspelled (creditGrader.runUnder crash misspelled) ∧
    ∃ s ∈ creditGrader.runUnder crash misspelled,
      s.verdicts = ⟨.invalid, .correct, .correct⟩ ∧ s.level = 1 ∧ s.grade = 0 := by
  have hlast : ∀ i, crash.fault? .finalize i = none := fun _ => rfl
  exact ⟨ofModels?_creditGrader, hlast,
    graded_runUnder ofModels?_creditGrader hlast misspelled, by decide +kernel⟩

end Grader

end QueryGrading
