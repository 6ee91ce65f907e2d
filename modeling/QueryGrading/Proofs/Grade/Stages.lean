import QueryGrading.Grade.Grader.Run
import QueryGrading.Proofs.Grade.Coherence

/-!
# What each stage does

One lemma for each stage of `Stage`, on the verdicts that it gives: `syntax`, `results`, `semantics`
and `finalize` are `judgeGrammar`, `judgeResults`, `judgeMeaning` and `finalize` here. The stages
after the one on grammar leave a statement as it stands (`Submission.standing`) and only judge it.

`semantics` has many ways out: meaning is not judged, the results are right, a candidate says the
same up to case, one is near, the clauses all match, or some of them do. `MeaningJudged` lists what
each of them makes of the verdicts, and from then on no proof opens that function again. From it the
verdicts are coherent once the results of a session that does not judge results are taken back
(`MeaningJudged.coherent`); this is the one place where the premises of all stages meet.
-/

namespace QueryGrading

/-! ## 1. What a stage leaves as it was

Each function that only judges is shown to leave the standing of a statement as it was. The lemmas
on single fields follow, and later proofs ask for no others. -/

/-- A statement apart from how it is judged. -/
structure Standing where
  id : String
  attempt : Nat
  question : String
  text : String
  originalText : Option String
  parseable : Bool
  tree : Option Tree
  fingerprint : String
  output : Output
  executionError : Option String

namespace Submission

variable (s : Submission)

/-- The statement apart from how it is judged. -/
def standing : Standing where
  id := s.id
  attempt := s.attempt
  question := s.question
  text := s.text
  originalText := s.originalText
  parseable := s.parseable
  tree := s.tree
  fingerprint := s.fingerprint
  output := s.output
  executionError := s.executionError

/-- The fields of which the proofs make use. -/
theorem eq_of_standing_eq {s s' : Submission} (h : s'.standing = s.standing) :
    s'.parseable = s.parseable ∧ s'.originalText = s.originalText :=
  ⟨congrArg Standing.parseable h, congrArg Standing.originalText h⟩

@[simp] theorem standing_note (text : String) : (s.note text).standing = s.standing := rfl

@[simp] theorem standing_judge (axis : Axis) (v : Verdict) :
    (s.judge axis v).standing = s.standing := rfl

@[simp] theorem standing_explain (axis : Axis) (text : String) :
    (s.explain axis text).standing = s.standing := rfl

@[simp] theorem verdicts_note (text : String) : (s.note text).verdicts = s.verdicts := rfl

@[simp] theorem verdicts_judge (axis : Axis) (v : Verdict) :
    (s.judge axis v).verdicts = s.verdicts.set axis v := rfl

@[simp] theorem verdicts_explain (axis : Axis) (text : String) :
    (s.explain axis text).verdicts = s.verdicts := rfl

end Submission

namespace Grader

open Submission

variable {g : Grader} {peers : List Peer} {s s' : Submission}

@[simp] theorem standing_keepDistances (n : Option Neighbour) (s : Submission) :
    (keepDistances n s).standing = s.standing := by
  cases n <;> rfl

@[simp] theorem verdicts_keepDistances (n : Option Neighbour) (s : Submission) :
    (keepDistances n s).verdicts = s.verdicts := by
  cases n <;> rfl

/-- The stage on results only judges. -/
theorem standing_judgeResults (g : Grader) (s : Submission) :
    (g.judgeResults s).standing = s.standing := by
  unfold judgeResults
  split
  · rfl
  · split
    · rfl
    · split
      · rfl
      · split
        split <;> simp

/-- So does the comparison with other statements, in each of its three ways out. -/
theorem standing_judgeByOthers (g : Grader) (peers : List Peer) (tree : Tree) (s : Submission) :
    (g.judgeByOthers peers tree s).standing = s.standing := by
  -- a candidate with the same text, a near one, or none at all
  simp only [judgeByOthers]
  split
  · split <;> simp [judgeSame]
  · simp only [judgeNear]
    split <;> simp
  · simp only [judgeClauses]
    split
    · split <;> simp
    · simp

/-- And the whole stage on meaning. -/
theorem standing_judgeMeaning (g : Grader) (peers : List Peer) (s : Submission) :
    (g.judgeMeaning peers s).standing = s.standing := by
  unfold judgeMeaning
  split
  · rfl
  · split
    · rfl
    · split
      · exact standing_judgeByOthers g peers _ s
      · rfl

/-- And the last stage. -/
theorem standing_finalize (g : Grader) (s : Submission) :
    (g.finalize s).standing = s.standing := by
  simp only [finalize]
  split <;> split <;> rfl

/-! ## 2. Grammar

A statement that was handed in as it stands is judged by whether it parses; one that was repaired
has a verdict of its own. -/

/-- A statement that is taken over parses, and its verdicts are not touched. -/
theorem adopt_eq_ok {parsed : Parsed} (h : g.adopt parsed s = .ok s') :
    s'.parseable = true ∧ s'.originalText = s.originalText ∧ s'.verdicts = s.verdicts := by
  unfold adopt at h
  split at h
  · cases h
  · cases h
    exact ⟨rfl, rfl, rfl⟩

/-- A repaired statement parses and remembers its text; its grammar is nearly right or wrong. -/
theorem takeRepair_eq_ok {mended : Mended} {d : Option Nat} (h : g.takeRepair mended d s = .ok s') :
    s'.parseable = true ∧ s'.originalText = some s.text ∧
      s'.verdicts = s.verdicts.set .grammar
        (if g.session.levels.grammar = .three then .minorIncorrect else .incorrect) := by
  simp only [takeRepair] at h
  split at h
  · cases h
  · next s₁ hadopt =>
    cases h
    obtain ⟨hp, ho, hv⟩ := adopt_eq_ok hadopt
    rw [verdicts_judge, hv]
    exact ⟨hp, ho, rfl⟩

/-- The verdict on grammar of a statement that was handed in as it stands. -/
theorem judgeGrammar_eq_none (ho : s.originalText = none)
    (h : g.judgeGrammar peers s = (s', none)) :
    s'.verdicts.grammar
      = grammarVerdict g.session.levels.grammar s'.parseable s'.originalText.isSome := by
  unfold judgeGrammar at h
  split at h
  · next hl =>
    cases h
    rw [hl]
    rfl
  · next hl =>
    split at h
    · next hp =>
      cases h
      change Verdict.correct = grammarVerdict _ s.parseable s.originalText.isSome
      rw [hp, ho, Option.isSome_none, grammarVerdict_parses hl]
    · next hp =>
      simp only at h
      split at h
      · cases h
      · cases h
        change Verdict.incorrect = grammarVerdict _ s.parseable s.originalText.isSome
        rw [Bool.eq_false_iff.mpr hp, grammarVerdict_unparseable hl]
      · split at h
        · cases h
        · next hr =>
          cases h
          obtain ⟨hp', ho', hv⟩ := takeRepair_eq_ok hr
          rw [hv, hp', ho', Option.isSome_some, grammarVerdict_repaired hl]
          rfl

/-! ## 3. Results

Results are compared with those of the first model. The verdict is the one thing that is used of the
comparison here. -/

/-- The verdict on results is one of its axis, and wrong for a statement that does not parse. -/
theorem judgeResults_spec (g : Grader) (s : Submission) :
    ∃ v ∈ g.session.levels.results.verdicts,
      (g.judgeResults s).verdicts = s.verdicts.set .results v ∧
      (s.parseable = false → g.session.levels.results ≠ .absent → v = .incorrect) := by
  have hmem : ∀ {l : Sensitivity}, l ≠ .absent → .incorrect ∈ l.verdicts ∧ .correct ∈ l.verdicts ∧
      (if l = .three then Verdict.minorIncorrect else .incorrect) ∈ l.verdicts := by
    intro l hl
    cases l <;> simp_all [Sensitivity.verdicts]
  unfold judgeResults
  split
  · -- results are not judged
    next hl => exact ⟨.invalid, by simp [hl, Sensitivity.verdicts], rfl, fun _ hne => absurd hl hne⟩
  · next hl =>
    obtain ⟨hinc, hcor, hsub⟩ := hmem hl
    split
    · exact ⟨.incorrect, hinc, rfl, fun _ _ => rfl⟩
    · next hp =>
      split
      · -- there is no model
        exact ⟨.incorrect, hinc, rfl, fun _ _ => rfl⟩
      · split
        next v _ _ heq =>
        -- compared with the first model: equal, more than it, or neither
        refine ⟨v, ?_, ?_, fun hp' => by simp [hp'] at hp⟩
        · simp only [resultsVerdict] at heq
          split at heq
          · cases heq
            exact hcor
          · split at heq
            · cases heq
              exact hsub
            · cases heq
              exact hinc
        · split <;> rfl

/-! ## 4. Meaning

The ways out of the stage on meaning are the constructors of `MeaningJudged`, and each function that
can be the last one gives one of them. -/

/-- What the verdicts on a statement become when its meaning is judged. -/
inductive MeaningJudged (levels : PerAxis Sensitivity) (s : Submission) : Verdicts → Prop
  | ungraded (hl : levels.meaning = .absent) :
    MeaningJudged levels s (s.verdicts.set .meaning .invalid)
  | right (hl : levels.meaning ≠ .absent) (hr : s.verdicts.results = .correct) :
    MeaningJudged levels s (s.verdicts.set .meaning .correct)
  | near (hl : levels.meaning ≠ .absent) (hp : s.parseable = true) (m : Verdict)
    (hm : m = .correct ∨ m = if levels.meaning.hasMinor then .minorIncorrect else .incorrect) :
    MeaningJudged levels s ((s.verdicts.set .results .correct).set .meaning m)
  | meant (hl : levels.meaning ≠ .absent) (hp : s.parseable = true)
    (hr : levels.results = .absent) :
    MeaningJudged levels s (s.verdicts.set .meaning .correct)
  | wrong (hl : levels.meaning ≠ .absent) (hr : s.verdicts.results ≠ .correct) :
    MeaningJudged levels s (s.verdicts.set .meaning .incorrect)
  | partly (hl : levels.meaning = .six) (hp : s.parseable = true)
    (hr : s.verdicts.results ≠ .correct) (m : Verdict) (hm : m.isPartial = true) :
    MeaningJudged levels s (s.verdicts.set .meaning m)

/-- The verdict on grammar stays. -/
theorem MeaningJudged.grammar {levels : PerAxis Sensitivity} {v : Verdicts}
    (h : MeaningJudged levels s v) : v.grammar = s.verdicts.grammar := by
  cases h <;> rfl

/-- Right results stay right. -/
theorem MeaningJudged.results {levels : PerAxis Sensitivity} {v : Verdicts}
    (h : MeaningJudged levels s v) (hr : s.verdicts.results = .correct) :
    v.results = .correct := by
  cases h with
  | near => rfl
  | _ => exact hr

/-- The share of the clauses that match gives no credit, full credit or a part of it. -/
theorem shareVerdict_cases (c i : Nat) :
    shareVerdict c i = .incorrect ∨ shareVerdict c i = .correct ∨
      (shareVerdict c i).isPartial = true := by
  unfold shareVerdict partialCredit
  split
  · exact Or.inl rfl
  · split
    · exact Or.inr (Or.inl rfl)
    · split <;> simp [Verdict.isPartial]

/-- The last way out: partial credit for the clauses that match, full credit if all of them do. -/
theorem meaningJudged_judgeClauses {levels : PerAxis Sensitivity} (hl : levels.meaning ≠ .absent)
    (hp : s.parseable = true) (hr : s.verdicts.results ≠ .correct) (r : Report) :
    MeaningJudged levels s (judgeClauses levels r s).verdicts := by
  simp only [judgeClauses]
  split
  · next hsix =>
    rcases shareVerdict_cases r.correct.length r.incorrect.length with hv | hv | hv
    · rw [if_neg (by simp [hv]), verdicts_judge, hv]
      exact .wrong hl hr
    · rw [hv]
      split
      · exact .near hl hp _ (Or.inl rfl)
      · next hres => exact .meant hl hp (by simpa using hres)
    · -- partial credit touches no other axis
      have hne : shareVerdict r.correct.length r.incorrect.length ≠ .correct :=
        ((Verdict.isPartial_iff _).mp hv).2.2.2
      rw [if_neg (fun h => hne h.1)]
      exact .partly hsix hp hr _ hv
  · exact .wrong hl hr

/-- The search ends at a candidate that says the same, or with the nearest one, or finds none. -/
theorem meaningJudged_judgeByOthers (hl : g.session.levels.meaning ≠ .absent)
    (hp : s.parseable = true) (hr : s.verdicts.results ≠ .correct) (tree : Tree) :
    MeaningJudged g.session.levels s (g.judgeByOthers peers tree s).verdicts := by
  simp only [judgeByOthers]
  split
  · next near same hsearch =>
    split
    · next hres =>
      rw [verdicts_judge, verdicts_explain, verdicts_keepDistances]
      exact .meant hl hp hres
    · exact .near hl hp _ (Or.inl rfl)
  · next near hsearch =>
    simp only [judgeNear]
    split
    · next hminor =>
      exact .near hl hp _ (Or.inr (by rw [if_pos hminor]))
    · next hminor =>
      exact .near hl hp _ (Or.inr (by rw [if_neg hminor]))
  · exact meaningJudged_judgeClauses hl hp hr _

/-- Every way out of the stage on meaning is one of `MeaningJudged`. -/
theorem meaningJudged_judgeMeaning (g : Grader) (peers : List Peer) (s : Submission) :
    MeaningJudged g.session.levels s (g.judgeMeaning peers s).verdicts := by
  unfold judgeMeaning
  split
  · next hl => exact .ungraded hl
  · next hl =>
    split
    · next hr => exact .right hl (by simpa [isRight] using hr)
    · next hr =>
      have hr : s.verdicts.results ≠ .correct := by simpa [isRight] using hr
      split
      · next hp _ => exact meaningJudged_judgeByOthers hl hp hr _
      · exact .wrong hl hr

/-! ## 5. The end of a run

In the last stage results that are not judged lose their verdict, which the stage on meaning may
have set, and the level is looked up. -/

/-- The verdicts with those on results taken back where results are not judged. -/
def settled (levels : PerAxis Sensitivity) (v : Verdicts) : Verdicts :=
  if levels.results = .absent then v.set .results .invalid else v

/-- The verdicts at the end. -/
theorem verdicts_finalize (g : Grader) (s : Submission) :
    (g.finalize s).verdicts = settled g.session.levels s.verdicts := by
  simp only [finalize, settled]
  split <;> split <;> rfl

/-- The level is looked up for the verdicts as they are at the end. -/
theorem level_finalize (g : Grader) (s : Submission) :
    (g.finalize s).level = (g.scale.level? (g.finalize s).verdicts).getD 1 := by
  rw [verdicts_finalize]
  simp only [finalize, settled]
  split <;> split <;> simp_all

theorem settled_grammar (levels : PerAxis Sensitivity) (v : Verdicts) :
    (settled levels v).grammar = v.grammar := by
  unfold settled
  split <;> rfl

theorem settled_meaning (levels : PerAxis Sensitivity) (v : Verdicts) :
    (settled levels v).meaning = v.meaning := by
  unfold settled
  split <;> rfl

theorem settled_results {levels : PerAxis Sensitivity} (h : levels.results ≠ .absent)
    (v : Verdicts) : (settled levels v).results = v.results := by
  rw [settled, if_neg h]

theorem settled_results_absent {levels : PerAxis Sensitivity} (h : levels.results = .absent)
    (v : Verdicts) : (settled levels v).results = .invalid := by
  rw [settled, if_pos h]
  rfl

/-- Where results are judged, verdicts are coherent by themselves; where they are not, only grammar
and meaning count. -/
theorem coherent_settled {levels : PerAxis Sensitivity} {parseable repaired : Bool} {v : Verdicts}
    (hg : v.grammar = grammarVerdict levels.grammar parseable repaired)
    (hm : v.meaning ∈ levels.meaning.verdicts)
    (hpm : parseable = false → levels.meaning ≠ .absent → v.meaning = .incorrect)
    (hr : levels.results ≠ .absent → Coherent levels parseable repaired v) :
    Coherent levels parseable repaired (settled levels v) := by
  by_cases hl : levels.results = .absent
  · refine ⟨?_, ?_, ?_, ?_, ?_, fun hne => absurd hl hne⟩
    · rw [settled_grammar, hg]
    · rw [settled_meaning]
      exact hm
    · simp [settled_results_absent hl, hl, Sensitivity.verdicts]
    · intro hp
      rw [settled_meaning]
      exact ⟨hpm hp, fun hne => absurd hl hne⟩
    · rw [settled_results_absent hl]
      exact fun h => absurd h (by decide)
  · rw [settled, if_neg hl]
    exact hr hl

/-- An axis that is judged has these verdicts. -/
theorem mem_verdicts_of_ne_absent {l : Sensitivity} (h : l ≠ .absent) :
    .incorrect ∈ l.verdicts ∧ .correct ∈ l.verdicts ∧
      (if l.hasMinor then Verdict.minorIncorrect else .incorrect) ∈ l.verdicts := by
  cases l <;> simp_all [Sensitivity.verdicts, Sensitivity.hasMinor]

/-- Partial credit is a verdict of the axis with six of them. -/
theorem mem_verdicts_of_isPartial {v : Verdict} (h : v.isPartial = true) :
    v ∈ Sensitivity.six.verdicts := by
  cases v <;> simp_all [Sensitivity.verdicts, Verdict.isPartial]

/-- **Judging meaning makes the verdicts coherent.**  The premises are what the stages on grammar
and on results leave. -/
theorem MeaningJudged.coherent {levels : PerAxis Sensitivity} {v : Verdicts}
    (h : MeaningJudged levels s v)
    (hg : s.verdicts.grammar = grammarVerdict levels.grammar s.parseable s.originalText.isSome)
    (hr : s.verdicts.results ∈ levels.results.verdicts)
    (hp : s.parseable = false → levels.results ≠ .absent → s.verdicts.results = .incorrect) :
    Coherent levels s.parseable s.originalText.isSome (settled levels v) := by
  cases h with
  | ungraded hl =>
    -- nothing is said on meaning, so only the results are to be checked
    refine coherent_settled hg ?_ (fun _ hne => absurd hl hne) fun hres => ?_
    · simp [hl, Sensitivity.verdicts, PerAxis.set]
    · exact ⟨hg, by simp [hl, Sensitivity.verdicts, PerAxis.set], hr,
        fun hp' => ⟨fun hne => absurd hl hne, fun _ => hp hp' hres⟩,
        fun _ => Or.inr (Or.inr (Or.inr hl)), fun _ hm => by simp [PerAxis.set] at hm⟩
  | right hl hright =>
    -- wrong results would be those of a statement that does not parse
    have hparse : s.parseable = true := by
      cases hs : s.parseable with
      | true => rfl
      | false =>
        have := hp hs (Sensitivity.ne_absent_of_mem hr (by simp [hright]))
        simp [hright] at this
    have hmem := (mem_verdicts_of_ne_absent hl).2.1
    refine coherent_settled hg hmem (fun hp' => by simp [hparse] at hp') fun _ => ?_
    exact ⟨hg, hmem, hr, fun hp' => by simp [hparse] at hp', fun _ => Or.inl rfl, fun _ _ => hright⟩
  | near hl hparse m hm =>
    -- the results became right together with the meaning
    obtain ⟨hinc, hcor, hmin⟩ := mem_verdicts_of_ne_absent hl
    have hmem : m ∈ levels.meaning.verdicts := by
      rcases hm with rfl | rfl
      · exact hcor
      · exact hmin
    refine coherent_settled hg hmem (fun hp' => by simp [hparse] at hp') fun hres => ?_
    refine ⟨hg, hmem, (mem_verdicts_of_ne_absent hres).2.1, fun hp' => by simp [hparse] at hp',
      fun _ => ?_, fun _ _ => rfl⟩
    rcases hm with rfl | rfl
    · exact Or.inl rfl
    · cases hlevel : levels.meaning <;> simp_all [PerAxis.set, Sensitivity.hasMinor]
  | meant hl hparse hres =>
    exact coherent_settled hg (mem_verdicts_of_ne_absent hl).2.1
      (fun hp' => by simp [hparse] at hp') fun hne => absurd hres hne
  | wrong hl hwrong =>
    have hmem := (mem_verdicts_of_ne_absent hl).1
    refine coherent_settled hg hmem (fun _ _ => rfl) fun hres => ?_
    exact ⟨hg, hmem, hr, fun hp' => ⟨fun _ => rfl, fun _ => hp hp' hres⟩,
      fun hright => absurd hright hwrong, fun _ hm => by simp [PerAxis.set] at hm⟩
  | partly hl hparse hwrong m hm =>
    have hmem : m ∈ levels.meaning.verdicts := hl ▸ mem_verdicts_of_isPartial hm
    obtain ⟨-, -, hminor, hcorrect⟩ := (Verdict.isPartial_iff m).mp hm
    refine coherent_settled hg hmem (fun hp' => by simp [hparse] at hp') fun hres => ?_
    refine ⟨hg, hmem, hr, fun hp' => by simp [hparse] at hp',
      fun hright => absurd hright hwrong, fun _ hm' => ?_⟩
    rcases hm' with hm' | hm'
    · exact absurd hm' hcorrect
    · exact absurd hm' hminor

end Grader

end QueryGrading
