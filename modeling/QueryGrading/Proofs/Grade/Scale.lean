import QueryGrading.Grade.Scale

/-!
# The rows of a scale

A row of the scale takes one verdict of each axis and is plausible (`mem_rows_iff`); the ranking of
the axes orders the rows and adds none. Verdicts have a level just when they are a row
(`level?_eq_none_iff`). `Session.implausible_iff` states the rules of plausibility one by one.

The rows are what `new` of `CorrectnessMatrix` makes: all combinations of the verdicts on the three
axes without those of `is_excluded`. A level is looked up by `calculate_correctness_level`. How the
rows are ordered is in `Proofs.Grade.Best`.
-/

namespace QueryGrading

/-! ## 1. Rows -/

/-- Every axis has one of its verdicts. -/
def Session.Admits (s : Session) (v : Verdicts) : Prop :=
  ∀ axis, v.get axis ∈ (s.levels.get axis).verdicts

theorem Session.admits_iff (s : Session) (v : Verdicts) :
    s.Admits v ↔ v.grammar ∈ s.levels.grammar.verdicts ∧ v.meaning ∈ s.levels.meaning.verdicts ∧
      v.results ∈ s.levels.results.verdicts := by
  constructor
  · intro h
    exact ⟨h .grammar, h .meaning, h .results⟩
  · rintro ⟨hg, hm, hr⟩ axis
    cases axis
    · exact hg
    · exact hm
    · exact hr

/-- Every combination of the verdicts of the axes is there, whatever the ranking. -/
theorem Session.mem_combinations_iff (s : Session) (v : Verdicts) :
    v ∈ s.combinations ↔ s.Admits v := by
  obtain ⟨gr, me, re⟩ := v
  rw [Session.admits_iff]
  unfold Session.combinations
  cases s.ranking <;>
    simp only [Ranking.axes, PerAxis.get, PerAxis.set, Verdicts.unjudged, List.mem_flatMap,
      List.mem_map, PerAxis.mk.injEq] <;>
    grind

/-! ## 2. Plausible verdicts -/

/-- Partial credit is every verdict but the four that all axes may have. -/
theorem Verdict.isPartial_iff (v : Verdict) :
    v.isPartial = true ↔ v ≠ .invalid ∧ v ≠ .incorrect ∧ v ≠ .minorIncorrect ∧ v ≠ .correct := by
  cases v <;> simp [Verdict.isPartial]

/-- The rules of plausibility one by one. -/
theorem Session.implausible_iff (s : Session) (v : Verdicts) :
    s.implausible v = true ↔
      (v.results = .incorrect ∧ (v.meaning = .minorIncorrect ∨ v.meaning = .correct)) ∨
      (v.results = .correct ∧ v.meaning = .incorrect ∧ s.levels.meaning.hasMinor = true) ∨
      (v.results = .correct ∧ v.meaning.isPartial = true) ∨
      (v.results = .minorIncorrect ∧ (v.meaning = .minorIncorrect ∨ v.meaning = .correct) ∧
        s.levels.results = .three ∧ s.levels.meaning = .three) ∨
      (v.grammar = .incorrect ∧ v.meaning = .correct ∧ s.levels.grammar = .three) ∨
      (v.grammar = .incorrect ∧ v.meaning = .minorIncorrect ∧ s.levels.meaning = .three ∧
        s.levels.grammar = .three) ∨
      (v.grammar = .incorrect ∧ v.meaning = .incorrect ∧ v.results = .minorIncorrect ∧
        s.levels = ⟨.three, .three, .three⟩) ∨
      (v.grammar = .incorrect ∧ v.meaning.isPartial = true) := by
  obtain ⟨gr, me, re⟩ := v
  obtain ⟨⟨lg, lm, lr⟩, _, _, _, _⟩ := s
  unfold Session.implausible
  split <;> simp_all [Verdict.isPartial] <;> grind

/-! ## 3. Levels -/

namespace Scale

theorem mem_rows_iff (s : Session) (v : Verdicts) :
    v ∈ (ofSession s).rows ↔ s.Admits v ∧ s.implausible v = false := by
  simp [ofSession, Session.mem_combinations_iff]

theorem level?_eq_none_iff (scale : Scale) (v : Verdicts) :
    scale.level? v = none ↔ v ∉ scale.rows := by
  rw [level?, Option.map_eq_none_iff, List.idxOf?_eq_none_iff]

/-- A scale is made only where partial credit is asked for meaning alone. -/
theorem ofSession?_eq_ok {s : Session} {scale : Scale} (h : ofSession? s = .ok scale) :
    scale = ofSession s ∧ s.levels.grammar ≠ .six ∧ s.levels.results ≠ .six := by
  rw [ofSession?, Session.fault?] at h
  split at h
  · cases h
  · next hf =>
    split at hf
    · cases hf
    · next hg =>
      split at hf
      · cases hf
      · next hr =>
        cases h
        exact ⟨rfl, hg, hr⟩

end Scale

end QueryGrading
