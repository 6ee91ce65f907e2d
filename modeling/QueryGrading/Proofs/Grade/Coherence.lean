import QueryGrading.Proofs.Grade.Scale

/-!
# Coherent verdicts

How the verdicts on a statement go together when no stage of its run is stopped. The verdict on
grammar says whether the statement parses and whether it was repaired (`grammarVerdict`), right
results are meant or nearly meant, and what is meant has right results. Coherent verdicts are
plausible but for one combination (`Coherent.implausible_iff`).

`implausible` is `is_excluded`, whose eleven rules are gone through one by one. All but one exclude
what no run without faults can end with. The exception is the rule on a wrong grammar with partial
credit for meaning: it asks for no level of grammar, so it also excludes a statement that was
repaired in a session with two verdicts on grammar, where a repair counts as wrong.
-/

namespace QueryGrading

/-! ## 1. The verdict on grammar -/

/-- The verdict on the grammar of a statement that parses or not, after a repair or without. -/
def grammarVerdict (level : Sensitivity) (parseable repaired : Bool) : Verdict :=
  match level, parseable, repaired with
  | .absent, _, _ => .invalid
  | _, false, _ => .incorrect
  | _, true, false => .correct
  | .three, true, true => .minorIncorrect
  | _, true, true => .incorrect

section GrammarVerdict

variable {level : Sensitivity} (h : level ≠ .absent)

include h

theorem grammarVerdict_unparseable (repaired : Bool) :
    grammarVerdict level false repaired = .incorrect := by
  cases level
  · exact absurd rfl h
  all_goals rfl

theorem grammarVerdict_parses : grammarVerdict level true false = .correct := by
  cases level
  · exact absurd rfl h
  all_goals rfl

theorem grammarVerdict_repaired :
    grammarVerdict level true true = if level = .three then .minorIncorrect else .incorrect := by
  cases level
  · exact absurd rfl h
  all_goals rfl

end GrammarVerdict

theorem grammarVerdict_mem {level : Sensitivity} (h : level ≠ .six) (parseable repaired : Bool) :
    grammarVerdict level parseable repaired ∈ level.verdicts := by
  cases level <;> cases parseable <;> cases repaired <;>
    simp_all [grammarVerdict, Sensitivity.verdicts]

theorem grammarVerdict_eq_incorrect_iff (level : Sensitivity) (parseable repaired : Bool) :
    grammarVerdict level parseable repaired = .incorrect ↔
      level ≠ .absent ∧ (parseable = false ∨ (repaired = true ∧ level ≠ .three)) := by
  cases level <;> cases parseable <;> cases repaired <;> simp [grammarVerdict]

/-! ## 2. Coherence -/

/-- The verdicts on a statement go together: `parseable` and `repaired` say what became of its
text. -/
structure Coherent (levels : PerAxis Sensitivity) (parseable repaired : Bool) (v : Verdicts) :
    Prop where
  grammar : v.grammar = grammarVerdict levels.grammar parseable repaired
  meaning : v.meaning ∈ levels.meaning.verdicts
  results : v.results ∈ levels.results.verdicts
  unparseable : parseable = false →
    (levels.meaning ≠ .absent → v.meaning = .incorrect) ∧
      (levels.results ≠ .absent → v.results = .incorrect)
  right : v.results = .correct → v.meaning = .correct ∨ v.meaning = .minorIncorrect ∨
    (v.meaning = .incorrect ∧ levels.meaning = .two) ∨ levels.meaning = .absent
  meant : levels.results ≠ .absent → v.meaning = .correct ∨ v.meaning = .minorIncorrect →
    v.results = .correct

theorem Sensitivity.ne_absent_of_mem {level : Sensitivity} {v : Verdict} (h : v ∈ level.verdicts)
    (hv : v ≠ .invalid) : level ≠ .absent := by
  rintro rfl
  exact hv (by simpa [verdicts] using h)

/-- A meaning above wrong is that of a statement that parses. -/
theorem Coherent.parseable_of_meaning {levels : PerAxis Sensitivity} {parseable repaired : Bool}
    {v : Verdicts} (h : Coherent levels parseable repaired v) (hi : v.meaning ≠ .invalid)
    (hm : v.meaning ≠ .incorrect) : parseable = true := by
  cases parseable with
  | true => rfl
  | false => exact absurd ((h.unparseable rfl).1 (Sensitivity.ne_absent_of_mem h.meaning hi)) hm

/-- Of the verdicts that a run can end with, only those of a repaired statement with partial credit
are implausible, where a repair has no verdict of its own. -/
theorem Coherent.implausible_iff {s : Session} {parseable repaired : Bool} {v : Verdicts}
    (h : Coherent s.levels parseable repaired v) (hg : s.levels.grammar ≠ .six) :
    s.implausible v = true ↔
      s.levels.grammar = .two ∧ repaired = true ∧ v.meaning.isPartial = true := by
  have hgr := h.grammar
  rw [Session.implausible_iff]
  constructor
  · intro hrule
    -- one case for each rule; seven cannot apply, and the last one gives the exception
    rcases hrule with ⟨hr, hm⟩ | ⟨hr, hm, hl⟩ | ⟨hr, hm⟩ | ⟨hr, hm, -⟩ | ⟨hi, hm, hl⟩ |
      ⟨hi, hm, -, hl⟩ | ⟨hi, hm, hr, hl⟩ | ⟨hi, hm⟩
    · -- meant right, so the results are right
      have hne := Sensitivity.ne_absent_of_mem h.results (by simp [hr])
      have := h.meant hne hm.symm
      simp_all
    · -- right results are meant, or nearly meant if there is such a verdict
      rcases h.right hr with h' | h' | ⟨-, h'⟩ | h' <;> simp_all [Sensitivity.hasMinor]
    · rcases h.right hr with h' | h' | ⟨h', -⟩ | h'
      · simp [h', Verdict.isPartial] at hm
      · simp [h', Verdict.isPartial] at hm
      · simp [h', Verdict.isPartial] at hm
      · have := h.meaning
        rw [h'] at this
        obtain h₀ : v.meaning = .invalid := by simpa [Sensitivity.verdicts] using this
        simp [h₀, Verdict.isPartial] at hm
    · have hne := Sensitivity.ne_absent_of_mem h.results (by simp [hr])
      have := h.meant hne hm.symm
      simp_all
    · -- at three levels a wrong grammar does not parse
      have hp := h.parseable_of_meaning (by simp [hm]) (by simp [hm])
      rw [hi, eq_comm, grammarVerdict_eq_incorrect_iff] at hgr
      simp_all
    · have hp := h.parseable_of_meaning (by simp [hm]) (by simp [hm])
      rw [hi, eq_comm, grammarVerdict_eq_incorrect_iff] at hgr
      simp_all
    · rw [hi, eq_comm, grammarVerdict_eq_incorrect_iff] at hgr
      -- a text that does not parse has no right results
      have hp : parseable = false := by simp_all
      have hne := Sensitivity.ne_absent_of_mem h.results (by simp [hr])
      have := (h.unparseable hp).2 hne
      simp_all
    · -- partial credit is for what parses, so a wrong grammar is that of a repair
      obtain ⟨hinv, hinc, -, -⟩ := (Verdict.isPartial_iff _).mp hm
      have hp := h.parseable_of_meaning hinv hinc
      rw [hi, eq_comm, grammarVerdict_eq_incorrect_iff] at hgr
      cases hl : s.levels.grammar <;> simp_all
  · rintro ⟨hl, hrep, hm⟩
    have hi : v.grammar = .incorrect := by
      rw [hgr, grammarVerdict_eq_incorrect_iff]
      simp [hl, hrep]
    simp [hi, hm]

end QueryGrading
