/-!
# Verdicts

A statement is judged on three axes: does it parse, does it mean the right thing, does it produce
the right results. Each axis has a `Sensitivity`, the verdicts it can take, and the axes have a
`Ranking`, the order in which they count.

A verdict is a `PropertyState`, a sensitivity a `PropertyLevel` with `possible_states` and
`has_minor`, and a ranking a `PropertyOrder` with `axes` and `grader_comment`. What is called syntax
and semantics there is grammar and meaning here. A `PerAxis` holds one value for each axis: levels,
verdicts, explanations.
-/

namespace QueryGrading

/-! ## 1. One axis -/

/-- The verdict on one axis, from worst to best; `invalid` on an axis that is not judged. The five
bands of partial credit lie between wrong and nearly right. -/
inductive Verdict
  | invalid
  | incorrect
  | sm1
  | sm2
  | sm3
  | sm4
  | sm5
  | minorIncorrect
  | correct
  deriving DecidableEq, Repr

namespace Verdict

/-- Every verdict, from worst to best. -/
def all : List Verdict :=
  [.invalid, .incorrect, .sm1, .sm2, .sm3, .sm4, .sm5, .minorIncorrect, .correct]

/-- The verdict as data. -/
def code : Verdict → String
  | invalid => "INVALID"
  | incorrect => "INCORRECT"
  | sm1 => "SM_1"
  | sm2 => "SM_2"
  | sm3 => "SM_3"
  | sm4 => "SM_4"
  | sm5 => "SM_5"
  | minorIncorrect => "MINOR_INCORRECT"
  | correct => "CORRECT"

/-- The verdict in reports. -/
def text : Verdict → String
  | invalid => "invalid"
  | incorrect => "Incorrect"
  | sm1 => "SM_1"
  | sm2 => "SM_2"
  | sm3 => "SM_3"
  | sm4 => "SM_4"
  | sm5 => "SM_5"
  | minorIncorrect => "Minor incorrect"
  | correct => "correct"

/-- The bands of partial credit. -/
def isPartial : Verdict → Bool
  | sm1 | sm2 | sm3 | sm4 | sm5 => true
  | _ => false

end Verdict

/-- How many verdicts an axis distinguishes. -/
inductive Sensitivity
  | absent
  | two
  | three
  | six
  deriving DecidableEq, Repr

namespace Sensitivity

/-- Every sensitivity, from coarse to fine. -/
def all : List Sensitivity := [.absent, .two, .three, .six]

/-- The sensitivity as data. -/
def code : Sensitivity → String
  | absent => "ABSENT"
  | two => "TWO_LEVELS"
  | three => "THREE_LEVELS"
  | six => "SIX_LEVELS"

/-- The verdicts of an axis, from worst to best. -/
def verdicts : Sensitivity → List Verdict
  | absent => [.invalid]
  | two => [.incorrect, .correct]
  | three => [.incorrect, .minorIncorrect, .correct]
  | six => [.incorrect, .sm1, .sm2, .sm3, .sm4, .sm5, .minorIncorrect, .correct]

/-- A nearly right statement has a verdict of its own. -/
def hasMinor : Sensitivity → Bool
  | three | six => true
  | absent | two => false

end Sensitivity

/-! ## 2. Three axes -/

/-- What is judged: the grammar, the meaning, the results. -/
inductive Axis
  | grammar
  | meaning
  | results
  deriving DecidableEq, Repr

/-- The axis in messages. -/
def Axis.text : Axis → String
  | .grammar => "syntax"
  | .meaning => "semantics"
  | .results => "results"

/-- A value for each axis. -/
structure PerAxis (α : Type) where
  grammar : α
  meaning : α
  results : α
  deriving DecidableEq, Repr

namespace PerAxis

variable {α : Type}

/-- The value of an axis. -/
def get (v : PerAxis α) : Axis → α
  | .grammar => v.grammar
  | .meaning => v.meaning
  | .results => v.results

/-- Another value for an axis. -/
def set (v : PerAxis α) (axis : Axis) (x : α) : PerAxis α :=
  match axis with
  | .grammar => { v with grammar := x }
  | .meaning => { v with meaning := x }
  | .results => { v with results := x }

end PerAxis

/-- The verdicts on the three axes. -/
abbrev Verdicts := PerAxis Verdict

/-- Nothing judged. -/
def Verdicts.unjudged : Verdicts := ⟨.invalid, .invalid, .invalid⟩

/-! ## 3. The ranking of the axes -/

/-- The order in which the axes count, the most important one first. -/
inductive Ranking
  | grammarMeaningResults
  | grammarResultsMeaning
  | meaningGrammarResults
  | meaningResultsGrammar
  | resultsGrammarMeaning
  | resultsMeaningGrammar
  deriving DecidableEq, Repr

namespace Ranking

/-- Every ranking. -/
def all : List Ranking :=
  [.grammarMeaningResults, .grammarResultsMeaning, .meaningGrammarResults,
    .meaningResultsGrammar, .resultsGrammarMeaning, .resultsMeaningGrammar]

/-- The ranking as data. -/
def code : Ranking → String
  | grammarMeaningResults => "SY_SM_RE"
  | grammarResultsMeaning => "SY_RE_SM"
  | meaningGrammarResults => "SM_SY_RE"
  | meaningResultsGrammar => "SM_RE_SY"
  | resultsGrammarMeaning => "RE_SY_SM"
  | resultsMeaningGrammar => "RE_SM_SY"

/-- The three axes in order. -/
def axes : Ranking → Axis × Axis × Axis
  | grammarMeaningResults => (.grammar, .meaning, .results)
  | grammarResultsMeaning => (.grammar, .results, .meaning)
  | meaningGrammarResults => (.meaning, .grammar, .results)
  | meaningResultsGrammar => (.meaning, .results, .grammar)
  | resultsGrammarMeaning => (.results, .grammar, .meaning)
  | resultsMeaningGrammar => (.results, .meaning, .grammar)

/-- What the ranking says to a grader. -/
def comment : Ranking → String
  | grammarMeaningResults =>
    "Grading emphasis is introductory: correct syntax matters most, then meaning, then output."
  | meaningGrammarResults =>
    "Grading emphasis is intermediate: the meaning of the query matters most, " ++
      "then syntax, then output."
  | resultsMeaningGrammar =>
    "Grading emphasis is advanced: the produced output matters most, then meaning, then syntax."
  | _ => "Syntax, semantics and results are weighed in the configured order of importance."

end Ranking

end QueryGrading
