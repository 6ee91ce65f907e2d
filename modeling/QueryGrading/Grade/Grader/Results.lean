import QueryGrading.Grade.Grader
import QueryGrading.Output.Comparison

/-!
# The verdict on results

The output of a statement is compared with that of the first model. An output that holds all that is
expected, and more, is nearly right. It is `results`; a statement that does not parse is wrong, and
so is any where there is no model, which a run does not have.
-/

namespace QueryGrading

namespace Grader

/-- The messages of a comparison, each with its hint. -/
def explainDifferences (r : OutputReport) : String :=
  Text.concat ((r.messages.zip r.hints).map fun (message, hint) => s!"{message}\n💡 {hint}\n")

/-- The verdict, the explanation and the note for a comparison; an equal output needs no
explanation. -/
def resultsVerdict (levels : PerAxis Sensitivity) (r : OutputReport) :
    Verdict × Option String × String :=
  if r.equal then (.correct, none, " RESULTS: Correct! Well done. ")
  else if r.subset && 0 < r.difference then
    (if levels.results = .three then .minorIncorrect else .incorrect,
      some "Correct results are contained within the query results.\n",
      " RESULTS: Not correct! Though, the correct results are contained within the query " ++
        "results, they were not correctly filtered. ")
  else
    (.incorrect, some (explainDifferences r), " RESULTS: The output of the query is not correct. ")

/-- Judges the results of a statement. -/
def judgeResults (g : Grader) (s : Submission) : Submission :=
  if g.session.levels.results = .absent then s.judge .results .invalid
  else if !s.parseable then s.judge .results .incorrect
  else
    match g.models with
    | [] => s.judge .results .incorrect
    | model :: _ =>
      let (verdict, explanation, note) :=
        resultsVerdict g.session.levels (Output.compare g.session.ordered model.output s.output)
      let s := (s.judge .results verdict).note note
      match explanation with
      | some text => s.explain .results text
      | none => s

end Grader

end QueryGrading
