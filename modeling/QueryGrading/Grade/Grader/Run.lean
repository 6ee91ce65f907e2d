import QueryGrading.Grade.Grader.Grammar
import QueryGrading.Grade.Grader.Meaning
import QueryGrading.Grade.Grader.Results

/-!
# Grading runs

A run takes all submissions through the five stages, one stage after another. In each stage every
submission is judged against the peers as they were before it; one whose stage is stopped stays as
it was, with a note. `gradeAssignment` runs an assignment and writes down the records.

`runStage` is `run` of the analyzer and `finalize` its last stage, `step` and `stepAll` are
`run_stage`, `run` is `run` of the pipeline, and `gradeAssignment` is `grade_assignment`. Here the
tasks of a stage run one after another; that they may run in any order, and a few at a time, is the
subject of `Pool`. The identifier of a run and its log are left out.
-/

namespace QueryGrading

/-! ## 1. Stages -/

/-- The stages of a run, in order. -/
inductive Stage
  | preprocess
  | grammar
  | results
  | meaning
  | finalize
  deriving DecidableEq, Repr

namespace Stage

/-- Every stage, in order. -/
def all : List Stage := [.preprocess, .grammar, .results, .meaning, .finalize]

/-- The stage in notes. -/
def text : Stage → String
  | preprocess => "preprocess"
  | grammar => "syntax"
  | results => "results"
  | meaning => "semantics"
  | finalize => "finalize"

end Stage

namespace Grader

/-- Gives the level, the grade and the feedback. Verdicts that have no level are graded as the
lowest, with a note. -/
def finalize (g : Grader) (s : Submission) : Submission :=
  let s := if g.session.levels.results = .absent then s.judge .results .invalid else s
  let (level, s) :=
    match g.scale.level? s.verdicts with
    | some level => (level, s)
    | none =>
      let problem := s.verdicts.unplaced
      (1, s.note s!" Grading consistency error: {problem}. ")
  let value := g.scale.value level
  let s := { s with level := level, value := value, grade := value }
  { s with feedback := s.tell }

/-- The submission as a stage leaves it, and the fault that stopped the stage, if there was one. -/
def runStage (g : Grader) (stage : Stage) (peers : List Peer) (s : Submission) :
    Submission × Option Fault :=
  match stage with
  | .preprocess =>
    match g.preprocess s with
    | .ok s => (s, none)
    | .error fault => (s, some fault)
  | .grammar => g.judgeGrammar peers s
  | .results => (g.judgeResults s, none)
  | .meaning => (g.judgeMeaning peers s, none)
  | .finalize => (g.finalize s, none)

/-! ## 2. A batch -/

/-- The submission after a stage; after one that was stopped, as it was before, with a note. -/
def step (g : Grader) (stage : Stage) (peers : List Peer) (s : Submission) : Submission :=
  match g.runStage stage peers s with
  | (done, none) => done
  | (_, some fault) => s.note (fault.note stage.text)

/-- All submissions after a stage. -/
def stepAll (g : Grader) (batch : List Submission) (stage : Stage) : List Submission :=
  batch.map (g.step stage (batch.map (·.toPeer)))

/-- What was handed in, as some stages leave it. -/
def after (g : Grader) (stages : List Stage) (handIns : List HandIn) : List Submission :=
  stages.foldl g.stepAll (handIns.map .ofHandIn)

/-- Grades what was handed in; the submissions stay in order. -/
def run (g : Grader) (handIns : List HandIn) : List Submission :=
  Stage.all.foldl g.stepAll (handIns.map .ofHandIn)

end Grader

/-! ## 3. An assignment -/

/-- Grades an assignment. -/
def gradeAssignment (engine : Engine) (a : Assignment) : Except GradingFault (List GradeRecord) :=
  match Grader.ofModels? a.session engine a.models with
  | .error fault => .error fault
  | .ok g => .ok ((g.run a.handIns).map (·.toRecord a.session.ranking))

end QueryGrading
