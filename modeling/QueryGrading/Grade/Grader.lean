import QueryGrading.Grade.Scale
import QueryGrading.Grade.Submission
import QueryGrading.Text.Ascii

/-!
# Graders

A `Grader` is a session with its scale, an engine and the models. `Grader.ofModels?` asks the engine
for the models first: without them nothing can be graded, and `GradingFault` says why.

The grader is an `Analyzer` in a `Pipeline`; `ofModels?` is `new`, with `load_model` for each
statement in order (`loadModels`), and `GradingFault` is `PipelineError` together with the fault of
a session. `adopt` and `preprocess` are the functions of these names. A model whose statement the
database rejects is kept with what it produced. A panic while the models are loaded is left out: it
would end the process, where a `Fault` ends the run with a message.
-/

namespace QueryGrading

/-! ## 1. Models -/

/-- Why a model cannot be used: the parser rejects it, or there is no answer. -/
inductive ModelFault
  | rejected (reason : String)
  | stopped (fault : Fault)
  deriving DecidableEq, Repr

/-- The wording of a fault. -/
def ModelFault.message : ModelFault → String
  | .rejected reason => "syntax error: " ++ reason
  | .stopped fault => "parser helper failed: " ++ fault.text

/-- Parses and runs a model. An error of the database is no fault. -/
def Engine.model (engine : Engine) (text : String) : Except ModelFault Model :=
  match engine.parse text with
  | .error fault => .error (.stopped fault)
  | .ok (.error reason) => .error (.rejected reason)
  | .ok (.ok parsed) =>
    match engine.execute text parsed.tree with
    | .error fault => .error (.stopped fault)
    | .ok execution => .ok ⟨text, parsed.tree, parsed.fingerprint, execution.output⟩

/-! ## 2. The grader -/

/-- What every stage of a grading run works with. -/
structure Grader where
  session : Session
  scale : Scale
  engine : Engine
  models : List Model

/-- Why nothing can be graded: there is no model, the session has a fault, a model is rejected, or
the engine does not answer. -/
inductive GradingFault
  | noModels
  | badSession (fault : SessionFault)
  | badModel (index : Nat) (reason : String)
  | noEngine (fault : Fault)
  deriving DecidableEq, Repr

/-- The causes of a fault, the outermost first. -/
def GradingFault.causes : GradingFault → List String
  | .noModels => ["at least one model query is required"]
  | .badSession fault => ["Invalid grading session", fault.message]
  | .badModel index reason => [s!"model query {index} is not parseable: {reason}"]
  | .noEngine fault => ["backend unavailable: " ++ fault.text]

namespace Grader

/-- Asks the engine for each model in turn, the first of them counted as `index`. -/
def loadModels (engine : Engine) (index : Nat) : List String → Except GradingFault (List Model)
  | [] => .ok []
  | text :: rest =>
    match engine.model text with
    | .error (.rejected reason) => .error (.badModel index reason)
    | .error (.stopped fault) => .error (.noEngine fault)
    | .ok model =>
      match loadModels engine (index + 1) rest with
      | .ok models => .ok (model :: models)
      | .error fault => .error fault

/-- The grader with these models. -/
def ofModels? (session : Session) (engine : Engine) (models : List String) :
    Except GradingFault Grader :=
  if models.isEmpty then .error .noModels
  else
    match Scale.ofSession? session with
    | .error fault => .error (.badSession fault)
    | .ok scale =>
      match loadModels engine 0 models with
      | .error fault => .error fault
      | .ok models => .ok ⟨session, scale, engine, models⟩

/-! ## 3. A statement that parses -/

/-- Takes over what the parser says of the text and runs it. -/
def adopt (g : Grader) (parsed : Parsed) (s : Submission) : Except Fault Submission :=
  match g.engine.execute s.text parsed.tree with
  | .error fault => .error fault
  | .ok execution =>
    .ok { s with
      parseable := true
      tree := some parsed.tree
      fingerprint := parsed.fingerprint
      output := execution.output
      executionError := execution.error
      notes := s.notes ++ execution.note }

/-- Marks a text that does not parse. -/
def reject (s : Submission) : Submission :=
  { s with parseable := false }.judge .grammar .incorrect

/-- A text that is not given to the parser: blank, or the one word that starts a query. -/
def isHollow (text : String) : Bool :=
  let trimmed := Text.trim text
  trimmed = "" || Text.sameName trimmed "select"

/-- Parses and runs a statement as it was handed in. -/
def preprocess (g : Grader) (s : Submission) : Except Fault Submission :=
  if isHollow s.text then .ok (reject s)
  else
    match g.engine.parse? s.text with
    | .error fault => .error fault
    | .ok none => .ok (reject s)
    | .ok (some parsed) => g.adopt parsed s

end Grader

end QueryGrading
