import QueryGrading.Decimal.Fixed
import QueryGrading.Grade.Engine
import QueryGrading.Grade.Session
import QueryGrading.Text.Blank

/-!
# Submissions

An `Assignment` holds a session, the models and what was handed in. A `Submission` is the state of
one statement while it is graded, and a `GradeRecord` what is written down at the end.

The types are `SubmissionInput` (as `HandIn`), `Assignment`, `ModelQuery`, `Submission`,
`OutputRecord` and `SummaryRow`. `note` is `add_feedback`, which appends to the running notes, and
`tell` is `construct_message`, the feedback that a student reads; `toRecord` is `output_record`,
which trims the notes and names the text as it was handed in besides a repaired one.
-/

namespace QueryGrading

/-! ## 1. What is handed in -/

/-- A statement as a student hands it in. -/
structure HandIn where
  id : String
  attempt : Nat
  question : String
  query : String
  deriving DecidableEq, Repr

/-- A statement that was handed in, as a record. -/
def HandIn.record : Record HandIn where
  name := "SubmissionInput"
  fields := [
    ⟨"id", true, fun h s => do return { h with id := ← Reader.text s }⟩,
    ⟨"attempt", false, fun h s => do return { h with attempt := ← Reader.ordinal s }⟩,
    ⟨"question", false, fun h s => do return { h with question := ← Reader.text s }⟩,
    ⟨"query", true, fun h s => do return { h with query := ← Reader.text s }⟩]
  start := ⟨"", 1, "", ""⟩

/-- All that is needed to grade one question. The first model defines the expected output. -/
structure Assignment where
  session : Session
  models : List String
  handIns : List HandIn
  deriving DecidableEq, Repr

/-- An assignment as a record. -/
def Assignment.record (origin : Origin) : Record Assignment where
  name := "Assignment"
  fields := [
    ⟨"session", false, fun a s => do return { a with session := ← Session.read origin s }⟩,
    ⟨"models", true, fun a s => do return { a with models := ← Reader.list Reader.text s }⟩,
    ⟨"submissions", true,
      fun a s => do return { a with handIns := ← Reader.list (HandIn.record.read origin) s }⟩]
  start := ⟨.standard, [], []⟩

/-- Reads an assignment. -/
def Assignment.read (origin : Origin) : Reader Assignment := (Assignment.record origin).read origin

/-- A reference statement with its tree and its output. -/
structure Model where
  text : String
  tree : Tree
  fingerprint : String
  output : Output
  deriving Repr

/-! ## 2. The state of a submission -/

/-- The state of a statement while it is graded: its text, and the text as handed in if a repair
has replaced it; whether it parses, its tree, and what running it gave; the verdicts and their
explanations; the distances to the nearest right statement; notes of all stages; and the grade
with the feedback to the student. -/
structure Submission where
  id : String
  attempt : Nat
  question : String
  text : String
  originalText : Option String
  parseable : Bool
  tree : Option Tree
  fingerprint : String
  output : Output
  executionError : Option String
  verdicts : Verdicts
  textDistance : Option Nat
  treeDistance : Option Nat
  explanations : PerAxis String
  notes : String
  level : Nat
  value : Rat
  grade : Rat
  feedback : String
  deriving Repr

namespace Submission

/-- A statement that no stage has seen. -/
def ofHandIn (h : HandIn) : Submission where
  id := h.id
  attempt := h.attempt
  question := h.question
  text := h.query
  originalText := none
  parseable := false
  tree := none
  fingerprint := ""
  output := .nothing
  executionError := none
  verdicts := .unjudged
  textDistance := none
  treeDistance := none
  explanations := ⟨"", "", ""⟩
  notes := ""
  level := 0
  value := 0
  grade := 0
  feedback := ""

/-- Adds to the notes. -/
def note (s : Submission) (text : String) : Submission := { s with notes := s.notes ++ text }

/-- Sets the verdict on an axis. -/
def judge (s : Submission) (axis : Axis) (verdict : Verdict) : Submission :=
  { s with verdicts := s.verdicts.set axis verdict }

/-- Sets the explanation of the verdict on an axis. -/
def explain (s : Submission) (axis : Axis) (text : String) : Submission :=
  { s with explanations := s.explanations.set axis text }

/-- The results are right. -/
def isRight (s : Submission) : Bool := s.verdicts.results = .correct

/-- The text as it was handed in. -/
def handedIn (s : Submission) : String := s.originalText.getD s.text

/-- The explanations that follow the one on meaning. -/
def furtherInformation (grammar results : String) : String :=
  if grammar = "" && results = "" then ""
  else
    let onGrammar := if grammar = "" then "" else s!"● Syntax Analysis: {grammar}\n"
    let onResults := if results = "" then "" else s!"● Results Analysis: {results}"
    "5️⃣ Additional Information:\n" ++ onGrammar ++ onResults

/-- What the student is told: that all is right, or else the explanations. -/
def tell (s : Submission) : String :=
  if s.grade = 1 then "🟢 Correct."
  else
    s.explanations.meaning ++ furtherInformation s.explanations.grammar s.explanations.results

end Submission

/-! ## 3. Records -/

/-- What is written down about a graded statement. -/
structure GradeRecord where
  id : String
  attempt : Nat
  question : String
  query : String
  correctedQuery : Option String
  verdicts : Verdicts
  level : Nat
  value : Rat
  grade : Rat
  outOf : Rat
  fingerprint : String
  textDistance : Option Nat
  treeDistance : Option Nat
  executionError : Option String
  feedback : String
  notes : String
  comment : String
  deriving Repr

/-- The record of a submission, graded by a session with this ranking. -/
def Submission.toRecord (s : Submission) (ranking : Ranking) : GradeRecord where
  id := s.id
  attempt := s.attempt
  question := s.question
  query := s.handedIn
  correctedQuery := s.originalText.map fun _ => s.text
  verdicts := s.verdicts
  level := s.level
  value := s.value
  grade := s.grade
  outOf := 1
  fingerprint := s.fingerprint
  textDistance := s.textDistance
  treeDistance := s.treeDistance
  executionError := s.executionError
  feedback := s.feedback
  notes := Text.trim s.notes
  comment := ranking.comment

namespace GradeRecord

/-- A mark as a number. -/
def mark (q : Rat) : Json := .number (.real (.ofRat q))

/-- A field that is left out when it has no value. -/
def field? {α : Type} (name : String) (f : α → Json) : Option α → List (String × Json)
  | some x => [(name, f x)]
  | none => []

/-- A record as an object, its members in the order of the fields. -/
def toJson (r : GradeRecord) : Json :=
  .object <|
    [("id", .string r.id), ("attempt", .ofNat r.attempt), ("question", .string r.question),
      ("query", .string r.query)]
    ++ field? "corrected_query" Json.string r.correctedQuery
    ++ [("syntax", .string r.verdicts.grammar.text), ("semantics", .string r.verdicts.meaning.text),
      ("results", .string r.verdicts.results.text), ("correctness_level", .ofNat r.level),
      ("normalized_value", mark r.value), ("grade", mark r.grade), ("out_of", mark r.outOf),
      ("fingerprint", .string r.fingerprint)]
    ++ field? "text_edit_distance" Json.ofNat r.textDistance
    ++ field? "tree_edit_distance" Json.ofNat r.treeDistance
    ++ field? "execution_error" Json.string r.executionError
    ++ [("feedback", .string r.feedback), ("notes", .string r.notes),
      ("grader_comment", .string r.comment)]

/-- The grade out of the greatest grade. -/
def gradeText (r : GradeRecord) : String :=
  Decimal.fixed 2 r.grade ++ "/" ++ Decimal.fixed 2 r.outOf

/-- The cells of the record in an overview: id, question, verdicts, level, grade. -/
def cells (r : GradeRecord) : List String :=
  [r.id, r.question, r.verdicts.grammar.text, r.verdicts.meaning.text, r.verdicts.results.text,
    Nat.repr r.level, r.gradeText]

end GradeRecord

end QueryGrading
