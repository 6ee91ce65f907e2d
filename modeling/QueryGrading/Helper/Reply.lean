import QueryGrading.Grade.Engine
import QueryGrading.Tree.OfJson

/-!
# Replies of helper programs

A helper program writes a JSON document: the parser helper a tree or an error, the database helper
rows, changes or an error. A reply is read here and turned into the answer of an engine.

`ParserReply` and `ExecutionReply` have the fields of the types of that name, none of which is
required. An empty error counts as none. An error of a query is a failure (`execute_select`), one of
any other statement is an answer with the changes made so far, and with one change for the error
itself if `from_execution_error` knows it and the reply does not hold it already
(`execute_non_select`).
-/

namespace QueryGrading

/-- A text that is not empty. -/
def nonEmpty (text : Option String) : Option String := text.filter (· ≠ "")

/-! ## 1. The parser -/

/-- What a parser helper writes. -/
structure ParserReply where
  tree : Option Json
  fingerprint : Option String
  error : Option String
  deriving Repr

namespace ParserReply

/-- A reply of the parser as a record. -/
def record : Record ParserReply where
  name := "ParserReply"
  fields := [
    ⟨"parse_tree", false,
      fun r s => do return { r with tree := ← Reader.optional (Reader.any (maxDepth - 1)) s }⟩,
    ⟨"fingerprint", false,
      fun r s => do return { r with fingerprint := ← Reader.optional Reader.text s }⟩,
    ⟨"error", false, fun r s => do return { r with error := ← Reader.optional Reader.text s }⟩]
  start := ⟨none, none, none⟩

/-- The answer of the parser: an error comes first, and without a tree there is no statement. -/
def answer (r : ParserReply) : Except String Parsed :=
  match nonEmpty r.error, r.tree with
  | some error, _ => .error error
  | none, some tree => .ok ⟨.ofJson tree, r.fingerprint.getD ""⟩
  | none, none => .error "parser returned no parse tree"

end ParserReply

/-! ## 2. The database -/

/-- What a database helper writes. -/
structure ExecutionReply where
  rows : List (List Json)
  changes : List Change
  error : Option String
  deriving Repr

namespace ExecutionReply

/-- A reply of the database as a record. -/
def record : Record ExecutionReply where
  name := "ExecutionReply"
  fields := [
    ⟨"rows", false,
      fun r s => do
        return { r with rows := ← Reader.list (Reader.list (Reader.any (maxDepth - 3))) s }⟩,
    ⟨"changes", false,
      fun r s => do return { r with changes := ← Reader.list (Change.record.read .text) s }⟩,
    ⟨"error", false, fun r s => do return { r with error := ← Reader.optional Reader.text s }⟩]
  start := ⟨[], [], none⟩

/-- The text of a cell: that of a string as it stands, `NULL`, or JSON. -/
def cellText : Json → String
  | .null => "NULL"
  | .string s => s
  | value => value.compact

/-- The rows of a query, or the error that it ended with. -/
def queryAnswer (r : ExecutionReply) : Except String (List Row) :=
  match nonEmpty r.error with
  | some error => .error ("query failed: " ++ error)
  | none => .ok (r.rows.map fun row => row.map cellText)

/-- The effect of another statement. The change that its error stands for is added once. -/
def effect (r : ExecutionReply) : Effect :=
  let error := nonEmpty r.error
  match error.bind Change.ofError? with
  | some change =>
    ⟨if r.changes.contains change then r.changes else r.changes ++ [change], error⟩
  | none => ⟨r.changes, error⟩

end ExecutionReply

end QueryGrading
