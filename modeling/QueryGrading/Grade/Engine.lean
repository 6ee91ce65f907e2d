import QueryGrading.Output.Change
import QueryGrading.Tree.Statements

/-!
# Engines

An `Engine` is what a grading run needs and does not do itself: a parser and a database, as
functions of the text of a statement. Either may reject a statement, which is an answer, or give no
answer at all, which is a `Fault`: a failed one has a chain of causes, a crashed one the report that
the runtime makes of it, whatever that says.

The two are the traits `SqlParser` and `ExecutionBackend`, `Engine.parse?` is `try_parse`, and
`execute` is `execute` of the analyzer. A database that fails leaves an empty output and a note, and
does not stop the task; one that crashes stops it, as a parser does that gives no answer.
-/

namespace QueryGrading

/-! ## 1. Answers -/

/-- A statement that parses: its tree and a fingerprint of its structure. -/
structure Parsed where
  tree : Tree
  fingerprint : String
  deriving Repr

/-- The effect of a statement that is not a query: the changes that it made, and the error with
which it ended. -/
structure Effect where
  changes : List Change
  error : Option String
  deriving DecidableEq, Repr

/-- Why there is no answer: a chain of causes, the outermost first, or a crash of the task that
asked. How a crash is reported is not for the grader to say: the report is written by what runs the
tasks, and names the task by a number that the runs of one process share out among them. So the
report is part of the fault, whatever it says. -/
inductive Fault
  | failed (causes : List String)
  | crashed (report : String)
  deriving DecidableEq, Repr

namespace Fault

/-- A chain of causes in one line. -/
def chain (causes : List String) : String := Text.join ": " causes

/-- A fault in a wider context; a crash has none. -/
def within (context : String) : Fault → Fault
  | failed causes => failed (context :: causes)
  | crashed report => crashed report

/-- What a stage notes about the fault that stopped it. -/
def note (stage : String) : Fault → String
  | failed causes =>
    let chain := Fault.chain causes
    s!" {stage} analysis failed: {chain}. "
  | crashed report => s!" {stage} analysis crashed: {report}. "

/-- The fault in one line. -/
def text : Fault → String
  | failed causes => chain causes
  | crashed report => report

end Fault

/-! ## 2. The engine -/

/-- A parser and a database. The parser rejects a text with a reason; a query gives rows, any other
statement has an effect. -/
structure Engine where
  parse : String → Except Fault (Except String Parsed)
  query : String → Except Fault (List Row)
  change : String → Except Fault Effect

/-- What running a statement gave: its output, an error of the database, and a note. -/
structure Execution where
  output : Output
  error : Option String
  note : String
  deriving DecidableEq, Repr

namespace Engine

/-- The kind of a query. -/
def queryKind : String := "SelectStmt"

/-- The statement if the parser accepts it. -/
def parse? (engine : Engine) (text : String) : Except Fault (Option Parsed) :=
  match engine.parse text with
  | .ok (.ok parsed) => .ok (some parsed)
  | .ok (.error _) => .ok none
  | .error fault => .error (fault.within "SQL parser unavailable")

/-- A statement that the database did not answer for. -/
def unanswered (empty : Output) (causes : List String) : Execution :=
  ⟨empty, some (Fault.chain causes), "DBMS crashed."⟩

/-- Runs a statement with this tree. A database that fails leaves an empty output and a note; only
a crash is passed on. -/
def execute (engine : Engine) (text : String) (tree : Tree) : Except Fault Execution :=
  if tree.statementKind = queryKind then
    match engine.query text with
    | .ok rows => .ok ⟨.rows rows, none, ""⟩
    | .error (.failed causes) => .ok (unanswered (.rows []) causes)
    | .error (.crashed report) => .error (.crashed report)
  else
    match engine.change text with
    | .ok ⟨changes, none⟩ => .ok ⟨.changes changes, none, ""⟩
    | .ok ⟨changes, some error⟩ => .ok ⟨.changes changes, some error, " Query error: " ++ error⟩
    | .error (.failed causes) => .ok (unanswered (.changes []) causes)
    | .error (.crashed report) => .error (.crashed report)

end Engine

end QueryGrading
