import QueryGrading.Query.AlterTable
import QueryGrading.Query.Insert
import QueryGrading.Query.Update
import QueryGrading.Query.View
import QueryGrading.Tree.Statements

/-!
# Statements

A `Statement` is a statement of one of the eight kinds that can be graded. `compareTrees` reports on
two statements of a parse tree, and `compareAll` on all statements of two parse trees.

`Statement` is `ClauseInfo`, with `from_tag`, `extract`, `compare` and `describe`; `compareTrees` is
`compare_statements`, `compareFirst` is `compare_single_statement`, and `compareAll` is
`compare_queries`. There each statement of the reference takes the first one of its tag that no
other has taken (`matching` in `Proofs.Query.Matching`), what finds none is missing, and what is not
taken is extra. The goals are `general_goal` and `describe_goal`.
-/

namespace QueryGrading

open Text (concat)

/-! ## 1. Kinds -/

/-- The kinds of statements. -/
inductive StatementKind
  | select | create | insert | update | delete | assertion | alter | view
  deriving DecidableEq, Repr

namespace StatementKind

/-- The kind that a node of a parse tree names. -/
def ofKey? : String → Option StatementKind
  | "SelectStmt" => some select
  | "CreateStmt" => some create
  | "InsertStmt" => some insert
  | "UpdateStmt" => some update
  | "DeleteStmt" => some delete
  | "CreateAssertionStmt" => some assertion
  | "AlterTableStmt" => some alter
  | "ViewStmt" => some view
  | "CreateViewStmt" => some view
  | _ => none

/-- The kind as messages show it. -/
def text : StatementKind → String
  | select => "SELECT"
  | create => "CREATE"
  | insert => "INSERT"
  | update => "UPDATE"
  | delete => "DELETE"
  | assertion => "ASSERTION"
  | alter => "ALTER"
  | view => "CREATE VIEW"

end StatementKind

/-- A statement. -/
inductive Statement
  | select (q : Select)
  | create (s : CreateTable)
  | insert (s : Insert)
  | update (s : Update)
  | delete (s : Delete)
  | assertion (s : Assertion)
  | alter (s : AlterTable)
  | view (s : View)
  deriving Repr

namespace Statement

/-- The statement of a node of this kind. -/
def ofKind (t : Tree) : StatementKind → Statement
  | .select => .select (.ofTree t)
  | .create => .create (.ofTree t)
  | .insert => .insert (.ofTree t)
  | .update => .update (.ofTree t)
  | .delete => .delete (.ofTree t)
  | .assertion => .assertion (.ofTree t)
  | .alter => .alter (.ofTree t)
  | .view => .view (.ofTree t)

/-- The statement of a node, if it is of a kind that can be graded. -/
def ofTree? (t : Tree) : Option Statement := (StatementKind.ofKey? t.key).map (ofKind t)

/-- The kind of a statement. -/
def kind : Statement → StatementKind
  | select _ => .select
  | create _ => .create
  | insert _ => .insert
  | update _ => .update
  | delete _ => .delete
  | assertion _ => .assertion
  | alter _ => .alter
  | view _ => .view

/-- The report of the comparison of two statements of one kind. -/
def compare? : Statement → Statement → Option Report
  | select r, select s => some (r.compare s)
  | create r, create s => some (r.compare s)
  | insert r, insert s => some (r.compare s)
  | update r, update s => some (r.compare s)
  | delete r, delete s => some (r.compare s)
  | assertion r, assertion s => some (r.compare s)
  | alter r, alter s => some (r.compare s)
  | view r, view s => some (r.compare s)
  | _, _ => none

/-- The statement in words. -/
def describe : Statement → List String
  | select q => q.describe
  | create s => [s.describe]
  | insert s => [s.describe]
  | update s => [s.describe]
  | delete s => [s.describe]
  | assertion s => [s.describe]
  | alter s => [s.describe]
  | view s => [s.describe]

/-! ## 2. Goals -/

/-- The first line of a goal. -/
def goalHeading : String := "The query is supposed to:"

/-- What is said of a statement of another kind. -/
def unsupported : String := "\n ● This query type is not supported yet."

/-- Sentences as items of a list. -/
def bullets (sentences : List String) : String := concat (sentences.map ("\n ● " ++ ·))

/-- The goal of a statement in short: a query by its summary. -/
def shortGoal (t : Tree) : String :=
  goalHeading ++
  match ofTree? t with
  | some (select q) => q.summary
  | some s => bullets s.describe
  | none => unsupported

/-- The goal of a statement in full. -/
def fullGoal (t : Tree) : String :=
  goalHeading ++
  match ofTree? t with
  | some s => bullets s.describe
  | none => unsupported

/-- The goals of the statements of a parse tree. -/
def goals (t : Tree) : List String :=
  if t.statements.isEmpty then ["No valid statement found in the given query."]
  else t.allStatements.map fullGoal

/-! ## 3. Comparison -/

/-- The text of a report on a statement that is no query. -/
def reportText (kind : StatementKind) (r : Report) : String :=
  "2️⃣ Correct Components:\n" ++
  (if r.correct.isEmpty then "● None.\n" else concat (r.correct.map fun p => "✅ " ++ p ++ "\n")) ++
  "\n" ++
  (if r.incorrect.isEmpty then ""
  else
    "3️⃣ Issues found in the following components:\n" ++
    concat (r.incorrect.map fun p => "❌ " ++ p ++ "\n") ++
    (if r.message = "" then "" else "\n❗ Problem Details:\n" ++ r.message ++ "\n")) ++
  (if r.hints.isEmpty then "Excellent! Your " ++ kind.text ++ " statement matches the reference.\n"
  else "4️⃣ Next steps:\n" ++ concat (r.hints.map (· ++ "\n")))

/-- The report on a statement with its whole text. -/
def withText (kind : StatementKind) (r : Report) : Report :=
  if kind = .select then r else { r with message := reportText kind r }

/-- The report on two statements; they have to be nodes of the same key. -/
def compareTrees (r s : Tree) : Report :=
  if r.key ≠ s.key then
    Report.empty.fail "Statement Type"
      s!"The correct statement is a {r.key} but your statement is a {s.key}.\n"
  else
    match ofTree? r, ofTree? s with
    | some a, some b =>
      match a.compare? b with
      | some report => withText a.kind report
      | none => .refuse s!"Unsupported statement type: {r.key}\n"
    | _, _ => .refuse s!"Unsupported statement type: {r.key}\n"

/-- The report on the first statements of two parse trees. -/
def compareFirst (r s : Tree) : Report :=
  match r.statement?, s.statement? with
  | some a, some b => compareTrees a b
  | _, _ => .refuse "One or both statements are empty."

/-- The report on a pair of statements with the goal in front. -/
def compareGoal (r s : Tree) : Report :=
  let report := compareTrees r s
  { report with message := "1️⃣ Goal:\n" ++ shortGoal r ++ "\n\n" ++ report.message }

/-- The report on a statement that the submission lacks. -/
def missing (key : String) : Report :=
  Report.empty.fail (key ++ " statement") s!"Missing {key} statement.\n"

/-- The report on a statement that the reference lacks. -/
def extra (key : String) : Report :=
  Report.empty.fail ("Extra " ++ key) s!"Extra {key} statement.\n"

/-- The reports on the statements of a reference in order: each takes the first statement left
with its key. Those that are left at the end are extra. -/
def compareEach : List Tree → List Tree → List Report
  | [], found => found.map fun s => extra s.key
  | r :: rest, found =>
    match CreateTable.takeFirst (fun s => s.key == r.key) found with
    | some (s, others) => compareGoal r s :: compareEach rest others
    | none => missing r.key :: compareEach rest found

/-- The report on all statements of two parse trees. -/
def compareAll (r s : Tree) : Report :=
  (compareEach r.allStatements s.allStatements).foldl Report.append .empty

end Statement

end QueryGrading
