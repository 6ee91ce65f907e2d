import QueryGrading.Query.CreateTable
import QueryGrading.Query.Select
import QueryGrading.Text.Ascii

/-!
# CREATE VIEW and CREATE ASSERTION statements

A view is compared by its name, the order of its columns and its query; an assertion by its name and
its condition. The query of a view is compared by `Select.compare`, and its whole text stands in the
message of the view if it does not match. Whether a view replaces another and what it checks is not
read.
-/

namespace QueryGrading

open Text (commas join)

/-! ## 1. Views -/

/-- A `CREATE VIEW` statement; there are no columns if none are named, and no query if it is no
plain `SELECT`. -/
structure View where
  name : String
  columns : List String
  query : Option Select
  deriving Repr

namespace View

/-- The statement of a `ViewStmt` node. -/
def ofTree (t : Tree) : View where
  name := t.lowerNameAt ["view", "relname"]
  columns := t.lowerStringsOf "aliases"
  query := (t.path? ["query", "SelectStmt"]).map Select.ofTree

/-- The statement in words. -/
def describe (v : View) : String :=
  if v.name = "" then "No CREATE VIEW statement found."
  else
    "Create a view named '" ++ v.name ++ "'. " ++
    (if v.columns.isEmpty then "" else "Columns: (" ++ commas v.columns ++ "). ") ++
    match v.query with
    | some q => "Definition: " ++ join " " q.describe
    | none => "No view definition found."

/-- Compares the columns, in their order. -/
def compareColumns (r s : View) (report : Report) : Report :=
  if r.columns = s.columns then
    if r.columns.isEmpty then report else report.pass "View columns"
  else
    report.failWith "View columns"
      ("● The view columns should be (" ++ commas r.columns ++ "), but found (" ++
        commas s.columns ++ ").\n")
      ("💡 Name the view columns (" ++ commas r.columns ++ ") in that order.")

/-- Compares the queries. -/
def compareQuery (r s : View) (report : Report) : Report :=
  match r.query, s.query with
  | some expected, some found =>
    let nested := expected.compare found
    if nested.equal then report.pass "View SELECT clause"
    else
      (report.fail "View SELECT clause"
        ("● The SELECT clause in the view definition does not match.\n" ++ nested.message)).advise
        nested.hints
  | none, none => report
  | _, _ =>
    report.failWith "View SELECT clause"
      "● The view should be defined by a single SELECT statement.\n"
      "💡 Define the view with AS SELECT ..."

/-- The report on a `CREATE VIEW` statement. -/
def compare (r s : View) : Report :=
  let report :=
    if r.name = s.name then Report.empty.pass "View name"
    else
      Report.empty.failWith "View name"
        s!"● The view name should be '{r.name}', but found '{s.name}'.\n"
        s!"💡 Change the view name to '{r.name}'."
  compareQuery r s (compareColumns r s report)

end View

/-! ## 2. Assertions -/

/-- A `CREATE ASSERTION` statement. -/
structure Assertion where
  name : String
  check : Option Condition
  deriving Repr

namespace Assertion

/-- The statement of a `CreateAssertionStmt` node. -/
def ofTree (t : Tree) : Assertion :=
  ⟨t.nameOf "assertion_name", t.clauseCondition? .empty "check_expr"⟩

/-- The statement in words. -/
def describe (a : Assertion) : String :=
  if a.name = "" then "No assertion found."
  else
    "Create an assertion named '" ++ a.name ++ "' that requires " ++
    match a.check with
    | some c => c.text
    | none => "no specific condition."

/-- The report on a `CREATE ASSERTION` statement. -/
def compare (r s : Assertion) : Report :=
  let report :=
    if Text.sameName r.name s.name then Report.empty.pass "Assertion name"
    else
      Report.empty.failWith "Assertion name"
        s!"● The assertion should be named '{r.name}', but your query uses '{s.name}'.\n"
        s!"💡 Change the assertion name to '{r.name}'."
  let check := Condition.compareClause "CHECK" r.check s.check
  match check.outcome with
  | .incorrect =>
    (report.fail "Assertion condition"
      ("● The assertion condition does not match: " ++ check.message ++ "\n")).advise check.hints
  | _ => report.pass "Assertion condition"

end Assertion

end QueryGrading
