import QueryGrading.Query.From
import QueryGrading.Text.Ascii

/-!
# UPDATE and DELETE statements

Both statements name a target table, sources and a filter. The assignments of an `UPDATE` are
matched by their column, whatever their order.

`Update.compare` and `Delete.compare` are the two functions `compare` of these statements. The first
compares the number of assignments, and then looks for the column of each assignment of the
reference among the assignments of the submission (`assigned?`); a column that is assigned twice is
found by its first assignment. If neither statement has a filter an `UPDATE` matches in it, and in a
`DELETE` it is no part of the report. What a statement returns is not read.
-/

namespace QueryGrading

open Text (commas join plainAnd)

namespace Tree

/-- The name of the target table. -/
def targetTable (t : Tree) : String := t.nameAt ["relation", "relname"]

/-- The scope of a statement with these sources: its target has an alias too. -/
def targetScope (sources : FromClause) (t : Tree) : Scope :=
  sources.scope.addTable (t.nameAt ["relation", "alias", "aliasname"]) t.targetTable

end Tree

/-- A filter in words, nothing if there is none. -/
def whereText : Option Condition → String
  | some c => " where " ++ c.text
  | none => ""

/-- Sources in words after a preposition, nothing if there are none. -/
def sourcesText (preposition : String) (sources : FromClause) : String :=
  if sources.describeInline = "" then "" else " " ++ preposition ++ " " ++ sources.describeInline

/-! ## 1. UPDATE -/

/-- An assignment of a written value to a column. -/
structure Assigned where
  column : String
  value : String
  deriving DecidableEq, Repr

/-- An `UPDATE` statement. -/
structure Update where
  table : String
  set : List Assigned
  sources : FromClause
  filter : Option Condition
  deriving Repr

namespace Update

/-- The statement of an `UpdateStmt` node. -/
def ofTree (t : Tree) : Update :=
  let sources := FromClause.ofTree t
  let scope := t.targetScope sources
  { table := t.targetTable
    set := ((t.under "targetList").filter (·.key == "ResTarget")).map fun target =>
      ⟨target.nameOf "name", target.renderWrapped scope "val"⟩
    sources := sources
    filter := t.clauseCondition? scope "whereClause" }

/-- The statement in words. -/
def describe (s : Update) : String :=
  if s.table = "" then "No UPDATE statement found."
  else
    "Update table '" ++ s.table ++ "' by setting " ++
    plainAnd (s.set.map fun a => a.column ++ " = " ++ a.value) ++
    sourcesText "from" s.sources ++ whereText s.filter ++ "."

/-- The assignment of a submission to a column, by name up to the case of ASCII letters. -/
def assigned? (s : Update) (column : String) : Option Assigned :=
  s.set.find? fun a => Text.sameName a.column column

/-- The submission makes this assignment. -/
def assigns (s : Update) (a : Assigned) : Bool :=
  match s.assigned? a.column with
  | some found => found.value == a.value
  | none => false

/-- Reports on an assignment of the reference that the submission does not make. -/
def compareAssigned (s : Update) (report : Report) (a : Assigned) : Report :=
  match s.assigned? a.column with
  | none =>
    report.failWith s!"Set clause column ({a.column})"
      s!"● Missing SET clause for column '{a.column}'.\n"
      s!"💡 Add the SET clause for column '{a.column}'."
  | some found =>
    if found.value = a.value then report
    else
      report.failWith s!"Value for '{a.column}'"
        (s!"● For column '{a.column}', the value should be '{a.value}', " ++
          s!"but you provided '{found.value}'.\n")
        s!"💡 Fix the value assignment for column '{a.column}'."

/-- Compares the assignments; they are one part if all match. -/
def compareSet (r s : Update) (report : Report) : Report :=
  let sameCount := r.set.length == s.set.length
  let report :=
    if sameCount then report
    else
      report.failWith "Set clauses count"
        (s!"● The reference UPDATE sets {r.set.length} column(s), " ++
          s!"but your query sets {s.set.length} column(s).\n")
        "💡 Ensure you set the correct number of columns in your UPDATE."
  let report := r.set.foldl (compareAssigned s) report
  if sameCount && r.set.all s.assigns then report.pass "Set clauses" else report

/-- The report on an `UPDATE` statement; two statements without a filter match in it. -/
def compare (r s : Update) : Report :=
  let report :=
    if Text.sameName r.table s.table then Report.empty.pass "Target table"
    else
      Report.empty.failWith "Target table"
        (s!"● The UPDATE should target table '{r.table}', " ++
          s!"but your query uses '{s.table}'.\n")
        s!"💡 Update the target table to '{r.table}'."
  let report := compareSet r s report
  let sources := r.sources.compare s.sources
  let report :=
    if sources.outcome = .absent then report else report.addClause "FROM clause" sources
  let filter := Condition.compareClause "WHERE" r.filter s.filter
  if filter.outcome = .absent then report.pass "WHERE clause"
  else report.addClause "WHERE clause" filter

end Update

/-! ## 2. DELETE -/

/-- A `DELETE` statement. -/
structure Delete where
  table : String
  sources : FromClause
  filter : Option Condition
  deriving Repr

namespace Delete

/-- The statement of a `DeleteStmt` node. -/
def ofTree (t : Tree) : Delete :=
  let sources := FromClause.ofTree t
  { table := t.targetTable
    sources := sources
    filter := t.clauseCondition? (t.targetScope sources) "whereClause" }

/-- The statement in words. -/
def describe (s : Delete) : String :=
  if s.table = "" then "No DELETE statement found."
  else
    "Delete rows from '" ++ s.table ++ "'" ++
    sourcesText "using" s.sources ++ whereText s.filter ++ "."

/-- The report on a `DELETE` statement. -/
def compare (r s : Delete) : Report :=
  let report :=
    if Text.sameName r.table s.table then Report.empty.pass "Target table"
    else
      Report.empty.failWith "Target table"
        (s!"● The DELETE statement should target table '{r.table}', " ++
          s!"but your query targets '{s.table}'.\n")
        s!"💡 Please change the target table to '{r.table}'."
  let sources := r.sources.compare s.sources
  let report := match sources.outcome with
    | .absent => report
    | .correct => report.pass "FROM clause"
    | .incorrect =>
      report.failWith "FROM clause" sources.message
        "💡 Review and adjust your FROM (or USING) clause to match the expected query."
  let filter := Condition.compareClause "WHERE" r.filter s.filter
  if filter.outcome = .absent then report else report.addClause "WHERE clause" filter

end Delete

end QueryGrading
