import QueryGrading.Query.Select.OrderBy

/-!
# SELECT statements

`Select` gathers the six clauses of a query: its list, sources, filter, grouping, the filter of
groups, and order. `Select.compare` reports on them in a fixed order; its message is the whole text
that a student reads.

It is `SelectInfo`, with `extract`, `describe`, `summarize` and `compare`. A clause that is wrong
adds its own hints, and the one of `CLAUSE_HINTS` if there is one; the line of success stands
wherever there is no hint. `LIMIT`, `WINDOW` and set operations are not read.
-/

namespace QueryGrading

open Text (concat counted)

/-- The clauses of a query. -/
structure Select where
  sources : FromClause
  list : SelectList
  filter : Option Condition
  groupBy : GroupBy
  having : Option Condition
  orderBy : OrderBy
  deriving Repr

namespace Select

/-- The query of a `SelectStmt` node. -/
def ofTree (t : Tree) : Select :=
  let sources := FromClause.ofTree t
  let list := SelectList.ofTree sources t
  let scope := list.scope sources
  { sources := sources
    list := list
    filter := t.clauseCondition? scope "whereClause"
    groupBy := GroupBy.ofTree sources t
    having := t.clauseCondition? scope "havingClause"
    orderBy := OrderBy.ofTree list scope t }

/-! ## 1. Description -/

/-- The condition of `WHERE` in words. -/
def describeWhere : Option Condition → String
  | some c => "To filter data where " ++ c.text
  | none => "No conditions in WHERE clause"

/-- The condition of `HAVING` in words. -/
def describeHaving : Option Condition → String
  | some c => "To filter grouped data having " ++ c.text
  | none => "No conditions in HAVING clause"

/-- Something in a list, if a condition holds. -/
def presentIf {α : Type} (condition : Bool) (x : α) : List α := if condition then [x] else []

/-- One sentence for the sources, one for the select list, and one for each other clause that is
present. -/
def describe (q : Select) : List String :=
  [q.sources.describe, q.list.describe] ++
  presentIf q.filter.isSome (describeWhere q.filter) ++
  presentIf (!q.groupBy.isEmpty) q.groupBy.describe ++
  presentIf q.having.isSome (describeHaving q.having) ++
  presentIf (!q.orderBy.isEmpty) (OrderBy.describe q.orderBy)

/-- What the query does, in one line for each clause that is present. -/
def summary (q : Select) : String :=
  let tables := counted q.sources.tables.length "table"
  let columns := counted q.list.items.length "column"
  let elements := counted q.groupBy.items.length "element"
  let keys := counted q.orderBy.length "column"
  concat
    (presentIf (!q.sources.tables.isEmpty) s!"\n ● Retrieve data from {tables}; " ++
    presentIf (!q.list.items.isEmpty) s!"\n ● Select {columns}; " ++
    presentIf q.filter.isSome "\n ● Filter data based on certain conditions; " ++
    presentIf (!q.groupBy.items.isEmpty) s!"\n ● Group the results by {elements}; " ++
    presentIf q.having.isSome "\n ● Filter grouped data based on certain conditions; " ++
    presentIf (!q.orderBy.isEmpty) s!"\n ● Sort the output data by {keys}; ")

/-! ## 2. Comparison -/

/-- A clause as it is reported: its name, its verdict, and a hint of its own where it differs. -/
structure ClauseEntry where
  name : String
  verdict : ClauseVerdict
  hint : Option String

/-- The clauses of two queries in the order of the report. -/
def clauseEntries (r s : Select) : List ClauseEntry :=
  [⟨"SELECT clause", r.list.compare s.list, none⟩,
    ⟨"FROM clause", r.sources.compare s.sources,
      some ("Check the FROM clause to ensure you are using the correct tables and joins " ++
        "as required.")⟩,
    ⟨"WHERE clause", Condition.compareClause "WHERE" r.filter s.filter, none⟩,
    ⟨"GROUP BY clause", r.groupBy.compare s.groupBy,
      some ("Review the GROUP BY clause to ensure you are grouping by the correct columns " ++
        "or expressions.")⟩,
    ⟨"HAVING clause", Condition.compareClause "HAVING" r.having s.having,
      some ("Check the HAVING clause to make sure the conditions applied to the grouped data " ++
        "are correct.")⟩,
    ⟨"ORDER BY clause", OrderBy.compare r.orderBy s.orderBy,
      some "Adjust the ORDER BY clause to sort the results as specified."⟩]

/-- The details of a clause that differs. -/
def ClauseEntry.detail (e : ClauseEntry) : String := e.name ++ ": " ++ e.verdict.message

/-- The hints of a clause that differs. -/
def ClauseEntry.hints (e : ClauseEntry) : List String := e.verdict.hints ++ e.hint.toList

/-- The text of a report on these clauses: those that match, those that do not, the details, and
what to do. -/
def reportText (correct incorrect : List ClauseEntry) (hints : List String) : String :=
  "2️⃣ Correct Clauses:\n" ++
  (if correct.isEmpty then "●  None.\n"
  else concat (correct.map fun e => "✅ " ++ e.name ++ "\n")) ++
  "\n" ++
  (if incorrect.isEmpty then ""
  else
    "3️⃣ Issues found in the following clauses:\n" ++
    concat (incorrect.map fun e => "❌ " ++ e.name ++ "\n") ++
    "\n❗ Problem Details:\n" ++
    concat ((numbered 1 incorrect).map fun (n, e) => toString n ++ ". " ++ e.detail ++ "\n") ++
    "\n") ++
  (if hints.isEmpty then "Excellent! Your query matches the reference query.\n"
  else "4️⃣ Next steps:\n" ++ concat (hints.map fun h => "➡️ " ++ h ++ "\n"))

/-- The report on a query. -/
def compare (r s : Select) : Report :=
  let entries := clauseEntries r s
  let correct := entries.filter (·.verdict.outcome = .correct)
  let incorrect := entries.filter (·.verdict.outcome = .incorrect)
  let hints := incorrect.flatMap ClauseEntry.hints
  { equal := incorrect.isEmpty
    correct := correct.map ClauseEntry.name
    incorrect := incorrect.map ClauseEntry.name
    hints := hints
    message := reportText correct incorrect hints }

end Select

end QueryGrading
