import QueryGrading.Query.Condition.OfTree

/-!
# The sources of a statement

`FromClause.ofTree` reads the tables, joins and common table expressions of a statement;
`FromClause.compare` compares them without regard to the order of tables, but join by join.

Sources are read from left to right, a join after both its sides (`add_sources`, `add_join`,
`table_ref`), and the condition of a join is read with the aliases of the tables so far. Joins are
compared by position (`compare_join`). The list of sources is the one of FROM, or of USING if there
is no FROM. Common table expressions count by their names only, as their queries are not looked
into.
-/

namespace QueryGrading

open Text (commas concat join quotedCommas)

/-! ## 1. Tables and joins -/

/-- A table, or what stands for one, and its alias, empty if it has none. -/
structure TableRef where
  name : String
  shortName : String
  deriving DecidableEq, Repr

/-- No table. -/
def TableRef.blank : TableRef := ⟨"", ""⟩

/-- A join of two sources. -/
structure TableJoin where
  kind : String
  left : TableRef
  right : TableRef
  condition : Option Condition
  isNatural : Bool
  columns : List String
  deriving Repr

/-- The sources of a statement: every table, the sides of joins included, the joins, and the names
of the common table expressions. -/
structure FromClause where
  tables : List TableRef
  joins : List TableJoin
  ctes : List String
  deriving Repr

/-- The name of a join inside another join. -/
def nestedJoin : String := "(nested join)"

namespace FromClause

/-- No sources. -/
def blank : FromClause := ⟨[], [], []⟩

/-- There are no sources. -/
def isEmpty (f : FromClause) : Bool := f.tables.isEmpty && f.joins.isEmpty && f.ctes.isEmpty

/-- The scope of the aliases. -/
def scope (f : FromClause) : Scope :=
  f.tables.foldl (fun scope t => scope.addTable t.shortName t.name) .empty

/-- Adds a table. -/
def addTable (f : FromClause) (t : TableRef) : FromClause := { f with tables := f.tables ++ [t] }

end FromClause

/-! ## 2. Reading -/

namespace Tree

/-- The alias of a source. -/
def sourceAlias (t : Tree) : String := t.nameAt ["alias", "aliasname"]

/-- The table that a source stands for. -/
def tableRef? (t : Tree) : Option TableRef :=
  match t.key with
  | "RangeVar" => some ⟨t.nameOf "relname", t.sourceAlias⟩
  | "RangeSubselect" => some ⟨subquery, t.sourceAlias⟩
  | "RangeFunction" => some ⟨"(function)", t.sourceAlias⟩
  | _ => none

/-- Adds a join and its sides, first the left one; also gives the name of the join itself. The
condition sees the aliases of all tables so far. -/
def addJoin (f : FromClause) (t : Tree) : FromClause × TableRef :=
  let (f, left) := match _h : t.wrapped? "larg" with
    | none => (f, TableRef.blank)
    | some e =>
      if e.key = "JoinExpr" then addJoin f e
      else (f.addTable (e.tableRef?.getD .blank), e.tableRef?.getD .blank)
  let (f, right) := match _h : t.wrapped? "rarg" with
    | none => (f, TableRef.blank)
    | some e =>
      if e.key = "JoinExpr" then addJoin f e
      else (f.addTable (e.tableRef?.getD .blank), e.tableRef?.getD .blank)
  let joined : TableJoin :=
    { kind := t.valueOf "jointype"
      left := left
      right := right
      condition := (t.wrapped? "quals").map (conditionOrForm f.scope)
      isNatural := t.valueOf "isNatural" == "true"
      columns := t.stringsOf "usingClause" }
  ({ f with joins := f.joins ++ [joined] }, ⟨nestedJoin, t.sourceAlias⟩)
termination_by t
decreasing_by all_goals exact sizeOf_wrapped? _h

/-- Adds a source of a list. -/
def addSource (f : FromClause) (t : Tree) : FromClause :=
  if t.key = "JoinExpr" then (addJoin f t).1
  else
    match t.tableRef? with
    | some table => f.addTable table
    | none => f

/-- The list of sources: `FROM`, or else `USING`. -/
def sourceList (t : Tree) : List Tree :=
  match t.child? "fromClause" with
  | some c => c.children
  | none => t.under "usingClause"

/-- The names of the common table expressions. -/
def cteNames (t : Tree) : List String :=
  match t.path? ["withClause", "ctes"] with
  | some c => (c.children.filter (·.key == "CommonTableExpr")).map (·.valueOf "ctename")
  | none => []

end Tree

/-- The sources of a statement. -/
def FromClause.ofTree (t : Tree) : FromClause :=
  { t.sourceList.foldl Tree.addSource .blank with ctes := t.cteNames }

/-! ## 3. Description -/

namespace TableJoin

/-- The condition as messages show it; empty if there is none. -/
def conditionText (j : TableJoin) : String := Condition.text? j.condition

/-- The kind of join in words. -/
def kindText (j : TableJoin) : String :=
  if j.isNatural then "a natural join"
  else
    match j.kind with
    | "JOIN_INNER" => "an inner join"
    | "JOIN_LEFT" => "a left join"
    | "JOIN_RIGHT" => "a right join"
    | "JOIN_FULL" => "a full join"
    | "JOIN_CROSS" => "a cross join"
    | _ => "a join"

/-- How the sides are joined. -/
def linkText (j : TableJoin) : String :=
  if j.isNatural then " (natural join)"
  else if !j.columns.isEmpty then " using (" ++ commas j.columns ++ ")"
  else if j.condition.isSome then " on " ++ j.conditionText
  else ""

/-- The join in words. -/
def describe (j : TableJoin) : String :=
  j.kindText ++ " between " ++ j.left.name ++ " and " ++ j.right.name ++ j.linkText

end TableJoin

namespace FromClause

/-- The sources in words. -/
def describe (f : FromClause) : String :=
  let ctes :=
    if f.ctes.isEmpty then ""
    else "Using Common Table Expressions (CTEs): " ++ commas f.ctes ++ ". "
  ctes ++
    if !f.joins.isEmpty then
      "Identify data sources by performing " ++ join "; then " (f.joins.map TableJoin.describe)
    else if !f.tables.isEmpty then
      "Identify data source(s): " ++ commas (f.tables.map TableRef.name)
    else "No tables in FROM clause."

/-- The sources in words, nothing if there are none. -/
def describeInline (f : FromClause) : String := if f.isEmpty then "" else f.describe

end FromClause

/-! ## 4. Comparison -/

/-- The names of the two sides in ascending order, one name if they are equal. -/
def TableJoin.sideNames (j : TableJoin) : List String :=
  match sorted [j.left.name, j.right.name] with
  | [a, b] => if a = b then [a] else [a, b]
  | names => names

namespace TableJoin

/-- Two conditions, or the lack of them, are the same. -/
def sameCondition (r s : TableJoin) : Bool :=
  match r.condition, s.condition with
  | some a, some b => a.signature == b.signature
  | none, none => true
  | _, _ => false

/-- How the sides differ; those of an inner join may be exchanged. -/
def sidesMismatch (n : Nat) (r s : TableJoin) : String :=
  if r.kind = "JOIN_INNER" then
    if r.sideNames = s.sideNames then ""
    else
      s!"● Join {n}: Mismatch in joined tables for INNER JOIN.\n" ++
      "● Expected tables: " ++ quotedCommas r.sideNames ++ ".\n" ++
      "● Found tables: " ++ quotedCommas s.sideNames ++ ".\n"
  else if r.left.name ≠ s.left.name ∨ r.right.name ≠ s.right.name then
    s!"● Join {n}: Mismatch in joined tables for {r.kind}.\n" ++
    s!"● Expected tables: {r.left.name}, {r.right.name}.\n" ++
    s!"● Found tables: {s.left.name}, {s.right.name}.\n"
  else ""

/-- How join `n` differs from that of the reference; the kinds are compared first. -/
def mismatch (n : Nat) (r s : TableJoin) : String :=
  if r.kind ≠ s.kind then
    s!"● Join {n}: Expected join type '{r.kind}', but found '{s.kind}'.\n"
  else
    sidesMismatch n r s ++
    (if r.sameCondition s then ""
    else
      s!"● Join {n}: Mismatch in join condition.\n" ++
      "● Expected condition: " ++ r.conditionText ++ ".\n" ++
      "● Found condition: " ++ s.conditionText ++ ".\n") ++
    (if r.columns ≠ s.columns ∨ r.isNatural ≠ s.isNatural then
      s!"● Join {n}: Mismatch in USING columns or NATURAL join.\n"
    else "")

end TableJoin

namespace FromClause

/-- How the tables differ. -/
def tablesMismatch (r s : FromClause) : String :=
  let expected := sorted (r.tables.map TableRef.name)
  let found := sorted (s.tables.map TableRef.name)
  if expected = found then ""
  else
    "\n ● Mismatch in FROM clause tables.\n" ++
    lineOf "● Missing tables: " ((leftover expected found).map Text.inQuotes) ".\n" ++
    lineOf "● Extra tables: " ((leftover found expected).map Text.inQuotes) ".\n"

/-- How the joins differ, one by one. -/
def joinsMismatch (r s : FromClause) : String :=
  if r.joins.length ≠ s.joins.length then "● Joins: Mismatch in the number of joins.\n"
  else
    concat ((numbered 1 (r.joins.zip s.joins)).map fun (n, a, b) => TableJoin.mismatch n a b)

/-- How the common table expressions differ. -/
def ctesMismatch (r s : FromClause) : String :=
  let expected := sorted r.ctes
  let found := sorted s.ctes
  if expected = found then ""
  else
    "● Mismatch in common table expressions (CTEs).\n" ++
    lineOf "● Missing CTEs: " (leftover expected found) ".\n" ++
    lineOf "● Extra CTEs: " (leftover found expected) ".\n"

/-- The verdict on the sources; joins and common table expressions count only beside tables. -/
def compare (r s : FromClause) : ClauseVerdict :=
  if r.tables.isEmpty && s.tables.isEmpty then .absent "Both queries have no from clause."
  else .ofMessage (tablesMismatch r s ++ joinsMismatch r s ++ ctesMismatch r s) []

end FromClause

end QueryGrading
