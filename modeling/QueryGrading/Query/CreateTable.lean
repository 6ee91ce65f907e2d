import QueryGrading.Query.Condition.OfTree
import QueryGrading.Text.Blank
import QueryGrading.Text.LowerCase

/-!
# CREATE TABLE statements

All names are read in lower case. Columns are matched by name, foreign keys by the set of their
columns, unique constraints by position after sorting, and checks by their canonical form.

The parts are `add_column`, `add_constraint` and `extract` to read a definition, and
`compare_columns`, `compare_primary_key`, `compare_foreign_keys`, `compare_uniques` and
`compare_checks` to compare two of them. For foreign keys and for checks the constraints of the
reference are gone through, and each takes one partner out of those of the submission: the first
equal one, or else the first that is left. Both have sentences of their own, so each keeps its own
function; what they share is `takeFirst`, and `Proofs.Query.Pairing` says what such a loop finds.
-/

namespace QueryGrading

open Text (commas concat join plainAnd)

/-! ## 1. Statements -/

/-- A column; the columns of the primary key are not null. -/
structure Column where
  name : String
  type : String
  notNull : Bool
  deriving DecidableEq, Repr

/-- A foreign key; no referenced columns stand for the primary key of the other table. -/
structure ForeignKey where
  columns : List String
  table : String
  referenced : List String
  deriving DecidableEq, Repr

/-- The columns of a foreign key in ascending order. -/
def ForeignKey.columnSet (k : ForeignKey) : List String := sorted k.columns

/-- A `CREATE TABLE` statement; the columns of a unique constraint are in ascending order. -/
structure CreateTable where
  table : String
  columns : List Column
  primaryKey : List String
  foreignKeys : List ForeignKey
  uniques : List (List String)
  checks : List Condition
  deriving Repr

namespace Tree

/-- The strings of a list in lower case. -/
def lowerStringsOf (t : Tree) (key : String) : List String := (t.stringsOf key).map Text.lower

/-- The name at the end of a path in lower case. -/
def lowerNameAt (t : Tree) (path : List String) : String := Text.lower (t.nameAt path)

/-- The value of a child in lower case. -/
def lowerNameOf (t : Tree) (key : String) : String := Text.lower (t.nameOf key)

/-- The last part of the type of a column, in lower case. -/
def columnType (t : Tree) : String := Text.lower (t.lastStringAt ["typeName", "names"])

/-- The constraints of a column. -/
def constraints (t : Tree) : List Tree :=
  (t.under "constraints").filter (·.key == "Constraint")

/-- The kind of a constraint. -/
def constraintKind (t : Tree) : String := t.valueOf "contype"

end Tree

namespace CreateTable

/-- A table without columns and constraints. -/
def blank (table : String) : CreateTable := ⟨table, [], [], [], [], []⟩

/-- The columns that a constraint names, or the column that it belongs to. -/
def columnsOr (own named : List String) : List String := if named.isEmpty then own else named

/-- Adds a constraint; `own` is the column that it belongs to, if it belongs to one. -/
def addConstraint (own : List String) (s : CreateTable) (t : Tree) : CreateTable :=
  match t.constraintKind with
  | "CONSTR_PRIMARY" =>
    { s with primaryKey := s.primaryKey ++ columnsOr own (t.lowerStringsOf "keys") }
  | "CONSTR_FOREIGN" =>
    let key : ForeignKey :=
      { columns := columnsOr own (t.lowerStringsOf "fk_attrs")
        table := t.lowerNameAt ["pktable", "relname"]
        referenced := t.lowerStringsOf "pk_attrs" }
    { s with foreignKeys := s.foreignKeys ++ [key] }
  | "CONSTR_UNIQUE" =>
    { s with uniques := s.uniques ++ [sorted (columnsOr own (t.lowerStringsOf "keys"))] }
  | "CONSTR_CHECK" =>
    match t.wrapped? "raw_expr" with
    | some e => { s with checks := s.checks ++ [e.conditionOrForm .empty] }
    | none => s
  | _ => s

/-- Adds a column and its constraints. -/
def addColumn (s : CreateTable) (t : Tree) : CreateTable :=
  let name := t.lowerNameOf "colname"
  let notNull := t.constraints.any fun c => c.constraintKind == "CONSTR_NOTNULL"
  let s := t.constraints.foldl (addConstraint [name]) s
  { s with columns := s.columns ++ [⟨name, t.columnType, notNull⟩] }

/-- Adds an element of the table. -/
def addElement (s : CreateTable) (t : Tree) : CreateTable :=
  match t.key with
  | "ColumnDef" => addColumn s t
  | "Constraint" => addConstraint [] s t
  | _ => s

/-- The columns of the primary key are not null. -/
def closeKey (s : CreateTable) : CreateTable :=
  { s with columns := s.columns.map fun c =>
      { c with notNull := c.notNull || s.primaryKey.contains c.name } }

/-- The statement of a `CreateStmt` node. -/
def ofTree (t : Tree) : CreateTable :=
  ((t.under "tableElts").foldl addElement (blank (t.lowerNameAt ["relation", "relname"]))).closeKey

/-! ## 2. Description -/

/-- A column in words. -/
def columnText (c : Column) : String :=
  c.name ++ " " ++ c.type ++ (if c.notNull then " NOT NULL" else "")

/-- A foreign key in words. -/
def foreignKeyText (k : ForeignKey) : String :=
  "FOREIGN KEY (" ++ commas k.columns ++ ") REFERENCES " ++ k.table ++
    " (" ++ commas k.referenced ++ ")"

/-- A sentence about some items, nothing if there are none. -/
def sentence (before : String) (items : List String) (text after : String) : String :=
  if items.isEmpty then "" else before ++ text ++ after

/-- The statement in words. -/
def describe (s : CreateTable) : String :=
  if s.table = "" then "No CREATE statement found."
  else
    let columns := s.columns.map columnText
    let foreign := s.foreignKeys.map foreignKeyText
    let uniques := s.uniques.map fun u => "UNIQUE (" ++ commas u ++ ")"
    let checks := s.checks.map Condition.text
    Text.trimEnd
      ("Create a table named '" ++ s.table ++ "'. " ++
      sentence "Columns: " columns (plainAnd columns) ". " ++
      sentence "Primary key on (" s.primaryKey (commas s.primaryKey) "). " ++
      sentence "Foreign keys: " foreign (join "; " foreign) ". " ++
      sentence "Unique constraints: " uniques (join "; " uniques) ". " ++
      sentence "Check constraints: " checks (join "; " checks) ". ")

/-! ## 3. Columns and primary key -/

/-- Compares the names of the columns. -/
def compareNames (r s : CreateTable) (report : Report) : Report :=
  let expected := sorted (r.columns.map Column.name)
  let found := sorted (s.columns.map Column.name)
  if expected = found then if expected.isEmpty then report else report.pass "Column names"
  else
    let missing := leftover expected found
    let extra := leftover found expected
    let lost := commas missing
    let added := commas extra
    (report.fail "Column names"
      ((if missing.isEmpty then ""
        else s!"● Your CREATE statement is missing these column(s): {lost}.\n") ++
      (if extra.isEmpty then ""
        else s!"● Your CREATE statement includes extra column(s): {added}.\n"))).advise
      ((if missing.isEmpty then [] else [s!"💡 Add the missing column(s): {lost}."]) ++
        (if extra.isEmpty then [] else [s!"💡 Remove the extra column(s): {added}."]))

/-- Compares the types of two columns of one name. -/
def compareType (expected found : Column) (report : Report) : Report :=
  let part := s!"Type of '{expected.name}'"
  if expected.type = found.type then report.pass part
  else
    report.failWith part
      (s!"● The type for column '{expected.name}' should be '{expected.type}', " ++
        s!"but you have '{found.type}'.\n")
      s!"💡 Change the type of column '{expected.name}' to '{expected.type}'."

/-- Compares whether two columns of one name may be null. -/
def compareNotNull (expected found : Column) (report : Report) : Report :=
  let part := s!"NOT NULL constraint for '{expected.name}'"
  if expected.notNull = found.notNull then report.pass part
  else
    let should := if expected.notNull then "have" else "not have"
    let does := if found.notNull then "has" else "does not have"
    let verb := if expected.notNull then "Add" else "Remove"
    report.failWith part
      (s!"● Column '{expected.name}' should {should} a NOT NULL constraint, " ++
        s!"but your statement {does} it.\n")
      s!"💡 {verb} the NOT NULL constraint on column '{expected.name}'."

/-- Compares a column of the reference with the first of its name; a column without one is skipped
here. -/
def compareColumn (s : CreateTable) (report : Report) (expected : Column) : Report :=
  match s.columns.find? (·.name == expected.name) with
  | none => report
  | some found => compareNotNull expected found (compareType expected found report)

/-- Compares the columns. -/
def compareColumns (r s : CreateTable) (report : Report) : Report :=
  r.columns.foldl (compareColumn s) (compareNames r s report)

/-- Compares the columns of the primary keys. -/
def comparePrimaryKey (r s : CreateTable) (report : Report) : Report :=
  let expected := sorted r.primaryKey
  let found := sorted s.primaryKey
  if expected = found then if expected.isEmpty then report else report.pass "Primary key"
  else
    let all := commas expected
    match found, decide (1 < expected.length) with
    | [only], true =>
      report.failWith "Primary key"
        (s!"● Your statement defines a primary key only on '{only}', " ++
          s!"but the requirement is a composite primary key on ({all}).\n")
        s!"💡 Define a composite primary key on ({all})."
    | _, _ =>
      report.failWith "Primary key"
        (lineOf "● Missing primary key column(s): " (leftover expected found) ".\n" ++
          lineOf "● Extra primary key column(s): " (leftover found expected) ".\n")
        s!"💡 The primary key should be on ({all})."

/-! ## 4. Constraints -/

/-- Compares two lists of constraints: they have to be of one length, and then `compareItems` is
asked. A statement may have none only if the reference has none. -/
def compareConstraints {α : Type} (part noun : String) (expected found : List α)
    (compareItems : Report → Report) (report : Report) : Report :=
  if expected.isEmpty then
    if found.isEmpty then report
    else
      report.failWith part s!"● Unexpected {noun} constraint(s) found.\n"
        s!"💡 Remove the {noun} constraint definitions."
  else if expected.length ≠ found.length then
    let counted := if noun = "FOREIGN KEY" then "foreign key" else noun
    report.failWith part
      s!"● Expected {expected.length} {counted} constraint(s), but found {found.length}.\n"
      s!"💡 Review your {noun} constraint definitions."
  else compareItems report

/-- A part that matches if there is nothing to say about it. -/
def closePart (part message : String) (hints : List String) (report : Report) : Report :=
  if message = "" then report.pass part else (report.fail part message).advise hints

/-- The first element with a property, and the others. -/
def takeFirst {α : Type} (p : α → Bool) : List α → Option (α × List α)
  | [] => none
  | x :: rest =>
    if p x then some (x, rest) else (takeFirst p rest).map fun (y, others) => (y, x :: others)

/-- How foreign key `n` differs from that of the reference. -/
def foreignKeyMismatch (n : Nat) (expected found : ForeignKey) : String :=
  let line := fun what a b =>
    s!"● For FOREIGN KEY constraint {n}, expected {what} column(s): ({a}) but found: ({b}).\n"
  (if found.columnSet = expected.columnSet then ""
    else line "local" (commas expected.columns) (commas found.columns)) ++
  (if found.table = expected.table then ""
    else s!"● For FOREIGN KEY constraint {n}, expected referenced table '{expected.table}' " ++
      s!"but found '{found.table}'.\n") ++
  (if found.referenced = expected.referenced then ""
    else line "referenced" (commas expected.referenced) (commas found.referenced))

/-- How the foreign keys differ. Each of the reference takes the first one left with the same
columns, or else the first one left. -/
def foreignKeysMismatch : List (Nat × ForeignKey) → List ForeignKey → String
  | [], _ => ""
  | (n, expected) :: rest, found =>
    match takeFirst (fun k => k.columnSet == expected.columnSet) found, found with
    | some (k, others), _ => foreignKeyMismatch n expected k ++ foreignKeysMismatch rest others
    | none, k :: others => foreignKeyMismatch n expected k ++ foreignKeysMismatch rest others
    | none, [] => foreignKeysMismatch rest []

/-- Compares the foreign keys. -/
def compareForeignKeys (r s : CreateTable) : Report → Report :=
  compareConstraints "Foreign keys" "FOREIGN KEY" r.foreignKeys s.foreignKeys <|
    closePart "Foreign keys" (foreignKeysMismatch (numbered 1 r.foreignKeys) s.foreignKeys)
      ["💡 Adjust your FOREIGN KEY constraints to reference the required tables and columns."]

/-- How unique constraint `n` differs from that of the reference. -/
def uniqueMismatch (n : Nat) (expected found : List String) : String :=
  if expected = found then ""
  else
    s!"● For UNIQUE constraint {n}, expected column(s): " ++ commas expected ++
      " but found: " ++ commas found ++ ".\n"

/-- Compares the unique constraints. -/
def compareUniques (r s : CreateTable) : Report → Report :=
  compareConstraints "Unique constraints" "UNIQUE" r.uniques s.uniques <|
    closePart "Unique constraints"
      (concat ((numbered 1 ((sortedRows r.uniques).zip (sortedRows s.uniques))).map
        fun (n, a, b) => uniqueMismatch n a b))
      ["💡 Adjust the columns covered by your UNIQUE constraints."]

/-- The checks of the reference that find no equal one, each with the one it is shown beside. A
check takes the first one left with its canonical form, or else the first one left. -/
def checksMismatch :
    List (Nat × Condition) → List Condition → List (Nat × Condition × Option Condition)
  | [], _ => []
  | (n, expected) :: rest, found =>
    match takeFirst (fun c => c.signature == expected.signature) found, found with
    | some (_, others), _ => checksMismatch rest others
    | none, c :: others => (n, expected, some c) :: checksMismatch rest others
    | none, [] => (n, expected, none) :: checksMismatch rest []

/-- Compares the checks. -/
def compareChecks (r s : CreateTable) : Report → Report :=
  let differences := checksMismatch (numbered 1 r.checks) s.checks
  compareConstraints "Check constraints" "CHECK" r.checks s.checks <|
    closePart "Check constraints"
      (concat (differences.map fun (n, expected, found) =>
        s!"● For CHECK constraint {n}, expected: " ++ expected.text ++ " but found: " ++
          Condition.text? found ++ ".\n"))
      (differences.map fun (n, _, _) => s!"💡 Adjust the CHECK constraint definition {n}.")

/-! ## 5. Comparison -/

/-- The report on a `CREATE TABLE` statement. -/
def compare (r s : CreateTable) : Report :=
  let report :=
    if r.table = s.table then Report.empty.pass "Table name"
    else
      Report.empty.failWith "Table name"
        s!"● The table name should be '{r.table}', but your query uses '{s.table}'.\n"
        s!"💡 Change the table name to '{r.table}'."
  report |> compareColumns r s |> comparePrimaryKey r s |> compareForeignKeys r s
    |> compareUniques r s |> compareChecks r s

end CreateTable

end QueryGrading
