import QueryGrading.Query.Select
import QueryGrading.Text.Ascii
import QueryGrading.Text.LowerCase

/-!
# INSERT statements

The rows of two `INSERT ... VALUES` are compared cell by cell, after the cells of the submission
were put in the order of the columns that the reference names. A star in the reference stands for
any value.

`rowsInOrder` is `rows_in_order`: each column of the reference is looked up among those of the
submission, and where all are found every row is rewritten by these places, so that a value behind
the last column is dropped, and a missing one is skipped. `compareRows` is `compare_rows`. Where
both statements insert what a query returns, the two queries are compared by `Select.compare`, of
whose report the names of the wrong parts and the hints are kept.
-/

namespace QueryGrading

open Text (commas concat join quotedCommas quotedSpaced)

/-! ## 1. Statements -/

/-- Where the inserted rows come from. -/
inductive InsertSource
  | values (rows : List (List String))
  | query (q : Select)
  | defaults
  deriving Repr

/-- The style of a source as hints name it. -/
def InsertSource.style : InsertSource → String
  | values _ => "INSERT...VALUES"
  | query _ => "INSERT...SELECT"
  | defaults => "INSERT...DEFAULT VALUES"

/-- An `INSERT` statement; there are no columns if none are named. -/
structure Insert where
  table : String
  columns : List String
  source : InsertSource
  deriving Repr

namespace Insert

/-- The source of an `InsertStmt` node. -/
def sourceOf (t : Tree) : InsertSource :=
  match t.path? ["selectStmt", "SelectStmt"] with
  | none => .defaults
  | some q =>
    match q.child? "valuesLists" with
    | none => .query (Select.ofTree q)
    | some lists =>
      .values ((lists.children.filter (·.key == "List")).map (·.renderUnder .empty "items"))

/-- The statement of an `InsertStmt` node. -/
def ofTree (t : Tree) : Insert where
  table := t.nameAt ["relation", "relname"]
  columns := ((t.under "cols").filter (·.key == "ResTarget")).map (·.nameOf "name")
  source := sourceOf t

/-- A row between brackets. -/
def rowText (row : List String) : String := "(" ++ commas row ++ ")"

/-- The source in words. -/
def describeSource : InsertSource → String
  | .values [] => "No values provided."
  | .values rows => "Insert values: " ++ join "; " (rows.map rowText) ++ "."
  | .query q => "Insert the rows returned by a query that: " ++ join "; " q.describe
  | .defaults => "No values provided."

/-- The statement in words. -/
def describe (s : Insert) : String :=
  if s.table = "" then "No INSERT statement found."
  else
    "Insert into table '" ++ s.table ++ "'. " ++
    (if s.columns.isEmpty then "" else "Target columns: " ++ quotedCommas s.columns ++ ". ") ++
    describeSource s.source

/-! ## 2. Columns -/

/-- The place of a column, by name up to the case of ASCII letters. -/
def place? (columns : List String) (name : String) : Option Nat :=
  columns.findIdx? (Text.sameName · name)

/-- Rows with their cells in the order of other columns; the rows stay as they are if a column is
unknown, if none are named, or if the order is the same. A cell that a row lacks is left out. -/
def rowsInOrder (columns order : List String) (rows : List (List String)) : List (List String) :=
  if columns.isEmpty || columns == order then rows
  else
    match order.mapM (place? columns) with
    | none => rows
    | some places => rows.map fun row => places.filterMap (row[·]?)

/-- Compares the columns, up to order and case. -/
def compareColumns (r s : Insert) (report : Report) : Report :=
  let expected := sorted (r.columns.map Text.lower)
  let found := sorted (s.columns.map Text.lower)
  if expected = found then
    if expected.isEmpty then report else report.pass "Target columns"
  else
    let missing := leftover expected found
    let extra := leftover found expected
    (report.fail "Target columns"
      (lineOf "● Missing columns: " missing ".\n" ++ lineOf "● Extra columns: " extra ".\n")).advise
      (Select.presentIf (!missing.isEmpty) "💡 Add the missing columns to the INSERT statement." ++
        Select.presentIf (!extra.isEmpty) "💡 Remove the extra columns from the INSERT statement.")

/-! ## 3. Rows -/

/-- The value of the reference that stands for any value. -/
def anyValue : String := "*"

/-- Reports on a row with another number of values. -/
def failLength (report : Report) (n : Nat) (expected found : List String) : Report :=
  let head := s!"● Row {n} has different number of values: " ++
    s!"expected {expected.length}, found {found.length}.\n"
  if expected.length < found.length then
    report.failWith s!"Row {n} values"
      (head ++ "● Extra value(s): " ++ quotedSpaced (found.drop expected.length) ++ ".\n")
      s!"💡 Remove the extra value(s) at row {n}."
  else
    report.failWith s!"Row {n} values"
      (head ++ "● Missing value(s): " ++ quotedSpaced (expected.drop found.length) ++ ".\n")
      s!"💡 Add the missing value(s) at row {n}."

/-- Compares one cell. -/
def compareCell (row : Nat) (report : Report) (cell : Nat × String × String) : Report :=
  let (column, expected, found) := cell
  if expected = anyValue ∨ expected = found then report
  else
    report.failWith s!"Row {row}, column {column}"
      (s!"● Mismatch at row {row}, column {column}: " ++
        s!"expected '{expected}', found '{found}'.\n")
      s!"💡 Check the value at row {row}, column {column}."

/-- Compares one row. -/
def compareRow (report : Report) (row : Nat × List String × List String) : Report :=
  let (n, expected, found) := row
  if expected.length ≠ found.length then failLength report n expected found
  else (numbered 1 (expected.zip found)).foldl (compareCell n) report

/-- Compares the rows; they are one part if all match. -/
def compareRows (expected found : List (List String)) (report : Report) : Report :=
  if expected.isEmpty && found.isEmpty then report
  else if expected.length ≠ found.length then
    report.failWith "Number of rows"
      s!"● Mismatch in number of rows: expected {expected.length}, found {found.length}.\n"
      "💡 Ensure the correct number of rows are inserted."
  else
    let result := (numbered 1 (expected.zip found)).foldl compareRow report
    if result.incorrect.length = report.incorrect.length then result.pass "Inserted values"
    else result

/-! ## 4. Comparison -/

/-- Compares the sources of the rows. -/
def compareSources (r s : Insert) (report : Report) : Report :=
  match r.source, s.source with
  | .values expected, .values found =>
    compareRows (rowsInOrder r.columns r.columns expected)
      (rowsInOrder s.columns r.columns found) report
  | .query expected, .query found =>
    let nested := expected.compare found
    if nested.equal then report.pass "Inserted values"
    else
      (report.fail "Inserted values"
        ("● The SELECT feeding the INSERT differs in: " ++ commas nested.incorrect ++ ".\n")).advise
        nested.hints
  | .defaults, .defaults => report.pass "Inserted values"
  | expected, _ =>
    report.failWith "INSERT style"
      ("● Mismatch in INSERT style: one query uses INSERT...SELECT while the other uses " ++
        "INSERT...VALUES.\n")
      ("💡 Use the " ++ expected.style ++ " style.")

/-- The report on an `INSERT` statement. -/
def compare (r s : Insert) : Report :=
  let report :=
    if Text.sameName r.table s.table then Report.empty.pass "Target table"
    else
      Report.empty.failWith "Target table"
        s!"● Target table mismatch: expected '{r.table}', but found '{s.table}'.\n"
        "💡 Ensure the INSERT targets the correct table."
  compareSources r s (compareColumns r s report)

end Insert

end QueryGrading
