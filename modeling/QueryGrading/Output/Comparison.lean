import QueryGrading.Output.Grid

/-!
# Comparing outputs

An output is compared with the expected one. Rows are equal up to the order of columns and, unless
it counts, of rows; changes are compared as multisets; outputs of different kinds never match. Each
discrepancy has a message and a hint.

`Grid.compare` is `compare_rows`, `Change.compare` is `compare_changes`, with `missing_feedback` and
`extra_feedback` for its texts, and `Output.compare` is `compare_outputs`. Rows are first put into
canonical form, each table by itself, so that equality is up to the order of columns in a sense that
only the proofs make precise.
-/

namespace QueryGrading

/-! ## 1. The result -/

/-- How an output compares with the expected one: whether they are equal, whether all that is
expected is there, how far they are apart, and a message and a hint for each discrepancy. -/
structure OutputReport where
  equal : Bool
  subset : Bool
  difference : Nat
  messages : List String
  hints : List String
  deriving DecidableEq, Repr

namespace OutputReport

/-- The outputs match. -/
def matching : OutputReport := ⟨true, true, 0, [], []⟩

/-- All messages, a line each. -/
def text (r : OutputReport) : String := Text.join "\n" r.messages

end OutputReport

/-! ## 2. Rows -/

namespace Grid

/-- The number of cells of both grids that the best position leaves unmatched. -/
def difference (a b : Grid) : Nat := a.cells + b.cells - 2 * overlap a b

/-- Every expected row is there, and no row or column is missing. -/
def isPart (expected actual : Grid) : Bool :=
  expected.length ≤ actual.length && expected.width ≤ actual.width && expected.embeds actual

/-- Compares two grids in canonical order. -/
def compareCanonical (expected actual : Grid) : OutputReport :=
  let subset := expected.isPart actual
  let d := expected.difference actual
  if subset && d = 0 then .matching
  else if subset then
    ⟨false, true, d,
      [s!"⚠️ Your query returned every expected row, plus {d} extra cell(s)."],
      ["Tighten your WHERE clause or select fewer columns."]⟩
  else
    ⟨false, false, d,
      [s!"❌ Your query output differs from the expected output in {d} cell(s)."],
      ["Compare the selected columns and filter conditions with the task."]⟩

/-- Compares the rows of a query with the expected ones. -/
def compare (ordered : Bool) (expected actual : Grid) : OutputReport :=
  match expected, actual with
  | [], [] => .matching
  | _ :: _, _ :: _ => compareCanonical (expected.canonical ordered) (actual.canonical ordered)
  | _, _ =>
    let wanted := expected.length
    let found := actual.length
    ⟨false, false, wanted + found,
      [s!"❌ Your query returned {found} row(s) but {wanted} were expected."],
      ["Review your filter conditions and joins."]⟩

end Grid

/-! ## 3. Changes -/

namespace Change

/-- What a permission was lacking for. -/
def subject (c : Change) : String := if c.detail = "" then c.table else c.detail

/-- The message and the hint for a change that the statement did not make. -/
def missing (c : Change) : String × String :=
  let table := c.table
  let detail := c.detail
  let kind := c.operation
  let subject := c.subject
  let text := c.text
  if c.isConstraint then
    (s!"❌ Your query should have violated a {kind}, but it did not.",
      s!"Review the data to trigger the {kind}.")
  else if c.isPermission then
    (s!"❌ You lack permission to modify table '{subject}'.",
      s!"Check your GRANT privileges for {subject}.")
  else
    match c.operation with
    | "table_created" =>
      (s!"❌ You forgot to create the table '{table}'.", s!"Add: CREATE TABLE {table} ...;")
    | "column_added" =>
      (s!"❌ You did not add the column '{detail}' to table '{table}'.",
        s!"Add column {detail} to {table}.")
    | "column_removed" =>
      (s!"❌ You did not remove the column '{detail}' from table '{table}'.",
        s!"Drop column {detail} from {table}.")
    | "column_type_changed" =>
      (s!"❌ You did not change the column type in table '{table}': {detail}.",
        s!"Alter the column type in {table}: {detail}.")
    | "added" =>
      (s!"❌ You did not insert this row into '{table}': {detail}.",
        s!"INSERT INTO {table} VALUES({detail});")
    | "removed" =>
      (s!"❌ You did not delete this row from '{table}': {detail}.",
        s!"DELETE FROM {table} WHERE ...;")
    | _ =>
      (s!"❌ An expected change is missing: {text}.",
        "Review the statement against the task description.")

/-- The message and the hint for a change that the statement should not have made. -/
def extra (c : Change) : String × String :=
  let table := c.table
  let detail := c.detail
  let kind := c.operation
  let subject := c.subject
  let text := c.text
  if c.isConstraint then
    (s!"⚠️ Your query unexpectedly triggered a {kind}.", s!"Check why the {kind} was raised.")
  else if c.isPermission then
    (s!"⚠️ You hit a permission error on '{subject}'.",
      s!"Check your GRANT privileges for {subject}.")
  else
    match c.operation with
    | "table_created" =>
      (s!"⚠️ You created an extra table '{table}' that wasn’t needed.",
        s!"Remove: DROP TABLE {table};")
    | "column_added" =>
      (s!"⚠️ You added an unnecessary column '{detail}' to table '{table}'.",
        s!"Drop column {detail} from {table}.")
    | "column_removed" =>
      (s!"⚠️ You removed the column '{detail}' from table '{table}', but it should stay.",
        s!"Re-add column {detail} to {table}.")
    | "column_type_changed" =>
      (s!"⚠️ You changed a column type in table '{table}' that should stay: {detail}.",
        s!"Keep the original column type in {table}.")
    | "added" =>
      (s!"⚠️ You inserted an extra row into '{table}': {detail}.",
        "Remove that INSERT from your query.")
    | "removed" =>
      (s!"⚠️ You deleted a row from '{table}' that shouldn’t have been removed: {detail}.",
        "Remove that DELETE from your query.")
    | _ =>
      (s!"⚠️ Your query made an unexpected change: {text}.",
        "Remove the statement part that causes this change.")

/-- Compares the changes of a statement with the expected ones, as multisets. -/
def compare (expected actual : List Change) : OutputReport :=
  let gone := leftover expected actual
  let spare := leftover actual expected
  let findings := gone.map missing ++ spare.map extra
  { equal := gone.isEmpty && spare.isEmpty
    subset := gone.isEmpty
    difference := gone.length + spare.length
    messages := findings.map (·.1)
    hints := findings.map (·.2) }

end Change

/-! ## 4. Outputs -/

/-- Compares the output of a statement with the expected one. -/
def Output.compare (ordered : Bool) (expected actual : Output) : OutputReport :=
  match expected, actual with
  | .rows e, .rows a => Grid.compare ordered e a
  | .changes e, .changes a => Change.compare e a
  | _, _ =>
    ⟨false, false, 1,
      ["❌ Your statement produces a different kind of output than the expected one."],
      ["Check that you used the right statement type."]⟩

end QueryGrading
