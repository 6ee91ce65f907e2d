import QueryGrading.Text.Listing
import QueryGrading.Text.LowerCase
import QueryGrading.Json.Record

/-!
# Changes and outputs

What running a statement produced: the rows of a query, or the changes that any other statement made
to the database. An error of the database counts as a change where `Change.ofError?` knows it as a
violated constraint or a lack of permission.

A `Change` is a `DiffEntry`, and an `Output` is a `QueryOutput`. `ofError?` is
`from_execution_error`, which looks for words in the error in lower case. What the kinds of changes
are called is known to the messages only (`Output.Comparison`).
-/

namespace QueryGrading

/-! ## 1. Changes -/

/-- One change to the database: the table, the kind of change, and a column, row or type. -/
structure Change where
  table : String
  operation : String
  detail : String
  deriving DecidableEq, Repr

namespace Change

/-- What stands for the table when a constraint was violated. -/
def constraintTable : String := "constraint error"

/-- What stands for the table when a permission was lacking. -/
def permissionTable : String := "permission error"

/-- The change records a violated constraint. -/
def isConstraint (c : Change) : Bool := c.table = constraintTable

/-- The change records a lack of permission. -/
def isPermission (c : Change) : Bool :=
  c.table = permissionTable || c.operation = permissionTable

/-- The kind of constraint that an error in lower case speaks of. -/
def constraintKind (error : String) : String :=
  if Text.contains error "unique" || Text.contains error "primary key" then "unique constraint"
  else if Text.contains error "foreign key" then "foreign key constraint"
  else if Text.contains error "check" then "check constraint"
  else if Text.contains error "not null" then "not null constraint"
  else "other constraint"

/-- The change that an error of the database stands for. -/
def ofError? (error : String) : Option Change :=
  let error := Text.lower error
  if Text.contains error "constraint" then some ⟨constraintTable, constraintKind error, ""⟩
  else if Text.contains error "permission" || Text.contains error "access denied" then
    some ⟨permissionTable, "access denied", ""⟩
  else none

/-- The change in messages. -/
def text (c : Change) : String :=
  if c.detail = "" then "[" ++ c.operation ++ "] " ++ c.table
  else "[" ++ c.operation ++ "] " ++ c.table ++ ": " ++ c.detail

/-- A change as a record. -/
def record : Record Change where
  name := "DiffEntry"
  fields := [
    ⟨"table", true, fun c s => do return { c with table := ← Reader.text s }⟩,
    ⟨"operation", true, fun c s => do return { c with operation := ← Reader.text s }⟩,
    ⟨"detail", false, fun c s => do return { c with detail := ← Reader.text s }⟩]
  start := ⟨"", "", ""⟩

/-- A change with all its fields. -/
def toJson (c : Change) : Json :=
  Json.ofMembers [("table", .string c.table), ("operation", .string c.operation),
    ("detail", .string c.detail)]

end Change

/-! ## 2. Outputs -/

/-- A row of cells. -/
abbrev Row := List String

/-- What a statement produced. -/
inductive Output
  | rows (rows : List Row)
  | changes (changes : List Change)
  deriving DecidableEq, Repr

namespace Output

/-- No rows. -/
def nothing : Output := .rows []

/-- There are no rows and no changes. -/
def isEmpty : Output → Bool
  | rows rs => rs.isEmpty
  | changes cs => cs.isEmpty

/-- Reads the output of the kind with this name. -/
def readKind (name : String) (content : Option Source) : Except ReadError Output :=
  let unit : ReadError := .wrongType "unit variant" "newtype variant"
  match name, content with
  | "rows", some source => rows <$> Reader.list (Reader.list Reader.text) source
  | "changes", some source => changes <$> Reader.list (Change.record.read .value) source
  | "rows", none => .error unit
  | "changes", none => .error unit
  | _, _ => .error (.unknownVariant name "`rows` or `changes`")

/-- Reads an output: an object whose one member is named for the kind. -/
def read : Reader Output
  | .object [(key, content)] _ => do readKind (← Reader.key key) (some content)
  | .object _ _ => .error (.wrongValue "map" "map with a single key")
  | .string name => readKind name none
  | source => .error (mismatch "string or map" source)

/-- An output as an object with one member. -/
def toJson : Output → Json
  | rows rs => Json.ofMembers [("rows", .array (rs.map Json.ofTexts))]
  | changes cs => Json.ofMembers [("changes", .array (cs.map Change.toJson))]

end Output

end QueryGrading
