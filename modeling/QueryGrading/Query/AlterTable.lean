import QueryGrading.Query.CreateTable

/-!
# ALTER TABLE statements

An `ALTER TABLE` statement is a table and a list of operations, each of a kind with its parameters.
Two statements have to have the same kinds in the same order, and then their parameters are
compared.

`AlterOperation.ofTree` is `extract` for one command, with `add_constraint` and `type_name`;
`sequence` is the list of kinds that is shown where they differ, and `AlterOperation.mismatch` is
`compare_operation`. The name of a constraint counts only where the reference gives one, and a check
is compared by its signature where both have one. Names are read in lower case, and a check by
`extract_condition` in an empty scope, or by `render` where it states no condition.
-/

namespace QueryGrading

open Text (commas concat join)

/-! ## 1. Operations -/

/-- The kind of an operation. -/
inductive AlterKind
  | addColumn | dropColumn | alterColumnType | setNotNull | dropNotNull
  | renameColumn | renameTable | addConstraint | dropConstraint
  | setSchema | setTablespace | ownerTo
  | other (tag : String)
  deriving DecidableEq, Repr

namespace AlterKind

/-- The kind that a parse tree names. -/
def ofName : String → AlterKind
  | "AT_AddColumn" => addColumn
  | "AT_DropColumn" => dropColumn
  | "AT_AlterColumnType" => alterColumnType
  | "AT_SetNotNull" => setNotNull
  | "AT_DropNotNull" => dropNotNull
  | "AT_RenameColumn" => renameColumn
  | "AT_RenameTable" => renameTable
  | "AT_AddConstraint" => addConstraint
  | "AT_DropConstraint" => dropConstraint
  | "AT_SetSchema" => setSchema
  | "AT_SetTableSpace" => setTablespace
  | "AT_ChangeOwner" => ownerTo
  | "AT_OwnerTo" => ownerTo
  | tag => other tag

/-- The kind as messages show it. -/
def text : AlterKind → String
  | addColumn => "ADD COLUMN"
  | dropColumn => "DROP COLUMN"
  | alterColumnType => "ALTER COLUMN TYPE"
  | setNotNull => "SET NOT NULL"
  | dropNotNull => "DROP NOT NULL"
  | renameColumn => "RENAME COLUMN"
  | renameTable => "RENAME TABLE"
  | addConstraint => "ADD CONSTRAINT"
  | dropConstraint => "DROP CONSTRAINT"
  | setSchema => "SET SCHEMA"
  | setTablespace => "SET TABLESPACE"
  | ownerTo => "OWNER TO"
  | other tag => tag

end AlterKind

/-- An operation; the parameters that its kind does not have are empty. The canonical form of a
check is compared in place of its definition. -/
structure AlterOperation where
  kind : AlterKind
  column : String
  type : String
  notNull : Bool
  behavior : String
  newName : String
  constraint : String
  definition : String
  checkSignature : Option String
  deriving DecidableEq, Repr

namespace AlterOperation

/-- An operation without parameters. -/
def blank (kind : AlterKind) : AlterOperation := ⟨kind, "", "", false, "", "", "", "", none⟩

/-- The word after a prefix, however often the prefix stands there. -/
def withoutLead (lead : List Char) : Nat → List Char → List Char
  | 0, cs => cs
  | fuel + 1, cs =>
    if lead.isPrefixOf cs ∧ lead ≠ [] then withoutLead lead fuel (cs.drop lead.length) else cs

/-- The name of a constraint kind that has no form of its own. -/
def otherConstraint (kind : String) : String :=
  String.ofList (withoutLead "CONSTR_".toList kind.length kind.toList)

/-- The check of a constraint: its canonical form, if it states a condition, and its
definition. -/
def checkOf (t : Tree) : Option String × String :=
  match t.wrapped? "raw_expr" with
  | none => (none, "CHECK")
  | some e =>
    match e.condition? .empty with
    | some c => (some c.signature, "CHECK (" ++ c.text ++ ")")
    | none => (none, "CHECK (" ++ e.render .empty ++ ")")

/-- The canonical form of a check, and the definition of a constraint. -/
def definitionOf (t : Tree) : Option String × String :=
  let names := fun key => commas (t.lowerStringsOf key)
  match t.constraintKind with
  | "CONSTR_PRIMARY" => (none, "PRIMARY KEY (" ++ names "keys" ++ ")")
  | "CONSTR_UNIQUE" => (none, "UNIQUE (" ++ names "keys" ++ ")")
  | "CONSTR_FOREIGN" =>
    (none, "FOREIGN KEY (" ++ names "fk_attrs" ++ ") REFERENCES " ++
      t.lowerNameAt ["pktable", "relname"] ++ " (" ++ names "pk_attrs" ++ ")")
  | "CONSTR_CHECK" => checkOf t
  | "CONSTR_NOTNULL" => (none, "NOT NULL")
  | kind => (none, otherConstraint kind)

/-- The type that an operation gives a column. -/
def newType (t : Tree) : String :=
  match t.path? ["def", "ColumnDef"] with
  | some d => d.columnType
  | none => Text.lower (t.lastStringAt ["def", "TypeName", "names"])

/-- The operation of an `AlterTableCmd` node. -/
def ofTree (t : Tree) : AlterOperation :=
  let name := t.lowerNameOf "name"
  let kind := AlterKind.ofName (t.valueOf "subtype")
  let op := blank kind
  match kind with
  | .addColumn =>
    match t.path? ["def", "ColumnDef"] with
    | none => op
    | some d =>
      { op with
        column := d.lowerNameOf "colname"
        type := d.columnType
        notNull := d.constraints.any fun c => c.constraintKind == "CONSTR_NOTNULL" }
  | .dropColumn => { op with column := name, behavior := t.valueOf "behavior" }
  | .alterColumnType => { op with column := name, type := newType t }
  | .setNotNull => { op with column := name }
  | .dropNotNull => { op with column := name }
  | .renameColumn => { op with column := name, newName := t.lowerNameOf "newname" }
  | .renameTable => { op with newName := t.lowerNameOf "newname" }
  | .addConstraint =>
    match t.path? ["def", "Constraint"] with
    | none => op
    | some c =>
      { op with
        constraint := c.lowerNameOf "conname"
        checkSignature := (definitionOf c).1
        definition := (definitionOf c).2 }
  | .dropConstraint => { op with constraint := name, behavior := t.valueOf "behavior" }
  | .setSchema => { op with newName := t.lowerNameOf "newschema" }
  | .setTablespace => { op with newName := name }
  | .ownerTo => { op with newName := t.lowerNameAt ["newowner", "rolename"] }
  | .other _ => { op with column := name }

/-- The parameters of an operation in words. -/
def parameterText (op : AlterOperation) : String :=
  match op.kind with
  | .addColumn => " " ++ op.column ++ " " ++ op.type ++ (if op.notNull then " NOT NULL" else "")
  | .alterColumnType => " " ++ op.column ++ " TO " ++ op.type
  | .renameColumn => " " ++ op.column ++ " TO " ++ op.newName
  | .addConstraint =>
    (if op.constraint = "" then "" else " " ++ op.constraint) ++ " " ++ op.definition
  | .dropConstraint => " " ++ op.constraint
  | .renameTable => " " ++ op.newName
  | .setSchema => " " ++ op.newName
  | .setTablespace => " " ++ op.newName
  | .ownerTo => " " ++ op.newName
  | _ => if op.column = "" then "" else " " ++ op.column

/-- The operation in words. -/
def describe (op : AlterOperation) : String := op.kind.text ++ op.parameterText

/-- The line for a parameter of operation `n`, if it differs. -/
def parameterMismatch (n : Nat) (what expected found : String) : String :=
  if expected = found then ""
  else s!"● Op {n}: expected {what} '{expected}' but found '{found}'.\n"

/-- Whether a column may be null, in words. -/
def nullability (notNull : Bool) : String := if notNull then "NOT NULL" else "nullable"

/-- Two checks of the same canonical form. -/
def sameCheck (r s : AlterOperation) : Bool :=
  match r.checkSignature, s.checkSignature with
  | some a, some b => a == b
  | _, _ => false

/-- How the parameters of operation `n` differ. A constraint name counts only where the reference
gives one. -/
def mismatch (n : Nat) (r s : AlterOperation) : String :=
  parameterMismatch n "column" r.column s.column ++
  parameterMismatch n "type" r.type s.type ++
  parameterMismatch n "behavior" r.behavior s.behavior ++
  parameterMismatch n "new name" r.newName s.newName ++
  parameterMismatch n "nullability" (nullability r.notNull) (nullability s.notNull) ++
  (if r.constraint = "" then ""
    else parameterMismatch n "constraint name" r.constraint s.constraint) ++
  (if sameCheck r s then "" else parameterMismatch n "constraint" r.definition s.definition)

end AlterOperation

/-! ## 2. Statements -/

/-- An `ALTER TABLE` statement. -/
structure AlterTable where
  table : String
  operations : List AlterOperation
  deriving DecidableEq, Repr

namespace AlterTable

/-- The statement of an `AlterTableStmt` node. -/
def ofTree (t : Tree) : AlterTable where
  table := t.lowerNameAt ["relation", "relname"]
  operations := ((t.under "cmds").filter (·.key == "AlterTableCmd")).map AlterOperation.ofTree

/-- The statement in words. -/
def describe (s : AlterTable) : String :=
  if s.table = "" then "No ALTER statement found."
  else
    "Alter table '" ++ s.table ++ "': " ++
      join "; " (s.operations.map AlterOperation.describe) ++ "."

/-- The kinds of the operations. -/
def kinds (s : AlterTable) : List AlterKind := s.operations.map AlterOperation.kind

/-- The kinds of the operations in words. -/
def sequence (s : AlterTable) : String := commas (s.kinds.map AlterKind.text)

/-- Compares operation `n`. -/
def compareOperation (report : Report) (item : Nat × AlterOperation × AlterOperation) : Report :=
  let (n, r, s) := item
  let message := AlterOperation.mismatch n r s
  if message = "" then report.pass s!"Operation {n}"
  else
    report.failWith s!"Operation {n}" message
      ("💡 Review the parameters of your " ++ r.kind.text ++ " operation.")

/-- The report on an `ALTER TABLE` statement. -/
def compare (r s : AlterTable) : Report :=
  let report :=
    if r.table = s.table then Report.empty.pass "Table name"
    else
      Report.empty.failWith "Table name"
        s!"● The table name should be '{r.table}', but found '{s.table}'.\n"
        s!"💡 Alter the table '{r.table}'."
  if r.operations.length ≠ s.operations.length then
    report.failWith "Number of operations"
      s!"● Expected {r.operations.length} operation(s), but found {s.operations.length}.\n"
      "💡 Perform exactly the ALTER operations that are asked for."
  else
    let report := report.pass "Number of operations"
    if r.kinds ≠ s.kinds then
      report.failWith "Operation types"
        s!"● Expected operation sequence: {r.sequence} but found: {s.sequence}.\n"
        s!"💡 Use the operations {r.sequence} in that order."
    else
      (numbered 1 (r.operations.zip s.operations)).foldl compareOperation
        (report.pass "Operation types")

end AlterTable

end QueryGrading
