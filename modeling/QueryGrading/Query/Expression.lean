import QueryGrading.Tree.Basic

/-!
# Expressions

`render` writes a scalar expression of a parse tree in a short form: the form is shown in feedback
and is what two expressions are compared by. A `Scope` gives the names that the form resolves:
aliases of tables become the tables, and aliases of the select list become the expressions they
name, outside the arguments of functions.

The functions are `constant`, `column_name`, `function_call`, `render_wrapped` and `render`; a scope
is made by `with_table` and `with_select_alias` and asked by `resolve_table` and
`resolve_select_alias`. Of an alias that was declared twice the last table counts, and the first
expression. A kind of expression that is not known has one form for all (`unknownExpression`), and
so has a subquery.
-/

namespace QueryGrading

open Text (join commas)

/-! ## 1. Names in scope -/

/-- The aliases of tables and those of the select list, in the order of their declaration. -/
structure Scope where
  tables : List (String × String)
  outputs : List (String × String)
  deriving Repr

namespace Scope

/-- No aliases. -/
def empty : Scope := ⟨[], []⟩

/-- Adds an alias of a table; an empty alias is none. -/
def addTable (scope : Scope) (shortName table : String) : Scope :=
  if shortName = "" then scope else { scope with tables := scope.tables ++ [(shortName, table)] }

/-- Adds an alias of the select list; an empty alias is none. -/
def addOutput (scope : Scope) (shortName text : String) : Scope :=
  if shortName = "" then scope else { scope with outputs := scope.outputs ++ [(shortName, text)] }

/-- The table of an alias, by the last declaration; a name that is no alias stays. -/
def table (scope : Scope) (name : String) : String := (scope.tables.reverse.lookup name).getD name

/-- The expression of an output alias, by the first declaration; a name that is no alias
stays. -/
def output (scope : Scope) (name : String) : String := (scope.outputs.lookup name).getD name

/-- Without the aliases of the select list. -/
def tablesOnly (scope : Scope) : Scope := { scope with outputs := [] }

end Scope

namespace Tree

/-! ## 2. Names, operators and constants -/

/-- The strings of a list node. -/
def strings (t : Tree) : List String :=
  t.children.filterMap fun c =>
    if c.key = "String" then (c.child? "sval").map fun s => Text.withoutQuotes s.value else none

/-- The strings of the child with this key; none if there is no such child. -/
def stringsOf (t : Tree) (key : String) : List String :=
  match t.child? key with
  | some c => c.strings
  | none => []

/-- The first string of the child with this key, which names an operator. -/
def operatorOf (t : Tree) (key : String) : String := (t.stringsOf key).headD ""

/-- The last string at the end of a path. -/
def lastStringAt (t : Tree) (path : List String) : String :=
  match t.path? path with
  | some c => c.strings.getLastD ""
  | none => ""

/-- The keys of the nodes that hold the value of a constant. -/
def constantKeys : List String := ["ival", "sval", "fval", "boolval"]

/-- What a node says of the constant it belongs to: a value counts always, and the zero and the
false that are written as nothing count if no value was found before. -/
def constantAt (found : Option String) (key value : String) (isLeaf : Bool) : Option String :=
  if !constantKeys.contains key then found
  else if value ≠ "" then some (Text.withoutQuotes value)
  else if isLeaf && found.isNone then
    if key = "ival" then some "0" else if key = "boolval" then some "false" else none
  else found

mutual
/-- The last value in a tree. -/
def lastConstant (found : Option String) : Tree → Option String
  | node key value children =>
    lastConstantOf (constantAt found key value children.isEmpty) children

/-- The last value in several trees. -/
def lastConstantOf (found : Option String) : List Tree → Option String
  | [] => found
  | t :: rest => lastConstantOf (lastConstant found t) rest
end

/-- The value of a constant, without quotes. -/
def constant (t : Tree) : String :=
  if t.isTrue "isnull" then "NULL" else (lastConstant none t).getD ""

/-- The parts of the name of a column; a star stands for all columns. -/
def columnParts (t : Tree) : List String :=
  (t.under "fields").filterMap fun f =>
    if f.key = "String" then (f.child? "sval").map fun s => Text.withoutQuotes s.value
    else if f.key = "A_Star" then some "*"
    else none

/-- A column with its table, if it is qualified; a schema is left out. -/
def columnName (scope : Scope) (t : Tree) : String :=
  match t.columnParts.reverse with
  | [] => ""
  | [column] => column
  | column :: qualifier :: _ => scope.table qualifier ++ "." ++ column

/-! ## 3. Rendering -/

/-- The form of an operand that is missing. -/
def missingOperand : String := "(null)"

/-- The form of a subquery. -/
def subquery : String := "(subquery)"

/-- The form of any other expression. -/
def unknownExpression : String := "(unknown expression)"

/-- The form of a function call, given those of its arguments. -/
def callForm (t : Tree) (arguments : List String) : String :=
  let name := (t.stringsOf "funcname").getLastD ""
  if t.isTrue "agg_star" then name ++ "(*)"
  else
    let distinct := if t.isTrue "agg_distinct" then "DISTINCT " else ""
    name ++ "(" ++ distinct ++ commas arguments ++ ")"

/-- The form of an expression. -/
def render (scope : Scope) (t : Tree) : String :=
  let operand := fun key =>
    match _h : t.wrapped? key with
    | some e => render scope e
    | none => missingOperand
  match t.key with
  | "ColumnRef" => scope.output (t.columnName scope)
  | "FuncCall" => t.callForm ((t.under "args").attach.map fun ⟨e, _⟩ => render scope.tablesOnly e)
  | "A_Const" => t.constant
  | "A_Expr" =>
    "(" ++ operand "lexpr" ++ " " ++ t.operatorOf "name" ++ " " ++ operand "rexpr" ++ ")"
  | "TypeCast" => operand "arg" ++ "::" ++ t.lastStringAt ["typeName", "names"]
  | "SubLink" => subquery
  | "CollateClause" => operand "arg" ++ " COLLATE \"" ++ join "." (t.stringsOf "collname") ++ "\""
  | "BoolExpr" =>
    let connective := if t.valueOf "boolop" = "AND_EXPR" then " and " else " or "
    "(" ++ join connective ((t.under "args").attach.map fun ⟨e, _⟩ => render scope e) ++ ")"
  | "List" => "(" ++ commas ((t.under "items").attach.map fun ⟨e, _⟩ => render scope e) ++ ")"
  | "SetToDefault" => "DEFAULT"
  | _ => unknownExpression
termination_by t
decreasing_by
  all_goals first
    | exact sizeOf_wrapped? _h
    | exact sizeOf_under ‹_›

/-- The form of the first node below this one. -/
def renderHeld (scope : Scope) (t : Tree) : String :=
  match t.children.head? with
  | some e => e.render scope
  | none => missingOperand

/-- The form of the operand below the child with this key. -/
def renderWrapped (scope : Scope) (t : Tree) (key : String) : String :=
  match t.child? key with
  | some c => c.renderHeld scope
  | none => missingOperand

/-- The forms of the nodes below the child with this key. -/
def renderUnder (scope : Scope) (t : Tree) (key : String) : List String :=
  (t.under key).map (render scope)

end Tree

end QueryGrading
