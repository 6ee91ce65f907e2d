import QueryGrading.Query.Condition
import QueryGrading.Query.Expression

/-!
# Conditions of a parse tree

`Tree.condition?` reads the condition that an expression states, as `extract_condition` does with
`extract_operator_expression` for everything written with an operator. An expression of a kind that
states none, such as a bare column, gives nothing; inside of a conjunction or disjunction it is
passed over, and the negation of it is nothing too. `clauseCondition?` is `extract_clause`.
-/

namespace QueryGrading

namespace Tree

/-! ## 1. Simple conditions -/

/-- The first expression on the right side. -/
def rightSide? (t : Tree) : Option Tree := t.wrapped? "rexpr"

/-- The left operand. -/
def leftForm (scope : Scope) (t : Tree) : String := t.renderWrapped scope "lexpr"

/-- The right operand. -/
def rightForm (scope : Scope) (t : Tree) : String := t.renderWrapped scope "rexpr"

/-- The items of a list, or the elements of an array. -/
def listed (t : Tree) : List Tree :=
  match t.child? "items" with
  | some c => c.children
  | none => t.under "elements"

/-- The right side of `IN`. -/
def memberForm (scope : Scope) (t : Tree) : String :=
  match t.rightSide? with
  | none => missingOperand
  | some e =>
    if e.key = "List" ∨ e.key = "A_ArrayExpr" then
      "(" ++ Text.quotedCommas (e.listed.map (render scope)) ++ ")"
    else e.render scope

/-- The right side of `BETWEEN`: two bounds in a list, or in fields of their own. -/
def rangeForm (scope : Scope) (t : Tree) : String :=
  let bounds := match t.rightSide? with
    | some e => e.renderUnder scope "items"
    | none => []
  match bounds with
  | [low, high] => low ++ " AND " ++ high
  | _ => t.renderWrapped scope "lower" ++ " AND " ++ t.renderWrapped scope "upper"

/-- The condition of an operator expression that is not a negation. -/
def operatorCondition? (scope : Scope) (t : Tree) : Option Condition :=
  let operator := t.operatorOf "name"
  match t.valueOf "kind" with
  | "AEXPR_OP" => some (.simple (t.leftForm scope) operator (t.rightForm scope))
  | "AEXPR_IN" =>
    some (.simple (t.leftForm scope) (if operator = "<>" then "NOT IN" else "IN")
      (t.memberForm scope))
  | "AEXPR_LIKE" =>
    some (.simple (t.leftForm scope) (if operator.startsWith "!" then "NOT LIKE" else "LIKE")
      (t.rightForm scope))
  | "AEXPR_ILIKE" =>
    some (.simple (t.leftForm scope) (if operator.startsWith "!" then "NOT ILIKE" else "ILIKE")
      (t.rightForm scope))
  | "AEXPR_BETWEEN" => some (.simple (t.leftForm scope) "BETWEEN" (t.rangeForm scope))
  | "AEXPR_NOT_BETWEEN" => some (.simple (t.leftForm scope) "NOT BETWEEN" (t.rangeForm scope))
  | _ => none

/-- The condition of a test for null. -/
def nullCondition? (scope : Scope) (t : Tree) : Option Condition :=
  match t.valueOf "nulltesttype" with
  | "IS_NULL" => some (.simple (t.renderWrapped scope "arg") "IS NULL" "")
  | "IS_NOT_NULL" => some (.simple (t.renderWrapped scope "arg") "IS NOT NULL" "")
  | _ => none

/-- The operator before `ANY` or `ALL`, an equation if none is written. -/
def quantifiedOperator (t : Tree) (quantifier : String) : String :=
  let operator := t.operatorOf "operName"
  (if operator = "" then "=" else operator) ++ " " ++ quantifier

/-- The condition of a subquery. -/
def subqueryCondition? (scope : Scope) (t : Tree) : Option Condition :=
  let test := t.renderWrapped scope "testexpr"
  match t.valueOf "subLinkType" with
  | "EXISTS_SUBLINK" => some (.simple "EXISTS" "" subquery)
  | "ANY_SUBLINK" => some (.simple test (t.quantifiedOperator "ANY") subquery)
  | "ALL_SUBLINK" => some (.simple test (t.quantifiedOperator "ALL") subquery)
  | "EXPR_SUBLINK" => some (.simple test "=" subquery)
  | _ => none

/-! ## 2. Conditions -/

/-- The condition of a connective, given those of its arguments. -/
def connect? (connective : String) (parts : List Condition) : Option Condition :=
  match connective with
  | "AND_EXPR" => some (.and parts)
  | "OR_EXPR" => some (.or parts)
  | "NOT_EXPR" => parts.head?.map .not
  | _ => none

/-- The condition that an expression states. -/
def condition? (scope : Scope) (t : Tree) : Option Condition :=
  match t.key with
  | "A_Expr" =>
    if t.valueOf "kind" = "AEXPR_NOT" then
      match _h : t.wrapped? "rexpr" with
      | some e => (condition? scope e).map .not
      | none => none
    else t.operatorCondition? scope
  | "BoolExpr" =>
    connect? (t.valueOf "boolop")
      ((t.under "args").attach.filterMap fun ⟨e, _⟩ => condition? scope e)
  | "NullTest" => t.nullCondition? scope
  | "SubLink" => t.subqueryCondition? scope
  | _ => none
termination_by t
decreasing_by
  all_goals first
    | exact sizeOf_wrapped? _h
    | exact sizeOf_under ‹_›

/-- The condition of the first node below this one. -/
def heldCondition? (scope : Scope) (t : Tree) : Option Condition :=
  t.children.head?.bind (condition? scope)

/-- The condition of a clause such as `whereClause`. -/
def clauseCondition? (scope : Scope) (t : Tree) (clause : String) : Option Condition :=
  (t.child? clause).bind (heldCondition? scope)

/-- The condition that an expression states, or the expression itself where it states none. -/
def conditionOrForm (scope : Scope) (t : Tree) : Condition :=
  match t.condition? scope with
  | some c => c
  | none => .simple (t.render scope) "" ""

end Tree

end QueryGrading
