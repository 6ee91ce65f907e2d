import QueryGrading.Query.Report
import QueryGrading.Text.Letter

/-!
# Conditions

The boolean conditions of `WHERE`, `HAVING`, `CHECK` and joins. `signature` is a canonical form: it
does not depend on the order of a conjunction or disjunction, of the operands of an equation, or on
the side on which a literal stands in a comparison. `mismatch?` compares two conditions and says
where they differ.

A `Condition` is a `ConditionNode`, `mismatch?` is `compare_nodes` with the message as its result,
and `compareClause` is `compare_clause`. Two conjunctions, or two disjunctions, are compared there
by the number of their parts and by the sorted signatures of these, and are not gone into. Two
simple conditions are compared as they are written: only `signature` turns a comparison round
(`literal_on_left`, `flipped_operator`), so two conditions of one signature need not be found equal.
The proofs say when they are.
-/

namespace QueryGrading

open Text (join concat)

/-! ## 1. Conditions and their text -/

/-- A condition; the operands of a simple one are written expressions. -/
inductive Condition
  | simple (left operator right : String)
  | and (parts : List Condition)
  | or (parts : List Condition)
  | not (part : Condition)
  deriving Repr, Inhabited

namespace Condition

/-- The name of the outermost connective. -/
def kindName : Condition → String
  | simple _ _ _ => "SIMPLE"
  | and _ => "AND"
  | or _ => "OR"
  | not _ => "NOT"

mutual
/-- The condition as messages show it. -/
def text : Condition → String
  | simple left operator right => left ++ " " ++ operator ++ " " ++ right
  | and parts => "(" ++ join " and " (texts parts) ++ ")"
  | or parts => "(" ++ join " or " (texts parts) ++ ")"
  | not part => "not (" ++ part.text ++ ")"

/-- The texts of some conditions. -/
def texts : List Condition → List String
  | [] => []
  | part :: rest => part.text :: texts rest
end

/-! ## 2. Signatures -/

/-- The operators whose operands may be exchanged. -/
def commutative : List String := ["=", "<>", "!="]

/-- The operator that says the same with its operands exchanged. -/
def flipped? : String → Option String
  | "<" => some ">"
  | ">" => some "<"
  | "<=" => some ">="
  | ">=" => some "<="
  | _ => none

/-- The left operand looks like a literal and the right one like a name. -/
def literalOnLeft (left right : String) : Bool :=
  match left.toList, right.toList with
  | l :: _, r :: _ => (l.isDigit || l == '\'') && (Text.isLetter r || r == '_')
  | _, _ => false

/-- A comparison with a literal on the left is turned round. -/
def literalLast (left operator right : String) : String × String × String :=
  match literalOnLeft left right, flipped? operator with
  | true, some operator => (right, operator, left)
  | _, _ => (left, operator, right)

/-- The operands of an equation in ascending order. -/
def operandsSorted (left operator right : String) : String × String × String :=
  if commutative.contains operator ∧ right < left then (right, operator, left)
  else (left, operator, right)

/-- The canonical form of a simple condition. -/
def simpleSignature (left operator right : String) : String :=
  let (left, operator, right) := literalLast left operator right
  let (left, operator, right) := operandsSorted left operator right
  "SIMPLE:" ++ left ++ operator ++ right

mutual
/-- The canonical form of a condition. -/
def signature : Condition → String
  | simple left operator right => simpleSignature left operator right
  | and parts => "AND:" ++ concat ((sorted (signatures parts)).map (· ++ ";"))
  | or parts => "OR:" ++ concat ((sorted (signatures parts)).map (· ++ ";"))
  | not part => "NOT:" ++ part.signature

/-- The canonical forms of some conditions, in their order. -/
def signatures : List Condition → List String
  | [] => []
  | part :: rest => part.signature :: signatures rest
end

/-- The canonical forms of some conditions in ascending order. -/
def sortedSignatures (parts : List Condition) : List String := sorted (signatures parts)

/-! ## 3. Comparison -/

/-- Two pairs of operands name the same operands, in any order and number. -/
def sameOperands (l₁ r₁ l₂ r₂ : String) : Bool :=
  [l₂, r₂].contains l₁ && [l₂, r₂].contains r₁ && [l₁, r₁].contains l₂ && [l₁, r₁].contains r₂

/-- How two simple conditions differ. -/
def simpleMismatch? (l₁ o₁ r₁ l₂ o₂ r₂ : String) : Option String :=
  if o₁ ≠ o₂ then
    some s!"❗ Operator mismatch: Expected '{o₁}', but found '{o₂}'.\n"
  else
    let swaps := commutative.contains o₁
    if if swaps then sameOperands l₁ r₁ l₂ r₂ else l₁ == l₂ && r₁ == r₂ then none
    else
      let expected := if swaps then "Expected operands" else "Expected"
      let found := if swaps then "Found operands" else "Found"
      some (s!"❗ Operands mismatch in condition '{l₁} {o₁} {r₁}'.\n" ++
        s!"❗ {expected}: '{l₁}' and '{r₁}'.\n" ++
        s!"❗ {found}: '{l₂}' and '{r₂}'.\n")

/-- How the parts of two conjunctions or disjunctions differ. -/
def partsMismatch? (kind : String) (expected found : List Condition) : Option String :=
  if expected.length ≠ found.length then
    some (s!"❗ Number of conditions in {kind} clause mismatch. " ++
      s!"Expected {expected.length}, but found {found.length}.\n")
  else
    let a := sortedSignatures expected
    let b := sortedSignatures found
    if a = b then none
    else
      let listed := fun xs => concat (xs.map (· ++ "; "))
      some (s!"❗ Mismatch in conditions within {kind} clause.\n" ++
        "❗ Expected conditions: " ++ listed a ++ "\n " ++
        "❗ Found conditions: " ++ listed b ++ "\n")

/-- How a condition differs from the expected one; nothing if it does not. -/
def mismatch? : Condition → Condition → Option String
  | simple l₁ o₁ r₁, simple l₂ o₂ r₂ => simpleMismatch? l₁ o₁ r₁ l₂ o₂ r₂
  | and a, and b => partsMismatch? "AND" a b
  | or a, or b => partsMismatch? "OR" a b
  | not a, not b => mismatch? a b
  | a, b =>
    some ("\n ❗ Condition type mismatch: " ++
      s!"Expected {a.kindName}, but found {b.kindName}.\n")

/-- The conditions match. -/
def matching (expected found : Condition) : Bool := (mismatch? expected found).isNone

/-- The verdict on the condition of a clause such as `WHERE`. -/
def compareClause (clause : String) : Option Condition → Option Condition → ClauseVerdict
  | none, none => .absent s!"Both queries have no {clause} clause."
  | some _, none =>
    .ofMessage s!"Mismatch in {clause} clause presence.\n"
      [s!"💡 Add a {clause} clause to filter the data as specified."]
  | none, some _ =>
    .ofMessage s!"Mismatch in {clause} clause presence.\n"
      [s!"💡 Remove the {clause} clause if it's not required."]
  | some expected, some found =>
    match mismatch? expected found with
    | none => .ofMessage "" []
    | some message =>
      .ofMessage message
        [s!"💡 Review your {clause} clause conditions to match the specified requirements."]

/-- The texts of an optional condition; empty if there is none. -/
def text? : Option Condition → String
  | some c => c.text
  | none => ""

end Condition

end QueryGrading
