import QueryGrading.Query.Select.Items

/-!
# Ordering

The items of `ORDER BY`, in order: what is sorted on, the direction, the place of nulls, and the
collation. A number stands for the item of the select list at that position.

`extract_order_by` reads them and `compare_order_by` compares them one by one. A position that the
select list does not have, or that is no number, has one form for all (`invalidPosition`).
-/

namespace QueryGrading

open Text (concat commasAnd join)

/-! ## 1. Items -/

/-- The direction of a sort. -/
inductive SortDirection
  | ascending
  | descending
  | byOperator
  deriving DecidableEq, Repr

/-- Where nulls stand. -/
inductive NullsOrder
  | unspecified
  | first
  | last
  deriving DecidableEq, Repr

/-- An item of an ordering; the collation is empty if there is none. -/
structure OrderItem where
  expression : String
  direction : SortDirection
  nulls : NullsOrder
  collation : String
  deriving DecidableEq, Repr

/-- The form of a number that is no position of the select list. -/
def invalidPosition : String := "<Invalid Position Reference>"

/-- A numeral of at most 64 bits, which may begin with a plus. -/
def numeral? (s : String) : Option Nat :=
  let digits := match s.toList with
    | '+' :: rest => rest
    | cs => cs
  if digits.isEmpty || !digits.all Char.isDigit then none
  else
    let n := digits.foldl (fun n c => n * 10 + (c.toNat - '0'.toNat)) 0
    if n < Nat.pow 2 64 then some n else none

/-- The item of the select list at a position counted from one. -/
def SelectList.at? (l : SelectList) (position : Nat) : Option Projection :=
  if position = 0 then none else l.items[position - 1]?

namespace OrderItem

/-- What an item sorts on. -/
def expressionOf (l : SelectList) (scope : Scope) (t : Tree) : String :=
  match t.wrapped? "node" with
  | none => ""
  | some e =>
    if e.key = "A_Const" then
      match (numeral? e.constant).bind l.at? with
      | some item => item.text
      | none => invalidPosition
    else e.render scope

/-- The direction of an item. -/
def directionOf (t : Tree) : SortDirection :=
  match t.valueOf "sortby_dir" with
  | "SORTBY_DESC" => .descending
  | "SORTBY_USING" => .byOperator
  | _ => .ascending

/-- The place of nulls of an item. -/
def nullsOf (t : Tree) : NullsOrder :=
  match t.valueOf "sortby_nulls" with
  | "SORTBY_NULLS_FIRST" => .first
  | "SORTBY_NULLS_LAST" => .last
  | _ => .unspecified

/-- The item of a `SortBy` node. -/
def ofTree (l : SelectList) (scope : Scope) (t : Tree) : OrderItem where
  expression := expressionOf l scope t
  direction := directionOf t
  nulls := nullsOf t
  collation := join "." (t.stringsOf "collation")

/-- The item in words. -/
def describe (item : OrderItem) : String :=
  let direction := match item.direction with
    | .ascending => " ascending"
    | .descending => " descending"
    | .byOperator => ""
  let nulls := match item.nulls with
    | .first => " nulls first"
    | .last => " nulls last"
    | .unspecified => ""
  let collation := if item.collation = "" then "" else " collate \"" ++ item.collation ++ "\""
  item.expression ++ direction ++ nulls ++ collation

/-- How item `n` differs from that of the reference. -/
def mismatch (n : Nat) (r s : OrderItem) : String :=
  (if r.expression = s.expression then "" else s!"● Order Item {n}: Mismatch in expressions.\n") ++
  (if r.direction = s.direction then ""
    else s!"● Order Item {n}: Mismatch in sorting direction.\n") ++
  (if r.nulls = s.nulls then "" else s!"● Order Item {n}: Mismatch in NULLS ordering.\n") ++
  (if r.collation = s.collation then "" else s!"● Order Item {n}: Mismatch in collation.\n")

end OrderItem

/-! ## 2. The clause -/

/-- The `ORDER BY` clause. -/
abbrev OrderBy := List OrderItem

namespace OrderBy

/-- The ordering of a statement with this select list. -/
def ofTree (l : SelectList) (scope : Scope) (t : Tree) : OrderBy :=
  ((t.under "sortClause").filter (·.key == "SortBy")).map (OrderItem.ofTree l scope)

/-- The ordering in words. -/
def describe (items : OrderBy) : String :=
  if items.isEmpty then "No ORDER BY clause present"
  else "Sort the output data by " ++ commasAnd (items.map OrderItem.describe)

/-- The verdict on the ordering, item by item. -/
def compare (r s : OrderBy) : ClauseVerdict :=
  if r.isEmpty && s.isEmpty then .absent "Both queries have no ORDER BY clause."
  else
    .ofMessage
      ((if r.length = s.length then "" else "\n ● Order By: Different number of order items.\n") ++
        concat ((numbered 1 (r.zip s)).map fun (n, a, b) => OrderItem.mismatch n a b) ++
        (if s.length < r.length then "● Order By: Reference has additional order items.\n"
        else if r.length < s.length then
          "● Order By: Other query has additional order items.\n"
        else "")) []

end OrderBy

end QueryGrading
