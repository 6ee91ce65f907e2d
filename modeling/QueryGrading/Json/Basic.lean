import QueryGrading.Decimal.Binary64

/-!
# JSON values

A number is an integer of at most 64 bits or a `Binary64`. The members of an object are kept in
ascending order of their keys, one member a key: `Members.put` keeps that order and lets the later
of two equal keys win.

This is `Value`, the type of the documents that are read without expecting a shape: parse trees
(`from_json`) and the cells of a reply (`cell_text`). The order of the members matters, for
`build_children` takes them in that order into the tree.
-/

namespace QueryGrading

open Decimal (Binary64)

/-- A JSON number. -/
inductive JsonNumber
  | integer (n : Int)
  | real (x : Binary64)
  deriving DecidableEq, Repr

/-- A JSON value. -/
inductive Json
  | null
  | bool (b : Bool)
  | number (n : JsonNumber)
  | string (s : String)
  | array (items : List Json)
  | object (members : List (String × Json))
  deriving Repr, Inhabited

/-- The members of an object, in ascending order of their keys. -/
abbrev Members := List (String × Json)

namespace Members

/-- Sets the value of a key. -/
def put (key : String) (value : Json) : Members → Members
  | [] => [(key, value)]
  | (k, v) :: rest =>
    if key < k then (key, value) :: (k, v) :: rest
    else if key = k then (key, value) :: rest
    else (k, v) :: put key value rest

/-- The members of a list of pairs; the later of two equal keys wins. -/
def ofList (pairs : List (String × Json)) : Members :=
  pairs.foldl (fun ms p => put p.1 p.2 ms) []

end Members

namespace Json

/-- The integer `n`. -/
def ofNat (n : Nat) : Json := .number (.integer n)

/-- The array of some texts. -/
def ofTexts (xs : List String) : Json := .array (xs.map .string)

/-- The object with these members, in any order. -/
def ofMembers (pairs : List (String × Json)) : Json := .object (Members.ofList pairs)

/-- A text or `null`. -/
def ofText? : Option String → Json
  | some s => .string s
  | none => .null

/-- The value of a member of an object. -/
def member? (key : String) : Json → Option Json
  | .object members => members.lookup key
  | _ => none

end Json

end QueryGrading
