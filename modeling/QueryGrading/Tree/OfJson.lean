import QueryGrading.Tree.Basic
import QueryGrading.Json.Source
import QueryGrading.Json.Printer

/-!
# Parse trees from JSON

`Tree.ofJson` makes a node of every member of an object. An item of a list has no node of its own:
its members join those of the list, a primitive item is a leaf without key, and a list inside a list
is keyed by its position. Nodes whose key says nothing about the statement (`prunedKeys`) are left
out, and their children take their place.

The functions are `build_children`, which is `ofValue`, `ofMembers` and `ofItems` here for the three
kinds of values, `build_member`, `prune`, and `from_json` with `from_json_str`. A node that is left
out is replaced after its own children were pruned, so pruned nodes below each other vanish
together.
-/

namespace QueryGrading

namespace Tree

/-- Keys that carry no meaning for grading. -/
def prunedKeys : List String :=
  ["location", "stmt_len", "version", "inh", "relpersistence", "limitOption", "op"]

/-- Nodes with a pruned key give way to their children. -/
def prune (ts : List Tree) : List Tree :=
  ts.flatMap fun t => if prunedKeys.contains t.key then t.children else [t]

mutual
/-- The nodes that a value contributes to the node it belongs to. -/
def ofValue : Json → List Tree
  | .object members => prune (ofMembers members)
  | .array items => prune (ofItems 0 items)
  | .null => [leaf "" "null"]
  | .bool b => [leaf "" (Json.bool b).compact]
  | .number n => [leaf "" n.text]
  | .string s => [leaf "" (Json.quote s)]

/-- The node of a member. -/
def ofMember (key : String) : Json → Tree
  | .object members => node key "" (prune (ofMembers members))
  | .array items => node key "" (prune (ofItems 0 items))
  | .null => leaf key "null"
  | .bool b => leaf key (Json.bool b).compact
  | .number n => leaf key n.text
  | .string s => leaf key (Json.quote s)

/-- The nodes of the members of an object. -/
def ofMembers : List (String × Json) → List Tree
  | [] => []
  | (key, value) :: rest => ofMember key value :: ofMembers rest

/-- The nodes of the items of a list from position `index` on. -/
def ofItems (index : Nat) : List Json → List Tree
  | [] => []
  | .array items :: rest => ofMember (toString index) (.array items) :: ofItems (index + 1) rest
  | item :: rest => ofValue item ++ ofItems (index + 1) rest
end

/-- The key of the node above a whole tree. -/
def rootKey : String := "root"

/-- The parse tree of a JSON value. -/
def ofJson (json : Json) : Tree := node rootKey "" (ofValue json)

/-- The parse tree of a JSON text. -/
def ofText? (text : String) : Option Tree := (Json.parse text).toOption.map ofJson

end Tree

end QueryGrading
