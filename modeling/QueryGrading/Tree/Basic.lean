import QueryGrading.Text.Listing

/-!
# Parse trees

A `Tree` is a node with a key, a value and ordered children. The key is the kind of the node; the
value is the JSON text of a primitive, so that a string keeps its quotes, and is empty for every
other node. It is `ParseNode`, with `child`, `path`, `value_of`, `size`, `unquote` and
`strip_quotes` under the names `child?`, `path?`, `valueOf`, `size`, `unquote` and `nameAt`. Nodes
that are shared there are copies here, which makes no difference, as no node is ever changed.

A step down from a node leads to a smaller tree (`sizeOf_child?`, `sizeOf_wrapped?`,
`sizeOf_under`): by these facts the functions that follow names through a tree end.
-/

namespace QueryGrading

/-- A node of a parse tree. -/
inductive Tree
  | node (key value : String) (children : List Tree)
  deriving Repr, Inhabited

namespace Tree

/-! ## 1. Parts of a node -/

/-- The kind of the node. -/
def key : Tree → String
  | node key _ _ => key

/-- The text of a primitive, empty for other nodes. -/
def value : Tree → String
  | node _ value _ => value

/-- The nodes right below this one, in order. -/
def children : Tree → List Tree
  | node _ _ children => children

@[simp] theorem key_node (k v : String) (cs : List Tree) : (node k v cs).key = k := rfl

@[simp] theorem value_node (k v : String) (cs : List Tree) : (node k v cs).value = v := rfl

@[simp] theorem children_node (k v : String) (cs : List Tree) : (node k v cs).children = cs := rfl

/-- A node without children. -/
def leaf (key value : String) : Tree := node key value []

/-- The node has no children. -/
def isLeaf (t : Tree) : Bool := t.children.isEmpty

/-! ## 2. Steps down by key -/

/-- The first child with this key. -/
def child? (t : Tree) (key : String) : Option Tree := t.children.find? (·.key == key)

/-- The children of the first child with this key; none if there is no such child. -/
def under (t : Tree) (key : String) : List Tree :=
  match t.child? key with
  | some c => c.children
  | none => []

/-- The first node below the first child with this key. -/
def wrapped? (t : Tree) (key : String) : Option Tree := (t.under key).head?

/-- The node at the end of a path of keys; an empty path leads nowhere. -/
def path? (t : Tree) : List String → Option Tree
  | [] => none
  | [key] => t.child? key
  | key :: rest =>
    match t.child? key with
    | some c => c.path? rest
    | none => none

/-- A text without one pair of double quotes around it. -/
def unquote (s : String) : String :=
  match s.toList with
  | '"' :: rest =>
    match rest.reverse with
    | '"' :: inner => String.ofList inner.reverse
    | _ => s
  | _ => s

/-- The value of the first child with this key, without the quotes around it; empty if there is
no such child. -/
def valueOf (t : Tree) (key : String) : String :=
  match t.child? key with
  | some c => unquote c.value
  | none => ""

/-- The value at the end of a path without any double quote; empty if nothing is there. -/
def nameAt (t : Tree) (path : List String) : String :=
  match t.path? path with
  | some c => Text.withoutQuotes c.value
  | none => ""

/-- The value of the first child with this key without any double quote. -/
def nameOf (t : Tree) (key : String) : String := Text.withoutQuotes (t.valueOf key)

/-- The child with this key is the truth value `true`. -/
def isTrue (t : Tree) (key : String) : Bool := (t.child? key).any (·.value == "true")

/-! ## 3. Size -/

mutual
/-- The number of nodes. -/
def size : Tree → Nat
  | node _ _ children => 1 + sizes children

/-- The number of nodes of several trees. -/
def sizes : List Tree → Nat
  | [] => 0
  | t :: rest => t.size + sizes rest
end

theorem sizeOf_children {t c : Tree} (h : c ∈ t.children) : sizeOf c < sizeOf t := by
  cases t with
  | node k v cs =>
    have := List.sizeOf_lt_of_mem h
    simp only [children_node, node.sizeOf_spec] at *
    omega

theorem sizeOf_child? {t c : Tree} {key : String} (h : t.child? key = some c) :
    sizeOf c < sizeOf t :=
  sizeOf_children (List.mem_of_find?_eq_some h)

theorem sizeOf_under {t c : Tree} {key : String} (h : c ∈ t.under key) : sizeOf c < sizeOf t := by
  unfold under at h
  split at h
  · next d hd => exact Nat.lt_trans (sizeOf_children h) (sizeOf_child? hd)
  · simp at h

theorem sizeOf_wrapped? {t c : Tree} {key : String} (h : t.wrapped? key = some c) :
    sizeOf c < sizeOf t :=
  sizeOf_under (List.mem_of_mem_head? (by rw [Option.mem_def]; exact h))

end Tree

end QueryGrading
