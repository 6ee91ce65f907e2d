import QueryGrading.Tree.Basic

/-!
# The edit distance of parse trees

`Tree.distance a b` is the least number of nodes to insert, delete and relabel that turn `a` into
`b`. The trees are numbered in postorder; a table holds the distance of every two subtrees, and is
filled for pairs of key roots in ascending order. For one pair a second table holds the distances of
the forests that begin at the leftmost leaves of the two roots: a cell is reached by deleting or
inserting a node, or by matching two nodes, where the distance of two whole subtrees inside the
forests is read from the first table.

This is `tree_edit_distance`, with `Indexed` as `Postorder`, `walk` as `addTree`, `rename_cost` as
`relabelCost` and `forest_distance` as `fillKeyRoots`; `distance?` is `distance_between`. The key
roots are collected on the way, as the nodes that are no first child, and not from a table of last
nodes: that both are the same, and that no look-up needs its default, is the subject of
`Tree.WriteOnce` and its proofs. Of ties between alignments nothing is left to decide, since the
distance alone is computed.
-/

namespace QueryGrading

namespace Tree

/-! ## 1. Postorder -/

/-- The nodes of a tree in postorder: the label and the leftmost leaf of each, and the key roots,
which are the nodes without an elder node on the way to their leftmost leaf. -/
structure Postorder where
  labels : Array (String × String)
  leftmost : Array Nat
  keyRoots : Array Nat

namespace Postorder

/-- No nodes. -/
def empty : Postorder := ⟨#[], #[], #[]⟩

/-- The number of nodes. -/
def count (p : Postorder) : Nat := p.labels.size

/-- The label of a node. -/
def label (p : Postorder) (i : Nat) : String × String := p.labels.getD i ("", "")

/-- The leftmost leaf of a node. -/
def leftmostOf (p : Postorder) (i : Nat) : Nat := p.leftmost.getD i i

/-- Adds a node behind the others; `leaf` is its leftmost leaf, itself if it has no children, and
`isFirst` says that it has no elder sibling. -/
def add (p : Postorder) (label : String × String) (leaf : Option Nat) (isFirst : Bool) :
    Postorder :=
  let i := p.count
  { labels := p.labels.push label
    leftmost := p.leftmost.push (leaf.getD i)
    keyRoots := if isFirst then p.keyRoots else p.keyRoots.push i }

mutual
/-- Adds the nodes of a tree; also gives the leftmost leaf of its root. -/
def addTree (p : Postorder) (isFirst : Bool) : Tree → Postorder × Nat
  | node key value children =>
    let (p, leaf) := addTrees p true children
    let i := p.count
    (p.add (key, value) leaf isFirst, leaf.getD i)

/-- Adds the nodes of some siblings; also gives the leftmost leaf of the first. -/
def addTrees (p : Postorder) (isFirst : Bool) : List Tree → Postorder × Option Nat
  | [] => (p, none)
  | t :: rest =>
    let (p, leaf) := addTree p isFirst t
    let (p, _) := addTrees p false rest
    (p, some leaf)
end

/-- The postorder of a tree. -/
def ofTree (t : Tree) : Postorder := (addTree empty false t).1

end Postorder

/-! ## 2. Tables -/

/-- Rows of numbers. -/
abbrev Table := Array (Array Nat)

namespace Table

/-- The number in row `i`, column `j`. -/
def get (table : Table) (i j : Nat) : Nat := (table.getD i #[]).getD j 0

/-- Sets the number in row `i`, column `j`. -/
def set (table : Table) (i j n : Nat) : Table := table.modify i (·.setIfInBounds j n)

/-- A table filled with one number. -/
def filled (rows columns n : Nat) : Table := Array.replicate rows (Array.replicate columns n)

end Table

/-! ## 3. Distances -/

/-- The cost of a match: one if the labels differ. -/
def relabelCost (a b : String × String) : Nat := if a = b then 0 else 1

/-- The cell in column `y` of a row of the forest table. `rows` holds the rows above, the last of
them for the forest without node `i`; `row` holds the cells before; `li` and `lj` are the leftmost
leaves of the key roots. The distance of two subtrees is noted in `subtrees` when both begin where
the key roots begin. -/
def forestCell (a b : Postorder) (li lj i : Nat) (rows : Table) (state : Array Nat × Table)
    (y : Nat) : Array Nat × Table :=
  let (row, subtrees) := state
  let j := lj + y - 1
  let x := i - li
  let delete := rows.get x y + 1
  let insert := row.getD (y - 1) 0 + 1
  if a.leftmostOf i = li ∧ b.leftmostOf j = lj then
    let relabel := rows.get x (y - 1) + relabelCost (a.label i) (b.label j)
    let d := min (min delete insert) relabel
    (row.push d, subtrees.set i j d)
  else
    let keep := rows.get (a.leftmostOf i - li) (b.leftmostOf j - lj) + subtrees.get i j
    (row.push (min (min delete insert) keep), subtrees)

/-- Adds the row of node `i` to the forest table; `width` is the number of nodes of the second
forest. -/
def forestRow (a b : Postorder) (li lj width : Nat) (state : Table × Table) (i : Nat) :
    Table × Table :=
  let (rows, subtrees) := state
  let (row, subtrees) :=
    (List.range' 1 width).foldl (forestCell a b li lj i rows) (#[i - li + 1], subtrees)
  (rows.push row, subtrees)

/-- Notes the distances of all subtrees that begin where the key roots `i` and `j` begin. -/
def fillKeyRoots (a b : Postorder) (subtrees : Table) (i j : Nat) : Table :=
  let li := a.leftmostOf i
  let lj := b.leftmostOf j
  let width := j + 1 - lj
  let top := (List.range (width + 1)).toArray
  ((List.range' li (i + 1 - li)).foldl (forestRow a b li lj width) (#[top], subtrees)).2

/-- The distances of all subtrees, from a table of any content. -/
def fillSubtrees (a b : Postorder) (subtrees : Table) : Table :=
  a.keyRoots.foldl
    (fun table i => b.keyRoots.foldl (fun table j => fillKeyRoots a b table i j) table) subtrees

/-- The least number of insertions, deletions and relabelings that turn one tree into the
other. -/
def distance (s t : Tree) : Nat :=
  let a := Postorder.ofTree s
  let b := Postorder.ofTree t
  (fillSubtrees a b (Table.filled a.count b.count 0)).get (a.count - 1) (b.count - 1)

/-- The distance where a missing tree counts as one without nodes. -/
def distance? : Option Tree → Option Tree → Nat
  | some s, some t => distance s t
  | some s, none => s.size
  | none, some t => t.size
  | none, none => 0

end Tree

end QueryGrading
