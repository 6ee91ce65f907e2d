import Mathlib.Data.List.ReduceOption
import Mathlib.Data.Nat.PSub
import QueryGrading.Tree.Distance

/-!
# The distance of trees without defaults

`Tree.distance` looks up numbers in tables that are filled with zeros at first, and a look-up
outside of a table gives a default. `tree_edit_distance` has no defaults: an index out of range or a
difference below zero would stop it, and a zero that is read too early would go unnoticed.

Here are `forest_distance`, the loop over the pairs of key roots and `Indexed::new` without any
default. An index out of range and a negative difference end the computation without a result, and
the table of the subtrees (`tree_dist`) is an `OnceTable`, which has no number in a cell that has
not been written, and takes none where it has one already. The key roots are those that the table
`last_with_leaf` gives. The walk that numbers the nodes is the same as for `Tree.distance`.
-/

namespace QueryGrading

namespace Tree

/-! ## 1. Tables that are written once -/

/-- A table of numbers whose cells are `none` before they are written, and the numbers that were
read, each with its row and column. -/
structure OnceTable where
  rows : Nat
  columns : Nat
  cell : Nat → Nat → Option Nat
  reads : List (Nat × Nat × Nat)

namespace OnceTable

/-- A table without numbers. -/
def blank (rows columns : Nat) : OnceTable := ⟨rows, columns, fun _ _ => none, []⟩

/-- Reads a cell that has been written. -/
def read? (T : OnceTable) (i j : Nat) : Option (Nat × OnceTable) := do
  guard (i < T.rows ∧ j < T.columns)
  let n ← T.cell i j
  return (n, { T with reads := (i, j, n) :: T.reads })

/-- Writes a cell that has not been written. -/
def write? (T : OnceTable) (i j n : Nat) : Option OnceTable := do
  guard (i < T.rows ∧ j < T.columns ∧ T.cell i j = none)
  return { T with cell := fun i' j' => if i' = i ∧ j' = j then some n else T.cell i' j' }

end OnceTable

/-- The number in row `i`, column `j`, if there is one. -/
def Table.read? (rows : Table) (i j : Nat) : Option Nat := do
  let row ← rows[i]?
  row[j]?

/-! ## 2. The computation without defaults -/

/-- `forestCell`, with every look-up in range and every difference a number. -/
def forestCell? (a b : Postorder) (li lj i : Nat) (rows : Table) (state : Array Nat × OnceTable)
    (y : Nat) : Option (Array Nat × OnceTable) := do
  let (row, subtrees) := state
  let j ← (lj + y).psub 1
  let x ← i.psub li
  let before ← y.psub 1
  let leaf ← a.leftmost[i]?
  let leaf' ← b.leftmost[j]?
  let delete := (← rows.read? x y) + 1
  let insert := (← row[before]?) + 1
  if leaf = li ∧ leaf' = lj then
    let relabel := (← rows.read? x before) + relabelCost (← a.labels[i]?) (← b.labels[j]?)
    let d := min (min delete insert) relabel
    return (row.push d, ← subtrees.write? i j d)
  else
    let rest ← rows.read? (← leaf.psub li) (← leaf'.psub lj)
    let (n, subtrees) ← subtrees.read? i j
    return (row.push (min (min delete insert) (rest + n)), subtrees)

/-- `forestRow` without defaults. -/
def forestRow? (a b : Postorder) (li lj width : Nat) (state : Table × OnceTable) (i : Nat) :
    Option (Table × OnceTable) := do
  let (rows, subtrees) := state
  let (row, subtrees) ← (List.range' 1 width).foldlM (forestCell? a b li lj i rows)
    (#[(← i.psub li) + 1], subtrees)
  return (rows.push row, subtrees)

/-- `fillKeyRoots` without defaults. -/
def fillKeyRoots? (a b : Postorder) (subtrees : OnceTable) (pair : Nat × Nat) :
    Option OnceTable := do
  let li ← a.leftmost[pair.1]?
  let lj ← b.leftmost[pair.2]?
  let height := (← pair.1.psub li) + 1
  let width := (← pair.2.psub lj) + 1
  let top := (List.range (width + 1)).toArray
  let (_, subtrees) ← (List.range' li height).foldlM (forestRow? a b li lj width) (#[top], subtrees)
  return subtrees

/-- The pairs of key roots in the order in which they are filled. -/
def keyRootPairs (a b : Postorder) : List (Nat × Nat) := a.keyRoots.toList.product b.keyRoots.toList

/-- `fillSubtrees` without defaults, on a table without numbers. -/
def fillSubtrees? (a b : Postorder) : Option OnceTable :=
  (keyRootPairs a b).foldlM (fillKeyRoots? a b) (OnceTable.blank a.count b.count)

/-- `distance` without defaults; also gives the table. -/
def distanceOnce? (s t : Tree) : Option (Nat × OnceTable) := do
  let a := Postorder.ofTree s
  let b := Postorder.ofTree t
  let subtrees ← fillSubtrees? a b
  subtrees.read? (← a.count.psub 1) (← b.count.psub 1)

/-- Notes `i` as the last node so far that begins at its leftmost leaf. -/
def noteLast? (leftmost : Array Nat) (last : Array (Option Nat)) (i : Nat) :
    Option (Array (Option Nat)) := do
  let leaf ← leftmost[i]?
  guard (leaf < last.size)
  return last.setIfInBounds leaf (some i)

/-- The key roots, from a table of the last node that begins at each leaf. -/
def keyRootsByLeaf? (leftmost : Array Nat) : Option (List Nat) := do
  let last ← (List.range' 0 leftmost.size).foldlM (noteLast? leftmost)
    (Array.replicate leftmost.size none)
  return last.toList.reduceOption.mergeSort

end Tree

end QueryGrading
