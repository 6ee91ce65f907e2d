import QueryGrading.Repair.EditDistance

/-!
# The walk back through the table

`word_edit_distance` does not keep steps beside its distances. It fills the table `dp` of the
distances of all beginnings, and then walks from the last cell back to the first one: up where that
explains the distance (a deletion), else to the left (an insertion), else along the diagonal. The
scripts of `EditScript.between` carry their steps along from cell to cell instead.

Here is the walk as it is written there, on the distances of the same table. Every look-up, in the
table and in the two lists of words, is one that can fail, where the program would stop with an
index out of range. The path is collected from its end, as there, and not turned round.
-/

namespace QueryGrading

namespace EditScript

/-- The distances in the table, row by row. -/
def distances (source target : List String) : List (List Nat) :=
  (source.scanl (nextRow target) (firstRow ⟨0, []⟩ target)).map fun cells => cells.map (·.distance)

/-- The distance in a row and a column, if the table has them. -/
def distanceAt? (source target : List String) (i j : Nat) : Option Nat := do
  let cells ← (distances source target)[i]?
  cells[j]?

/-- The steps on the way from a cell back to the first one, the last step first. There are none if
the way leaves the table or the lists. -/
def traceBack? (source target : List String) : Nat → Nat → Option (List WordEdit)
  | 0, 0 => some []
  | i + 1, 0 => do
    let here ← distanceAt? source target (i + 1) 0
    let above ← distanceAt? source target i 0
    if here = above + 1 then
      return .delete (← source[i]?) :: (← traceBack? source target i 0)
    else none
  | 0, j + 1 => do
    let here ← distanceAt? source target 0 (j + 1)
    let left ← distanceAt? source target 0 j
    if here = left + 1 then
      return .insert (← target[j]?) :: (← traceBack? source target 0 j)
    else none
  | i + 1, j + 1 => do
    let here ← distanceAt? source target (i + 1) (j + 1)
    let above ← distanceAt? source target i (j + 1)
    if here = above + 1 then
      return .delete (← source[i]?) :: (← traceBack? source target i (j + 1))
    else
      let left ← distanceAt? source target (i + 1) j
      if here = left + 1 then
        return .insert (← target[j]?) :: (← traceBack? source target (i + 1) j)
      else
        let x ← source[i]?
        let y ← target[j]?
        return (if x = y then .keep x else .replace x y) :: (← traceBack? source target i j)
termination_by i j => i + j

end EditScript

end QueryGrading
