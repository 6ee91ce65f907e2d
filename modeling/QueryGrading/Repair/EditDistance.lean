/-!
# Edit distances of texts and word lists

`editDistance` is the least cost of turning one text into another by inserting, deleting and
replacing characters. `EditScript.between` does the same for lists of words, each step at cost one,
and keeps the steps. Both go through the table of the distances of all beginnings row by row.

The first is `edit_distance_with`, where one row is overwritten by the next; the loop over the
columns is `rowAfter` here, and `diagonal` is the cell that was just overwritten. The second is
`word_edit_distance`, whose walk back through the table is `Repair.TraceBack`. `normalizedDistance`
is `normalized_edit_distance` as an exact fraction, with unit costs.
-/

namespace QueryGrading

/-! ## 1. Characters -/

/-- The costs of the three changes. -/
structure EditCosts where
  insert : Nat
  delete : Nat
  replace : Nat
  deriving DecidableEq, Repr

namespace EditCosts

/-- Every change costs one. -/
def unit : EditCosts := ⟨1, 1, 1⟩

/-- The distances of the beginnings of the source from the empty text, when `cost` is that of the
beginning before. -/
def firstRow (costs : EditCosts) (cost : Nat) : List Char → List Nat
  | [] => [cost]
  | _ :: source => cost :: firstRow costs (cost + costs.delete) source

/-- The distances of the beginnings of the source from the target so far with the character `c`
added. `diagonal` and `left` are the cells beside the first one, in the row above and in this
row. -/
def rowAfter (costs : EditCosts) (c : Char) (diagonal left : Nat) :
    List Char → List Nat → List Nat
  | s :: source, above :: row =>
    let cell :=
      if s = c then diagonal
      else min (min (left + costs.delete) (above + costs.insert)) (diagonal + costs.replace)
    cell :: rowAfter costs c above cell source row
  | _, _ => []

/-- The row below `row`, for one more character of the target. -/
def nextRow (costs : EditCosts) (source : List Char) (row : List Nat) (c : Char) : List Nat :=
  match row with
  | [] => []
  | first :: rest =>
    (first + costs.insert) :: rowAfter costs c first (first + costs.insert) source rest

/-- The least cost of turning a source into a target. -/
def distance (costs : EditCosts) (source target : List Char) : Nat :=
  (target.foldl (nextRow costs source) (firstRow costs 0 source)).getLastD 0

end EditCosts

/-- The least number of changes that turn a source into a target. -/
def editDistance (source target : String) : Nat :=
  EditCosts.unit.distance source.toList target.toList

/-- The distance in relation to the lengths: `2d / (|a| + |b| + d)`, and zero for two empty
texts. -/
def normalizedDistance (source target : String) : Rat :=
  let d := editDistance source target
  let total := source.length + target.length + d
  if total = 0 then 0 else mkRat (Int.ofNat (2 * d)) total

/-! ## 2. Words -/

/-- A step from one list of words to another. -/
inductive WordEdit
  | keep (word : String)
  | delete (word : String)
  | insert (word : String)
  | replace (source target : String)
  deriving DecidableEq, Repr

/-- A distance, and the steps that attain it, the last one first. -/
structure EditScript where
  distance : Nat
  reversed : List WordEdit
  deriving Repr

namespace EditScript

/-- The steps in order. -/
def steps (s : EditScript) : List WordEdit := s.reversed.reverse

/-- One more step at cost one. -/
def more (s : EditScript) (edit : WordEdit) : EditScript := ⟨s.distance + 1, edit :: s.reversed⟩

/-- The script for one more word on either side: `above` lacks the source word, `left` the target
word, `diagonal` both. Of the scripts that attain the distance a deletion is preferred, then an
insertion. -/
def cell (above left diagonal : EditScript) (source target : String) : EditScript :=
  let distance :=
    if source = target then diagonal.distance
    else min (min (above.distance + 1) (left.distance + 1)) (diagonal.distance + 1)
  if distance = above.distance + 1 then ⟨distance, .delete source :: above.reversed⟩
  else if distance = left.distance + 1 then ⟨distance, .insert target :: left.reversed⟩
  else if source = target then ⟨distance, .keep source :: diagonal.reversed⟩
  else ⟨distance, .replace source target :: diagonal.reversed⟩

/-- The scripts from no words to the beginnings of the target. -/
def firstRow (script : EditScript) : List String → List EditScript
  | [] => [script]
  | t :: target => script :: firstRow (script.more (.insert t)) target

/-- The scripts from the source so far with one more word to the beginnings of the target. -/
def rowAfter (s : String) (diagonal left : EditScript) :
    List String → List EditScript → List EditScript
  | t :: target, above :: row =>
    let here := cell above left diagonal s t
    here :: rowAfter s above here target row
  | _, _ => []

/-- The row below `row`, for one more word of the source. -/
def nextRow (target : List String) (row : List EditScript) (s : String) : List EditScript :=
  match row with
  | [] => []
  | first :: rest =>
    first.more (.delete s) :: rowAfter s first (first.more (.delete s)) target rest

/-- The script of the least distance between two lists of words. -/
def between (source target : List String) : EditScript :=
  (source.foldl (nextRow target) (firstRow ⟨0, []⟩ target)).getLastD ⟨0, []⟩

end EditScript

end QueryGrading
