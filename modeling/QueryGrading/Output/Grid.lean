import QueryGrading.Output.Change

/-!
# Grids of cells

A grid of texts is brought into a canonical order: its columns sorted as texts read from the first
row down, and then its rows. `embeds` and `overlap` measure two grids against each other: whether
the rows of one are found in the rows of the other, in order, and how many cells agree at best when
one grid is moved over the other.

They are `transpose`, `canonicalize`, `contains_window`, `is_sequence_contained` and `max_overlap`.
A grid is transposed row by row, up to the length of its first row, so a grid whose rows have no
cells loses its rows. Offsets are integers, as one grid may stick out at each side of the other.
-/

namespace QueryGrading

/-- Rows of cells. -/
abbrev Grid := List Row

namespace Grid

/-! ## 1. Canonical order -/

/-- All rows have as many cells as the first. -/
def isUniform : Grid → Bool
  | [] => true
  | row :: rest => rest.all fun r => r.length == row.length

/-- The columns of a uniform grid. -/
def columns (g : Grid) : Grid :=
  match g with
  | [] => []
  | row :: _ => (List.range row.length).map fun j => g.map fun r => r.getD j ""

/-- The grid with its columns in ascending order; one that is not uniform stays as it is. -/
def sortColumns (g : Grid) : Grid :=
  if g.isUniform then columns (sortedRows (columns g)) else g

/-- The grid with its columns in ascending order and, unless their order counts, its rows too. -/
def canonical (ordered : Bool) (g : Grid) : Grid :=
  if ordered then g.sortColumns else sortedRows g.sortColumns

/-! ## 2. Measures -/

/-- The length of the longest row. -/
def width (g : Grid) : Nat := (g.map List.length).foldl max 0

/-- The number of cells. -/
def cells (g : Grid) : Nat := total (g.map List.length)

/-! ## 3. One grid in another -/

/-- Each row of the first grid is a run in a row of the second, in this order and each in a row of
its own; the first fit is taken. -/
def embeds : Grid → Grid → Bool
  | [], _ => true
  | _ :: _, [] => false
  | row :: rest, target :: targets =>
    if hasRun row target then embeds rest targets else embeds (row :: rest) targets

/-- The elements of two lists that stand side by side when the first list is moved by an offset. -/
def aligned {α : Type} (offset : Int) (xs ys : List α) : List (α × α) :=
  if offset < 0 then (xs.drop (-offset).toNat).zip ys else xs.zip (ys.drop offset.toNat)

/-- The offsets by which a list of length `m` still touches one of length `n`. -/
def offsets (m n : Nat) : List Int :=
  (List.range (m + n - 1)).map fun k => Int.ofNat k + 1 - Int.ofNat m

/-- The number of cells of a row that agree with another row when it is moved by an offset. -/
def rowOverlap (offset : Int) (r s : Row) : Nat :=
  (aligned offset r s).countP fun (x, y) => x == y

/-- The number of cells that agree when the first grid is moved by so many rows and columns. -/
def overlapAt (down right : Int) (a b : Grid) : Nat :=
  total ((aligned down a b).map fun (r, s) => rowOverlap right r s)

/-- The greatest number of cells that agree in any such position. -/
def overlap (a b : Grid) : Nat :=
  ((offsets a.length b.length).flatMap fun down =>
    (offsets a.width b.width).map fun right => overlapAt down right a b).foldl max 0

end Grid

end QueryGrading
