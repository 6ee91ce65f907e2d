import QueryGrading.Text.Listing

/-!
# Printed tables

A table has a title, names of columns, rows, and perhaps a line at its foot. It is drawn with a
frame around every cell; the title and the foot go across all columns.

That is how the overview of `grade` and the scale of `matrix` are drawn: in the modern style, with a
panel for the title and one for the foot, which are centred in the overview. Cells may have several
lines. Where a panel is wider than all columns together, the last column grows (`widen`). Every
character is taken to fill one column.
-/

namespace QueryGrading.CommandLine

/-- A table of texts; the title and the foot may stand in the middle. -/
structure Table where
  title : String
  centred : Bool
  names : List String
  rows : List (List String)
  foot : Option String
  deriving DecidableEq, Repr

namespace Table

/-- The lines of a cell. -/
def cellLines (cell : String) : List String := cell.splitOn "\n"

/-- The length of the longest line of a cell. -/
def cellWidth (cell : String) : Nat := ((cellLines cell).map String.length).foldl max 0

/-- A text with blanks behind it up to a width. -/
def fill (width : Nat) (s : String) : String :=
  s ++ String.ofList (List.replicate (width - s.length) ' ')

/-- A text in the middle of a width, or one place before it. -/
def centre (width : Nat) (s : String) : String :=
  String.ofList (List.replicate ((width - s.length) / 2) ' ') ++ s

/-- `n` strokes of the frame. -/
def strokes (n : Nat) : String := String.ofList (List.replicate n '─')

/-- The width of each column. -/
def widths (names : List String) (rows : List (List String)) : List Nat :=
  rows.foldl (fun ws row => (ws.zip row).map fun (w, cell) => max w (cellWidth cell))
    (names.map cellWidth)

/-- What the frames between some columns and their margins take. -/
def span (ws : List Nat) : Nat := total ws + 3 * (ws.length - 1)

/-- Widths whose last column is wide enough for texts that go across all columns. -/
def widen (least : Nat) (ws : List Nat) : List Nat :=
  match ws.reverse with
  | [] => []
  | last :: rest => (rest.reverse) ++ [last + (least - span ws)]

/-- The lines of cells side by side. -/
def rowLines (ws : List Nat) (cells : List String) : List String :=
  let height := (cells.map fun cell => (cellLines cell).length).foldl max 0
  (List.range height).map fun i =>
    let texts := (ws.zip cells).map fun (w, cell) => fill w ((cellLines cell).getD i "")
    "│ " ++ Text.join " │ " texts ++ " │"

/-- A line of the frame with a joint between columns. -/
def rule (left joint right : String) (ws : List Nat) : String :=
  left ++ Text.join joint (ws.map fun w => strokes (w + 2)) ++ right

/-- All lines of a table. -/
def lines (t : Table) : List String :=
  let across := t.title :: t.foot.toList
  let ws := widen ((across.map cellWidth).foldl max 0) (widths t.names t.rows)
  let whole := [span ws]
  let panel := fun text => rowLines whole [if t.centred then centre (span ws) text else text]
  let body := t.rows.flatMap fun row => rule "├" "┼" "┤" ws :: rowLines ws row
  let foot := match t.foot with
    | some text =>
      rule "├" "┴" "┤" ws :: panel text ++ [rule "└" "─" "┘" whole]
    | none => [rule "└" "┴" "┘" ws]
  rule "┌" "─" "┐" whole :: panel t.title
    ++ rule "├" "┬" "┤" ws :: rowLines ws t.names ++ body ++ foot

/-- A table as it is printed. -/
def text (t : Table) : String := Text.concat (t.lines.map (· ++ "\n"))

end Table

end QueryGrading.CommandLine
