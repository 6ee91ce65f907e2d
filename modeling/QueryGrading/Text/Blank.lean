import QueryGrading.Text.CodePoint

/-!
# Blank characters

White space is the property White_Space; `trim` takes it off both ends of a text, `trimEnd` off the
end only. The first is applied to what was handed in before it is called empty, to repaired texts
and to notes, the second to the description of a table.
-/

namespace QueryGrading.Text

/-- The code points with the property White_Space, as ascending inclusive ranges. -/
def blankRanges : List (Nat × Nat) := [
  (9, 13), (32, 32), (133, 133), (160, 160), (5760, 5760), (8192, 8202), (8232, 8233),
  (8239, 8239), (8287, 8287), (12288, 12288)]

/-- White space in the sense of the property White_Space. -/
def isBlank (c : Char) : Bool := inRanges c.toNat blankRanges

/-- A text without the blanks at its end. -/
def trimEnd (s : String) : String :=
  String.ofList (s.toList.reverse.dropWhile isBlank).reverse

/-- A text without the blanks at either end. -/
def trim (s : String) : String :=
  trimEnd (String.ofList (s.toList.dropWhile isBlank))

end QueryGrading.Text
