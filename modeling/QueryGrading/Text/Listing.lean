import QueryGrading.Collection

/-!
# Lists of names in messages

How several texts are written in one line, and what may stand in a text. The lists are those of the
messages: `join_quoted` with either separator, `join_with_and`, and `counted` of the summary of a
query. `withoutQuotes` is `strip_quotes`, which takes every double quote away, not only those around
a text.
-/

namespace QueryGrading

namespace Text

/-- Texts with a separator between them. -/
def join (separator : String) (xs : List String) : String := separator.intercalate xs

/-- `a, b, c`. -/
def commas (xs : List String) : String := join ", " xs

/-- A text between single quotes. -/
def inQuotes (s : String) : String := "'" ++ s ++ "'"

/-- `'a', 'b', 'c'`. -/
def quotedCommas (xs : List String) : String := commas (xs.map inQuotes)

/-- `'a' 'b' 'c'`. -/
def quotedSpaced (xs : List String) : String := join " " (xs.map inQuotes)

/-- `a`, then `a, and b`, then `a, b, and c`. -/
def commasAnd (xs : List String) : String :=
  match xs.reverse with
  | [] => ""
  | [x] => x
  | x :: rest => commas rest.reverse ++ ", and " ++ x

/-- `a`, then `a and b`, then `a, b and c`. -/
def plainAnd (xs : List String) : String :=
  match xs.reverse with
  | [] => ""
  | [x] => x
  | x :: rest => commas rest.reverse ++ " and " ++ x

/-- `1 table`, `2 tables`. -/
def counted (n : Nat) (noun : String) : String :=
  if n = 1 then s!"{n} {noun}" else s!"{n} {noun}s"

/-- A list of texts one after another. -/
def concat (xs : List String) : String := String.join xs

/-- Without any occurrence of the double quote. -/
def withoutQuotes (s : String) : String := String.ofList (s.toList.filter (· ≠ '"'))

/-- A text holds another. -/
def contains (s part : String) : Bool := hasRun part.toList s.toList

end Text

end QueryGrading
