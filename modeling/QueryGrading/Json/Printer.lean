import QueryGrading.Json.Basic
import QueryGrading.Decimal.Shortest
import QueryGrading.Text.Listing

/-!
# JSON text

`Json.compact` writes a value without blanks, the members of an object in the order of their keys.
`Json.pretty` writes one item a line with two spaces for each level. Both write a real number by
`RealLayout`: the shortest digits, with a point for `10^-5` up to `10^16` and an exponent of ten
beyond.

The first is `to_string` on a value, which gives the leaves of a parse tree their texts
(`build_member`) and the cells of rows theirs (`cell_text`); the second is `to_string_pretty`, in
which `grade` writes the records. A string is written as it stands but for the quote, the backslash
and control characters.
-/

namespace QueryGrading

open Decimal (Binary64 Scientific shortest digitCount)

/-! ## 1. Numbers -/

/-- The decisions of a format for real numbers: the exponents of the leading digit that are
written with a point. -/
structure RealLayout where
  leastPlain : Int
  mostPlain : Int

/-- A point is used from `10^-5` up to, but not at, `10^16`. -/
def jsonReals : RealLayout := ⟨-5, 15⟩

namespace RealLayout

/-- `n` zeros. -/
def zeros (n : Nat) : List Char := List.replicate n '0'

/-- Digits with a point, at least one digit on either side of it. -/
def plain (s : Scientific) : List Char :=
  let digits := (Nat.repr s.digits).toList
  if 0 ≤ s.exponent then digits ++ zeros s.exponent.toNat ++ ['.', '0']
  else
    let places := (-s.exponent).toNat
    let digits := zeros (places + 1 - digits.length) ++ digits
    digits.take (digits.length - places) ++ '.' :: digits.drop (digits.length - places)

/-- One digit, the others after a point if there are any, and a signed exponent. -/
def scientific (s : Scientific) (lead : Int) : List Char :=
  let mark := if 0 ≤ lead then '+' else '-'
  let tail := 'e' :: mark :: (Nat.repr lead.natAbs).toList
  match (Nat.repr s.digits).toList with
  | [] => tail
  | [d] => d :: tail
  | d :: rest => d :: '.' :: rest ++ tail

/-- The text of a real number. -/
def write (layout : RealLayout) (x : Binary64) : String :=
  let s := shortest x
  let lead : Int := s.exponent + digitCount s.digits - 1
  let body :=
    if s.digits = 0 ∨ (layout.leastPlain ≤ lead ∧ lead ≤ layout.mostPlain) then plain s
    else scientific s lead
  String.ofList (if x.negative then '-' :: body else body)

end RealLayout

/-- The text of a number. -/
def JsonNumber.text : JsonNumber → String
  | .integer n => toString n
  | .real x => jsonReals.write x

/-! ## 2. Strings -/

/-- The written form of one character inside a string. -/
def Json.escapeChar (c : Char) : List Char :=
  if c = '"' then ['\\', '"']
  else if c = '\\' then ['\\', '\\']
  else if c = '\x08' then ['\\', 'b']
  else if c = '\x0c' then ['\\', 'f']
  else if c = '\n' then ['\\', 'n']
  else if c = '\r' then ['\\', 'r']
  else if c = '\t' then ['\\', 't']
  else if c.toNat < 32 then
    ['\\', 'u', '0', '0', Nat.digitChar (c.toNat / 16), Nat.digitChar (c.toNat % 16)]
  else [c]

/-- A string between quotes. -/
def Json.quote (s : String) : String :=
  String.ofList ('"' :: s.toList.flatMap Json.escapeChar ++ ['"'])

/-! ## 3. Values -/

mutual
/-- The text of a value without blanks. -/
def Json.compact : Json → String
  | .null => "null"
  | .bool true => "true"
  | .bool false => "false"
  | .number n => n.text
  | .string s => Json.quote s
  | .array items => "[" ++ Text.join "," (compactItems items) ++ "]"
  | .object members => "\x7b" ++ Text.join "," (compactMembers members) ++ "\x7d"

/-- The texts of some items. -/
def compactItems : List Json → List String
  | [] => []
  | item :: rest => item.compact :: compactItems rest

/-- The texts of some members. -/
def compactMembers : List (String × Json) → List String
  | [] => []
  | (key, value) :: rest => (Json.quote key ++ ":" ++ value.compact) :: compactMembers rest
end

/-- Lines with commas between them inside brackets; nothing between the brackets if there are
none. -/
def bracketed (opening closing indent : String) (lines : List String) : String :=
  if lines.isEmpty then opening ++ closing
  else
    opening ++ "\n" ++ Text.join ",\n" (lines.map (indent ++ "  " ++ ·)) ++
      "\n" ++ indent ++ closing

mutual
/-- The text of a value with one item a line, inside lines that begin with `indent`. -/
def Json.pretty (indent : String) : Json → String
  | .array items => bracketed "[" "]" indent (prettyItems (indent ++ "  ") items)
  | .object members => bracketed "\x7b" "\x7d" indent (prettyMembers (indent ++ "  ") members)
  | .null => "null"
  | .bool b => (Json.bool b).compact
  | .number n => n.text
  | .string s => Json.quote s

/-- The texts of some items. -/
def prettyItems (indent : String) : List Json → List String
  | [] => []
  | item :: rest => item.pretty indent :: prettyItems indent rest

/-- The texts of some members. -/
def prettyMembers (indent : String) : List (String × Json) → List String
  | [] => []
  | (key, value) :: rest =>
    (Json.quote key ++ ": " ++ value.pretty indent) :: prettyMembers indent rest
end

end QueryGrading
