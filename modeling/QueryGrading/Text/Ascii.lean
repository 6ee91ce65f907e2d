/-!
# Case of the ASCII letters

Names are compared in two ways: by full lower-casing, and by these functions, which change and
identify the 26 letters of ASCII only. They are `to_ascii_uppercase` (reserved words), and
`eq_ignore_ascii_case` (targets of statements, assigned columns, the columns of an INSERT, the bare
text `select`).
-/

namespace QueryGrading.Text

/-- Upper case of the ASCII letters; every other character stays. -/
def asciiUpper (s : String) : String := s.map Char.toUpper

/-- Lower case of the ASCII letters; every other character stays. -/
def asciiLower (s : String) : String := s.map Char.toLower

/-- Equality up to the case of ASCII letters. -/
def sameName (a b : String) : Bool := asciiLower a == asciiLower b

end QueryGrading.Text
