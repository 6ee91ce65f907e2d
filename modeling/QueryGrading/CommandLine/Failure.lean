import QueryGrading.Text.Listing

/-!
# Failures of a command

A command fails with a chain of causes, the outermost first. It is printed with the causes below the
outermost one, numbered if there are several.

That is the report in which `main` ends when `grade`, `matrix` or `distance` returns an error: the
message of the error, and the messages that `context` has been put around. A fault of a helper
program has such a chain too, but is written in one line there (`Fault.text`).
-/

namespace QueryGrading.CommandLine

/-- A chain of causes, the outermost first. -/
abbrev Failure := List String

namespace Failure

/-- The lines of a text. -/
def lines (s : String) : List String := s.splitOn "\n"

/-- A cause behind a lead; further lines of it stand as far in. -/
def indented (lead margin : String) (cause : String) : String :=
  lead ++ Text.join ("\n" ++ margin) (lines cause)

/-- A number and a colon, right-aligned. -/
def lead (n : Nat) : String :=
  let number := Nat.repr n
  String.ofList (List.replicate (5 - number.length) ' ') ++ number ++ ": "

/-- The causes below the outermost one. -/
def causes : List String → String
  | [] => ""
  | [cause] => "\n\nCaused by:\n" ++ indented "    " "    " cause
  | several =>
    "\n\nCaused by:\n"
      ++ Text.join "\n" (several.mapIdx fun i cause => indented (lead i) "       " cause)

/-- A failure as it is printed. -/
def text : Failure → String
  | [] => ""
  | outermost :: rest => "Error: " ++ outermost ++ causes rest ++ "\n"

end Failure

end QueryGrading.CommandLine
