import QueryGrading.CommandLine.Arguments

/-!
# Commands

`Command.ofArguments` reads the arguments of the program, as `options` does: `grade` with a bundle
and perhaps a file for the records, `matrix` with perhaps a session, and `distance` with two trees.
The words of a command are taken before the values of its options, so that a value behind a blank
has to stand after the words.

`Command.inputs` are the files that a command reads. The help that is asked for with `--help` is
reduced to the line of `Command.usage`.
-/

namespace QueryGrading.CommandLine

/-- What the program does: grade an assignment and write the records to a file or print them;
print the scale of a session; print the distance between two trees; say how it is used. -/
inductive Command
  | grade (assignment : String) (out : Option String)
  | matrix (session : Option String)
  | distance (a b : String)
  | help
  deriving DecidableEq, Repr

namespace Command

/-- The files that a command may read. -/
def inputs : Command → List String
  | grade assignment _ => [assignment]
  | matrix session => session.toList
  | distance a b => [a, b]
  | help => []

/-- How the program is used. -/
def usage : String :=
  "Usage: grade ASSIGNMENT [-o FILE | --out FILE]\n"
    ++ "       matrix [-s FILE | --session FILE]\n"
    ++ "       distance A B\n"

/-- The command that some arguments ask for. -/
def ofArguments (arguments : List String) : Except UsageFault Command := do
  let parts := Part.ofArguments ['o', 's'] arguments
  if parts.any Part.isHelp then return help
  match parts with
  | .word "grade" :: parts =>
    let (assignment, left) ← Arguments.takeWord "ASSIGNMENT" (parts.map some)
    let (out, left) ← left.takeValue 'o' "out" "FILE"
    left.close parts
    return grade assignment out
  | .word "matrix" :: parts =>
    let (session, left) ← Arguments.takeValue 's' "session" "FILE" (parts.map some)
    left.close parts
    return matrix session
  | .word "distance" :: parts =>
    let (a, left) ← Arguments.takeWord "A" (parts.map some)
    let (b, left) ← left.takeWord "B"
    left.close parts
    return distance a b
  | parts => .error (.expected "COMMAND ..." (parts.head?.map (·.text)))

end Command

end QueryGrading.CommandLine
