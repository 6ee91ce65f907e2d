import QueryGrading.Text.Blank
import QueryGrading.Text.Letter

/-!
# Environment files

An environment file sets a variable a line, `NAME=value`, unless the variable is set already. A
quoted value may go on in the next line, and a dollar sign puts in the value of another variable.
`Variables.ofText` reads a file up to the first line that is not well formed, and
`Variables.beneath` looks a variable up.

It is what `dotenv` makes of the file `.env` when `main` begins: lines that are joined while a quote
is open, then names and values with their escapes and substitutions. A fault in the file ends the
reading and is not reported, since `main` discards the result. Which variables stood in the
environment before is a part of the surroundings (`CommandLine.Run`).
-/

namespace QueryGrading.CommandLine

/-! ## 1. Lines -/

/-- What was read of a line last, as far as it decides where the line ends. -/
inductive LineState
  | start | plain | blank | escape | weak | weakEscape | strong | strongEscape | comment
  deriving DecidableEq, Repr

namespace LineState

/-- The state after one more character that does not end the line. A number sign begins a comment
at the start of a line, or after a first blank. -/
def next (state : LineState) (c : Char) : LineState :=
  match state with
  | .escape => .plain
  | .weakEscape => .weak
  | .strongEscape => .strong
  | .weak => if c = '\\' then .weakEscape else if c = '"' then .plain else .weak
  | .strong => if c = '\\' then .strongEscape else if c = '\'' then .plain else .strong
  | .comment => .comment
  | .start | .plain | .blank =>
    if c = '#' then (if state = .plain then .plain else .comment)
    else if c = '\\' then .escape
    else if c = '"' then .weak
    else if c = '\'' then .strong
    else if Text.isBlank c then
      match state with
      | .start => .start
      | .plain => if c = '\r' then .plain else .blank
      | _ => .plain
    else .plain

/-- Inside quotes a line goes on after its end. -/
def goesOn : LineState → Bool
  | .weak | .weakEscape | .strong | .strongEscape => true
  | _ => false

/-- A text may end here. -/
def mayEnd : LineState → Bool
  | .start | .plain | .comment => true
  | _ => false

end LineState

/-- One more character of the first of some lines. -/
def extendFirst (c : Char) : List (Option (List Char)) → List (Option (List Char))
  | some line :: rest => some (c :: line) :: rest
  | lines => lines

/-- The lines of a text without their comments, the first one from `state` on; nothing for a last
line that breaks off. -/
def splitLines : LineState → List Char → List (Option (List Char))
  | state, [] => [if state.mayEnd then some [] else none]
  | state, c :: rest =>
    if c = '\n' ∧ !state.goesOn then some [] :: splitLines .start rest
    else
      let state := state.next c
      if state = .comment then splitLines state rest
      else extendFirst c (splitLines state rest)

/-! ## 2. Values -/

/-- Where a value is read: in bare text or in weak quotes, after a backslash in either, in a name
after a dollar sign or in braces (with its characters so far in reverse), in strong quotes, or
behind the value. -/
inductive ValueState
  | text (weak : Bool)
  | escape (weak : Bool)
  | name (weak : Bool) (seen : List Char)
  | braced (weak : Bool) (seen : List Char)
  | strong
  | ended

/-- The character that a backslash and a character stand for. -/
def unescape? (c : Char) : Option Char :=
  if c = 'n' then some '\n'
  else if c = '\\' ∨ c = '\'' ∨ c = '"' ∨ c = '$' ∨ c = ' ' then some c
  else none

/-- The value of a variable whose name is given in reverse. -/
def substitute (value : String → String) (seen : List Char) : List Char :=
  (value (String.ofList seen.reverse)).toList

/-- A value up to the end of the line or up to a comment; nothing if it is not well formed. A name
after a dollar sign holds letters and digits only, and the character that ends it stands for
itself. -/
def readValue (value : String → String) : ValueState → List Char → Option (List Char)
  | .text false, [] | .escape false, [] | .ended, [] => some []
  | .name false seen, [] => some (substitute value seen)
  | _, [] => none
  | .text weak, c :: rest =>
    if c = '$' then readValue value (.name weak []) rest
    else if c = '\\' then readValue value (.escape weak) rest
    else if c = '"' then readValue value (.text !weak) rest
    else if c = '\'' ∧ !weak then readValue value .strong rest
    else if (c = ' ' ∨ c = '\t') ∧ !weak then readValue value .ended rest
    else (readValue value (.text weak) rest).map (c :: ·)
  | .escape weak, c :: rest =>
    match unescape? c with
    | some c => (readValue value (.text weak) rest).map (c :: ·)
    | none => none
  | .name weak seen, c :: rest =>
    if Text.isLetterOrDigit c then readValue value (.name weak (c :: seen)) rest
    else if c = '\x7b' ∧ seen.isEmpty then readValue value (.braced weak []) rest
    else if c = '$' then
      (readValue value (.name weak []) rest).map (substitute value seen ++ ·)
    else (readValue value (.text weak) rest).map (substitute value seen ++ c :: ·)
  | .braced weak seen, c :: rest =>
    if c = '\x7d' then (readValue value (.text weak) rest).map (substitute value seen ++ ·)
    else readValue value (.braced weak (c :: seen)) rest
  | .strong, c :: rest =>
    if c = '\'' then readValue value (.text false) rest
    else (readValue value .strong rest).map (c :: ·)
  | .ended, c :: rest =>
    if c = ' ' ∨ c = '\t' then readValue value .ended rest
    else if c = '#' then some []
    else none

/-! ## 3. Settings -/

/-- Without the blanks in front. -/
def skipGap (cs : List Char) : List Char := cs.dropWhile Text.isBlank

/-- Without the blanks at the end. -/
def dropGap (cs : List Char) : List Char := (skipGap cs.reverse).reverse

/-- Nothing but a comment. -/
def isSilent (cs : List Char) : Bool := cs.isEmpty || cs.head? == some '#'

/-- A character of a name after the first. -/
def isNameChar (c : Char) : Bool := c.isAlphanum || c = '_' || c = '.'

/-- A name, and the text after it and after the blanks behind it. -/
def readName (cs : List Char) : Option (String × List Char) :=
  match cs with
  | [] => none
  | c :: _ =>
    if c.isAlpha || c = '_' then
      some (String.ofList (cs.takeWhile isNameChar), skipGap (cs.dropWhile isNameChar))
    else none

/-- The name that a line sets, and the text after its equals sign. The word `export` may stand in
front. -/
def readTarget (cs : List Char) : Option (String × List Char) :=
  match readName cs with
  | some (name, '=' :: rest) => some (name, rest)
  | some ("export", rest) =>
    match readName rest with
    | some (name, '=' :: rest) => some (name, rest)
    | _ => none
  | _ => none

/-- What a line sets: nothing if it is not well formed, and no variable if it is silent. -/
def readLine (value : String → String) (line : List Char) : Option (Option (String × String)) :=
  let cs := skipGap (dropGap line)
  if isSilent cs then some none
  else
    match readTarget cs with
    | none => none
    | some (name, rest) =>
      let rest := skipGap rest
      if isSilent rest then some (some (name, ""))
      else (readValue value (.text false) rest).map fun cs => some (name, String.ofList cs)

/-! ## 4. Files -/

/-- The variables of a file, in order. -/
abbrev Variables := List (String × String)

namespace Variables

/-- The value of a variable: the one that is set already, or else the first in the file. -/
def beneath (file : Variables) (set : String → Option String) (name : String) : Option String :=
  match set name with
  | some value => some value
  | none => file.lookup name

/-- The variables of a file with those of some more lines, up to the first that is not well
formed. A name stands for the value that the variable has after the lines before. -/
def ofLines (set : String → Option String) (file : Variables) :
    List (Option (List Char)) → Variables
  | [] | none :: _ => file
  | some line :: rest =>
    match readLine (fun name => (file.beneath set name).getD "") line with
    | none => file
    | some none => ofLines set file rest
    | some (some entry) => ofLines set (file ++ [entry]) rest

/-- A text without the mark of its byte order. -/
def withoutMark : List Char → List Char
  | '\uFEFF' :: cs => cs
  | cs => cs

/-- The variables of a file. -/
def ofText (set : String → Option String) (s : String) : Variables :=
  ofLines set [] (splitLines .start (withoutMark s.toList))

/-- The names after the dollar signs of a text. -/
def mentioned : List Char → List String
  | [] => []
  | '$' :: rest =>
    let name :=
      match rest with
      | '\x7b' :: inner => inner.takeWhile (· ≠ '\x7d')
      | _ => rest.takeWhile Text.isLetterOrDigit
    String.ofList name :: mentioned rest
  | _ :: rest => mentioned rest

end Variables

end QueryGrading.CommandLine
