/-!
# Arguments

The arguments of a program are split into parts: options by a letter or a name, the values that
stand in one argument with them, and words. `Arguments.takeWord` and `Arguments.takeValue` take
parts out and leave gaps, so that an option only takes a value that stands right behind it.

This is what the parsers made by `positional`, `long`, `short` and `argument` do with the arguments,
as far as the three commands of `options` need it, with the messages for a missing value, a missing
word and an argument that nobody takes. Suggestions of similar names are left out, and so are groups
of several letters in one argument.
-/

namespace QueryGrading.CommandLine

/-! ## 1. Parts -/

/-- A part of the arguments. An option is kept with its argument as it was written; a late word
stands behind `--` and is no value of an option. -/
inductive Part
  | letter (c : Char) (written : String)
  | name (s : String) (written : String)
  | value (s : String)
  | word (s : String)
  | lateWord (s : String)
  deriving DecidableEq, Repr

namespace Part

/-- A part in messages. -/
def text : Part → String
  | letter c _ => "-" ++ String.singleton c
  | name s _ => "--" ++ s
  | value s => s
  | word s => s
  | lateWord s => s

/-- The argument in which an option was written. -/
def written? : Part → Option String
  | letter _ written => some written
  | name _ written => some written
  | _ => none

/-- The same option by the same letter or name. -/
def isSameOption : Part → Part → Bool
  | letter c _, letter d _ => c = d
  | name s _, name t _ => s = t
  | _, _ => false

/-- The part asks for help. -/
def isHelp : Part → Bool
  | letter c _ => c = 'h'
  | name s _ => s = "help"
  | _ => false

/-- The parts of one argument. The letters in `valued` take a value, which may follow at once or
behind an equals sign. -/
def ofArgument (valued : List Char) (argument : String) : List Part :=
  match argument.toList with
  | '-' :: '-' :: c :: rest =>
    let cs := c :: rest
    let name := Part.name (String.ofList (cs.takeWhile (· ≠ '='))) argument
    match cs.dropWhile (· ≠ '=') with
    | '=' :: tail => [name, .value (String.ofList tail)]
    | _ => [name]
  | ['-', c] => [.letter c argument]
  | '-' :: c :: '=' :: tail => [.letter c argument, .value (String.ofList tail)]
  | '-' :: c :: tail =>
    if valued.contains c then [.letter c argument, .value (String.ofList tail)]
    else [.word argument]
  | _ => [.word argument]

/-- The parts of all arguments; behind `--` there are only words. -/
def ofArguments (valued : List Char) : List String → List Part
  | [] => []
  | "--" :: rest => rest.map .lateWord
  | argument :: rest => ofArgument valued argument ++ ofArguments valued rest

end Part

/-! ## 2. Faults -/

/-- Why arguments make no command. -/
inductive UsageFault
  | expected (wanted : String) (found : Option String)
  | valueMissing (option wanted : String)
  | valueIsOption (option wanted found : String)
  | repeated (option : String)
  | unexpected (part : String)
  deriving DecidableEq, Repr

/-- The wording of a fault. -/
def UsageFault.message : UsageFault → String
  | .expected wanted none => s!"expected `{wanted}`, pass `--help` for usage information"
  | .expected wanted (some found) =>
    s!"expected `{wanted}`, got `{found}`. Pass `--help` for usage information"
  | .valueMissing option wanted => s!"`{option}` requires an argument `{wanted}`"
  | .valueIsOption option wanted found =>
    s!"`{option}` requires an argument `{wanted}`, got a flag `{found}`, "
      ++ s!"try `{option}={found}` to use it as an argument"
  | .repeated option => s!"argument `{option}` cannot be used multiple times in this context"
  | .unexpected part => s!"`{part}` is not expected in this context"

/-! ## 3. Taking parts -/

/-- The parts of some arguments, with gaps for those that were taken. -/
abbrev Arguments := List (Option Part)

namespace Arguments

/-- The first part that was not taken. -/
def first? (arguments : Arguments) : Option Part := arguments.findSome? id

/-- Takes the first word. -/
def takeWord? : Arguments → Option (String × Arguments)
  | [] => none
  | some (.word s) :: rest => some (s, none :: rest)
  | some (.lateWord s) :: rest => some (s, none :: rest)
  | part :: rest => (takeWord? rest).map fun (s, rest) => (s, part :: rest)

/-- Takes the first word, which messages call `wanted`. -/
def takeWord (wanted : String) (arguments : Arguments) : Except UsageFault (String × Arguments) :=
  match arguments.takeWord? with
  | some taken => .ok taken
  | none => .error (.expected wanted (arguments.first?.map (·.text)))

/-- Takes the first option with this letter or name and its value, if there is the option. -/
def takeValue (c : Char) (name wanted : String) :
    Arguments → Except UsageFault (Option String × Arguments)
  | [] => .ok (none, [])
  | part :: rest =>
    match part with
    | some option =>
      if option.isSameOption (.letter c "") || option.isSameOption (.name name "") then
        match rest with
        | some (.value s) :: rest => .ok (some s, none :: none :: rest)
        | some (.word s) :: rest => .ok (some s, none :: none :: rest)
        | some (.letter _ found) :: _ => .error (.valueIsOption option.text wanted found)
        | some (.name _ found) :: _ => .error (.valueIsOption option.text wanted found)
        | _ => .error (.valueMissing option.text wanted)
      else do
        let (value, rest) ← takeValue c name wanted rest
        return (value, part :: rest)
    | none => do
      let (value, rest) ← takeValue c name wanted rest
      return (value, part :: rest)

/-- No part may be left over of some parts; an option that stands there twice is named as such. -/
def close (parts : List Part) (left : Arguments) : Except UsageFault Unit :=
  match left.first? with
  | none => .ok ()
  | some part =>
    if (parts.take (left.findIdx Option.isSome)).any part.isSameOption then
      .error (.repeated part.text)
    else .error (.unexpected part.text)

end Arguments

end QueryGrading.CommandLine
