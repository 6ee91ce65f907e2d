import QueryGrading.CommandLine.Run

/-!
# The program

The outer layer asks the system for all that a command may need, runs the command as a function of
it, and prints what the command says. It is `main`, with `dotenv` and `options` before the command
itself, and all else is in `Command.run`.

Helper programs are looked for but not started, so a command that needs one reports each call as
failed; `run_collect` has no counterpart here but the record of a finished run in `Helper.Program`.
The log (`log_level` and the layers set up beside it) is left out: nothing a command prints or
writes depends on it.
-/

namespace QueryGrading.CommandLine

/-- How the system words an error. -/
def systemText : IO.Error → String
  | .noFileOrDirectory _ _ _ => "No such file or directory (os error 2)"
  | .permissionDenied _ _ _ => "Permission denied (os error 13)"
  | .inappropriateType _ _ _ => "Is a directory (os error 21)"
  | .userError _ => "stream did not contain valid UTF-8"
  | error => toString error

/-- The text of a file, or why it cannot be read. -/
def readInput (path : String) : IO (String × Except String String) := do
  match ← (IO.FS.readFile path).toBaseIO with
  | .ok text => return (path, .ok text)
  | .error error => return (path, .error (systemText error))

/-- Why a file cannot be written, unless it is written. -/
def writeOutput (path text : String) : IO (Option String) := do
  match ← (IO.FS.writeFile path text).toBaseIO with
  | .ok _ => return none
  | .error error => return some (systemText error)

/-- A program that is looked for but not started. -/
def unstarted (path : String) : FoundProgram where
  path := path
  run _ _ := .notStarted ["failed to spawn " ++ path, "programs are not started"]

/-- The first of some files that can be opened. -/
def firstOpen : List String → IO (Option String)
  | [] => return none
  | path :: rest => do
    match ← (IO.FS.Handle.mk path IO.FS.Mode.read).toBaseIO with
    | .ok _ => return some path
    | .error _ => firstOpen rest

/-- A program: the one with this path, or the first with this name in a list of folders. -/
def locate (folders : List String) (name : String) : IO (String × Option FoundProgram) := do
  let places :=
    if name = "" then []
    else if name.contains '/' then [name]
    else (folders.filter (· ≠ "")).map fun folder => folder ++ "/" ++ name
  let found ← firstOpen places
  return (name, found.map unstarted)

/-- The surroundings of a command. -/
def gather (command : Command) : IO Surroundings := do
  let files ← (".env" :: command.inputs).mapM readInput
  let mentioned := match files with
    | (_, .ok text) :: _ => Variables.mentioned text.toList
    | _ => []
  let values ← (Settings.names ++ mentioned).mapM fun name => return (name, ← IO.getEnv name)
  let folders := ((← IO.getEnv "PATH").getD "").splitOn ":"
  let missing : Except String String := .error "No such file or directory (os error 2)"
  let w : Surroundings := {
    environment := fun name => (values.lookup name).join
    file := fun path => (files.lookup path).getD missing
    refusal := fun _ => none
    program := fun _ => none }
  let programs ← match Settings.read w.setting with
    | .ok settings => [settings.parser.1, settings.database.1].mapM (locate folders)
    | .error _ => pure []
  return { w with program := fun name => (programs.lookup name).join }

/-- Prints what a command says and returns its status. -/
def present (printed : Printed) : IO UInt32 := do
  (← IO.getStdout).putStr printed.output
  (← IO.getStderr).putStr printed.notices
  return if printed.failed then 1 else 0

/-- Runs a command in its surroundings and writes its file. -/
def perform (command : Command) : IO UInt32 := do
  let w ← gather command
  let printed := command.run w
  match printed.written with
  | none => present printed
  | some (path, text) =>
    match ← writeOutput path text with
    | none => present printed
    | some cause => present (command.run { w with refusal := fun _ => some cause })

end QueryGrading.CommandLine

/-- Runs the command that the arguments ask for. -/
def main (arguments : List String) : IO UInt32 := do
  match QueryGrading.CommandLine.Command.ofArguments arguments with
  | .ok command => QueryGrading.CommandLine.perform command
  | .error fault =>
    QueryGrading.CommandLine.present (QueryGrading.CommandLine.Printed.failure "" [fault.message])
