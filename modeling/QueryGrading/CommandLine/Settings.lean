import QueryGrading.CommandLine.Failure
import QueryGrading.Text.Blank
import QueryGrading.Text.Numeral
import QueryGrading.Text.Quoted

/-!
# Settings of a grading command

The helper programs, the time that each may take, and the number of workers come from variables of
the environment. Only a number of workers that is no number is a failure.

It is what `ConfigState::new` reads, with `read_command` and `read_timeout_secs`: a blank command or
a timeout that is no number gives way to the default, and zero workers to one. Without that variable
the number of workers is that of the processors, which is not asked for here, as a run does not
depend on it. The process keeps one configuration and hands out references to it
(`ensure_initialized`, `get`); the environment does not change while a command runs, so the settings
are read when they are needed.
-/

namespace QueryGrading.CommandLine

/-- The helper programs with the milliseconds that each may take, and the number of workers if one
was asked for. -/
structure Settings where
  parser : String × Nat
  database : String × Nat
  workers : Option Nat
  deriving DecidableEq, Repr

namespace Settings

/-- The variables that settings are read from. -/
def names : List String :=
  ["SQLGRADE_WORKERS", "SQLGRADE_PARSER_CMD", "SQLGRADE_PARSER_TIMEOUT_SECS",
    "SQLGRADE_BACKEND_CMD", "SQLGRADE_BACKEND_TIMEOUT_SECS"]

/-- The name of a program: a blank one gives way to the standard one. -/
def program (standard : String) (value : Option String) : String :=
  let name := Text.trim (value.getD "")
  if name = "" then standard else name

/-- A number of seconds in milliseconds; one that cannot be read gives way to the standard one. -/
def seconds (standard : Nat) (value : Option String) : Nat :=
  match Numeral.read (Nat.pow 2 64) (value.getD "") with
  | .ok n => n * 1000
  | .error _ => standard * 1000

/-- The number of workers, at least one. -/
def workerCount : Option String → Except Failure (Option Nat)
  | none => .ok none
  | some value =>
    match Numeral.read (Nat.pow 2 64) (Text.trim value) with
    | .ok n => .ok (some (max n 1))
    | .error fault =>
      .error ["configuration initialization failed",
        "SQLGRADE_WORKERS must be a positive integer, got " ++ Text.quoted value, fault.message]

/-- The settings of an environment. -/
def read (environment : String → Option String) : Except Failure Settings :=
  match workerCount (environment "SQLGRADE_WORKERS") with
  | .error failure => .error failure
  | .ok workers =>
    .ok {
      parser := (program "pg_query_json" (environment "SQLGRADE_PARSER_CMD"),
        seconds 30 (environment "SQLGRADE_PARSER_TIMEOUT_SECS"))
      database := (program "sqlgrade-exec" (environment "SQLGRADE_BACKEND_CMD"),
        seconds 60 (environment "SQLGRADE_BACKEND_TIMEOUT_SECS"))
      workers := workers }

end Settings

end QueryGrading.CommandLine
