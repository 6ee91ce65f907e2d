import QueryGrading.Decimal.Fixed
import QueryGrading.Helper.Reply
import QueryGrading.Text.Blank

/-!
# Helper programs

A `Helper` is a program that is run once for each statement, with the statement as its input. It has
to end in time, without an error, and with a reply that can be read; `Engine.ofHelpers` makes an
engine out of a parser and a database.

The order of the checks is that of `invoke` on both helpers: `run_collect` reports a program that
cannot be started or takes too long, `ensure_success` one that ends with another status than zero,
and then the reply is decoded. `resolve` looks for the program first, once for each run. A
`HelperRun` is what `run_collect` brings back, so starting a process, feeding it and killing it at
its deadline are left out, and time passes as the record of the run says. The database helper is not
`parallel_safe`, which is the flag of a `Pool`.
-/

namespace QueryGrading

/-! ## 1. Time -/

/-- A span of time in milliseconds, in the greatest unit that leaves a whole part: seconds, with
the digits after the point that are needed, or milliseconds. -/
def durationText (milliseconds : Nat) : String :=
  if milliseconds = 0 then "0ns"
  else if milliseconds < 1000 then Nat.repr milliseconds ++ "ms"
  else
    let digits := (Decimal.padded 3 (milliseconds % 1000)).toList
    let digits := (digits.reverse.dropWhile (· = '0')).reverse
    let tail := if digits.isEmpty then "" else "." ++ String.ofList digits
    Nat.repr (milliseconds / 1000) ++ tail ++ "s"

/-! ## 2. Running a helper -/

/-- How a run of a program went: it could not be started, or it ended after some milliseconds
with a status and what it wrote. -/
inductive HelperRun
  | notStarted (causes : List String)
  | ended (after status : Nat) (output errors : String)
  deriving DecidableEq, Repr

/-- A program with its name in messages and the milliseconds that it may take. A run takes
arguments and an input. -/
structure Helper where
  name : String
  deadline : Nat
  run : List String → String → HelperRun

namespace Helper

/-- What the program writes for an input. One that takes too long, or ends with a status other than
zero, gives nothing. -/
def output (h : Helper) (arguments : List String) (input : String) : Except Fault String :=
  match h.run arguments input with
  | .notStarted causes => .error (.failed causes)
  | .ended after status output errors =>
    if h.deadline < after then
      .error (.failed
        [h.name ++ " timed out after " ++ durationText h.deadline, "deadline has elapsed"])
    else if status ≠ 0 then
      .error (.failed
        [h.name ++ " exited with exit status: " ++ Nat.repr status ++ ": " ++ Text.trim errors])
    else .ok output

/-- The reply of the program. -/
def reply {α : Type} (h : Helper) (reader : Reader α) (arguments : List String) (input : String) :
    Except Fault α :=
  match h.output arguments input with
  | .error fault => .error fault
  | .ok output =>
    match reader.ofText output with
    | .ok value => .ok value
    | .error e => .error (.failed [h.name ++ " wrote an invalid reply: " ++ output, e.message])

end Helper

/-! ## 3. The engine -/

/-- The engine of a parser and a database that are helper programs. -/
def Engine.ofHelpers (parser database : Helper) : Engine where
  parse text := do
    let reply ← parser.reply (ParserReply.record.read .text) [] text
    return reply.answer
  query text := do
    let reply ← database.reply (ExecutionReply.record.read .text) ["select"] text
    match reply.queryAnswer with
    | .ok rows => return rows
    | .error e => .error (.failed [e])
  change text := do
    let reply ← database.reply (ExecutionReply.record.read .text) ["non-select"] text
    return reply.effect

/-- Why a helper program cannot be used: it is not found. -/
def helperNotFound (name : String) : List String :=
  ["Cannot find helper program `" ++ name ++ "` on PATH", "cannot find binary path"]

/-- A program as it was found: the path by which messages name it, and how it runs. -/
structure FoundProgram where
  path : String
  run : List String → String → HelperRun

/-- Both helper programs, each with its time, if they are found; the parser is looked for first. -/
def findHelpers (find : String → Option FoundProgram) (parser database : String × Nat) :
    Except (List String) (Helper × Helper) :=
  match find parser.1, find database.1 with
  | none, _ => .error (helperNotFound parser.1)
  | _, none => .error (helperNotFound database.1)
  | some p, some d => .ok (⟨p.path, parser.2, p.run⟩, ⟨d.path, database.2, d.run⟩)

end QueryGrading
