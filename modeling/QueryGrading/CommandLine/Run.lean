import QueryGrading.CommandLine.Command
import QueryGrading.CommandLine.EnvironmentFile
import QueryGrading.CommandLine.Settings
import QueryGrading.CommandLine.Table
import QueryGrading.Grade.Grader.Run
import QueryGrading.Helper.Program
import QueryGrading.Tree.Distance

/-!
# Running a command

`Command.run` gives what a command prints and writes, as a function of its surroundings: the
environment, the files that can be read and written, and the programs that can be found. The three
commands are `grade`, `matrix` and `distance`, with `read_json` for the files that they read. A
failure comes with the same chain of causes and in the same order: settings before files, files
before helper programs, and these before the models.

The total in the foot of the overview is a fold of rounded additions in the order of the records
(`markSum`), as sums of floating-point numbers depend on their order. The colours of printed text
are left out, and so is the log.
-/

namespace QueryGrading.CommandLine

/-! ## 1. Surroundings -/

/-- What a command can ask for: a variable of the environment, the text of a file or why it cannot
be read, why a file cannot be written, and a program. -/
structure Surroundings where
  environment : String → Option String
  file : String → Except String String
  refusal : String → Option String
  program : String → Option FoundProgram

/-- What a command does: what it prints as its result and as notices, the file that it writes, and
whether it failed. -/
structure Printed where
  output : String
  notices : String
  written : Option (String × String)
  failed : Bool
  deriving DecidableEq, Repr

/-- A command that fails after some notices. -/
def Printed.failure (notices : String) (f : Failure) : Printed :=
  ⟨"", notices ++ f.text, none, true⟩

/-- A command that prints its result only. -/
def Printed.result (output : String) : Printed := ⟨output, "", none, false⟩

/-- Goes on with a value, or fails. -/
def orFail {α : Type} (value : Except Failure α) (next : α → Printed) : Printed :=
  match value with
  | .ok x => next x
  | .error f => .failure "" f

namespace Surroundings

/-- The variables of the environment; those of the file `.env` come after them. -/
def setting (w : Surroundings) : String → Option String :=
  match w.file ".env" with
  | .ok text => (Variables.ofText w.environment text).beneath w.environment
  | .error _ => w.environment

/-- The text of a file. -/
def text (w : Surroundings) (path : String) : Except Failure String :=
  match w.file path with
  | .ok text => .ok text
  | .error cause => .error ["Could not read " ++ path, cause]

/-- A value of the program out of a file. -/
def value {α : Type} (w : Surroundings) (reader : Reader α) (path : String) : Except Failure α :=
  match w.text path with
  | .error f => .error f
  | .ok text =>
    match reader.ofText text with
    | .ok value => .ok value
    | .error e => .error ["Could not parse " ++ path, e.message]

/-- A tree out of a file. -/
def tree (w : Surroundings) (path : String) : Except Failure Tree :=
  match w.text path with
  | .error f => .error f
  | .ok text =>
    match Json.parse text with
    | .ok value => .ok (.ofJson value)
    | .error fault => .error ["Parse tree is not valid JSON", fault.message]

end Surroundings

/-! ## 2. The scale and the distance -/

/-- The scale of a session as a table. -/
def scaleTable (s : Session) (scale : Scale) : Table :=
  let order := s.ranking.code
  let grammar := s.levels.grammar.code
  let meaning := s.levels.meaning.code
  let results := s.levels.results.code
  { title :=
      s!"Correctness matrix ({order}, syntax {grammar}, semantics {meaning}, results {results})"
    centred := false
    names := ["Level", "Results", "Semantics", "Syntax", "Normalized"]
    rows := scale.cells.map fun (level, v, value) =>
      [Nat.repr level, v.results.text, v.meaning.text, v.grammar.text, value]
    foot := none }

/-- Prints the scale of a session. -/
def printScale (session : Except Failure Session) : Printed :=
  orFail session fun s =>
    match Scale.ofSession? s with
    | .ok scale => .result (scaleTable s scale).text
    | .error fault => .failure "" [fault.message]

/-- Prints the distance between two trees; the first file is read first. -/
def printDistance (w : Surroundings) (a b : String) : Printed :=
  orFail (w.tree a) fun s =>
    orFail (w.tree b) fun t => .result (Nat.repr (s.distance t) ++ "\n")

/-! ## 3. Grading -/

/-- A sum of marks, rounded at each step as marks are. -/
def markSum (marks : List Rat) : Rat :=
  marks.foldl (fun sum mark => Decimal.nearest (sum + Decimal.nearest mark)) 0

/-- The records as a table with the sum of the grades. -/
def overview (records : List GradeRecord) : Table where
  title := "Grading Overview"
  centred := true
  names := ["Id", "Question", "Syntax", "Semantics", "Results", "Level", "Grade"]
  rows := records.map (·.cells)
  foot :=
    let grade := Decimal.fixed 2 (markSum (records.map (·.grade)))
    let outOf := Decimal.fixed 2 (markSum (records.map (·.outOf)))
    some s!"Total: {grade}/{outOf}"

/-- Prints the overview, and writes the records to a file or prints them. -/
def printRecords (w : Surroundings) (out : Option String) (records : List GradeRecord) : Printed :=
  let table := (overview records).text
  let text := (Json.array (records.map (·.toJson))).pretty ""
  match out with
  | none => ⟨text ++ "\n", table, none, false⟩
  | some path =>
    match w.refusal path with
    | some cause => .failure table ["Could not write " ++ path, cause]
    | none => ⟨"", table ++ "Wrote " ++ path ++ "\n", some (path, text), false⟩

/-- Grades the assignment in a file. The settings are read first, then the file; the programs are
looked for last. -/
def gradeFile (w : Surroundings) (path : String) (out : Option String) : Printed :=
  orFail (Settings.read w.setting) fun settings =>
    orFail (w.value (Assignment.read .text) path) fun assignment =>
      orFail (findHelpers w.program settings.parser settings.database) fun (parser, database) =>
        match gradeAssignment (.ofHelpers parser database) assignment with
        | .ok records => printRecords w out records
        | .error fault => .failure "" fault.causes

/-- Runs a command. -/
def Command.run (w : Surroundings) : Command → Printed
  | .grade assignment out => gradeFile w assignment out
  | .matrix none => printScale (.ok .standard)
  | .matrix (some path) => printScale (w.value (Session.read .text) path)
  | .distance a b => printDistance w a b
  | .help => .result usage

end QueryGrading.CommandLine
