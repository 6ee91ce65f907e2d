import QueryGrading.Grade.Verdict
import QueryGrading.Json.Record

/-!
# Sessions

A `Session` is the policy of one grading run. It is read from JSON, where every field has a default,
and `Session.fault?` names what no scale can be made for. It is `SessionConfig`, with
`default_session` as `standard` and `validate` as `fault?`: partial credit is for the axis of
meaning only. Levels and orders are written in upper case, and an unknown one is an error of its own
wording.
-/

namespace QueryGrading

/-! ## 1. The policy -/

/-- The policy of a grading run: the sensitivity of each axis, their ranking, whether the order of
rows counts, and how far a statement may be from a right one and still be nearly right, in
characters of its text and in nodes of its tree. -/
structure Session where
  levels : PerAxis Sensitivity
  ranking : Ranking
  ordered : Bool
  textTolerance : Nat
  treeTolerance : Nat
  deriving DecidableEq, Repr

/-- Why a session cannot be graded by: partial credit on another axis than meaning. -/
inductive SessionFault
  | partialCredit (axis : Axis)
  deriving DecidableEq, Repr

/-- The wording of a fault. -/
def SessionFault.message : SessionFault → String
  | .partialCredit axis =>
    let name := axis.text
    s!"SIX_LEVELS is only supported for the semantics axis, not {name}"

namespace Session

/-- Three verdicts on every axis, results first, rows in any order, a tolerance of four. -/
def standard : Session where
  levels := ⟨.three, .three, .three⟩
  ranking := .resultsMeaningGrammar
  ordered := false
  textTolerance := 4
  treeTolerance := 4

/-- The first fault of a session. -/
def fault? (s : Session) : Option SessionFault :=
  if s.levels.grammar = .six then some (.partialCredit .grammar)
  else if s.levels.results = .six then some (.partialCredit .results)
  else none

end Session

/-! ## 2. As JSON -/

namespace Reader

/-- One of the values that have a code; `noun` names what they are. -/
def coded {α : Type} (noun : String) (values : List α) (code : α → String) :
    Reader α := fun source =>
  match text source with
  | .error e => .error e
  | .ok name =>
    match values.find? (code · == name) with
    | some x => .ok x
    | none => .error (.unknownName noun name)

/-- A verdict. -/
def verdict : Reader Verdict := coded "state" Verdict.all Verdict.code

/-- A sensitivity. -/
def sensitivity : Reader Sensitivity := coded "level" Sensitivity.all Sensitivity.code

/-- A ranking. -/
def ranking : Reader Ranking := coded "order" Ranking.all Ranking.code

end Reader

/-- The verdicts on the three axes as a record. -/
def Verdicts.record : Record Verdicts where
  name := "Properties"
  fields := [
    ⟨"syntax", true, fun v s => do return { v with grammar := ← Reader.verdict s }⟩,
    ⟨"semantics", true, fun v s => do return { v with meaning := ← Reader.verdict s }⟩,
    ⟨"results", true, fun v s => do return { v with results := ← Reader.verdict s }⟩]
  start := Verdicts.unjudged

namespace Session

/-- Reads the sensitivity of an axis. -/
def readLevel (axis : Axis) (s : Session) (source : Source) : Except ReadError Session := do
  return { s with levels := s.levels.set axis (← Reader.sensitivity source) }

/-- A session as a record. -/
def record : Record Session where
  name := "SessionConfig"
  fields := [
    ⟨"syntax_level", false, readLevel .grammar⟩,
    ⟨"semantics_level", false, readLevel .meaning⟩,
    ⟨"results_level", false, readLevel .results⟩,
    ⟨"order", false, fun s v => do return { s with ranking := ← Reader.ranking v }⟩,
    ⟨"check_order", false, fun s v => do return { s with ordered := ← Reader.flag v }⟩,
    ⟨"syntax_minor_threshold", false,
      fun s v => do return { s with textTolerance := ← Reader.size v }⟩,
    ⟨"semantics_minor_threshold", false,
      fun s v => do return { s with treeTolerance := ← Reader.size v }⟩]
  start := standard

/-- Reads a session. -/
def read (origin : Origin) : Reader Session := record.read origin

/-- A session with all its fields. -/
def toJson (s : Session) : Json :=
  Json.ofMembers [
    ("syntax_level", .string s.levels.grammar.code),
    ("semantics_level", .string s.levels.meaning.code),
    ("results_level", .string s.levels.results.code),
    ("order", .string s.ranking.code),
    ("check_order", .bool s.ordered),
    ("syntax_minor_threshold", .ofNat s.textTolerance),
    ("semantics_minor_threshold", .ofNat s.treeTolerance)]

end Session

end QueryGrading
