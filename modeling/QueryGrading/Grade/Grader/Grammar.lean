import QueryGrading.Grade.Grader
import QueryGrading.Grade.Grader.Peer
import QueryGrading.Repair.Statement

/-!
# The verdict on grammar

A statement that does not parse is repaired if that can be done: by a model, by the reserved words,
or by another submission, in this order. Of the repairs by several references that parse,
`repairFrom` takes the one with the fewest changed words, and the earliest of equally good ones.

`judgeGrammar` is `syntax`, and `repairFrom` is `repair_from`, where a reference whose repair
changes no fewer words than the best one so far is passed over before it is parsed. A repair by
reserved words has no distance, so the one noted before stays. The verdict on a repaired statement
is nearly right with three verdicts and wrong with two.
-/

namespace QueryGrading

namespace Grader

/-! ## 1. Repairs that parse -/

/-- A repaired text that parses. -/
structure Mended where
  text : String
  parsed : Parsed
  deriving Repr

/-- The best repair of a normalized text by several references, with the number of words that it
changes. A reference is not tried when it cannot improve on the best repair so far. -/
def repairFrom (g : Grader) (text : String) : Option (Mended × Nat) → List String →
    Except Fault (Option (Mended × Nat))
  | best, [] => .ok best
  | best, reference :: rest =>
    match Repair.fromReference? text (Text.normalize reference) g.session.textTolerance with
    | none => repairFrom g text best rest
    | some repair =>
      if best.any (·.2 ≤ repair.distance) then repairFrom g text best rest
      else
        match g.engine.parse? repair.text with
        | .error fault => .error fault
        | .ok none => repairFrom g text best rest
        | .ok (some parsed) =>
          repairFrom g text (some (⟨repair.text, parsed⟩, repair.distance)) rest

/-- The repair by the reserved words, if it parses. -/
def repairWords (g : Grader) (text : String) : Except Fault (Option Mended) :=
  match Repair.withKeywords? text with
  | none => .ok none
  | some repaired =>
    match g.engine.parse? repaired with
    | .error fault => .error fault
    | .ok none => .ok none
    | .ok (some parsed) => .ok (some ⟨repaired, parsed⟩)

/-- The texts of the other submissions that parse. -/
def parsingPeers (id : String) (peers : List Peer) : List String :=
  (peers.filter fun p => p.parseable && p.id != id).map (·.text)

/-- The repair of a submission: by the models, else by the reserved words, else by its peers. Only
a repair by a reference has a distance. -/
def mend? (g : Grader) (peers : List Peer) (s : Submission) :
    Except Fault (Option (Mended × Option Nat)) :=
  let text := Text.normalize s.text
  match g.repairFrom text none (g.models.map (·.text)) with
  | .error fault => .error fault
  | .ok (some (mended, distance)) => .ok (some (mended, some distance))
  | .ok none =>
    match g.repairWords s.text with
    | .error fault => .error fault
    | .ok (some mended) => .ok (some (mended, none))
    | .ok none =>
      match g.repairFrom text none (parsingPeers s.id peers) with
      | .error fault => .error fault
      | .ok found => .ok (found.map fun (mended, distance) => (mended, some distance))

/-! ## 2. The verdict -/

/-- Puts a repair in the place of the text. -/
def takeRepair (g : Grader) (mended : Mended) (distance : Option Nat) (s : Submission) :
    Except Fault Submission :=
  let text := mended.text
  let s := s.note
    s!" SYNTAX MINOR ERROR: To make the query parseable, it was changed to, '{text}'. "
  let s := s.explain .grammar
    s!"Syntax minor error. The query was changed to '{text}' make it parseable.\n"
  let s := { s with
    originalText := some s.text
    text := text
    textDistance := distance.or s.textDistance }
  match g.adopt mended.parsed s with
  | .error fault => .error fault
  | .ok s =>
    let verdict := if g.session.levels.grammar = .three then .minorIncorrect else .incorrect
    .ok (s.judge .grammar verdict)

/-- The note on a statement that does not parse. -/
def noteUnparseable (s : Submission) : Submission := s.note " SYNTAX: The query is not parseable. "

/-- Judges whether the statement parses. The note on one that does not stays when the search for a
repair is stopped. -/
def judgeGrammar (g : Grader) (peers : List Peer) (s : Submission) : Submission × Option Fault :=
  if g.session.levels.grammar = .absent then (s.judge .grammar .invalid, none)
  else if s.parseable then ((s.note " SYNTAX: Correct! Well done. ").judge .grammar .correct, none)
  else
    let s := noteUnparseable s
    match g.mend? peers s with
    | .error fault => (s, some fault)
    | .ok none => (s.judge .grammar .incorrect, none)
    | .ok (some (mended, distance)) =>
      match g.takeRepair mended distance s with
      | .error fault => (s, some fault)
      | .ok s => (s, none)

end Grader

end QueryGrading
