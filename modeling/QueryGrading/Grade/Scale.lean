import QueryGrading.Decimal.Fixed
import QueryGrading.Grade.Session

/-!
# The scale of correctness

`Scale.rows` lists the plausible verdicts of a session from worst to best, the most important axis
changing slowest. The place of the verdicts on a statement in that list is its level of correctness,
and `Scale.value` moves the levels onto the interval from 0 to 1.

It is `CorrectnessMatrix`: `combinations` are its triples before any is excluded, and the eleven
rules of `is_excluded` are gathered in `implausible` by the verdicts that they look at. The last of
them, on partial credit for a statement whose grammar is wrong, asks for no level, as the rules
beside it do; what follows from that is in `Proofs.Grade.Placement`. `level?` is
`calculate_correctness_level`, with no level for verdicts that are no row, and `value` is
`normalized_value`. No session has an empty list, so the error for that is left out
(`Proofs.Grade.Scale`).
-/

namespace QueryGrading

/-! ## 1. Plausible verdicts -/

/-- All verdicts of a session: each axis takes each of its verdicts. -/
def Session.combinations (s : Session) : List Verdicts :=
  let (first, second, third) := s.ranking.axes
  (s.levels.get first).verdicts.flatMap fun a =>
    (s.levels.get second).verdicts.flatMap fun b =>
      (s.levels.get third).verdicts.map fun c =>
        ((Verdicts.unjudged.set first a).set second b).set third c

/-- Verdicts that cannot stand together: a meaning that is right or nearly right with wrong
results, a wrong meaning with right results, a meaning above wrong for a statement that does not
parse, and the like. -/
def Session.implausible (s : Session) (v : Verdicts) : Bool :=
  let threeGrammar := s.levels.grammar = .three
  let threeMeaning := s.levels.meaning = .three
  let threeResults := s.levels.results = .three
  match v.results, v.meaning, v.grammar with
  | .incorrect, .minorIncorrect, _ => true
  | .incorrect, .correct, _ => true
  | .correct, .incorrect, _ => s.levels.meaning.hasMinor
  | .minorIncorrect, .incorrect, .incorrect => threeGrammar && threeMeaning && threeResults
  | results, meaning, grammar =>
    (results = .minorIncorrect && (meaning = .minorIncorrect || meaning = .correct)
        && threeResults && threeMeaning)
      || (grammar = .incorrect && meaning = .minorIncorrect && threeMeaning && threeGrammar)
      || (grammar = .incorrect && meaning = .correct && threeGrammar)
      || (meaning.isPartial && (results = .correct || grammar = .incorrect))

/-! ## 2. The scale -/

/-- The plausible verdicts of a session, from worst to best. -/
structure Scale where
  rows : List Verdicts
  deriving DecidableEq, Repr

namespace Scale

/-- The scale of a session. -/
def ofSession (s : Session) : Scale :=
  ⟨s.combinations.filter fun v => !s.implausible v⟩

/-- The scale of a session that has no fault. -/
def ofSession? (s : Session) : Except SessionFault Scale :=
  match s.fault? with
  | some fault => .error fault
  | none => .ok (ofSession s)

/-- The number of levels. -/
def size (scale : Scale) : Nat := scale.rows.length

/-- The level of some verdicts: their place in the scale, counted from 1. -/
def level? (scale : Scale) (v : Verdicts) : Option Nat :=
  (scale.rows.idxOf? v).map (· + 1)

/-- The value of a level: the lowest has 0 and the highest 1; a single one has 1. -/
def value (scale : Scale) (level : Nat) : Rat :=
  if scale.size ≤ 1 then 1 else mkRat (Int.ofNat (level - 1)) (scale.size - 1)

/-- The cells of the printed scale: level, results, semantics, syntax, value. -/
def cells (scale : Scale) : List (Nat × Verdicts × String) :=
  scale.rows.mapIdx fun i v => (i + 1, v, Decimal.fixed 3 (scale.value (i + 1)))

end Scale

/-- What is said of verdicts that have no level. -/
def Verdicts.unplaced (v : Verdicts) : String :=
  let grammar := v.grammar.text
  let meaning := v.meaning.text
  let results := v.results.text
  s!"no correctness level for syntax={grammar}, semantics={meaning}, results={results}"

end QueryGrading
