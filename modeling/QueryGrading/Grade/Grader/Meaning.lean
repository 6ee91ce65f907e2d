import QueryGrading.Grade.Grader
import QueryGrading.Grade.Grader.Peer
import QueryGrading.Query.Statement
import QueryGrading.Repair.EditDistance
import QueryGrading.Repair.Words
import QueryGrading.Tree.Distance

/-!
# The verdict on meaning

A statement with right results means the right thing. Otherwise the models and the peers with right
results are searched for a near one: `Nearest` keeps the best that is within the tolerances, and
ends the search at one that differs in the case of letters only. If none is near, the clauses are
compared, and the share of those that are right gives partial credit.

`judgeMeaning` is `semantics`. Its loop over the candidates writes distances into the submission on
the way; `search` returns what it finds, and `keepDistances` writes it down at the end. A text at
distance zero ends the search only if the candidate has an output. `bestReport` is
`best_clause_comparison`, and `partialCredit` is `partial_credit` in whole numbers, as rounding a
share to fifths is exact.
-/

namespace QueryGrading

namespace Grader

/-! ## 1. The nearest right statement -/

/-- A statement that is right: its text, its tree, and whether it has an output. -/
structure Candidate where
  text : String
  tree : Tree
  hasOutput : Bool
  deriving Repr

/-- A candidate with its distances from the submission. -/
structure Neighbour where
  text : String
  textDistance : Nat
  treeDistance : Nat
  deriving DecidableEq, Repr

/-- What a search has found: the nearest neighbour within the tolerances, and one with the same
text up to blanks and case, which ends the search. -/
structure Nearest where
  near : Option Neighbour
  same : Option Neighbour
  deriving DecidableEq, Repr

/-- Trees at least this far away are never near. -/
def treeBound : Nat := 100

/-- Searches the candidates in order. Only a tree that is nearer than `bound` counts, and each
neighbour that is found lowers the bound. -/
def search (session : Session) (text : String) (tree : Tree) (bound : Nat)
    (near : Option Neighbour) : List Candidate → Nearest
  | [] => ⟨near, none⟩
  | c :: rest =>
    let treeDistance := tree.distance c.tree
    if bound ≤ treeDistance then search session text tree bound near rest
    else
      let textDistance := editDistance text (Text.normalize c.text)
      let neighbour : Neighbour := ⟨c.text, textDistance, treeDistance⟩
      if textDistance = 0 ∧ c.hasOutput then ⟨near, some neighbour⟩
      else if treeDistance ≤ session.treeTolerance ∧ textDistance ≤ session.textTolerance then
        search session text tree treeDistance (some neighbour) rest
      else search session text tree bound near rest

/-- The other submissions with right results. -/
def rightPeers (id : String) (peers : List Peer) : List Peer :=
  peers.filter fun p => p.id != id && p.right

/-- A peer as a candidate, if it has a tree. -/
def candidate? (p : Peer) : Option Candidate := p.tree.map fun tree => ⟨p.text, tree, p.hasOutput⟩

/-- The models and the right peers. -/
def candidates (g : Grader) (peers : List Peer) : List Candidate :=
  g.models.map (fun m => ⟨m.text, m.tree, !m.output.isEmpty⟩) ++ peers.filterMap candidate?

/-! ## 2. The comparison of clauses -/

/-- A report says more than another: more parts match, or as many and more do not. -/
def saysMore (r best : Report) : Bool :=
  best.correct.length < r.correct.length
    || (r.correct.length = best.correct.length && best.incorrect.length < r.incorrect.length)

/-- The better of the best report so far and the comparison with a reference. -/
def considerReference (tree : Tree) (best : Report) (reference : Tree) : Report :=
  let r := Statement.compareAll reference tree
  if saysMore r best then r else best

/-- The trees of the same kind, or all of them if there is none. -/
def ofKind (kind : String) (trees : List Tree) : List Tree :=
  let same := trees.filter (·.statementKind == kind)
  if same.isEmpty then trees else same

/-- The report that says most of all comparisons with models and right peers of the same kind. -/
def bestReport (g : Grader) (tree : Tree) (peers : List Peer) : Report :=
  let kind := tree.statementKind
  let references := ofKind kind (g.models.map (·.tree)) ++ ofKind kind (peers.filterMap (·.tree))
  references.foldl (considerReference tree) .empty

/-- The band of a share of `part` in `whole`: the nearest fifth, a half going up. -/
def partialCredit (part whole : Nat) : Verdict :=
  match (10 * part + whole) / (2 * whole) with
  | 0 => .incorrect
  | 1 => .sm1
  | 2 => .sm2
  | 3 => .sm3
  | 4 => .sm4
  | _ => .sm5

/-- The verdict on a statement of which some parts match and others do not. -/
def shareVerdict (correct incorrect : Nat) : Verdict :=
  if correct + incorrect = 0 then .incorrect
  else if incorrect = 0 then .correct
  else partialCredit correct (correct + incorrect)

/-! ## 3. The verdict -/

/-- The explanation of a right meaning. -/
def rightMeaning : String := "Correct semantics.\n"

/-- Judges a statement with right results. -/
def judgeRight (s : Submission) : Submission :=
  ((s.note " SEMANTICS: Correct! Well done. ").explain .meaning rightMeaning).judge
    .meaning .correct

/-- Judges a statement that does not parse. -/
def judgeUnknown (s : Submission) : Submission :=
  let s := s.note
    " SEMANTICS: Since the query is not parseable, we could not verify the semantics. "
  (s.explain .meaning
    "The query is not parseable. Therefore, the semantics could not be verified.\n").judge
    .meaning .incorrect

/-- Writes down the distances from a neighbour. -/
def keepDistances (neighbour : Option Neighbour) (s : Submission) : Submission :=
  match neighbour with
  | some n => { s with textDistance := some n.textDistance, treeDistance := some n.treeDistance }
  | none => s

/-- What a near statement suggests. -/
def suggestion (text : String) : String := s!"Semantics minor error. Maybe you meant '{text}'?\n"

/-- Judges a statement that differs from a right one in blanks and the case of letters only. -/
def judgeSame (neighbour : Neighbour) (s : Submission) : Submission :=
  let text := neighbour.text
  let s := ((keepDistances (some neighbour) s).explain .meaning (suggestion text)).judge
    .results .correct
  (s.note
    (" SEMANTICS MINOR ERROR: To make the query have correct semantics, " ++
      s!"it was changed to, '{text}'. ")).judge .meaning .correct

/-- Judges a statement that is near a right one. -/
def judgeNear (levels : PerAxis Sensitivity) (neighbour : Neighbour) (s : Submission) :
    Submission :=
  let s := (keepDistances (some neighbour) s).judge .results .correct
  if levels.meaning.hasMinor then
    (s.explain .meaning (suggestion neighbour.text)).judge .meaning .minorIncorrect
  else (s.explain .meaning "").judge .meaning .incorrect

/-- Judges a statement by the comparison of its clauses. -/
def judgeClauses (levels : PerAxis Sensitivity) (r : Report) (s : Submission) : Submission :=
  let explanation := if r.message = "" then "2️⃣3️⃣\nNo detailed feedback.\n" else r.message
  let s := (s.explain .meaning explanation).note
    " SEMANTICS: The query does not have correct semantics. "
  if levels.meaning = .six then
    let verdict := shareVerdict r.correct.length r.incorrect.length
    let s := if verdict = .correct ∧ levels.results ≠ .absent then s.judge .results .correct else s
    s.judge .meaning verdict
  else s.judge .meaning .incorrect

/-- Judges a statement with a tree by the right ones. -/
def judgeByOthers (g : Grader) (peers : List Peer) (tree : Tree) (s : Submission) : Submission :=
  let levels := g.session.levels
  let others := rightPeers s.id peers
  match search g.session (Text.normalize s.text) tree treeBound none (g.candidates others) with
  | ⟨near, some same⟩ =>
    if levels.results = .absent then
      ((keepDistances near s).explain .meaning rightMeaning).judge .meaning .correct
    else judgeSame same s
  | ⟨some near, none⟩ => judgeNear levels near s
  | ⟨none, none⟩ => judgeClauses levels (g.bestReport tree others) s

/-- Judges the meaning of a statement. -/
def judgeMeaning (g : Grader) (peers : List Peer) (s : Submission) : Submission :=
  if g.session.levels.meaning = .absent then s.judge .meaning .invalid
  else if s.isRight then judgeRight s
  else
    match s.parseable, s.tree with
    | true, some tree => g.judgeByOthers peers tree s
    | _, _ => judgeUnknown s

end Grader

end QueryGrading
