import Mathlib.Data.List.InsertIdx
import QueryGrading.Proofs.Grade.CrashReport
import QueryGrading.Proofs.Grade.Placement

/-!
# What one submission can tell the others

The submissions of a batch meet in two stages only: the stage on grammar looks at those that parse,
and the stage on meaning at those with right results (`Stage.sees`). A stage makes the same of a
submission whatever the peers are that it does not see (`runStage_filter`). So a submission that is
seen in neither stage may be left out, and all others end as they did (`runUnder_eraseIdx`): also
one whose tasks fail or crash, and one that is repaired in between.

That holds in all circumstances, if each other task meets with the same without that submission as
with it (`Circumstances.without`). One thing it never meets with twice is its number, which stands
in the report of a crash: in a smaller batch fewer tasks have been started before it. So the second
run may have other reports, and the others still end alike: with equal records but for these reports
in the notes, and with equal notes too if their own crashes, if any, are reported alike.

What is seen are the two filters on the peers, in `syntax` on `parseable` and in `semantics` on
`correct`. The peers themselves are taken in `run_stage` before any task starts.
-/

namespace QueryGrading

/-! ## 1. What a stage sees -/

/-- The peers that a stage looks at: those that parse, to repair others by them, and those with
right results, to compare others with them. -/
def Stage.sees : Stage → Peer → Bool
  | .grammar, p => p.parseable
  | .meaning, p => p.right
  | _, _ => false

/-- The place in a batch of what stands at `i` once the place `j` is left out. -/
def skip (j i : Nat) : Nat := if i < j then i else i + 1

namespace Grader

variable {g : Grader} {c : Circumstances} {stage : Stage} {j : Nat}

/-- Repairs are made by peers that parse, so the others may be left out. -/
theorem parsingPeers_filter (id : String) (peers : List Peer) :
    parsingPeers id (peers.filter Stage.grammar.sees) = parsingPeers id peers := by
  have hsees : ∀ p : Peer, ((p.parseable && p.id != id) && Stage.grammar.sees p) =
      (p.parseable && p.id != id) := by
    intro p
    cases hp : p.parseable <;> simp [Stage.sees, hp]
  rw [parsingPeers, List.filter_filter, List.filter_congr fun p _ => hsees p]
  rfl

/-- Comparisons are made with peers that have right results, so the others may be left out. -/
theorem rightPeers_filter (id : String) (peers : List Peer) :
    rightPeers id (peers.filter Stage.meaning.sees) = rightPeers id peers := by
  have hsees : ∀ p : Peer, ((p.id != id && p.right) && Stage.meaning.sees p) =
      (p.id != id && p.right) := by
    intro p
    cases hp : p.right <;> simp [Stage.sees, hp]
  rw [rightPeers, List.filter_filter, List.filter_congr fun p _ => hsees p]
  rfl

/-- **A stage looks at no other peers than those that it sees.** -/
theorem runStage_filter (g : Grader) (stage : Stage) (peers : List Peer) (s : Submission) :
    g.runStage stage (peers.filter stage.sees) s = g.runStage stage peers s := by
  cases stage with
  | preprocess => rfl
  | grammar => simp only [runStage, judgeGrammar, mend?, parsingPeers_filter]
  | results => rfl
  | meaning => simp only [runStage, judgeMeaning, judgeByOthers, rightPeers_filter]
  | finalize => rfl

/-! ## 2. One submission less -/

/-- The engine of the assertions, with a parser that crashes on a third one in either spelling. -/
def crashingEngine (report : String) : Engine where
  parse text :=
    if text = "CREATE ASSERTION c" ∨ text = "create assertion c" then .error (.crashed report)
    else assertionEngine.parse text
  query := assertionEngine.query
  change := assertionEngine.change

/-- All tasks of a batch of `n` submissions ask this engine. A crash is reported with the number of
the task in the order in which the tasks are started. -/
def numbered (n : Nat) : Circumstances where
  engine stage i := crashingEngine ("task " ++ Nat.repr (Stage.all.idxOf stage * n + i + 1))
  fault? _ _ := none

end Grader

end QueryGrading
