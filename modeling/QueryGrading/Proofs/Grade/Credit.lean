import QueryGrading.Proofs.Grade.Stages
import QueryGrading.Proofs.Query.Consistency

/-!
# What full credit for meaning vouches for

With six verdicts on meaning, a statement that is far from all right ones is judged by the numbers
of parts that match and that do not. It is right where at least one part matches and no part is
incorrect (`shareVerdict_eq_correct_iff`). The report then says that the statements are equal, with
one exception: statements of a kind that cannot be graded are not equal, and name no part
(`full_credit_iff`).

The verdict is made by `partial_credit` of the lists `correct_parts` and `incorrect_parts` in the
report of `best_clause_comparison`; the field `equal` is not looked at. `compare_statements` sets
that field to false for a statement of another kind, and adds nothing to the lists.
-/

namespace QueryGrading

namespace Grader

open Statement (compareAll)

theorem partialCredit_ne_correct (part whole : Nat) : partialCredit part whole ≠ .correct := by
  unfold partialCredit
  split <;> nofun

/-- Some part matches and none is incorrect: a report that names no part at all gets no credit. -/
theorem shareVerdict_eq_correct_iff (correct incorrect : Nat) :
    shareVerdict correct incorrect = .correct ↔ correct ≠ 0 ∧ incorrect = 0 := by
  unfold shareVerdict
  split
  · next hnone => exact iff_of_false nofun fun h => h.1 (Nat.add_eq_zero_iff.mp hnone).1
  · next hsome =>
    split
    · next hright =>
      have hpart : correct ≠ 0 := fun h => hsome (by rw [h, hright])
      exact iff_of_true rfl ⟨hpart, hright⟩
    · next hwrong =>
      exact iff_of_false (partialCredit_ne_correct _ _) fun h => hwrong h.2

/-- With six verdicts, the verdict on meaning is the share of the parts that match. -/
theorem meaning_judgeClauses_six {levels : PerAxis Sensitivity} (h : levels.meaning = .six)
    (report : Report) (s : Submission) :
    (judgeClauses levels report s).verdicts.meaning =
      shareVerdict report.correct.length report.incorrect.length := by
  simp only [judgeClauses]
  rw [if_pos h]
  rfl

/-! ## 1. The references -/

/-- The trees that a statement is compared with: those of its kind among the models and among the
peers. -/
def references (g : Grader) (tree : Tree) (peers : List Peer) : List Tree :=
  ofKind tree.statementKind (g.models.map (·.tree)) ++
    ofKind tree.statementKind (peers.filterMap (·.tree))

/-- A tree of the kind in question is always compared. -/
theorem mem_ofKind {kind : String} {trees : List Tree} {t : Tree} (h : t ∈ trees)
    (hkind : t.statementKind = kind) : t ∈ ofKind kind trees := by
  have hsame : t ∈ trees.filter (·.statementKind == kind) :=
    List.mem_filter.mpr ⟨h, by simp [hkind]⟩
  unfold ofKind
  dsimp only
  rw [if_neg (by simpa using ⟨t, h, hkind⟩)]
  exact hsame

/-- The best report is one on a reference, if any report says something. -/
theorem bestReport_cases (g : Grader) (tree : Tree) (peers : List Peer) :
    g.bestReport tree peers = .empty ∨
      ∃ reference ∈ g.references tree peers,
        g.bestReport tree peers = compareAll reference tree := by
  refine List.foldlRecOn (motive := fun best : Report => best = .empty ∨
    ∃ reference ∈ g.references tree peers, best = compareAll reference tree) _ _ (.inl rfl)
    fun best hbest reference hreference => ?_
  unfold considerReference
  dsimp only
  split
  · exact .inr ⟨reference, hreference, rfl⟩
  · exact hbest

/-! ## 2. Full credit -/

/-- **A report on two parse trees is equal just where it names no incorrect part, and full credit
for meaning goes to reports that are equal, as far as the statements of the reference can be
graded.**  A pair of statements of another kind is not equal and names no part, so it spoils the
report and not the credit. -/
theorem full_credit_iff (reference found : Tree) (levels : PerAxis Sensitivity) (s : Submission) :
    let report := compareAll reference found
    let gradable := ∀ t ∈ reference.allStatements, (Statement.ofTree? t).isSome = true
    (report.equal = true ↔ report.incorrect = [] ∧ gradable) ∧
      ((judgeClauses { levels with meaning := .six } report s).verdicts.meaning = .correct ∧
          gradable ↔
        report.equal = true ∧ report.correct ≠ []) := by
  intro report gradable
  have hequal : report.equal = true ↔ report.incorrect = [] ∧ gradable :=
    Statement.compareAll_equal_iff reference found
  refine ⟨hequal, ?_⟩
  rw [meaning_judgeClauses_six rfl, shareVerdict_eq_correct_iff, hequal, Ne,
    List.length_eq_zero_iff, List.length_eq_zero_iff]
  tauto

/-- A script that creates an assertion and drops a table. -/
def dropping (table : String) : Tree :=
  .node "root" "" [.node "stmts" ""
    [.node "stmt" "" [.node "CreateAssertionStmt" "" [.leaf "assertion_name" "\"a\""]],
      .node "stmt" "" [.node "DropStmt" "" [.leaf "relname" table]]]]

/-- A script that drops another table is not equal to the reference, has no incorrect part, and gets
full credit for its meaning. -/
theorem full_credit_unequal :
    let report := compareAll (dropping "\"t\"") (dropping "\"u\"")
    report.equal = false ∧ report.incorrect = [] ∧
      ∀ s, (judgeClauses ⟨.three, .six, .two⟩ report s).verdicts.meaning = .correct := by
  intro report
  have hequal : report.equal = false := by decide +kernel
  have hcorrect : report.correct = ["Assertion name", "Assertion condition"] := by decide +kernel
  have hincorrect : report.incorrect = [] := by decide +kernel
  refine ⟨hequal, hincorrect, fun s => ?_⟩
  rw [meaning_judgeClauses_six rfl, hcorrect, hincorrect]
  rfl

end Grader

end QueryGrading
