import QueryGrading.Proofs.Grade.Credit
import QueryGrading.Proofs.Grade.Nearest

/-!
# Which report decides

The best report has the highest rank of all reports on the references (`rank_le_bestReport`). So
with six verdicts a statement that is judged by its clauses is right just where something matches
and no reference that matches in most parts names an incorrect one (`full_share_bestReport_iff`). A
model that it matches in full gives full credit as long as no other reference says more
(`meaning_of_full_match`). A reference that asks for more does say more, once as many parts match,
and then the full match counts for nothing.

`best_clause_comparison` keeps a report with more correct parts, or with as many and more incorrect
ones, and goes through the models and the peers of the kind of the statement, or through all where
none is of that kind; `partial_credit` looks at the report that it keeps. Whether a report says that
all is equal is not asked.
-/

namespace QueryGrading

namespace Grader

open Statement (compareAll)

variable {g : Grader} {peers : List Peer} {s : Submission} {tree r : Tree}

/-! ## 1. The highest rank

The best report is kept through a fold, so its rank is the greatest of all ranks. -/

theorem rank_le_iff (r best : Report) :
    rank r ≤ rank best ↔ r.correct.length < best.correct.length ∨
      r.correct.length = best.correct.length ∧ r.incorrect.length ≤ best.incorrect.length := by
  rw [rank, rank, Prod.Lex.toLex_le_toLex]

/-- **No report on a reference says more than the best report.** -/
theorem rank_le_bestReport (hr : r ∈ g.references tree peers) :
    rank (compareAll r tree) ≤ rank (g.bestReport tree peers) := by
  have hbest : rank (g.bestReport tree peers) =
      ((g.references tree peers).map fun reference => rank (compareAll reference tree)).foldl max
        (rank .empty) := rank_foldl_considerReference tree (g.references tree peers) .empty
  have hall := (foldl_max_le_iff _ _ _).mp hbest.ge
  exact hall.2 _ (List.mem_map_of_mem hr)

/-- No other reference matches in more parts. -/
def MatchesMost (g : Grader) (tree : Tree) (peers : List Peer) (r : Tree) : Prop :=
  r ∈ g.references tree peers ∧ ∀ r' ∈ g.references tree peers,
    (compareAll r' tree).correct.length ≤ (compareAll r tree).correct.length

theorem matchesMost_of_bestReport (hr : r ∈ g.references tree peers)
    (hbest : g.bestReport tree peers = compareAll r tree) : g.MatchesMost tree peers r := by
  refine ⟨hr, fun r' hr' => ?_⟩
  have hle := rank_le_bestReport hr'
  rw [hbest, rank_le_iff] at hle
  omega

/-- **The best report gives full credit** where some part matches, and no reference that matches in
most parts names an incorrect one. -/
theorem full_share_bestReport_iff (g : Grader) (tree : Tree) (peers : List Peer) :
    shareVerdict (g.bestReport tree peers).correct.length
        (g.bestReport tree peers).incorrect.length = .correct ↔
      (∃ r ∈ g.references tree peers, (compareAll r tree).correct ≠ []) ∧
        ∀ r, g.MatchesMost tree peers r → (compareAll r tree).incorrect = [] := by
  rw [shareVerdict_eq_correct_iff]
  constructor
  · rintro ⟨hcorrect, hincorrect⟩
    rcases bestReport_cases g tree peers with hempty | ⟨best, hmem, hbest⟩
    · exact absurd (by rw [hempty]; rfl) hcorrect
    · rw [hbest] at hcorrect hincorrect
      refine ⟨⟨best, hmem, fun hnil => hcorrect (by rw [hnil]; rfl)⟩, fun r hr => ?_⟩
      -- as many parts match, and the best report has no incorrect part to say more by
      have hle := rank_le_bestReport hr.1
      have hmost := hr.2 best hmem
      rw [hbest, rank_le_iff] at hle
      rw [← List.length_eq_zero_iff]
      omega
  · rintro ⟨⟨r, hr, hcorrect⟩, hmost⟩
    -- a report with a correct part beats the empty one, so the best report is on a reference
    have hpos := List.length_pos_iff.mpr hcorrect
    have hle := rank_le_bestReport hr
    rw [rank_le_iff] at hle
    rcases bestReport_cases g tree peers with hempty | ⟨best, hmem, hbest⟩
    · rw [hempty] at hle
      have hnone : Report.empty.correct.length = 0 := rfl
      omega
    · have hnil := hmost best (matchesMost_of_bestReport hmem hbest)
      rw [hbest] at hle ⊢
      exact ⟨by omega, by rw [hnil]; rfl⟩

/-! ## 2. A model that is matched in full

A model that is matched in full is one of the references, if it is of the same kind. Whether it
decides depends on the others. -/

theorem mem_references_of_model {m : Model} (hm : m ∈ g.models)
    (hkind : m.tree.statementKind = tree.statementKind) : m.tree ∈ g.references tree peers :=
  List.mem_append_left _ (mem_ofKind (List.mem_map_of_mem hm) hkind)

/-- **A statement that matches a model in full.**  It gets full credit as long as the report on no
other reference says more; and in any case just where no reference that matches in most parts names
an incorrect one. -/
theorem meaning_of_full_match (h : Searched g s tree) (hleft : LeftToClauses g peers s tree)
    (hsix : g.session.levels.meaning = .six) {m : Model} (hm : m ∈ g.models)
    (hkind : m.tree.statementKind = tree.statementKind)
    (hequal : (compareAll m.tree tree).equal = true)
    (hpart : (compareAll m.tree tree).correct ≠ []) :
    let others := rightPeers s.id peers
    let verdict := (g.judgeMeaning peers s).verdicts.meaning
    ((∀ r ∈ g.references tree others,
      saysMore (compareAll r tree) (compareAll m.tree tree) = false) → verdict = .correct) ∧
    (verdict = .correct ↔
      ∀ r, g.MatchesMost tree others r → (compareAll r tree).incorrect = []) := by
  intro others verdict
  have hverdict : verdict = shareVerdict (g.bestReport tree others).correct.length
      (g.bestReport tree others).incorrect.length := by
    rw [← meaning_judgeClauses_six hsix _ s, ← hleft.judgeByOthers_eq, ← h.judgeMeaning_eq]
  have hmem : m.tree ∈ g.references tree others := mem_references_of_model hm hkind
  -- the model is a reference, so of the two conditions one is given
  have hiff : verdict = .correct ↔
      ∀ r, g.MatchesMost tree others r → (compareAll r tree).incorrect = [] := by
    rw [hverdict, full_share_bestReport_iff]
    exact and_iff_right ⟨m.tree, hmem, hpart⟩
  refine ⟨fun hrivals => hiff.mpr fun r hr => ?_, hiff⟩
  have hright := ((Statement.compareAll_equal_iff m.tree tree).mp hequal).1
  have hmost := hr.2 m.tree hmem
  -- no report says more than that on the model, which has no incorrect part
  have hless : rank (compareAll r tree) ≤ rank (compareAll m.tree tree) := by
    rw [← not_lt, ← saysMore_iff, hrivals r hr.1]
    exact Bool.false_ne_true
  rw [rank_le_iff, hright, List.length_nil] at hless
  rw [← List.length_eq_zero_iff]
  omega

/-! ## 3. Deletions

Deletions have few parts, so one that reads a further table soon says more than a full match. -/

/-- The tree of a deletion. -/
def deletionTree (table sources : List Tree) : Tree :=
  .node "root" "" [.node "stmts" "" [.node "stmt" "" [.node "DeleteStmt" ""
    (.node "relation" "" table :: sources)]]]

/-- The tree of `DELETE FROM staff`. -/
def emptied : Tree := deletionTree [.leaf "relname" "\"staff\""] []

/-- Some deletions with their trees. -/
def deletions : List (String × Tree) :=
  [("DELETE FROM staff", emptied),
    ("DELETE FROM public.staff",
      deletionTree [.leaf "relname" "\"staff\"", .leaf "schemaname" "\"public\""] []),
    ("DELETE FROM dept", deletionTree [.leaf "relname" "\"dept\""] []),
    ("DELETE FROM staff USING dept", deletionTree [.leaf "relname" "\"staff\""]
      [.node "usingClause" "" [.node "RangeVar" "" [.leaf "relname" "\"dept\""]]])]

/-- An engine that knows these deletions. -/
def deletionEngine : Engine where
  parse text :=
    match deletions.lookup text with
    | some tree => .ok (.ok ⟨tree, ""⟩)
    | none => .ok (.error "unknown statement")
  query _ := .ok []
  change _ := .ok ⟨[⟨"staff", "rows_removed", "2"⟩], none⟩

/-- Meaning has six verdicts, and results are not judged. -/
def deletionSession : Session := { Session.standard with levels := ⟨.three, .six, .absent⟩ }

/-- The grader with some of these deletions as its models. -/
def deletionGrader (models : List String) : Grader where
  session := deletionSession
  scale := .ofSession deletionSession
  engine := deletionEngine
  models := models.filterMap fun text => (deletions.lookup text).map fun tree =>
    ⟨text, tree, "", .changes [⟨"staff", "rows_removed", "2"⟩]⟩

/-- The first deletion, as the stages before the one on meaning leave it. -/
def emptying : Submission :=
  { Submission.ofHandIn ⟨"s1", 1, "", "DELETE FROM staff"⟩ with
    parseable := true
    tree := some emptied
    output := .changes [⟨"staff", "rows_removed", "2"⟩]
    verdicts := ⟨.correct, .invalid, .invalid⟩ }

theorem searched_emptying (models : List String) :
    Searched (deletionGrader models) emptying emptied := ⟨nofun, rfl, rfl, rfl⟩

/-- The other deletions. -/
def otherDeletions : List String :=
  ["DELETE FROM public.staff", "DELETE FROM dept", "DELETE FROM staff USING dept"]

/-- No other deletion is near the first one, so it is left to the comparison of clauses. -/
theorem leftToClauses_emptying {models : List String} (h : models ⊆ otherDeletions) :
    LeftToClauses (deletionGrader models) [] emptying emptied := by
  have hall : ∀ c ∈ (deletionGrader otherDeletions).candidates [],
      ¬ Agrees (Text.normalize emptying.text) c ∧
        ¬ Eligible deletionSession (Text.normalize emptying.text) emptied c := by
    decide +kernel
  have hsubset : (deletionGrader models).candidates [] ⊆
      (deletionGrader otherDeletions).candidates [] := by
    simp only [candidates, List.filterMap_nil, List.append_nil]
    exact List.map_subset _ (List.filterMap_subset _ h)
  exact ⟨undecided_of_forall fun c hc => (hall c (hsubset hc)).1,
    fun c hc => (hall c (hsubset hc)).2⟩

/-- A model for another table says less, so the one with the name of the schema gives full
credit. -/
theorem meaning_of_full_match_emptying :
    let models := ["DELETE FROM dept", "DELETE FROM public.staff"]
    let g := deletionGrader models
    ofModels? deletionSession deletionEngine models = .ok g ∧
      Searched g emptying emptied ∧ LeftToClauses g [] emptying emptied ∧
      g.session.levels.meaning = .six ∧
      (∃ m ∈ g.models, m.tree.statementKind = emptied.statementKind ∧
        (compareAll m.tree emptied).equal = true ∧ (compareAll m.tree emptied).correct ≠ [] ∧
        ∀ r ∈ g.references emptied [],
          saysMore (compareAll r emptied) (compareAll m.tree emptied) = false) ∧
      (g.judgeMeaning [] emptying).verdicts.meaning = .correct := by
  intro models g
  have hleft : LeftToClauses g [] emptying emptied := leftToClauses_emptying (by decide)
  have hmatch : ∃ m ∈ g.models, m.tree.statementKind = emptied.statementKind ∧
      (compareAll m.tree emptied).equal = true ∧ (compareAll m.tree emptied).correct ≠ [] ∧
      ∀ r ∈ g.references emptied [],
        saysMore (compareAll r emptied) (compareAll m.tree emptied) = false := by
    decide +kernel
  have hsearched : Searched g emptying emptied := searched_emptying models
  obtain ⟨m, hm, hkind, hequal, hpart, hrivals⟩ := id hmatch
  have hnobody : rightPeers emptying.id [] = [] := rfl
  have hfull := (meaning_of_full_match hsearched hleft rfl hm hkind hequal hpart).1
  rw [hnobody] at hfull
  exact ⟨rfl, hsearched, hleft, rfl, hmatch, hfull hrivals⟩

/-- One that also reads another table says more: as many parts match, and one does not. -/
theorem full_match_outdone :
    let models := ["DELETE FROM staff USING dept", "DELETE FROM public.staff"]
    let g := deletionGrader models
    ofModels? deletionSession deletionEngine models = .ok g ∧
      Searched g emptying emptied ∧ LeftToClauses g [] emptying emptied ∧
      g.session.levels.meaning = .six ∧
      (∃ m ∈ g.models, m.tree.statementKind = emptied.statementKind ∧
        (compareAll m.tree emptied).equal = true ∧ (compareAll m.tree emptied).correct ≠ []) ∧
      (g.judgeMeaning [] emptying).verdicts.meaning = .sm3 := by
  intro models g
  have hleft : LeftToClauses g [] emptying emptied := leftToClauses_emptying (by decide)
  exact ⟨rfl, searched_emptying models, hleft, rfl, by decide +kernel, by decide +kernel⟩

end Grader

end QueryGrading
