import QueryGrading.Proofs.Grade.Best
import QueryGrading.Proofs.Grade.Placement
import QueryGrading.Proofs.Output.Comparison
import QueryGrading.Proofs.Repair.EditDistance
import QueryGrading.Proofs.Tree.Table

/-!
# A copy of the first model

A submission with the text of the first model is parsed and run as the model was, so no stage of it
is stopped. It gets the best verdict on grammar and on results. Its meaning is right if its results
are; where results are not judged it is the nearest statement of all, but a text that is the same
counts as right only beside a model with an output. So the grade is full with that one exception
(`full_grade_iff`).

The exception is the condition `has_output` in the loop of `semantics`: a candidate that is an empty
table, or has changed nothing, is not taken as evidence, and the search goes on with the statement
as a near one. Where results are judged the loop is not reached, since `compare_outputs` finds every
output equal to itself. The stages meant are `preprocess`, `syntax`, `results`, `semantics` and
`finalize`, and the model is one of `load_model`.
-/

namespace QueryGrading

namespace Grader

open Submission

variable {g : Grader} {m : Model} {others : List Model} {peers : List Peer} {s s' : Submission}

/-! ## 1. The first model

What is known of the first model is that the engine was asked for it in the same way as for a
submission. -/

/-- The first model is what the engine says of the first statement. -/
theorem exists_models_eq {session : Session} {engine : Engine} {first : String}
    {rest : List String} (h : ofModels? session engine (first :: rest) = .ok g) :
    g.engine = engine ∧ ∃ m others, g.models = m :: others ∧ engine.model first = .ok m := by
  simp only [ofModels?, List.isEmpty_cons, Bool.false_eq_true, if_false, loadModels] at h
  split at h
  · cases h
  · split at h
    · cases h
    · next models hload =>
      cases h
      refine ⟨rfl, ?_⟩
      split at hload
      · cases hload
      · cases hload
      · next m hm =>
        split at hload
        · cases hload
          exact ⟨m, _, rfl, hm⟩
        · cases hload

/-- What the engine says of a model. -/
theorem model_eq_ok {engine : Engine} {text : String} (h : engine.model text = .ok m) :
    ∃ parsed execution, engine.parse text = .ok (.ok parsed) ∧
      engine.execute text parsed.tree = .ok execution ∧
      m = ⟨text, parsed.tree, parsed.fingerprint, execution.output⟩ := by
  unfold Engine.model at h
  split at h
  · cases h
  · cases h
  · next parsed hparse =>
    split at h
    · cases h
    · next execution hexecute =>
      cases h
      exact ⟨parsed, execution, hparse, hexecute, rfl⟩

/-! ## 2. The stages one by one

Each stage meets with the answers that the engine gave for the model, so no fault can stop it. -/

/-- The statement is what the engine makes of the text of a model. -/
structure IsCopy (m : Model) (s : Submission) : Prop where
  text : s.text = m.text
  parseable : s.parseable = true
  tree : s.tree = some m.tree
  output : s.output = m.output

theorem IsCopy.of_standing (h : IsCopy m s) (hs : s'.standing = s.standing) : IsCopy m s' where
  text := (congrArg Standing.text hs).trans h.text
  parseable := (congrArg Standing.parseable hs).trans h.parseable
  tree := (congrArg Standing.tree hs).trans h.tree
  output := (congrArg Standing.output hs).trans h.output

/-- A statement with the text of a model is parsed and run as the model was. -/
theorem isCopy_preprocess (hm : g.engine.model s.text = .ok m) (hollow : isHollow s.text = false) :
    IsCopy m (g.step .preprocess peers s) := by
  obtain ⟨parsed, execution, hparse, hexecute, rfl⟩ := model_eq_ok hm
  have hparse? : g.engine.parse? s.text = .ok (some parsed) := by
    rw [Engine.parse?, hparse]
  have hok : ∃ s', g.preprocess s = .ok s' ∧
      IsCopy ⟨s.text, parsed.tree, parsed.fingerprint, execution.output⟩ s' := by
    simp only [preprocess, hollow, hparse?, adopt, hexecute, Bool.false_eq_true, if_false]
    exact ⟨_, rfl, rfl, rfl, rfl, rfl⟩
  obtain ⟨s', hs', hcopy⟩ := hok
  simpa only [step, runStage, hs'] using hcopy

/-- A statement that parses gets the best verdict on grammar and stays as it is. -/
theorem judgeGrammar_parseable (g : Grader) (peers : List Peer) (h : s.parseable = true) :
    ∃ s', g.judgeGrammar peers s = (s', none) ∧ s'.standing = s.standing ∧
      s'.verdicts = s.verdicts.set .grammar g.session.levels.grammar.best := by
  by_cases hlevel : g.session.levels.grammar = .absent
  · rw [judgeGrammar, if_pos hlevel, hlevel]
    exact ⟨_, rfl, rfl, rfl⟩
  · rw [judgeGrammar, if_neg hlevel, if_pos h, Sensitivity.best_eq_correct hlevel]
    exact ⟨_, rfl, rfl, rfl⟩

/-- A copy gets the best verdict on results, for every output equals itself. -/
theorem judgeResults_copy (hmodels : g.models = m :: others)
    (h : IsCopy m s) :
    (g.judgeResults s).verdicts = s.verdicts.set .results g.session.levels.results.best := by
  by_cases hlevel : g.session.levels.results = .absent
  · rw [judgeResults, if_pos hlevel, hlevel]
    rfl
  · have hequal := Output.compare_self_equal g.session.ordered m.output
    rw [judgeResults, if_neg hlevel, Sensitivity.best_eq_correct hlevel]
    simp only [h.parseable, hmodels, h.output, resultsVerdict, hequal, Bool.not_true,
      Bool.false_eq_true, if_false, if_true]
    rfl

/-! ## 3. The search

The copy is at distance zero from the first candidate, and no other candidate is nearer than zero.
So only the first one counts. -/

/-- Below a bound of zero nothing is found. -/
theorem search_zero (session : Session) (text : String) (tree : Tree) (near : Option Neighbour) :
    ∀ cs : List Candidate, search session text tree 0 near cs = ⟨near, none⟩
  | [] => rfl
  | c :: rest => by
    rw [search, if_pos (Nat.zero_le _)]
    exact search_zero session text tree near rest

/-- The search begins with the statement itself. It ends there if there is an output, and else it
keeps the statement, for none is nearer. -/
theorem search_copy (session : Session) (c : Candidate) (rest : List Candidate) :
    ∃ n : Neighbour, search session (Text.normalize c.text) c.tree treeBound none (c :: rest) =
      if c.hasOutput then ⟨none, some n⟩ else ⟨some n, none⟩ := by
  have htree : c.tree.distance c.tree = 0 := by
    rw [Tree.distance_eq, Tree.forestDistance_eq_zero_iff]
  refine ⟨⟨c.text, 0, 0⟩, ?_⟩
  rw [search]
  -- both distances are zero: below the bound, and within every tolerance
  simp only [htree, editDistance_self, true_and, Nat.zero_le, and_self, if_true, search_zero]
  exact if_neg (by decide)

/-- Nothing tells that the meaning is right: it is judged, but results are not, and a model without
an output does not vouch for it. -/
def Unproven (levels : PerAxis Sensitivity) (o : Output) : Prop :=
  levels.results = .absent ∧ levels.meaning ≠ .absent ∧ o.isEmpty = true

instance decidableUnproven (levels : PerAxis Sensitivity) (o : Output) :
    Decidable (Unproven levels o) :=
  inferInstanceAs (Decidable (_ ∧ _ ∧ _))

/-- The verdict on a statement that is nearly right. -/
def nearlyRight (level : Sensitivity) : Verdict :=
  if level.hasMinor then .minorIncorrect else .incorrect

/-- The verdict on the meaning of a copy. -/
def copyMeaning (levels : PerAxis Sensitivity) (o : Output) : Verdict :=
  if Unproven levels o then nearlyRight levels.meaning else levels.meaning.best

theorem meaning_judgeNear (levels : PerAxis Sensitivity) (n : Neighbour) (s : Submission) :
    (judgeNear levels n s).verdicts.meaning = nearlyRight levels.meaning := by
  unfold judgeNear nearlyRight
  dsimp only
  split <;> rfl

/-- The meaning of a copy whose results are not judged. -/
theorem meaning_judgeByOthers_copy (hmodels : g.models = m :: others)
    (h : IsCopy m s) (hresults : g.session.levels.results = .absent)
    (hmeaning : g.session.levels.meaning ≠ .absent) :
    (g.judgeByOthers peers m.tree s).verdicts.meaning = copyMeaning g.session.levels m.output := by
  -- the first candidate is the model, whatever the others are
  obtain ⟨n, hsearch⟩ := search_copy g.session ⟨m.text, m.tree, !m.output.isEmpty⟩
    (others.map (fun m => ⟨m.text, m.tree, !m.output.isEmpty⟩) ++
      (rightPeers s.id peers).filterMap candidate?)
  have hcandidates : search g.session (Text.normalize s.text) m.tree treeBound none
      (g.candidates (rightPeers s.id peers)) =
        if m.output.isEmpty then ⟨some n, none⟩ else ⟨none, some n⟩ := by
    rw [candidates, hmodels, h.text, List.map_cons, List.cons_append, hsearch]
    cases m.output.isEmpty <;> rfl
  -- of the three parts of `Unproven` two are given here
  have hunproven : Unproven g.session.levels m.output ↔ m.output.isEmpty = true := by
    simp [Unproven, hresults, hmeaning]
  by_cases hempty : m.output.isEmpty = true
  · rw [if_pos hempty] at hcandidates
    simp only [judgeByOthers, hcandidates]
    rw [copyMeaning, if_pos (hunproven.mpr hempty)]
    exact meaning_judgeNear _ n s
  · rw [if_neg hempty] at hcandidates
    simp only [judgeByOthers, hcandidates, hresults, if_true]
    rw [copyMeaning, if_neg (mt hunproven.mp hempty), Sensitivity.best_eq_correct hmeaning]
    rfl

/-! ## 4. The verdicts of a copy

The verdicts are those of the best row, but for the meaning of a copy that nothing vouches for. -/

/-- What the stages on grammar and results leave of a copy. -/
structure CopyJudged (levels : PerAxis Sensitivity) (m : Model) (s : Submission) : Prop where
  copy : IsCopy m s
  grammar : s.verdicts.grammar = levels.grammar.best
  results : s.verdicts.results = levels.results.best

/-- The meaning of a copy: right where its results are, else what the search says. -/
theorem meaning_judgeMeaning_copy (hmodels : g.models = m :: others)
    (h : CopyJudged g.session.levels m s) :
    (g.judgeMeaning peers s).verdicts.meaning = copyMeaning g.session.levels m.output := by
  by_cases hmeaning : g.session.levels.meaning = .absent
  · have hproven : ¬ Unproven g.session.levels m.output := fun hu => hu.2.1 hmeaning
    rw [judgeMeaning, if_pos hmeaning, copyMeaning, if_neg hproven, hmeaning]
    rfl
  · by_cases hresults : g.session.levels.results = .absent
    · have hwrong : s.isRight = false := by
        simp [isRight, h.results, hresults, Sensitivity.best]
      simp only [judgeMeaning, hmeaning, hwrong, h.copy.parseable, h.copy.tree,
        Bool.false_eq_true, if_false]
      exact meaning_judgeByOthers_copy hmodels h.copy hresults hmeaning
    · have hproven : ¬ Unproven g.session.levels m.output := fun hu => hresults hu.1
      have hright : s.isRight = true := by
        simp [isRight, h.results, Sensitivity.best_eq_correct hresults]
      rw [judgeMeaning, if_neg hmeaning, if_pos hright, copyMeaning, if_neg hproven,
        Sensitivity.best_eq_correct hmeaning]
      rfl

/-- The verdicts on a copy once its run is over. -/
def copyVerdicts (session : Session) (o : Output) : Verdicts :=
  session.best.set .meaning (copyMeaning session.levels o)

theorem settled_judgeMeaning_copy (hmodels : g.models = m :: others)
    (h : CopyJudged g.session.levels m s) :
    settled g.session.levels (g.judgeMeaning peers s).verdicts =
      copyVerdicts g.session m.output := by
  have hjudged := meaningJudged_judgeMeaning g peers s
  have hgrammar : (settled g.session.levels (g.judgeMeaning peers s).verdicts).grammar =
      g.session.levels.grammar.best := by
    rw [settled_grammar, hjudged.grammar, h.grammar]
  have hmeaning : (settled g.session.levels (g.judgeMeaning peers s).verdicts).meaning =
      copyMeaning g.session.levels m.output := by
    rw [settled_meaning, meaning_judgeMeaning_copy hmodels h]
  have hresults : (settled g.session.levels (g.judgeMeaning peers s).verdicts).results =
      g.session.levels.results.best := by
    by_cases hlevel : g.session.levels.results = .absent
    · rw [settled_results_absent hlevel, hlevel]
      rfl
    · have hbest := Sensitivity.best_eq_correct hlevel
      rw [settled_results hlevel, hjudged.results (h.results.trans hbest), hbest]
  exact PerAxis.eq_of_parts hgrammar hmeaning hresults

theorem copyMeaning_eq_best_iff (levels : PerAxis Sensitivity) (o : Output) :
    copyMeaning levels o = levels.meaning.best ↔ ¬ Unproven levels o := by
  unfold copyMeaning
  split
  · next h =>
    rw [Sensitivity.best_eq_correct h.2.1, nearlyRight]
    split <;> simp [h]
  · next h => simp [h]

/-- Only what nothing vouches for is not the best. -/
theorem copyVerdicts_eq_best_iff (session : Session) (o : Output) :
    copyVerdicts session o = session.best ↔ ¬ Unproven session.levels o := by
  rw [← copyMeaning_eq_best_iff]
  constructor
  · exact congrArg PerAxis.meaning
  · intro h
    rw [copyVerdicts, h]
    rfl

/-- A copy has a level of its own. -/
theorem copyVerdicts_mem_rows (session : Session) (o : Output) :
    copyVerdicts session o ∈ (Scale.ofSession session).rows := by
  by_cases h : Unproven session.levels o
  · obtain ⟨hresults, hmeaning, -⟩ := id h
    have hv : copyVerdicts session o =
        ⟨session.levels.grammar.best, nearlyRight session.levels.meaning, .invalid⟩ := by
      rw [copyVerdicts, copyMeaning, if_pos h, Session.best, hresults]
      rfl
    have hnear : nearlyRight session.levels.meaning ∈ session.levels.meaning.verdicts :=
      (mem_verdicts_of_ne_absent hmeaning).2.2
    have hgrammar : session.levels.grammar.best ≠ .incorrect := by
      cases session.levels.grammar <;> simp [Sensitivity.best]
    rw [Scale.mem_rows_iff, Session.admits_iff, ← Bool.not_eq_true, Session.implausible_iff, hv]
    refine ⟨⟨(Sensitivity.endsAt_verdicts _).mem, hnear, ?_⟩, ?_⟩
    · simp [hresults, Sensitivity.verdicts]
    · simp [hgrammar]
  · rw [(copyVerdicts_eq_best_iff session o).mpr h]
    exact (Scale.endsAt_rows session).mem

/-! ## 5. The run

The stages are put together; what other submissions do has no influence, since the first candidate
is a model. -/

theorem step_grammar_copy (h : IsCopy m s) :
    IsCopy m (g.step .grammar peers s) ∧
      (g.step .grammar peers s).verdicts.grammar = g.session.levels.grammar.best := by
  obtain ⟨s', hs', hstanding, hverdicts⟩ := judgeGrammar_parseable g peers h.parseable
  have hstep : g.step .grammar peers s = s' := by
    simp only [step, runStage, hs']
  rw [hstep, hverdicts]
  exact ⟨h.of_standing hstanding, rfl⟩

theorem step_results_copy (hmodels : g.models = m :: others)
    (h : IsCopy m s) (hgrammar : s.verdicts.grammar = g.session.levels.grammar.best) :
    CopyJudged g.session.levels m (g.step .results peers s) := by
  have hverdicts := judgeResults_copy hmodels h
  change CopyJudged g.session.levels m (g.judgeResults s)
  refine ⟨h.of_standing (standing_judgeResults g s), ?_, ?_⟩
  · rw [hverdicts]
    exact hgrammar
  · rw [hverdicts]
    rfl

theorem step_finalize_copy {v : Verdicts} (h : settled g.session.levels s.verdicts = v) :
    (g.step .finalize peers s).verdicts = v ∧
      (g.step .finalize peers s).grade = g.scale.value ((g.scale.level? v).getD 1) := by
  change (g.finalize s).verdicts = v ∧ (g.finalize s).grade = _
  have hverdicts : (g.finalize s).verdicts = v := (verdicts_finalize g s).trans h
  have hgrade : (g.finalize s).grade = g.scale.value (g.finalize s).level := rfl
  refine ⟨hverdicts, ?_⟩
  rw [hgrade, level_finalize, hverdicts]

/-- **The grade of a copy of the first model.**  The run ends with a statement at its place, whose
verdicts are the best on every axis, and its grade is full: except that where meaning is judged,
results are not, and the model has no output, its meaning is only nearly right, and its grade is
not full. -/
theorem full_grade_iff {session : Session} {engine : Engine} {first : String} {rest : List String}
    (hg : ofModels? session engine (first :: rest) = .ok g) (hollow : isHollow first = false)
    {handIns : List HandIn} {i : Nat} {h : HandIn} (hi : handIns[i]? = some h)
    (hcopy : h.query = first) :
    ∃ m s, engine.model first = .ok m ∧ (g.run handIns)[i]? = some s ∧
      s.verdicts = copyVerdicts session m.output ∧
      (s.grade = 1 ↔ ¬ Unproven session.levels m.output) := by
  obtain ⟨rfl, hscale, -, -⟩ := ofModels?_eq_ok hg
  obtain ⟨rfl, m, others, hmodels, hm⟩ := exists_models_eq hg
  have h₀ : ∃ s, (handIns.map Submission.ofHandIn)[i]? = some s ∧ s.text = first :=
    ⟨.ofHandIn h, by rw [List.getElem?_map, hi, Option.map_some], hcopy⟩
  -- one step for each stage, from what the stage before it leaves
  have h₁ := exists_stepAll g .preprocess (Q := IsCopy m) h₀ fun peers s hs => by
    subst hs
    exact isCopy_preprocess hm hollow
  have h₂ := exists_stepAll g .grammar
    (Q := fun s => IsCopy m s ∧ s.verdicts.grammar = g.session.levels.grammar.best) h₁
    fun peers s hs => step_grammar_copy hs
  have h₃ := exists_stepAll g .results (Q := CopyJudged g.session.levels m) h₂
    fun peers s hs => step_results_copy hmodels hs.1 hs.2
  have h₄ := exists_stepAll g .meaning
    (Q := fun s => settled g.session.levels s.verdicts = copyVerdicts g.session m.output) h₃
    fun peers s hs => settled_judgeMeaning_copy hmodels hs
  obtain ⟨s, hs, hverdicts, hgrade⟩ := exists_stepAll g .finalize
    (Q := fun s => s.verdicts = copyVerdicts g.session m.output ∧
      s.grade = g.scale.value ((g.scale.level? (copyVerdicts g.session m.output)).getD 1)) h₄
    fun peers s hs => step_finalize_copy hs
  refine ⟨m, s, hm, hs, hverdicts, ?_⟩
  rw [hgrade, hscale, Scale.value_level_eq_one_iff (copyVerdicts_mem_rows _ _),
    copyVerdicts_eq_best_iff]

/-! ## 6. A query without rows

The exception is met by a query for an empty table in a session that does not judge results. -/

/-- The tree of `SELECT a FROM t`. -/
def queryTree : Tree :=
  .node "root" "" [.node "stmt" "" [.node "SelectStmt" ""
    [.node "fromClause" "" [.node "RangeVar" "" [.leaf "relname" "\"t\""]],
      .node "targetList" "" [.node "ResTarget" "" [.node "val" "" [.node "ColumnRef" ""
        [.node "fields" "" [.node "String" "" [.leaf "sval" "\"a\""]]]]]]]]]

/-- An engine that knows one query, on an empty table. -/
def emptyEngine : Engine where
  parse text :=
    if text = "SELECT a FROM t" then .ok (.ok ⟨queryTree, ""⟩) else .ok (.error "unknown query")
  query _ := .ok []
  change _ := .ok ⟨[], none⟩

/-- The grader with this query as its model. -/
def emptyGrader (session : Session) : Grader where
  session := session
  scale := .ofSession session
  engine := emptyEngine
  models := [⟨"SELECT a FROM t", queryTree, "", .rows []⟩]

/-- Grammar and meaning are judged, results are not. -/
def resultless : Session := { Session.standard with levels := ⟨.three, .three, .absent⟩ }

/-- The text of the model, handed in. -/
def copied : HandIn := ⟨"s1", 1, "", "SELECT a FROM t"⟩

theorem ofModels?_emptyGrader {session : Session} (h : session.fault? = none) :
    ofModels? session emptyEngine ["SELECT a FROM t"] = .ok (emptyGrader session) := by
  rw [ofModels?, Scale.ofSession?, h]
  rfl

/-- Where results are judged, a copy of a query without rows has the full grade. -/
theorem full_grade_iff_standard :
    ∃ m s, emptyEngine.model "SELECT a FROM t" = .ok m ∧
      ((emptyGrader .standard).run [copied])[0]? = some s ∧
      s.verdicts = copyVerdicts .standard m.output ∧
      (s.grade = 1 ↔ ¬ Unproven Session.standard.levels m.output) ∧ s.grade = 1 := by
  have hg : ofModels? .standard emptyEngine _ = .ok (emptyGrader .standard) :=
    ofModels?_emptyGrader rfl
  have hi : [copied][0]? = some copied := rfl
  obtain ⟨m, s, hm, hs, hverdicts, hgrade⟩ := full_grade_iff hg (by decide +kernel) hi rfl
  have hproven : ¬ Unproven Session.standard.levels m.output := fun h => nomatch h.1
  exact ⟨m, s, hm, hs, hverdicts, hgrade, hgrade.mpr hproven⟩

/-- Where they are not, the same text is only nearly right, and the grade is two thirds. -/
theorem same_text_nearly_right :
    ofModels? resultless emptyEngine ["SELECT a FROM t"] = .ok (emptyGrader resultless) ∧
    isHollow copied.query = false ∧
    (emptyGrader resultless).Undisturbed Stage.all ([copied].map .ofHandIn) ∧
    ∃ s ∈ (emptyGrader resultless).run [copied],
      s.verdicts = ⟨.correct, .minorIncorrect, .invalid⟩ ∧ s.grade = 2 / 3 :=
  ⟨ofModels?_emptyGrader rfl, by decide +kernel, by decide +kernel, by decide +kernel⟩

end Grader

end QueryGrading
