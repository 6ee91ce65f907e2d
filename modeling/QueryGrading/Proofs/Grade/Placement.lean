import QueryGrading.Proofs.Grade.Run

/-!
# The place on the scale

In a run without faults the verdicts that a statement ends with are a row of the scale, with one
exception (`placed_iff`): where grammar has two verdicts, a repaired statement is wrong in grammar
although it parses, and the scale has no row for a wrong grammar with partial credit. The rules on a
wrong grammar with a meaning that is right or nearly right hold at three levels of grammar only; the
rule on partial credit does not say so.

The rules are those of `is_excluded`, and the verdicts without a row are those for which
`calculate_correctness_level` gives `Consistency`, which `finalize` turns into the lowest level.
-/

namespace QueryGrading

namespace Grader

variable {g : Grader}

/-! ## 1. The place on the scale -/

/-- A grader that could be made has the scale of its session, and partial credit for meaning at
most. -/
theorem ofModels?_eq_ok {session : Session} {engine : Engine} {models : List String}
    (h : ofModels? session engine models = .ok g) :
    g.session = session ∧ g.scale = Scale.ofSession session ∧
      session.levels.grammar ≠ .six ∧ session.levels.results ≠ .six := by
  unfold ofModels? at h
  split at h
  · cases h
  · split at h
    · cases h
    · next hscale =>
      split at h
      · cases h
      · cases h
        exact ⟨rfl, Scale.ofSession?_eq_ok hscale⟩

/-- Partial credit for a repaired statement, where a repair has no verdict of its own. -/
def PartialRepair (levels : PerAxis Sensitivity) (s : Submission) : Prop :=
  levels.grammar = .two ∧ s.originalText.isSome = true ∧ s.verdicts.meaning.isPartial = true

instance decidablePartialRepair (levels : PerAxis Sensitivity) (s : Submission) :
    Decidable (PartialRepair levels s) :=
  inferInstanceAs (Decidable (_ ∧ _ ∧ _))

/-- **A statement has a place on the scale unless it was repaired and has partial credit, where
grammar has two verdicts only.**  Then its level is the lowest. That holds in all circumstances in
which no task is stopped: the parser and the backend may answer each task otherwise. -/
theorem placed_iff {session : Session} {engine : Engine} {models : List String}
    (hg : ofModels? session engine models = .ok g) {c : Circumstances} {handIns : List HandIn}
    (h : g.UndisturbedUnder c Stage.all (handIns.map .ofHandIn)) :
    ∀ s ∈ g.runUnder c handIns,
      (s.verdicts ∈ g.scale.rows ↔ ¬ PartialRepair session.levels s) ∧
      (g.scale.level? s.verdicts = none ↔ PartialRepair session.levels s) ∧
      s.level = (g.scale.level? s.verdicts).getD 1 := by
  intro s hs
  obtain ⟨rfl, hscale, hgrammar, hresults⟩ := ofModels?_eq_ok hg
  obtain ⟨hcoherent, hlevel⟩ := coherent_runUnder h s hs
  have hadmits : g.session.Admits s.verdicts := by
    rw [Session.admits_iff, hcoherent.grammar]
    exact ⟨grammarVerdict_mem hgrammar _ _, hcoherent.meaning, hcoherent.results⟩
  have hrows : s.verdicts ∈ g.scale.rows ↔ ¬ PartialRepair g.session.levels s := by
    rw [hscale, Scale.mem_rows_iff, and_iff_right hadmits, ← Bool.not_eq_true,
      hcoherent.implausible_iff hgrammar]
    rfl
  refine ⟨hrows, ?_, hlevel⟩
  rw [Scale.level?_eq_none_iff, hrows, Decidable.not_not]

/-! ## 2. A repaired statement without a place -/

/-- The tree of a `CREATE ASSERTION` statement with this name and no condition. -/
def assertionTree (name : String) : Tree :=
  .node "root" "" [.node "stmt" "" [.node "CreateAssertionStmt" "" [.leaf "assertion_name" name]]]

/-- An engine that knows two assertions, `a` and `b`; only the first one changes anything. -/
def assertionEngine : Engine where
  parse text :=
    if text = "CREATE ASSERTION a" then .ok (.ok ⟨assertionTree "\"a\"", ""⟩)
    else if text = "create assertion b" then .ok (.ok ⟨assertionTree "\"b\"", ""⟩)
    else .ok (.error "unknown statement")
  query _ := .ok []
  change text :=
    if text = "CREATE ASSERTION a" then .ok ⟨[⟨"a", "table_created", ""⟩], none⟩
    else .ok ⟨[], none⟩

/-- Two verdicts on grammar and results, partial credit for meaning, no tolerance for trees. -/
def creditSession : Session where
  levels := ⟨.two, .six, .two⟩
  ranking := .resultsMeaningGrammar
  ordered := false
  textTolerance := 4
  treeTolerance := 0

/-- The grader of this session with the assertion `a` as its model. -/
def creditGrader : Grader where
  session := creditSession
  scale := .ofSession creditSession
  engine := assertionEngine
  models := [⟨"CREATE ASSERTION a", assertionTree "\"a\"", "",
    .changes [⟨"a", "table_created", ""⟩]⟩]

/-- The model, and another assertion with a misspelled word. -/
def misspelled : List HandIn :=
  [⟨"s1", 1, "", "CREATE ASSERTION a"⟩, ⟨"s2", 1, "", "CREAT ASSERTION b"⟩]

theorem ofModels?_creditGrader :
    ofModels? creditSession assertionEngine ["CREATE ASSERTION a"] = .ok creditGrader := rfl

theorem undisturbed_misspelled :
    creditGrader.Undisturbed Stage.all (misspelled.map .ofHandIn) := by
  decide +kernel

theorem undisturbedUnder_misspelled :
    creditGrader.UndisturbedUnder (.steady assertionEngine) Stage.all
      (misspelled.map .ofHandIn) :=
  undisturbedUnder_steady undisturbed_misspelled

/-- The first statement parses as it stands, so it has a place. -/
theorem placed_iff_misspelled :
    ∃ s ∈ creditGrader.runUnder (.steady assertionEngine) misspelled,
      ¬ PartialRepair creditSession.levels s ∧
      (s.verdicts ∈ creditGrader.scale.rows ↔ ¬ PartialRepair creditSession.levels s) ∧
      (creditGrader.scale.level? s.verdicts = none ↔ PartialRepair creditSession.levels s) ∧
      s.level = (creditGrader.scale.level? s.verdicts).getD 1 := by
  obtain ⟨s, hs, hfull⟩ : ∃ s ∈ creditGrader.runUnder (.steady assertionEngine) misspelled,
      ¬ PartialRepair creditSession.levels s := by
    decide +kernel
  exact ⟨s, hs, hfull, placed_iff ofModels?_creditGrader undisturbedUnder_misspelled s hs⟩

/-- The second statement is repaired and gets partial credit, and its verdicts are no row. -/
theorem misspelled_unplaced :
    ofModels? creditSession assertionEngine ["CREATE ASSERTION a"] = .ok creditGrader ∧
    creditGrader.Undisturbed Stage.all (misspelled.map .ofHandIn) ∧
    ∃ s ∈ creditGrader.run misspelled, s.verdicts = ⟨.incorrect, .sm3, .incorrect⟩ ∧
      s.verdicts ∉ creditGrader.scale.rows ∧ creditGrader.scale.level? s.verdicts = none ∧
      s.level = 1 :=
  ⟨ofModels?_creditGrader, undisturbed_misspelled, by decide +kernel⟩

end Grader

end QueryGrading
