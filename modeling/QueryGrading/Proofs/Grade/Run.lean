import QueryGrading.Proofs.Grade.Standing

/-!
# Runs without faults

`Undisturbed` says that no task of some stages is stopped, and `UndisturbedUnder` the same of a run
in any circumstances. What such a stage does to one statement it does to all of the batch
(`forall_stepUnder`), and by one step for each stage every statement of a run ends with coherent
verdicts and the level of these (`coherent_runUnder`).

A task of `run_stage` is stopped where the parser gives no answer or the backend crashes. So an
engine that always answers stops none (`AlwaysAnswers.undisturbed`): `load_model` apart, there is no
other way out of a stage than a rejection, which is noted and graded. The premises of the three
stages that judge are `GrammarJudged`, `ResultsJudged` and `Settled`, each what the stage before
leaves.
-/

namespace QueryGrading

namespace Grader

variable {g : Grader} {c : Circumstances} {batch : List Submission} {stage : Stage}
  {s : Submission}

/-! ## 1. Stages that are not stopped

A run without faults is one in which no stage of any submission is stopped. What each stage leaves
is then what its function gives. -/

/-- No task of these stages is stopped. -/
def Undisturbed (g : Grader) : List Stage → List Submission → Prop
  | [], _ => True
  | stage :: rest, batch =>
    (∀ s ∈ batch, (g.runStage stage (batch.map (·.toPeer)) s).2 = none) ∧
      g.Undisturbed rest (g.stepAll batch stage)

instance decidableUndisturbed (g : Grader) :
    ∀ (stages : List Stage) (batch : List Submission), Decidable (g.Undisturbed stages batch)
  | [], _ => isTrue trivial
  | stage :: rest, batch =>
    have := decidableUndisturbed g rest (g.stepAll batch stage)
    inferInstanceAs (Decidable (_ ∧ _))

/-- No task of these stages is stopped, in these circumstances. -/
def UndisturbedUnder (g : Grader) (c : Circumstances) : List Stage → List Submission → Prop
  | [], _ => True
  | stage :: rest, batch =>
    (∀ i, ∀ s ∈ batch[i]?, (g.task c stage (batch.map (·.toPeer)) i s).2 = none) ∧
      g.UndisturbedUnder c rest (g.stepUnder c batch stage)

theorem undisturbedUnder_steady : ∀ {stages : List Stage} {batch : List Submission},
    g.Undisturbed stages batch → g.UndisturbedUnder (.steady g.engine) stages batch
  | [], _, _ => trivial
  | stage :: rest, batch, ⟨hquiet, hrest⟩ => by
    refine ⟨fun i s hs => hquiet s (List.mem_of_getElem? hs), ?_⟩
    rw [stepUnder_steady]
    exact undisturbedUnder_steady hrest

/-- **One stage.**  What the stage makes of a statement with `P` has `Q`, and so have all of the
batch. -/
theorem forall_stepUnder {P Q : Submission → Prop}
    (hquiet : ∀ i, ∀ s ∈ batch[i]?, (g.task c stage (batch.map (·.toPeer)) i s).2 = none)
    (hP : ∀ s ∈ batch, P s)
    (hstep : ∀ engine peers s s', P s →
      (g.withEngine engine).runStage stage peers s = (s', none) → Q s') :
    ∀ s ∈ g.stepUnder c batch stage, Q s := by
  intro s' hs'
  obtain ⟨i, hi, rfl⟩ := List.mem_mapIdx.mp hs'
  rcases stepAt_cases g c stage (batch.map (·.toPeer)) i batch[i] with
    ⟨-, hrun⟩ | ⟨fault, hfault, -⟩
  · exact hstep _ _ _ _ (hP _ (List.getElem_mem hi)) hrun
  · -- a task that was stopped is excluded by `hquiet`
    rw [hquiet i _ (List.getElem?_eq_getElem hi)] at hfault
    cases hfault

/-- The parser answers for every text. -/
def ParserAnswers (engine : Engine) : Prop := ∀ text, ∃ answer, engine.parse text = .ok answer

theorem ParserAnswers.parse? {engine : Engine} (h : ParserAnswers engine) (text : String) :
    ∃ parsed, engine.parse? text = .ok parsed := by
  obtain ⟨answer, hanswer⟩ := h text
  unfold Engine.parse?
  rw [hanswer]
  cases answer <;> exact ⟨_, rfl⟩

/-- The search for a repair goes on to its end if the parser always answers; what it answers decides
only which repair is kept. -/
theorem ParserAnswers.repairFrom (h : ParserAnswers g.engine) (text : String) :
    ∀ (best : Option (Mended × Nat)) (references : List String),
      ∃ found, g.repairFrom text best references = .ok found
  | best, [] => ⟨best, rfl⟩
  | best, reference :: rest => by
    rw [Grader.repairFrom]
    split
    · exact h.repairFrom text best rest
    · next repair _ =>
      split
      · exact h.repairFrom text best rest
      · obtain ⟨parsed, hparsed⟩ := h.parse? repair.text
        rw [hparsed]
        cases parsed <;> exact h.repairFrom text _ rest

theorem ParserAnswers.repairWords (h : ParserAnswers g.engine) (text : String) :
    ∃ found, g.repairWords text = .ok found := by
  unfold Grader.repairWords
  split
  · exact ⟨_, rfl⟩
  · next repaired _ =>
    obtain ⟨parsed, hparsed⟩ := h.parse? repaired
    rw [hparsed]
    cases parsed <;> exact ⟨_, rfl⟩

theorem ParserAnswers.mend? (h : ParserAnswers g.engine) (peers : List Peer) (s : Submission) :
    ∃ found, g.mend? peers s = .ok found := by
  obtain ⟨byModels, hmodels⟩ := h.repairFrom (Text.normalize s.text) none (g.models.map (·.text))
  obtain ⟨byWords, hwords⟩ := h.repairWords s.text
  obtain ⟨byPeers, hpeers⟩ := h.repairFrom (Text.normalize s.text) none (parsingPeers s.id peers)
  simp only [Grader.mend?, hmodels, hwords, hpeers]
  cases byModels
  · cases byWords <;> exact ⟨_, rfl⟩
  · exact ⟨_, rfl⟩

/-- The engine answers for every text: the parser does not fail, and the database does not crash. -/
structure AlwaysAnswers (engine : Engine) : Prop where
  parse : ∀ text, ∃ answer, engine.parse text = .ok answer
  execute : ∀ text tree, ∃ execution, engine.execute text tree = .ok execution

theorem AlwaysAnswers.parser {engine : Engine} (h : AlwaysAnswers engine) : ParserAnswers engine :=
  h.parse

theorem AlwaysAnswers.adopt (h : AlwaysAnswers g.engine) (parsed : Parsed) (s : Submission) :
    ∃ s', g.adopt parsed s = .ok s' := by
  obtain ⟨execution, hexecution⟩ := h.execute s.text parsed.tree
  unfold Grader.adopt
  rw [hexecution]
  exact ⟨_, rfl⟩

/-- **An engine that always answers stops no task.** -/
theorem AlwaysAnswers.runStage (h : AlwaysAnswers g.engine) (stage : Stage) (peers : List Peer)
    (s : Submission) : (g.runStage stage peers s).2 = none := by
  cases stage with
  | preprocess =>
    simp only [Grader.runStage, preprocess]
    split
    · rfl
    · next fault herror =>
      split at herror
      · cases herror
      · obtain ⟨parsed, hparsed⟩ := h.parser.parse? s.text
        rw [hparsed] at herror
        cases parsed with
        | none => cases herror
        | some parsed =>
          obtain ⟨s', hs'⟩ := h.adopt parsed s
          cases hs'.symm.trans herror
  | grammar =>
    simp only [Grader.runStage, judgeGrammar]
    split
    · rfl
    · split
      · rfl
      · obtain ⟨found, hfound⟩ := h.parser.mend? peers (noteUnparseable s)
        rw [hfound]
        rcases found with _ | ⟨mended, distance⟩
        · rfl
        · dsimp only
          split
          · next fault herror =>
            simp only [takeRepair] at herror
            split at herror
            · next hadopt =>
              obtain ⟨s', hs'⟩ := h.adopt mended.parsed _
              cases hs'.symm.trans hadopt
            · cases herror
          · rfl
  | results => rfl
  | meaning => rfl
  | finalize => rfl

theorem AlwaysAnswers.undisturbed (h : AlwaysAnswers g.engine) (stages : List Stage)
    (batch : List Submission) : g.Undisturbed stages batch := by
  induction stages generalizing batch with
  | nil => trivial
  | cons stage rest ih =>
    rw [Undisturbed]
    exact ⟨fun s _ => h.runStage stage _ s, ih _⟩

theorem getElem?_stepAll (g : Grader) (batch : List Submission) (stage : Stage) (i : Nat) :
    (g.stepAll batch stage)[i]? = batch[i]?.map (g.step stage (batch.map (·.toPeer))) := by
  rw [stepAll, List.getElem?_map]

/-- **One stage, for one statement.**  What a step makes of the statement at a position stands at
that position after the stage. -/
theorem exists_stepAll (g : Grader) (stage : Stage) {batch : List Submission} {i : Nat}
    {P Q : Submission → Prop} (h : ∃ s, batch[i]? = some s ∧ P s)
    (hstep : ∀ peers s, P s → Q (g.step stage peers s)) :
    ∃ s, (g.stepAll batch stage)[i]? = some s ∧ Q s := by
  obtain ⟨s, hs, hP⟩ := h
  exact ⟨_, by rw [getElem?_stepAll, hs, Option.map_some], hstep _ s hP⟩

/-! ## 2. The stages one by one

Verdicts are followed from one stage to the next, each lemma taking what the last one leaves. -/

/-- What the stage on grammar leaves. -/
def GrammarJudged (levels : PerAxis Sensitivity) (s : Submission) : Prop :=
  s.verdicts.grammar = grammarVerdict levels.grammar s.parseable s.originalText.isSome

/-- What the stage on results leaves. -/
structure ResultsJudged (levels : PerAxis Sensitivity) (s : Submission) : Prop where
  grammar : GrammarJudged levels s
  results : s.verdicts.results ∈ levels.results.verdicts
  unparseable : s.parseable = false → levels.results ≠ .absent → s.verdicts.results = .incorrect

theorem resultsJudged_judgeResults (h : GrammarJudged g.session.levels s) :
    ResultsJudged g.session.levels (g.judgeResults s) := by
  obtain ⟨hparse, horiginal⟩ := Submission.eq_of_standing_eq (standing_judgeResults g s)
  obtain ⟨v, hmem, hv, hwrong⟩ := judgeResults_spec g s
  refine ⟨?_, ?_, ?_⟩
  · rw [GrammarJudged, hparse, horiginal, hv]
    exact h
  · rw [hv]
    exact hmem
  · rw [hparse, hv]
    exact hwrong

/-- The verdicts of a statement are coherent once its run is over. -/
def Settled (levels : PerAxis Sensitivity) (s : Submission) : Prop :=
  Coherent levels s.parseable s.originalText.isSome (settled levels s.verdicts)

/-- After the stage on meaning the verdicts are coherent up to what the last stage takes back. -/
theorem settled_judgeMeaning (peers : List Peer) (h : ResultsJudged g.session.levels s) :
    Settled g.session.levels (g.judgeMeaning peers s) := by
  obtain ⟨hparse, horiginal⟩ := Submission.eq_of_standing_eq (standing_judgeMeaning g peers s)
  rw [Settled, hparse, horiginal]
  exact (meaningJudged_judgeMeaning g peers s).coherent h.grammar h.results h.unparseable

theorem coherent_finalize (h : Settled g.session.levels s) :
    Coherent g.session.levels (g.finalize s).parseable (g.finalize s).originalText.isSome
      (g.finalize s).verdicts := by
  obtain ⟨hparse, horiginal⟩ := Submission.eq_of_standing_eq (standing_finalize g s)
  rw [hparse, horiginal, verdicts_finalize]
  exact h

/-! ## 3. The whole run

At the end the verdicts are coherent, so a level is looked for among the rows of the scale. -/

/-- **Every statement of a run without faults ends with coherent verdicts**, and with the level of
these or, if they have none, with the lowest. -/
theorem coherent_runUnder {handIns : List HandIn}
    (h : g.UndisturbedUnder c Stage.all (handIns.map .ofHandIn)) :
    ∀ s ∈ g.runUnder c handIns,
      Coherent g.session.levels s.parseable s.originalText.isSome s.verdicts ∧
        s.level = (g.scale.level? s.verdicts).getD 1 := by
  obtain ⟨hpreprocess, hgrammar, hresults, hmeaning, hfinalize, -⟩ := h
  have h₀ : ∀ s ∈ handIns.map Submission.ofHandIn, s.originalText = none := by
    intro s hs
    obtain ⟨_, -, rfl⟩ := List.mem_map.mp hs
    rfl
  -- one premise for each stage, each proved by the stage before it
  have h₁ := forall_stepUnder (Q := fun s => s.originalText = none) hpreprocess h₀
    fun _ _ _ _ hs hrun => (standing_runStage hrun).originalText_eq.trans hs
  have h₂ := forall_stepUnder (Q := GrammarJudged g.session.levels) hgrammar h₁
    fun engine _ _ _ hs hrun => judgeGrammar_eq_none (g := g.withEngine engine) hs hrun
  have h₃ := forall_stepUnder (Q := ResultsJudged g.session.levels) hresults h₂
    fun engine _ s s' hs hrun => by
      cases hrun
      exact resultsJudged_judgeResults (g := g.withEngine engine) hs
  have h₄ := forall_stepUnder (Q := Settled g.session.levels) hmeaning h₃
    fun engine peers s s' hs hrun => by
      cases hrun
      exact settled_judgeMeaning (g := g.withEngine engine) peers hs
  refine forall_stepUnder hfinalize h₄ fun engine _ s s' hs hrun => ?_
  cases hrun
  exact ⟨coherent_finalize (g := g.withEngine engine) hs, level_finalize (g.withEngine engine) s⟩

end Grader

end QueryGrading
