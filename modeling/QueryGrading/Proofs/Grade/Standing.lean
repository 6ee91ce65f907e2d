import QueryGrading.Proofs.Grade.Circumstances
import QueryGrading.Proofs.Grade.Stages

/-!
# What a statement stands for

The standing of a statement changes twice at most: when it is parsed and run as it was handed in,
and when a repair is put in its place, which is parsed and run then. `standing_runStage` says this
for each stage, with every way in which a stage can end. So in one engine's run every state is
`Faithful`: it is what the engine says of its text, or the hand-in itself where that does not parse,
and it never forgets the text that was handed in (`faithful_afterUnder`). That holds after any
number of stages and whatever stops the tasks, for no task leaves half of its work.

The two changes are the calls of `adopt`, in `preprocess` and in `syntax`; `original_text` is set
beside the second one and nowhere else, and `output_record` shows it as the query, with the repair
as `corrected_query`. A task that is stopped leaves nothing since `run_stage` gives it a copy.
-/

namespace QueryGrading

/-! ## 1. What the engine says of a text

What becomes of a statement in a stage is a relation of two standings: it stays, it is answered by
the engine, or it is repaired and then answered. -/

/-- The engine parses the text, and gives this execution of it. -/
def Engine.Answers (engine : Engine) (text : String) (parsed : Parsed) (execution : Execution) :
    Prop :=
  engine.parse text = .ok (.ok parsed) ∧ engine.execute text parsed.tree = .ok execution

theorem Engine.parse?_eq_some {engine : Engine} {text : String} {parsed : Parsed}
    (h : engine.parse? text = .ok (some parsed)) : engine.parse text = .ok (.ok parsed) := by
  unfold Engine.parse? at h
  split at h
  · next hparse =>
    cases h
    exact hparse
  · cases h
  · cases h

namespace Standing

/-- The statement with the engine's answer for its text. -/
def answered (s : Standing) (parsed : Parsed) (execution : Execution) : Standing :=
  { s with
    parseable := true
    tree := some parsed.tree
    fingerprint := parsed.fingerprint
    output := execution.output
    executionError := execution.error }

/-- The statement with another text in the place of its own. -/
def repaired (s : Standing) (text : String) : Standing :=
  { s with originalText := some s.text, text := text }

/-- What becomes of a statement in a stage. -/
inductive Becomes (engine : Engine) : Stage → Standing → Standing → Prop
  | same {stage s} : Becomes engine stage s s
  | rejected {s} : Becomes engine .preprocess s { s with parseable := false }
  | answered {s parsed execution} (h : engine.Answers s.text parsed execution) :
    Becomes engine .preprocess s (s.answered parsed execution)
  | repaired {s text parsed execution} (hp : s.parseable = false)
    (h : engine.Answers text parsed execution) :
    Becomes engine .grammar s ((s.repaired text).answered parsed execution)

/-- A statement stays that of the same student, attempt and question. -/
theorem Becomes.keeps {engine : Engine} {stage : Stage} {s s' : Standing}
    (h : Becomes engine stage s s') :
    s'.id = s.id ∧ s'.attempt = s.attempt ∧ s'.question = s.question := by
  cases h <;> exact ⟨rfl, rfl, rfl⟩

/-- The first stage leaves the text that was handed in where it is. -/
theorem Becomes.originalText_eq {engine : Engine} {s s' : Standing}
    (h : Becomes engine .preprocess s s') : s'.originalText = s.originalText := by
  cases h <;> rfl

end Standing

/-! ## 2. What becomes of a statement

Each function that can change the standing is shown to make one of these changes, and the search for
a repair is shown to hand over what the parser says of the repair. -/

namespace Grader

variable {g : Grader} {peers : List Peer} {stage : Stage} {s s' : Submission}

/-- What `adopt` makes of a statement is the engine's answer for its text. -/
theorem standing_adopt {parsed : Parsed} (h : g.adopt parsed s = .ok s') :
    ∃ execution, g.engine.execute s.text parsed.tree = .ok execution ∧
      s'.standing = s.standing.answered parsed execution := by
  unfold adopt at h
  split at h
  · cases h
  · next execution hexecute =>
    cases h
    exact ⟨execution, hexecute, rfl⟩

theorem standing_preprocess (h : g.preprocess s = .ok s') :
    Standing.Becomes g.engine .preprocess s.standing s'.standing := by
  unfold preprocess at h
  split at h
  · cases h
    exact .rejected
  · split at h
    · cases h
    · cases h
      exact .rejected
    · next hparse =>
      obtain ⟨execution, hexecute, hs'⟩ := standing_adopt h
      rw [hs']
      exact .answered ⟨Engine.parse?_eq_some hparse, hexecute⟩

/-- A repair comes with what the parser says of it. -/
def Mends (g : Grader) (mended : Mended) : Prop :=
  g.engine.parse mended.text = .ok (.ok mended.parsed)

/-- The best repair so far mends, so the best of all does. -/
theorem mends_repairFrom {text : String} : ∀ {references : List String}
    {best found : Option (Mended × Nat)}, (∀ m ∈ best, g.Mends m.1) →
      g.repairFrom text best references = .ok found → ∀ m ∈ found, g.Mends m.1
  | [], _, _, hbest, h => by
    cases h
    exact hbest
  | reference :: rest, best, found, hbest, h => by
    rw [repairFrom] at h
    split at h
    · exact mends_repairFrom hbest h
    · split at h
      · exact mends_repairFrom hbest h
      · split at h
        · cases h
        · exact mends_repairFrom hbest h
        · next hparse =>
          refine mends_repairFrom ?_ h
          rintro _ ⟨⟩
          exact Engine.parse?_eq_some hparse

/-- The repair by the reserved words is only kept if the parser accepts it. -/
theorem mends_repairWords {text : String} {found : Option Mended}
    (h : g.repairWords text = .ok found) : ∀ m ∈ found, g.Mends m := by
  unfold repairWords at h
  split at h
  · cases h
    rintro _ ⟨⟩
  · split at h
    · cases h
    · cases h
      rintro _ ⟨⟩
    · next hparse =>
      cases h
      rintro _ ⟨⟩
      exact Engine.parse?_eq_some hparse

/-- Whichever search finds a repair, the parser has accepted it. -/
theorem mends_mend? {mended : Mended} {distance : Option Nat}
    (h : g.mend? peers s = .ok (some (mended, distance))) : g.Mends mended := by
  have hnone : ∀ m ∈ (none : Option (Mended × Nat)), g.Mends m.1 := nofun
  simp only [mend?] at h
  split at h
  · cases h
  · next hmodels =>
    cases h
    exact mends_repairFrom hnone hmodels _ rfl
  · split at h
    · cases h
    · next hwords =>
      cases h
      exact mends_repairWords hwords _ rfl
    · split at h
      · cases h
      · next found hpeers =>
        cases found with
        | none => cases h
        | some m =>
          cases h
          exact mends_repairFrom hnone hpeers m rfl

theorem standing_takeRepair {mended : Mended} {distance : Option Nat} (hp : s.parseable = false)
    (hmends : g.Mends mended) (h : g.takeRepair mended distance s = .ok s') :
    Standing.Becomes g.engine .grammar s.standing s'.standing := by
  simp only [takeRepair] at h
  split at h
  · cases h
  · next hadopt =>
    cases h
    obtain ⟨execution, hexecute, hs'⟩ := standing_adopt hadopt
    rw [Submission.standing_judge, hs']
    exact .repaired hp ⟨hmends, hexecute⟩

theorem standing_judgeGrammar (h : g.judgeGrammar peers s = (s', none)) :
    Standing.Becomes g.engine .grammar s.standing s'.standing := by
  unfold judgeGrammar at h
  split at h
  · cases h
    rw [Submission.standing_judge]
    exact .same
  · split at h
    · cases h
      -- it parses already
      rw [Submission.standing_judge, Submission.standing_note]
      exact .same
    · next hp =>
      have hp : (noteUnparseable s).parseable = false := Bool.eq_false_iff.mpr hp
      have hnote : (noteUnparseable s).standing = s.standing := Submission.standing_note s _
      rw [← hnote]
      simp only at h
      split at h
      · cases h
      · cases h
        rw [Submission.standing_judge]
        exact .same
      · next hmend =>
        split at h
        · cases h
        · next hrepair =>
          cases h
          -- the only way out that changes the standing
          exact standing_takeRepair hp (mends_mend? hmend) hrepair

/-- **What a stage makes of a statement**, if it is not stopped. -/
theorem standing_runStage (h : g.runStage stage peers s = (s', none)) :
    Standing.Becomes g.engine stage s.standing s'.standing := by
  cases stage with
  | preprocess =>
    simp only [runStage] at h
    split at h
    · next hok =>
      cases h
      exact standing_preprocess hok
    · cases h
  | grammar => exact standing_judgeGrammar h
  | results =>
    cases h
    rw [standing_judgeResults]
    exact .same
  | meaning =>
    cases h
    rw [standing_judgeMeaning]
    exact .same
  | finalize =>
    cases h
    rw [standing_finalize]
    exact .same

/-- A task that is stopped changes nothing about the statement. -/
theorem standing_stepAt (g : Grader) (c : Circumstances) (stage : Stage) (peers : List Peer)
    (i : Nat) (s : Submission) :
    Standing.Becomes (c.engine stage i) stage s.standing (g.stepAt c stage peers i s).standing := by
  rcases stepAt_cases g c stage peers i s with ⟨-, hrun⟩ | ⟨fault, -, hnote⟩
  · exact standing_runStage hrun
  · rw [hnote]
    exact .same

end Grader

/-! ## 3. Faithful states

A state is faithful if it is explained by the hand-in and the engine alone. The first stage makes it
so, and a later one keeps it, because it repairs only what does not parse. -/

/-- What a state says of its text is what the engine says of it; a text that does not parse stands
as it was handed in, without tree, fingerprint, output and error. The text that was handed in is
kept in any case: beside the text if a repair took its place, else as the text. -/
structure Faithful (engine : Engine) (h : HandIn) (s : Standing) : Prop where
  parsed : s.parseable = true → ∃ parsed execution,
    engine.parse s.text = .ok (.ok parsed) ∧
    engine.execute s.text parsed.tree = .ok execution ∧
    s.tree = some parsed.tree ∧ s.fingerprint = parsed.fingerprint ∧
    s.output = execution.output ∧ s.executionError = execution.error
  unparsed : s.parseable = false → s.text = h.query ∧ s.originalText = none ∧ s.tree = none ∧
    s.fingerprint = "" ∧ s.output = .rows [] ∧ s.executionError = none
  original : ∀ text, s.originalText = some text → text = h.query
  unrepaired : s.originalText = none → s.text = h.query

namespace Faithful

variable {engine : Engine} {h : HandIn} {s s' : Standing} {stage : Stage}

theorem ofHandIn (engine : Engine) (h : HandIn) :
    Faithful engine h (Submission.ofHandIn h).standing where
  parsed := nofun
  unparsed _ := ⟨rfl, rfl, rfl, rfl, rfl, rfl⟩
  original := nofun
  unrepaired _ := rfl

/-- Parsing and running a text makes its state faithful, if the text that was handed in is kept. -/
theorem answered {parsed : Parsed} {execution : Execution}
    (hanswers : engine.Answers s.text parsed execution)
    (original : ∀ text, s.originalText = some text → text = h.query)
    (unrepaired : s.originalText = none → s.text = h.query) :
    Faithful engine h (s.answered parsed execution) where
  parsed _ := ⟨parsed, execution, hanswers.1, hanswers.2, rfl, rfl, rfl, rfl⟩
  unparsed := nofun
  original := original
  unrepaired := unrepaired

/-- The first stage begins with the hand-in itself. -/
theorem first (hs' : Standing.Becomes engine .preprocess (Submission.ofHandIn h).standing s') :
    Faithful engine h s' := by
  have hfresh := ofHandIn engine h
  cases hs' with
  | same => exact hfresh
  | rejected => exact hfresh
  | answered hanswers => exact answered hanswers hfresh.original hfresh.unrepaired

/-- **A later stage keeps a state faithful.**  Only a statement that does not parse is repaired, and
its text is the one that was handed in. -/
theorem later (hs : Faithful engine h s) (hstage : stage ≠ .preprocess)
    (hs' : Standing.Becomes engine stage s s') : Faithful engine h s' := by
  cases hs' with
  | same => exact hs
  | rejected => exact absurd rfl hstage
  | answered => exact absurd rfl hstage
  | repaired hp hanswers =>
    refine answered hanswers ?_ nofun
    rintro _ ⟨⟩
    exact (hs.unparsed hp).1

/-- A record shows the text that was handed in, and a correction only of a text that the parser
accepts. -/
theorem toRecord {s : Submission} (hs : Faithful engine h s.standing) (ranking : Ranking) :
    (s.toRecord ranking).query = h.query ∧
      ∀ text, (s.toRecord ranking).correctedQuery = some text →
        ∃ parsed, engine.parse text = .ok (.ok parsed) := by
  cases horiginal : s.originalText with
  | none =>
    have hquery : (s.toRecord ranking).query = s.text := by
      rw [Submission.toRecord, Submission.handedIn, horiginal, Option.getD_none]
    refine ⟨hquery.trans (hs.unrepaired horiginal), fun text htext => ?_⟩
    simp [Submission.toRecord, horiginal] at htext
  | some original =>
    have hquery : (s.toRecord ranking).query = original := by
      rw [Submission.toRecord, Submission.handedIn, horiginal, Option.getD_some]
    refine ⟨hquery.trans (hs.original original horiginal), fun text htext => ?_⟩
    have htext : s.text = text := by simpa [Submission.toRecord, horiginal] using htext
    -- what does not parse was not repaired
    have hparse : s.parseable = true := by
      by_contra hp
      have hnone := (hs.unparsed (Bool.eq_false_iff.mpr hp)).2.1
      exact absurd (horiginal.symm.trans hnone) nofun
    obtain ⟨parsed, -, hparsed, -⟩ := hs.parsed hparse
    exact ⟨parsed, htext ▸ hparsed⟩

end Faithful

/-! ## 4. The whole run

By induction over the stages that have been run every state is faithful, and so is what its record
shows. -/

/-- **Every state of a run is faithful**, after any number of stages and whatever stops the tasks,
if the engine answers alike whenever it is asked. So its record always shows the text that was
handed in. -/
theorem Grader.faithful_afterUnder (g : Grader) (faults : Stage → Nat → Option Fault) (n : Nat)
    (handIns : List HandIn) :
    List.Forall₂
      (fun h s => Faithful g.engine h s.standing ∧ ∀ ranking,
        (s.toRecord ranking).query = h.query ∧
        ∀ text, (s.toRecord ranking).correctedQuery = some text →
          ∃ parsed, g.engine.parse text = .ok (.ok parsed))
      handIns (g.afterUnder ⟨fun _ _ => g.engine, faults⟩ (Stage.all.take n) handIns) := by
  have hfaithful : List.Forall₂ (fun h s => Faithful g.engine h s.standing) handIns
      (g.afterUnder ⟨fun _ _ => g.engine, faults⟩ (Stage.all.take n) handIns) := by
    cases n with
    | zero =>
      exact List.forall₂_map_right_iff.mpr (List.forall₂_same.mpr fun h _ => .ofHandIn g.engine h)
    | succ n =>
      refine forall₂_afterUnder (fun peers i h => ?_)
        (fun stage hstage peers i h s hs => ?_) handIns
      · exact .first (standing_stepAt g ⟨fun _ _ => g.engine, faults⟩ .preprocess peers i _)
      · have hlater : stage ≠ .preprocess := by
          rintro rfl
          -- preprocessing is the first stage and no other
          exact absurd (List.mem_of_mem_take hstage) (by decide)
        exact hs.later hlater
          (standing_stepAt g ⟨fun _ _ => g.engine, faults⟩ stage peers i s)
  exact hfaithful.imp fun _ _ hs => ⟨hs, hs.toRecord⟩

end QueryGrading
