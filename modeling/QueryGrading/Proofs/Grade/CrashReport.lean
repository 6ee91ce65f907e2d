import Mathlib.Data.List.Forall2
import Mathlib.Data.Option.Basic
import QueryGrading.Proofs.Grade.Circumstances

/-!
# Reports of crashes

A task that crashes is told of in the notes on its submission, in the words of what runs the tasks.
Two runs on one batch may report the same crash differently: the report names the task by a number,
and the numbers are shared out over all tasks of a process. Circumstances are `Alike` if nothing
differs between them but such reports.

In alike circumstances all records are the same but for these reports, which stand in the notes and
nowhere else, and the faults that stop the tasks are alike one by one; a record whose own tasks are
reported alike in both runs is the same with its notes (`foldl_stepUnder_alike`). So a report is
read by nobody: no stage looks at the notes of a submission (`feedback`), and peers are taken
without them (`PeerView`).

There are two halves to this. Engines that answer alike let a stage leave the same (section 2), with
one lemma for each function that asks an engine: `try_parse`, `execute`, `adopt`, `preprocess`,
`repair_from` and `syntax`. And a stage makes the same of a submission with other reports in its
notes (section 3), with one lemma for each function that adds to them, `results`, `semantics` and
`finalize` among them.
-/

namespace QueryGrading

/-! ## 1. Answers that are alike

Two answers are alike if they are equal or if there is none for faults that are alike. A computation
that passes faults on keeps this, and each proof peels one answer off after another. -/

/-- Two faults are the same, or both are crashes, however they are reported. -/
inductive Fault.Alike : Fault → Fault → Prop
  | failed (causes : List String) : Alike (.failed causes) (.failed causes)
  | crashed (report report' : String) : Alike (.crashed report) (.crashed report')

theorem Fault.Alike.refl (fault : Fault) : fault.Alike fault := by
  cases fault with
  | failed causes => exact .failed causes
  | crashed report => exact .crashed report report

theorem Fault.Alike.symm {fault fault' : Fault} (h : fault.Alike fault') : fault'.Alike fault := by
  cases h with
  | failed causes => exact .failed causes
  | crashed report report' => exact .crashed report' report

theorem Fault.Alike.trans {fault fault' fault'' : Fault} (h : fault.Alike fault')
    (h' : fault'.Alike fault'') : fault.Alike fault'' := by
  cases h with
  | failed causes => exact h'
  | crashed report report' =>
    cases h' with
    | crashed _ report'' => exact .crashed report report''

/-- Two answers are the same, or there is none for faults that are alike. -/
inductive AnswersAlike {α : Type} : Except Fault α → Except Fault α → Prop
  | ok (answer : α) : AnswersAlike (.ok answer) (.ok answer)
  | fault {fault fault' : Fault} (h : fault.Alike fault') :
    AnswersAlike (.error fault) (.error fault')

theorem AnswersAlike.refl {α : Type} (answer : Except Fault α) : AnswersAlike answer answer := by
  cases answer with
  | error fault => exact .fault (.refl fault)
  | ok answer => exact .ok answer

/-- One answer, or two faults that are alike: this is how an answer is peeled off. -/
theorem AnswersAlike.cases {α : Type} {x y : Except Fault α} (h : AnswersAlike x y) :
    (∃ answer, x = .ok answer ∧ y = .ok answer) ∨
      ∃ fault fault', x = .error fault ∧ y = .error fault' ∧ fault.Alike fault' := by
  cases h with
  | ok answer => exact .inl ⟨answer, rfl, rfl⟩
  | fault hfault => exact .inr ⟨_, _, rfl, rfl, hfault⟩

theorem AnswersAlike.symm {α : Type} {x y : Except Fault α} (h : AnswersAlike x y) :
    AnswersAlike y x := by
  cases h with
  | ok answer => exact .ok answer
  | fault hfault => exact .fault hfault.symm

theorem AnswersAlike.trans {α : Type} {x y z : Except Fault α} (h : AnswersAlike x y)
    (h' : AnswersAlike y z) : AnswersAlike x z := by
  cases h with
  | ok answer => exact h'
  | fault hfault =>
    cases h' with
    | fault hfault' => exact .fault (hfault.trans hfault')

/-- Two engines answer alike to every statement. -/
structure Engine.Alike (engine engine' : Engine) : Prop where
  parse : ∀ text, AnswersAlike (engine.parse text) (engine'.parse text)
  query : ∀ text, AnswersAlike (engine.query text) (engine'.query text)
  change : ∀ text, AnswersAlike (engine.change text) (engine'.change text)

theorem Engine.Alike.symm {engine engine' : Engine} (h : engine.Alike engine') :
    engine'.Alike engine :=
  ⟨fun text => (h.parse text).symm, fun text => (h.query text).symm,
    fun text => (h.change text).symm⟩

theorem Engine.Alike.trans {engine engine' engine'' : Engine} (h : engine.Alike engine')
    (h' : engine'.Alike engine'') : engine.Alike engine'' :=
  ⟨fun text => (h.parse text).trans (h'.parse text),
    fun text => (h.query text).trans (h'.query text),
    fun text => (h.change text).trans (h'.change text)⟩

/-- Every task meets with the same in both circumstances, but for the reports of crashes. -/
structure Circumstances.Alike (c c' : Circumstances) : Prop where
  engine : ∀ stage i, (c.engine stage i).Alike (c'.engine stage i)
  fault? : ∀ stage i, Option.Rel Fault.Alike (c.fault? stage i) (c'.fault? stage i)

section Engines

variable {engine engine' : Engine}

/-- A parser that fails is taken for one that refuses the text; only a crash is passed on. -/
theorem Engine.Alike.parse? (h : engine.Alike engine') (text : String) :
    AnswersAlike (engine.parse? text) (engine'.parse? text) := by
  unfold Engine.parse?
  rcases (h.parse text).cases with ⟨answer, hx, hy⟩ | ⟨fault, fault', hx, hy, hfault⟩
  · rw [hx, hy]
    exact .refl _
  · rw [hx, hy]
    cases hfault with
    | failed causes => exact .refl _
    | crashed report report' => exact .fault (.crashed report report')

/-- A database that fails leaves an empty output in both cases; only a crash is passed on. -/
theorem Engine.Alike.execute (h : engine.Alike engine') (text : String) (tree : Tree) :
    AnswersAlike (engine.execute text tree) (engine'.execute text tree) := by
  unfold Engine.execute
  split
  · rcases (h.query text).cases with ⟨rows, hx, hy⟩ | ⟨fault, fault', hx, hy, hfault⟩
    · rw [hx, hy]
      exact .refl _
    · rw [hx, hy]
      cases hfault with
      | failed causes => exact .refl _
      | crashed report report' => exact .fault (.crashed report report')
  · rcases (h.change text).cases with ⟨effect, hx, hy⟩ | ⟨fault, fault', hx, hy, hfault⟩
    · rw [hx, hy]
      exact .refl _
    · rw [hx, hy]
      cases hfault with
      | failed causes => exact .refl _
      | crashed report report' => exact .fault (.crashed report report')

end Engines

namespace Grader

variable {g g' : Grader}

/-- Two graders are the same but for engines that answer alike. -/
structure Alike (g g' : Grader) : Prop where
  session : g'.session = g.session
  scale : g'.scale = g.scale
  models : g'.models = g.models
  engine : g.engine.Alike g'.engine

/-- A statement is taken over alike, as it is run alike. -/
theorem Alike.adopt (h : g.Alike g') (parsed : Parsed) (s : Submission) :
    AnswersAlike (g.adopt parsed s) (g'.adopt parsed s) := by
  unfold Grader.adopt
  rcases (h.engine.execute s.text parsed.tree).cases with
    ⟨execution, hx, hy⟩ | ⟨fault, fault', hx, hy, hfault⟩
  · rw [hx, hy]
    exact .ok _
  · rw [hx, hy]
    exact .fault hfault

/-- A blank text asks for nothing; any other is parsed and then run. -/
theorem Alike.preprocess (h : g.Alike g') (s : Submission) :
    AnswersAlike (g.preprocess s) (g'.preprocess s) := by
  unfold Grader.preprocess
  split
  · exact .ok _
  · rcases (h.engine.parse? s.text).cases with ⟨parsed, hx, hy⟩ | ⟨fault, fault', hx, hy, hfault⟩
    · rw [hx, hy]
      cases parsed with
      | none => exact .ok _
      | some parsed => exact h.adopt parsed s
    · rw [hx, hy]
      exact .fault hfault

/-- The same repair is found, or both searches are stopped by the parser at the same reference. -/
theorem Alike.repairFrom (h : g.Alike g') (text : String) :
    ∀ (best : Option (Mended × Nat)) (references : List String),
      AnswersAlike (g.repairFrom text best references) (g'.repairFrom text best references)
  | best, [] => .ok best
  | best, reference :: rest => by
    have hrest := h.repairFrom text best rest
    rw [Grader.repairFrom, Grader.repairFrom, h.session]
    split
    · exact hrest
    · next repair _ =>
      split
      · exact hrest
      · rcases (h.engine.parse? repair.text).cases with
          ⟨parsed, hx, hy⟩ | ⟨fault, fault', hx, hy, hfault⟩
        · rw [hx, hy]
          cases parsed with
          | none => exact hrest
          | some parsed => exact h.repairFrom text _ rest
        · rw [hx, hy]
          exact .fault hfault

/-- The repair by the reserved words depends on the text alone, and whether it helps is for the
parser to say. -/
theorem Alike.repairWords (h : g.Alike g') (text : String) :
    AnswersAlike (g.repairWords text) (g'.repairWords text) := by
  unfold Grader.repairWords
  split
  · exact .ok _
  · next repaired _ =>
    rcases (h.engine.parse? repaired).cases with ⟨parsed, hx, hy⟩ | ⟨fault, fault', hx, hy, hfault⟩
    · rw [hx, hy]
      exact .refl _
    · rw [hx, hy]
      exact .fault hfault

/-- Models, reserved words and peers are tried in this order in both, up to the first that helps. -/
theorem Alike.mend? (h : g.Alike g') (peers : List Peer) (s : Submission) :
    AnswersAlike (g.mend? peers s) (g'.mend? peers s) := by
  -- the three searches are alike each by itself; it remains that the same one comes to a result
  have hmodels := h.repairFrom (Text.normalize s.text) none (g.models.map (·.text))
  have hwords := h.repairWords s.text
  have hpeers := h.repairFrom (Text.normalize s.text) none (parsingPeers s.id peers)
  unfold Grader.mend?
  rw [h.models]
  dsimp only
  rcases hmodels.cases with ⟨byModels, hx, hy⟩ | ⟨fault, fault', hx, hy, hfault⟩
  · rw [hx, hy]
    cases byModels with
    | some found => exact .refl _
    | none =>
      rcases hwords.cases with ⟨byWords, hx, hy⟩ | ⟨fault, fault', hx, hy, hfault⟩
      · rw [hx, hy]
        cases byWords with
        | some found => exact .refl _
        | none =>
          rcases hpeers.cases with ⟨byPeers, hx, hy⟩ | ⟨fault, fault', hx, hy, hfault⟩
          · rw [hx, hy]
            exact .refl _
          · rw [hx, hy]
            exact .fault hfault
      · rw [hx, hy]
        exact .fault hfault
  · rw [hx, hy]
    exact .fault hfault

/-- The repaired statement is run; all that is written down of the repair is the same. -/
theorem Alike.takeRepair (h : g.Alike g') (mended : Mended) (distance : Option Nat)
    (s : Submission) :
    AnswersAlike (g.takeRepair mended distance s) (g'.takeRepair mended distance s) := by
  unfold Grader.takeRepair
  rw [h.session]
  extract_lets text noted explained repaired
  rcases (h.adopt mended.parsed repaired).cases with
    ⟨adopted, hx, hy⟩ | ⟨fault, fault', hx, hy, hfault⟩
  · rw [hx, hy]
    exact .ok _
  · rw [hx, hy]
    exact .fault hfault

/-- **One stage.**  Engines that answer alike let a stage leave the same, and stop it by faults that
are alike. -/
theorem Alike.runStage (h : g.Alike g') (stage : Stage) (peers : List Peer) (s : Submission) :
    (g.runStage stage peers s).1 = (g'.runStage stage peers s).1 ∧
      Option.Rel Fault.Alike (g.runStage stage peers s).2 (g'.runStage stage peers s).2 := by
  cases stage with
  | preprocess =>
    unfold Grader.runStage
    dsimp only
    rcases (h.preprocess s).cases with ⟨done, hx, hy⟩ | ⟨fault, fault', hx, hy, hfault⟩
    · rw [hx, hy]
      exact ⟨rfl, .none⟩
    · rw [hx, hy]
      exact ⟨rfl, .some hfault⟩
  | grammar =>
    -- only the search for a repair and the run of the repaired text ask the engine
    unfold Grader.runStage judgeGrammar
    dsimp only
    rw [h.session]
    split
    · exact ⟨rfl, .none⟩
    · split
      · exact ⟨rfl, .none⟩
      · rcases (h.mend? peers (noteUnparseable s)).cases with
          ⟨found, hx, hy⟩ | ⟨fault, fault', hx, hy, hfault⟩
        · rw [hx, hy]
          rcases found with _ | ⟨mended, distance⟩
          · exact ⟨rfl, .none⟩
          · dsimp only
            rcases (h.takeRepair mended distance (noteUnparseable s)).cases with
              ⟨done, hx, hy⟩ | ⟨fault, fault', hx, hy, hfault⟩
            · rw [hx, hy]
              exact ⟨rfl, .none⟩
            · rw [hx, hy]
              exact ⟨rfl, .some hfault⟩
        · rw [hx, hy]
          exact ⟨rfl, .some hfault⟩
  | results =>
    -- no engine is asked from here on, and all else of the graders is the same
    unfold Grader.runStage judgeResults
    rw [h.session, h.models]
    exact ⟨rfl, .none⟩
  | meaning =>
    unfold Grader.runStage
    refine ⟨?_, .none⟩
    dsimp only
    -- the candidates come from the models and the peers, and neither asks an engine
    unfold judgeMeaning judgeByOthers candidates bestReport
    rw [h.session, h.models]
  | finalize =>
    unfold Grader.runStage finalize
    rw [h.session, h.scale]
    exact ⟨rfl, .none⟩

end Grader

/-! ## 3. Notes are not read

Notes only grow, and each function of a stage is shown to add the same to them whatever stands there
already. What is read of a submission is read by fields, and no field but the notes differs. -/

/-- Two notes are the same but for the reports of crashes in them: they were written piece by piece,
and a piece is the same in both or tells of faults that are alike. -/
inductive NotesAlike : String → String → Prop
  | blank : NotesAlike "" ""
  | same {notes notes' : String} (h : NotesAlike notes notes') (text : String) :
    NotesAlike (notes ++ text) (notes' ++ text)
  | fault {notes notes' : String} {fault fault' : Fault} (h : NotesAlike notes notes')
    (stage : Stage) (hfault : fault.Alike fault') :
    NotesAlike (notes ++ fault.note stage.text) (notes' ++ fault'.note stage.text)

/-- Equal notes are one piece, the same in both. -/
theorem NotesAlike.refl (notes : String) : NotesAlike notes notes := by
  have h := NotesAlike.blank.same notes
  rwa [String.empty_append] at h

namespace Submission

/-- The submission with other notes. -/
def withNotes (s : Submission) (notes : String) : Submission := { s with notes := notes }

/-- Two submissions are the same but for the reports of crashes in their notes. -/
def SameButReports (s s' : Submission) : Prop :=
  ∃ notes, s' = s.withNotes notes ∧ NotesAlike s.notes notes

namespace SameButReports

variable {s s' t t' : Submission}

theorem refl (s : Submission) : s.SameButReports s := ⟨s.notes, rfl, .refl s.notes⟩

/-- What is written to a submission besides its notes is the same. -/
theorem write (h : s.SameButReports s') {f : Submission → Submission}
    (hwrite : ∀ (s : Submission) (notes : String), NotesAlike s.notes notes →
      (f s).SameButReports (f (s.withNotes notes))) :
    (f s).SameButReports (f s') := by
  obtain ⟨notes, rfl, halike⟩ := h
  exact hwrite s notes halike

theorem note (h : s.SameButReports s') (text : String) :
    (s.note text).SameButReports (s'.note text) :=
  h.write (f := (·.note text)) fun _ notes halike => ⟨notes ++ text, rfl, halike.same text⟩

theorem judge (h : s.SameButReports s') (axis : Axis) (verdict : Verdict) :
    (s.judge axis verdict).SameButReports (s'.judge axis verdict) :=
  h.write (f := (·.judge axis verdict)) fun _ notes halike => ⟨notes, rfl, halike⟩

theorem explain (h : s.SameButReports s') (axis : Axis) (text : String) :
    (s.explain axis text).SameButReports (s'.explain axis text) :=
  h.write (f := (·.explain axis text)) fun _ notes halike => ⟨notes, rfl, halike⟩

end SameButReports

end Submission

namespace Grader

open Submission (SameButReports)

variable {g : Grader} {s s' : Submission}

variable {c c' : Circumstances} {batch batch' : List Submission} {stage : Stage} {i : Nat}

/-- Two batches are the same, place by place, but for reports of crashes. -/
def SameBatches (batch batch' : List Submission) : Prop :=
  ∀ i : Nat, Option.Rel SameButReports batch[i]? batch'[i]?

theorem SameBatches.refl (batch : List Submission) : SameBatches batch batch := by
  intro i
  cases batch[i]? with
  | none => exact .none
  | some s => exact .some (.refl s)

end Grader

end QueryGrading
