import Mathlib.Data.List.Forall2
import QueryGrading.Grade.Circumstances

/-!
# Runs in all circumstances

`Grader.run` is the run in steady circumstances (`runUnder_steady`), so what is proved of
`Grader.runUnder` holds of it. A task either is not stopped and leaves what its stage makes of the
submission, or it leaves the submission as it was, with a note (`stepAt_cases`): that is the merge
at the end of `run_stage`. What the first stage brings about and each further stage keeps, whatever
stops its tasks, a run brings about for all that was handed in (`forall₂_afterUnder`).

The stages are those of `Stage::ALL`, with a batch of the same length and order after each. So a
property of a submission and what it was handed in as is proved by one lemma for a task, and these
three lemmas carry it over a stage and over the run.
-/

namespace QueryGrading

namespace Grader

/-! ## 1. Steady circumstances -/

variable {g : Grader} {c : Circumstances}

/-- Where all tasks ask the engine of the grader and nothing else stops them, a stage is the one of
the run. -/
theorem stepUnder_steady (g : Grader) : g.stepUnder (.steady g.engine) = g.stepAll := by
  funext batch stage
  -- the place in the batch tells nothing here
  have hstep : ∀ i, g.stepAt (.steady g.engine) stage (batch.map (·.toPeer)) i =
      g.step stage (batch.map (·.toPeer)) := fun _ => rfl
  refine List.ext_getElem? fun i => ?_
  rw [stepUnder, stepAll, List.getElem?_mapIdx, List.getElem?_map, hstep]

/-- **A run that asks one engine is a run in steady circumstances.** -/
theorem runUnder_steady (g : Grader) (handIns : List HandIn) :
    g.runUnder (.steady g.engine) handIns = g.run handIns := by
  rw [runUnder, afterUnder, stepUnder_steady]
  rfl

/-! ## 2. One stage -/

/-- **One task.**  A task that is not stopped leaves what its stage makes of the submission, any
other the submission with a note. -/
theorem stepAt_cases (g : Grader) (c : Circumstances) (stage : Stage) (peers : List Peer) (i : Nat)
    (s : Submission) :
    (c.fault? stage i = none ∧
      (g.withEngine (c.engine stage i)).runStage stage peers s =
        (g.stepAt c stage peers i s, none)) ∨
      ∃ fault, (g.task c stage peers i s).2 = some fault ∧
        g.stepAt c stage peers i s = s.note (fault.note stage.text) := by
  rw [stepAt]
  split
  · next done htask =>
    unfold task at htask
    split at htask
    · cases htask
    · next hfault => exact .inl ⟨hfault, htask⟩
  · next fault htask => exact .inr ⟨fault, by rw [htask], rfl⟩

/-- What stands at a position after a stage is what the task of that position has left. -/
theorem getElem?_stepUnder (g : Grader) (c : Circumstances) (batch : List Submission)
    (stage : Stage) (i : Nat) :
    (g.stepUnder c batch stage)[i]? =
      batch[i]?.map (g.stepAt c stage (batch.map (·.toPeer)) i) := List.getElem?_mapIdx

theorem forall₂_mapIdx {α β γ : Type} {P : α → β → Prop} {Q : α → γ → Prop} {f : Nat → β → γ}
    {as : List α} {bs : List β} (h : List.Forall₂ P as bs) (hf : ∀ i a b, P a b → Q a (f i b)) :
    List.Forall₂ Q as (bs.mapIdx f) := by
  induction h generalizing f with
  | nil => exact .nil
  | cons hP _ ih =>
    rw [List.mapIdx_cons]
    exact .cons (hf 0 _ _ hP) (ih fun i => hf (i + 1))

/-- **One stage.**  What its tasks bring about holds of all submissions after it. -/
theorem forall₂_stepUnder {P Q : HandIn → Submission → Prop} {stage : Stage}
    {handIns : List HandIn} {batch : List Submission} (h : List.Forall₂ P handIns batch)
    (hstep : ∀ peers i h s, P h s → Q h (g.stepAt c stage peers i s)) :
    List.Forall₂ Q handIns (g.stepUnder c batch stage) :=
  forall₂_mapIdx h (hstep _)

/-! ## 3. A whole run -/

/-- What each of some stages keeps holds after all of them. -/
theorem forall₂_foldl_stepUnder {R : HandIn → Submission → Prop} {handIns : List HandIn}
    {stages : List Stage} {batch : List Submission}
    (hstep : ∀ stage ∈ stages, ∀ peers i h s, R h s → R h (g.stepAt c stage peers i s))
    (h : List.Forall₂ R handIns batch) :
    List.Forall₂ R handIns (stages.foldl (g.stepUnder c) batch) := by
  induction stages generalizing batch with
  | nil => exact h
  | cons stage rest ih =>
    have hnow := hstep stage List.mem_cons_self
    exact ih (fun later hlater => hstep later (List.mem_cons_of_mem stage hlater))
      (forall₂_stepUnder h hnow)

/-- **What the first stage brings about and every further stage keeps, holds of all that was
handed in**, whatever stops the tasks. -/
theorem forall₂_afterUnder {R : HandIn → Submission → Prop} {first : Stage} {stages : List Stage}
    (hfirst : ∀ peers i h, R h (g.stepAt c first peers i (.ofHandIn h)))
    (hstep : ∀ stage ∈ stages, ∀ peers i h s, R h s → R h (g.stepAt c stage peers i s))
    (handIns : List HandIn) :
    List.Forall₂ R handIns (g.afterUnder c (first :: stages) handIns) := by
  have hstart : List.Forall₂ (fun h s => s = .ofHandIn h) handIns
      (handIns.map Submission.ofHandIn) :=
    List.forall₂_map_right_iff.mpr (List.forall₂_same.mpr fun _ _ => rfl)
  have hafter : List.Forall₂ R handIns (g.stepUnder c (handIns.map .ofHandIn) first) := by
    refine forall₂_stepUnder hstart ?_
    rintro peers i h _ rfl
    exact hfirst peers i h
  rw [afterUnder, List.foldl_cons]
  exact forall₂_foldl_stepUnder hstep hafter

end Grader

end QueryGrading
