import QueryGrading.Grade.Grader.Run

/-!
# Circumstances of a run

`Grader.run` asks one engine, which answers alike whenever it is asked, and a task is stopped by
this engine only. In general a run has `Circumstances`: every task may meet with another engine, and
any task may be stopped from outside. `Grader.runUnder` is the run in some circumstances.

The tasks are those of `run_stage`: one for each submission in each stage, numbered here by the
place in the batch. What a task meets with is everything that it does not compute itself: the
parser, the backend, what `join_all` hands back for a task that panics or is cancelled, and how that
is reported. So the report of a crash may name its task by any number, and two tasks with the same
text may be told of the same crash differently. The order in which tasks run is not described here
but in `Pool`.
-/

namespace QueryGrading

/-! ## 1. Circumstances -/

/-- What the tasks of a run meet with, by stage and place in the batch: the engine that the task
asks, and the fault that stops it from outside. -/
structure Circumstances where
  engine : Stage → Nat → Engine
  fault? : Stage → Nat → Option Fault

/-- All tasks ask the same engine, and only what it answers stops them. -/
def Circumstances.steady (engine : Engine) : Circumstances where
  engine _ _ := engine
  fault? _ _ := none

namespace Grader

/-- The grader with another engine; its models are those that it has. -/
def withEngine (g : Grader) (engine : Engine) : Grader := { g with engine := engine }

/-- What a task leaves, and the fault that stopped it. -/
def task (g : Grader) (c : Circumstances) (stage : Stage) (peers : List Peer) (i : Nat)
    (s : Submission) : Submission × Option Fault :=
  match c.fault? stage i with
  | some fault => (s, some fault)
  | none => (g.withEngine (c.engine stage i)).runStage stage peers s

/-- The submission at a place of the batch after a stage; after one that was stopped, as it was
before, with a note. -/
def stepAt (g : Grader) (c : Circumstances) (stage : Stage) (peers : List Peer) (i : Nat)
    (s : Submission) : Submission :=
  match g.task c stage peers i s with
  | (done, none) => done
  | (_, some fault) => s.note (fault.note stage.text)

/-- All submissions after a stage. -/
def stepUnder (g : Grader) (c : Circumstances) (batch : List Submission) (stage : Stage) :
    List Submission :=
  batch.mapIdx (g.stepAt c stage (batch.map (·.toPeer)))

/-- What was handed in, as some stages leave it. -/
def afterUnder (g : Grader) (c : Circumstances) (stages : List Stage) (handIns : List HandIn) :
    List Submission :=
  stages.foldl (g.stepUnder c) (handIns.map .ofHandIn)

/-- A run in some circumstances. -/
def runUnder (g : Grader) (c : Circumstances) (handIns : List HandIn) : List Submission :=
  g.afterUnder c Stage.all handIns

end Grader

end QueryGrading
