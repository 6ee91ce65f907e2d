import QueryGrading.Grade.Circumstances

/-!
# Pools

`Grader.run` takes the submissions of a stage one after another. A `Pool` takes them at once, as
`run_stage` does: the peers are taken down first, then each submission has a task with a copy of its
own, a task needs one of the permits of the semaphore to run, it looks at the peers and uses the
backend, alone if the backend is not `parallel_safe`, and it finishes with a result or a fault, all
in any order (`Move`). When all have finished their results are merged in the order of the
submissions, and the next stage begins.

What a task computes between two of these actions is not cut up further: it works on its own copy,
reads nothing else but the peers, and so can be seen by no other task. A permit is held from the
start of a task to its end, the backend for one stretch of it at most, and a task that crashes gives
back both. There is one permit at least. Tasks are not started later than the stage, so the number
that stands in the report of a crash depends on the place of the submission and not on the order in
which tasks run; that is why the circumstances of a task are given by its place.
-/

namespace QueryGrading

/-! ## 1. Tasks -/

/-- How a task stands with the backend, which it uses once at most. -/
inductive Access
  | untouched
  | held
  | returned
  deriving DecidableEq, Repr

/-- The actions with the backend that are left. -/
def Access.left : Access → Nat
  | untouched => 2
  | held => 1
  | returned => 0

/-- A task of a stage: it waits for a permit; it runs, on a copy of its own, and may have looked at
the peers; or it has finished, with a fault if it was stopped. -/
inductive Task
  | waiting (own : Submission)
  | running (own : Submission) (seen? : Option (List Peer)) (access : Access)
  | finished (result : Submission × Option Fault)

/-- What a task can do. -/
inductive Action
  | start
  | look
  | acquire
  | release
  | finish
  deriving DecidableEq, Repr

namespace Task

/-- The task has a permit. -/
def hasPermit : Task → Bool
  | running .. => true
  | _ => false

/-- The task holds the backend. -/
def hasBackend : Task → Bool
  | running _ _ .held => true
  | _ => false

/-- The peers that the task has looked at. -/
def seen? : Task → Option (List Peer)
  | running _ seen? _ => seen?
  | _ => none

/-- The task has finished. -/
def isFinished : Task → Bool
  | finished .. => true
  | _ => false

/-- The actions that are left at most. -/
def left : Task → Nat
  | waiting _ => 5
  | running _ none access => 2 + access.left
  | running _ (some _) access => 1 + access.left
  | finished _ => 0

/-- The task at a place after an action, if it can act so, where a permit and the backend are free
or not. A task that finishes gives back what it holds. -/
def act (g : Grader) (c : Circumstances) (stage : Stage) (peers : List Peer) (i : Nat)
    (permit backend : Bool) : Action → Task → Option Task
  | .start, waiting own => if permit then some (running own none .untouched) else none
  | .look, running own none access => some (running own (some peers) access)
  | .acquire, running own seen? .untouched =>
    if backend then some (running own seen? .held) else none
  | .release, running own seen? .held => some (running own seen? .returned)
  | .finish, running own (some seen) _ => some (finished (g.task c stage seen i own))
  | _, _ => none

end Task

/-- A submission as the stage before left it, and its task. -/
structure Job where
  record : Submission
  task : Task

/-- What a stage makes of a submission: what its task has left, or, if that was stopped, the
submission as it was, with a note. -/
def Job.settle (stage : Stage) (job : Job) : Submission :=
  match job.task with
  | .finished (done, none) => done
  | .finished (_, some fault) => job.record.note (fault.note stage.text)
  | _ => job.record

/-! ## 2. Pools -/

/-- A run on its way: the stage of the tasks and the later ones, the peers as they were when the
stage began, and the jobs in the order of the submissions. -/
structure Pool where
  stages : List Stage
  peers : List Peer
  jobs : List Job

/-- What can happen: the task of a job acts, or all have finished and the next stage begins. -/
inductive Move
  | task (i : Nat) (action : Action)
  | join
  deriving DecidableEq, Repr

namespace Pool

/-- A stage begins: all tasks wait, and the peers are taken down. -/
def enter (stages : List Stage) (batch : List Submission) : Pool where
  stages := stages
  peers := batch.map (·.toPeer)
  jobs := batch.map fun s => ⟨s, .waiting s⟩

/-- The submissions as the last stage that is over left them. -/
def batch (pool : Pool) : List Submission := pool.jobs.map (·.record)

variable (g : Grader) (c : Circumstances) (workers : Nat) (parallel : Bool)

/-- The permits that are taken. -/
def permits (pool : Pool) : Nat := pool.jobs.countP (·.task.hasPermit)

/-- The tasks that hold the backend. -/
def holders (pool : Pool) : Nat := pool.jobs.countP (·.task.hasBackend)

/-- The pool after a move, if it can be made. There is one permit at least; a backend that is not
`parallel` serves one task at a time. -/
def move (pool : Pool) : Move → Option Pool
  | .task i action =>
    match pool.stages, pool.jobs[i]? with
    | stage :: _, some job =>
      let permit := pool.permits < max workers 1
      let backend := parallel || pool.holders = 0
      (job.task.act g c stage pool.peers i permit backend action).map fun task =>
        { pool with jobs := pool.jobs.set i ⟨job.record, task⟩ }
    | _, _ => none
  | .join =>
    match pool.stages with
    | stage :: rest =>
      if pool.jobs.all (·.task.isFinished) then some (enter rest (pool.jobs.map (·.settle stage)))
      else none
    | [] => none

/-- The pool after some moves, if they can be made. -/
def perform : List Move → Pool → Option Pool
  | [], pool => some pool
  | m :: rest, pool => (move g c workers parallel pool m).bind (perform rest)

/-- The pool when a run begins. -/
def start (handIns : List HandIn) : Pool := enter Stage.all (handIns.map .ofHandIn)

end Pool

end QueryGrading
