import QueryGrading.Grade.Pool
import QueryGrading.Proofs.Collection
import QueryGrading.Proofs.Grade.Circumstances
import QueryGrading.Proofs.Grade.Placement

/-!
# Schedules

Whatever the order of the moves of a `Pool` is, a task sees the peers as the stage before left them,
some move can be made until the run is over, no run goes on forever, and at the end the submissions
are those of a run that takes them one after another (`perform_eq_run`). The invariant is `Sound`:
the submissions on which the tasks of a stage began are what the stages before it make of the batch,
and every task follows them (`Follows`). One move keeps it (`Sound.move`), so every run of a pool
does.

That is the loop of `run` over the stages with `run_stage` for its body: the snapshot of the peers,
`acquire_owned` on the semaphore, the lock around the backend, `join_all`, and the merge. A pool
with `workers` of zero has one permit.

Three properties of a move are proved, each by the same two cases, the action of one task or the end
of the stage (`move_cases`): it keeps `Sound`, it makes `left` smaller, and it keeps the permits and
the backend within bounds (`Limited`). No fairness is needed for the run to end, as there are only
so many moves.
-/

namespace QueryGrading

namespace Pool

/-! ## 1. What a move can do

Every property of a run is shown by one case for the action of a task and one for the end of a
stage. A run is a list of moves, and what every move keeps a run keeps. -/

variable {g : Grader} {c : Circumstances} {workers : Nat} {parallel : Bool} {pool pool' : Pool}
  {m : Move} {handIns : List HandIn}

/-- **A move is that of one task, or ends the stage.** -/
theorem move_cases (h : move g c workers parallel pool m = some pool') :
    (∃ stage rest i action job task, pool.stages = stage :: rest ∧ pool.jobs[i]? = some job ∧
      job.task.act g c stage pool.peers i (pool.permits < max workers 1)
        (parallel || pool.holders = 0) action = some task ∧
      pool' = { pool with jobs := pool.jobs.set i ⟨job.record, task⟩ }) ∨
    ∃ stage rest, pool.stages = stage :: rest ∧ (∀ job ∈ pool.jobs, job.task.isFinished = true) ∧
      pool' = enter rest (pool.jobs.map (·.settle stage)) := by
  cases m with
  | task i action =>
    simp only [move] at h
    split at h
    · next stage rest job hstages hjob =>
      obtain ⟨task, htask, rfl⟩ := Option.map_eq_some_iff.mp h
      exact .inl ⟨stage, rest, i, action, job, task, hstages, hjob, htask, rfl⟩
    · cases h
  | join =>
    simp only [move] at h
    split at h
    · next stage rest hstages =>
      split at h
      · next hall =>
        cases h
        exact .inr ⟨stage, rest, hstages, List.all_eq_true.mp hall, rfl⟩
      · cases h
    · cases h

/-- What every move keeps, a run keeps. -/
theorem perform_keeps {P : Pool → Prop}
    (hkeeps : ∀ pool m pool', P pool → move g c workers parallel pool m = some pool' → P pool')
    {moves : List Move} (h : P pool)
    (hperform : perform g c workers parallel moves pool = some pool') :
    P pool' := by
  induction moves generalizing pool with
  | nil =>
    cases hperform
    exact h
  | cons m rest ih =>
    obtain ⟨next, hmove, hrest⟩ := Option.bind_eq_some_iff.mp hperform
    exact ih (hkeeps pool m next h hmove) hrest

/-- The submissions on which the tasks of a stage begin. -/
theorem batch_enter (stages : List Stage) (batch : List Submission) :
    (enter stages batch).batch = batch := by
  rw [Pool.batch, enter, List.map_map]
  exact List.map_id batch

/-- The action of a task leaves the submissions as they were. -/
theorem batch_set {i : Nat} {job : Job} (hjob : pool.jobs[i]? = some job) (task : Task) :
    ({ pool with jobs := pool.jobs.set i ⟨job.record, task⟩ } : Pool).batch = pool.batch := by
  obtain ⟨hi, rfl⟩ := List.getElem?_eq_some_iff.mp hjob
  have hi' : i < (pool.jobs.map (·.record)).length := by rwa [List.length_map]
  have hsame : pool.jobs[i].record = (pool.jobs.map (·.record))[i] := (List.getElem_map _).symm
  simp only [Pool.batch, List.map_set]
  rw [hsame, List.set_getElem_self]

/-! ## 2. What tasks see and leave

The copy on which a task works and the peers at which it looks are both those from the beginning of
the stage, so no move of another task is seen. -/

/-- A task works on its own copy of the submission, has looked at no other peers than these, and has
left what the stage makes of the submission with them. -/
def Follows (g : Grader) (c : Circumstances) (stage : Stage) (peers : List Peer) (i : Nat)
    (record : Submission) : Task → Prop
  | .waiting own => own = record
  | .running own seen? _ => own = record ∧ ∀ seen ∈ seen?, seen = peers
  | .finished result => result = g.task c stage peers i record

/-- **One action.** A task that follows its submission goes on to do so. -/
theorem Follows.act {stage : Stage} {peers : List Peer} {i : Nat} {record : Submission}
    {permit backend : Bool} {action : Action} {task task' : Task}
    (h : Follows g c stage peers i record task)
    (hact : task.act g c stage peers i permit backend action = some task') :
    Follows g c stage peers i record task' := by
  unfold Task.act at hact
  split at hact
  · -- start: the task gets a copy and has seen nothing
    obtain ⟨-, hrunning⟩ := Option.ite_none_right_eq_some.mp hact
    cases hrunning
    exact ⟨h, nofun⟩
  · cases hact
    refine ⟨h.1, ?_⟩
    rintro _ ⟨⟩
    rfl
  · obtain ⟨-, hrunning⟩ := Option.ite_none_right_eq_some.mp hact
    cases hrunning
    exact h
  · cases hact
    exact h
  · next own seen access =>
    cases hact
    -- finish: what is computed depends on the copy and on the peers that were seen
    rw [Follows, h.1, h.2 seen rfl]
  · cases hact

/-- What is left by a task that has finished is what the stage makes of the submission. -/
theorem Follows.settle {stage : Stage} {peers : List Peer} {i : Nat} {job : Job}
    (h : Follows g c stage peers i job.record job.task) (hfinished : job.task.isFinished = true) :
    job.settle stage = g.stepAt c stage peers i job.record := by
  rcases job with ⟨record, _ | _ | ⟨done, fault?⟩⟩
  · cases hfinished
  · cases hfinished
  · rw [Follows] at h
    rw [Grader.stepAt, ← h]
    cases fault? <;> rfl

/-- A pool on its way through a run: the submissions are those of `Grader.afterUnder`, the peers are
taken from them, and every task follows them. -/
structure Sound (g : Grader) (c : Circumstances) (handIns : List HandIn) (pool : Pool) : Prop where
  batch : ∃ before, before ++ pool.stages = Stage.all ∧ pool.batch = g.afterUnder c before handIns
  peers : pool.peers = pool.batch.map (·.toPeer)
  follows : ∀ stage ∈ pool.stages.head?, ∀ i, ∀ job ∈ pool.jobs[i]?,
    Follows g c stage pool.peers i job.record job.task

/-- A stage that begins takes its peers from the submissions that the stages before it left. -/
theorem sound_enter {before stages : List Stage} (h : before ++ stages = Stage.all) :
    Sound g c handIns (enter stages (g.afterUnder c before handIns)) where
  batch := ⟨before, h, batch_enter _ _⟩
  peers := by
    rw [batch_enter]
    rfl
  follows stage _ i job hjob := by
    obtain ⟨s, -, rfl⟩ := List.mem_map.mp (List.mem_of_getElem? hjob)
    rfl

theorem sound_start (g : Grader) (c : Circumstances) (handIns : List HandIn) :
    Sound g c handIns (start handIns) := by
  have hall : [] ++ Stage.all = Stage.all := rfl
  exact sound_enter hall

/-- When a stage ends, every submission is what the stage makes of it. -/
theorem Sound.settle (h : Sound g c handIns pool) {stage : Stage} {rest : List Stage}
    (hstages : pool.stages = stage :: rest)
    (hfinished : ∀ job ∈ pool.jobs, job.task.isFinished = true) :
    pool.jobs.map (·.settle stage) = g.stepUnder c pool.batch stage := by
  have hhead : stage ∈ pool.stages.head? := by
    rw [hstages]
    rfl
  refine List.ext_getElem? fun i => ?_
  rw [Grader.getElem?_stepUnder, ← h.peers, Pool.batch, List.getElem?_map, List.getElem?_map,
    Option.map_map]
  refine Option.map_congr fun job hjob => ?_
  exact (h.follows stage hhead i job hjob).settle (hfinished job (List.mem_of_getElem? hjob))

/-- **One move.**  Whatever happens next, the pool is on its way through the run. -/
theorem Sound.move (h : Sound g c handIns pool)
    (hmove : move g c workers parallel pool m = some pool') : Sound g c handIns pool' := by
  rcases move_cases hmove with
    ⟨stage, rest, i, action, job, task, hstages, hjob, hact, rfl⟩ |
    ⟨stage, rest, hstages, hall, rfl⟩
  · -- within a stage nothing changes but one task, which reads the peers and no other job
    have hbatch := batch_set hjob task
    refine ⟨?_, ?_, fun stage' hstage' k job' hjob' => ?_⟩
    · rw [hbatch]
      exact h.batch
    · rw [hbatch]
      exact h.peers
    · obtain rfl : stage = stage' := by simpa [hstages] using hstage'
      rw [List.getElem?_set] at hjob'
      split at hjob'
      · next hik =>
        subst hik
        obtain ⟨-, hsome⟩ := Option.ite_none_right_eq_some.mp hjob'
        cases hsome
        exact (h.follows stage hstage' i job hjob).act hact
      · -- all other tasks are as they were
        exact h.follows stage hstage' k job' hjob'
  · obtain ⟨before, hbefore, hbatch⟩ := h.batch
    have hafter : g.stepUnder c pool.batch stage = g.afterUnder c (before ++ [stage]) handIns := by
      rw [hbatch, Grader.afterUnder, Grader.afterUnder, List.foldl_append]
      rfl
    rw [h.settle hstages hall, hafter]
    refine sound_enter ?_
    rw [List.append_assoc, List.singleton_append, ← hstages, hbefore]

/-! ## 3. Some move can be made

A task that has a permit can always go on, one that waits can begin if a permit is free, and when
all have finished the stage can end. -/

/-- A task that runs can look at the peers, give back the backend, or finish. -/
theorem exists_move_of_hasPermit {stage : Stage} {rest : List Stage} {job : Job}
    (hstages : pool.stages = stage :: rest) (hjob : job ∈ pool.jobs)
    (hpermit : job.task.hasPermit = true) :
    ∃ m pool', move g c workers parallel pool m = some pool' := by
  obtain ⟨i, hi⟩ := List.mem_iff_getElem?.mp hjob
  rcases job with ⟨record, _ | ⟨own, _ | seen, access⟩ | _⟩
  · cases hpermit
  · exact ⟨.task i .look, _, by rw [move, hstages, hi]; rfl⟩
  · exact ⟨.task i .finish, _, by rw [move, hstages, hi]; rfl⟩
  · cases hpermit

/-- **Until the run is over, some move can be made**: a task that runs can go on, a permit is free
if none does, and the stage ends if all have finished. -/
theorem exists_move (h : pool.stages ≠ []) :
    ∃ m pool', move g c workers parallel pool m = some pool' := by
  obtain ⟨stage, rest, hstages⟩ := List.exists_cons_of_ne_nil h
  by_cases hall : pool.jobs.all (·.task.isFinished) = true
  · exact ⟨.join, _, by rw [move, hstages]; exact if_pos hall⟩
  · by_cases hruns : ∃ job ∈ pool.jobs, job.task.hasPermit = true
    · obtain ⟨job, hjob, hpermit⟩ := hruns
      exact exists_move_of_hasPermit hstages hjob hpermit
    · -- no task runs, so there is a permit for one that waits
      obtain ⟨⟨record, task⟩, hjob, hwaits⟩ : ∃ job ∈ pool.jobs, ¬ job.task.isFinished = true := by
        simpa using hall
      obtain ⟨i, hi⟩ := List.mem_iff_getElem?.mp hjob
      have hnone : pool.permits = 0 := by
        rw [permits, List.countP_eq_zero]
        exact fun job hjob hpermit => hruns ⟨job, hjob, hpermit⟩
      have hfree : pool.permits < max workers 1 := by omega
      rcases task with own | ⟨own, seen?, access⟩ | result
      · let job : Job := ⟨record, .running own none .untouched⟩
        exact ⟨.task i .start, { pool with jobs := pool.jobs.set i job },
          by simp [move, hstages, hi, hfree, Task.act, job]⟩
      · exact absurd ⟨_, hjob, rfl⟩ hruns
      · exact absurd rfl hwaits

/-! ## 4. No run goes on forever

The actions of all tasks, now and in the stages to come, are a bound on the moves that are left. -/

/-- The moves that are left at most: the actions of the tasks, and for this stage and each later one
its end, with all actions of its tasks. -/
def left (pool : Pool) : Nat :=
  match pool.stages with
  | [] => 0
  | _ :: rest =>
    total (pool.jobs.map (·.task.left)) + 1 + rest.length * (pool.jobs.length * 5 + 1)

/-- An action of a task leaves it fewer actions. -/
theorem left_act {stage : Stage} {peers : List Peer} {i : Nat} {permit backend : Bool}
    {action : Action} {task task' : Task}
    (hact : task.act g c stage peers i permit backend action = some task') :
    task'.left < task.left := by
  unfold Task.act at hact
  split at hact
  · obtain ⟨-, hrunning⟩ := Option.ite_none_right_eq_some.mp hact
    cases hrunning
    simp [Task.left, Access.left]
  · cases hact
    simp only [Task.left]
    omega
  · next own seen? =>
    obtain ⟨-, hrunning⟩ := Option.ite_none_right_eq_some.mp hact
    cases hrunning
    cases seen? <;> simp [Task.left, Access.left]
  · next own seen? =>
    cases hact
    cases seen? <;> simp [Task.left, Access.left]
  · cases hact
    simp only [Task.left]
    omega
  · cases hact

theorem total_set_lt {α : Type} {f : α → Nat} {y : α} : ∀ {xs : List α} {i : Nat} {x : α},
    xs[i]? = some x → f y < f x → total ((xs.set i y).map f) < total (xs.map f)
  | [], _, _, h, _ => nomatch h
  | x :: rest, 0, _, h, hlt => by
    cases h
    simp only [List.set_cons_zero, List.map_cons, total]
    omega
  | x :: rest, i + 1, _, h, hlt => by
    have hrest : total ((rest.set i y).map f) < total (rest.map f) := total_set_lt h hlt
    simp only [List.set_cons_succ, List.map_cons, total]
    omega

/-- Five actions for each submission, and the end, for every stage that is left. -/
theorem left_enter_le (stages : List Stage) (batch : List Submission) :
    (enter stages batch).left ≤ stages.length * (batch.length * 5 + 1) := by
  cases stages with
  | nil => exact Nat.zero_le _
  | cons stage rest =>
    have hlength : (enter (stage :: rest) batch).jobs.length = batch.length := List.length_map _
    have hwaiting : ∀ job ∈ (enter (stage :: rest) batch).jobs, job.task.left ≤ 5 := by
      intro job hjob
      obtain ⟨s, -, rfl⟩ := List.mem_map.mp hjob
      exact Nat.le_refl 5
    have htotal := total_map_le hwaiting
    rw [hlength] at htotal
    have hleft : (enter (stage :: rest) batch).left =
        total ((enter (stage :: rest) batch).jobs.map (·.task.left)) + 1 +
          rest.length * ((enter (stage :: rest) batch).jobs.length * 5 + 1) := rfl
    rw [hleft, hlength, List.length_cons, Nat.add_one_mul rest.length]
    omega

/-- **One move.**  There is one less to make, or fewer. -/
theorem left_move (hmove : move g c workers parallel pool m = some pool') :
    pool'.left < pool.left := by
  rcases move_cases hmove with
    ⟨stage, rest, i, action, job, task, hstages, hjob, hact, rfl⟩ |
    ⟨stage, rest, hstages, -, rfl⟩
  · have htotal : total ((pool.jobs.set i ⟨job.record, task⟩).map (·.task.left)) <
        total (pool.jobs.map (·.task.left)) := total_set_lt hjob (left_act hact)
    simp only [left, hstages, List.length_set]
    omega
  · have hnext := left_enter_le rest (pool.jobs.map (·.settle stage))
    rw [List.length_map] at hnext
    refine hnext.trans_lt ?_
    simp only [left, hstages]
    omega

/-- **A run has no more moves than are left when it begins.** -/
theorem length_add_left {moves : List Move}
    (hperform : perform g c workers parallel moves pool = some pool') :
    moves.length + pool'.left ≤ pool.left := by
  induction moves generalizing pool with
  | nil =>
    cases hperform
    rw [List.length_nil, Nat.zero_add]
  | cons m rest ih =>
    obtain ⟨next, hmove, hrest⟩ := Option.bind_eq_some_iff.mp hperform
    have hlater := ih hrest
    have hnow := left_move hmove
    rw [List.length_cons]
    omega

/-! ## 5. Permits and the backend

Permits and the backend are counted by the tasks that hold them; only an action that finds one free
takes it. -/

/-- One entry that changes keeps a bound on how many there are of a kind, if it was of that kind or
the bound was not reached. -/
theorem countP_set_le {α : Type} {p : α → Bool} {xs : List α} {i bound : Nat} {x y : α}
    (hx : xs[i]? = some x) (hle : xs.countP p ≤ bound)
    (hy : p y = true → p x = true ∨ xs.countP p < bound) : (xs.set i y).countP p ≤ bound := by
  obtain ⟨hi, rfl⟩ := List.getElem?_eq_some_iff.mp hx
  rw [List.countP_set hi]
  by_cases hp : p xs[i] = true
  · have hpos : 0 < xs.countP p := List.countP_pos_iff.mpr ⟨_, List.getElem_mem hi, hp⟩
    rw [if_pos hp]
    split <;> omega
  · rw [if_neg hp]
    split
    · next hpy => have := (hy hpy).resolve_left hp; omega
    · omega

/-- A task comes by a permit or by the backend only if it is free. -/
theorem holds_act {stage : Stage} {peers : List Peer} {i : Nat} {permit backend : Bool}
    {action : Action} {task task' : Task}
    (hact : task.act g c stage peers i permit backend action = some task') :
    (task'.hasPermit = true → task.hasPermit = true ∨ permit = true) ∧
      (task'.hasBackend = true → task.hasBackend = true ∨ backend = true) := by
  unfold Task.act at hact
  split at hact
  · obtain ⟨hpermit, hrunning⟩ := Option.ite_none_right_eq_some.mp hact
    cases hrunning
    exact ⟨fun _ => .inr hpermit, nofun⟩
  · next own access =>
    cases hact
    refine ⟨fun _ => .inl rfl, fun hheld => .inl ?_⟩
    cases access <;> exact hheld
  · obtain ⟨hbackend, hrunning⟩ := Option.ite_none_right_eq_some.mp hact
    cases hrunning
    exact ⟨fun _ => .inl rfl, fun _ => .inr hbackend⟩
  · cases hact
    exact ⟨fun _ => .inl rfl, nofun⟩
  · cases hact
    exact ⟨nofun, nofun⟩
  · cases hact

/-- No more tasks run than there are permits, and a backend that is not parallel serves one. -/
structure Limited (workers : Nat) (parallel : Bool) (pool : Pool) : Prop where
  permits : pool.permits ≤ max workers 1
  holders : parallel = false → pool.holders ≤ 1

theorem limited_enter (stages : List Stage) (batch : List Submission) :
    Limited workers parallel (enter stages batch) where
  permits := by
    have hnone : (enter stages batch).permits = 0 := List.countP_eq_zero.mpr fun job hjob => by
      obtain ⟨s, -, rfl⟩ := List.mem_map.mp hjob
      nofun
    rw [hnone]
    exact Nat.zero_le _
  holders _ := by
    have hnone : (enter stages batch).holders = 0 := List.countP_eq_zero.mpr fun job hjob => by
      obtain ⟨s, -, rfl⟩ := List.mem_map.mp hjob
      nofun
    rw [hnone]
    exact Nat.zero_le _

theorem Limited.move (h : Limited workers parallel pool)
    (hmove : move g c workers parallel pool m = some pool') : Limited workers parallel pool' := by
  rcases move_cases hmove with
    ⟨stage, rest, i, action, job, task, hstages, hjob, hact, rfl⟩ |
    ⟨stage, rest, hstages, -, rfl⟩
  · obtain ⟨hpermit, hbackend⟩ := holds_act hact
    refine ⟨countP_set_le hjob h.permits fun hp => ?_, fun hserial =>
      countP_set_le hjob (h.holders hserial) fun hp => ?_⟩
    · exact (hpermit hp).imp id of_decide_eq_true
    · refine (hbackend hp).imp id fun hfree => ?_
      rw [hserial, Bool.false_or] at hfree
      have hnone : pool.holders = 0 := of_decide_eq_true hfree
      rw [Pool.holders] at hnone
      omega
  · exact limited_enter _ _

/-! ## 6. The whole run

The properties of moves are put together for runs of any length, and for the last state of a run
that is over. -/

/-- **The schedule does not matter.**  Whatever moves a run of a pool consists of, in whatever
circumstances, for any number of workers and either kind of backend: the permits and the backend are
kept to; no task has looked at anything that was written in its own stage, for what it has seen are
the peers as the stages before left them; until the run is over some move can be made, and there are
so many moves at most; and once it is over the submissions are those of the run that takes them one
after another. With one engine for all tasks that is `Grader.run`. -/
theorem perform_eq_run (g : Grader) (c : Circumstances) (workers : Nat) (parallel : Bool)
    (handIns : List HandIn) {moves : List Move} {pool : Pool}
    (h : perform g c workers parallel moves (start handIns) = some pool) :
    Limited workers parallel pool ∧
      (∀ stage rest, pool.stages = stage :: rest → ∀ job ∈ pool.jobs, ∀ seen ∈ job.task.seen?,
        ∃ before, before ++ stage :: rest = Stage.all ∧
          seen = (g.afterUnder c before handIns).map (·.toPeer)) ∧
      (pool.stages ≠ [] → ∃ m pool', move g c workers parallel pool m = some pool') ∧
      moves.length ≤ 5 * (handIns.length * 5 + 1) ∧
      (pool.stages = [] → pool.batch = g.runUnder c handIns ∧
        (c = .steady g.engine → pool.batch = g.run handIns)) := by
  have hsound : Sound g c handIns pool :=
    perform_keeps (fun _ _ _ hpool hmove => hpool.move hmove) (sound_start g c handIns) h
  have hlimited : Limited workers parallel pool :=
    perform_keeps (fun _ _ _ hpool hmove => hpool.move hmove) (limited_enter _ _) h
  obtain ⟨before, hbefore, hbatch⟩ := hsound.batch
  refine ⟨hlimited, fun stage rest hstages job hjob seen hseen => ?_,
    exists_move, ?_, fun hover => ?_⟩
  · have hhead : stage ∈ pool.stages.head? := by
      rw [hstages]
      rfl
    -- a task that runs has seen the peers of its stage; others have seen none
    have hpeers : seen = pool.peers := by
      obtain ⟨i, hi⟩ := List.mem_iff_getElem?.mp hjob
      have hfollows := hsound.follows stage hhead i job hi
      rcases job with ⟨record, _ | ⟨own, seen?, access⟩ | _⟩
      · cases hseen
      · exact hfollows.2 seen hseen
      · cases hseen
    exact ⟨before, hstages ▸ hbefore, by rw [hpeers, hsound.peers, hbatch]⟩
  · have hstart := left_enter_le Stage.all (handIns.map .ofHandIn)
    rw [List.length_map] at hstart
    exact (Nat.le_of_add_right_le (length_add_left h)).trans hstart
  · -- no stage is left, so all of them lie before
    rw [hover, List.append_nil] at hbefore
    have hrun : pool.batch = g.runUnder c handIns := by
      rw [hbatch, hbefore]
      rfl
    refine ⟨hrun, ?_⟩
    rintro rfl
    rw [hrun, Grader.runUnder_steady]

open Grader (creditGrader misspelled assertionEngine)

/-- Two tasks of a stage at once; the second starts, uses the backend and finishes first. -/
def backwards : List Move :=
  [.task 1 .start, .task 0 .start, .task 1 .look, .task 1 .acquire, .task 0 .look, .task 1 .release,
    .task 0 .acquire, .task 1 .finish, .task 0 .finish, .join]

/-- Two workers take the two statements in the wrong order in each of the five stages. -/
theorem perform_eq_run_backwards :
    ∃ pool, perform creditGrader (.steady assertionEngine) 2 false
        (List.replicate 5 backwards).flatten (start misspelled) = some pool ∧
      pool.stages = [] ∧ pool.batch = creditGrader.run misspelled := by
  have hstages : (perform creditGrader (.steady assertionEngine) 2 false
      (List.replicate 5 backwards).flatten (start misspelled)).map (·.stages) = some [] := by
    decide +kernel
  obtain ⟨pool, hpool, hover⟩ := Option.map_eq_some_iff.mp hstages
  obtain ⟨-, hrun⟩ :=
    (perform_eq_run creditGrader (.steady assertionEngine) 2 false misspelled hpool).2.2.2.2 hover
  exact ⟨pool, hpool, hover, hrun rfl⟩

end Pool

end QueryGrading
