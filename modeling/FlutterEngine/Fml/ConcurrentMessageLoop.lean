import Mathlib.Algebra.BigOperators.Fin
import Mathlib.Algebra.BigOperators.Pi
import Mathlib.Tactic.Abel
import FlutterEngine.Std.Machine

/-!
# The concurrent message loop

`ConcurrentMessageLoop` of `concurrent_message_loop.cc`, one section under the tasks mutex
or one task at a time. Calls may come from anywhere and at any time, from inside tasks too.
A worker that has seen the shutdown flag takes one more task and leaves, so after
`Terminate` the workers take at most one task each.
-/

namespace FlutterEngine.Fml

open FlutterEngine.Std

/-- Where a worker is in `WorkerMain`. -/
inductive Worker (τ : Type) where
  /-- At the mutex or at the condition. -/
  | waiting
  /-- With what it took under the mutex and has not executed yet. -/
  | running (shutdownNow : Bool) (task : Option τ) (threadTasks : List τ)
  | exited
deriving DecidableEq, Repr

/-- The last five fields record what was posted, what was executed, and how many tasks were
queued when `Terminate` was called first. A closure that is null is none; a worker without
an entry in `thread_tasks_` has no thread tasks. -/
structure ConcurrentMessageLoop (τ : Type) (workerCount : Nat) where
  tasks : List τ := []
  threadTasks : Fin workerCount → List τ := fun _ => []
  shutdown : Bool := false
  workers : Fin workerCount → Worker τ := fun _ => .waiting
  posted : List τ := []
  postedToAll : List τ := []
  executed : List τ := []
  executedBy : Fin workerCount → List τ := fun _ => []
  queuedAtTerminate : Option Nat := none

namespace ConcurrentMessageLoop

variable {τ : Type} {workerCount : Nat} (loop : ConcurrentMessageLoop τ workerCount)

/-- `PostTask`; after the shutdown the caller executes the task. -/
def postTask (task : Option τ) : ConcurrentMessageLoop τ workerCount :=
  match task with
  | none => loop
  | some task =>
    if loop.shutdown then
      { loop with posted := loop.posted ++ [task], executed := loop.executed ++ [task] }
    else { loop with posted := loop.posted ++ [task], tasks := loop.tasks ++ [task] }

def postTaskToAllWorkers (task : Option τ) : ConcurrentMessageLoop τ workerCount :=
  match task with
  | none => loop
  | some task =>
    { loop with
      postedToAll := loop.postedToAll ++ [task]
      threadTasks := fun worker => loop.threadTasks worker ++ [task] }

def terminate : ConcurrentMessageLoop τ workerCount :=
  { loop with
    shutdown := true
    queuedAtTerminate := loop.queuedAtTerminate <|> some loop.tasks.length }

/-- The section of `WorkerMain` under the mutex, once the predicate of the wait holds. -/
def wake (worker : Fin workerCount) : Option (ConcurrentMessageLoop τ workerCount) :=
  match loop.workers worker with
  | .waiting =>
    if loop.tasks.isEmpty && !loop.shutdown && (loop.threadTasks worker).isEmpty then none
    else
      some { loop with
        tasks := loop.tasks.tail
        threadTasks := Function.update loop.threadTasks worker []
        workers := Function.update loop.workers worker
          (.running loop.shutdown loop.tasks.head? (loop.threadTasks worker)) }
  | _ => none

/-- Execute the task, or the next of the thread tasks. -/
def executeTask (worker : Fin workerCount) : Option (ConcurrentMessageLoop τ workerCount) :=
  match loop.workers worker with
  | .running shutdownNow (some task) threadTasks =>
    some { loop with
      executed := loop.executed ++ [task]
      workers := Function.update loop.workers worker (.running shutdownNow none threadTasks) }
  | .running shutdownNow none (task :: threadTasks) =>
    some { loop with
      executedBy := Function.update loop.executedBy worker (loop.executedBy worker ++ [task])
      workers := Function.update loop.workers worker (.running shutdownNow none threadTasks) }
  | _ => none

/-- Leave the loop, or go round. -/
def finishPass (worker : Fin workerCount) : Option (ConcurrentMessageLoop τ workerCount) :=
  match loop.workers worker with
  | .running shutdownNow none [] =>
    some { loop with
      workers := Function.update loop.workers worker (if shutdownNow then .exited else .waiting) }
  | _ => none

/-- The calls and the steps of the workers. -/
inductive Op (τ : Type) (workerCount : Nat) where
  | postTask (task : Option τ)
  | postTaskToAllWorkers (task : Option τ)
  | terminate
  | wake (worker : Fin workerCount)
  | executeTask (worker : Fin workerCount)
  | finishPass (worker : Fin workerCount)

def step : Op τ workerCount → Option (ConcurrentMessageLoop τ workerCount)
  | .postTask task => some (loop.postTask task)
  | .postTaskToAllWorkers task => some (loop.postTaskToAllWorkers task)
  | .terminate => some loop.terminate
  | .wake worker => loop.wake worker
  | .executeTask worker => loop.executeTask worker
  | .finishPass worker => loop.finishPass worker

/-- A loop created for so many workers, of which there is at least one. -/
def machine (τ : Type) (workerCount : Nat) :
    Machine (ConcurrentMessageLoop τ (max workerCount 1)) (Op τ (max workerCount 1)) where
  Initial loop := loop = {}
  step := step

/-- Posts come before `Terminate`. -/
def BeforeTerminate : Op τ workerCount → Prop
  | .postTask _ | .postTaskToAllWorkers _ => loop.shutdown = false
  | _ => True

instance : DecidablePred (α := Op τ workerCount) loop.BeforeTerminate
  | .postTask _ | .postTaskToAllWorkers _ => inferInstanceAs (Decidable (_ = _))
  | .terminate | .wake _ | .executeTask _ | .finishPass _ => .isTrue trivial

/-- Every posted task has been executed once, every task posted to all once per worker. -/
def ExecutedOnce : Prop :=
  loop.executed.Perm loop.posted ∧
    ∀ worker, (loop.executedBy worker).Perm loop.postedToAll

/-- No more tasks were queued than there are workers when `Terminate` was called. -/
def TerminatedInTime : Prop := ∃ queued ∈ loop.queuedAtTerminate, queued ≤ workerCount

end ConcurrentMessageLoop

namespace Worker

variable {τ : Type} (worker : Worker τ)

/-- The task of the queue that the worker has taken. -/
def held : Multiset τ :=
  match worker with
  | running _ (some task) _ => {task}
  | _ => 0

/-- The thread tasks that the worker has taken. -/
def heldThreadTasks : List τ :=
  match worker with
  | running _ _ threadTasks => threadTasks
  | _ => []

/-- The worker has taken its last tasks. -/
def leaving : Bool :=
  match worker with
  | waiting => false
  | running shutdownNow _ _ => shutdownNow
  | exited => true

end Worker

namespace ConcurrentMessageLoop

/-! ## Accounts over the workers -/

/-- One member's share in a sum changes by itself. -/
theorem sum_update {Index Member Sum : Type} [Fintype Index] [DecidableEq Index]
    [AddCommMonoid Sum] (share : Member → Sum) (members : Index → Member) (index : Index)
    (member : Member) :
    share (members index) + ∑ other, share (Function.update members index member other) =
      share member + ∑ other, share (members other) := by
  have others : ∑ other ∈ Finset.univ.erase index,
      share (Function.update members index member other) =
        ∑ other ∈ Finset.univ.erase index, share (members other) :=
    Finset.sum_congr rfl fun other elsewhere => by
      rw [Function.update_of_ne (Finset.ne_of_mem_erase elsewhere)]
  rw [← Finset.add_sum_erase _ _ (Finset.mem_univ index), Function.update_self, others,
    ← Finset.add_sum_erase _ (fun other => share (members other)) (Finset.mem_univ index)]
  exact add_left_comm _ _ _

variable {τ : Type} {workerCount : Nat} (loop : ConcurrentMessageLoop τ workerCount)

/-- How many workers have taken their last tasks. -/
def leavers : Nat := ∑ worker, if (loop.workers worker).leaving then 1 else 0

/-- What holds of the loop and its records in every run. -/
structure Accounted : Prop where
  /-- A posted task is queued, taken or executed. -/
  shared : (loop.posted : Multiset τ) =
    loop.executed + loop.tasks + ∑ worker, (loop.workers worker).held
  /-- A task posted to all is pending, taken or executed at each worker. -/
  toAll : ∀ worker, loop.postedToAll = loop.executedBy worker ++
    (loop.workers worker).heldThreadTasks ++ loop.threadTasks worker
  /-- Workers leave when `Terminate` has been called, and each takes one task along. -/
  running : loop.shutdown = false → loop.queuedAtTerminate = none ∧ loop.leavers = 0
  terminated : loop.shutdown = true →
    ∃ queued, loop.queuedAtTerminate = some queued ∧ loop.tasks.length = queued - loop.leavers
  /-- A worker that leaves has taken all of its thread tasks. -/
  left : ∀ worker, (loop.workers worker).leaving = true → loop.threadTasks worker = []

variable {loop} {next : ConcurrentMessageLoop τ workerCount}

theorem held_update (workers : Fin workerCount → Worker τ) (worker : Fin workerCount)
    (changed : Worker τ) :
    (workers worker).held + ∑ other, (Function.update workers worker changed other).held =
      changed.held + ∑ other, (workers other).held :=
  sum_update Worker.held workers worker changed

theorem leavers_update (worker : Fin workerCount) (changed : Worker τ)
    (workers : next.workers = Function.update loop.workers worker changed) :
    (if (loop.workers worker).leaving then 1 else 0) + next.leavers =
      (if changed.leaving then 1 else 0) + loop.leavers := by
  rw [leavers, workers]
  exact sum_update (fun worker => if worker.leaving then 1 else 0) loop.workers worker changed

theorem not_leaving_of_leavers (nobody : loop.leavers = 0) (worker : Fin workerCount) :
    ¬(loop.workers worker).leaving = true := by
  intro leaving
  have share := Finset.sum_eq_zero_iff.mp nobody worker (Finset.mem_univ worker)
  rw [if_pos leaving] at share
  exact Nat.one_ne_zero share

/-! ## The calls -/

theorem Accounted.postTask (accounted : loop.Accounted) (task : Option τ) :
    (loop.postTask task).Accounted := by
  cases task with
  | none => exact accounted
  | some task =>
    obtain ⟨shared, toAll, running, terminated, left⟩ := accounted
    by_cases shutdown : loop.shutdown = true
    · have onCaller : loop.postTask (some task) =
          { loop with
            posted := loop.posted ++ [task], executed := loop.executed ++ [task] } := if_pos shutdown
      rw [onCaller]
      refine ⟨?_, toAll, running, terminated, left⟩
      simp only [← Multiset.coe_add, shared]
      abel
    · have queued : loop.postTask (some task) =
          { loop with posted := loop.posted ++ [task], tasks := loop.tasks ++ [task] } :=
        if_neg shutdown
      rw [queued]
      refine ⟨?_, toAll, running, fun closed => absurd closed shutdown, left⟩
      simp only [← Multiset.coe_add, shared]
      abel

theorem Accounted.postTaskToAllWorkers (accounted : loop.Accounted) (task : Option τ)
    (before : loop.shutdown = false) : (loop.postTaskToAllWorkers task).Accounted := by
  cases task with
  | none => exact accounted
  | some task =>
    obtain ⟨shared, toAll, running, terminated, left⟩ := accounted
    refine ⟨shared, fun worker => ?_, running, terminated, fun worker leaving => ?_⟩
    · change loop.postedToAll ++ [task] = _ ++ (loop.threadTasks worker ++ [task])
      rw [toAll worker, List.append_assoc, List.append_assoc, List.append_assoc]
      rfl
    · -- Nobody leaves before `Terminate`.
      exact absurd leaving (not_leaving_of_leavers (running before).2 worker)

theorem Accounted.terminate (accounted : loop.Accounted) : loop.terminate.Accounted := by
  obtain ⟨shared, toAll, running, terminated, left⟩ := accounted
  refine ⟨shared, toAll, fun closed => Bool.noConfusion closed, fun _ => ?_, left⟩
  cases shutdown : loop.shutdown with
  | true =>
    obtain ⟨queued, recorded, length⟩ := terminated shutdown
    exact ⟨queued, by rw [ConcurrentMessageLoop.terminate, recorded]; rfl, length⟩
  | false =>
    obtain ⟨fresh, nobody⟩ := running shutdown
    refine ⟨loop.tasks.length, ?_, ?_⟩
    · rw [ConcurrentMessageLoop.terminate, fresh]
      rfl
    · change loop.tasks.length = loop.tasks.length - loop.leavers
      rw [nobody, Nat.sub_zero]

/-! ## The steps of a worker -/

variable {worker : Fin workerCount}

theorem wake_cases (wakes : loop.wake worker = some next) :
    loop.workers worker = .waiting ∧
      next = { loop with
        tasks := loop.tasks.tail
        threadTasks := Function.update loop.threadTasks worker []
        workers := Function.update loop.workers worker
          (.running loop.shutdown loop.tasks.head? (loop.threadTasks worker)) } := by
  unfold wake at wakes
  split at wakes
  · next waiting =>
      split at wakes
      · cases wakes
      · exact ⟨waiting, (Option.some_inj.mp wakes).symm⟩
  · cases wakes

theorem executeTask_cases (executes : loop.executeTask worker = some next) :
    ∃ shutdownNow threadTasks,
      (∃ task, loop.workers worker = .running shutdownNow (some task) threadTasks ∧
        next = { loop with
          executed := loop.executed ++ [task]
          workers := Function.update loop.workers worker (.running shutdownNow none threadTasks) }) ∨
      ∃ task, loop.workers worker = .running shutdownNow none (task :: threadTasks) ∧
        next = { loop with
          executedBy := Function.update loop.executedBy worker (loop.executedBy worker ++ [task])
          workers := Function.update loop.workers worker (.running shutdownNow none threadTasks) } := by
  unfold executeTask at executes
  split at executes
  · next shutdownNow task threadTasks running =>
      exact ⟨shutdownNow, threadTasks, .inl ⟨task, running, (Option.some_inj.mp executes).symm⟩⟩
  · next shutdownNow task threadTasks running =>
      exact ⟨shutdownNow, threadTasks, .inr ⟨task, running, (Option.some_inj.mp executes).symm⟩⟩
  · cases executes

theorem finishPass_cases (finishes : loop.finishPass worker = some next) :
    ∃ shutdownNow, loop.workers worker = .running shutdownNow none [] ∧
      next = { loop with
        workers := Function.update loop.workers worker
          (if shutdownNow then .exited else .waiting) } := by
  unfold finishPass at finishes
  split at finishes
  · next shutdownNow running => exact ⟨shutdownNow, running, (Option.some_inj.mp finishes).symm⟩
  · cases finishes

/-- A step of a worker that neither comes to leave nor touches the queues. -/
theorem Accounted.ofWorker (accounted : loop.Accounted) {changed : Worker τ}
    (workers : next.workers = Function.update loop.workers worker changed)
    (same : changed.leaving = (loop.workers worker).leaving) (tasks : next.tasks = loop.tasks)
    (threadTasks : next.threadTasks = loop.threadTasks) (shutdown : next.shutdown = loop.shutdown)
    (queued : next.queuedAtTerminate = loop.queuedAtTerminate)
    (shared : (next.posted : Multiset τ) =
      next.executed + next.tasks + ∑ worker, (next.workers worker).held)
    (toAll : ∀ worker, next.postedToAll = next.executedBy worker ++
      (next.workers worker).heldThreadTasks ++ next.threadTasks worker) : next.Accounted := by
  have leavers : next.leavers = loop.leavers := by
    have counts := leavers_update worker changed workers
    rw [same] at counts
    exact Nat.add_left_cancel counts
  refine ⟨shared, toAll, ?_, ?_, ?_⟩
  · rw [shutdown, queued, leavers]
    exact accounted.running
  · rw [shutdown, queued, leavers, tasks]
    exact accounted.terminated
  · intro other leaving
    rw [workers] at leaving
    rw [threadTasks]
    by_cases here : other = worker
    · subst here
      rw [Function.update_self, same] at leaving
      exact accounted.left other leaving
    · rw [Function.update_of_ne here] at leaving
      exact accounted.left other leaving

theorem Accounted.executeTask (accounted : loop.Accounted)
    (executes : loop.executeTask worker = some next) : next.Accounted := by
  obtain ⟨shutdownNow, threadTasks, ⟨task, running, rfl⟩ | ⟨task, running, rfl⟩⟩ :=
    executeTask_cases executes
  · have holds := held_update loop.workers worker (.running shutdownNow none threadTasks)
    rw [running] at holds
    change ({task} : Multiset τ) + _ = 0 + _ at holds
    refine accounted.ofWorker rfl (by rw [running]; rfl) rfl rfl rfl rfl ?_ fun other => ?_
    · dsimp only
      rw [accounted.shared, ← Multiset.coe_add, ← zero_add (∑ other, (loop.workers other).held),
        ← holds, Multiset.coe_singleton]
      abel
    · dsimp only
      rw [accounted.toAll other]
      by_cases here : other = worker
      · subst here
        rw [Function.update_self, running]
        rfl
      · rw [Function.update_of_ne here]
  · have holds := held_update loop.workers worker (.running shutdownNow none threadTasks)
    rw [running] at holds
    refine accounted.ofWorker rfl (by rw [running]; rfl) rfl rfl rfl rfl ?_ fun other => ?_
    · dsimp only
      rw [accounted.shared]
      exact congrArg _ (add_left_cancel holds).symm
    · dsimp only
      rw [accounted.toAll other]
      by_cases here : other = worker
      · subst here
        rw [Function.update_self, Function.update_self, running]
        simp only [Worker.heldThreadTasks, List.append_assoc, List.cons_append, List.nil_append]
      · rw [Function.update_of_ne here, Function.update_of_ne here]

theorem Accounted.finishPass (accounted : loop.Accounted)
    (finishes : loop.finishPass worker = some next) : next.Accounted := by
  obtain ⟨shutdownNow, running, rfl⟩ := finishPass_cases finishes
  have holds := held_update loop.workers worker (if shutdownNow then .exited else .waiting)
  rw [running] at holds
  refine accounted.ofWorker rfl ?_ rfl rfl rfl rfl ?_ fun other => ?_
  · rw [running]
    cases shutdownNow <;> rfl
  · dsimp only
    rw [accounted.shared]
    refine congrArg _ ?_
    cases shutdownNow <;> exact (add_left_cancel holds).symm
  · dsimp only
    rw [accounted.toAll other]
    by_cases here : other = worker
    · subst here
      rw [Function.update_self, running]
      cases shutdownNow <;> rfl
    · rw [Function.update_of_ne here]

/-- What is taken off a list and what is left of it. -/
theorem coe_head?_tail (tasks : List τ) (shutdownNow : Bool) (threadTasks : List τ) :
    (tasks : Multiset τ) =
      (Worker.running shutdownNow tasks.head? threadTasks).held + (tasks.tail : Multiset τ) := by
  cases tasks with
  | nil => rfl
  | cons task tasks => exact (Multiset.cons_coe task tasks).symm

theorem Accounted.wake (accounted : loop.Accounted)
    (wakes : loop.wake worker = some next) : next.Accounted := by
  obtain ⟨waiting, taken⟩ := wake_cases wakes
  obtain ⟨shared, toAll, running, terminated, left⟩ := accounted
  -- The worker leaves exactly if it has seen the shutdown.
  have counts := leavers_update worker _ (congrArg workers taken)
  rw [waiting] at counts
  change 0 + _ = (if loop.shutdown then 1 else 0) + _ at counts
  rw [zero_add] at counts
  subst taken
  have holds := held_update loop.workers worker
    (.running loop.shutdown loop.tasks.head? (loop.threadTasks worker))
  rw [waiting] at holds
  change 0 + _ = _ at holds
  rw [zero_add] at holds
  refine ⟨?_, fun other => ?_, fun opened => ?_, fun closed => ?_, fun other leaving => ?_⟩
  · dsimp only
    rw [holds, shared, coe_head?_tail loop.tasks loop.shutdown (loop.threadTasks worker)]
    abel
  · dsimp only
    rw [toAll other]
    by_cases here : other = worker
    · subst here
      rw [Function.update_self, Function.update_self, waiting]
      simp only [Worker.heldThreadTasks, List.append_nil]
    · rw [Function.update_of_ne here, Function.update_of_ne here]
  · obtain ⟨fresh, nobody⟩ := running opened
    refine ⟨fresh, ?_⟩
    rw [counts, nobody, opened]
    rfl
  · obtain ⟨queued, recorded, length⟩ := terminated closed
    refine ⟨queued, recorded, ?_⟩
    rw [counts, closed]
    change loop.tasks.tail.length = queued - (1 + loop.leavers)
    rw [List.length_tail, length, Nat.sub_sub, Nat.add_comm]
  · dsimp only at leaving ⊢
    by_cases here : other = worker
    · rw [here, Function.update_self]
    · rw [Function.update_of_ne here] at leaving ⊢
      exact left other leaving

/-! ## Runs -/

theorem accounted_initial : ({} : ConcurrentMessageLoop τ workerCount).Accounted where
  shared := by
    change (0 : Multiset τ) = 0 + 0 + ∑ _worker : Fin workerCount, 0
    rw [Finset.sum_const_zero, add_zero, add_zero]
  toAll _ := rfl
  running _ := ⟨rfl, Finset.sum_eq_zero fun _ _ => rfl⟩
  terminated closed := Bool.noConfusion closed
  left _ _ := rfl

theorem Accounted.step {op : Op τ workerCount} (accounted : loop.Accounted)
    (before : loop.BeforeTerminate op) (transition : loop.step op = some next) : next.Accounted := by
  cases op with
  | postTask task => exact Option.some_inj.mp transition ▸ accounted.postTask task
  | postTaskToAllWorkers task =>
    exact Option.some_inj.mp transition ▸ accounted.postTaskToAllWorkers task before
  | terminate => exact Option.some_inj.mp transition ▸ accounted.terminate
  | wake worker => exact accounted.wake transition
  | executeTask worker => exact accounted.executeTask transition
  | finishPass worker => exact accounted.finishPass transition

theorem reachable_accounted {loop : ConcurrentMessageLoop τ (max workerCount 1)}
    (reached : (machine τ workerCount).Reachable BeforeTerminate loop) : loop.Accounted :=
  reached.invariant _ (fun _ created => created ▸ accounted_initial) fun accounted before transition =>
    accounted.step before transition

/-- Once all workers have exited, what is still queued is what was never executed. -/
theorem Accounted.exited (accounted : loop.Accounted)
    (exited : ∀ worker, loop.workers worker = .exited) :
    (loop.posted : Multiset τ) = loop.executed + loop.tasks ∧
      loop.leavers = workerCount ∧ ∀ worker, loop.executedBy worker = loop.postedToAll := by
  refine ⟨?_, ?_, fun worker => ?_⟩
  · have nothing : ∑ worker, (loop.workers worker).held = 0 :=
      Finset.sum_eq_zero fun worker _ => by rw [exited worker]; rfl
    rw [accounted.shared, nothing, add_zero]
  · have one : ∀ worker ∈ Finset.univ,
        (if (loop.workers worker).leaving = true then 1 else 0) = 1 := fun worker _ => by
      rw [exited worker]
      rfl
    rw [leavers, Finset.sum_congr rfl one, Finset.sum_const, Finset.card_univ, Fintype.card_fin,
      smul_eq_mul, Nat.mul_one]
  · have left : loop.threadTasks worker = [] := accounted.left worker (by rw [exited worker]; rfl)
    rw [accounted.toAll worker, exited worker, left, List.append_nil]
    exact (List.append_nil _).symm

/-- Once all workers have exited, every posted task has been executed exactly once, and every
task posted to all exactly once per worker, exactly when no more tasks than workers were
queued at `Terminate`. -/
theorem executedOnce_iff {loop : ConcurrentMessageLoop τ (max workerCount 1)}
    (reached : (machine τ workerCount).Reachable BeforeTerminate loop)
    (exited : ∀ worker, loop.workers worker = .exited) :
    loop.ExecutedOnce ↔ loop.TerminatedInTime := by
  have accounted := reachable_accounted reached
  obtain ⟨shared, leavers, toAll⟩ := accounted.exited exited
  -- Somebody has left, so `Terminate` has been called.
  have closed : loop.shutdown = true := by
    cases opened : loop.shutdown with
    | true => rfl
    | false =>
      have nobody := (accounted.running opened).2
      rw [leavers] at nobody
      exact absurd nobody (Nat.ne_of_gt (lt_max_of_lt_right Nat.zero_lt_one))
  obtain ⟨queued, recorded, length⟩ := accounted.terminated closed
  rw [leavers] at length
  have drained : loop.ExecutedOnce ↔ loop.tasks = [] := by
    constructor
    · intro once
      have same : (loop.executed : Multiset τ) = loop.executed + loop.tasks :=
        (Multiset.coe_eq_coe.mpr once.1).trans shared
      exact Multiset.coe_eq_zero _ |>.mp (left_eq_add.mp same)
    · intro empty
      rw [empty, Multiset.coe_nil, add_zero] at shared
      exact ⟨Multiset.coe_eq_coe.mp shared.symm, fun worker => .of_eq (toAll worker)⟩
  rw [drained, ← List.length_eq_zero_iff, length, Nat.sub_eq_zero_iff_le]
  constructor
  · exact fun inTime => ⟨queued, recorded, inTime⟩
  · rintro ⟨other, same, inTime⟩
    obtain rfl := Option.some_inj.mp (recorded.symm.trans same)
    exact inTime

/-! ## One worker -/

def only : Fin (max 1 1) := ⟨0, by decide⟩

theorem reachable_created (τ : Type) (workerCount : Nat) :
    (machine τ workerCount).Reachable BeforeTerminate {} := .initial rfl

/-- Two tasks are posted before the worker notices the shutdown. -/
def dropping : List (Op Nat (max 1 1)) :=
  [.postTask (some 1), .postTask (some 2), .terminate, .wake only, .executeTask only,
    .finishPass only]

/-- One worker exits and the second task stays in the queue. -/
theorem not_executedOnce : ∃ loop : ConcurrentMessageLoop Nat (max 1 1),
    (machine Nat 1).Reachable BeforeTerminate loop ∧
      (∀ worker, loop.workers worker = .exited) ∧ ¬loop.ExecutedOnce := by
  obtain ⟨loop, reached, check⟩ := Machine.Reachable.exists_of_run
    (reachable_created Nat 1) dropping
    (fun loop => decide (∀ worker, loop.workers worker = .exited) && loop.executed == [1] &&
      loop.posted == [1, 2]) (by decide) (by decide)
  simp only [Bool.and_eq_true, decide_eq_true_eq, beq_iff_eq] at check
  obtain ⟨⟨exited, executed⟩, posted⟩ := check
  refine ⟨loop, reached, exited, fun once => ?_⟩
  have same := once.1.length_eq
  rw [executed, posted] at same
  exact absurd same (by decide)

/-- The worker has executed the first task before `Terminate`. -/
def draining : List (Op Nat (max 1 1)) :=
  [.postTask (some 1), .postTaskToAllWorkers (some 7), .postTask (some 2), .wake only,
    .executeTask only, .executeTask only, .finishPass only, .terminate, .wake only,
    .executeTask only, .finishPass only]

theorem executedOnce_draining : ∃ loop : ConcurrentMessageLoop Nat (max 1 1),
    (∀ worker, loop.workers worker = .exited) ∧ loop.ExecutedOnce ∧ loop.TerminatedInTime := by
  obtain ⟨loop, reached, check⟩ := Machine.Reachable.exists_of_run
    (reachable_created Nat 1) draining
    (fun loop => decide (∀ worker, loop.workers worker = .exited) &&
      loop.queuedAtTerminate == some 1) (by decide) (by decide)
  simp only [Bool.and_eq_true, decide_eq_true_eq, beq_iff_eq] at check
  obtain ⟨exited, queued⟩ := check
  have inTime : loop.TerminatedInTime := ⟨1, queued, by decide⟩
  exact ⟨loop, exited, (executedOnce_iff reached exited).mpr inTime, inTime⟩

end ConcurrentMessageLoop

end FlutterEngine.Fml
