import Mathlib.Data.List.Flatten
import FlutterEngine.Fml.Draining

/-!
# Every task runs once

A ledger beside the task queues records the tasks registered, the tasks returned
to be run, and the tasks dropped with their queue by `Dispose` and `DisposeTasks`.
Along every run the registered tasks are exactly the returned, the dropped and
the pending ones, each once, whatever was merged, unmerged, paused and resumed;
and while `order_` has not wrapped, running a queue dry follows the order of
registration.
-/

namespace FlutterEngine.Fml

open MessageLoopTaskQueues

/-- The task queues with the history of their tasks. -/
structure TaskLedger (τ : Type) where
  queues : MessageLoopTaskQueues τ := {}
  registered : List (TopTask τ) := []
  returned : List (TopTask τ) := []
  dropped : List (TopTask τ) := []

namespace MessageLoopTaskQueues

variable {τ : Type} {queues : MessageLoopTaskQueues τ}

/-- The pending tasks of these queues, each with its queue. -/
def pendingOf (queues : MessageLoopTaskQueues τ) (members : List TaskQueueId) : List (TopTask τ) :=
  members.flatMap fun member => (queues.source member).pending.map (⟨member, ·⟩)

/-- The tasks pending anywhere. -/
def pending (queues : MessageLoopTaskQueues τ) : List (TopTask τ) :=
  queues.pendingOf (List.range queues.taskQueueIdCounter)

/-- Nothing registered, returned or dropped. -/
structure KeepsTasks (before after : MessageLoopTaskQueues τ) : Prop where
  order : after.order = before.order
  pending : after.pending = before.pending

theorem KeepsTasks.of_sources {before after : MessageLoopTaskQueues τ}
    (order : after.order = before.order)
    (counter : after.taskQueueIdCounter = before.taskQueueIdCounter)
    (sources : ∀ member, (after.source member).pending = (before.source member).pending) :
    KeepsTasks before after :=
  ⟨order, by simp only [MessageLoopTaskQueues.pending, pendingOf, counter, sources]⟩

theorem KeepsTasks.refl : KeepsTasks queues queues := ⟨rfl, rfl⟩

theorem KeepsTasks.trans {first second third : MessageLoopTaskQueues τ}
    (left : KeepsTasks first second) (right : KeepsTasks second third) : KeepsTasks first third :=
  ⟨right.order.trans left.order, right.pending.trans left.pending⟩

variable {queueId : TaskQueueId}

theorem keepsTasks_wakeUp (live : queues.Live queueId) (time : Int) :
    KeepsTasks queues (queues.wakeUp queueId time) :=
  .of_sources rfl rfl fun member => by simp only [source, entry_wakeUp live]

theorem keepsTasks_wakeIfPending {woken : MessageLoopTaskQueues τ}
    (wakes : queues.wakeIfPending queueId = some woken) : KeepsTasks queues woken := by
  obtain ⟨live, rfl | ⟨time, rfl⟩⟩ := wakeIfPending_cases wakes
  · exact .refl
  · exact keepsTasks_wakeUp live time

/-- A change of a source that leaves its tasks. -/
theorem keepsTasks_modifySource (live : queues.Live queueId) (change : TaskSource τ → TaskSource τ)
    (kept : ∀ source, (change source).pending = source.pending) :
    KeepsTasks queues (queues.modifySource queueId change) :=
  .of_sources rfl rfl fun member => by
    simp only [source, entry_modifySource live]
    split
    · rename_i same
      subst same
      exact kept _
    · rfl

/-- The calls that neither register, return nor drop a task. -/
def Quiet : Op τ → Prop
  | .registerTask .. | .getNextTaskToRun .. | .dispose _ | .disposeTasks _ => False
  | _ => True

variable {next : MessageLoopTaskQueues τ}

section

variable (consistent : queues.Consistent)

include consistent

theorem keepsTasks_call {op : Op τ} (quiet : Quiet op)
    (calls : queues.call op = some next) : KeepsTasks queues next := by
  cases op with
  | createTaskQueue =>
    cases calls
    refine ⟨rfl, ?_⟩
    have blank : (queues.source queues.taskQueueIdCounter).pending = [] := by
      have absent : ¬queues.Live queues.taskQueueIdCounter := fun live =>
        Nat.lt_irrefl _ (consistent.fresh _ live)
      rw [source, entry_of_absent absent]
      rfl
    have counter : queues.createTaskQueue.2.taskQueueIdCounter = queues.taskQueueIdCounter + 1 := rfl
    simp only [MessageLoopTaskQueues.pending, pendingOf, source, counter,
      consistent.entry_createTaskQueue, List.range_succ, List.flatMap_append]
    simpa [source] using blank
  | setWakeable queueId =>
    obtain ⟨entry, found, rest⟩ := Option.bind_eq_some_iff.mp calls
    simp only [Option.bind_eq_bind, Option.pure_def] at rest
    split at rest
    · cases rest
    cases rest
    refine .of_sources rfl rfl fun member => ?_
    simp only [source, entry_modify (live_of_at found)]
    split
    · rename_i same
      rw [same]
    · rfl
  | merge owner subsumed =>
    obtain ⟨⟨merged, _⟩, merges, rfl⟩ := Option.map_eq_some_iff.mp calls
    obtain rfl | ⟨-, distinct, liveOwner, liveSubsumed, -, -, -, wakes⟩ := merge_cases merges
    · exact .refl
    · have linked : KeepsTasks queues (queues.mergeLinks owner subsumed) :=
        .of_sources rfl rfl fun member => by
          simp only [source, entry_mergeLinks distinct liveOwner liveSubsumed]
      exact linked.trans (keepsTasks_wakeIfPending wakes)
  | unmerge owner subsumed =>
    obtain ⟨⟨unmerged, _⟩, unmerges, rfl⟩ := Option.map_eq_some_iff.mp calls
    obtain rfl | ⟨-, liveOwner, liveSubsumed, free, owned, woken, wakes, wakesAgain⟩ :=
      unmerge_cases unmerges
    · exact .refl
    · have distinct := (consistent.unmergeLinks free owned).1
      have unlinked : KeepsTasks queues (queues.unmergeLinks owner subsumed) :=
        .of_sources rfl rfl fun member => by
          simp only [source, entry_unmergeLinks distinct liveOwner liveSubsumed]
      exact unlinked.trans
        ((keepsTasks_wakeIfPending wakes).trans (keepsTasks_wakeIfPending wakesAgain))
  | pauseSecondarySource queueId =>
    obtain ⟨entry, found, rest⟩ := Option.bind_eq_some_iff.mp calls
    cases rest
    exact keepsTasks_modifySource (live_of_at found) _ fun _ => rfl
  | resumeSecondarySource queueId =>
    obtain ⟨entry, found, wakes⟩ := Option.bind_eq_some_iff.mp calls
    exact (keepsTasks_modifySource (live_of_at found) TaskSource.resumeSecondary
      fun _ => rfl).trans (keepsTasks_wakeIfPending wakes)
  | registerTask | getNextTaskToRun | dispose | disposeTasks => cases quiet

/-- A live queue's id is below the counter. -/
theorem Consistent.mem_range
    (live : queues.Live queueId) : queueId ∈ List.range queues.taskQueueIdCounter :=
  List.mem_range.mpr (consistent.fresh queueId live)

/-- What happens to the pending tasks when only these queues change. -/
theorem pending_perm_of_agree {members : List TaskQueueId}
    (next : MessageLoopTaskQueues τ) (live : ∀ member ∈ members, queues.Live member)
    (nodup : members.Nodup) (counter : next.taskQueueIdCounter = queues.taskQueueIdCounter)
    (agree : ∀ member, member ∉ members →
      (queues.source member).pending = (next.source member).pending) :
    ∃ rest, queues.pending.Perm (queues.pendingOf members ++ rest) ∧
      next.pending.Perm (next.pendingOf members ++ rest) := by
  rw [MessageLoopTaskQueues.pending, MessageLoopTaskQueues.pending, counter]
  exact flatMap_perm_of_agree List.nodup_range nodup
    (fun member listed => consistent.mem_range (live member listed))
    fun member other => by rw [agree member other]

theorem pending_registerTask {task : τ} {targetTime : Int} {grade : TaskSourceGrade}
    (registers : queues.registerTask queueId task targetTime grade = some next) :
    next.order = queues.order + 1 ∧
      next.pending.Perm (⟨queueId, queues.newTask task targetTime grade⟩ :: queues.pending) := by
  obtain ⟨live, wakes⟩ := registerTask_cases registers
  have kept := keepsTasks_wakeIfPending wakes
  refine ⟨kept.order, ?_⟩
  have sources : ∀ member, (queues.registered queueId task targetTime grade).source member =
      if member = queueId then
        (queues.source queueId).registerTask (queues.newTask task targetTime grade)
      else queues.source member := fun member => by simp only [source, entry_registered live]
  obtain ⟨rest, before, after⟩ := pending_perm_of_agree consistent
    (queues.registered queueId task targetTime grade)
    (List.forall_mem_singleton.mpr live) (List.nodup_singleton queueId) rfl
    fun member other => by rw [sources, if_neg (by simpa using other)]
  rw [kept.pending]
  have queued : ((queues.source queueId).registerTask (queues.newTask task targetTime grade)).pending.Perm
      (queues.newTask task targetTime grade :: (queues.source queueId).pending) :=
    TaskSource.pending_registerTask _
  have added := (queued.map (⟨queueId, ·⟩ : _ → TopTask τ)).append_right rest
  refine after.trans (.trans ?_ (before.symm.cons _))
  simpa [pendingOf, sources] using added

/-- A returned task was pending in the queue or in one it owns, and is no longer. -/
theorem pending_getNextTaskToRun {fromTime : Int} {returned : Option (TopTask τ)}
    (gets : queues.getNextTaskToRun queueId fromTime = some (returned, next)) :
    next.order = queues.order ∧ queues.pending.Perm (returned.toList ++ next.pending) ∧
      ∀ top, returned = some top → (queues.entry queueId).subsumedBy = none ∧
        queues.Head queueId top := by
  obtain ⟨-, rfl, rfl⟩ | ⟨pending, top, peeked, outcome⟩ := getNextTaskToRun_cases gets
  · exact ⟨rfl, .refl _, fun _ none => by cases none⟩
  have live := live_of_hasPendingTasks pending
  obtain ⟨free, head⟩ := consistent.peeked_head pending peeked
  obtain ⟨-, rfl, rfl⟩ | ⟨-, rfl, named, rfl⟩ := outcome
  · have kept := keepsTasks_wakeUp live top.task.targetTime
    exact ⟨kept.order, by rw [kept.pending]; exact .refl _, fun _ none => by cases none⟩
  refine ⟨rfl, ?_, fun _ same => by cases same; exact ⟨free, head⟩⟩
  have sources := source_ran top live named
  obtain ⟨rest, before, after⟩ := pending_perm_of_agree consistent (queues.ran queueId top)
    (List.forall_mem_singleton.mpr named) (List.nodup_singleton top.taskQueueId) rfl
    fun member other => by rw [sources, if_neg (by simpa using other)]
  have popped := (head.pops.pending.map (⟨top.taskQueueId, ·⟩ : _ → TopTask τ)).append_right rest
  refine (before.trans ?_).trans (after.symm.cons top)
  simpa [pendingOf, sources] using popped

/-- Emptying a group drops exactly its tasks. -/
theorem pending_of_emptied (live : queues.Live queueId)
    (counter : next.taskQueueIdCounter = queues.taskQueueIdCounter)
    (emptied : ∀ member, (next.source member).pending =
      if member ∈ queues.group queueId then [] else (queues.source member).pending) :
    queues.pending.Perm (queues.pendingOf (queues.group queueId) ++ next.pending) := by
  obtain ⟨rest, before, after⟩ := pending_perm_of_agree consistent next
    (fun member => consistent.live_group live) (consistent.nodup_group queueId) counter
    fun member other => by rw [emptied, if_neg other]
  have none : next.pendingOf (queues.group queueId) = [] :=
    List.flatMap_eq_nil_iff.mpr fun member listed => by rw [emptied, if_pos listed]; rfl
  rw [none] at after
  exact before.trans (after.symm.append_left _)

end

/-- A registration finds fewer than 2^32 before it. -/
def Unwrapped (queues : MessageLoopTaskQueues τ) : Op τ → Prop
  | .registerTask .. => queues.order < 2 ^ 32
  | _ => True

instance (op : Op τ) : Decidable (queues.Unwrapped op) :=
  match op with
  | .registerTask .. => inferInstanceAs (Decidable (queues.order < 2 ^ 32))
  | .createTaskQueue | .setWakeable _ | .getNextTaskToRun .. | .merge .. | .unmerge ..
  | .pauseSecondarySource _ | .resumeSecondarySource _ | .dispose _ | .disposeTasks _ =>
    inferInstanceAs (Decidable True)

/-- The debug assertions on callers, and that `order_` does not wrap. -/
abbrev InOrder (queues : MessageLoopTaskQueues τ) (op : Op τ) : Prop :=
  queues.Asserted op ∧ queues.Unwrapped op

end MessageLoopTaskQueues

namespace TaskLedger

variable {τ : Type}

/-- Enter a registration with its call. -/
def register (ledger : TaskLedger τ) (entry : TopTask τ) (next : MessageLoopTaskQueues τ) :
    TaskLedger τ :=
  { ledger with queues := next, registered := ledger.registered ++ [entry] }

/-- Enter a returned task, if any, with its call. -/
def deliver (ledger : TaskLedger τ) (result : Option (TopTask τ) × MessageLoopTaskQueues τ) :
    TaskLedger τ :=
  { ledger with queues := result.2, returned := ledger.returned ++ result.1.toList }

/-- Drop the tasks of the queue's group with its call. -/
def dropGroup (ledger : TaskLedger τ) (queueId : TaskQueueId) (next : MessageLoopTaskQueues τ) :
    TaskLedger τ :=
  { ledger with
    queues := next
    dropped := ledger.dropped ++ ledger.queues.pendingOf (ledger.queues.group queueId) }

/-- A call with its entries in the ledger. -/
def call (ledger : TaskLedger τ) : Op τ → Option (TaskLedger τ)
  | .registerTask queueId task targetTime grade =>
    (ledger.queues.registerTask queueId task targetTime grade).map
      (ledger.register ⟨queueId, ledger.queues.newTask task targetTime grade⟩)
  | .getNextTaskToRun queueId fromTime =>
    (ledger.queues.getNextTaskToRun queueId fromTime).map ledger.deliver
  | .dispose queueId => (ledger.queues.dispose queueId).map (ledger.dropGroup queueId)
  | .disposeTasks queueId => (ledger.queues.disposeTasks queueId).map (ledger.dropGroup queueId)
  | op => (ledger.queues.call op).map fun next => { ledger with queues := next }

/-- The ledger only watches: its queues make the same step. -/
theorem queues_call (ledger : TaskLedger τ) (op : Op τ) :
    (ledger.call op).map (·.queues) = ledger.queues.call op := by
  cases op <;> simp [call, MessageLoopTaskQueues.call, register, deliver, dropGroup, Function.comp_def]

/-- The task queues with their ledger, under a condition on the calls. -/
def machine (τ : Type) : Std.Machine (TaskLedger τ) (Op τ) where
  Initial ledger := ledger = {}
  step := call

variable {queueId : TaskQueueId} {next : MessageLoopTaskQueues τ}

theorem step_registerTask {ledger : TaskLedger τ} {task : τ} {targetTime : Int}
    {grade : TaskSourceGrade}
    (registers : ledger.queues.registerTask queueId task targetTime grade = some next) :
    (machine τ).step ledger (.registerTask queueId task targetTime grade) =
      some (ledger.register ⟨queueId, ledger.queues.newTask task targetTime grade⟩ next) :=
  congrArg (Option.map _) registers

theorem step_getNextTaskToRun {ledger : TaskLedger τ} {fromTime : Int}
    {result : Option (TopTask τ) × MessageLoopTaskQueues τ}
    (gets : ledger.queues.getNextTaskToRun queueId fromTime = some result) :
    (machine τ).step ledger (.getNextTaskToRun queueId fromTime) = some (ledger.deliver result) :=
  congrArg (Option.map _) gets

/-- Registrations are numbered in their order, and every registered task was
returned, was dropped or is pending. -/
structure Accounted (ledger : TaskLedger τ) : Prop where
  consistent : ledger.queues.Consistent
  numbered : ledger.registered.map (·.task.registration) = List.range ledger.queues.order
  ordered : ∀ entry ∈ ledger.registered, entry.task.order = orderOf entry.task.registration
  accounted : ledger.registered.Perm (ledger.returned ++ ledger.dropped ++ ledger.queues.pending)

variable {ledger : TaskLedger τ}

section

variable (accounted : ledger.Accounted)

include accounted

/-- A group's tasks move from pending to dropped. -/
theorem Accounted.drop (consistent : next.Consistent) (order : next.order = ledger.queues.order)
    (moved : ledger.queues.pending.Perm
      (ledger.queues.pendingOf (ledger.queues.group queueId) ++ next.pending)) :
    (ledger.dropGroup queueId next).Accounted where
  consistent := consistent
  numbered := accounted.numbered.trans (congrArg List.range order.symm)
  ordered := accounted.ordered
  accounted := by
    refine accounted.accounted.trans ?_
    simpa [dropGroup] using moved.append_left (ledger.returned ++ ledger.dropped)

theorem Accounted.registerTask {task : τ} {targetTime : Int} {grade : TaskSourceGrade}
    (registers : ledger.queues.registerTask queueId task targetTime grade = some next) :
    (ledger.register ⟨queueId, ledger.queues.newTask task targetTime grade⟩ next).Accounted := by
  obtain ⟨order, added⟩ := pending_registerTask accounted.consistent registers
  refine ⟨accounted.consistent.registerTask registers, ?_, fun entry listed => ?_, ?_⟩
  · dsimp only [register]
    rw [order, List.range_succ, List.map_append, accounted.numbered]
    rfl
  · rcases List.mem_append.mp listed with earlier | here
    · exact accounted.ordered entry earlier
    · rw [List.mem_singleton.mp here]
      rfl
  · refine (accounted.accounted.append_right _).trans ?_
    rw [List.append_assoc]
    exact (List.perm_append_comm.trans added.symm).append_left _

theorem Accounted.getNextTaskToRun {fromTime : Int} {returned : Option (TopTask τ)}
    (gets : ledger.queues.getNextTaskToRun queueId fromTime = some (returned, next)) :
    (ledger.deliver (returned, next)).Accounted := by
  obtain ⟨order, removed, -⟩ := pending_getNextTaskToRun accounted.consistent gets
  refine ⟨accounted.consistent.getNextTaskToRun gets,
    accounted.numbered.trans (congrArg List.range order.symm), accounted.ordered, ?_⟩
  have swap : (ledger.dropped ++ (returned.toList ++ next.pending)).Perm
      (returned.toList ++ (ledger.dropped ++ next.pending)) := by
    simpa using List.perm_append_comm.append_right next.pending
  refine (accounted.accounted.trans (removed.append_left _)).trans ?_
  simpa [deliver] using swap.append_left ledger.returned

/-- A quiet call leaves the account as it is. -/
theorem Accounted.quiet {op : Op τ} {next : TaskLedger τ}
    (quiet : Quiet op) (asserted : ledger.queues.Asserted op) (calls : ledger.call op = some next) :
    next.Accounted := by
  have watched : ledger.call op =
      (ledger.queues.call op).map fun after => { ledger with queues := after } := by
    cases op <;> first | rfl | cases quiet
  rw [watched] at calls
  obtain ⟨after, queuesCall, rfl⟩ := Option.map_eq_some_iff.mp calls
  have kept := keepsTasks_call accounted.consistent quiet queuesCall
  refine ⟨accounted.consistent.call asserted queuesCall,
    accounted.numbered.trans (congrArg List.range kept.order.symm), accounted.ordered, ?_⟩
  dsimp only
  rw [kept.pending]
  exact accounted.accounted

theorem Accounted.call {op : Op τ} {next : TaskLedger τ}
    (asserted : ledger.queues.Asserted op) (calls : ledger.call op = some next) :
    next.Accounted := by
  cases op with
  | registerTask queueId task targetTime grade =>
    obtain ⟨after, registers, rfl⟩ := Option.map_eq_some_iff.mp calls
    exact accounted.registerTask registers
  | getNextTaskToRun queueId fromTime =>
    obtain ⟨⟨returned, after⟩, gets, rfl⟩ := Option.map_eq_some_iff.mp calls
    exact accounted.getNextTaskToRun gets
  | dispose queueId =>
    obtain ⟨after, disposes, rfl⟩ := Option.map_eq_some_iff.mp calls
    obtain ⟨live, counter, order⟩ := counts_dispose disposes
    refine accounted.drop (accounted.consistent.dispose asserted disposes) order
      (pending_of_emptied accounted.consistent live counter fun member => ?_)
    simp only [source, (entry_dispose disposes member).2]
    split <;> rfl
  | disposeTasks queueId =>
    obtain ⟨after, disposes, rfl⟩ := Option.map_eq_some_iff.mp calls
    obtain ⟨live, counter, order⟩ := counts_disposeTasks disposes
    refine accounted.drop (accounted.consistent.disposeTasks disposes) order
      (pending_of_emptied accounted.consistent live counter fun member => ?_)
    simp only [source, (entry_disposeTasks disposes member).2]
    split <;> rfl
  | createTaskQueue | setWakeable | merge | unmerge | pauseSecondarySource
  | resumeSecondarySource => exact accounted.quiet (by trivial) asserted calls

end

theorem accounted_initial : ({} : TaskLedger τ).Accounted where
  consistent := consistent_initial
  numbered := rfl
  ordered _ listed := absurd listed List.not_mem_nil
  accounted := .refl _

/-! ## Every reached state -/

/-- Due earlier, or at the same time and registered earlier. -/
def Before (first second : TopTask τ) : Prop :=
  first.task.targetTime < second.task.targetTime ∨
    first.task.targetTime = second.task.targetTime ∧
      first.task.registration < second.task.registration

/-- No task is lost, none runs twice, none runs on a queue that does not schedule
it, and a queue runs dry in the order of target times and registrations. -/
structure RunsEachTaskOnce (ledger : TaskLedger τ) : Prop where
  conserved : ledger.registered.Perm (ledger.returned ++ ledger.dropped ++ ledger.queues.pending)
  distinct : (ledger.registered.map (·.task.registration)).Nodup
  scheduled : ∀ {queueId now top next},
    ledger.queues.getNextTaskToRun queueId now = some (some top, next) →
      (ledger.queues.entry queueId).subsumedBy = none ∧
        top.taskQueueId ∈ ledger.queues.group queueId ∧
        top ∈ ledger.registered ∧ top ∉ ledger.returned
  drained : ∀ {queueId now}, ledger.queues.Live queueId →
    (ledger.queues.entry queueId).subsumedBy = none →
    (∀ top ∈ ledger.queues.runnableOf (ledger.queues.group queueId), top.task.targetTime ≤ now) →
    ∃ tasks final, Drains queueId now ledger.queues tasks final ∧
      tasks.Perm (ledger.queues.runnableOf (ledger.queues.group queueId)) ∧
      tasks.Pairwise Before ∧
      ∀ member ∈ ledger.queues.group queueId,
        ((final.source member).pending).Perm (ledger.queues.source member).skipped

section

variable (accounted : ledger.Accounted)

include accounted

theorem Accounted.distinct :
    (ledger.registered.map (·.task.registration)).Nodup := by
  rw [accounted.numbered]
  exact List.nodup_range

/-- Registrations are fewer than the order counts. -/
theorem Accounted.registration_lt {entry : TopTask τ}
    (listed : entry ∈ ledger.registered) : entry.task.registration < ledger.queues.order := by
  have numbered := List.mem_map_of_mem (f := (·.task.registration)) listed
  rw [accounted.numbered] at numbered
  exact List.mem_range.mp numbered

/-- The runnable tasks of a group are among the pending ones. -/
theorem Accounted.runnableOf_subperm (live : ledger.queues.Live queueId) :
    ∃ rest, ledger.queues.pending.Perm
      (ledger.queues.pendingOf (ledger.queues.group queueId) ++ rest) ∧
      (ledger.queues.runnableOf (ledger.queues.group queueId)).Sublist
        (ledger.queues.pendingOf (ledger.queues.group queueId)) := by
  obtain ⟨rest, before, -⟩ := pending_perm_of_agree accounted.consistent ledger.queues
    (fun member => accounted.consistent.live_group live)
    (accounted.consistent.nodup_group queueId) rfl fun _ _ => rfl
  exact ⟨rest, before, .flatMap_right _ fun member _ => (List.filter_sublist).map _⟩

/-- Runnable tasks of a group were registered, each once. -/
theorem Accounted.runnableOf_registered (live : ledger.queues.Live queueId) :
    (∀ top ∈ ledger.queues.runnableOf (ledger.queues.group queueId), top ∈ ledger.registered) ∧
      ((ledger.queues.runnableOf (ledger.queues.group queueId)).map (·.task.registration)).Nodup := by
  obtain ⟨rest, split, offered⟩ := accounted.runnableOf_subperm live
  have whole := accounted.accounted.trans (split.append_left _)
  refine ⟨fun top runnable => whole.mem_iff.mpr ?_, ?_⟩
  · exact List.mem_append_right _ (List.mem_append_left _ (offered.subset runnable))
  · have distinct := (whole.map (·.task.registration)).nodup_iff.mp accounted.distinct
    rw [List.map_append] at distinct
    have pending := (List.nodup_append.mp distinct).2.1
    rw [List.map_append] at pending
    exact (List.nodup_append.mp pending).1.sublist (offered.map _)

/-- Before `order_` wraps, the order of the heaps is that of target times and
registrations. -/
theorem Accounted.before_of_le {first second : TopTask τ}
    (unwrapped : ledger.queues.order ≤ 2 ^ 32) (firstListed : first ∈ ledger.registered)
    (secondListed : second ∈ ledger.registered)
    (distinct : first.task.registration ≠ second.task.registration)
    (sorted : first.task.le second.task) : Before first second := by
  have firstOrder := accounted.ordered first firstListed
  have secondOrder := accounted.ordered second secondListed
  rcases DelayedTask.le_iff.mp sorted with earlier | ⟨same, order⟩
  · exact .inl earlier
  refine .inr ⟨same, lt_of_le_of_ne ?_ distinct⟩
  by_contra later
  have bound := accounted.registration_lt firstListed
  have wrong := orderOf_lt (Nat.not_le.mp later) (Nat.lt_of_lt_of_le bound unwrapped)
  rw [← firstOrder, ← secondOrder] at wrong
  exact absurd order (Nat.not_le.mpr wrong)

theorem Accounted.runsEachTaskOnce
    (unwrapped : ledger.queues.order ≤ 2 ^ 32) : ledger.RunsEachTaskOnce where
  conserved := accounted.accounted
  distinct := accounted.distinct
  scheduled := by
    intro queueId now top next gets
    obtain ⟨-, removed, returned⟩ := pending_getNextTaskToRun accounted.consistent gets
    obtain ⟨free, head⟩ := returned top rfl
    have pending : top ∈ ledger.queues.pending := removed.mem_iff.mpr List.mem_cons_self
    refine ⟨free, head.member,
      accounted.accounted.mem_iff.mpr (List.mem_append_right _ pending), fun again => ?_⟩
    have distinct := (accounted.accounted.map (·.task.registration)).nodup_iff.mp accounted.distinct
    rw [List.map_append, List.map_append] at distinct
    -- Returned before and pending now, it would have been registered twice.
    exact (List.nodup_append.mp distinct).2.2 _
      (List.mem_append_left _ (List.mem_map_of_mem again)) _ (List.mem_map_of_mem pending) rfl
  drained := by
    intro queueId now live free due
    obtain ⟨tasks, final, drains, perm, sorted, left⟩ := accounted.consistent.drains live free due
    obtain ⟨registered, distinct⟩ := accounted.runnableOf_registered live
    have apart : tasks.Pairwise fun first second =>
        first.task.registration ≠ second.task.registration :=
      List.pairwise_map.mp ((perm.map _).nodup_iff.mpr distinct)
    refine ⟨tasks, final, drains, perm, (sorted.and apart).imp_of_mem ?_, left⟩
    intro first second firstListed secondListed both
    exact accounted.before_of_le unwrapped (registered first (perm.mem_iff.mp firstListed))
      (registered second (perm.mem_iff.mp secondListed)) both.2 both.1

/-- Only a registration counts up `order_`. -/
theorem Accounted.order_call {op : Op τ} {next : TaskLedger τ}
    (inOrder : ledger.queues.InOrder op) (unwrapped : ledger.queues.order ≤ 2 ^ 32)
    (calls : ledger.call op = some next) : next.queues.order ≤ 2 ^ 32 := by
  have queuesCall : ledger.queues.call op = some next.queues := by
    rw [← queues_call, calls]
    rfl
  cases op with
  | registerTask queueId task targetTime grade =>
    rw [(pending_registerTask accounted.consistent queuesCall).1]
    exact inOrder.2
  | getNextTaskToRun queueId fromTime =>
    obtain ⟨⟨returned, after⟩, gets, same⟩ := Option.map_eq_some_iff.mp queuesCall
    rw [← same, (pending_getNextTaskToRun accounted.consistent gets).1]
    exact unwrapped
  | dispose queueId => exact (counts_dispose queuesCall).2.2 ▸ unwrapped
  | disposeTasks queueId => exact (counts_disposeTasks queuesCall).2.2 ▸ unwrapped
  | createTaskQueue | setWakeable | merge | unmerge | pauseSecondarySource
  | resumeSecondarySource =>
    exact (keepsTasks_call accounted.consistent (by trivial) queuesCall).order ▸ unwrapped

end

/-- In every run whose calls meet the assertions and which registers at most 2^32
tasks, each task runs once, on a queue that schedules it and in order. -/
theorem reachable_runsEachTaskOnce
    (reached : (machine τ).Reachable (fun ledger op => ledger.queues.InOrder op) ledger) :
    ledger.RunsEachTaskOnce := by
  have invariant : ledger.Accounted ∧ ledger.queues.order ≤ 2 ^ 32 := by
    refine reached.invariant
      (fun ledger => ledger.Accounted ∧ ledger.queues.order ≤ 2 ^ 32) ?_ ?_
    · rintro state rfl
      exact ⟨accounted_initial, Nat.zero_le _⟩
    · rintro state op next ⟨accounted, unwrapped⟩ inOrder calls
      exact ⟨accounted.call inOrder.1 calls, accounted.order_call inOrder unwrapped calls⟩
  exact invariant.1.runsEachTaskOnce invariant.2

/-- Two merged queues: of three tasks on them, the paused one waits. -/
theorem reachable_runsEachTaskOnce_merged :
    ∃ ledger : TaskLedger Nat,
      (machine Nat).Reachable (fun ledger op => ledger.queues.InOrder op) ledger ∧
        (ledger.queues.runnableOf (ledger.queues.group 0)).map (·.task.task) = [30, 20] ∧
        ledger.RunsEachTaskOnce := by
  have start : (machine Nat).Reachable (fun ledger op => ledger.queues.InOrder op) {} := .initial rfl
  obtain ⟨ledger, reached, runnable⟩ := start.exists_of_run
    [.createTaskQueue, .createTaskQueue, .merge 0 1, .pauseSecondarySource 1,
      .registerTask 1 10 0 .dartEventLoop, .registerTask 1 20 2 .unspecified,
      .registerTask 0 30 1 .userInteraction]
    (fun ledger => (ledger.queues.runnableOf (ledger.queues.group 0)).map (·.task.task) = [30, 20])
    (by decide) (by decide)
  exact ⟨ledger, reached, of_decide_eq_true runnable, reachable_runsEachTaskOnce reached⟩

/-- One queue without tasks, after this many registrations. -/
def spun (count : Nat) : MessageLoopTaskQueues Unit :=
  { ({} : MessageLoopTaskQueues Unit).createTaskQueue.2 with order := count }

/-- A task registered and run leaves the queue as before, one registration later. -/
theorem spun_succ (count : Nat) :
    ∃ loaded, (spun count).registerTask 0 () 0 .unspecified = some loaded ∧
      loaded.getNextTaskToRun 0 0 =
        some (some ⟨0, (spun count).newTask () 0 .unspecified⟩, spun (count + 1)) := by
  have same : ∃ loaded after, (spun count).registerTask 0 () 0 .unspecified = some loaded ∧
      loaded.getNextTaskToRun 0 0 =
        some (some ⟨0, (spun count).newTask () 0 .unspecified⟩, after) ∧
      after = spun (count + 1) := by
    refine ⟨_, _, rfl, rfl, MessageLoopTaskQueues.ext (funext fun queueId => ?_) rfl rfl⟩
    cases queueId with
    | zero => rfl
    | succ other => rfl
  obtain ⟨loaded, _, registers, gets, rfl⟩ := same
  exact ⟨loaded, registers, gets⟩

/-- Registering and running one task after another reaches any count. -/
theorem reachable_spun (count : Nat) :
    ∃ ledger, (machine Unit).Reachable (fun ledger op => ledger.queues.Asserted op) ledger ∧
      ledger.queues = spun count := by
  induction count with
  | zero =>
    have start : (machine Unit).Reachable (fun ledger op => ledger.queues.Asserted op) {} :=
      .initial rfl
    exact ⟨_, start.step .createTaskQueue (by trivial) rfl, rfl⟩
  | succ count ih =>
    obtain ⟨ledger, reached, same⟩ := ih
    obtain ⟨loaded, registers, gets⟩ := spun_succ count
    rw [← same] at registers
    have once := reached.step (.registerTask 0 () 0 .unspecified) (by trivial)
      (step_registerTask registers)
    exact ⟨_, once.step (.getNextTaskToRun 0 0) (by trivial) (step_getNextTaskToRun gets), rfl⟩

/-- Of two tasks for the same time, the one registered as the 2^32-th runs after
the next one: `order_` has wrapped between them. -/
theorem order_wrap_reverses_tasks :
    ∃ ledger : TaskLedger Unit,
      (machine Unit).Reachable (fun ledger op => ledger.queues.Asserted op) ledger ∧
        ¬ledger.RunsEachTaskOnce := by
  obtain ⟨ledger, reached, same⟩ := reachable_spun 4294967295
  obtain ⟨once, twice, after, first, second, returned, waiting, live, free, due, count⟩ :
      ∃ once twice after, (spun 4294967295).registerTask 0 () 0 .unspecified = some once ∧
        once.registerTask 0 () 0 .unspecified = some twice ∧
        twice.getNextTaskToRun 0 0 = some (some ⟨0, once.newTask () 0 .unspecified⟩, after) ∧
        ⟨0, (spun 4294967295).newTask () 0 .unspecified⟩ ∈ twice.runnableOf (twice.group 0) ∧
        twice.Live 0 ∧ (twice.entry 0).subsumedBy = none ∧
        (∀ top ∈ twice.runnableOf (twice.group 0), top.task.targetTime ≤ 0) ∧
        once.order = 4294967296 := by
    refine ⟨_, _, _, rfl, rfl, rfl, mem_runnableOf.mpr ⟨?_, ?_⟩, rfl, rfl, ?_, rfl⟩ <;> decide
  rw [← same] at first
  have one := reached.step (.registerTask 0 () 0 .unspecified) (by trivial) (step_registerTask first)
  have both := one.step (.registerTask 0 () 0 .unspecified) (by trivial) (step_registerTask second)
  refine ⟨_, both, fun inOrder => ?_⟩
  obtain ⟨tasks, final, drains, perm, sorted, -⟩ := inOrder.drained live free due
  -- The task returned first is the one registered last.
  cases drains with
  | done empty => cases returned.symm.trans empty
  | next top later =>
    cases returned.symm.trans top
    rcases List.mem_cons.mp (perm.mem_iff.mpr waiting) with same | behind
    · have registrations := congrArg (·.task.registration) same
      simp [newTask, count, spun] at registrations
    · rcases (List.pairwise_cons.mp sorted).1 _ behind with earlier | ⟨-, registered⟩
      · simp [newTask] at earlier
      · simp [newTask, count, spun] at registered

end TaskLedger

end FlutterEngine.Fml
