import Mathlib.Data.List.Perm.Basic
import FlutterEngine.Fml.NextTask

/-!
# Running a queue dry

Repeated `GetNextTaskToRun` calls on a queue that is not subsumed, late enough for
all its tasks, return its runnable tasks and those of the queues it owns once
each, in the order of the heaps, and leave exactly the `kDartEventLoop` tasks of
paused sources.
-/

namespace FlutterEngine.Fml

/-- Two maps that agree off a part of the items gather the same off that part. -/
theorem flatMap_perm_of_agree {α β : Type} [DecidableEq α] {items part : List α} {f g : α → List β}
    (nodup : items.Nodup) (partNodup : part.Nodup) (within : ∀ item ∈ part, item ∈ items)
    (agree : ∀ item, item ∉ part → f item = g item) :
    ∃ rest, (items.flatMap f).Perm (part.flatMap f ++ rest) ∧
      (items.flatMap g).Perm (part.flatMap g ++ rest) := by
  have split : items.Perm (part ++ items.filter (· ∉ part)) := by
    have halves := List.filter_append_perm (fun item => decide (item ∈ part)) items
    have inside : (items.filter (· ∈ part)).Perm part :=
      (List.perm_ext_iff_of_nodup (nodup.filter _) partNodup).mpr fun item => by
        simpa using within item
    refine halves.symm.trans ?_
    simpa using inside.append_right (items.filter (· ∉ part))
  refine ⟨(items.filter (· ∉ part)).flatMap f, ?_, ?_⟩
  · simpa using split.flatMap_right f
  · have same : (items.filter (· ∉ part)).flatMap f = (items.filter (· ∉ part)).flatMap g :=
      List.flatMap_congr fun item kept => agree item (by simpa using (List.mem_filter.mp kept).2)
    rw [same]
    simpa using split.flatMap_right g

namespace TaskSource

variable {τ : Type} {source : TaskSource τ}

/-- The tasks a source holds back. -/
def skipped (source : TaskSource τ) : List (DelayedTask τ) :=
  source.pending.filter fun task => task.taskSourceGrade = .dartEventLoop ∧ source.paused

theorem runnable_append_skipped (source : TaskSource τ) :
    (source.runnable ++ source.skipped).Perm source.pending := by
  have halves := List.filter_append_perm
    (fun task : DelayedTask τ => decide ¬(task.taskSourceGrade = .dartEventLoop ∧ source.paused))
    source.pending
  simpa [runnable, skipped] using halves

/-- A pop leaves what the source holds back. -/
theorem Pops.skipped {task : DelayedTask τ} (pops : source.Pops task) :
    source.skipped.Perm (source.popTask task.taskSourceGrade).skipped := by
  have runnable := (mem_runnable.mp (pops.runnable.mem_iff.mpr List.mem_cons_self)).2
  have still : (source.popTask task.taskSourceGrade).paused ↔ source.paused := by
    simp [TaskSource.paused]
  have kept := pops.pending.filter
    fun task => decide (task.taskSourceGrade = .dartEventLoop ∧ source.paused)
  rw [List.filter_cons_of_neg (by simpa using runnable)] at kept
  simpa only [TaskSource.skipped, still] using kept

end TaskSource

namespace MessageLoopTaskQueues

variable {τ : Type} {queues : MessageLoopTaskQueues τ}

/-- The runnable tasks of these queues, each with its queue. -/
def runnableOf (queues : MessageLoopTaskQueues τ) (members : List TaskQueueId) :
    List (TopTask τ) :=
  members.flatMap fun member => (queues.source member).runnable.map (⟨member, ·⟩)

theorem mem_runnableOf {members : List TaskQueueId} {top : TopTask τ} :
    top ∈ queues.runnableOf members ↔
      top.taskQueueId ∈ members ∧ top.task ∈ (queues.source top.taskQueueId).runnable := by
  simp only [runnableOf, List.mem_flatMap, List.mem_map]
  constructor
  · rintro ⟨member, scheduled, task, runnable, rfl⟩
    exact ⟨scheduled, runnable⟩
  · rintro ⟨scheduled, runnable⟩
    exact ⟨top.taskQueueId, scheduled, top.task, runnable, rfl⟩

/-- The queues after `GetNextTaskToRun` has returned this task. -/
def ran (queues : MessageLoopTaskQueues τ) (queueId : TaskQueueId) (top : TopTask τ) :
    MessageLoopTaskQueues τ :=
  (queues.wakeUp queueId top.task.targetTime).modifySource top.taskQueueId
    (·.popTask top.task.taskSourceGrade)

variable {queueId : TaskQueueId}

theorem source_ran (top : TopTask τ) (live : queues.Live queueId)
    (named : queues.Live top.taskQueueId) (other : TaskQueueId) :
    (queues.ran queueId top).source other =
      if other = top.taskQueueId then
        (queues.source other).popTask top.task.taskSourceGrade
      else queues.source other := by
  simp only [source, ran, entry_modifySource (live_wakeUp.mpr named), entry_wakeUp live]
  split
  · rename_i same
    rw [same]
  · rfl

theorem links_ran (top : TopTask τ) (live : queues.Live queueId)
    (named : queues.Live top.taskQueueId) (other : TaskQueueId) :
    ((queues.ran queueId top).entry other).subsumedBy = (queues.entry other).subsumedBy ∧
      (queues.ran queueId top).group other = queues.group other := by
  simp only [group, ran, entry_modifySource (live_wakeUp.mpr named), entry_wakeUp live]
  exact ⟨trivial, trivial⟩

/-- Late enough, `GetNextTaskToRun` returns the head, or nothing when no task is
runnable. -/
theorem Consistent.getNextTaskToRun_spec {now : Int} (consistent : queues.Consistent)
    (live : queues.Live queueId) (free : (queues.entry queueId).subsumedBy = none)
    (due : ∀ top ∈ queues.runnableOf (queues.group queueId), top.task.targetTime ≤ now) :
    (queues.runnableOf (queues.group queueId) = [] ∧
        queues.getNextTaskToRun queueId now = some (none, queues)) ∨
      ∃ top, queues.Head queueId top ∧ queues.Live top.taskQueueId ∧
        queues.getNextTaskToRun queueId now = some (some top, queues.ran queueId top) := by
  obtain ⟨pending, found, spec⟩ := consistent.hasPendingTasks_spec live
  cases pending with
  | false =>
    refine .inl ⟨?_, by
      simp [MessageLoopTaskQueues.getNextTaskToRun, found]⟩
    have idle : queues.Idle (queues.group queueId) := by
      by_contra busy
      exact Bool.false_ne_true (spec.mpr ⟨free, busy⟩)
    refine List.eq_nil_iff_forall_not_mem.mpr fun top member => ?_
    obtain ⟨scheduled, runnable⟩ := mem_runnableOf.mp member
    rw [idle _ scheduled] at runnable
    exact List.not_mem_nil runnable
  | true =>
    obtain ⟨top, peeked, head⟩ := consistent.peekNextTask_spec live (spec.mp rfl).2
    have named := consistent.live_group live head.member
    have inTime : ¬top.task.targetTime > now :=
      Int.not_lt.mpr (due top (mem_runnableOf.mpr ⟨head.member, head.mem_runnable⟩))
    have target : (queues.wakeUp queueId top.task.targetTime).Live top.taskQueueId :=
      live_wakeUp.mpr named
    have target := live_iff.mp target
    exact .inr ⟨top, head, named, by
      simp [MessageLoopTaskQueues.getNextTaskToRun, found, peeked, getNextWakeTime, inTime, target,
        ran]⟩

/-- Running the head removes exactly it from the runnable tasks. -/
theorem Consistent.runnableOf_ran {top : TopTask τ} (consistent : queues.Consistent)
    (live : queues.Live queueId) (named : queues.Live top.taskQueueId)
    (head : queues.Head queueId top) :
    (queues.runnableOf (queues.group queueId)).Perm
      (top :: (queues.ran queueId top).runnableOf (queues.group queueId)) := by
  have sources := source_ran top live named
  obtain ⟨rest, before, after⟩ := flatMap_perm_of_agree
    (f := fun member => (queues.source member).runnable.map (⟨member, ·⟩ : _ → TopTask τ))
    (g := fun member => ((queues.ran queueId top).source member).runnable.map (⟨member, ·⟩))
    (consistent.nodup_group queueId) (List.nodup_singleton top.taskQueueId)
    (by simpa using head.member)
    (fun member other => by rw [sources, if_neg (by simpa using other)])
  have popped := (head.pops.runnable.map (⟨top.taskQueueId, ·⟩ : _ → TopTask τ)).append_right rest
  refine (before.trans ?_).trans (after.symm.cons top)
  simpa [sources] using popped

/-- Calls of `GetNextTaskToRun` that return these tasks, one after another, and
then none. -/
inductive Drains (queueId : TaskQueueId) (now : Int) :
    MessageLoopTaskQueues τ → List (TopTask τ) → MessageLoopTaskQueues τ → Prop where
  | done {queues final} (empty : queues.getNextTaskToRun queueId now = some (none, final)) :
      Drains queueId now queues [] final
  | next {queues top after rest final}
      (returned : queues.getNextTaskToRun queueId now = some (some top, after))
      (later : Drains queueId now after rest final) :
      Drains queueId now queues (top :: rest) final

/-- A queue that is not subsumed is run dry by finitely many calls. -/
theorem Consistent.drains {now : Int} (consistent : queues.Consistent) (live : queues.Live queueId)
    (free : (queues.entry queueId).subsumedBy = none)
    (due : ∀ top ∈ queues.runnableOf (queues.group queueId), top.task.targetTime ≤ now) :
    ∃ tasks final, Drains queueId now queues tasks final ∧
      tasks.Perm (queues.runnableOf (queues.group queueId)) ∧
      tasks.Pairwise (fun first second => first.task.le second.task) ∧
      ∀ member ∈ queues.group queueId,
        ((final.source member).pending).Perm (queues.source member).skipped := by
  induction count : (queues.runnableOf (queues.group queueId)).length generalizing queues with
  | zero =>
    obtain ⟨-, empty⟩ | ⟨top, head, -, -⟩ := consistent.getNextTaskToRun_spec live free due
    · have none := List.length_eq_zero_iff.mp count
      refine ⟨[], queues, .done empty, by rw [none], .nil, fun member scheduled => ?_⟩
      have idle : (queues.source member).runnable = [] :=
        List.eq_nil_iff_forall_not_mem.mpr fun task runnable => by
          have listed : ⟨member, task⟩ ∈ queues.runnableOf (queues.group queueId) :=
            mem_runnableOf.mpr ⟨scheduled, runnable⟩
          rw [none] at listed
          exact List.not_mem_nil listed
      simpa [idle] using ((queues.source member).runnable_append_skipped).symm
    · have listed := mem_runnableOf.mpr ⟨head.member, head.mem_runnable⟩
      rw [List.length_eq_zero_iff.mp count] at listed
      exact absurd listed List.not_mem_nil
  | succ count ih =>
    obtain ⟨empty, -⟩ | ⟨top, head, named, returned⟩ :=
      consistent.getNextTaskToRun_spec live free due
    · rw [empty] at count
      cases count
    have removed := consistent.runnableOf_ran live named head
    have group := (links_ran top live named queueId).2
    have sources := source_ran top live named
    have after : (queues.ran queueId top).Consistent := consistent.getNextTaskToRun returned
    obtain ⟨rest, final, later, perm, sorted, left⟩ := ih after
      (live_modifySource.mpr (live_wakeUp.mpr live))
      ((links_ran top live named queueId).1.trans free)
      (fun other member => due other (removed.mem_iff.mpr (List.mem_cons_of_mem _ (group ▸ member))))
      (by rw [group]; simpa [removed.length_eq] using count)
    rw [group] at perm left
    refine ⟨top :: rest, final, .next returned later, (perm.cons top).trans removed.symm,
      List.pairwise_cons.mpr ⟨fun other member => ?_, sorted⟩, fun member scheduled => ?_⟩
    · have listed := mem_runnableOf.mp
        (removed.mem_iff.mpr (List.mem_cons_of_mem _ (perm.mem_iff.mp member)))
      exact head.least _ listed.1 _ listed.2
    · refine (left member scheduled).trans ?_
      rw [sources]
      split
      · rename_i same
        subst same
        exact head.pops.skipped.symm
      · exact .refl _

end MessageLoopTaskQueues

end FlutterEngine.Fml
