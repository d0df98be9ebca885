import FlutterEngine.Fml.Merging

/-!
# The next task of a queue

What `HasPendingTasksUnlocked` and `PeekNextTaskUnlocked` compute: whether a queue
that is not subsumed has a runnable task, of its own or of a queue it owns, and
the earliest of them together with the source whose pop removes exactly it.
-/

namespace FlutterEngine.Fml.MessageLoopTaskQueues

variable {τ : Type}

/-- `top` is on top of its own source and no runnable task of the members is due
before it. -/
structure Earliest (queues : MessageLoopTaskQueues τ) (members : List TaskQueueId)
    (top : TopTask τ) : Prop where
  member : top.taskQueueId ∈ members
  pops : (queues.source top.taskQueueId).Pops top.task
  least : ∀ member ∈ members, ∀ task ∈ (queues.source member).runnable, top.task.le task

/-- No member has a runnable task. -/
def Idle (queues : MessageLoopTaskQueues τ) (members : List TaskQueueId) : Prop :=
  ∀ member ∈ members, (queues.source member).runnable = []

/-- What the scan of `PeekNextTaskUnlocked` knows after the members scanned. -/
def Scanned (queues : MessageLoopTaskQueues τ) (members : List TaskQueueId) :
    Option (TopTask τ) → Prop
  | none => queues.Idle members
  | some top => queues.Earliest members top

/-- The queue's head: the task it runs next. -/
abbrev Head (queues : MessageLoopTaskQueues τ) (queueId : TaskQueueId) : TopTask τ → Prop :=
  queues.Earliest (queues.group queueId)

variable {queues : MessageLoopTaskQueues τ}

variable {members : List TaskQueueId}

theorem Earliest.mem_runnable {top : TopTask τ} (earliest : queues.Earliest members top) :
    top.task ∈ (queues.source top.taskQueueId).runnable :=
  earliest.pops.runnable.mem_iff.mpr List.mem_cons_self

theorem idle_cons {member : TaskQueueId} :
    queues.Idle (member :: members) ↔
      (queues.source member).runnable = [] ∧ queues.Idle members := List.forall_mem_cons

namespace Consistent

/-- A source with a runnable task offers one that its pop removes. -/
theorem top_spec (consistent : queues.Consistent) {member : TaskQueueId}
    (filled : (queues.source member).runnable ≠ []) :
    ∃ task, (queues.source member).top = some ⟨member, task⟩ ∧ (queues.source member).Pops task := by
  obtain ⟨task, top, pops⟩ := TaskSource.top_spec (consistent.resumed member) filled
  exact ⟨task, by rw [top, consistent.named], pops⟩

theorem anyPending_spec (consistent : queues.Consistent)
    (live : ∀ member ∈ members, queues.Live member) :
    ∃ pending, queues.anyPending members = some pending ∧
      (pending = false ↔ queues.Idle members) := by
  induction members with
  | nil => exact ⟨false, rfl, by simp [Idle]⟩
  | cons member rest ih =>
    have found := live_iff.mp (live member List.mem_cons_self)
    have empty := TaskSource.isEmpty_iff (consistent.resumed member)
    obtain ⟨pending, scan, idle⟩ := ih fun other later => live other (List.mem_cons_of_mem _ later)
    simp only [anyPending, found, Option.bind_eq_bind, Option.bind_some, idle_cons]
    split
    · rename_i filled
      refine ⟨true, rfl, by simp, fun ⟨blank, _⟩ => ?_⟩
      rw [← empty, source] at blank
      simp [blank] at filled
    · rename_i blank
      refine ⟨pending, scan, idle.trans (iff_and_self.mpr fun _ => ?_)⟩
      rw [← empty, source]
      simpa using blank

variable {queueId : TaskQueueId}

variable (consistent : queues.Consistent)

include consistent

theorem hasPendingTasks_spec (live : queues.Live queueId) :
    ∃ pending, queues.hasPendingTasks queueId = some pending ∧
      (pending = true ↔
        (queues.entry queueId).subsumedBy = none ∧ ¬queues.Idle (queues.group queueId)) := by
  have found := live_iff.mp live
  have empty := TaskSource.isEmpty_iff (consistent.resumed queueId)
  have owned : ∀ member ∈ (queues.entry queueId).ownerOf, queues.Live member :=
    fun member owned => (consistent.live_of_owned owned).2
  obtain ⟨pending, scan, idle⟩ := consistent.anyPending_spec owned
  simp only [hasPendingTasks, found, Option.bind_eq_bind, Option.bind_some]
  split
  · rename_i subsumed
    refine ⟨false, rfl, by simp, fun ⟨free, _⟩ => ?_⟩
    simp [free] at subsumed
  rename_i free
  have free : (queues.entry queueId).subsumedBy = none := by simpa using free
  rw [group, idle_cons, ← empty, ← idle]
  split
  · rename_i filled
    have filled : (queues.source queueId).isEmpty = false := by simpa [source] using filled
    exact ⟨true, rfl, by simp [free, filled]⟩
  · rename_i blank
    have blank : (queues.source queueId).isEmpty = true := by simpa [source] using blank
    exact ⟨pending, scan, by simp [free, blank]⟩

variable {scanned : List TaskQueueId} {topTask : Option (TopTask τ)}

theorem updateTopTask_spec (best : queues.Scanned scanned topTask) (member : TaskQueueId) :
    ∃ updated, updateTopTask topTask (queues.source member) = some updated ∧
      queues.Scanned (scanned ++ [member]) updated := by
  have empty := TaskSource.isEmpty_iff (consistent.resumed member)
  by_cases blank : (queues.source member).runnable = []
  · refine ⟨topTask, by simp [updateTopTask, empty.mpr blank], ?_⟩
    cases topTask with
    | none =>
      refine fun other scan => ?_
      rcases List.mem_append.mp scan with earlier | here
      · exact best other earlier
      · rwa [List.mem_singleton.mp here]
    | some top =>
      refine ⟨List.mem_append_left _ best.member, best.pops, fun other scan task runnable => ?_⟩
      rcases List.mem_append.mp scan with earlier | here
      · exact best.least other earlier task runnable
      · rw [List.mem_singleton.mp here, blank] at runnable
        exact absurd runnable List.not_mem_nil
  obtain ⟨task, top, pops⟩ := consistent.top_spec blank
  have filled : (queues.source member).isEmpty = false := by
    rw [← Bool.not_eq_true, empty]
    exact blank
  have scan : ∀ {candidate : TopTask τ},
      (∀ other ∈ scanned, ∀ later ∈ (queues.source other).runnable, candidate.task.le later) →
      candidate.task.le task →
      ∀ other ∈ scanned ++ [member], ∀ later ∈ (queues.source other).runnable,
        candidate.task.le later := by
    intro candidate before here other scan later runnable
    rcases List.mem_append.mp scan with earlier | isHere
    · exact before other earlier later runnable
    · rw [List.mem_singleton.mp isHere] at runnable
      exact DelayedTask.le_trans here (pops.least later runnable)
  cases topTask with
  | none =>
    refine ⟨some ⟨member, task⟩, by simp [updateTopTask, filled, top], by simp, pops,
      scan (fun other earlier later runnable => ?_) (DelayedTask.le_refl task)⟩
    rw [best other earlier] at runnable
    exact absurd runnable List.not_mem_nil
  | some current =>
    refine ⟨some (if current.task.gt task then ⟨member, task⟩ else current),
      by simp [updateTopTask, filled, top], ?_⟩
    split
    · rename_i later
      have before : task.le current.task :=
        (DelayedTask.le_total task current.task).resolve_right (by simp [DelayedTask.le, later])
      exact ⟨by simp, pops, scan (fun other earlier next runnable =>
        DelayedTask.le_trans before (best.least other earlier next runnable))
        (DelayedTask.le_refl task)⟩
    · rename_i notLater
      have before : current.task.le task := by simpa [DelayedTask.le] using notLater
      exact ⟨List.mem_append_left _ best.member, best.pops, scan best.least before⟩

/-- The scan over the owned queues. -/
theorem updateTopTasks_spec (live : ∀ member ∈ members, queues.Live member)
    (best : queues.Scanned scanned topTask) :
    ∃ updated, queues.updateTopTasks topTask members = some updated ∧
      queues.Scanned (scanned ++ members) updated := by
  induction members generalizing scanned topTask with
  | nil => exact ⟨topTask, rfl, by simpa using best⟩
  | cons member rest ih =>
    obtain ⟨updated, update, better⟩ := consistent.updateTopTask_spec best member
    obtain ⟨final, scan, finished⟩ :=
      ih (fun other later => live other (List.mem_cons_of_mem _ later)) better
    refine ⟨final, ?_, by simpa using finished⟩
    simp only [updateTopTasks, live_iff.mp (live member List.mem_cons_self),
      Option.bind_eq_bind, Option.bind_some]
    rw [← source, update]
    exact scan

/-- A queue with pending tasks has a head, and that is the task peeked. -/
theorem peekNextTask_spec (live : queues.Live queueId)
    (pending : ¬queues.Idle (queues.group queueId)) :
    ∃ top, queues.peekNextTask queueId = some top ∧ queues.Head queueId top := by
  have owned : ∀ member ∈ (queues.entry queueId).ownerOf, queues.Live member :=
    fun member owned => (consistent.live_of_owned owned).2
  simp only [peekNextTask, live_iff.mp live, Option.bind_eq_bind, Option.bind_some]
  split
  · rename_i alone
    have alone : (queues.entry queueId).ownerOf = [] := by simpa using alone
    have filled : (queues.source queueId).runnable ≠ [] := by
      simpa [group, alone, Idle] using pending
    obtain ⟨task, top, pops⟩ := consistent.top_spec filled
    refine ⟨⟨queueId, task⟩, top, List.mem_cons_self, pops, fun member scan => ?_⟩
    rw [group, alone, List.mem_singleton] at scan
    rw [scan]
    exact pops.least
  · have unscanned : queues.Scanned [] none := fun _ nowhere => by cases nowhere
    obtain ⟨first, update, best⟩ := consistent.updateTopTask_spec unscanned queueId
    obtain ⟨final, scan, finished⟩ := consistent.updateTopTasks_spec owned best
    rw [← source, update]
    simp only [Option.bind_some, scan]
    cases final with
    | none => exact absurd finished pending
    | some top => exact ⟨top, rfl, finished⟩

/-- A task peeked after a check for pending tasks is the head of a queue that is
not subsumed. -/
theorem peeked_head {top : TopTask τ} (pending : queues.hasPendingTasks queueId = some true)
    (peeked : queues.peekNextTask queueId = some top) :
    (queues.entry queueId).subsumedBy = none ∧ queues.Head queueId top := by
  have live := live_of_hasPendingTasks pending
  obtain ⟨_, same, spec⟩ := consistent.hasPendingTasks_spec live
  obtain rfl := Option.some_inj.mp (pending.symm.trans same)
  obtain ⟨free, busy⟩ := spec.mp rfl
  obtain ⟨_, same, head⟩ := consistent.peekNextTask_spec live busy
  obtain rfl := Option.some_inj.mp (peeked.symm.trans same)
  exact ⟨free, head⟩

/-- A conditional wake-up succeeds, and delivers the time of the head if there
is one. -/
theorem wakeIfPending_spec (live : queues.Live queueId) :
    ∃ woken, queues.wakeIfPending queueId = some woken ∧
      (woken = queues ∧
          ((queues.entry queueId).subsumedBy = none → queues.Idle (queues.group queueId)) ∨
        (queues.entry queueId).subsumedBy = none ∧
          ∃ top, queues.Head queueId top ∧
            woken = queues.wakeUp queueId top.task.targetTime) := by
  obtain ⟨pending, found, spec⟩ := consistent.hasPendingTasks_spec live
  cases pending with
  | false =>
    refine ⟨queues, by simp [MessageLoopTaskQueues.wakeIfPending, found], .inl ⟨rfl, fun free => ?_⟩⟩
    by_contra filled
    exact Bool.false_ne_true (spec.mpr ⟨free, filled⟩)
  | true =>
    obtain ⟨top, peek, head⟩ := consistent.peekNextTask_spec live (spec.mp rfl).2
    exact ⟨_, by simp [MessageLoopTaskQueues.wakeIfPending, found, getNextWakeTime, peek],
      .inr ⟨(spec.mp rfl).1, top, head, rfl⟩⟩

end Consistent

end FlutterEngine.Fml.MessageLoopTaskQueues
