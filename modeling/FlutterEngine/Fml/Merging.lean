import FlutterEngine.Fml.MessageLoopTaskQueues

/-!
# Merged queues

Which queues own which, along every run of `MessageLoopTaskQueues`. An owner's
set and the link of a subsumed queue always agree, and a subsumed queue owns
none, so every queue has one root and the queues fall into groups.
-/

namespace FlutterEngine.Fml

/-- The calls that change the task queues. -/
inductive Op (τ : Type) where
  | createTaskQueue
  | setWakeable (queueId : TaskQueueId)
  | registerTask (queueId : TaskQueueId) (task : τ) (targetTime : Int) (grade : TaskSourceGrade)
  | getNextTaskToRun (queueId : TaskQueueId) (fromTime : Int)
  | merge (owner subsumed : TaskQueueId)
  | unmerge (owner subsumed : TaskQueueId)
  | pauseSecondarySource (queueId : TaskQueueId)
  | resumeSecondarySource (queueId : TaskQueueId)
  | dispose (queueId : TaskQueueId)
  | disposeTasks (queueId : TaskQueueId)
deriving DecidableEq, Repr

namespace MessageLoopTaskQueues

variable {τ : Type}

/-- The state a call leaves. -/
def call (queues : MessageLoopTaskQueues τ) : Op τ → Option (MessageLoopTaskQueues τ)
  | .createTaskQueue => some queues.createTaskQueue.2
  | .setWakeable queueId => queues.setWakeable queueId
  | .registerTask queueId task targetTime grade => queues.registerTask queueId task targetTime grade
  | .getNextTaskToRun queueId fromTime => (queues.getNextTaskToRun queueId fromTime).map (·.2)
  | .merge owner subsumed => (queues.merge owner subsumed).map (·.2)
  | .unmerge owner subsumed => (queues.unmerge owner subsumed).map (·.2)
  | .pauseSecondarySource queueId => queues.pauseSecondarySource queueId
  | .resumeSecondarySource queueId => queues.resumeSecondarySource queueId
  | .dispose queueId => queues.dispose queueId
  | .disposeTasks queueId => queues.disposeTasks queueId

/-- The process-wide instance, driven by its callers one call at a time. -/
def machine (τ : Type) : Std.Machine (MessageLoopTaskQueues τ) (Op τ) where
  Initial queues := queues = {}
  step := call

variable (queues : MessageLoopTaskQueues τ)

/-- The queue's entry, a blank one when there is none. -/
def entry (queueId : TaskQueueId) : TaskQueueEntry τ :=
  (queues.queueEntries queueId).getD { taskSource := .create queueId, createdFor := queueId }

def source (queueId : TaskQueueId) : TaskSource τ := (queues.entry queueId).taskSource

/-- The queue exists. -/
def Live (queueId : TaskQueueId) : Prop := (queues.queueEntries queueId).isSome

/-- The queue that schedules this queue's tasks. -/
def root (queueId : TaskQueueId) : TaskQueueId := (queues.entry queueId).subsumedBy.getD queueId

/-- The queues whose tasks this queue schedules. -/
def group (queueId : TaskQueueId) : List TaskQueueId := queueId :: (queues.entry queueId).ownerOf

variable {queues}

variable {queueId : TaskQueueId}

theorem live_iff :
    queues.Live queueId ↔ queues.queueEntries queueId = some (queues.entry queueId) := by
  unfold Live entry
  cases queues.queueEntries queueId <;> simp

theorem live_of_at {entry : TaskQueueEntry τ}
    (found : queues.queueEntries queueId = some entry) : queues.Live queueId := by
  simp [Live, found]

theorem entry_of_at {entry : TaskQueueEntry τ}
    (found : queues.queueEntries queueId = some entry) : queues.entry queueId = entry := by
  simp [MessageLoopTaskQueues.entry, found]

/-- A queue that does not exist has a blank entry. -/
theorem entry_of_absent (absent : ¬queues.Live queueId) :
    queues.entry queueId = { taskSource := .create queueId, createdFor := queueId } := by
  simp only [Live, Option.not_isSome_iff_eq_none] at absent
  simp [entry, absent]

variable {change : TaskQueueEntry τ → TaskQueueEntry τ}

variable {other : TaskQueueId}

@[simp] theorem live_modify : (queues.modify queueId change).Live other ↔ queues.Live other := by
  simp only [Live, modify, Function.update_apply]
  split
  · rename_i same
    rw [same, Option.isSome_map]
  · rfl

@[simp] theorem live_modifySource {change : TaskSource τ → TaskSource τ} :
    (queues.modifySource queueId change).Live other ↔ queues.Live other := live_modify

@[simp] theorem live_wakeUp {time : Int} :
    (queues.wakeUp queueId time).Live other ↔ queues.Live other := live_modify

theorem entry_modify (live : queues.Live queueId) (change : TaskQueueEntry τ → TaskQueueEntry τ)
    (other : TaskQueueId) :
    (queues.modify queueId change).entry other =
      if other = queueId then change (queues.entry queueId) else queues.entry other := by
  simp only [entry, modify, Function.update_apply]
  split
  · rw [live_iff.mp live]
    rfl
  · rfl

/-- What a change of a source changes. -/
theorem entry_modifySource (live : queues.Live queueId) (change : TaskSource τ → TaskSource τ)
    (other : TaskQueueId) :
    (queues.modifySource queueId change).entry other =
      { queues.entry other with
        taskSource := if other = queueId then change (queues.source queueId)
          else queues.source other } := by
  rw [modifySource, entry_modify live]
  split
  · rename_i same
    subst same
    rfl
  · rfl

/-- What a `WakeUp` changes. -/
theorem entry_wakeUp (live : queues.Live queueId) (time : Int) (other : TaskQueueId) :
    (queues.wakeUp queueId time).entry other =
      { queues.entry other with
        wakeable := if other = queueId then (queues.entry queueId).wakeable.map (time :: ·)
          else (queues.entry other).wakeable } := by
  rw [wakeUp, entry_modify live]
  split
  · rename_i same
    subst same
    rfl
  · rfl

@[simp] theorem taskQueueIdCounter_modify :
    (queues.modify queueId change).taskQueueIdCounter = queues.taskQueueIdCounter := rfl

@[simp] theorem order_modify : (queues.modify queueId change).order = queues.order := rfl

/-! ## The invariant -/

/-- What every state of the queues satisfies when each resume answers a pause. -/
structure Consistent (queues : MessageLoopTaskQueues τ) : Prop where
  fresh : ∀ queueId, queues.Live queueId → queueId < queues.taskQueueIdCounter
  named : ∀ queueId, (queues.source queueId).taskQueueId = queueId
  resumed : ∀ queueId, 0 ≤ (queues.source queueId).secondaryPauseRequests
  linked : ∀ owner subsumed,
    subsumed ∈ (queues.entry owner).ownerOf ↔ (queues.entry subsumed).subsumedBy = some owner
  nodup : ∀ owner, (queues.entry owner).ownerOf.Nodup
  flat : ∀ {queueId owner}, (queues.entry queueId).subsumedBy = some owner →
    (queues.entry queueId).ownerOf = []

namespace Consistent

variable (consistent : queues.Consistent)

include consistent

/-- A queue with a link, owned or owning, exists. -/
theorem live_of_owned {owner subsumed : TaskQueueId}
    (owned : subsumed ∈ (queues.entry owner).ownerOf) :
    queues.Live owner ∧ queues.Live subsumed := by
  constructor
  · by_contra absent
    rw [entry_of_absent absent] at owned
    exact List.not_mem_nil owned
  · by_contra absent
    have link := (consistent.linked owner subsumed).mp owned
    rw [entry_of_absent absent] at link
    cases link

theorem live_group {member : TaskQueueId}
    (live : queues.Live queueId) (owned : member ∈ queues.group queueId) : queues.Live member := by
  rcases List.mem_cons.mp owned with rfl | owned
  · exact live
  · exact (consistent.live_of_owned owned).2

/-- The root of a queue is not itself subsumed. -/
theorem root_unsubsumed (queueId : TaskQueueId) :
    (queues.entry (queues.root queueId)).subsumedBy = none := by
  unfold root
  cases link : (queues.entry queueId).subsumedBy with
  | none => exact link
  | some owner =>
    have owned := (consistent.linked owner queueId).mpr link
    refine Option.eq_none_iff_forall_ne_some.mpr fun next deeper => ?_
    rw [consistent.flat (show (queues.entry owner).subsumedBy = some next from deeper)] at owned
    exact List.not_mem_nil owned

theorem live_root (live : queues.Live queueId) : queues.Live (queues.root queueId) := by
  unfold root
  cases link : (queues.entry queueId).subsumedBy with
  | none => exact live
  | some owner => exact (consistent.live_of_owned ((consistent.linked owner queueId).mpr link)).1

/-- A queue that is not subsumed schedules exactly the queues it is the root of. -/
theorem mem_group {member : TaskQueueId} (unsubsumed : (queues.entry queueId).subsumedBy = none) :
    member ∈ queues.group queueId ↔ queues.root member = queueId := by
  rw [group, List.mem_cons, consistent.linked, root]
  constructor
  · rintro (rfl | link)
    · rw [unsubsumed]
      rfl
    · rw [link]
      rfl
  · intro same
    cases link : (queues.entry member).subsumedBy with
    | none => exact .inl (by simpa [link] using same)
    | some owner => exact .inr (by simpa [link] using same)

theorem nodup_group (queueId : TaskQueueId) :
    (queues.group queueId).Nodup := by
  refine List.nodup_cons.mpr ⟨fun owned => ?_, consistent.nodup queueId⟩
  have link := (consistent.linked queueId queueId).mp owned
  rw [consistent.flat link] at owned
  exact List.not_mem_nil owned

end Consistent

/-! ## What each call keeps -/

theorem consistent_initial : ({} : MessageLoopTaskQueues τ).Consistent where
  fresh _ live := by cases live
  named _ := rfl
  resumed _ := Int.le_refl 0
  linked _ _ := by simp [entry]
  nodup _ := .nil
  flat link := by cases link

variable {next : MessageLoopTaskQueues τ}

/-- A state with the same links, and with sources that are named and paused as they should be. -/
theorem Consistent.sameLinks (consistent : queues.Consistent)
    (fresh : ∀ queueId, next.Live queueId → queueId < next.taskQueueIdCounter)
    (sources : ∀ queueId, (next.source queueId).taskQueueId = queueId ∧
      0 ≤ (next.source queueId).secondaryPauseRequests)
    (links : ∀ queueId, (next.entry queueId).ownerOf = (queues.entry queueId).ownerOf ∧
      (next.entry queueId).subsumedBy = (queues.entry queueId).subsumedBy) : next.Consistent where
  fresh := fresh
  named queueId := (sources queueId).1
  resumed queueId := (sources queueId).2
  linked owner subsumed := by
    rw [(links owner).1, (links subsumed).2]
    exact consistent.linked owner subsumed
  nodup owner := by
    rw [(links owner).1]
    exact consistent.nodup owner
  flat {queueId owner} := by
    rw [(links queueId).1, (links queueId).2]
    exact consistent.flat

section

variable (consistent : queues.Consistent) (live : queues.Live queueId)

include consistent live

/-- A change of one entry that leaves its links and the name of its source. -/
theorem Consistent.modify (links : ∀ entry, (change entry).ownerOf = entry.ownerOf ∧
      (change entry).subsumedBy = entry.subsumedBy)
    (named : (change (queues.entry queueId)).taskSource.taskQueueId = queueId)
    (resumed : 0 ≤ (change (queues.entry queueId)).taskSource.secondaryPauseRequests) :
    (queues.modify queueId change).Consistent := by
  refine consistent.sameLinks (fun other => ?_) (fun other => ?_) fun other => ?_
  · simpa using consistent.fresh other
  · rw [source, entry_modify live]
    split
    · rename_i same
      exact ⟨named.trans same.symm, resumed⟩
    · exact ⟨consistent.named other, consistent.resumed other⟩
  · rw [entry_modify live]
    split
    · rename_i same
      rw [same]
      exact links _
    · exact ⟨rfl, rfl⟩

theorem Consistent.wakeUp (time : Int) : (queues.wakeUp queueId time).Consistent :=
  consistent.modify live (fun _ => ⟨rfl, rfl⟩) (consistent.named queueId) (consistent.resumed queueId)

theorem Consistent.modifySource {change : TaskSource τ → TaskSource τ}
    (named : (change (queues.source queueId)).taskQueueId = (queues.source queueId).taskQueueId)
    (resumed : 0 ≤ (change (queues.source queueId)).secondaryPauseRequests) :
    (queues.modifySource queueId change).Consistent :=
  consistent.modify live (fun _ => ⟨rfl, rfl⟩) (named.trans (consistent.named queueId)) resumed

end

theorem live_of_hasPendingTasks {pending : Bool}
    (found : queues.hasPendingTasks queueId = some pending) : queues.Live queueId := by
  obtain ⟨entry, live, -⟩ := Option.bind_eq_some_iff.mp found
  exact live_of_at live

variable {woken : MessageLoopTaskQueues τ}

/-- A conditional wake-up changes nothing but the wake-ups of its queue. -/
theorem wakeIfPending_cases (wakes : queues.wakeIfPending queueId = some woken) :
    queues.Live queueId ∧ (woken = queues ∨ ∃ time, woken = queues.wakeUp queueId time) := by
  obtain ⟨pending, found, rest⟩ := Option.bind_eq_some_iff.mp wakes
  refine ⟨live_of_hasPendingTasks found, ?_⟩
  cases pending with
  | false => exact .inl (Option.some_inj.mp rest).symm
  | true =>
    obtain ⟨time, -, rest⟩ := Option.bind_eq_some_iff.mp rest
    exact .inr ⟨time, (Option.some_inj.mp rest).symm⟩

/-- A conditional wake-up keeps every queue, link and source, and every Wakeable. -/
theorem wakeIfPending_keeps (wakes : queues.wakeIfPending queueId = some woken)
    (other : TaskQueueId) :
    (woken.Live other ↔ queues.Live other) ∧
      (woken.entry other).wakeable.isSome = (queues.entry other).wakeable.isSome ∧
      woken.entry other = { queues.entry other with wakeable := (woken.entry other).wakeable } := by
  obtain ⟨live, rfl | ⟨time, rfl⟩⟩ := wakeIfPending_cases wakes
  · exact ⟨Iff.rfl, rfl, rfl⟩
  · refine ⟨live_wakeUp, ?_, ?_⟩
    · rw [entry_wakeUp live]
      dsimp only
      split
      · rename_i same
        rw [same, Option.isSome_map]
      · rfl
    · rw [entry_wakeUp live]

section

variable (consistent : queues.Consistent)

include consistent

theorem Consistent.wakeIfPending
    (wakes : queues.wakeIfPending queueId = some woken) : woken.Consistent := by
  obtain ⟨live, rfl | ⟨time, rfl⟩⟩ := wakeIfPending_cases wakes
  · exact consistent
  · exact consistent.wakeUp live time

/-- The count of registrations is no part of the invariant. -/
theorem Consistent.withOrder (count : Nat) :
    { queues with order := count }.Consistent :=
  ⟨consistent.fresh, consistent.named, consistent.resumed, consistent.linked, consistent.nodup,
    consistent.flat⟩

/-- A new queue's entry is the blank one its id already had. -/
theorem Consistent.entry_createTaskQueue (queueId : TaskQueueId) :
    queues.createTaskQueue.2.entry queueId = queues.entry queueId := by
  by_cases same : queueId = queues.taskQueueIdCounter
  · have absent : ¬queues.Live queueId := fun live =>
      absurd same (Nat.ne_of_lt (consistent.fresh queueId live))
    rw [entry_of_absent absent, same]
    simp [MessageLoopTaskQueues.createTaskQueue, entry]
  · simp [MessageLoopTaskQueues.createTaskQueue, entry, same]

theorem Consistent.createTaskQueue :
    queues.createTaskQueue.2.Consistent := by
  have blank := consistent.entry_createTaskQueue
  refine consistent.sameLinks (fun queueId live => ?_) (fun queueId => ?_) fun queueId => ?_
  · have earlier := consistent.fresh queueId
    simp only [Live, MessageLoopTaskQueues.createTaskQueue, Function.update_apply] at live earlier ⊢
    split at live
    · rename_i same
      exact same ▸ Nat.lt_succ_self _
    · exact Nat.lt_succ_of_lt (earlier live)
  · rw [source, blank]
    exact ⟨consistent.named queueId, consistent.resumed queueId⟩
  · rw [blank]
    exact ⟨rfl, rfl⟩

theorem Consistent.setWakeable
    (set : queues.setWakeable queueId = some next) : next.Consistent := by
  obtain ⟨entry, found, rest⟩ := Option.bind_eq_some_iff.mp set
  simp only [Option.bind_eq_bind, Option.pure_def] at rest
  split at rest
  · cases rest
  · cases rest
    exact consistent.modify (live_of_at found) (fun _ => ⟨rfl, rfl⟩) (consistent.named queueId)
      (consistent.resumed queueId)

end

/-- The state `RegisterTask` leaves before its wake-up. -/
def registered (queues : MessageLoopTaskQueues τ) (queueId : TaskQueueId) (task : τ)
    (targetTime : Int) (grade : TaskSourceGrade) : MessageLoopTaskQueues τ :=
  { queues.modifySource queueId (·.registerTask (queues.newTask task targetTime grade)) with
    order := queues.order + 1 }

variable {grade : TaskSourceGrade}
variable {task : τ} {targetTime fromTime : Int} {returned : Option (TopTask τ)}
  {merged unmerged : Bool}

/-- `RegisterTask` adds the task to its queue and wakes the queue's root. -/
theorem registerTask_cases
    (registers : queues.registerTask queueId task targetTime grade = some next) :
    queues.Live queueId ∧
      (queues.registered queueId task targetTime grade).wakeIfPending (queues.root queueId) =
        some next := by
  obtain ⟨entry, found, rest⟩ := Option.bind_eq_some_iff.mp registers
  rw [root, entry_of_at found]
  exact ⟨live_of_at found, rest⟩

/-- What a registration changes. -/
theorem entry_registered (live : queues.Live queueId) (task : τ) (targetTime : Int)
    (grade : TaskSourceGrade) (other : TaskQueueId) :
    (queues.registered queueId task targetTime grade).entry other =
      { queues.entry other with
        taskSource := if other = queueId then
            (queues.source queueId).registerTask (queues.newTask task targetTime grade)
          else queues.source other } :=
  entry_modifySource live (·.registerTask (queues.newTask task targetTime grade)) other

@[simp] theorem live_registered :
    (queues.registered queueId task targetTime grade).Live other ↔ queues.Live other := live_modify

theorem Consistent.registered (consistent : queues.Consistent) (live : queues.Live queueId)
    (task : τ) (targetTime : Int) (grade : TaskSourceGrade) :
    (queues.registered queueId task targetTime grade).Consistent :=
  Consistent.withOrder (consistent.modifySource live (by simp)
    (by simpa using consistent.resumed queueId)) _

theorem Consistent.registerTask (consistent : queues.Consistent)
    (registers : queues.registerTask queueId task targetTime grade = some next) :
    next.Consistent := by
  obtain ⟨live, wakes⟩ := registerTask_cases registers
  exact (consistent.registered live task targetTime grade).wakeIfPending wakes

theorem Consistent.pauseSecondarySource (consistent : queues.Consistent)
    (pauses : queues.pauseSecondarySource queueId = some next) : next.Consistent := by
  obtain ⟨entry, found, rest⟩ := Option.bind_eq_some_iff.mp pauses
  cases rest
  exact consistent.modifySource (live_of_at found) rfl
    (Int.le_trans (consistent.resumed queueId) (Int.le_add_one (Int.le_refl _)))

/-- A resume keeps the invariant if it answers a pause. -/
theorem Consistent.resumeSecondarySource (consistent : queues.Consistent)
    (paused : (queues.source queueId).paused)
    (resumes : queues.resumeSecondarySource queueId = some next) : next.Consistent := by
  obtain ⟨entry, found, rest⟩ := Option.bind_eq_some_iff.mp resumes
  exact (consistent.modifySource (live_of_at found) rfl (Int.sub_nonneg_of_le paused)).wakeIfPending rest

/-- `GetNextTaskToRun` leaves the queues alone when nothing is pending; else it
wakes the queue for its next task, and pops that task if it is due. -/
theorem getNextTaskToRun_cases
    (gets : queues.getNextTaskToRun queueId fromTime = some (returned, next)) :
    (queues.hasPendingTasks queueId = some false ∧ returned = none ∧ next = queues) ∨
    (queues.hasPendingTasks queueId = some true ∧
      ∃ top, queues.peekNextTask queueId = some top ∧
        ((fromTime < top.task.targetTime ∧ returned = none ∧
            next = queues.wakeUp queueId top.task.targetTime) ∨
          (top.task.targetTime ≤ fromTime ∧ returned = some top ∧ queues.Live top.taskQueueId ∧
            next = (queues.wakeUp queueId top.task.targetTime).modifySource top.taskQueueId
              (·.popTask top.task.taskSourceGrade)))) := by
  obtain ⟨pending, found, rest⟩ := Option.bind_eq_some_iff.mp gets
  cases pending with
  | false =>
    cases rest
    exact .inl ⟨found, rfl, rfl⟩
  | true =>
    simp only [Bool.not_true, Bool.false_eq_true, if_false, found, Option.bind_eq_bind,
      Option.bind_some, Option.pure_def, Option.bind_eq_some_iff] at rest
    obtain ⟨top, peeked, time, wakes, rest⟩ := rest
    have same : top.task.targetTime = time := by simpa [getNextWakeTime, peeked] using wakes
    subst same
    refine .inr ⟨found, top, peeked, ?_⟩
    split at rest
    · rename_i early
      cases rest
      exact .inl ⟨early, rfl, rfl⟩
    · rename_i due
      obtain ⟨entry, found, rest⟩ := Option.bind_eq_some_iff.mp rest
      cases rest
      exact .inr ⟨Int.not_lt.mp due, rfl, by simpa using live_of_at found, rfl⟩

theorem Consistent.getNextTaskToRun (consistent : queues.Consistent)
    (gets : queues.getNextTaskToRun queueId fromTime = some (returned, next)) :
    next.Consistent := by
  obtain ⟨-, -, rfl⟩ | ⟨pending, top, -, ⟨-, -, rfl⟩ | ⟨-, -, named, rfl⟩⟩ :=
    getNextTaskToRun_cases gets
  · exact consistent
  · exact consistent.wakeUp (live_of_hasPendingTasks pending) _
  · have woken := consistent.wakeUp (live_of_hasPendingTasks pending) top.task.targetTime
    exact woken.modifySource (by simpa using named) (by simp)
      (by simpa using woken.resumed top.taskQueueId)

/-- The state `Merge` leaves before its wake-up. -/
def mergeLinks (queues : MessageLoopTaskQueues τ) (owner subsumed : TaskQueueId) :
    MessageLoopTaskQueues τ :=
  (queues.modify owner fun entry =>
    { entry with ownerOf := entry.ownerOf.orderedInsert (· ≤ ·) subsumed }).modify subsumed
      fun entry => { entry with subsumedBy := some owner }

/-- The state `Unmerge` leaves before its wake-ups. -/
def unmergeLinks (queues : MessageLoopTaskQueues τ) (owner subsumed : TaskQueueId) :
    MessageLoopTaskQueues τ :=
  (queues.modify subsumed fun entry => { entry with subsumedBy := none }).modify owner
    fun entry => { entry with ownerOf := entry.ownerOf.erase subsumed }

variable {owner subsumed : TaskQueueId}

/-- `Merge` refuses, or changes nothing, or links two queues neither of which is
subsumed and the second of which owns none, and wakes the owner. -/
theorem merge_cases (merges : queues.merge owner subsumed = some (merged, next)) :
    next = queues ∨
    (merged = true ∧ owner ≠ subsumed ∧ queues.Live owner ∧ queues.Live subsumed ∧
      (queues.entry owner).subsumedBy = none ∧ (queues.entry subsumed).ownerOf = [] ∧
      (queues.entry subsumed).subsumedBy = none ∧
      (queues.mergeLinks owner subsumed).wakeIfPending owner = some next) := by
  unfold merge at merges
  split at merges
  · cases merges
    exact .inl rfl
  rename_i distinct
  obtain ⟨ownerEntry, ownerFound, rest⟩ := Option.bind_eq_some_iff.mp merges
  obtain ⟨subsumedEntry, subsumedFound, rest⟩ := Option.bind_eq_some_iff.mp rest
  rw [← entry_of_at ownerFound, ← entry_of_at subsumedFound] at rest
  simp only [Option.pure_def] at rest
  split at rest
  · cases rest
    exact .inl rfl
  split at rest
  · cases rest
    exact .inl rfl
  split at rest
  · cases rest
    exact .inl rfl
  split at rest
  · cases rest
    exact .inl rfl
  rename_i ownerFree owning subsumedFree
  obtain ⟨woken, wakes, rest⟩ := Option.bind_eq_some_iff.mp rest
  cases rest
  exact .inr ⟨rfl, distinct, live_of_at ownerFound, live_of_at subsumedFound,
    by simpa using ownerFree, by simpa using owning, by simpa using subsumedFree, wakes⟩

/-- `Unmerge` refuses, or unlinks a queue from its owner and wakes both. -/
theorem unmerge_cases
    (unmerges : queues.unmerge owner subsumed = some (unmerged, next)) : next = queues ∨
    (unmerged = true ∧ queues.Live owner ∧ queues.Live subsumed ∧
      (queues.entry owner).subsumedBy = none ∧ subsumed ∈ (queues.entry owner).ownerOf ∧
      ∃ woken, (queues.unmergeLinks owner subsumed).wakeIfPending owner = some woken ∧
        woken.wakeIfPending subsumed = some next) := by
  obtain ⟨ownerEntry, ownerFound, rest⟩ := Option.bind_eq_some_iff.mp unmerges
  rw [← entry_of_at ownerFound] at rest
  simp only [Option.pure_def] at rest
  split at rest
  · cases rest
    exact .inl rfl
  split at rest
  · cases rest
    exact .inl rfl
  rename_i ownerFree
  obtain ⟨subsumedEntry, subsumedFound, rest⟩ := Option.bind_eq_some_iff.mp rest
  rw [← entry_of_at subsumedFound] at rest
  split at rest
  · cases rest
    exact .inl rfl
  split at rest
  · cases rest
    exact .inl rfl
  rename_i owned
  obtain ⟨woken, wakes, rest⟩ := Option.bind_eq_some_iff.mp rest
  obtain ⟨again, wakesAgain, rest⟩ := Option.bind_eq_some_iff.mp rest
  cases rest
  exact .inr ⟨rfl, live_of_at ownerFound, live_of_at subsumedFound, by simpa using ownerFree,
    by simpa using owned, woken, wakes, wakesAgain⟩

/-- What linking two distinct queues changes: the owner's set and the subsumed
queue's link. -/
theorem entry_mergeLinks (distinct : owner ≠ subsumed) (liveOwner : queues.Live owner)
    (liveSubsumed : queues.Live subsumed) (other : TaskQueueId) :
    (queues.mergeLinks owner subsumed).entry other =
      { queues.entry other with
        ownerOf := if other = owner then (queues.entry owner).ownerOf.orderedInsert (· ≤ ·) subsumed
          else (queues.entry other).ownerOf
        subsumedBy := if other = subsumed then some owner
          else (queues.entry other).subsumedBy } := by
  rw [mergeLinks, entry_modify (by simpa using liveSubsumed), entry_modify liveOwner,
    entry_modify liveOwner, if_neg distinct.symm]
  by_cases isSubsumed : other = subsumed
  · simp [isSubsumed, distinct.symm]
  · by_cases isOwner : other = owner
    · simp [isOwner, distinct]
    · simp [isSubsumed, isOwner]

/-- What unlinking two distinct queues changes. -/
theorem entry_unmergeLinks (distinct : owner ≠ subsumed) (liveOwner : queues.Live owner)
    (liveSubsumed : queues.Live subsumed) (other : TaskQueueId) :
    (queues.unmergeLinks owner subsumed).entry other =
      { queues.entry other with
        ownerOf := if other = owner then (queues.entry owner).ownerOf.erase subsumed
          else (queues.entry other).ownerOf
        subsumedBy := if other = subsumed then none else (queues.entry other).subsumedBy } := by
  rw [unmergeLinks, entry_modify (by simpa using liveOwner), entry_modify liveSubsumed,
    entry_modify liveSubsumed, if_neg distinct]
  by_cases isSubsumed : other = subsumed
  · simp [isSubsumed, distinct.symm]
  · by_cases isOwner : other = owner
    · simp [isOwner, distinct]
    · simp [isSubsumed, isOwner]

theorem Consistent.mergeLinks (consistent : queues.Consistent) (distinct : owner ≠ subsumed)
    (liveOwner : queues.Live owner) (liveSubsumed : queues.Live subsumed)
    (ownerFree : (queues.entry owner).subsumedBy = none)
    (owning : (queues.entry subsumed).ownerOf = [])
    (subsumedFree : (queues.entry subsumed).subsumedBy = none) :
    (queues.mergeLinks owner subsumed).Consistent := by
  have entries := entry_mergeLinks distinct liveOwner liveSubsumed
  have apart : subsumed ∉ (queues.entry owner).ownerOf := by
    rw [consistent.linked, subsumedFree]
    exact (Option.some_ne_none owner).symm
  refine ⟨fun queueId => ?_, fun queueId => ?_, fun queueId => ?_, fun other member => ?_,
    fun other => ?_, fun {queueId other} link => ?_⟩
  · simpa [MessageLoopTaskQueues.mergeLinks] using consistent.fresh queueId
  · rw [source, entries]
    exact consistent.named queueId
  · rw [source, entries]
    exact consistent.resumed queueId
  · have before := consistent.linked other member
    rw [entries, entries]
    by_cases isSubsumed : member = subsumed
    · subst isSubsumed
      have foreign : member ∉ (queues.entry other).ownerOf := by
        rw [before, subsumedFree]
        exact (Option.some_ne_none other).symm
      by_cases isOwner : other = owner
      · simp [isOwner]
      · simp [isOwner, foreign, Ne.symm isOwner]
    · by_cases isOwner : other = owner
      · simp [← isOwner, isSubsumed, before]
      · simp [isOwner, isSubsumed, before]
  · rw [entries]
    dsimp only
    split
    · exact ((List.perm_orderedInsert (· ≤ ·) subsumed _).nodup_iff).mpr
        (List.nodup_cons.mpr ⟨apart, consistent.nodup owner⟩)
    · exact consistent.nodup other
  · rw [entries] at link ⊢
    dsimp only at link ⊢
    split at link
    · rename_i isSubsumed
      rw [isSubsumed, if_neg distinct.symm]
      exact owning
    · rw [if_neg, consistent.flat link]
      rintro rfl
      rw [ownerFree] at link
      cases link

theorem Consistent.unmergeLinks (consistent : queues.Consistent)
    (ownerFree : (queues.entry owner).subsumedBy = none)
    (owned : subsumed ∈ (queues.entry owner).ownerOf) :
    owner ≠ subsumed ∧ (queues.unmergeLinks owner subsumed).Consistent := by
  obtain ⟨liveOwner, liveSubsumed⟩ := consistent.live_of_owned owned
  have link := (consistent.linked owner subsumed).mp owned
  have distinct : owner ≠ subsumed := by
    rintro rfl
    rw [ownerFree] at link
    cases link
  have entries := entry_unmergeLinks distinct liveOwner liveSubsumed
  refine ⟨distinct, fun queueId => ?_, fun queueId => ?_, fun queueId => ?_,
    fun other member => ?_, fun other => ?_, fun {queueId other} remaining => ?_⟩
  · simpa [MessageLoopTaskQueues.unmergeLinks] using consistent.fresh queueId
  · rw [source, entries]
    exact consistent.named queueId
  · rw [source, entries]
    exact consistent.resumed queueId
  · have before := consistent.linked other member
    rw [entries, entries]
    by_cases isSubsumed : member = subsumed
    · subst isSubsumed
      by_cases isOwner : other = owner
      · simp [isOwner, (consistent.nodup owner).mem_erase_iff]
      · have foreign : member ∉ (queues.entry other).ownerOf := by
          rw [before, link, Option.some_inj]
          exact Ne.symm isOwner
        simp [isOwner, foreign]
    · by_cases isOwner : other = owner
      · simp [← isOwner, isSubsumed, before, List.mem_erase_of_ne]
      · simp [isOwner, isSubsumed, before]
  · rw [entries]
    dsimp only
    split
    · exact (consistent.nodup owner).erase _
    · exact consistent.nodup other
  · rw [entries] at remaining ⊢
    dsimp only at remaining ⊢
    split at remaining
    · cases remaining
    · rw [if_neg, consistent.flat remaining]
      rintro rfl
      rw [ownerFree] at remaining
      cases remaining

theorem Consistent.merge (consistent : queues.Consistent)
    (merges : queues.merge owner subsumed = some (merged, next)) : next.Consistent := by
  obtain rfl | ⟨-, distinct, liveOwner, liveSubsumed, ownerFree, owning, subsumedFree, wakes⟩ :=
    merge_cases merges
  · exact consistent
  · exact (consistent.mergeLinks distinct liveOwner liveSubsumed ownerFree owning
      subsumedFree).wakeIfPending wakes

theorem Consistent.unmerge (consistent : queues.Consistent)
    (unmerges : queues.unmerge owner subsumed = some (unmerged, next)) : next.Consistent := by
  obtain rfl | ⟨-, -, -, ownerFree, owned, woken, wakes, wakesAgain⟩ := unmerge_cases unmerges
  · exact consistent
  · exact ((consistent.unmergeLinks ownerFree owned).2.wakeIfPending wakes).wakeIfPending wakesAgain

theorem entry_dispose (disposes : queues.dispose queueId = some next) (other : TaskQueueId) :
    (next.Live other ↔ queues.Live other ∧ other ∉ queues.group queueId) ∧
    next.entry other =
      if other ∈ queues.group queueId then
        { taskSource := .create other, createdFor := other }
      else queues.entry other := by
  have entries : next.queueEntries other =
      if other ∈ queues.group queueId then none else queues.queueEntries other := by
    obtain ⟨entry, found, rest⟩ := Option.bind_eq_some_iff.mp disposes
    cases rest
    simp [group, entry_of_at found]
  simp only [Live, entry, entries]
  split <;> simp [*]

theorem counts_dispose (disposes : queues.dispose queueId = some next) :
    queues.Live queueId ∧ next.taskQueueIdCounter = queues.taskQueueIdCounter ∧
      next.order = queues.order := by
  obtain ⟨entry, found, rest⟩ := Option.bind_eq_some_iff.mp disposes
  cases rest
  exact ⟨live_of_at found, rfl, rfl⟩

/-- Only a queue that is not subsumed may be disposed. -/
theorem Consistent.dispose (consistent : queues.Consistent)
    (unsubsumed : (queues.entry queueId).subsumedBy = none)
    (disposes : queues.dispose queueId = some next) : next.Consistent := by
  have entries := fun other => (entry_dispose disposes other).2
  have groups : ∀ owner subsumed, (queues.entry subsumed).subsumedBy = some owner →
      (owner ∈ queues.group queueId ↔ subsumed ∈ queues.group queueId) := by
    intro owner subsumed link
    have free := consistent.root_unsubsumed subsumed
    simp only [consistent.mem_group unsubsumed, root, link, Option.getD_some] at free ⊢
    rw [free, Option.getD_none]
  have counter := (counts_dispose disposes).2.1
  refine ⟨fun other live => ?_, fun other => ?_, fun other => ?_, fun owner subsumed => ?_,
    fun owner => ?_, fun {other owner} link => ?_⟩
  · rw [counter]
    exact consistent.fresh other ((entry_dispose disposes other).1.mp live).1
  · rw [source, entries]
    split
    · rfl
    · exact consistent.named other
  · rw [source, entries]
    split
    · exact Int.le_refl 0
    · exact consistent.resumed other
  · have before := consistent.linked owner subsumed
    have together := groups owner subsumed
    rw [entries, entries]
    grind
  · rw [entries]
    split
    · exact .nil
    · exact consistent.nodup owner
  · rw [entries] at link ⊢
    split_ifs at link ⊢
    exact consistent.flat link

theorem entry_disposeTasks (disposes : queues.disposeTasks queueId = some next)
    (other : TaskQueueId) : (next.Live other ↔ queues.Live other) ∧
    next.entry other =
      if other ∈ queues.group queueId then
        { queues.entry other with taskSource := (queues.source other).shutDown }
      else queues.entry other := by
  have entries : next.queueEntries other =
      if other ∈ queues.group queueId then
        (queues.queueEntries other).map fun entry =>
          { entry with taskSource := entry.taskSource.shutDown }
      else queues.queueEntries other := by
    obtain ⟨entry, found, rest⟩ := Option.bind_eq_some_iff.mp disposes
    simp only [Option.bind_eq_bind, Option.pure_def] at rest
    split at rest
    · cases rest
    · cases rest
      simp [group, entry_of_at found]
  simp only [Live, source, entry, entries]
  cases queues.queueEntries other with
  | none => split <;> exact ⟨Iff.rfl, rfl⟩
  | some found => split <;> exact ⟨by simp, rfl⟩

theorem counts_disposeTasks (disposes : queues.disposeTasks queueId = some next) :
    queues.Live queueId ∧ next.taskQueueIdCounter = queues.taskQueueIdCounter ∧
      next.order = queues.order := by
  obtain ⟨entry, found, rest⟩ := Option.bind_eq_some_iff.mp disposes
  simp only [Option.bind_eq_bind, Option.pure_def] at rest
  split at rest
  · cases rest
  · cases rest
    exact ⟨live_of_at found, rfl, rfl⟩

theorem Consistent.disposeTasks (consistent : queues.Consistent)
    (disposes : queues.disposeTasks queueId = some next) : next.Consistent := by
  have counter := (counts_disposeTasks disposes).2.1
  refine consistent.sameLinks (fun other live => ?_) (fun other => ?_) fun other => ?_
  · rw [counter]
    exact consistent.fresh other ((entry_disposeTasks disposes other).1.mp live)
  · rw [source, (entry_disposeTasks disposes other).2]
    split <;> exact ⟨consistent.named other, consistent.resumed other⟩
  · rw [(entry_disposeTasks disposes other).2]
    split <;> exact ⟨rfl, rfl⟩

/-- The debug assertions on callers: a resume answers a pause, and a queue that
is disposed is not subsumed. -/
def Asserted (queues : MessageLoopTaskQueues τ) : Op τ → Prop
  | .resumeSecondarySource queueId => (queues.source queueId).paused
  | .dispose queueId | .disposeTasks queueId => (queues.entry queueId).subsumedBy = none
  | _ => True

instance (op : Op τ) : Decidable (queues.Asserted op) :=
  match op with
  | .resumeSecondarySource queueId => inferInstanceAs (Decidable (queues.source queueId).paused)
  | .dispose queueId | .disposeTasks queueId =>
    inferInstanceAs (Decidable ((queues.entry queueId).subsumedBy = none))
  | .createTaskQueue | .setWakeable _ | .registerTask .. | .getNextTaskToRun .. | .merge ..
  | .unmerge .. | .pauseSecondarySource _ => inferInstanceAs (Decidable True)

/-- Every call that meets the assertions keeps the invariant. -/
theorem Consistent.call {op : Op τ} (consistent : queues.Consistent) (asserted : queues.Asserted op)
    (calls : queues.call op = some next) : next.Consistent := by
  cases op with
  | createTaskQueue =>
    cases calls
    exact consistent.createTaskQueue
  | setWakeable queueId => exact consistent.setWakeable calls
  | registerTask queueId task targetTime grade => exact consistent.registerTask calls
  | getNextTaskToRun queueId fromTime =>
    obtain ⟨⟨returned, _⟩, gets, rfl⟩ := Option.map_eq_some_iff.mp calls
    exact consistent.getNextTaskToRun gets
  | merge owner subsumed =>
    obtain ⟨⟨merged, _⟩, merges, rfl⟩ := Option.map_eq_some_iff.mp calls
    exact consistent.merge merges
  | unmerge owner subsumed =>
    obtain ⟨⟨unmerged, _⟩, unmerges, rfl⟩ := Option.map_eq_some_iff.mp calls
    exact consistent.unmerge unmerges
  | pauseSecondarySource queueId => exact consistent.pauseSecondarySource calls
  | resumeSecondarySource queueId => exact consistent.resumeSecondarySource asserted calls
  | dispose queueId => exact consistent.dispose asserted calls
  | disposeTasks queueId => exact consistent.disposeTasks calls

/-- The invariant holds in every state reached by calls that meet the assertions. -/
theorem reachable_consistent (reached : (machine τ).Reachable Asserted queues) :
    queues.Consistent :=
  reached.invariant Consistent (fun _ initial => initial ▸ consistent_initial)
    fun consistent asserted calls => consistent.call asserted calls

/-! ## Links between entries -/

/-- The set on an owner and the link of a subsumed queue name each other, among entries that
exist, and no entry has both. -/
structure LinksAgree (queues : MessageLoopTaskQueues τ) : Prop where
  owned : ∀ {owner subsumed entry}, queues.queueEntries owner = some entry →
    subsumed ∈ entry.ownerOf →
      ∃ other, queues.queueEntries subsumed = some other ∧ other.subsumedBy = some owner
  linked : ∀ {queueId owner entry}, queues.queueEntries queueId = some entry →
    entry.subsumedBy = some owner →
      ∃ other, queues.queueEntries owner = some other ∧ queueId ∈ other.ownerOf
  flat : ∀ {queueId entry}, queues.queueEntries queueId = some entry →
    entry.ownerOf = [] ∨ entry.subsumedBy = none

theorem Consistent.linksAgree (consistent : queues.Consistent) : queues.LinksAgree where
  owned {owner subsumed entry} found owned := by
    rw [← entry_of_at found] at owned
    exact ⟨_, live_iff.mp (consistent.live_of_owned owned).2,
      (consistent.linked owner subsumed).mp owned⟩
  linked {queueId owner entry} found link := by
    rw [← entry_of_at found] at link
    have owned := (consistent.linked owner queueId).mpr link
    exact ⟨_, live_iff.mp (consistent.live_of_owned owned).1, owned⟩
  flat {queueId entry} found := by
    cases link : entry.subsumedBy with
    | none => exact .inr rfl
    | some owner =>
      rw [← entry_of_at found] at link ⊢
      exact .inl (consistent.flat link)

/-- A call of `Merge` or `Unmerge` that returns false changes nothing. -/
def RefusalsChangeNothing (queues : MessageLoopTaskQueues τ) : Prop :=
  ∀ owner subsumed next,
    queues.merge owner subsumed = some (false, next) ∨
      queues.unmerge owner subsumed = some (false, next) → next = queues

theorem refusalsChangeNothing : queues.RefusalsChangeNothing := by
  rintro owner subsumed next (refuses | refuses)
  · obtain same | ⟨returned, -⟩ := merge_cases refuses
    · exact same
    · contradiction
  · obtain same | ⟨returned, -⟩ := unmerge_cases refuses
    · exact same
    · contradiction

/-- Whatever calls have been made, links agree and refusals change nothing. -/
theorem reachable_linksAgree (reached : (machine τ).Reachable Asserted queues) :
    queues.LinksAgree ∧ queues.RefusalsChangeNothing :=
  ⟨(reachable_consistent reached).linksAgree, refusalsChangeNothing⟩

/-- One queue owns two others, of which one has been merged again. -/
theorem reachable_linksAgree_remerged :
    ∃ queues : MessageLoopTaskQueues Unit,
      (queues.owns 0 1 = some true ∧ queues.owns 0 2 = some true) ∧
        queues.LinksAgree ∧ queues.RefusalsChangeNothing := by
  have start : (machine Unit).Reachable Asserted {} := .initial rfl
  obtain ⟨queues, reached, owns⟩ := start.exists_of_run
    [.createTaskQueue, .createTaskQueue, .createTaskQueue, .merge 0 1, .merge 0 2, .merge 2 1,
      .unmerge 0 1, .merge 0 1]
    (fun queues => queues.owns 0 1 = some true ∧ queues.owns 0 2 = some true)
    (by decide) (by decide)
  exact ⟨queues, of_decide_eq_true owns, reachable_linksAgree reached⟩

end MessageLoopTaskQueues

end FlutterEngine.Fml
