import FlutterEngine.Std.Machine
import FlutterEngine.Fml.TaskSource

/-!
# The task queues of all message loops

`MessageLoopTaskQueues` of `message_loop_task_queues.cc`. Every member function
holds `queue_mutex_` throughout, so each is one step. A `std::map::at` of an
absent id and a failed `FML_CHECK` end the program; both are `none`. The debug
assertions are not checked. Task observers and the thread-local task grade are
left out: no operation here reads them.
-/

namespace FlutterEngine.Fml

/-- A queue's tasks and its place among merged queues. `wakeable` holds the
`WakeUp` calls delivered to the queue's own loop, the last one first. -/
structure TaskQueueEntry (τ : Type) where
  wakeable : Option (List Int) := none
  taskSource : TaskSource τ
  /-- The queues owned by this queue, in the order of a `std::set`. -/
  ownerOf : List TaskQueueId := []
  /-- The queue that subsumes this queue, if any. -/
  subsumedBy : Option TaskQueueId := none
  createdFor : TaskQueueId

/-- The value `order_++` yields as a `size_t`, after `count` increments of a
`std::atomic_int`: it wraps at 2^32, and its negative half converts to the top
of the `size_t` range. -/
def orderOf (count : Nat) : Nat :=
  if count % 2 ^ 32 < 2 ^ 31 then count % 2 ^ 32 else 2 ^ 64 - 2 ^ 32 + count % 2 ^ 32

/-- The order is that of registration for the first 2^32 registrations. -/
theorem orderOf_lt {first second : Nat} (before : first < second) (bounded : second < 2 ^ 32) :
    orderOf first < orderOf second := by
  unfold orderOf
  rw [Nat.mod_eq_of_lt bounded, Nat.mod_eq_of_lt (Nat.lt_trans before bounded)]
  split <;> split <;> omega

/-- `order` counts the increments of `order_`. -/
@[ext] structure MessageLoopTaskQueues (τ : Type) where
  queueEntries : TaskQueueId → Option (TaskQueueEntry τ) := fun _ => none
  taskQueueIdCounter : Nat := 0
  order : Nat := 0

namespace MessageLoopTaskQueues

variable {τ : Type} (queues : MessageLoopTaskQueues τ)

/-- Write through the pointer `queue_entries_.at(queueId)`. -/
def modify (queueId : TaskQueueId) (change : TaskQueueEntry τ → TaskQueueEntry τ) :
    MessageLoopTaskQueues τ :=
  { queues with
    queueEntries :=
      Function.update queues.queueEntries queueId ((queues.queueEntries queueId).map change) }

def modifySource (queueId : TaskQueueId) (change : TaskSource τ → TaskSource τ) :
    MessageLoopTaskQueues τ :=
  queues.modify queueId fun entry => { entry with taskSource := change entry.taskSource }

def createTaskQueue : TaskQueueId × MessageLoopTaskQueues τ :=
  let loopId := queues.taskQueueIdCounter
  (loopId, { queues with
    taskQueueIdCounter := loopId + 1
    queueEntries := Function.update queues.queueEntries loopId
      (some { taskSource := .create loopId, createdFor := loopId }) })

/-- Whether one of these queues has a task; stops at the first that has. -/
def anyPending : List TaskQueueId → Option Bool
  | [] => some false
  | queueId :: rest => do
      let entry ← queues.queueEntries queueId
      if !entry.taskSource.isEmpty then return true
      anyPending rest

/-- Subsumed queues never have pending tasks; owning queues consider both their
own and their subsumed tasks. -/
def hasPendingTasks (queueId : TaskQueueId) : Option Bool := do
  let entry ← queues.queueEntries queueId
  if entry.subsumedBy.isSome then return false
  if !entry.taskSource.isEmpty then return true
  queues.anyPending entry.ownerOf

/-- `top_task_updater`: the earlier of the top task so far and the source's. -/
def updateTopTask (topTask : Option (TopTask τ)) (source : TaskSource τ) :
    Option (Option (TopTask τ)) := do
  if source.isEmpty then return topTask
  let otherTask ← source.top
  match topTask with
  | none => return some otherTask
  | some top => return some (if top.task.gt otherTask.task then otherTask else top)

/-- The loop of `PeekNextTaskUnlocked` over the owned queues. -/
def updateTopTasks (topTask : Option (TopTask τ)) :
    List TaskQueueId → Option (Option (TopTask τ))
  | [] => some topTask
  | subsumed :: rest => do
      let entry ← queues.queueEntries subsumed
      updateTopTasks (← updateTopTask topTask entry.taskSource) rest

def peekNextTask (owner : TaskQueueId) : Option (TopTask τ) := do
  let entry ← queues.queueEntries owner
  if entry.ownerOf.isEmpty then entry.taskSource.top
  else
    let topTask ← updateTopTask none entry.taskSource
    -- The check that at least one task was found.
    (← queues.updateTopTasks topTask entry.ownerOf)

def getNextWakeTime (queueId : TaskQueueId) : Option Int :=
  (queues.peekNextTask queueId).map (·.task.targetTime)

/-- Deliver a `WakeUp` if the queue has a Wakeable. -/
def wakeUp (queueId : TaskQueueId) (time : Int) : MessageLoopTaskQueues τ :=
  queues.modify queueId fun entry => { entry with wakeable := entry.wakeable.map (time :: ·) }

/-- `if (HasPendingTasksUnlocked(q)) WakeUpUnlocked(q, GetNextWakeTimeUnlocked(q))`. -/
def wakeIfPending (queueId : TaskQueueId) : Option (MessageLoopTaskQueues τ) := do
  if ← queues.hasPendingTasks queueId then
    return queues.wakeUp queueId (← queues.getNextWakeTime queueId)
  return queues

/-- The record `RegisterTask` makes of a task. -/
def newTask (task : τ) (targetTime : Int) (taskSourceGrade : TaskSourceGrade) : DelayedTask τ :=
  ⟨orderOf queues.order, task, targetTime, taskSourceGrade, queues.order⟩

def registerTask (queueId : TaskQueueId) (task : τ) (targetTime : Int)
    (taskSourceGrade : TaskSourceGrade) : Option (MessageLoopTaskQueues τ) := do
  let entry ← queues.queueEntries queueId
  let registered := { queues.modifySource queueId
    (·.registerTask (queues.newTask task targetTime taskSourceGrade)) with order := queues.order + 1 }
  let loopToWake := entry.subsumedBy.getD queueId
  -- This can happen when the secondary tasks are paused.
  registered.wakeIfPending loopToWake

/-- The task whose closure `GetNextTaskToRun` returns, if it returns one. -/
def getNextTaskToRun (queueId : TaskQueueId) (fromTime : Int) :
    Option (Option (TopTask τ) × MessageLoopTaskQueues τ) := do
  if !(← queues.hasPendingTasks queueId) then return (none, queues)
  let top ← queues.peekNextTask queueId
  let queues ←
    if !(← queues.hasPendingTasks queueId) then pure (queues.wakeUp queueId timePointMax)
    else pure (queues.wakeUp queueId (← queues.getNextWakeTime queueId))
  if top.task.targetTime > fromTime then return (none, queues)
  let _ ← queues.queueEntries top.taskQueueId
  return (some top, queues.modifySource top.taskQueueId (·.popTask top.task.taskSourceGrade))

def setWakeable (queueId : TaskQueueId) : Option (MessageLoopTaskQueues τ) := do
  let entry ← queues.queueEntries queueId
  -- Wakeable can only be set once.
  if entry.wakeable.isSome then none
  return queues.modify queueId fun entry => { entry with wakeable := some [] }

def merge (owner subsumed : TaskQueueId) : Option (Bool × MessageLoopTaskQueues τ) := do
  if owner = subsumed then return (true, queues)
  let ownerEntry ← queues.queueEntries owner
  let subsumedEntry ← queues.queueEntries subsumed
  if subsumed ∈ ownerEntry.ownerOf then return (true, queues)
  if ownerEntry.subsumedBy.isSome then return (false, queues)
  if !subsumedEntry.ownerOf.isEmpty then return (false, queues)
  if subsumedEntry.subsumedBy.isSome then return (false, queues)
  -- All checking is OK, set merged state.
  let merged := (queues.modify owner fun entry =>
      { entry with ownerOf := entry.ownerOf.orderedInsert (· ≤ ·) subsumed }).modify subsumed
    fun entry => { entry with subsumedBy := some owner }
  return (true, ← merged.wakeIfPending owner)

def unmerge (owner subsumed : TaskQueueId) : Option (Bool × MessageLoopTaskQueues τ) := do
  let ownerEntry ← queues.queueEntries owner
  if ownerEntry.ownerOf.isEmpty then return (false, queues)
  if ownerEntry.subsumedBy.isSome then return (false, queues)
  let subsumedEntry ← queues.queueEntries subsumed
  if subsumedEntry.subsumedBy.isNone then return (false, queues)
  if subsumed ∉ ownerEntry.ownerOf then return (false, queues)
  let unmerged := (queues.modify subsumed fun entry => { entry with subsumedBy := none }).modify
    owner fun entry => { entry with ownerOf := entry.ownerOf.erase subsumed }
  let woken ← unmerged.wakeIfPending owner
  return (true, ← woken.wakeIfPending subsumed)

/-- Returns true if `owner` owns the `subsumed` task queue. -/
def owns (owner subsumed : TaskQueueId) : Option Bool := do
  let entry ← queues.queueEntries owner
  return subsumed ∈ entry.ownerOf

def pauseSecondarySource (queueId : TaskQueueId) : Option (MessageLoopTaskQueues τ) := do
  let _ ← queues.queueEntries queueId
  return queues.modifySource queueId (·.pauseSecondary)

def resumeSecondarySource (queueId : TaskQueueId) : Option (MessageLoopTaskQueues τ) := do
  let _ ← queues.queueEntries queueId
  -- Schedule a wake as needed.
  (queues.modifySource queueId (·.resumeSecondary)).wakeIfPending queueId

/-- Erases the queue and the queues it owns, with their tasks. -/
def dispose (queueId : TaskQueueId) : Option (MessageLoopTaskQueues τ) := do
  let entry ← queues.queueEntries queueId
  return { queues with
    queueEntries := fun other =>
      if other = queueId ∨ other ∈ entry.ownerOf then none else queues.queueEntries other }

/-- Drops the tasks of the queue and of the queues it owns. -/
def disposeTasks (queueId : TaskQueueId) : Option (MessageLoopTaskQueues τ) := do
  let entry ← queues.queueEntries queueId
  if ∃ subsumed ∈ entry.ownerOf, queues.queueEntries subsumed = none then none
  return { queues with
    queueEntries := fun other =>
      if other = queueId ∨ other ∈ entry.ownerOf then
        (queues.queueEntries other).map fun entry => { entry with taskSource := entry.taskSource.shutDown }
      else queues.queueEntries other }

end MessageLoopTaskQueues

end FlutterEngine.Fml
