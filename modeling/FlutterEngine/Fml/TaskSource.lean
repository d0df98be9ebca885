import Mathlib.Algebra.Order.Ring.Int
import FlutterEngine.Std.PriorityQueue

/-!
# Delayed tasks and task sources

`DelayedTask` of `delayed_task.cc` and `TaskSource` of `task_source.cc`: a primary
and a secondary heap of tasks, the secondary one holding exactly the
`kDartEventLoop` tasks and offered only while it is not paused.
-/

namespace FlutterEngine.Fml

/-- Categories of work dispatched to the task queues. -/
inductive TaskSourceGrade where
  | userInteraction
  | dartEventLoop
  | unspecified
deriving DecidableEq, Repr

/-- `fml::TimePoint::Max`; a time point is its count of nanoseconds. -/
def timePointMax : Int := 2 ^ 63 - 1

/-- `fml::TaskQueueId`; `kUnmerged` is the absent id. -/
abbrev TaskQueueId := Nat

/-- A task with its target time. `order` is what the code compares; no operation
reads `registration`, the number of tasks registered before this one. -/
structure DelayedTask (τ : Type) where
  order : Nat
  task : τ
  targetTime : Int
  taskSourceGrade : TaskSourceGrade
  registration : Nat
deriving DecidableEq, Repr

namespace DelayedTask

variable {τ : Type}

/-- `DelayedTask::operator>`. -/
def gt (task other : DelayedTask τ) : Bool :=
  if task.targetTime = other.targetTime then task.order > other.order
  else task.targetTime > other.targetTime

/-- The order `std::greater` gives the heaps. -/
def le (task other : DelayedTask τ) : Prop := task.gt other = false

instance : DecidableRel (le (τ := τ)) := fun task other =>
  inferInstanceAs (Decidable (task.gt other = false))

theorem le_iff {task other : DelayedTask τ} :
    task.le other ↔ task.targetTime < other.targetTime ∨
      task.targetTime = other.targetTime ∧ task.order ≤ other.order := by
  simp only [le, gt]
  split <;> simp only [gt_iff_lt, decide_eq_false_iff_not] <;> omega

theorem le_refl (task : DelayedTask τ) : task.le task := by simp [le_iff]

theorem le_trans {first second third : DelayedTask τ} (left : first.le second)
    (right : second.le third) : first.le third := by
  rw [le_iff] at *
  omega

theorem le_total (task other : DelayedTask τ) : task.le other ∨ other.le task := by
  simp only [le_iff]
  omega

instance : Std.Total (le (τ := τ)) := ⟨le_total⟩

instance : IsTrans (DelayedTask τ) le := ⟨fun _ _ _ => le_trans⟩

theorem targetTime_le {task other : DelayedTask τ} (before : task.le other) :
    task.targetTime ≤ other.targetTime := by
  rw [le_iff] at before
  omega

end DelayedTask

/-- `DelayedTaskQueue`: a priority queue with the task due first on top. -/
abbrev DelayedTaskQueue (τ : Type) := Std.PriorityQueue (DelayedTask τ) DelayedTask.le

/-- A source of tasks, each in the heap its grade names. -/
structure TaskSource (τ : Type) where
  taskQueueId : TaskQueueId
  primaryTaskQueue : DelayedTaskQueue τ := .empty
  secondaryTaskQueue : DelayedTaskQueue τ := .empty
  secondaryPauseRequests : Int := 0
  primaryGrades : ∀ task ∈ primaryTaskQueue.toList, task.taskSourceGrade ≠ .dartEventLoop := by
    exact fun _ listed => absurd listed List.not_mem_nil
  secondaryGrades : ∀ task ∈ secondaryTaskQueue.toList, task.taskSourceGrade = .dartEventLoop := by
    exact fun _ listed => absurd listed List.not_mem_nil

/-- The top task of a source with the queue it belongs to. -/
structure TopTask (τ : Type) where
  taskQueueId : TaskQueueId
  task : DelayedTask τ

namespace TaskSource

/-- The constructor: a source without tasks. -/
def create {τ : Type} (taskQueueId : TaskQueueId) : TaskSource τ := { taskQueueId }

variable {τ : Type} (source : TaskSource τ)

/-- Drops the pending tasks from both primary and secondary task heaps. -/
def shutDown : TaskSource τ :=
  { source with
    primaryTaskQueue := .empty, secondaryTaskQueue := .empty
    primaryGrades := by simp, secondaryGrades := by simp }

/-- Push on the primary heap. -/
def pushPrimary (task : DelayedTask τ) (grade : task.taskSourceGrade ≠ .dartEventLoop) :
    TaskSource τ :=
  { source with
    primaryTaskQueue := source.primaryTaskQueue.push task
    primaryGrades := fun other member => by
      rcases Std.PriorityQueue.mem_push.mp member with rfl | earlier
      · exact grade
      · exact source.primaryGrades other earlier }

/-- Push on the secondary heap. -/
def pushSecondary (task : DelayedTask τ) (grade : task.taskSourceGrade = .dartEventLoop) :
    TaskSource τ :=
  { source with
    secondaryTaskQueue := source.secondaryTaskQueue.push task
    secondaryGrades := fun other member => by
      rcases Std.PriorityQueue.mem_push.mp member with rfl | earlier
      · exact grade
      · exact source.secondaryGrades other earlier }

/-- Adds a task to the corresponding task heap as dictated by its grade. -/
def registerTask (task : DelayedTask τ) : TaskSource τ :=
  match grade : task.taskSourceGrade with
  | .userInteraction => source.pushPrimary task (by simp [grade])
  | .unspecified => source.pushPrimary task (by simp [grade])
  | .dartEventLoop => source.pushSecondary task grade

/-- Pop the primary heap. -/
def popPrimary : TaskSource τ :=
  { source with
    primaryTaskQueue := source.primaryTaskQueue.pop
    primaryGrades := fun task member => source.primaryGrades task (List.mem_of_mem_tail member) }

/-- Pop the secondary heap. -/
def popSecondary : TaskSource τ :=
  { source with
    secondaryTaskQueue := source.secondaryTaskQueue.pop
    secondaryGrades := fun task member =>
      source.secondaryGrades task (List.mem_of_mem_tail member) }

/-- Pops the task heap corresponding to the grade. -/
def popTask : TaskSourceGrade → TaskSource τ
  | .userInteraction => source.popPrimary
  | .unspecified => source.popPrimary
  | .dartEventLoop => source.popSecondary

/-- The number of pending tasks; excludes the secondary heap if it's paused. -/
def getNumPendingTasks : Nat :=
  source.primaryTaskQueue.size +
    if source.secondaryPauseRequests = 0 then source.secondaryTaskQueue.size else 0

def isEmpty : Bool := source.getNumPendingTasks == 0

/-- The top task based on scheduled time; a failed check is `none`. -/
def top : Option (TopTask τ) := do
  if source.isEmpty then none
  if source.secondaryPauseRequests > 0 || source.secondaryTaskQueue.isEmpty then
    return ⟨source.taskQueueId, ← source.primaryTaskQueue.top?⟩
  else if source.primaryTaskQueue.isEmpty then
    return ⟨source.taskQueueId, ← source.secondaryTaskQueue.top?⟩
  else
    let primaryTop ← source.primaryTaskQueue.top?
    let secondaryTop ← source.secondaryTaskQueue.top?
    if primaryTop.gt secondaryTop then return ⟨source.taskQueueId, secondaryTop⟩
    else return ⟨source.taskQueueId, primaryTop⟩

def pauseSecondary : TaskSource τ :=
  { source with secondaryPauseRequests := source.secondaryPauseRequests + 1 }

def resumeSecondary : TaskSource τ :=
  { source with secondaryPauseRequests := source.secondaryPauseRequests - 1 }

@[simp] theorem taskQueueId_registerTask (task : DelayedTask τ) :
    (source.registerTask task).taskQueueId = source.taskQueueId := by
  unfold registerTask
  split <;> rfl

@[simp] theorem secondaryPauseRequests_registerTask (task : DelayedTask τ) :
    (source.registerTask task).secondaryPauseRequests = source.secondaryPauseRequests := by
  unfold registerTask
  split <;> rfl

@[simp] theorem taskQueueId_popTask (grade : TaskSourceGrade) :
    (source.popTask grade).taskQueueId = source.taskQueueId := by
  cases grade <;> rfl

@[simp] theorem secondaryPauseRequests_popTask (grade : TaskSourceGrade) :
    (source.popTask grade).secondaryPauseRequests = source.secondaryPauseRequests := by
  cases grade <;> rfl

/-! ## What a source offers -/

/-- All tasks of the source. -/
def pending : List (DelayedTask τ) :=
  source.primaryTaskQueue.toList ++ source.secondaryTaskQueue.toList

/-- The secondary heap has been paused and not resumed. -/
def paused : Prop := 0 < source.secondaryPauseRequests

instance : Decidable source.paused := inferInstanceAs (Decidable (_ < _))

/-- The pending tasks that may run: all but the `kDartEventLoop` tasks of a
paused source. -/
def runnable : List (DelayedTask τ) :=
  source.pending.filter fun task => ¬(task.taskSourceGrade = .dartEventLoop ∧ source.paused)

variable {source}

variable {task : DelayedTask τ}

theorem mem_runnable :
    task ∈ source.runnable ↔ task ∈ source.pending ∧
      ¬(task.taskSourceGrade = .dartEventLoop ∧ source.paused) := by
  rw [runnable, List.mem_filter, decide_eq_true_eq]

/-- A registration adds exactly the task. -/
theorem pending_registerTask (task : DelayedTask τ) :
    (source.registerTask task).pending.Perm (task :: source.pending) := by
  unfold registerTask
  split
  · exact (Std.PriorityQueue.push_perm task source.primaryTaskQueue).append_right _
  · exact (Std.PriorityQueue.push_perm task source.primaryTaskQueue).append_right _
  · exact ((Std.PriorityQueue.push_perm task source.secondaryTaskQueue).append_left _).trans
      List.perm_middle

/-- The runnable tasks by heap. -/
theorem runnable_eq :
    source.runnable = source.primaryTaskQueue.toList ++
      if source.paused then [] else source.secondaryTaskQueue.toList := by
  rw [runnable, pending, List.filter_append]
  congr 1
  · exact List.filter_eq_self.mpr fun task member => by simp [source.primaryGrades task member]
  · split
    · rename_i paused
      exact List.filter_eq_nil_iff.mpr fun task member => by
        simp [source.secondaryGrades task member, paused]
    · rename_i running
      exact List.filter_eq_self.mpr fun task member => by simp [running]

/-- A pause offers no task that was not offered. -/
theorem runnable_pauseSecondary (matched : 0 ≤ source.secondaryPauseRequests)
    (offered : task ∈ source.pauseSecondary.runnable) : task ∈ source.runnable := by
  have paused : source.pauseSecondary.paused := Int.lt_add_one_of_le matched
  obtain ⟨pending, running⟩ := mem_runnable.mp offered
  exact mem_runnable.mpr ⟨pending, fun ⟨grade, _⟩ => running ⟨grade, paused⟩⟩

/-- A resume offers the secondary tasks again when it ends the pause. -/
theorem runnable_resumeSecondary (paused : source.paused) :
    task ∈ source.resumeSecondary.runnable ↔ task ∈ source.runnable ∨
      source.secondaryPauseRequests = 1 ∧ task ∈ source.secondaryTaskQueue.toList := by
  have still : source.resumeSecondary.paused ↔ source.secondaryPauseRequests ≠ 1 := by
    simp only [TaskSource.paused, resumeSecondary] at paused ⊢
    omega
  have offered : source.resumeSecondary.runnable = source.primaryTaskQueue.toList ++
      if source.resumeSecondary.paused then [] else source.secondaryTaskQueue.toList := runnable_eq
  rw [offered, runnable_eq]
  by_cases last : source.secondaryPauseRequests = 1
  · simp [still, last, paused]
  · simp [still, last, paused]

theorem isEmpty_iff (matched : 0 ≤ source.secondaryPauseRequests) :
    source.isEmpty = true ↔ source.runnable = [] := by
  have paused : source.secondaryPauseRequests = 0 ↔ ¬source.paused := by
    simp only [TaskSource.paused]
    omega
  rw [runnable_eq, isEmpty, getNumPendingTasks]
  by_cases running : source.paused
  · simp [paused, running, Std.PriorityQueue.size]
  · simp [paused, running, Std.PriorityQueue.size]

/-- A pop by the grade of a heap's top removes exactly that task. -/
theorem popTask_primary (top : source.primaryTaskQueue.top? = some task) :
    source.popTask task.taskSourceGrade = source.popPrimary ∧
      source.primaryTaskQueue.toList = task :: source.popPrimary.primaryTaskQueue.toList ∧
      ∀ other ∈ source.primaryTaskQueue.toList, task.le other := by
  obtain ⟨split, least⟩ := Std.PriorityQueue.top_spec DelayedTask.le_refl top
  have grade := source.primaryGrades task (by rw [split]; exact List.mem_cons_self)
  refine ⟨?_, split, least⟩
  cases same : task.taskSourceGrade with
  | userInteraction => rfl
  | unspecified => rfl
  | dartEventLoop => exact absurd same grade

theorem popTask_secondary (top : source.secondaryTaskQueue.top? = some task) :
    source.popTask task.taskSourceGrade = source.popSecondary ∧
      source.secondaryTaskQueue.toList = task :: source.popSecondary.secondaryTaskQueue.toList ∧
      ∀ other ∈ source.secondaryTaskQueue.toList, task.le other := by
  obtain ⟨split, least⟩ := Std.PriorityQueue.top_spec DelayedTask.le_refl top
  have grade := source.secondaryGrades task (by rw [split]; exact List.mem_cons_self)
  refine ⟨?_, split, least⟩
  rw [grade]
  rfl

/-- What `Top` and the `PopTask` of its grade do: the task is runnable, none
runnable is due before it, and the pop removes exactly it. -/
structure Pops (source : TaskSource τ) (task : DelayedTask τ) : Prop where
  runnable : source.runnable.Perm (task :: (source.popTask task.taskSourceGrade).runnable)
  pending : source.pending.Perm (task :: (source.popTask task.taskSourceGrade).pending)
  least : ∀ other ∈ source.runnable, task.le other

theorem pops_primary (top : source.primaryTaskQueue.top? = some task)
    (least : ∀ other ∈ source.runnable, task.le other) : source.Pops task := by
  obtain ⟨popped, split, _⟩ := popTask_primary top
  refine ⟨?_, ?_, least⟩
  · rw [popped, runnable_eq, split, runnable_eq]
    rfl
  · rw [popped, pending, split]
    rfl

theorem pops_secondary (running : ¬source.paused) (top : source.secondaryTaskQueue.top? = some task)
    (least : ∀ other ∈ source.runnable, task.le other) : source.Pops task := by
  obtain ⟨popped, split, _⟩ := popTask_secondary top
  have stillRunning : ¬source.popSecondary.paused := running
  refine ⟨?_, ?_, least⟩
  · rw [popped, runnable_eq, if_neg running, split, runnable_eq, if_neg stillRunning]
    exact List.perm_middle
  · rw [popped, pending, split]
    exact List.perm_middle

/-- A source with a runnable task has a top, and popping it by its grade removes
exactly it. -/
theorem top_spec (matched : 0 ≤ source.secondaryPauseRequests) (nonempty : source.runnable ≠ []) :
    ∃ task, source.top = some ⟨source.taskQueueId, task⟩ ∧ source.Pops task := by
  have occupied : source.isEmpty = false := by
    rw [← Bool.not_eq_true, isEmpty_iff matched]
    exact nonempty
  rw [runnable_eq] at nonempty
  by_cases hidden : source.paused ∨ source.secondaryTaskQueue.toList = []
  · -- Only the primary heap is offered.
    have offered : source.runnable = source.primaryTaskQueue.toList := by
      rw [runnable_eq]
      rcases hidden with paused | empty <;> simp [*]
    rw [← runnable_eq, offered] at nonempty
    obtain ⟨task, top⟩ := Std.PriorityQueue.top_isSome nonempty
    refine ⟨task, ?_, pops_primary top (offered ▸ (popTask_primary top).2.2)⟩
    have condition : (source.secondaryPauseRequests > 0 || source.secondaryTaskQueue.isEmpty) = true := by
      rcases hidden with paused | empty
      · simp [show source.secondaryPauseRequests > 0 from paused]
      · simp [Std.PriorityQueue.isEmpty, empty]
    simp [TaskSource.top, occupied, condition, top]
  obtain ⟨running, filled⟩ := not_or.mp hidden
  have condition : (source.secondaryPauseRequests > 0 || source.secondaryTaskQueue.isEmpty) = false := by
    simp [Std.PriorityQueue.isEmpty, filled, show ¬0 < source.secondaryPauseRequests from running]
  have offered : source.runnable =
      source.primaryTaskQueue.toList ++ source.secondaryTaskQueue.toList := by
    rw [runnable_eq, if_neg running]
  obtain ⟨secondary, secondaryTop⟩ := Std.PriorityQueue.top_isSome filled
  have secondaryLeast := (popTask_secondary secondaryTop).2.2
  by_cases empty : source.primaryTaskQueue.toList = []
  · refine ⟨secondary, ?_, pops_secondary running secondaryTop ?_⟩
    · have primaryEmpty : source.primaryTaskQueue.isEmpty = true := by
        simp [Std.PriorityQueue.isEmpty, empty]
      simp only [TaskSource.top, occupied, condition, primaryEmpty, secondaryTop,
        Bool.false_eq_true, if_false, if_true, Option.bind_eq_bind, Option.bind_some,
        Option.pure_def]
    · rw [offered, empty]
      exact secondaryLeast
  obtain ⟨primary, primaryTop⟩ := Std.PriorityQueue.top_isSome empty
  have primaryLeast := (popTask_primary primaryTop).2.2
  have both : source.top =
      some ⟨source.taskQueueId, if primary.gt secondary then secondary else primary⟩ := by
    have primaryFilled : source.primaryTaskQueue.isEmpty = false := by
      simp [Std.PriorityQueue.isEmpty, empty]
    simp only [TaskSource.top, occupied, condition, primaryFilled, primaryTop, secondaryTop,
      Bool.false_eq_true, if_false, Option.bind_eq_bind, Option.bind_some, Option.pure_def]
    split <;> rfl
  rw [both]
  refine ⟨_, rfl, ?_⟩
  split
  · rename_i later
    have before : secondary.le primary :=
      (DelayedTask.le_total secondary primary).resolve_right (by simp [DelayedTask.le, later])
    refine pops_secondary running secondaryTop fun other member => ?_
    rw [offered, List.mem_append] at member
    exact member.elim (fun inPrimary => DelayedTask.le_trans before (primaryLeast other inPrimary))
      (secondaryLeast other)
  · rename_i notLater
    have before : primary.le secondary := by simpa [DelayedTask.le] using notLater
    refine pops_primary primaryTop fun other member => ?_
    rw [offered, List.mem_append] at member
    exact member.elim (primaryLeast other)
      (fun inSecondary => DelayedTask.le_trans before (secondaryLeast other inSecondary))

end TaskSource

end FlutterEngine.Fml
