import FlutterEngine.Std.Machine

/-!
# The animator

`Animator` of `animator.cc`. Its methods run on the UI thread, from one call of the delegate
to the next: while the delegate is in a call, every method may be called again. The posted
tasks and the vsync callbacks run when no call is open. The vsync waiter holds one callback
at a time, and the pipeline is its slots: free, queued, and being consumed.
-/

namespace FlutterEngine.Shell

open FlutterEngine.Std

/-- What is left to do when the delegate returns. -/
inductive OpenCall where
  /-- `OnAnimatorBeginFrame`, in `BeginFrame` of a vsync callback. -/
  | beginFrame
  /-- `OnAnimatorUpdateLatestFrameTargetTime`, in `EndFrame`. -/
  | updateLatestFrameTargetTime
  /-- `OnAnimatorDraw`, in `EndFrame`. -/
  | draw
  /-- `OnAnimatorNotifyIdle` or `OnAnimatorDrawLastLayerTrees`, at the end of a task. -/
  | last
deriving DecidableEq, Repr

/-- `awaitVSyncTasks` are posted and not run, `waiterCallback` is whether a callback is
registered with the waiter, `vsyncCallbacks` are fired and not run. The last two fields
record how often `BeginFrame` and `DrawLastLayerTrees` have been called. -/
structure Animator where
  pendingFrameSemaphore : Nat := 1
  regenerateLayerTrees : Bool := false
  frameScheduled : Bool := false
  hasRendered : Bool := false
  /-- `frame_timings_recorder_` is not null. -/
  frameTimingsRecorder : Bool := false
  /-- The view ids of `layer_trees_tasks_`. -/
  layerTreesTasks : List Int := []
  /-- `producer_continuation_` holds a continuation. -/
  producerContinuation : Bool := false
  freeSlots : Nat
  queued : Nat := 0
  consuming : Nat := 0
  awaitVSyncTasks : Nat := 0
  waiterCallback : Bool := false
  vsyncCallbacks : Nat := 0
  /-- The calls of the delegate that are open, the innermost first. -/
  calls : List OpenCall := []
  begun : Nat := 0
  drawnLast : Nat := 0
deriving DecidableEq, Repr

namespace Animator

variable (animator : Animator)

/-! ## The methods -/

def requestFrame (regenerateLayerTrees : Bool) : Animator :=
  let animator := if regenerateLayerTrees then { animator with regenerateLayerTrees := true }
    else animator
  match animator.pendingFrameSemaphore with
  | 0 => animator
  | pendingFrameSemaphore + 1 =>
    { animator with
      pendingFrameSemaphore
      awaitVSyncTasks := animator.awaitVSyncTasks + 1
      frameScheduled := true }

/-- The end of `EndFrame`; the idle task it may post changes nothing. -/
def finishEndFrame : Animator := { animator with frameTimingsRecorder := false }

/-- `EndFrame`, up to its first call of the delegate. -/
def endFrame : Animator :=
  if !animator.frameTimingsRecorder then animator
  else if !animator.layerTreesTasks.isEmpty then
    { animator with calls := .updateLatestFrameTargetTime :: animator.calls }
  else animator.finishEndFrame

/-- `EndFrame` from where it commits the pending continuation; without one, or when the item
is not the first, there is nothing to draw. -/
def commit : Animator :=
  let committed := { animator with layerTreesTasks := [], frameTimingsRecorder := false }
  if !animator.producerContinuation then committed.finishEndFrame
  else
    let committed := { committed with
      producerContinuation := false
      queued := animator.queued + 1 }
    if animator.queued = 0 then { committed with calls := .draw :: animator.calls }
    else committed.finishEndFrame

/-- `BeginFrame` and, unless the delegate has to return first, `EndFrame`. -/
def beginFrame : Animator :=
  let animator := { animator with
    layerTreesTasks := []
    frameTimingsRecorder := true
    frameScheduled := false
    regenerateLayerTrees := false
    pendingFrameSemaphore := animator.pendingFrameSemaphore + 1
    begun := animator.begun + 1 }
  if animator.producerContinuation then { animator with calls := .beginFrame :: animator.calls }
  else
    match animator.freeSlots with
    | 0 => (animator.requestFrame true).endFrame
    | freeSlots + 1 =>
      { animator with
        freeSlots
        producerContinuation := true
        calls := .beginFrame :: animator.calls }

def drawLastLayerTrees : Animator :=
  { animator with
    pendingFrameSemaphore := animator.pendingFrameSemaphore + 1
    calls := .last :: animator.calls
    drawnLast := animator.drawnLast + 1 }

def render (viewId : Int) : Animator :=
  { animator with
    hasRendered := true
    frameTimingsRecorder := true
    layerTreesTasks := if viewId ∈ animator.layerTreesTasks then animator.layerTreesTasks
      else animator.layerTreesTasks ++ [viewId] }

def onAllViewsRendered : Animator :=
  if !animator.layerTreesTasks.isEmpty then animator.endFrame else animator

/-- `AwaitVSync`; the waiter ignores a callback while it holds one. -/
def awaitVSync : Animator :=
  let animator := { animator with waiterCallback := true }
  if animator.hasRendered then { animator with calls := .last :: animator.calls } else animator

/-- The callback that `AwaitVSync` passes to the waiter. -/
def vsyncCallback : Animator :=
  if !animator.regenerateLayerTrees then animator.drawLastLayerTrees else animator.beginFrame

/-! ## The steps -/

inductive Op where
  | requestFrame (regenerateLayerTrees : Bool)
  | render (viewId : Int)
  | onAllViewsRendered
  /-- A posted `AwaitVSync` task runs. -/
  | awaitVSyncTask
  /-- The waiter fires: it posts the callback. -/
  | fire
  /-- A vsync callback runs. -/
  | vsyncCallback
  /-- The innermost call of the delegate returns. -/
  | delegateReturns
  /-- The consumer takes an item off the pipeline. -/
  | consume
  /-- The consumer is done with an item. -/
  | consumed
deriving DecidableEq, Repr

def step : Op → Option Animator
  | .requestFrame regenerateLayerTrees => some (animator.requestFrame regenerateLayerTrees)
  | .render viewId => some (animator.render viewId)
  | .onAllViewsRendered => some animator.onAllViewsRendered
  | .awaitVSyncTask =>
    match animator.calls, animator.awaitVSyncTasks with
    | [], awaitVSyncTasks + 1 => some (awaitVSync { animator with awaitVSyncTasks })
    | _, _ => none
  | .fire =>
    if animator.waiterCallback then
      some { animator with
        waiterCallback := false
        vsyncCallbacks := animator.vsyncCallbacks + 1 }
    else none
  | .vsyncCallback =>
    match animator.calls, animator.vsyncCallbacks with
    | [], vsyncCallbacks + 1 => some (vsyncCallback { animator with vsyncCallbacks })
    | _, _ => none
  | .delegateReturns =>
    match animator.calls with
    | [] => none
    | .beginFrame :: calls => some (endFrame { animator with calls })
    | .updateLatestFrameTargetTime :: calls => some (commit { animator with calls })
    | .draw :: calls => some (finishEndFrame { animator with calls })
    | .last :: calls => some { animator with calls }
  | .consume =>
    match animator.queued with
    | 0 => none
    | queued + 1 => some { animator with queued, consuming := animator.consuming + 1 }
  | .consumed =>
    match animator.consuming with
    | 0 => none
    | consuming + 1 => some { animator with consuming, freeSlots := animator.freeSlots + 1 }

/-- An animator whose pipeline has so many slots. -/
def machine (depth : Nat) : Machine Animator Op where
  Initial animator := animator = { freeSlots := depth }
  step := step

/-! ## Outstanding requests -/

/-- The posted `AwaitVSync` tasks and the vsync callbacks that have not run. -/
def outstanding : Nat :=
  animator.awaitVSyncTasks + animator.waiterCallback.toNat + animator.vsyncCallbacks

/-- A request holds the permit of the semaphore until its vsync callback runs. -/
structure Requested : Prop where
  permits : animator.pendingFrameSemaphore + animator.outstanding = 1
  regenerates : animator.regenerateLayerTrees = true → animator.outstanding = 1

variable {animator} {next : Animator}

/-- What the semaphore, the flag and the outstanding requests are. -/
structure SameRequests (animator next : Animator) : Prop where
  pendingFrameSemaphore : next.pendingFrameSemaphore = animator.pendingFrameSemaphore
  regenerateLayerTrees : next.regenerateLayerTrees = animator.regenerateLayerTrees
  outstanding : next.outstanding = animator.outstanding
  begun : next.begun = animator.begun

theorem Requested.ofSame (requested : animator.Requested) (same : SameRequests animator next) :
    next.Requested := by
  constructor
  · rw [same.pendingFrameSemaphore, same.outstanding]
    exact requested.permits
  · rw [same.regenerateLayerTrees, same.outstanding]
    exact requested.regenerates

theorem sameRequests_endFrame (animator : Animator) : SameRequests animator animator.endFrame := by
  unfold endFrame finishEndFrame
  split
  · exact ⟨rfl, rfl, rfl, rfl⟩
  · split <;> exact ⟨rfl, rfl, rfl, rfl⟩

theorem sameRequests_onAllViewsRendered (animator : Animator) :
    SameRequests animator animator.onAllViewsRendered := by
  unfold onAllViewsRendered
  split
  · exact sameRequests_endFrame animator
  · exact ⟨rfl, rfl, rfl, rfl⟩

theorem sameRequests_commit (animator : Animator) : SameRequests animator animator.commit := by
  unfold commit finishEndFrame
  split
  · exact ⟨rfl, rfl, rfl, rfl⟩
  · dsimp only
    split <;> exact ⟨rfl, rfl, rfl, rfl⟩

/-- A request takes the permit, or finds it taken. -/
theorem requestFrame_spec (animator : Animator) (regenerateLayerTrees : Bool) :
    (animator.requestFrame regenerateLayerTrees).pendingFrameSemaphore +
        (animator.requestFrame regenerateLayerTrees).outstanding =
          animator.pendingFrameSemaphore + animator.outstanding ∧
      (animator.pendingFrameSemaphore ≤ 1 →
        (animator.requestFrame regenerateLayerTrees).pendingFrameSemaphore = 0) ∧
      (animator.requestFrame regenerateLayerTrees).regenerateLayerTrees =
        (regenerateLayerTrees || animator.regenerateLayerTrees) ∧
      (animator.requestFrame regenerateLayerTrees).begun = animator.begun := by
  unfold requestFrame outstanding
  cases regenerateLayerTrees <;> cases permits : animator.pendingFrameSemaphore <;>
    simp [permits] <;> omega

theorem Requested.requestFrame (requested : animator.Requested) (regenerateLayerTrees : Bool) :
    (animator.requestFrame regenerateLayerTrees).Requested := by
  obtain ⟨permits, taken, -, -⟩ := animator.requestFrame_spec regenerateLayerTrees
  have sum := permits.trans requested.permits
  have one : animator.pendingFrameSemaphore ≤ 1 := requested.permits ▸ Nat.le_add_right _ _
  refine ⟨sum, fun _ => ?_⟩
  rwa [taken one, Nat.zero_add] at sum

theorem awaitVSync_spec (animator : Animator) :
    animator.awaitVSync.outstanding = animator.awaitVSyncTasks + 1 + animator.vsyncCallbacks ∧
      animator.awaitVSync.pendingFrameSemaphore = animator.pendingFrameSemaphore ∧
      animator.awaitVSync.regenerateLayerTrees = animator.regenerateLayerTrees ∧
      animator.awaitVSync.begun = animator.begun := by
  unfold awaitVSync
  dsimp only
  split <;> exact ⟨rfl, rfl, rfl, rfl⟩

theorem awaitVSyncTask_cases (awaits : animator.step .awaitVSyncTask = some next) :
    ∃ awaitVSyncTasks, animator.awaitVSyncTasks = awaitVSyncTasks + 1 ∧
      next = awaitVSync { animator with awaitVSyncTasks } := by
  simp only [step] at awaits
  split at awaits
  · next awaitVSyncTasks idle posted =>
      cases awaits
      exact ⟨awaitVSyncTasks, posted, rfl⟩
  · cases awaits

/-- A posted task hands its request to the waiter, which holds no other. -/
theorem Requested.awaitVSyncTask (requested : animator.Requested)
    (awaits : animator.step .awaitVSyncTask = some next) : next.Requested := by
  obtain ⟨permits, regenerates⟩ := requested
  obtain ⟨awaitVSyncTasks, posted, rfl⟩ := awaitVSyncTask_cases awaits
  obtain ⟨hands, sameSemaphore, sameFlag, begun⟩ :=
    awaitVSync_spec { animator with awaitVSyncTasks }
  have outstanding : (awaitVSync { animator with awaitVSyncTasks }).outstanding =
      animator.outstanding := by
    rw [hands]
    unfold Animator.outstanding at permits ⊢
    dsimp only
    omega
  exact .ofSame ⟨permits, regenerates⟩ ⟨sameSemaphore, sameFlag, outstanding, begun⟩

theorem Requested.fire (requested : animator.Requested)
    (fires : animator.step .fire = some next) : next.Requested := by
  simp only [step] at fires
  split at fires
  · next waiting =>
      cases fires
      refine requested.ofSame ⟨rfl, rfl, ?_, rfl⟩
      unfold outstanding
      rw [waiting]
      simp only [Bool.toNat_true, Bool.toNat_false]
      omega
  · cases fires

/-- Before the request that `BeginFrame` makes when the pipeline is full, nothing is
outstanding. -/
theorem Requested.beginFrame (idle : animator.pendingFrameSemaphore = 0)
    (alone : animator.outstanding = 0) : animator.beginFrame.Requested := by
  have signalled : ∀ begun : Animator, begun.pendingFrameSemaphore = 1 → begun.outstanding = 0 →
      begun.regenerateLayerTrees = false → begun.Requested := by
    intro begun permits none fresh
    refine ⟨by rw [permits, none], fun regenerates => ?_⟩
    exact absurd (fresh.symm.trans regenerates) Bool.false_ne_true
  have one : animator.pendingFrameSemaphore + 1 = 1 := by rw [idle]
  unfold Animator.beginFrame
  dsimp only
  split
  · exact signalled _ one alone rfl
  · split
    · refine Requested.ofSame ?_ (sameRequests_endFrame _)
      refine Requested.requestFrame ?_ true
      exact signalled _ one alone rfl
    · exact signalled _ one alone rfl

theorem begun_beginFrame (animator : Animator) :
    animator.beginFrame.begun = animator.begun + 1 := by
  unfold beginFrame
  dsimp only
  split
  · rfl
  · split
    · exact (sameRequests_endFrame _).begun.trans (requestFrame_spec _ true).2.2.2
    · rfl

theorem Requested.drawLastLayerTrees (idle : animator.pendingFrameSemaphore = 0)
    (alone : animator.outstanding = 0) (reuses : animator.regenerateLayerTrees = false) :
    animator.drawLastLayerTrees.Requested := by
  constructor
  · change animator.pendingFrameSemaphore + 1 + animator.outstanding = 1
    rw [idle, alone]
  · intro regenerates
    exact absurd (reuses.symm.trans regenerates) Bool.false_ne_true

theorem vsyncCallback_cases (runs : animator.step .vsyncCallback = some next) :
    ∃ vsyncCallbacks, animator.vsyncCallbacks = vsyncCallbacks + 1 ∧
      next = vsyncCallback { animator with vsyncCallbacks } := by
  simp only [step] at runs
  split at runs
  · next vsyncCallbacks idle fired =>
      cases runs
      exact ⟨vsyncCallbacks, fired, rfl⟩
  · cases runs

/-- The vsync callback was the request that was outstanding. -/
theorem Requested.vsyncCallback (requested : animator.Requested)
    (runs : animator.step .vsyncCallback = some next) : next.Requested := by
  obtain ⟨vsyncCallbacks, fired, rfl⟩ := vsyncCallback_cases runs
  have permits := requested.permits
  unfold outstanding at permits
  have idle : animator.pendingFrameSemaphore = 0 := by omega
  have alone : outstanding { animator with vsyncCallbacks } = 0 := by
    unfold outstanding
    dsimp only
    omega
  unfold Animator.vsyncCallback
  split
  · next reuses => exact .drawLastLayerTrees idle alone ((Bool.not_eq_true' _).mp reuses)
  · exact .beginFrame idle alone

theorem sameRequests_delegateReturns (returns : animator.step .delegateReturns = some next) :
    SameRequests animator next := by
  simp only [step] at returns
  split at returns
  · cases returns
  · next calls _ =>
      cases returns
      obtain ⟨semaphore, flag, outstanding, begun⟩ := sameRequests_endFrame { animator with calls }
      exact ⟨semaphore, flag, outstanding, begun⟩
  · next calls _ =>
      cases returns
      obtain ⟨semaphore, flag, outstanding, begun⟩ := sameRequests_commit { animator with calls }
      exact ⟨semaphore, flag, outstanding, begun⟩
  · cases returns
    exact ⟨rfl, rfl, rfl, rfl⟩
  · cases returns
    exact ⟨rfl, rfl, rfl, rfl⟩

variable {op : Op} {depth : Nat}

/-- The consumer only moves slots. -/
theorem sameRequests_consumer (consumer : op = .consume ∨ op = .consumed)
    (transition : animator.step op = some next) : SameRequests animator next := by
  rcases consumer with rfl | rfl
  · simp only [step] at transition
    split at transition
    · cases transition
    · cases transition
      exact ⟨rfl, rfl, rfl, rfl⟩
  · simp only [step] at transition
    split at transition
    · cases transition
    · cases transition
      exact ⟨rfl, rfl, rfl, rfl⟩

theorem Requested.step (requested : animator.Requested)
    (transition : animator.step op = some next) : next.Requested := by
  cases op with
  | requestFrame regenerateLayerTrees =>
    exact Option.some_inj.mp transition ▸ requested.requestFrame regenerateLayerTrees
  | render viewId =>
    cases transition
    exact requested.ofSame ⟨rfl, rfl, rfl, rfl⟩
  | onAllViewsRendered =>
    cases transition
    exact requested.ofSame (sameRequests_onAllViewsRendered animator)
  | awaitVSyncTask => exact requested.awaitVSyncTask transition
  | fire => exact requested.fire transition
  | vsyncCallback => exact requested.vsyncCallback transition
  | delegateReturns => exact requested.ofSame (sameRequests_delegateReturns transition)
  | consume => exact requested.ofSame (sameRequests_consumer (.inl rfl) transition)
  | consumed => exact requested.ofSame (sameRequests_consumer (.inr rfl) transition)

/-! ## Runs -/

theorem reachable_requested
    (reached : (machine depth).Reachable (fun _ _ => True) animator) : animator.Requested := by
  refine reached.invariant _ ?_ fun requested _ transition => requested.step transition
  intro created initial
  rw [initial]
  exact ⟨rfl, fun regenerates => Bool.noConfusion regenerates⟩

/-- Only a vsync callback takes back a request to regenerate the layer trees. -/
theorem step_regenerates (regenerates : animator.regenerateLayerTrees = true)
    (other : op ≠ .vsyncCallback) (transition : animator.step op = some next) :
    next.regenerateLayerTrees = true ∧ next.begun = animator.begun := by
  have kept : ∀ {next : Animator}, SameRequests animator next →
      next.regenerateLayerTrees = true ∧ next.begun = animator.begun :=
    fun same => ⟨same.regenerateLayerTrees.trans regenerates, same.begun⟩
  cases op with
  | requestFrame regenerateLayerTrees =>
    cases transition
    obtain ⟨-, -, flag, begun⟩ := animator.requestFrame_spec regenerateLayerTrees
    exact ⟨by rw [flag, regenerates, Bool.or_true], begun⟩
  | render viewId =>
    cases transition
    exact ⟨regenerates, rfl⟩
  | onAllViewsRendered =>
    cases transition
    exact kept (sameRequests_onAllViewsRendered animator)
  | awaitVSyncTask =>
    obtain ⟨awaitVSyncTasks, -, rfl⟩ := awaitVSyncTask_cases transition
    obtain ⟨-, -, sameFlag, begun⟩ := awaitVSync_spec { animator with awaitVSyncTasks }
    exact ⟨sameFlag.trans regenerates, begun⟩
  | fire =>
    simp only [step] at transition
    split at transition
    · cases transition
      exact ⟨regenerates, rfl⟩
    · cases transition
  | vsyncCallback => exact absurd rfl other
  | delegateReturns => exact kept (sameRequests_delegateReturns transition)
  | consume => exact kept (sameRequests_consumer (.inl rfl) transition)
  | consumed => exact kept (sameRequests_consumer (.inr rfl) transition)

theorem run_regenerates {ops : List Op}
    (regenerates : animator.regenerateLayerTrees = true) (others : .vsyncCallback ∉ ops)
    (runs : (machine depth).run animator ops = some next) :
    next.regenerateLayerTrees = true ∧ next.begun = animator.begun := by
  induction ops generalizing animator with
  | nil =>
    cases runs
    exact ⟨regenerates, rfl⟩
  | cons op ops ih =>
    obtain ⟨between, transition, rest⟩ := Option.bind_eq_some_iff.mp runs
    obtain ⟨other, others⟩ := not_or.mp (mt List.mem_cons.mpr others)
    obtain ⟨still, begun⟩ := step_regenerates regenerates (Ne.symm other) transition
    obtain ⟨after, counts⟩ := ih still others rest
    exact ⟨after, counts.trans begun⟩

/-- In every run at most one permit is free, it is taken exactly while one `AwaitVSync` task or
vsync callback is outstanding, and one is outstanding while the layer trees are to be
regenerated; then the next vsync callback to run begins a frame. -/
theorem reachable_noLostRequest {depth : Nat}
    (reached : (machine depth).Reachable (fun _ _ => True) animator) :
    animator.pendingFrameSemaphore ≤ 1 ∧
      (animator.pendingFrameSemaphore = 0 ↔ animator.outstanding = 1) ∧
      (animator.regenerateLayerTrees = true → animator.outstanding = 1 ∧
        ∀ ops later next, .vsyncCallback ∉ ops → (machine depth).run animator ops = some later →
          later.step .vsyncCallback = some next → next.begun = animator.begun + 1) := by
  obtain ⟨permits, regenerates⟩ := reachable_requested reached
  refine ⟨by omega, by omega, fun flag => ⟨regenerates flag, ?_⟩⟩
  intro ops later next others runs transition
  obtain ⟨still, begun⟩ := run_regenerates flag others runs
  obtain ⟨vsyncCallbacks, -, rfl⟩ := vsyncCallback_cases transition
  rw [vsyncCallback, if_neg (by simp [still]), begun_beginFrame]
  exact congrArg (· + 1) begun

/-- Two frames on a pipeline of one slot. The first is not consumed, so `BeginFrame` of the
second asks for the next vsync itself. -/
def pipelineFull : List Op :=
  [.requestFrame true, .awaitVSyncTask, .fire, .vsyncCallback, .render 0, .delegateReturns,
    .delegateReturns, .delegateReturns, .requestFrame true, .awaitVSyncTask, .delegateReturns,
    .fire, .vsyncCallback]

theorem pipelineFull_noLostRequest : ∃ animator : Animator,
    animator.regenerateLayerTrees = true ∧ animator.pendingFrameSemaphore ≤ 1 ∧
      animator.pendingFrameSemaphore = 0 ∧ animator.outstanding = 1 ∧
      ∀ ops later next, .vsyncCallback ∉ ops → (machine 1).run animator ops = some later →
        later.step .vsyncCallback = some next → next.begun = animator.begun + 1 := by
  have created : (machine 1).Reachable (fun _ _ => True) { freeSlots := 1 } := .initial rfl
  obtain ⟨animator, reached, check⟩ := created.exists_of_run pipelineFull
    (fun animator => animator.regenerateLayerTrees) (by decide) (by decide)
  obtain ⟨permits, taken, regenerates⟩ := reachable_noLostRequest reached
  obtain ⟨outstanding, begins⟩ := regenerates check
  exact ⟨animator, check, permits, taken.mpr outstanding, outstanding, begins⟩

/-! ## The scheduled flag -/

/-- What the idle task that `EndFrame` posts does when it runs: whether it notifies the
delegate. -/
def idleTask (animator : Animator) (pastDeadline : Bool) : Bool :=
  !animator.frameScheduled && pastDeadline

/-- The flag stands for the permit. -/
def Scheduled (animator : Animator) : Prop :=
  animator.frameScheduled = true ↔ animator.pendingFrameSemaphore = 0

/-- The vsync callback that runs begins a frame: the request it serves was not for the last
layer trees alone. -/
def ServedByBeginFrame (animator : Animator) (op : Op) : Prop :=
  op = .vsyncCallback → animator.regenerateLayerTrees = true

instance : ∀ animator op, Decidable (ServedByBeginFrame animator op) :=
  fun _ _ => inferInstanceAs (Decidable (_ → _))

theorem frameScheduled_endFrame (animator : Animator) :
    animator.endFrame.frameScheduled = animator.frameScheduled := by
  unfold endFrame finishEndFrame
  split
  · rfl
  · split <;> rfl

theorem frameScheduled_commit (animator : Animator) :
    animator.commit.frameScheduled = animator.frameScheduled := by
  unfold commit finishEndFrame
  split
  · rfl
  · dsimp only
    split <;> rfl

theorem Scheduled.ofSame (scheduled : animator.Scheduled) (same : SameRequests animator next)
    (flag : next.frameScheduled = animator.frameScheduled) : next.Scheduled := by
  unfold Scheduled
  rw [flag, same.pendingFrameSemaphore]
  exact scheduled

theorem Scheduled.requestFrame (scheduled : animator.Scheduled)
    (one : animator.pendingFrameSemaphore ≤ 1) (regenerateLayerTrees : Bool) :
    (animator.requestFrame regenerateLayerTrees).Scheduled := by
  unfold Scheduled Animator.requestFrame at *
  cases regenerateLayerTrees <;> cases permits : animator.pendingFrameSemaphore <;>
    simp_all

theorem scheduled_beginFrame (idle : animator.pendingFrameSemaphore = 0) :
    animator.beginFrame.Scheduled := by
  have signalled : ∀ begun : Animator, begun.pendingFrameSemaphore = 1 →
      begun.frameScheduled = false → begun.Scheduled := by
    intro begun permits cleared
    simp [Scheduled, permits, cleared]
  have one : animator.pendingFrameSemaphore + 1 = 1 := by rw [idle]
  unfold beginFrame
  dsimp only
  split
  · exact signalled _ one rfl
  · split
    · refine Scheduled.ofSame ?_ (sameRequests_endFrame _) (frameScheduled_endFrame _)
      exact (signalled _ one rfl).requestFrame one.le true
    · exact signalled _ one rfl

theorem frameScheduled_delegateReturns (returns : animator.step .delegateReturns = some next) :
    next.frameScheduled = animator.frameScheduled := by
  simp only [step] at returns
  split at returns <;> cases returns
  · exact frameScheduled_endFrame _
  · exact frameScheduled_commit _
  · rfl
  · rfl

/-- The permit and the flag change hands together, unless the last layer trees are drawn. -/
theorem Scheduled.step (scheduled : animator.Scheduled)
    (requested : animator.Requested) (served : ServedByBeginFrame animator op)
    (transition : animator.step op = some next) : next.Scheduled := by
  have permits := requested.permits
  cases op with
  | requestFrame regenerateLayerTrees =>
    cases transition
    exact scheduled.requestFrame (by omega) regenerateLayerTrees
  | render viewId =>
    cases transition
    exact scheduled
  | onAllViewsRendered =>
    cases transition
    refine scheduled.ofSame (sameRequests_onAllViewsRendered animator) ?_
    unfold onAllViewsRendered
    split
    · exact frameScheduled_endFrame animator
    · rfl
  | awaitVSyncTask =>
    obtain ⟨awaitVSyncTasks, -, rfl⟩ := awaitVSyncTask_cases transition
    unfold awaitVSync
    dsimp only
    split <;> exact scheduled
  | fire =>
    simp only [Animator.step] at transition
    split at transition <;> cases transition
    exact scheduled
  | vsyncCallback =>
    obtain ⟨vsyncCallbacks, fired, rfl⟩ := vsyncCallback_cases transition
    rw [vsyncCallback, if_neg (by simp [served rfl])]
    unfold outstanding at permits
    refine scheduled_beginFrame ?_
    dsimp only
    omega
  | delegateReturns =>
    exact scheduled.ofSame (sameRequests_delegateReturns transition)
      (frameScheduled_delegateReturns transition)
  | consume =>
    simp only [Animator.step] at transition
    split at transition <;> cases transition
    exact scheduled
  | consumed =>
    simp only [Animator.step] at transition
    split at transition <;> cases transition
    exact scheduled

/-- In a run whose vsync callbacks all begin a frame, the flag is set exactly while a requested
frame is outstanding, and the idle task tells so. -/
theorem reachable_scheduled {depth : Nat}
    (reached : (machine depth).Reachable ServedByBeginFrame animator) :
    (animator.frameScheduled = true ↔ animator.outstanding = 1) ∧
      ∀ pastDeadline, animator.idleTask pastDeadline = true ↔
        animator.outstanding = 0 ∧ pastDeadline = true := by
  obtain ⟨requested, scheduled⟩ : animator.Requested ∧ animator.Scheduled := by
    refine reached.invariant (fun animator => animator.Requested ∧ animator.Scheduled) ?_
      fun held served transition => ⟨held.1.step transition,
        held.2.step held.1 served transition⟩
    rintro created rfl
    exact ⟨⟨rfl, fun regenerates => Bool.noConfusion regenerates⟩, by simp [Scheduled]⟩
  have permits := requested.permits
  have exact : animator.frameScheduled = true ↔ animator.outstanding = 1 :=
    scheduled.trans (by omega)
  refine ⟨exact, fun pastDeadline => ?_⟩
  rw [idleTask, Bool.and_eq_true, Bool.not_eq_true', ← Bool.not_eq_true, exact]
  refine and_congr_left fun _ => ?_
  omega

/-- A frame that regenerates the layer trees, and the request for the next one. -/
def regeneratedFrames : List Op :=
  [.requestFrame true, .awaitVSyncTask, .fire, .vsyncCallback, .delegateReturns,
    .requestFrame true]

theorem regeneratedFrames_scheduled : ∃ animator : Animator,
    animator.begun = 1 ∧ animator.frameScheduled = true ∧ animator.outstanding = 1 := by
  have created : (machine 2).Reachable ServedByBeginFrame { freeSlots := 2 } := .initial rfl
  obtain ⟨animator, reached, check⟩ := created.exists_of_run regeneratedFrames
    (fun animator => animator.begun = 1 ∧ animator.frameScheduled) (by decide) (by decide)
  obtain ⟨begun, flag⟩ := of_decide_eq_true check
  exact ⟨animator, begun, flag, (reachable_scheduled reached).1.mp flag⟩

/-- A rendered frame, whose `EndFrame` posts an idle task, and one that only draws the last
layer trees. -/
def lastLayerTreesFrame : List Op :=
  [.requestFrame true, .awaitVSyncTask, .fire, .vsyncCallback, .render 0, .delegateReturns,
    .delegateReturns, .delegateReturns, .requestFrame false, .awaitVSyncTask,
    .delegateReturns, .fire, .vsyncCallback, .delegateReturns]

/-- Nothing is outstanding after them, but the flag is still set and idleness is not notified. -/
theorem lastLayerTreesFrame_stale : ∃ animator : Animator,
    (machine 2).Reachable (fun _ _ => True) animator ∧ animator.calls = [] ∧
      animator.outstanding = 0 ∧ animator.frameScheduled = true ∧
      animator.idleTask true = false := by
  have created : (machine 2).Reachable (fun _ _ => True) { freeSlots := 2 } := .initial rfl
  obtain ⟨animator, reached, check⟩ := created.exists_of_run lastLayerTreesFrame
    (fun animator => animator.calls = [] ∧ animator.outstanding = 0 ∧
      animator.frameScheduled = true ∧ animator.idleTask true = false) (by decide) (by decide)
  exact ⟨animator, reached, of_decide_eq_true check⟩

end Animator

end FlutterEngine.Shell
