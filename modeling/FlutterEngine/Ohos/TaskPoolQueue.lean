import FlutterEngine.Ohos.WorkerTaskQueue

/-!
# Serial task queues on the task pool

`SerialTaskQueueWithTaskPool` of `DartMessenger.ets`. A call of `runNext` is suspended in the task
it took, and the task in the promise of the pool; both go on in microtasks of their own, in any
order with the others and with new dispatches. There is never more than one such call.
-/

namespace FlutterEngine.Ohos

open FlutterEngine.Std

/-- Where a call of `runNext` that has taken a task is suspended. -/
inductive Suspended where
  /-- The task waits for the promise of `taskpool.execute`. -/
  | executing
  /-- The promise is settled, the task has still to go on. -/
  | settled (result : TaskResult)
  /-- The task has returned, `runNext` has still to go on. -/
  | returned
deriving DecidableEq

/-- `calls` are the suspended calls of `runNext`. The last three fields record the tasks that were
dispatched, those whose execution was begun, and the result of each execution that has settled. -/
structure SerialTaskQueueWithTaskPool where
  flutterNapi : FlutterNapi := {}
  queue : List Task := []
  isRunning : Bool := false
  calls : List (Task × Suspended) := []
  dispatched : List Task := []
  executed : List Task := []
  results : List (Int × TaskResult) := []

namespace SerialTaskQueueWithTaskPool

variable (state : SerialTaskQueueWithTaskPool)

/-- The task runs as far as its `await`. -/
def runNext : SerialTaskQueueWithTaskPool :=
  match state.queue with
  | [] => state
  | task :: queue =>
    { state with
      isRunning := true
      queue := queue
      calls := state.calls ++ [(task, .executing)]
      executed := state.executed ++ [task] }

def dispatch (message : ArrayBuffer) (callback : Reply) : SerialTaskQueueWithTaskPool :=
  let added := { state with
    queue := state.queue ++ [⟨message, callback⟩]
    dispatched := state.dispatched ++ [⟨message, callback⟩] }
  if added.isRunning then added else added.runNext

/-- `callback.reply`; what it throws is caught and answered with `callback.reply(null)`. -/
def replyWith (callback : Reply) (result : TaskResult) : FlutterNapi :=
  match callback.reply state.flutterNapi (result.toOption.getD none) with
  | .ok flutterNapi => flutterNapi
  | .error _ =>
    match callback.reply state.flutterNapi none with
    | .ok flutterNapi => flutterNapi
    | .error _ => state.flutterNapi

/-- The pool settles a promise. -/
def settle (index : Nat) (task : Task) (result : TaskResult) : SerialTaskQueueWithTaskPool :=
  { state with
    calls := state.calls.set index (task, .settled result)
    results := state.results ++ [(task.callback.replyId, result)] }

/-- The rest of a task. -/
def resumeTask (index : Nat) (task : Task) (result : TaskResult) : SerialTaskQueueWithTaskPool :=
  { state with
    flutterNapi := state.replyWith task.callback result
    calls := state.calls.set index (task, .returned) }

/-- The `finally` of `runNext`. -/
def resumeRunNext (index : Nat) : SerialTaskQueueWithTaskPool :=
  { state with isRunning := false, calls := state.calls.eraseIdx index }.runNext

/-! ## Runs -/

inductive Event where
  | dispatch (message : ArrayBuffer) (replyId : Int)
  /-- The pool settles the promise this call waits for. -/
  | settle (index : Nat) (result : TaskResult)
  /-- The call, or the task it waits for, goes on. -/
  | resume (index : Nat)
deriving DecidableEq

/-- Each message has a reply id of its own. -/
def event : Event → Option SerialTaskQueueWithTaskPool
  | .dispatch message replyId =>
    if replyId ∈ state.dispatched.map (·.callback.replyId) then none
    else some (state.dispatch message { replyId })
  | .settle index result =>
    match state.calls[index]? with
    | some (task, .executing) => some (state.settle index task result)
    | _ => none
  | .resume index =>
    match state.calls[index]? with
    | some (task, .settled result) => some (state.resumeTask index task result)
    | some (_, .returned) => some (state.resumeRunNext index)
    | _ => none

def machine : Machine SerialTaskQueueWithTaskPool Event where
  Initial state := state = {}
  step := event

abbrev Reachable (state : SerialTaskQueueWithTaskPool) : Prop :=
  machine.Reachable (fun _ _ => True) state

/-- What a serial queue promises. -/
structure Serial : Prop where
  oneAtATime : (state.calls.filter (·.2 = .executing)).length ≤ 1
  inOrder : state.dispatched = state.executed ++ state.queue
  executedOnce : (state.executed.map (·.callback.replyId)).Nodup
  settledOnce : (state.results.map Prod.fst).Nodup
  /-- A message has no response, or the one with the result of its own execution. -/
  answeredOnce : ∀ task ∈ state.dispatched,
    state.flutterNapi.sentTo task.callback.replyId = [] ∨
      ∃ result, (task.callback.replyId, result) ∈ state.results ∧
        state.flutterNapi.sentTo task.callback.replyId =
          [.ofResult (task.callback.replyId, result)]
  noneWaiting : state.isRunning = false → state.queue = []
  /-- With nothing left to settle or to go on, every message has its response. -/
  allAnswered : state.calls = [] → state.isRunning = false ∧
    ∀ task ∈ state.dispatched, state.flutterNapi.sentTo task.callback.replyId ≠ []

variable {state : SerialTaskQueueWithTaskPool}

/-! ## One call of `runNext` at a time -/

/-- The results so far are of the tasks executed so far, and their responses were sent. -/
structure Settled (state : SerialTaskQueueWithTaskPool) (executed : List Task)
    (results : List (Int × TaskResult)) : Prop where
  ofExecuted : results.map Prod.fst = executed.map (·.callback.replyId)
  responses : state.flutterNapi.responses = results.map .ofResult

/-- Where the queue is between two events. -/
inductive Progress (state : SerialTaskQueueWithTaskPool) : Prop where
  | idle (calls : state.calls = []) (stopped : state.isRunning = false) (empty : state.queue = [])
      (settled : state.Settled state.executed state.results)
  | executing (task : Task) (earlier : List Task) (calls : state.calls = [(task, .executing)])
      (running : state.isRunning = true) (executed : state.executed = earlier ++ [task])
      (settled : state.Settled earlier state.results)
  | settled (task : Task) (earlier : List Task) (result : TaskResult)
      (results : List (Int × TaskResult)) (calls : state.calls = [(task, .settled result)])
      (running : state.isRunning = true) (executed : state.executed = earlier ++ [task])
      (last : state.results = results ++ [(task.callback.replyId, result)])
      (settled : state.Settled earlier results)
  | returned (task : Task) (calls : state.calls = [(task, .returned)])
      (running : state.isRunning = true) (settled : state.Settled state.executed state.results)

structure Wf (state : SerialTaskQueueWithTaskPool) : Prop where
  inOrder : state.dispatched = state.executed ++ state.queue
  different : (state.dispatched.map (·.callback.replyId)).Nodup
  unset : ∀ task ∈ state.dispatched, task.callback.done = false

/-- From a stopped call, `runNext` takes the next task or leaves the queue idle. -/
theorem progress_runNext (calls : state.calls = []) (stopped : state.isRunning = false)
    (settled : state.Settled state.executed state.results) : state.runNext.Progress := by
  unfold runNext
  split
  · next empty => exact .idle calls stopped empty settled
  · next task queue taken =>
      refine .executing task state.executed ?_ rfl rfl ⟨settled.ofExecuted, settled.responses⟩
      simp [calls]

theorem wf_runNext (wf : state.Wf) : state.runNext.Wf := by
  unfold runNext
  split
  · exact wf
  · next task queue taken =>
      refine ⟨?_, wf.different, wf.unset⟩
      rw [wf.inOrder, taken]
      simp

theorem dispatch_keeps (wf : state.Wf) (progress : state.Progress) (message : ArrayBuffer)
    {replyId : Int} (fresh : replyId ∉ state.dispatched.map (·.callback.replyId)) :
    (state.dispatch message { replyId }).Wf ∧ (state.dispatch message { replyId }).Progress := by
  let task : Task := ⟨message, { replyId }⟩
  let added : SerialTaskQueueWithTaskPool := { state with
    queue := state.queue ++ [task]
    dispatched := state.dispatched ++ [task] }
  have wfAdded : added.Wf := by
    refine ⟨?_, ?_, fun other listed => ?_⟩
    · simp [added, wf.inOrder]
    · simp only [added, List.map_append, List.map_cons, List.map_nil, List.nodup_append]
      refine ⟨wf.different, List.nodup_singleton _, fun earlier before other last same => fresh ?_⟩
      rw [List.mem_singleton.mp last] at same
      subst same
      exact before
    · rcases List.mem_append.mp listed with before | last
      · exact wf.unset other before
      · rw [List.mem_singleton.mp last]
  change (if added.isRunning = true then added else added.runNext).Wf ∧
    (if added.isRunning = true then added else added.runNext).Progress
  cases progress with
  | idle calls stopped empty settled =>
    rw [if_neg (by simp [added, stopped])]
    exact ⟨wf_runNext wfAdded,
      progress_runNext calls stopped ⟨settled.ofExecuted, settled.responses⟩⟩
  | executing task earlier calls running executed settled =>
    rw [if_pos running]
    exact ⟨wfAdded, .executing task earlier calls running executed
      ⟨settled.ofExecuted, settled.responses⟩⟩
  | settled task earlier result results calls running executed last settled =>
    rw [if_pos running]
    exact ⟨wfAdded, .settled task earlier result results calls running executed last
      ⟨settled.ofExecuted, settled.responses⟩⟩
  | returned task calls running settled =>
    rw [if_pos running]
    exact ⟨wfAdded, .returned task calls running ⟨settled.ofExecuted, settled.responses⟩⟩

variable {index : Nat} {task : Task}

theorem Progress.calls_eq (progress : state.Progress) {call : Task × Suspended}
    (waits : state.calls[index]? = some call) : index = 0 ∧ state.calls = [call] := by
  cases progress with
  | idle calls => simp [calls] at waits
  | executing _ _ calls | settled _ _ _ _ calls | returned _ calls =>
    rw [calls, List.getElem?_singleton] at waits
    simp only [Option.ite_none_right_eq_some, Option.some_inj] at waits
    exact ⟨waits.1, by rw [calls, waits.2]⟩

theorem settle_keeps (wf : state.Wf) (progress : state.Progress)
    (waits : state.calls[index]? = some (task, .executing)) (result : TaskResult) :
    (state.settle index task result).Wf ∧ (state.settle index task result).Progress := by
  refine ⟨⟨wf.inOrder, wf.different, wf.unset⟩, ?_⟩
  obtain ⟨rfl, only⟩ := progress.calls_eq waits
  cases progress with
  | executing other earlier calls running executed settled =>
    cases calls.symm.trans only
    refine .settled task earlier result state.results ?_ running executed rfl
      ⟨settled.ofExecuted, settled.responses⟩
    simp [settle, calls]
  | idle calls | settled _ _ _ _ calls | returned _ calls => cases calls.symm.trans only

theorem responses_replyWith {callback : Reply} (unset : callback.done = false)
    (result : TaskResult) :
    (state.replyWith callback result).responses =
      state.flutterNapi.responses ++ [.ofResult (callback.replyId, result)] := by
  simp only [replyWith, Reply.reply_unset unset]
  rfl

/-- A task that goes on sends the response with its result. -/
theorem resumeTask_keeps (wf : state.Wf) (progress : state.Progress)
    {result : TaskResult} (waits : state.calls[index]? = some (task, .settled result)) :
    (state.resumeTask index task result).Wf ∧ (state.resumeTask index task result).Progress := by
  refine ⟨⟨wf.inOrder, wf.different, wf.unset⟩, ?_⟩
  obtain ⟨rfl, only⟩ := progress.calls_eq waits
  cases progress with
  | settled other earlier value results calls running executed last settled =>
    cases calls.symm.trans only
    have listed : task ∈ state.dispatched := by
      rw [wf.inOrder, executed]
      simp
    refine .returned task ?_ running ⟨?_, ?_⟩
    · simp [resumeTask, calls]
    · change state.results.map Prod.fst = state.executed.map _
      rw [last, executed, List.map_append, List.map_append, settled.ofExecuted]
      rfl
    · change (state.replyWith task.callback result).responses = state.results.map .ofResult
      rw [responses_replyWith (wf.unset task listed), settled.responses, last, List.map_append]
      rfl
  | idle calls | executing _ _ calls | returned _ calls => cases calls.symm.trans only

theorem resumeRunNext_keeps (wf : state.Wf) (progress : state.Progress)
    (waits : state.calls[index]? = some (task, .returned)) :
    (state.resumeRunNext index).Wf ∧ (state.resumeRunNext index).Progress := by
  refine ⟨wf_runNext ⟨wf.inOrder, wf.different, wf.unset⟩, ?_⟩
  obtain ⟨rfl, only⟩ := progress.calls_eq waits
  cases progress with
  | returned other calls running settled =>
    cases calls.symm.trans only
    refine progress_runNext ?_ rfl ⟨settled.ofExecuted, settled.responses⟩
    simp [calls]
  | idle calls | executing _ _ calls | settled _ _ _ _ calls => cases calls.symm.trans only

theorem event_keeps {next : SerialTaskQueueWithTaskPool} {event : Event} (wf : state.Wf)
    (progress : state.Progress) (moves : state.event event = some next) :
    next.Wf ∧ next.Progress := by
  cases event with
  | dispatch message replyId =>
    simp only [SerialTaskQueueWithTaskPool.event, Option.ite_none_left_eq_some,
      Option.some_inj] at moves
    obtain ⟨fresh, rfl⟩ := moves
    exact dispatch_keeps wf progress message fresh
  | settle index result =>
    simp only [SerialTaskQueueWithTaskPool.event] at moves
    split at moves
    · next task waits =>
        cases moves
        exact settle_keeps wf progress waits result
    · cases moves
  | resume index =>
    simp only [SerialTaskQueueWithTaskPool.event] at moves
    split at moves
    · next task result waits =>
        cases moves
        exact resumeTask_keeps wf progress waits
    · next task waits =>
        cases moves
        exact resumeRunNext_keeps wf progress waits
    · cases moves

theorem Reachable.keeps (reached : Reachable state) : state.Wf ∧ state.Progress := by
  refine reached.invariant (fun state => state.Wf ∧ state.Progress) ?_ ?_
  · rintro _ rfl
    exact ⟨⟨rfl, List.nodup_nil, fun _ listed => absurd listed List.not_mem_nil⟩,
      .idle rfl rfl rfl ⟨rfl, rfl⟩⟩
  · intro state event next kept _ moves
    exact event_keeps kept.1 kept.2 moves

/-! ## What a serial queue promises -/

/-- The responses sent are to results of tasks that were executed first. -/
theorem Progress.sent (progress : state.Progress) :
    ∃ results later, state.results = results ++ later ∧
      state.flutterNapi.responses = results.map .ofResult ∧
      ∃ waiting, state.executed.map (·.callback.replyId) =
        state.results.map Prod.fst ++ waiting := by
  cases progress with
  | idle calls stopped empty settled =>
    exact ⟨state.results, [], by simp, settled.responses, [], by simp [settled.ofExecuted]⟩
  | executing task earlier calls running executed settled =>
    exact ⟨state.results, [], by simp, settled.responses, [task.callback.replyId],
      by simp [settled.ofExecuted, executed]⟩
  | settled task earlier result results calls running executed last settled =>
    exact ⟨results, _, last, settled.responses, [], by simp [last, settled.ofExecuted, executed]⟩
  | returned task calls running settled =>
    exact ⟨state.results, [], by simp, settled.responses, [], by simp [settled.ofExecuted]⟩

/-- In every state of every run, the queue has executed its tasks one at a time and in order, no
message has another response than the one with its own result, and none is left waiting. -/
theorem reachable_serial (reached : Reachable state) : state.Serial := by
  obtain ⟨wf, progress⟩ := reached.keeps
  obtain ⟨results, later, split, responses, waiting, executed⟩ := progress.sent
  have once : (state.executed.map (·.callback.replyId)).Nodup := by
    have different := wf.different
    rw [wf.inOrder, List.map_append] at different
    exact (List.nodup_append.mp different).1
  have distinct : (state.results.map Prod.fst).Nodup := by
    rw [executed] at once
    exact (List.nodup_append.mp once).1
  have distinctSent : (results.map Prod.fst).Nodup := by
    rw [split, List.map_append] at distinct
    exact (List.nodup_append.mp distinct).1
  refine ⟨?_, wf.inOrder, once, distinct, fun task _ => ?_, fun stopped => ?_, fun calls => ?_⟩
  · cases progress with
    | idle calls => simp [calls]
    | executing task earlier calls => simp [calls]
    | settled task earlier result results calls => simp [calls]
    | returned task calls => simp [calls]
  · rw [FlutterNapi.sentTo, responses]
    by_cases answered : task.callback.replyId ∈ results.map Prod.fst
    · obtain ⟨⟨replyId, result⟩, given, rfl⟩ := List.mem_map.mp answered
      refine .inr ⟨result, ?_, filter_ofResult_of_mem distinctSent given⟩
      rw [split]
      exact List.mem_append_left _ given
    · exact .inl (filter_ofResult_of_not_mem answered)
  · cases progress with
    | idle calls stopped empty => exact empty
    | executing task earlier calls running => exact absurd running (by simp [stopped])
    | settled task earlier result results calls running => exact absurd running (by simp [stopped])
    | returned task calls running => exact absurd running (by simp [stopped])
  · cases progress with
    | idle _ stopped empty settled =>
      refine ⟨stopped, fun task listed none => ?_⟩
      have answered : task.callback.replyId ∈ state.results.map Prod.fst := by
        rw [settled.ofExecuted]
        rw [wf.inOrder, empty, List.append_nil] at listed
        exact List.mem_map_of_mem listed
      obtain ⟨answer, given, same⟩ := List.mem_map.mp answered
      rw [FlutterNapi.sentTo, settled.responses, ← same,
        filter_ofResult_of_mem distinct given] at none
      exact List.cons_ne_nil _ _ none
    | executing task earlier busy => exact absurd (busy.symm.trans calls) (by simp)
    | settled task earlier result results busy => exact absurd (busy.symm.trans calls) (by simp)
    | returned task busy => exact absurd (busy.symm.trans calls) (by simp)

/-- A message that comes while another one is executed. -/
def twoMessages : List Event :=
  [.dispatch [1] 7, .dispatch [2] 8, .settle 0 (.ok (some [1])), .resume 0, .resume 0,
    .settle 0 (.error "failed"), .resume 0, .resume 0]

theorem reachable_serial_twoMessages :
    ∃ state, machine.run {} twoMessages = some state ∧ state.calls = [] ∧ state.Serial :=
  ⟨_, rfl, rfl, reachable_serial
    (.of_run (.initial rfl) (Machine.meets_of_forall (fun _ _ => trivial) _ twoMessages) rfl)⟩

end SerialTaskQueueWithTaskPool

end FlutterEngine.Ohos
