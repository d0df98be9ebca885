import FlutterEngine.Ohos.DartMessenger
import FlutterEngine.Std.ExactGuards

/-!
# Task queues on the shared worker

`SerialTaskQueueWithWorker` of `DartMessenger.ets`. All queues post to one worker, and each
dispatch installs the callbacks for the worker's answers anew, with its own `Reply`. So an answer
goes to the message that was dispatched last, which is the one it answers as long as no two
messages are with the worker at a time.
-/

namespace FlutterEngine.Ohos

open FlutterEngine.Std

/-- A value, or the message of an error. -/
abbrev TaskResult := Except String (Option ArrayBuffer)

/-- What `reply` sends. -/
def Response.ofReply (replyId : Int) : Option ArrayBuffer → Response
  | none => .empty replyId
  | some data => .message replyId data data.length

/-- The response to a message with this result; a failed one gets an empty response. -/
def Response.ofResult (answer : Int × TaskResult) : Response :=
  .ofReply answer.1 (answer.2.toOption.getD none)

@[simp] theorem Response.replyId_ofReply (replyId : Int) (reply : Option ArrayBuffer) :
    (Response.ofReply replyId reply).replyId = replyId := by
  cases reply <;> rfl

@[simp] theorem Response.replyId_ofResult (answer : Int × TaskResult) :
    (Response.ofResult answer).replyId = answer.1 := replyId_ofReply _ _

theorem Reply.reply_unset {self : Reply} (unset : self.done = false) (flutterNapi : FlutterNapi)
    (reply : Option ArrayBuffer) :
    self.reply flutterNapi reply =
      .ok ⟨flutterNapi.responses ++ [.ofReply self.replyId reply]⟩ := by
  unfold Reply.reply
  rw [if_neg (by simp [unset])]
  cases reply <;> rfl

/-- The responses for a message. -/
def FlutterNapi.sentTo (flutterNapi : FlutterNapi) (replyId : Int) : List Response :=
  flutterNapi.responses.filter (·.replyId == replyId)

variable {answers : List (Int × TaskResult)}

theorem filter_ofResult_of_not_mem {replyId : Int} (unanswered : replyId ∉ answers.map Prod.fst) :
    (answers.map Response.ofResult).filter (·.replyId == replyId) = [] := by
  rw [List.filter_eq_nil_iff]
  intro response sent
  obtain ⟨answer, given, rfl⟩ := List.mem_map.mp sent
  rw [Response.replyId_ofResult, beq_iff_eq]
  rintro rfl
  exact unanswered (List.mem_map_of_mem given)

/-- Of responses to different messages, one is to each of them. -/
theorem filter_ofResult_of_mem {answer : Int × TaskResult}
    (distinct : (answers.map Prod.fst).Nodup) (given : answer ∈ answers) :
    (answers.map Response.ofResult).filter (·.replyId == answer.1) = [.ofResult answer] := by
  induction answers with
  | nil => exact absurd given List.not_mem_nil
  | cons first rest ih =>
    obtain ⟨new, distinct⟩ := List.nodup_cons.mp distinct
    rw [List.map_cons, List.filter_cons, Response.replyId_ofResult]
    rcases List.mem_cons.mp given with rfl | later
    · rw [if_pos (beq_self_eq_true _), filter_ofResult_of_not_mem new]
    · have differs : first.1 ≠ answer.1 := fun same =>
        new (same ▸ List.mem_map_of_mem later)
      rw [if_neg (by simpa using differs), ih distinct later]

structure Task where
  message : ArrayBuffer
  callback : Reply

/-- The worker, with the replies its callbacks have captured and the messages it has not answered,
in the order they were posted. -/
structure ThreadWorker where
  onmessage : Option Reply := none
  onerror : Option Reply := none
  posted : List Task := []

/-- All queues of the messenger. `answered` records the worker's answers. -/
structure SerialTaskQueueWithWorker where
  flutterNapi : FlutterNapi := {}
  workerInstance : Option ThreadWorker := none
  queues : Nat := 0
  answered : List (Int × TaskResult) := []

namespace SerialTaskQueueWithWorker

variable (state : SerialTaskQueueWithWorker)

/-- The constructor: the first queue makes the worker. -/
def make : SerialTaskQueueWithWorker :=
  { state with
    workerInstance := state.workerInstance.or (some {})
    queues := state.queues + 1 }

/-- The callbacks are set, then the message is posted. -/
def dispatch (worker : ThreadWorker) (message : ArrayBuffer) (callback : Reply) :
    SerialTaskQueueWithWorker :=
  { state with
    workerInstance := some
      { onmessage := some callback
        onerror := some callback
        posted := worker.posted ++ [{ message, callback }] } }

/-- A callback calls `reply`. An error that `reply` throws is lost. -/
def callback (reply : Option Reply) (message : Option ArrayBuffer) : FlutterNapi :=
  match reply with
  | none => state.flutterNapi
  | some reply =>
    match reply.reply state.flutterNapi message with
    | .ok flutterNapi => flutterNapi
    | .error _ => state.flutterNapi

/-- The worker answers the message it was posted first. -/
def answer (worker : ThreadWorker) (task : Task) (rest : List Task) (result : TaskResult) :
    SerialTaskQueueWithWorker :=
  { state with
    flutterNapi :=
      match result with
      | .ok data => state.callback worker.onmessage data
      | .error _ => state.callback worker.onerror none
    workerInstance := some { worker with posted := rest }
    answered := state.answered ++ [(task.callback.replyId, result)] }

/-- The messages the worker has not answered. -/
def inFlight : List Task :=
  state.workerInstance.elim [] ThreadWorker.posted

/-- All messages that were dispatched. -/
def dispatched : List Int :=
  state.answered.map Prod.fst ++ state.inFlight.map (·.callback.replyId)

/-! ## Runs -/

inductive Event where
  | make
  | dispatch (queue : Nat) (message : ArrayBuffer) (replyId : Int)
  | answer (result : TaskResult)

/-- A message is dispatched to a queue that was made, with a reply id of its own. -/
def event : Event → Option SerialTaskQueueWithWorker
  | .make => some state.make
  | .dispatch queue message replyId =>
    state.workerInstance.bind fun worker =>
      if queue < state.queues ∧ replyId ∉ state.dispatched then
        some (state.dispatch worker message { replyId })
      else none
  | .answer result =>
    state.workerInstance.bind fun worker =>
      match worker.posted with
      | [] => none
      | task :: rest => some (state.answer worker task rest result)

def machine : Machine SerialTaskQueueWithWorker Event where
  Initial state := state = {}
  step := event

/-- No message is dispatched while the worker has another one. -/
def Alone : Event → Prop
  | .dispatch _ _ _ => state.inFlight = []
  | _ => True

/-- Each message has one response, with the worker's result for it. -/
def RepliesToEach : Prop :=
  ∀ answer ∈ state.answered, state.flutterNapi.sentTo answer.1 = [.ofResult answer]

variable {state : SerialTaskQueueWithWorker}

/-! ## One message at a time -/

/-- Of the state in itself: the messages are different, and a worker with messages has callbacks,
whose replies are not done. -/
structure Wf (state : SerialTaskQueueWithWorker) : Prop where
  distinct : state.dispatched.Nodup
  same : ∀ worker, state.workerInstance = some worker → worker.onerror = worker.onmessage
  captured : ∀ worker, state.workerInstance = some worker → worker.posted ≠ [] →
    worker.onmessage ≠ none
  unset : ∀ worker, state.workerInstance = some worker → ∀ reply ∈ worker.onmessage,
    reply.done = false

/-- The responses are those to the answered messages, and an answer would go to the message that
is being answered. -/
structure InTurn (state : SerialTaskQueueWithWorker) : Prop where
  wf : state.Wf
  responses : state.flutterNapi.responses = state.answered.map .ofResult
  alone : ∀ worker, state.workerInstance = some worker → ∀ task ∈ worker.posted,
    worker.posted = [task] ∧ worker.onmessage = some task.callback

/-- A message has no response, and its callback is not there any more. -/
structure Overtaken (state : SerialTaskQueueWithWorker) (replyId : Int) : Prop where
  wf : state.Wf
  dispatched : replyId ∈ state.dispatched
  unanswered : ∀ response ∈ state.flutterNapi.responses, response.replyId ≠ replyId
  replaced : ∀ worker, state.workerInstance = some worker → ∀ reply ∈ worker.onmessage,
    reply.replyId ≠ replyId

theorem InTurn.not_overtaken (inTurn : state.InTurn) (replyId : Int) :
    ¬ state.Overtaken replyId := by
  rintro ⟨-, dispatched, unanswered, replaced⟩
  rcases List.mem_append.mp dispatched with answered | posted
  · obtain ⟨answer, given, rfl⟩ := List.mem_map.mp answered
    refine unanswered (.ofResult answer) ?_ (Response.replyId_ofResult answer)
    rw [inTurn.responses]
    exact List.mem_map_of_mem given
  · obtain ⟨task, waiting, rfl⟩ := List.mem_map.mp posted
    cases instance_eq : state.workerInstance with
    | none => simp [inFlight, instance_eq] at waiting
    | some worker =>
      rw [inFlight, instance_eq] at waiting
      have callback := (inTurn.alone worker instance_eq task waiting).2
      exact replaced worker instance_eq task.callback callback rfl

def turns : Stake SerialTaskQueueWithWorker where
  Kept state := state.InTurn
  Lost state := ∃ replyId, state.Overtaken replyId
  exclusive := fun inTurn ⟨replyId, overtaken⟩ => inTurn.not_overtaken replyId overtaken

/-! ## What the events do -/

variable {worker : ThreadWorker}

theorem inFlight_of_instance (found : state.workerInstance = some worker) :
    state.inFlight = worker.posted := by
  rw [inFlight, found]
  rfl

theorem inFlight_make : state.make.inFlight = state.inFlight := by
  unfold inFlight make
  cases state.workerInstance <;> rfl

theorem dispatched_make : state.make.dispatched = state.dispatched := by
  rw [dispatched, dispatched, inFlight_make]
  rfl

/-- A worker that is there after `make` was there or is new. -/
theorem instance_make (found : state.make.workerInstance = some worker) :
    state.workerInstance = some worker ∨ worker = {} := by
  unfold make at found
  cases instance_eq : state.workerInstance with
  | none =>
    rw [instance_eq] at found
    exact .inr (Option.some_inj.mp found).symm
  | some other =>
    rw [instance_eq] at found
    exact .inl found

theorem dispatched_dispatch (found : state.workerInstance = some worker) (message : ArrayBuffer)
    (callback : Reply) :
    (state.dispatch worker message callback).dispatched =
      state.dispatched ++ [callback.replyId] := by
  rw [dispatched, dispatched, inFlight_of_instance found]
  simp [dispatch, inFlight]

variable {task : Task} {rest : List Task} {reply : Reply} {replyId : Int}

theorem dispatched_answer
    (found : state.workerInstance = some worker) (posted : worker.posted = task :: rest)
    (result : TaskResult) :
    (state.answer worker task rest result).dispatched = state.dispatched := by
  rw [dispatched, dispatched, inFlight_of_instance found, posted]
  simp [answer, inFlight]

theorem callback_eq (unset : reply.done = false) (message : Option ArrayBuffer) :
    (state.callback (some reply) message).responses =
      state.flutterNapi.responses ++ [.ofReply reply.replyId message] := by
  simp only [callback, Reply.reply_unset unset]

/-- An answer sends a response to the message whose callbacks are there. -/
theorem responses_answer (wf : state.Wf)
    (found : state.workerInstance = some worker) (captured : worker.onmessage = some reply)
    (task : Task) (rest : List Task) (result : TaskResult) :
    (state.answer worker task rest result).flutterNapi.responses =
      state.flutterNapi.responses ++ [.ofResult (reply.replyId, result)] := by
  have unset := wf.unset worker found reply captured
  unfold answer
  rw [wf.same worker found, captured]
  cases result with
  | ok data => exact callback_eq unset data
  | error message => exact callback_eq unset none

theorem Wf.make (wf : state.Wf) : state.make.Wf := by
  refine ⟨by rw [dispatched_make]; exact wf.distinct, ?_, ?_, ?_⟩
  · intro worker found
    rcases instance_make found with before | rfl
    · exact wf.same worker before
    · rfl
  · intro worker found waiting
    rcases instance_make found with before | rfl
    · exact wf.captured worker before waiting
    · exact absurd rfl waiting
  · intro worker found reply there
    rcases instance_make found with before | rfl
    · exact wf.unset worker before reply there
    · cases there

theorem Wf.dispatch (wf : state.Wf) (found : state.workerInstance = some worker)
    (message : ArrayBuffer)
    (fresh : replyId ∉ state.dispatched) : (state.dispatch worker message { replyId }).Wf := by
  refine ⟨?_, ?_, ?_, ?_⟩
  · rw [dispatched_dispatch found, List.nodup_append]
    refine ⟨wf.distinct, List.nodup_singleton _, fun earlier before other last same => fresh ?_⟩
    rw [List.mem_singleton.mp last] at same
    subst same
    exact before
  · rintro _ ⟨⟩
    rfl
  · rintro _ ⟨⟩ _
    exact Option.some_ne_none _
  · rintro _ ⟨⟩ reply ⟨⟩
    rfl

theorem Wf.answer (wf : state.Wf)
    (found : state.workerInstance = some worker) (posted : worker.posted = task :: rest)
    (result : TaskResult) : (state.answer worker task rest result).Wf := by
  refine ⟨?_, ?_, ?_, ?_⟩
  · rw [dispatched_answer found posted]
    exact wf.distinct
  · rintro _ ⟨⟩
    exact wf.same worker found
  · rintro _ ⟨⟩ _
    exact wf.captured worker found (by simp [posted])
  · rintro _ ⟨⟩
    exact wf.unset worker found

theorem exact_make (state : SerialTaskQueueWithWorker) :
    ExactGuard turns turns state True state.make := by
  refine ⟨fun inTurn _ => ⟨inTurn.wf.make, inTurn.responses, fun worker found => ?_⟩,
    fun _ unmet => absurd trivial unmet, ?_⟩
  · rcases instance_make found with before | rfl
    · exact inTurn.alone worker before
    · exact fun task waiting => absurd waiting List.not_mem_nil
  · rintro ⟨replyId, overtaken⟩
    refine ⟨replyId, overtaken.wf.make, ?_, overtaken.unanswered, fun worker found => ?_⟩
    · rw [dispatched_make]
      exact overtaken.dispatched
    · rcases instance_make found with before | rfl
      · exact overtaken.replaced worker before
      · exact fun reply there => nomatch there

/-- A dispatch while the worker has a message takes that message's callbacks away. -/
theorem exact_dispatch (found : state.workerInstance = some worker) (message : ArrayBuffer) (fresh : replyId ∉ state.dispatched) :
    ExactGuard turns turns state (state.inFlight = [])
      (state.dispatch worker message { replyId }) := by
  rw [inFlight_of_instance found]
  refine ⟨fun inTurn empty => ?_, fun inTurn busy => ?_, ?_⟩
  · refine ⟨inTurn.wf.dispatch found message fresh, inTurn.responses, ?_⟩
    rintro _ ⟨⟩ task waiting
    simp only [empty, List.nil_append, List.mem_singleton] at waiting ⊢
    rw [waiting]
    exact ⟨rfl, rfl⟩
  · obtain ⟨task, rest, posted⟩ := List.exists_cons_of_ne_nil busy
    have waiting : task.callback.replyId ∈ state.inFlight.map (·.callback.replyId) := by
      rw [inFlight_of_instance found, posted]
      exact List.mem_cons_self
    have before : task.callback.replyId ∈ state.dispatched := List.mem_append_right _ waiting
    refine ⟨task.callback.replyId, inTurn.wf.dispatch found message fresh, ?_, ?_, ?_⟩
    · rw [dispatched_dispatch found]
      exact List.mem_append_left _ before
    · change ∀ response ∈ state.flutterNapi.responses, _
      rw [inTurn.responses]
      intro response sent same
      obtain ⟨answer, given, rfl⟩ := List.mem_map.mp sent
      rw [Response.replyId_ofResult] at same
      exact (List.nodup_append.mp inTurn.wf.distinct).2.2 answer.1 (List.mem_map_of_mem given)
        _ waiting same
    · rintro _ ⟨⟩ reply ⟨⟩ same
      rw [← same] at before
      exact fresh before
  · rintro ⟨lost, overtaken⟩
    refine ⟨lost, overtaken.wf.dispatch found message fresh, ?_, overtaken.unanswered, ?_⟩
    · rw [dispatched_dispatch found]
      exact List.mem_append_left _ overtaken.dispatched
    · rintro _ ⟨⟩ reply ⟨⟩ same
      subst same
      exact fresh overtaken.dispatched

theorem exact_answer (found : state.workerInstance = some worker)
    (posted : worker.posted = task :: rest) (result : TaskResult) :
    ExactGuard turns turns state True (state.answer worker task rest result) := by
  refine ⟨fun inTurn _ => ?_, fun _ unmet => absurd trivial unmet, ?_⟩
  · obtain ⟨single, captured⟩ := inTurn.alone worker found task (by simp [posted])
    refine ⟨inTurn.wf.answer found posted result, ?_, ?_⟩
    · rw [responses_answer inTurn.wf found captured, inTurn.responses]
      simp [answer]
    · rintro _ ⟨⟩ other waiting
      obtain ⟨-, rfl⟩ := List.cons_eq_cons.mp (posted.symm.trans single)
      exact absurd waiting List.not_mem_nil
  · rintro ⟨lost, overtaken⟩
    have waiting : worker.posted ≠ [] := by simp [posted]
    obtain ⟨reply, captured⟩ := Option.ne_none_iff_exists'.mp
      (overtaken.wf.captured worker found waiting)
    refine ⟨lost, overtaken.wf.answer found posted result, ?_, ?_, ?_⟩
    · rw [dispatched_answer found posted]
      exact overtaken.dispatched
    · rw [responses_answer overtaken.wf found captured]
      intro response sent
      rcases List.mem_append.mp sent with earlier | last
      · exact overtaken.unanswered response earlier
      · rw [List.mem_singleton.mp last, Response.replyId_ofResult]
        exact overtaken.replaced worker found reply captured
    · rintro _ ⟨⟩
      exact overtaken.replaced worker found

theorem exact_event {next : SerialTaskQueueWithWorker} {event : Event}
    (moves : state.event event = some next) :
    ExactGuard turns turns state (state.Alone event) next := by
  cases event with
  | make =>
    cases moves
    exact exact_make state
  | dispatch queue message replyId =>
    obtain ⟨worker, found, dispatches⟩ := Option.bind_eq_some_iff.mp moves
    simp only [Option.ite_none_right_eq_some, Option.some_inj] at dispatches
    obtain ⟨⟨-, fresh⟩, rfl⟩ := dispatches
    exact exact_dispatch found message fresh
  | answer result =>
    obtain ⟨worker, found, answers⟩ := Option.bind_eq_some_iff.mp moves
    split at answers
    · cases answers
    · next task rest posted =>
        cases answers
        exact exact_answer found posted result

/-! ## Runs -/

theorem inTurn_initial : ({} : SerialTaskQueueWithWorker).InTurn := by
  refine ⟨⟨List.nodup_nil, ?_, ?_, ?_⟩, rfl, ?_⟩ <;> exact fun worker found => nomatch found

theorem InTurn.repliesToEach (inTurn : state.InTurn) : state.RepliesToEach := by
  intro answer given
  rw [FlutterNapi.sentTo, inTurn.responses]
  exact filter_ofResult_of_mem (List.nodup_append.mp inTurn.wf.distinct).1 given

/-- In every run at whose end the worker has answered all messages, each message has got one
response with its own result, exactly when no message was dispatched, to whichever queue, while
the worker had another one. -/
theorem run_repliesToEach_iff {events : List Event} (runs : machine.run {} events = some state)
    (complete : state.inFlight = []) : state.RepliesToEach ↔ machine.Meets Alone {} events := by
  have kept := (ExactGuard.run exact_event runs).kept_iff inTurn_initial
  rw [← kept]
  constructor
  · intro replies
    by_contra lost
    have unmet : ¬ machine.Meets Alone {} events := fun meets => lost (kept.mpr meets)
    obtain ⟨replyId, overtaken⟩ := (ExactGuard.run exact_event runs).loses inTurn_initial unmet
    have dispatched := overtaken.dispatched
    rw [SerialTaskQueueWithWorker.dispatched, complete, List.map_nil, List.append_nil] at dispatched
    obtain ⟨answer, given, rfl⟩ := List.mem_map.mp dispatched
    have sent : Response.ofResult answer ∈ state.flutterNapi.sentTo answer.1 := by
      rw [replies answer given]
      exact List.mem_singleton_self _
    exact overtaken.unanswered _ (List.mem_filter.mp sent).1 (Response.replyId_ofResult answer)
  · exact InTurn.repliesToEach

/-- Two queues, whose messages overlap at the worker. -/
def overlapping : List Event :=
  [.make, .make, .dispatch 0 [1] 7, .dispatch 1 [2] 8, .answer (.ok (some [1])),
    .answer (.ok (some [2]))]

/-- Two queues, with one message after the other. -/
def alternating : List Event :=
  [.make, .make, .dispatch 0 [1] 7, .answer (.ok (some [1])), .dispatch 1 [2] 8,
    .answer (.error "failed")]

theorem run_repliesToEach_iff_alternating :
    ∃ state, machine.run {} alternating = some state ∧
      (state.RepliesToEach ↔ machine.Meets Alone {} alternating) :=
  ⟨_, rfl, run_repliesToEach_iff rfl rfl⟩

/-- Both answers go to the second message. -/
theorem overlapping_not_repliesToEach :
    ¬ ∀ events state, machine.run {} events = some state → state.inFlight = [] →
      state.RepliesToEach := by
  intro replies
  have sent := replies overlapping _ rfl rfl (7, .ok (some [1])) (by decide)
  exact absurd sent (by decide)

end SerialTaskQueueWithWorker

end FlutterEngine.Ohos
