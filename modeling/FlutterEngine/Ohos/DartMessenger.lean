import Mathlib.Data.List.AList
import FlutterEngine.Std.LittleEndian
import FlutterEngine.Std.Machine

/-!
# Replies to messages from Dart

`DartMessenger.ets`, for handlers on the platform thread. A handler may call `reply` of the
`Reply` it is given as often as it likes, before its `onMessage` returns or throws and after.
Nothing sets `done`, so each call sends a response.
-/

namespace FlutterEngine.Ohos

open FlutterEngine.Std

abbrev ArrayBuffer := List Byte

/-- A call of one of the two response callbacks. -/
inductive Response where
  | empty (replyId : Int)
  | message (replyId : Int) (message : ArrayBuffer) (position : Nat)
deriving DecidableEq

namespace Response

def replyId : Response → Int
  | empty replyId => replyId
  | message replyId _ _ => replyId

end Response

/-- The response callbacks that were called, in this order. -/
structure FlutterNapi where
  responses : List Response := []
deriving DecidableEq

namespace FlutterNapi

variable (flutterNapi : FlutterNapi) (replyId : Int)

def invokePlatformMessageEmptyResponseCallback : FlutterNapi where
  responses := flutterNapi.responses ++ [.empty replyId]

def invokePlatformMessageResponseCallback (message : ArrayBuffer) (position : Nat) :
    FlutterNapi where
  responses := flutterNapi.responses ++ [.message replyId message position]

def responsesTo : Nat := flutterNapi.responses.countP (·.replyId == replyId)

@[simp] theorem responsesTo_empty (other : Int) :
    (flutterNapi.invokePlatformMessageEmptyResponseCallback other).responsesTo replyId =
      flutterNapi.responsesTo replyId + if other = replyId then 1 else 0 := by
  simp [responsesTo, invokePlatformMessageEmptyResponseCallback, List.countP_singleton,
    Response.replyId]

@[simp] theorem responsesTo_message (other : Int) (message : ArrayBuffer) (position : Nat) :
    (flutterNapi.invokePlatformMessageResponseCallback other message position).responsesTo
        replyId = flutterNapi.responsesTo replyId + if other = replyId then 1 else 0 := by
  simp [responsesTo, invokePlatformMessageResponseCallback, List.countP_singleton,
    Response.replyId]

end FlutterNapi

structure Reply where
  replyId : Int
  done : Bool := false
deriving DecidableEq

/-- `reply` reads `done` and does not set it. An error is its message. -/
def Reply.reply (self : Reply) (flutterNapi : FlutterNapi) (reply : Option ArrayBuffer) :
    Except String FlutterNapi :=
  if self.done then .error "Reply already submitted"
  else
    match reply with
    | none => .ok (flutterNapi.invokePlatformMessageEmptyResponseCallback self.replyId)
    | some reply =>
      .ok (flutterNapi.invokePlatformMessageResponseCallback self.replyId reply reply.length)

/-- What a handler does from here on until `onMessage` is left. What follows a call of `reply`
depends on whether it threw. -/
inductive HandlerRun where
  | returns
  | throws
  | reply (reply : Option ArrayBuffer) (next : Bool → HandlerRun)

structure HandlerInfo where
  handler : ArrayBuffer → HandlerRun
  taskQueue : Option Nat := none

/-- The fields from `replies` on record what was done: the replies that handlers were given, each
call of `reply` and whether it threw, the messages whose handler threw, those without a handler,
and those that went to a task queue. -/
structure DartMessenger where
  flutterNapi : FlutterNapi := {}
  messageHandlers : AList (fun _ : String => HandlerInfo) := ∅
  handled : List Int := []
  replies : List Reply := []
  calls : List (Int × Bool) := []
  thrown : List Int := []
  unhandled : List Int := []
  dispatched : List (Nat × ArrayBuffer × Int) := []

namespace DartMessenger

variable (messenger : DartMessenger)

def setMessageHandler (channel : String) : Option HandlerInfo → DartMessenger
  | none => { messenger with messageHandlers := messenger.messageHandlers.erase channel }
  | some handler =>
    { messenger with messageHandlers := messenger.messageHandlers.insert channel handler }

/-- A handler calls `reply`: did that throw? -/
def callReply (reply : Reply) (message : Option ArrayBuffer) : Bool × DartMessenger :=
  match reply.reply messenger.flutterNapi message with
  | .ok flutterNapi =>
    (false, { messenger with
      flutterNapi := flutterNapi
      calls := messenger.calls ++ [(reply.replyId, false)] })
  | .error _ =>
    (true, { messenger with calls := messenger.calls ++ [(reply.replyId, true)] })

/-- `onMessage` of a handler, and the `catch` around it. -/
def runHandler (messenger : DartMessenger) (reply : Reply) : HandlerRun → DartMessenger
  | .returns => messenger
  | .throws =>
    { messenger with
      flutterNapi := messenger.flutterNapi.invokePlatformMessageEmptyResponseCallback
        reply.replyId
      thrown := messenger.thrown ++ [reply.replyId] }
  | .reply message next =>
    let (threw, messenger) := messenger.callReply reply message
    messenger.runHandler reply (next threw)

def invokeHandler (handler : Option (ArrayBuffer → HandlerRun)) (message : ArrayBuffer)
    (replyId : Int) : DartMessenger :=
  match handler with
  | some handler =>
    let reply : Reply := { replyId }
    { messenger with replies := messenger.replies ++ [reply] }.runHandler reply (handler message)
  | none =>
    { messenger with
      flutterNapi := messenger.flutterNapi.invokePlatformMessageEmptyResponseCallback replyId
      unhandled := messenger.unhandled ++ [replyId] }

def dispatchMessageToQueue (taskQueue : Nat) (message : ArrayBuffer) (replyId : Int) :
    DartMessenger :=
  { messenger with dispatched := messenger.dispatched ++ [(taskQueue, message, replyId)] }

def handleMessageFromDart (channel : String) (message : ArrayBuffer) (replyId : Int) :
    DartMessenger :=
  let handlerInfo := messenger.messageHandlers.lookup channel
  match handlerInfo.bind HandlerInfo.taskQueue with
  | some taskQueue => messenger.dispatchMessageToQueue taskQueue message replyId
  | none => messenger.invokeHandler (handlerInfo.map HandlerInfo.handler) message replyId

/-! ## Runs -/

inductive Event where
  | setMessageHandler (channel : String) (handler : Option HandlerInfo)
  | message (channel : String) (message : ArrayBuffer) (replyId : Int)
  /-- A handler calls `reply` after its `onMessage` has been left. -/
  | reply (reply : Reply) (message : Option ArrayBuffer)

/-- Each message from the engine has a reply id of its own. -/
def event : Event → Option DartMessenger
  | .setMessageHandler channel handler => some (messenger.setMessageHandler channel handler)
  | .message channel message replyId =>
    if replyId ∈ messenger.handled then none
    else some ({ messenger with handled := messenger.handled ++ [replyId] }.handleMessageFromDart
      channel message replyId)
  | .reply reply message =>
    if reply ∈ messenger.replies then some (messenger.callReply reply message).2 else none

def machine : Machine DartMessenger Event where
  Initial messenger := messenger = {}
  step := event

abbrev Reachable (messenger : DartMessenger) : Prop :=
  machine.Reachable (fun _ _ => True) messenger

/-- The calls of `reply` for this message, did they throw? -/
def callsOf (replyId : Int) : List (Int × Bool) :=
  messenger.calls.filter (·.1 == replyId)

/-- How often the handler has called `reply` for this message or has thrown. -/
def attempts (replyId : Int) : Nat :=
  (messenger.callsOf replyId).length + messenger.thrown.count replyId

/-- At most one response, one if the handler has replied or thrown, and every `reply` after the
first has thrown. -/
structure AnswersOnce (replyId : Int) : Prop where
  atMostOnce : messenger.flutterNapi.responsesTo replyId ≤ 1
  answered : messenger.callsOf replyId ≠ [] ∨ replyId ∈ messenger.thrown →
    messenger.flutterNapi.responsesTo replyId = 1
  alreadySubmitted : ∀ call ∈ (messenger.callsOf replyId).tail, call.2 = true

variable {messenger : DartMessenger}

/-! ## What the responses come from -/

/-- A response for each call of `reply`, for each handler that threw and for each message without
a handler; no call of `reply` has thrown. -/
structure Accounts (messenger : DartMessenger) : Prop where
  counted : ∀ replyId, messenger.flutterNapi.responsesTo replyId =
    messenger.attempts replyId + messenger.unhandled.count replyId
  accepted : ∀ call ∈ messenger.calls, call.2 = false

/-- The replies of handlers, and the messages that had one. -/
structure Known (messenger : DartMessenger) : Prop where
  given : ∀ reply ∈ messenger.replies,
    reply.replyId ∈ messenger.handled ∧ reply.replyId ∉ messenger.unhandled ∧ reply.done = false
  seen : ∀ replyId ∈ messenger.unhandled, replyId ∈ messenger.handled

variable {reply : Reply}

theorem callReply_eq (messenger : DartMessenger) (unset : reply.done = false)
    (message : Option ArrayBuffer) :
    ∃ flutterNapi, messenger.callReply reply message =
        (false, { messenger with
          flutterNapi := flutterNapi
          calls := messenger.calls ++ [(reply.replyId, false)] }) ∧
      ∀ replyId, flutterNapi.responsesTo replyId =
        messenger.flutterNapi.responsesTo replyId + if reply.replyId = replyId then 1 else 0 := by
  unfold callReply Reply.reply
  rw [if_neg (by simp [unset])]
  cases message with
  | none => exact ⟨_, rfl, fun replyId => FlutterNapi.responsesTo_empty _ _ _⟩
  | some message => exact ⟨_, rfl, fun replyId => FlutterNapi.responsesTo_message _ _ _ _ _⟩

theorem Accounts.callReply (accounts : messenger.Accounts) (unset : reply.done = false)
    (message : Option ArrayBuffer) : (messenger.callReply reply message).2.Accounts := by
  obtain ⟨flutterNapi, calls, responses⟩ := callReply_eq messenger unset message
  rw [calls]
  refine ⟨fun replyId => ?_, fun call made => ?_⟩
  · have counted := accounts.counted replyId
    simp only [attempts, callsOf, List.filter_append, List.length_append] at counted ⊢
    rw [responses, counted, List.filter_singleton]
    by_cases same : reply.replyId = replyId
    · simp only [same, beq_self_eq_true, if_pos, cond_true, List.length_singleton]
      omega
    · have differs := beq_eq_false_iff_ne.mpr same
      simp only [differs, cond_false, if_neg same, List.length_nil, Nat.add_zero]
  · rcases List.mem_append.mp made with earlier | last
    · exact accounts.accepted call earlier
    · rw [List.mem_singleton.mp last]

theorem Accounts.runHandler (accounts : messenger.Accounts) (unset : reply.done = false)
    (run : HandlerRun) : (messenger.runHandler reply run).Accounts := by
  induction run generalizing messenger with
  | returns => exact accounts
  | throws =>
    refine ⟨fun replyId => ?_, accounts.accepted⟩
    have counted := accounts.counted replyId
    simp only [DartMessenger.runHandler, attempts, callsOf, List.count_append,
      FlutterNapi.responsesTo_empty] at counted ⊢
    rw [counted, List.count_singleton]
    simp only [beq_iff_eq]
    omega
  | reply message next ih => exact ih _ (accounts.callReply unset message)

/-- A handler's run leaves alone which messages were handled and how. -/
theorem runHandler_frame (messenger : DartMessenger) (unset : reply.done = false)
    (run : HandlerRun) :
    (messenger.runHandler reply run).handled = messenger.handled ∧
      (messenger.runHandler reply run).replies = messenger.replies ∧
      (messenger.runHandler reply run).unhandled = messenger.unhandled := by
  induction run generalizing messenger with
  | returns => exact ⟨rfl, rfl, rfl⟩
  | throws => exact ⟨rfl, rfl, rfl⟩
  | reply message next ih =>
    obtain ⟨flutterNapi, calls, -⟩ := callReply_eq messenger unset message
    rw [runHandler, calls]
    exact ih _ _

theorem Known.of_frame {next : DartMessenger} (known : messenger.Known)
    (handled : next.handled = messenger.handled) (replies : next.replies = messenger.replies)
    (unhandled : next.unhandled = messenger.unhandled) : next.Known := by
  refine ⟨?_, ?_⟩
  · rw [handled, replies, unhandled]
    exact known.given
  · rw [handled, unhandled]
    exact known.seen

/-- A message that comes in is handled at once, sent to a task queue, or has no handler. -/
theorem message_keeps (accounts : messenger.Accounts) (known : messenger.Known)
    (channel : String) (message : ArrayBuffer) {replyId : Int}
    (fresh : replyId ∉ messenger.handled) :
    let next := ({ messenger with
      handled := messenger.handled ++ [replyId] }.handleMessageFromDart channel message replyId)
    next.Accounts ∧ next.Known := by
  have newId : replyId ∉ messenger.unhandled := fun seen => fresh (known.seen replyId seen)
  have seen : ∀ other ∈ messenger.unhandled, other ∈ messenger.handled ++ [replyId] :=
    fun other before => List.mem_append_left _ (known.seen other before)
  have given : ∀ reply ∈ messenger.replies, reply.replyId ∈ messenger.handled ++ [replyId] ∧
      reply.replyId ∉ messenger.unhandled ∧ reply.done = false := fun reply before =>
    ⟨List.mem_append_left _ (known.given reply before).1, (known.given reply before).2⟩
  unfold handleMessageFromDart
  dsimp only
  split
  · exact ⟨⟨accounts.counted, accounts.accepted⟩, ⟨given, seen⟩⟩
  · cases messenger.messageHandlers.lookup channel with
    | none =>
      refine ⟨⟨fun other => ?_, accounts.accepted⟩,
        ⟨fun reply before => ?_, fun other noted => ?_⟩⟩
      · have counted := accounts.counted other
        simp only [Option.map_none, invokeHandler, attempts, callsOf, List.count_append,
          FlutterNapi.responsesTo_empty, List.count_singleton, beq_iff_eq] at counted ⊢
        omega
      · obtain ⟨inside, apart, unset⟩ := given reply before
        refine ⟨inside, fun noted => ?_, unset⟩
        rcases List.mem_append.mp noted with earlier | last
        · exact apart earlier
        · rw [← List.mem_singleton.mp last] at fresh
          exact fresh (known.given reply before).1
      · rcases List.mem_append.mp noted with earlier | last
        · exact seen other earlier
        · exact List.mem_append_right _ last
    | some handlerInfo =>
      let reply : Reply := { replyId }
      let started : DartMessenger := { messenger with
        handled := messenger.handled ++ [replyId]
        replies := messenger.replies ++ [reply] }
      have startedAccounts : started.Accounts := ⟨accounts.counted, accounts.accepted⟩
      have startedKnown : started.Known := by
        refine ⟨fun other listed => ?_, seen⟩
        rcases List.mem_append.mp listed with earlier | last
        · exact given other earlier
        · rw [List.mem_singleton.mp last]
          exact ⟨List.mem_append_right _ (List.mem_singleton_self replyId), newId, rfl⟩
      have unset : reply.done = false := rfl
      obtain ⟨handled, replies, unhandled⟩ :=
        runHandler_frame started unset (handlerInfo.handler message)
      exact ⟨startedAccounts.runHandler unset _, startedKnown.of_frame handled replies unhandled⟩

/-- Each event keeps the accounts. -/
theorem event_keeps {next : DartMessenger} {event : Event} (accounts : messenger.Accounts)
    (known : messenger.Known) (moves : messenger.event event = some next) :
    next.Accounts ∧ next.Known := by
  cases event with
  | setMessageHandler channel handler =>
    cases moves
    cases handler with
    | none => exact ⟨⟨accounts.counted, accounts.accepted⟩, ⟨known.given, known.seen⟩⟩
    | some handler => exact ⟨⟨accounts.counted, accounts.accepted⟩, ⟨known.given, known.seen⟩⟩
  | reply reply message =>
    simp only [DartMessenger.event, Option.ite_none_right_eq_some, Option.some_inj] at moves
    obtain ⟨given, rfl⟩ := moves
    have unset := (known.given reply given).2.2
    refine ⟨accounts.callReply unset message, ?_⟩
    obtain ⟨flutterNapi, calls, -⟩ := callReply_eq messenger unset message
    rw [calls]
    exact known.of_frame rfl rfl rfl
  | message channel message replyId =>
    simp only [DartMessenger.event, Option.ite_none_left_eq_some, Option.some_inj] at moves
    obtain ⟨fresh, rfl⟩ := moves
    exact message_keeps accounts known channel message fresh

theorem Reachable.keeps (reached : Reachable messenger) : messenger.Accounts ∧ messenger.Known := by
  refine reached.invariant (fun messenger => messenger.Accounts ∧ messenger.Known) ?_ ?_
  · rintro _ rfl
    exact ⟨⟨fun _ => rfl, by simp⟩, ⟨by simp, by simp⟩⟩
  · intro messenger event next kept _ moves
    exact event_keeps kept.1 kept.2 moves

/-- In every state of every run, each message whose handler was run is answered once, exactly when
its handler has called `reply` or thrown at most once. -/
theorem reachable_answersOnce_iff (reached : Reachable messenger) :
    (∀ reply ∈ messenger.replies, messenger.AnswersOnce reply.replyId) ↔
      ∀ reply ∈ messenger.replies, messenger.attempts reply.replyId ≤ 1 := by
  obtain ⟨accounts, known⟩ := reached.keeps
  refine forall₂_congr fun reply given => ?_
  have counted := accounts.counted reply.replyId
  rw [List.count_eq_zero_of_not_mem (known.given reply given).2.1, Nat.add_zero] at counted
  constructor
  · intro answers
    exact counted ▸ answers.atMostOnce
  · intro few
    refine ⟨counted ▸ few, fun tried => ?_, fun call later => ?_⟩
    · have some : 0 < messenger.attempts reply.replyId := by
        rcases tried with called | threw
        · exact Nat.add_pos_left (List.length_pos_iff.mpr called) _
        · exact Nat.add_pos_right _ (List.count_pos_iff.mpr threw)
      omega
    · have short : (messenger.callsOf reply.replyId).length ≤ 1 := (Nat.le_add_right _ _).trans few
      have longer := List.length_pos_of_mem later
      rw [List.length_tail] at longer
      omega

/-- A handler that replies to each message. -/
def echo : HandlerInfo where
  handler message := .reply (some message) fun _ => .returns

/-- A handler that replies to each message twice. -/
def echoTwice : HandlerInfo where
  handler message := .reply (some message) fun _ => .reply none fun _ => .returns

def handles (handler : HandlerInfo) : List Event :=
  [.setMessageHandler "channel" (some handler), .message "channel" [1] 7]

theorem reachable_handles (handler : HandlerInfo) {messenger : DartMessenger}
    (runs : machine.run {} (handles handler) = some messenger) : Reachable messenger :=
  .of_run (.initial rfl) (Machine.meets_of_forall (fun _ _ => trivial) _ _) runs

theorem reachable_answersOnce_iff_echo :
    ∃ messenger, machine.run {} (handles echo) = some messenger ∧
      ((∀ reply ∈ messenger.replies, messenger.AnswersOnce reply.replyId) ↔
        ∀ reply ∈ messenger.replies, messenger.attempts reply.replyId ≤ 1) :=
  ⟨_, rfl, reachable_answersOnce_iff (reachable_handles echo rfl)⟩

/-- A second response is sent, and the second `reply` does not throw. -/
theorem echoTwice_not_answersOnce :
    ¬ ∀ messenger, Reachable messenger →
      ∀ reply ∈ messenger.replies, messenger.AnswersOnce reply.replyId := by
  intro answers
  have once := (answers _ (reachable_handles echoTwice rfl) { replyId := 7 }
    (by decide)).atMostOnce
  exact absurd once (by decide)

end DartMessenger

end FlutterEngine.Ohos
