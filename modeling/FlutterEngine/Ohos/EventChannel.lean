import FlutterEngine.Std.ExactGuards
import FlutterEngine.Std.Trace

/-!
# Event channels of the OHOS embedding

`IncomingStreamRequestHandler` and `EventSinkImplementation` of `EventChannel.ets`, with the
`catch` of `DartMessenger.invokeHandler` around them. In each of its calls the handler may use any
sink and then throw. What it throws is asked for its `getMessage`, which an `Error` does not have.
-/

namespace FlutterEngine.Ohos

open FlutterEngine.Std

/-- A call of a sink. -/
inductive SinkCall (Any : Type) where
  | success (event : Any)
  | error (errorCode errorMessage : String) (errorDetails : Any)
  | endOfStream

/-- An object that was thrown; `getMessage` is what its method of that name returns, if it has
one. -/
structure ThrownObject where
  message : String
  getMessage : Option String := none

/-- What a handler does in one of its calls: it calls sinks, then it returns or throws. -/
structure StreamHandlerRun (Any : Type) where
  sinkCalls : List (Nat × SinkCall Any) := []
  throws : Option ThrownObject := none

/-- The envelopes that are sent as replies. -/
inductive Envelope where
  | success
  | error (errorCode errorMessage : String)
deriving DecidableEq

/-- What happens on a channel, calls of the handler when they end. An empty reply is none. -/
inductive StreamEvent (Any : Type) where
  | listen (sink : Nat)
  | cancel
  | onListen (threw : Bool)
  | onCancel (threw : Bool)
  | sent (sink : Nat) (call : SinkCall Any)
  | replied (replyId : Int) (reply : Option Envelope)

structure EventSinkImplementation where
  hasEnded : Bool := false

/-- `sinks` are all sinks that were created. The last three fields record the messages and what
happened. -/
structure IncomingStreamRequestHandler (Any : Type) where
  activeSink : Option Nat := none
  sinks : List EventSinkImplementation := []
  received : List Int := []
  others : List Int := []
  trace : List (StreamEvent Any) := []

namespace IncomingStreamRequestHandler

variable {Any : Type} (channel : IncomingStreamRequestHandler Any)

def log (event : StreamEvent Any) : IncomingStreamRequestHandler Any :=
  { channel with trace := channel.trace ++ [event] }

/-- `success`, `error` or `endOfStream` of a sink. -/
def callSink (sink : Nat) (call : SinkCall Any) : IncomingStreamRequestHandler Any :=
  match channel.sinks[sink]? with
  | none => channel
  | some implementation =>
    if implementation.hasEnded ∨ channel.activeSink ≠ some sink then channel
    else
      match call with
      | .endOfStream =>
        { channel with sinks := channel.sinks.set sink { hasEnded := true } }.log
          (.sent sink .endOfStream)
      | call => channel.log (.sent sink call)

/-- A call of the handler, as far as it uses sinks. -/
def callHandler (run : StreamHandlerRun Any) : IncomingStreamRequestHandler Any :=
  run.sinkCalls.foldl (fun channel call => channel.callSink call.1 call.2) channel

/-- The error envelope with what was thrown. That throws in turn where there is no such method. -/
def encodeThrown (thrown : ThrownObject) : Except String Envelope :=
  match thrown.getMessage with
  | none => .error "e.getMessage is not callable"
  | some message => .ok (.error "error" message)

/-- The reply to a message, or the empty one when `invokeHandler` has caught an exception. -/
def reply (replyId : Int) (envelope : Except String Envelope) : IncomingStreamRequestHandler Any :=
  channel.log (.replied replyId envelope.toOption)

/-- `handler.onListen`, and the reply. -/
def listenHandler (replyId : Int) (run : StreamHandlerRun Any) :
    IncomingStreamRequestHandler Any :=
  let called := (channel.callHandler run).log (.onListen run.throws.isSome)
  match run.throws with
  | none => called.reply replyId (.ok .success)
  | some thrown => { called with activeSink := none }.reply replyId (encodeThrown thrown)

/-- `cancelling` is what the handler does in `onCancel` when there was a stream before. -/
def onListen (replyId : Int) (cancelling listening : StreamHandlerRun Any) :
    IncomingStreamRequestHandler Any :=
  let eventSink := channel.sinks.length
  let created : IncomingStreamRequestHandler Any := { channel with
    activeSink := some eventSink
    sinks := channel.sinks ++ [{ hasEnded := false }] }
  let opened := created.log (.listen eventSink)
  match channel.activeSink with
  | none => opened.listenHandler replyId listening
  | some _ =>
    ((opened.callHandler cancelling).log (.onCancel cancelling.throws.isSome)).listenHandler
      replyId listening

def onCancel (replyId : Int) (cancelling : StreamHandlerRun Any) :
    IncomingStreamRequestHandler Any :=
  let closed := { channel with activeSink := none }.log .cancel
  match channel.activeSink with
  | none => closed.reply replyId (.ok (.error "error" "No active stream to cancel"))
  | some _ =>
    let called := (closed.callHandler cancelling).log (.onCancel cancelling.throws.isSome)
    match cancelling.throws with
    | none => called.reply replyId (.ok .success)
    | some thrown => called.reply replyId (encodeThrown thrown)

/-! ## Runs -/

/-- A message with what the handler does then, or a sink call at any other time. -/
inductive Event (Any : Type) where
  | listen (replyId : Int) (cancelling listening : StreamHandlerRun Any)
  | cancel (replyId : Int) (cancelling : StreamHandlerRun Any)
  | other (replyId : Int)
  | sink (sink : Nat) (call : SinkCall Any)

/-- Each message has a reply id of its own. -/
def event : Event Any → Option (IncomingStreamRequestHandler Any)
  | .listen replyId cancelling listening =>
    if replyId ∈ channel.received ++ channel.others then none
    else some ({ channel with received := channel.received ++ [replyId] }.onListen replyId
      cancelling listening)
  | .cancel replyId cancelling =>
    if replyId ∈ channel.received ++ channel.others then none
    else some ({ channel with received := channel.received ++ [replyId] }.onCancel replyId
      cancelling)
  | .other replyId =>
    if replyId ∈ channel.received ++ channel.others then none
    else some ({ channel with others := channel.others ++ [replyId] }.log (.replied replyId none))
  | .sink sink call => some (channel.callSink sink call)

def machine : Machine (IncomingStreamRequestHandler Any) (Event Any) where
  Initial channel := channel = {}
  step := event

/-- What the handler throws, where it is asked for its message, has `getMessage`. -/
def Reported (run : StreamHandlerRun Any) : Prop :=
  ∀ thrown ∈ run.throws, thrown.getMessage ≠ none

/-- What is thrown while a message is replied to has `getMessage`. -/
def Reports : Event Any → Prop
  | .listen _ _ listening => Reported listening
  | .cancel _ cancelling => channel.activeSink ≠ none → Reported cancelling
  | _ => True

/-! ## What a channel promises -/

/-- Of calls of the handler, those that open or close a stream. -/
def opensOrCloses : StreamEvent Any → Bool
  | .onListen threw => !threw
  | .onCancel _ => true
  | _ => false

/-- What decides which sink may send. -/
def redirects : StreamEvent Any → Bool
  | .listen _ => true
  | .cancel => true
  | .onListen threw => threw
  | _ => false

/-- `onCancel` after an `onListen` that has not been cancelled since, no two `onListen` that did
not throw without an `onCancel` between them, and events only of the sink of the last listen
message, unless that was cancelled, its `onListen` threw or the sink has ended. -/
def Paired (before : List (StreamEvent Any)) : StreamEvent Any → Prop
  | .onCancel _ => Trace.last opensOrCloses before = some (.onListen false)
  | .onListen false => Trace.last opensOrCloses before ≠ some (.onListen false)
  | .sent sink _ => Trace.last redirects before = some (.listen sink) ∧
      .sent sink .endOfStream ∉ before
  | _ => True

/-- The replies to a message. -/
def repliesTo (replyId : Int) : List (Option Envelope) :=
  channel.trace.filterMap fun
    | .replied other reply => if other = replyId then some reply else none
    | _ => none

structure Orderly : Prop where
  paired : Trace.Each Paired channel.trace
  repliesOnce : ∀ replyId ∈ channel.received,
    ∃ envelope, channel.repliesTo replyId = [some envelope]

variable {channel}

/-! ## Sinks -/

/-- Only the sink of the last listen message is active, and sinks that have sent their end are
marked. -/
structure Streams (channel : IncomingStreamRequestHandler Any) : Prop where
  active : ∀ sink, channel.activeSink = some sink →
    Trace.last redirects channel.trace = some (.listen sink)
  ended : ∀ sink, .sent sink .endOfStream ∈ channel.trace →
    ∃ implementation, channel.sinks[sink]? = some implementation ∧ implementation.hasEnded = true
  paired : Trace.Each Paired channel.trace

/-- What sink calls leave as it was. -/
structure SameStream (channel next : IncomingStreamRequestHandler Any) : Prop where
  activeSink : next.activeSink = channel.activeSink
  received : next.received = channel.received
  others : next.others = channel.others
  opened : Trace.last opensOrCloses next.trace = Trace.last opensOrCloses channel.trace
  replies : ∀ replyId, next.repliesTo replyId = channel.repliesTo replyId
  streams : channel.Streams → next.Streams

namespace SameStream

variable {next final : IncomingStreamRequestHandler Any}

theorem refl (channel : IncomingStreamRequestHandler Any) : SameStream channel channel :=
  ⟨rfl, rfl, rfl, rfl, fun _ => rfl, id⟩

theorem trans (first : SameStream channel next) (second : SameStream next final) :
    SameStream channel final :=
  ⟨second.activeSink.trans first.activeSink, second.received.trans first.received,
    second.others.trans first.others, second.opened.trans first.opened,
    fun replyId => (second.replies replyId).trans (first.replies replyId),
    fun streams => second.streams (first.streams streams)⟩

end SameStream

theorem repliesTo_log (channel : IncomingStreamRequestHandler Any) (event : StreamEvent Any)
    (replyId : Int) :
    (channel.log event).repliesTo replyId = channel.repliesTo replyId ++
      match event with
      | .replied other reply => if other = replyId then [reply] else []
      | _ => [] := by
  rw [repliesTo, log, List.filterMap_append]
  cases event with
  | replied other reply => by_cases same : other = replyId <;> simp [repliesTo, same]
  | _ => simp [repliesTo]

/-- An event of the active sink may be sent. -/
theorem Streams.sends (streams : channel.Streams) {sink : Nat}
    {implementation : EventSinkImplementation} (found : channel.sinks[sink]? = some implementation)
    (running : implementation.hasEnded = false) (active : channel.activeSink = some sink)
    (call : SinkCall Any) : Paired channel.trace (.sent sink call) := by
  refine ⟨streams.active sink active, fun sent => ?_⟩
  obtain ⟨other, foundOther, ended⟩ := streams.ended sink sent
  rw [found, Option.some_inj] at foundOther
  rw [← foundOther, running] at ended
  exact Bool.false_ne_true ended

/-- A sink sends, and may be marked as ended with it. -/
theorem sameStream_sent {sink : Nat} {call : SinkCall Any} {sinks : List EventSinkImplementation}
    (sends : channel.Streams → Paired channel.trace (.sent sink call))
    (ended : channel.Streams → ∀ other,
      .sent other .endOfStream ∈ channel.trace ++ [.sent sink call] →
      ∃ implementation, sinks[other]? = some implementation ∧ implementation.hasEnded = true) :
    SameStream channel
      { channel with sinks := sinks, trace := channel.trace ++ [.sent sink call] } := by
  refine ⟨rfl, rfl, rfl, Trace.last_concat_skip rfl, fun replyId => ?_,
    fun streams => ⟨fun other there => ?_, ended streams, streams.paired.concat (sends streams)⟩⟩
  · exact (repliesTo_log channel _ _).trans (List.append_nil _)
  · exact (Trace.last_concat_skip rfl).trans (streams.active other there)

theorem sameStream_callSink (channel : IncomingStreamRequestHandler Any) (sink : Nat)
    (call : SinkCall Any) : SameStream channel (channel.callSink sink call) := by
  unfold callSink
  cases found : channel.sinks[sink]? with
  | none => exact .refl channel
  | some implementation =>
    dsimp only
    split
    · exact .refl channel
    · next sends =>
        rw [not_or, not_not, Bool.not_eq_true] at sends
        obtain ⟨running, active⟩ := sends
        have inside : sink < channel.sinks.length := by
          obtain ⟨inside, -⟩ := List.getElem?_eq_some_iff.mp found
          exact inside
        have earlier : ∀ {last : StreamEvent Any}, (∀ other, .sent other .endOfStream ≠ last) →
            channel.Streams → ∀ other, .sent other .endOfStream ∈ channel.trace ++ [last] →
            ∃ implementation, channel.sinks[other]? = some implementation ∧
              implementation.hasEnded = true := by
          intro last differs streams other sent
          rcases List.mem_append.mp sent with before | final
          · exact streams.ended other before
          · exact absurd (List.mem_singleton.mp final) (differs other)
        cases call with
        | endOfStream =>
          refine sameStream_sent (fun streams => streams.sends found running active _)
            fun streams other sent => ?_
          by_cases same : other = sink
          · subst same
            exact ⟨_, List.getElem?_set_self inside, rfl⟩
          · rw [List.getElem?_set_ne (Ne.symm same)]
            rcases List.mem_append.mp sent with before | final
            · exact streams.ended other before
            · injection List.mem_singleton.mp final with sinks
              exact absurd sinks same
        | success event =>
          exact sameStream_sent (fun streams => streams.sends found running active _)
            (earlier nofun)
        | error errorCode errorMessage errorDetails =>
          exact sameStream_sent (fun streams => streams.sends found running active _)
            (earlier nofun)

theorem sameStream_callHandler (channel : IncomingStreamRequestHandler Any)
    (run : StreamHandlerRun Any) : SameStream channel (channel.callHandler run) := by
  obtain ⟨calls, throws⟩ := run
  unfold callHandler
  induction calls generalizing channel with
  | nil => exact .refl channel
  | cons call calls ih => exact (sameStream_callSink channel call.1 call.2).trans (ih _)

/-! ## Messages -/

/-- An event that is none of a sink. -/
theorem Streams.log (streams : channel.Streams) {event : StreamEvent Any}
    (paired : Paired channel.trace event) (silent : ∀ sink call, event ≠ .sent sink call)
    (active : ∀ sink, channel.activeSink = some sink →
      Trace.last redirects (channel.trace ++ [event]) = some (.listen sink)) :
    (channel.log event).Streams := by
  refine ⟨active, fun sink sent => ?_, streams.paired.concat paired⟩
  rcases List.mem_append.mp sent with before | last
  · exact streams.ended sink before
  · exact absurd (List.mem_singleton.mp last).symm (silent sink _)

/-- An event that leaves the active sink where it is. -/
theorem Streams.logged (streams : channel.Streams) {event : StreamEvent Any}
    (paired : Paired channel.trace event) (silent : ∀ sink call, event ≠ .sent sink call)
    (stays : redirects event = false) : (channel.log event).Streams :=
  streams.log paired silent fun sink there =>
    (Trace.last_concat_skip stays).trans (streams.active sink there)

/-- With no sink active, nothing depends on which one was. -/
theorem Streams.inactive {next : IncomingStreamRequestHandler Any} (streams : channel.Streams)
    (none : next.activeSink = none) (sinks : next.sinks = channel.sinks)
    (trace : next.trace = channel.trace) : next.Streams := by
  refine ⟨fun sink there => ?_, ?_, trace ▸ streams.paired⟩
  · rw [none] at there
    cases there
  · rw [sinks, trace]
    exact streams.ended

def Opened (channel : IncomingStreamRequestHandler Any) : Prop :=
  Trace.last opensOrCloses channel.trace = some (.onListen false)

/-- Between two events: a stream is open exactly when a sink is active. -/
structure Wf (channel : IncomingStreamRequestHandler Any) : Prop where
  streams : channel.Streams
  opened : channel.activeSink ≠ none ↔ channel.Opened

theorem Wf.noted (wf : channel.Wf) (received others : List Int) :
    ({ channel with received := received, others := others } :
      IncomingStreamRequestHandler Any).Wf :=
  ⟨⟨wf.streams.active, wf.streams.ended, wf.streams.paired⟩, wf.opened⟩

/-- A reply changes nothing but the replies. -/
theorem Wf.reply (wf : channel.Wf) (replyId : Int) (envelope : Except String Envelope) :
    (channel.reply replyId envelope).Wf := by
  refine ⟨wf.streams.logged trivial nofun rfl, ?_⟩
  rw [Opened, IncomingStreamRequestHandler.reply, log, Trace.last_concat_skip rfl]
  exact wf.opened

theorem repliesTo_reply (channel : IncomingStreamRequestHandler Any) (replyId : Int)
    (envelope : Except String Envelope) (other : Int) :
    (channel.reply replyId envelope).repliesTo other =
      channel.repliesTo other ++ if replyId = other then [envelope.toOption] else [] :=
  repliesTo_log channel _ other

/-- The envelope with which a call of the handler is answered. -/
def answer (run : StreamHandlerRun Any) : Except String Envelope :=
  match run.throws with
  | none => .ok .success
  | some thrown => encodeThrown thrown

/-- A message is answered once, and the state is as between two events. -/
structure Answered (channel next : IncomingStreamRequestHandler Any) (replyId : Int)
    (envelope : Except String Envelope) : Prop where
  wf : next.Wf
  received : next.received = channel.received
  others : next.others = channel.others
  replies : ∀ other, next.repliesTo other =
    channel.repliesTo other ++ if replyId = other then [envelope.toOption] else []

theorem Wf.answered (channel : IncomingStreamRequestHandler Any)
    {next : IncomingStreamRequestHandler Any} (wf : next.Wf)
    (received : next.received = channel.received) (others : next.others = channel.others)
    (replies : ∀ other, next.repliesTo other = channel.repliesTo other) (replyId : Int)
    (envelope : Except String Envelope) :
    Answered channel (next.reply replyId envelope) replyId envelope := by
  refine ⟨wf.reply replyId envelope, received, others, fun other => ?_⟩
  rw [repliesTo_reply, replies]

/-- The end of `onListen`: the handler is called with no stream open. -/
theorem answered_listenHandler (streams : channel.Streams) (closed : ¬ channel.Opened)
    (active : channel.activeSink ≠ none) (replyId : Int) (run : StreamHandlerRun Any) :
    Answered channel (channel.listenHandler replyId run) replyId (answer run) := by
  have same := sameStream_callHandler channel run
  have called := same.streams streams
  have replies : ∀ threw other,
      ((channel.callHandler run).log (.onListen threw)).repliesTo other =
        channel.repliesTo other := fun threw other =>
    (repliesTo_log _ _ _).trans ((List.append_nil _).trans (same.replies other))
  unfold listenHandler answer
  cases run.throws with
  | none =>
    have paired : Paired (channel.callHandler run).trace (.onListen false) := by
      change Trace.last opensOrCloses (channel.callHandler run).trace ≠ _
      rw [same.opened]
      exact closed
    have wf : ((channel.callHandler run).log (.onListen false)).Wf := by
      refine ⟨called.logged paired nofun rfl, iff_of_true ?_ (Trace.last_concat_pass rfl)⟩
      change (channel.callHandler run).activeSink ≠ none
      rwa [same.activeSink]
    exact wf.answered channel same.received same.others (replies false) replyId _
  | some thrown =>
    let closing : IncomingStreamRequestHandler Any :=
      { channel.callHandler run with activeSink := none }
    have wf : (closing.log (.onListen true)).Wf := by
      refine ⟨(called.inactive rfl rfl rfl : closing.Streams).log trivial nofun nofun, ?_⟩
      refine iff_of_false (fun some => some rfl) fun opened => closed ?_
      exact same.opened.symm.trans ((Trace.last_concat_skip rfl).symm.trans opened)
    exact wf.answered channel same.received same.others (replies true) replyId _

/-- A new sink is made for a listen message. -/
theorem Streams.created (streams : channel.Streams) :
    ({ channel with
      activeSink := some channel.sinks.length
      sinks := channel.sinks ++ [{ hasEnded := false }]
      trace := channel.trace ++ [.listen channel.sinks.length] } :
        IncomingStreamRequestHandler Any).Streams := by
  refine ⟨fun sink there => ?_, fun sink sent => ?_, streams.paired.concat trivial⟩
  · rw [← Option.some_inj.mp there]
    exact Trace.last_concat_pass rfl
  · rcases List.mem_append.mp sent with before | last
    · obtain ⟨implementation, found, ended⟩ := streams.ended sink before
      obtain ⟨inside, -⟩ := List.getElem?_eq_some_iff.mp found
      exact ⟨implementation, (List.getElem?_append_left inside).trans found, ended⟩
    · cases List.mem_singleton.mp last

/-- The handler's `onCancel`, called with a stream open. -/
theorem sameStream_cancelled {opened : IncomingStreamRequestHandler Any}
    (streams : opened.Streams) (wasOpen : opened.Opened) (cancelling : StreamHandlerRun Any) :
    let called := (opened.callHandler cancelling).log (.onCancel cancelling.throws.isSome)
    called.Streams ∧ ¬ called.Opened ∧ called.activeSink = opened.activeSink ∧
      called.received = opened.received ∧ called.others = opened.others ∧
      ∀ other, called.repliesTo other = opened.repliesTo other := by
  have same := sameStream_callHandler opened cancelling
  have paired : Paired (opened.callHandler cancelling).trace
      (.onCancel cancelling.throws.isSome) := same.opened.trans wasOpen
  refine ⟨(same.streams streams).logged paired nofun rfl, fun still => ?_, same.activeSink,
    same.received, same.others, fun other => ?_⟩
  · rw [Opened, log, Trace.last_concat_pass rfl] at still
    cases still
  · exact (repliesTo_log _ _ _).trans ((List.append_nil _).trans (same.replies other))

theorem answered_onListen (wf : channel.Wf) (replyId : Int)
    (cancelling listening : StreamHandlerRun Any) :
    Answered channel (channel.onListen replyId cancelling listening) replyId
      (answer listening) := by
  have created := wf.streams.created
  have replies : ∀ other,
      ((channel.log (.listen channel.sinks.length)).repliesTo other) = channel.repliesTo other :=
    fun other => (repliesTo_log _ _ _).trans (List.append_nil _)
  unfold onListen
  cases active : channel.activeSink with
  | none =>
    have closed : ¬ channel.Opened := fun opened => wf.opened.mpr opened active
    have answered := answered_listenHandler created
      (fun opened => closed ((Trace.last_concat_skip rfl).symm.trans opened))
      (Option.some_ne_none _) replyId listening
    exact ⟨answered.wf, answered.received, answered.others,
      fun other => (answered.replies other).trans (congrArg (· ++ _) (replies other))⟩
  | some old =>
    have wasOpen : channel.Opened := wf.opened.mp (active ▸ Option.some_ne_none old)
    obtain ⟨streams, closed, activeSink, received, others, same⟩ :=
      sameStream_cancelled created ((Trace.last_concat_skip rfl).trans wasOpen) cancelling
    have answered := answered_listenHandler streams closed
      (activeSink ▸ Option.some_ne_none _) replyId listening
    exact ⟨answered.wf, answered.received.trans received, answered.others.trans others,
      fun other => (answered.replies other).trans
        (congrArg (· ++ _) ((same other).trans (replies other)))⟩

theorem answered_onCancel (wf : channel.Wf) (replyId : Int) (cancelling : StreamHandlerRun Any) :
    Answered channel (channel.onCancel replyId cancelling) replyId
      (match channel.activeSink with
        | none => .ok (.error "error" "No active stream to cancel")
        | some _ => answer cancelling) := by
  let closed : IncomingStreamRequestHandler Any :=
    { channel with activeSink := none, trace := channel.trace ++ [.cancel] }
  have streams : closed.Streams :=
    (wf.streams.inactive rfl rfl rfl : ({ channel with activeSink := none } :
      IncomingStreamRequestHandler Any).Streams).log trivial nofun nofun
  have opened : closed.Opened ↔ channel.Opened := by
    rw [Opened, Opened]
    exact iff_of_eq (congrArg (· = _) (Trace.last_concat_skip rfl))
  have replies : ∀ other, closed.repliesTo other = channel.repliesTo other := fun other =>
    (repliesTo_log channel .cancel other).trans (List.append_nil _)
  unfold onCancel
  cases active : channel.activeSink with
  | none =>
    have wf : closed.Wf := ⟨streams, iff_of_false (fun some => some rfl) fun still =>
      wf.opened.mpr (opened.mp still) active⟩
    exact wf.answered channel rfl rfl replies replyId _
  | some old =>
    have wasOpen : channel.Opened := wf.opened.mp (active ▸ Option.some_ne_none old)
    obtain ⟨streams, notOpen, activeSink, received, others, same⟩ :=
      sameStream_cancelled streams (opened.mpr wasOpen) cancelling
    have wf : ((closed.callHandler cancelling).log
        (.onCancel cancelling.throws.isSome)).Wf :=
      ⟨streams, iff_of_false (fun some => some activeSink) notOpen⟩
    have answered := wf.answered channel received others
      (fun other => (same other).trans (replies other)) replyId (answer cancelling)
    unfold answer at answered ⊢
    cases throws : cancelling.throws with
    | none =>
      rw [throws] at answered
      exact answered
    | some thrown =>
      rw [throws] at answered
      exact answered

/-! ## Runs -/

/-- Every message has had its reply, and other messages none yet. -/
structure Replied (channel : IncomingStreamRequestHandler Any) : Prop where
  wf : channel.Wf
  repliesOnce : ∀ replyId ∈ channel.received,
    ∃ envelope, channel.repliesTo replyId = [some envelope]
  unseen : ∀ replyId ∉ channel.received ++ channel.others, channel.repliesTo replyId = []

/-- A message has had an empty reply. -/
structure RepliedEmpty (channel : IncomingStreamRequestHandler Any) (replyId : Int) : Prop where
  wf : channel.Wf
  received : replyId ∈ channel.received
  empty : none ∈ channel.repliesTo replyId

def replies : Stake (IncomingStreamRequestHandler Any) where
  Kept channel := channel.Replied
  Lost channel := ∃ replyId, channel.RepliedEmpty replyId
  exclusive := by
    rintro channel replied ⟨replyId, -, received, empty⟩
    obtain ⟨envelope, once⟩ := replied.repliesOnce replyId received
    rw [once, List.mem_singleton] at empty
    cases empty

theorem toOption_answer_ne_none_iff (run : StreamHandlerRun Any) :
    (answer run).toOption ≠ none ↔ Reported run := by
  unfold answer Reported encodeThrown
  cases run.throws with
  | none => simp [Except.toOption]
  | some thrown => cases message : thrown.getMessage <;> simp [Except.toOption, message]

/-- A new message is replied to with an envelope exactly when encoding that does not throw. -/
theorem exact_answered {next : IncomingStreamRequestHandler Any} {replyId : Int}
    {envelope : Except String Envelope} (fresh : replyId ∉ channel.received ++ channel.others)
    (answered : channel.Wf →
      Answered { channel with received := channel.received ++ [replyId] } next replyId envelope) :
    ExactGuard replies replies channel (envelope.toOption ≠ none) next := by
  refine ⟨fun replied encoded => ?_, fun replied failed => ?_, ?_⟩
  · have answered := answered replied.wf
    obtain ⟨sent, encoded⟩ := Option.ne_none_iff_exists'.mp encoded
    refine ⟨answered.wf, fun other seen => ?_, fun other unseen => ?_⟩
    · rw [answered.replies, encoded]
      rw [answered.received] at seen
      rcases List.mem_append.mp seen with before | last
      · obtain ⟨envelope, once⟩ := replied.repliesOnce other before
        have differs : replyId ≠ other := by
          rintro rfl
          exact fresh (List.mem_append_left _ before)
        rw [if_neg differs, List.append_nil]
        exact ⟨envelope, once⟩
      · rw [List.mem_singleton.mp last, if_pos rfl]
        refine ⟨sent, ?_⟩
        change channel.repliesTo replyId ++ [some sent] = _
        rw [replied.unseen replyId fresh, List.nil_append]
    · rw [answered.received, answered.others] at unseen
      have differs : replyId ≠ other := by
        rintro rfl
        exact unseen (List.mem_append_left _ (List.mem_append_right _ List.mem_cons_self))
      rw [answered.replies, if_neg differs, List.append_nil]
      refine replied.unseen other fun seen => unseen ?_
      rcases List.mem_append.mp seen with received | others
      · exact List.mem_append_left _ (List.mem_append_left _ received)
      · exact List.mem_append_right _ others
  · have answered := answered replied.wf
    refine ⟨replyId, answered.wf, ?_, ?_⟩
    · rw [answered.received]
      exact List.mem_append_right _ List.mem_cons_self
    · rw [answered.replies, if_pos rfl, not_not.mp failed]
      exact List.mem_append_right _ List.mem_cons_self
  · rintro ⟨lost, empty⟩
    have answered := answered empty.wf
    refine ⟨lost, answered.wf, ?_, ?_⟩
    · rw [answered.received]
      exact List.mem_append_left _ empty.received
    · rw [answered.replies]
      exact List.mem_append_left _ empty.empty

theorem exact_other {replyId : Int} (fresh : replyId ∉ channel.received ++ channel.others) :
    ExactGuard replies replies channel True
      ({ channel with others := channel.others ++ [replyId] }.log (.replied replyId none)) := by
  have sent : ∀ other, ({ channel with others := channel.others ++ [replyId] }.log
      (.replied replyId none)).repliesTo other =
        channel.repliesTo other ++ if replyId = other then [none] else [] :=
    fun other => repliesTo_log _ _ other
  have kept : channel.Wf → ({ channel with others := channel.others ++ [replyId] }.log
      (.replied replyId none)).Wf := fun wf =>
    (wf.noted channel.received (channel.others ++ [replyId])).reply replyId (.error "")
  refine ⟨fun replied _ => ⟨kept replied.wf, fun other seen => ?_, fun other unseen => ?_⟩,
    fun _ unmet => absurd trivial unmet, ?_⟩
  · have differs : replyId ≠ other := by
      rintro rfl
      exact fresh (List.mem_append_left _ seen)
    rw [sent, if_neg differs, List.append_nil]
    exact replied.repliesOnce other seen
  · have differs : replyId ≠ other := by
      rintro rfl
      exact unseen (List.mem_append_right _ (List.mem_append_right _ List.mem_cons_self))
    rw [sent, if_neg differs, List.append_nil]
    refine replied.unseen other fun seen => unseen ?_
    rcases List.mem_append.mp seen with received | others
    · exact List.mem_append_left _ received
    · exact List.mem_append_right _ (List.mem_append_left _ others)
  · rintro ⟨lost, empty⟩
    refine ⟨lost, kept empty.wf, empty.received, ?_⟩
    rw [sent]
    exact List.mem_append_left _ empty.empty

/-- Sink calls reply to no message. -/
theorem exact_sink (channel : IncomingStreamRequestHandler Any) (sink : Nat)
    (call : SinkCall Any) :
    ExactGuard replies replies channel True (channel.callSink sink call) := by
  have same := sameStream_callSink channel sink call
  have kept : channel.Wf → (channel.callSink sink call).Wf := by
    intro wf
    refine ⟨same.streams wf.streams, ?_⟩
    rw [Opened, same.activeSink, same.opened]
    exact wf.opened
  refine ⟨fun replied _ => ⟨kept replied.wf, fun replyId seen => ?_, fun replyId unseen => ?_⟩,
    fun _ unmet => absurd trivial unmet, ?_⟩
  · rw [same.replies]
    rw [same.received] at seen
    exact replied.repliesOnce replyId seen
  · rw [same.replies]
    rw [same.received, same.others] at unseen
    exact replied.unseen replyId unseen
  · rintro ⟨lost, empty⟩
    refine ⟨lost, kept empty.wf, ?_, ?_⟩
    · rw [same.received]
      exact empty.received
    · rw [same.replies]
      exact empty.empty

theorem exact_event {next : IncomingStreamRequestHandler Any} {event : Event Any}
    (moves : channel.event event = some next) :
    ExactGuard replies replies channel (channel.Reports event) next := by
  cases event with
  | listen replyId cancelling listening =>
    simp only [IncomingStreamRequestHandler.event, Option.ite_none_left_eq_some,
      Option.some_inj] at moves
    obtain ⟨fresh, rfl⟩ := moves
    refine (exact_answered fresh fun wf => ?_).congr (toOption_answer_ne_none_iff listening)
    exact answered_onListen (wf.noted _ _) replyId cancelling listening
  | cancel replyId cancelling =>
    simp only [IncomingStreamRequestHandler.event, Option.ite_none_left_eq_some,
      Option.some_inj] at moves
    obtain ⟨fresh, rfl⟩ := moves
    refine (exact_answered fresh fun wf =>
      answered_onCancel (wf.noted _ _) replyId cancelling).congr ?_
    change _ ↔ (channel.activeSink ≠ none → Reported cancelling)
    cases channel.activeSink with
    | none => simp [Except.toOption]
    | some sink =>
      rw [toOption_answer_ne_none_iff]
      simp
  | other replyId =>
    simp only [IncomingStreamRequestHandler.event, Option.ite_none_left_eq_some,
      Option.some_inj] at moves
    obtain ⟨fresh, rfl⟩ := moves
    exact exact_other fresh
  | sink sink call =>
    cases moves
    exact exact_sink channel sink call

theorem replied_initial : ({} : IncomingStreamRequestHandler Any).Replied :=
  ⟨⟨⟨nofun, nofun, Trace.each_nil⟩, by simp [Opened, Trace.last]⟩, nofun, fun _ _ => rfl⟩

/-- In every run, calls of the handler come in pairs, only the sink of an open stream sends, and
every message gets one envelope as reply, exactly when whatever the handler throws where its
message is sent has a method `getMessage`. -/
theorem run_channelOrderly_iff {events : List (Event Any)} (runs : machine.run {} events = some channel) :
    channel.Orderly ↔ machine.Meets Reports {} events := by
  have run := ExactGuard.run exact_event runs
  rw [← run.kept_iff replied_initial]
  constructor
  · intro orderly
    by_contra lost
    obtain ⟨replyId, empty⟩ := run.loses replied_initial fun meets =>
      lost (run.keeps replied_initial meets)
    obtain ⟨envelope, once⟩ := orderly.repliesOnce replyId empty.received
    have listed := empty.empty
    rw [once, List.mem_singleton] at listed
    cases listed
  · intro replied
    exact ⟨replied.wf.streams.paired, replied.repliesOnce⟩

/-- A stream that is listened to, sends an event and is cancelled. -/
def oneStream : List (Event Unit) :=
  [.listen 1 {} {}, .sink 0 (.success ()), .cancel 2 {}]

theorem run_channelOrderly_iff_oneStream :
    ∃ channel, machine.run {} oneStream = some channel ∧
      (channel.Orderly ↔ machine.Meets Reports {} oneStream) :=
  ⟨_, rfl, run_channelOrderly_iff rfl⟩

/-- The handler's `onListen` throws an `Error`. -/
def failedListen : List (Event Unit) :=
  [.listen 1 {} { throws := some { message := "no sensor" } }]

/-- The message gets the empty reply of `invokeHandler`. -/
theorem failedListen_not_orderly :
    ¬ ∀ (events : List (Event Unit)) channel, machine.run {} events = some channel →
      channel.Orderly := by
  intro orderly
  obtain ⟨envelope, once⟩ := (orderly failedListen _ rfl).repliesOnce 1 List.mem_cons_self
  injection once with reply
  cases reply

end IncomingStreamRequestHandler

end FlutterEngine.Ohos
