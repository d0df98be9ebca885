import FlutterEngine.Std.Machine
import Mathlib.Data.List.Perm.Basic

/-!
# Channel buffers

One channel of `ChannelBuffers` in `channel_buffers.dart`. A reply returns normally, and what
a listener or a reply calls on the channel comes after the operation that called it. A
listener that a drain step calls may throw.
-/

namespace FlutterEngine.Ui

open FlutterEngine.Std

/-- `_Channel`. `pendingDrainSteps` counts the scheduled microtasks that call `_drainStep`. -/
structure Channel (Message Listener : Type) where
  capacity : Int
  queue : List Message := []
  draining : Bool := false
  channelCallbackRecord : Option Listener := none
  pendingDrainSteps : Nat := 0
  debugEnableDiscardWarnings : Bool := true

/-- What has happened to messages: the listeners that were called, and null replies. -/
inductive Handling (Message Listener : Type) where
  | delivered (listener : Listener) (message : Message)
  | dropped (message : Message)

def Handling.message {Message Listener : Type} : Handling Message Listener → Message
  | delivered _ message => message
  | dropped message => message

/-- The message, if a listener was called with it. -/
def Handling.delivery {Message Listener : Type} : Handling Message Listener → Option Message
  | delivered _ message => some message
  | dropped _ => none

namespace Channel

variable {Message Listener : Type} (channel : Channel Message Listener)

/-- `_dropOverflowMessages`: the messages that are dropped, and whether there are any. Below a
negative limit the source throws once the queue is empty. -/
def dropOverflowMessages (lengthLimit : Int) :
    Channel Message Listener × List (Handling Message Listener) × Bool :=
  let dropped := channel.queue.take (channel.queue.length - lengthLimit.toNat)
  ({ channel with queue := channel.queue.drop (channel.queue.length - lengthLimit.toNat) },
    dropped.map .dropped, !dropped.isEmpty)

/-- `push`, with the messages handled and whether to warn. -/
def push (message : Message) :
    Channel Message Listener × List (Handling Message Listener) × Bool :=
  match channel.draining, channel.channelCallbackRecord with
  | false, some listener => (channel, [.delivered listener message], false)
  | _, _ =>
    if channel.capacity ≤ 0 then (channel, [], channel.debugEnableDiscardWarnings)
    else
      let (rest, dropped, result) := channel.dropOverflowMessages (channel.capacity - 1)
      ({ rest with queue := rest.queue ++ [message] }, dropped, result)

/-- The setter of `capacity`. -/
def resize (newSize : Int) : Channel Message Listener × List (Handling Message Listener) :=
  let (rest, dropped, _) := dropOverflowMessages { channel with capacity := newSize } newSize
  (rest, dropped)

def drain : Channel Message Listener :=
  { channel with draining := true, pendingDrainSteps := channel.pendingDrainSteps + 1 }

def setListener (callback : Listener) : Channel Message Listener :=
  let needDrain := channel.channelCallbackRecord.isNone
  let channel := { channel with channelCallbackRecord := some callback }
  if needDrain && !channel.draining then channel.drain else channel

def clearListener : Channel Message Listener := { channel with channelCallbackRecord := none }

/-- `_drainStep`, where the listener returns or throws. -/
def drainStep (throws : Bool) : Channel Message Listener × List (Handling Message Listener) :=
  match channel.queue, channel.channelCallbackRecord with
  | message :: queue, some listener =>
    let channel := { channel with queue }
    let channel := if throws then channel else
      { channel with pendingDrainSteps := channel.pendingDrainSteps + 1 }
    (channel, [.delivered listener message])
  | _, _ => ({ channel with draining := false }, [])

end Channel

/-! ## One name -/

/-- The channel of a name, if it has one, with the messages pushed and how they were handled. -/
structure ChannelBuffer (Message Listener : Type) where
  channel : Option (Channel Message Listener) := none
  pushed : List Message := []
  handled : List (Handling Message Listener) := []

/-- Calls on the buffers with the name, and microtasks. -/
inductive ChannelOp (Message Listener : Type) where
  | push (message : Message)
  | setListener (callback : Listener)
  | clearListener
  | resize (newSize : Int)
  | microtask (throws : Bool)

namespace ChannelBuffer

variable {Message Listener : Type} (buffer : ChannelBuffer Message Listener)

def kDefaultBufferSize : Int := 1

/-- The channel, which is made where there is none. -/
def putIfAbsent : Channel Message Listener := buffer.channel.getD { capacity := kDefaultBufferSize }

def push (message : Message) : ChannelBuffer Message Listener :=
  let (channel, handled, _) := buffer.putIfAbsent.push message
  ⟨some channel, buffer.pushed ++ [message], buffer.handled ++ handled⟩

def setListener (callback : Listener) : ChannelBuffer Message Listener :=
  { buffer with channel := some (buffer.putIfAbsent.setListener callback) }

def clearListener : ChannelBuffer Message Listener :=
  { buffer with channel := buffer.channel.map Channel.clearListener }

def resize (newSize : Int) : ChannelBuffer Message Listener :=
  match buffer.channel with
  | none => { buffer with channel := some { capacity := newSize } }
  | some channel =>
    let (channel, dropped) := channel.resize newSize
    { buffer with channel := some channel, handled := buffer.handled ++ dropped }

/-- A scheduled drain step runs. -/
def microtask (throws : Bool) : Option (ChannelBuffer Message Listener) :=
  match buffer.channel with
  | none => none
  | some channel =>
    if channel.pendingDrainSteps = 0 then none
    else
      let (channel, delivered) := Channel.drainStep
        { channel with pendingDrainSteps := channel.pendingDrainSteps - 1 } throws
      some { buffer with channel := some channel, handled := buffer.handled ++ delivered }

def machine : Machine (ChannelBuffer Message Listener) (ChannelOp Message Listener) where
  Initial buffer := buffer = {}
  step buffer
    | .push message => some (buffer.push message)
    | .setListener callback => some (buffer.setListener callback)
    | .clearListener => some buffer.clearListener
    | .resize newSize => some (buffer.resize newSize)
    | .microtask throws => buffer.microtask throws

end ChannelBuffer

/-! ## One operation -/

namespace Channel

variable {Message Listener : Type} {channel next : Channel Message Listener}
  {handled : List (Handling Message Listener)} {arrived : List Message}

/-- The queue fits, at most one drain step is scheduled, and where none is, a listener leaves
nothing queued. -/
structure Sound (channel : Channel Message Listener) : Prop where
  bounded : (channel.queue.length : Int) ≤ channel.capacity
  pending : channel.pendingDrainSteps = if channel.draining then 1 else 0
  drained : channel.draining = false → channel.channelCallbackRecord.isSome = true →
    channel.queue = []

/-- The messages handled and those still queued are those queued before and those that
arrived, in that order. -/
structure Handles (channel : Channel Message Listener) (arrived : List Message)
    (handled : List (Handling Message Listener)) (next : Channel Message Listener) : Prop where
  sound : next.Sound
  order : handled.map Handling.message ++ next.queue = channel.queue ++ arrived

/-- A message that is pushed is delivered or finds room. -/
def Takes (channel : Channel Message Listener) : Prop :=
  (channel.draining = false ∧ channel.channelCallbackRecord.isSome = true) ∨ 0 < channel.capacity

theorem length_dropOverflowMessages (channel : Channel Message Listener) {lengthLimit : Int}
    (room : 0 ≤ lengthLimit) :
    ((channel.dropOverflowMessages lengthLimit).1.queue.length : Int) ≤ lengthLimit := by
  simp only [dropOverflowMessages, List.length_drop]
  omega

theorem dropped_append (lengthLimit : Int) :
    (channel.dropOverflowMessages lengthLimit).2.1.map Handling.message ++
      (channel.dropOverflowMessages lengthLimit).1.queue = channel.queue := by
  have dropped : ∀ messages : List Message,
      (messages.map (Handling.dropped : Message → Handling Message Listener)).map
        Handling.message = messages := by
    intro messages
    rw [List.map_map]
    exact List.map_id messages
  simp only [dropOverflowMessages, dropped, List.take_append_drop]

theorem Sound.push (sound : channel.Sound) (message : Message) (takes : channel.Takes) :
    Handles channel [message] (channel.push message).2.1 (channel.push message).1 := by
  unfold Channel.push
  split
  next listener idle set =>
    have empty := sound.drained idle (by rw [set]; rfl)
    exact ⟨sound, by rw [empty]; rfl⟩
  next other =>
    have silent : channel.draining = false → channel.channelCallbackRecord.isSome = true →
        False := by
      intro idle set
      obtain ⟨listener, set⟩ := Option.isSome_iff_exists.mp set
      exact other listener idle set
    have room : 0 < channel.capacity := takes.resolve_left fun ⟨idle, set⟩ => silent idle set
    rw [if_neg (by omega)]
    have fits := length_dropOverflowMessages channel (Int.le_sub_one_of_lt room)
    refine ⟨⟨?_, sound.pending, fun idle set => absurd (silent idle set) id⟩, ?_⟩
    · simp only [List.length_append, List.length_singleton, Nat.cast_add, Nat.cast_one]
      exact Int.add_le_of_le_sub_right fits
    · rw [← List.append_assoc, dropped_append]

theorem Sound.resize (sound : channel.Sound) {newSize : Int} (size : 0 ≤ newSize) :
    Handles channel [] (channel.resize newSize).2 (channel.resize newSize).1 := by
  refine ⟨⟨length_dropOverflowMessages _ size, sound.pending, fun idle set => ?_⟩, ?_⟩
  · have empty := sound.drained idle set
    simp [Channel.resize, dropOverflowMessages, empty]
  · rw [List.append_nil]
    exact dropped_append newSize

theorem Sound.setListener (sound : channel.Sound) (callback : Listener) :
    Handles channel [] [] (channel.setListener callback) := by
  obtain ⟨bounded, pending, drained⟩ := sound
  unfold Channel.setListener
  cases idle : channel.draining with
  | true =>
    rw [idle] at pending
    refine ⟨⟨?_, ?_, ?_⟩, ?_⟩ <;> simp [bounded, pending]
  | false =>
    rw [idle] at pending
    cases set : channel.channelCallbackRecord with
    | none => refine ⟨⟨?_, ?_, ?_⟩, ?_⟩ <;> simp [Channel.drain, bounded, pending]
    | some listener =>
      have empty := drained idle (by rw [set]; rfl)
      refine ⟨⟨?_, ?_, ?_⟩, ?_⟩ <;> simp [pending, empty]
      rwa [empty] at bounded

theorem Sound.clearListener (sound : channel.Sound) : Handles channel [] [] channel.clearListener :=
  ⟨⟨sound.bounded, sound.pending, fun _ set => absurd set Bool.false_ne_true⟩,
    (List.append_nil _).symm⟩

/-- The listener that a drain step would call returns. -/
def Returns (channel : Channel Message Listener) (throws : Bool) : Prop :=
  throws = true → channel.queue = [] ∨ channel.channelCallbackRecord = none

theorem Sound.drainStep (sound : channel.Sound) (pending : channel.pendingDrainSteps ≠ 0)
    {throws : Bool} (returns : channel.Returns throws) :
    let started := { channel with pendingDrainSteps := channel.pendingDrainSteps - 1 }
    Handles channel [] (started.drainStep throws).2 (started.drainStep throws).1 := by
  obtain ⟨bounded, counted, drained⟩ := sound
  have running : channel.draining = true := by
    by_contra idle
    rw [if_neg idle] at counted
    exact pending counted
  rw [if_pos running] at counted
  cases queued : channel.queue with
  | nil =>
    refine ⟨⟨?_, ?_, ?_⟩, ?_⟩ <;> simp [Channel.drainStep, queued, counted]
    rwa [queued] at bounded
  | cons message queue =>
    cases set : channel.channelCallbackRecord with
    | none =>
      refine ⟨⟨?_, ?_, ?_⟩, ?_⟩ <;> simp [Channel.drainStep, queued, counted]
      rwa [queued] at bounded
    | some listener =>
      have calm : throws = false := by
        by_contra throwing
        obtain empty | unset := returns ((Bool.not_eq_false _).mp throwing)
        · exact List.cons_ne_nil _ _ (queued.symm.trans empty)
        · exact Option.some_ne_none _ (set.symm.trans unset)
      rw [queued, List.length_cons] at bounded
      refine ⟨⟨?_, ?_, ?_⟩, ?_⟩ <;>
        simp [Channel.drainStep, queued, calm, counted, running, Handling.message]
      omega

end Channel

/-! ## Runs -/

namespace ChannelBuffer

variable {Message Listener : Type} {buffer next : ChannelBuffer Message Listener}

/-- What is queued under the name. -/
def queue (buffer : ChannelBuffer Message Listener) : List Message := buffer.putIfAbsent.queue

/-- The messages that listeners were called with. -/
def delivered (buffer : ChannelBuffer Message Listener) : List Message :=
  buffer.handled.filterMap Handling.delivery

/-- Every message is handled once or queued, and delivered in the order of the pushes; the
queue fits, and is empty where a listener is set and no drain step is scheduled. -/
structure Orderly (buffer : ChannelBuffer Message Listener) : Prop where
  once : (buffer.handled.map Handling.message ++ buffer.queue).Perm buffer.pushed
  order : (buffer.delivered ++ buffer.queue).Sublist buffer.pushed
  bounded : ∀ channel, buffer.channel = some channel →
    (channel.queue.length : Int) ≤ channel.capacity
  drained : ∀ channel, buffer.channel = some channel →
    channel.channelCallbackRecord.isSome = true → channel.pendingDrainSteps = 0 →
      channel.queue = []

/-- The conditions on an operation: what is pushed is delivered or finds room, a size is not
negative, and a listener that a drain step calls returns. -/
def Meets (buffer : ChannelBuffer Message Listener) : ChannelOp Message Listener → Prop
  | .push _ => buffer.putIfAbsent.Takes
  | .setListener _ => True
  | .clearListener => True
  | .resize newSize => 0 ≤ newSize
  | .microtask throws => buffer.putIfAbsent.Returns throws

instance [DecidableEq Message] [DecidableEq Listener]
    (buffer : ChannelBuffer Message Listener) : ∀ op, Decidable (buffer.Meets op)
  | .push _ => inferInstanceAs (Decidable (_ ∧ _ ∨ _))
  | .setListener _ => inferInstanceAs (Decidable True)
  | .clearListener => inferInstanceAs (Decidable True)
  | .resize newSize => inferInstanceAs (Decidable (0 ≤ newSize))
  | .microtask _ => inferInstanceAs (Decidable (_ → _ ∨ _))

/-- The accounts of a name, with its channel. -/
structure Accounted (buffer : ChannelBuffer Message Listener) : Prop where
  sound : ∀ channel, buffer.channel = some channel → channel.Sound
  once : (buffer.handled.map Handling.message ++ buffer.queue).Perm buffer.pushed
  order : (buffer.delivered ++ buffer.queue).Sublist buffer.pushed

theorem accounted_initial : Accounted ({} : ChannelBuffer Message Listener) where
  sound _ absent := by contradiction
  once := .refl _
  order := .refl _

theorem Accounted.orderly (accounted : buffer.Accounted) : buffer.Orderly where
  once := accounted.once
  order := accounted.order
  bounded channel found := (accounted.sound channel found).bounded
  drained channel found set none := by
    have sound := accounted.sound channel found
    refine sound.drained (Bool.eq_false_iff.mpr fun running => ?_) set
    have pending := sound.pending
    rw [running, none] at pending
    contradiction

theorem sound_default : ({ capacity := kDefaultBufferSize } : Channel Message Listener).Sound :=
  ⟨Int.zero_le_ofNat 1, rfl, fun _ _ => rfl⟩

theorem Accounted.putIfAbsent (accounted : buffer.Accounted) : buffer.putIfAbsent.Sound := by
  unfold ChannelBuffer.putIfAbsent
  cases found : buffer.channel with
  | none => exact sound_default
  | some channel => exact accounted.sound channel found

theorem delivery_sublist (handled : List (Handling Message Listener)) :
    (handled.filterMap Handling.delivery).Sublist (handled.map Handling.message) := by
  induction handled with
  | nil => exact .refl _
  | cons handling handled ih =>
    cases handling with
    | delivered listener message => exact ih.cons_cons message
    | dropped message => exact ih.cons message

/-- The messages that an operation handles come before those that stay queued. -/
theorem Accounted.advance (accounted : buffer.Accounted) {channel : Channel Message Listener}
    {arrived : List Message} {handled : List (Handling Message Listener)}
    (handles : buffer.putIfAbsent.Handles arrived handled channel) :
    Accounted ⟨some channel, buffer.pushed ++ arrived, buffer.handled ++ handled⟩ where
  sound _ found := by
    cases found
    exact handles.sound
  once := by
    have order := handles.order
    calc (buffer.handled ++ handled).map Handling.message ++ channel.queue
        = buffer.handled.map Handling.message ++
            (handled.map Handling.message ++ channel.queue) := by
          rw [List.map_append, List.append_assoc]
      _ = (buffer.handled.map Handling.message ++ buffer.queue) ++ arrived := by
          rw [order, ← List.append_assoc, queue]
      List.Perm _ (buffer.pushed ++ arrived) := accounted.once.append_right arrived
  order := by
    have rest : buffer.delivered ++ (handled.map Handling.message ++ channel.queue) =
        (buffer.delivered ++ buffer.queue) ++ arrived := by
      rw [handles.order, ← List.append_assoc, queue]
    have all := accounted.order.append (List.Sublist.refl arrived)
    rw [← rest] at all
    refine List.Sublist.trans ?_ all
    rw [delivered, List.filterMap_append, List.append_assoc]
    exact (List.Sublist.refl _).append ((delivery_sublist handled).append (.refl _))

theorem Accounted.step (accounted : buffer.Accounted) {op : ChannelOp Message Listener}
    (meets : buffer.Meets op) (step : machine.step buffer op = some next) : next.Accounted := by
  have sound := accounted.putIfAbsent
  cases op with
  | push message =>
    cases step
    exact accounted.advance (sound.push message meets)
  | setListener callback =>
    cases step
    have set := accounted.advance (sound.setListener callback)
    rwa [List.append_nil, List.append_nil] at set
  | clearListener =>
    obtain ⟨channel, pushed, handled⟩ := buffer
    cases step
    cases channel with
    | none => exact accounted
    | some channel =>
      have cleared := accounted.advance sound.clearListener
      rwa [List.append_nil, List.append_nil] at cleared
  | resize newSize =>
    obtain ⟨channel, pushed, handled⟩ := buffer
    cases step
    cases channel with
    | none =>
      have made : ({ capacity := newSize } : Channel Message Listener).Sound :=
        ⟨meets, rfl, fun _ _ => rfl⟩
      have handles : Channel.Handles
          (ChannelBuffer.putIfAbsent (⟨none, pushed, handled⟩ : ChannelBuffer Message Listener)) [] []
            { capacity := newSize } := ⟨made, rfl⟩
      have resized := accounted.advance handles
      rwa [List.append_nil, List.append_nil] at resized
    | some channel =>
      have resized := accounted.advance (sound.resize meets)
      rwa [List.append_nil] at resized
  | microtask throws =>
    obtain ⟨channel, pushed, handled⟩ := buffer
    cases channel with
    | none => cases step
    | some channel =>
      simp only [machine, ChannelBuffer.microtask] at step
      split at step
      · contradiction
      next pending =>
        cases step
        have drained := accounted.advance (sound.drainStep pending meets)
        rwa [List.append_nil] at drained

/-- In every run whose operations meet the conditions, messages are handled once and in order. -/
theorem reachable_orderly
    (reached : machine.Reachable Meets buffer) : buffer.Orderly := by
  have accounted : buffer.Accounted := by
    refine reached.invariant Accounted ?_ ?_
    · rintro _ rfl
      exact accounted_initial
    · exact fun accounted meets step => accounted.step meets step
  exact accounted.orderly

/-- Two messages overflow into one place, and a third comes while the first is drained. -/
theorem reachable_orderly_overflow : ∃ buffer : ChannelBuffer Nat String,
    buffer.handled = [.dropped 1, .delivered "listener" 2, .delivered "listener" 3] ∧
      buffer.Orderly :=
  ⟨_, rfl, reachable_orderly (.of_run (.initial rfl) (by decide) (rfl : machine.run _
    [.push 1, .push 2, .setListener "listener", .microtask false, .push 3, .microtask false,
      .microtask false] = some _))⟩

/-- A message that finds no room at all gets no reply. -/
theorem push_not_orderly : ¬∀ buffer : ChannelBuffer Nat String,
    machine.Reachable (fun _ _ => True) buffer → buffer.Orderly := by
  intro orderly
  have once := (orderly _ (.step (.push 1) (.step (.resize 0) (.initial rfl) trivial rfl)
    trivial rfl)).once
  exact absurd once.length_eq (by decide)

end ChannelBuffer

end FlutterEngine.Ui
