import FlutterEngine.Std.Trace
import FlutterEngine.WebPointer.PointerDataConverter

/-!
# Sequences of pointer data

In which order data of a pointer arrive, in which order converted data leave, and what holds
of an event that leaves given those before it.
-/

namespace FlutterEngine.WebPointer

open FlutterEngine.Std

variable {Coord Detail : Type}

namespace PointerMetrics

variable (data : PointerMetrics Coord Detail)

/-- Such a change, and no signal. -/
def Is (change : PointerChange) : Prop :=
  (data.signalKind = none ∨ data.signalKind = some .none) ∧ data.change = change

instance (change : PointerChange) : Decidable (data.Is change) :=
  inferInstanceAs (Decidable (_ ∧ _))

/-- A signal of a known kind. -/
def IsSignal : Prop :=
  data.signalKind = some .scroll ∨ data.signalKind = some .scrollInertiaCancel ∨
    data.signalKind = some .scale

def ofDevice (device : Int) (data : PointerMetrics Coord Detail) : Bool :=
  decide (data.device = device)

variable {data} {change : PointerChange}

/-- Data have no two changes. -/
theorem Is.unique {other : PointerChange} (is : data.Is change) (also : data.Is other) :
    change = other :=
  is.2.symm.trans also.2

theorem IsSignal.not_is (signals : data.IsSignal) (change : PointerChange) : ¬data.Is change := by
  rintro ⟨plain | plain, -⟩ <;> simp [IsSignal, plain] at signals

end PointerMetrics

/-! ## Phases -/

/-- What is known of a device. -/
inductive Phase where
  | absent
  | up
  | down
deriving DecidableEq

namespace Phase

/-- The phase after converted data that are no signal; none when they are not legal. -/
def step : Phase → PointerChange → Option Phase
  | absent, .add => some up
  | up, .hover => some up
  | up, .down => some down
  | down, .move => some down
  | down, .up => some up
  | down, .cancel => some up
  | up, .remove => some absent
  | _, _ => none

/-- The phase after converted data; none when they are not legal. -/
def next (phase : Phase) (event : PointerData Coord Detail) : Option Phase :=
  match event.signalKind with
  | none | some .none => phase.step event.change
  | some .scroll | some .scrollInertiaCancel | some .scale =>
    if phase = absent then none else some phase
  | some .unknown => none

/-- The phase after the end of a gesture. A touch ends with it. -/
def ended (kind : PointerDeviceKind) : Phase := if kind = .touch then absent else up

/-- The phase after data that are no signal arrive; none when they must not. -/
def arrive (kind : PointerDeviceKind) : Phase → PointerChange → Option Phase
  | absent, .add => some up
  | absent, .hover => some up
  | up, .hover => some up
  | absent, .down => some down
  | up, .down => some down
  | down, .move => some down
  | down, .up => some (ended kind)
  | down, .cancel => some (ended kind)
  | up, .remove => some absent
  | _, _ => none

/-- The phase after data arrive; none when they must not. A signal has buttons exactly while
the pointer is down, and introduces its device. -/
def receive (phase : Phase) (data : PointerMetrics Coord Detail) : Option Phase :=
  match data.signalKind with
  | none | some .none => phase.arrive data.kind data.change
  | some .scroll | some .scrollInertiaCancel | some .scale =>
    if phase = down then if data.buttons = 0 then none else some down
    else if data.buttons = 0 then some up
    else none
  | some .unknown => some phase

/-- How an event that leaves may change the phase. -/
inductive Takes (event : PointerData Coord Detail) : Phase → Phase → Prop where
  | add (is : event.Is .add) : Takes event absent up
  | hover (is : event.Is .hover) : Takes event up up
  | down (is : event.Is .down) : Takes event up down
  | move (is : event.Is .move) : Takes event down down
  | release (is : event.Is .up ∨ event.Is .cancel) : Takes event down up
  | remove (is : event.Is .remove) : Takes event up absent
  | signal {phase : Phase} (signals : event.IsSignal) (present : phase ≠ absent) :
      Takes event phase phase

variable {event : PointerData Coord Detail} {phase after : Phase}

theorem next_of_plain (plain : event.signalKind = none ∨ event.signalKind = some .none) :
    phase.next event = phase.step event.change := by
  obtain plain | plain := plain <;> rw [next, plain]

theorem next_of_is {change : PointerChange} (is : event.Is change) :
    phase.next event = phase.step change := by
  rw [next_of_plain is.1, is.2]

theorem next_of_signal (signals : event.IsSignal) (present : phase ≠ absent) :
    phase.next event = some phase := by
  obtain kind | kind | kind := signals <;> rw [next, kind] <;> exact if_neg present

theorem takes_of_step (plain : event.signalKind = none ∨ event.signalKind = some .none)
    (steps : phase.step event.change = some after) : Takes event phase after := by
  unfold step at steps
  split at steps
  case h_1 _ change => cases steps; exact .add ⟨plain, change⟩
  case h_2 _ change => cases steps; exact .hover ⟨plain, change⟩
  case h_3 _ change => cases steps; exact .down ⟨plain, change⟩
  case h_4 _ change => cases steps; exact .move ⟨plain, change⟩
  case h_5 _ change => cases steps; exact .release (.inl ⟨plain, change⟩)
  case h_6 _ change => cases steps; exact .release (.inr ⟨plain, change⟩)
  case h_7 _ change => cases steps; exact .remove ⟨plain, change⟩
  case h_8 => contradiction

theorem takes_of_next (next : phase.next event = some after) : Takes event phase after := by
  have signals (signals : event.IsSignal)
      (kept : (if phase = absent then none else some phase) = some after) :
      Takes event phase after := by
    split at kept
    case isTrue => contradiction
    case isFalse present =>
      cases kept
      exact .signal signals present
  unfold Phase.next at next
  split at next
  case h_1 plain => exact takes_of_step (.inl plain) next
  case h_2 plain => exact takes_of_step (.inr plain) next
  case h_3 kind => exact signals (.inl kind) next
  case h_4 kind => exact signals (.inr (.inl kind)) next
  case h_5 kind => exact signals (.inr (.inr kind)) next
  case h_6 => contradiction

end Phase

/-! ## Converted data -/

section Traces

variable [Sub Coord] [BEq Coord]

omit [Sub Coord] [BEq Coord] in
def fromDevice (device : Int) (event : PointerData Coord Detail) : Bool :=
  event.ofDevice device

omit [Sub Coord] [BEq Coord] in
def downFrom (device : Int) (event : PointerData Coord Detail) : Bool :=
  fromDevice device event && decide (event.Is .down)

omit [Sub Coord] [BEq Coord] in
/-- An add, a hover or a move. -/
def Positions (event : PointerData Coord Detail) : Prop :=
  event.Is .add ∨ event.Is .hover ∨ event.Is .move

omit [Sub Coord] [BEq Coord] in
/-- A move, an up or a cancel. -/
def Continues (event : PointerData Coord Detail) : Prop :=
  event.Is .move ∨ event.Is .up ∨ event.Is .cancel

/-- The event is as far from the other as it says. -/
structure Displaced (latest event : PointerData Coord Detail) : Prop where
  deltaX : event.physicalDeltaX = event.physicalX - latest.physicalX
  deltaY : event.physicalDeltaY = event.physicalY - latest.physicalY

/-- Neither coordinate compares as changed, or neither is. -/
def SamePlace (latest event : PointerData Coord Detail) : Prop :=
  (latest.physicalX != event.physicalX || latest.physicalY != event.physicalY) = false ∨
    latest.physicalX = event.physicalX ∧ latest.physicalY = event.physicalY

omit [Sub Coord] [BEq Coord] in
/-- Only what was synthesized just before has the identifier of the event. -/
def Fresh (before : List (PointerData Coord Detail)) (event : PointerData Coord Detail) : Prop :=
  ∃ older prepared, before = older ++ prepared ∧
    (∀ other ∈ older, other.pointerIdentifier ≠ event.pointerIdentifier) ∧
      ∀ other ∈ prepared, other.synthesized = true ∧ other.device = event.device ∧
        (other.Is .add ∨ other.Is .hover)

/-- What holds of an event given those before it. -/
structure Fits (before : List (PointerData Coord Detail)) (event : PointerData Coord Detail) :
    Prop where
  begins : event.Is .add → Displaced event event
  displaced : ¬event.Is .add → ∃ latest,
    Trace.last (fromDevice event.device) before = some latest ∧ Displaced latest event
  still : ¬Positions event → ∃ latest,
    Trace.last (fromDevice event.device) before = some latest ∧ SamePlace latest event
  fresh : event.Is .down → Fresh before event
  carries : Continues event → ∃ start,
    Trace.last (downFrom event.device) before = some start ∧
      event.pointerIdentifier = start.pointerIdentifier

/-- The data of every device leave in order, and each fits those before it. -/
structure Legal (trace : List (PointerData Coord Detail)) : Prop where
  protocol : ∀ device, ∃ phase,
    (trace.filter (fromDevice device)).foldlM Phase.next .absent = some phase
  fits : Trace.Each Fits trace

end Traces

/-- The data of every device arrive in order. -/
def Received (stream : List (PointerMetrics Coord Detail)) : Prop :=
  ∀ device, ∃ phase,
    (stream.filter (PointerMetrics.ofDevice device)).foldlM Phase.receive .absent = some phase

end FlutterEngine.WebPointer
