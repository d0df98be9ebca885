import FlutterEngine.Window.PointerData

/-!
# What a conversion emits

Every event that `ConvertPointerData` pushes, with the state of its device before and after
it. Two conditions on the data that arrive stand beside the code: `Calm`, which the order
of the events needs, and `Steady`, which their positions need.
-/

namespace FlutterEngine.Window

variable {Coord : Type}

/-! ## Kinds of data -/

namespace PointerData

variable (data : PointerData Coord)

/-- Such a change, and no signal. -/
def Is (change : Change) : Prop := data.signalKind = .kNone ∧ data.change = change

/-- Whether it is a signal of a known kind. -/
def signals : Bool :=
  match data.signalKind with
  | .kScroll | .kScrollInertiaCancel | .kScale => true
  | .kNone | .undefined _ => false

instance (change : Change) : Decidable (data.Is change) :=
  inferInstanceAs (Decidable (_ ∧ _))

end PointerData

/-- The change is one of the enumerators. -/
def Change.defined : Change → Bool
  | .undefined _ => false
  | _ => true

namespace PointerDataPacketConverter

variable [BEq Coord] (converter : PointerDataPacketConverter Coord) (data : PointerData Coord)

/-- The data push an event that does not belong in a pan-zoom. -/
def interrupts (state : PointerState Coord) : Bool :=
  data.signals || decide (data.Is .kDown) || decide (data.Is .kRemove) ||
    decide (data.Is .kHover) && locationNeedsUpdate data state

/-- No event interrupts a pan-zoom, and what scrolls elsewhere while the pointer is down
has its identifier. -/
def Calm : Prop :=
  ∀ state, converter.states data.device = some state →
    (state.isPanZoomActive = true → interrupts data state = false) ∧
      (state.isDown = true → data.signals = true → locationNeedsUpdate data state = true →
        data.pointerIdentifier = state.pointerIdentifier)

instance : Decidable (converter.Calm data) :=
  match stored : converter.states data.device with
  | none => isTrue fun state found => by simp [stored] at found
  | some state =>
    decidable_of_iff ((state.isPanZoomActive = true → interrupts data state = false) ∧
        (state.isDown = true → data.signals = true → locationNeedsUpdate data state = true →
          data.pointerIdentifier = state.pointerIdentifier))
      ⟨fun calm other found => by cases stored.symm.trans found; exact calm,
        fun calm => calm state stored⟩

/-- The data push a positional event that is not of a pan-zoom. -/
def repositions (state : PointerState Coord) : Bool :=
  decide (data.Is .kMove) || locationNeedsUpdate data state && (data.signals ||
    decide (data.Is .kHover) || decide (data.Is .kDown) || decide (data.Is .kUp) ||
      decide (data.Is .kCancel))

/-- What removes a pointer that is down, and what changes nothing, is where the pointer is;
a positional event within a pan-zoom has its offset. -/
def Steady : Prop :=
  ∀ state, converter.states data.device = some state →
    (state.isDown = true → data.Is .kRemove → locationNeedsUpdate data state = false) ∧
      (data.signalKind = .kNone → data.change.defined = false →
        locationNeedsUpdate data state = false) ∧
      (state.isPanZoomActive = true → repositions data state = true →
        data.panX = state.panX ∧ data.panY = state.panY)

instance [DecidableEq Coord] : Decidable (converter.Steady data) :=
  match stored : converter.states data.device with
  | none => isTrue fun state found => by simp [stored] at found
  | some state =>
    decidable_of_iff
      ((state.isDown = true → data.Is .kRemove → locationNeedsUpdate data state = false) ∧
        (data.signalKind = .kNone → data.change.defined = false →
          locationNeedsUpdate data state = false) ∧
        (state.isPanZoomActive = true → repositions data state = true →
          data.panX = state.panX ∧ data.panY = state.panY))
      ⟨fun steady other found => by cases stored.symm.trans found; exact steady,
        fun steady => steady state stored⟩

end PointerDataPacketConverter

/-! ## Emissions -/

section Emissions

variable [Zero Coord] [Sub Coord] [BEq Coord]

open PointerDataPacketConverter

omit [Zero Coord] [Sub Coord] in
/-- The event is where its device is. -/
def SamePlace (event : PointerData Coord) (state : PointerState Coord) : Prop :=
  locationNeedsUpdate event state = false ∨
    (state.physicalX = event.physicalX ∧ state.physicalY = event.physicalY)

/-- A positional event takes its device along. -/
structure Moves (before : PointerState Coord) (event : PointerData Coord)
    (after : PointerState Coord) : Prop where
  deltaX : event.physicalDeltaX = event.physicalX - before.physicalX
  deltaY : event.physicalDeltaY = event.physicalY - before.physicalY
  physicalX : after.physicalX = event.physicalX
  physicalY : after.physicalY = event.physicalY
  pointerIdentifier : after.pointerIdentifier = before.pointerIdentifier
  isDown : after.isDown = before.isDown
  isPanZoomActive : after.isPanZoomActive = before.isPanZoomActive

/-- The offset of a pan-zoom stays. -/
def KeepsPan (before after : PointerState Coord) : Prop :=
  before.isPanZoomActive = true → after.panX = before.panX ∧ after.panY = before.panY

/-- An event, with the state of its device and the count of pointers around it. -/
inductive Emission (calm steady : Prop) : Option (PointerState Coord) → Int →
    PointerData Coord → Option (PointerState Coord) → Int → Prop where
  | add {event state pointer} (is : event.Is .kAdd) (up : state.isDown = false)
      (idle : state.isPanZoomActive = false) (physicalX : state.physicalX = event.physicalX)
      (physicalY : state.physicalY = event.physicalY) :
      Emission calm steady none pointer event (some state) pointer
  | hover {before event after pointer} (is : event.Is .kHover) (up : before.isDown = false)
      (idle : calm → before.isPanZoomActive = false) (moves : Moves before event after)
      (keeps : steady → KeepsPan before after) :
      Emission calm steady (some before) pointer event (some after) pointer
  | move {before event after pointer} (is : event.Is .kMove) (down : before.isDown = true)
      (carries : calm → event.pointerIdentifier = before.pointerIdentifier)
      (moves : Moves before event after) (keeps : steady → KeepsPan before after) :
      Emission calm steady (some before) pointer event (some after) pointer
  | panZoomUpdate {before event after pointer} (is : event.Is .kPanZoomUpdate)
      (active : before.isPanZoomActive = true)
      (carries : event.pointerIdentifier = before.pointerIdentifier)
      (moves : Moves before event after)
      (deltaX : event.panDeltaX = event.panX - before.panX)
      (deltaY : event.panDeltaY = event.panY - before.panY)
      (panX : after.panX = event.panX) (panY : after.panY = event.panY) :
      Emission calm steady (some before) pointer event (some after) pointer
  | down {before event buttons pointer} (is : event.Is .kDown) (up : before.isDown = false)
      (idle : calm → before.isPanZoomActive = false)
      (fresh : event.pointerIdentifier = pointer + 1) (place : SamePlace event before) :
      Emission calm steady (some before) pointer event
        (some { before with pointerIdentifier := pointer + 1, isDown := true, buttons })
        (pointer + 1)
  | release {before event buttons pointer} (is : event.Is .kUp ∨ event.Is .kCancel)
      (down : before.isDown = true)
      (carries : event.pointerIdentifier = before.pointerIdentifier)
      (place : steady → SamePlace event before) :
      Emission calm steady (some before) pointer event
        (some { before with isDown := false, buttons }) pointer
  | panZoomStart {before event scale rotation pointer} (is : event.Is .kPanZoomStart)
      (up : before.isDown = false) (idle : before.isPanZoomActive = false)
      (fresh : event.pointerIdentifier = pointer + 1) (place : SamePlace event before) :
      Emission calm steady (some before) pointer event
        (some { before with
          pointerIdentifier := pointer + 1
          isPanZoomActive := true
          panX := 0
          panY := 0
          scale
          rotation })
        (pointer + 1)
  | panZoomEnd {before event pointer} (is : event.Is .kPanZoomEnd)
      (active : before.isPanZoomActive = true)
      (carries : event.pointerIdentifier = before.pointerIdentifier)
      (place : SamePlace event before) :
      Emission calm steady (some before) pointer event
        (some { before with isPanZoomActive := false }) pointer
  | remove {before event pointer} (is : event.Is .kRemove) (up : before.isDown = false)
      (idle : calm → before.isPanZoomActive = false) (place : SamePlace event before) :
      Emission calm steady (some before) pointer event none pointer
  | signal {before event pointer} (signals : event.signals = true)
      (idle : calm → before.isPanZoomActive = false) (place : SamePlace event before) :
      Emission calm steady (some before) pointer event (some before) pointer
  /-- An event that changes nothing the converter knows of. -/
  | undefined {before event pointer} (plain : event.signalKind = .kNone)
      (undefined : event.change.defined = false) (ruledOut : ¬calm)
      (place : steady → ∀ state, before = some state → SamePlace event state) :
      Emission calm steady before pointer event before pointer

/-- The events of one device, one after another. -/
inductive Emissions (calm steady : Prop) (device : Int) : Option (PointerState Coord) → Int →
    List (PointerData Coord) → Option (PointerState Coord) → Int → Prop where
  | nil {state pointer} : Emissions calm steady device state pointer [] state pointer
  | cons {before pointer event middle between events after final} (own : event.device = device)
      (first : Emission calm steady before pointer event middle between)
      (rest : Emissions calm steady device middle between events after final) :
      Emissions calm steady device before pointer (event :: events) after final

variable {calm steady : Prop}

theorem Emissions.append {device : Int} {before middle after : Option (PointerState Coord)}
    {pointer between final : Int} {first second : List (PointerData Coord)}
    (earlier : Emissions calm steady device before pointer first middle between)
    (later : Emissions calm steady device middle between second after final) :
    Emissions calm steady device before pointer (first ++ second) after final := by
  induction earlier with
  | nil => exact later
  | cons own emission _ ih => exact .cons own emission (ih later)

omit [Zero Coord] [Sub Coord] [BEq Coord] in
/-- The converter with this state of the device and this count of pointers. -/
def PointerDataPacketConverter.advance (converter : PointerDataPacketConverter Coord)
    (device : Int) (state : Option (PointerState Coord)) (pointer : Int) :
    PointerDataPacketConverter Coord :=
  ⟨Function.update converter.states device state, pointer⟩

omit [Zero Coord] [Sub Coord] [BEq Coord] in
@[simp] theorem states_advance_self (converter : PointerDataPacketConverter Coord) (device : Int)
    (state : Option (PointerState Coord)) (pointer : Int) :
    (converter.advance device state pointer).states device = state :=
  Function.update_self _ _ _

omit [Zero Coord] [Sub Coord] [BEq Coord] in
theorem states_advance_of_ne (converter : PointerDataPacketConverter Coord) {device other : Int}
    (different : other ≠ device) (state : Option (PointerState Coord)) (pointer : Int) :
    (converter.advance device state pointer).states other = converter.states other :=
  Function.update_of_ne different _ _

/-- Every emission keeps what holds of the converter and of the events so far. -/
def KeptByEmissions (calm steady : Prop)
    (Keeps : PointerDataPacketConverter Coord → List (PointerData Coord) → Prop) : Prop :=
  ∀ {converter : PointerDataPacketConverter Coord} {trace : List (PointerData Coord)}
    {event : PointerData Coord} {after : Option (PointerState Coord)} {pointer : Int},
    Keeps converter trace →
      Emission calm steady (converter.states event.device) converter.pointer event after pointer →
        Keeps (converter.advance event.device after pointer) (trace ++ [event])

/-- What a piece of a conversion does to the converter. -/
structure Emits (calm steady : Prop) (converter : PointerDataPacketConverter Coord) (device : Int)
    (events : List (PointerData Coord)) (after : Option (PointerState Coord))
    (next : PointerDataPacketConverter Coord) : Prop where
  states : next.states = Function.update converter.states device after
  emissions : Emissions calm steady device (converter.states device) converter.pointer events
    after next.pointer

namespace Emits

variable {converter middle next : PointerDataPacketConverter Coord} {device : Int}
  {first second : List (PointerData Coord)} {between after : Option (PointerState Coord)}

theorem none_pushed (stored : converter.states device = after) :
    Emits calm steady converter device [] after converter where
  states := by rw [← stored, Function.update_eq_self]
  emissions := by
    rw [stored]
    exact .nil

theorem one_pushed {event : PointerData Coord} {before : Option (PointerState Coord)}
    (stored : converter.states device = before) (own : event.device = device)
    (states : next.states = Function.update converter.states device after)
    (emission : Emission calm steady before converter.pointer event after next.pointer) :
    Emits calm steady converter device [event] after next := by
  subst stored
  exact ⟨states, .cons own emission .nil⟩

theorem append (earlier : Emits calm steady converter device first between middle)
    (later : Emits calm steady middle device second after next) :
    Emits calm steady converter device (first ++ second) after next := by
  have stored : middle.states device = between := by
    rw [earlier.states, Function.update_self]
  constructor
  · rw [later.states, earlier.states, Function.update_idem]
  · have emissions := later.emissions
    rw [stored] at emissions
    exact earlier.emissions.append emissions

theorem stored (emits : Emits calm steady converter device first after next) :
    next.states device = after := by
  rw [emits.states, Function.update_self]

/-- What every emission keeps, a chain of them keeps. -/
theorem keeps {Keeps : PointerDataPacketConverter Coord → List (PointerData Coord) → Prop}
    (each : KeptByEmissions calm steady Keeps) {trace : List (PointerData Coord)} (kept : Keeps converter trace)
    (emits : Emits calm steady converter device first after next) : Keeps next (trace ++ first) := by
  obtain ⟨states, emissions⟩ := emits
  generalize stored : converter.states device = before at emissions
  generalize counted : converter.pointer = count at emissions
  generalize ended : next.pointer = final at emissions
  induction emissions generalizing converter trace with
  | nil =>
    have same : next = converter := by
      ext1
      · rw [states, ← stored, Function.update_eq_self]
      · rw [ended, counted]
    rwa [same, List.append_nil]
  | @cons before pointer event middle between events after final own emission rest ih =>
    subst own counted stored
    have one := each kept emission
    have found := states_advance_self converter event.device middle between
    have rest := ih one (by rw [advance, Function.update_idem, states]) found rfl ended
    rwa [List.append_assoc] at rest

end Emits

end Emissions

end FlutterEngine.Window
