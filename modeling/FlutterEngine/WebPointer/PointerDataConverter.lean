import Mathlib.Logic.Function.Basic

/-!
# Converting pointer data on the web

`PointerDataConverter` of `pointer_converter.dart`. What a conversion only passes on, such as
the view and the time, is the `detail` of a pointer. Assertions do not run in production and
are left out. A conversion has no result where `pointers[device]!` finds nothing.
-/

namespace FlutterEngine.WebPointer

/-- `ui.PointerChange`. -/
inductive PointerChange where
  | cancel
  | add
  | remove
  | hover
  | down
  | move
  | up
  | panZoomStart
  | panZoomUpdate
  | panZoomEnd
deriving DecidableEq

/-- `ui.PointerDeviceKind`. -/
inductive PointerDeviceKind where
  | touch
  | mouse
  | stylus
  | invertedStylus
  | trackpad
  | unknown
deriving DecidableEq

/-- `ui.PointerSignalKind`. -/
inductive PointerSignalKind where
  | none
  | scroll
  | scrollInertiaCancel
  | scale
  | unknown
deriving DecidableEq

/-- What `convert` is given of a pointer. -/
structure PointerMetrics (Coord Detail : Type) where
  change : PointerChange := .cancel
  kind : PointerDeviceKind := .touch
  signalKind : Option PointerSignalKind := none
  device : Int := 0
  physicalX : Coord
  physicalY : Coord
  buttons : Int := 0
  pressure : Coord
  detail : Detail

/-- `ui.PointerData`. -/
structure PointerData (Coord Detail : Type) extends PointerMetrics Coord Detail where
  pointerIdentifier : Int
  physicalDeltaX : Coord
  physicalDeltaY : Coord
  synthesized : Bool

/-- `_PointerDeviceState`. -/
structure PointerDeviceState (Coord : Type) where
  pointer : Option Int := none
  x : Coord
  y : Coord

/-- `_GlobalPointerState`, with the static `_pointerCount`, which does not overflow here. -/
structure GlobalPointerState (Coord : Type) where
  pointers : Int → Option (PointerDeviceState Coord) := fun _ => none
  pointerCount : Int := 0
  activeButtons : Int := 0

/-- The global state, and the list that conversions add to. -/
structure PointerDataConverter (Coord Detail : Type) where
  globalPointerState : GlobalPointerState Coord := {}
  result : List (PointerData Coord Detail) := []

variable {Coord Detail : Type}

/-- `_locationHasChanged` for the state of the device. -/
def PointerDeviceState.locationHasChanged [BEq Coord] (state : PointerDeviceState Coord)
    (physicalX physicalY : Coord) : Bool :=
  state.x != physicalX || state.y != physicalY

namespace GlobalPointerState

variable (global : GlobalPointerState Coord)

/-- `pointers[device] = state`, and `pointers.remove(device)` for no state. -/
def store (device : Int) (state : Option (PointerDeviceState Coord)) : GlobalPointerState Coord :=
  { global with pointers := Function.update global.pointers device state }

/-- The state that `ensurePointerDeviceState` returns. -/
def ensured (device : Int) (x y : Coord) : PointerDeviceState Coord :=
  (global.pointers device).getD { x, y }

def ensurePointerDeviceState (device : Int) (x y : Coord) : GlobalPointerState Coord :=
  global.store device (some (global.ensured device x y))

/-- `startNewPointer` of the state of a device. -/
def startNewPointer (device : Int) (state : PointerDeviceState Coord) :
    GlobalPointerState Coord :=
  let pointerCount := global.pointerCount + 1
  { global.store device (some { state with pointer := some pointerCount }) with pointerCount }

end GlobalPointerState

namespace PointerDataConverter

/-! ## Adding to the result -/

section Results

variable [Sub Coord] (converter : PointerDataConverter Coord Detail)
  (data : PointerMetrics Coord Detail)

/-- What is common to `_generateCompletePointerData` and `_synthesizePointerData`. -/
def addData (synthesized : Bool) : Option (PointerDataConverter Coord Detail) :=
  match converter.globalPointerState.pointers data.device with
  | none => none
  | some state => some
      { globalPointerState := converter.globalPointerState.store data.device
          (some { state with x := data.physicalX, y := data.physicalY })
        result := converter.result ++ [{ data with
          pointerIdentifier := state.pointer.getD 0
          physicalDeltaX := data.physicalX - state.x
          physicalDeltaY := data.physicalY - state.y
          synthesized }] }

/-- Add what `_generateCompletePointerData` makes. -/
def generateCompletePointerData : Option (PointerDataConverter Coord Detail) :=
  converter.addData data false

/-- Add what `_synthesizePointerData` makes. -/
def synthesizePointerData : Option (PointerDataConverter Coord Detail) :=
  converter.addData { data with signalKind := some .none } true

/-- Synthesize an add unless the device was already added. -/
def synthesizeAdd (alreadyAdded : Bool) : Option (PointerDataConverter Coord Detail) :=
  if alreadyAdded then some converter
  else converter.synthesizePointerData { data with change := .add }

/-- Synthesize the positional data if the location has changed. -/
def synthesizeIfMoved [BEq Coord] : Option (PointerDataConverter Coord Detail) :=
  match converter.globalPointerState.pointers data.device with
  | none => none
  | some state =>
    if state.locationHasChanged data.physicalX data.physicalY then
      converter.synthesizePointerData data
    else some converter

end Results

/-! ## Changes -/

section Changes

variable [Zero Coord] [Sub Coord] [BEq Coord] (converter : PointerDataConverter Coord Detail)
  (data : PointerMetrics Coord Detail)

omit [Zero Coord] [Sub Coord] [BEq Coord] in
/-- `pointers.containsKey(device)`. -/
def alreadyAdded : Bool := (converter.globalPointerState.pointers data.device).isSome

omit [Zero Coord] [Sub Coord] [BEq Coord] in
/-- The state of the device is ensured. -/
def ensure : PointerDataConverter Coord Detail :=
  { converter with
    globalPointerState := converter.globalPointerState.ensurePointerDeviceState data.device
      data.physicalX data.physicalY }

omit [Zero Coord] [Sub Coord] [BEq Coord] in
/-- `activeButtons = buttons`. -/
def setActiveButtons : PointerDataConverter Coord Detail :=
  { converter with
    globalPointerState := { converter.globalPointerState with activeButtons := data.buttons } }

omit [Zero Coord] [Sub Coord] [BEq Coord] in
/-- `pointers.remove(device)`. -/
def removeDevice : PointerDataConverter Coord Detail :=
  { converter with
    globalPointerState := converter.globalPointerState.store data.device none }

omit [Zero Coord] [BEq Coord] in
def add : Option (PointerDataConverter Coord Detail) :=
  (converter.ensure data).generateCompletePointerData data

omit [Zero Coord] [BEq Coord] in
def hover : Option (PointerDataConverter Coord Detail) := do
  let added ← (converter.ensure data).synthesizeAdd data (converter.alreadyAdded data)
  let hovered ← added.generateCompletePointerData data
  return hovered.setActiveButtons data

def down : Option (PointerDataConverter Coord Detail) := do
  let state := converter.globalPointerState.ensured data.device data.physicalX data.physicalY
  let started := { converter with
    globalPointerState := converter.globalPointerState.startNewPointer data.device state }
  let added ← started.synthesizeAdd data (converter.alreadyAdded data)
  let hovered ← added.synthesizeIfMoved { data with change := .hover, buttons := 0, pressure := 0 }
  let downed ← hovered.generateCompletePointerData data
  return downed.setActiveButtons data

omit [Zero Coord] [BEq Coord] in
def move : Option (PointerDataConverter Coord Detail) := do
  let moved ← converter.generateCompletePointerData data
  return moved.setActiveButtons data

omit [BEq Coord] in
/-- The device of a touch is removed when the gesture is over. -/
def removeTouch : Option (PointerDataConverter Coord Detail) :=
  if data.kind = .touch then do
    let removed ← converter.synthesizePointerData
      { data with change := .remove, buttons := 0, pressure := 0 }
    return removed.removeDevice data
  else some converter

omit [Zero Coord] [Sub Coord] [BEq Coord] in
/-- A cancel is where the pointer is, whatever its coordinates. -/
def located (state : PointerDeviceState Coord) : PointerMetrics Coord Detail :=
  if data.change = .cancel then { data with physicalX := state.x, physicalY := state.y } else data

/-- The end of a gesture where these data are. -/
def release : Option (PointerDataConverter Coord Detail) := do
  let moved ← converter.synthesizeIfMoved
    { data with change := .move, buttons := converter.globalPointerState.activeButtons }
  let released ← moved.generateCompletePointerData data
  released.removeTouch data

/-- `up` and `cancel`. -/
def upOrCancel : Option (PointerDataConverter Coord Detail) := do
  let state ← converter.globalPointerState.pointers data.device
  converter.release (located data state)

omit [Zero Coord] [BEq Coord] in
def remove : Option (PointerDataConverter Coord Detail) := do
  let state ← converter.globalPointerState.pointers data.device
  let removed ← converter.generateCompletePointerData
    { data with physicalX := state.x, physicalY := state.y }
  return removed.removeDevice data

omit [Zero Coord] in
/-- `scroll`, `scrollInertiaCancel` and `scale`. -/
def signal : Option (PointerDataConverter Coord Detail) := do
  let isDown := data.buttons ≠ 0
  let added ← (converter.ensure data).synthesizeAdd data (converter.alreadyAdded data)
  let moved ← added.synthesizeIfMoved
    { data with change := if isDown then .move else .hover }
  moved.generateCompletePointerData data

/-- The changes of what is no signal. -/
def convertChange : Option (PointerDataConverter Coord Detail) :=
  match data.change with
  | .add => converter.add data
  | .hover => converter.hover data
  | .down => converter.down data
  | .move => converter.move data
  | .up | .cancel => converter.upOrCancel data
  | .remove => converter.remove data
  | .panZoomStart | .panZoomUpdate | .panZoomEnd => some converter

/-- `convert`. -/
def convert : Option (PointerDataConverter Coord Detail) :=
  match data.signalKind with
  | none | some .none => converter.convertChange data
  | some .scroll | some .scrollInertiaCancel | some .scale => converter.signal data
  | some .unknown => some converter

end Changes

end PointerDataConverter

end FlutterEngine.WebPointer
