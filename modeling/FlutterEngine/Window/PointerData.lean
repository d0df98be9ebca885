import Mathlib.Algebra.Group.Defs
import Mathlib.Logic.Function.Basic

/-!
# Converting pointer data

`PointerDataPacketConverter` of `pointer_data_packet_converter.cc`. Events keep the fields
that the converter reads or writes. A conversion has no result where one of the
`FML_DCHECK`s of the source fails.
-/

namespace FlutterEngine.Window

/-- `PointerData::Change`. -/
inductive Change where
  | kCancel
  | kAdd
  | kRemove
  | kHover
  | kDown
  | kMove
  | kUp
  | kPanZoomStart
  | kPanZoomUpdate
  | kPanZoomEnd
  /-- A value that is none of the enumerators. -/
  | undefined (value : Int)
deriving DecidableEq

/-- `PointerData::SignalKind`. -/
inductive SignalKind where
  | kNone
  | kScroll
  | kScrollInertiaCancel
  | kScale
  /-- A value that is none of the enumerators. -/
  | undefined (value : Int)
deriving DecidableEq

structure PointerData (Coord : Type) where
  change : Change
  signalKind : SignalKind := .kNone
  device : Int
  pointerIdentifier : Int := 0
  physicalX : Coord
  physicalY : Coord
  physicalDeltaX : Coord
  physicalDeltaY : Coord
  buttons : Int := 0
  synthesized : Int := 0
  panX : Coord
  panY : Coord
  panDeltaX : Coord
  panDeltaY : Coord
  scale : Coord
  rotation : Coord

structure PointerState (Coord : Type) where
  pointerIdentifier : Int
  isDown : Bool
  isPanZoomActive : Bool
  physicalX : Coord
  physicalY : Coord
  panX : Coord
  panY : Coord
  scale : Coord
  rotation : Coord
  buttons : Int

/-- `pointer` counts the pointers that went down; it does not overflow here. -/
@[ext] structure PointerDataPacketConverter (Coord : Type) where
  states : Int → Option (PointerState Coord) := fun _ => none
  pointer : Int := 0

variable {Coord : Type}

/-- The converter, the event and the local state after an update. -/
structure Updated (Coord : Type) where
  converter : PointerDataPacketConverter Coord
  data : PointerData Coord
  state : PointerState Coord

/-- The converter, the local state and the events pushed so far. -/
structure Pushed (Coord : Type) where
  converter : PointerDataPacketConverter Coord
  state : PointerState Coord
  events : List (PointerData Coord)

namespace PointerDataPacketConverter

variable [Zero Coord] [One Coord] [Sub Coord] [BEq Coord]
  (converter : PointerDataPacketConverter Coord) (data : PointerData Coord)
  (state : PointerState Coord)

omit [Zero Coord] [One Coord] [Sub Coord] [BEq Coord] in
/-- `states_[pointer_data.device] = state`. -/
def store : PointerDataPacketConverter Coord :=
  { converter with states := Function.update converter.states data.device (some state) }

omit [Zero Coord] [One Coord] [Sub Coord] [BEq Coord] in
/-- `states_.erase(pointer_data.device)`. -/
def erase : PointerDataPacketConverter Coord :=
  { converter with states := Function.update converter.states data.device none }

/-- `EnsurePointerState`. The fields that it leaves unset hold what `unset` holds. -/
def ensurePointerState (unset : PointerState Coord) : PointerState Coord :=
  { unset with
    pointerIdentifier := 0
    isDown := false
    isPanZoomActive := false
    physicalX := data.physicalX
    physicalY := data.physicalY
    panX := 0
    panY := 0 }

def updateDeltaAndState : Updated Coord :=
  let data := { data with
    physicalDeltaX := data.physicalX - state.physicalX
    physicalDeltaY := data.physicalY - state.physicalY
    panDeltaX := data.panX - state.panX
    panDeltaY := data.panY - state.panY }
  let state := { state with
    physicalX := data.physicalX
    physicalY := data.physicalY
    panX := data.panX
    panY := data.panY
    scale := data.scale
    rotation := data.rotation }
  ⟨converter.store data state, data, state⟩

def locationNeedsUpdate : Bool :=
  state.physicalX != data.physicalX || state.physicalY != data.physicalY

def updatePointerIdentifier (startNewPointer : Bool) : Updated Coord :=
  if startNewPointer then
    let pointer := converter.pointer + 1
    let state := { state with pointerIdentifier := pointer }
    ⟨store { converter with pointer } data state,
      { data with pointerIdentifier := state.pointerIdentifier }, state⟩
  else ⟨converter, { data with pointerIdentifier := state.pointerIdentifier }, state⟩

/-- The state of the device. An add event is synthesized if it was not previously added. -/
def findOrAdd (unset : PointerState Coord) : Pushed Coord :=
  match converter.states data.device with
  | some state => ⟨converter, state, []⟩
  | none =>
    let synthesizedAddEvent := { data with
      signalKind := .kNone
      change := .kAdd
      synthesized := 1
      buttons := 0 }
    let state := ensurePointerState synthesizedAddEvent unset
    ⟨converter.store data state, state, [synthesizedAddEvent]⟩

/-- Push the positional event, updated, if the location does not match. -/
def synthesizeIfMoved (positional : PointerData Coord) : Pushed Coord :=
  if locationNeedsUpdate data state then
    let updated := converter.updateDeltaAndState positional state
    ⟨updated.converter, updated.state, [updated.data]⟩
  else ⟨converter, state, []⟩

/-! ## Changes -/

/-- `kCancel`. The cancel of a pointer that was not added is dropped. -/
def cancel : Option (PointerDataPacketConverter Coord × List (PointerData Coord)) :=
  match converter.states data.device with
  | none => some (converter, [])
  | some state =>
    if !state.isDown then none
    else
      let data := (converter.updatePointerIdentifier data state false).data
      let moved := converter.synthesizeIfMoved data state
        { data with change := .kMove, synthesized := 1 }
      let state := { moved.state with isDown := false }
      some (moved.converter.store data state, moved.events ++ [data])

/-- `kAdd`. -/
def add (unset : PointerState Coord) :
    Option (PointerDataPacketConverter Coord × List (PointerData Coord)) :=
  if (converter.states data.device).isSome then none
  else some (converter.store data (ensurePointerState data unset), [data])

/-- `kRemove`. -/
def remove : Option (PointerDataPacketConverter Coord × List (PointerData Coord)) :=
  match converter.states data.device with
  | none => none
  | some state =>
    let cancelled : Pushed Coord :=
      if state.isDown then
        let synthesizedCancelEvent := { data with change := .kCancel, synthesized := 1 }
        let updated := converter.updatePointerIdentifier synthesizedCancelEvent state false
        let state := { state with isDown := false }
        ⟨updated.converter.store data state, state, [updated.data]⟩
      else ⟨converter, state, []⟩
    let hovered := cancelled.converter.synthesizeIfMoved data cancelled.state
      { data with change := .kHover, synthesized := 1 }
    some (hovered.converter.erase data, cancelled.events ++ hovered.events ++ [data])

/-- `kHover`. -/
def hover (unset : PointerState Coord) :
    Option (PointerDataPacketConverter Coord × List (PointerData Coord)) :=
  let found := converter.findOrAdd data unset
  if found.state.isDown then none
  else
    let state := { found.state with buttons := data.buttons }
    let hovered := found.converter.synthesizeIfMoved data state data
    some (hovered.converter, found.events ++ hovered.events)

/-- `kDown`. -/
def down (unset : PointerState Coord) :
    Option (PointerDataPacketConverter Coord × List (PointerData Coord)) :=
  let found := converter.findOrAdd data unset
  if found.state.isDown then none
  else
    let hovered := found.converter.synthesizeIfMoved data found.state
      { data with change := .kHover, synthesized := 1, buttons := 0 }
    let updated := hovered.converter.updatePointerIdentifier data hovered.state true
    let state := { updated.state with isDown := true, buttons := data.buttons }
    some (updated.converter.store data state, found.events ++ hovered.events ++ [updated.data])

/-- `kMove`. The buttons that the source sets afterwards are those of a copy. -/
def move : Option (PointerDataPacketConverter Coord × List (PointerData Coord)) :=
  match converter.states data.device with
  | none => none
  | some state =>
    if !state.isDown then none
    else
      let data := (converter.updatePointerIdentifier data state false).data
      let updated := converter.updateDeltaAndState data state
      some (updated.converter, [updated.data])

/-- `kUp`. -/
def up : Option (PointerDataPacketConverter Coord × List (PointerData Coord)) :=
  match converter.states data.device with
  | none => none
  | some state =>
    if !state.isDown then none
    else
      let data := (converter.updatePointerIdentifier data state false).data
      let moved := converter.synthesizeIfMoved data state
        { data with change := .kMove, buttons := state.buttons, synthesized := 1 }
      let state := { moved.state with isDown := false, buttons := data.buttons }
      some (moved.converter.store data state, moved.events ++ [data])

/-- `kPanZoomStart`. -/
def panZoomStart (unset : PointerState Coord) :
    Option (PointerDataPacketConverter Coord × List (PointerData Coord)) :=
  let found := converter.findOrAdd data unset
  if found.state.isDown then none
  else if found.state.isPanZoomActive then none
  else
    let hovered := found.converter.synthesizeIfMoved data found.state
      { data with change := .kHover, synthesized := 1, buttons := 0 }
    let updated := hovered.converter.updatePointerIdentifier data hovered.state true
    let state := { updated.state with
      isPanZoomActive := true
      panX := 0
      panY := 0
      scale := 1
      rotation := 0 }
    some (updated.converter.store data state, found.events ++ hovered.events ++ [updated.data])

/-- `kPanZoomUpdate`. -/
def panZoomUpdate : Option (PointerDataPacketConverter Coord × List (PointerData Coord)) :=
  match converter.states data.device with
  | none => none
  | some state =>
    if state.isDown then none
    else if !state.isPanZoomActive then none
    else
      let data := (converter.updatePointerIdentifier data state false).data
      let updated := converter.updateDeltaAndState data state
      some (updated.converter, [updated.data])

/-- `kPanZoomEnd`. -/
def panZoomEnd : Option (PointerDataPacketConverter Coord × List (PointerData Coord)) :=
  match converter.states data.device with
  | none => none
  | some state =>
    if !state.isPanZoomActive then none
    else
      let data := (converter.updatePointerIdentifier data state false).data
      let moved := converter.synthesizeIfMoved data state
        { data with
          change := .kPanZoomUpdate
          panX := state.panX
          panY := state.panY
          panDeltaX := 0
          panDeltaY := 0
          scale := state.scale
          rotation := state.rotation
          synthesized := 1 }
      let state := { moved.state with isPanZoomActive := false }
      some (moved.converter.store data state, moved.events ++ [data])

/-- `kScroll`, `kScrollInertiaCancel` and `kScale`. -/
def signal (unset : PointerState Coord) :
    Option (PointerDataPacketConverter Coord × List (PointerData Coord)) :=
  let found := converter.findOrAdd data unset
  let synthesized :=
    if found.state.isDown then
      { data with
        signalKind := .kNone
        change := .kMove
        buttons := found.state.buttons
        synthesized := 1 }
    else
      { data with
        signalKind := .kNone
        change := .kHover
        buttons := 0
        synthesized := 1 }
  let moved := found.converter.synthesizeIfMoved data found.state synthesized
  some (moved.converter, found.events ++ moved.events ++ [data])

/-! ## Packets -/

/-- `ConvertPointerData`, with the events that it pushes. -/
def convertPointerData (unset : PointerState Coord) :
    Option (PointerDataPacketConverter Coord × List (PointerData Coord)) :=
  match data.signalKind with
  | .kNone =>
    match data.change with
    | .kCancel => converter.cancel data
    | .kAdd => converter.add data unset
    | .kRemove => converter.remove data
    | .kHover => converter.hover data unset
    | .kDown => converter.down data unset
    | .kMove => converter.move data
    | .kUp => converter.up data
    | .kPanZoomStart => converter.panZoomStart data unset
    | .kPanZoomUpdate => converter.panZoomUpdate data
    | .kPanZoomEnd => converter.panZoomEnd data
    | .undefined _ => some (converter, [data])
  | .kScroll | .kScrollInertiaCancel | .kScale => converter.signal data unset
  | .undefined _ => some (converter, [])

/-- `Convert`. -/
def convert (unset : PointerState Coord) : PointerDataPacketConverter Coord →
    List (PointerData Coord) → Option (PointerDataPacketConverter Coord × List (PointerData Coord))
  | converter, [] => some (converter, [])
  | converter, data :: packet =>
    (converter.convertPointerData data unset).bind fun converted =>
      (convert unset converted.1 packet).map fun rest => (rest.1, converted.2 ++ rest.2)

end PointerDataPacketConverter

end FlutterEngine.Window
