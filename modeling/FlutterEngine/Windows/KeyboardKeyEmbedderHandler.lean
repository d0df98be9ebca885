import Mathlib.Logic.Function.Basic
import FlutterEngine.Windows.KeyMap

/-!
# Key messages

`KeyboardKeyEmbedderHandler` of `keyboard_key_embedder_handler.cc`. A message comes with the
answers `GetKeyState` gives while it is handled: each of the three synchronizations asks once
for each key. Timestamps and the answers of the framework are left out.
-/

namespace FlutterEngine.Windows

inductive FlutterKeyEventType where
  | up
  | down
  | repeat
deriving DecidableEq, Repr

/-- `character` is its bytes, without the terminating null. -/
structure FlutterKeyEvent where
  type : FlutterKeyEventType
  physical : UInt64
  logical : UInt64
  character : List UInt8
  synthesized : Bool
deriving DecidableEq, Repr

def FlutterKeyEvent.empty : FlutterKeyEvent := ⟨.down, 0, 0, [], false⟩

def FlutterKeyEvent.isEmpty (event : FlutterKeyEvent) : Bool :=
  event.physical == 0 && event.logical == 0

inductive Action where
  | keyDown
  | keyUp
  | sysKeyDown
  | sysKeyUp
deriving DecidableEq, Repr

structure KeyMessage where
  key : Int32
  scancode : Int32
  action : Action
  character : UInt32
  extended : Bool
  wasDown : Bool
  /-- What `GetKeyState` answers to `SynchronizeCriticalToggledStates`. -/
  toggledStates : UInt32 → Int16
  /-- What it answers before the main event, and what it answers after it. -/
  pressedStates : UInt32 → Int16
  laterStates : UInt32 → Int16

/-- The logical key of a record or of a critical key. Where the source has 0 there is none. -/
abbrev LogicalKey : Type := {key : UInt64 // key ≠ 0}

structure CriticalKey where
  physicalKey : UInt64
  logicalKey : LogicalKey
  checkPressed : Bool
  checkToggled : Bool
  toggledOn : Bool
deriving DecidableEq, Repr

/-- `sent` records the calls of `perform_send_event_`; `criticalKeys` is ordered by virtual
key. -/
structure KeyboardKeyEmbedderHandler where
  pressingRecords : UInt64 → Option LogicalKey := fun _ => none
  criticalKeys : List (UInt32 × CriticalKey)
  sentAnyEvents : Bool := false
  sent : List FlutterKeyEvent := []

/-! ## Characters and keys -/

def kDeadKeyCharMask : UInt32 := 0x80000000

def undeadChar (ch : UInt32) : UInt32 := ch &&& ~~~kDeadKeyCharMask

/-- `_GetBit`, the bits from `start`, excluded, to `stop`. -/
def getBit (ch start stop : UInt32) : UInt8 :=
  ((ch >>> stop) &&& ((1 <<< (start - stop)) - 1)).toUInt8

def convertChar32ToUtf8 (ch : UInt32) : List UInt8 :=
  if ch ≤ 0x007F then [ch.toUInt8]
  else if ch ≤ 0x07FF then [0b11000000 + getBit ch 11 6, 0b10000000 + getBit ch 6 0]
  else if ch ≤ 0xFFFF then
    [0b11100000 + getBit ch 16 12, 0b10000000 + getBit ch 12 6, 0b10000000 + getBit ch 6 0]
  else
    [0b11110000 + getBit ch 21 18, 0b10000000 + getBit ch 18 12, 0b10000000 + getBit ch 12 6,
      0b10000000 + getBit ch 6 0]

/-- `ConvertUtf32ToUtf8_`. -/
def convertUtf32ToUtf8 (ch : UInt32) : List UInt8 :=
  if ch = 0 then [] else convertChar32ToUtf8 ch

/-- An `int` where a `uint64_t` is expected. -/
def ofInt (int : Int32) : UInt64 := int.toInt64.toUInt64

def VK_PROCESSKEY : Int32 := 0xE5

def isEasciiPrintable (codeUnit : Int32) : Bool :=
  (codeUnit ≤ 0x7f && codeUnit ≥ 0x20) || (codeUnit ≤ 0xff && codeUnit ≥ 0x80)

def toLower (n : UInt64) : UInt64 :=
  if 0x41 ≤ n ∧ n ≤ 0x5a then n - 0x41 + 0x61
  else if 0xc0 ≤ n ∧ n ≤ 0xde ∧ n ≠ 0xf7 then n - 0xc0 + 0xe0
  else n

def normalizeScancode (windowsScanCode : Int32) (extended : Bool) : UInt64 :=
  ofInt ((windowsScanCode &&& 0xff) ||| if extended then 0xe000 else 0)

def applyPlaneToId (id plane : UInt64) : UInt64 := (id &&& valueMask) ||| plane

def getPhysicalKey (scancode : Int32) (extended : Bool) : UInt64 :=
  match windowsToPhysicalMap.lookup (normalizeScancode scancode extended) with
  | some physicalKey => physicalKey
  | none => applyPlaneToId (ofInt scancode) windowsPlane

def getLogicalKey (key : Int32) (extended : Bool) (scancode : Int32) : UInt64 :=
  if key = VK_PROCESSKEY then ofInt VK_PROCESSKEY
  else
    match scanCodeToLogicalMap.lookup (normalizeScancode scancode extended) with
    | some logicalKey => logicalKey
    | none =>
      match windowsToLogicalMap.lookup (ofInt key) with
      | some logicalKey => logicalKey
      | none =>
        if isEasciiPrintable key then applyPlaneToId (toLower (ofInt key)) unicodePlane
        else applyPlaneToId (toLower (ofInt key)) windowsPlane

theorem lookup_ne_zero {map : List (UInt64 × UInt64)}
    (values : (map.all fun entry => entry.2 != 0) = true) {key value : UInt64}
    (found : map.lookup key = some value) : value ≠ 0 := by
  obtain ⟨before, after, rfl, -⟩ := List.lookup_eq_some_iff.mp found
  refine bne_iff_ne.mp (List.all_eq_true.mp values (key, value) ?_)
  exact List.mem_append_right before List.mem_cons_self

theorem applyPlaneToId_windowsPlane_ne_zero (id : UInt64) : applyPlaneToId id windowsPlane ≠ 0 := by
  intro zero
  exact absurd (UInt64.or_eq_zero_iff.mp zero).2 (by decide)

theorem applyPlaneToId_unicodePlane_ne_zero {key : Int32} (printable : isEasciiPrintable key) :
    applyPlaneToId (toLower (ofInt key)) unicodePlane ≠ 0 := by
  have bytes : ∀ byte : Nat, byte < 256 → 0x20 ≤ byte →
      applyPlaneToId (toLower (ofInt (Int32.ofInt byte))) unicodePlane ≠ 0 := by
    decide +kernel
  simp only [isEasciiPrintable, Bool.or_eq_true, Bool.and_eq_true, decide_eq_true_eq, ge_iff_le,
    Int32.le_iff_toInt_le] at printable
  change (key.toInt ≤ 127 ∧ 32 ≤ key.toInt) ∨ (key.toInt ≤ 255 ∧ 128 ≤ key.toInt) at printable
  have key_eq : key = Int32.ofInt (key.toInt.toNat : Int) := by
    rw [Int.toNat_of_nonneg (by omega), Int32.ofInt_toInt]
  rw [key_eq]
  exact bytes key.toInt.toNat (by omega) (by omega)

theorem getLogicalKey_ne_zero (key : Int32) (extended : Bool) (scancode : Int32) :
    getLogicalKey key extended scancode ≠ 0 := by
  unfold getLogicalKey
  split
  · decide
  · split
    · next found => exact lookup_ne_zero (by decide +kernel) found
    · split
      · next found => exact lookup_ne_zero (by decide +kernel) found
      · split
        · next printable => exact applyPlaneToId_unicodePlane_ne_zero printable
        · exact applyPlaneToId_windowsPlane_ne_zero _

def Action.isDown : Action → Bool
  | .keyDown | .sysKeyDown => true
  | .keyUp | .sysKeyUp => false

namespace KeyMessage

variable (message : KeyMessage)

def physicalKey : UInt64 := getPhysicalKey message.scancode message.extended

def logicalKey : LogicalKey :=
  ⟨getLogicalKey message.key message.extended message.scancode, getLogicalKey_ne_zero _ _ _⟩

end KeyMessage

namespace KeyboardKeyEmbedderHandler

variable (handler : KeyboardKeyEmbedderHandler)

/-! ## Creation -/

/-- The virtual keys that `InitCriticalKeys` checks, with `extended` and `check_toggled`, in the
order of the map; all have `check_pressed`. -/
def checkedKeys : List (UInt32 × Bool × Bool) :=
  [(0x14, false, true), (0x5B, true, false), (0x5C, true, false), (0x90, true, true),
    (0x91, false, true), (0xA0, false, false), (0xA1, false, false), (0xA2, false, false),
    (0xA3, true, false), (0xA4, false, false), (0xA5, true, false)]

def kStateMaskToggled : Int16 := 0x01

def kStateMaskPressed : Int16 := 0x80

def createCheckedKey (mapVirtualKeyToScanCode : UInt32 → Bool → Int16)
    (getKeyState : UInt32 → Int16) (virtualKey : UInt32)
    (extended checkPressed checkToggled : Bool) : CriticalKey :=
  let scanCode := (mapVirtualKeyToScanCode virtualKey extended).toInt32
  { physicalKey := getPhysicalKey scanCode extended
    logicalKey := ⟨getLogicalKey virtualKey.toInt32 extended scanCode, getLogicalKey_ne_zero _ _ _⟩
    checkPressed := checkPressed || checkToggled
    checkToggled
    toggledOn := checkToggled && getKeyState virtualKey &&& kStateMaskToggled != 0 }

/-- The constructor, with `InitCriticalKeys`. -/
def create (mapVirtualKeyToScanCode : UInt32 → Bool → Int16) (getKeyState : UInt32 → Int16) :
    KeyboardKeyEmbedderHandler where
  criticalKeys := checkedKeys.map fun (virtualKey, extended, checkToggled) =>
    (virtualKey, createCheckedKey mapVirtualKeyToScanCode getKeyState virtualKey extended true
      checkToggled)

/-! ## Key messages -/

def sendEvent (event : FlutterKeyEvent) : KeyboardKeyEmbedderHandler :=
  { handler with sentAnyEvents := true, sent := handler.sent ++ [event] }

def synthesizeSimpleEvent (type : FlutterKeyEventType) (physical logical : UInt64)
    (character : List UInt8) : FlutterKeyEvent :=
  { type, physical, logical, character, synthesized := true }

/-- Assign to an entry of `pressingRecords_`, or erase it. -/
def record (physical : UInt64) (logical : Option LogicalKey) : KeyboardKeyEmbedderHandler :=
  { handler with pressingRecords := Function.update handler.pressingRecords physical logical }

/-- Assign to the entry of a critical key, if it is one. -/
def setCriticalKey (virtualKey : UInt32) (set : CriticalKey → CriticalKey) :
    KeyboardKeyEmbedderHandler :=
  { handler with
    criticalKeys := handler.criticalKeys.map fun entry =>
      (entry.1, if entry.1 = virtualKey then set entry.2 else entry.2) }

def updateLastSeenCriticalKey (virtualKey : Int32) (physicalKey : UInt64)
    (logicalKey : LogicalKey) : KeyboardKeyEmbedderHandler :=
  handler.setCriticalKey virtualKey.toUInt32 fun keyInfo => { keyInfo with physicalKey, logicalKey }

def setToggledOn (virtualKey : UInt32) (toggledOn : Bool) : KeyboardKeyEmbedderHandler :=
  handler.setCriticalKey virtualKey fun keyInfo => { keyInfo with toggledOn }

/-- `pre_event_toggled`. -/
def preEventToggled (message : KeyMessage) (virtualKey : UInt32) (keyInfo : CriticalKey) : Bool :=
  let targetIsPressed := (handler.pressingRecords keyInfo.physicalKey).isSome
  let trueToggled := message.toggledStates virtualKey &&& kStateMaskToggled != 0
  if virtualKey = message.key.toUInt32 && !targetIsPressed && message.action.isDown then
    !trueToggled
  else trueToggled

/-- The synchronization of a critical key whose toggled state has changed: release it if it is
pressed, then press it. -/
def retap (keyInfo : CriticalKey) : KeyboardKeyEmbedderHandler :=
  let released :=
    if (handler.pressingRecords keyInfo.physicalKey).isSome then
      handler.sendEvent
        (synthesizeSimpleEvent .up keyInfo.physicalKey keyInfo.logicalKey [])
    else handler
  (released.record keyInfo.physicalKey (some keyInfo.logicalKey)).sendEvent
    (synthesizeSimpleEvent .down keyInfo.physicalKey keyInfo.logicalKey [])

/-- An iteration of `SynchronizeCriticalToggledStates`, with `event_key_can_be_repeat`. -/
def synchronizeToggledState (message : KeyMessage) (state : KeyboardKeyEmbedderHandler × Bool)
    (entry : UInt32 × CriticalKey) : KeyboardKeyEmbedderHandler × Bool :=
  let (handler, eventKeyCanBeRepeat) := state
  let (virtualKey, keyInfo) := entry
  if keyInfo.physicalKey = 0 || !keyInfo.checkToggled then state
  else
    let trueToggled := message.toggledStates virtualKey &&& kStateMaskToggled != 0
    if keyInfo.toggledOn ≠ handler.preEventToggled message virtualKey keyInfo then
      ((handler.retap keyInfo).setToggledOn virtualKey trueToggled, false)
    else (handler.setToggledOn virtualKey trueToggled, eventKeyCanBeRepeat)

def synchronizeCriticalToggledStates (message : KeyMessage) : KeyboardKeyEmbedderHandler × Bool :=
  handler.criticalKeys.foldl (synchronizeToggledState message) (handler, true)

/-- `pre_event_pressed`, none where the loop continues with the next key. -/
def preEventPressed (message : KeyMessage) (eventKeyCanBeRepeat : Bool)
    (getKeyState : UInt32 → Int16) (virtualKey : UInt32) (keyInfo : CriticalKey) : Option Bool :=
  let truePressed := getKeyState virtualKey &&& kStateMaskPressed != 0
  -- `event_physical_key` is an `int`.
  let eventPhysicalKey := ofInt message.physicalKey.toUInt32.toInt32
  if message.action.isDown then
    if virtualKey = message.key.toUInt32 then
      if eventKeyCanBeRepeat then none else some false
    else some truePressed
  else if eventPhysicalKey = keyInfo.physicalKey then none
  else some truePressed

/-- An iteration of `SynchronizeCriticalPressedStates`. -/
def synchronizePressedState (message : KeyMessage) (eventKeyCanBeRepeat : Bool)
    (getKeyState : UInt32 → Int16) (handler : KeyboardKeyEmbedderHandler)
    (entry : UInt32 × CriticalKey) : KeyboardKeyEmbedderHandler :=
  let (virtualKey, keyInfo) := entry
  if keyInfo.physicalKey = 0 || !keyInfo.checkPressed then handler
  else
    match preEventPressed message eventKeyCanBeRepeat getKeyState virtualKey keyInfo,
      (handler.pressingRecords keyInfo.physicalKey).isSome with
    | some false, true =>
      (handler.record keyInfo.physicalKey none).sendEvent
        (synthesizeSimpleEvent .up keyInfo.physicalKey keyInfo.logicalKey [])
    | some true, false =>
      (handler.record keyInfo.physicalKey (some keyInfo.logicalKey)).sendEvent
        (synthesizeSimpleEvent .down keyInfo.physicalKey keyInfo.logicalKey [])
    | _, _ => handler

def synchronizeCriticalPressedStates (message : KeyMessage) (eventKeyCanBeRepeat : Bool)
    (getKeyState : UInt32 → Int16) : KeyboardKeyEmbedderHandler :=
  handler.criticalKeys.foldl
    (synchronizePressedState message eventKeyCanBeRepeat getKeyState) handler

/-- `sequence_logical_key`. -/
def sequenceLogicalKey (message : KeyMessage) : LogicalKey :=
  (handler.pressingRecords message.physicalKey).getD message.logicalKey

/-- The type, the character and the logical key of the main event, and
`eventual_logical_record`; none when the message is ignored. -/
def mainEvent (message : KeyMessage) :
    Option (FlutterKeyEventType × List UInt8 × LogicalKey × Option LogicalKey) :=
  let character := convertUtf32ToUtf8 (undeadChar message.character)
  match message.action.isDown, handler.pressingRecords message.physicalKey with
  | true, some lastLogicalRecord =>
    if message.wasDown then some (.repeat, character, lastLogicalRecord, some lastLogicalRecord)
    else none
  | true, none => some (.down, character, message.logicalKey, some message.logicalKey)
  | false, none => none
  | false, some lastLogicalRecord => some (.up, [], lastLogicalRecord, none)

/-- The main event, sent after its record has been written. -/
def sendMainEvent (message : KeyMessage) (type : FlutterKeyEventType) (character : List UInt8)
    (resultLogicalKey : LogicalKey) (eventualLogicalRecord : Option LogicalKey) :
    KeyboardKeyEmbedderHandler :=
  (handler.record message.physicalKey eventualLogicalRecord).sendEvent
    { type, physical := message.physicalKey, logical := resultLogicalKey, character,
      synthesized := false }

def keyboardHookImpl (message : KeyMessage) : KeyboardKeyEmbedderHandler :=
  if (handler.sequenceLogicalKey message).1 = ofInt VK_PROCESSKEY then handler
  else
    let (handler, eventKeyCanBeRepeat) :=
      (handler.updateLastSeenCriticalKey message.key message.physicalKey
        (handler.sequenceLogicalKey message)).synchronizeCriticalToggledStates message
    let handler :=
      handler.synchronizeCriticalPressedStates message eventKeyCanBeRepeat message.pressedStates
    match handler.mainEvent message with
    | none => handler
    | some (type, character, resultLogicalKey, eventualLogicalRecord) =>
      (handler.sendMainEvent message type character resultLogicalKey
        eventualLogicalRecord).synchronizeCriticalPressedStates message eventKeyCanBeRepeat
          message.laterStates

def keyboardHook (message : KeyMessage) : KeyboardKeyEmbedderHandler :=
  let handler := keyboardHookImpl { handler with sentAnyEvents := false } message
  if !handler.sentAnyEvents then handler.sendEvent .empty else handler

/-! ## Modifiers -/

def kShift : Int32 := (1 : Int32) <<< 0

def kControl : Int32 := (1 : Int32) <<< 3

def sendSynthesizeDownEvent (physical : UInt64) (logical : LogicalKey) :
    KeyboardKeyEmbedderHandler :=
  (handler.sendEvent (synthesizeSimpleEvent .down physical logical [])).record physical
    (some logical)

def sendSynthesizeUpEvent (physical : UInt64) (logical : LogicalKey) :
    KeyboardKeyEmbedderHandler :=
  (handler.sendEvent (synthesizeSimpleEvent .up physical logical [])).record physical none

/-- Release a key that is pressed. -/
def releaseKnown (physical : UInt64) : KeyboardKeyEmbedderHandler :=
  match handler.pressingRecords physical with
  | some knownLogical => handler.sendSynthesizeUpEvent physical knownLogical
  | none => handler

def synthesizeIfNeeded (physicalLeft physicalRight : UInt64) (logicalLeft : LogicalKey)
    (isPressed : Bool) : KeyboardKeyEmbedderHandler :=
  let alreadyPressed := (handler.pressingRecords physicalLeft).isSome ||
    (handler.pressingRecords physicalRight).isSome
  if isPressed && !alreadyPressed then handler.sendSynthesizeDownEvent physicalLeft logicalLeft
  else if !isPressed && alreadyPressed then
    (handler.releaseKnown physicalLeft).releaseKnown physicalRight
  else handler

theorem shiftLeft_ne_zero : (0x200000102 : UInt64) ≠ 0 := by decide

theorem controlLeft_ne_zero : (0x200000100 : UInt64) ≠ 0 := by decide

/-- The physical and logical keys of `SyncModifiersIfNeeded`, as the key map has them. -/
def physicalShiftLeft : UInt64 := 0x700e1
def physicalShiftRight : UInt64 := 0x700e5
def logicalShiftLeft : LogicalKey := ⟨0x200000102, shiftLeft_ne_zero⟩
def physicalControlLeft : UInt64 := 0x700e0
def physicalControlRight : UInt64 := 0x700e4
def logicalControlLeft : LogicalKey := ⟨0x200000100, controlLeft_ne_zero⟩

example : windowsToPhysicalMap.lookup 0x2a = some physicalShiftLeft ∧
    windowsToPhysicalMap.lookup 0x36 = some physicalShiftRight ∧
    windowsToLogicalMap.lookup 0xa0 = some logicalShiftLeft.1 ∧
    windowsToPhysicalMap.lookup 0x1d = some physicalControlLeft ∧
    windowsToPhysicalMap.lookup 0xe01d = some physicalControlRight ∧
    windowsToLogicalMap.lookup 0xa2 = some logicalControlLeft.1 := by decide +kernel

def syncModifiersIfNeeded (modifiersState : Int32) : KeyboardKeyEmbedderHandler :=
  (handler.synthesizeIfNeeded physicalShiftLeft physicalShiftRight logicalShiftLeft
      (modifiersState &&& kShift != 0)).synthesizeIfNeeded physicalControlLeft
    physicalControlRight logicalControlLeft (modifiersState &&& kControl != 0)

/-! ## Runs -/

inductive Call where
  | keyboardHook (message : KeyMessage)
  | syncModifiersIfNeeded (modifiersState : Int32)

def call : Call → KeyboardKeyEmbedderHandler
  | .keyboardHook message => handler.keyboardHook message
  | .syncModifiersIfNeeded modifiersState => handler.syncModifiersIfNeeded modifiersState

def run (calls : List Call) : KeyboardKeyEmbedderHandler := calls.foldl call handler

end KeyboardKeyEmbedderHandler

end FlutterEngine.Windows
