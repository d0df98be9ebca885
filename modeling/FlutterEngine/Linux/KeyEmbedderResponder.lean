import Mathlib.Data.List.AList
import FlutterEngine.Linux.KeyMapping
import FlutterEngine.Windows.KeyboardKeyEmbedderHandler

/-!
# Key events of GTK

`fl_key_embedder_responder.cc`. Where the source keeps 0 in a table or for want of a key there is
none, so a key that is tabled is never 0. A `g_return_if_fail` that fails is recorded and returns.
Timestamps and the answers of the framework are left out.
-/

namespace FlutterEngine.Linux

open FlutterEngine.Windows (FlutterKeyEventType FlutterKeyEvent LogicalKey toLower lookup_ne_zero)

abbrev PhysicalKey : Type := {key : UInt64 // key ≠ 0}

/-- `character` is what GDK and GLib make of the keyval as UTF-8, empty where they make nothing. -/
structure FlKeyEvent where
  isPress : Bool
  keycode : UInt16
  keyval : UInt32
  state : UInt32
  character : List UInt8

/-- A lock key has no secondary key. -/
structure FlKeyEmbedderCheckedKey where
  primaryPhysicalKey : PhysicalKey
  primaryLogicalKey : LogicalKey
  secondaryLogicalKey : Option LogicalKey
  isCapsLock : Bool

namespace FlKeyEmbedderCheckedKey

variable (checkedKey : FlKeyEmbedderCheckedKey)

def logicalKeys : List LogicalKey :=
  checkedKey.primaryLogicalKey :: checkedKey.secondaryLogicalKey.toList

end FlKeyEmbedderCheckedKey

def GDK_SHIFT_MASK : UInt32 := 0x1
def GDK_LOCK_MASK : UInt32 := 0x2
def GDK_CONTROL_MASK : UInt32 := 0x4
def GDK_MOD1_MASK : UInt32 := 0x8
def GDK_MOD2_MASK : UInt32 := 0x10
def GDK_META_MASK : UInt32 := 0x10000000

/-- `initialize_modifier_bit_to_checked_keys`. -/
def modifierBitToCheckedKeys : List (UInt32 × FlKeyEmbedderCheckedKey) :=
  [(GDK_SHIFT_MASK, ⟨⟨0x700e1, by decide⟩, ⟨0x200000102, by decide⟩,
      some ⟨0x200000103, by decide⟩, false⟩),
    (GDK_CONTROL_MASK, ⟨⟨0x700e0, by decide⟩, ⟨0x200000100, by decide⟩,
      some ⟨0x200000101, by decide⟩, false⟩),
    (GDK_MOD1_MASK, ⟨⟨0x700e2, by decide⟩, ⟨0x200000104, by decide⟩,
      some ⟨0x200000105, by decide⟩, false⟩),
    (GDK_META_MASK, ⟨⟨0x700e3, by decide⟩, ⟨0x200000106, by decide⟩,
      some ⟨0x200000107, by decide⟩, false⟩)]

/-- `initialize_lock_bit_to_checked_keys`. -/
def lockBitToCheckedKeys : List (UInt32 × FlKeyEmbedderCheckedKey) :=
  [(GDK_LOCK_MASK, ⟨⟨0x70039, by decide⟩, ⟨0x100000104, by decide⟩, none, true⟩),
    (GDK_MOD2_MASK, ⟨⟨0x70053, by decide⟩, ⟨0x10000010a, by decide⟩, none, false⟩)]

/-- The two tables, in the orders in which `g_hash_table_foreach` visits them. -/
structure CheckedKeys where
  modifiers : List (UInt32 × FlKeyEmbedderCheckedKey)
  locks : List (UInt32 × FlKeyEmbedderCheckedKey)
  modifiers_perm : modifiers.Perm modifierBitToCheckedKeys
  locks_perm : locks.Perm lockBitToCheckedKeys

/-! ## Tables of records -/

abbrev GHashTable (Key Value : Type) : Type := AList fun _ : Key => Value

/-- A key that has the value, if there is one. -/
def reverseLookupHashTable {Key Value : Type} [DecidableEq Value] (table : GHashTable Key Value)
    (value : Value) : Option Key :=
  (table.entries.find? fun entry => entry.2 = value).map Sigma.fst

theorem isSome_reverseLookupHashTable_iff {Key Value : Type} [DecidableEq Key]
    [DecidableEq Value] {table : GHashTable Key Value} {value : Value} :
    (reverseLookupHashTable table value).isSome ↔ ∃ key, table.lookup key = some value := by
  rw [reverseLookupHashTable, Option.isSome_map, List.find?_isSome]
  constructor
  · rintro ⟨⟨key, known⟩, mem, same⟩
    obtain rfl : known = value := of_decide_eq_true same
    exact ⟨key, AList.mem_lookup_iff.mpr mem⟩
  · intro ⟨key, found⟩
    exact ⟨⟨key, value⟩, AList.mem_lookup_iff.mp found, decide_eq_true rfl⟩

/-! ## Keys -/

def applyIdPlane (logicalId plane : UInt64) : UInt64 := (logicalId &&& kValueMask) ||| plane

theorem applyIdPlane_kGtkPlane_ne_zero (id : UInt64) : applyIdPlane id kGtkPlane ≠ 0 := by
  intro zero
  exact absurd (UInt64.or_eq_zero_iff.mp zero).2 (by decide)

namespace FlKeyEvent

variable (event : FlKeyEvent)

/-- `event_to_physical_key`. -/
def physicalKey : PhysicalKey :=
  match found : xkbToPhysicalKeyMap.lookup event.keycode.toUInt64 with
  | some physicalKey => ⟨physicalKey, lookup_ne_zero (by decide +kernel) found⟩
  | none =>
    ⟨applyIdPlane event.keycode.toUInt64 kGtkPlane, applyIdPlane_kGtkPlane_ne_zero _⟩

/-- `event_to_logical_key`. -/
def logicalKey : UInt64 :=
  match gtkKeyvalToLogicalKeyMap.lookup event.keyval.toUInt64 with
  | some logicalKey => logicalKey
  | none =>
    if event.keyval < 256 then applyIdPlane (toLower event.keyval.toUInt64) kUnicodePlane
    else applyIdPlane event.keyval.toUInt64 kGtkPlane

end FlKeyEvent

/-- `corrected_modifier_physical_key`. -/
def correctedModifierPhysicalKey (modifiers : List (UInt32 × FlKeyEmbedderCheckedKey))
    (physicalKeyFromEvent : PhysicalKey) (logicalKey : UInt64) : PhysicalKey :=
  if modifiers.any fun entry => entry.2.primaryPhysicalKey = physicalKeyFromEvent then
    modifiers.foldl (fun corrected entry =>
      if entry.2.logicalKeys.any fun known => known.1 = logicalKey then entry.2.primaryPhysicalKey
      else corrected) physicalKeyFromEvent
  else physicalKeyFromEvent

/-! ## The responder -/

inductive StateLogicInferrence where
  | undecided
  | normal
  | reversed
deriving DecidableEq, Repr

/-- The checks of `g_return_if_fail`. -/
inductive Check where
  | released
  | pressed
  | recordedPhysicalKey
  | pressedLogicalKey
  | capsLockStateLogic
  | destinationStage
deriving DecidableEq, Repr

/-- `sent` records the calls of `send_key_event`, `failed` the checks that have failed. -/
structure FlKeyEmbedderResponder where
  checkedKeys : CheckedKeys
  pressingRecords : GHashTable PhysicalKey LogicalKey := ∅
  lockRecords : UInt32 := 0
  mappingRecords : GHashTable UInt64 PhysicalKey := ∅
  capsLockStateLogicInferrence : StateLogicInferrence := .undecided
  sentAnyEvents : Bool := false
  sent : List FlutterKeyEvent := []
  failed : List Check := []

/-- What a loop body reads of the event. -/
structure SyncStateLoopContext where
  state : UInt32
  eventLogicalKey : UInt64
  isDown : Bool

namespace FlKeyEmbedderResponder

variable (responder : FlKeyEmbedderResponder)

def fail (check : Check) : FlKeyEmbedderResponder :=
  { responder with failed := responder.failed ++ [check] }

def sendKeyEvent (event : FlutterKeyEvent) : FlKeyEmbedderResponder :=
  { responder with sentAnyEvents := true, sent := responder.sent ++ [event] }

/-- The logical key a physical key is pressed with, 0 when it is not. -/
def pressedLogicalKey (physicalKey : PhysicalKey) : UInt64 :=
  (responder.pressingRecords.lookup physicalKey).elim 0 Subtype.val

def synthesizeSimpleEvent (type : FlutterKeyEventType) (physical : PhysicalKey)
    (logical : UInt64) : FlKeyEmbedderResponder :=
  responder.sendKeyEvent ⟨type, physical, logical, [], true⟩

def updatePressingState (physicalKey : PhysicalKey) (logicalKey : UInt64) :
    FlKeyEmbedderResponder :=
  if nonzero : logicalKey ≠ 0 then
    match responder.pressingRecords.lookup physicalKey with
    | some _ => responder.fail .released
    | none =>
      { responder with
        pressingRecords := responder.pressingRecords.insert physicalKey ⟨logicalKey, nonzero⟩ }
  else
    match responder.pressingRecords.lookup physicalKey with
    | none => responder.fail .pressed
    | some _ =>
      { responder with pressingRecords := responder.pressingRecords.erase physicalKey }

/-- `logical_key_to_lock_bit`, 0 for a key that is no lock key. -/
def logicalKeyToLockBit (logicalKey : UInt64) : UInt32 :=
  ((responder.checkedKeys.locks.map fun entry =>
    (entry.2.primaryLogicalKey.1, entry.1)).lookup logicalKey).getD 0

def possiblyUpdateLockBit (logicalKey : UInt64) (isDown : Bool) : FlKeyEmbedderResponder :=
  if isDown then
    { responder with
      lockRecords := responder.lockRecords ^^^ responder.logicalKeyToLockBit logicalKey }
  else responder

def updateMappingRecord (physicalKey : PhysicalKey) (logicalKey : UInt64) :
    FlKeyEmbedderResponder :=
  { responder with mappingRecords := responder.mappingRecords.insert logicalKey physicalKey }

/-- The physical key last seen for the primary key of a modifier or of a lock. -/
def recordedPrimaryKey (checkedKey : FlKeyEmbedderCheckedKey) : Option PhysicalKey :=
  responder.mappingRecords.lookup checkedKey.primaryLogicalKey.1

/-! ## Modifiers -/

/-- One key of the loop in `synchronize_pressed_states_loop_body`, with `any_pressed_by_record`;
none when the body has returned. -/
def synchronizeModifierKey (anyPressedByState : Bool)
    (looping : FlKeyEmbedderResponder × Option Bool) (logicalKey : LogicalKey) :
    FlKeyEmbedderResponder × Option Bool :=
  let (responder, anyPressedByRecord) := looping
  match anyPressedByRecord with
  | none => looping
  | some anyPressedByRecord =>
    let thisKeyPressed :=
      (reverseLookupHashTable responder.pressingRecords logicalKey).isSome
    if thisKeyPressed && !anyPressedByState then
      match responder.mappingRecords.lookup logicalKey.1 with
      | none => (responder.fail .recordedPhysicalKey, none)
      | some recordedPhysicalKey =>
        let recordedLogicalKey := responder.pressedLogicalKey recordedPhysicalKey
        ((responder.synthesizeSimpleEvent .up recordedPhysicalKey
          recordedLogicalKey).updatePressingState recordedPhysicalKey 0,
          some (anyPressedByRecord || thisKeyPressed))
    else (responder, some (anyPressedByRecord || thisKeyPressed))

/-- The primary key of a modifier goes down. -/
def pressPrimaryKey (checkedKey : FlKeyEmbedderCheckedKey) : FlKeyEmbedderResponder :=
  let logicalKey := checkedKey.primaryLogicalKey
  let recordedPhysicalKey := responder.recordedPrimaryKey checkedKey
  let physicalKey := recordedPhysicalKey.getD checkedKey.primaryPhysicalKey
  let recorded :=
    if recordedPhysicalKey.isNone then responder.updateMappingRecord physicalKey logicalKey
    else responder
  (recorded.synthesizeSimpleEvent .down physicalKey logicalKey).updatePressingState physicalKey
    logicalKey

/-- `synchronize_pressed_states_loop_body`. -/
def synchronizePressedStates (state : UInt32) (responder : FlKeyEmbedderResponder)
    (entry : UInt32 × FlKeyEmbedderCheckedKey) : FlKeyEmbedderResponder :=
  let (modifierBit, checkedKey) := entry
  let anyPressedByState := state &&& modifierBit != 0
  match checkedKey.logicalKeys.foldl (synchronizeModifierKey anyPressedByState)
      (responder, some false) with
  | (responder, none) => responder
  | (responder, some anyPressedByRecord) =>
    if anyPressedByState && !anyPressedByRecord then responder.pressPrimaryKey checkedKey
    else responder

/-! ## Locks -/

def findStageByRecord (isDown isEnabled : Bool) : Fin 4 :=
  match isDown, isEnabled with
  | false, false => 0
  | false, true => 2
  | true, false => 3
  | true, true => 1

def findStageBySelfEvent (stageByRecord : Fin 4) (isDownEvent isStateOn reverseStateLogic : Bool) :
    Fin 4 :=
  if !isStateOn then if reverseStateLogic then 2 else 0
  else if isDownEvent then if reverseStateLogic then 0 else 2
  else stageByRecord

def findStageByOthersEvent (stageByRecord : Fin 4) (isStateOn : Bool) : Fin 4 :=
  if !isStateOn then 0
  else if stageByRecord = 0 then 1
  else stageByRecord

def updateCapsLockStateLogicInferrence (isDownEvent enabledByState : Bool)
    (stageByRecord : Fin 4) : FlKeyEmbedderResponder :=
  if responder.capsLockStateLogicInferrence ≠ .undecided then responder
  else if !isDownEvent then responder
  else
    let stageByEvent := findStageBySelfEvent stageByRecord isDownEvent enabledByState false
    { responder with
      capsLockStateLogicInferrence :=
        if (stageByEvent = 0 ∧ stageByRecord = 2) ∨ (stageByEvent = 2 ∧ stageByRecord = 0) then
          .reversed
        else .normal }

/-- The logical key the lock key is pressed with: 0 also when no physical key is known for it. -/
def pressedLockKey (checkedKey : FlKeyEmbedderCheckedKey) : UInt64 :=
  (responder.recordedPrimaryKey checkedKey).elim 0 responder.pressedLogicalKey

def stageByRecord (modifierBit : UInt32) (checkedKey : FlKeyEmbedderCheckedKey) : Fin 4 :=
  findStageByRecord (responder.pressedLockKey checkedKey != 0)
    (responder.lockRecords &&& modifierBit != 0)

/-- The stage by the event, with the logic that is inferred by then. -/
def stageByEvent (context : SyncStateLoopContext) (modifierBit : UInt32)
    (checkedKey : FlKeyEmbedderCheckedKey) (stageByRecord : Fin 4) : Fin 4 :=
  let enabledByState := context.state &&& modifierBit != 0
  if checkedKey.primaryLogicalKey.1 = context.eventLogicalKey then
    findStageBySelfEvent stageByRecord context.isDown enabledByState
      (checkedKey.isCapsLock && responder.capsLockStateLogicInferrence = .reversed)
  else findStageByOthersEvent stageByRecord enabledByState

/-- The lock key goes from one stage to the next, down from the stages 0 and 2. -/
def leaveStage (recordedPhysicalKey : Option PhysicalKey) (checkedKey : FlKeyEmbedderCheckedKey)
    (currentStage : Nat) : FlKeyEmbedderResponder :=
  let logicalKey := checkedKey.primaryLogicalKey
  let physicalKey := recordedPhysicalKey.getD checkedKey.primaryPhysicalKey
  let isDownEvent : Bool := currentStage % 4 = 0 || currentStage % 4 = 2
  let recorded :=
    if isDownEvent && recordedPhysicalKey.isNone then
      responder.updateMappingRecord physicalKey logicalKey
    else responder
  ((recorded.updatePressingState physicalKey
      (if isDownEvent then logicalKey else 0)).possiblyUpdateLockBit logicalKey
    isDownEvent).synthesizeSimpleEvent (if isDownEvent then .down else .up) physicalKey logicalKey

/-- The loop over that many stages. -/
def leaveStages (recordedPhysicalKey : Option PhysicalKey) (checkedKey : FlKeyEmbedderCheckedKey) :
    FlKeyEmbedderResponder → Nat → Nat → FlKeyEmbedderResponder
  | responder, _, 0 => responder
  | responder, currentStage, stages + 1 =>
    if currentStage = 9 then responder
    else
      leaveStages recordedPhysicalKey checkedKey
        (responder.leaveStage recordedPhysicalKey checkedKey currentStage) (currentStage + 1)
        stages

/-- The end of `synchronize_lock_states_loop_body`, once the logic is inferred. -/
def reachStage (context : SyncStateLoopContext) (modifierBit : UInt32)
    (checkedKey : FlKeyEmbedderCheckedKey) (stageByRecord : Fin 4) : FlKeyEmbedderResponder :=
  let stageByEvent := responder.stageByEvent context modifierBit checkedKey stageByRecord
  let destinationStage : Nat :=
    if stageByRecord ≤ stageByEvent then stageByEvent else stageByEvent + 4
  if ¬ stageByRecord ≤ destinationStage then responder.fail .destinationStage
  else
    leaveStages (responder.recordedPrimaryKey checkedKey) checkedKey responder stageByRecord
      (destinationStage - stageByRecord)

/-- `synchronize_lock_states_loop_body`. -/
def synchronizeLockStates (context : SyncStateLoopContext) (responder : FlKeyEmbedderResponder)
    (entry : UInt32 × FlKeyEmbedderCheckedKey) : FlKeyEmbedderResponder :=
  let (modifierBit, checkedKey) := entry
  let pressed := responder.pressedLockKey checkedKey
  if ¬ (pressed = 0 ∨ pressed = checkedKey.primaryLogicalKey.1) then
    responder.fail .pressedLogicalKey
  else
    let stageByRecord := responder.stageByRecord modifierBit checkedKey
    if checkedKey.primaryLogicalKey.1 = context.eventLogicalKey ∧ checkedKey.isCapsLock then
      let inferred := responder.updateCapsLockStateLogicInferrence context.isDown
        (context.state &&& modifierBit != 0) stageByRecord
      if inferred.capsLockStateLogicInferrence = .undecided then inferred.fail .capsLockStateLogic
      else inferred.reachStage context modifierBit checkedKey stageByRecord
    else responder.reachStage context modifierBit checkedKey stageByRecord

/-! ## Events -/

/-- None for a release that is ignored. -/
def mainEventType (isDownEvent : Bool) (lastLogicalRecord : UInt64) :
    Option FlutterKeyEventType :=
  if isDownEvent then some (if lastLogicalRecord ≠ 0 then .repeat else .down)
  else if lastLogicalRecord = 0 then none
  else some .up

/-- The real event, after the states have been synchronized. -/
def sendMainEvent (event : FlKeyEvent) (physicalKey : PhysicalKey) (logicalKey : UInt64) :
    FlKeyEmbedderResponder :=
  let lastLogicalRecord := responder.pressedLogicalKey physicalKey
  match mainEventType event.isPress lastLogicalRecord with
  | none => responder
  | some type =>
    let updated :=
      if type ≠ .repeat then
        responder.updatePressingState physicalKey (if event.isPress then logicalKey else 0)
      else responder
    let locked := updated.possiblyUpdateLockBit logicalKey event.isPress
    let mapped :=
      if event.isPress then locked.updateMappingRecord physicalKey logicalKey else locked
    mapped.sendKeyEvent
      { type := type
        physical := physicalKey
        logical := if lastLogicalRecord ≠ 0 then lastLogicalRecord else logicalKey
        character := if event.isPress then event.character else []
        synthesized := false }

def eventLogicalKey (event : FlKeyEvent) (specifiedLogicalKey : UInt64) : UInt64 :=
  if specifiedLogicalKey ≠ 0 then specifiedLogicalKey else event.logicalKey

def handleEventImpl (event : FlKeyEvent) (specifiedLogicalKey : UInt64) :
    FlKeyEmbedderResponder :=
  let logicalKey := eventLogicalKey event specifiedLogicalKey
  let physicalKey := correctedModifierPhysicalKey responder.checkedKeys.modifiers
    event.physicalKey logicalKey
  let context := ⟨event.state, logicalKey, event.isPress⟩
  let locked := responder.checkedKeys.locks.foldl (synchronizeLockStates context) responder
  let pressed := locked.checkedKeys.modifiers.foldl (synchronizePressedStates event.state) locked
  pressed.sendMainEvent event physicalKey logicalKey

def handleEvent (event : FlKeyEvent) (specifiedLogicalKey : UInt64) : FlKeyEmbedderResponder :=
  let handled := handleEventImpl { responder with sentAnyEvents := false } event
    specifiedLogicalKey
  if !handled.sentAnyEvents then
    { handled with sent := handled.sent ++ [FlutterKeyEvent.empty] }
  else handled

def syncModifiersIfNeeded (state : UInt32) : FlKeyEmbedderResponder :=
  responder.checkedKeys.modifiers.foldl (synchronizePressedStates state) responder

inductive Call where
  | handleEvent (event : FlKeyEvent) (specifiedLogicalKey : UInt64)
  | syncModifiersIfNeeded (state : UInt32)

def call : FlKeyEmbedderResponder → Call → FlKeyEmbedderResponder
  | responder, .handleEvent event specifiedLogicalKey =>
    responder.handleEvent event specifiedLogicalKey
  | responder, .syncModifiersIfNeeded state => responder.syncModifiersIfNeeded state

def run (calls : List Call) : FlKeyEmbedderResponder := calls.foldl call responder

/-- `fl_key_embedder_responder_new`. -/
def new (checkedKeys : CheckedKeys) : FlKeyEmbedderResponder := { checkedKeys }

end FlKeyEmbedderResponder

end FlutterEngine.Linux
