import FlutterEngine.Linux.KeyEmbedderResponder
import FlutterEngine.Windows.TapSequences

/-!
# Tap sequences of GTK

The events of a physical key are taps and the records say which keys are down. A synchronization
takes the physical key of a modifier or of a lock from where its logical key was last seen, so
this holds exactly while that physical key is pressed or released as the synchronization expects;
where it is not, a check of `update_pressing_state` fails.
-/

namespace FlutterEngine.Linux

open FlutterEngine.Std
open FlutterEngine.Windows (FlutterKeyEventType FlutterKeyEvent LogicalKey IsTaps follow following
  following_concat following_eq_some_iff)

namespace FlKeyEmbedderResponder

variable (responder : FlKeyEmbedderResponder)

/-- The events of a physical key that are not empty. -/
def history (physical : UInt64) : List (FlutterKeyEventType × UInt64) :=
  (responder.sent.filter fun event => !event.isEmpty && event.physical == physical).map
    fun event => (event.type, event.logical)

/-- The record of a physical key. -/
def pressing (physical : UInt64) : Option UInt64 :=
  if nonzero : physical ≠ 0 then
    (responder.pressingRecords.lookup ⟨physical, nonzero⟩).map Subtype.val
  else none

/-- The events of each physical key are taps with logical keys, the records are the taps that are
open, and no check has failed. -/
structure IsOrderly : Prop where
  taps : ∀ physical, IsTaps (responder.history physical) (responder.pressing physical)
  nonzero : ∀ physical, ∀ event ∈ responder.history physical, event.2 ≠ 0
  unfailed : responder.failed = []

/-- Each logical key that is pressed has been seen on a physical key. -/
def IsMapped : Prop :=
  ∀ physicalKey logicalKey, responder.pressingRecords.lookup physicalKey = some logicalKey →
    (responder.mappingRecords.lookup logicalKey.1).isSome

def orderly : Stake FlKeyEmbedderResponder where
  Kept responder := responder.IsOrderly ∧ responder.IsMapped
  Lost responder := responder.failed ≠ []
  exclusive kept lost := lost kept.1.unfailed

theorem lost_iff {responder : FlKeyEmbedderResponder} :
    orderly.Lost responder ↔ responder.failed ≠ [] :=
  Iff.rfl

/-! ## The guards -/

/-- A key of a modifier that is pressed by the records only is to go up: the physical key it was
last seen on is pressed. -/
def ReleaseAgrees (anyPressedByState : Bool) (looping : FlKeyEmbedderResponder × Option Bool)
    (logicalKey : LogicalKey) : Prop :=
  anyPressedByState = false →
    (reverseLookupHashTable looping.1.pressingRecords logicalKey).isSome →
      ∀ physicalKey, looping.1.mappingRecords.lookup logicalKey.1 = some physicalKey →
        (looping.1.pressingRecords.lookup physicalKey).isSome

/-- A modifier that is pressed by the state only is to go down: the physical key its primary key
was last seen on is not pressed. -/
def PressAgrees (anyPressedByState : Bool) (checkedKey : FlKeyEmbedderCheckedKey) : Prop :=
  anyPressedByState = true →
    (∀ logicalKey ∈ checkedKey.logicalKeys,
      reverseLookupHashTable responder.pressingRecords logicalKey = none) →
      responder.pressingRecords.lookup
        ((responder.recordedPrimaryKey checkedKey).getD checkedKey.primaryPhysicalKey) = none

def ModifierAgrees (state : UInt32) (responder : FlKeyEmbedderResponder)
    (entry : UInt32 × FlKeyEmbedderCheckedKey) : Prop :=
  let anyPressedByState := state &&& entry.1 != 0
  MeetsGuards (ReleaseAgrees anyPressedByState) (synchronizeModifierKey anyPressedByState)
      (responder, some false) entry.2.logicalKeys ∧
    responder.PressAgrees anyPressedByState entry.2

/-- A lock key that was never seen is in the stage of the event, or its physical key is not
pressed. -/
def StageAgrees (context : SyncStateLoopContext) (modifierBit : UInt32)
    (checkedKey : FlKeyEmbedderCheckedKey) (stageByRecord : Fin 4) : Prop :=
  responder.recordedPrimaryKey checkedKey = none →
    responder.stageByEvent context modifierBit checkedKey stageByRecord ≠ stageByRecord →
      responder.pressingRecords.lookup checkedKey.primaryPhysicalKey = none

/-- The physical key a lock key was last seen on is not pressed with another logical key, and the
first event of CapsLock is a press. -/
def LockAgrees (context : SyncStateLoopContext) (responder : FlKeyEmbedderResponder)
    (entry : UInt32 × FlKeyEmbedderCheckedKey) : Prop :=
  let pressed := responder.pressedLockKey entry.2
  let stageByRecord := responder.stageByRecord entry.1 entry.2
  (pressed = 0 ∨ pressed = entry.2.primaryLogicalKey.1) ∧
    if entry.2.primaryLogicalKey.1 = context.eventLogicalKey ∧ entry.2.isCapsLock then
      (responder.capsLockStateLogicInferrence = .undecided → context.isDown = true) ∧
        (responder.updateCapsLockStateLogicInferrence context.isDown
          (context.state &&& entry.1 != 0) stageByRecord).StageAgrees context entry.1 entry.2
            stageByRecord
    else responder.StageAgrees context entry.1 entry.2 stageByRecord

/-- A key that goes down has a logical key. -/
def MainAgrees (event : FlKeyEvent) (physicalKey : PhysicalKey) (logicalKey : UInt64) : Prop :=
  event.isPress = true → responder.pressingRecords.lookup physicalKey = none → logicalKey ≠ 0

def ModifiersAgree (state : UInt32) : Prop :=
  MeetsGuards (ModifierAgrees state) (synchronizePressedStates state) responder
    responder.checkedKeys.modifiers

/-- The synchronizations and the main event, each in the state it begins with. -/
def EventAgrees (event : FlKeyEvent) (specifiedLogicalKey : UInt64) : Prop :=
  let logicalKey := eventLogicalKey event specifiedLogicalKey
  let physicalKey := correctedModifierPhysicalKey responder.checkedKeys.modifiers
    event.physicalKey logicalKey
  let context := ⟨event.state, logicalKey, event.isPress⟩
  let locked := responder.checkedKeys.locks.foldl (synchronizeLockStates context) responder
  let pressed := locked.checkedKeys.modifiers.foldl (synchronizePressedStates event.state) locked
  MeetsGuards (LockAgrees context) (synchronizeLockStates context) responder
      responder.checkedKeys.locks ∧
    locked.ModifiersAgree event.state ∧ pressed.MainAgrees event physicalKey logicalKey

def CallAgrees (responder : FlKeyEmbedderResponder) : Call → Prop
  | .handleEvent event specifiedLogicalKey =>
    EventAgrees { responder with sentAnyEvents := false } event specifiedLogicalKey
  | .syncModifiersIfNeeded state => responder.ModifiersAgree state

/-! ## One event -/

variable {responder} {next : FlKeyEmbedderResponder}

theorem pressing_val (physicalKey : PhysicalKey) :
    responder.pressing physicalKey = (responder.pressingRecords.lookup physicalKey).map
      Subtype.val :=
  dif_pos physicalKey.2

theorem pressedLogicalKey_of_some {physicalKey : PhysicalKey} {known : LogicalKey}
    (pressed : responder.pressingRecords.lookup physicalKey = some known) :
    responder.pressedLogicalKey physicalKey = known := by
  rw [pressedLogicalKey, pressed, Option.elim_some]

theorem pressedLogicalKey_of_none {physicalKey : PhysicalKey}
    (released : responder.pressingRecords.lookup physicalKey = none) :
    responder.pressedLogicalKey physicalKey = 0 := by
  rw [pressedLogicalKey, released, Option.elim_none]

/-- The record of one key is written. -/
theorem pressing_update {physicalKey : PhysicalKey} (pressed : Option LogicalKey)
    (lookup : next.pressingRecords.lookup physicalKey = pressed)
    (others : ∀ other, other ≠ physicalKey →
      next.pressingRecords.lookup other = responder.pressingRecords.lookup other) :
    next.pressing = Function.update responder.pressing physicalKey (pressed.map Subtype.val) := by
  funext physical
  by_cases same : physical = physicalKey
  · subst same
    rw [Function.update_self, pressing_val, lookup]
  · rw [Function.update_of_ne same]
    unfold pressing
    split
    · next nonzero => rw [others ⟨physical, nonzero⟩ fun equal => same (congrArg Subtype.val equal)]
    · rfl

theorem history_concat {event : FlutterKeyEvent} (sent : next.sent = responder.sent ++ [event])
    (nonzero : event.logical ≠ 0) (physical : UInt64) :
    next.history physical = responder.history physical ++
      if event.physical = physical then [(event.type, event.logical)] else [] := by
  have kept : event.isEmpty = false := by simp [FlutterKeyEvent.isEmpty, nonzero]
  unfold history
  rw [sent, List.filter_append, List.map_append]
  split
  · next same => simp [kept, same]
  · next other => simp [kept, other]

/-- One event is sent and the record of its key is written. -/
theorem kept_send {event : FlutterKeyEvent} (pressed : Option UInt64)
    (kept : responder.IsOrderly) (sent : next.sent = responder.sent ++ [event])
    (nonzero : event.logical ≠ 0) (failed : next.failed = responder.failed)
    (records : next.pressing = Function.update responder.pressing event.physical pressed)
    (follows : follow (responder.pressing event.physical) (event.type, event.logical) =
      some pressed) :
    next.IsOrderly := by
  refine ⟨fun physical => ?_, fun physical sends mem => ?_, failed.trans kept.unfailed⟩
  · rw [history_concat sent nonzero, records]
    by_cases same : event.physical = physical
    · subst same
      rw [if_pos rfl, Function.update_self, ← following_eq_some_iff, following_concat,
        following_eq_some_iff.mpr (kept.taps event.physical)]
      exact follows
    · rw [if_neg same, List.append_nil, Function.update_of_ne (Ne.symm same)]
      exact kept.taps physical
  · rw [history_concat sent nonzero, List.mem_append] at mem
    obtain old | new := mem
    · exact kept.nonzero physical sends old
    · split at new
      · rw [List.mem_singleton] at new
        exact new ▸ nonzero
      · cases new

/-! ## The check of `update_pressing_state` -/

section Fields

variable (responder : FlKeyEmbedderResponder) (event : FlutterKeyEvent)
  (physicalKey : PhysicalKey) (logicalKey : UInt64)

@[simp] theorem failed_possiblyUpdateLockBit (isDown : Bool) :
    (responder.possiblyUpdateLockBit logicalKey isDown).failed = responder.failed := by
  unfold possiblyUpdateLockBit
  split <;> rfl

@[simp] theorem sent_possiblyUpdateLockBit (isDown : Bool) :
    (responder.possiblyUpdateLockBit logicalKey isDown).sent = responder.sent := by
  unfold possiblyUpdateLockBit
  split <;> rfl

@[simp] theorem pressingRecords_possiblyUpdateLockBit (isDown : Bool) :
    (responder.possiblyUpdateLockBit logicalKey isDown).pressingRecords =
      responder.pressingRecords := by
  unfold possiblyUpdateLockBit
  split <;> rfl

@[simp] theorem mappingRecords_possiblyUpdateLockBit (isDown : Bool) :
    (responder.possiblyUpdateLockBit logicalKey isDown).mappingRecords =
      responder.mappingRecords := by
  unfold possiblyUpdateLockBit
  split <;> rfl

@[simp] theorem sent_updatePressingState :
    (responder.updatePressingState physicalKey logicalKey).sent = responder.sent := by
  unfold updatePressingState
  split <;> split <;> rfl

@[simp] theorem mappingRecords_updatePressingState :
    (responder.updatePressingState physicalKey logicalKey).mappingRecords =
      responder.mappingRecords := by
  unfold updatePressingState
  split <;> split <;> rfl

theorem updatePressingState_sendKeyEvent :
    (responder.sendKeyEvent event).updatePressingState physicalKey logicalKey =
      (responder.updatePressingState physicalKey logicalKey).sendKeyEvent event := by
  unfold updatePressingState
  split
  · cases found : responder.pressingRecords.lookup physicalKey <;> simp [sendKeyEvent, found, fail]
  · cases found : responder.pressingRecords.lookup physicalKey <;> simp [sendKeyEvent, found, fail]

theorem updatePressingState_updateMappingRecord (other : PhysicalKey) (logical : UInt64) :
    (responder.updateMappingRecord other logical).updatePressingState physicalKey logicalKey =
      (responder.updatePressingState physicalKey logicalKey).updateMappingRecord other logical := by
  unfold updatePressingState
  split
  · cases found : responder.pressingRecords.lookup physicalKey <;>
      simp [updateMappingRecord, found, fail]
  · cases found : responder.pressingRecords.lookup physicalKey <;>
      simp [updateMappingRecord, found, fail]

end Fields

theorem failed_fail (responder : FlKeyEmbedderResponder) (check : Check) :
    (responder.fail check).failed ≠ [] := by
  simp [fail]

theorem updatePressingState_down {physicalKey : PhysicalKey} {logicalKey : UInt64}
    (nonzero : logicalKey ≠ 0) (released : responder.pressingRecords.lookup physicalKey = none) :
    responder.updatePressingState physicalKey logicalKey =
      { responder with
        pressingRecords :=
          responder.pressingRecords.insert physicalKey ⟨logicalKey, nonzero⟩ } := by
  rw [updatePressingState, dif_pos nonzero, released]

theorem updatePressingState_up {physicalKey : PhysicalKey} {known : LogicalKey}
    (pressed : responder.pressingRecords.lookup physicalKey = some known) :
    responder.updatePressingState physicalKey 0 =
      { responder with pressingRecords := responder.pressingRecords.erase physicalKey } := by
  rw [updatePressingState, dif_neg (not_not_intro rfl), pressed]

theorem failed_updatePressingState {physicalKey : PhysicalKey} {logicalKey : UInt64}
    (unmet : ¬ ((responder.pressingRecords.lookup physicalKey).isSome ↔ logicalKey = 0)) :
    (responder.updatePressingState physicalKey logicalKey).failed ≠ [] := by
  unfold updatePressingState
  split
  · next nonzero =>
      split
      · exact failed_fail responder .released
      · next released =>
          refine absurd (iff_of_false ?_ nonzero) unmet
          rw [released]
          exact Bool.false_ne_true
  · next zero =>
      split
      · exact failed_fail responder .pressed
      · next pressed =>
          refine absurd (iff_of_true ?_ (not_not.mp zero)) unmet
          rw [pressed]
          rfl

theorem failed_updatePressingState_of_failed (failed : responder.failed ≠ [])
    (physicalKey : PhysicalKey) (logicalKey : UInt64) :
    (responder.updatePressingState physicalKey logicalKey).failed ≠ [] := by
  unfold updatePressingState
  split <;> split
  · exact failed_fail responder .released
  · exact failed
  · exact failed_fail responder .pressed
  · exact failed

variable (responder next) in
/-- An event is sent and the pressing state of its key is updated, in either order. -/
structure Updates (event : FlutterKeyEvent) (physicalKey : PhysicalKey) (logicalKey : UInt64) :
    Prop where
  physical : event.physical = physicalKey
  sent : next.sent = responder.sent ++ [event]
  failed : next.failed = (responder.updatePressingState physicalKey logicalKey).failed
  records :
    next.pressingRecords = (responder.updatePressingState physicalKey logicalKey).pressingRecords
  known : ∀ known, (responder.mappingRecords.lookup known).isSome →
    (next.mappingRecords.lookup known).isSome
  maps : logicalKey ≠ 0 → (next.mappingRecords.lookup logicalKey).isSome

/-- The events are taps as long as the check of `update_pressing_state` does not fail. -/
theorem Updates.exact {event : FlutterKeyEvent} {physicalKey : PhysicalKey} {logicalKey : UInt64}
    (updates : Updates responder next event physicalKey logicalKey)
    (down : logicalKey ≠ 0 → event.type = .down ∧ event.logical = logicalKey)
    (up : logicalKey = 0 → ∀ known, responder.pressingRecords.lookup physicalKey = some known →
      event.type = .up ∧ event.logical = known) :
    ExactGuard orderly orderly responder
      ((responder.pressingRecords.lookup physicalKey).isSome ↔ logicalKey = 0) next := by
  refine ⟨?_, fun _ unmet => ?_, fun failed => ?_⟩
  · intro ⟨isOrderly, isMapped⟩ meets
    by_cases zero : logicalKey = 0
    · subst zero
      obtain ⟨known, pressed⟩ := Option.isSome_iff_exists.mp (meets.mpr rfl)
      obtain ⟨type, carries⟩ := up rfl known pressed
      have updated := updatePressingState_up pressed
      have records : next.pressingRecords = responder.pressingRecords.erase physicalKey := by
        rw [updates.records, updated]
      have written : next.pressing = Function.update responder.pressing physicalKey none := by
        refine pressing_update none ?_ fun other distinct => ?_
        · rw [records, AList.lookup_erase]
        · rw [records, AList.lookup_erase_ne distinct]
      refine ⟨kept_send none isOrderly updates.sent (carries ▸ known.2) ?_
        (updates.physical ▸ written) ?_, fun other logical found => ?_⟩
      · rw [updates.failed, updated]
      · rw [updates.physical, type, carries, pressing_val, pressed]
        exact if_pos rfl
      · rw [records] at found
        refine updates.known _ (isMapped other logical ?_)
        by_cases same : other = physicalKey
        · rw [same, AList.lookup_erase] at found
          cases found
        · rwa [AList.lookup_erase_ne same] at found
    · have released : responder.pressingRecords.lookup physicalKey = none :=
        Option.not_isSome_iff_eq_none.mp fun pressed => zero (meets.mp pressed)
      obtain ⟨type, carries⟩ := down zero
      have updated := updatePressingState_down zero released
      have records : next.pressingRecords =
          responder.pressingRecords.insert physicalKey ⟨logicalKey, zero⟩ := by
        rw [updates.records, updated]
      have written : next.pressing =
          Function.update responder.pressing physicalKey (some logicalKey) := by
        refine pressing_update (some ⟨logicalKey, zero⟩) ?_ fun other distinct => ?_
        · rw [records, AList.lookup_insert]
        · rw [records, AList.lookup_insert_ne distinct]
      refine ⟨kept_send (some logicalKey) isOrderly updates.sent (carries ▸ zero) ?_
        (updates.physical ▸ written) ?_, fun other logical found => ?_⟩
      · rw [updates.failed, updated]
      · rw [updates.physical, type, carries, pressing_val, released]
        rfl
      · rw [records] at found
        by_cases same : other = physicalKey
        · rw [same, AList.lookup_insert] at found
          cases found
          exact updates.maps zero
        · rw [AList.lookup_insert_ne same] at found
          exact updates.known _ (isMapped other logical found)
  · change next.failed ≠ []
    rw [updates.failed]
    exact failed_updatePressingState unmet
  · change next.failed ≠ []
    rw [updates.failed]
    exact failed_updatePressingState_of_failed failed physicalKey logicalKey

theorem isSome_lookup_updateMappingRecord (responder : FlKeyEmbedderResponder)
    (physicalKey : PhysicalKey) {logicalKey known : UInt64}
    (mapped : known = logicalKey ∨ (responder.mappingRecords.lookup known).isSome) :
    ((responder.updateMappingRecord physicalKey logicalKey).mappingRecords.lookup
      known).isSome := by
  unfold updateMappingRecord
  by_cases same : known = logicalKey
  · rw [same, AList.lookup_insert]
    rfl
  · rw [AList.lookup_insert_ne same]
    exact mapped.resolve_left same

/-- The mapping record is updated first. -/
theorem updates_record (responder : FlKeyEmbedderResponder) (records : Bool)
    (event : FlutterKeyEvent) (physicalKey : PhysicalKey) (logicalKey pressed : UInt64)
    (isDown : Bool) (physical : event.physical = physicalKey)
    (maps : pressed ≠ 0 → pressed = logicalKey ∧
      (records = false → (responder.mappingRecords.lookup logicalKey).isSome)) :
    Updates responder
      ((((if records then responder.updateMappingRecord physicalKey logicalKey
        else responder).updatePressingState physicalKey pressed).possiblyUpdateLockBit logicalKey
          isDown).sendKeyEvent event) event physicalKey pressed := by
  cases records with
  | false =>
    rw [if_neg Bool.false_ne_true]
    refine ⟨physical, ?_, ?_, ?_, fun known found => ?_, fun nonzero => ?_⟩
    · simp [sendKeyEvent]
    · simp [sendKeyEvent]
    · simp [sendKeyEvent]
    · simpa [sendKeyEvent] using found
    · obtain ⟨rfl, mapped⟩ := maps nonzero
      simpa [sendKeyEvent] using mapped rfl
  | true =>
    rw [if_pos rfl, updatePressingState_updateMappingRecord]
    refine ⟨physical, ?_, ?_, ?_, fun known found => ?_, fun nonzero => ?_⟩
    · simp [sendKeyEvent, updateMappingRecord]
    · simp [sendKeyEvent, updateMappingRecord]
    · simp [sendKeyEvent, updateMappingRecord]
    · have kept : ((responder.updatePressingState physicalKey pressed).mappingRecords.lookup
          known).isSome := by
        rwa [mappingRecords_updatePressingState]
      simpa [sendKeyEvent] using isSome_lookup_updateMappingRecord
        (responder.updatePressingState physicalKey pressed) physicalKey (.inr kept)
    · simpa [sendKeyEvent] using isSome_lookup_updateMappingRecord
        (responder.updatePressingState physicalKey pressed) physicalKey (.inl (maps nonzero).1)

theorem exact_same (records : next.pressingRecords = responder.pressingRecords)
    (mappings : next.mappingRecords = responder.mappingRecords)
    (history : ∀ physical, next.history physical = responder.history physical)
    (failed : next.failed = responder.failed) : ExactGuard orderly orderly responder True next := by
  refine ⟨fun ⟨isOrderly, isMapped⟩ _ => ⟨⟨fun physical => ?_, fun physical => ?_, ?_⟩, ?_⟩,
    fun _ unmet => absurd trivial unmet, fun lost => lost_iff.mpr (failed ▸ lost_iff.mp lost)⟩
  · rw [history, pressing, records]
    exact isOrderly.taps physical
  · rw [history]
    exact isOrderly.nonzero physical
  · exact failed.trans isOrderly.unfailed
  · unfold IsMapped
    rw [records, mappings]
    exact isMapped

/-! ## Modifiers -/

/-- The loop over the keys of a modifier; it goes on as long as nothing is lost. -/
def looping : Stake (FlKeyEmbedderResponder × Option Bool) where
  Kept state := orderly.Kept state.1 ∧ state.2.isSome
  Lost state := orderly.Lost state.1
  exclusive kept := orderly.exclusive kept.1

theorem exact_synchronizeModifierKey (anyPressedByState : Bool)
    (state : FlKeyEmbedderResponder × Option Bool) (logicalKey : LogicalKey) :
    ExactGuard looping looping state (ReleaseAgrees anyPressedByState state logicalKey)
      (synchronizeModifierKey anyPressedByState state logicalKey) := by
  obtain ⟨responder, anyPressedByRecord⟩ := state
  cases anyPressedByRecord with
  | none => exact ⟨fun kept => absurd kept.2 Bool.false_ne_true,
      fun kept => absurd kept.2 Bool.false_ne_true, id⟩
  | some anyPressedByRecord =>
    unfold synchronizeModifierKey ReleaseAgrees
    dsimp only
    split
    · next releases =>
        rw [Bool.and_eq_true, Bool.not_eq_true'] at releases
        split
        · next unmapped =>
            -- A logical key that is pressed has been seen.
            refine ⟨fun kept => ?_, fun kept => ?_,
              fun _ => lost_iff.mpr (failed_fail responder _)⟩ <;>
            · obtain ⟨physicalKey, found⟩ :=
                isSome_reverseLookupHashTable_iff.mp releases.1
              have mapped := kept.1.2 physicalKey logicalKey found
              rw [unmapped] at mapped
              cases mapped
        · next physicalKey mapped =>
            let recorded := responder.pressedLogicalKey physicalKey
            have updates : Updates responder ((responder.synthesizeSimpleEvent .up physicalKey
                recorded).updatePressingState physicalKey 0)
                ⟨.up, physicalKey, recorded, [], true⟩ physicalKey 0 := by
              refine ⟨rfl, ?_, ?_, ?_, fun known found => ?_, fun nonzero => absurd rfl nonzero⟩
                <;> rw [synthesizeSimpleEvent, updatePressingState_sendKeyEvent]
              · rw [sendKeyEvent, sent_updatePressingState]
              · rfl
              · rfl
              · rwa [sendKeyEvent, mappingRecords_updatePressingState]
            have step := updates.exact (fun nonzero => absurd rfl nonzero)
              fun _ known pressed => ⟨rfl, pressedLogicalKey_of_some pressed⟩
            refine ExactGuard.congr ⟨fun kept meets => ⟨step.keeps kept.1 meets, rfl⟩,
              fun kept => step.loses kept.1, step.stays⟩ ?_
            constructor
            · intro meets _ _ other same
              cases mapped.symm.trans same
              exact meets.mpr rfl
            · intro agrees
              exact iff_of_true (agrees releases.2 releases.1 physicalKey mapped) rfl
    · next keeps =>
        refine ExactGuard.congr
          ⟨fun kept _ => ⟨kept.1, rfl⟩, fun _ unmet => absurd trivial unmet, id⟩
          (iff_of_true trivial fun released pressed => ?_)
        rw [pressed, released] at keeps
        exact absurd rfl keeps

theorem foldl_synchronizeModifierKey_true (responder : FlKeyEmbedderResponder)
    (anyPressedByRecord : Bool) (logicalKeys : List LogicalKey) :
    logicalKeys.foldl (synchronizeModifierKey true) (responder, some anyPressedByRecord) =
      (responder, some (anyPressedByRecord || logicalKeys.any fun logicalKey =>
        (reverseLookupHashTable responder.pressingRecords logicalKey).isSome)) := by
  induction logicalKeys generalizing anyPressedByRecord with
  | nil => simp
  | cons logicalKey logicalKeys ih =>
    have step : synchronizeModifierKey true (responder, some anyPressedByRecord) logicalKey =
        (responder, some (anyPressedByRecord ||
          (reverseLookupHashTable responder.pressingRecords logicalKey).isSome)) := by
      simp [synchronizeModifierKey]
    rw [List.foldl_cons, step, ih, List.any_cons, Bool.or_assoc]

theorem exact_pressPrimaryKey (responder : FlKeyEmbedderResponder)
    (checkedKey : FlKeyEmbedderCheckedKey) :
    ExactGuard orderly orderly responder
      (responder.pressingRecords.lookup
        ((responder.recordedPrimaryKey checkedKey).getD checkedKey.primaryPhysicalKey) = none)
      (responder.pressPrimaryKey checkedKey) := by
  let logicalKey := checkedKey.primaryLogicalKey
  let physicalKey :=
    (responder.recordedPrimaryKey checkedKey).getD checkedKey.primaryPhysicalKey
  have updates : Updates responder (responder.pressPrimaryKey checkedKey)
      ⟨.down, physicalKey, logicalKey, [], true⟩ physicalKey logicalKey := by
    unfold pressPrimaryKey synthesizeSimpleEvent
    rw [updatePressingState_sendKeyEvent]
    refine updates_record responder (responder.recordedPrimaryKey checkedKey).isNone _ physicalKey
      logicalKey logicalKey false rfl fun _ => ⟨rfl, fun recorded => ?_⟩
    exact Option.isNone_eq_false_iff.mp recorded
  refine (updates.exact (fun _ => ⟨rfl, rfl⟩) fun zero => absurd zero logicalKey.2).congr ?_
  rw [iff_false_right logicalKey.2, Option.not_isSome_iff_eq_none]

/-- The end of the body for a modifier. -/
theorem exact_pressWhenNeeded (anyPressedByState : Bool) (responder : FlKeyEmbedderResponder)
    (checkedKey : FlKeyEmbedderCheckedKey) :
    ExactGuard looping orderly
      (checkedKey.logicalKeys.foldl (synchronizeModifierKey anyPressedByState)
        (responder, some false))
      (responder.PressAgrees anyPressedByState checkedKey)
      (match checkedKey.logicalKeys.foldl (synchronizeModifierKey anyPressedByState)
          (responder, some false) with
        | (responder, none) => responder
        | (responder, some anyPressedByRecord) =>
          if anyPressedByState && !anyPressedByRecord then responder.pressPrimaryKey checkedKey
          else responder) := by
  cases anyPressedByState with
  | false =>
    have agrees : responder.PressAgrees false checkedKey :=
      fun pressed => absurd pressed Bool.false_ne_true
    refine ExactGuard.congr ?_ (iff_of_true trivial agrees)
    cases checkedKey.logicalKeys.foldl (synchronizeModifierKey false) (responder, some false) with
    | mk next anyPressedByRecord =>
      cases anyPressedByRecord with
      | none => exact ⟨fun kept => absurd kept.2 Bool.false_ne_true,
          fun _ unmet => absurd trivial unmet, id⟩
      | some anyPressedByRecord => exact ⟨fun kept _ => kept.1,
          fun _ unmet => absurd trivial unmet, id⟩
  | true =>
    rw [foldl_synchronizeModifierKey_true]
    dsimp only
    split
    · next fires =>
        have step := exact_pressPrimaryKey responder checkedKey
        refine ExactGuard.congr ⟨fun kept => step.keeps kept.1, fun kept => step.loses kept.1,
          step.stays⟩ ⟨fun released _ _ => released, fun agrees => agrees rfl ?_⟩
        simpa using fires
    · next rests =>
        refine ExactGuard.congr ⟨fun kept _ => kept.1, fun _ unmet => absurd trivial unmet, id⟩
          (iff_of_true trivial fun _ released => absurd ?_ rests)
        simpa using released

theorem exact_synchronizePressedStates (state : UInt32) (responder : FlKeyEmbedderResponder)
    (entry : UInt32 × FlKeyEmbedderCheckedKey) :
    ExactGuard orderly orderly responder (ModifierAgrees state responder entry)
      (synchronizePressedStates state responder entry) := by
  obtain ⟨modifierBit, checkedKey⟩ := entry
  have keys := ExactGuard.foldl (exact_synchronizeModifierKey (state &&& modifierBit != 0))
    (responder, some false) checkedKey.logicalKeys
  have steps := keys.trans
    (exact_pressWhenNeeded (state &&& modifierBit != 0) responder checkedKey)
  exact ⟨fun kept => steps.keeps ⟨kept, rfl⟩, fun kept => steps.loses ⟨kept, rfl⟩, steps.stays⟩

theorem exact_modifiers (state : UInt32) (responder : FlKeyEmbedderResponder) :
    ExactGuard orderly orderly responder (responder.ModifiersAgree state)
      (responder.checkedKeys.modifiers.foldl (synchronizePressedStates state) responder) :=
  ExactGuard.foldl (exact_synchronizePressedStates state) responder _

/-! ## Locks -/

/-- A lock key is pressed in the stages 1 and 3. -/
def InStage (responder : FlKeyEmbedderResponder) (physicalKey : PhysicalKey)
    (logicalKey : LogicalKey) (stage : Nat) : Prop :=
  responder.pressingRecords.lookup physicalKey =
    if stage % 2 = 0 then none else some logicalKey

theorem isDownEvent_iff (stage : Nat) :
    (decide (stage % 4 = 0) || decide (stage % 4 = 2)) = decide (stage % 2 = 0) := by
  rw [Bool.eq_iff_iff, Bool.or_eq_true, decide_eq_true_iff, decide_eq_true_iff,
    decide_eq_true_iff]
  omega

section Stages

variable {checkedKey : FlKeyEmbedderCheckedKey} {recordedPhysicalKey : Option PhysicalKey}

theorem updates_leaveStage (stage : Nat)
    (recorded : recordedPhysicalKey.isSome →
      (responder.mappingRecords.lookup checkedKey.primaryLogicalKey.1).isSome) :
    Updates responder (responder.leaveStage recordedPhysicalKey checkedKey stage)
      ⟨if stage % 2 = 0 then .down else .up,
        recordedPhysicalKey.getD checkedKey.primaryPhysicalKey, checkedKey.primaryLogicalKey, [],
        true⟩
      (recordedPhysicalKey.getD checkedKey.primaryPhysicalKey)
      (if stage % 2 = 0 then checkedKey.primaryLogicalKey else 0) := by
  have updates := updates_record responder (decide (stage % 2 = 0) && recordedPhysicalKey.isNone)
    ⟨if stage % 2 = 0 then .down else .up,
      recordedPhysicalKey.getD checkedKey.primaryPhysicalKey, checkedKey.primaryLogicalKey, [],
      true⟩
    (recordedPhysicalKey.getD checkedKey.primaryPhysicalKey) checkedKey.primaryLogicalKey
    (if stage % 2 = 0 then checkedKey.primaryLogicalKey else 0) (decide (stage % 2 = 0)) rfl ?_
  · unfold leaveStage synthesizeSimpleEvent
    simpa only [isDownEvent_iff, decide_eq_true_iff] using updates
  · intro nonzero
    by_cases down : stage % 2 = 0
    · rw [if_pos down]
      refine ⟨rfl, fun known => recorded ?_⟩
      rw [decide_eq_true down, Bool.true_and] at known
      exact Option.isNone_eq_false_iff.mp known
    · exact absurd (if_neg down) nonzero

section

variable
  (recorded : recordedPhysicalKey.isSome → (responder.mappingRecords.lookup checkedKey.primaryLogicalKey.1).isSome)

include recorded

theorem exact_leaveStage {stage : Nat} (pressed : stage % 2 = 1 → responder.InStage
      (recordedPhysicalKey.getD checkedKey.primaryPhysicalKey) checkedKey.primaryLogicalKey stage) :
    ExactGuard orderly orderly responder
      (responder.InStage (recordedPhysicalKey.getD checkedKey.primaryPhysicalKey)
        checkedKey.primaryLogicalKey stage)
      (responder.leaveStage recordedPhysicalKey checkedKey stage) := by
  have updates := updates_leaveStage stage recorded
  by_cases down : stage % 2 = 0
  · rw [if_pos down, if_pos down] at updates
    refine (updates.exact (fun _ => ⟨rfl, rfl⟩) fun zero =>
      absurd zero checkedKey.primaryLogicalKey.2).congr ?_
    rw [iff_false_right checkedKey.primaryLogicalKey.2, Option.not_isSome_iff_eq_none, InStage,
      if_pos down]
  · rw [if_neg down, if_neg down] at updates
    have inStage := pressed (by omega)
    have lookup := inStage
    rw [InStage, if_neg down] at lookup
    refine (updates.exact (fun nonzero => absurd rfl nonzero) fun _ known found => ?_).congr
      (iff_of_true (iff_of_true ?_ rfl) inStage)
    · rw [← Option.some_inj.mp (lookup.symm.trans found)]
      exact ⟨rfl, rfl⟩
    · rw [lookup]
      rfl

theorem inStage_leaveStage {stage : Nat}
    (inStage : responder.InStage (recordedPhysicalKey.getD checkedKey.primaryPhysicalKey)
      checkedKey.primaryLogicalKey stage) :
    (responder.leaveStage recordedPhysicalKey checkedKey stage).InStage
      (recordedPhysicalKey.getD checkedKey.primaryPhysicalKey) checkedKey.primaryLogicalKey
      (stage + 1) := by
  have updates := updates_leaveStage stage recorded
  unfold InStage at *
  rw [updates.records]
  by_cases down : stage % 2 = 0
  · rw [if_pos down] at inStage
    rw [if_pos down, updatePressingState_down checkedKey.primaryLogicalKey.2 inStage,
      if_neg (by omega), AList.lookup_insert]
  · rw [if_neg down] at inStage
    rw [if_neg down, updatePressingState_up inStage, if_pos (by omega), AList.lookup_erase]

end

/-- Once the stage is right, no check fails on the way to the next ones. -/
theorem exact_leaveStages {stage : Nat} (stages : Nat)
    (recorded : recordedPhysicalKey.isSome →
      (responder.mappingRecords.lookup checkedKey.primaryLogicalKey.1).isSome)
    (inStage : responder.InStage (recordedPhysicalKey.getD checkedKey.primaryPhysicalKey)
      checkedKey.primaryLogicalKey stage) :
    ExactGuard orderly orderly responder True
      (leaveStages recordedPhysicalKey checkedKey responder stage stages) := by
  induction stages generalizing responder stage with
  | zero => exact .refl responder
  | succ stages ih =>
    unfold leaveStages
    split
    · exact .refl responder
    · have leaves := (exact_leaveStage recorded fun _ => inStage).congr
        (iff_of_true inStage trivial)
      refine (leaves.trans (ih ?_ (inStage_leaveStage recorded inStage))).congr (and_self_iff)
      exact fun known => (updates_leaveStage stage recorded).known _ (recorded known)

end Stages

theorem findStageByRecord_mod_two (isDown isEnabled : Bool) :
    (findStageByRecord isDown isEnabled).val % 2 = if isDown then 1 else 0 := by
  cases isDown <;> cases isEnabled <;> rfl

/-- Where the records and the check agree, the lock key is in its stage. -/
theorem inStage_of_recorded (modifierBit : UInt32) {checkedKey : FlKeyEmbedderCheckedKey}
    {physicalKey : PhysicalKey}
    (recorded : responder.recordedPrimaryKey checkedKey = some physicalKey)
    (agrees : responder.pressedLockKey checkedKey = 0 ∨
      responder.pressedLockKey checkedKey = checkedKey.primaryLogicalKey.1) :
    responder.InStage physicalKey checkedKey.primaryLogicalKey
      (responder.stageByRecord modifierBit checkedKey) := by
  have pressed : responder.pressedLockKey checkedKey =
      (responder.pressingRecords.lookup physicalKey).elim 0 Subtype.val := by
    rw [pressedLockKey, recorded]
    rfl
  rw [InStage, stageByRecord, findStageByRecord_mod_two, pressed]
  rw [pressed] at agrees
  cases found : responder.pressingRecords.lookup physicalKey with
  | none => rfl
  | some known =>
    rw [found] at agrees
    change known.1 = 0 ∨ known.1 = checkedKey.primaryLogicalKey.1 at agrees
    have same : known = checkedKey.primaryLogicalKey :=
      Subtype.ext (agrees.resolve_left known.2)
    rw [Option.elim_some, if_pos (bne_iff_ne.mpr known.2), if_neg one_ne_zero, same]

theorem failed_leaveStages {checkedKey : FlKeyEmbedderCheckedKey}
    {recordedPhysicalKey : Option PhysicalKey}
    (recorded : recordedPhysicalKey.isSome →
      (responder.mappingRecords.lookup checkedKey.primaryLogicalKey.1).isSome)
    (failed : responder.failed ≠ []) (stage stages : Nat) :
    (leaveStages recordedPhysicalKey checkedKey responder stage stages).failed ≠ [] := by
  induction stages generalizing responder stage with
  | zero => exact failed
  | succ stages ih =>
    unfold leaveStages
    split
    · exact failed
    · have updates := updates_leaveStage stage recorded
      refine ih (fun known => updates.known _ (recorded known)) ?_ (stage + 1)
      rw [updates.failed]
      exact failed_updatePressingState_of_failed failed _ _

/-- A lock key that was never seen is to be released before it leaves its stage. -/
theorem exact_leaveStages_unrecorded {checkedKey : FlKeyEmbedderCheckedKey} {stage : Nat}
    (released : stage % 2 = 0) (stages : Nat) :
    ExactGuard orderly orderly responder
      (stages ≠ 0 → responder.pressingRecords.lookup checkedKey.primaryPhysicalKey = none)
      (leaveStages none checkedKey responder stage stages) := by
  have recorded : (none : Option PhysicalKey).isSome →
      (responder.mappingRecords.lookup checkedKey.primaryLogicalKey.1).isSome :=
    fun impossible => absurd impossible Bool.false_ne_true
  have inStage_iff : responder.InStage checkedKey.primaryPhysicalKey checkedKey.primaryLogicalKey
      stage ↔ responder.pressingRecords.lookup checkedKey.primaryPhysicalKey = none := by
    rw [InStage, if_pos released]
  by_cases inStage : responder.InStage checkedKey.primaryPhysicalKey checkedKey.primaryLogicalKey
    stage
  · exact (exact_leaveStages stages recorded inStage).congr
      (iff_of_true trivial fun _ => inStage_iff.mp inStage)
  · cases stages with
    | zero =>
      exact (ExactGuard.refl responder).congr
        (iff_of_true trivial fun moves => absurd rfl moves)
    | succ stages =>
      have unmet : ¬ (stages + 1 ≠ 0 →
          responder.pressingRecords.lookup checkedKey.primaryPhysicalKey = none) :=
        fun meets => inStage (inStage_iff.mpr (meets stages.succ_ne_zero))
      have step := exact_leaveStage recorded
        fun odd => absurd (released.symm.trans odd) zero_ne_one
      have later : (none : Option PhysicalKey).isSome →
          ((responder.leaveStage none checkedKey stage).mappingRecords.lookup
            checkedKey.primaryLogicalKey.1).isSome :=
        fun impossible => absurd impossible Bool.false_ne_true
      unfold leaveStages
      rw [if_neg (by omega)]
      exact ⟨fun _ meets => absurd meets unmet,
        fun kept _ => failed_leaveStages later (step.loses kept inStage) _ _,
        fun lost => failed_leaveStages later (step.stays lost) _ _⟩

theorem exact_reachStage (context : SyncStateLoopContext) (modifierBit : UInt32)
    (checkedKey : FlKeyEmbedderCheckedKey)
    (agrees : responder.pressedLockKey checkedKey = 0 ∨
      responder.pressedLockKey checkedKey = checkedKey.primaryLogicalKey.1) :
    ExactGuard orderly orderly responder
      (responder.StageAgrees context modifierBit checkedKey
        (responder.stageByRecord modifierBit checkedKey))
      (responder.reachStage context modifierBit checkedKey
        (responder.stageByRecord modifierBit checkedKey)) := by
  let stage := responder.stageByRecord modifierBit checkedKey
  let stageByEvent := responder.stageByEvent context modifierBit checkedKey stage
  let destination : Nat := if stage ≤ stageByEvent then stageByEvent else stageByEvent + 4
  have ahead : stage.val ≤ destination := by
    dsimp only [destination]
    split <;> omega
  have moves_iff : destination - stage ≠ 0 ↔ stageByEvent ≠ stage := by
    rw [← Fin.val_ne_iff]
    dsimp only [destination]
    split <;> omega
  have reaches : responder.reachStage context modifierBit checkedKey stage =
      leaveStages (responder.recordedPrimaryKey checkedKey) checkedKey responder stage
        (destination - stage) :=
    if_neg (not_not_intro ahead)
  rw [reaches]
  cases recorded : responder.recordedPrimaryKey checkedKey with
  | some physicalKey =>
    have inStage := inStage_of_recorded modifierBit recorded agrees
    refine ExactGuard.congr ?_ (iff_of_true trivial ?_)
    · exact exact_leaveStages _ (fun _ => Option.isSome_of_eq_some recorded) inStage
    · exact fun unrecorded => absurd (recorded.symm.trans unrecorded) (Option.some_ne_none _)
  | none =>
    have released : stage.val % 2 = 0 := by
      dsimp only [stage]
      rw [stageByRecord, findStageByRecord_mod_two, pressedLockKey, recorded]
      rfl
    refine (exact_leaveStages_unrecorded released _).congr ?_
    rw [moves_iff]
    exact ⟨fun meets _ => meets, fun meets => meets recorded⟩

theorem undecided_updateCapsLockStateLogicInferrence (responder : FlKeyEmbedderResponder)
    (isDownEvent enabledByState : Bool) (stage : Fin 4) :
    (responder.updateCapsLockStateLogicInferrence isDownEvent enabledByState
      stage).capsLockStateLogicInferrence = .undecided ↔
      responder.capsLockStateLogicInferrence = .undecided ∧ isDownEvent = false := by
  unfold updateCapsLockStateLogicInferrence
  split
  · next decided => exact iff_of_false decided fun undecided => decided undecided.1
  · next undecided =>
      cases isDownEvent with
      | false => exact iff_of_true (not_not.mp undecided) ⟨not_not.mp undecided, rfl⟩
      | true =>
        refine iff_of_false ?_ fun release => Bool.false_ne_true release.2.symm
        change (if _ then StateLogicInferrence.reversed else .normal) ≠ .undecided
        split <;> exact StateLogicInferrence.noConfusion

/-- Inferring the logic changes nothing that is at stake. -/
theorem updateCapsLockStateLogicInferrence_eq (responder : FlKeyEmbedderResponder)
    (isDownEvent enabledByState : Bool) (stage : Fin 4) :
    ∃ inferrence, responder.updateCapsLockStateLogicInferrence isDownEvent enabledByState stage =
      { responder with capsLockStateLogicInferrence := inferrence } := by
  unfold updateCapsLockStateLogicInferrence
  split
  · exact ⟨_, rfl⟩
  · split
    · exact ⟨_, rfl⟩
    · exact ⟨_, rfl⟩

theorem exact_fail (responder next : FlKeyEmbedderResponder) (check : Check) {guard : Prop}
    (unmet : ¬ guard) : ExactGuard orderly orderly responder guard (next.fail check) :=
  ⟨fun _ meets => absurd meets unmet, fun _ _ => failed_fail next check,
    fun _ => failed_fail next check⟩

theorem exact_synchronizeLockStates (context : SyncStateLoopContext)
    (responder : FlKeyEmbedderResponder) (entry : UInt32 × FlKeyEmbedderCheckedKey) :
    ExactGuard orderly orderly responder (LockAgrees context responder entry)
      (synchronizeLockStates context responder entry) := by
  obtain ⟨modifierBit, checkedKey⟩ := entry
  unfold synchronizeLockStates LockAgrees
  dsimp only
  by_cases agrees : responder.pressedLockKey checkedKey = 0 ∨
    responder.pressedLockKey checkedKey = checkedKey.primaryLogicalKey.1
  · rw [if_neg (not_not_intro agrees)]
    by_cases infers : checkedKey.primaryLogicalKey.1 = context.eventLogicalKey ∧
      checkedKey.isCapsLock
    · rw [if_pos infers, if_pos infers]
      let enabledByState := context.state &&& modifierBit != 0
      let stage := responder.stageByRecord modifierBit checkedKey
      let inferred := responder.updateCapsLockStateLogicInferrence context.isDown enabledByState
        stage
      have undecided_iff := responder.undecided_updateCapsLockStateLogicInferrence context.isDown
        enabledByState stage
      by_cases undecided : inferred.capsLockStateLogicInferrence = .undecided
      · rw [if_pos undecided]
        obtain ⟨undecided, released⟩ := undecided_iff.mp undecided
        refine exact_fail responder inferred .capsLockStateLogic fun meets => ?_
        exact absurd (released.symm.trans (meets.2.1 undecided)) Bool.false_ne_true
      · rw [if_neg undecided]
        obtain ⟨inferrence, inferred_eq⟩ :=
          responder.updateCapsLockStateLogicInferrence_eq context.isDown enabledByState stage
        have same : ExactGuard orderly orderly responder True
            { responder with capsLockStateLogicInferrence := inferrence } :=
          exact_same rfl rfl (fun _ => rfl) rfl
        have pressed : responder.capsLockStateLogicInferrence = .undecided →
            context.isDown = true := by
          intro first
          by_contra released
          exact undecided (undecided_iff.mpr ⟨first, (Bool.not_eq_true _).mp released⟩)
        rw [inferred_eq]
        refine (same.trans (exact_reachStage context modifierBit checkedKey agrees)).congr ?_
        rw [true_and, and_iff_right agrees, and_iff_right pressed]
        rfl
    · rw [if_neg infers, if_neg infers]
      exact (exact_reachStage context modifierBit checkedKey agrees).congr
        (and_iff_right agrees).symm
  · rw [if_pos agrees]
    exact exact_fail responder responder .pressedLogicalKey fun meets => agrees meets.1

/-! ## Calls -/

/-- A key that is pressed already is repeated. -/
theorem exact_repeat {event : FlutterKeyEvent} {physicalKey : PhysicalKey} {known : LogicalKey}
    (pressed : responder.pressingRecords.lookup physicalKey = some known)
    (event_eq : event.type = .repeat ∧ event.physical = physicalKey ∧ event.logical = known)
    (sent : next.sent = responder.sent ++ [event])
    (records : next.pressingRecords = responder.pressingRecords)
    (failed : next.failed = responder.failed)
    (mapped : ∀ known, (responder.mappingRecords.lookup known).isSome →
      (next.mappingRecords.lookup known).isSome) :
    ExactGuard orderly orderly responder True next := by
  obtain ⟨type, physical, carries⟩ := event_eq
  have pressing : responder.pressing physicalKey = some known.1 := by
    rw [pressing_val, pressed]
    rfl
  refine ⟨fun ⟨isOrderly, isMapped⟩ _ => ⟨?_, fun other logical found => ?_⟩,
    fun _ unmet => absurd trivial unmet, fun lost => lost_iff.mpr (failed ▸ lost_iff.mp lost)⟩
  · refine kept_send (some known.1) isOrderly sent (carries ▸ known.2) failed ?_ ?_
    · rw [physical, ← pressing, Function.update_eq_self]
      funext physical
      unfold FlKeyEmbedderResponder.pressing
      rw [records]
    · rw [type, physical, carries, pressing]
      exact if_pos rfl
  · rw [records] at found
    exact mapped _ (isMapped other logical found)

section Main

variable {event : FlKeyEvent} {physicalKey : PhysicalKey} {known : LogicalKey}

theorem sendMainEvent_repeat (isPress : event.isPress = true)
    (pressed : responder.pressingRecords.lookup physicalKey = some known) (logicalKey : UInt64) :
    responder.sendMainEvent event physicalKey logicalKey =
      ((responder.possiblyUpdateLockBit logicalKey true).updateMappingRecord physicalKey
        logicalKey).sendKeyEvent ⟨.repeat, physicalKey, known, event.character, false⟩ := by
  simp [sendMainEvent, mainEventType, pressedLogicalKey_of_some pressed, isPress, known.2]

theorem sendMainEvent_up (isRelease : event.isPress = false)
    (pressed : responder.pressingRecords.lookup physicalKey = some known) (logicalKey : UInt64) :
    responder.sendMainEvent event physicalKey logicalKey =
      ((responder.updatePressingState physicalKey 0).possiblyUpdateLockBit logicalKey
        false).sendKeyEvent ⟨.up, physicalKey, known, [], false⟩ := by
  simp [sendMainEvent, mainEventType, pressedLogicalKey_of_some pressed, isRelease, known.2]

theorem sendMainEvent_down (isPress : event.isPress = true)
    (released : responder.pressingRecords.lookup physicalKey = none) (logicalKey : UInt64) :
    responder.sendMainEvent event physicalKey logicalKey =
      (((responder.updatePressingState physicalKey logicalKey).possiblyUpdateLockBit logicalKey
        true).updateMappingRecord physicalKey logicalKey).sendKeyEvent
          ⟨.down, physicalKey, logicalKey, event.character, false⟩ := by
  simp [sendMainEvent, mainEventType, pressedLogicalKey_of_none released, isPress]

theorem sendMainEvent_ignored (isRelease : event.isPress = false)
    (released : responder.pressingRecords.lookup physicalKey = none) (logicalKey : UInt64) :
    responder.sendMainEvent event physicalKey logicalKey = responder := by
  simp [sendMainEvent, mainEventType, pressedLogicalKey_of_none released, isRelease]

end Main

theorem exact_sendMainEvent (responder : FlKeyEmbedderResponder) (event : FlKeyEvent)
    (physicalKey : PhysicalKey) (logicalKey : UInt64) :
    ExactGuard orderly orderly responder (responder.MainAgrees event physicalKey logicalKey)
      (responder.sendMainEvent event physicalKey logicalKey) := by
  unfold MainAgrees
  cases found : responder.pressingRecords.lookup physicalKey with
  | some known =>
    refine ExactGuard.congr ?_ (iff_of_true trivial
      fun _ released => absurd released (Option.some_ne_none known))
    cases pressed : event.isPress with
    | true =>
      rw [sendMainEvent_repeat pressed found]
      refine exact_repeat found ⟨rfl, rfl, rfl⟩ rfl ?_ ?_ fun other mapped => ?_
      · exact pressingRecords_possiblyUpdateLockBit ..
      · exact failed_possiblyUpdateLockBit ..
      · refine isSome_lookup_updateMappingRecord _ physicalKey (.inr ?_)
        rwa [mappingRecords_possiblyUpdateLockBit]
    | false =>
      rw [sendMainEvent_up pressed found]
      have updates := updates_record responder false ⟨.up, physicalKey, known, [], false⟩
        physicalKey logicalKey 0 false rfl fun nonzero => absurd rfl nonzero
      rw [if_neg Bool.false_ne_true] at updates
      refine (updates.exact (fun nonzero => absurd rfl nonzero) fun _ other same => ?_).congr
        (iff_of_true (iff_of_true ?_ rfl) trivial)
      · exact ⟨rfl, congrArg Subtype.val (Option.some_inj.mp (found.symm.trans same))⟩
      · rw [found]
        rfl
  | none =>
    cases pressed : event.isPress with
    | true =>
      rw [sendMainEvent_down pressed found]
      have updates : Updates responder
          (((responder.updatePressingState physicalKey logicalKey).possiblyUpdateLockBit
            logicalKey true).updateMappingRecord physicalKey logicalKey |>.sendKeyEvent
              ⟨.down, physicalKey, logicalKey, event.character, false⟩)
          ⟨.down, physicalKey, logicalKey, event.character, false⟩ physicalKey logicalKey := by
        refine ⟨rfl, ?_, ?_, ?_, fun known mapped => ?_, fun _ => ?_⟩
        · simp [sendKeyEvent, updateMappingRecord]
        · simp [sendKeyEvent, updateMappingRecord]
        · simp [sendKeyEvent, updateMappingRecord]
        · refine isSome_lookup_updateMappingRecord _ physicalKey (.inr ?_)
          rwa [mappingRecords_possiblyUpdateLockBit, mappingRecords_updatePressingState]
        · exact isSome_lookup_updateMappingRecord _ physicalKey (.inl rfl)
      refine (updates.exact (fun _ => ⟨rfl, rfl⟩) fun _ known same => ?_).congr ?_
      · exact absurd (found.symm.trans same).symm (Option.some_ne_none known)
      · rw [found]
        simp
    | false =>
      rw [sendMainEvent_ignored pressed found]
      exact (ExactGuard.refl responder).congr
        (iff_of_true trivial fun pressed => absurd pressed Bool.false_ne_true)

theorem exact_handleEventImpl (responder : FlKeyEmbedderResponder) (event : FlKeyEvent)
    (specifiedLogicalKey : UInt64) :
    ExactGuard orderly orderly responder (responder.EventAgrees event specifiedLogicalKey)
      (responder.handleEventImpl event specifiedLogicalKey) := by
  let logicalKey := eventLogicalKey event specifiedLogicalKey
  let physicalKey := correctedModifierPhysicalKey responder.checkedKeys.modifiers
    event.physicalKey logicalKey
  have locks := ExactGuard.foldl (exact_synchronizeLockStates ⟨event.state, logicalKey,
    event.isPress⟩) responder responder.checkedKeys.locks
  exact locks.trans ((exact_modifiers event.state _).trans
    (exact_sendMainEvent _ event physicalKey logicalKey))

theorem exact_handleEvent (responder : FlKeyEmbedderResponder) (event : FlKeyEvent)
    (specifiedLogicalKey : UInt64) :
    ExactGuard orderly orderly responder
      (EventAgrees { responder with sentAnyEvents := false } event specifiedLogicalKey)
      (responder.handleEvent event specifiedLogicalKey) := by
  let reset := { responder with sentAnyEvents := false }
  let handled := reset.handleEventImpl event specifiedLogicalKey
  have resets : ExactGuard orderly orderly responder True reset :=
    exact_same rfl rfl (fun _ => rfl) rfl
  have handles : ExactGuard orderly orderly responder
      (reset.EventAgrees event specifiedLogicalKey) handled :=
    (resets.trans (exact_handleEventImpl reset event specifiedLogicalKey)).congr
      (iff_of_eq (true_and _))
  change ExactGuard orderly orderly responder (reset.EventAgrees event specifiedLogicalKey)
    (if !handled.sentAnyEvents then
      { handled with sent := handled.sent ++ [FlutterKeyEvent.empty] } else handled)
  split
  · have empty : ExactGuard orderly orderly handled True
        { handled with sent := handled.sent ++ [FlutterKeyEvent.empty] } := by
      refine exact_same rfl rfl (fun physical => ?_) rfl
      simp [history, FlutterKeyEvent.empty, FlutterKeyEvent.isEmpty]
    exact (handles.trans empty).congr (iff_of_eq (and_true _))
  · exact handles

theorem exact_call (responder : FlKeyEmbedderResponder) (call : Call) :
    ExactGuard orderly orderly responder (CallAgrees responder call) (responder.call call) := by
  cases call with
  | handleEvent event specifiedLogicalKey =>
    exact exact_handleEvent responder event specifiedLogicalKey
  | syncModifiersIfNeeded state => exact exact_modifiers state responder

/-! ## Runs -/

theorem kept_new (checkedKeys : CheckedKeys) : orderly.Kept (new checkedKeys) := by
  refine ⟨⟨fun physical => ?_, fun physical event mem => ?_, rfl⟩,
    fun physicalKey logicalKey found => ?_⟩
  · have pressing : (new checkedKeys).pressing physical = none := by
      unfold pressing
      split <;> rfl
    rw [pressing]
    exact ⟨[], none, rfl, rfl⟩
  · cases mem
  · cases found

/-- After every run, the events of each physical key are taps with logical keys, the records are
the taps that are open and no check has failed, exactly when each synchronization found the
physical keys it takes from the mapping records as it expects them, CapsLock was pressed before
it was released, and no key without a logical key went down. -/
theorem run_isOrderly_iff (checkedKeys : CheckedKeys) (calls : List Call) :
    ((new checkedKeys).run calls).IsOrderly ↔
      MeetsGuards CallAgrees call (new checkedKeys) calls := by
  have runs := ExactGuard.foldl exact_call (new checkedKeys) calls
  constructor
  · intro isOrderly
    by_contra unmet
    exact runs.loses (kept_new checkedKeys) unmet isOrderly.unfailed
  · exact fun meets => (runs.keeps (kept_new checkedKeys) meets).1

/-- The tables in the order they are filled. -/
def filledTables : CheckedKeys := ⟨_, _, .refl _, .refl _⟩

def pressOf (keycode : UInt16) (keyval state : UInt32) : Call :=
  .handleEvent ⟨true, keycode, keyval, state, []⟩ 0

def releaseOf (keycode : UInt16) (keyval state : UInt32) : Call :=
  .handleEvent ⟨false, keycode, keyval, state, []⟩ 0

/-- CapsLock is a second left shift key; it is tapped while the first is held, and the release of
the first is missed. -/
def secondShift : List Call :=
  [pressOf 0x32 0xffe1 0, pressOf 0x42 0xffe1 GDK_SHIFT_MASK,
    releaseOf 0x42 0xffe1 GDK_SHIFT_MASK, pressOf 0x26 0x61 0]

/-- CapsLock goes up once more, without a logical key, and the left shift key stays down. -/
theorem secondShift_not_isOrderly :
    ¬ ∀ checkedKeys calls, ((new checkedKeys).run calls).IsOrderly := by
  intro orderly
  refine (orderly filledTables secondShift).nonzero 0x70039 (.up, 0) ?_ rfl
  decide +kernel

end FlKeyEmbedderResponder

end FlutterEngine.Linux
