import Mathlib.Data.List.Induction
import FlutterEngine.Std.ExactGuards
import FlutterEngine.Windows.KeyboardKeyEmbedderHandler

/-!
# Tap sequences

The events of a physical key are taps: down, repeats and up, all with one logical key. The
records say which keys are down. A release by one of the synchronizations takes the logical key
from the critical key and not from the record, so this holds exactly while the two agree.
-/

namespace FlutterEngine.Windows

open FlutterEngine.Std

/-- A key goes down and is repeated so often. -/
structure Tap where
  logical : UInt64
  repeats : Nat

namespace Tap

def pressed (tap : Tap) : List (FlutterKeyEventType × UInt64) :=
  (.down, tap.logical) :: List.replicate tap.repeats (.repeat, tap.logical)

def released (tap : Tap) : List (FlutterKeyEventType × UInt64) :=
  tap.pressed ++ [(.up, tap.logical)]

end Tap

/-- The events are taps, of which the last one may be open: then its logical key is `pressing`. -/
def IsTaps (events : List (FlutterKeyEventType × UInt64)) (pressing : Option UInt64) : Prop :=
  ∃ (taps : List Tap) (last : Option Tap),
    events = taps.flatMap Tap.released ++ last.elim [] Tap.pressed ∧
      pressing = last.map Tap.logical

/-- One event after what is pressed. -/
def follow : Option UInt64 → FlutterKeyEventType × UInt64 → Option (Option UInt64)
  | none, (.down, logical) => some (some logical)
  | some pressing, (.repeat, logical) => if logical = pressing then some (some pressing) else none
  | some pressing, (.up, logical) => if logical = pressing then some none else none
  | _, _ => none

/-- What the events leave pressed, none when they are not taps. -/
def following (events : List (FlutterKeyEventType × UInt64)) : Option (Option UInt64) :=
  events.foldlM follow none

theorem following_concat (events : List (FlutterKeyEventType × UInt64))
    (event : FlutterKeyEventType × UInt64) :
    following (events ++ [event]) = (following events).bind (follow · event) := by
  unfold following
  rw [List.foldlM_append]
  simp only [List.foldlM_cons, List.foldlM_nil, bind_pure]
  rfl

variable {events : List (FlutterKeyEventType × UInt64)}

theorem following_append_none (lost : following events = none)
    (later : List (FlutterKeyEventType × UInt64)) : following (events ++ later) = none := by
  unfold following at *
  rw [List.foldlM_append, lost]
  rfl

theorem isTaps_concat {event : FlutterKeyEventType × UInt64} {pressing next : Option UInt64}
    (taps : IsTaps events pressing) (follows : follow pressing event = some next) :
    IsTaps (events ++ [event]) next := by
  obtain ⟨taps, last, rfl, rfl⟩ := taps
  obtain ⟨type, logical⟩ := event
  cases last with
  | none =>
    cases type with
    | down =>
      cases follows
      exact ⟨taps, some ⟨logical, 0⟩, by simp [Tap.pressed], rfl⟩
    | up => cases follows
    | «repeat» => cases follows
  | some last =>
    cases type with
    | down => cases follows
    | up =>
      simp only [Option.map_some, follow, Option.ite_none_right_eq_some] at follows
      obtain ⟨rfl, next_eq⟩ := follows
      cases next_eq
      exact ⟨taps ++ [last], none, by simp [Tap.released], rfl⟩
    | «repeat» =>
      simp only [Option.map_some, follow, Option.ite_none_right_eq_some] at follows
      obtain ⟨rfl, next_eq⟩ := follows
      cases next_eq
      refine ⟨taps, some ⟨last.logical, last.repeats + 1⟩, ?_, rfl⟩
      simp [Tap.pressed, List.replicate_succ']

theorem foldlM_pressed (tap : Tap) : tap.pressed.foldlM follow none = some (some tap.logical) := by
  have repeats : ∀ count, (List.replicate count (FlutterKeyEventType.repeat, tap.logical)).foldlM
      follow (some tap.logical) = some (some tap.logical) := by
    intro count
    induction count with
    | zero => rfl
    | succ count ih =>
      rw [List.replicate_succ, List.foldlM_cons]
      simpa [follow] using ih
  exact repeats tap.repeats

theorem foldlM_released (taps : List Tap) :
    (taps.flatMap Tap.released).foldlM follow none = some none := by
  induction taps with
  | nil => rfl
  | cons tap taps ih =>
    rw [List.flatMap_cons, Tap.released, List.foldlM_append, List.foldlM_append, foldlM_pressed]
    simpa [follow] using ih

theorem following_eq_some_iff {pressing : Option UInt64} :
    following events = some pressing ↔ IsTaps events pressing := by
  constructor
  · intro followed
    induction events using List.reverseRecOn generalizing pressing with
    | nil =>
      cases followed
      exact ⟨[], none, rfl, rfl⟩
    | append_singleton events event ih =>
      rw [following_concat] at followed
      obtain ⟨before, followedBefore, follows⟩ := Option.bind_eq_some_iff.mp followed
      exact isTaps_concat (ih followedBefore) follows
  · rintro ⟨taps, last, rfl, rfl⟩
    unfold following
    rw [List.foldlM_append, foldlM_released]
    cases last with
    | none => rfl
    | some last => exact foldlM_pressed last

namespace KeyboardKeyEmbedderHandler

variable (handler : KeyboardKeyEmbedderHandler)

/-- The events of a physical key that are not empty. -/
def history (physical : UInt64) : List (FlutterKeyEventType × UInt64) :=
  (handler.sent.filter fun event => !event.isEmpty && event.physical == physical).map fun event =>
    (event.type, event.logical)

/-- The record of a physical key. -/
def pressing (physical : UInt64) : Option UInt64 :=
  (handler.pressingRecords physical).map Subtype.val

/-- The events of each physical key leave pressed what is recorded. -/
def taps : Stake KeyboardKeyEmbedderHandler where
  Kept handler := ∀ physical,
    following (handler.history physical) = some (handler.pressing physical)
  Lost handler := ∃ physical, following (handler.history physical) = none
  exclusive := by
    intro handler kept ⟨physical, lost⟩
    exact Option.some_ne_none _ ((kept physical).symm.trans lost)

/-! ## The guards -/

/-- The record of the physical key of a critical key, if there is one, is its logical key. -/
def Agrees (keyInfo : CriticalKey) : Prop :=
  ∀ logical, handler.pressingRecords keyInfo.physicalKey = some logical →
    logical = keyInfo.logicalKey

/-- A key whose toggled state has changed agrees with its record. -/
def ToggleAgrees (message : KeyMessage) (state : KeyboardKeyEmbedderHandler × Bool)
    (entry : UInt32 × CriticalKey) : Prop :=
  entry.2.physicalKey ≠ 0 → entry.2.checkToggled = true →
    entry.2.toggledOn ≠ state.1.preEventToggled message entry.1 entry.2 → state.1.Agrees entry.2

/-- A key that is to be released agrees with its record. -/
def ReleaseAgrees (message : KeyMessage) (eventKeyCanBeRepeat : Bool)
    (getKeyState : UInt32 → Int16) (handler : KeyboardKeyEmbedderHandler)
    (entry : UInt32 × CriticalKey) : Prop :=
  entry.2.physicalKey ≠ 0 → entry.2.checkPressed = true →
    preEventPressed message eventKeyCanBeRepeat getKeyState entry.1 entry.2 = some false →
      handler.Agrees entry.2

/-- The keys of a loop, each in the state its iteration begins with. -/
def TogglesAgree (message : KeyMessage) : Prop :=
  MeetsGuards (ToggleAgrees message) (synchronizeToggledState message) (handler, true)
    handler.criticalKeys

def ReleasesAgree (message : KeyMessage) (eventKeyCanBeRepeat : Bool)
    (getKeyState : UInt32 → Int16) : Prop :=
  MeetsGuards (ReleaseAgrees message eventKeyCanBeRepeat getKeyState)
    (synchronizePressedState message eventKeyCanBeRepeat getKeyState) handler handler.criticalKeys

/-- The three synchronizations of a message. A message for an IME has none, and one that is
ignored has no third. -/
def MessageAgrees (message : KeyMessage) : Prop :=
  (handler.sequenceLogicalKey message).1 ≠ ofInt VK_PROCESSKEY →
    let seen := handler.updateLastSeenCriticalKey message.key message.physicalKey
      (handler.sequenceLogicalKey message)
    let (toggled, eventKeyCanBeRepeat) := seen.synchronizeCriticalToggledStates message
    let pressed :=
      toggled.synchronizeCriticalPressedStates message eventKeyCanBeRepeat message.pressedStates
    seen.TogglesAgree message ∧
      toggled.ReleasesAgree message eventKeyCanBeRepeat message.pressedStates ∧
        match pressed.mainEvent message with
        | none => True
        | some (type, character, resultLogicalKey, eventualLogicalRecord) =>
          (pressed.sendMainEvent message type character resultLogicalKey
            eventualLogicalRecord).ReleasesAgree message eventKeyCanBeRepeat message.laterStates

def CallAgrees : Call → Prop
  | .keyboardHook message => MessageAgrees { handler with sentAnyEvents := false } message
  | .syncModifiersIfNeeded _ => True

/-! ## The steps -/

variable {handler} {next : KeyboardKeyEmbedderHandler}

variable {event : FlutterKeyEvent}

theorem history_concat (sent : next.sent = handler.sent ++ [event]) (some : event.logical ≠ 0)
    (physical : UInt64) :
    next.history physical = handler.history physical ++
      if event.physical = physical then [(event.type, event.logical)] else [] := by
  have kept : event.isEmpty = false := by simp [FlutterKeyEvent.isEmpty, some]
  unfold history
  rw [sent, List.filter_append, List.map_append]
  split
  · next same => simp [kept, same]
  · next other => simp [kept, other]

theorem exact_same (history : ∀ physical, next.history physical = handler.history physical)
    (records : next.pressingRecords = handler.pressingRecords) :
    ExactGuard taps taps handler True next := by
  refine ⟨fun kept _ physical => ?_, fun _ unmet => absurd trivial unmet, ?_⟩
  · unfold pressing
    rw [history, records]
    exact kept physical
  · intro ⟨physical, lost⟩
    exact ⟨physical, (history physical).symm ▸ lost⟩

/-- One event is sent and the record of its key is written. -/
theorem exact_send {pressed : Option LogicalKey} {guard : Prop}
    (sent : next.sent = handler.sent ++ [event]) (nonzero : event.logical ≠ 0)
    (records : next.pressingRecords =
      Function.update handler.pressingRecords event.physical pressed)
    (follows : guard → follow (handler.pressing event.physical) (event.type, event.logical) =
      some (pressed.map Subtype.val))
    (breaks : ¬ guard →
      follow (handler.pressing event.physical) (event.type, event.logical) = none) :
    ExactGuard taps taps handler guard next := by
  refine ⟨fun kept meets physical => ?_, fun kept unmet => ⟨event.physical, ?_⟩, ?_⟩
  · rw [history_concat sent nonzero]
    unfold pressing
    rw [records]
    by_cases same : event.physical = physical
    · subst same
      rw [if_pos rfl, following_concat, kept, Function.update_self]
      exact follows meets
    · rw [if_neg same, List.append_nil, Function.update_of_ne (Ne.symm same)]
      exact kept physical
  · rw [history_concat sent nonzero, if_pos rfl, following_concat, kept]
    exact breaks unmet
  · intro ⟨physical, lost⟩
    refine ⟨physical, ?_⟩
    rw [history_concat sent nonzero]
    exact following_append_none lost _

variable {known : LogicalKey}

theorem pressing_eq_some {physical : UInt64}
    (recorded : handler.pressingRecords physical = some known) :
    handler.pressing physical = some known.1 :=
  congrArg (Option.map Subtype.val) recorded

theorem pressing_eq_none {physical : UInt64} (released : handler.pressingRecords physical = none) :
    handler.pressing physical = none :=
  congrArg (Option.map Subtype.val) released

/-- A key that is not pressed goes down. -/
theorem exact_down (logical : LogicalKey) (type : event.type = .down)
    (carries : event.logical = logical) (sent : next.sent = handler.sent ++ [event])
    (records : next.pressingRecords =
      Function.update handler.pressingRecords event.physical (some logical))
    (released : handler.pressingRecords event.physical = none) :
    ExactGuard taps taps handler True next := by
  refine exact_send sent (carries ▸ logical.2) records (fun _ => ?_) fun unmet =>
    absurd trivial unmet
  rw [type, carries, pressing_eq_none released]
  rfl

/-- A key that is pressed goes up. -/
theorem exact_up (logical : LogicalKey) (type : event.type = .up)
    (carries : event.logical = logical) (sent : next.sent = handler.sent ++ [event])
    (records : next.pressingRecords = Function.update handler.pressingRecords event.physical none)
    (recorded : handler.pressingRecords event.physical = some known) :
    ExactGuard taps taps handler (known = logical) next := by
  refine exact_send sent (carries ▸ logical.2) records ?_ ?_ <;>
    rw [type, carries, pressing_eq_some recorded]
  · intro same
    exact if_pos (congrArg Subtype.val same.symm)
  · intro other
    exact if_neg fun same => other (Subtype.ext same.symm)

theorem agrees_iff {keyInfo : CriticalKey}
    (recorded : handler.pressingRecords keyInfo.physicalKey = some known) :
    handler.Agrees keyInfo ↔ known = keyInfo.logicalKey := by
  unfold Agrees
  rw [recorded]
  constructor
  · intro agrees
    exact agrees known rfl
  · rintro same logical found
    rw [← Option.some_inj.mp found]
    exact same

theorem exact_setToggledOn (handler : KeyboardKeyEmbedderHandler) (virtualKey : UInt32)
    (toggledOn : Bool) :
    ExactGuard taps taps handler True (handler.setToggledOn virtualKey toggledOn) :=
  exact_same (fun _ => rfl) rfl

theorem exact_retap (handler : KeyboardKeyEmbedderHandler) (keyInfo : CriticalKey) :
    ExactGuard taps taps handler (handler.Agrees keyInfo) (handler.retap keyInfo) := by
  cases recorded : handler.pressingRecords keyInfo.physicalKey with
  | none =>
    have agrees : handler.Agrees keyInfo := by
      intro logical found
      exact absurd (recorded.symm.trans found) (Option.some_ne_none logical).symm
    unfold retap
    rw [recorded]
    refine ExactGuard.congr ?_ (iff_of_true trivial agrees)
    exact exact_down keyInfo.logicalKey rfl rfl rfl rfl recorded
  | some known =>
    let released := (handler.record keyInfo.physicalKey none).sendEvent
      (synthesizeSimpleEvent .up keyInfo.physicalKey keyInfo.logicalKey [])
    have up : ExactGuard taps taps handler (known = keyInfo.logicalKey) released :=
      exact_up keyInfo.logicalKey rfl rfl rfl rfl recorded
    have down : ExactGuard taps taps released True (handler.retap keyInfo) := by
      unfold retap
      rw [recorded]
      refine exact_down keyInfo.logicalKey rfl rfl rfl ?_ (Function.update_self ..)
      exact (Function.update_idem ..).symm
    exact (up.trans down).congr (by rw [and_true, agrees_iff recorded])

theorem exact_synchronizeToggledState (message : KeyMessage)
    (state : KeyboardKeyEmbedderHandler × Bool) (entry : UInt32 × CriticalKey) :
    ExactGuard (taps.comap Prod.fst) (taps.comap Prod.fst) state (ToggleAgrees message state entry)
      (synchronizeToggledState message state entry) := by
  obtain ⟨handler, eventKeyCanBeRepeat⟩ := state
  obtain ⟨virtualKey, keyInfo⟩ := entry
  unfold synchronizeToggledState ToggleAgrees
  dsimp only
  split
  · next skips =>
      refine (ExactGuard.refl _).congr (iff_of_true trivial fun some checks _ => ?_)
      simp [some, checks] at skips
  · next checked =>
      simp only [Bool.or_eq_true, decide_eq_true_eq, Bool.not_eq_true', not_or,
        Bool.not_eq_false] at checked
      split
      · next toggles =>
          have steps := (exact_retap handler keyInfo).trans
            (exact_setToggledOn _ virtualKey (message.toggledStates virtualKey &&&
              kStateMaskToggled != 0))
          refine ExactGuard.congr ⟨steps.keeps, steps.loses, steps.stays⟩ ?_
          rw [and_true]
          exact ⟨fun agrees _ _ _ => agrees, fun agrees => agrees checked.1 checked.2 toggles⟩
      · next same =>
          have step := exact_setToggledOn handler virtualKey
            (message.toggledStates virtualKey &&& kStateMaskToggled != 0)
          refine ExactGuard.congr ⟨step.keeps, step.loses, step.stays⟩ ?_
          exact iff_of_true trivial fun _ _ toggles => absurd toggles same

theorem exact_synchronizePressedState (message : KeyMessage) (eventKeyCanBeRepeat : Bool)
    (getKeyState : UInt32 → Int16) (handler : KeyboardKeyEmbedderHandler)
    (entry : UInt32 × CriticalKey) :
    ExactGuard taps taps handler
      (ReleaseAgrees message eventKeyCanBeRepeat getKeyState handler entry)
      (synchronizePressedState message eventKeyCanBeRepeat getKeyState handler entry) := by
  obtain ⟨virtualKey, keyInfo⟩ := entry
  unfold synchronizePressedState ReleaseAgrees
  dsimp only
  split
  · next skips =>
      refine (ExactGuard.refl _).congr (iff_of_true trivial fun some checks _ => ?_)
      simp [some, checks] at skips
  · next checked =>
      simp only [Bool.or_eq_true, decide_eq_true_eq, Bool.not_eq_true', not_or,
        Bool.not_eq_false] at checked
      cases recorded : handler.pressingRecords keyInfo.physicalKey with
      | none =>
        have agrees : handler.Agrees keyInfo := by
          intro logical found
          exact absurd (recorded.symm.trans found) (Option.some_ne_none logical).symm
        refine ExactGuard.congr ?_ (iff_of_true trivial fun _ _ _ => agrees)
        split
        · next pressed => cases pressed
        · exact exact_down keyInfo.logicalKey rfl rfl rfl rfl recorded
        · exact .refl handler
      | some known =>
        split
        · next releases _ =>
            refine ExactGuard.congr (exact_up keyInfo.logicalKey rfl rfl rfl rfl recorded) ?_
            rw [← agrees_iff recorded]
            exact ⟨fun agrees _ _ _ => agrees,
              fun agrees => agrees checked.1 checked.2 releases⟩
        · next pressed => cases pressed
        · next holds _ =>
            refine (ExactGuard.refl handler).congr (iff_of_true trivial fun _ _ releases => ?_)
            exact absurd rfl (holds releases)

/-- The main event carries the logical key of the record. -/
theorem exact_sendMainEvent {message : KeyMessage} {type : FlutterKeyEventType}
    {character : List UInt8} {resultLogicalKey : LogicalKey}
    {eventualLogicalRecord : Option LogicalKey}
    (main : handler.mainEvent message =
      some (type, character, resultLogicalKey, eventualLogicalRecord)) :
    ExactGuard taps taps handler True
      (handler.sendMainEvent message type character resultLogicalKey eventualLogicalRecord) := by
  unfold mainEvent at main
  refine exact_send rfl resultLogicalKey.2 rfl (fun _ => ?_) fun unmet => absurd trivial unmet
  dsimp only
  split at main
  · next recorded =>
      rw [pressing_eq_some recorded]
      split at main
      · cases main
        exact if_pos rfl
      · cases main
  · next released =>
      rw [pressing_eq_none released]
      cases main
      rfl
  · cases main
  · next recorded =>
      rw [pressing_eq_some recorded]
      cases main
      exact if_pos rfl

theorem exact_synchronizeCriticalToggledStates (handler : KeyboardKeyEmbedderHandler)
    (message : KeyMessage) :
    ExactGuard taps taps handler (handler.TogglesAgree message)
      (handler.synchronizeCriticalToggledStates message).1 := by
  have toggles := ExactGuard.foldl (exact_synchronizeToggledState message) (handler, true)
    handler.criticalKeys
  exact ⟨toggles.keeps, toggles.loses, toggles.stays⟩

theorem exact_synchronizeCriticalPressedStates (handler : KeyboardKeyEmbedderHandler)
    (message : KeyMessage) (eventKeyCanBeRepeat : Bool) (getKeyState : UInt32 → Int16) :
    ExactGuard taps taps handler (handler.ReleasesAgree message eventKeyCanBeRepeat getKeyState)
      (handler.synchronizeCriticalPressedStates message eventKeyCanBeRepeat getKeyState) :=
  ExactGuard.foldl (exact_synchronizePressedState message eventKeyCanBeRepeat getKeyState) handler
    handler.criticalKeys

theorem exact_keyboardHookImpl (handler : KeyboardKeyEmbedderHandler) (message : KeyMessage) :
    ExactGuard taps taps handler (handler.MessageAgrees message)
      (handler.keyboardHookImpl message) := by
  unfold keyboardHookImpl MessageAgrees
  split
  · next filtered =>
      exact (ExactGuard.refl handler).congr (iff_of_true trivial fun sent => absurd filtered sent)
  · next sent =>
      let seen := handler.updateLastSeenCriticalKey message.key message.physicalKey
        (handler.sequenceLogicalKey message)
      let toggled := seen.synchronizeCriticalToggledStates message
      let pressed :=
        toggled.1.synchronizeCriticalPressedStates message toggled.2 message.pressedStates
      have sees : ExactGuard taps taps handler True seen := exact_same (fun _ => rfl) rfl
      have presses : ExactGuard taps taps handler
          (seen.TogglesAgree message ∧
            toggled.1.ReleasesAgree message toggled.2 message.pressedStates) pressed := by
        refine ((sees.trans (exact_synchronizeCriticalToggledStates seen message)).trans
          (exact_synchronizeCriticalPressedStates toggled.1 message toggled.2 _)).congr ?_
        rw [true_and]
      rw [forall_prop_of_true sent]
      change ExactGuard taps taps handler (seen.TogglesAgree message ∧
        toggled.1.ReleasesAgree message toggled.2 message.pressedStates ∧
          match pressed.mainEvent message with
          | none => True
          | some (type, character, resultLogicalKey, eventualLogicalRecord) =>
            (pressed.sendMainEvent message type character resultLogicalKey
              eventualLogicalRecord).ReleasesAgree message toggled.2 message.laterStates)
        (match pressed.mainEvent message with
          | none => pressed
          | some (type, character, resultLogicalKey, eventualLogicalRecord) =>
            (pressed.sendMainEvent message type character resultLogicalKey
              eventualLogicalRecord).synchronizeCriticalPressedStates message toggled.2
                message.laterStates)
      cases main : pressed.mainEvent message with
      | none => exact presses.congr (by rw [and_true])
      | some event =>
        refine ((presses.trans (exact_sendMainEvent main)).trans
          (exact_synchronizeCriticalPressedStates _ message toggled.2 _)).congr ?_
        rw [and_true, and_assoc]

theorem exact_keyboardHook (handler : KeyboardKeyEmbedderHandler) (message : KeyMessage) :
    ExactGuard taps taps handler (handler.CallAgrees (.keyboardHook message))
      (handler.keyboardHook message) := by
  let reset := { handler with sentAnyEvents := false }
  let hooked := reset.keyboardHookImpl message
  have resets : ExactGuard taps taps handler True reset := exact_same (fun _ => rfl) rfl
  have hooks : ExactGuard taps taps handler (reset.MessageAgrees message) hooked :=
    (resets.trans (exact_keyboardHookImpl reset message)).congr (iff_of_eq (true_and _))
  change ExactGuard taps taps handler (reset.MessageAgrees message)
    (if !hooked.sentAnyEvents then hooked.sendEvent .empty else hooked)
  split
  · have empty : ExactGuard taps taps hooked True (hooked.sendEvent .empty) := by
      refine exact_same (fun physical => ?_) rfl
      simp [history, sendEvent, FlutterKeyEvent.empty, FlutterKeyEvent.isEmpty]
    exact (hooks.trans empty).congr (iff_of_eq (and_true _))
  · exact hooks

theorem exact_releaseKnown (handler : KeyboardKeyEmbedderHandler) (physical : UInt64) :
    ExactGuard taps taps handler True (handler.releaseKnown physical) := by
  unfold releaseKnown
  split
  · next known recorded =>
      exact (exact_up known rfl rfl rfl rfl recorded).congr (iff_of_true rfl trivial)
  · exact .refl handler

theorem exact_synthesizeIfNeeded (handler : KeyboardKeyEmbedderHandler)
    (physicalLeft physicalRight : UInt64) (logicalLeft : LogicalKey) (isPressed : Bool) :
    ExactGuard taps taps handler True
      (handler.synthesizeIfNeeded physicalLeft physicalRight logicalLeft isPressed) := by
  unfold synthesizeIfNeeded
  dsimp only
  split
  · next down =>
      simp only [Bool.and_eq_true, Bool.not_eq_true', Bool.or_eq_false_iff,
        Option.isSome_eq_false_iff, Option.isNone_iff_eq_none] at down
      exact exact_down logicalLeft rfl rfl rfl rfl down.2.1
  · split
    · exact ((exact_releaseKnown handler physicalLeft).trans
        (exact_releaseKnown _ physicalRight)).congr (and_self_iff)
    · exact .refl handler

theorem exact_call (handler : KeyboardKeyEmbedderHandler) (call : Call) :
    ExactGuard taps taps handler (handler.CallAgrees call) (handler.call call) := by
  cases call with
  | keyboardHook message => exact exact_keyboardHook handler message
  | syncModifiersIfNeeded modifiersState =>
    exact ((exact_synthesizeIfNeeded handler ..).trans
      (exact_synthesizeIfNeeded _ ..)).congr and_self_iff

/-! ## Runs -/

theorem taps_create (mapVirtualKeyToScanCode : UInt32 → Bool → Int16)
    (getKeyState : UInt32 → Int16) : taps.Kept (create mapVirtualKeyToScanCode getKeyState) :=
  fun _ => rfl

/-- After every run, the events of each physical key are taps and its record is the logical key
of the tap that is open, exactly when every critical key that a synchronization has released
was recorded under the logical key it was last seen with. -/
theorem run_isTaps_iff (mapVirtualKeyToScanCode : UInt32 → Bool → Int16)
    (getKeyState : UInt32 → Int16) (calls : List Call) :
    (∀ physical,
        IsTaps (((create mapVirtualKeyToScanCode getKeyState).run calls).history physical)
          (((create mapVirtualKeyToScanCode getKeyState).run calls).pressing physical)) ↔
      MeetsGuards CallAgrees call (create mapVirtualKeyToScanCode getKeyState) calls := by
  have runs := ExactGuard.foldl exact_call (create mapVirtualKeyToScanCode getKeyState) calls
  rw [← runs.kept_iff (taps_create mapVirtualKeyToScanCode getKeyState)]
  exact forall_congr' fun physical => following_eq_some_iff.symm

/-- The scan codes of a PC keyboard. -/
def pcScanCode (virtualKey : UInt32) (_ : Bool) : Int16 :=
  match virtualKey with
  | 0x14 => 0x3a
  | 0x5B => 0x5b
  | 0x5C => 0x5c
  | 0x90 => 0x45
  | 0x91 => 0x46
  | 0xA0 => 0x2a
  | 0xA1 => 0x36
  | 0xA2 | 0xA3 => 0x1d
  | 0xA4 | 0xA5 => 0x38
  | _ => 0

/-- The CapsLock key of a layout that has a backspace there. -/
def remappedCapsLock : KeyMessage where
  key := 0x08
  scancode := 0x3a
  action := .keyDown
  character := 0x08
  extended := false
  wasDown := false
  toggledStates _ := 0
  pressedStates _ := 0
  laterStates _ := 0

/-- CapsLock goes up where a backspace went down. -/
theorem remappedCapsLock_not_isTaps :
    ¬ ∀ calls physical,
      IsTaps (((create pcScanCode fun _ => 0).run calls).history physical)
        (((create pcScanCode fun _ => 0).run calls).pressing physical) := by
  intro taps
  have followed := following_eq_some_iff.mpr (taps [.keyboardHook remappedCapsLock] 0x70039)
  have lost : following (((create pcScanCode fun _ => 0).run
      [.keyboardHook remappedCapsLock]).history 0x70039) = none := by decide +kernel
  exact Option.some_ne_none _ (followed.symm.trans lost)

end KeyboardKeyEmbedderHandler

end FlutterEngine.Windows
