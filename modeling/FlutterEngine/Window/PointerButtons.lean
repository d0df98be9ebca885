import FlutterEngine.Window.PointerProtocol

/-!
# The buttons of synthesized moves

Before an up event or a signal elsewhere, a move event is synthesized for a pointer that is down,
with the buttons kept in the state of its device. A down event stores its buttons there; a move
event sets them in its own copy of the state, after that copy was stored.
-/

namespace FlutterEngine.Window

open FlutterEngine.Std

variable {Coord : Type}

namespace PointerData

/-- A down event of the device. -/
def presses (device : Int) (data : PointerData Coord) : Bool :=
  decide (data.device = device) && decide (data.Is .kDown)

/-- A down or a move event of the device. -/
def holds (device : Int) (data : PointerData Coord) : Bool :=
  decide (data.device = device) && (decide (data.Is .kDown) || decide (data.Is .kMove))

/-- An up event or a signal: what a pointer that is down is moved to. -/
def followsMove (data : PointerData Coord) : Prop := data.Is .kUp ∨ data.signals = true

theorem holds_of_presses {device : Int} {data : PointerData Coord}
    (presses : data.presses device = true) : data.holds device = true := by
  simp only [PointerData.presses, PointerData.holds, Bool.and_eq_true, Bool.or_eq_true] at *
  exact ⟨presses.1, .inl presses.2⟩

end PointerData

namespace PointerDataPacketConverter

variable [Zero Coord] [One Coord] [Sub Coord] [BEq Coord]
  {converter next : PointerDataPacketConverter Coord} {data positional : PointerData Coord}
  {state after unset : PointerState Coord} {events : List (PointerData Coord)}

/-! ## What a conversion does to the buttons -/

omit [Zero Coord] [One Coord] in
/-- A positional event leaves the buttons of its device and whether it is down. -/
theorem synthesizeIfMoved_buttons :
    (converter.synthesizeIfMoved data state positional).state.buttons = state.buttons ∧
      (converter.synthesizeIfMoved data state positional).state.isDown = state.isDown := by
  rw [synthesizeIfMoved]
  split
  · exact ⟨rfl, rfl⟩
  · exact ⟨rfl, rfl⟩

omit [Zero Coord] [One Coord] in
theorem synthesizeIfMoved_stored (own : positional.device = data.device)
    (stored : converter.states data.device = some state) :
    (converter.synthesizeIfMoved data state positional).converter.states data.device =
      some (converter.synthesizeIfMoved data state positional).state := by
  rw [synthesizeIfMoved]
  split
  · rw [← own]
    exact Function.update_self _ _ _
  · exact stored

/-- The state of the device after `data`, when it is down then, has the buttons it had before, or
those of the down event that `data` is. -/
def KeepsButtons (converter : PointerDataPacketConverter Coord) (data : PointerData Coord)
    (next : PointerDataPacketConverter Coord) : Prop :=
  ∀ after, next.states data.device = some after → after.isDown = true →
    (data.Is .kDown ∧ after.buttons = data.buttons) ∨
      ¬ data.Is .kDown ∧ ∃ state, converter.states data.device = some state ∧
        state.isDown = true ∧ after.buttons = state.buttons

omit [Zero Coord] [One Coord] [Sub Coord] [BEq Coord] in
/-- A pointer that is not down afterwards keeps nothing. -/
theorem keepsButtons_of_up (stored : next.states data.device = some state)
    (up : state.isDown = false) : KeepsButtons converter data next := by
  intro after found down
  cases stored.symm.trans found
  exact absurd (up.symm.trans down) Bool.false_ne_true

omit [Zero Coord] [One Coord] [Sub Coord] [BEq Coord] in
theorem keepsButtons_of_same (other : ¬ data.Is .kDown)
    (before : converter.states data.device = some state)
    (stored : next.states data.device = some after) (down : after.isDown = state.isDown)
    (buttons : after.buttons = state.buttons) : KeepsButtons converter data next := by
  intro final found isDown
  cases stored.symm.trans found
  exact .inr ⟨other, state, before, down.symm.trans isDown, buttons⟩

omit [One Coord] in
theorem findOrAdd_found : (converter.findOrAdd data unset).converter.states data.device =
    some (converter.findOrAdd data unset).state :=
  (@findOrAdd_emits _ _ _ _ _ _ False False unset).stored

omit [Zero Coord] [One Coord] in
theorem cancel_buttons (converts : converter.cancel data = some (next, events)) :
    KeepsButtons converter data next := by
  rw [cancel] at converts
  split at converts
  next absent =>
    cases converts
    intro after found _
    exact absurd (absent.symm.trans found) (by simp)
  next state stored =>
    split at converts
    · contradiction
    · cases converts
      exact keepsButtons_of_up (Function.update_self _ _ _) rfl

omit [Zero Coord] [One Coord] in
theorem remove_buttons (converts : converter.remove data = some (next, events)) :
    KeepsButtons converter data next := by
  rw [remove] at converts
  split at converts
  · contradiction
  · cases converts
    intro after found _
    exact absurd ((Function.update_self _ _ _).symm.trans found) (by simp)

omit [One Coord] in
theorem hover_buttons (converts : converter.hover data unset = some (next, events)) :
    KeepsButtons converter data next := by
  simp only [hover] at converts
  split at converts
  · contradiction
  next isDown =>
    cases converts
    rw [synthesizeIfMoved]
    split
    · exact keepsButtons_of_up (Function.update_self _ _ _) (Bool.eq_false_iff.mpr isDown)
    · exact keepsButtons_of_up findOrAdd_found (Bool.eq_false_iff.mpr isDown)

omit [One Coord] in
theorem down_buttons (is : data.Is .kDown)
    (converts : converter.down data unset = some (next, events)) :
    KeepsButtons converter data next := by
  simp only [down] at converts
  split at converts
  · contradiction
  · cases converts
    intro after found _
    cases (Function.update_self _ _ _).symm.trans found
    exact .inl ⟨is, rfl⟩

omit [Zero Coord] [One Coord] [BEq Coord] in
theorem move_buttons (is : data.Is .kMove) (converts : converter.move data = some (next, events)) :
    KeepsButtons converter data next := by
  rw [move] at converts
  split at converts
  · contradiction
  next state stored =>
    split at converts
    · contradiction
    · cases converts
      refine keepsButtons_of_same (fun other => ?_) stored (Function.update_self _ _ _) rfl rfl
      cases is.2.symm.trans other.2

omit [Zero Coord] [One Coord] in
theorem up_buttons (converts : converter.up data = some (next, events)) :
    KeepsButtons converter data next := by
  rw [up] at converts
  split at converts
  · contradiction
  · split at converts
    · contradiction
    · cases converts
      exact keepsButtons_of_up (Function.update_self _ _ _) rfl

theorem panZoomStart_buttons (converts : converter.panZoomStart data unset = some (next, events)) :
    KeepsButtons converter data next := by
  simp only [panZoomStart] at converts
  split at converts
  · contradiction
  next isDown =>
    split at converts
    · contradiction
    · cases converts
      refine keepsButtons_of_up (Function.update_self _ _ _) ?_
      exact synthesizeIfMoved_buttons.2.trans (Bool.eq_false_iff.mpr isDown)

omit [Zero Coord] [One Coord] [BEq Coord] in
theorem panZoomUpdate_buttons (converts : converter.panZoomUpdate data = some (next, events)) :
    KeepsButtons converter data next := by
  rw [panZoomUpdate] at converts
  split at converts
  · contradiction
  next state stored =>
    split at converts
    · contradiction
    next isDown =>
      split at converts
      · contradiction
      · cases converts
        exact keepsButtons_of_up (Function.update_self _ _ _) (Bool.eq_false_iff.mpr isDown)

omit [One Coord] in
theorem panZoomEnd_buttons (is : data.Is .kPanZoomEnd)
    (converts : converter.panZoomEnd data = some (next, events)) :
    KeepsButtons converter data next := by
  rw [panZoomEnd] at converts
  split at converts
  · contradiction
  next state stored =>
    split at converts
    · contradiction
    · cases converts
      refine keepsButtons_of_same (fun other => ?_) stored (Function.update_self _ _ _)
        synthesizeIfMoved_buttons.2 synthesizeIfMoved_buttons.1
      cases is.2.symm.trans other.2

omit [One Coord] in
theorem signal_buttons (signals : data.signals = true)
    (converts : converter.signal data unset = some (next, events)) :
    KeepsButtons converter data next := by
  cases converts
  have own : ∀ positional : PointerData Coord, positional.device = data.device →
      KeepsButtons converter data ((converter.findOrAdd data unset).converter.synthesizeIfMoved
        data (converter.findOrAdd data unset).state positional).converter := by
    intro positional own after found down
    cases (synthesizeIfMoved_stored own findOrAdd_found).symm.trans found
    have before := findOrAdd_stored (.inl (synthesizeIfMoved_buttons.2.symm.trans down))
    exact .inr ⟨PointerData.not_plain_of_signals signals _, _, before,
      synthesizeIfMoved_buttons.2.symm.trans down, synthesizeIfMoved_buttons.1⟩
  refine own _ ?_
  split <;> rfl

/-- Only a down event changes the buttons of a pointer that is down. -/
theorem convertPointerData_buttons
    (converts : converter.convertPointerData data unset = some (next, events)) :
    KeepsButtons converter data next := by
  unfold convertPointerData at converts
  cases kind : data.signalKind with
  | kNone =>
    rw [kind] at converts
    cases change : data.change with
    | kCancel => exact cancel_buttons (by rwa [change] at converts)
    | kAdd =>
      rw [change] at converts
      simp only [add] at converts
      split at converts
      · contradiction
      · cases converts
        exact keepsButtons_of_up (Function.update_self _ _ _) rfl
    | kRemove => exact remove_buttons (by rwa [change] at converts)
    | kHover => exact hover_buttons (by rwa [change] at converts)
    | kDown => exact down_buttons ⟨kind, change⟩ (by rwa [change] at converts)
    | kMove => exact move_buttons ⟨kind, change⟩ (by rwa [change] at converts)
    | kUp => exact up_buttons (by rwa [change] at converts)
    | kPanZoomStart => exact panZoomStart_buttons (by rwa [change] at converts)
    | kPanZoomUpdate => exact panZoomUpdate_buttons (by rwa [change] at converts)
    | kPanZoomEnd => exact panZoomEnd_buttons ⟨kind, change⟩ (by rwa [change] at converts)
    | undefined value =>
      rw [change] at converts
      cases converts
      intro after found down
      refine .inr ⟨fun is => ?_, after, found, down, rfl⟩
      cases change.symm.trans is.2
  | undefined value =>
    rw [kind] at converts
    cases converts
    intro after found down
    refine .inr ⟨fun is => ?_, after, found, down, rfl⟩
    cases kind.symm.trans is.1
  | kScroll | kScrollInertiaCancel | kScale =>
    rw [kind] at converts
    exact signal_buttons (by rw [PointerData.signals, kind]) converts

/-! ## What is synthesized before an up event or a signal -/

/-- The pointer of the device is down, elsewhere than the data, with these buttons. -/
def DownElsewhere (converter : PointerDataPacketConverter Coord) (data : PointerData Coord)
    (buttons : Int) : Prop :=
  ∃ state, converter.states data.device = some state ∧ state.isDown = true ∧
    locationNeedsUpdate data state = true ∧ buttons = state.buttons

/-- The moves pushed before the data themselves: one with the buttons of the state if the pointer is
down elsewhere, and otherwise none. -/
structure SynthesizesMoves (converter : PointerDataPacketConverter Coord)
    (data : PointerData Coord) (events : List (PointerData Coord)) : Prop where
  pushed : ∀ event ∈ events.dropLast, event.Is .kMove → converter.DownElsewhere data event.buttons
  needed : ∀ buttons, converter.DownElsewhere data buttons →
    ∃ event ∈ events.dropLast, event.Is .kMove ∧ event.buttons = buttons

omit [Zero Coord] [One Coord] in
theorem up_synthesizes (is : data.Is .kUp) (converts : converter.up data = some (next, events)) :
    converter.SynthesizesMoves data events := by
  rw [up] at converts
  split at converts
  · contradiction
  next state stored =>
    split at converts
    · contradiction
    next isDown =>
      cases converts
      have down : state.isDown = true := by simpa using isDown
      rw [synthesizeIfMoved]
      split
      next moved =>
        constructor
        · intro event pushed _
          rw [List.dropLast_concat, List.mem_singleton] at pushed
          exact ⟨state, stored, down, moved, pushed ▸ rfl⟩
        · rintro buttons ⟨other, found, -, -, rfl⟩
          cases stored.symm.trans found
          rw [List.dropLast_concat]
          exact ⟨_, List.mem_singleton_self _, ⟨is.1, rfl⟩, rfl⟩
      next same =>
        constructor
        · intro event pushed _
          rw [List.dropLast_concat] at pushed
          exact absurd pushed List.not_mem_nil
        · rintro buttons ⟨other, found, -, moved, -⟩
          cases stored.symm.trans found
          exact absurd moved same

omit [One Coord] [Sub Coord] [BEq Coord] in
/-- The add event of a pointer that is new is no move. -/
theorem findOrAdd_events {event : PointerData Coord}
    (pushed : event ∈ (converter.findOrAdd data unset).events) : event.Is .kAdd := by
  rw [findOrAdd] at pushed
  split at pushed
  · exact absurd pushed List.not_mem_nil
  · rw [List.mem_singleton.mp pushed]
    exact ⟨rfl, rfl⟩

omit [One Coord] in
theorem signal_synthesizes (converts : converter.signal data unset = some (next, events)) :
    converter.SynthesizesMoves data events := by
  cases converts
  have notAdd : ∀ {event : PointerData Coord}, event.Is .kMove →
      event ∉ (converter.findOrAdd data unset).events := by
    intro event is pushed
    cases is.2.symm.trans (findOrAdd_events pushed).2
  rw [synthesizeIfMoved]
  split
  next moved =>
    constructor
    · intro event pushed is
      rw [List.dropLast_concat, List.mem_append, List.mem_singleton] at pushed
      rcases pushed with added | rfl
      · exact absurd added (notAdd is)
      · by_cases down : (converter.findOrAdd data unset).state.isDown = true
        · refine ⟨_, findOrAdd_stored (.inl down), down, moved, ?_⟩
          rw [if_pos down]
          rfl
        · rw [if_neg down] at is
          cases is.2
    · rintro buttons ⟨state, stored, down, -, rfl⟩
      have found : (converter.findOrAdd data unset).state = state := by
        rw [findOrAdd, stored]
      rw [List.dropLast_concat, found, if_pos down]
      exact ⟨_, List.mem_append_right _ (List.mem_singleton_self _), ⟨rfl, rfl⟩, rfl⟩
  next same =>
    constructor
    · intro event pushed is
      rw [List.dropLast_concat, List.append_nil] at pushed
      exact absurd pushed (notAdd is)
    · rintro buttons ⟨state, stored, -, moved, -⟩
      have found : (converter.findOrAdd data unset).state = state := by
        rw [findOrAdd, stored]
      rw [found] at same
      exact absurd moved same

theorem convertPointerData_synthesizes (follows : data.followsMove)
    (converts : converter.convertPointerData data unset = some (next, events)) :
    converter.SynthesizesMoves data events := by
  rcases follows with is | signals
  · rw [convertPointerData, is.1, is.2] at converts
    exact up_synthesizes is converts
  · unfold convertPointerData at converts
    cases kind : data.signalKind with
    | kNone | undefined value => simp [PointerData.signals, kind] at signals
    | kScroll | kScrollInertiaCancel | kScale =>
      rw [kind] at converts
      exact signal_synthesizes converts

/-! ## Runs -/

/-- For a pointer that is down, the state has the buttons of its last down event. -/
def Holds (converter : PointerDataPacketConverter Coord) (inputs : List (PointerData Coord)) :
    Prop :=
  ∀ device state, converter.states device = some state → state.isDown = true →
    (∃ pressed, Trace.last (PointerData.presses device) inputs = some pressed ∧
      pressed.buttons = state.buttons) ∧
      ∃ held, Trace.last (PointerData.holds device) inputs = some held

omit [Zero Coord] [One Coord] [Sub Coord] [BEq Coord] in
theorem holds_nil : Holds ({} : PointerDataPacketConverter Coord) [] :=
  fun _ _ absent => by contradiction

variable {inputs : List (PointerData Coord)}
  {converted : PointerDataPacketConverter Coord × List (PointerData Coord)}

theorem Holds.concat (before : Holds converter inputs)
    (converts : converter.convertPointerData data unset = some (next, events)) :
    Holds next (inputs ++ [data]) := by
  have converted : Converted False False converter data events next :=
    convertPointerData_emits False.elim False.elim converts
  obtain ⟨changed, emits⟩ := converted
  intro device after stored down
  by_cases own : device = data.device
  · subst own
    rcases convertPointerData_buttons converts after stored down with
      ⟨is, buttons⟩ | ⟨other, state, found, was, buttons⟩
    · have presses : data.presses data.device = true := by simp [PointerData.presses, is]
      exact ⟨⟨data, Trace.last_concat_pass presses, buttons.symm⟩, data,
        Trace.last_concat_pass (PointerData.holds_of_presses presses)⟩
    · obtain ⟨⟨pressed, last, same⟩, held, heldLast⟩ := before _ state found was
      have skips : data.presses data.device = false := by simp [PointerData.presses, other]
      refine ⟨⟨pressed, (Trace.last_concat_skip skips).trans last, same.trans buttons.symm⟩, ?_⟩
      cases holding : data.holds data.device with
      | true => exact ⟨data, Trace.last_concat_pass holding⟩
      | false => exact ⟨held, (Trace.last_concat_skip holding).trans heldLast⟩
  · have elsewhere : data.device ≠ device := Ne.symm own
    rw [emits.states, Function.update_of_ne own] at stored
    obtain ⟨⟨pressed, last, same⟩, held, heldLast⟩ := before device after stored down
    rw [Trace.last_concat_skip (by simp [PointerData.presses, elsewhere]),
      Trace.last_concat_skip (by simp [PointerData.holds, elsewhere])]
    exact ⟨⟨pressed, last, same⟩, held, heldLast⟩

/-- A run over the inputs so far ends with what they hold. -/
theorem convert_holds {earlier : List (PointerData Coord)} (before : Holds converter earlier)
    (converts : convert unset converter inputs = some converted) :
    Holds converted.1 (earlier ++ inputs) := by
  induction inputs generalizing converter earlier converted with
  | nil =>
    cases converts
    rwa [List.append_nil]
  | cons data inputs ih =>
    obtain ⟨first, convertsFirst, converts⟩ := Option.bind_eq_some_iff.mp converts
    obtain ⟨rest, convertsRest, rfl⟩ := Option.map_eq_some_iff.mp converts
    have final := ih (before.concat convertsFirst) convertsRest
    rwa [List.append_assoc] at final

theorem convert_append {first second : List (PointerData Coord)}
    (converts : convert unset converter (first ++ second) = some converted) :
    ∃ middle rest, convert unset converter first = some middle ∧
      convert unset middle.1 second = some rest := by
  induction first generalizing converter converted with
  | nil => exact ⟨_, _, rfl, converts⟩
  | cons data first ih =>
    obtain ⟨head, convertsHead, converts⟩ := Option.bind_eq_some_iff.mp converts
    obtain ⟨tail, convertsTail, -⟩ := Option.map_eq_some_iff.mp converts
    obtain ⟨middle, rest, convertsFirst, convertsSecond⟩ := ih convertsTail
    refine ⟨(middle.1, head.2 ++ middle.2), rest, ?_, convertsSecond⟩
    rw [convert, convertsHead, Option.bind_some, convertsFirst]
    rfl

end PointerDataPacketConverter

open PointerDataPacketConverter

variable [Zero Coord] [One Coord] [Sub Coord] [BEq Coord]

/-- Every move synthesized before an up event or a signal has the buttons of the last down or move
event of its device. -/
def CarriesLastButtons (unset : PointerState Coord) (inputs : List (PointerData Coord)) : Prop :=
  Trace.Each (fun before data => data.followsMove →
    ∀ converter earlier next events, convert unset {} before = some (converter, earlier) →
      converter.convertPointerData data unset = some (next, events) →
        ∀ event ∈ events.dropLast, event.Is .kMove →
          ∃ held, Trace.last (PointerData.holds data.device) before = some held ∧
            event.buttons = held.buttons) inputs

/-- Where a pointer that is down is found elsewhere by an up event or a signal, its last move had
the buttons it went down with. -/
def KeepsFirstButtons (unset : PointerState Coord) (inputs : List (PointerData Coord)) : Prop :=
  Trace.Each (fun before data => data.followsMove →
    ∀ converter earlier state, convert unset {} before = some (converter, earlier) →
      converter.states data.device = some state → state.isDown = true →
        locationNeedsUpdate data state = true →
          ∀ pressed held, Trace.last (PointerData.presses data.device) before = some pressed →
            Trace.last (PointerData.holds data.device) before = some held →
              held.buttons = pressed.buttons) inputs

/-- The buttons of the last down event are carried, so those of the last move event are exactly
where the two agree. -/
theorem carriesLastButtons_iff {unset : PointerState Coord} {inputs : List (PointerData Coord)}
    {converted : PointerDataPacketConverter Coord × List (PointerData Coord)}
    (converts : convert unset {} inputs = some converted) :
    CarriesLastButtons unset inputs ↔ KeepsFirstButtons unset inputs := by
  constructor
  · intro carries before data after split follows converter earlier state ran stored down moved
      pressed held lastPressed lastHeld
    rw [split] at converts
    obtain ⟨middle, rest, convertsBefore, convertsRest⟩ := convert_append converts
    cases ran.symm.trans convertsBefore
    obtain ⟨⟨next, events⟩, convertsData, -⟩ := Option.bind_eq_some_iff.mp convertsRest
    have synthesizes := convertPointerData_synthesizes follows convertsData
    obtain ⟨event, pushed, is, buttons⟩ := synthesizes.needed _ ⟨state, stored, down, moved, rfl⟩
    obtain ⟨last, lastIs, same⟩ :=
      carries before data after split follows converter earlier next events ran convertsData
        event pushed is
    cases lastHeld.symm.trans lastIs
    obtain ⟨⟨other, otherIs, agrees⟩, -⟩ := convert_holds holds_nil ran _ state stored down
    cases lastPressed.symm.trans otherIs
    exact same.symm.trans (buttons.trans agrees.symm)
  · intro keeps before data after split follows converter earlier next events ran convertsData
      event pushed is
    obtain ⟨state, stored, down, moved, buttons⟩ :=
      (convertPointerData_synthesizes follows convertsData).pushed event pushed is
    obtain ⟨⟨pressed, lastPressed, agrees⟩, held, lastHeld⟩ :=
      convert_holds holds_nil ran _ state stored down
    refine ⟨held, lastHeld, buttons.trans (agrees.symm.trans ?_)⟩
    exact (keeps before data after split follows converter earlier state ran stored down moved
      pressed held lastPressed lastHeld).symm

/-- A tap that ends elsewhere. -/
theorem carriesLastButtons_tap : CarriesLastButtons unsetState
    [{ pointerAt .kDown 0 with buttons := 1 }, pointerAt .kUp 5] := by
  refine (@carriesLastButtons_iff Int _ _ _ _ _ _ _ rfl).mpr ?_
  intro before data after split _ _ _ _ _ _ _ _ pressed held lastPressed lastHeld
  have same : before.filter (PointerData.holds data.device) =
      before.filter (PointerData.presses data.device) := by
    refine List.filter_congr fun input member => ?_
    have among : input ∈ before ++ data :: after := List.mem_append_left _ member
    rw [← split] at among
    simp only [List.mem_cons, List.not_mem_nil, or_false] at among
    rcases among with rfl | rfl
    · simp [PointerData.holds, PointerData.presses, PointerData.Is, pointerAt]
    · simp [PointerData.holds, PointerData.presses, PointerData.Is, pointerAt]
  rw [Trace.last, same] at lastHeld
  cases lastPressed.symm.trans lastHeld
  rfl

/-- A second button is pressed on the way: the move before the up event has lost it. -/
theorem chord_not_carriesLastButtons :
    let inputs : List (PointerData Int) := [{ pointerAt .kDown 0 with buttons := 1 },
      { pointerAt .kMove 1 with buttons := 3 }, pointerAt .kUp 5]
    (convert unsetState {} inputs).isSome = true ∧ ¬ CarriesLastButtons unsetState inputs := by
  refine ⟨rfl, fun carries => ?_⟩
  obtain ⟨held, last, same⟩ := carries [_, _] _ [] rfl (.inl ⟨rfl, rfl⟩) _ _ _ _ rfl rfl _
    (List.mem_singleton_self _) ⟨rfl, rfl⟩
  cases last
  exact absurd same (by decide)

end FlutterEngine.Window
