import FlutterEngine.Std.Machine
import FlutterEngine.Window.PointerEmission

/-!
# Every conversion is a chain of emissions

One lemma for each piece of `ConvertPointerData` and one for each of its branches.
-/

namespace FlutterEngine.Window

open FlutterEngine.Std

namespace PointerDataPacketConverter

variable {Coord : Type} [Zero Coord] [Sub Coord] [BEq Coord]
  {converter next : PointerDataPacketConverter Coord} {data positional : PointerData Coord}
  {state unset : PointerState Coord} {events : List (PointerData Coord)} {calm steady : Prop}

/-! ## Pieces -/

omit [Zero Coord] [BEq Coord] in
theorem updateDeltaAndState_moves :
    Moves state (converter.updateDeltaAndState data state).data
      (converter.updateDeltaAndState data state).state :=
  ⟨rfl, rfl, rfl, rfl, rfl, rfl, rfl⟩

omit [Zero Coord] [BEq Coord] in
theorem updateDeltaAndState_keepsPan (converter : PointerDataPacketConverter Coord)
    (same : state.isPanZoomActive = true → data.panX = state.panX ∧ data.panY = state.panY) :
    KeepsPan state (converter.updateDeltaAndState data state).state :=
  same

/-- The state of the device is that stored, or that of a pointer just added. -/
theorem findOrAdd_emits (unset : PointerState Coord) :
    Emits calm steady converter data.device (converter.findOrAdd data unset).events
      (some (converter.findOrAdd data unset).state) (converter.findOrAdd data unset).converter := by
  rw [findOrAdd]
  cases stored : converter.states data.device with
  | some state => exact .none_pushed stored
  | none => exact .one_pushed stored rfl rfl (.add ⟨rfl, rfl⟩ rfl rfl rfl rfl)

omit [Sub Coord] [BEq Coord] in
theorem findOrAdd_stored (active : (converter.findOrAdd data unset).state.isDown = true ∨
      (converter.findOrAdd data unset).state.isPanZoomActive = true) :
    converter.states data.device = some (converter.findOrAdd data unset).state := by
  rw [findOrAdd] at active ⊢
  cases stored : converter.states data.device with
  | some state => rfl
  | none =>
    rw [stored] at active
    exact absurd active (by simp [ensurePointerState])

/-- A positional event, or none, leaves the device where the data are. -/
structure Arrives (data : PointerData Coord) (before after : PointerState Coord) : Prop where
  place : SamePlace data after
  pointerIdentifier : after.pointerIdentifier = before.pointerIdentifier
  isDown : after.isDown = before.isDown
  isPanZoomActive : after.isPanZoomActive = before.isPanZoomActive

omit [Zero Coord] in
theorem synthesizeIfMoved_arrives (placeX : positional.physicalX = data.physicalX)
    (placeY : positional.physicalY = data.physicalY) :
    Arrives data state (converter.synthesizeIfMoved data state positional).state := by
  rw [synthesizeIfMoved]
  split
  · exact ⟨.inr ⟨placeX, placeY⟩, rfl, rfl, rfl⟩
  · next same => exact ⟨.inl (Bool.eq_false_iff.mpr same), rfl, rfl, rfl⟩

theorem synthesizeIfMoved_emits (own : positional.device = data.device)
    (stored : converter.states data.device = some state)
    (emission : locationNeedsUpdate data state = true →
      Emission calm steady (some state) converter.pointer
        (converter.updateDeltaAndState positional state).data
        (some (converter.updateDeltaAndState positional state).state) converter.pointer) :
    Emits calm steady converter data.device
      (converter.synthesizeIfMoved data state positional).events
      (some (converter.synthesizeIfMoved data state positional).state)
      (converter.synthesizeIfMoved data state positional).converter := by
  rw [synthesizeIfMoved]
  split
  next moved =>
    refine .one_pushed stored own ?_ (emission moved)
    exact congrArg (Function.update converter.states · _) own
  next => exact .none_pushed stored

/-- The positional event, or none, and where the device is then. -/
def Synced (calm steady : Prop) (converter : PointerDataPacketConverter Coord)
    (data : PointerData Coord) (state : PointerState Coord) (positional : PointerData Coord) :
    Prop :=
  let moved := converter.synthesizeIfMoved data state positional
  Emits calm steady converter data.device moved.events (some moved.state) moved.converter ∧
    Arrives data state moved.state

section

variable (own : positional.device = data.device) (placeX : positional.physicalX = data.physicalX)
  (placeY : positional.physicalY = data.physicalY)

include own placeX placeY

/-- A hover event is synthesized where the pointer is up. -/
theorem hovers (is : positional.Is .kHover)
    (stored : converter.states data.device = some state) (up : state.isDown = false)
    (idle : calm → locationNeedsUpdate data state = true → state.isPanZoomActive = false)
    (same : steady → locationNeedsUpdate data state = true → state.isPanZoomActive = true →
      positional.panX = state.panX ∧ positional.panY = state.panY) :
    Synced calm steady converter data state positional :=
  ⟨synthesizeIfMoved_emits own stored fun moved =>
      .hover is up (fun assumed => idle assumed moved) updateDeltaAndState_moves
        fun assumed => updateDeltaAndState_keepsPan _ (same assumed moved),
    synthesizeIfMoved_arrives placeX placeY⟩

/-- A move event is synthesized where the pointer is down. -/
theorem movesAlong (is : positional.Is .kMove)
    (stored : converter.states data.device = some state) (down : state.isDown = true)
    (carries : calm → locationNeedsUpdate data state = true →
      positional.pointerIdentifier = state.pointerIdentifier)
    (same : steady → locationNeedsUpdate data state = true → state.isPanZoomActive = true →
      positional.panX = state.panX ∧ positional.panY = state.panY) :
    Synced calm steady converter data state positional :=
  ⟨synthesizeIfMoved_emits own stored fun moved =>
      .move is down (fun assumed => carries assumed moved) updateDeltaAndState_moves
        fun assumed => updateDeltaAndState_keepsPan _ (same assumed moved),
    synthesizeIfMoved_arrives placeX placeY⟩

end

/-! ## What the conditions say of a state -/

omit [Zero Coord] [Sub Coord] in
theorem Calm.idle (calm : converter.Calm data) (stored : converter.states data.device = some state)
    (interrupting : interrupts data state = true) : state.isPanZoomActive = false := by
  by_contra active
  have quiet := (calm state stored).1 ((Bool.not_eq_false _).mp active)
  exact Bool.false_ne_true (quiet.symm.trans interrupting)

omit [Sub Coord] in
theorem Calm.found_idle (calm : converter.Calm data)
    (interrupting : interrupts data (converter.findOrAdd data unset).state = true) :
    (converter.findOrAdd data unset).state.isPanZoomActive = false := by
  by_contra active
  have stored := findOrAdd_stored (.inr ((Bool.not_eq_false _).mp active))
  exact active (calm.idle stored interrupting)

omit [Sub Coord] in
theorem Steady.found_pan (steady : converter.Steady data)
    (repositioning : repositions data (converter.findOrAdd data unset).state = true)
    (active : (converter.findOrAdd data unset).state.isPanZoomActive = true) :
    data.panX = (converter.findOrAdd data unset).state.panX ∧
      data.panY = (converter.findOrAdd data unset).state.panY :=
  (steady _ (findOrAdd_stored (.inr active))).2.2 active repositioning

/-! ## Branches -/

section Branches

variable (calmly : calm → converter.Calm data) (steadily : steady → converter.Steady data)

/-- The events of a conversion are a chain of emissions of its device. -/
def Converted (calm steady : Prop) (converter : PointerDataPacketConverter Coord)
    (data : PointerData Coord) (events : List (PointerData Coord))
    (next : PointerDataPacketConverter Coord) : Prop :=
  ∃ after, Emits calm steady converter data.device events after next

include steadily in
/-- A pointer that is down moves to where it is released. -/
theorem release_emits {buttons moving : Int} (is : data.Is .kUp ∨ data.Is .kCancel)
    (stored : converter.states data.device = some state) (down : state.isDown = true) :
    let released := { data with pointerIdentifier := state.pointerIdentifier }
    let moved := converter.synthesizeIfMoved released state
      { released with change := .kMove, synthesized := 1, buttons := moving }
    Converted calm steady converter data (moved.events ++ [released])
      (moved.converter.store released { moved.state with isDown := false, buttons }) := by
  intro released moved
  have plain : data.signalKind = .kNone := is.elim And.left And.left
  obtain ⟨emits, arrives⟩ : Synced calm steady converter released state
      { released with change := .kMove, synthesized := 1, buttons := moving } :=
    movesAlong rfl rfl rfl ⟨plain, rfl⟩ stored down (fun _ _ => rfl)
      fun assumed elsewhere active => by
        refine (steadily assumed state stored).2.2 active ?_
        simp only [repositions, Bool.or_eq_true, Bool.and_eq_true]
        exact .inr ⟨elsewhere, is.imp (.inr <| decide_eq_true ·) decide_eq_true⟩
  refine ⟨_, emits.append (.one_pushed emits.stored rfl rfl ?_)⟩
  exact .release is (arrives.isDown.trans down) arrives.pointerIdentifier.symm
    fun _ => arrives.place

include steadily in
theorem cancel_emits (is : data.Is .kCancel)
    (converts : converter.cancel data = some (next, events)) :
    Converted calm steady converter data events next := by
  rw [cancel] at converts
  split at converts
  next stored =>
    cases converts
    exact ⟨none, .none_pushed stored⟩
  next state stored =>
    split at converts
    · contradiction
    next isDown =>
      cases converts
      exact release_emits steadily (.inr is) stored (by simpa using isDown)

include steadily in
theorem up_emits (is : data.Is .kUp) (converts : converter.up data = some (next, events)) :
    Converted calm steady converter data events next := by
  rw [up] at converts
  split at converts
  · contradiction
  next state stored =>
    split at converts
    · contradiction
    next isDown =>
      cases converts
      exact release_emits steadily (.inl is) stored (by simpa using isDown)

theorem add_emits (is : data.Is .kAdd) (converts : converter.add data unset = some (next, events)) :
    Converted calm steady converter data events next := by
  rw [add] at converts
  split at converts
  · contradiction
  next absent =>
    cases converts
    have stored : converter.states data.device = none := by simpa using absent
    exact ⟨_, .one_pushed stored rfl rfl (.add is rfl rfl rfl rfl)⟩

/-- The hover event of a removal may leave the offset alone: the state is erased. -/
theorem leave_emits (is : data.Is .kRemove) (stored : converter.states data.device = some state)
    (up : state.isDown = false) (idle : calm → state.isPanZoomActive = false) :
    let hovered := converter.synthesizeIfMoved data state
      { data with change := .kHover, synthesized := 1 }
    Converted calm steady converter data (hovered.events ++ [data])
      (hovered.converter.erase data) := by
  rw [synthesizeIfMoved]
  split
  next =>
    let arrived := { state with physicalX := data.physicalX, physicalY := data.physicalY }
    let hovered := converter.updateDeltaAndState { data with change := .kHover, synthesized := 1 }
      state
    have hover : Emission calm steady (some state) converter.pointer hovered.data (some arrived)
        converter.pointer :=
      .hover ⟨is.1, rfl⟩ up idle ⟨rfl, rfl, rfl, rfl, rfl, rfl, rfl⟩ fun _ _ => ⟨rfl, rfl⟩
    have remove : Emission calm steady (some arrived) converter.pointer data none
        converter.pointer := .remove is up idle (.inr ⟨rfl, rfl⟩)
    refine ⟨none, Function.update_idem _ _ _, ?_⟩
    rw [stored]
    exact .cons rfl hover (.cons rfl remove .nil)
  next same =>
    exact ⟨none, .one_pushed stored rfl rfl
      (.remove is up idle (.inl (Bool.eq_false_iff.mpr same)))⟩

include calmly steadily in
theorem remove_emits (is : data.Is .kRemove)
    (converts : converter.remove data = some (next, events)) :
    Converted calm steady converter data events next := by
  rw [remove] at converts
  split at converts
  · contradiction
  next state stored =>
    cases converts
    have idle : calm → state.isPanZoomActive = false := fun assumed =>
      (calmly assumed).idle stored (by
        simp only [interrupts, Bool.or_eq_true]
        exact .inl (.inr (decide_eq_true is)))
    by_cases down : state.isDown = true
    · simp only [down, if_true]
      let cancelled := converter.updatePointerIdentifier
        { data with change := .kCancel, synthesized := 1 } state false
      let released := { state with isDown := false }
      have release : Emission calm steady (some state) converter.pointer cancelled.data
          (some released) converter.pointer :=
        .release (.inr ⟨is.1, rfl⟩) down rfl fun assumed =>
          .inl ((steadily assumed state stored).1 down is)
      have first : Emits calm steady converter data.device [cancelled.data] (some released)
          (converter.store data released) := .one_pushed stored rfl rfl release
      have left : Converted calm steady (converter.store data released) data _ _ :=
        leave_emits is first.stored rfl idle
      obtain ⟨after, second⟩ := left
      exact ⟨after, first.append second⟩
    · have up := Bool.eq_false_iff.mpr down
      simp only [up, Bool.false_eq_true, if_false]
      exact leave_emits is stored up idle

include calmly steadily in
/-- The buttons change with the hover event; where it is not pushed, they stay as stored. -/
theorem hover_emits (is : data.Is .kHover)
    (converts : converter.hover data unset = some (next, events)) :
    Converted calm steady converter data events next := by
  have found : Emits calm steady converter data.device _ _ _ := findOrAdd_emits unset
  simp only [hover] at converts
  split at converts
  · contradiction
  next isDown =>
    cases converts
    have up := Bool.eq_false_iff.mpr isDown
    rw [synthesizeIfMoved]
    split
    next moved =>
      refine ⟨_, found.append (.one_pushed found.stored rfl rfl ?_)⟩
      refine .hover is up (fun assumed => (calmly assumed).found_idle ?_)
        ⟨rfl, rfl, rfl, rfl, rfl, rfl, rfl⟩ fun assumed => (steadily assumed).found_pan ?_
      · simp only [interrupts, Bool.or_eq_true, Bool.and_eq_true]
        exact .inr ⟨decide_eq_true is, moved⟩
      · simp only [repositions, Bool.or_eq_true, Bool.and_eq_true]
        exact .inr ⟨moved, .inl (.inl (.inl (.inr (decide_eq_true is))))⟩
    next =>
      refine ⟨some (converter.findOrAdd data unset).state, ?_⟩
      rw [List.append_nil]
      exact found

theorem goesDown_emits (is : data.Is .kDown)
    (stored : converter.states data.device = some state) (up : state.isDown = false)
    (idle : calm → state.isPanZoomActive = false) (place : SamePlace data state) :
    let updated := converter.updatePointerIdentifier data state true
    let down := { updated.state with isDown := true, buttons := data.buttons }
    Emits calm steady converter data.device [updated.data] (some down)
      (updated.converter.store data down) :=
  .one_pushed stored rfl (Function.update_idem _ _ _) (.down is up idle rfl place)

include calmly steadily in
theorem down_emits (is : data.Is .kDown)
    (converts : converter.down data unset = some (next, events)) :
    Converted calm steady converter data events next := by
  have found : Emits calm steady converter data.device _ _ _ := findOrAdd_emits unset
  simp only [down] at converts
  split at converts
  · contradiction
  next isDown =>
    cases converts
    have up := Bool.eq_false_iff.mpr isDown
    have idle : calm → (converter.findOrAdd data unset).state.isPanZoomActive = false :=
      fun assumed => (calmly assumed).found_idle (by
        simp only [interrupts, Bool.or_eq_true]
        exact .inl (.inl (.inr (decide_eq_true is))))
    obtain ⟨hovered, arrives⟩ : Synced calm steady _ data _
        { data with change := .kHover, synthesized := 1, buttons := 0 } :=
      hovers rfl rfl rfl ⟨is.1, rfl⟩ found.stored up (fun assumed _ => idle assumed)
        fun assumed elsewhere => (steadily assumed).found_pan (by
          simp only [repositions, Bool.or_eq_true, Bool.and_eq_true]
          exact .inr ⟨elsewhere, .inl (.inl (.inr (decide_eq_true is)))⟩)
    exact ⟨_, (found.append hovered).append (goesDown_emits is hovered.stored
      (arrives.isDown.trans up) (fun assumed => arrives.isPanZoomActive.trans (idle assumed))
      arrives.place)⟩

theorem move_emits (steadily : steady → converter.Steady data) (is : data.Is .kMove)
    (converts : converter.move data = some (next, events)) :
    Converted calm steady converter data events next := by
  rw [move] at converts
  split at converts
  · contradiction
  next state stored =>
    split at converts
    · contradiction
    next isDown =>
      cases converts
      have down : state.isDown = true := by simpa using isDown
      refine ⟨_, .one_pushed stored rfl rfl (.move is down (fun _ => rfl)
        updateDeltaAndState_moves fun assumed => updateDeltaAndState_keepsPan converter fun active =>
          (steadily assumed state stored).2.2 active ?_)⟩
      simp only [repositions, Bool.or_eq_true]
      exact .inl (decide_eq_true is)

theorem beginsPanZoom_emits [One Coord] (is : data.Is .kPanZoomStart)
    (stored : converter.states data.device = some state) (up : state.isDown = false)
    (idle : state.isPanZoomActive = false) (place : SamePlace data state) :
    let updated := converter.updatePointerIdentifier data state true
    let active := { updated.state with
      isPanZoomActive := true
      panX := 0
      panY := 0
      scale := 1
      rotation := 0 }
    Emits calm steady converter data.device [updated.data] (some active)
      (updated.converter.store data active) :=
  .one_pushed stored rfl (Function.update_idem _ _ _) (.panZoomStart is up idle rfl place)

theorem panZoomStart_emits [One Coord] (is : data.Is .kPanZoomStart)
    (converts : converter.panZoomStart data unset = some (next, events)) :
    Converted calm steady converter data events next := by
  have found : Emits calm steady converter data.device _ _ _ := findOrAdd_emits unset
  simp only [panZoomStart] at converts
  split at converts
  · contradiction
  next isDown =>
    split at converts
    · contradiction
    next isActive =>
      cases converts
      have up := Bool.eq_false_iff.mpr isDown
      have idle := Bool.eq_false_iff.mpr isActive
      obtain ⟨hovered, arrives⟩ : Synced calm steady _ data _
          { data with change := .kHover, synthesized := 1, buttons := 0 } :=
        hovers rfl rfl rfl ⟨is.1, rfl⟩ found.stored up (fun _ _ => idle)
          fun _ _ active => absurd active isActive
      exact ⟨_, (found.append hovered).append (beginsPanZoom_emits is hovered.stored
        (arrives.isDown.trans up) (arrives.isPanZoomActive.trans idle) arrives.place)⟩

theorem panZoomUpdate_emits (is : data.Is .kPanZoomUpdate)
    (converts : converter.panZoomUpdate data = some (next, events)) :
    Converted calm steady converter data events next := by
  rw [panZoomUpdate] at converts
  split at converts
  · contradiction
  next state stored =>
    split at converts
    · contradiction
    next isDown =>
      split at converts
      · contradiction
      next isActive =>
        cases converts
        have active : state.isPanZoomActive = true := by simpa using isActive
        exact ⟨_, .one_pushed stored rfl rfl
          (.panZoomUpdate is active rfl updateDeltaAndState_moves rfl rfl rfl rfl)⟩

/-- Where a pan-zoom is active, and then over. -/
theorem ends_emits (is : data.Is .kPanZoomEnd)
    (carries : data.pointerIdentifier = state.pointerIdentifier)
    (active : state.isPanZoomActive = true)
    (synced : Synced calm steady converter data state positional) :
    let moved := converter.synthesizeIfMoved data state positional
    Converted calm steady converter data (moved.events ++ [data])
      (moved.converter.store data { moved.state with isPanZoomActive := false }) := by
  obtain ⟨emits, arrives⟩ := synced
  refine ⟨_, emits.append (.one_pushed emits.stored rfl rfl ?_)⟩
  exact .panZoomEnd is (arrives.isPanZoomActive.trans active)
    (carries.trans arrives.pointerIdentifier.symm) arrives.place

theorem panZoomEnd_emits (is : data.Is .kPanZoomEnd)
    (converts : converter.panZoomEnd data = some (next, events)) :
    Converted calm steady converter data events next := by
  rw [panZoomEnd] at converts
  split at converts
  · contradiction
  next state stored =>
    split at converts
    · contradiction
    next isActive =>
      cases converts
      have active : state.isPanZoomActive = true := by simpa using isActive
      show Converted calm steady converter
        { data with pointerIdentifier := state.pointerIdentifier } _ _
      refine ends_emits is rfl active ⟨synthesizeIfMoved_emits rfl stored fun _ => ?_,
        synthesizeIfMoved_arrives rfl rfl⟩
      exact .panZoomUpdate ⟨is.1, rfl⟩ active rfl updateDeltaAndState_moves rfl rfl rfl rfl

include calmly steadily in
theorem signal_emits (signals : data.signals = true)
    (converts : converter.signal data unset = some (next, events)) :
    Converted calm steady converter data events next := by
  have found : Emits calm steady converter data.device _ _ _ := findOrAdd_emits unset
  have idle : calm → (converter.findOrAdd data unset).state.isPanZoomActive = false :=
    fun assumed => (calmly assumed).found_idle (by simp only [interrupts, signals, Bool.true_or])
  have same : steady → locationNeedsUpdate data (converter.findOrAdd data unset).state = true →
      (converter.findOrAdd data unset).state.isPanZoomActive = true →
        data.panX = (converter.findOrAdd data unset).state.panX ∧
          data.panY = (converter.findOrAdd data unset).state.panY :=
    fun assumed elsewhere => (steadily assumed).found_pan (by
      simp only [repositions, elsewhere, signals, Bool.true_or, Bool.and_true, Bool.or_true])
  rw [signal] at converts
  cases converts
  obtain ⟨moved, arrives⟩ : Synced calm steady (converter.findOrAdd data unset).converter data
      (converter.findOrAdd data unset).state
      (if (converter.findOrAdd data unset).state.isDown then
        { data with
          signalKind := .kNone
          change := .kMove
          buttons := (converter.findOrAdd data unset).state.buttons
          synthesized := 1 }
      else
        { data with
          signalKind := .kNone
          change := .kHover
          buttons := 0
          synthesized := 1 }) := by
    split
    next down =>
      refine movesAlong rfl rfl rfl ⟨rfl, rfl⟩ found.stored down (fun assumed elsewhere => ?_) same
      have stored := findOrAdd_stored (.inl down)
      exact ((calmly assumed) _ stored).2 down signals elsewhere
    next isDown =>
      exact hovers rfl rfl rfl ⟨rfl, rfl⟩ found.stored (Bool.eq_false_iff.mpr isDown)
        (fun assumed _ => idle assumed) same
  exact ⟨_, (found.append moved).append (.one_pushed moved.stored rfl
    (by rw [← moved.stored, Function.update_eq_self])
    (.signal signals (fun assumed => arrives.isPanZoomActive.trans (idle assumed))
      arrives.place))⟩

/-- What `ConvertPointerData` pushes is a chain of emissions, where the conditions hold that
its reader asks for. -/
theorem convertPointerData_emits [One Coord]
    (calmly : calm → data.change.defined = true ∧ converter.Calm data)
    (steadily : steady → converter.Steady data)
    (converts : converter.convertPointerData data unset = some (next, events)) :
    Converted calm steady converter data events next := by
  have settled : calm → converter.Calm data := fun assumed => (calmly assumed).2
  rw [convertPointerData] at converts
  cases kind : data.signalKind with
  | kNone =>
    rw [kind] at converts
    cases change : data.change with
    | kCancel => exact cancel_emits steadily ⟨kind, change⟩ (by rwa [change] at converts)
    | kAdd => exact add_emits ⟨kind, change⟩ (by rwa [change] at converts)
    | kRemove => exact remove_emits settled steadily ⟨kind, change⟩ (by rwa [change] at converts)
    | kHover => exact hover_emits settled steadily ⟨kind, change⟩ (by rwa [change] at converts)
    | kDown => exact down_emits settled steadily ⟨kind, change⟩ (by rwa [change] at converts)
    | kMove => exact move_emits steadily ⟨kind, change⟩ (by rwa [change] at converts)
    | kUp => exact up_emits steadily ⟨kind, change⟩ (by rwa [change] at converts)
    | kPanZoomStart => exact panZoomStart_emits ⟨kind, change⟩ (by rwa [change] at converts)
    | kPanZoomUpdate => exact panZoomUpdate_emits ⟨kind, change⟩ (by rwa [change] at converts)
    | kPanZoomEnd => exact panZoomEnd_emits ⟨kind, change⟩ (by rwa [change] at converts)
    | undefined value =>
      rw [change] at converts
      cases converts
      have undefined : data.change.defined = false := by rw [change]; rfl
      refine ⟨_, .one_pushed rfl rfl (Function.update_eq_self _ _).symm
        (.undefined kind undefined (fun assumed => ?_) fun assumed state stored => ?_)⟩
      · exact Bool.false_ne_true (undefined.symm.trans (calmly assumed).1)
      · exact .inl ((steadily assumed state stored).2.1 kind undefined)
  | undefined value =>
    rw [kind] at converts
    cases converts
    exact ⟨_, .none_pushed rfl⟩
  | kScroll | kScrollInertiaCancel | kScale =>
    rw [kind] at converts
    exact signal_emits settled steadily (by rw [PointerData.signals, kind]) converts

end Branches

end PointerDataPacketConverter

/-! ## Runs -/

open PointerDataPacketConverter

/-- A converter, and what it has pushed. -/
structure Conversion (Coord : Type) where
  converter : PointerDataPacketConverter Coord
  trace : List (PointerData Coord)

variable {Coord : Type} [Zero Coord] [One Coord] [Sub Coord] [BEq Coord]

/-- The data of the packet each meet the condition on the converter that converts them. -/
def MeetsEach (unset : PointerState Coord)
    (Cond : PointerDataPacketConverter Coord → PointerData Coord → Prop) :
    PointerDataPacketConverter Coord → List (PointerData Coord) → Prop
  | _, [] => True
  | converter, data :: packet => Cond converter data ∧
      ∀ next, converter.convertPointerData data unset = some next →
        MeetsEach unset Cond next.1 packet

instance (unset : PointerState Coord)
    (Cond : PointerDataPacketConverter Coord → PointerData Coord → Prop)
    [∀ converter data, Decidable (Cond converter data)] :
    ∀ converter packet, Decidable (MeetsEach unset Cond converter packet)
  | _, [] => inferInstanceAs (Decidable True)
  | converter, data :: packet =>
    match converts : converter.convertPointerData data unset with
    | none => decidable_of_iff (Cond converter data) (by simp [MeetsEach, converts])
    | some next =>
      have : Decidable (MeetsEach unset Cond next.1 packet) :=
        instDecidableMeetsEach unset Cond next.1 packet
      decidable_of_iff (Cond converter data ∧ MeetsEach unset Cond next.1 packet)
        (by simp [MeetsEach, converts])

/-- A new converter converts one packet after another. -/
def conversion (unset : PointerState Coord) :
    Machine (Conversion Coord) (List (PointerData Coord)) where
  Initial state := state = ⟨{}, []⟩
  step state packet := (convert unset state.converter packet).map fun converted =>
    ⟨converted.1, state.trace ++ converted.2⟩

section Runs

variable {calm steady : Prop} {unset : PointerState Coord}
  {Cond : PointerDataPacketConverter Coord → PointerData Coord → Prop}
  {Keeps : PointerDataPacketConverter Coord → List (PointerData Coord) → Prop}
  (each : KeptByEmissions calm steady Keeps)
  (meets : ∀ {converter data}, Cond converter data →
    (calm → data.change.defined = true ∧ converter.Calm data) ∧ (steady → converter.Steady data))
include each meets

theorem convert_keeps {converter : PointerDataPacketConverter Coord}
    {trace packet : List (PointerData Coord)}
    {converted : PointerDataPacketConverter Coord × List (PointerData Coord)}
    (kept : Keeps converter trace) (meetsEach : MeetsEach unset Cond converter packet)
    (converts : convert unset converter packet = some converted) :
    Keeps converted.1 (trace ++ converted.2) := by
  induction packet generalizing converter trace converted with
  | nil =>
    cases converts
    rwa [List.append_nil]
  | cons data packet ih =>
    obtain ⟨first, convertsFirst, converts⟩ := Option.bind_eq_some_iff.mp converts
    obtain ⟨rest, convertsRest, rfl⟩ := Option.map_eq_some_iff.mp converts
    obtain ⟨calmly, steadily⟩ := meets meetsEach.1
    obtain ⟨after, emits⟩ := convertPointerData_emits calmly steadily convertsFirst
    have final := ih (emits.keeps each kept) (meetsEach.2 first convertsFirst) convertsRest
    rwa [List.append_assoc] at final

/-- What every emission keeps holds in every run of data that meet the condition. -/
theorem reachable_keeps (start : Keeps {} []) {state : Conversion Coord}
    (reached : (conversion unset).Reachable
      (fun state packet => MeetsEach unset Cond state.converter packet) state) :
    Keeps state.converter state.trace := by
  refine reached.invariant (fun state => Keeps state.converter state.trace) ?_ ?_
  · rintro _ rfl
    exact start
  · intro state packet next kept meetsEach step
    obtain ⟨converted, converts, rfl⟩ := Option.map_eq_some_iff.mp step
    exact convert_keeps each meets kept meetsEach converts

end Runs

end FlutterEngine.Window
