import FlutterEngine.Std.Trace
import FlutterEngine.Window.PointerConversion

/-!
# The protocol of converted pointer data

The order in which the framework gets the events of a device, and the identifiers that they
carry.
-/

namespace FlutterEngine.Window

open FlutterEngine.Std

variable {Coord : Type}

/-- What the framework knows of a device. -/
inductive Phase where
  | absent
  | up
  | down
  | pan
deriving DecidableEq

/-- The phase after the event; none when the event is not legal. -/
def Phase.next (phase : Phase) (event : PointerData Coord) : Option Phase :=
  match event.signalKind with
  | .kNone =>
    match phase, event.change with
    | .absent, .kAdd => some .up
    | .up, .kHover => some .up
    | .up, .kDown => some .down
    | .down, .kMove => some .down
    | .down, .kUp => some .up
    | .down, .kCancel => some .up
    | .up, .kPanZoomStart => some .pan
    | .pan, .kPanZoomUpdate => some .pan
    | .pan, .kPanZoomEnd => some .up
    | .up, .kRemove => some .absent
    | _, _ => none
  | .kScroll | .kScrollInertiaCancel | .kScale =>
    match phase with
    | .up => some .up
    | .down => some .down
    | .absent | .pan => none
  | .undefined _ => none

namespace PointerData

variable (event : PointerData Coord)

/-- A Down or a PanZoomStart, which takes a new identifier. -/
def starts : Bool := decide (event.Is .kDown) || decide (event.Is .kPanZoomStart)

/-- An event of a pointer that is down or of a pan-zoom. -/
def continues : Bool :=
  decide (event.Is .kMove) || decide (event.Is .kUp) || decide (event.Is .kCancel) ||
    decide (event.Is .kPanZoomUpdate) || decide (event.Is .kPanZoomEnd)

def ofDevice (device : Int) (event : PointerData Coord) : Bool := decide (event.device = device)

def startOf (device : Int) (event : PointerData Coord) : Bool :=
  event.ofDevice device && event.starts

variable {event} {change : Change}

/-- An event is no two changes. -/
theorem Is.iff (is : event.Is change) (other : Change) : event.Is other ↔ change = other := by
  constructor
  · intro same
    exact is.2.symm.trans same.2
  · rintro rfl
    exact is

theorem Is.signals_eq (is : event.Is change) : event.signals = false := by
  rw [signals, is.1]

end PointerData

open PointerData (ofDevice startOf)

/-- The events of every device are a run of the protocol, and carry its identifiers. -/
structure Legal (trace : List (PointerData Coord)) : Prop where
  protocol : ∀ device, ∃ phase,
    (trace.filter (ofDevice device)).foldlM Phase.next .absent = some phase
  fresh : Trace.Each (fun before event => event.starts = true →
    ∀ earlier ∈ before, (earlier.starts || earlier.continues) = true →
      earlier.pointerIdentifier ≠ event.pointerIdentifier) trace
  carries : Trace.Each (fun before event => event.continues = true →
    ∃ start, Trace.last (startOf event.device) before = some start ∧
      event.pointerIdentifier = start.pointerIdentifier) trace

/-- The phase of a device in this state. -/
def phaseOf : Option (PointerState Coord) → Phase
  | none => .absent
  | some state =>
    if state.isDown then .down
    else if state.isPanZoomActive then .pan
    else .up

/-- A pointer is down, or a pan-zoom is active. -/
def PointerState.active (state : PointerState Coord) : Bool :=
  state.isDown || state.isPanZoomActive

def PointerState.exclusive (state : PointerState Coord) : Bool :=
  !(state.isDown && state.isPanZoomActive)

/-! ## One emission -/

section Emissions

variable [Zero Coord] [Sub Coord] [BEq Coord] {calm steady : Prop}
  {before after : Option (PointerState Coord)} {pointer count : Int} {event : PointerData Coord}
  {state : PointerState Coord}

theorem Emission.next (emission : Emission calm steady before pointer event after count)
    (calmly : calm) (exclusive : ∀ state, before = some state → state.exclusive = true) :
    (phaseOf before).next event = some (phaseOf after) := by
  cases emission with
  | add is up idle _ _ => simp [Phase.next, phaseOf, is.1, is.2, up, idle]
  | hover is up idle moves _ =>
    simp [Phase.next, phaseOf, is.1, is.2, up, idle calmly, moves.isDown, moves.isPanZoomActive]
  | move is down _ moves _ => simp [Phase.next, phaseOf, is.1, is.2, down, moves.isDown]
  | @panZoomUpdate before _ _ _ is active _ moves =>
    have up : before.isDown = false := by
      simpa [PointerState.exclusive, active] using exclusive before rfl
    simp [Phase.next, phaseOf, is.1, is.2, up, active, moves.isDown, moves.isPanZoomActive]
  | down is up idle _ _ => simp [Phase.next, phaseOf, is.1, is.2, up, idle calmly]
  | @release before _ _ _ is down _ _ =>
    have idle : before.isPanZoomActive = false := by
      simpa [PointerState.exclusive, down] using exclusive before rfl
    obtain is | is := is <;> simp [Phase.next, phaseOf, is.1, is.2, down, idle]
  | panZoomStart is up idle _ _ => simp [Phase.next, phaseOf, is.1, is.2, up, idle]
  | @panZoomEnd before _ _ is active _ _ =>
    have up : before.isDown = false := by
      simpa [PointerState.exclusive, active] using exclusive before rfl
    simp [Phase.next, phaseOf, is.1, is.2, up, active]
  | remove is up idle _ => simp [Phase.next, phaseOf, is.1, is.2, up, idle calmly]
  | @signal before _ _ signals idle _ =>
    have kind : event.signalKind = .kScroll ∨ event.signalKind = .kScrollInertiaCancel ∨
        event.signalKind = .kScale := by
      unfold PointerData.signals at signals
      split at signals <;> simp_all
    obtain kind | kind | kind := kind <;> cases down : before.isDown <;>
      simp [Phase.next, phaseOf, kind, down, idle calmly]
  | undefined _ _ ruledOut _ => exact absurd calmly ruledOut

theorem Emission.exclusive (emission : Emission calm steady before pointer event after count)
    (calmly : calm) (exclusive : ∀ state, before = some state → state.exclusive = true)
    (ends : after = some state) : state.exclusive = true := by
  cases emission with
  | add is up idle _ _ =>
    cases ends
    simp [PointerState.exclusive, up]
  | hover is up idle moves _ =>
    cases ends
    simp [PointerState.exclusive, moves.isDown, up]
  | move is down carries moves _ =>
    cases ends
    rw [PointerState.exclusive, moves.isDown, moves.isPanZoomActive]
    exact exclusive _ rfl
  | panZoomUpdate is active carries moves _ _ _ _ =>
    cases ends
    rw [PointerState.exclusive, moves.isDown, moves.isPanZoomActive]
    exact exclusive _ rfl
  | down is up idle _ _ =>
    cases ends
    simp [PointerState.exclusive, idle calmly]
  | release is down _ _ =>
    cases ends
    simp [PointerState.exclusive]
  | panZoomStart is up idle _ _ =>
    cases ends
    simp [PointerState.exclusive, up]
  | panZoomEnd is active _ _ =>
    cases ends
    simp [PointerState.exclusive]
  | remove is up idle _ => contradiction
  | signal signals idle _ => exact exclusive _ ends
  | undefined _ _ ruledOut _ => exact absurd calmly ruledOut

omit [Zero Coord] [Sub Coord] [BEq Coord] in
theorem PointerData.not_plain_of_signals (signals : event.signals = true) (change : Change) :
    ¬event.Is change := by
  intro is
  simp [PointerData.signals, is.1] at signals

omit [Zero Coord] [Sub Coord] [BEq Coord] in
theorem PointerData.starts_iff : event.starts = true ↔ event.Is .kDown ∨ event.Is .kPanZoomStart := by
  simp only [PointerData.starts, Bool.or_eq_true, decide_eq_true_eq]

/-- The identifier that an event of a pointer carries is that of its device. -/
theorem Emission.continuing (emission : Emission calm steady before pointer event after count)
    (calmly : calm) (continues : event.continues = true) :
    ∃ state, before = some state ∧ state.active = true ∧
      event.pointerIdentifier = state.pointerIdentifier := by
  cases emission with
  | @move before _ _ _ is down carries _ _ =>
    exact ⟨before, rfl, by simp [PointerState.active, down], carries calmly⟩
  | @release before _ _ _ is down carries _ =>
    exact ⟨before, rfl, by simp [PointerState.active, down], carries⟩
  | @panZoomUpdate before _ _ _ is active carries _ _ _ _ _ =>
    exact ⟨before, rfl, by simp [PointerState.active, active], carries⟩
  | @panZoomEnd before _ _ is active carries _ =>
    exact ⟨before, rfl, by simp [PointerState.active, active], carries⟩
  | signal signals _ _ =>
    simp [PointerData.continues, PointerData.not_plain_of_signals signals] at continues
  | undefined _ _ ruledOut _ => exact absurd calmly ruledOut
  | add is _ _ _ _ => simp [PointerData.continues, is.iff] at continues
  | hover is _ _ _ _ => simp [PointerData.continues, is.iff] at continues
  | down is _ _ _ _ => simp [PointerData.continues, is.iff] at continues
  | panZoomStart is _ _ _ _ => simp [PointerData.continues, is.iff] at continues
  | remove is _ _ _ => simp [PointerData.continues, is.iff] at continues

/-- An event that starts a pointer takes the next count. -/
theorem Emission.starting (emission : Emission calm steady before pointer event after count)
    (starts : event.starts = true) :
    event.pointerIdentifier = pointer + 1 ∧ count = pointer + 1 := by
  cases emission with
  | down _ _ _ fresh _ => exact ⟨fresh, rfl⟩
  | panZoomStart _ _ _ fresh _ => exact ⟨fresh, rfl⟩
  | signal signals _ _ =>
    simp [PointerData.starts, PointerData.not_plain_of_signals signals] at starts
  | undefined _ undefined _ _ =>
    obtain is | is := PointerData.starts_iff.mp starts <;> simp [Change.defined, is.2] at undefined
  | release is _ _ _ =>
    obtain is | is := is <;> simp [PointerData.starts, is.iff] at starts
  | add is _ _ _ _ => simp [PointerData.starts, is.iff] at starts
  | hover is _ _ _ _ => simp [PointerData.starts, is.iff] at starts
  | move is _ _ _ _ => simp [PointerData.starts, is.iff] at starts
  | panZoomUpdate is _ _ _ _ _ _ _ => simp [PointerData.starts, is.iff] at starts
  | panZoomEnd is _ _ _ => simp [PointerData.starts, is.iff] at starts
  | remove is _ _ _ => simp [PointerData.starts, is.iff] at starts

theorem Emission.counting (emission : Emission calm steady before pointer event after count)
    (starts : event.starts = false) : count = pointer := by
  cases emission with
  | down is _ _ _ _ => simp [PointerData.starts, is] at starts
  | panZoomStart is _ _ _ _ => simp [PointerData.starts, is] at starts
  | _ => rfl

/-- The identifier of an active device is that of the event which started it. -/
theorem Emission.identified (emission : Emission calm steady before pointer event after count)
    (calmly : calm) (ends : after = some state) (active : state.active = true) :
    event.starts = true ∧ state.pointerIdentifier = event.pointerIdentifier ∨
      event.starts = false ∧ ∃ earlier, before = some earlier ∧ earlier.active = true ∧
        state.pointerIdentifier = earlier.pointerIdentifier := by
  cases emission with
  | add is up idle _ _ =>
    cases ends
    simp [PointerState.active, up, idle] at active
  | hover is up idle moves _ =>
    cases ends
    simp [PointerState.active, moves.isDown, moves.isPanZoomActive, up, idle calmly] at active
  | @move before _ _ _ is down _ moves _ =>
    cases ends
    exact .inr ⟨by simp [PointerData.starts, is.iff], before, rfl,
      by simp [PointerState.active, down], moves.pointerIdentifier⟩
  | @panZoomUpdate before _ _ _ is pan _ moves _ _ _ _ =>
    cases ends
    exact .inr ⟨by simp [PointerData.starts, is.iff], before, rfl,
      by simp [PointerState.active, pan], moves.pointerIdentifier⟩
  | down is _ _ fresh _ =>
    cases ends
    exact .inl ⟨PointerData.starts_iff.mpr (.inl is), fresh.symm⟩
  | panZoomStart is _ _ fresh _ =>
    cases ends
    exact .inl ⟨PointerData.starts_iff.mpr (.inr is), fresh.symm⟩
  | @release before _ _ _ is down _ _ =>
    cases ends
    refine .inr ⟨?_, before, rfl, by simp [PointerState.active, down], rfl⟩
    obtain is | is := is <;> simp [PointerData.starts, is.iff]
  | @panZoomEnd before _ _ is pan _ _ =>
    cases ends
    exact .inr ⟨by simp [PointerData.starts, is.iff], before, rfl,
      by simp [PointerState.active, pan], rfl⟩
  | remove is up idle _ => contradiction
  | signal signals idle _ =>
    exact .inr ⟨by simp [PointerData.starts, PointerData.not_plain_of_signals signals], state, ends,
      active, rfl⟩
  | undefined _ _ ruledOut _ => exact absurd calmly ruledOut

end Emissions

/-! ## Runs -/

section Runs

variable [Zero Coord] [Sub Coord] [BEq Coord] {calm steady : Prop}
  {converter : PointerDataPacketConverter Coord} {trace : List (PointerData Coord)}

/-- The trace is legal so far, and the converter knows where it stands. -/
structure Follows (converter : PointerDataPacketConverter Coord)
    (trace : List (PointerData Coord)) : Prop where
  phase : ∀ device, (trace.filter (ofDevice device)).foldlM Phase.next .absent =
    some (phaseOf (converter.states device))
  exclusive : ∀ device state, converter.states device = some state → state.exclusive = true
  latest : ∀ device state, converter.states device = some state → state.active = true →
    ∃ start, Trace.last (startOf device) trace = some start ∧
      state.pointerIdentifier = start.pointerIdentifier
  bounded : ∀ event ∈ trace, (event.starts || event.continues) = true →
    event.pointerIdentifier ≤ converter.pointer
  fresh : Trace.Each (fun before event => event.starts = true →
    ∀ earlier ∈ before, (earlier.starts || earlier.continues) = true →
      earlier.pointerIdentifier ≠ event.pointerIdentifier) trace
  carries : Trace.Each (fun before event => event.continues = true →
    ∃ start, Trace.last (startOf event.device) before = some start ∧
      event.pointerIdentifier = start.pointerIdentifier) trace

omit [Zero Coord] [Sub Coord] [BEq Coord] in
theorem Follows.legal (follows : Follows converter trace) : Legal trace where
  protocol device := ⟨_, follows.phase device⟩
  fresh := follows.fresh
  carries := follows.carries

omit [Zero Coord] [Sub Coord] [BEq Coord] in
theorem follows_nil : Follows ({} : PointerDataPacketConverter Coord) [] where
  phase _ := rfl
  exclusive _ _ absent := by contradiction
  latest _ _ absent := by contradiction
  bounded _ nowhere := by contradiction
  fresh := Trace.each_nil
  carries := Trace.each_nil

/-- The identifier that a continuing event carries is of the latest start. -/
theorem Follows.carried {event : PointerData Coord} {after : Option (PointerState Coord)}
    {count : Int} (follows : Follows converter trace) (calmly : calm)
    (emission : Emission calm steady (converter.states event.device) converter.pointer event
      after count)
    (continues : event.continues = true) :
    ∃ start, Trace.last (startOf event.device) trace = some start ∧
      event.pointerIdentifier = start.pointerIdentifier := by
  obtain ⟨state, stored, active, carries⟩ := emission.continuing calmly continues
  obtain ⟨start, last, same⟩ := follows.latest _ state stored active
  exact ⟨start, last, carries.trans same⟩

/-- Every emission is a legal next event. -/
theorem follows_kept (calmly : calm) : KeptByEmissions calm steady (@Follows Coord) := by
  intro converter trace event after count follows emission
  have exclusive := follows.exclusive event.device
  have elsewhere : ∀ device, device ≠ event.device → event.ofDevice device = false :=
    fun device other => decide_eq_false (Ne.symm other)
  have increasing : converter.pointer ≤ count := by
    cases started : event.starts with
    | true =>
      have next := (emission.starting started).2
      omega
    | false => exact (emission.counting started).ge
  constructor
  · intro device
    by_cases own : device = event.device
    · subst own
      rw [states_advance_self]
      exact Trace.foldlM_concat_pass (decide_eq_true rfl) (follows.phase _)
        (emission.next calmly exclusive)
    · rw [states_advance_of_ne converter own, Trace.filter_concat_skip (elsewhere device own)]
      exact follows.phase device
  · intro device state stored
    by_cases own : device = event.device
    · subst own
      rw [states_advance_self] at stored
      exact emission.exclusive calmly exclusive stored
    · rw [states_advance_of_ne converter own] at stored
      exact follows.exclusive device state stored
  · intro device state stored active
    by_cases own : device = event.device
    · subst own
      rw [states_advance_self] at stored
      obtain ⟨starts, same⟩ | ⟨continues, earlier, known, wasActive, same⟩ :=
        emission.identified calmly stored active
      · exact ⟨event, Trace.last_concat_pass (by simp [startOf, ofDevice, starts]), same⟩
      · obtain ⟨start, last, was⟩ := follows.latest _ earlier known wasActive
        rw [Trace.last_concat_skip (by simp [startOf, continues])]
        exact ⟨start, last, same.trans was⟩
    · rw [states_advance_of_ne converter own] at stored
      rw [Trace.last_concat_skip (by simp [startOf, elsewhere device own])]
      exact follows.latest device state stored active
  · intro other member uses
    obtain earlier | rfl := List.mem_append.mp member |>.imp_right List.mem_singleton.mp
    · exact (follows.bounded other earlier uses).trans increasing
    · obtain starts | continues := Bool.or_eq_true _ _ |>.mp uses
      · obtain ⟨fresh, next⟩ := emission.starting starts
        exact (fresh.trans next.symm).le
      · obtain ⟨start, last, same⟩ := follows.carried calmly emission continues
        obtain ⟨member, passes⟩ := Trace.mem_of_last last
        have uses : (start.starts || start.continues) = true := by
          simp only [startOf, Bool.and_eq_true] at passes
          rw [passes.2, Bool.true_or]
        rw [same]
        exact (follows.bounded start member uses).trans increasing
  · refine follows.fresh.concat fun starts earlier member uses => ?_
    have bounded := follows.bounded earlier member uses
    have fresh := (emission.starting starts).1
    omega
  · exact follows.carries.concat (follows.carried calmly emission)

/-- Runs whose data have a defined change and are calm push what is legal. -/
theorem reachable_legal [One Coord] {unset : PointerState Coord} {state : Conversion Coord}
    (reached : (conversion unset).Reachable (fun state packet => MeetsEach unset
      (fun converter data => data.change.defined = true ∧ converter.Calm data)
        state.converter packet) state) :
    Legal state.trace := by
  have kept : KeptByEmissions True False (@Follows Coord) := follows_kept trivial
  have follows := reachable_keeps kept (fun meets => ⟨fun _ => meets, False.elim⟩) follows_nil
    reached
  exact follows.legal

end Runs

/-- A pointer in a row of places. -/
def pointerAt (change : Change) (place : Int) : PointerData Int where
  change
  device := 0
  physicalX := place
  physicalY := 0
  physicalDeltaX := 0
  physicalDeltaY := 0
  panX := 0
  panY := 0
  panDeltaX := 0
  panDeltaY := 0
  scale := 1
  rotation := 0

/-- What the fields hold that are not set. -/
def unsetState : PointerState Int := ⟨0, false, false, 0, 0, 0, 0, 0, 0, 0⟩

theorem reachable_legal_panZoom : ∃ state : Conversion Int,
    state.trace.length = 11 ∧ Legal state.trace :=
  ⟨_, rfl, @reachable_legal Int _ _ _ _ unsetState _ (.step
    [pointerAt .kDown 0, pointerAt .kMove 1, pointerAt .kUp 2, pointerAt .kPanZoomStart 3,
      pointerAt .kPanZoomUpdate 4, pointerAt .kPanZoomEnd 4, pointerAt .kRemove 5]
    (.initial rfl) (by decide) rfl)⟩

/-- A wheel that turns while the pointer is down and has moved: the move event that is
synthesized for it has not the identifier of the pointer. -/
theorem scroll_not_legal : ¬∀ (unset : PointerState Int) (state : Conversion Int),
    (conversion unset).Reachable
      (fun _ packet => ∀ data ∈ packet, data.change.defined = true) state → Legal state.trace := by
  intro legal
  have carries := (legal unsetState _ (.step
    [pointerAt .kAdd 0, pointerAt .kDown 0, { pointerAt .kHover 1 with signalKind := .kScroll }]
    (.initial rfl) (by decide) rfl)).carries
  obtain ⟨start, last, same⟩ := carries [_, _] _ [_] rfl rfl
  cases last
  exact absurd same (by decide)

end FlutterEngine.Window
