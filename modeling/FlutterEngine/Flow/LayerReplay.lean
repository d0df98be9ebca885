import FlutterEngine.Flow.LayerStateStack

/-!
# Replaying the entries of the state stack

An entry makes at most one call of the delegate, which depends on the attributes that are
outstanding below it, and changes the attributes in a way that depends on nothing else. So the
attributes are a function of the entries, and so are the calls that a new delegate gets.
-/

namespace FlutterEngine.Flow

open FlutterEngine.Std DisplayList

variable {p : Payloads} {kit : LayerToolkit p}

/-- The call opens a save or a layer. -/
def DelegateCall.opens : DelegateCall kit → Bool
  | .save | .saveLayer .. => true
  | _ => false

/-- No transform or clip comes before the first save. -/
def DelegateCall.Guarded : List (DelegateCall kit) → Prop
  | [] => True
  | first :: _ => first.opens = true

namespace StateEntry

/-- The entry is undone by a `restore` of the delegate. -/
def opens : StateEntry kit → Bool
  | .save | .saveLayer .. | .backdropFilter .. => true
  | _ => false

/-- The entry is a transform or a clip. -/
def acts : StateEntry kit → Bool
  | .translate .. | .transformMatrix _ | .transformM44 _ | .integralTransform | .clipRect ..
  | .clipRRect .. | .clipPath .. => true
  | _ => false

/-- The entry without its backdrop filter. -/
def plain : StateEntry kit → StateEntry kit
  | .backdropFilter bounds _ blendMode oldAttributes =>
    .backdropFilter bounds none blendMode oldAttributes
  | entry => entry

@[simp] theorem plain_plain (entry : StateEntry kit) : entry.plain.plain = entry.plain := by
  cases entry <;> rfl

@[simp] theorem opens_plain (entry : StateEntry kit) : entry.plain.opens = entry.opens := by
  cases entry <;> rfl

@[simp] theorem acts_plain (entry : StateEntry kit) : entry.plain.acts = entry.acts := by
  cases entry <;> rfl

theorem acts_of_opens {entry : StateEntry kit} (opening : entry.opens = true) :
    entry.acts = false := by
  cases entry <;> first | rfl | cases opening

/-- The call that `apply` makes under these attributes. -/
def call? (outstanding : RenderingAttributes p) : StateEntry kit → Option (DelegateCall kit)
  | .save => some .save
  | .saveLayer bounds blendMode _ => some (.saveLayer bounds outstanding blendMode none)
  | .backdropFilter bounds filter blendMode _ =>
    some (.saveLayer bounds outstanding blendMode filter)
  | .opacity .. | .imageFilter .. | .colorFilter .. => none
  | .translate tx ty => some (.translate tx ty)
  | .transformMatrix matrix => some (.transform33 matrix)
  | .transformM44 m44 => some (.transform44 m44)
  | .integralTransform => some .integralTransform
  | .clipRect rect isAA => some (.clipRect rect .intersect isAA)
  | .clipRRect rrect isAA => some (.clipRRect rrect .intersect isAA)
  | .clipPath path isAA => some (.clipPath path .intersect isAA)

variable {outstanding : RenderingAttributes p}

theorem opens_of_call? {entry : StateEntry kit}
    {call : DelegateCall kit} (sends : entry.call? outstanding = some call) :
    call.opens = entry.opens ∧ (entry.opens = false → entry.acts = true) := by
  cases entry <;> cases sends <;> exact ⟨rfl, by simp [opens, acts]⟩

theorem opens_eq_false_of_call? {entry : StateEntry kit}
    (silent : entry.call? outstanding = none) : entry.opens = false := by
  cases entry <;> first | rfl | cases silent

variable [SkScalar p.Scalar]

/-- The attributes that are outstanding after the entry. -/
def attributes (outstanding : RenderingAttributes p) : StateEntry kit → RenderingAttributes p
  | .saveLayer .. | .backdropFilter .. => .default kit
  | .opacity bounds factor _ _ =>
    { outstanding with saveLayerBounds := bounds, opacity := outstanding.opacity * factor }
  | .imageFilter bounds filter _ _ =>
    { outstanding with saveLayerBounds := bounds, imageFilter := some filter }
  | .colorFilter bounds filter _ _ =>
    { outstanding with saveLayerBounds := bounds, colorFilter := some filter }
  | _ => outstanding

@[simp] theorem attributes_plain (entry : StateEntry kit) (outstanding : RenderingAttributes p) :
    entry.plain.attributes outstanding = entry.attributes outstanding := by
  cases entry <;> rfl

/-- The old values in the entry are those of these attributes. -/
def RecordedOver (outstanding : RenderingAttributes p) : StateEntry kit → Prop
  | .saveLayer _ _ oldAttributes | .backdropFilter _ _ _ oldAttributes =>
    oldAttributes = outstanding
  | .opacity _ _ oldOpacity oldBounds =>
    oldOpacity = outstanding.opacity ∧ oldBounds = outstanding.saveLayerBounds
  | .imageFilter _ _ oldFilter oldBounds =>
    oldFilter = outstanding.imageFilter ∧ oldBounds = outstanding.saveLayerBounds
  | .colorFilter _ _ oldFilter oldBounds =>
    oldFilter = outstanding.colorFilter ∧ oldBounds = outstanding.saveLayerBounds
  | _ => True

omit [SkScalar p.Scalar] in
theorem recordedOver_plain (entry : StateEntry kit) (outstanding : RenderingAttributes p) :
    entry.plain.RecordedOver outstanding ↔ entry.RecordedOver outstanding := by
  cases entry <;> rfl

end StateEntry

/-! ## Delegates -/

namespace LayerStateStack

variable {stack other : LayerStateStack kit}

/-- The delegates are in the same states. -/
structure SameDelegates (stack other : LayerStateStack kit) : Prop where
  delegate : stack.delegate = other.delegate
  canvases : stack.canvases = other.canvases

theorem SameDelegates.refl (stack : LayerStateStack kit) : stack.SameDelegates stack := ⟨rfl, rfl⟩

theorem SameDelegates.trans {last : LayerStateStack kit} (first : stack.SameDelegates other)
    (second : other.SameDelegates last) : stack.SameDelegates last :=
  ⟨first.delegate.trans second.delegate, first.canvases.trans second.canvases⟩

theorem SameDelegates.sendRestore (same : stack.SameDelegates other) :
    stack.sendRestore.SameDelegates other.sendRestore := by
  unfold LayerStateStack.sendRestore
  rw [same.delegate, same.canvases]
  cases other.delegate with
  | dummy => exact same
  | canvas address initialSaveLevel => exact ⟨rfl, rfl⟩
  | preroll tracker => exact ⟨rfl, rfl⟩

theorem SameDelegates.sendRestore_iterate (same : stack.SameDelegates other) (times : Nat) :
    (LayerStateStack.sendRestore^[times] stack).SameDelegates
      (LayerStateStack.sendRestore^[times] other) := by
  induction times generalizing stack other with
  | zero => exact same
  | succ times ih => exact ih same.sendRestore

variable [SkScalar p.Scalar]

@[simp] theorem send_stateStack (call : DelegateCall kit) :
    (stack.send call).stateStack = stack.stateStack := by
  unfold send
  cases stack.delegate <;> rfl

omit [SkScalar p.Scalar] in
@[simp] theorem sendRestore_outstanding : stack.sendRestore.outstanding = stack.outstanding := by
  unfold sendRestore
  cases stack.delegate <;> rfl

/-- A call, if there is one. -/
def sends (stack : LayerStateStack kit) : Option (DelegateCall kit) → LayerStateStack kit
  | none => stack
  | some call => stack.send call

end LayerStateStack

namespace StateEntry

variable [SkScalar p.Scalar] {stack : LayerStateStack kit}

theorem apply_eq (entry : StateEntry kit) :
    entry.apply stack = { stack.sends (entry.call? stack.outstanding) with
      outstanding := entry.attributes stack.outstanding } := by
  have unchanged : ∀ call : DelegateCall kit, stack.send call =
      { stack.send call with outstanding := stack.outstanding } := by
    intro call
    unfold LayerStateStack.send
    cases stack.delegate <;> rfl
  cases entry with
  | save => exact unchanged _
  | saveLayer bounds blendMode oldAttributes => rfl
  | opacity bounds factor oldOpacity oldBounds => rfl
  | imageFilter bounds filter oldFilter oldBounds => rfl
  | colorFilter bounds filter oldFilter oldBounds => rfl
  | backdropFilter bounds filter blendMode oldAttributes => rfl
  | translate tx ty => exact unchanged _
  | transformMatrix matrix => exact unchanged _
  | transformM44 m44 => exact unchanged _
  | integralTransform => exact unchanged _
  | clipRect rect isAA => exact unchanged _
  | clipRRect rrect isAA => exact unchanged _
  | clipPath path isAA => exact unchanged _

/-- To apply an entry again is to apply it without its backdrop filter. -/
theorem reapply_eq (entry : StateEntry kit) : entry.reapply stack = entry.plain.apply stack := by
  cases entry <;> rfl

@[simp] theorem apply_stateStack (entry : StateEntry kit) :
    (entry.apply stack).stateStack = stack.stateStack := by
  rw [apply_eq]
  change (stack.sends _).stateStack = _
  cases entry.call? stack.outstanding with
  | none => rfl
  | some call => exact LayerStateStack.send_stateStack call

@[simp] theorem apply_outstanding (entry : StateEntry kit) :
    (entry.apply stack).outstanding = entry.attributes stack.outstanding := by
  rw [apply_eq]

end StateEntry

/-! ## Trackers as saved states -/

namespace PrerollTracker

variable [SkScalar p.Scalar]

/-- The tracker with these states above its first one. -/
def ofStates (originalCullRect : SkRect p.Scalar) (base : TrackedData kit.toSkGeometry)
    (states : SavedStates (TrackedData kit.toSkGeometry)) : PrerollTracker kit :=
  ⟨originalCullRect, states.current, states.saved ++ [base]⟩

/-- What a call does to the data of a tracker. -/
def tracked : DelegateCall kit → Move (TrackedData kit.toSkGeometry)
  | .save | .saveLayer .. => .enter id
  | .translate tx ty => .act fun data => { data with matrix := data.matrix.translate tx ty }
  | .transform44 m44 => .act fun data => { data with matrix := data.matrix.transform44 m44 }
  | .transform33 matrix => .act fun data => { data with matrix := data.matrix.transform33 matrix }
  | .integralTransform => .act fun data => (integralTransform ⟨data.cullRect, data, []⟩).current
  | .clipRect rect op isAA => .act fun data => data.clipBounds rect op isAA
  | .clipRRect rrect op isAA => .act fun data =>
    (DisplayListMatrixClipTracker.clipRRect ⟨data.cullRect, data, []⟩ rrect op isAA).current
  | .clipPath path op isAA => .act fun data =>
    (DisplayListMatrixClipTracker.clipPath ⟨data.cullRect, data, []⟩ path op isAA).current

variable {originalCullRect : SkRect p.Scalar} {base : TrackedData kit.toSkGeometry}
  {states : SavedStates (TrackedData kit.toSkGeometry)}

theorem enters_tracked (call : DelegateCall kit) : (tracked call).enters = call.opens := by
  cases call <;> rfl

theorem delegated_ofStates (call : DelegateCall kit) :
    (ofStates originalCullRect base states).delegated call =
      ofStates originalCullRect base (states.move (tracked call)) := by
  cases call with
  | save => rfl
  | saveLayer bounds attributes blend backdrop => rfl
  | translate tx ty => rfl
  | transform44 m44 => rfl
  | transform33 matrix => rfl
  | integralTransform =>
    obtain ⟨⟨matrix, cullRect⟩, saved⟩ := states
    change integralTransform _ = ⟨_, (integralTransform _).current, _⟩
    unfold integralTransform
    dsimp only [ofStates]
    cases matrix with
    | data3x3 matrix =>
      dsimp only
      cases computeIntegralTransCTM33 kit matrix <;> rfl
    | data4x4 m44 =>
      dsimp only
      cases computeIntegralTransCTM44 kit m44 <;> rfl
  | clipRect rect op isAA => rfl
  | clipRRect rrect op isAA =>
    change DisplayListMatrixClipTracker.clipRRect _ _ _ _ =
      ⟨_, (DisplayListMatrixClipTracker.clipRRect _ _ _ _).current, _⟩
    unfold DisplayListMatrixClipTracker.clipRRect
    split <;> rfl
  | clipPath path op isAA =>
    change DisplayListMatrixClipTracker.clipPath _ _ _ _ =
      ⟨_, (DisplayListMatrixClipTracker.clipPath _ _ _ _).current, _⟩
    unfold DisplayListMatrixClipTracker.clipPath
    cases DisplayListMatrixClipTracker.pathOp kit.toSkGeometry path op with
    | intersect => rfl
    | difference => cases kit.pathIsRect path <;> rfl

omit [SkScalar p.Scalar] in
theorem restore_ofStates :
    DisplayListMatrixClipTracker.restore (ofStates originalCullRect base states) =
      ofStates originalCullRect base states.leave := by
  obtain ⟨current, saved⟩ := states
  cases saved with
  | nil => rfl
  | cons last saved => cases saved <;> rfl

end PrerollTracker

/-! ## What a delegate has received -/

/-- A delegate that can be installed, over canvases that are known. -/
inductive NewDelegate (kit : LayerToolkit p) where
  | dummy
  | canvas (address : Nat)
  | preroll (cullRect : SkRect p.Scalar) (matrix : kit.SkMatrix)

variable [SkScalar p.Scalar] {canvases : Nat → DlCanvas kit} {installed : NewDelegate kit}
  {calls undone : List (DelegateCall kit)} {stack other : LayerStateStack kit}

/-- The delegate has received these calls since it was installed, and all other canvases are as
they were. -/
def Received (canvases : Nat → DlCanvas kit) (installed : NewDelegate kit)
    (calls : List (DelegateCall kit)) (stack : LayerStateStack kit) : Prop :=
  match installed with
  | .dummy => stack.delegate = .dummy ∧ stack.canvases = canvases
  | .canvas address =>
    stack.delegate = .canvas address (DlCanvas.getSaveCount (canvases address)) ∧
    stack.canvases = Function.update canvases address
      ((canvases address).moves (calls.map DlCanvas.delegated))
  | .preroll cullRect matrix =>
    stack.delegate = .preroll
      (calls.foldl PrerollTracker.delegated (.ofMatrix cullRect matrix)) ∧
    stack.canvases = canvases

theorem DlCanvas.enters_delegated (call : DelegateCall kit) :
    (DlCanvas.delegated call).enters = call.opens := by
  cases call <;> rfl

theorem PrerollTracker.foldl_delegated (originalCullRect : SkRect p.Scalar)
    (base : TrackedData kit.toSkGeometry) (states : SavedStates (TrackedData kit.toSkGeometry))
    (calls : List (DelegateCall kit)) :
    calls.foldl PrerollTracker.delegated (ofStates originalCullRect base states) =
      ofStates originalCullRect base (states.moves (calls.map tracked)) := by
  induction calls generalizing states with
  | nil => rfl
  | cons call rest ih =>
    rw [List.foldl_cons, delegated_ofStates, ih]
    rfl

omit [SkScalar p.Scalar] in
/-- Guarded calls are guarded moves, and are undone by as many restores as they open saves. -/
theorem leave_iterate_calls {State : Type} {meaning : DelegateCall kit → Move State}
    (calls : List (DelegateCall kit))
    (faithful : ∀ call, (meaning call).enters = call.opens)
    (guarded : DelegateCall.Guarded undone) (states : SavedStates State) :
    SavedStates.leave^[undone.countP DelegateCall.opens]
      (states.moves ((calls ++ undone).map meaning)) = states.moves (calls.map meaning) := by
  have counted : (undone.map meaning).countP Move.enters = undone.countP DelegateCall.opens := by
    rw [List.countP_map]
    exact List.countP_congr fun call _ => by simp [faithful]
  have guarded : Move.Guarded (undone.map meaning) := by
    cases undone with
    | nil => trivial
    | cons first rest => exact (faithful first).trans guarded
  rw [List.map_append, SavedStates.moves_append, ← counted]
  exact SavedStates.leave_iterate_moves guarded

namespace Received

section

variable (received : Received canvases installed calls stack)

include received

theorem congr (same : other.SameDelegates stack) : Received canvases installed calls other := by
  cases installed with
  | dummy => exact ⟨same.delegate.trans received.1, same.canvases.trans received.2⟩
  | canvas address => exact ⟨same.delegate.trans received.1, same.canvases.trans received.2⟩
  | preroll cullRect matrix =>
    exact ⟨same.delegate.trans received.1, same.canvases.trans received.2⟩

/-- What a delegate has received says in what state it is. -/
theorem unique
    (receivedOther : Received canvases installed calls other) : stack.SameDelegates other := by
  cases installed with
  | dummy =>
    exact ⟨received.1.trans receivedOther.1.symm, received.2.trans receivedOther.2.symm⟩
  | canvas address =>
    exact ⟨received.1.trans receivedOther.1.symm, received.2.trans receivedOther.2.symm⟩
  | preroll cullRect matrix =>
    exact ⟨received.1.trans receivedOther.1.symm, received.2.trans receivedOther.2.symm⟩

theorem send (call : DelegateCall kit) :
    Received canvases installed (calls ++ [call]) (stack.send call) := by
  unfold LayerStateStack.send
  cases installed with
  | dummy =>
    obtain ⟨delegate, same⟩ := received
    rw [delegate]
    exact ⟨delegate, same⟩
  | canvas address =>
    obtain ⟨delegate, same⟩ := received
    rw [delegate]
    refine ⟨rfl, ?_⟩
    change Function.update stack.canvases address _ = _
    rw [same, Function.update_self, Function.update_idem, List.map_append,
      SavedStates.moves_append]
    rfl
  | preroll cullRect matrix =>
    obtain ⟨delegate, same⟩ := received
    rw [delegate]
    refine ⟨?_, same⟩
    rw [List.foldl_append]
    rfl

theorem sends (call : Option (DelegateCall kit)) :
    Received canvases installed (calls ++ call.toList) (stack.sends call) := by
  cases call with
  | none => rwa [Option.toList_none, List.append_nil]
  | some call => exact received.send call

end

omit [SkScalar p.Scalar] in
/-- Restores of the delegate are restores of the state that it keeps. -/
theorem sendRestore_iterate_canvas {address initialSaveLevel : Nat}
    (delegate : stack.delegate = .canvas address initialSaveLevel) (times : Nat) :
    (LayerStateStack.sendRestore^[times] stack).delegate = stack.delegate ∧
    (LayerStateStack.sendRestore^[times] stack).canvases = Function.update stack.canvases address
      (SavedStates.leave^[times] (stack.canvases address)) := by
  induction times with
  | zero => exact ⟨rfl, (Function.update_eq_self address stack.canvases).symm⟩
  | succ times ih =>
    rw [Function.iterate_succ_apply', Function.iterate_succ_apply']
    unfold LayerStateStack.sendRestore at ih ⊢
    rw [ih.1, delegate]
    refine ⟨rfl, ?_⟩
    change Function.update _ address _ = _
    rw [ih.2, Function.update_self, Function.update_idem]

omit [SkScalar p.Scalar] in
theorem sendRestore_iterate_preroll {originalCullRect : SkRect p.Scalar}
    {base : TrackedData kit.toSkGeometry} {states : SavedStates (TrackedData kit.toSkGeometry)}
    (delegate : stack.delegate =
      .preroll (PrerollTracker.ofStates originalCullRect base states)) (times : Nat) :
    (LayerStateStack.sendRestore^[times] stack).delegate = .preroll
      (PrerollTracker.ofStates originalCullRect base (SavedStates.leave^[times] states)) ∧
    (LayerStateStack.sendRestore^[times] stack).canvases = stack.canvases := by
  induction times with
  | zero => exact ⟨delegate, rfl⟩
  | succ times ih =>
    rw [Function.iterate_succ_apply', Function.iterate_succ_apply']
    unfold LayerStateStack.sendRestore at ih ⊢
    rw [ih.1]
    refine ⟨?_, ih.2⟩
    change Delegate.preroll (DisplayListMatrixClipTracker.restore _) = _
    rw [PrerollTracker.restore_ofStates]

omit [SkScalar p.Scalar] in
theorem sendRestore_iterate_dummy (delegate : stack.delegate = .dummy) (times : Nat) :
    LayerStateStack.sendRestore^[times] stack = stack := by
  induction times with
  | zero => rfl
  | succ times ih =>
    rw [Function.iterate_succ_apply', ih]
    unfold LayerStateStack.sendRestore
    rw [delegate]

/-- The restores of entries that are popped undo what the delegate has received of them. -/
theorem restores (received : Received canvases installed (calls ++ undone) stack)
    (guarded : DelegateCall.Guarded undone) :
    Received canvases installed calls
      (LayerStateStack.sendRestore^[undone.countP DelegateCall.opens] stack) := by
  cases installed with
  | dummy =>
    rw [sendRestore_iterate_dummy received.1]
    exact received
  | canvas address =>
    obtain ⟨delegate, same⟩ := received
    obtain ⟨kept, changed⟩ := sendRestore_iterate_canvas delegate
      (undone.countP DelegateCall.opens)
    refine ⟨kept.trans delegate, changed.trans ?_⟩
    rw [same, Function.update_self, Function.update_idem,
      leave_iterate_calls calls DlCanvas.enters_delegated guarded]
  | preroll cullRect matrix =>
    obtain ⟨delegate, same⟩ := received
    have start : DisplayListMatrixClipTracker.ofMatrix cullRect matrix =
        PrerollTracker.ofStates cullRect _ ⟨_, []⟩ := rfl
    rw [start, PrerollTracker.foldl_delegated] at delegate
    obtain ⟨changed, kept⟩ := sendRestore_iterate_preroll delegate
      (undone.countP DelegateCall.opens)
    refine ⟨changed.trans ?_, kept.trans same⟩
    rw [leave_iterate_calls calls PrerollTracker.enters_tracked guarded, start,
      PrerollTracker.foldl_delegated]

/-- A delegate that is cleared is as it was when it was installed. -/
theorem clearDelegate (received : Received canvases installed calls stack)
    (guarded : DelegateCall.Guarded calls) : Received canvases .dummy [] stack.clearDelegate := by
  refine ⟨rfl, ?_⟩
  change stack.decommission.canvases = canvases
  unfold LayerStateStack.decommission
  cases installed with
  | dummy =>
    obtain ⟨delegate, same⟩ := received
    rw [delegate]
    exact same
  | canvas address =>
    obtain ⟨delegate, same⟩ := received
    rw [delegate]
    change Function.update stack.canvases address _ = canvases
    have levels : ((canvases address).moves (calls.map DlCanvas.delegated)).saved.length =
        (canvases address).saved.length + calls.countP DelegateCall.opens := by
      rw [SavedStates.saved_length_moves, List.countP_map]
      congr 1
      exact List.countP_congr fun call _ => by simp [DlCanvas.enters_delegated]
    rw [same, Function.update_self, Function.update_idem]
    unfold DlCanvas.restoreToCount DlCanvas.getSaveCount
    have times : ((canvases address).saved.length + calls.countP DelegateCall.opens + 1) -
        ((canvases address).saved.length + 1) = calls.countP DelegateCall.opens := by
      omega
    rw [levels, times]
    have undone := leave_iterate_calls [] DlCanvas.enters_delegated guarded
      (canvases address)
    rw [List.nil_append] at undone
    rw [undone]
    exact Function.update_eq_self address canvases
  | preroll cullRect matrix =>
    obtain ⟨delegate, same⟩ := received
    rw [delegate]
    exact same

end Received

/-! ## Entries and calls -/

/-- The attributes that are outstanding over these entries. -/
def attributesAfter : List (StateEntry kit) → RenderingAttributes p
  | [] => .default kit
  | entry :: below => entry.attributes (attributesAfter below)

/-- The calls that a new delegate gets. -/
def replay : List (StateEntry kit) → List (DelegateCall kit)
  | [] => []
  | entry :: below => replay below ++ (entry.plain.call? (attributesAfter below)).toList

/-- The old values in every entry are those of the entries below it. -/
def Recorded : List (StateEntry kit) → Prop
  | [] => True
  | entry :: below => entry.RecordedOver (attributesAfter below) ∧ Recorded below

/-- Every transform and clip has a save below it. -/
def Contained : List (StateEntry kit) → Prop
  | [] => True
  | entry :: below =>
    (entry.acts = true → ∃ opening ∈ below, opening.opens = true) ∧ Contained below

/-- The calls are those of the entries, each with or without its backdrop filter. -/
inductive Matches : List (StateEntry kit) → List (DelegateCall kit) → Prop where
  | nil : Matches [] []
  | applied {below calls} (entry : StateEntry kit) (rest : Matches below calls) :
      Matches (entry :: below) (calls ++ (entry.call? (attributesAfter below)).toList)
  | reapplied {below calls} (entry : StateEntry kit) (rest : Matches below calls) :
      Matches (entry :: below) (calls ++ (entry.plain.call? (attributesAfter below)).toList)

variable {entries popped kept : List (StateEntry kit)} {entry : StateEntry kit}

theorem attributesAfter_map_plain (entries : List (StateEntry kit)) :
    attributesAfter (entries.map StateEntry.plain) = attributesAfter entries := by
  induction entries with
  | nil => rfl
  | cons entry below ih =>
    change entry.plain.attributes (attributesAfter (below.map StateEntry.plain)) = _
    rw [ih, StateEntry.attributes_plain]
    rfl

theorem replay_map_plain (entries : List (StateEntry kit)) :
    replay (entries.map StateEntry.plain) = replay entries := by
  induction entries with
  | nil => rfl
  | cons entry below ih =>
    change replay (below.map StateEntry.plain) ++
      (entry.plain.plain.call? (attributesAfter (below.map StateEntry.plain))).toList = _
    rw [ih, attributesAfter_map_plain, StateEntry.plain_plain]
    rfl

theorem recorded_map_plain (recorded : Recorded entries) :
    Recorded (entries.map StateEntry.plain) := by
  induction entries with
  | nil => trivial
  | cons entry below ih =>
    refine ⟨?_, ih recorded.2⟩
    rw [attributesAfter_map_plain]
    exact (StateEntry.recordedOver_plain entry _).mpr recorded.1

theorem Recorded.of_append (recorded : Recorded (popped ++ kept)) : Recorded kept := by
  induction popped with
  | nil => exact recorded
  | cons entry popped ih => exact ih recorded.2

omit [SkScalar p.Scalar] in
theorem Contained.of_append (contained : Contained (popped ++ kept)) : Contained kept := by
  induction popped with
  | nil => exact contained
  | cons entry popped ih => exact ih contained.2

omit [SkScalar p.Scalar] in
theorem contained_map_plain (contained : Contained entries) :
    Contained (entries.map StateEntry.plain) := by
  induction entries with
  | nil => trivial
  | cons entry below ih =>
    refine ⟨fun acts => ?_, ih contained.2⟩
    rw [StateEntry.acts_plain] at acts
    obtain ⟨opening, member, opens⟩ := contained.1 acts
    exact ⟨opening.plain, List.mem_map_of_mem member, opening.opens_plain.trans opens⟩

theorem matches_replay (entries : List (StateEntry kit)) : Matches entries (replay entries) := by
  induction entries with
  | nil => exact .nil
  | cons entry below ih => exact .reapplied entry ih

/-- Entries without backdrop filters leave no choice. -/
theorem Matches.eq_replay (received : Matches (entries.map StateEntry.plain) calls) :
    calls = replay entries := by
  induction entries generalizing calls with
  | nil =>
    cases received
    rfl
  | cons entry below ih =>
    rw [List.map_cons] at received
    cases received with
    | applied _ rest =>
      rw [ih rest, attributesAfter_map_plain]
      rfl
    | reapplied _ rest =>
      rw [ih rest, attributesAfter_map_plain, StateEntry.plain_plain]
      rfl

/-- The calls of the entries on top come last. They open as many saves as the entries, and are
guarded if the entries are contained. -/
theorem Matches.append (received : Matches (popped ++ kept) calls) :
    ∃ first last, calls = first ++ last ∧ Matches kept first ∧
      last.countP DelegateCall.opens = popped.countP StateEntry.opens ∧
      (Contained popped → DelegateCall.Guarded last) := by
  induction popped generalizing calls with
  | nil => exact ⟨calls, [], (List.append_nil calls).symm, received, rfl, fun _ => trivial⟩
  | cons entry popped ih =>
    have extend : ∀ {before : List (DelegateCall kit)} {top : StateEntry kit},
        Matches (popped ++ kept) before → top.opens = entry.opens → top.acts = entry.acts →
        ∃ first last,
          before ++ (top.call? (attributesAfter (popped ++ kept))).toList = first ++ last ∧
          Matches kept first ∧
          last.countP DelegateCall.opens = (entry :: popped).countP StateEntry.opens ∧
          (Contained (entry :: popped) → DelegateCall.Guarded last) := by
      intro before top rest opens acts
      obtain ⟨first, last, rfl, below, counted, guarded⟩ := ih rest
      refine ⟨first, last ++ (top.call? (attributesAfter (popped ++ kept))).toList,
        List.append_assoc .., below, ?_, ?_⟩
      · rw [List.countP_append, counted, List.countP_cons, ← opens]
        cases sends : top.call? (attributesAfter (popped ++ kept)) with
        | none => simp [StateEntry.opens_eq_false_of_call? sends]
        | some call => simp [List.countP_cons, (StateEntry.opens_of_call? sends).1]
      · intro contained
        cases last with
        | cons head tail => exact guarded contained.2
        | nil =>
          cases sends : top.call? (attributesAfter (popped ++ kept)) with
          | none => trivial
          | some call =>
            change call.opens = true
            obtain ⟨same, acting⟩ := StateEntry.opens_of_call? sends
            rw [same]
            by_contra closed
            have closed : top.opens = false := Bool.eq_false_iff.mpr closed
            obtain ⟨opening, member, opened⟩ := contained.1 (acts ▸ acting closed)
            have some_open : 0 < popped.countP StateEntry.opens :=
              List.countP_pos_iff.mpr ⟨opening, member, opened⟩
            rw [← counted] at some_open
            exact absurd some_open (Nat.lt_irrefl 0)
    cases received with
    | applied _ rest => exact extend rest rfl rfl
    | reapplied _ rest =>
      exact extend rest entry.opens_plain entry.acts_plain

/-- The calls of contained entries are guarded. -/
theorem Matches.guarded (received : Matches entries calls) (contained : Contained entries) :
    DelegateCall.Guarded calls := by
  rw [← List.append_nil entries] at received
  obtain ⟨first, last, rfl, below, -, guarded⟩ := received.append
  cases below
  exact guarded contained

/-! ## Restoring and reapplying -/

namespace LayerStateStack

/-- What an entry restores, of a stack with its attributes. -/
theorem restore_outstanding {below : RenderingAttributes p}
    (outstanding : stack.outstanding = entry.attributes below)
    (recorded : entry.RecordedOver below) : (entry.restore stack).outstanding = below := by
  cases entry with
  | save => exact sendRestore_outstanding.trans outstanding
  | saveLayer bounds blendMode oldAttributes => exact recorded
  | backdropFilter bounds filter blendMode oldAttributes => exact recorded
  | opacity bounds factor oldOpacity oldBounds =>
    obtain ⟨rfl, rfl⟩ := recorded
    simp only [StateEntry.restore, outstanding]
    rfl
  | imageFilter bounds filter oldFilter oldBounds =>
    obtain ⟨rfl, rfl⟩ := recorded
    simp only [StateEntry.restore, outstanding]
    rfl
  | colorFilter bounds filter oldFilter oldBounds =>
    obtain ⟨rfl, rfl⟩ := recorded
    simp only [StateEntry.restore, outstanding]
    rfl
  | translate tx ty => exact outstanding
  | transformMatrix matrix => exact outstanding
  | transformM44 m44 => exact outstanding
  | integralTransform => exact outstanding
  | clipRect rect isAA => exact outstanding
  | clipRRect rrect isAA => exact outstanding
  | clipPath path isAA => exact outstanding

omit [SkScalar p.Scalar] in
theorem restore_sameDelegates (entry : StateEntry kit) :
    (entry.restore stack).SameDelegates (if entry.opens then stack.sendRestore else stack) := by
  cases entry <;> exact ⟨rfl, rfl⟩

/-- The turns of the loop of `restore_to_count`. -/
theorem restoreLast_iterate (entries : stack.stateStack = popped ++ kept)
    (outstanding : stack.outstanding = attributesAfter stack.stateStack)
    (recorded : Recorded stack.stateStack) :
    (restoreLast^[popped.length] stack).stateStack = kept ∧
    (restoreLast^[popped.length] stack).outstanding = attributesAfter kept ∧
    (restoreLast^[popped.length] stack).SameDelegates
      (sendRestore^[popped.countP StateEntry.opens] stack) := by
  induction popped generalizing stack with
  | nil =>
    rw [List.nil_append] at entries
    exact ⟨entries, entries ▸ outstanding, .refl _⟩
  | cons entry popped ih =>
    rw [entries] at outstanding recorded
    have first : stack.restoreLast =
        { entry.restore stack with stateStack := popped ++ kept } := by
      unfold restoreLast
      rw [entries]
      rfl
    have restored := restore_outstanding outstanding recorded.1
    have turned : stack.restoreLast.stateStack = popped ++ kept := by rw [first]
    obtain ⟨left, outstanding, same⟩ := ih turned (by rw [turned, first]; exact restored)
      (by rw [turned]; exact recorded.2)
    rw [List.length_cons, Function.iterate_succ_apply]
    refine ⟨left, outstanding, same.trans ?_⟩
    have once : stack.restoreLast.SameDelegates
        (if entry.opens then stack.sendRestore else stack) := by
      have same : (entry.restore stack).SameDelegates
          (if entry.opens then stack.sendRestore else stack) := restore_sameDelegates entry
      rw [first]
      exact ⟨same.delegate, same.canvases⟩
    rw [List.countP_cons]
    cases opens : entry.opens with
    | true =>
      rw [if_pos rfl, Function.iterate_add_apply]
      rw [opens, if_pos rfl] at once
      exact once.sendRestore_iterate _
    | false =>
      rw [if_neg Bool.false_ne_true, Nat.add_zero]
      rw [opens, if_neg Bool.false_ne_true] at once
      exact once.sendRestore_iterate _

/-- To apply all entries again to a fresh delegate gives it the replay. -/
theorem reapply_foldr (entries : List (StateEntry kit))
    (received : Received canvases installed [] stack)
    (fresh : stack.outstanding = .default kit) :
    let reapplied := entries.foldr (fun entry stack => entry.reapply stack) stack
    reapplied.stateStack = stack.stateStack ∧ reapplied.outstanding = attributesAfter entries ∧
    Received canvases installed (replay entries) reapplied := by
  induction entries with
  | nil => exact ⟨rfl, fresh, received⟩
  | cons entry below ih =>
    obtain ⟨same, outstanding, received⟩ := ih
    rw [List.foldr_cons, StateEntry.reapply_eq]
    refine ⟨(StateEntry.apply_stateStack _).trans same, ?_, ?_⟩
    · rw [StateEntry.apply_outstanding, outstanding, StateEntry.attributes_plain]
      rfl
    · rw [StateEntry.apply_eq, outstanding]
      exact (received.sends _).congr ⟨rfl, rfl⟩

/-- `reapply_all`, of a delegate that has received nothing. -/
theorem reapplyAll_spec (fresh : Received canvases installed [] stack) :
    stack.reapplyAll.stateStack = stack.stateStack ∧
    stack.reapplyAll.outstanding = attributesAfter stack.stateStack ∧
    Received canvases installed (replay stack.stateStack) stack.reapplyAll := by
  have start : Received canvases installed [] { stack with outstanding := .default kit } :=
    fresh.congr ⟨rfl, rfl⟩
  exact reapply_foldr stack.stateStack start rfl

end LayerStateStack

end FlutterEngine.Flow
