import FlutterEngine.Impeller.ReactorOperations

/-!
# The names of the reactor

A handle that is collected keeps its entry until a reaction deletes its name, in a section under
`ops_execution_mutex_`. No operation is executed then on any thread, so that a name which an
operation has got stays valid until the operation returns.
-/

namespace FlutterEngine.Impeller

open FlutterEngine.Std

/-- An event may follow the `earlier` ones: a name is generated once and deleted once, not before
its handle is collected, and is not returned after that. -/
def NameEvent.Allowed (event : NameEvent) (earlier : List NameEvent) : Prop :=
  match event with
  | .generated name _ => ∀ handle, .generated name handle ∉ earlier
  | .collected _ => True
  | .returned name => .deleted name ∉ earlier
  | .deleted name => .deleted name ∉ earlier ∧
      ∃ handle, .generated name handle ∈ earlier ∧ .collected handle ∈ earlier

/-- Every event may follow those before it. -/
def Lawful : List NameEvent → Prop
  | [] => True
  | event :: earlier => event.Allowed earlier ∧ Lawful earlier

theorem Lawful.generated_of_deleted {events : List NameEvent} (lawful : Lawful events)
    {name : GLName} (deleted : .deleted name ∈ events) :
    ∃ handle, .generated name handle ∈ events := by
  induction events with
  | nil => exact absurd deleted List.not_mem_nil
  | cons event earlier ih =>
    rcases List.mem_cons.mp deleted with rfl | deleted
    · obtain ⟨-, handle, generated, -⟩ := lawful.1
      exact ⟨handle, List.mem_cons_of_mem _ generated⟩
    · obtain ⟨handle, generated⟩ := ih lawful.2 deleted
      exact ⟨handle, List.mem_cons_of_mem _ generated⟩

namespace LiveHandles

/-- The names of the entries. -/
def names (handles : LiveHandles) : List GLName := handles.filterMap (·.2.name)

variable {handle : HandleGLES}

theorem names_cons_some {live : LiveHandle} {others : LiveHandles} {name : GLName}
    (named : live.name = some name) : names ((handle, live) :: others) = name :: others.names :=
  List.filterMap_cons_some named

variable {handles : LiveHandles}
variable {update : LiveHandle → LiveHandle}

theorem mem_change {other : HandleGLES} {changed : LiveHandle}
    (member : (other, changed) ∈ handles.change handle update) :
    ∃ live, (other, live) ∈ handles ∧ changed = if other = handle then update live else live := by
  obtain ⟨⟨key, live⟩, listed, same⟩ := List.mem_map.mp member
  dsimp only at same
  split at same
  · next this =>
      cases same
      exact ⟨live, listed, (if_pos this).symm⟩
  · next this =>
      cases same
      exact ⟨_, listed, (if_neg this).symm⟩

theorem names_change (same : ∀ live, (update live).name = live.name) :
    (handles.change handle update).names = handles.names := by
  unfold names change
  rw [List.filterMap_map]
  congr 1
  funext entry
  dsimp only [Function.comp_apply]
  split
  · exact same entry.2
  · rfl

theorem mem_of_lookup? {live : LiveHandle}
    (found : handles.lookup? handle = some live) : (handle, live) ∈ handles := by
  obtain ⟨⟨key, value⟩, first, same⟩ := Option.map_eq_some_iff.mp found
  obtain rfl : key = handle := by simpa using List.find?_some first
  obtain rfl : value = live := same
  exact List.mem_of_find?_eq_some first

end LiveHandles

/-- Every entry's name is its own, was generated for its handle and is not deleted. -/
structure Tracked (gl : GLState) (handles : LiveHandles) : Prop where
  lawful : Lawful gl.events
  fresh : ∀ {name handle}, .generated name handle ∈ gl.events → name.index < gl.generated
  typed : ∀ {handle live}, (handle, live) ∈ handles → handle.type ≠ .unknown
  collected : ∀ {handle live}, (handle, live) ∈ handles → live.pendingCollection = true →
    .collected handle ∈ gl.events
  alive : ∀ {handle live name}, (handle, live) ∈ handles → live.name = some name →
    .generated name handle ∈ gl.events ∧ .deleted name ∉ gl.events
  distinct : handles.names.Nodup

namespace Tracked

variable {gl : GLState} {handles others : LiveHandles} {handle : HandleGLES} {live : LiveHandle}
  {name : GLName}

theorem perm (tracked : Tracked gl handles) (same : handles.Perm others) : Tracked gl others where
  lawful := tracked.lawful
  fresh := tracked.fresh
  typed := fun member => tracked.typed (same.mem_iff.mpr member)
  collected := fun member => tracked.collected (same.mem_iff.mpr member)
  alive := fun member => tracked.alive (same.mem_iff.mpr member)
  distinct := (same.filterMap _).nodup_iff.mp tracked.distinct

/-- Entries are left out. -/
theorem sublist (tracked : Tracked gl handles) (fewer : others.Sublist handles) :
    Tracked gl others where
  lawful := tracked.lawful
  fresh := tracked.fresh
  typed := fun member => tracked.typed (fewer.subset member)
  collected := fun member => tracked.collected (fewer.subset member)
  alive := fun member => tracked.alive (fewer.subset member)
  distinct := List.Sublist.nodup (fewer.filterMap _) tracked.distinct

/-- The name of the first entry is not the name of another. -/
theorem ne_of_mem (tracked : Tracked gl ((handle, live) :: others)) (named : live.name = some name)
    {other : HandleGLES} {liveOther : LiveHandle} {nameOther : GLName}
    (member : (other, liveOther) ∈ others) (namedOther : liveOther.name = some nameOther) :
    nameOther ≠ name := by
  rintro rfl
  have distinct := tracked.distinct
  rw [LiveHandles.names_cons_some named, List.nodup_cons] at distinct
  exact distinct.1 (List.mem_filterMap.mpr ⟨_, member, namedOther⟩)

/-- An entry changes, and keeps its name. -/
theorem relabel (tracked : Tracked gl ((handle, live) :: others)) {changed : LiveHandle}
    (name : changed.name = live.name)
    (pending : changed.pendingCollection = true → .collected handle ∈ gl.events) :
    Tracked gl ((handle, changed) :: others) where
  lawful := tracked.lawful
  fresh := tracked.fresh
  typed := by
    intro _ _ member
    rcases List.mem_cons.mp member with same | member
    · cases same
      exact tracked.typed List.mem_cons_self
    · exact tracked.typed (List.mem_cons_of_mem _ member)
  collected := by
    intro _ _ member collected
    rcases List.mem_cons.mp member with same | member
    · cases same
      exact pending collected
    · exact tracked.collected (List.mem_cons_of_mem _ member) collected
  alive := by
    intro _ _ _ member named
    rcases List.mem_cons.mp member with same | member
    · cases same
      exact tracked.alive List.mem_cons_self (name.symm.trans named)
    · exact tracked.alive (List.mem_cons_of_mem _ member) named
  distinct := by
    have distinct := tracked.distinct
    rw [LiveHandles.names, List.filterMap_cons] at distinct ⊢
    rwa [name]

/-- An event that neither generates nor deletes a name. -/
theorem record (tracked : Tracked gl handles) (event : NameEvent)
    (allowed : event.Allowed gl.events)
    (generates : ∀ name handle, event ≠ .generated name handle)
    (deletes : ∀ name, event ≠ .deleted name) : Tracked (gl.record event) handles where
  lawful := ⟨allowed, tracked.lawful⟩
  fresh := by
    intro name handle member
    rcases List.mem_cons.mp member with same | member
    · exact absurd same.symm (generates name handle)
    · exact tracked.fresh member
  typed := tracked.typed
  collected := fun member pending => List.mem_cons_of_mem _ (tracked.collected member pending)
  alive := by
    intro handle live name member named
    obtain ⟨generated, notDeleted⟩ := tracked.alive member named
    refine ⟨List.mem_cons_of_mem _ generated, fun deleted => ?_⟩
    rcases List.mem_cons.mp deleted with same | earlier
    · exact deletes name same.symm
    · exact notDeleted earlier
  distinct := tracked.distinct

/-- The name of a collected handle is deleted, with its entry. -/
theorem delete (tracked : Tracked gl ((handle, live) :: others)) (named : live.name = some name)
    (pending : live.pendingCollection = true) : Tracked (gl.record (.deleted name)) others := by
  obtain ⟨generated, notDeleted⟩ := tracked.alive List.mem_cons_self named
  have rest := tracked.sublist (List.sublist_cons_self _ _)
  refine
    { lawful := ⟨⟨notDeleted, handle, generated, tracked.collected List.mem_cons_self pending⟩,
        tracked.lawful⟩
      fresh := fun member => ?_
      typed := rest.typed
      collected := fun member pending => List.mem_cons_of_mem _ (rest.collected member pending)
      alive := fun member namedOther => ?_
      distinct := rest.distinct }
  · rcases List.mem_cons.mp member with same | member
    · cases same
    · exact rest.fresh member
  · obtain ⟨generatedOther, notDeletedOther⟩ := rest.alive member namedOther
    refine ⟨List.mem_cons_of_mem _ generatedOther, fun deleted => ?_⟩
    rcases List.mem_cons.mp deleted with same | earlier
    · cases same
      exact tracked.ne_of_mem named member namedOther rfl
    · exact notDeletedOther earlier

/-- A name is generated for a new entry. -/
theorem generate (tracked : Tracked gl others) (typed : handle.type ≠ .unknown)
    (named : live.name = some ⟨gl.generated⟩) (active : live.pendingCollection = false) :
    Tracked { gl.record (.generated ⟨gl.generated⟩ handle) with generated := gl.generated + 1 }
      ((handle, live) :: others) := by
  have unused : ∀ handle, .generated ⟨gl.generated⟩ handle ∉ gl.events :=
    fun _ member => Nat.lt_irrefl _ (tracked.fresh member)
  refine
    { lawful := ⟨unused, tracked.lawful⟩
      fresh := fun member => ?_
      typed := fun member => ?_
      collected := fun member pending => ?_
      alive := fun member namedOther => ?_
      distinct := ?_ }
  · change _ < gl.generated + 1
    rcases List.mem_cons.mp member with same | member
    · cases same
      exact Nat.lt_succ_self _
    · exact Nat.lt_succ_of_lt (tracked.fresh member)
  · rcases List.mem_cons.mp member with same | member
    · cases same
      exact typed
    · exact tracked.typed member
  · rcases List.mem_cons.mp member with same | member
    · cases same
      rw [active] at pending
      cases pending
    · exact List.mem_cons_of_mem _ (tracked.collected member pending)
  · rcases List.mem_cons.mp member with same | member
    · cases same
      obtain rfl := Option.some.inj (named.symm.trans namedOther)
      refine ⟨List.mem_cons_self, fun deleted => ?_⟩
      rcases List.mem_cons.mp deleted with same | earlier
      · cases same
      · obtain ⟨handle, generated⟩ := tracked.lawful.generated_of_deleted earlier
        exact unused handle generated
    · obtain ⟨generated, notDeleted⟩ := tracked.alive member namedOther
      refine ⟨List.mem_cons_of_mem _ generated, fun deleted => ?_⟩
      rcases List.mem_cons.mp deleted with same | earlier
      · cases same
      · exact notDeleted earlier
  · rw [LiveHandles.names_cons_some named, List.nodup_cons]
    refine ⟨fun listed => ?_, tracked.distinct⟩
    obtain ⟨⟨other, liveOther⟩, member, namedOther⟩ := List.mem_filterMap.mp listed
    exact unused other (tracked.alive member namedOther).1

/-- A new entry has no name yet. -/
theorem unnamed (tracked : Tracked gl others) (typed : handle.type ≠ .unknown) :
    Tracked gl ((handle, { name := none }) :: others) where
  lawful := tracked.lawful
  fresh := tracked.fresh
  typed := by
    intro _ _ member
    rcases List.mem_cons.mp member with same | member
    · cases same
      exact typed
    · exact tracked.typed member
  collected := by
    intro _ _ member pending
    rcases List.mem_cons.mp member with same | member
    · cases same
      cases pending
    · exact tracked.collected member pending
  alive := by
    intro _ _ _ member named
    rcases List.mem_cons.mp member with same | member
    · cases same
      cases named
    · exact tracked.alive member named
  distinct := tracked.distinct

/-- A handle's entry changes, and keeps its name. -/
theorem change (tracked : Tracked gl handles) (update : LiveHandle → LiveHandle)
    (same : ∀ live, (update live).name = live.name)
    (pending : ∀ live, (update live).pendingCollection = true →
      live.pendingCollection = true ∨ .collected handle ∈ gl.events) :
    Tracked gl (handles.change handle update) where
  lawful := tracked.lawful
  fresh := tracked.fresh
  typed := by
    intro _ _ member
    obtain ⟨live, listed, -⟩ := LiveHandles.mem_change member
    exact tracked.typed listed
  collected := by
    intro _ _ member collected
    obtain ⟨live, listed, rfl⟩ := LiveHandles.mem_change member
    split at collected
    · next this =>
        rcases pending live collected with before | now
        · exact tracked.collected listed before
        · rwa [this]
    · exact tracked.collected listed collected
  alive := by
    intro _ _ _ member named
    obtain ⟨live, listed, rfl⟩ := LiveHandles.mem_change member
    split at named
    · exact tracked.alive listed ((same live).symm.trans named)
    · exact tracked.alive listed named
  distinct := by
    rw [LiveHandles.names_change same]
    exact tracked.distinct

/-! ## Consolidation -/

/-- One turn of the loop succeeds. It leaves out the entry of a collected handle, whose name it
deletes, and names any other. -/
theorem consolidateHandle (tracked : Tracked gl ((handle, live) :: others))
    (labels : List HandleGLES) :
    ∃ changed after, Impeller.consolidateHandle labels gl handle live = some (changed, after) ∧
      changed.pendingCollection = live.pendingCollection ∧
      Tracked after ([(handle, changed)].filter (!·.2.pendingCollection) ++ others) := by
  have typed := tracked.typed List.mem_cons_self
  have rest := tracked.sublist (List.sublist_cons_self _ _)
  unfold Impeller.consolidateHandle
  by_cases pending : live.pendingCollection = true
  · rw [if_pos pending]
    have left : [(handle, live)].filter (!·.2.pendingCollection) = [] :=
      List.filter_cons_of_neg (by simp [pending])
    cases named : live.name with
    | some name =>
      refine ⟨live, gl.record (.deleted name), ?_, rfl, ?_⟩
      · dsimp only
        rw [GLState.collectGLHandle_of_typed typed]
      · rw [left]
        exact tracked.delete named pending
    | none =>
      refine ⟨live, gl, rfl, rfl, ?_⟩
      rw [left]
      exact rest
  · rw [if_neg pending]
    have active : live.pendingCollection = false := Bool.eq_false_iff.mpr pending
    have stays : ∀ {changed : LiveHandle}, changed.pendingCollection = live.pendingCollection →
        [(handle, changed)].filter (!·.2.pendingCollection) = [(handle, changed)] := by
      intro changed same
      exact List.filter_cons_of_pos (by simp [same, active])
    cases named : live.name with
    | some name =>
      have samePending := live.labelled_pendingCollection (labels.contains handle)
      refine ⟨_, gl, rfl, samePending, ?_⟩
      rw [stays samePending]
      refine tracked.relabel (live.labelled_name _) fun collected => ?_
      rw [samePending, active] at collected
      cases collected
    | none =>
      dsimp only
      rw [GLState.createGLHandle_of_typed typed]
      have samePending := LiveHandle.labelled_pendingCollection
        { live with name := some ⟨gl.generated⟩ } (labels.contains handle)
      refine ⟨_, _, rfl, samePending, ?_⟩
      rw [stays samePending]
      exact rest.generate typed (LiveHandle.labelled_name _ _) (samePending.trans active)

/-- The loop gets to the end; `survivors` are the entries before those that are left. -/
theorem consolidateEach (labels : List HandleGLES) (survivors : LiveHandles)
    (tracked : Tracked gl (survivors ++ handles)) :
    ∃ consolidated after, Impeller.consolidateEach labels gl handles = (true, consolidated, after) ∧
      Tracked after (survivors ++ consolidated.filter (!·.2.pendingCollection)) := by
  induction handles generalizing gl survivors with
  | nil => exact ⟨[], gl, rfl, tracked⟩
  | cons entry rest ih =>
    obtain ⟨handle, live⟩ := entry
    obtain ⟨changed, turned, turn, samePending, kept⟩ :=
      (tracked.perm List.perm_middle).consolidateHandle labels
    have reordered : Tracked turned
        ((survivors ++ [(handle, changed)].filter (!·.2.pendingCollection)) ++ rest) := by
      refine kept.perm ?_
      rw [← List.append_assoc]
      exact List.perm_append_comm.append_right rest
    obtain ⟨consolidated, after, looped, kept⟩ := ih _ reordered
    refine ⟨(handle, changed) :: consolidated, after, ?_, ?_⟩
    · unfold Impeller.consolidateEach
      rw [turn]
      dsimp only
      rw [looped]
    · rw [← List.singleton_append, List.filter_append, ← List.append_assoc]
      exact kept

end Tracked

/-- The names that `GetGLHandle` has returned to the operation of the frame. -/
def ReactorFrame.acquired : ReactorFrame → List GLName
  | .executing _ _ acquired => acquired
  | .asking | .looping | .locking | .consolidating | .flushing | .running _ => []

theorem ReactorFrame.acquired_of_not_locks {frame : ReactorFrame} (outside : frame.locks = false) :
    frame.acquired = [] := by
  cases frame with
  | asking | looping | locking => rfl
  | consolidating | flushing | running | executing => simp [locks] at outside

namespace ReactorGLES

variable {Thread : Type} [DecidableEq Thread] {reactor next : ReactorGLES Thread}
  {thread : Thread} {op : ReactorStep} {frame : ReactorFrame} {stack below : List ReactorFrame}

/-- What has become of names is lawful, and a name that `GetGLHandle` has returned inside of an
operation that is executed is not deleted. -/
structure KeepsNames (reactor : ReactorGLES Thread) : Prop where
  lawful : Lawful reactor.gl.events
  acquired : ∀ thread, ∀ frame ∈ reactor.frames thread, ∀ name ∈ frame.acquired,
    .deleted name ∉ reactor.gl.events

/-- The entries are tracked, and no operation has got a name that is deleted. -/
structure TracksNames (reactor : ReactorGLES Thread) : Prop where
  tracked : Tracked reactor.gl reactor.handles
  acquired : ∀ thread, ∀ frame ∈ reactor.frames thread, ∀ name ∈ frame.acquired,
    .deleted name ∉ reactor.gl.events

namespace TracksNames

/-- A thread's stack changes, and operations get no names. -/
theorem setStack (inv : reactor.TracksNames)
    (kept : ∀ frame ∈ stack, ∀ name ∈ frame.acquired, .deleted name ∉ reactor.gl.events) :
    (reactor.setStack thread stack).TracksNames where
  tracked := inv.tracked
  acquired := by
    intro other frame member
    rw [setStack_frames] at member
    by_cases this : other = thread
    · subst this
      rw [Function.update_self] at member
      exact kept frame member
    · rw [Function.update_of_ne this] at member
      exact inv.acquired other frame member

theorem push (inv : reactor.TracksNames) (acquires : frame.acquired = []) :
    (reactor.push thread frame).TracksNames := by
  refine inv.setStack (List.forall_mem_cons.mpr ⟨?_, inv.acquired thread⟩)
  rw [acquires]
  exact fun _ member => absurd member List.not_mem_nil

/-- The innermost frame ends, or another takes its place. -/
theorem pop (inv : reactor.TracksNames) (shape : reactor.frames thread = frame :: below) :
    (reactor.setStack thread below).TracksNames := by
  refine inv.setStack fun other member => inv.acquired thread other ?_
  rw [shape]
  exact List.mem_cons_of_mem _ member

theorem setTop (inv : reactor.TracksNames) (shape : reactor.frames thread = frame :: below)
    {top : ReactorFrame} (acquires : top.acquired = []) :
    (reactor.setStack thread (top :: below)).TracksNames := by
  refine inv.setStack (List.forall_mem_cons.mpr ⟨?_, fun other member => ?_⟩)
  · rw [acquires]
    exact fun _ member => absurd member List.not_mem_nil
  · refine inv.acquired thread other ?_
    rw [shape]
    exact List.mem_cons_of_mem _ member

omit [DecidableEq Thread] in
/-- An event that deletes no name, with the entries as they are after it. -/
theorem record (inv : reactor.TracksNames) {gl : GLState} {event : NameEvent}
    (recorded : gl.events = event :: reactor.gl.events) (deletes : ∀ name, event ≠ .deleted name)
    {handles : LiveHandles} (tracked : Tracked gl handles) :
    TracksNames { reactor with gl := gl, handles := handles } where
  tracked := tracked
  acquired := by
    intro thread frame member name held deleted
    change .deleted name ∈ gl.events at deleted
    rw [recorded] at deleted
    rcases List.mem_cons.mp deleted with same | earlier
    · exact deletes name same.symm
    · exact inv.acquired thread frame member name held earlier

/-! ### Calls -/

theorem addOperation (inv : reactor.TracksNames) (null : Bool) :
    (reactor.addOperation thread null).TracksNames := by
  unfold ReactorGLES.addOperation
  split
  · exact inv
  · have queued : TracksNames
        { reactor with ops := reactor.ops ++ [reactor.added], added := reactor.added + 1 } :=
      ⟨inv.tracked, inv.acquired⟩
    exact queued.push rfl

omit [DecidableEq Thread] in
theorem createHandle (inv : reactor.TracksNames) (type : HandleType) (canReact : Bool) :
    (reactor.createHandle type canReact).TracksNames := by
  unfold ReactorGLES.createHandle
  split
  · exact inv
  · next typed =>
      have eager : ∀ newHandle : HandleGLES, newHandle.type ≠ .unknown →
          TracksNames { reactor with
            handles := reactor.handles ++ [(newHandle, { name := some ⟨reactor.gl.generated⟩ })]
            gl := { reactor.gl.record (.generated ⟨reactor.gl.generated⟩ newHandle) with
              generated := reactor.gl.generated + 1 } } := by
        intro newHandle typed
        exact inv.record rfl (by simp)
          ((inv.tracked.generate typed rfl rfl).perm (List.perm_append_singleton _ _).symm)
      have unnamed : ∀ newHandle : HandleGLES, newHandle.type ≠ .unknown →
          TracksNames { reactor with
            handles := reactor.handles ++ [(newHandle, { name := none })] } := by
        intro newHandle typed
        exact ⟨(inv.tracked.unnamed typed).perm (List.perm_append_singleton _ _).symm,
          inv.acquired⟩
      dsimp only
      cases canReact with
      | true =>
        rw [if_pos rfl, GLState.createGLHandle_of_typed typed]
        have created := eager ⟨type, some reactor.uniqueIDs⟩ typed
        exact ⟨created.tracked, created.acquired⟩
      | false =>
        rw [if_neg Bool.false_ne_true]
        have created := unnamed ⟨type, some reactor.uniqueIDs⟩ typed
        exact ⟨created.tracked, created.acquired⟩

omit [DecidableEq Thread] in
theorem collectHandle (inv : reactor.TracksNames) (handle : HandleGLES) :
    (reactor.collectHandle handle).TracksNames := by
  have recorded := inv.tracked.record (.collected handle) trivial (by simp) (by simp)
  exact inv.record rfl (by simp)
    (recorded.change (fun live => { live with pendingCollection := true }) (fun _ => rfl)
      fun _ _ => .inr List.mem_cons_self)

theorem getGLHandle (inv : reactor.TracksNames) (handle : HandleGLES) :
    (reactor.getGLHandle thread handle).TracksNames := by
  unfold ReactorGLES.getGLHandle
  split
  · exact inv
  · next name got =>
      obtain ⟨live, found, named⟩ := Option.bind_eq_some_iff.mp got
      have listed := LiveHandles.mem_of_lookup? found
      split at named
      · cases named
      · have notDeleted := (inv.tracked.alive listed named).2
        have returned : TracksNames { reactor with gl := reactor.gl.record (.returned name) } :=
          inv.record rfl (by simp)
            (inv.tracked.record (.returned name) notDeleted (by simp) (by simp))
        dsimp only
        split
        · next operation rest acquired below shape =>
            have before := returned.acquired thread
            change ∀ frame ∈ reactor.frames thread, _ at before
            rw [shape] at before
            obtain ⟨kept, others⟩ := List.forall_mem_cons.mp before
            refine returned.setStack (List.forall_mem_cons.mpr ⟨?_, others⟩)
            refine List.forall_mem_cons.mpr ⟨fun deleted => ?_, kept⟩
            rcases List.mem_cons.mp deleted with same | earlier
            · cases same
            · exact notDeleted earlier
        · exact returned

omit [DecidableEq Thread] in
theorem setDebugLabel (inv : reactor.TracksNames) (handle : HandleGLES) (label : String) :
    (reactor.setDebugLabel handle label).TracksNames := by
  unfold ReactorGLES.setDebugLabel
  split
  · exact inv
  · exact ⟨inv.tracked.change (fun live => { live with pendingDebugLabel := some label })
      (fun _ => rfl) fun _ pending => .inl pending, inv.acquired⟩

theorem call (inv : reactor.TracksNames) (called : reactor.call thread op = some next) :
    next.TracksNames := by
  cases op with
  | addOperation null =>
    obtain rfl := Option.some.inj called
    exact inv.addOperation null
  | react =>
    obtain rfl := Option.some.inj called
    exact inv.push rfl
  | createHandle type canReact =>
    obtain rfl := Option.some.inj called
    exact inv.createHandle type canReact
  | collectHandle handle =>
    obtain rfl := Option.some.inj called
    exact inv.collectHandle handle
  | getGLHandle handle =>
    obtain rfl := Option.some.inj called
    exact inv.getGLHandle handle
  | setDebugLabel handle label =>
    obtain rfl := Option.some.inj called
    exact inv.setDebugLabel handle label
  | canReactOnCurrentThread | hasPendingOperations | lockExecution | consolidateHandles | swapOps
  | startOperation | finishOperation | unlockExecution => cases called

/-! ### Reactions -/

/-- The entries are consolidated where no operation is executed. -/
theorem consolidateHandles (inv : reactor.TracksNames) (serialized : reactor.Serialized)
    (shape : reactor.frames thread = .consolidating :: below) (labels : List HandleGLES) :
    ∃ consolidated : ReactorGLES Thread,
      reactor.consolidateHandles labels = (true, consolidated) ∧
      consolidated.frames = reactor.frames ∧ consolidated.TracksNames := by
  obtain ⟨handles, gl, looped, tracked⟩ :=
    Tracked.consolidateEach labels [] inv.tracked
  have holds := serialized.held.holder_of_mem (shape ▸ List.mem_cons_self) rfl
  have idle : ∀ other, ∀ frame ∈ reactor.frames other, frame.acquired = [] := by
    intro other frame member
    cases locked : frame.locks with
    | false => exact ReactorFrame.acquired_of_not_locks locked
    | true =>
      obtain rfl : thread = other := Option.some.inj
        (holds.symm.trans (serialized.held.holder_of_mem member locked))
      rw [shape] at member
      rcases List.mem_cons.mp member with rfl | member
      · rfl
      · have outside := serialized.held.below_of_top shape rfl
        exact absurd locked (List.countP_eq_zero.mp outside frame member)
  refine ⟨{ reactor with handles := handles.filter (!·.2.pendingCollection), gl := gl }, ?_, rfl,
    tracked, fun other frame member name held => ?_⟩
  · unfold ReactorGLES.consolidateHandles
    rw [looped]
    rfl
  · rw [idle other frame member] at held
    exact absurd held List.not_mem_nil

theorem reaction (inv : reactor.TracksNames) (serialized : reactor.Serialized)
    (shape : reactor.frames thread = frame :: below)
    (reacted : reactor.reaction thread below frame op = some next) : next.TracksNames := by
  unfold ReactorGLES.reaction at reacted
  split at reacted
  -- asking
  · obtain rfl := Option.some.inj reacted
    split
    · exact inv.setTop shape rfl
    · exact inv.pop shape
  -- looping
  · obtain rfl := Option.some.inj reacted
    split
    · exact inv.pop shape
    · exact inv.setTop shape rfl
  -- locking
  · split at reacted
    · cases reacted
    · obtain rfl := Option.some.inj reacted
      have locked : TracksNames { reactor with executor := some thread } :=
        ⟨inv.tracked, inv.acquired⟩
      exact locked.setTop shape rfl
  -- consolidating
  · next labels =>
      split at reacted
      · obtain rfl := Option.some.inj reacted
        have unlocked : TracksNames { reactor with executor := none } :=
          ⟨inv.tracked, inv.acquired⟩
        exact unlocked.pop shape
      · obtain ⟨consolidated, all, same, kept⟩ := inv.consolidateHandles serialized shape labels
        rw [all] at reacted
        obtain rfl := Option.some.inj reacted
        exact kept.setTop (by rw [same, shape]) rfl
  -- flushing
  · obtain rfl := Option.some.inj reacted
    have swapped : TracksNames { reactor with ops := [] } := ⟨inv.tracked, inv.acquired⟩
    exact swapped.setTop shape rfl
  -- running, an operation
  · next operation rest =>
      obtain rfl := Option.some.inj reacted
      have started : TracksNames { reactor with started := reactor.started ++ [operation] } :=
        ⟨inv.tracked, inv.acquired⟩
      exact started.setTop shape rfl
  -- executing
  · obtain rfl := Option.some.inj reacted
    exact inv.setTop shape rfl
  -- running, at the end
  · obtain rfl := Option.some.inj reacted
    have unlocked : TracksNames { reactor with executor := none } := ⟨inv.tracked, inv.acquired⟩
    exact unlocked.setTop shape rfl
  · cases reacted

theorem initial (valid : machine.Initial reactor) : reactor.TracksNames := by
  obtain ⟨isValid, canSetDebugLabels, rfl⟩ := valid
  refine ⟨⟨trivial, nofun, nofun, nofun, nofun, List.nodup_nil⟩, ?_⟩
  exact fun _ _ member => absurd member List.not_mem_nil

end TracksNames

/-- In every interleaving of the steps of any number of threads, names are generated, returned and
deleted lawfully, and those of operations that are executed are not deleted. -/
theorem reachable_keepsNames (reached : machine.Reachable (fun _ _ => True) reactor) :
    reactor.KeepsNames := by
  have inv : reactor.TracksNames := by
    induction reached with
    | initial valid => exact .initial valid
    | step threadStep prior _ transition ih =>
      rcases step_cases transition with ⟨_, called⟩ | ⟨frame, below, shape, reacted⟩
      · exact ih.call called
      · exact ih.reaction (reachable_serialized prior) shape reacted
  exact ⟨inv.tracked.lawful, inv.acquired⟩

section Samples

def texture : HandleGLES := ⟨.texture, some 0⟩

/-- A handle is collected on another thread while an operation that has got its name is executed,
and the name is deleted in the next reaction. -/
theorem reachable_keepsNames_collected :
    ∃ reactor : ReactorGLES Nat, machine.Reachable (fun _ _ => True) reactor ∧
      reactor.gl.events = [.deleted ⟨0⟩, .collected texture, .returned ⟨0⟩,
        .generated ⟨0⟩ texture] ∧ reactor.KeepsNames := by
  have start : machine.Reachable (fun _ _ => True) opened := .initial ⟨true, true, rfl⟩
  obtain ⟨reactor, reached, events⟩ := start.exists_of_run
    [(0, .createHandle .texture false), (0, .setDebugLabel texture "Onscreen"),
      (0, .addOperation false), (0, .canReactOnCurrentThread true), (0, .hasPendingOperations),
      (0, .lockExecution), (0, .consolidateHandles [texture]), (0, .swapOps),
      (0, .startOperation), (0, .getGLHandle texture), (1, .collectHandle texture),
      (1, .getGLHandle texture), (1, .addOperation false), (1, .canReactOnCurrentThread true),
      (1, .hasPendingOperations), (0, .finishOperation), (0, .unlockExecution),
      (1, .lockExecution), (1, .consolidateHandles [])]
    (fun reactor => reactor.gl.events = [.deleted ⟨0⟩, .collected texture, .returned ⟨0⟩,
        .generated ⟨0⟩ texture]) (by decide) (by decide)
  exact ⟨reactor, reached, of_decide_eq_true events, reachable_keepsNames reached⟩

end Samples

end ReactorGLES

end FlutterEngine.Impeller
