import Mathlib.Data.List.Basic
import FlutterEngine.Std.Machine

/-!
# The reactor of the OpenGL ES backend

`ReactorGLES` of `reactor_gles.cc`, one atomic step of one thread at a time: sections under
`ops_mutex_` and `handles_mutex_` do not overlap, and `ops_execution_mutex_` is held from one step
to another. It is not recursive: a thread that locks it again waits for itself. What the workers
answer, and the driver of OpenGL ES, are not part of the reactor: an answer belongs to the step
that asks for it, and every name that the driver generates is a new one. An executing operation
may make any call.
-/

namespace FlutterEngine.Impeller

open FlutterEngine.Std

inductive HandleType where
  | unknown
  | texture
  | buffer
  | program
  | renderBuffer
  | frameBuffer
deriving DecidableEq, Repr

/-- `HandleGLES`, named by its `UniqueID`. -/
structure HandleGLES where
  type : HandleType := .unknown
  name : Option Nat := none
deriving DecidableEq, Repr

namespace HandleGLES

def deadHandle : HandleGLES := {}

def isDead (handle : HandleGLES) : Bool := handle.name.isNone

end HandleGLES

/-- A name that the driver generated, by how many were generated before. -/
structure GLName where
  index : Nat
deriving DecidableEq, Repr

structure LiveHandle where
  name : Option GLName
  pendingDebugLabel : Option String := none
  pendingCollection : Bool := false
deriving DecidableEq, Repr

inductive NameEvent where
  | generated (name : GLName) (handle : HandleGLES)
  | collected (handle : HandleGLES)
  | returned (name : GLName)
  | deleted (name : GLName)
deriving DecidableEq, Repr

/-- How many names were generated, and what has become of names, the last event first. -/
structure GLState where
  generated : Nat := 0
  events : List NameEvent := []
deriving DecidableEq, Repr

namespace GLState

variable (gl : GLState)

def record (event : NameEvent) : GLState := { gl with events := event :: gl.events }

/-- `CreateGLHandle`. -/
def createGLHandle (handle : HandleGLES) : Option (GLName × GLState) :=
  match handle.type with
  | .unknown => none
  | .texture | .buffer | .program | .renderBuffer | .frameBuffer =>
    some (⟨gl.generated⟩, { record gl (.generated ⟨gl.generated⟩ handle) with
      generated := gl.generated + 1 })

/-- `CollectGLHandle`. -/
def collectGLHandle (type : HandleType) (name : GLName) : GLState :=
  match type with
  | .unknown => gl
  | .texture | .buffer | .program | .renderBuffer | .frameBuffer => gl.record (.deleted name)

variable {gl} {handle : HandleGLES}

theorem createGLHandle_of_typed (typed : handle.type ≠ .unknown) :
    gl.createGLHandle handle = some (⟨gl.generated⟩,
      { gl.record (.generated ⟨gl.generated⟩ handle) with generated := gl.generated + 1 }) := by
  unfold createGLHandle
  split
  · next unknown => exact absurd unknown typed
  all_goals rfl

theorem collectGLHandle_of_typed (typed : handle.type ≠ .unknown) (name : GLName) :
    gl.collectGLHandle handle.type name = gl.record (.deleted name) := by
  unfold collectGLHandle
  split
  · next unknown => exact absurd unknown typed
  all_goals rfl

end GLState

abbrev LiveHandles := List (HandleGLES × LiveHandle)

namespace LiveHandles

/-- The handle's entry, if it has one. -/
def lookup? (handles : LiveHandles) (handle : HandleGLES) : Option LiveHandle :=
  (handles.find? (·.1 = handle)).map (·.2)

/-- Change the handle's entry, if it has one. -/
def change (handles : LiveHandles) (handle : HandleGLES) (update : LiveHandle → LiveHandle) :
    LiveHandles :=
  handles.map fun entry => if entry.1 = handle then (entry.1, update entry.2) else entry

end LiveHandles

/-- Set a pending debug label; the driver may refuse it. -/
def LiveHandle.labelled (live : LiveHandle) (sets : Bool) : LiveHandle :=
  if sets then { live with pendingDebugLabel := none } else live

@[simp] theorem LiveHandle.labelled_name (live : LiveHandle) (sets : Bool) :
    (live.labelled sets).name = live.name := by
  unfold labelled
  split <;> rfl

@[simp] theorem LiveHandle.labelled_pendingCollection (live : LiveHandle) (sets : Bool) :
    (live.labelled sets).pendingCollection = live.pendingCollection := by
  unfold labelled
  split <;> rfl

/-- One turn of the loop of `ConsolidateHandles`; `none` when no name can be created. The driver
sets the debug labels of `labels`. -/
def consolidateHandle (labels : List HandleGLES) (gl : GLState) (handle : HandleGLES)
    (live : LiveHandle) : Option (LiveHandle × GLState) :=
  if live.pendingCollection then
    match live.name with
    | some name => some (live, gl.collectGLHandle handle.type name)
    | none => some (live, gl)
  else
    match live.name with
    | some _ => some (live.labelled (labels.contains handle), gl)
    | none => (gl.createGLHandle handle).map fun (name, gl) =>
      ({ live with name := some name }.labelled (labels.contains handle), gl)

/-- The loop of `ConsolidateHandles`, and whether it got to the end. The order of the handles is
that of the table; nothing else depends on it. -/
def consolidateEach (labels : List HandleGLES) (gl : GLState) :
    LiveHandles → Bool × LiveHandles × GLState
  | [] => (true, [], gl)
  | (handle, live) :: rest =>
    match consolidateHandle labels gl handle live with
    | none => (false, (handle, live) :: rest, gl)
    | some (live, gl) =>
      let (all, rest, gl) := consolidateEach labels gl rest
      (all, (handle, live) :: rest, gl)

/-- Where a thread is in `React`, or in the operation that it executes. -/
inductive ReactorFrame where
  /-- About to ask `CanReactOnCurrentThread`. -/
  | asking
  /-- About to ask `HasPendingOperations`. -/
  | looping
  /-- About to lock `ops_execution_mutex_`. -/
  | locking
  /-- In `ReactOnce`, before `ConsolidateHandles`. -/
  | consolidating
  /-- In `FlushOps`, before it takes the operations. -/
  | flushing
  /-- In `FlushOps`, with these operations left. -/
  | running (rest : List Nat)
  /-- In an operation, to which `GetGLHandle` has returned these names. -/
  | executing (operation : Nat) (rest : List Nat) (acquired : List GLName)
deriving DecidableEq, Repr

/-- `ops_execution_mutex_` is locked in this frame. -/
def ReactorFrame.locks : ReactorFrame → Bool
  | .asking | .looping | .locking => false
  | .consolidating | .flushing | .running _ | .executing .. => true

/-- The reactor, and for each thread where it is, the innermost frame first. An operation is named
by how many were added before. -/
structure ReactorGLES (Thread : Type) where
  isValid : Bool
  canSetDebugLabels : Bool
  ops : List Nat := []
  /-- The thread that has locked `ops_execution_mutex_`. -/
  executor : Option Thread := none
  handles : LiveHandles := []
  frames : Thread → List ReactorFrame := fun _ => []
  added : Nat := 0
  started : List Nat := []
  uniqueIDs : Nat := 0
  gl : GLState := {}

inductive ReactorStep where
  | addOperation (null : Bool)
  | react
  | createHandle (type : HandleType) (canReact : Bool)
  | collectHandle (handle : HandleGLES)
  | getGLHandle (handle : HandleGLES)
  | setDebugLabel (handle : HandleGLES) (label : String)
  | canReactOnCurrentThread (answer : Bool)
  | hasPendingOperations
  | lockExecution
  | consolidateHandles (labels : List HandleGLES)
  | swapOps
  | startOperation
  | finishOperation
  | unlockExecution
deriving DecidableEq, Repr

namespace ReactorGLES

variable {Thread : Type} [DecidableEq Thread] (reactor : ReactorGLES Thread)

/-- A thread makes calls outside of the reactor, and from an operation that it executes. -/
def mayCall (thread : Thread) : Bool :=
  match reactor.frames thread with
  | [] | .executing .. :: _ => true
  | _ => false

def setStack (thread : Thread) (stack : List ReactorFrame) : ReactorGLES Thread :=
  { reactor with frames := Function.update reactor.frames thread stack }

def push (thread : Thread) (frame : ReactorFrame) : ReactorGLES Thread :=
  reactor.setStack thread (frame :: reactor.frames thread)

/-! ## Calls -/

def addOperation (thread : Thread) (null : Bool) : ReactorGLES Thread :=
  if null then reactor
  else { reactor with ops := reactor.ops ++ [reactor.added], added := reactor.added + 1 }.push
    thread .asking

def createHandle (type : HandleType) (canReact : Bool) : ReactorGLES Thread :=
  if type = .unknown then reactor
  else
    let newHandle : HandleGLES := ⟨type, some reactor.uniqueIDs⟩
    match if canReact then reactor.gl.createGLHandle newHandle else none with
    | some (name, gl) => { reactor with
        uniqueIDs := reactor.uniqueIDs + 1
        handles := reactor.handles ++ [(newHandle, { name := some name })]
        gl := gl }
    | none => { reactor with
        uniqueIDs := reactor.uniqueIDs + 1
        handles := reactor.handles ++ [(newHandle, { name := none })] }

def collectHandle (handle : HandleGLES) : ReactorGLES Thread :=
  { reactor with
    handles := reactor.handles.change handle fun live => { live with pendingCollection := true }
    gl := reactor.gl.record (.collected handle) }

/-- `GetGLHandle`. -/
def getGLHandle? (handle : HandleGLES) : Option GLName := do
  let found ← reactor.handles.lookup? handle
  if found.pendingCollection then none else found.name

/-- `GetGLHandle`, with what is recorded of the name. -/
def getGLHandle (thread : Thread) (handle : HandleGLES) : ReactorGLES Thread :=
  match reactor.getGLHandle? handle with
  | none => reactor
  | some name =>
    let returned := { reactor with gl := reactor.gl.record (.returned name) }
    match reactor.frames thread with
    | .executing operation rest acquired :: below =>
      returned.setStack thread (.executing operation rest (name :: acquired) :: below)
    | _ => returned

def setDebugLabel (handle : HandleGLES) (label : String) : ReactorGLES Thread :=
  if !reactor.canSetDebugLabels || handle.isDead then reactor
  else { reactor with
    handles := reactor.handles.change handle fun live =>
      { live with pendingDebugLabel := some label } }

/-! ## Reactions -/

/-- `ConsolidateHandles`, and whether it succeeds. -/
def consolidateHandles (labels : List HandleGLES) : Bool × ReactorGLES Thread :=
  let (all, handles, gl) := consolidateEach labels reactor.gl reactor.handles
  (all, { reactor with
    handles := if all then handles.filter (!·.2.pendingCollection) else handles
    gl := gl })

/-- The step of a thread that is in `React`, by its innermost frame. -/
def reaction (thread : Thread) (below : List ReactorFrame) :
    ReactorFrame → ReactorStep → Option (ReactorGLES Thread)
  | .asking, .canReactOnCurrentThread answer =>
    some (reactor.setStack thread (if answer then .looping :: below else below))
  | .looping, .hasPendingOperations =>
    some (reactor.setStack thread
      (if reactor.ops.isEmpty then below else .locking :: below))
  | .locking, .lockExecution =>
    match reactor.executor with
    | some _ => none
    | none => some ({ reactor with executor := some thread }.setStack thread
        (.consolidating :: below))
  | .consolidating, .consolidateHandles labels =>
    if !reactor.isValid then
      some ({ reactor with executor := none }.setStack thread below)
    else
      let (all, consolidated) := reactor.consolidateHandles labels
      if all then some (consolidated.setStack thread (.flushing :: below))
      else some ({ consolidated with executor := none }.setStack thread below)
  | .flushing, .swapOps =>
    some ({ reactor with ops := [] }.setStack thread (.running reactor.ops :: below))
  | .running (operation :: rest), .startOperation =>
    some ({ reactor with started := reactor.started ++ [operation] }.setStack thread
      (.executing operation rest [] :: below))
  | .executing _ rest _, .finishOperation =>
    some (reactor.setStack thread (.running rest :: below))
  | .running [], .unlockExecution =>
    some ({ reactor with executor := none }.setStack thread (.looping :: below))
  | _, _ => none

/-- A call, of a thread that makes one. -/
def call (thread : Thread) : ReactorStep → Option (ReactorGLES Thread)
  | .addOperation null => some (reactor.addOperation thread null)
  | .react => some (reactor.push thread .asking)
  | .createHandle type canReact => some (reactor.createHandle type canReact)
  | .collectHandle handle => some (reactor.collectHandle handle)
  | .getGLHandle handle => some (reactor.getGLHandle thread handle)
  | .setDebugLabel handle label => some (reactor.setDebugLabel handle label)
  | _ => none

def step (threadStep : Thread × ReactorStep) : Option (ReactorGLES Thread) :=
  (if reactor.mayCall threadStep.1 then reactor.call threadStep.1 threadStep.2 else none).or
    (match reactor.frames threadStep.1 with
    | [] => none
    | frame :: below => reactor.reaction threadStep.1 below frame threadStep.2)

/-- A step of a thread is a call that it makes, or the next step of its innermost frame. -/
theorem step_cases {reactor next : ReactorGLES Thread} {threadStep : Thread × ReactorStep}
    (transition : reactor.step threadStep = some next) :
    (reactor.mayCall threadStep.1 = true ∧
      reactor.call threadStep.1 threadStep.2 = some next) ∨
    ∃ frame below, reactor.frames threadStep.1 = frame :: below ∧
      reactor.reaction threadStep.1 below frame threadStep.2 = some next := by
  rcases Option.or_eq_some_iff.mp transition with called | ⟨-, reacted⟩
  · split at called
    · next may => exact .inl ⟨may, called⟩
    · cases called
  · split at reacted
    · cases reacted
    · next frame below shape => exact .inr ⟨frame, below, shape, reacted⟩

/-- A new reactor, and any interleaving of the steps of threads. -/
def machine : Machine (ReactorGLES Thread) (Thread × ReactorStep) where
  Initial reactor := ∃ isValid canSetDebugLabels,
    reactor = { isValid := isValid, canSetDebugLabels := canSetDebugLabels }
  step := step

end ReactorGLES

end FlutterEngine.Impeller
