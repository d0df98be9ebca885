import FlutterEngine.DisplayList.Canvas
import FlutterEngine.DisplayList.RTree

/-!
# Dispatching a display list

`DisplayList::Dispatch` of `display_list.cc` with its two cullers, and the `dispatch` of
the records. The receiver is the list of the calls made so far, each with the op index
of the record that made it, which only `VectorCuller` keeps in `cur_index`; `back()` of
no save information is undefined and `none`.
-/

namespace FlutterEngine.DisplayList

/-- `std::numeric_limits<int>::max()`. -/
def intMax : Int := 2 ^ 31 - 1

structure DispatchContext.SaveInfo where
  previousRestoreIndex : Int
  saveWasNeeded : Bool
deriving DecidableEq, Repr

structure DispatchContext (p : Payloads) where
  receiver : List (Nat × ReceiverCall p) := []
  curIndex : Int := 0
  nextRenderIndex : Int
  nextRestoreIndex : Int := intMax
  /-- The latest is the first. -/
  saveInfos : List DispatchContext.SaveInfo := []

variable {p : Payloads}

/-! ## Records -/

namespace DispatchContext

variable (ctx : DispatchContext p) (index : Nat)

/-- Make a call to the receiver from the record at this op index. -/
def deliver (call : ReceiverCall p) : DispatchContext p :=
  { ctx with receiver := ctx.receiver ++ [(index, call)] }

/-- Make a call to the receiver when it is needed. -/
def deliverIf (needed : Bool) (call : ReceiverCall p) : DispatchContext p :=
  if needed then ctx.deliver index call else ctx

end DispatchContext

/-- `SaveOpBase::save_needed`. -/
def saveNeeded (restoreIndex : Int) (ctx : DispatchContext p) : DispatchContext p × Bool :=
  let needed : Bool := ctx.nextRenderIndex ≤ restoreIndex
  ({ ctx with
      saveInfos := ⟨ctx.nextRestoreIndex, needed⟩ :: ctx.saveInfos
      nextRestoreIndex := restoreIndex }, needed)

/-- `TransformClipOpBase::op_needed`. -/
def TransformClipOp.opNeeded (ctx : DispatchContext p) : Bool :=
  ctx.nextRenderIndex ≤ ctx.nextRestoreIndex

/-- `DrawOpBase::op_needed`. -/
def DrawOp.opNeeded (ctx : DispatchContext p) : Bool := ctx.nextRenderIndex ≤ ctx.curIndex

/-- `dispatch` of the record at this op index. -/
def DLOp.dispatch (ctx : DispatchContext p) (index : Nat) : DLOp p → Option (DispatchContext p)
  | .set op => some (ctx.deliver index (.set op.call))
  | .save op restoreIndex =>
    let (ctx, needed) := saveNeeded restoreIndex ctx
    some (ctx.deliverIf index needed op.call)
  | .restore =>
    match ctx.saveInfos with
    | [] => none
    | info :: saveInfos =>
      some { ctx.deliverIf index info.saveWasNeeded .restore with
        nextRestoreIndex := info.previousRestoreIndex
        saveInfos }
  | .transformClip op => some (ctx.deliverIf index (TransformClipOp.opNeeded ctx) op.call)
  | .draw op => some (ctx.deliverIf index (DrawOp.opNeeded ctx) (.draw op.call))

/-! ## Cullers -/

/-- `NopCuller`, or a `VectorCuller` with what is left of its indices. -/
inductive Culler (Rect : Type) where
  | nop
  | vector (rtree : DlRTree Rect) (cur : List Int)

namespace Culler

variable {Rect : Type}

/-- The loop of `VectorCuller::update`. -/
def advance (rtree : DlRTree Rect) (curIndex : Int) : List Int → Int × List Int
  | [] => (intMax, [])
  | index :: cur =>
    if curIndex ≤ rtree.id index then (rtree.id index, cur) else advance rtree curIndex cur

/-- The next render index and the culler after `init`; none when there is nothing to do. -/
def init : Culler Rect → Option (Int × Culler Rect)
  | nop => some (0, nop)
  | vector _ [] => none
  | vector rtree (index :: cur) => some (rtree.id index, vector rtree cur)

def update (ctx : DispatchContext p) : Culler Rect → DispatchContext p × Culler Rect
  | nop => (ctx, nop)
  | vector rtree cur =>
    let ctx := { ctx with curIndex := ctx.curIndex + 1 }
    if ctx.nextRenderIndex < ctx.curIndex then
      let (nextRenderIndex, cur) := advance rtree ctx.curIndex cur
      ({ ctx with nextRenderIndex }, vector rtree cur)
    else (ctx, vector rtree cur)

end Culler

variable {Rect : Type}

/-- The loop of `Dispatch` from the record at this op index on. -/
def dispatchOps (index : Nat) :
    List (DLOp p) → DispatchContext p → Culler Rect → Option (DispatchContext p)
  | [], ctx, _ => some ctx
  | op :: ops, ctx, culler => do
      let ctx ← op.dispatch ctx index
      let (ctx, culler) := culler.update ctx
      dispatchOps (index + 1) ops ctx culler

/-- The calls that `Dispatch` makes. -/
def dispatch (ops : List (DLOp p)) (culler : Culler Rect) : Option (List (Nat × ReceiverCall p)) :=
  match culler.init with
  | none => some []
  | some (nextRenderIndex, culler) =>
    (dispatchOps 0 ops { nextRenderIndex } culler).map DispatchContext.receiver

end FlutterEngine.DisplayList
