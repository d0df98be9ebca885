import Mathlib.Data.List.Sort
import FlutterEngine.DisplayList.CulledDispatch

/-!
# What a culled dispatch paints

The culled canvas follows the full one: it has the same frame in every open scope that
the next hit lies in.
-/

namespace FlutterEngine.DisplayList

open FlutterEngine.Std

variable {p : Payloads} {Rect Matrix : Type}

/-- The open scopes of both canvases, the innermost first. A scope whose save was not
needed has no frame on the culled canvas and no hit any more. -/
inductive Scopes (next : Int) : (opened : List OpenBracket) → (nextRestoreIndex : Int) →
    List DispatchContext.SaveInfo → (full : Frame p Matrix) → List (Frame p Matrix) →
    (culled : Frame p Matrix) → List (Frame p Matrix) → Prop where
  | base {full culled} (same : next ≤ intMax → culled = full) :
      Scopes next [] intMax [] full [] culled []
  | needed {bracket opened previous infos full outerFull savedFull culled outerCulled savedCulled}
      (same : next ≤ bracket.closeIndex → culled = full)
      (outer : Scopes next opened previous infos outerFull savedFull outerCulled savedCulled) :
      Scopes next (bracket :: opened) bracket.closeIndex (⟨previous, true⟩ :: infos)
        full (outerFull :: savedFull) culled (outerCulled :: savedCulled)
  | skipped {bracket opened previous infos full outerFull savedFull culled savedCulled}
      (ended : bracket.closeIndex < next)
      (outer : Scopes next opened previous infos outerFull savedFull culled savedCulled) :
      Scopes next (bracket :: opened) bracket.closeIndex (⟨previous, false⟩ :: infos)
        full (outerFull :: savedFull) culled savedCulled

namespace Scopes

variable {next restoreIndex : Int} {opened : List OpenBracket}
  {infos : List DispatchContext.SaveInfo} {full culled : Frame p Matrix}
  {savedFull savedCulled : List (Frame p Matrix)}

/-- The scopes stay as they are while the next hit moves on. -/
theorem mono {later : Int} (later_le : next ≤ later)
    (scopes : Scopes next opened restoreIndex infos full savedFull culled savedCulled) :
    Scopes later opened restoreIndex infos full savedFull culled savedCulled := by
  induction scopes with
  | base same => exact .base fun live => same (later_le.trans live)
  | needed same _ ih => exact .needed (fun live => same (later_le.trans live)) ih
  | skipped ended _ ih => exact .skipped (ended.trans_le later_le) ih

/-- No scope is open on either canvas. -/
theorem saved_nil (scopes : Scopes next [] restoreIndex infos full savedFull culled savedCulled) :
    savedFull = [] ∧ savedCulled = [] := by
  cases scopes
  exact ⟨rfl, rfl⟩

/-- The innermost scope ends after everything that all open scopes end after. -/
theorem lt_restoreIndex {index : Int}
    (scopes : Scopes next opened restoreIndex infos full savedFull culled savedCulled)
    (below : ∀ bracket ∈ opened, index < bracket.closeIndex) (fits : index < intMax) :
    index < restoreIndex := by
  cases scopes with
  | base => exact fits
  | needed => exact below _ List.mem_cons_self
  | skipped => exact below _ List.mem_cons_self

/-- The scope of the next hit has one frame on both canvases. -/
theorem live (lives : next ≤ restoreIndex)
    (scopes : Scopes next opened restoreIndex infos full savedFull culled savedCulled) :
    culled = full ∧
      ∀ frame, Scopes next opened restoreIndex infos frame savedFull frame savedCulled := by
  cases scopes with
  | base same => exact ⟨same lives, fun frame => .base fun _ => rfl⟩
  | needed same outer => exact ⟨same lives, fun frame => .needed (fun _ => rfl) outer⟩
  | skipped ended => omega

/-- A scope without a hit may miss anything. -/
theorem dead (ends : restoreIndex < next)
    (scopes : Scopes next opened restoreIndex infos full savedFull culled savedCulled)
    (frame : Frame p Matrix) :
    Scopes next opened restoreIndex infos frame savedFull culled savedCulled := by
  cases scopes with
  | base => exact .base fun live => absurd live (not_le.mpr ends)
  | needed _ outer => exact .needed (fun live => absurd live (not_le.mpr ends)) outer
  | skipped ended outer => exact .skipped ended outer

end Scopes

/-- A painted draw is a hit. -/
def isHit (hits : List Int) (draw : Painted p Matrix) : Bool := decide ((draw.index : Int) ∈ hits)

/-- The culled dispatch and its canvas beside the full canvas, before the record at this
op index. -/
structure Follows (transforms : Transforms p Matrix) (rtree : DlRTree Rect) (hits : List Int)
    (index : Nat) (opened : List OpenBracket) (ctx : DispatchContext p) (cur : List Int)
    (full culled : Canvas p Matrix) : Prop where
  curIndex : ctx.curIndex = index
  awaits : Awaits rtree ctx.nextRenderIndex cur (hitsFrom index hits)
  received : (Canvas.initial transforms).receiveAll transforms ctx.receiver = some culled
  attributes : culled.attributes = full.attributes
  scopes : Scopes ctx.nextRenderIndex opened ctx.nextRestoreIndex ctx.saveInfos
    full.frame full.saved culled.frame culled.saved
  painted : culled.painted = full.painted.filter (isHit hits)

namespace Follows

variable {transforms : Transforms p Matrix} {rtree : DlRTree Rect} {hits cur : List Int}
  {index : Nat} {opened after : List OpenBracket} {ctx : DispatchContext p}
  {full culled : Canvas p Matrix}

theorem received_deliver {received : List (Nat × ReceiverCall p)} {call : ReceiverCall p}
    {next : Canvas p Matrix}
    (before : (Canvas.initial transforms).receiveAll transforms received = some culled)
    (receives : culled.receive transforms index call = some next) :
    (Canvas.initial transforms).receiveAll transforms (received ++ [(index, call)]) =
      some next := by
  rw [Canvas.receiveAll_append, before]
  simp [Canvas.receiveAll, receives]

/-- What the dispatch of a record leaves, with the context still at its op index. -/
def Dispatches (transforms : Transforms p Matrix) (rtree : DlRTree Rect) (hits : List Int)
    (index : Nat) (after : List OpenBracket) (ctx : DispatchContext p) (cur : List Int)
    (full : Canvas p Matrix) (op : DLOp p) : Prop :=
  ∃ next fullNext culledNext, op.dispatch ctx index = some next ∧
    full.receive transforms index op.call = some fullNext ∧
    Follows transforms rtree hits index after next cur fullNext culledNext

theorem save (follows : Follows transforms rtree hits index opened ctx cur full culled)
    {op : SaveOp p} {restoreIndex : Int}
    (inside : ∀ bracket ∈ opened, restoreIndex < bracket.closeIndex)
    (fits : restoreIndex < intMax) :
    Dispatches transforms rtree hits index (⟨index, restoreIndex⟩ :: opened) ctx cur full
      (.save op restoreIndex) := by
  obtain ⟨curIndex, awaits, received, attributes, scopes, painted⟩ := follows
  have outside := scopes.lt_restoreIndex inside fits
  have receives : ∀ canvas : Canvas p Matrix, ∃ frame, canvas.receive transforms index op.call =
      some { canvas.push with frame } ∧
      ∀ other : Canvas p Matrix, other.attributes = canvas.attributes →
        other.frame = canvas.frame → other.receive transforms index op.call =
          some { other.push with frame } := by
    intro canvas
    cases op with
    | save => exact ⟨canvas.frame, rfl, fun other _ same => by
        simp [SaveOp.call, Canvas.receive, Canvas.push, same]⟩
    | saveLayer options rect => exact ⟨_, rfl, fun other sameAttributes same => by
        simp [SaveOp.call, Canvas.receive, Canvas.push, same, sameAttributes]⟩
    | saveLayerBackdrop options rect backdrop => exact ⟨_, rfl, fun other sameAttributes same => by
        simp [SaveOp.call, Canvas.receive, Canvas.push, same, sameAttributes]⟩
  obtain ⟨frame, fullReceives, culledReceives⟩ := receives full
  by_cases live : ctx.nextRenderIndex ≤ restoreIndex
  · have same := (scopes.live (live.trans outside.le)).1
    refine ⟨_, _, { culled.push with frame }, rfl, fullReceives, ?_⟩
    simp only [live, decide_true, DispatchContext.deliverIf, if_true, DispatchContext.deliver]
    exact {
      curIndex := curIndex
      awaits := awaits
      received := received_deliver received (culledReceives culled attributes same)
      attributes := attributes
      scopes := .needed (fun _ => rfl) scopes
      painted := painted }
  · refine ⟨_, _, culled, rfl, fullReceives, ?_⟩
    simp only [live, decide_false, DispatchContext.deliverIf, Bool.false_eq_true, if_false]
    exact {
      curIndex := curIndex
      awaits := awaits
      received := received
      attributes := attributes
      scopes := .skipped (not_le.mp live) scopes
      painted := painted }

theorem restore {bracket : OpenBracket}
    (follows : Follows transforms rtree hits index (bracket :: opened) ctx cur full culled) :
    Dispatches transforms rtree hits index opened ctx cur full .restore := by
  obtain ⟨curIndex, awaits, received, attributes, scopes, painted⟩ := follows
  obtain ⟨receiver, cur_index, nextRenderIndex, nextRestoreIndex, saveInfos⟩ := ctx
  obtain ⟨fullAttributes, fullFrame, fullSaved, fullPainted⟩ := full
  obtain ⟨culledAttributes, culledFrame, culledSaved, culledPainted⟩ := culled
  cases scopes with
  | @needed _ _ _ _ _ _ _ _ outerCulled savedCulled same outer =>
    refine ⟨_, _, ⟨culledAttributes, outerCulled, savedCulled, culledPainted⟩, rfl, rfl, ?_⟩
    exact {
      curIndex := curIndex
      awaits := awaits
      received := received_deliver received rfl
      attributes := attributes
      scopes := outer
      painted := painted }
  | skipped ended outer =>
    refine ⟨_, _, ⟨culledAttributes, culledFrame, culledSaved, culledPainted⟩, rfl, rfl, ?_⟩
    exact {
      curIndex := curIndex
      awaits := awaits
      received := received
      attributes := attributes
      scopes := outer
      painted := painted }

variable (follows : Follows transforms rtree hits index opened ctx cur full culled)

include follows

theorem transformClip (op : TransformClipOp p) :
    Dispatches transforms rtree hits index opened ctx cur full (.transformClip op) := by
  obtain ⟨curIndex, awaits, received, attributes, scopes, painted⟩ := follows
  have receives : ∀ canvas : Canvas p Matrix, ∃ frame, canvas.receive transforms index op.call =
      some { canvas with frame } ∧
      ∀ other : Canvas p Matrix, other.frame = canvas.frame →
        other.receive transforms index op.call = some { other with frame } := by
    intro canvas
    cases op <;> exact ⟨_, rfl, fun other same => by
      simp [TransformClipOp.call, Canvas.receive, same]⟩
  obtain ⟨frame, fullReceives, culledReceives⟩ := receives full
  by_cases live : ctx.nextRenderIndex ≤ ctx.nextRestoreIndex
  · obtain ⟨same, shared⟩ := scopes.live live
    refine ⟨ctx.deliver index op.call, _, { culled with frame }, ?_, fullReceives, ?_⟩
    · simp [DLOp.dispatch, TransformClipOp.opNeeded, live, DispatchContext.deliverIf]
    · exact {
        curIndex := curIndex
        awaits := awaits
        received := received_deliver received (culledReceives culled same)
        attributes := attributes
        scopes := shared frame
        painted := painted }
  · refine ⟨ctx, _, culled, ?_, fullReceives, ?_⟩
    · simp [DLOp.dispatch, TransformClipOp.opNeeded, live, DispatchContext.deliverIf]
    · exact {
        curIndex := curIndex
        awaits := awaits
        received := received
        attributes := attributes
        scopes := scopes.dead (not_le.mp live) frame
        painted := painted }

theorem draw (increasing : hits.Pairwise (· < ·)) (bounded : ∀ hit ∈ hits, hit ≤ intMax)
    (inside : ∀ bracket ∈ opened, (index : Int) < bracket.closeIndex)
    (fits : (index : Int) < intMax) (op : DrawOp p) :
    Dispatches transforms rtree hits index opened ctx cur full (.draw op) := by
  obtain ⟨curIndex, awaits, received, attributes, scopes, painted⟩ := follows
  have hit_iff := mem_hits_iff increasing awaits fits
  have ahead := (awaits.le fits.le bounded).1
  by_cases hit : ctx.nextRenderIndex = index
  · have live : ctx.nextRenderIndex ≤ ctx.nextRestoreIndex :=
      hit ▸ (scopes.lt_restoreIndex inside fits).le
    have same := (scopes.live live).1
    refine ⟨ctx.deliver index (.draw op.call), _,
      { culled with painted := culled.painted ++
        [⟨index, op.call, culled.attributes, culled.frame⟩] }, ?_, rfl, ?_⟩
    · simp [DLOp.dispatch, DrawOp.opNeeded, hit, curIndex, DispatchContext.deliverIf]
    · exact {
        curIndex := curIndex
        awaits := awaits
        received := received_deliver received rfl
        attributes := attributes
        scopes := scopes
        painted := by
          simp [painted, attributes, same, List.filter_append, isHit, hit_iff.mpr hit] }
  · refine ⟨ctx, _, culled, ?_, rfl, ?_⟩
    · have before : ¬ctx.nextRenderIndex ≤ (index : Int) := by omega
      simp [DLOp.dispatch, DrawOp.opNeeded, before, curIndex, DispatchContext.deliverIf]
    · exact {
        curIndex := curIndex
        awaits := awaits
        received := received
        attributes := attributes
        scopes := scopes
        painted := by
          have missed : (index : Int) ∉ hits := fun member => hit (hit_iff.mp member)
          simp [painted, List.filter_append, isHit, missed] }

/-- One record: the dispatch that culls and the full canvas go on together. -/
theorem dispatch (increasing : hits.Pairwise (· < ·)) (bounded : ∀ hit ∈ hits, hit ≤ intMax)
    {op : DLOp p} (steps : Bracket.nestStep index opened op.bracket = some after)
    (sorted : after.Pairwise fun inner outer => inner.closeIndex < outer.closeIndex)
    (inside : ∀ bracket ∈ after, (index : Int) < bracket.closeIndex)
    (within : ∀ bracket ∈ after, bracket.closeIndex < intMax) (fits : (index : Int) < intMax) :
    Dispatches transforms rtree hits index after ctx cur full op := by
  cases op with
  | set op =>
    cases steps
    obtain ⟨curIndex, awaits, received, attributes, scopes, painted⟩ := follows
    refine ⟨_, _, { culled with attributes := culled.attributes.set op.call }, rfl, rfl, ?_⟩
    exact {
      curIndex := curIndex
      awaits := awaits
      received := received_deliver received rfl
      attributes := congrArg (·.set op.call) attributes
      scopes := scopes
      painted := painted }
  | save op restoreIndex =>
    cases steps
    exact follows.save (List.pairwise_cons.mp sorted).1 (within _ List.mem_cons_self)
  | restore =>
    obtain ⟨bracket, rfl, -⟩ := Bracket.nestStep_closes steps
    exact follows.restore
  | transformClip op =>
    cases steps
    exact follows.transformClip op
  | draw op =>
    cases steps
    exact follows.draw increasing bounded inside fits op

/-- `update` takes both to the next op index. -/
theorem update (increasing : hits.Pairwise (· < ·)) (fits : (index : Int) < intMax) :
    ∃ next rest, (Culler.vector rtree cur).update ctx = (next, .vector rtree rest) ∧
      Follows transforms rtree hits (index + 1) opened next rest full culled := by
  obtain ⟨curIndex, awaits, received, attributes, scopes, painted⟩ := follows
  obtain ⟨next, rest, updates, later, later_le⟩ := awaits.update increasing curIndex fits
  refine ⟨_, rest, updates, ?_⟩
  exact {
    curIndex := by push_cast; rfl
    awaits := later
    received := received
    attributes := attributes
    scopes := scopes.mono later_le
    painted := painted }

/-- All records from this op index on. -/
theorem dispatchOps {ops : List (DLOp p)}
    (increasing : hits.Pairwise (· < ·)) (bounded : ∀ hit ∈ hits, hit ≤ intMax)
    (nested : Bracket.nest DLOp.bracket index opened ops = some [])
    (fits : (index : Int) + ops.length ≤ intMax) :
    ∃ next fullNext culledNext,
      DisplayList.dispatchOps index ops ctx (.vector rtree cur) = some next ∧
      full.receiveAll transforms (calls index ops) = some fullNext ∧ fullNext.saved = [] ∧
      (Canvas.initial transforms).receiveAll transforms next.receiver = some culledNext ∧
      culledNext.saved = [] ∧ culledNext.painted = fullNext.painted.filter (isHit hits) := by
  induction ops generalizing index opened ctx cur full culled with
  | nil =>
    cases nested
    obtain ⟨savedFull, savedCulled⟩ := follows.scopes.saved_nil
    exact ⟨ctx, full, culled, rfl, rfl, savedFull, follows.received, savedCulled,
      follows.painted⟩
  | cons op ops ih =>
    obtain ⟨after, steps, nested⟩ := Option.bind_eq_some_iff.mp nested
    obtain ⟨sorted, within⟩ := Bracket.closed_of_nest DLOp.bracket nested
    simp only [List.length_cons, Nat.cast_add, Nat.cast_one] at fits within
    have inside : ∀ bracket ∈ after, (index : Int) < bracket.closeIndex := fun bracket member => by
      have := within bracket member
      omega
    have ends : ∀ bracket ∈ after, bracket.closeIndex < intMax := fun bracket member => by
      have := within bracket member
      omega
    have before : (index : Int) < intMax := by omega
    obtain ⟨dispatched, fullNext, culledNext, dispatches, receives, follows⟩ :=
      follows.dispatch increasing bounded steps sorted inside ends before
    obtain ⟨updated, rest, updates, follows⟩ := follows.update increasing before
    obtain ⟨next, fullLast, culledLast, runs, receivesAll, remaining⟩ :=
      ih follows nested (by push_cast; omega)
    refine ⟨next, fullLast, culledLast, ?_, ?_, remaining⟩
    · simpa [DisplayList.dispatchOps, dispatches, updates] using runs
    · simpa [calls, Canvas.receiveAll, receives] using receivesAll

end Follows

/-! ## The draws of the whole list -/

/-- The op indices of the draws from this op index on. -/
def drawIndices (index : Nat) : List (DLOp p) → List Nat
  | [] => []
  | .draw _ :: ops => index :: drawIndices (index + 1) ops
  | _ :: ops => drawIndices (index + 1) ops

theorem mem_drawIndices {index position : Nat} {ops : List (DLOp p)} {op : DrawOp p}
    (draws : ops[position]? = some (.draw op)) : index + position ∈ drawIndices index ops := by
  induction ops generalizing index position with
  | nil => simp at draws
  | cons first ops ih =>
    cases position with
    | zero =>
      simp only [List.getElem?_cons_zero, Option.some.injEq] at draws
      simp [draws, drawIndices]
    | succ position =>
      have later : index + 1 + position ∈ drawIndices (index + 1) ops := ih (by simpa using draws)
      rw [Nat.add_assoc, Nat.add_comm 1] at later
      cases first with
      | draw => exact List.mem_cons_of_mem _ later
      | _ => exact later

theorem drawIndices_increasing (index : Nat) (ops : List (DLOp p)) :
    (drawIndices index ops).Pairwise (· < ·) ∧ ∀ draw ∈ drawIndices index ops, index ≤ draw := by
  induction ops generalizing index with
  | nil => exact ⟨.nil, by simp [drawIndices]⟩
  | cons op ops ih =>
    obtain ⟨increasing, after⟩ := ih (index + 1)
    have later : ∀ draw ∈ drawIndices (index + 1) ops, index ≤ draw := fun draw member =>
      (Nat.le_succ index).trans (after draw member)
    cases op with
    | draw op =>
      refine ⟨List.pairwise_cons.mpr ⟨fun draw member => after draw member, increasing⟩, ?_⟩
      intro draw member
      rcases List.mem_cons.mp member with rfl | member
      · exact le_refl _
      · exact later draw member
    | _ => exact ⟨increasing, later⟩

/-- A canvas that gets every call paints every draw. -/
theorem painted_calls {transforms : Transforms p Matrix} {index : Nat} {ops : List (DLOp p)}
    {canvas final : Canvas p Matrix}
    (receives : canvas.receiveAll transforms (calls index ops) = some final) :
    final.painted.map (·.index) = canvas.painted.map (·.index) ++ drawIndices index ops := by
  induction ops generalizing index canvas with
  | nil =>
    cases receives
    simp [drawIndices]
  | cons op ops ih =>
    obtain ⟨next, receivesOne, receives⟩ := Option.bind_eq_some_iff.mp receives
    rw [ih receives]
    cases op with
    | set op => cases receivesOne; rfl
    | save op restoreIndex => cases op <;> (cases receivesOne; rfl)
    | restore =>
      cases saved : canvas.saved with
      | nil => simp [DLOp.call, Canvas.receive, saved] at receivesOne
      | cons frame rest =>
        simp only [DLOp.call, Canvas.receive, saved, Option.some.injEq] at receivesOne
        subst receivesOne
        rfl
    | transformClip op => cases op <;> (cases receivesOne; rfl)
    | draw op =>
      cases receivesOne
      simp [drawIndices]

/-- The hits among the draws are all hits. -/
theorem filter_draws_eq {draws : List Nat} {hits : List Int}
    (drawsIncreasing : draws.Pairwise (· < ·)) (increasing : hits.Pairwise (· < ·))
    (drawn : ∀ hit ∈ hits, ∃ draw ∈ draws, (draw : Int) = hit) :
    (draws.filter fun draw : Nat => decide ((draw : Int) ∈ hits)).map
      (fun draw : Nat => (draw : Int)) = hits := by
  refine List.Pairwise.eq_of_mem_iff (r := (· < ·)) ?_ increasing fun hit => ?_
  · refine List.pairwise_map.mpr ((drawsIncreasing.filter _).imp fun less => ?_)
    exact Int.ofNat_lt.mpr less
  · simp only [List.mem_map, List.mem_filter, decide_eq_true_eq]
    constructor
    · rintro ⟨draw, ⟨-, member⟩, rfl⟩
      exact member
    · intro member
      obtain ⟨draw, among, rfl⟩ := drawn hit member
      exact ⟨draw, ⟨among, member⟩, rfl⟩

/-- Before the first record. -/
theorem Follows.initial (transforms : Transforms p Matrix) (rtree : DlRTree Rect)
    {hits cur : List Int} {nextRenderIndex : Int} (nonneg : ∀ hit ∈ hits, 0 ≤ hit)
    (awaits : Awaits rtree nextRenderIndex cur hits) :
    Follows transforms rtree hits 0 [] { nextRenderIndex } cur
      (Canvas.initial transforms) (Canvas.initial transforms) where
  curIndex := rfl
  awaits := by
    have all : hitsFrom 0 hits = hits :=
      List.filter_eq_self.mpr fun hit member => decide_eq_true (nonneg hit member)
    rw [all]
    exact awaits
  received := rfl
  attributes := rfl
  scopes := .base fun _ => rfl
  painted := rfl

/-- Dispatching with the indices of hits paints exactly the hit draws, each as the
unculled dispatch paints it, and balances its saves and restores. -/
theorem dispatch_culled {ops : List (DLOp p)} (nested : WellNested ops)
    (fits : (ops.length : Int) ≤ intMax) (rtree : DlRTree Rect) (rectIndices : List Int)
    (increasing : (rectIndices.map rtree.id).Pairwise (· < ·))
    (draws : ∀ hit ∈ rectIndices.map rtree.id,
      ∃ (index : Nat) (op : DrawOp p), (index : Int) = hit ∧ ops[index]? = some (.draw op))
    (transforms : Transforms p Matrix) :
    ∃ fullCalls culledCalls full culled,
      dispatch ops (Culler.nop : Culler Rect) = some fullCalls ∧
      dispatch ops (.vector rtree rectIndices) = some culledCalls ∧
      Canvas.Paints transforms fullCalls full ∧ Canvas.Paints transforms culledCalls culled ∧
      culled.painted = full.painted.filter (isHit (rectIndices.map rtree.id)) ∧
      culled.painted.map (fun draw => (draw.index : Int)) = rectIndices.map rtree.id := by
  have nonneg : ∀ hit ∈ rectIndices.map rtree.id, 0 ≤ hit := fun hit member => by
    obtain ⟨index, -, rfl, -⟩ := draws hit member
    exact Int.natCast_nonneg index
  have bounded : ∀ hit ∈ rectIndices.map rtree.id, hit ≤ intMax := fun hit member => by
    obtain ⟨index, op, rfl, found⟩ := draws hit member
    have := (List.getElem?_eq_some_iff.mp found).1
    omega
  have drawn : ∀ hit ∈ rectIndices.map rtree.id, ∃ draw ∈ drawIndices 0 ops, (draw : Int) = hit :=
    fun hit member => by
      obtain ⟨index, op, same, found⟩ := draws hit member
      exact ⟨index, Nat.zero_add index ▸ mem_drawIndices found, same⟩
  have fitsFromZero : ((0 : Nat) : Int) + ops.length ≤ intMax := by simpa using fits
  cases rectIndices with
  | nil =>
    obtain ⟨-, full, -, -, receives, saved, -⟩ :=
      (Follows.initial transforms rtree nonneg ⟨rfl, rfl⟩).dispatchOps
        increasing bounded nested fitsFromZero
    refine ⟨_, [], full, Canvas.initial transforms, dispatch_nop nested, rfl,
      ⟨receives, saved⟩, ⟨rfl, rfl⟩, ?_, rfl⟩
    exact (List.filter_eq_nil_iff.mpr fun draw _ => by simp [isHit]).symm
  | cons first cur =>
    obtain ⟨final, full, culled, runs, receives, saved, received, savedCulled, painted⟩ :=
      (Follows.initial transforms rtree nonneg ⟨rfl, rfl⟩).dispatchOps
        increasing bounded nested fitsFromZero
    refine ⟨_, final.receiver, full, culled, dispatch_nop nested, ?_, ⟨receives, saved⟩,
      ⟨received, savedCulled⟩, painted, ?_⟩
    · simp [dispatch, Culler.init, runs]
    · have indices := painted_calls receives
      rw [show (Canvas.initial transforms).painted.map (·.index) = [] from rfl,
        List.nil_append] at indices
      have hits := filter_draws_eq (drawIndices_increasing 0 ops).1 increasing drawn
      rw [← indices, List.filter_map, List.map_map] at hits
      rw [painted]
      exact hits

/-- Two saved draws of which the first is hit. -/
def twoDraws : List (DLOp plainPayloads) :=
  [.save .save 3, .transformClip (.transform (.translate 5 7)), .draw .drawPaint, .restore,
    .save .save 6, .draw .drawPaint, .restore]

/-- One leaf, of the first draw. -/
def firstDrawTree : DlRTree (SkRect Int) := ⟨[⟨⟨0, 0, 10, 10⟩, .id 2⟩], 1, -1⟩

/-- Transforms as the list of the calls that made them. -/
def transformCalls : Transforms plainPayloads (List (TransformCall plainPayloads)) :=
  ⟨[], fun calls call => calls ++ [call]⟩

theorem dispatch_culled_twoDraws :
    ∃ fullCalls culledCalls full culled,
      dispatch twoDraws (Culler.nop : Culler (SkRect Int)) = some fullCalls ∧
      dispatch twoDraws (.vector firstDrawTree [0]) = some culledCalls ∧
      Canvas.Paints transformCalls fullCalls full ∧
      Canvas.Paints transformCalls culledCalls culled ∧
      culled.painted = full.painted.filter (isHit [2]) ∧
      culled.painted.map (fun draw => (draw.index : Int)) = [2] :=
  dispatch_culled (by decide) (by decide) firstDrawTree [0] (by decide)
    (fun hit member => ⟨2, .drawPaint, (List.mem_singleton.mp (show hit ∈ [2] from member)).symm,
      rfl⟩) transformCalls

end FlutterEngine.DisplayList
