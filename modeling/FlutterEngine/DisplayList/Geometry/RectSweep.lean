import FlutterEngine.DisplayList.Geometry.RegionBounds

/-!
# The sweep over rectangles

`DlRegion::setRects`. One array holds at its front the active rectangles, by their left edges, and
at its end the sorted input that is still to come. Where the source reads past a rectangle that
is empty it does not move on: it never returns, which is why the loops count their rounds here.
-/

namespace FlutterEngine.DisplayList.Geometry

open FlutterEngine.Std

/-- The comparison that `setRects` sorts by. -/
def topLeftLess (a b : SkIRect) : Bool :=
  if a.top < b.top then true
  else if b.top < a.top then false
  else decide (a.left < b.left)

/-- What `std::sort` may make of the input: where it is not stable, there are several. -/
structure SortedFrom (unsorted rects : List SkIRect) : Prop where
  perm : rects.Perm unsorted
  ordered : rects.Pairwise fun a b => topLeftLess b a = false

theorem top_le_of_not_topLeftLess {a b : SkIRect} (notLess : topLeftLess b a = false) :
    a.top ≤ b.top := by
  by_contra above
  rw [topLeftLess, if_pos (not_le.mp above)] at notLess
  contradiction

structure Sweep where
  rects : List SkIRect
  activeEnd : Nat
  nextRect : Nat
  curY : Int32
  lines : List SpanLine

def rectAt (rects : List SkIRect) (index : Nat) : SkIRect := rects.getD index .makeEmpty

namespace Sweep

/-- The loop that prunes passed rectangles out of the active list: the new end, and the array. -/
def preserve (curY : Int32) : Nat → Nat → Nat → List SkIRect → Nat × List SkIRect
  | 0, _, preserveEnd, rects => (preserveEnd, rects)
  | remaining + 1, i, preserveEnd, rects =>
    let r := rectAt rects i
    if curY < r.bottom then
      preserve curY remaining (i + 1) (preserveEnd + 1) (rects.set preserveEnd r)
    else preserve curY remaining (i + 1) preserveEnd rects

def prune (sweep : Sweep) : Sweep :=
  let preserved := preserve sweep.curY sweep.activeEnd 0 0 sweep.rects
  { sweep with
    activeEnd := preserved.1
    rects := preserved.2 }

/-- The loop that moves active rectangles to the right until there is a place for a new one. -/
def insert (r : SkIRect) : Nat → List SkIRect → List SkIRect
  | 0, rects => rects.set 0 r
  | insertAt + 1, rects =>
    let ir := rectAt rects insertAt
    if ir.left ≤ r.left then rects.set (insertAt + 1) r
    else insert r insertAt (rects.set (insertAt + 1) ir)

def admitNext (sweep : Sweep) : Sweep :=
  { sweep with
    nextRect := sweep.nextRect + 1
    activeEnd := sweep.activeEnd + 1
    rects := insert (rectAt sweep.rects sweep.nextRect) sweep.activeEnd sweep.rects }

/-- The loop that inserts the rectangles that are reached. -/
def admitReached : Nat → Sweep → Option Sweep
  | 0, _ => none
  | fuel + 1, sweep =>
    if sweep.nextRect < sweep.rects.length then
      let r := rectAt sweep.rects sweep.nextRect
      if r.IsEmpty then
        -- `continue`, with `next_rect` as it is.
        admitReached fuel sweep
      else if sweep.curY < r.top then some sweep
      else admitReached fuel sweep.admitNext
    else some sweep

/-- What the loop over the active rectangles keeps. -/
structure Gathering where
  workingSpans : List Span
  startX : Int32
  endX : Int32
  endY : Int32

def gatherNext (gathering : Gathering) (r : SkIRect) : Gathering :=
  let next :=
    if gathering.endX < r.left then
      { gathering with
        workingSpans := gathering.workingSpans ++ [⟨gathering.startX, gathering.endX⟩]
        startX := r.left
        endX := r.right }
    else if gathering.endX < r.right then { gathering with endX := r.right }
    else gathering
  if r.bottom < gathering.endY then { next with endY := r.bottom } else next

/-- The spans once the last one is put there too. -/
def Gathering.spans (gathering : Gathering) : List Span :=
  gathering.workingSpans ++ [⟨gathering.startX, gathering.endX⟩]

def gather (sweep : Sweep) : Gathering :=
  let first := rectAt sweep.rects 0
  ((sweep.rects.take sweep.activeEnd).drop 1).foldl gatherNext
    ⟨[], first.left, first.right, first.bottom⟩

/-- The line down to where a rectangle ends or the next one starts. -/
def emit (sweep : Sweep) : Sweep :=
  let gathering := sweep.gather
  let nextTop := (rectAt sweep.rects sweep.nextRect).top
  let endY :=
    if sweep.nextRect < sweep.rects.length ∧ nextTop < gathering.endY then nextTop
    else gathering.endY
  { sweep with
    lines := appendLine sweep.lines sweep.curY endY gathering.spans
    curY := endY }

/-- The lines there are once no rectangle is left. -/
def run : Nat → Sweep → Option (List SpanLine)
  | 0, _ => none
  | fuel + 1, sweep =>
    if sweep.nextRect < sweep.rects.length ∨ 0 < sweep.activeEnd then
      let pruned := sweep.prune
      if pruned.activeEnd = 0 ∧ pruned.rects.length ≤ pruned.nextRect then some pruned.lines
      else
        let jumped :=
          if pruned.activeEnd = 0 then
            { pruned with curY := (rectAt pruned.rects pruned.nextRect).top }
          else pruned
        match admitReached fuel jumped with
        | none => none
        | some admitted => run fuel admitted.emit
    else some sweep.lines

end Sweep

/-- `setRects` within a number of rounds, where `rects` is the input once it is sorted. -/
def DlRegion.setRects (skia : SkIRects) (fuel : Nat) (unsorted rects : List SkIRect) :
    Option DlRegion :=
  (Sweep.run fuel ⟨rects, 0, 0, .minValue, []⟩).map fun lines =>
    ⟨lines, unsorted.foldl skia.join .makeEmpty⟩

/-! ## The array -/

namespace Sweep

variable {rects : List SkIRect} {index : Nat} {r : SkIRect}

theorem take_set_succ (within : index < rects.length) :
    (rects.set index r).take (index + 1) = rects.take index ++ [r] := by
  rw [List.take_add_one, List.getElem?_set_self within, Option.toList_some,
    List.take_set_of_le le_rfl]

theorem drop_eq_of_le {others : List SkIRect} {first later : Nat}
    (same : rects.drop first = others.drop first) (after : first ≤ later) :
    rects.drop later = others.drop later := by
  have whole := congrArg (List.drop (later - first)) same
  rwa [List.drop_drop, List.drop_drop, Nat.add_sub_cancel' after] at whole

theorem rectAt_eq_getElem (within : index < rects.length) :
    rectAt rects index = rects[index] := by
  rw [rectAt, List.getD_eq_getElem?_getD, List.getElem?_eq_getElem within, Option.getD_some]

theorem drop_eq_rectAt_cons (within : index < rects.length) :
    rects.drop index = rectAt rects index :: rects.drop (index + 1) := by
  rw [List.drop_eq_getElem_cons within, rectAt_eq_getElem within]

theorem take_succ_rectAt (within : index < rects.length) :
    rects.take (index + 1) = rects.take index ++ [rectAt rects index] := by
  rw [List.take_succ_eq_append_getElem within, rectAt_eq_getElem within]

/-- What `preserve` leaves: the active rectangles that are not passed, and what is behind. -/
structure Preserved (curY : Int32) (remaining i preserveEnd : Nat) (rects : List SkIRect)
    (result : Nat × List SkIRect) : Prop where
  within : result.1 ≤ i + remaining
  length : result.2.length = rects.length
  active : result.2.take result.1 =
    rects.take preserveEnd ++ ((rects.drop i).take remaining).filter (curY < ·.bottom)
  behind : result.2.drop (i + remaining) = rects.drop (i + remaining)

theorem preserve_spec {curY : Int32} {remaining i preserveEnd : Nat}
    (before : preserveEnd ≤ i) (within : i + remaining ≤ rects.length) :
    Preserved curY remaining i preserveEnd rects (preserve curY remaining i preserveEnd rects) := by
  induction remaining generalizing i preserveEnd rects with
  | zero => exact ⟨before, rfl, by simp [preserve], rfl⟩
  | succ remaining ih =>
    have inside : i < rects.length := by omega
    have index : i + 1 + remaining = i + (remaining + 1) := by omega
    have ahead := drop_eq_rectAt_cons inside
    rw [preserve]
    split
    case isTrue stays =>
      have kept : i + 1 + remaining ≤ (rects.set preserveEnd (rectAt rects i)).length := by
        rw [List.length_set]
        omega
      obtain ⟨end', length, active, behind⟩ := ih (Nat.add_le_add_right before 1) kept
      refine ⟨by omega, by rw [length, List.length_set], ?_, ?_⟩
      · rw [active, take_set_succ (by omega), List.drop_set_of_lt (by omega), ahead,
          List.take_succ_cons, List.filter_cons_of_pos (by simpa using stays), List.append_assoc,
          List.singleton_append]
      · rw [← index, behind, List.drop_set_of_lt (by omega)]
    case isFalse passed =>
      have same : i + 1 + remaining ≤ rects.length := by omega
      obtain ⟨end', length, active, behind⟩ := ih (Nat.le_add_right_of_le before) same
      refine ⟨by omega, length, ?_, ?_⟩
      · rw [active, ahead, List.take_succ_cons, List.filter_cons_of_neg (by simpa using passed)]
      · rw [← index, behind]

/-- Rectangles by their left edges. -/
def ByLeft (rects : List SkIRect) : Prop := rects.Pairwise fun a b => a.left ≤ b.left

/-- What `insert` leaves: one more active rectangle, and what is behind. -/
structure Inserted (r : SkIRect) (activeEnd : Nat) (rects result : List SkIRect) : Prop where
  length : result.length = rects.length
  perm : (result.take (activeEnd + 1)).Perm (r :: rects.take activeEnd)
  byLeft : ByLeft (result.take (activeEnd + 1))
  behind : result.drop (activeEnd + 1) = rects.drop (activeEnd + 1)

theorem insert_spec {activeEnd : Nat}
    (within : activeEnd < rects.length) (byLeft : ByLeft (rects.take activeEnd)) :
    Inserted r activeEnd rects (insert r activeEnd rects) := by
  induction activeEnd generalizing rects with
  | zero =>
    refine ⟨List.length_set, ?_, ?_, ?_⟩
    · rw [insert, take_set_succ within]
      simp
    · rw [insert, take_set_succ within]
      exact List.pairwise_singleton _ _
    · rw [insert, List.drop_set_of_lt (by omega)]
  | succ insertAt ih =>
    have inside : insertAt < rects.length := by omega
    rw [take_succ_rectAt inside] at byLeft
    obtain ⟨front, -, beyond⟩ := List.pairwise_append.mp byLeft
    rw [insert]
    split
    case isTrue inPlace =>
      refine ⟨List.length_set, ?_, ?_, List.drop_set_of_lt (by omega)⟩
      · rw [take_set_succ within]
        exact List.perm_append_singleton _ _
      · rw [take_set_succ within, take_succ_rectAt inside]
        refine List.pairwise_append.mpr ⟨byLeft, List.pairwise_singleton _ _, ?_⟩
        intro a found b same
        rw [List.mem_singleton.mp same]
        obtain earlier | atEnd := List.mem_append.mp found
        · exact (beyond a earlier _ (List.mem_singleton_self _)).trans inPlace
        · rwa [List.mem_singleton.mp atEnd]
    case isFalse moves =>
      have ahead : ((rects.set (insertAt + 1) (rectAt rects insertAt)).take insertAt) =
          rects.take insertAt := List.take_set_of_le (by omega)
      have room : insertAt < (rects.set (insertAt + 1) (rectAt rects insertAt)).length := by
        rwa [List.length_set]
      obtain ⟨length, perm, sorted, behind⟩ := ih room (by rwa [ahead])
      rw [ahead] at perm
      rw [List.length_set] at length
      -- The rectangle that was moved is behind all the others.
      have moved : rectAt (insert r insertAt (rects.set (insertAt + 1) (rectAt rects insertAt)))
          (insertAt + 1) = rectAt rects insertAt := by
        have heads := congrArg List.head? behind
        rw [List.head?_drop, List.head?_drop, List.getElem?_set_self within] at heads
        rw [rectAt, List.getD_eq_getElem?_getD, heads, Option.getD_some]
      have last := take_succ_rectAt (within.trans_eq length.symm)
      refine ⟨length, ?_, ?_, ?_⟩
      · rw [last, moved,
          take_succ_rectAt inside, ← List.cons_append]
        exact perm.append_right _
      · rw [last, moved]
        refine List.pairwise_append.mpr ⟨sorted, List.pairwise_singleton _ _, ?_⟩
        intro a found b same
        rw [List.mem_singleton.mp same]
        obtain rfl | earlier := List.mem_cons.mp (perm.mem_iff.mp found)
        · exact (not_le.mp moves).le
        · exact beyond a earlier _ (List.mem_singleton_self _)
      · rw [drop_eq_of_le behind (by omega), List.drop_set_of_lt (by omega)]

end Sweep

end FlutterEngine.DisplayList.Geometry
