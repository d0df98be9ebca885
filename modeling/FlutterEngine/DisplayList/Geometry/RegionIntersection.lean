import FlutterEngine.DisplayList.Geometry.RegionUnion
import Mathlib.Data.List.TakeWhile

/-!
# The intersection of regions

`DlRegion::MakeIntersection`: a walk over the lines of both, which starts at lines that may
intersect, and builds the bounds as it goes.
-/

namespace FlutterEngine.DisplayList.Geometry

open FlutterEngine.Std

/-! ## Where the walk starts -/

def kBinarySearchThreshold : Nat := 10

/-- `std::lower_bound`, by whether a line ends above `top`. -/
def lowerBound (lines : List SpanLine) (top : Int32) : List SpanLine :=
  lines.dropWhile fun line => line.bottom ≤ top

/-- Whether there are more lines than the threshold, and the one there ends above `top`. -/
def passesThreshold (lines : List SpanLine) (top : Int32) : Bool :=
  match lines[kBinarySearchThreshold]? with
  | none => false
  | some line => line.bottom ≤ top

/-- `getIntersectionIterators`; the lines from the iterators on. -/
def getIntersectionIterators : List SpanLine → List SpanLine → List SpanLine × List SpanLine
  | a :: as, b :: bs =>
    if passesThreshold (a :: as) b.top then
      (lowerBound ((a :: as).drop (kBinarySearchThreshold + 1)) b.top, b :: bs)
    else if passesThreshold (b :: bs) a.top then
      (a :: as, lowerBound ((b :: bs).drop (kBinarySearchThreshold + 1)) a.top)
    else (a :: as, b :: bs)
  | as, bs => (as, bs)

/-- Lines without some that end above `top`. -/
structure Skips (top : Int32) (lines rest : List SpanLine) : Prop where
  canonical : CanonicalLines rest
  cover : ∀ x y, top ≤ y → (LinesCover rest x y ↔ LinesCover lines x y)

variable {front rest lines as bs : List SpanLine} {top : Int32} {res : DlRegion}

theorem CanonicalLines.suffix
    (canonical : CanonicalLines (front ++ rest)) : CanonicalLines rest := by
  induction front with
  | nil => exact canonical
  | cons line front ih => exact ih canonical.tail

theorem skips_append (canonical : CanonicalLines (front ++ rest)) (above : LinesEndBy front top) :
    Skips top (front ++ rest) rest where
  canonical := canonical.suffix
  cover x y after := by
    rw [linesCover_append]
    exact (or_iff_right fun covers => absurd (above.lt covers) (not_lt.mpr after)).symm

theorem Skips.trans {final : List SpanLine} (first : Skips top lines rest)
    (second : Skips top rest final) : Skips top lines final where
  canonical := second.canonical
  cover x y after := (second.cover x y after).trans (first.cover x y after)

theorem skips_lowerBound (canonical : CanonicalLines lines) :
    Skips top lines (lowerBound lines top) := by
  have split := List.takeWhile_append_dropWhile (p := fun line : SpanLine => line.bottom ≤ top)
    (l := lines)
  rw [← split] at canonical
  have skips := skips_append canonical fun line found => by
    simpa using List.mem_takeWhile_imp found
  rwa [split] at skips

/-- The lines up to one that ends above `top` end above it too. -/
theorem skips_threshold (canonical : CanonicalLines lines)
    (passes : passesThreshold lines top = true) :
    Skips top lines (lines.drop (kBinarySearchThreshold + 1)) := by
  unfold passesThreshold at passes
  split at passes
  case h_1 => contradiction
  case h_2 line found =>
    have passed : line.bottom ≤ top := of_decide_eq_true passes
    obtain ⟨within, same⟩ := List.getElem?_eq_some_iff.mp found
    have split := List.take_append_drop (kBinarySearchThreshold + 1) lines
    rw [List.take_succ_eq_append_getElem within, same] at split
    have bands := canonical.bands
    rw [← split] at canonical bands
    have skips := @skips_append _ _ top canonical fun earlier member => by
      obtain before | last := List.mem_append.mp member
      · rw [List.map_append, List.map_append] at bands
        have ordered := (List.pairwise_append.mp (List.pairwise_append.mp bands.ordered).1).2.2
          earlier.band (List.mem_map_of_mem before) line.band (by simp)
        have filled := bands.filled line.band (by simp)
        exact (ordered.1.trans filled.le).trans passed
      · rwa [List.mem_singleton.mp last]
    rwa [split] at skips

/-- Above a line nothing is covered by its region. -/
theorem getIntersectionIterators_spec (first : CanonicalLines as) (second : CanonicalLines bs) :
    CanonicalLines (getIntersectionIterators as bs).1 ∧
      CanonicalLines (getIntersectionIterators as bs).2 ∧
        ∀ x y, (LinesCover (getIntersectionIterators as bs).1 x y ∧
            LinesCover (getIntersectionIterators as bs).2 x y ↔
          LinesCover as x y ∧ LinesCover bs x y) := by
  unfold getIntersectionIterators
  split
  case h_1 a as b bs =>
    split
    case isTrue passes =>
      have skips := (skips_threshold first passes).trans
        (skips_lowerBound (skips_threshold first passes).canonical)
      exact ⟨skips.canonical, second, fun x y => and_congr_left fun covers =>
        skips.cover x y (second.top_le covers)⟩
    case isFalse =>
      split
      case isTrue passes =>
        have skips := (skips_threshold second passes).trans
          (skips_lowerBound (skips_threshold second passes).canonical)
        exact ⟨first, skips.canonical, fun x y => and_congr_right fun covers =>
          skips.cover x y (first.top_le covers)⟩
      case isFalse => exact ⟨first, second, fun _ _ => Iff.rfl⟩
  case h_2 => exact ⟨first, second, fun _ _ => Iff.rfl⟩

/-! ## The walk -/

/-- What is done where two lines intersect, if their spans do. -/
def addPiece (skia : SkIRects) (res : DlRegion) (top bottom : Int32) : List Span → DlRegion
  | [] => res
  | first :: rest =>
    { lines := appendLine res.lines top bottom (first :: rest)
      bounds := skia.join res.bounds ⟨first.left, top, (rest.getLast?.getD first).right, bottom⟩ }

/-- The loop of `MakeIntersection`. -/
def intersectLines (skia : SkIRects) (curTop : Int32) (res : DlRegion) :
    List SpanLine → List SpanLine → DlRegion
  | a :: as, b :: bs =>
    if a.bottom ≤ max curTop b.top then intersectLines skia curTop res as (b :: bs)
    else if b.bottom ≤ max curTop a.top then intersectLines skia curTop res (a :: as) bs
    else
      intersectLines skia (min a.bottom b.bottom)
        (addPiece skia res (max (max curTop a.top) (max curTop b.top)) (min a.bottom b.bottom)
          (intersectLineSpans a.spans b.spans))
        (if min a.bottom b.bottom = a.bottom then as else a :: as)
        (if min a.bottom b.bottom = b.bottom then bs else b :: bs)
  | _, _ => res
termination_by as bs => as.length + bs.length
decreasing_by
  · simp only [List.length_cons]
    omega
  · simp only [List.length_cons]
    omega
  · simp only [dite_eq_ite]
    exact length_done

/-- What `addPiece` makes of a region and a row below it. -/
structure AddsPiece (res : DlRegion) (top bottom : Int32) (spans : List Span) (result : DlRegion) :
    Prop where
  exact : result.Exact
  cover : ∀ x y, LinesCover result.lines x y ↔
    LinesCover res.lines x y ∨ (top ≤ y ∧ y < bottom) ∧ SpansCover spans x
  ends : LinesEndBy result.lines bottom

variable {skia : SkIRects}

theorem addPiece_spec {bottom : Int32} {spans : List Span} (exact' : res.Exact)
    (ends : LinesEndBy res.lines top) (filled : top < bottom) (separate : Separate spans) :
    AddsPiece res top bottom spans (addPiece skia res top bottom spans) := by
  obtain _ | ⟨first, rest⟩ := spans
  · exact ⟨exact', fun x y => by simp [addPiece], ends.mono filled.le⟩
  · have appended := exact'.canonical.appendLine filled (separate.canonical (by simp)) ends
    refine ⟨⟨appended.canonical, ?_⟩, appended.cover, appended.ends⟩
    obtain ⟨front, last, split, atEnd⟩ : ∃ front last, first :: rest = front ++ [last] ∧
        rest.getLast?.getD first = last := by
      obtain rfl | ⟨front, last, rfl⟩ := List.eq_nil_or_concat rest
      · exact ⟨[], first, rfl, rfl⟩
      · exact ⟨first :: front, last, by simp, by simp⟩
    have row := BoundsOf.row separate rfl split filled
    have rowCovered : ∃ x y, (top ≤ y ∧ y < bottom) ∧ SpansCover (first :: rest) x :=
      ⟨first.left, top, ⟨le_rfl, filled⟩, first, List.mem_cons_self, le_rfl,
        separate.filled first List.mem_cons_self⟩
    obtain ⟨x, y, covers⟩ := rowCovered
    have sorted := row.sorted covers
    simp only [addPiece, atEnd]
    by_cases empty : res.isEmpty = true
    · have bounds := exact'.bounds.none (exact'.isEmpty_iff.mp empty)
      rw [bounds, skia.join_unsorted SkIRect.not_sorted_makeEmpty sorted]
      exact row.congr fun x y => by
        rw [appended.cover]
        simp [exact'.isEmpty_iff.mp empty x y]
    · rw [Bool.not_eq_true] at empty
      rw [skia.join_sorted (exact'.sorted empty) sorted]
      exact (exact'.bounds.union row
        (exact'.canonical.exists_covered (by simpa [DlRegion.isEmpty] using empty))
        ⟨x, y, covers⟩).congr appended.cover

/-- What the walk makes of the region so far and more points. -/
structure ExtendsTo (res : DlRegion) (more : Int32 → Int32 → Prop) (result : DlRegion) : Prop where
  exact : result.Exact
  cover : ∀ x y, LinesCover result.lines x y ↔ LinesCover res.lines x y ∨ more x y

theorem intersectLines_extendsTo {curTop : Int32}
    (exact' : res.Exact) (ends : LinesEndBy res.lines curTop) (first : ToCome curTop as)
    (second : ToCome curTop bs) :
    ExtendsTo res (fun x y => curTop ≤ y ∧ LinesCover as x y ∧ LinesCover bs x y)
      (intersectLines skia curTop res as bs) := by
  fun_induction intersectLines skia curTop res as bs with
  | case1 curTop res a as b bs apart ih =>
    obtain ⟨final, cover⟩ := ih exact' ends (first.tail first.head.le) second
    refine ⟨final, fun x y => ?_⟩
    rw [cover]
    refine or_congr_right (and_congr_right fun after => and_congr_left fun covers => ?_)
    rw [linesCover_cons]
    refine (or_iff_right fun inside => ?_).symm
    exact absurd ((inside.1.2.trans_le apart)) (not_lt.mpr (max_le after
      (second.canonical.top_le covers)))
  | case2 curTop res a as b bs _ apart ih =>
    obtain ⟨final, cover⟩ := ih exact' ends first (second.tail second.head.le)
    refine ⟨final, fun x y => ?_⟩
    rw [cover]
    refine or_congr_right (and_congr_right fun after => and_congr_right fun covers => ?_)
    rw [@linesCover_cons b]
    refine (or_iff_right fun inside => ?_).symm
    exact absurd ((inside.1.2.trans_le apart)) (not_lt.mpr (max_le after
      (first.canonical.top_le covers)))
  | case3 curTop res a as b bs overlaps otherOverlaps ih =>
    rw [not_le] at overlaps otherOverlaps
    simp only [dite_eq_ite] at ih
    have filled : max (max curTop a.top) (max curTop b.top) < min a.bottom b.bottom :=
      max_lt (lt_min (max_lt first.head first.canonical.filled) otherOverlaps)
        (lt_min overlaps (max_lt second.head second.canonical.filled))
    have after : curTop ≤ max (max curTop a.top) (max curTop b.top) :=
      (le_max_left _ _).trans (le_max_left _ _)
    have spans := Separate.intersect (first.canonical.spans a List.mem_cons_self).bands
      (second.canonical.spans b List.mem_cons_self).bands
    have piece := @addPiece_spec _ _ skia _ _ exact' (ends.mono after) filled spans.1
    obtain ⟨final, cover⟩ := ih piece.exact piece.ends (first.advance (min_le_left _ _))
      (second.advance (min_le_right _ _))
    refine ⟨final, fun x y => ?_⟩
    rw [cover, piece.cover, or_assoc]
    refine or_congr_right ?_
    obtain before | beyond := lt_or_ge y (min a.bottom b.bottom)
    · rw [@and_and_left (curTop ≤ y), first.part (min_le_left _ _) before,
        second.part (min_le_right _ _) before,
        spans.2, max_le_iff]
      simp only [before, not_le.mpr before, and_true, false_and, or_false]
      exact and_and_and_comm
    · rw [ToCome.cover_advance beyond, ToCome.cover_advance beyond]
      simp [beyond, not_lt.mpr beyond, (after.trans filled.le).trans beyond]
  | case4 curTop res as bs exhausted =>
    refine ⟨exact', fun x y => ?_⟩
    obtain _ | ⟨a, as⟩ := as
    · simp
    · obtain _ | ⟨b, bs⟩ := bs
      · simp
      · exact (exhausted a as b bs rfl rfl).elim

theorem ToCome.initially (canonical : CanonicalLines lines) :
    ToCome .minValue lines :=
  (Walks.initially canonical).toToCome

/-! ## `MakeIntersection` -/

namespace DlRegion

/-- `MakeIntersection`. -/
def makeIntersection (skia : SkIRects) (a b : DlRegion) : DlRegion :=
  if !skia.intersects a.bounds b.bounds then init
  else if a.isSimple && b.isSimple then ofRect (skia.intersect a.bounds b.bounds)
  else if a.isSimple && skia.contains a.bounds b.bounds then b
  else if b.isSimple && skia.contains b.bounds a.bounds then a
  else
    let iterators := getIntersectionIterators a.lines b.lines
    intersectLines skia .minValue init iterators.1 iterators.2

variable {a b : DlRegion}

theorem intersectLines_initially (first : CanonicalLines a.lines)
    (second : CanonicalLines b.lines) :
    ExtendsTo init (fun x y => LinesCover a.lines x y ∧ LinesCover b.lines x y)
      (intersectLines skia .minValue init (getIntersectionIterators a.lines b.lines).1
        (getIntersectionIterators a.lines b.lines).2) := by
  obtain ⟨firstRest, secondRest, rest⟩ := getIntersectionIterators_spec first second
  obtain ⟨final, cover⟩ := @intersectLines_extendsTo _ _ init skia .minValue Exact.init
    (fun _ found => absurd found List.not_mem_nil) (.initially firstRest) (.initially secondRest)
  exact ⟨final, fun x y => by simp [cover, rest, Int32.minValue_le]⟩

theorem canonicalLines_makeIntersection (first : CanonicalLines a.lines)
    (second : CanonicalLines b.lines) : CanonicalLines (makeIntersection skia a b).lines := by
  unfold makeIntersection
  split
  case isTrue => exact CanonicalLines.nil
  case isFalse intersects =>
    split
    case isTrue =>
      have meets : skia.intersects a.bounds b.bounds = true := by simpa using intersects
      rw [skia.intersect_eq meets]
      exact canonicalLines_ofRect (SkIRect.sorted_of_not_isEmpty (skia.intersects_iff.mp meets))
    case isFalse =>
      split
      · exact second
      split
      · exact first
      · exact (intersectLines_initially first second).exact.canonical

/-- A region without lines has bounds without points. -/
theorem not_sorted_overlap_of_isEmpty (exact : a.Exact) (empty : a.isEmpty = true)
    {rect : SkIRect} : ¬(a.bounds.overlap rect).Sorted := by
  rw [exact.bounds.none (exact.isEmpty_iff.mp empty)]
  rintro ⟨wide, -⟩
  have inside := max_lt_iff.mp wide
  exact absurd (lt_min_iff.mp inside.1).1 (lt_irrefl _)

theorem overlap_comm {rect other : SkIRect} : rect.overlap other = other.overlap rect := by
  simp only [SkIRect.overlap, max_comm, min_comm]

/-- The overlap of the bounds is around the points that two regions have in common. -/
theorem covers_overlap_bounds (first : a.Exact) (second : b.Exact) {x y : Int32}
    (covers : LinesCover a.lines x y ∧ LinesCover b.lines x y) :
    (a.bounds.overlap b.bounds).Covers x y :=
  SkIRect.covers_overlap.mpr ⟨first.bounds.encloses x y covers.1,
    second.bounds.encloses x y covers.2⟩

/-- What `MakeIntersection` makes of two regions whose bounds meet, as `SkIRect` sees it. -/
theorem makeIntersection_exact (first : a.Exact) (second : b.Exact)
    (meets : skia.intersects a.bounds b.bounds = true) :
    (makeIntersection skia a b).Exact ∧ ∀ x y, LinesCover (makeIntersection skia a b).lines x y ↔
      LinesCover a.lines x y ∧ LinesCover b.lines x y := by
  have sorted := SkIRect.sorted_of_not_isEmpty (skia.intersects_iff.mp meets)
  have someA : a.isEmpty = false := by
    rw [← Bool.not_eq_true]
    exact fun empty => not_sorted_overlap_of_isEmpty first empty sorted
  have someB : b.isEmpty = false := by
    rw [← Bool.not_eq_true]
    intro empty
    rw [overlap_comm] at sorted
    exact not_sorted_overlap_of_isEmpty second empty sorted
  unfold makeIntersection
  rw [meets, Bool.not_true, if_neg Bool.false_ne_true]
  split
  case isTrue simple =>
    rw [Bool.and_eq_true] at simple
    rw [skia.intersect_eq meets]
    refine ⟨.ofRect sorted, fun x y => ?_⟩
    rw [linesCover_ofRect, SkIRect.covers_overlap, cover_of_simple first someA simple.1,
      cover_of_simple second someB simple.2]
  case isFalse =>
  split
  case isTrue within =>
    rw [Bool.and_eq_true] at within
    exact ⟨second, fun x y => (and_iff_right_of_imp
      (cover_of_contains first second someA within.1 within.2)).symm⟩
  case isFalse =>
  split
  case isTrue within =>
    rw [Bool.and_eq_true] at within
    exact ⟨first, fun x y => (and_iff_left_of_imp
      (cover_of_contains second first someB within.1 within.2)).symm⟩
  case isFalse =>
    obtain ⟨exact', cover⟩ := @intersectLines_initially skia _ _ first.canonical second.canonical
    exact ⟨exact', fun x y => (cover x y).trans (or_iff_right linesCover_nil)⟩

theorem makeIntersection_eq_init (apart : skia.intersects a.bounds b.bounds = false) :
    makeIntersection skia a b = init := by
  unfold makeIntersection
  rw [apart, Bool.not_false, if_pos rfl]

end DlRegion

end FlutterEngine.DisplayList.Geometry
