import FlutterEngine.DisplayList.Geometry.RegionIntersection

/-!
# Whether regions intersect

`DlRegion::intersects` of a rectangle and of a region. The answer is about points where the
bounds have no rectangle in common that is wider or taller than `int32_t` can hold.
-/

namespace FlutterEngine.DisplayList.Geometry

open FlutterEngine.Std

/-! ## Spans and lines -/

def spansIntersect : List Span → List Span → Bool
  | first :: firsts, second :: seconds =>
    if first.right ≤ second.left then spansIntersect firsts (second :: seconds)
    else if second.right ≤ first.left then spansIntersect (first :: firsts) seconds
    else true
  | _, _ => false
termination_by firsts seconds => firsts.length + seconds.length

/-- The loop of `intersects`, over the lines from the iterators on. -/
def linesIntersect : List SpanLine → List SpanLine → Bool
  | ours :: as, theirs :: bs =>
    if ours.bottom ≤ theirs.top then linesIntersect as (theirs :: bs)
    else if theirs.bottom ≤ ours.top then linesIntersect (ours :: as) bs
    else if spansIntersect ours.spans theirs.spans then true
    else if ours.bottom < theirs.bottom then linesIntersect as (theirs :: bs)
    else linesIntersect (ours :: as) bs
  | _, _ => false
termination_by as bs => as.length + bs.length

theorem Separate.left_le {span : Span} {rest : List Span} (separate : Separate (span :: rest))
    {x : Int32} (covers : SpansCover (span :: rest) x) : span.left ≤ x :=
  Band.Canonical.lower_le separate (spansCover_iff.mp covers)

variable {spans : List Span} {lines : List SpanLine}

theorem spansIntersect_iff {others : List Span} (separate : Separate spans)
    (other : Separate others) :
    spansIntersect spans others = true ↔ ∃ x, SpansCover spans x ∧ SpansCover others x := by
  fun_induction spansIntersect spans others with
  | case1 first firsts second seconds apart ih =>
    rw [ih separate.tail other]
    refine exists_congr fun x => and_congr_left fun covers => ?_
    rw [spansCover_cons]
    refine (or_iff_right fun inside => ?_).symm
    exact absurd (inside.2.trans_le apart) (not_lt.mpr (other.left_le covers))
  | case2 first firsts second seconds _ apart ih =>
    rw [ih separate other.tail]
    refine exists_congr fun x => and_congr_right fun covers => ?_
    rw [@spansCover_cons _ second]
    refine (or_iff_right fun inside => ?_).symm
    exact absurd (inside.2.trans_le apart) (not_lt.mpr (separate.left_le covers))
  | case3 first firsts second seconds overlaps otherOverlaps =>
    rw [not_le] at overlaps otherOverlaps
    have filled := separate.filled first List.mem_cons_self
    have otherFilled := other.filled second List.mem_cons_self
    refine iff_of_true rfl ⟨max first.left second.left, ?_, ?_⟩
    · exact spansCover_cons.mpr (.inl ⟨le_max_left .., max_lt filled overlaps⟩)
    · exact spansCover_cons.mpr (.inl ⟨le_max_right .., max_lt otherOverlaps otherFilled⟩)
  | case4 spans others exhausted =>
    refine iff_of_false Bool.false_ne_true ?_
    rintro ⟨x, ⟨span, found, -⟩, other, foundOther, -⟩
    obtain ⟨first, firsts, rfl⟩ := List.exists_cons_of_ne_nil (List.ne_nil_of_mem found)
    obtain ⟨second, seconds, rfl⟩ := List.exists_cons_of_ne_nil (List.ne_nil_of_mem foundOther)
    exact exhausted first firsts second seconds rfl rfl

theorem linesIntersect_iff {as bs : List SpanLine} (canonical : CanonicalLines as)
    (other : CanonicalLines bs) :
    linesIntersect as bs = true ↔ ∃ x y, LinesCover as x y ∧ LinesCover bs x y := by
  fun_induction linesIntersect as bs with
  | case1 ours as theirs bs apart ih =>
    rw [ih canonical.tail other]
    refine exists_congr fun x => exists_congr fun y => and_congr_left fun covers => ?_
    rw [linesCover_cons]
    refine (or_iff_right fun inside => ?_).symm
    exact absurd (inside.1.2.trans_le apart) (not_lt.mpr (other.top_le covers))
  | case2 ours as theirs bs _ apart ih =>
    rw [ih canonical other.tail]
    refine exists_congr fun x => exists_congr fun y => and_congr_right fun covers => ?_
    rw [@linesCover_cons theirs]
    refine (or_iff_right fun inside => ?_).symm
    exact absurd (inside.1.2.trans_le apart) (not_lt.mpr (canonical.top_le covers))
  | case3 ours as theirs bs overlaps otherOverlaps meets =>
    rw [not_le] at overlaps otherOverlaps
    obtain ⟨x, covers, otherCovers⟩ := (spansIntersect_iff
      (canonical.spans ours List.mem_cons_self).bands
      (other.spans theirs List.mem_cons_self).bands).mp meets
    refine iff_of_true rfl ⟨x, max ours.top theirs.top, ?_, ?_⟩
    · exact linesCover_cons.mpr
        (.inl ⟨⟨le_max_left .., max_lt canonical.filled overlaps⟩, covers⟩)
    · exact linesCover_cons.mpr
        (.inl ⟨⟨le_max_right .., max_lt otherOverlaps other.filled⟩, otherCovers⟩)
  | case4 ours as theirs bs _ _ apart shorter ih =>
    -- The rows that the two lines share have no points in common.
    rw [ih canonical.tail other]
    refine exists_congr fun x => exists_congr fun y => and_congr_left fun covers => ?_
    rw [@linesCover_cons ours]
    refine (or_iff_right fun inside => ?_).symm
    obtain here | below := linesCover_cons.mp covers
    · exact apart ((spansIntersect_iff (canonical.spans ours List.mem_cons_self).bands
        (other.spans theirs List.mem_cons_self).bands).mpr ⟨x, inside.2, here.2⟩)
    · exact absurd (inside.1.2.trans shorter) (not_lt.mpr (other.bottom_le below))
  | case5 ours as theirs bs _ _ apart longer ih =>
    rw [ih canonical other.tail]
    refine exists_congr fun x => exists_congr fun y => and_congr_right fun covers => ?_
    rw [@linesCover_cons theirs]
    refine (or_iff_right fun inside => ?_).symm
    obtain here | below := linesCover_cons.mp covers
    · exact apart ((spansIntersect_iff (canonical.spans ours List.mem_cons_self).bands
        (other.spans theirs List.mem_cons_self).bands).mpr ⟨x, here.2, inside.2⟩)
    · exact absurd (inside.1.2.trans_le (not_lt.mp longer))
        (not_lt.mpr (canonical.bottom_le below))
  | case6 as bs exhausted =>
    refine iff_of_false Bool.false_ne_true ?_
    rintro ⟨x, y, ⟨line, found, -⟩, other, foundOther, -⟩
    obtain ⟨ours, as, rfl⟩ := List.exists_cons_of_ne_nil (List.ne_nil_of_mem found)
    obtain ⟨theirs, bs, rfl⟩ := List.exists_cons_of_ne_nil (List.ne_nil_of_mem foundOther)
    exact exhausted ours as theirs bs rfl rfl

/-! ## A rectangle -/

/-- The loop over the spans of a line. -/
def spansIntersectRect (rect : SkIRect) (spans : List Span) : Bool :=
  (spans.takeWhile fun span => span.left < rect.right).any fun span => rect.left < span.right

/-- The loop over the lines from the iterator on. -/
def linesIntersectRect (rect : SkIRect) (lines : List SpanLine) : Bool :=
  (lines.takeWhile fun line => line.top < rect.bottom).any fun line =>
    spansIntersectRect rect line.spans

theorem spansIntersectRect_iff {rect : SkIRect} (separate : Separate spans)
    (wide : rect.left < rect.right) :
    spansIntersectRect rect spans = true ↔
      ∃ x, SpansCover spans x ∧ rect.left ≤ x ∧ x < rect.right := by
  unfold spansIntersectRect
  induction spans with
  | nil => simp [SpansCover]
  | cons span rest ih =>
    rw [List.takeWhile_cons]
    split
    · next starts =>
        have starts := of_decide_eq_true starts
        rw [List.any_cons, Bool.or_eq_true, ih separate.tail, decide_eq_true_eq]
        constructor
        · rintro (ends | ⟨x, covers, inside⟩)
          · have filled := separate.filled span List.mem_cons_self
            exact ⟨max span.left rect.left,
              spansCover_cons.mpr (.inl ⟨le_max_left .., max_lt filled ends⟩),
              le_max_right .., max_lt starts wide⟩
          · exact ⟨x, spansCover_cons.mpr (.inr covers), inside⟩
        · rintro ⟨x, covers, left, right⟩
          obtain here | beyond := spansCover_cons.mp covers
          · exact .inl (left.trans_lt here.2)
          · exact .inr ⟨x, beyond, left, right⟩
    · next starts =>
        rw [decide_eq_true_eq, not_lt] at starts
        refine iff_of_false Bool.false_ne_true ?_
        rintro ⟨x, covers, -, right⟩
        exact absurd (right.trans_le starts) (not_lt.mpr (separate.left_le covers))

/-- Lines whose first one reaches below the top of the rectangle. -/
theorem linesIntersectRect_iff {rect : SkIRect}
    (toCome : ToCome rect.top lines) (sorted : rect.Sorted) :
    linesIntersectRect rect lines = true ↔ ∃ x y, LinesCover lines x y ∧ rect.Covers x y := by
  obtain ⟨wide, tall⟩ := sorted
  unfold linesIntersectRect
  induction lines with
  | nil => simp [LinesCover]
  | cons line rest ih =>
    rw [List.takeWhile_cons]
    split
    · next starts =>
        have starts := of_decide_eq_true starts
        rw [List.any_cons, Bool.or_eq_true, ih (toCome.tail toCome.head.le),
          spansIntersectRect_iff (toCome.canonical.spans line List.mem_cons_self).bands wide]
        constructor
        · rintro (⟨x, covers, inside⟩ | ⟨x, y, covers, inside⟩)
          · refine ⟨x, max line.top rect.top, ?_, inside, le_max_right .., max_lt starts tall⟩
            exact linesCover_cons.mpr (.inl ⟨⟨le_max_left ..,
              max_lt toCome.canonical.filled toCome.head⟩, covers⟩)
          · exact ⟨x, y, linesCover_cons.mpr (.inr covers), inside⟩
        · rintro ⟨x, y, covers, inside⟩
          obtain here | below := linesCover_cons.mp covers
          · exact .inl ⟨x, here.2, inside.1⟩
          · exact .inr ⟨x, y, below, inside⟩
    · next starts =>
        rw [decide_eq_true_eq, not_lt] at starts
        refine iff_of_false Bool.false_ne_true ?_
        rintro ⟨x, y, covers, inside⟩
        exact absurd (inside.2.2.trans_le starts) (not_lt.mpr (toCome.canonical.top_le covers))

theorem toCome_lowerBound {top : Int32} (canonical : CanonicalLines lines) :
    ToCome top (lowerBound lines top) where
  canonical := (skips_lowerBound canonical).canonical
  beyond line found := by
    have stops := List.head?_dropWhile_not (fun line : SpanLine => line.bottom ≤ top) lines
    unfold lowerBound at found
    rw [Option.mem_def.mp found] at stops
    exact not_le.mp (of_decide_eq_false stops)

/-- The line where the search for a row starts. -/
def linesFrom (lines : List SpanLine) (top : Int32) : List SpanLine :=
  if passesThreshold lines top then lowerBound (lines.drop (kBinarySearchThreshold + 1)) top
  else lowerBound lines top

theorem linesFrom_spec (top : Int32) (canonical : CanonicalLines lines) :
    ToCome top (linesFrom lines top) ∧ Skips top lines (linesFrom lines top) := by
  unfold linesFrom
  split
  · next passes =>
      have skips := skips_threshold canonical passes
      exact ⟨toCome_lowerBound skips.canonical, skips.trans (skips_lowerBound skips.canonical)⟩
  · exact ⟨toCome_lowerBound canonical, skips_lowerBound canonical⟩

/-- What two rectangles have in common is not wider or taller than `int32_t` can hold. -/
def SkIRect.Fitting (rect other : SkIRect) : Prop :=
  (rect.overlap other).Sorted → ¬(rect.overlap other).IsEmpty

/-- A rectangle that starts at the origin or after it overlaps another one in a size that fits. -/
theorem SkIRect.fitting_of_nonneg {rect other : SkIRect} (left : 0 ≤ rect.left)
    (top : 0 ≤ rect.top) : rect.Fitting other := by
  rintro ⟨wide, tall⟩
  have left := left.trans (le_max_left rect.left other.left)
  have top := top.trans (le_max_left rect.top other.top)
  have right := (rect.overlap other).right.toInt_le
  have bottom := (rect.overlap other).bottom.toInt_le
  rw [Int32.le_iff_toInt_le] at left top
  rw [Int32.lt_iff_toInt_lt] at wide tall
  simp only [SkIRect.IsEmpty, SkIRect.Fits, SkIRect.width64, SkIRect.height64, not_not]
  simp only [SkIRect.overlap] at *
  rw [Int32.toInt_zero] at left top
  omega

theorem SkIRects.intersects_covers (skia : SkIRects) {rect other : SkIRect}
    (fits : rect.Fitting other) :
    skia.intersects rect other = true ↔ ∃ x y, rect.Covers x y ∧ other.Covers x y := by
  rw [skia.intersects_iff]
  constructor
  · intro filled
    obtain ⟨wide, tall⟩ := SkIRect.sorted_of_not_isEmpty filled
    exact ⟨(rect.overlap other).left, (rect.overlap other).top,
      SkIRect.covers_overlap.mp ⟨⟨le_rfl, wide⟩, le_rfl, tall⟩⟩
  · rintro ⟨x, y, covers⟩
    exact fits (SkIRect.covers_overlap.mpr covers).sorted

namespace DlRegion

/-- `intersects(const SkIRect&)`. -/
def intersectsRect (skia : SkIRects) (region : DlRegion) (rect : SkIRect) : Bool :=
  if region.isEmpty then false
  else if region.isSimple then skia.intersects region.bounds rect
  else if !skia.intersects region.bounds rect then false
  else linesIntersectRect rect (linesFrom region.lines rect.top)

/-- `intersects(const DlRegion&)`. -/
def intersects (skia : SkIRects) (a b : DlRegion) : Bool :=
  if a.isEmpty || b.isEmpty then false
  else if !a.isComplex && !b.isComplex then skia.intersects a.bounds b.bounds
  else if !skia.intersects a.bounds b.bounds then false
  else if !a.isComplex then intersectsRect skia b a.bounds
  else if !b.isComplex then intersectsRect skia a b.bounds
  else
    let iterators := getIntersectionIterators a.lines b.lines
    linesIntersect iterators.1 iterators.2

variable {skia : SkIRects} {region a b : DlRegion} {rect : SkIRect}

theorem intersectsRect_iff (exact' : region.Exact) (fits : region.bounds.Fitting rect) :
    intersectsRect skia region rect = true ↔
      ∃ x y, LinesCover region.lines x y ∧ rect.Covers x y := by
  have inBounds : (∃ x y, LinesCover region.lines x y ∧ rect.Covers x y) →
      skia.intersects region.bounds rect = true := by
    rintro ⟨x, y, covers, inside⟩
    exact (skia.intersects_covers fits).mpr ⟨x, y, exact'.bounds.encloses x y covers, inside⟩
  unfold intersectsRect
  split
  · next empty =>
      refine iff_of_false Bool.false_ne_true ?_
      rintro ⟨x, y, covers, -⟩
      exact exact'.isEmpty_iff.mp empty x y covers
  next some =>
  rw [Bool.not_eq_true] at some
  split
  · next simple =>
      rw [skia.intersects_covers fits]
      simp only [cover_of_simple exact' some simple]
  split
  · next apart =>
      rw [Bool.not_eq_true', Bool.eq_false_iff] at apart
      exact iff_of_false Bool.false_ne_true (mt inBounds apart)
  · next meets =>
      rw [Bool.not_eq_true', Bool.not_eq_false, skia.intersects_covers fits] at meets
      obtain ⟨x, y, -, inside⟩ := meets
      obtain ⟨toCome, skips⟩ := linesFrom_spec rect.top exact'.canonical
      rw [linesIntersectRect_iff toCome inside.sorted]
      exact exists_congr fun x => exists_congr fun y => and_congr_left fun inside =>
        skips.cover x y inside.2.1

theorem intersects_iff (first : a.Exact) (second : b.Exact) (fits : a.bounds.Fitting b.bounds) :
    intersects skia a b = true ↔ ∃ x y, LinesCover a.lines x y ∧ LinesCover b.lines x y := by
  have fitsBack : b.bounds.Fitting a.bounds := by
    unfold SkIRect.Fitting
    rw [overlap_comm]
    exact fits
  unfold intersects
  split
  · next empty =>
      refine iff_of_false Bool.false_ne_true ?_
      rintro ⟨x, y, covers, otherCovers⟩
      obtain none | none := Bool.or_eq_true_iff.mp empty
      · exact first.isEmpty_iff.mp none x y covers
      · exact second.isEmpty_iff.mp none x y otherCovers
  next some =>
  rw [Bool.or_eq_true, not_or, Bool.not_eq_true, Bool.not_eq_true] at some
  split
  · next simple =>
      rw [Bool.and_eq_true] at simple
      rw [skia.intersects_covers fits]
      simp only [cover_of_simple first some.1 simple.1, cover_of_simple second some.2 simple.2]
  split
  · next apart =>
      rw [Bool.not_eq_true', Bool.eq_false_iff, Ne, skia.intersects_covers fits] at apart
      refine iff_of_false Bool.false_ne_true ?_
      rintro ⟨x, y, covers, otherCovers⟩
      exact apart ⟨x, y, first.bounds.encloses x y covers,
        second.bounds.encloses x y otherCovers⟩
  split
  · next simple =>
      rw [intersectsRect_iff second fitsBack]
      simp only [cover_of_simple first some.1 simple, and_comm]
  split
  · next simple =>
      rw [intersectsRect_iff first fits]
      simp only [cover_of_simple second some.2 simple]
  · obtain ⟨ours, theirs, cover⟩ := getIntersectionIterators_spec first.canonical second.canonical
    rw [linesIntersect_iff ours theirs]
    simp only [cover]

/-! ## The queries and the intersection -/

/-- No region meets another one when their bounds do not, as `SkIRect` sees it. -/
theorem intersects_eq_false (apart : skia.intersects a.bounds b.bounds = false) :
    intersects skia a b = false := by
  unfold intersects
  rw [apart, Bool.not_false]
  split
  · rfl
  · split
    · rfl
    · rfl

/-- Nothing is too large to overlap a rectangle that is not empty. -/
theorem fitting_of_not_isEmpty {bounds : SkIRect} (filled : ¬rect.IsEmpty) :
    bounds.Fitting rect := by
  rintro ⟨wide, tall⟩
  simp only [SkIRect.IsEmpty, SkIRect.Fits, SkIRect.width64, SkIRect.height64, not_not] at filled ⊢
  have left := le_max_right bounds.left rect.left
  have top := le_max_right bounds.top rect.top
  have right := min_le_right bounds.right rect.right
  have bottom := min_le_right bounds.bottom rect.bottom
  rw [Int32.le_iff_toInt_le] at left top right bottom
  rw [Int32.lt_iff_toInt_lt] at wide tall
  simp only [SkIRect.overlap] at *
  omega

/-- The query of two regions has the answer of the intersection that is made of them. -/
theorem intersects_iff_isEmpty (first : a.Exact) (second : b.Exact) :
    intersects skia a b = true ↔ (makeIntersection skia a b).isEmpty = false := by
  cases meets : skia.intersects a.bounds b.bounds with
  | true =>
    have fits : a.bounds.Fitting b.bounds := fun _ => skia.intersects_iff.mp meets
    obtain ⟨exact', cover⟩ := makeIntersection_exact first second meets
    rw [intersects_iff first second fits, ← Bool.not_eq_true, exact'.isEmpty_iff]
    simp only [cover, not_forall, not_not]
  | false =>
    rw [intersects_eq_false meets, makeIntersection_eq_init meets]
    exact iff_of_false Bool.false_ne_true (by decide)

theorem intersects_comm (first : a.Exact) (second : b.Exact) :
    intersects skia a b = intersects skia b a := by
  have same : skia.intersects a.bounds b.bounds = skia.intersects b.bounds a.bounds := by
    rw [Bool.eq_iff_iff, skia.intersects_iff, skia.intersects_iff, overlap_comm]
  cases meets : skia.intersects a.bounds b.bounds with
  | true =>
    have fits : a.bounds.Fitting b.bounds := fun _ => skia.intersects_iff.mp meets
    have fitsBack : b.bounds.Fitting a.bounds := fun _ =>
      skia.intersects_iff.mp (same.symm.trans meets)
    rw [Bool.eq_iff_iff, intersects_iff first second fits, intersects_iff second first fitsBack]
    simp only [and_comm]
  | false => rw [intersects_eq_false meets, intersects_eq_false (same.symm.trans meets)]

/-- The four ways to answer a query agree with the intersection and with the points. -/
theorem intersects_agrees (skia : SkIRects) (first : a.Exact) (second : b.Exact) :
    (intersects skia a b = true ↔ (makeIntersection skia a b).isEmpty = false) ∧
      intersects skia a b = intersects skia b a ∧
      ∀ rect : SkIRect, ¬rect.IsEmpty → (intersectsRect skia a rect = true ↔
        ∃ x y, LinesCover a.lines x y ∧ rect.Covers x y) :=
  ⟨intersects_iff_isEmpty first second, intersects_comm first second, fun _ filled =>
    intersectsRect_iff first (fitting_of_not_isEmpty filled)⟩

/-- Two squares that overlap. -/
theorem intersects_agrees_squares :
    (intersects .byEdges (ofRect ⟨0, 0, 2, 2⟩) (ofRect ⟨1, 1, 3, 3⟩) = true ↔
      (makeIntersection .byEdges (ofRect ⟨0, 0, 2, 2⟩) (ofRect ⟨1, 1, 3, 3⟩)).isEmpty = false) ∧
    intersects .byEdges (ofRect ⟨0, 0, 2, 2⟩) (ofRect ⟨1, 1, 3, 3⟩) =
      intersects .byEdges (ofRect ⟨1, 1, 3, 3⟩) (ofRect ⟨0, 0, 2, 2⟩) ∧
    ∀ rect : SkIRect, ¬rect.IsEmpty → (intersectsRect .byEdges (ofRect ⟨0, 0, 2, 2⟩) rect = true ↔
      ∃ x y, LinesCover (ofRect ⟨0, 0, 2, 2⟩).lines x y ∧ rect.Covers x y) :=
  intersects_agrees .byEdges (.ofRect (by decide +kernel)) (.ofRect (by decide +kernel))

end DlRegion

end FlutterEngine.DisplayList.Geometry
