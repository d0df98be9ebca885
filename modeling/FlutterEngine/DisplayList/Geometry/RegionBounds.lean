import FlutterEngine.DisplayList.Geometry.LineSpans

/-!
# Bounds

The smallest rectangle around points, those of a rectangle, of two sets of points and of a line.
-/

namespace FlutterEngine.DisplayList.Geometry

open FlutterEngine.Std

/-- One rectangle is within another. -/
def SkIRect.Within (rect other : SkIRect) : Prop :=
  other.left ≤ rect.left ∧ other.top ≤ rect.top ∧ rect.right ≤ other.right ∧
    rect.bottom ≤ other.bottom

/-- The smallest rectangle around the points, which is `MakeEmpty` where there are none. -/
structure BoundsOf (covered : Int32 → Int32 → Prop) (bounds : SkIRect) : Prop where
  none : (∀ x y, ¬covered x y) → bounds = .makeEmpty
  encloses : ∀ x y, covered x y → bounds.Covers x y
  least : ∀ {other : SkIRect}, (∃ x y, covered x y) →
    (∀ x y, covered x y → other.Covers x y) → bounds.Within other

namespace SkIRect

variable {rect other : SkIRect} {x y : Int32}

theorem Within.antisymm (within : rect.Within other) (around : other.Within rect) :
    rect = other := by
  obtain ⟨left, top, right, bottom⟩ := within
  obtain ⟨left', top', right', bottom'⟩ := around
  cases rect
  cases other
  rw [SkIRect.mk.injEq]
  exact ⟨le_antisymm left' left, le_antisymm top' top, le_antisymm right right',
    le_antisymm bottom bottom'⟩

theorem Within.covers (within : rect.Within other) (covers : rect.Covers x y) : other.Covers x y :=
  ⟨⟨within.1.trans covers.1.1, covers.1.2.trans_le within.2.2.1⟩,
    within.2.1.trans covers.2.1, covers.2.2.trans_le within.2.2.2⟩

theorem within_hull_left : rect.Within (rect.hull other) :=
  ⟨min_le_left _ _, min_le_left _ _, le_max_left _ _, le_max_left _ _⟩

theorem within_hull_right : other.Within (rect.hull other) :=
  ⟨min_le_right _ _, min_le_right _ _, le_max_right _ _, le_max_right _ _⟩

theorem hull_within {around : SkIRect} (within : rect.Within around)
    (otherWithin : other.Within around) : (rect.hull other).Within around :=
  ⟨le_min within.1 otherWithin.1, le_min within.2.1 otherWithin.2.1,
    max_le within.2.2.1 otherWithin.2.2.1, max_le within.2.2.2 otherWithin.2.2.2⟩

theorem not_covers_makeEmpty : ¬makeEmpty.Covers x y :=
  fun covers => not_sorted_makeEmpty covers.sorted

end SkIRect

namespace BoundsOf

variable {covered others : Int32 → Int32 → Prop} {bounds other : SkIRect}

theorem unique (is : BoundsOf covered bounds) (isOther : BoundsOf covered other) :
    bounds = other := by
  by_cases some : ∃ x y, covered x y
  · exact (is.least some isOther.encloses).antisymm (isOther.least some is.encloses)
  · simp only [not_exists] at some
    rw [is.none some, isOther.none some]

theorem congr (is : BoundsOf covered bounds) (same : ∀ x y, others x y ↔ covered x y) :
    BoundsOf others bounds := by
  have equal : others = covered := by
    ext x y
    exact same x y
  rwa [equal]

theorem empty (none : ∀ x y, ¬covered x y) : BoundsOf covered .makeEmpty where
  none _ := rfl
  encloses x y covers := absurd covers (none x y)
  least some _ := by
    obtain ⟨x, y, covers⟩ := some
    exact absurd covers (none x y)

theorem sorted (is : BoundsOf covered bounds) {x y : Int32} (covers : covered x y) :
    bounds.Sorted :=
  (is.encloses x y covers).sorted

/-- The bounds of points where there are some on every edge. -/
theorem of_edges {x y : Int32} (covers : covered x y)
    (encloses : ∀ x y, covered x y → bounds.Covers x y)
    (left : ∃ y, covered bounds.left y) (top : ∃ x, covered x bounds.top)
    (right : ∀ limit < bounds.right, ∃ x y, limit ≤ x ∧ covered x y)
    (bottom : ∀ limit < bounds.bottom, ∃ x y, limit ≤ y ∧ covered x y) :
    BoundsOf covered bounds where
  none never := absurd covers (never x y)
  encloses := encloses
  least {other} _ within := by
    obtain ⟨atLeft, coversLeft⟩ := left
    obtain ⟨atTop, coversTop⟩ := top
    refine ⟨(within _ _ coversLeft).1.1, (within _ _ coversTop).2.1, ?_, ?_⟩
    · by_contra shorter
      obtain ⟨x, y, beyond, covers⟩ := right _ (not_le.mp shorter)
      exact absurd (within x y covers).1.2 (not_lt.mpr beyond)
    · by_contra shorter
      obtain ⟨x, y, beyond, covers⟩ := bottom _ (not_le.mp shorter)
      exact absurd (within x y covers).2.2 (not_lt.mpr beyond)

/-- The bounds of two sets of points, none of them without any. -/
theorem union (is : BoundsOf covered bounds) (isOther : BoundsOf others other)
    (some : ∃ x y, covered x y) (someOther : ∃ x y, others x y) :
    BoundsOf (fun x y => covered x y ∨ others x y) (bounds.hull other) where
  none never := by
    obtain ⟨x, y, covers⟩ := some
    exact absurd (.inl covers) (never x y)
  encloses x y := by
    rintro (covers | covers)
    · exact SkIRect.within_hull_left.covers (is.encloses x y covers)
    · exact SkIRect.within_hull_right.covers (isOther.encloses x y covers)
  least _ within :=
    SkIRect.hull_within (is.least some fun x y covers => within x y (.inl covers))
      (isOther.least someOther fun x y covers => within x y (.inr covers))

theorem ofRect (sorted : bounds.Sorted) : BoundsOf bounds.Covers bounds := by
  obtain ⟨wide, tall⟩ := sorted
  refine of_edges ⟨⟨le_rfl, wide⟩, le_rfl, tall⟩ (fun _ _ covers => covers)
    ⟨bounds.top, ⟨le_rfl, wide⟩, le_rfl, tall⟩ ⟨bounds.left, ⟨le_rfl, wide⟩, le_rfl, tall⟩
    (fun limit before => ?_) fun limit before => ?_
  · exact ⟨max bounds.left limit, bounds.top, le_max_right _ _,
      ⟨le_max_left _ _, max_lt wide before⟩, le_rfl, tall⟩
  · exact ⟨bounds.left, max bounds.top limit, le_max_right _ _,
      ⟨le_rfl, wide⟩, le_max_left _ _, max_lt tall before⟩

/-- The bounds of a line: from where its first span starts to where its last one ends. -/
theorem row {first last : Span} {spans rest front : List Span} {top bottom : Int32}
    (separate : Separate spans) (starts : spans = first :: rest) (ends : spans = front ++ [last])
    (tall : top < bottom) :
    BoundsOf (fun x y => (top ≤ y ∧ y < bottom) ∧ SpansCover spans x)
      ⟨first.left, top, last.right, bottom⟩ := by
  have firstFilled := separate.filled first (by simp [starts])
  have lastFilled := separate.filled last (by simp [ends])
  have firstCovers : SpansCover spans first.left :=
    ⟨first, by simp [starts], le_rfl, firstFilled⟩
  have lastCovers : SpansCover spans last.left := ⟨last, by simp [ends], le_rfl, lastFilled⟩
  refine of_edges (y := top) ⟨⟨le_rfl, tall⟩, firstCovers⟩ (fun x y covers => ⟨⟨?_, ?_⟩, covers.1⟩)
    ⟨top, ⟨le_rfl, tall⟩, firstCovers⟩ ⟨first.left, ⟨le_rfl, tall⟩, firstCovers⟩
    (fun limit before => ?_) fun limit before => ?_
  · rw [starts] at separate covers
    exact Band.Canonical.lower_le separate (spansCover_iff.mp covers.2)
  · rw [ends] at separate covers
    obtain ⟨span, found, inside⟩ := covers.2
    obtain earlier | same := List.mem_append.mp found
    · exact (inside.2.trans (separate.before_last span earlier)).trans lastFilled
    · rw [List.mem_singleton.mp same] at inside
      exact inside.2
  · exact ⟨max last.left limit, top, le_max_right _ _, ⟨le_rfl, tall⟩, last, by simp [ends],
      le_max_left _ _, max_lt lastFilled before⟩
  · exact ⟨first.left, max top limit, le_max_right _ _, ⟨le_max_left _ _, max_lt tall before⟩,
      firstCovers⟩

end BoundsOf

/-! ## Of regions -/

theorem CanonicalLines.exists_covered {lines : List SpanLine} (canonical : CanonicalLines lines)
    (some : lines ≠ []) : ∃ x y, LinesCover lines x y := by
  obtain ⟨line, found⟩ := List.exists_mem_of_ne_nil lines some
  obtain ⟨x, covers⟩ := (canonical.spans line found).exists_covered
  exact ⟨x, line.top, line, found, ⟨le_rfl, canonical.bands.filled line.band
    (List.mem_map_of_mem found)⟩, covers⟩

/-- What a region is to be: lines in canonical form and the bounds of its points. -/
structure DlRegion.Exact (region : DlRegion) : Prop where
  canonical : CanonicalLines region.lines
  bounds : BoundsOf (LinesCover region.lines) region.bounds

namespace DlRegion.Exact

variable {region other : DlRegion}

theorem init : DlRegion.init.Exact where
  canonical := CanonicalLines.nil
  bounds := BoundsOf.empty fun _ _ => linesCover_nil

theorem isEmpty_iff (exact : region.Exact) :
    region.isEmpty = true ↔ ∀ x y, ¬LinesCover region.lines x y := by
  rw [DlRegion.isEmpty, List.isEmpty_iff]
  constructor
  · intro empty x y
    rw [empty]
    exact linesCover_nil
  · intro never
    by_contra some
    obtain ⟨x, y, covers⟩ := exact.canonical.exists_covered some
    exact never x y covers

theorem sorted (exact : region.Exact) (some : region.isEmpty = false) : region.bounds.Sorted := by
  obtain ⟨x, y, covers⟩ := exact.canonical.exists_covered
    (by rwa [DlRegion.isEmpty, List.isEmpty_eq_false_iff] at some)
  exact exact.bounds.sorted covers

end DlRegion.Exact

/-- A line of one span covers a rectangle. -/
theorem linesCover_ofRect {rect : SkIRect} {x y : Int32} :
    LinesCover (DlRegion.ofRect rect).lines x y ↔ rect.Covers x y := by
  simp [DlRegion.ofRect, SkIRect.Covers, and_comm]

theorem canonicalLines_ofRect {rect : SkIRect} (sorted : rect.Sorted) :
    CanonicalLines (DlRegion.ofRect rect).lines := by
  refine ⟨fun line found => ?_, Band.canonical_singleton sorted.2⟩
  rw [List.mem_singleton.mp found]
  exact ⟨List.cons_ne_nil _ _, Band.canonical_singleton sorted.1⟩

theorem DlRegion.Exact.ofRect {rect : SkIRect} (sorted : rect.Sorted) :
    (DlRegion.ofRect rect).Exact where
  canonical := canonicalLines_ofRect sorted
  bounds := (BoundsOf.ofRect sorted).congr fun _ _ => linesCover_ofRect

end FlutterEngine.DisplayList.Geometry
