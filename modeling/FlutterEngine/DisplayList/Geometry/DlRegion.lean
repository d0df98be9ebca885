import FlutterEngine.Std.Bands
import Mathlib.Order.MinMax

/-!
# `DlRegion`

`DlRegion` of `dl_region.h`: lines of spans, and bounds. A chunk of the span buffer is the list of
its spans. `SkIRect` is Skia's: what a region uses of it is a parameter, `SkIRects`, with its
documented behaviour.
-/

namespace FlutterEngine.DisplayList.Geometry

open FlutterEngine.Std

instance linearOrderInt32 : LinearOrder Int32 where
  le_refl := Int32.le_refl
  le_trans _ _ _ := Int32.le_trans
  le_antisymm _ _ := Int32.le_antisymm
  le_total := Int32.le_total
  lt_iff_le_not_ge first second := by
    rw [Int32.not_le]
    exact ⟨fun less => ⟨Int32.le_of_lt less, less⟩, fun less => less.2⟩
  toDecidableLE := inferInstance
  toDecidableEq := inferInstance
  toDecidableLT := inferInstance

/-! ## Skia's rectangles of integers -/

/-- `SkIRect`, with edges of 32 bits. -/
structure SkIRect where
  left : Int32
  top : Int32
  right : Int32
  bottom : Int32
deriving DecidableEq

namespace SkIRect

/-- A width or height that `int32_t` can hold, and that is not zero. -/
def Fits (size : Int) : Prop := 0 < size ∧ size ≤ Int32.maxValue.toInt

instance (size : Int) : Decidable (Fits size) :=
  inferInstanceAs (Decidable (0 < size ∧ size ≤ Int32.maxValue.toInt))

def width64 (rect : SkIRect) : Int := rect.right.toInt - rect.left.toInt

def height64 (rect : SkIRect) : Int := rect.bottom.toInt - rect.top.toInt

/-- `isEmpty`. -/
def IsEmpty (rect : SkIRect) : Prop := ¬(Fits rect.width64 ∧ Fits rect.height64)

instance (rect : SkIRect) : Decidable rect.IsEmpty :=
  inferInstanceAs (Decidable (¬(Fits rect.width64 ∧ Fits rect.height64)))

def makeEmpty : SkIRect := ⟨0, 0, 0, 0⟩

/-- The points of the rectangle. -/
def Covers (rect : SkIRect) (x y : Int32) : Prop :=
  (rect.left ≤ x ∧ x < rect.right) ∧ rect.top ≤ y ∧ y < rect.bottom

/-- Edges in order, also where the width or the height is more than `int32_t` can hold. -/
def Sorted (rect : SkIRect) : Prop := rect.left < rect.right ∧ rect.top < rect.bottom

instance (rect : SkIRect) : Decidable rect.Sorted :=
  inferInstanceAs (Decidable (rect.left < rect.right ∧ rect.top < rect.bottom))

/-- What is within both rectangles. -/
def overlap (rect other : SkIRect) : SkIRect :=
  ⟨max rect.left other.left, max rect.top other.top,
    min rect.right other.right, min rect.bottom other.bottom⟩

/-- The edges that are furthest out. -/
def hull (rect other : SkIRect) : SkIRect :=
  ⟨min rect.left other.left, min rect.top other.top,
    max rect.right other.right, max rect.bottom other.bottom⟩

variable {rect other : SkIRect}

theorem sorted_of_not_isEmpty (filled : ¬rect.IsEmpty) : rect.Sorted := by
  obtain ⟨⟨wide, -⟩, tall, -⟩ := not_not.mp filled
  unfold width64 at wide
  unfold height64 at tall
  rw [Sorted, Int32.lt_iff_toInt_lt, Int32.lt_iff_toInt_lt]
  omega

theorem Covers.sorted {x y : Int32} (covers : rect.Covers x y) : rect.Sorted :=
  ⟨covers.1.1.trans_lt covers.1.2, covers.2.1.trans_lt covers.2.2⟩

theorem covers_overlap {x y : Int32} :
    (rect.overlap other).Covers x y ↔ rect.Covers x y ∧ other.Covers x y := by
  simp only [Covers, overlap, max_le_iff, lt_min_iff]
  constructor
  · rintro ⟨⟨⟨left, left'⟩, right, right'⟩, ⟨top, top'⟩, bottom, bottom'⟩
    exact ⟨⟨⟨left, right⟩, top, bottom⟩, ⟨left', right'⟩, top', bottom'⟩
  · rintro ⟨⟨⟨left, right⟩, top, bottom⟩, ⟨left', right'⟩, top', bottom'⟩
    exact ⟨⟨⟨left, left'⟩, right, right'⟩, ⟨top, top'⟩, bottom, bottom'⟩

theorem not_sorted_makeEmpty : ¬makeEmpty.Sorted := by decide

end SkIRect

/-- The operations on `SkIRect` that a region uses. `join` looks at the order of the edges only,
the others take no rectangle whose size does not fit. -/
structure SkIRects where
  /-- What `join` leaves in the first rectangle. -/
  join : SkIRect → SkIRect → SkIRect
  /-- `SkIRect::Intersects`. -/
  intersects : SkIRect → SkIRect → Bool
  /-- What `intersect` leaves in the first rectangle, where it returns true. -/
  intersect : SkIRect → SkIRect → SkIRect
  contains : SkIRect → SkIRect → Bool
  join_unsorted : ∀ {rect other : SkIRect}, ¬rect.Sorted → other.Sorted → join rect other = other
  join_sorted : ∀ {rect other : SkIRect}, rect.Sorted → other.Sorted →
    join rect other = rect.hull other
  intersects_iff : ∀ {rect other : SkIRect},
    intersects rect other = true ↔ ¬(rect.overlap other).IsEmpty
  intersect_eq : ∀ {rect other : SkIRect}, intersects rect other = true →
    intersect rect other = rect.overlap other
  contains_edges : ∀ {rect other : SkIRect}, contains rect other = true →
    rect.left ≤ other.left ∧ rect.top ≤ other.top ∧
      other.right ≤ rect.right ∧ other.bottom ≤ rect.bottom

/-- Skia's operations, by the edges alone. -/
def SkIRects.byEdges : SkIRects where
  join rect other :=
    if other.Sorted then if rect.Sorted then rect.hull other else other else rect
  intersects rect other := !decide (rect.overlap other).IsEmpty
  intersect rect other := rect.overlap other
  contains rect other :=
    !decide other.IsEmpty && !decide rect.IsEmpty &&
      decide (rect.left ≤ other.left ∧ rect.top ≤ other.top ∧
        other.right ≤ rect.right ∧ other.bottom ≤ rect.bottom)
  join_unsorted unsorted sorted := by rw [if_pos sorted, if_neg unsorted]
  join_sorted sorted otherSorted := by rw [if_pos otherSorted, if_pos sorted]
  intersects_iff := by simp
  intersect_eq _ := rfl
  contains_edges contains := by
    rw [Bool.and_eq_true] at contains
    exact of_decide_eq_true contains.2

/-! ## Regions -/

structure Span where
  left : Int32
  right : Int32
deriving DecidableEq

structure SpanLine where
  top : Int32
  bottom : Int32
  spans : List Span
deriving DecidableEq

structure DlRegion where
  lines : List SpanLine
  bounds : SkIRect
deriving DecidableEq

/-- `appendLine`, which `setRects` does in place. -/
def appendLine (lines : List SpanLine) (top bottom : Int32) (spans : List Span) : List SpanLine :=
  match lines.getLast? with
  | none => [⟨top, bottom, spans⟩]
  | some back =>
    if back.bottom = top ∧ back.spans = spans then
      lines.dropLast ++ [{ back with bottom := bottom }]
    else lines ++ [⟨top, bottom, spans⟩]

namespace DlRegion

/-- A region without lines. -/
def init : DlRegion where
  lines := []
  bounds := .makeEmpty

/-- The constructor from one rectangle. -/
def ofRect (rect : SkIRect) : DlRegion where
  lines := [⟨rect.top, rect.bottom, [⟨rect.left, rect.right⟩]⟩]
  bounds := rect

variable (region : DlRegion)

def isEmpty : Bool := region.lines.isEmpty

def isComplex : Bool :=
  decide (1 < region.lines.length) ||
    (decide (region.lines.length = 1) &&
      decide (1 < (region.lines.head?.elim [] SpanLine.spans).length))

def isSimple : Bool := !region.isComplex

end DlRegion

/-! ## What lines cover -/

def Span.band (span : Span) : Band Int32 Unit := ⟨span.left, span.right, ()⟩

def SpanLine.band (line : SpanLine) : Band Int32 (List Span) := ⟨line.top, line.bottom, line.spans⟩

/-- The points of spans. -/
def SpansCover (spans : List Span) (x : Int32) : Prop :=
  ∃ span ∈ spans, span.left ≤ x ∧ x < span.right

/-- The points of lines. -/
def LinesCover (lines : List SpanLine) (x y : Int32) : Prop :=
  ∃ line ∈ lines, (line.top ≤ y ∧ y < line.bottom) ∧ SpansCover line.spans x

/-- Spans in canonical form: some, none of them empty, in order and not even touching. -/
structure CanonicalSpans (spans : List Span) : Prop where
  some : spans ≠ []
  bands : Band.Canonical (spans.map Span.band)

/-- Lines in canonical form: none of them empty, in order, of canonical spans, and not of the
same spans where they touch. -/
structure CanonicalLines (lines : List SpanLine) : Prop where
  spans : ∀ line ∈ lines, CanonicalSpans line.spans
  bands : Band.Canonical (lines.map SpanLine.band)

theorem spansCover_iff {spans : List Span} {x : Int32} :
    SpansCover spans x ↔ Band.Carries (spans.map Span.band) x () := by
  simp only [SpansCover, Band.Carries, List.mem_map]
  constructor
  · rintro ⟨span, found, inside⟩
    exact ⟨span.band, ⟨span, found, rfl⟩, inside, trivial⟩
  · rintro ⟨-, ⟨span, found, rfl⟩, inside, -⟩
    exact ⟨span, found, inside⟩

variable {y : Int32}

theorem linesCover_iff {lines : List SpanLine} {x : Int32} :
    LinesCover lines x y ↔
      ∃ spans, Band.Carries (lines.map SpanLine.band) y spans ∧ SpansCover spans x := by
  simp only [LinesCover, Band.Carries, List.mem_map]
  constructor
  · rintro ⟨line, found, inside, covers⟩
    exact ⟨line.spans, ⟨line.band, ⟨line, found, rfl⟩, inside, rfl⟩, covers⟩
  · rintro ⟨spans, ⟨-, ⟨line, found, rfl⟩, inside, rfl⟩, covers⟩
    exact ⟨line, found, inside, covers⟩

theorem Span.band_injective {first second : Span} (same : first.band = second.band) :
    first = second := by
  cases first
  cases second
  simpa [Span.band] using same

theorem SpanLine.band_injective {first second : SpanLine} (same : first.band = second.band) :
    first = second := by
  cases first
  cases second
  simpa [SpanLine.band] using same

namespace CanonicalSpans

variable {spans others : List Span}

theorem exists_covered (canonical : CanonicalSpans spans) : ∃ x, SpansCover spans x := by
  obtain _ | ⟨span, rest⟩ := spans
  · exact absurd rfl canonical.some
  · exact ⟨span.left, spansCover_iff.mpr canonical.bands.carries_lower⟩

/-- Spans are known by their points. -/
theorem ext (canonical : CanonicalSpans spans) (otherCanonical : CanonicalSpans others)
    (same : ∀ x, SpansCover spans x ↔ SpansCover others x) : spans = others := by
  refine (List.map_inj_right fun _ _ => Span.band_injective).mp
    (canonical.bands.ext otherCanonical.bands fun x _ => ?_)
  rw [← spansCover_iff, ← spansCover_iff]
  exact same x

end CanonicalSpans

namespace CanonicalLines

variable {lines others : List SpanLine}

theorem nil : CanonicalLines [] where
  spans _ found := absurd found List.not_mem_nil
  bands := Band.canonical_nil

variable {spans : List Span}

theorem carried_spans (canonical : CanonicalLines lines)
    (carries : Band.Carries (lines.map SpanLine.band) y spans) : CanonicalSpans spans := by
  obtain ⟨band, found, -, rfl⟩ := carries
  obtain ⟨line, member, rfl⟩ := List.mem_map.mp found
  exact canonical.spans line member

/-- What a line covers is what its spans cover. -/
theorem cover_of_carries (canonical : CanonicalLines lines) {x : Int32}
    (carries : Band.Carries (lines.map SpanLine.band) y spans) :
    LinesCover lines x y ↔ SpansCover spans x := by
  rw [linesCover_iff]
  constructor
  · rintro ⟨other, carriesOther, covers⟩
    rwa [canonical.bands.load_eq carries carriesOther]
  · intro covers
    exact ⟨spans, carries, covers⟩

variable (canonical : CanonicalLines lines) (otherCanonical : CanonicalLines others)
  (same : ∀ x y, LinesCover lines x y ↔ LinesCover others x y)

include canonical otherCanonical same

theorem carries_of_cover (carries : Band.Carries (lines.map SpanLine.band) y spans) :
    Band.Carries (others.map SpanLine.band) y spans := by
  obtain ⟨x, covered⟩ := (canonical.carried_spans carries).exists_covered
  have covers := (same x y).mp ((canonical.cover_of_carries carries).mpr covered)
  obtain ⟨other, carriesOther, -⟩ := linesCover_iff.mp covers
  have equal : spans = other := by
    refine (canonical.carried_spans carries).ext (otherCanonical.carried_spans carriesOther)
      fun x => ?_
    rw [← canonical.cover_of_carries carries, same, otherCanonical.cover_of_carries carriesOther]
  rwa [equal]

/-- Lines are known by their points. -/
theorem ext : lines = others := by
  refine (List.map_inj_right fun _ _ => SpanLine.band_injective).mp
    (canonical.bands.ext otherCanonical.bands fun y spans => ⟨?_, ?_⟩)
  · exact canonical.carries_of_cover otherCanonical same
  · exact otherCanonical.carries_of_cover canonical fun x y => (same x y).symm

end CanonicalLines

/-! ## Lines after lines -/

@[simp]
theorem linesCover_nil {x : Int32} : ¬LinesCover [] x y := by
  rintro ⟨line, found, -⟩
  contradiction

@[simp]
theorem linesCover_append {lines others : List SpanLine} {x : Int32} :
    LinesCover (lines ++ others) x y ↔ LinesCover lines x y ∨ LinesCover others x y := by
  simp only [LinesCover, List.mem_append, or_and_right, exists_or]

@[simp]
theorem linesCover_cons {line : SpanLine} {rest : List SpanLine} {x y : Int32} :
    LinesCover (line :: rest) x y ↔
      (line.top ≤ y ∧ y < line.bottom) ∧ SpansCover line.spans x ∨ LinesCover rest x y := by
  simp only [LinesCover, List.mem_cons, or_and_right, exists_or, exists_eq_left]

/-- The lines end before a y coordinate. -/
def LinesEndBy (lines : List SpanLine) (y : Int32) : Prop := ∀ line ∈ lines, line.bottom ≤ y

theorem LinesEndBy.mono {lines : List SpanLine} {later : Int32} (ends : LinesEndBy lines y)
    (after : y ≤ later) : LinesEndBy lines later :=
  fun line found => (ends line found).trans after

theorem LinesEndBy.bands {lines : List SpanLine} (ends : LinesEndBy lines y) :
    Band.EndBy (lines.map SpanLine.band) y := by
  intro band found
  obtain ⟨line, member, rfl⟩ := List.mem_map.mp found
  exact ends line member

theorem LinesEndBy.lt {lines : List SpanLine} {x limit : Int32} (ends : LinesEndBy lines limit)
    (covers : LinesCover lines x y) : y < limit := by
  obtain ⟨line, found, inside, -⟩ := covers
  exact inside.2.trans_le (ends line found)

/-- What `appendLine` makes of lines and one below them. -/
structure Appended (lines : List SpanLine) (top bottom : Int32) (spans : List Span)
    (result : List SpanLine) : Prop where
  canonical : CanonicalLines result
  cover : ∀ x y, LinesCover result x y ↔
    LinesCover lines x y ∨ (top ≤ y ∧ y < bottom) ∧ SpansCover spans x
  ends : LinesEndBy result bottom
  some : result ≠ []

theorem CanonicalLines.appendLine {lines : List SpanLine} {top bottom : Int32} {spans : List Span}
    (canonical : CanonicalLines lines) (filled : top < bottom) (row : CanonicalSpans spans)
    (ends : LinesEndBy lines top) :
    Appended lines top bottom spans (appendLine lines top bottom spans) := by
  obtain empty | ⟨front, back, split⟩ := List.eq_nil_or_concat lines
  · subst empty
    refine ⟨⟨?_, Band.canonical_singleton filled⟩, by simp [Geometry.appendLine], ?_, by
      simp [Geometry.appendLine]⟩
    · intro line found
      rwa [List.mem_singleton.mp found]
    · intro line found
      rw [List.mem_singleton.mp found]
  · rw [List.concat_eq_append] at split
    subst split
    have bands := canonical.bands
    rw [List.map_append, List.map_singleton] at bands
    have before : ∀ line ∈ front, line.bottom ≤ bottom := fun line found =>
      (ends line (List.mem_append_left _ found)).trans filled.le
    have backBefore := ends back (by simp)
    rw [Geometry.appendLine, List.getLast?_concat]
    simp only [List.dropLast_concat]
    split
    case isTrue same =>
      obtain ⟨touches, rfl⟩ := same
      have backFilled : back.top < back.bottom := bands.filled back.band (by simp)
      refine ⟨⟨?_, ?_⟩, fun x y => ?_, ?_, by simp⟩
      · intro line found
        obtain earlier | last := List.mem_append.mp found
        · exact canonical.spans line (List.mem_append_left _ earlier)
        · rwa [List.mem_singleton.mp last]
      · rw [List.map_append, List.map_singleton]
        exact bands.grow (backBefore.trans filled.le)
      · -- Two lines of the same spans, the second one below the first.
        simp only [linesCover_append, linesCover_cons, linesCover_nil, or_false, or_assoc,
          ← or_and_right, ← touches]
        rw [← touches] at filled
        have joined : back.top ≤ y ∧ y < bottom ↔
            (back.top ≤ y ∧ y < back.bottom) ∨ back.bottom ≤ y ∧ y < bottom := by
          constructor
          · rintro ⟨above, below⟩
            obtain upper | lower := lt_or_ge y back.bottom
            · exact .inl ⟨above, upper⟩
            · exact .inr ⟨lower, below⟩
          · rintro (⟨above, below⟩ | ⟨above, below⟩)
            · exact ⟨above, below.trans filled⟩
            · exact ⟨backFilled.le.trans above, below⟩
        rw [joined]
      · intro line found
        obtain earlier | last := List.mem_append.mp found
        · exact before line earlier
        · rw [List.mem_singleton.mp last]
    case isFalse other =>
      refine ⟨⟨?_, ?_⟩, fun x y => by simp [or_assoc], ?_, by simp⟩
      · intro line found
        obtain earlier | last := List.mem_append.mp found
        · exact canonical.spans line earlier
        · rwa [List.mem_singleton.mp last]
      · rw [List.map_append, List.map_singleton]
        refine canonical.bands.concat filled ends.bands fun last found touches same => ?_
        rw [List.map_append, List.map_singleton, List.getLast?_concat, Option.mem_some_iff] at found
        subst found
        exact other ⟨touches, same⟩
      · intro line found
        obtain earlier | last := List.mem_append.mp found
        · exact (ends line earlier).trans filled.le
        · rw [List.mem_singleton.mp last]

end FlutterEngine.DisplayList.Geometry
