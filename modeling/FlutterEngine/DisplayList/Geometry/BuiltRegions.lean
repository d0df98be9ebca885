import FlutterEngine.DisplayList.Geometry.RegionIntersection
import FlutterEngine.DisplayList.Geometry.RegionRects
import FlutterEngine.DisplayList.Geometry.SetRects

/-!
# Regions that are built

What holds of every region that the constructors, `MakeUnion` and `MakeIntersection` build, in
any order.
-/

namespace FlutterEngine.DisplayList.Geometry

open FlutterEngine.Std

namespace DlRegion

/-- The regions there are, where `rectOk` is asked of the rectangle of a constructor, and `bothOk`
of what `MakeIntersection` is given. -/
inductive Built (skia : SkIRects) (rectOk : SkIRect → Prop) (bothOk : DlRegion → DlRegion → Prop) :
    DlRegion → Prop
  | init : Built skia rectOk bothOk init
  | rects {unsorted rects : List SkIRect} {fuel : Nat} {region : DlRegion}
      (sorted : SortedFrom unsorted rects)
      (returns : setRects skia fuel unsorted rects = some region) : Built skia rectOk bothOk region
  | rect {rect : SkIRect} (ok : rectOk rect) : Built skia rectOk bothOk (ofRect rect)
  | union {a b : DlRegion} (first : Built skia rectOk bothOk a)
      (second : Built skia rectOk bothOk b) : Built skia rectOk bothOk (makeUnion skia a b)
  | intersection {a b : DlRegion} (first : Built skia rectOk bothOk a)
      (second : Built skia rectOk bothOk b) (ok : bothOk a b) :
      Built skia rectOk bothOk (makeIntersection skia a b)

variable {skia : SkIRects} {a b region : DlRegion}

/-! ## Points and bounds -/

/-- The rectangle that two bounds have in common is wider or taller than `int32_t` can hold. -/
def TooLarge (a b : DlRegion) : Prop :=
  (a.bounds.overlap b.bounds).Sorted ∧ (a.bounds.overlap b.bounds).IsEmpty

/-- `MakeIntersection` is asked for points only where the bounds meet in a rectangle of a size. -/
def Meets (a b : DlRegion) : Prop :=
  TooLarge a b → ∀ x y, ¬(LinesCover a.lines x y ∧ LinesCover b.lines x y)

/-- Regions of rectangles that are not empty, with bounds that meet in rectangles of a size. -/
abbrev BuiltOfPoints (skia : SkIRects) : DlRegion → Prop :=
  Built skia (fun rect => ¬rect.IsEmpty) Meets

/-- The region of these points. -/
structure RegionOf (covered : Int32 → Int32 → Prop) (region : DlRegion) : Prop where
  cover : ∀ x y, LinesCover region.lines x y ↔ covered x y
  bounds : BoundsOf covered region.bounds
  isEmpty : region.isEmpty = true ↔ ∀ x y, ¬covered x y

theorem Exact.regionOf {covered : Int32 → Int32 → Prop} (exact : region.Exact)
    (cover : ∀ x y, LinesCover region.lines x y ↔ covered x y) : RegionOf covered region where
  cover := cover
  bounds := exact.bounds.congr fun x y => (cover x y).symm
  isEmpty := by simp only [exact.isEmpty_iff, cover]

theorem makeIntersection_regionOf (first : a.Exact) (second : b.Exact) (meets : Meets a b) :
    (makeIntersection skia a b).Exact ∧ ∀ x y, LinesCover (makeIntersection skia a b).lines x y ↔
      LinesCover a.lines x y ∧ LinesCover b.lines x y := by
  cases apart : skia.intersects a.bounds b.bounds with
  | true => exact makeIntersection_exact first second apart
  | false =>
    rw [makeIntersection_eq_init apart]
    refine ⟨Exact.init, fun x y => iff_of_false linesCover_nil fun covers => ?_⟩
    have empty : (a.bounds.overlap b.bounds).IsEmpty := by
      by_contra filled
      rw [skia.intersects_iff.mpr filled] at apart
      contradiction
    exact meets ⟨(covers_overlap_bounds first second covers).sorted, empty⟩ x y covers

theorem BuiltOfPoints.exact (built : BuiltOfPoints skia region) : region.Exact := by
  induction built with
  | init => exact Exact.init
  | rects sorted returns =>
    exact (setRects_sets sorted returns).exact
  | rect filled => exact Exact.ofRect (SkIRect.sorted_of_not_isEmpty filled)
  | union _ _ first second => exact (makeUnion_exact first second).1
  | intersection _ _ meets first second => exact (makeIntersection_regionOf first second meets).1

/-- Union and intersection of regions are the regions of the points of either and of both, exactly
where these have no point in common when the overlap of their bounds is too large. -/
theorem built_regionOf_iff (skia : SkIRects) (first : BuiltOfPoints skia a)
    (second : BuiltOfPoints skia b) :
    (RegionOf (fun x y => LinesCover a.lines x y ∨ LinesCover b.lines x y) (makeUnion skia a b) ∧
      RegionOf (fun x y => LinesCover a.lines x y ∧ LinesCover b.lines x y)
        (makeIntersection skia a b)) ↔
      Meets a b := by
  constructor
  · rintro ⟨-, intersection⟩ ⟨-, empty⟩ x y covers
    have apart : skia.intersects a.bounds b.bounds = false := by
      rw [← Bool.not_eq_true, skia.intersects_iff, not_not]
      exact empty
    have covered := (intersection.cover x y).mpr covers
    rw [makeIntersection_eq_init apart] at covered
    exact linesCover_nil covered
  · intro meets
    have union := @makeUnion_exact skia _ _ first.exact second.exact
    have intersection := @makeIntersection_regionOf skia _ _ first.exact second.exact meets
    exact ⟨union.1.regionOf union.2, intersection.1.regionOf intersection.2⟩

/-- Two squares that overlap. -/
theorem regionOf_squares :
    RegionOf
        (fun x y => LinesCover (ofRect ⟨0, 0, 2, 2⟩).lines x y ∨
          LinesCover (ofRect ⟨1, 1, 3, 3⟩).lines x y)
        (makeUnion .byEdges (ofRect ⟨0, 0, 2, 2⟩) (ofRect ⟨1, 1, 3, 3⟩)) ∧
      RegionOf
        (fun x y => LinesCover (ofRect ⟨0, 0, 2, 2⟩).lines x y ∧
          LinesCover (ofRect ⟨1, 1, 3, 3⟩).lines x y)
        (makeIntersection .byEdges (ofRect ⟨0, 0, 2, 2⟩) (ofRect ⟨1, 1, 3, 3⟩)) := by
  have first : BuiltOfPoints .byEdges (ofRect ⟨0, 0, 2, 2⟩) := .rect (by decide +kernel)
  have second : BuiltOfPoints .byEdges (ofRect ⟨1, 1, 3, 3⟩) := .rect (by decide +kernel)
  have filled : ¬((ofRect ⟨0, 0, 2, 2⟩).bounds.overlap (ofRect ⟨1, 1, 3, 3⟩).bounds).IsEmpty := by
    decide +kernel
  exact (built_regionOf_iff .byEdges first second).mpr fun large => absurd large.2 filled

/-- A rectangle at either end of the x axis. -/
def farRects : List SkIRect := [⟨-2147483648, 0, -2147483647, 1⟩, ⟨2147483645, 0, 2147483646, 1⟩]

/-- Their region, with bounds that are wider than `int32_t` can hold. -/
def farRegion : DlRegion where
  lines := [⟨0, 1, [⟨-2147483648, -2147483647⟩, ⟨2147483645, 2147483646⟩]⟩]
  bounds := ⟨-2147483648, 0, 2147483646, 1⟩

/-- The intersection of that region with itself is without points. -/
theorem not_regionOf_farRegion :
    BuiltOfPoints .byEdges farRegion ∧
      ¬(RegionOf (fun x y => LinesCover farRegion.lines x y ∨ LinesCover farRegion.lines x y)
          (makeUnion .byEdges farRegion farRegion) ∧
        RegionOf (fun x y => LinesCover farRegion.lines x y ∧ LinesCover farRegion.lines x y)
          (makeIntersection .byEdges farRegion farRegion)) := by
  have sorted : SortedFrom farRects farRects := by
    refine ⟨List.Perm.refl _, List.pairwise_pair.mpr ?_⟩
    decide +kernel
  have returns : setRects .byEdges 4 farRects farRects = some farRegion := by decide +kernel
  refine ⟨.rects sorted returns, ?_⟩
  rintro ⟨-, intersection⟩
  have apart : SkIRects.byEdges.intersects farRegion.bounds farRegion.bounds = false := by
    decide +kernel
  have first : LinesCover farRegion.lines (-2147483648) 0 :=
    ⟨_, List.mem_cons_self, by decide +kernel, _, List.mem_cons_self, by decide +kernel⟩
  have covered := (intersection.cover (-2147483648) 0).mpr ⟨first, first⟩
  rw [makeIntersection_eq_init apart] at covered
  exact linesCover_nil covered

/-! ## Canonical form -/

/-- Regions of rectangles with their edges in order. -/
abbrev BuiltOfSorted (skia : SkIRects) : DlRegion → Prop :=
  Built skia SkIRect.Sorted fun _ _ => True

theorem BuiltOfSorted.canonical (built : BuiltOfSorted skia region) :
    CanonicalLines region.lines := by
  induction built with
  | init => exact CanonicalLines.nil
  | rects sorted returns => exact (setRects_sets sorted returns).canonical
  | rect sorted => exact canonicalLines_ofRect sorted
  | union _ _ first second => exact canonicalLines_makeUnion first second
  | intersection _ _ _ first second => exact canonicalLines_makeIntersection first second

/-- Every region is in canonical form, and is known by its points. -/
theorem built_canonical (skia : SkIRects) (built : BuiltOfSorted skia a) :
    CanonicalLines a.lines ∧ ∀ b, BuiltOfSorted skia b →
      (∀ x y, LinesCover a.lines x y ↔ LinesCover b.lines x y) →
        a.lines = b.lines ∧ a.isEmpty = b.isEmpty ∧ a.isComplex = b.isComplex := by
  refine ⟨built.canonical, fun b other same => ?_⟩
  have lines := built.canonical.ext other.canonical same
  exact ⟨lines, by rw [isEmpty, isEmpty, lines], by rw [isComplex, isComplex, lines]⟩

/-- Squares united in either order. -/
theorem canonical_squares :
    CanonicalLines (makeUnion .byEdges (ofRect ⟨0, 0, 2, 2⟩) (ofRect ⟨1, 1, 3, 3⟩)).lines ∧
      (makeUnion .byEdges (ofRect ⟨0, 0, 2, 2⟩) (ofRect ⟨1, 1, 3, 3⟩)).lines =
        (makeUnion .byEdges (ofRect ⟨1, 1, 3, 3⟩) (ofRect ⟨0, 0, 2, 2⟩)).lines := by
  have first : SkIRect.Sorted ⟨0, 0, 2, 2⟩ := by decide +kernel
  have second : SkIRect.Sorted ⟨1, 1, 3, 3⟩ := by decide +kernel
  have union : BuiltOfSorted .byEdges
      (makeUnion .byEdges (ofRect ⟨0, 0, 2, 2⟩) (ofRect ⟨1, 1, 3, 3⟩)) :=
    .union (.rect first) (.rect second)
  have turned : BuiltOfSorted .byEdges
      (makeUnion .byEdges (ofRect ⟨1, 1, 3, 3⟩) (ofRect ⟨0, 0, 2, 2⟩)) :=
    .union (.rect second) (.rect first)
  obtain ⟨canonical, known⟩ := built_canonical .byEdges union
  refine ⟨canonical, (known _ turned fun x y => ?_).1⟩
  rw [(makeUnion_exact (.ofRect first) (.ofRect second)).2,
    (makeUnion_exact (.ofRect second) (.ofRect first)).2, or_comm]

/-- The region of an empty rectangle has a line, which is empty and of an empty span, where the
region without points has none. -/
theorem not_canonical_of_empty_rect :
    Built .byEdges (fun _ => True) (fun _ _ => True) (ofRect .makeEmpty) ∧
      ¬CanonicalLines (ofRect .makeEmpty).lines ∧
      (∀ x y, LinesCover (ofRect .makeEmpty).lines x y ↔ LinesCover init.lines x y) ∧
      (ofRect .makeEmpty).isEmpty = false ∧ init.isEmpty = true := by
  refine ⟨.rect trivial, fun canonical => ?_, fun x y => ?_, rfl, rfl⟩
  · have filled := canonical.bands.filled _ List.mem_cons_self
    exact lt_irrefl _ filled
  · rw [linesCover_ofRect]
    exact iff_of_false SkIRect.not_covers_makeEmpty linesCover_nil

/-! ## Rectangles in and out -/

/-- A region is known, with its bounds, by its points. -/
theorem Exact.ext (first : a.Exact) (second : b.Exact)
    (same : ∀ x y, LinesCover a.lines x y ↔ LinesCover b.lines x y) : a = b := by
  have lines := first.canonical.ext second.canonical same
  have bounds := first.bounds.unique (second.bounds.congr same)
  cases a
  cases b
  exact DlRegion.mk.injEq .. ▸ ⟨lines, bounds⟩

/-- Regions united one after the other. -/
def united (skia : SkIRects) (region : DlRegion) (rects : List SkIRect) : DlRegion :=
  rects.foldl (fun region rect => makeUnion skia region (ofRect rect)) region

theorem united_exact {rects : List SkIRect} (exact' : region.Exact)
    (filled : ∀ rect ∈ rects, ¬rect.IsEmpty) :
    (united skia region rects).Exact ∧ ∀ x y, LinesCover (united skia region rects).lines x y ↔
      LinesCover region.lines x y ∨ RectsCover rects x y := by
  induction rects generalizing region with
  | nil => exact ⟨exact', fun x y => by simp [united]⟩
  | cons rect rest ih =>
    have rectFilled := filled rect List.mem_cons_self
    have joined := @makeUnion_exact skia _ _ exact'
      (.ofRect (SkIRect.sorted_of_not_isEmpty rectFilled))
    obtain ⟨restExact, cover⟩ := ih joined.1 fun other found => filled other (.tail _ found)
    refine ⟨restExact, fun x y => (cover x y).trans ?_⟩
    rw [joined.2, linesCover_ofRect, rectsCover_cons, or_assoc, and_iff_right rectFilled]

/-- The sweep over sorted rectangles builds what uniting them one by one does, in any order. -/
theorem setRects_eq_united {unsorted rects others : List SkIRect} {fuel : Nat}
    (sorted : SortedFrom unsorted rects) (returns : setRects skia fuel unsorted rects = some region)
    (perm : others.Perm unsorted) : region = united skia init others := by
  have sets := setRects_sets sorted returns
  obtain ⟨exact', cover⟩ := @united_exact skia _ _ Exact.init fun rect found =>
    sets.filled rect (perm.mem_iff.mp found)
  refine sets.exact.ext exact' fun x y => ?_
  rw [sets.cover, cover, RectsCover.perm perm]
  exact (or_iff_right linesCover_nil).symm

theorem setRects_eq_united_farRects : farRegion = united .byEdges init farRects.reverse := by
  have sorted : SortedFrom farRects farRects :=
    ⟨List.Perm.refl _, List.pairwise_pair.mpr (by decide +kernel)⟩
  have returns : setRects .byEdges 4 farRects farRects = some farRegion := by decide +kernel
  exact setRects_eq_united sorted returns (List.reverse_perm _)

/-- The rectangles of a region build it again, exactly where none of them is too large. -/
theorem setRects_getRects_iff (built : BuiltOfPoints skia region) (deband : Bool)
    {rects : List SkIRect} (sorted : SortedFrom (region.getRects deband) rects) :
    ((∃ fuel, setRects skia fuel (region.getRects deband) rects = some region) ∧
        ∀ fuel other, setRects skia fuel (region.getRects deband) rects = some other →
          other = region) ↔
      ∀ rect ∈ region.getRects deband, ¬rect.IsEmpty := by
  have same {fuel : Nat} {other : DlRegion}
      (returns : setRects skia fuel (region.getRects deband) rects = some other) :
      other = region := by
    have sets := setRects_sets sorted returns
    refine sets.exact.ext built.exact fun x y => ?_
    rw [sets.cover, ← (getRects_gives built.exact deband).cover]
    exact exists_congr fun rect => and_congr_right fun found => and_iff_right (sets.filled rect found)
  constructor
  · rintro ⟨⟨fuel, returns⟩, -⟩
    exact (setRects_sets sorted returns).filled
  · intro filled
    obtain ⟨fuel, other, returns⟩ := @setRects_returns skia _ _ sorted filled
    exact ⟨⟨fuel, same returns ▸ returns⟩, fun _ _ => same⟩

theorem setRects_getRects_square :
    ∃ fuel, setRects .byEdges fuel [⟨0, 0, 2, 2⟩] [⟨0, 0, 2, 2⟩] = some (ofRect ⟨0, 0, 2, 2⟩) := by
  have sorted : SortedFrom [⟨0, 0, 2, 2⟩] [⟨0, 0, 2, 2⟩] := ⟨.refl _, List.pairwise_singleton _ _⟩
  exact ((setRects_getRects_iff (.rect (by decide +kernel)) true sorted).mpr (by decide +kernel)).1

end DlRegion

end FlutterEngine.DisplayList.Geometry
