import Mathlib.Data.Set.Prod
import Mathlib.Order.Bounds.Basic
import Mathlib.Order.Interval.Set.LinearOrder
import Mathlib.Order.MinMax

/-!
# Half-open boxes

Products of two half-open intervals, and the least of them that holds a region. An interval
spans what begins where it begins and comes as close to its end as there are points.
-/

namespace FlutterEngine.Std

open Set

section Spans

variable {X : Type} [LinearOrder X] {lower upper first last : X} {points others : Set X}

/-- The least half-open interval that holds the points. -/
structure Spans (points : Set X) (lower upper : X) : Prop where
  within : points ⊆ Ico lower upper
  start : lower ∈ points
  close : ∀ point ∈ Ico lower upper, ∃ later ∈ points, point ≤ later

theorem Spans.lt (spans : Spans points lower upper) : lower < upper :=
  (spans.within spans.start).1.trans_lt (spans.within spans.start).2

/-- Any other interval that holds the points is as wide. -/
theorem Spans.least (spans : Spans points lower upper) (holds : points ⊆ Ico first last) :
    first ≤ lower ∧ upper ≤ last := by
  refine ⟨(holds spans.start).1, not_lt.mp fun ends => ?_⟩
  -- The end of the other interval is no later than a point that it does not hold.
  obtain ⟨later, member, beyond⟩ := spans.close (max lower last)
    ⟨le_max_left _ _, max_lt spans.lt ends⟩
  exact ((le_max_right _ _).trans beyond).not_gt (holds member).2

theorem spans_Ico (filled : lower < upper) : Spans (Ico lower upper) lower upper where
  within := subset_rfl
  start := left_mem_Ico.mpr filled
  close point inside := ⟨point, inside, le_rfl⟩

theorem Spans.union (spans : Spans points lower upper) (other : Spans others first last) :
    Spans (points ∪ others) (min lower first) (max upper last) where
  within := union_subset
    (spans.within.trans (Ico_subset_Ico (min_le_left _ _) (le_max_left _ _)))
    (other.within.trans (Ico_subset_Ico (min_le_right _ _) (le_max_right _ _)))
  start := by
    rcases min_choice lower first with same | same
    · rw [same]
      exact .inl spans.start
    · rw [same]
      exact .inr other.start
  close point inside := by
    rcases lt_max_iff.mp inside.2 with before | before
    · obtain ⟨later, member, beyond⟩ := spans.close (max lower point)
        ⟨le_max_left _ _, max_lt spans.lt before⟩
      exact ⟨later, .inl member, (le_max_right _ _).trans beyond⟩
    · obtain ⟨later, member, beyond⟩ := other.close (max first point)
        ⟨le_max_left _ _, max_lt other.lt before⟩
      exact ⟨later, .inr member, (le_max_right _ _).trans beyond⟩

/-! ## Taking an interval out of another -/

/-- The start is taken away. -/
theorem spans_diff_start (begins : first ≤ lower) (reaches : lower < last) (ends : last < upper) :
    Spans (Ico lower upper \ Ico first last) last upper where
  within := fun _ ⟨inside, outside⟩ =>
    ⟨not_lt.mp fun before => outside ⟨begins.trans inside.1, before⟩, inside.2⟩
  start := ⟨⟨reaches.le, ends⟩, fun inside => lt_irrefl _ inside.2⟩
  close point inside :=
    ⟨point, ⟨⟨reaches.le.trans inside.1, inside.2⟩, fun taken => inside.1.not_gt taken.2⟩, le_rfl⟩

/-- The end is taken away. -/
theorem spans_diff_end (ends : upper ≤ last) (begins : lower < first) (reaches : first < upper) :
    Spans (Ico lower upper \ Ico first last) lower first where
  within := fun _ ⟨inside, outside⟩ =>
    ⟨inside.1, not_le.mp fun after => outside ⟨after, inside.2.trans_le ends⟩⟩
  start := ⟨left_mem_Ico.mpr (begins.trans reaches), fun taken => begins.not_ge taken.1⟩
  close point inside :=
    ⟨point, ⟨⟨inside.1, inside.2.trans reaches⟩, fun taken => inside.2.not_ge taken.1⟩, le_rfl⟩

/-- Neither the start nor the end is taken away. -/
theorem spans_diff_between (filled : lower < upper) (start : ¬(first ≤ lower ∧ lower < last))
    (stop : ¬(upper ≤ last ∧ first < upper)) :
    Spans (Ico lower upper \ Ico first last) lower upper where
  within := sdiff_subset
  start := ⟨left_mem_Ico.mpr filled, start⟩
  close point inside := by
    rcases lt_or_ge last upper with before | after
    · refine ⟨max point last, ⟨⟨inside.1.trans (le_max_left _ _), max_lt inside.2 before⟩, ?_⟩,
        le_max_left _ _⟩
      exact fun taken => (le_max_right point last).not_gt taken.2
    · have late : upper ≤ first := not_lt.mp fun reaches => stop ⟨after, reaches⟩
      exact ⟨point, ⟨inside, fun taken => (inside.2.trans_le late).not_ge taken.1⟩, le_rfl⟩

theorem diff_nonempty_of_not_covered (filled : lower < upper)
    (uncovered : ¬(first ≤ lower ∧ upper ≤ last)) :
    (Ico lower upper \ Ico first last).Nonempty := by
  by_contra nothing
  have covered : Ico lower upper ⊆ Ico first last :=
    sdiff_eq_empty.mp (not_nonempty_iff_eq_empty.mp nothing)
  exact uncovered ((spans_Ico filled).least covered)

end Spans

/-! ## Taking a box out of another -/

section Products

variable {X Y : Type} {columns columns' : Set X} {rows rows' : Set Y}

/-- With a row to spare, every column is left. -/
theorem fst_image_diff (spare : (rows \ rows').Nonempty) :
    Prod.fst '' (columns ×ˢ rows \ columns' ×ˢ rows') = columns := by
  obtain ⟨row, inside, outside⟩ := spare
  ext column
  constructor
  · rintro ⟨point, ⟨member, -⟩, rfl⟩
    exact member.1
  · intro member
    exact ⟨(column, row), ⟨⟨member, inside⟩, fun taken => outside taken.2⟩, rfl⟩

/-- Without one, the columns are left that are not taken. -/
theorem fst_image_diff_of_subset (filled : rows.Nonempty) (taken : rows ⊆ rows') :
    Prod.fst '' (columns ×ˢ rows \ columns' ×ˢ rows') = columns \ columns' := by
  obtain ⟨row, inside⟩ := filled
  ext column
  constructor
  · rintro ⟨point, ⟨member, outside⟩, rfl⟩
    exact ⟨member.1, fun inColumns => outside ⟨inColumns, taken member.2⟩⟩
  · rintro ⟨member, outside⟩
    exact ⟨(column, row), ⟨⟨member, inside⟩, fun inColumns => outside inColumns.1⟩, rfl⟩

theorem snd_image_diff_eq : Prod.snd '' (columns ×ˢ rows \ columns' ×ˢ rows') =
    Prod.fst '' (rows ×ˢ columns \ rows' ×ˢ columns') := by
  ext row
  constructor
  · rintro ⟨point, ⟨member, outside⟩, rfl⟩
    exact ⟨point.swap, ⟨member.symm, fun taken => outside taken.symm⟩, rfl⟩
  · rintro ⟨point, ⟨member, outside⟩, rfl⟩
    exact ⟨point.swap, ⟨member.symm, fun taken => outside taken.symm⟩, rfl⟩

/-- With a column to spare, every row is left. -/
theorem snd_image_diff (spare : (columns \ columns').Nonempty) :
    Prod.snd '' (columns ×ˢ rows \ columns' ×ˢ rows') = rows := by
  rw [snd_image_diff_eq, fst_image_diff spare]

/-- Without one, the rows are left that are not taken. -/
theorem snd_image_diff_of_subset (filled : columns.Nonempty) (taken : columns ⊆ columns') :
    Prod.snd '' (columns ×ˢ rows \ columns' ×ˢ rows') = rows \ rows' := by
  rw [snd_image_diff_eq, fst_image_diff_of_subset filled taken]

end Products

/-! ## Least boxes -/

section Boxes

variable {X Y : Type} [LinearOrder X] [LinearOrder Y]

/-- The boxes that hold the region. -/
def boxesAround (region : Set (X × Y)) : Set (Set (X × Y)) :=
  {box | (∃ left right top bottom, box = Ico left right ×ˢ Ico top bottom) ∧ region ⊆ box}

variable {region : Set (X × Y)} {left right left' right' : X} {top bottom top' bottom' : Y}

/-- A box is around the region when its sides are around what the region projects to. -/
theorem subset_box_iff : region ⊆ Ico left right ×ˢ Ico top bottom ↔
    Prod.fst '' region ⊆ Ico left right ∧ Prod.snd '' region ⊆ Ico top bottom := by
  rw [image_subset_iff, image_subset_iff, ← subset_inter_iff]
  rfl

/-- The box whose sides the projections span is the least around the region. -/
theorem isLeast_boxesAround (across : Spans (Prod.fst '' region) left right)
    (down : Spans (Prod.snd '' region) top bottom) :
    IsLeast (boxesAround region) (Ico left right ×ˢ Ico top bottom) := by
  refine ⟨⟨⟨left, right, top, bottom, rfl⟩, subset_box_iff.mpr ⟨across.within, down.within⟩⟩, ?_⟩
  rintro box ⟨⟨first, last, high, low, rfl⟩, around⟩
  obtain ⟨acrossAround, downAround⟩ := subset_box_iff.mp around
  obtain ⟨begins, ends⟩ := across.least acrossAround
  obtain ⟨begins', ends'⟩ := down.least downAround
  exact prod_mono (Ico_subset_Ico begins ends) (Ico_subset_Ico begins' ends')

/-- Two boxes lie in the least box around both. -/
theorem isLeast_union (across : left < right) (down : top < bottom) (across' : left' < right')
    (down' : top' < bottom') :
    IsLeast (boxesAround (Ico left right ×ˢ Ico top bottom ∪ Ico left' right' ×ˢ Ico top' bottom'))
      (Ico (min left left') (max right right') ×ˢ Ico (min top top') (max bottom bottom')) := by
  apply isLeast_boxesAround
  · rw [image_union, fst_image_prod _ (nonempty_Ico.mpr down),
      fst_image_prod _ (nonempty_Ico.mpr down')]
    exact (spans_Ico across).union (spans_Ico across')
  · rw [image_union, snd_image_prod (nonempty_Ico.mpr across),
      snd_image_prod (nonempty_Ico.mpr across')]
    exact (spans_Ico down).union (spans_Ico down')

end Boxes

end FlutterEngine.Std
