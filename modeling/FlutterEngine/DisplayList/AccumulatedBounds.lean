import FlutterEngine.DisplayList.BoundsAccumulator

/-!
# What is accumulated

An accumulator holds nothing, or what has an area; without open saves, only one that holds
nothing makes the bounds and the R-tree of nothing.
-/

namespace FlutterEngine.DisplayList

variable {p : Payloads} [SkScalar p.Scalar]

/-- What comparisons of scalars and Skia's rectangles do. -/
structure BoundsLaws (kit : Toolkit p) : Prop where
  irrefl : ∀ scalar : p.Scalar, ¬ scalar < scalar
  trans : ∀ {first second third : p.Scalar}, first < second → second < third → first < third
  le_of_lt : ∀ {first second : p.Scalar}, first < second → first ≤ second
  lt_infinity : ∀ {first second : p.Scalar}, first < second → first < kit.infinity
  negInfinity_lt : ∀ {first second : p.Scalar}, first < second → kit.negInfinity < second
  /-- An intersection has an area. -/
  intersect_area : ∀ {first second both : SkRect p.Scalar},
    kit.intersect first second = some both →
      both.fLeft < both.fRight ∧ both.fTop < both.fBottom
  /-- A rectangle with an area is not empty. -/
  filled : ∀ {rect : SkRect p.Scalar}, rect.fLeft < rect.fRight → rect.fTop < rect.fBottom →
    kit.rects.isEmpty rect = false

namespace AccumulationRect

variable {kit : Toolkit p} {accumulated : AccumulationRect p.Scalar}

/-- Nothing is accumulated, or something with an area. -/
def Settled (kit : Toolkit p) (accumulated : AccumulationRect p.Scalar) : Prop :=
  accumulated = blank kit ∨
    accumulated.minX < accumulated.maxX ∧ accumulated.minY < accumulated.maxY

/-- A minimum below its maximum stays so when a value is accumulated. -/
theorem accumulated_lt (laws : BoundsLaws kit) {least most : p.Scalar} (below : least < most)
    (value : p.Scalar) :
    (if value < least then value else least) < (if most < value then value else most) := by
  by_cases less : value < least
  · have notMore : ¬ most < value := fun more =>
      laws.irrefl _ (laws.trans more (laws.trans less below))
    rw [if_pos less, if_neg notMore]
    exact laws.trans less below
  · rw [if_neg less]
    split
    · next more => exact laws.trans below more
    · exact below

/-- A span accumulated from nothing is between its ends. -/
theorem accumulated_blank (laws : BoundsLaws kit) {start stop : p.Scalar} (span : start < stop) :
    let least := if start < kit.infinity then start else kit.infinity
    let most := if kit.negInfinity < start then start else kit.negInfinity
    (if stop < least then stop else least) < (if most < stop then stop else most) := by
  have below : ¬ stop < start := fun swapped => laws.irrefl _ (laws.trans span swapped)
  dsimp only
  have reached : (if kit.negInfinity < start then start else kit.negInfinity) < stop := by
    split
    · exact span
    · exact laws.negInfinity_lt span
  rw [if_pos (laws.lt_infinity span), if_neg below, if_pos reached]
  exact span

theorem Settled.accumulateRect (laws : BoundsLaws kit) (settled : accumulated.Settled kit)
    (rect : SkRect p.Scalar) : (accumulated.accumulateRect rect).Settled kit := by
  unfold AccumulationRect.accumulateRect
  split
  · next area =>
      refine .inr ?_
      rcases settled with rfl | ⟨across, down⟩
      · exact ⟨accumulated_blank laws area.1, accumulated_blank laws area.2⟩
      · exact ⟨accumulated_lt laws (accumulated_lt laws across _) _,
          accumulated_lt laws (accumulated_lt laws down _) _⟩
  · exact settled

/-- Only nothing has the bounds of nothing. -/
theorem Settled.eq_blank (laws : BoundsLaws kit) (settled : accumulated.Settled kit)
    (same : accumulated.bounds kit = (blank kit).bounds kit) : accumulated = blank kit := by
  rcases settled with nothing | ⟨across, down⟩
  · exact nothing
  · have own : accumulated.bounds kit =
        ⟨accumulated.minX, accumulated.minY, accumulated.maxX, accumulated.maxY⟩ :=
      if_pos ⟨laws.le_of_lt across, laws.le_of_lt down⟩
    rw [own] at same
    unfold AccumulationRect.bounds at same
    split at same
    · cases accumulated
      cases same
      rfl
    · have flat : accumulated.minX = accumulated.maxX :=
        (congrArg SkRect.fLeft same).trans (congrArg SkRect.fRight same).symm
      rw [flat] at across
      exact absurd across (laws.irrefl _)

end AccumulationRect

namespace BoundsAccumulator

variable {kit : Toolkit p} {accumulator : BoundsAccumulator p} {prepareRtree : Bool} {depth : Nat}

/-- An accumulator with this many saves, whose rectangles all have an area. -/
def Holds (kit : Toolkit p) : (prepareRtree : Bool) → (depth : Nat) → BoundsAccumulator p → Prop
  | false, depth, rect accumulated savedRects =>
    savedRects.length = depth ∧ ∀ entry ∈ accumulated :: savedRects, entry.Settled kit
  | true, depth, rtree rects savedOffsets =>
    savedOffsets.length = depth ∧
      ∀ entry ∈ rects, entry.1.fLeft < entry.1.fRight ∧ entry.1.fTop < entry.1.fBottom ∧
        0 ≤ entry.2
  | false, _, rtree _ _ | true, _, rect _ _ => False

theorem holds_blank (kit : Toolkit p) (prepareRtree : Bool) :
    (blank kit prepareRtree).Holds kit prepareRtree 0 := by
  cases prepareRtree with
  | false => simp [blank, Holds, AccumulationRect.Settled]
  | true => simp [blank, Holds]

theorem Holds.accumulate (laws : BoundsLaws kit) (holds : accumulator.Holds kit prepareRtree depth)
    (bounds : SkRect p.Scalar) (index : Nat) :
    (accumulator.accumulate bounds index).Holds kit prepareRtree depth := by
  match prepareRtree, accumulator, holds with
  | false, rect accumulated savedRects, ⟨saves, settled⟩ =>
    refine ⟨saves, List.forall_mem_cons.mpr ⟨?_, (List.forall_mem_cons.mp settled).2⟩⟩
    exact (List.forall_mem_cons.mp settled).1.accumulateRect laws bounds
  | true, rtree rects savedOffsets, ⟨saves, areas⟩ =>
    by_cases area : bounds.fLeft < bounds.fRight ∧ bounds.fTop < bounds.fBottom
    · simp only [BoundsAccumulator.accumulate, if_pos area]
      refine ⟨saves, List.forall_mem_append.mpr ⟨areas, ?_⟩⟩
      simpa using area
    · simp only [BoundsAccumulator.accumulate, if_neg area]
      exact ⟨saves, areas⟩

theorem Holds.save (holds : accumulator.Holds kit prepareRtree depth) :
    (accumulator.save kit).Holds kit prepareRtree (depth + 1) := by
  match prepareRtree, accumulator, holds with
  | false, rect accumulated savedRects, ⟨saves, settled⟩ =>
    exact ⟨congrArg (· + 1) saves, List.forall_mem_cons.mpr ⟨.inl rfl, settled⟩⟩
  | true, rtree rects savedOffsets, ⟨saves, areas⟩ => exact ⟨congrArg (· + 1) saves, areas⟩

theorem Holds.restore (laws : BoundsLaws kit)
    (holds : accumulator.Holds kit prepareRtree (depth + 1)) :
    (accumulator.restore kit).Holds kit prepareRtree depth := by
  match prepareRtree, accumulator, holds with
  | false, rect accumulated (outer :: savedRects), ⟨saves, settled⟩ =>
    obtain ⟨-, outerSettled, savedSettled⟩ := by
      simpa only [List.forall_mem_cons] using settled
    exact ⟨Nat.succ.inj saves,
      List.forall_mem_cons.mpr ⟨outerSettled.accumulateRect laws _, savedSettled⟩⟩
  | true, rtree rects (_ :: savedOffsets), ⟨saves, areas⟩ => exact ⟨Nat.succ.inj saves, areas⟩

theorem Holds.restoreMapped (laws : BoundsLaws kit)
    (holds : accumulator.Holds kit prepareRtree (depth + 1)) (mapper : BoundsMapper p)
    (clip : SkRect p.Scalar) :
    (accumulator.restoreMapped kit mapper clip).1.Holds kit prepareRtree depth := by
  match prepareRtree, accumulator, holds with
  | false, rect accumulated (outer :: savedRects), ⟨saves, settled⟩ =>
    obtain ⟨-, outerSettled, savedSettled⟩ := by
      simpa only [List.forall_mem_cons] using settled
    unfold BoundsAccumulator.restoreMapped
    dsimp only
    split
    · exact ⟨Nat.succ.inj saves, List.forall_mem_cons.mpr ⟨outerSettled, savedSettled⟩⟩
    · exact ⟨Nat.succ.inj saves,
        List.forall_mem_cons.mpr ⟨outerSettled.accumulateRect laws _, savedSettled⟩⟩
  | true, rtree rects (previousSize :: savedOffsets), ⟨saves, areas⟩ =>
    refine ⟨Nat.succ.inj saves, List.forall_mem_append.mpr ⟨?_, ?_⟩⟩
    · exact fun entry member => areas entry (List.mem_of_mem_take member)
    · intro entry member
      simp only [mapRects, List.mem_filterMap, Option.map_eq_some_iff] at member
      obtain ⟨⟨original, index⟩, kept, both, intersected, rfl⟩ := member
      obtain ⟨across, down⟩ := laws.intersect_area intersected
      exact ⟨across, down, (areas _ (List.mem_of_mem_drop kept)).2.2⟩

/-- The leaves of an R-tree are what was accumulated. -/
theorem eq_nil_of_toRTree (laws : BoundsLaws kit) {rects : List (SkRect p.Scalar × Int)}
    (holds : (rtree rects []).Holds kit true 0)
    (sameTree : (rtree rects []).toRTree kit = (rtree [] []).toRTree kit) : rects = [] := by
  have none : ∃ nodes, (rtree ([] : List (SkRect p.Scalar × Int)) []).toRTree kit =
      some ⟨nodes, 0, -1⟩ := by
    simp only [toRTree, DlRTree.ofRects, DlRTree.leaves, List.map_nil, List.zipIdx_nil,
      List.filterMap_nil, List.length_nil]
    rw [DlRTree.buildGenerations, dif_neg (by decide)]
    exact ⟨_, rfl⟩
  obtain ⟨nodes, none⟩ := none
  rw [none] at sameTree
  cases rects with
  | nil => rfl
  | cons entry rects =>
    obtain ⟨across, down, ordered⟩ := holds.2 entry List.mem_cons_self
    simp only [toRTree, DlRTree.ofRects, Option.map_eq_some_iff] at sameTree
    obtain ⟨nodes, -, built⟩ := sameTree
    have leaves := congrArg DlRTree.leafCount built
    simp [DlRTree.leaves, DlRTree.isTracked, laws.filled across down, ordered] at leaves

/-- Without open saves, only nothing makes the R-tree and the bounds of nothing. -/
theorem Holds.eq_blank (laws : BoundsLaws kit) (holds : accumulator.Holds kit prepareRtree 0)
    (sameTree : accumulator.toRTree kit = (blank kit prepareRtree).toRTree kit)
    (sameBounds :
      (match accumulator.toRTree kit with
        | some tree => rootBounds kit tree
        | none => accumulator.bounds kit) =
      (match (blank kit prepareRtree).toRTree kit with
        | some tree => rootBounds kit tree
        | none => (blank kit prepareRtree).bounds kit)) :
    accumulator = blank kit prepareRtree := by
  match prepareRtree, accumulator, holds with
  | false, rect accumulated [], ⟨_, settled⟩ =>
    have nothing := (List.forall_mem_cons.mp settled).1.eq_blank laws sameBounds
    rw [nothing]
    rfl
  | true, rtree rects [], holds =>
    rw [eq_nil_of_toRTree laws holds sameTree]
    rfl

end BoundsAccumulator

end FlutterEngine.DisplayList
