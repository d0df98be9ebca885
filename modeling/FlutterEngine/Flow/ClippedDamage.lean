import FlutterEngine.Flow.Readbacks

/-!
# Damage clipped to the frame

What `ComputeDamage` returns for a damage once it is rounded out: it is clipped to the frame, and
aligned to tiles. Clipping leaves a damage that is outside of the frame where it is, and aligning
cuts it off at the right and at the bottom of the frame only.
-/

namespace FlutterEngine.Flow

open DisplayList

/-! ## Edges of tiles -/

/-- The multiple that a left or a top edge is moved to. -/
def truncated (edge alignment : Int) : Int := edge - edge.tmod alignment

/-- The multiple that a right or a bottom edge is moved to. -/
def extended (edge alignment : Int) : Int :=
  if edge.tmod alignment ≠ 0 then edge + (alignment - edge.tmod alignment) else edge

variable {edge alignment : Int}

theorem dvd_truncated (edge alignment : Int) : alignment ∣ truncated edge alignment :=
  Int.dvd_self_sub_tmod

theorem dvd_extended (edge alignment : Int) : alignment ∣ extended edge alignment := by
  unfold extended
  split
  · have split : edge + (alignment - edge.tmod alignment) =
        edge - edge.tmod alignment + alignment := by omega
    rw [split]
    exact (dvd_truncated edge alignment).add (Int.dvd_refl _)
  · rename_i divides
    exact Int.dvd_of_tmod_eq_zero (not_not.mp divides)

/-- Behind the origin an edge is moved back. -/
theorem truncated_le (inside : 0 ≤ edge) : truncated edge alignment ≤ edge := by
  have nonneg := Int.tmod_nonneg alignment inside
  unfold truncated
  omega

theorem dvd_min_extended (edge alignment bound : Int) :
    alignment ∣ min (extended edge alignment) bound ∨
      min (extended edge alignment) bound = bound := by
  rcases le_total (extended edge alignment) bound with inside | outside
  · rw [min_eq_left inside]
    exact .inl (dvd_extended edge alignment)
  · exact .inr (min_eq_right outside)

theorem le_extended (positive : 0 < alignment) (edge : Int) : edge ≤ extended edge alignment := by
  have below := Int.tmod_lt_of_pos edge positive
  unfold extended
  split <;> omega

/-- An edge less than a tile before the origin is moved to the origin. -/
theorem truncated_nonneg_iff (positive : 0 < alignment) :
    0 ≤ truncated edge alignment ↔ -alignment < edge := by
  obtain inside | outside := le_or_gt 0 edge
  · refine iff_of_true ?_ (by omega)
    have multiple := Int.mul_tdiv_self edge alignment
    unfold truncated
    rw [← multiple]
    exact Int.mul_nonneg positive.le (Int.tdiv_nonneg inside positive.le)
  · obtain ⟨distance, rfl⟩ : ∃ distance, edge = -distance := ⟨-edge, by omega⟩
    have remainder : distance.tmod alignment = distance % alignment :=
      Int.tmod_eq_emod_of_nonneg (by omega)
    unfold truncated
    rw [Int.neg_tmod, remainder]
    have below := Int.emod_lt_of_pos distance positive
    constructor
    · intro nonneg
      omega
    · intro near
      rw [Int.emod_eq_of_lt (by omega) (by omega)]
      omega

/-! ## One damage -/

/-- The frame as a rectangle. -/
def frameRect (frameSize : SkISize) : SkIRect := ⟨0, 0, frameSize.fWidth, frameSize.fHeight⟩

namespace DiffContext

variable {Scalar RRect Path : Type} [LinearOrder Scalar]
  {sk : DiffGeometry Scalar RRect Path} (context : DiffContext sk)

/-- What is returned for a damage that is rounded out. -/
def clippedRect (rounded : SkIRect) (horizontal vertical : Int) : SkIRect :=
  if horizontal > 1 ∨ vertical > 1 then
    context.alignRect (intersectIRect rounded (frameRect context.frameSize)) horizontal vertical
  else intersectIRect rounded (frameRect context.frameSize)

theorem computeDamage_eq (accumulatedBufferDamage : SkIRect) (horizontal vertical : Int) :
    context.computeDamage accumulatedBufferDamage horizontal vertical =
      ⟨context.clippedRect (context.roundedDamage accumulatedBufferDamage).frameDamage horizontal
          vertical,
        context.clippedRect (context.roundedDamage accumulatedBufferDamage).bufferDamage horizontal
          vertical⟩ := by
  unfold computeDamage clippedRect
  dsimp only
  split <;> rfl

theorem alignRect_eq (rect : SkIRect) (horizontal vertical : Int) :
    context.alignRect rect horizontal vertical =
      ⟨truncated rect.fLeft horizontal, truncated rect.fTop vertical,
        min (extended rect.fRight horizontal) context.frameSize.fWidth,
        min (extended rect.fBottom vertical) context.frameSize.fHeight⟩ := rfl

end DiffContext

/-- A rectangle that is empty or lies within the frame. -/
def WithinFrame (frameSize : SkISize) (rect : SkIRect) : Prop :=
  (wholeRect rect).isEmpty = true ∨ (0 ≤ rect.fLeft ∧ rect.fRight ≤ frameSize.fWidth) ∧
    0 ≤ rect.fTop ∧ rect.fBottom ≤ frameSize.fHeight

/-- The left and the top edge are those of tiles, and so are the others or they are the frame's. -/
structure OnTiles (frameSize : SkISize) (rect : SkIRect) (horizontal vertical : Int) : Prop where
  left : horizontal ∣ rect.fLeft
  top : vertical ∣ rect.fTop
  right : horizontal ∣ rect.fRight ∨ rect.fRight = frameSize.fWidth
  bottom : vertical ∣ rect.fBottom ∨ rect.fBottom = frameSize.fHeight

/-- The pixel with this corner. -/
def pixel (x y : Int) : SkIRect := ⟨x, y, x + 1, y + 1⟩

/-- The damage meets the frame. One that does not is returned within the frame only if there are no
tiles and it is empty, or if its left and its top edge are less than a tile away from the frame, or
if it is left without width or without height. -/
def ReachesFrame (frameSize : SkISize) (rounded : SkIRect) (horizontal vertical : Int) : Prop :=
  (wholeRect rounded).intersects (wholeRect (frameRect frameSize)) = true ∨
    if horizontal > 1 ∨ vertical > 1 then
      (-horizontal < rounded.fLeft ∧ -vertical < rounded.fTop) ∨
        min (extended rounded.fRight horizontal) frameSize.fWidth ≤
          truncated rounded.fLeft horizontal ∨
        min (extended rounded.fBottom vertical) frameSize.fHeight ≤
          truncated rounded.fTop vertical
    else (wholeRect rounded).isEmpty = true

section Clipping

variable {Scalar RRect Path : Type} [LinearOrder Scalar] {sk : DiffGeometry Scalar RRect Path}
  (context : DiffContext sk) {rounded : SkIRect} {horizontal vertical x y : Int}

theorem intersectIRect_of_meets {rect other : SkIRect}
    (meets : (wholeRect rect).intersects (wholeRect other) = true) :
    DiffContext.intersectIRect rect other = ⟨max rect.fLeft other.fLeft, max rect.fTop other.fTop,
      min rect.fRight other.fRight, min rect.fBottom other.fBottom⟩ :=
  if_pos (SkRect.intersects_iff_edges.mp meets)

theorem intersectIRect_of_apart {rect other : SkIRect}
    (apart : ¬(wholeRect rect).intersects (wholeRect other) = true) :
    DiffContext.intersectIRect rect other = rect :=
  if_neg (mt SkRect.intersects_iff_edges.mpr apart)

variable (positive : 0 < horizontal ∧ 0 < vertical)
include positive

theorem clippedRect_onTiles (rounded : SkIRect) :
    OnTiles context.frameSize (context.clippedRect rounded horizontal vertical) horizontal
      vertical := by
  unfold DiffContext.clippedRect
  split
  · rw [DiffContext.alignRect_eq]
    exact ⟨dvd_truncated _ _, dvd_truncated _ _, dvd_min_extended _ _ _, dvd_min_extended _ _ _⟩
  · rename_i whole
    have ones : horizontal = 1 ∧ vertical = 1 := by omega
    rw [ones.1, ones.2]
    exact ⟨one_dvd _, one_dvd _, .inl (one_dvd _), .inl (one_dvd _)⟩

/-- Every pixel of the frame in the damage is in the rectangle returned. -/
theorem clippedRect_covers
    (inside : wholeRect (pixel x y) ≤ wholeRect rounded)
    (onFrame : wholeRect (pixel x y) ≤ wholeRect (frameRect context.frameSize)) :
    wholeRect (pixel x y) ≤ wholeRect (context.clippedRect rounded horizontal vertical) := by
  have filled : (wholeRect (pixel x y)).isEmpty = false :=
    SkRect.isEmpty_eq_false.mpr ⟨Int.lt_succ x, Int.lt_succ y⟩
  have corner : ((x, y) : Int × Int) ∈ (wholeRect (pixel x y)).points :=
    ⟨⟨le_rfl, Int.lt_succ x⟩, le_rfl, Int.lt_succ y⟩
  have meets : (wholeRect rounded).intersects (wholeRect (frameRect context.frameSize)) = true :=
    SkRect.intersects_iff.mpr ⟨(x, y), inside corner, onFrame corner⟩
  rw [SkRect.le_iff_edges filled] at inside onFrame ⊢
  obtain ⟨⟨left, right⟩, top, bottom⟩ := inside
  obtain ⟨⟨frameLeft, frameRight⟩, frameTop, frameBottom⟩ := onFrame
  unfold DiffContext.clippedRect
  rw [intersectIRect_of_meets meets]
  split
  · rw [DiffContext.alignRect_eq]
    refine ⟨⟨?_, ?_⟩, ?_, ?_⟩
    · exact (truncated_le (le_max_right _ _)).trans (max_le left frameLeft)
    · exact le_min ((le_min right frameRight).trans (le_extended positive.1 _)) frameRight
    · exact (truncated_le (le_max_right _ _)).trans (max_le top frameTop)
    · exact le_min ((le_min bottom frameBottom).trans (le_extended positive.2 _)) frameBottom
  · exact ⟨⟨max_le left frameLeft, le_min right frameRight⟩, max_le top frameTop,
      le_min bottom frameBottom⟩

theorem clippedRect_withinFrame_iff (rounded : SkIRect) :
    WithinFrame context.frameSize (context.clippedRect rounded horizontal vertical) ↔
      ReachesFrame context.frameSize rounded horizontal vertical := by
  by_cases meets :
    (wholeRect rounded).intersects (wholeRect (frameRect context.frameSize)) = true
  · refine iff_of_true (.inr ?_) (.inl meets)
    unfold DiffContext.clippedRect
    rw [intersectIRect_of_meets meets]
    split
    · rw [DiffContext.alignRect_eq]
      refine ⟨⟨(truncated_nonneg_iff positive.1).mpr ?_, min_le_right _ _⟩,
        (truncated_nonneg_iff positive.2).mpr ?_, min_le_right _ _⟩
      · exact (neg_neg_of_pos positive.1).trans_le (le_max_right _ _)
      · exact (neg_neg_of_pos positive.2).trans_le (le_max_right _ _)
    · exact ⟨⟨le_max_right _ _, min_le_right _ _⟩, le_max_right _ _, min_le_right _ _⟩
  · unfold DiffContext.clippedRect ReachesFrame
    rw [intersectIRect_of_apart meets, or_iff_right meets]
    split
    · rw [DiffContext.alignRect_eq, WithinFrame, ← Bool.not_eq_false, SkRect.isEmpty_eq_false,
        ← truncated_nonneg_iff positive.1, ← truncated_nonneg_iff positive.2]
      simp only [wholeRect, not_and_or, not_lt]
      constructor
      · rintro (empty | within)
        · exact .inr empty
        · exact .inl ⟨within.1.1, within.2.1⟩
      · rintro (⟨left, top⟩ | empty)
        · exact .inr ⟨⟨left, min_le_right _ _⟩, top, min_le_right _ _⟩
        · exact .inl empty
    · refine or_iff_left_of_imp fun within => ?_
      obtain ⟨⟨left, right⟩, top, bottom⟩ := within
      refine Bool.of_not_eq_false fun filled => meets ?_
      obtain ⟨across, down⟩ := SkRect.isEmpty_eq_false.mp filled
      rw [SkRect.intersects_iff_edges]
      exact ⟨max_lt (lt_min across (across.trans_le right))
          (lt_min (left.trans_lt across) ((left.trans_lt across).trans_le right)),
        max_lt (lt_min down (down.trans_le bottom))
          (lt_min (top.trans_lt down) ((top.trans_lt down).trans_le bottom))⟩

end Clipping

/-! ## The damage of a context -/

section Damages

variable {Scalar RRect Path : Type} [LinearOrder Scalar] {sk : DiffGeometry Scalar RRect Path}

/-- What is returned for a damage: within the frame or empty, around each pixel of the frame that
the damage has a part of, and with the edges of tiles. -/
structure FitsFrame (context : DiffContext sk) (unaligned : SkRect Scalar) (returned : SkIRect)
    (horizontal vertical : Int) : Prop where
  within : WithinFrame context.frameSize returned
  covers : ∀ x y, wholeRect (pixel x y) ≤ wholeRect (frameRect context.frameSize) →
    (sk.ofIRect (pixel x y)).intersects unaligned = true →
      wholeRect (pixel x y) ≤ wholeRect returned
  onTiles : OnTiles context.frameSize returned horizontal vertical

namespace ExactRounding

variable (exact : ExactRounding sk) {horizontal vertical : Int}
include exact

/-- A pixel that a rectangle has a part of is in the rectangle rounded out. -/
theorem pixel_le_roundOut {x y : Int} {rect : SkRect Scalar}
    (meets : (sk.ofIRect (pixel x y)).intersects rect = true) :
    wholeRect (pixel x y) ≤ wholeRect (sk.roundOutIRect rect) := by
  rw [exact.ofIRect_eq, SkRect.intersects_iff_edges] at meets
  obtain ⟨across, down⟩ := meets
  obtain ⟨fromLeft, fromRectLeft⟩ := max_lt_iff.mp across
  obtain ⟨fromTop, fromRectTop⟩ := max_lt_iff.mp down
  have floor_le {near : Scalar} {whole : Int} (before : near < exact.scalar (whole + 1)) :
      exact.floor near ≤ whole :=
    Int.lt_add_one_iff.mp (not_le.mp fun past => before.not_ge ((exact.floor_gc _ _).mpr past))
  have le_ceil {far : Scalar} {whole : Int} (past : exact.scalar whole < far) :
      whole + 1 ≤ exact.ceil far :=
    not_le.mp fun before => past.not_ge ((exact.ceil_gc _ _).mp before)
  rw [exact.roundOutIRect_eq, SkRect.le_iff_edges
    (SkRect.isEmpty_eq_false.mpr ⟨Int.lt_succ x, Int.lt_succ y⟩)]
  exact ⟨⟨floor_le (lt_min_iff.mp fromRectLeft).1, le_ceil (lt_min_iff.mp fromLeft).2⟩,
    floor_le (lt_min_iff.mp fromRectTop).1, le_ceil (lt_min_iff.mp fromTop).2⟩

theorem fitsFrame_iff (context : DiffContext sk) (unaligned : SkRect Scalar)
    (positive : 0 < horizontal ∧ 0 < vertical) :
    FitsFrame context unaligned
        (context.clippedRect (sk.roundOutIRect unaligned) horizontal vertical) horizontal vertical ↔
      ReachesFrame context.frameSize (sk.roundOutIRect unaligned) horizontal vertical := by
  rw [← clippedRect_withinFrame_iff context positive]
  constructor
  · exact FitsFrame.within
  · intro within
    refine ⟨within, fun x y onFrame meets => ?_, clippedRect_onTiles context positive _⟩
    exact clippedRect_covers context positive (exact.pixel_le_roundOut meets) onFrame

/-- The damages returned fit the frame exactly when both reach it, as they are rounded out. -/
theorem computeDamage_fitsFrame_iff (context : DiffContext sk) (accumulatedBufferDamage : SkIRect)
    (positive : 0 < horizontal ∧ 0 < vertical) :
    (FitsFrame context (context.damages accumulatedBufferDamage).1
          (context.computeDamage accumulatedBufferDamage horizontal vertical).frameDamage
          horizontal vertical ∧
        FitsFrame context (context.damages accumulatedBufferDamage).2
          (context.computeDamage accumulatedBufferDamage horizontal vertical).bufferDamage
          horizontal vertical) ↔
      ReachesFrame context.frameSize (context.roundedDamage accumulatedBufferDamage).frameDamage
          horizontal vertical ∧
        ReachesFrame context.frameSize
          (context.roundedDamage accumulatedBufferDamage).bufferDamage horizontal vertical := by
  rw [DiffContext.computeDamage_eq]
  exact and_congr (exact.fitsFrame_iff context _ positive) (exact.fitsFrame_iff context _ positive)

end ExactRounding

end Damages

namespace Translations

/-- Damage that is partly outside of a frame of 100 by 100. -/
theorem fitsFrame_overlapping :
    let context := context ⟨90, -10, 110, 20⟩ []
    FitsFrame context (context.damages ⟨0, 0, 5, 5⟩).1
        (context.computeDamage ⟨0, 0, 5, 5⟩ 16 16).frameDamage 16 16 ∧
      FitsFrame context (context.damages ⟨0, 0, 5, 5⟩).2
        (context.computeDamage ⟨0, 0, 5, 5⟩ 16 16).bufferDamage 16 16 :=
  (exactRounding.computeDamage_fitsFrame_iff _ _ ⟨by decide, by decide⟩).mpr
    ⟨.inl (by decide +kernel), .inl (by decide +kernel)⟩

/-- Damage on the right of a frame of 100 by 100 is returned as it is. -/
theorem not_fitsFrame_outside :
    let context := context ⟨200, 0, 210, 10⟩ []
    (context.computeDamage ⟨0, 0, 0, 0⟩ 1 1).frameDamage = ⟨200, 0, 210, 10⟩ ∧
      ¬FitsFrame context (context.damages ⟨0, 0, 0, 0⟩).1
        (context.computeDamage ⟨0, 0, 0, 0⟩ 1 1).frameDamage 1 1 := by
  have returned : ((context ⟨200, 0, 210, 10⟩ []).computeDamage ⟨0, 0, 0, 0⟩ 1 1).frameDamage =
      ⟨200, 0, 210, 10⟩ := by decide +kernel
  refine ⟨returned, fun fits => ?_⟩
  have within := fits.within
  rw [returned] at within
  rcases within with empty | inside
  · exact absurd empty (by decide)
  · exact absurd inside.1.2 (by decide)

end Translations

end FlutterEngine.Flow
