import Mathlib.Data.Int.ConditionallyCompleteOrder
import FlutterEngine.DisplayList.CullRect
import FlutterEngine.Flow.DiffContext
import FlutterEngine.Std.Spreading

/-!
# Damage and readbacks

`ComputeDamage` goes over the readbacks once while the frame damage grows, so a readback it
has passed may come to intersect the damage. The frame damage is closed under readbacks
exactly when the order of the list loses nothing: no order of the readbacks lets the damage
spread further.
-/

namespace FlutterEngine.Flow

open FlutterEngine.Std DisplayList

variable {Scalar RRect Path : Type} [LinearOrder Scalar]

/-- The rectangle over whole numbers. -/
def wholeRect (rect : SkIRect) : SkRect Int := ⟨rect.fLeft, rect.fTop, rect.fRight, rect.fBottom⟩

/-- Whole numbers are converted exactly, and edges are rounded to the next ones. -/
structure ExactRounding (sk : DiffGeometry Scalar RRect Path) where
  scalar : Int → Scalar
  floor : Scalar → Int
  ceil : Scalar → Int
  strictMono : StrictMono scalar
  floor_gc : GaloisConnection scalar floor
  ceil_gc : GaloisConnection ceil scalar
  emptyRect_eq : sk.emptyRect = SkRect.map scalar ⟨0, 0, 0, 0⟩
  ofIRect_eq : ∀ rect, sk.ofIRect rect = (wholeRect rect).map scalar
  roundOutIRect_eq : ∀ rect, sk.roundOutIRect rect =
    ⟨floor rect.fLeft, floor rect.fTop, ceil rect.fRight, ceil rect.fBottom⟩

namespace Readback

variable (readback : Readback) (damage : SkIRect)

/-- The paint rectangle or the readback rectangle intersects the damage. -/
def Meets : Prop :=
  (wholeRect readback.paintRect).intersects (wholeRect damage) = true ∨
    (wholeRect readback.readbackRect).intersects (wholeRect damage) = true

/-- The damage contains both rectangles. -/
def Within : Prop :=
  wholeRect readback.paintRect ≤ wholeRect damage ∧
    wholeRect readback.readbackRect ≤ wholeRect damage

end Readback

/-- Every readback that intersects the frame damage is contained in both damages. -/
def Damage.ClosedUnder (damage : Damage) (readbacks : List Readback) : Prop :=
  ∀ readback ∈ readbacks, readback.Meets damage.frameDamage →
    readback.Within damage.frameDamage ∧ readback.Within damage.bufferDamage

namespace ExactRounding

variable {sk : DiffGeometry Scalar RRect Path} (exact : ExactRounding sk)

/-- A rectangle rounded out; an empty one stays as it is. -/
def outline (sk : DiffGeometry Scalar RRect Path) (rect : SkRect Scalar) : SkRect Scalar :=
  if rect.isEmpty then rect else sk.ofIRect (sk.roundOutIRect rect)

include exact

theorem ofIRect_roundOutIRect (rect : SkRect Scalar) :
    sk.ofIRect (sk.roundOutIRect rect) =
      ⟨exact.scalar (exact.floor rect.fLeft), exact.scalar (exact.floor rect.fTop),
        exact.scalar (exact.ceil rect.fRight), exact.scalar (exact.ceil rect.fBottom)⟩ := by
  rw [exact.ofIRect_eq, exact.roundOutIRect_eq]
  rfl

/-- What joins make is rounded out to its outline. -/
theorem outline_of_joined {rect : SkRect Scalar} (joined : rect.isEmpty = true → rect = sk.emptyRect) :
    sk.ofIRect (sk.roundOutIRect rect) = outline sk rect := by
  unfold outline
  split
  · next empty =>
      rw [joined empty, exact.ofIRect_roundOutIRect, exact.emptyRect_eq]
      have zero : exact.scalar (exact.floor (exact.scalar 0)) = exact.scalar 0 :=
        exact.floor_gc.l_u_l_eq_l 0
      have zero' : exact.scalar (exact.ceil (exact.scalar 0)) = exact.scalar 0 :=
        exact.ceil_gc.u_l_u_eq_u 0
      simp only [SkRect.map, zero, zero']
  · rfl

theorem le_outline (rect : SkRect Scalar) : rect ≤ outline sk rect := by
  unfold outline
  split
  · exact le_rfl
  · next filled =>
      rw [SkRect.le_iff_edges (Bool.eq_false_iff.mpr filled), exact.ofIRect_roundOutIRect]
      exact ⟨⟨exact.floor_gc.l_u_le _, exact.ceil_gc.le_u_l _⟩, exact.floor_gc.l_u_le _,
        exact.ceil_gc.le_u_l _⟩

theorem outline_mono {small large : SkRect Scalar} (within : small ≤ large) :
    outline sk small ≤ outline sk large := by
  cases empty : small.isEmpty with
  | true =>
    have same : outline sk small = small := if_pos empty
    rw [same]
    exact SkRect.le_of_isEmpty empty _
  | false =>
    obtain ⟨⟨left, right⟩, top, bottom⟩ := (SkRect.le_iff_edges empty).mp within
    have largeFilled : large.isEmpty = false := SkRect.isEmpty_of_le within empty
    have filled := SkRect.isEmpty_of_le (exact.le_outline small) empty
    rw [SkRect.le_iff_edges filled, outline, outline, empty, largeFilled,
      if_neg Bool.false_ne_true, if_neg Bool.false_ne_true, exact.ofIRect_roundOutIRect,
      exact.ofIRect_roundOutIRect]
    have mono := exact.strictMono.monotone
    exact ⟨⟨mono (exact.floor_gc.monotone_u left), mono (exact.ceil_gc.monotone_l right)⟩,
      mono (exact.floor_gc.monotone_u top), mono (exact.ceil_gc.monotone_l bottom)⟩

theorem roundOut_mono {small large : SkRect Scalar}
    (joined : small.isEmpty = true → small = sk.emptyRect) (within : small ≤ large) :
    sk.ofIRect (sk.roundOutIRect small) ≤ sk.ofIRect (sk.roundOutIRect large) := by
  have outlined := exact.outline_mono within
  rw [exact.outline_of_joined joined]
  cases empty : small.isEmpty with
  | true =>
    have same : outline sk small = small := if_pos empty
    rw [same]
    exact SkRect.le_of_isEmpty empty _
  | false =>
    have filled : large.isEmpty = false := SkRect.isEmpty_of_le within empty
    have same : outline sk large = sk.ofIRect (sk.roundOutIRect large) :=
      if_neg (filled ▸ Bool.false_ne_true)
    exact same ▸ outlined

/-- A span of whole numbers that meets a rounded one meets it as it was. -/
theorem span_of_outline {left right : Int} {near far : Scalar} (filled : near < far)
    (meets : max (exact.scalar left) (exact.scalar (exact.floor near)) <
      min (exact.scalar right) (exact.scalar (exact.ceil far))) :
    max (exact.scalar left) near < min (exact.scalar right) far := by
  obtain ⟨fromLeft, fromNear⟩ := max_lt_iff.mp meets
  obtain ⟨own, before⟩ := lt_min_iff.mp fromLeft
  have past : exact.floor near < right := exact.strictMono.lt_iff_lt.mp (lt_min_iff.mp fromNear).1
  have ahead : left < exact.ceil far := exact.strictMono.lt_iff_lt.mp before
  have nearRight : near < exact.scalar right := not_le.mp fun le =>
    absurd ((exact.floor_gc right near).mp le) (not_le.mpr past)
  have leftFar : exact.scalar left < far := not_le.mp fun le =>
    absurd ((exact.ceil_gc far left).mpr le) (not_le.mpr ahead)
  exact max_lt (lt_min own leftFar) (lt_min nearRight filled)

theorem intersects_of_outline {rect : SkIRect} {region : SkRect Scalar}
    (meets : (sk.ofIRect rect).intersects (outline sk region) = true) :
    (sk.ofIRect rect).intersects region = true := by
  cases empty : region.isEmpty with
  | true => rwa [outline, if_pos empty] at meets
  | false =>
    obtain ⟨across, down⟩ := SkRect.isEmpty_eq_false.mp empty
    rw [outline, empty, if_neg Bool.false_ne_true, exact.ofIRect_roundOutIRect,
      exact.ofIRect_eq, SkRect.intersects_iff_edges] at meets
    rw [exact.ofIRect_eq, SkRect.intersects_iff_edges]
    exact ⟨exact.span_of_outline across meets.1, exact.span_of_outline down meets.2⟩

/-- Rounded rectangles are contained in each other as their outlines are. -/
theorem wholeRect_le (rect other : SkIRect) :
    wholeRect rect ≤ wholeRect other ↔ sk.ofIRect rect ≤ sk.ofIRect other := by
  rw [exact.ofIRect_eq, exact.ofIRect_eq, SkRect.map_le_map exact.strictMono]

theorem wholeRect_intersects (rect other : SkIRect) :
    (wholeRect rect).intersects (wholeRect other) =
      (sk.ofIRect rect).intersects (sk.ofIRect other) := by
  rw [exact.ofIRect_eq, exact.ofIRect_eq, SkRect.intersects_map exact.strictMono]

/-! ## Readbacks as items that the damage spreads over -/

/-- A readback meets the damage by one of its rectangles and is taken in with both. -/
def spreading : Spreading (SkRect Scalar) Readback where
  meets readback damage := (sk.ofIRect readback.paintRect).intersects damage = true ∨
    (sk.ofIRect readback.readbackRect).intersects damage = true
  covered readback damage := sk.ofIRect readback.paintRect ≤ damage ∧
    sk.ofIRect readback.readbackRect ≤ damage
  takeIn damage readback :=
    (damage.join (sk.ofIRect readback.readbackRect)).join (sk.ofIRect readback.paintRect)
  outline := outline sk
  meets_mono within meets := meets.imp (SkRect.intersects_mono within) (SkRect.intersects_mono within)
  covered_mono within covered := ⟨covered.1.trans within, covered.2.trans within⟩
  le_takeIn damage _ := (SkRect.le_join_left damage _).trans (SkRect.le_join_left _ _)
  covered_takeIn damage _ :=
    ⟨SkRect.le_join_right _ _, (SkRect.le_join_right damage _).trans (SkRect.le_join_left _ _)⟩
  takeIn_le within covered := SkRect.join_le (SkRect.join_le within covered.2) covered.1
  le_outline := exact.le_outline
  outline_mono := exact.outline_mono
  meets_outline meets := meets.imp exact.intersects_of_outline exact.intersects_of_outline

instance (readback : Readback) (damage : SkRect Scalar) :
    Decidable (exact.spreading.meets readback damage) :=
  inferInstanceAs (Decidable (_ ∨ _))

variable {exact}

omit exact in
theorem readbackDamage_cons (frameDamage bufferDamage : SkRect Scalar) (readback : Readback)
    (readbacks : List Readback) :
    DiffContext.readbackDamage sk frameDamage bufferDamage (readback :: readbacks) =
      if (sk.ofIRect readback.paintRect).intersects frameDamage ||
          (sk.ofIRect readback.readbackRect).intersects frameDamage then
        DiffContext.readbackDamage sk
          ((frameDamage.join (sk.ofIRect readback.readbackRect)).join (sk.ofIRect readback.paintRect))
          ((bufferDamage.join (sk.ofIRect readback.readbackRect)).join
            (sk.ofIRect readback.paintRect)) readbacks
      else DiffContext.readbackDamage sk frameDamage bufferDamage readbacks := rfl

variable (exact) in
/-- The loop is a scan. -/
theorem readbackDamage_eq_scan (frameDamage bufferDamage : SkRect Scalar)
    (readbacks : List Readback) :
    (DiffContext.readbackDamage sk frameDamage bufferDamage readbacks).1 =
      exact.spreading.scan frameDamage readbacks := by
  induction readbacks generalizing frameDamage bufferDamage with
  | nil => rfl
  | cons readback readbacks ih =>
    rw [Spreading.scan_cons, readbackDamage_cons]
    by_cases meets : exact.spreading.meets readback frameDamage
    · rw [if_pos meets, if_pos (Bool.or_eq_true _ _ ▸ meets)]
      exact ih _ _
    · rw [if_neg meets, if_neg (Bool.or_eq_true _ _ ▸ meets)]
      exact ih _ _

omit exact in
/-- The buffer damage stays around the frame damage, and the frame damage what joins make. -/
theorem readbackDamage_spec {frameDamage bufferDamage : SkRect Scalar}
    (around : frameDamage ≤ bufferDamage)
    (joined : frameDamage.isEmpty = true → frameDamage = sk.emptyRect) (readbacks : List Readback) :
    (DiffContext.readbackDamage sk frameDamage bufferDamage readbacks).1 ≤
        (DiffContext.readbackDamage sk frameDamage bufferDamage readbacks).2 ∧
      ((DiffContext.readbackDamage sk frameDamage bufferDamage readbacks).1.isEmpty = true →
        (DiffContext.readbackDamage sk frameDamage bufferDamage readbacks).1 = sk.emptyRect) := by
  induction readbacks generalizing frameDamage bufferDamage with
  | nil => exact ⟨around, joined⟩
  | cons readback readbacks ih =>
    rw [readbackDamage_cons]
    split
    · exact ih (SkRect.join_mono_left (SkRect.join_mono_left around _) _)
        (((JoinedRect.mk frameDamage joined).join _).join _).joined
    · exact ih around joined

/-! ## The damage of a context -/

/-- No order of the readbacks lets the damage spread further, once rounded out, than the
order in which they were added. -/
def SpreadsInOrder (context : DiffContext sk) : Prop :=
  exact.spreading.Orderly context.damage.rect context.readbacks

end ExactRounding

/-! ## Readbacks on exact coordinates -/

namespace Translations

/-- The geometry of translations, rounded out to whole numbers. -/
def diffGeometry : DiffGeometry Rat (SkRect Rat) (SkRect Rat) where
  toSkGeometry := DisplayList.Translations.geometry
  translate tx ty := (tx, ty)
  roundOutIRect rect := ⟨⌊rect.fLeft⌋, ⌊rect.fTop⌋, ⌈rect.fRight⌉, ⌈rect.fBottom⌉⟩
  integralTransCTM33 _ := none
  integralTransCTM44 _ := none

def exactRounding : ExactRounding diffGeometry where
  scalar whole := whole
  floor edge := ⌊edge⌋
  ceil edge := ⌈edge⌉
  strictMono := Int.cast_strictMono
  floor_gc := Int.gc_coe_floor
  ceil_gc := Int.gc_ceil_coe
  emptyRect_eq := rfl
  ofIRect_eq _ := rfl
  roundOutIRect_eq _ := rfl

/-- A frame with this damage and these readbacks, which read what they paint over. -/
def context (damage : SkRect Rat) (readbacks : List SkIRect) : DiffContext diffGeometry :=
  let created : DiffContext diffGeometry :=
    DiffContext.create ⟨-1000000000, -1000000000, 1000000000, 1000000000⟩ ⟨100, 100⟩ (fun _ => none)
      false []
  readbacks.foldl (fun context rect => context.addReadbackRegion rect rect)
    (created.addDamageRect damage)

/-- The damage reaches the second readback, whose rectangle reaches the first. -/
def overtaken : DiffContext diffGeometry :=
  context ⟨0, 0, 10, 10⟩ [⟨20, 0, 30, 10⟩, ⟨5, 0, 25, 10⟩]

/-- The other order of the same readbacks. -/
def followed : DiffContext diffGeometry :=
  context ⟨0, 0, 10, 10⟩ [⟨5, 0, 25, 10⟩, ⟨20, 0, 30, 10⟩]

end Translations

end FlutterEngine.Flow
