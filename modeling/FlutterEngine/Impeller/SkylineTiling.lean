import Mathlib.Order.Bounds.Basic
import FlutterEngine.Impeller.RectanglePacker

/-!
# The skyline as the silhouette of what was placed

As long as no two neighbours are of one height, the segments of a skyline tile the columns of the
packer, and each is as high as the lowest bottom edge above its columns. The loop that merges
neighbours widens the first of the two and removes the first: the columns that it had are lost. A
rectangle is flush when it ends at the level of the silhouette next to it, on either side.
-/

namespace FlutterEngine.Impeller

open FlutterEngine.Std

namespace SkylineRectanglePacker

/-! ## Segments that tile the columns -/

/-- The segments take the columns from `start` on, one after the other, up to `finish`. -/
def Tiled : (start : Int) → List SkylineSegment → (finish : Int) → Prop
  | start, [], finish => start = finish
  | start, segment :: rest, finish =>
    segment.x = start ∧ 0 < segment.width ∧ Tiled segment.finish rest finish

instance : ∀ (start : Int) (skyline : List SkylineSegment) (finish : Int),
    Decidable (Tiled start skyline finish)
  | start, [], finish => inferInstanceAs (Decidable (start = finish))
  | start, segment :: rest, finish =>
    have : Decidable (Tiled segment.finish rest finish) := instDecidableTiled _ rest finish
    inferInstanceAs (Decidable (segment.x = start ∧ 0 < segment.width ∧ _))

variable {start finish between column : Int} {skyline left right rest : List SkylineSegment}
  {segment newSegment : SkylineSegment}

theorem lt_finish (wide : 0 < segment.width) : segment.x < segment.finish := by
  unfold SkylineSegment.finish
  omega

theorem Tiled.le (tiled : Tiled start skyline finish) : start ≤ finish := by
  induction skyline generalizing start with
  | nil => exact tiled.le
  | cons segment rest ih =>
    obtain ⟨rfl, wide, tiled⟩ := tiled
    exact (lt_finish wide).le.trans (ih tiled)

theorem tiled_append : Tiled start (left ++ right) finish ↔
    ∃ between, Tiled start left between ∧ Tiled between right finish := by
  induction left generalizing start with
  | nil =>
    constructor
    · exact fun tiled => ⟨start, rfl, tiled⟩
    · rintro ⟨between, rfl, tiled⟩
      exact tiled
  | cons segment left ih =>
    constructor
    · rintro ⟨begins, wide, tiled⟩
      obtain ⟨between, first, second⟩ := ih.mp tiled
      exact ⟨between, ⟨begins, wide, first⟩, second⟩
    · rintro ⟨between, ⟨begins, wide, first⟩, second⟩
      exact ⟨begins, wide, ih.mpr ⟨between, first, second⟩⟩

/-- A segment lies between the ends and is not empty. -/
theorem Tiled.within (tiled : Tiled start skyline finish) (listed : segment ∈ skyline) :
    start ≤ segment.x ∧ segment.x < segment.finish ∧ segment.finish ≤ finish := by
  induction skyline generalizing start with
  | nil => cases listed
  | cons first rest ih =>
    obtain ⟨rfl, wide, tiled⟩ := tiled
    rcases List.mem_cons.mp listed with rfl | listed
    · exact ⟨le_rfl, lt_finish wide, tiled.le⟩
    · obtain ⟨begins, filled, ends⟩ := ih tiled listed
      exact ⟨(lt_finish wide).le.trans begins, filled, ends⟩

/-- Every column has its segment. -/
theorem Tiled.covers (tiled : Tiled start skyline finish) (right : start ≤ column)
    (left : column < finish) :
    ∃ segment ∈ skyline, segment.x ≤ column ∧ column < segment.finish := by
  induction skyline generalizing start with
  | nil =>
    cases (tiled : start = finish)
    omega
  | cons segment rest ih =>
    obtain ⟨rfl, wide, tiled⟩ := tiled
    obtain inside | past := lt_or_ge column segment.finish
    · exact ⟨segment, List.mem_cons_self, right, inside⟩
    · obtain ⟨next, listed, begins, ends⟩ := ih tiled past
      exact ⟨next, List.mem_cons_of_mem _ listed, begins, ends⟩

/-- The last segment ends where the tiling does. -/
theorem Tiled.finish_getLast (tiled : Tiled start skyline finish)
    (last : segment ∈ skyline.getLast?) : segment.finish = finish := by
  induction skyline generalizing start with
  | nil => cases last
  | cons first rest ih =>
    obtain ⟨rfl, wide, tiled⟩ := tiled
    cases rest with
    | nil =>
      cases last
      exact tiled
    | cons second rest => exact ih tiled (by simpa using last)

/-! ## The segments behind a new one -/

/-- What is left behind a new segment tiles the columns from its end on. -/
theorem tiled_shrinkAfter (tiled : Tiled start skyline finish) (begins : start ≤ newSegment.finish)
    (ends : newSegment.finish ≤ finish) :
    Tiled newSegment.finish (shrinkAfter newSegment skyline) finish := by
  induction skyline generalizing start with
  | nil => exact le_antisymm ends (tiled ▸ begins)
  | cons segment rest ih =>
    obtain ⟨rfl, wide, tiled⟩ := tiled
    unfold shrinkAfter
    dsimp only
    change Tiled _ (if segment.x < newSegment.finish then _ else _) finish
    split
    · split
      · refine ih tiled ?_
        unfold SkylineSegment.finish at *
        omega
      · have same : SkylineSegment.finish { segment with
            x := segment.x + (newSegment.x + newSegment.width - segment.x)
            width := segment.width - (newSegment.x + newSegment.width - segment.x) } =
            segment.finish := by
          unfold SkylineSegment.finish
          dsimp only
          omega
        refine ⟨?_, ?_, same ▸ tiled⟩
        · unfold SkylineSegment.finish
          dsimp only
          omega
        · dsimp only
          omega
    · exact ⟨by omega, wide, tiled⟩

/-- What is left behind a new segment is a part of what was there, of the same height. -/
theorem mem_shrinkAfter (listed : segment ∈ shrinkAfter newSegment skyline) :
    ∃ old ∈ skyline, old.y = segment.y ∧ old.x ≤ segment.x ∧ segment.finish = old.finish := by
  induction skyline with
  | nil => cases listed
  | cons first rest ih =>
    unfold shrinkAfter at listed
    dsimp only at listed
    split at listed
    · split at listed
      · obtain ⟨old, member, rest⟩ := ih listed
        exact ⟨old, List.mem_cons_of_mem _ member, rest⟩
      · rcases List.mem_cons.mp listed with rfl | listed
        · refine ⟨first, List.mem_cons_self, rfl, ?_, ?_⟩
          · dsimp only
            omega
          · unfold SkylineSegment.finish
            dsimp only
            omega
        · exact ⟨segment, List.mem_cons_of_mem _ listed, rfl, le_rfl, rfl⟩
    · exact ⟨segment, listed, rfl, le_rfl, rfl⟩

/-- The heights behind a new segment are the last ones of those that were there. -/
theorem shrinkAfter_y_suffix (newSegment : SkylineSegment) (skyline : List SkylineSegment) :
    (shrinkAfter newSegment skyline).map (·.y) <:+ skyline.map (·.y) := by
  induction skyline with
  | nil => exact List.suffix_rfl
  | cons segment rest ih =>
    unfold shrinkAfter
    dsimp only
    split
    · split
      · exact ih.trans (List.suffix_cons _ _)
      · exact List.suffix_rfl
    · exact List.suffix_rfl

/-! ## Neighbours of different heights -/

/-- Neighbours differ in height. -/
def Stepped (skyline : List SkylineSegment) : Prop := (skyline.map (·.y)).IsChain (· ≠ ·)

instance (skyline : List SkylineSegment) : Decidable (Stepped skyline) :=
  inferInstanceAs (Decidable (List.IsChain _ _))

/-- Where neighbours differ, nothing is merged. -/
theorem mergeSegments_of_stepped (stepped : Stepped skyline) : mergeSegments skyline = skyline := by
  induction skyline using mergeSegments.induct with
  | case1 => rfl
  | case2 segment => rfl
  | case3 segment next rest same ih =>
    exact absurd same (List.isChain_cons_cons.mp stepped).1
  | case4 segment next rest other ih =>
    rw [mergeSegments, if_neg other, ih (List.isChain_cons_cons.mp stepped).2]

/-! ## Fitting -/

section Fitting

variable {packer : SkylineRectanglePacker} {index : Nat} {width height widthLeft y fitted : Int}

/-- A rectangle that fits is below the segments of all its columns. -/
theorem Tiled.le_fitted (tiled : Tiled start skyline finish)
    (fits : packer.fitsOver height skyline widthLeft y = some fitted)
    (listed : segment ∈ skyline) (inside : segment.x < start + widthLeft) : segment.y ≤ fitted := by
  induction skyline generalizing start widthLeft y with
  | nil => cases listed
  | cons first rest ih =>
    have begins := (tiled.within listed).1
    obtain ⟨rfl, wide, tiled⟩ := tiled
    unfold fitsOver at fits
    rw [if_pos (by omega)] at fits
    split at fits
    · cases fits
    · rcases List.mem_cons.mp listed with rfl | listed
      · exact (le_max_right _ _).trans (SkylineRectanglePacker.le_fitted fits)
      · refine ih tiled fits listed ?_
        unfold SkylineSegment.finish
        omega

/-- What keeps a rectangle from fitting is a level: the one to start with, or that of a segment of
one of its columns. -/
theorem Tiled.exists_of_not_fits (tiled : Tiled start skyline finish)
    (full : packer.fitsOver height skyline widthLeft y = none) :
    packer.height < y + height ∨ ∃ segment ∈ skyline, segment.x < start + widthLeft ∧
      packer.height < segment.y + height := by
  induction skyline generalizing start widthLeft y with
  | nil => cases full
  | cons first rest ih =>
    obtain ⟨rfl, wide, tiled⟩ := tiled
    unfold fitsOver at full
    split at full
    · have here : first.x < first.x + widthLeft := by omega
      have level : max y first.y = y ∨ max y first.y = first.y := max_choice _ _
      have high : packer.height < max y first.y + height ∨ ∃ segment ∈ rest,
          segment.x < first.x + widthLeft ∧ packer.height < segment.y + height := by
        split at full
        · rename_i high
          exact .inl high
        · rcases ih tiled full with high | ⟨segment, listed, inside, high⟩
          · exact .inl high
          · refine .inr ⟨segment, listed, ?_, high⟩
            unfold SkylineSegment.finish at inside
            omega
      rcases high with high | ⟨segment, listed, inside, high⟩
      · rcases level with same | same
        · exact .inl (same ▸ high)
        · exact .inr ⟨first, List.mem_cons_self, here, same ▸ high⟩
      · exact .inr ⟨segment, List.mem_cons_of_mem _ listed, inside, high⟩
    · cases full

/-- The segments before an index, and those from it on. -/
theorem Tiled.split (tiled : Tiled start packer.skyline finish)
    (found : packer.skyline[index]? = some segment) :
    Tiled start (packer.skyline.take index) segment.x ∧
      Tiled segment.x (packer.skyline.drop index) finish := by
  rw [← List.take_append_drop index packer.skyline, tiled_append] at tiled
  obtain ⟨between, before, after⟩ := tiled
  rw [drop_eq found] at after ⊢
  obtain ⟨rfl, wide, after⟩ := after
  exact ⟨before, rfl, wide, after⟩

/-- Where a rectangle fits. -/
structure Fits (packer : SkylineRectanglePacker) (index : Nat) (segment : SkylineSegment)
    (width y : Int) : Prop where
  found : packer.skyline[index]? = some segment
  room : segment.x + width ≤ packer.width
  low : segment.y ≤ y
  below : ∀ other ∈ packer.skyline.drop index, other.x < segment.x + width → other.y ≤ y

theorem fits_of_rectangleFits (tiled : Tiled start packer.skyline finish)
    (found : packer.skyline[index]? = some segment)
    (fits : packer.rectangleFits index width height = some y) :
    packer.Fits index segment width y := by
  unfold rectangleFits at fits
  rw [found, Option.bind_eq_bind, Option.bind_some] at fits
  split at fits
  · cases fits
  · rename_i room
    exact ⟨found, not_lt.mp room, SkylineRectanglePacker.le_fitted fits, fun other listed inside =>
      (tiled.split found).2.le_fitted fits listed inside⟩

/-- Where there is room at the side, a segment of one of the columns is too high. -/
theorem exists_of_not_rectangleFits (tiled : Tiled start packer.skyline finish)
    (found : packer.skyline[index]? = some segment) (wide : 0 < width)
    (room : segment.x + width ≤ packer.width)
    (full : packer.rectangleFits index width height = none) :
    ∃ other ∈ packer.skyline, segment.x ≤ other.x ∧ other.x < segment.x + width ∧
      packer.height < other.y + height := by
  unfold rectangleFits at full
  rw [found, Option.bind_eq_bind, Option.bind_some, if_neg (not_lt.mpr room)] at full
  have after := (tiled.split found).2
  rcases after.exists_of_not_fits full with high | ⟨other, listed, inside, high⟩
  · refine ⟨segment, List.mem_of_getElem? found, le_rfl, ?_, high⟩
    omega
  · exact ⟨other, List.mem_of_mem_drop listed, (after.within listed).1, inside, high⟩

theorem not_fits_of_foldl (wide : 0 < width) (high : 0 < height) (indices : List Nat)
    {best : BestPosition} (fresh : best.index = -1 → best.y = packer.height + 1)
    (missing : (indices.foldl (packer.consider width height) best).index = -1) :
    best.index = -1 ∧ ∀ index ∈ indices, ∀ segment, packer.skyline[index]? = some segment →
      packer.rectangleFits index width height = none := by
  induction indices generalizing best with
  | nil => exact ⟨missing, by simp⟩
  | cons index indices ih =>
    rw [List.foldl_cons] at missing
    unfold consider at missing
    split at missing
    · rename_i segment y found fits
      split at missing
      · obtain ⟨never, -⟩ := ih (fun never => absurd never (by dsimp only; omega)) missing
        exact absurd never (by dsimp only; omega)
      · rename_i worse
        obtain ⟨none, -⟩ := ih fresh missing
        have low := rectangleFits_le found fits wide
        exact absurd (.inl (by have := fresh none; omega)) worse
    · rename_i unfit
      obtain ⟨none, others⟩ := ih fresh missing
      refine ⟨none, fun other listed segment found => ?_⟩
      rcases List.mem_cons.mp listed with rfl | listed
      · exact Option.eq_none_iff_forall_ne_some.mpr fun y fits => unfit segment y found fits
      · exact others other listed segment found

/-- If there is no best position, then the rectangle fits nowhere. -/
theorem not_fits_of_bestPosition (wide : 0 < width) (high : 0 < height)
    (missing : (packer.bestPosition width height).index = -1)
    (found : packer.skyline[index]? = some segment) :
    packer.rectangleFits index width height = none := by
  have inside := (List.getElem?_eq_some_iff.mp found).1
  exact (not_fits_of_foldl wide high _ (fun _ => rfl) missing).2 index (List.mem_range.mpr inside)
    segment found

end Fitting

/-! ## Flush rectangles -/

/-- The rectangle is put where its bottom edge is level with the segment that ends where it begins,
or with the one of the column behind it. -/
def Flush (packer : SkylineRectanglePacker) (width height : Int) : Prop :=
  let best := packer.bestPosition width height
  best.index ≠ -1 ∧ ∃ segment ∈ packer.skyline, segment.y = best.y + height ∧
    (segment.finish = best.x ∨
      segment.x ≤ best.x + width ∧ best.x + width < segment.finish)

instance (packer : SkylineRectanglePacker) (width height : Int) :
    Decidable (packer.Flush width height) :=
  inferInstanceAs (Decidable (_ ∧ _))

section Levels

variable {packer : SkylineRectanglePacker} {index : Nat} {width height y : Int}

/-- The skyline with a new segment, before anything is merged. -/
def withSegment (packer : SkylineRectanglePacker) (index : Nat) (newSegment : SkylineSegment) :
    List SkylineSegment :=
  packer.skyline.take index ++ newSegment :: shrinkAfter newSegment (packer.skyline.drop index)

theorem Fits.tiled (fits : packer.Fits index segment width y) (wide : 0 < width)
    (tiled : Tiled 0 packer.skyline packer.width) (bottom : Int) :
    Tiled 0 (packer.withSegment index ⟨segment.x, bottom, width⟩) packer.width := by
  obtain ⟨before, after⟩ := tiled.split fits.found
  refine tiled_append.mpr ⟨segment.x, before, rfl, wide, tiled_shrinkAfter after ?_ fits.room⟩
  exact (@lt_finish ⟨segment.x, bottom, width⟩ wide).le

/-- A rectangle that is not flush leaves no neighbours of one height. -/
theorem Fits.stepped (fits : packer.Fits index segment width y) (wide : 0 < width)
    (tiled : Tiled 0 packer.skyline packer.width) (stepped : Stepped packer.skyline) {bottom : Int}
    (free : ∀ other ∈ packer.skyline, other.y = bottom → other.finish ≠ segment.x ∧
      ¬(other.x ≤ segment.x + width ∧ segment.x + width < other.finish)) :
    Stepped (packer.withSegment index ⟨segment.x, bottom, width⟩) := by
  obtain ⟨before, after⟩ := tiled.split fits.found
  have suffix := shrinkAfter_y_suffix ⟨segment.x, bottom, width⟩ (packer.skyline.drop index)
  have parts : (packer.skyline.take index ++ packer.skyline.drop index).map (·.y) =
      (packer.skyline.take index).map (·.y) ++ (packer.skyline.drop index).map (·.y) :=
    List.map_append
  rw [Stepped, ← List.take_append_drop index packer.skyline, parts, List.isChain_append] at stepped
  rw [Stepped, withSegment, List.map_append, List.map_cons, List.isChain_append]
  refine ⟨stepped.1, ?_, ?_⟩
  · rw [List.isChain_cons]
    refine ⟨fun level next same => ?_, stepped.2.1.suffix suffix⟩
    obtain ⟨head, first, rfl⟩ := Option.map_eq_some_iff.mp (List.head?_map ▸ next)
    obtain ⟨old, listed, height, begins, ends⟩ := mem_shrinkAfter (List.mem_of_head? first)
    have tiles : Tiled (segment.x + width) _ packer.width :=
      @tiled_shrinkAfter _ _ _ ⟨segment.x, bottom, width⟩ after
        (@lt_finish ⟨segment.x, bottom, width⟩ wide).le fits.room
    obtain ⟨rest, behind⟩ := List.head?_eq_some_iff.mp first
    rw [behind] at tiles
    obtain ⟨x, filled, -⟩ := tiles
    refine (free old (List.mem_of_mem_drop listed) (height.trans same.symm)).2 ⟨x ▸ begins, ?_⟩
    rw [← ends, ← x]
    exact lt_finish filled
  · intro level previous bottom' first same
    obtain ⟨last, listed, rfl⟩ := Option.map_eq_some_iff.mp (List.getLast?_map ▸ previous)
    cases first
    exact (free last (List.mem_of_mem_take (List.mem_of_getLast? listed)) same).1
      (before.finish_getLast listed)

end Levels

end SkylineRectanglePacker

/-! ## Runs -/

/-- A rectangle where the packer put it. -/
structure Placement where
  x : Int
  y : Int
  width : Int
  height : Int
deriving DecidableEq, Repr

namespace Placement

def Spans (rect : Placement) (column : Int) : Prop := rect.x ≤ column ∧ column < rect.x + rect.width

def bottom (rect : Placement) : Int := rect.y + rect.height

end Placement

/-- A packer and the rectangles placed since its last reset, the last one first. -/
structure Packing where
  packer : SkylineRectanglePacker
  placed : List Placement := []
deriving DecidableEq, Repr

namespace Packing

open SkylineRectanglePacker

variable (packing : Packing)

def call : PackerCall → Packing
  | .addRect width height loc =>
    let best := packing.packer.bestPosition width height
    let (added, _, packer) := packing.packer.addRect width height loc
    ⟨packer, if added then ⟨best.x, best.y, width, height⟩ :: packing.placed
      else packing.placed⟩
  | .reset => ⟨packing.packer.reset, []⟩

/-- The sizes of rectangles are positive, and of 32 bits. -/
def Called (_ : Packing) : PackerCall → Prop
  | .addRect width height _ => (0 < width ∧ width < 2 ^ 31) ∧ 0 < height ∧ height < 2 ^ 31
  | .reset => True

/-- No rectangle is put flush with the silhouette next to it. -/
def Unflush : PackerCall → Prop
  | .addRect width height _ => ¬packing.packer.Flush width height
  | .reset => True

/-- A packer of some width. -/
def machine : Machine Packing PackerCall where
  Initial packing := ∃ width height, (0 < width ∧ width < 2 ^ 31) ∧
    (-2 ^ 31 ≤ height ∧ height < 2 ^ 31) ∧ packing = { packer := .create width height }
  step packing op := some (packing.call op)

/-- The lowest bottom edge above a column, or the top if there is none. -/
def Silhouette (placed : List Placement) (column level : Int) : Prop :=
  IsGreatest (insert 0 {bottom | ∃ rect ∈ placed, rect.Spans column ∧ rect.bottom = bottom}) level

/-- The skyline is the silhouette of what was placed. -/
structure Outlined (packing : Packing) : Prop where
  tiled : Tiled 0 packing.packer.skyline packing.packer.width
  stepped : Stepped packing.packer.skyline
  level : ∀ segment ∈ packing.packer.skyline, ∀ column, segment.x ≤ column →
    column < segment.finish → Silhouette packing.placed column segment.y

/-- A rectangle that is refused does not fit below the silhouette, wherever a segment starts. -/
def RefusesForRoom (packing : Packing) : Prop :=
  ∀ width height loc, packing.Called (.addRect width height loc) →
    (packing.packer.addRect width height loc).1 = false →
      ∀ segment ∈ packing.packer.skyline, segment.x + width ≤ packing.packer.width →
        ∃ column level, (segment.x ≤ column ∧ column < segment.x + width) ∧
          Silhouette packing.placed column level ∧ packing.packer.height < level + height

variable {packing} {segment : SkylineSegment} {index : Nat} {width height y column level : Int}

variable {placed : List Placement}

theorem Silhouette.nonneg (silhouette : Silhouette placed column level) :
    0 ≤ level := silhouette.2 (Set.mem_insert _ _)

/-- Off the columns of a rectangle nothing changes. -/
theorem silhouette_cons_of_not_spans {rect : Placement} (off : ¬rect.Spans column)
    (silhouette : Silhouette placed column level) : Silhouette (rect :: placed) column level := by
  have same : {bottom | ∃ other ∈ rect :: placed, other.Spans column ∧ other.bottom = bottom} =
      {bottom | ∃ other ∈ placed, other.Spans column ∧ other.bottom = bottom} := by
    ext bottom
    constructor
    · rintro ⟨other, listed, spans, ends⟩
      rcases List.mem_cons.mp listed with rfl | listed
      · exact absurd spans off
      · exact ⟨other, listed, spans, ends⟩
    · rintro ⟨other, listed, spans, ends⟩
      exact ⟨other, List.mem_cons_of_mem _ listed, spans, ends⟩
  unfold Silhouette
  rw [same]
  exact silhouette

/-- A rectangle below the silhouette of its columns is the new silhouette. -/
theorem silhouette_cons_of_spans {rect : Placement} (on : rect.Spans column)
    (below : level ≤ rect.bottom) (silhouette : Silhouette placed column level) :
    Silhouette (rect :: placed) column rect.bottom := by
  constructor
  · exact .inr ⟨rect, List.mem_cons_self, on, rfl⟩
  · rintro bottom (rfl | ⟨other, listed, spans, rfl⟩)
    · exact silhouette.nonneg.trans below
    · rcases List.mem_cons.mp listed with rfl | listed
      · exact le_rfl
      · exact (silhouette.2 (.inr ⟨other, listed, spans, rfl⟩)).trans below

theorem Outlined.reset (packer : SkylineRectanglePacker) (wide : 0 < packer.width) :
    Outlined ⟨packer.reset, []⟩ := by
  refine ⟨⟨rfl, wide, Int.zero_add _⟩, List.isChain_singleton _, ?_⟩
  intro segment listed column _ _
  rw [List.mem_singleton.mp listed]
  refine ⟨Set.mem_insert _ _, ?_⟩
  rintro bottom (rfl | ⟨_, none, -⟩)
  · exact le_rfl
  · cases none

/-- A rectangle placed where it fits, and not flush. -/
theorem Outlined.place (outlined : Outlined packing)
    (fits : packing.packer.Fits index segment width y) (wide : 0 < width) (high : 0 < height)
    (free : ∀ other ∈ packing.packer.skyline, other.y = y + height → other.finish ≠ segment.x ∧
      ¬(other.x ≤ segment.x + width ∧ segment.x + width < other.finish)) (area : Int) :
    Outlined ⟨{ packing.packer.addSkylineLevel index segment.x y width height with
      areaSoFar := area }, ⟨segment.x, y, width, height⟩ :: packing.placed⟩ := by
  have tiled := fits.tiled wide outlined.tiled (y + height)
  have stepped := fits.stepped wide outlined.tiled outlined.stepped free
  have skyline : (packing.packer.addSkylineLevel index segment.x y width height).skyline =
      packing.packer.withSegment index ⟨segment.x, y + height, width⟩ :=
    mergeSegments_of_stepped stepped
  obtain ⟨before, after⟩ := outlined.tiled.split fits.found
  refine ⟨skyline ▸ tiled, skyline ▸ stepped, ?_⟩
  intro other listed column right left
  dsimp only at listed
  rw [skyline, withSegment, List.mem_append, List.mem_cons] at listed
  rcases listed with listed | rfl | listed
  · refine silhouette_cons_of_not_spans (fun spans => ?_)
      (outlined.level other (List.mem_of_mem_take listed) column right left)
    have ends := (before.within listed).2.2
    exact absurd spans.1 (by dsimp only; omega)
  · obtain ⟨old, was, begins, ends⟩ := after.covers right
      (left.trans_le (fits.room : segment.x + width ≤ _))
    refine silhouette_cons_of_spans ⟨right, left⟩ ?_
      (outlined.level old (List.mem_of_mem_drop was) column begins ends)
    have below := fits.below old was (begins.trans_lt left)
    unfold Placement.bottom
    dsimp only
    omega
  · obtain ⟨old, was, height', begins, ends⟩ := mem_shrinkAfter listed
    rw [← height']
    refine silhouette_cons_of_not_spans (fun spans => ?_)
      (outlined.level old (List.mem_of_mem_drop was) column (begins.trans right) (ends ▸ left))
    have behind := (@tiled_shrinkAfter _ _ _ ⟨segment.x, y + height, width⟩ after
      (@lt_finish ⟨segment.x, y + height, width⟩ wide).le fits.room).within listed
    have past : segment.x + width ≤ other.x := behind.1
    exact absurd spans.2 (by dsimp only; omega)

theorem Outlined.addRect (outlined : Outlined packing) (loc : IPoint16) (wide : 0 < width)
    (high : 0 < height) (unflush : ¬packing.packer.Flush width height) :
    Outlined (packing.call (.addRect width height loc)) := by
  unfold Packing.call SkylineRectanglePacker.addRect
  dsimp only
  split
  · exact outlined
  · split
    · rename_i best
      obtain none | ⟨index, segment, at', found, x, room⟩ :=
        packing.packer.bestPosition_fits width height
      · exact absurd none best
      · have fits := fits_of_rectangleFits outlined.tiled found room
        dsimp only
        rw [at', Int.toNat_natCast, x]
        refine outlined.place fits wide high (fun other listed level => ⟨fun ends => ?_, ?_⟩) _
        · exact unflush ⟨best, other, listed, level, .inl (x ▸ ends)⟩
        · exact fun past => unflush ⟨best, other, listed, level, .inr (x ▸ past)⟩
    · exact outlined

/-- The size of a packer is of 32 bits, and its width is positive. -/
structure Sized (packing : Packing) : Prop where
  wide : 0 < packing.packer.width ∧ packing.packer.width < 2 ^ 31
  high : -2 ^ 31 ≤ packing.packer.height ∧ packing.packer.height < 2 ^ 31

theorem Sized.call (sized : Sized packing) (call : PackerCall) : Sized (packing.call call) := by
  cases call with
  | reset => exact ⟨sized.wide, sized.high⟩
  | addRect width height loc =>
    unfold Packing.call SkylineRectanglePacker.addRect
    dsimp only
    split
    · exact sized
    · split
      · exact ⟨sized.wide, sized.high⟩
      · exact sized

/-- Where a skyline is the silhouette, what does not fit below it is refused and nothing else. -/
theorem Outlined.refusesForRoom (outlined : Outlined packing) (sized : Sized packing) :
    RefusesForRoom packing := by
  rintro width height loc ⟨⟨wide, narrow⟩, high, low⟩ refused segment listed room
  obtain ⟨begins, filled, -⟩ := outlined.tiled.within listed
  obtain ⟨packerWidth, packerHeight⟩ := sized
  unfold SkylineRectanglePacker.addRect at refused
  split at refused
  · rename_i larger
    have silhouette := outlined.level segment listed segment.x le_rfl filled
    have level := silhouette.nonneg
    refine ⟨segment.x, segment.y, ⟨le_rfl, by omega⟩, silhouette, ?_⟩
    unfold unsigned at larger
    omega
  · dsimp only at refused
    split at refused
    · cases refused
    · rename_i missing
      obtain ⟨index, inside, found⟩ := List.mem_iff_getElem.mp listed
      have at' : packing.packer.skyline[index]? = some segment :=
        List.getElem?_eq_some_iff.mpr ⟨inside, found⟩
      have full := not_fits_of_bestPosition wide high (not_not.mp missing) at'
      obtain ⟨other, member, right, left, above⟩ :=
        exists_of_not_rectangleFits outlined.tiled at' wide room full
      exact ⟨other.x, other.y, ⟨right, left⟩, outlined.level other member other.x le_rfl
        (outlined.tiled.within member).2.1, above⟩

/-- In every state reached by calls of positive sizes that put no rectangle flush with the
silhouette next to it, the segments tile the columns, differ from their neighbours in height and
are as high as the silhouette, and a rectangle is refused only where it does not fit below that. -/
theorem reachable_outlined
    (reached : machine.Reachable (fun packing call => packing.Called call ∧ packing.Unflush call)
      packing) :
    Outlined packing ∧ RefusesForRoom packing := by
  have both : Outlined packing ∧ Sized packing := by
    refine reached.invariant (fun packing => Outlined packing ∧ Sized packing) ?_ ?_
    · rintro _ ⟨width, height, wide, high, rfl⟩
      exact ⟨.reset ⟨width, height, [], 0⟩ wide.1, wide, high⟩
    · rintro packing call _ ⟨outlined, sized⟩ ⟨called, unflush⟩ ⟨⟩
      refine ⟨?_, sized.call call⟩
      cases call with
      | addRect width height loc => exact outlined.addRect loc called.1.1 called.2.1 unflush
      | reset => exact .reset packing.packer sized.wide.1
  exact ⟨both.1, both.1.refusesForRoom both.2⟩

section Samples

instance (packing : Packing) (call : PackerCall) : Decidable (packing.Called call) :=
  match call with
  | .addRect .. => inferInstanceAs (Decidable ((_ ∧ _) ∧ _ ∧ _))
  | .reset => inferInstanceAs (Decidable True)

instance (packing : Packing) (call : PackerCall) : Decidable (packing.Unflush call) :=
  match call with
  | .addRect .. => inferInstanceAs (Decidable ¬_)
  | .reset => inferInstanceAs (Decidable True)

/-- A rectangle beside a higher one. -/
theorem reachable_outlined_steps :
    ∃ packing : Packing, packing.packer.skyline = [⟨0, 2, 2⟩, ⟨2, 1, 1⟩, ⟨3, 0, 1⟩] ∧
      packing.placed.length = 2 ∧ Outlined packing ∧ RefusesForRoom packing := by
  have start : machine.Reachable (fun packing call => packing.Called call ∧ packing.Unflush call)
      { packer := .create 4 4 } := .initial ⟨4, 4, by decide, by decide, rfl⟩
  obtain ⟨packing, reached, shape⟩ := start.exists_of_run
    [.addRect 2 2 ⟨0, 0⟩, .addRect 1 1 ⟨0, 0⟩]
    (fun packing => packing.packer.skyline = [⟨0, 2, 2⟩, ⟨2, 1, 1⟩, ⟨3, 0, 1⟩] ∧
      packing.placed.length = 2)
    (by decide) (by decide)
  obtain ⟨skyline, count⟩ := of_decide_eq_true shape
  exact ⟨packing, skyline, count, reachable_outlined reached⟩

/-- Two rectangles of one size, next to each other: the first column is lost. -/
theorem equal_rects_not_outlined :
    ∃ packing : Packing, machine.Reachable Called packing ∧
      packing.placed = [⟨1, 0, 1, 1⟩, ⟨0, 0, 1, 1⟩] ∧
      packing.packer.skyline = [⟨1, 1, 1⟩, ⟨2, 0, 2⟩] ∧ ¬Outlined packing := by
  refine ⟨_, .step (.addRect 1 1 ⟨0, 0⟩) (.step (.addRect 1 1 ⟨0, 0⟩)
    (.initial ⟨4, 4, by decide, by decide, rfl⟩) (by decide) rfl) (by decide) rfl,
    by decide, by decide, fun outlined => ?_⟩
  exact absurd outlined.tiled (by decide)

end Samples

end Packing

end FlutterEngine.Impeller
