import Mathlib.Data.Finset.Prod
import FlutterEngine.Std.Machine

/-!
# Packing rectangles below a skyline

`SkylineRectanglePacker` of `rectangle_packer.cc`. A vector is a list, and `int` is unbounded: of
a packer of at most 32767 by 32767 no sum leaves 32 bits. `percentFull` is left out.
-/

namespace FlutterEngine.Impeller

open FlutterEngine.Std

structure IPoint16 where
  x : Int16
  y : Int16
deriving DecidableEq, Repr

structure SkylineSegment where
  x : Int
  y : Int
  width : Int
deriving DecidableEq, Repr

/-- The first column after a segment. -/
def SkylineSegment.finish (segment : SkylineSegment) : Int := segment.x + segment.width

structure SkylineRectanglePacker where
  width : Int
  height : Int
  skyline : List SkylineSegment
  areaSoFar : Int
deriving DecidableEq, Repr

/-- An `int` as an `unsigned`. -/
def unsigned (value : Int) : Int := value % 2 ^ 32

/-- The best position so far for a rectangle; the index is -1 when there is none. -/
structure BestPosition where
  index : Int
  width : Int
  x : Int
  y : Int
deriving DecidableEq, Repr

namespace SkylineRectanglePacker

variable (packer : SkylineRectanglePacker)

def reset : SkylineRectanglePacker :=
  { packer with areaSoFar := 0, skyline := [⟨0, 0, packer.width⟩] }

/-- The constructor. -/
def create (width height : Int) : SkylineRectanglePacker :=
  reset ⟨width, height, [], 0⟩

/-- The loop of `rectangleFits` over the segments that are left. -/
def fitsOver (height : Int) : List SkylineSegment → (widthLeft y : Int) → Option Int
  | [], _, y => some y
  | segment :: rest, widthLeft, y =>
    if widthLeft > 0 then
      if max y segment.y + height > packer.height then none
      else fitsOver height rest (widthLeft - segment.width) (max y segment.y)
    else some y

def rectangleFits (skylineIndex : Nat) (width height : Int) : Option Int := do
  let segment ← packer.skyline[skylineIndex]?
  if segment.x + width > packer.width then none
  else packer.fitsOver height (packer.skyline.drop skylineIndex) width segment.y

/-- The loop that deletes the width of the new segment, the one before, from those that follow. -/
def shrinkAfter (newSegment : SkylineSegment) : List SkylineSegment → List SkylineSegment
  | [] => []
  | segment :: rest =>
    if segment.x < newSegment.x + newSegment.width then
      let shrink := newSegment.x + newSegment.width - segment.x
      -- A segment that is fully consumed is removed.
      if segment.width - shrink ≤ 0 then shrinkAfter newSegment rest
      else { segment with x := segment.x + shrink, width := segment.width - shrink } :: rest
    else segment :: rest

/-- The loop that merges segments: of two of one height it widens the first, and removes it. -/
def mergeSegments : List SkylineSegment → List SkylineSegment
  | [] => []
  | [segment] => [segment]
  | segment :: next :: rest =>
    if segment.y = next.y then mergeSegments (next :: rest)
    else segment :: mergeSegments (next :: rest)

def addSkylineLevel (skylineIndex : Nat) (x y width height : Int) : SkylineRectanglePacker :=
  let newSegment : SkylineSegment := ⟨x, y + height, width⟩
  { packer with
    skyline := mergeSegments (packer.skyline.take skylineIndex ++
      newSegment :: shrinkAfter newSegment (packer.skyline.drop skylineIndex)) }

/-- One turn of the loop of `addRect`: least `y` first, then the narrowest segment. -/
def consider (width height : Int) (best : BestPosition) (index : Nat) : BestPosition :=
  match packer.skyline[index]?, packer.rectangleFits index width height with
  | some segment, some y =>
    if y < best.y ∨ (y = best.y ∧ segment.width < best.width) then
      ⟨index, segment.width, segment.x, y⟩
    else best
  | _, _ => best

def bestPosition (width height : Int) : BestPosition :=
  (List.range packer.skyline.length).foldl (packer.consider width height)
    ⟨-1, packer.width + 1, 0, packer.height + 1⟩

/-- `addRect`, with what is left in `loc` and whether there was room. -/
def addRect (width height : Int) (loc : IPoint16) :
    Bool × IPoint16 × SkylineRectanglePacker :=
  if unsigned width > unsigned packer.width ∨ unsigned height > unsigned packer.height then
    (false, loc, packer)
  else
    let best := packer.bestPosition width height
    if best.index ≠ -1 then
      let added := packer.addSkylineLevel best.index.toNat best.x best.y width height
      (true, ⟨.ofInt best.x, .ofInt best.y⟩,
        { added with areaSoFar := added.areaSoFar + width * height })
    else (false, ⟨0, 0⟩, packer)

end SkylineRectanglePacker

/-! ## Runs -/

/-- A rectangle at the location that was reported for it. -/
structure PlacedRect where
  loc : IPoint16
  width : Int
  height : Int
deriving DecidableEq, Repr

namespace PlacedRect

variable (rect other : PlacedRect)

/-- The column is one of the rectangle's. -/
def Spans (column : Int) : Prop :=
  rect.loc.x.toInt ≤ column ∧ column < rect.loc.x.toInt + rect.width

def bottom : Int := rect.loc.y.toInt + rect.height

/-- No point lies in both rectangles. -/
def Disjoint : Prop :=
  ∀ x y : Int, ¬(rect.Spans x ∧ rect.loc.y.toInt ≤ y ∧ y < rect.bottom ∧
    other.Spans x ∧ other.loc.y.toInt ≤ y ∧ y < other.bottom)

/-- The rectangle lies inside an area of this size. -/
def Inside (width height : Int) : Prop :=
  0 ≤ rect.loc.x.toInt ∧ rect.loc.x.toInt + rect.width ≤ width ∧
    0 ≤ rect.loc.y.toInt ∧ rect.bottom ≤ height

end PlacedRect

/-- A packer and the rectangles placed since its last reset, the last one first. -/
structure PackerRun where
  packer : SkylineRectanglePacker
  placed : List PlacedRect := []
deriving DecidableEq, Repr

inductive PackerCall where
  | addRect (width height : Int) (loc : IPoint16)
  | reset
deriving DecidableEq, Repr

namespace PackerRun

variable (run : PackerRun)

def call : PackerCall → PackerRun
  | .addRect width height loc =>
    let (added, loc, packer) := run.packer.addRect width height loc
    ⟨packer, if added then ⟨loc, width, height⟩ :: run.placed else run.placed⟩
  | .reset => ⟨run.packer.reset, []⟩

/-- The sizes of rectangles are positive. -/
def Called (_ : PackerRun) : PackerCall → Prop
  | .addRect width height _ => 0 < width ∧ 0 < height
  | .reset => True

/-- A packer of at most 32767 by 32767. -/
def machine : Machine PackerRun PackerCall where
  Initial run := ∃ width height, (0 ≤ width ∧ width ≤ 32767) ∧ (0 ≤ height ∧ height ≤ 32767) ∧
    run = { packer := .create width height }
  step run op := some (run.call op)

end PackerRun

/-! ## The skyline over a column -/

namespace SkylineRectanglePacker

/-- The height over a column: that of the segment there, or of the next one, where segments were
merged. -/
def levelAt (skyline : List SkylineSegment) (column : Int) : Option Int :=
  (skyline.find? fun segment => column < segment.finish).map (·.y)

/-- Segments follow one another, and none is negative. -/
structure Ordered (skyline : List SkylineSegment) : Prop where
  apart : skyline.Pairwise fun left right => left.finish ≤ right.x
  within : ∀ segment ∈ skyline, 0 ≤ segment.x ∧ 0 ≤ segment.y ∧ 0 ≤ segment.width

variable {skyline rest : List SkylineSegment} {segment newSegment : SkylineSegment}
  {column level : Int}

theorem levelAt_cons_of_lt (inside : column < segment.finish) :
    levelAt (segment :: rest) column = some segment.y := by
  simp [levelAt, inside]

theorem levelAt_cons_of_le (past : segment.finish ≤ column) :
    levelAt (segment :: rest) column = levelAt rest column := by
  simp [levelAt, past]

/-- Only where a segment ends and its height matter for the levels. -/
theorem levelAt_cons_congr {other : SkylineSegment} {others : List SkylineSegment}
    (finish : segment.finish = other.finish) (y : segment.y = other.y)
    (after : levelAt rest column = levelAt others column) :
    levelAt (segment :: rest) column = levelAt (other :: others) column := by
  obtain inside | past := lt_or_ge column segment.finish
  · rw [levelAt_cons_of_lt inside, levelAt_cons_of_lt (finish ▸ inside), y]
  · rw [levelAt_cons_of_le past, levelAt_cons_of_le (finish ▸ past), after]

theorem levelAt_append (left right : List SkylineSegment) :
    levelAt (left ++ right) column = (levelAt left column).or (levelAt right column) := by
  unfold levelAt
  rw [List.find?_append]
  cases left.find? fun segment => column < segment.finish <;> rfl

theorem Ordered.sublist {kept : List SkylineSegment} (ordered : Ordered skyline)
    (sublist : kept.Sublist skyline) : Ordered kept :=
  ⟨ordered.apart.sublist sublist, fun segment listed =>
    ordered.within segment (sublist.subset listed)⟩

theorem Ordered.tail (ordered : Ordered (segment :: rest)) : Ordered rest :=
  ordered.sublist (List.sublist_cons_self _ _)

theorem Ordered.le_x (ordered : Ordered (segment :: rest)) {next : SkylineSegment}
    (listed : next ∈ rest) : segment.finish ≤ next.x :=
  (List.pairwise_cons.mp ordered.apart).1 next listed

/-! ## Fitting -/

section Fitting

variable {packer : SkylineRectanglePacker} {height widthLeft y fitted : Int}

theorem le_fitted (fits : packer.fitsOver height skyline widthLeft y = some fitted) :
    y ≤ fitted := by
  induction skyline generalizing widthLeft y with
  | nil =>
    cases fits
    exact le_rfl
  | cons segment rest ih =>
    unfold fitsOver at fits
    split at fits
    · split at fits
      · cases fits
      · exact (le_max_left _ _).trans (ih fits)
    · cases fits
      exact le_rfl

theorem fitted_le (fits : packer.fitsOver height skyline widthLeft y = some fitted)
    (low : y + height ≤ packer.height) : fitted + height ≤ packer.height := by
  induction skyline generalizing widthLeft y with
  | nil =>
    cases fits
    exact low
  | cons segment rest ih =>
    unfold fitsOver at fits
    split at fits
    · split at fits
      · cases fits
      · rename_i low
        exact ih fits (not_lt.mp low)
    · cases fits
      exact low

/-- A rectangle that fits is above the level of every column that it spans, even where the widths
of the segments do not add up to the columns. -/
theorem level_le_fitted {start : Int} (ordered : Ordered skyline)
    (starts : ∀ segment ∈ skyline, start ≤ segment.x)
    (fits : packer.fitsOver height skyline widthLeft y = some fitted) (right : start ≤ column)
    (left : column < start + widthLeft) (here : levelAt skyline column = some level) :
    level ≤ fitted := by
  induction skyline generalizing start widthLeft y with
  | nil => cases here
  | cons segment rest ih =>
    have begins := starts segment List.mem_cons_self
    unfold fitsOver at fits
    split at fits
    · split at fits
      · cases fits
      · obtain inside | past := lt_or_ge column segment.finish
        · rw [levelAt_cons_of_lt inside] at here
          cases here
          exact (le_max_right _ _).trans (le_fitted fits)
        · rw [levelAt_cons_of_le past] at here
          refine ih ordered.tail (fun next listed => ordered.le_x listed) fits past ?_ here
          unfold SkylineSegment.finish
          omega
    · omega

end Fitting

/-! ## Changing the skyline -/

theorem levelAt_shrinkAfter (past : newSegment.finish ≤ column) :
    levelAt (shrinkAfter newSegment skyline) column = levelAt skyline column := by
  unfold SkylineSegment.finish at past
  induction skyline with
  | nil => rfl
  | cons segment rest ih =>
    unfold shrinkAfter
    dsimp only
    split
    · split
      · rename_i consumed
        rw [ih, levelAt_cons_of_le]
        unfold SkylineSegment.finish
        omega
      · refine levelAt_cons_congr ?_ rfl rfl
        unfold SkylineSegment.finish
        dsimp only
        omega
    · rfl

theorem shrinkAfter_ordered (newSegment : SkylineSegment) (ordered : Ordered skyline)
    (within : 0 ≤ newSegment.finish) :
    Ordered (shrinkAfter newSegment skyline) ∧
      ∀ segment ∈ shrinkAfter newSegment skyline, newSegment.finish ≤ segment.x := by
  unfold SkylineSegment.finish at within ⊢
  induction skyline with
  | nil => exact ⟨ordered, by simp [shrinkAfter]⟩
  | cons segment rest ih =>
    obtain ⟨zero, low, wide⟩ := ordered.within segment List.mem_cons_self
    unfold shrinkAfter
    dsimp only
    split
    · split
      · exact ih ordered.tail
      · rename_i partly
        have begins : newSegment.x + newSegment.width =
            segment.x + (newSegment.x + newSegment.width - segment.x) := by omega
        refine ⟨⟨List.pairwise_cons.mpr ⟨fun next listed => ?_, ordered.tail.apart⟩, ?_⟩, ?_⟩
        · have after := ordered.le_x listed
          unfold SkylineSegment.finish at after ⊢
          dsimp only
          omega
        · intro next listed
          obtain rfl | listed := List.mem_cons.mp listed
          · exact ⟨begins ▸ within, low, by dsimp only; omega⟩
          · exact ordered.tail.within next listed
        · intro next listed
          obtain rfl | listed := List.mem_cons.mp listed
          · exact begins.le
          · have after := ordered.le_x listed
            unfold SkylineSegment.finish at after
            omega
    · rename_i apart
      refine ⟨ordered, fun next listed => ?_⟩
      obtain rfl | listed := List.mem_cons.mp listed
      · omega
      · have after := ordered.le_x listed
        unfold SkylineSegment.finish at after
        omega

theorem mergeSegments_sublist (skyline : List SkylineSegment) :
    (mergeSegments skyline).Sublist skyline := by
  induction skyline using mergeSegments.induct with
  | case1 => exact .slnil
  | case2 segment => exact .refl _
  | case3 segment next rest same ih =>
    rw [mergeSegments, if_pos same]
    exact ih.cons segment
  | case4 segment next rest other ih =>
    rw [mergeSegments, if_neg other]
    exact ih.cons_cons segment

/-- A segment of the height of the next one is not missed. -/
theorem levelAt_mergeSegments (ordered : Ordered skyline) :
    levelAt (mergeSegments skyline) column = levelAt skyline column := by
  induction skyline using mergeSegments.induct with
  | case1 => rfl
  | case2 segment => rfl
  | case3 segment next rest same ih =>
    rw [mergeSegments, if_pos same, ih ordered.tail]
    obtain inside | past := lt_or_ge column segment.finish
    · have after := ordered.le_x (List.mem_cons_self (a := next))
      have wide := (ordered.within next (.tail _ List.mem_cons_self)).2.2
      have still : column < next.finish := by
        unfold SkylineSegment.finish at after inside ⊢
        omega
      rw [levelAt_cons_of_lt inside, levelAt_cons_of_lt still, same]
    · rw [levelAt_cons_of_le past]
  | case4 segment next rest other ih =>
    rw [mergeSegments, if_neg other]
    exact levelAt_cons_congr rfl rfl (ih ordered.tail)

variable {packer : SkylineRectanglePacker} {index : Nat} {width height y : Int}

/-- The segments from an index on, where the rectangle is to begin. -/
theorem drop_eq (found : packer.skyline[index]? = some segment) :
    packer.skyline.drop index = segment :: packer.skyline.drop (index + 1) := by
  obtain ⟨inside, rfl⟩ := List.getElem?_eq_some_iff.mp found
  exact List.drop_eq_getElem_cons inside

/-- A rectangle that fits ends within the packer. -/
theorem rectangleFits_le (found : packer.skyline[index]? = some segment)
    (fits : packer.rectangleFits index width height = some y) (wide : 0 < width) :
    y + height ≤ packer.height := by
  unfold rectangleFits at fits
  rw [found, Option.bind_eq_bind, Option.bind_some, drop_eq found] at fits
  split at fits
  · cases fits
  · unfold fitsOver at fits
    rw [if_pos wide] at fits
    split at fits
    · cases fits
    · rename_i low
      exact fitted_le fits (not_lt.mp low)

theorem Ordered.before_le (ordered : Ordered packer.skyline)
    (found : packer.skyline[index]? = some segment) {before : SkylineSegment}
    (listed : before ∈ packer.skyline.take index) : before.finish ≤ segment.x := by
  have split := ordered.apart
  rw [← List.take_append_drop index packer.skyline, drop_eq found] at split
  exact (List.pairwise_append.mp split).2.2 before listed segment List.mem_cons_self

/-- No segment before one reaches the columns from there on. -/
theorem levelAt_take (ordered : Ordered packer.skyline)
    (found : packer.skyline[index]? = some segment) (right : segment.x ≤ column) :
    levelAt (packer.skyline.take index) column = none := by
  unfold levelAt
  rw [Option.map_eq_none_iff, List.find?_eq_none]
  intro before listed
  simpa using (ordered.before_le found listed).trans right

theorem levelAt_split (index : Nat) :
    levelAt packer.skyline column = (levelAt (packer.skyline.take index) column).or
      (levelAt (packer.skyline.drop index) column) := by
  rw [← levelAt_append, List.take_append_drop]

/-- Over what was below the new segment, or in a gap before it, is its level; all others stay. -/
theorem levelAt_addSkylineLevel (column : Int) (ordered : Ordered packer.skyline)
    (found : packer.skyline[index]? = some segment) (wide : 0 < width) (high : 0 ≤ y + height) :
    Ordered (packer.addSkylineLevel index segment.x y width height).skyline ∧
      levelAt (packer.addSkylineLevel index segment.x y width height).skyline column =
        (levelAt (packer.skyline.take index) column).or
          (if column < segment.x + width then some (y + height)
            else levelAt (packer.skyline.drop index) column) := by
  have within := (ordered.within segment (List.mem_of_getElem? found))
  obtain ⟨shrunk, after⟩ := shrinkAfter_ordered ⟨segment.x, y + height, width⟩
    (ordered.sublist (List.drop_sublist index _))
    (by unfold SkylineSegment.finish; dsimp only; omega)
  have whole : Ordered (packer.skyline.take index ++ ⟨segment.x, y + height, width⟩ ::
      shrinkAfter ⟨segment.x, y + height, width⟩ (packer.skyline.drop index)) := by
    refine ⟨List.pairwise_append.mpr ⟨(ordered.sublist (List.take_sublist _ _)).apart,
      List.pairwise_cons.mpr ⟨after, shrunk.apart⟩, ?_⟩, ?_⟩
    · intro before listed next follows
      have left := ordered.before_le found listed
      obtain rfl | follows := List.mem_cons.mp follows
      · exact left
      · have right := after next follows
        unfold SkylineSegment.finish at right left ⊢
        dsimp only at right
        omega
    · intro other listed
      obtain listed | listed := List.mem_append.mp listed
      · exact ordered.within other (List.mem_of_mem_take listed)
      · obtain rfl | listed := List.mem_cons.mp listed
        · exact ⟨within.1, high, wide.le⟩
        · exact shrunk.within other listed
  refine ⟨whole.sublist (mergeSegments_sublist _), ?_⟩
  unfold addSkylineLevel
  dsimp only
  rw [levelAt_mergeSegments whole, levelAt_append]
  congr 1
  split
  · rename_i inside
    exact levelAt_cons_of_lt inside
  · rename_i past
    rw [not_lt] at past
    rw [levelAt_cons_of_le past, levelAt_shrinkAfter past]

/-- The best position is one where the rectangle fits. -/
theorem bestPosition_fits (packer : SkylineRectanglePacker) (width height : Int) :
    (packer.bestPosition width height).index = -1 ∨ ∃ (index : Nat) (segment : SkylineSegment),
      (packer.bestPosition width height).index = index ∧
        packer.skyline[index]? = some segment ∧
        (packer.bestPosition width height).x = segment.x ∧
        packer.rectangleFits index width height =
          some (packer.bestPosition width height).y := by
  unfold bestPosition
  generalize List.range packer.skyline.length = indices
  refine List.foldlRecOn indices _ (motive := fun best : BestPosition =>
    best.index = -1 ∨ ∃ (index : Nat) (segment : SkylineSegment), best.index = index ∧
      packer.skyline[index]? = some segment ∧ best.x = segment.x ∧
      packer.rectangleFits index width height = some best.y) (.inl rfl) ?_
  intro best fits index _
  unfold consider
  split
  · rename_i segment y found room
    split
    · exact .inr ⟨index, segment, rfl, found, rfl, room⟩
    · exact fits
  · exact fits

end SkylineRectanglePacker

/-! ## Rectangles below the skyline -/

open SkylineRectanglePacker

/-- Segments in order over all columns, above every rectangle placed; and these are disjoint. -/
structure Silhouetted (run : PackerRun) : Prop where
  wide : 0 ≤ run.packer.width ∧ run.packer.width ≤ 32767
  high : 0 ≤ run.packer.height ∧ run.packer.height ≤ 32767
  ordered : Ordered run.packer.skyline
  covered : ∀ column < run.packer.width, (levelAt run.packer.skyline column).isSome
  above : ∀ rect ∈ run.placed, ∀ column, rect.Spans column →
    ∀ level ∈ levelAt run.packer.skyline column, rect.bottom ≤ level
  inside : ∀ rect ∈ run.placed, rect.Inside run.packer.width run.packer.height
  disjoint : run.placed.Pairwise PlacedRect.Disjoint

namespace Silhouetted

variable {run : PackerRun} {index : Nat} {segment : SkylineSegment} {width height y : Int}

/-- Where a rectangle fits, every column that it spans has its level below. -/
theorem fits (silhouetted : Silhouetted run)
    (found : run.packer.skyline[index]? = some segment)
    (fits : run.packer.rectangleFits index width height = some y) (wide : 0 < width) :
    segment.x + width ≤ run.packer.width ∧ segment.y ≤ y ∧ y + height ≤ run.packer.height ∧
      ∀ column, segment.x ≤ column → column < segment.x + width →
        ∃ level, levelAt run.packer.skyline column = some level ∧ level ≤ y := by
  have ordered := silhouetted.ordered
  have top := rectangleFits_le found fits wide
  unfold rectangleFits at fits
  rw [found, Option.bind_eq_bind, Option.bind_some] at fits
  split at fits
  · cases fits
  · rename_i room
    rw [not_lt] at room
    have low := le_fitted fits
    have drops := drop_eq found
    refine ⟨room, low, top, fun column right left => ?_⟩
    obtain ⟨level, here⟩ := Option.isSome_iff_exists.mp
      (silhouetted.covered column (left.trans_le room))
    refine ⟨level, here, ?_⟩
    rw [levelAt_split index, levelAt_take ordered found right, Option.none_or] at here
    refine level_le_fitted (ordered.sublist (List.drop_sublist _ _)) ?_ fits right left here
    intro next listed
    rw [drops] at listed
    obtain rfl | listed := List.mem_cons.mp listed
    · exact le_rfl
    · have after := (drops ▸ ordered.sublist (List.drop_sublist index _)).le_x listed
      have := (ordered.within segment (List.mem_of_getElem? found)).2.2
      unfold SkylineSegment.finish at after
      omega

/-- A rectangle placed where it fits is disjoint from the others, and the skyline is above it. -/
theorem place (silhouetted : Silhouetted run)
    (found : run.packer.skyline[index]? = some segment)
    (room : run.packer.rectangleFits index width height = some y) (wide : 0 < width)
    (high : 0 < height) (area : Int) :
    Silhouetted ⟨{ run.packer.addSkylineLevel index segment.x y width height with
      areaSoFar := area }, ⟨⟨.ofInt segment.x, .ofInt y⟩, width, height⟩ :: run.placed⟩ := by
  obtain ⟨right, low, top, below⟩ := silhouetted.fits found room wide
  obtain ⟨begins, starts, -⟩ := silhouetted.ordered.within segment (List.mem_of_getElem? found)
  have maxWidth := silhouetted.wide.2
  have maxHeight := silhouetted.high.2
  have x : (Int16.ofInt segment.x).toInt = segment.x :=
    Int16.toInt_ofInt_of_le (by omega) (by omega)
  have atY : (Int16.ofInt y).toInt = y := Int16.toInt_ofInt_of_le (by omega) (by omega)
  have levels : ∀ column, _ := fun column =>
    levelAt_addSkylineLevel column silhouetted.ordered found wide (by omega : 0 ≤ y + height)
  refine ⟨silhouetted.wide, silhouetted.high, (levels 0).1, ?_, ?_, ?_, ?_⟩
  · intro column left
    have covered := silhouetted.covered column left
    rw [levelAt_split index] at covered
    dsimp only
    rw [(levels column).2]
    cases before : levelAt (run.packer.skyline.take index) column with
    | some level => rfl
    | none =>
      rw [before, Option.none_or] at covered
      rw [Option.none_or]
      split
      · rfl
      · exact covered
  · intro rect listed column spans level here
    dsimp only at here
    rw [(levels column).2] at here
    obtain rfl | listed := List.mem_cons.mp listed
    · unfold PlacedRect.Spans PlacedRect.bottom at *
      dsimp only at *
      rw [x] at spans
      rw [levelAt_take silhouetted.ordered found spans.1, Option.none_or, if_pos spans.2] at here
      cases here
      rw [atY]
    · have above := silhouetted.above rect listed column spans
      rw [levelAt_split index] at above
      cases before : levelAt (run.packer.skyline.take index) column with
      | some other =>
        rw [before, Option.some_or] at here above
        exact above level here
      | none =>
        rw [before, Option.none_or] at here above
        split at here
        · rename_i left
          cases here
          suffices ∃ level ∈ levelAt (run.packer.skyline.drop index) column, level ≤ y by
            obtain ⟨level, here, low⟩ := this
            have := above level here
            omega
          obtain gap | right := lt_or_ge column segment.x
          · have within := (silhouetted.ordered.within segment (List.mem_of_getElem? found)).2.2
            refine ⟨segment.y, ?_, low⟩
            rw [drop_eq found]
            exact levelAt_cons_of_lt (by unfold SkylineSegment.finish; omega)
          · obtain ⟨level, here, low⟩ := below column right left
            rw [levelAt_split index, before, Option.none_or] at here
            exact ⟨level, here, low⟩
        · exact above level here
  · intro rect listed
    obtain rfl | listed := List.mem_cons.mp listed
    · unfold PlacedRect.Inside PlacedRect.bottom
      dsimp only
      rw [x, atY]
      exact ⟨begins, right, starts.trans low, top⟩
    · exact silhouetted.inside rect listed
  · refine List.pairwise_cons.mpr ⟨?_, silhouetted.disjoint⟩
    rintro rect listed column row ⟨spans, upper, -, others, -, lower⟩
    unfold PlacedRect.Spans at spans
    dsimp only at spans upper
    rw [x] at spans
    rw [atY] at upper
    obtain ⟨level, here, low⟩ := below column spans.1 spans.2
    have := silhouetted.above rect listed column others level here
    omega

theorem addRect (silhouetted : Silhouetted run) (loc : IPoint16) (wide : 0 < width)
    (high : 0 < height) : Silhouetted (run.call (.addRect width height loc)) := by
  unfold PackerRun.call SkylineRectanglePacker.addRect
  dsimp only
  split
  · exact silhouetted
  · split
    · rename_i best
      obtain none | ⟨index, segment, at', found, x, room⟩ :=
        run.packer.bestPosition_fits width height
      · exact absurd none best
      · dsimp only
        rw [at', Int.toNat_natCast, x]
        exact silhouetted.place found room wide high _
    · exact silhouetted

/-- A packer that is empty. -/
theorem reset (packer : SkylineRectanglePacker) (wide : 0 ≤ packer.width ∧ packer.width ≤ 32767)
    (high : 0 ≤ packer.height ∧ packer.height ≤ 32767) : Silhouetted ⟨packer.reset, []⟩ := by
  refine ⟨wide, high, ⟨List.pairwise_singleton _ _, ?_⟩, ?_, by simp, by simp, .nil⟩
  · intro segment listed
    obtain rfl := List.mem_singleton.mp listed
    exact ⟨le_rfl, le_rfl, wide.1⟩
  · intro column left
    unfold SkylineRectanglePacker.reset
    dsimp only [SkylineRectanglePacker.reset] at left ⊢
    rw [levelAt_cons_of_lt (by simpa [SkylineSegment.finish] using left)]
    rfl

end Silhouetted

/-! ## The area so far -/

namespace PlacedRect

/-- The points of a rectangle. -/
def points (rect : PlacedRect) : Finset (Int × Int) :=
  (Finset.range rect.width.toNat ×ˢ Finset.range rect.height.toNat).image fun step =>
    (rect.loc.x.toInt + step.1, rect.loc.y.toInt + step.2)

theorem mem_points {rect : PlacedRect} {point : Int × Int} :
    point ∈ rect.points ↔
      rect.Spans point.1 ∧ rect.loc.y.toInt ≤ point.2 ∧ point.2 < rect.bottom := by
  unfold points Spans bottom
  rw [Finset.mem_image]
  constructor
  · rintro ⟨⟨right, down⟩, inside, rfl⟩
    rw [Finset.mem_product, Finset.mem_range, Finset.mem_range] at inside
    dsimp only at inside ⊢
    omega
  · intro inside
    refine ⟨⟨(point.1 - rect.loc.x.toInt).toNat, (point.2 - rect.loc.y.toInt).toNat⟩, ?_, ?_⟩
    · rw [Finset.mem_product, Finset.mem_range, Finset.mem_range]
      dsimp only
      omega
    · ext
      · dsimp only
        omega
      · dsimp only
        omega

theorem card_points {rect : PlacedRect} (wide : 0 ≤ rect.width) (high : 0 ≤ rect.height) :
    (rect.points.card : Int) = rect.width * rect.height := by
  unfold points
  rw [Finset.card_image_of_injective, Finset.card_product, Finset.card_range, Finset.card_range,
    Nat.cast_mul, Int.toNat_of_nonneg wide, Int.toNat_of_nonneg high]
  intro step other same
  obtain ⟨right, down⟩ := Prod.mk.inj same
  ext <;> omega

/-- Rectangles that are disjoint are together no larger than what they are inside of. -/
theorem area_le {placed : List PlacedRect} {region : Finset (Int × Int)}
    (disjoint : placed.Pairwise Disjoint) (inside : ∀ rect ∈ placed, rect.points ⊆ region)
    (positive : ∀ rect ∈ placed, 0 < rect.width ∧ 0 < rect.height) :
    (placed.map fun rect => rect.width * rect.height).sum ≤ region.card := by
  induction placed generalizing region with
  | nil => exact Int.natCast_nonneg _
  | cons rect rest ih =>
    obtain ⟨apart, disjoint⟩ := List.pairwise_cons.mp disjoint
    obtain ⟨within, inside⟩ := List.forall_mem_cons.mp inside
    obtain ⟨⟨wide, high⟩, positive⟩ := List.forall_mem_cons.mp positive
    have others : ∀ other ∈ rest, other.points ⊆ region \ rect.points := by
      refine fun other listed point there => Finset.mem_sdiff.mpr ⟨inside other listed there, ?_⟩
      intro here
      rw [mem_points] at here there
      exact apart other listed point.1 point.2
        ⟨here.1, here.2.1, here.2.2, there.1, there.2.1, there.2.2⟩
    have smaller := ih disjoint others positive
    have parts := Finset.card_sdiff_add_card_eq_card within
    rw [List.map_cons, List.sum_cons, ← card_points wide.le high.le]
    omega

end PlacedRect

namespace PackerRun

/-- The area so far is that of the rectangles placed. -/
structure Accounted (run : PackerRun) : Prop where
  area : run.packer.areaSoFar = (run.placed.map fun rect => rect.width * rect.height).sum
  positive : ∀ rect ∈ run.placed, 0 < rect.width ∧ 0 < rect.height

theorem Accounted.call {run : PackerRun} {call : PackerCall} (accounted : Accounted run)
    (called : run.Called call) : Accounted (run.call call) := by
  cases call with
  | reset => exact ⟨rfl, by simp [PackerRun.call]⟩
  | addRect width height loc =>
    unfold PackerRun.call SkylineRectanglePacker.addRect
    dsimp only
    split
    · exact accounted
    · split
      · refine ⟨?_, ?_⟩
        · dsimp only [addSkylineLevel]
          rw [if_pos rfl, List.map_cons, List.sum_cons, accounted.area, Int.add_comm]
        · intro rect listed
          obtain rfl | listed := List.mem_cons.mp listed
          · exact called
          · exact accounted.positive rect listed
      · exact accounted

theorem silhouetted_of_reachable {run : PackerRun} (reached : machine.Reachable Called run) :
    Silhouetted run := by
  refine reached.invariant Silhouetted ?_ ?_
  · rintro _ ⟨width, height, wide, high, rfl⟩
    exact .reset ⟨width, height, [], 0⟩ wide high
  · intro run call next silhouetted called calls
    cases calls
    cases call with
    | addRect width height loc => exact silhouetted.addRect loc called.1 called.2
    | reset => exact .reset run.packer silhouetted.wide silhouetted.high

/-- The area so far is no larger than that of the packer, and so it fits in 32 bits. -/
theorem reachable_areaSoFar_le {run : PackerRun} (reached : machine.Reachable Called run) :
    run.packer.areaSoFar ≤ run.packer.width * run.packer.height ∧
      run.packer.areaSoFar < 2 ^ 31 := by
  have silhouetted := silhouetted_of_reachable reached
  have accounted : Accounted run := by
    refine reached.invariant Accounted ?_ ?_
    · rintro _ ⟨width, height, wide, high, rfl⟩
      exact ⟨rfl, by simp⟩
    · intro run call next accounted called calls
      cases calls
      exact accounted.call called
  have within : ∀ rect ∈ run.placed,
      rect.points ⊆ PlacedRect.points ⟨⟨0, 0⟩, run.packer.width, run.packer.height⟩ := by
    intro rect placed point listed
    obtain ⟨⟨left, right⟩, low, high⟩ := PlacedRect.mem_points.mp listed
    obtain ⟨begins, ends, starts, stops⟩ := silhouetted.inside rect placed
    have zero : Int16.toInt 0 = 0 := rfl
    rw [PlacedRect.mem_points]
    unfold PlacedRect.Spans PlacedRect.bottom
    dsimp only
    omega
  have small := PlacedRect.area_le silhouetted.disjoint within accounted.positive
  rw [PlacedRect.card_points silhouetted.wide.1 silhouetted.high.1, ← accounted.area] at small
  refine ⟨small, small.trans_lt ?_⟩
  calc run.packer.width * run.packer.height
      ≤ 32767 * 32767 := mul_le_mul silhouetted.wide.2 silhouetted.high.2 silhouetted.high.1
        (by decide)
    _ < 2 ^ 31 := by decide

/-- In every state reached by calls of positive sizes, the rectangles placed since the last reset
are disjoint and lie inside the packer, where they were reported. -/
theorem reachable_disjoint {run : PackerRun} (reached : machine.Reachable Called run) :
    run.placed.Pairwise PlacedRect.Disjoint ∧
      ∀ rect ∈ run.placed, rect.Inside run.packer.width run.packer.height := by
  have silhouetted := silhouetted_of_reachable reached
  exact ⟨silhouetted.disjoint, silhouetted.inside⟩

section Samples

instance (run : PackerRun) (call : PackerCall) : Decidable (run.Called call) :=
  match call with
  | .addRect .. => inferInstanceAs (Decidable (_ ∧ _))
  | .reset => inferInstanceAs (Decidable True)

theorem reachable_areaSoFar_le_placed :
    ∃ run : PackerRun, run.packer.areaSoFar = 10 ∧
      run.packer.areaSoFar ≤ run.packer.width * run.packer.height := by
  have start : machine.Reachable Called { packer := .create 5 5 } :=
    .initial ⟨5, 5, by decide, by decide, rfl⟩
  obtain ⟨run, reached, area⟩ := start.exists_of_run [.addRect 2 2 ⟨0, 0⟩, .addRect 3 2 ⟨0, 0⟩]
    (fun run => run.packer.areaSoFar = 10) (by decide) (by decide)
  exact ⟨run, of_decide_eq_true area, (reachable_areaSoFar_le reached).1⟩

/-- Two columns that are merged, and what is placed across the gap that this leaves. -/
theorem reachable_disjoint_merged :
    ∃ run : PackerRun, machine.Reachable Called run ∧
      run.placed.map (·.loc) = [⟨2, 2⟩, ⟨2, 0⟩, ⟨0, 0⟩] ∧
      run.packer.skyline = [⟨2, 5, 3⟩] ∧
      run.placed.Pairwise PlacedRect.Disjoint := by
  have start : machine.Reachable Called { packer := .create 5 5 } :=
    .initial ⟨5, 5, by decide, by decide, rfl⟩
  obtain ⟨run, reached, locs⟩ := start.exists_of_run
    [.addRect 2 2 ⟨0, 0⟩, .addRect 3 2 ⟨0, 0⟩, .addRect 3 3 ⟨0, 0⟩]
    (fun run => run.placed.map (·.loc) = [⟨2, 2⟩, ⟨2, 0⟩, ⟨0, 0⟩] ∧
      run.packer.skyline = [⟨2, 5, 3⟩])
    (by decide) (by decide)
  obtain ⟨locs, skyline⟩ := of_decide_eq_true locs
  exact ⟨run, reached, locs, skyline, (reachable_disjoint reached).1⟩

end Samples

end PackerRun

end FlutterEngine.Impeller
