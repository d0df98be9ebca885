import Mathlib.Data.List.Basic
import Mathlib.Order.Lattice

/-!
# Bands

A row of half-open intervals that each carry a load. In canonical form it is known by what it
carries at every point.
-/

namespace FlutterEngine.Std

/-- The points from `lower` on and before `upper`, with what they carry. -/
structure Band (Point Load : Type) where
  lower : Point
  upper : Point
  load : Load
deriving DecidableEq

namespace Band

variable {Point Load : Type} [LinearOrder Point]

def Covers (band : Band Point Load) (point : Point) : Prop :=
  band.lower ≤ point ∧ point < band.upper

/-- A band that comes before another: they do not touch, unless they carry different loads. -/
def Before (first next : Band Point Load) : Prop :=
  first.upper ≤ next.lower ∧ (first.upper = next.lower → first.load ≠ next.load)

/-- What the bands carry at a point. -/
def Carries (bands : List (Band Point Load)) (point : Point) (load : Load) : Prop :=
  ∃ band ∈ bands, band.Covers point ∧ band.load = load

/-- Bands that are not empty, in order and not to be merged. -/
structure Canonical (bands : List (Band Point Load)) : Prop where
  filled : ∀ band ∈ bands, band.lower < band.upper
  ordered : bands.Pairwise Before

variable {bands rest : List (Band Point Load)} {first last next : Band Point Load}
  {point : Point} {load : Load}

@[simp]
theorem carries_nil : ¬Carries ([] : List (Band Point Load)) point load := by
  rintro ⟨band, found, -⟩
  contradiction

@[simp]
theorem carries_cons :
    Carries (first :: rest) point load ↔
      first.Covers point ∧ first.load = load ∨ Carries rest point load := by
  simp only [Carries, List.mem_cons]
  constructor
  · rintro ⟨band, rfl | found, covers, carries⟩
    · exact .inl ⟨covers, carries⟩
    · exact .inr ⟨band, found, covers, carries⟩
  · rintro (⟨covers, carries⟩ | ⟨band, found, covers, carries⟩)
    · exact ⟨first, .inl rfl, covers, carries⟩
    · exact ⟨band, .inr found, covers, carries⟩

theorem canonical_nil : Canonical ([] : List (Band Point Load)) where
  filled _ found := absurd found List.not_mem_nil
  ordered := List.Pairwise.nil

theorem canonical_singleton (filled : first.lower < first.upper) : Canonical [first] where
  filled band found := by rwa [List.mem_singleton.mp found]
  ordered := List.pairwise_singleton _ _

section

variable (canonical : Canonical (first :: rest))

include canonical

theorem Canonical.tail : Canonical rest where
  filled band found := canonical.filled band (List.mem_cons_of_mem _ found)
  ordered := canonical.ordered.of_cons

/-- Nothing is carried before the first band. -/
theorem Canonical.lower_le
    (carries : Carries (first :: rest) point load) : first.lower ≤ point := by
  obtain covers | ⟨band, found, covers, -⟩ := carries_cons.mp carries
  · exact covers.1.1
  · have ahead := (List.pairwise_cons.mp canonical.ordered).1 band found
    have filled := canonical.filled first List.mem_cons_self
    exact filled.le.trans (ahead.1.trans covers.1)

/-- After the first band the others carry. -/
theorem Canonical.upper_le (carries : Carries rest point load) : first.upper ≤ point := by
  obtain ⟨band, found, covers, -⟩ := carries
  exact ((List.pairwise_cons.mp canonical.ordered).1 band found).1.trans covers.1

/-- A load is carried where the first band ends only if it is another. -/
theorem Canonical.not_carries_upper :
    ¬Carries (first :: rest) first.upper first.load := by
  intro carries
  obtain covers | ⟨band, found, covers, same⟩ := carries_cons.mp carries
  · exact lt_irrefl _ covers.1.2
  · have ahead := (List.pairwise_cons.mp canonical.ordered).1 band found
    exact ahead.2 (le_antisymm ahead.1 covers.1) same.symm

theorem Canonical.carries_lower :
    Carries (first :: rest) first.lower first.load :=
  carries_cons.mpr (.inl ⟨⟨le_rfl, canonical.filled first List.mem_cons_self⟩, rfl⟩)

end

/-- At a point there is no more than one load. -/
theorem Canonical.load_eq (canonical : Canonical bands) {other : Load}
    (carries : Carries bands point load) (carriesOther : Carries bands point other) :
    load = other := by
  induction bands with
  | nil => exact absurd carries carries_nil
  | cons first rest ih =>
    obtain ⟨covers, rfl⟩ | later := carries_cons.mp carries
    · obtain ⟨-, same⟩ | otherLater := carries_cons.mp carriesOther
      · exact same
      · exact absurd (canonical.upper_le otherLater) (not_le.mpr covers.2)
    · obtain ⟨covers, -⟩ | otherLater := carries_cons.mp carriesOther
      · exact absurd (canonical.upper_le later) (not_le.mpr covers.2)
      · exact ih canonical.tail later otherLater

variable {others : List (Band Point Load)}

/-- The upper end of the first band is where its load ends. -/
theorem upper_le_upper {other : Band Point Load} (otherCanonical : Canonical (other :: others))
    (lower : first.lower = other.lower) (load : first.load = other.load)
    (same : ∀ point load, Carries (first :: rest) point load ↔ Carries (other :: others) point load) :
    first.upper ≤ other.upper := by
  by_contra longer
  have inside : first.Covers other.upper := by
    refine ⟨?_, not_le.mp longer⟩
    rw [lower]
    exact (otherCanonical.filled other List.mem_cons_self).le
  have carried := (same _ _).mp (carries_cons.mpr (.inl ⟨inside, rfl⟩))
  rw [load] at carried
  exact otherCanonical.not_carries_upper carried

/-- Two rows in canonical form that carry the same are the same. -/
theorem Canonical.ext (canonical : Canonical bands) (otherCanonical : Canonical others)
    (same : ∀ point load, Carries bands point load ↔ Carries others point load) :
    bands = others := by
  induction bands generalizing others with
  | nil =>
    obtain _ | ⟨other, others⟩ := others
    · rfl
    · exact absurd ((same _ _).mpr otherCanonical.carries_lower) carries_nil
  | cons first rest ih =>
    obtain _ | ⟨other, others⟩ := others
    · exact absurd ((same _ _).mp canonical.carries_lower) carries_nil
    have lower : first.lower = other.lower :=
      le_antisymm (canonical.lower_le ((same _ _).mpr otherCanonical.carries_lower))
        (otherCanonical.lower_le ((same _ _).mp canonical.carries_lower))
    have load : first.load = other.load := by
      refine canonical.load_eq canonical.carries_lower ?_
      rw [same, lower]
      exact otherCanonical.carries_lower
    have upper : first.upper = other.upper :=
      le_antisymm (upper_le_upper otherCanonical lower load same)
        (upper_le_upper canonical lower.symm load.symm fun point load => (same point load).symm)
    have equal : first = other := by
      cases first
      cases other
      cases lower
      cases upper
      cases load
      rfl
    subst equal
    congr 1
    refine ih canonical.tail otherCanonical.tail fun point load => ?_
    have whole := same point load
    rw [carries_cons, carries_cons] at whole
    constructor
    · intro carries
      have beyond := canonical.upper_le carries
      exact (whole.mp (.inr carries)).resolve_left fun inside => not_le.mpr inside.1.2 beyond
    · intro carries
      have beyond := otherCanonical.upper_le carries
      exact (whole.mpr (.inr carries)).resolve_left fun inside => not_le.mpr inside.1.2 beyond

/-! ## At the end of a row -/

/-- The bands end before a point. -/
def EndBy (bands : List (Band Point Load)) (point : Point) : Prop :=
  ∀ band ∈ bands, band.upper ≤ point

/-- A band after all others. -/
theorem Canonical.concat (canonical : Canonical bands) (filled : next.lower < next.upper)
    (ends : EndBy bands next.lower)
    (apart : ∀ last ∈ bands.getLast?, last.upper = next.lower → last.load ≠ next.load) :
    Canonical (bands ++ [next]) := by
  refine ⟨fun band found => ?_, List.pairwise_append.mpr
    ⟨canonical.ordered, List.pairwise_singleton _ _, fun band found other same => ?_⟩⟩
  · obtain earlier | same := List.mem_append.mp found
    · exact canonical.filled band earlier
    · rwa [List.mem_singleton.mp same]
  · rw [List.mem_singleton.mp same]
    refine ⟨ends band found, fun touches => ?_⟩
    -- Only the last band reaches that far.
    obtain ⟨front, last, rfl⟩ : ∃ front last, bands = front ++ [last] := by
      obtain empty | ⟨front, last, split⟩ := List.eq_nil_or_concat bands
      · rw [empty] at found
        contradiction
      · exact ⟨front, last, split.trans (List.concat_eq_append)⟩
    obtain earlier | atEnd := List.mem_append.mp found
    · have ahead := (List.pairwise_append.mp canonical.ordered).2.2 band earlier last
        (List.mem_singleton_self _)
      have lastFilled := canonical.filled last (by simp)
      have lastEnds := ends last (by simp)
      exact absurd ((ahead.1.trans_lt lastFilled).trans_le lastEnds) (touches ▸ lt_irrefl _)
    · rw [List.mem_singleton.mp atEnd] at touches ⊢
      exact apart last (by simp) touches

/-- The last band grows. -/
theorem Canonical.grow {upper : Point} (canonical : Canonical (bands ++ [last]))
    (grows : last.upper ≤ upper) : Canonical (bands ++ [{ last with upper := upper }]) := by
  have filled := canonical.filled last (by simp)
  obtain ⟨front, -, ahead⟩ := List.pairwise_append.mp canonical.ordered
  refine ⟨fun band found => ?_, List.pairwise_append.mpr
    ⟨front, List.pairwise_singleton _ _, fun band found other same => ?_⟩⟩
  · obtain earlier | same := List.mem_append.mp found
    · exact canonical.filled band (List.mem_append_left _ earlier)
    · rw [List.mem_singleton.mp same]
      exact filled.trans_le grows
  · rw [List.mem_singleton.mp same]
    exact ahead band found last (List.mem_singleton_self _)

end Band

end FlutterEngine.Std
