import Mathlib.Algebra.Order.Ring.Int

/-!
# Tilings

Items that each take a range of positions, and lists of them in which each begins where the one
before it ends. Empty ranges are allowed.
-/

namespace FlutterEngine.Std

universe u

/-- The range an item takes, `stop` excluded. -/
class Ranged (Item : Type u) where
  start : Item → Nat
  stop : Item → Nat

open Ranged (start stop)

variable {Item : Type u} [Ranged Item]

/-- The items take the positions from the first to the last, in order. -/
inductive Tiles : Nat → Nat → List Item → Prop where
  | nil (position : Nat) : Tiles position position []
  | cons {item : Item} {items : List Item} {last : Nat} (ordered : start item ≤ stop item)
      (rest : Tiles (stop item) last items) : Tiles (start item) last (item :: items)

variable {first between last : Nat} {item : Item} {items before after : List Item}

@[simp] theorem tiles_nil : Tiles first last ([] : List Item) ↔ first = last := by
  constructor
  · intro tiles
    cases tiles
    rfl
  · rintro rfl
    exact .nil first

@[simp] theorem tiles_cons :
    Tiles first last (item :: items) ↔
      start item = first ∧ start item ≤ stop item ∧ Tiles (stop item) last items := by
  constructor
  · intro tiles
    cases tiles with
    | cons ordered rest => exact ⟨rfl, ordered, rest⟩
  · rintro ⟨rfl, ordered, rest⟩
    exact .cons ordered rest

theorem Tiles.le (tiles : Tiles first last items) : first ≤ last := by
  induction tiles with
  | nil => exact le_rfl
  | cons ordered _ ih => exact ordered.trans ih

theorem tiles_append :
    Tiles first last (before ++ after) ↔
      ∃ between, Tiles first between before ∧ Tiles between last after := by
  induction before generalizing first with
  | nil => simp
  | cons item before ih =>
    rw [List.cons_append, tiles_cons, ih]
    constructor
    · rintro ⟨begins, ordered, between, left, right⟩
      exact ⟨between, tiles_cons.mpr ⟨begins, ordered, left⟩, right⟩
    · rintro ⟨between, left, right⟩
      obtain ⟨begins, ordered, rest⟩ := tiles_cons.mp left
      exact ⟨begins, ordered, between, rest, right⟩

theorem Tiles.append (left : Tiles first between before) (right : Tiles between last after) :
    Tiles first last (before ++ after) :=
  tiles_append.mpr ⟨between, left, right⟩

/-- An item lies between the ends. -/
theorem Tiles.mem (tiles : Tiles first last items) (mem : item ∈ items) :
    first ≤ start item ∧ start item ≤ stop item ∧ stop item ≤ last := by
  induction tiles with
  | nil => cases mem
  | cons ordered rest ih =>
    rcases List.mem_cons.mp mem with rfl | later
    · exact ⟨le_rfl, ordered, rest.le⟩
    · obtain ⟨begins, within, ends⟩ := ih later
      exact ⟨ordered.trans begins, within, ends⟩

/-- A tiling of an empty range has empty items only. -/
theorem Tiles.stop_eq (tiles : Tiles first first items) (mem : item ∈ items) :
    stop item = first := by
  obtain ⟨begins, ordered, ends⟩ := tiles.mem mem
  exact le_antisymm ends (begins.trans ordered)

/-- The last item ends where the tiling does. -/
theorem Tiles.stop_getLast (tiles : Tiles first last items) (some : items ≠ []) :
    stop (items.getLast some) = last := by
  induction tiles with
  | nil => exact absurd rfl some
  | @cons item items last ordered rest ih =>
    cases items with
    | nil => exact tiles_nil.mp rest
    | cons next later =>
      rw [List.getLast_cons (List.cons_ne_nil next later)]
      exact ih (List.cons_ne_nil next later)

/-- Items that tile and are not empty are separated by position: only the last one ends last. -/
theorem Tiles.countP_stop_eq_one (tiles : Tiles first last items)
    (some : items ≠ []) (filled : ∀ item ∈ items, start item < stop item) :
    items.countP (fun item => stop item = last) = 1 := by
  induction tiles with
  | nil => exact absurd rfl some
  | @cons item items last ordered rest ih =>
    cases items with
    | nil => simp [tiles_nil.mp rest]
    | cons next later =>
      have early : stop item ≠ last := by
        obtain ⟨begins, -, ends⟩ := rest.mem List.mem_cons_self
        have inner := filled next (List.mem_cons_of_mem item List.mem_cons_self)
        exact (begins.trans_lt (inner.trans_le ends)).ne
      rw [List.countP_cons_of_neg (by simpa using early)]
      exact ih (List.cons_ne_nil next later)
        fun item mem => filled item (List.mem_cons_of_mem _ mem)

end FlutterEngine.Std
