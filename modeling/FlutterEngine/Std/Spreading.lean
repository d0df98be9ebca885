import Mathlib.Order.Basic

/-!
# Regions that spread over what they meet

A region is scanned past a list of items and takes in each one it meets; at the end it is
replaced by its outline, which covers more but meets no further item. An item that the scan
has passed may be met by what is taken in later, so whether the outline is closed depends
on the order of the list.
-/

namespace FlutterEngine.Std

universe u v

/-- What it is for an item to meet a region and for a region to take an item in. -/
structure Spreading (Region : Type u) (Item : Type v) [Preorder Region] where
  meets : Item → Region → Prop
  covered : Item → Region → Prop
  takeIn : Region → Item → Region
  outline : Region → Region
  meets_mono : ∀ {item small large}, small ≤ large → meets item small → meets item large
  covered_mono : ∀ {item small large}, small ≤ large → covered item small → covered item large
  le_takeIn : ∀ region item, region ≤ takeIn region item
  covered_takeIn : ∀ region item, covered item (takeIn region item)
  takeIn_le : ∀ {region item bound}, region ≤ bound → covered item bound →
    takeIn region item ≤ bound
  le_outline : ∀ region, region ≤ outline region
  outline_mono : ∀ {small large}, small ≤ large → outline small ≤ outline large
  meets_outline : ∀ {item region}, meets item (outline region) → meets item region

namespace Spreading

variable {Region : Type u} {Item : Type v} [Preorder Region] (spreading : Spreading Region Item)

/-- Take all of these in. -/
def reach (region : Region) (items : List Item) : Region := items.foldl spreading.takeIn region

/-- Each item meets the region together with the items before it. -/
def Cascade : Region → List Item → Prop
  | _, [] => True
  | region, item :: items => spreading.meets item region ∧ Cascade (spreading.takeIn region item) items

/-- Every item that meets the region is covered by it. -/
def Closed (items : List Item) (region : Region) : Prop :=
  ∀ item ∈ items, spreading.meets item region → spreading.covered item region

/-- No cascade of the items, in whatever order, reaches beyond the outline of one in the
order of the list. -/
def Orderly (region : Region) (items : List Item) : Prop :=
  ∀ cascade, (∀ item ∈ cascade, item ∈ items) → spreading.Cascade region cascade →
    ∃ ordered, ordered.Sublist items ∧ spreading.Cascade region ordered ∧
      spreading.reach region cascade ≤ spreading.outline (spreading.reach region ordered)

variable {spreading}

theorem Cascade.append {region : Region} {items : List Item} {item : Item}
    (cascade : spreading.Cascade region items)
    (meets : spreading.meets item (spreading.reach region items)) :
    spreading.Cascade region (items ++ [item]) := by
  induction items generalizing region with
  | nil => exact ⟨meets, trivial⟩
  | cons first rest ih => exact ⟨cascade.1, ih cascade.2 meets⟩

theorem reach_append (region : Region) (items : List Item) (item : Item) :
    spreading.reach region (items ++ [item]) =
      spreading.takeIn (spreading.reach region items) item := by
  simp only [reach, List.foldl_append, List.foldl_cons, List.foldl_nil]

/-- What is closed contains every cascade that starts in it. -/
theorem Closed.reach_le {items cascade : List Item} {region bound : Region}
    (closed : spreading.Closed items bound) (within : region ≤ bound)
    (among : ∀ item ∈ cascade, item ∈ items) (starts : spreading.Cascade region cascade) :
    spreading.reach region cascade ≤ bound := by
  induction cascade generalizing region with
  | nil => exact within
  | cons item rest ih =>
    obtain ⟨meets, onwards⟩ := starts
    have covered : spreading.covered item bound :=
      closed item (among item List.mem_cons_self) (spreading.meets_mono within meets)
    exact ih (spreading.takeIn_le within covered)
      (fun other member => among other (List.mem_cons_of_mem _ member)) onwards

section Scan

variable [∀ item region, Decidable (spreading.meets item region)]

variable (spreading) in
/-- Take in each item that the region meets when its turn comes. -/
def scan (region : Region) (items : List Item) : Region :=
  items.foldl (fun region item =>
    if spreading.meets item region then spreading.takeIn region item else region) region

theorem scan_cons (region : Region) (item : Item) (items : List Item) :
    spreading.scan region (item :: items) =
      spreading.scan (if spreading.meets item region then spreading.takeIn region item else region)
        items := rfl

variable (spreading) in
/-- What the scan takes in is a cascade in the order of the list. -/
theorem exists_cascade (region : Region) (items : List Item) :
    ∃ taken, taken.Sublist items ∧ spreading.Cascade region taken ∧
      spreading.scan region items = spreading.reach region taken := by
  induction items generalizing region with
  | nil => exact ⟨[], List.Sublist.slnil, trivial, rfl⟩
  | cons item rest ih =>
    rw [scan_cons]
    by_cases meets : spreading.meets item region
    · rw [if_pos meets]
      obtain ⟨taken, sublist, cascade, same⟩ := ih (spreading.takeIn region item)
      exact ⟨item :: taken, sublist.cons_cons item, ⟨meets, cascade⟩, same⟩
    · rw [if_neg meets]
      obtain ⟨taken, sublist, cascade, same⟩ := ih region
      exact ⟨taken, sublist.cons item, cascade, same⟩

/-- The scan reaches as far as every cascade in the order of the list. -/
theorem reach_le_scan {ordered items : List Item} {start region : Region}
    (sublist : ordered.Sublist items) (within : start ≤ region)
    (cascade : spreading.Cascade start ordered) :
    spreading.reach start ordered ≤ spreading.scan region items := by
  induction sublist generalizing start region with
  | slnil => exact within
  | cons item _ ih =>
    rw [scan_cons]
    refine ih (within.trans ?_) cascade
    split
    · exact spreading.le_takeIn region item
    · exact le_rfl
  | cons_cons item _ ih =>
    obtain ⟨meets, onwards⟩ := cascade
    rw [scan_cons, if_pos (spreading.meets_mono within meets)]
    refine ih ?_ onwards
    exact spreading.takeIn_le (within.trans (spreading.le_takeIn region item))
      (spreading.covered_takeIn region item)

variable (spreading) in
theorem le_scan (region : Region) (items : List Item) : region ≤ spreading.scan region items :=
  reach_le_scan (List.nil_sublist items) le_rfl trivial

variable (spreading) in
/-- The outline of the scan is closed exactly when the list is orderly. -/
theorem closed_scan_iff (region : Region) (items : List Item) :
    spreading.Closed items (spreading.outline (spreading.scan region items)) ↔
      spreading.Orderly region items := by
  constructor
  · intro closed cascade among starts
    obtain ⟨taken, sublist, ordered, same⟩ := exists_cascade spreading region items
    refine ⟨taken, sublist, ordered, ?_⟩
    rw [← same]
    exact closed.reach_le ((le_scan spreading region items).trans (spreading.le_outline _)) among starts
  · intro orderly item member meets
    have meets := spreading.meets_outline meets
    obtain ⟨taken, sublist, cascade, same⟩ := exists_cascade spreading region items
    rw [same] at meets
    have among : ∀ other ∈ taken ++ [item], other ∈ items := by
      intro other within
      rcases List.mem_append.mp within with earlier | here
      · exact sublist.subset earlier
      · exact List.mem_singleton.mp here ▸ member
    -- The item extends the cascade, so one in the order of the list reaches over it.
    obtain ⟨ordered, inOrder, starts, reaches⟩ := orderly _ among (cascade.append meets)
    rw [reach_append] at reaches
    have within := spreading.outline_mono (reach_le_scan inOrder le_rfl starts)
    exact spreading.covered_mono (reaches.trans within) (spreading.covered_takeIn _ item)

end Scan

end Spreading

end FlutterEngine.Std
