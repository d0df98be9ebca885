import Mathlib.Data.List.Range

/-!
# Rearranging what does not conflict

A list of items that is presented in another order, in which items that conflict keep theirs. The
items are told apart by their positions, so that equal items are still presented once each.
-/

namespace FlutterEngine.Std

variable {Item : Type}

/-- What is at the position `ahead` may be presented before what is at `behind`: the two are in
order or do not conflict. -/
def MayPrecede (Conflict : Item → Item → Prop) (order : List Item) (ahead behind : Nat) : Prop :=
  behind < ahead → ∀ earlier later,
    order[behind]? = some earlier → order[ahead]? = some later → ¬Conflict earlier later

/-- The items of `order`, each of them once, in an order in which items that conflict keep theirs.
`positions` are where the items of `arranged` are in `order`. -/
def Rearranges (Conflict : Item → Item → Prop) (order arranged : List Item) : Prop :=
  ∃ positions : List Nat,
    positions.Perm (List.range order.length) ∧
      arranged.map some = positions.map (order[·]?) ∧
      positions.Pairwise (MayPrecede Conflict order)

variable {Conflict : Item → Item → Prop} {order arranged before after : List Item} {item : Item}
  {positions : List Nat}

theorem MayPrecede.append {ahead behind : Nat} (inside : ahead < order.length)
    (mayPrecede : MayPrecede Conflict order ahead behind) :
    MayPrecede Conflict (order ++ [item]) ahead behind := by
  intro less earlier later atBehind atAhead
  rw [List.getElem?_append_left (less.trans inside)] at atBehind
  rw [List.getElem?_append_left inside] at atAhead
  exact mayPrecede less earlier later atBehind atAhead

namespace Rearranges

theorem nil : Rearranges Conflict [] [] := ⟨[], .refl _, rfl, .nil⟩

/-- A further item goes where nothing behind it conflicts with it. -/
theorem insert (rearranges : Rearranges Conflict order (before ++ after))
    (free : ∀ other ∈ after, ¬Conflict other item) :
    Rearranges Conflict (order ++ [item]) (before ++ item :: after) := by
  obtain ⟨positions, perm, arranges, inOrder⟩ := rearranges
  have inside : ∀ position ∈ positions, position < order.length := fun position found =>
    List.mem_range.mp (perm.subset found)
  have kept : positions.map ((order ++ [item])[·]?) = positions.map (order[·]?) :=
    List.map_congr_left fun position found => List.getElem?_append_left (inside position found)
  have inOrder : positions.Pairwise (MayPrecede Conflict (order ++ [item])) :=
    inOrder.imp_of_mem fun found _ mayPrecede => mayPrecede.append (inside _ found)
  rw [List.map_append] at arranges
  obtain ⟨ahead, behind, rfl, aheadItems, behindItems⟩ := List.map_eq_append_iff.mp arranges.symm
  rw [List.map_append, List.map_append] at kept
  obtain ⟨keptAhead, keptBehind⟩ := List.append_inj kept (by simp)
  obtain ⟨ofAhead, ofBehind, across⟩ := List.pairwise_append.mp inOrder
  refine ⟨ahead ++ order.length :: behind, ?_, ?_, ?_⟩
  · rw [List.length_append, List.length_singleton, List.range_succ]
    exact (List.perm_middle.trans (perm.cons _)).trans (List.perm_append_singleton _ _).symm
  · rw [List.map_append, List.map_cons, List.map_append, List.map_cons, keptAhead, keptBehind,
      aheadItems, behindItems, List.getElem?_concat_length]
  · refine List.pairwise_append.mpr ⟨ofAhead, List.pairwise_cons.mpr ⟨?_, ofBehind⟩, ?_⟩
    · -- The new item comes before items that it does not conflict with.
      intro position found less earlier later atBehind atAhead
      rw [List.getElem?_append_left less] at atBehind
      rw [List.getElem?_concat_length] at atAhead
      have presented : some earlier ∈ after.map some := by
        rw [← behindItems]
        exact List.mem_map.mpr ⟨position, found, atBehind⟩
      obtain ⟨other, otherFound, same⟩ := List.mem_map.mp presented
      rw [← Option.some.inj atAhead, ← Option.some.inj same]
      exact free other otherFound
    · intro position found other otherFound
      obtain rfl | otherFound := List.mem_cons.mp otherFound
      · intro less
        exact absurd (inside position (List.mem_append_left _ found)) less.not_gt
      · exact across position found other otherFound

end Rearranges

end FlutterEngine.Std
