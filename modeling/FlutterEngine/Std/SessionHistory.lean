import Mathlib.Algebra.Order.Ring.Int

/-!
# Session histories

The entries of a tab and the one it shows. Pushing drops what is ahead, replacing edits the entry
that is shown. `Embeds` puts a history inside another one, after entries that stay as they are:
what the inner history does can be done in the outer one.
-/

namespace FlutterEngine.Std

universe u v

structure SessionHistory (Entry : Type u) where
  entries : List Entry
  index : Nat
  valid : index < entries.length

namespace SessionHistory

variable {Entry : Type u} (history : SessionHistory Entry)

def single (entry : Entry) : SessionHistory Entry := ⟨[entry], 0, Nat.zero_lt_one⟩

def current : Entry := history.entries.get ⟨history.index, history.valid⟩

def first : Entry := history.entries.get ⟨0, Nat.zero_lt_of_lt history.valid⟩

def push (entry : Entry) : SessionHistory Entry where
  entries := history.entries.take (history.index + 1) ++ [entry]
  index := history.index + 1
  valid := by
    have := history.valid
    simp only [List.length_append, List.length_take, List.length_singleton]
    omega

def replace (entry : Entry) : SessionHistory Entry where
  entries := history.entries.set history.index entry
  index := history.index
  valid := by rw [List.length_set]; exact history.valid

/-- Move by `count` entries, when there is such an entry. -/
def go? (count : Int) : Option (SessionHistory Entry) :=
  if bounds : 0 ≤ history.index + count ∧ history.index + count < history.entries.length then
    some ⟨history.entries, (history.index + count).toNat, by omega⟩
  else none

/-- A move to where there is no entry does nothing. -/
def go (count : Int) : SessionHistory Entry := (history.go? count).getD history

theorem getElem?_index : history.entries[history.index]? = some history.current :=
  List.getElem?_eq_getElem history.valid

theorem getElem?_zero : history.entries[0]? = some history.first :=
  List.getElem?_eq_getElem (Nat.zero_lt_of_lt history.valid)

variable {history}

@[simp] theorem current_replace (entry : Entry) : (history.replace entry).current = entry :=
  List.getElem_set_self _

@[simp] theorem index_replace (entry : Entry) : (history.replace entry).index = history.index := rfl

@[simp] theorem index_push (entry : Entry) : (history.push entry).index = history.index + 1 := rfl

variable {position : Nat} {next : SessionHistory Entry}

theorem getElem?_push_of_le (entry : Entry) (le : position ≤ history.index) :
    (history.push entry).entries[position]? = history.entries[position]? := by
  have valid := history.valid
  change (history.entries.take (history.index + 1) ++ [entry])[position]? = _
  rw [List.getElem?_append_left (by rw [List.length_take]; omega),
    List.getElem?_take_of_lt (by omega)]

theorem length_push (entry : Entry) : (history.push entry).entries.length = history.index + 2 := by
  have valid := history.valid
  change (history.entries.take (history.index + 1) ++ [entry]).length = _
  rw [List.length_append, List.length_take, List.length_singleton]
  omega

@[simp] theorem current_push (entry : Entry) : (history.push entry).current = entry := by
  have valid := history.valid
  have length : (history.entries.take (history.index + 1)).length = history.index + 1 := by
    rw [List.length_take]; omega
  have found : (history.push entry).entries[(history.push entry).index]? = some entry := by
    change (history.entries.take (history.index + 1) ++ [entry])[history.index + 1]? = _
    rw [List.getElem?_append_right (by omega), length]
    simp
  rw [getElem?_index] at found
  exact Option.some.inj found

theorem getElem?_replace_of_ne (entry : Entry) (ne : position ≠ history.index) :
    (history.replace entry).entries[position]? = history.entries[position]? :=
  List.getElem?_set_ne fun same => ne same.symm

theorem replace_push (entry other : Entry) :
    (history.push entry).replace other = history.push other := by
  have valid := history.valid
  have length : (history.entries.take (history.index + 1)).length = history.index + 1 := by
    rw [List.length_take]; omega
  have entries :
      (history.entries.take (history.index + 1) ++ [entry]).set (history.index + 1) other =
        history.entries.take (history.index + 1) ++ [other] := by
    rw [List.set_append_right _ _ (by omega), length, Nat.sub_self, List.set_cons_zero]
  unfold replace push
  congr 1

@[simp] theorem first_push (entry : Entry) : (history.push entry).first = history.first := by
  have start := getElem?_push_of_le entry (Nat.zero_le history.index)
  rw [getElem?_zero, getElem?_zero] at start
  exact Option.some.inj start

theorem first_eq_current (start : history.index = 0) : history.first = history.current := by
  have shown := history.getElem?_index
  rw [start, getElem?_zero] at shown
  exact Option.some.inj shown

theorem first_replace_of_zero (entry : Entry) (start : history.index = 0) :
    (history.replace entry).first = entry := by
  rw [first_eq_current (by rw [index_replace, start]), current_replace]

theorem first_replace_of_ne (entry : Entry) (later : history.index ≠ 0) :
    (history.replace entry).first = history.first := by
  have start := getElem?_replace_of_ne entry later.symm
  rw [getElem?_zero, getElem?_zero] at start
  exact Option.some.inj start

variable {count : Int}

/-- A move keeps the entries. -/
theorem go?_eq_some (moves : history.go? count = some next) :
    next.entries = history.entries ∧ (next.index : Int) = history.index + count := by
  unfold go? at moves
  split at moves
  · obtain rfl := Option.some.inj moves
    exact ⟨rfl, by change ((history.index + count).toNat : Int) = _; omega⟩
  · exact absurd moves nofun

theorem first_go? (moves : history.go? count = some next) :
    next.first = history.first := by
  have start := next.getElem?_zero
  rw [(go?_eq_some moves).1, getElem?_zero] at start
  exact (Option.some.inj start).symm

theorem go?_of_bounds (lower : 0 ≤ history.index + count)
    (upper : history.index + count < history.entries.length) :
    ∃ next, history.go? count = some next := by
  unfold go?
  rw [dif_pos ⟨lower, upper⟩]
  exact ⟨_, rfl⟩

/-! ## A history inside another one -/

variable {Inner : Type u} {Outer : Type v} {Related : Nat → Inner → Outer → Prop}
  {before after : List Outer} {inner innerNext : SessionHistory Inner}
  {outer : SessionHistory Outer}

/-- `outer` has `before`, then the entries of `inner`, each related to it at its position, and
then at most `after`. -/
structure Embeds (Related : Nat → Inner → Outer → Prop) (before after : List Outer)
    (inner : SessionHistory Inner) (outer : SessionHistory Outer) : Prop where
  index : outer.index = before.length + inner.index
  prior : outer.entries.take before.length = before
  ahead : outer.entries.drop (before.length + inner.entries.length) <:+ after
  related : ∀ position page, inner.entries[position]? = some page →
    ∃ entry, outer.entries[before.length + position]? = some entry ∧ Related position page entry

namespace Embeds

variable {entry : Outer}

/-- An inner history that begins with the entry that is shown. -/
theorem single {page : Inner} (related : Related 0 page entry) :
    Embeds Related (outer.entries.take outer.index) (outer.entries.drop (outer.index + 1))
      (.single page) (outer.replace entry) := by
  have valid := outer.valid
  have length : (outer.entries.take outer.index).length = outer.index := by
    rw [List.length_take]; omega
  constructor
  · rw [index_replace, length]; rfl
  · change (outer.entries.set outer.index entry).take _ = _
    rw [length, List.take_set_of_le (Nat.le_refl _)]
  · have kept := List.drop_set_of_lt (a := entry) (l := outer.entries)
      (Nat.lt_succ_self outer.index)
    change (outer.entries.set outer.index entry).drop (_ + 1) <:+ _
    exact length.symm ▸ kept.symm ▸ List.suffix_rfl
  · intro position other found
    have bound : position < 1 := (List.getElem?_eq_some_iff.mp found).1
    obtain rfl : position = 0 := by omega
    have shown := (outer.replace entry).getElem?_index
    rw [index_replace, current_replace] at shown
    exact ⟨entry, by rw [length, Nat.add_zero, shown], Option.some.inj found ▸ related⟩

variable (embeds : Embeds Related before after inner outer)

include embeds

theorem current :
    Related inner.index inner.current outer.current := by
  obtain ⟨entry, found, related⟩ := embeds.related _ _ inner.getElem?_index
  rw [← embeds.index, getElem?_index] at found
  rwa [← Option.some.inj found] at related

theorem push {page : Inner} (related : Related (inner.index + 1) page entry) :
    Embeds Related before after (inner.push page) (outer.push entry) where
  index := by rw [index_push, index_push, embeds.index, Nat.add_assoc]
  prior := by
    have index := embeds.index
    have valid := outer.valid
    change (outer.entries.take (outer.index + 1) ++ [entry]).take before.length = before
    rw [List.take_append_of_le_length (by rw [List.length_take]; omega), List.take_take,
      Nat.min_eq_left (by omega), embeds.prior]
  ahead := by
    have index := embeds.index
    rw [length_push, List.drop_eq_nil_of_le (by rw [length_push]; omega)]
    exact List.nil_suffix
  related := by
    intro position other found
    have index := embeds.index
    have bound : position < inner.index + 2 := by
      rw [← length_push page]
      exact (List.getElem?_eq_some_iff.mp found).1
    rcases Nat.lt_or_ge inner.index position with last | earlier
    · obtain rfl : position = inner.index + 1 := by omega
      have same : other = page := by
        have top := (inner.push page).getElem?_index
        rw [index_push, found, current_push] at top
        exact Option.some.inj top
      have top := (outer.push entry).getElem?_index
      rw [index_push, current_push, index, Nat.add_assoc] at top
      exact ⟨entry, top, same ▸ related⟩
    · rw [getElem?_push_of_le _ earlier] at found
      rw [getElem?_push_of_le _ (by omega)]
      exact embeds.related position other found

theorem replace {page : Inner} (related : Related inner.index page entry) :
    Embeds Related before after (inner.replace page) (outer.replace entry) where
  index := embeds.index
  prior := by
    have index := embeds.index
    change (outer.entries.set outer.index entry).take before.length = before
    rw [List.take_set_of_le (by omega), embeds.prior]
  ahead := by
    have index := embeds.index
    have valid := inner.valid
    change (outer.entries.set outer.index entry).drop
      (before.length + (inner.entries.set inner.index page).length) <:+ after
    rw [List.length_set, List.drop_set_of_lt (by omega)]
    exact embeds.ahead
  related := by
    intro position other found
    have index := embeds.index
    by_cases same : position = inner.index
    · subst same
      have shown := (inner.replace page).getElem?_index
      rw [index_replace, found, current_replace] at shown
      have top := (outer.replace entry).getElem?_index
      rw [index_replace, current_replace, index] at top
      exact ⟨entry, top, Option.some.inj shown ▸ related⟩
    · rw [getElem?_replace_of_ne _ same] at found
      rw [getElem?_replace_of_ne _ (by omega)]
      exact embeds.related position other found

/-- A move inside the inner history is a move of the outer one. -/
theorem go? (moves : inner.go? count = some innerNext) :
    ∃ outerNext, outer.go? count = some outerNext ∧
      Embeds Related before after innerNext outerNext := by
  have index := embeds.index
  obtain ⟨entries, position⟩ := go?_eq_some moves
  obtain ⟨entry, found, -⟩ := embeds.related _ _ (entries ▸ innerNext.getElem?_index)
  have bound := (List.getElem?_eq_some_iff.mp found).1
  obtain ⟨outerNext, same⟩ : ∃ next, outer.go? count = some next :=
    go?_of_bounds (by omega) (by omega)
  obtain ⟨outerEntries, outerPosition⟩ := go?_eq_some same
  refine ⟨outerNext, same, ?_, ?_, ?_, ?_⟩
  · omega
  · rw [outerEntries, embeds.prior]
  · rw [entries, outerEntries]
    exact embeds.ahead
  · rw [entries, outerEntries]
    exact embeds.related

/-- Moving the outer history back over the inner one shows the first page of that. -/
theorem go_back :
    ∃ outerNext, outer.go? (-inner.index) = some outerNext ∧ outerNext.index = before.length ∧
      outerNext.entries = outer.entries ∧ Related 0 inner.first outerNext.current := by
  have valid := inner.valid
  obtain ⟨innerNext, moves⟩ : ∃ next, inner.go? (-inner.index) = some next :=
    go?_of_bounds (by omega) (by omega)
  obtain ⟨outerNext, same, next⟩ := embeds.go? moves
  have start : innerNext.index = 0 := by have := (go?_eq_some moves).2; omega
  have shown := next.current
  rw [start, ← first_eq_current start, first_go? moves] at shown
  exact ⟨outerNext, same, by rw [next.index, start, Nat.add_zero], (go?_eq_some same).1, shown⟩

/-- What follows `before` in the outer history. -/
theorem related_or_mem {position : Nat}
    (found : outer.entries[before.length + position]? = some entry) :
    (∃ page, inner.entries[position]? = some page ∧ Related position page entry) ∨
      entry ∈ after := by
  rcases Nat.lt_or_ge position inner.entries.length with within | past
  · obtain ⟨other, same, related⟩ :=
      embeds.related position _ (List.getElem?_eq_getElem within)
    obtain rfl : other = entry := Option.some.inj (same.symm.trans found)
    exact .inl ⟨_, List.getElem?_eq_getElem within, related⟩
  · obtain ⟨rest, rfl⟩ := Nat.exists_eq_add_of_le past
    rw [← Nat.add_assoc, ← List.getElem?_drop] at found
    exact .inr (embeds.ahead.subset (List.mem_of_getElem? found))

end Embeds
end SessionHistory

end FlutterEngine.Std
