import Mathlib.Data.List.Nodup

/-!
# Least-recently-used maps

A history says which keys were used, the latest first, and which values were added to them. A map
of some capacity holds the keys used last, each with the value added to it last. Entries in the
order of their use hold such a map when each use puts its entry in front, and the last one goes
where there is no room.
-/

namespace FlutterEngine.Std

universe u v

variable {Key : Type u} {Value : Type v} [DecidableEq Key]

/-! ## Recent keys -/

/-- The keys that were used, each once, the latest first. -/
def recent : List Key → List Key
  | [] => []
  | key :: uses => key :: (recent uses).erase key

theorem recent_nodup (uses : List Key) : (recent uses).Nodup := by
  induction uses with
  | nil => exact List.nodup_nil
  | cons key uses ih =>
    exact List.nodup_cons.mpr ⟨fun mem => (ih.mem_erase_iff.mp mem).1 rfl, ih.erase key⟩

/-- What is past the capacity does not come back. -/
theorem take_cons_erase (keys : List Key) (key : Key) (capacity : Nat) :
    (key :: keys.erase key).take capacity =
      (key :: (keys.take capacity).erase key).take capacity := by
  cases capacity with
  | zero => rfl
  | succ room =>
    rw [List.take_succ_cons, List.take_succ_cons]
    congr 1
    induction keys generalizing room with
    | nil => rfl
    | cons first keys ih =>
      by_cases same : first = key
      · subst same
        simp [List.take_take]
      · cases room with
        | zero => rfl
        | succ room => simp [List.erase_cons_tail, same, ih]

/-- The key that a new use of `key` pushes out of the keys. -/
def pushedOut (capacity : Nat) (key : Key) (keys : List Key) : Option Key :=
  if key ∈ keys ∨ keys.length < capacity then none else keys.getLast?

theorem pushedOut_eq_some_iff {capacity : Nat} {keys : List Key} (distinct : keys.Nodup)
    (fits : keys.length ≤ capacity) (key other : Key) :
    pushedOut capacity key keys = some other ↔
      other ∈ keys ∧ other ∉ (key :: keys.erase key).take capacity := by
  unfold pushedOut
  split
  · next stays =>
    refine ⟨fun none => absurd none (by simp), fun ⟨mem, notMem⟩ => absurd ?_ notMem⟩
    have room : (key :: keys.erase key).length ≤ capacity := by
      rw [List.length_cons]
      rcases stays with present | room
      · have := List.length_pos_of_mem present
        rw [List.length_erase_of_mem present]
        omega
      · exact Nat.lt_of_le_of_lt List.length_erase_le room
    rw [List.take_of_length_le room]
    by_cases same : other = key
    · exact same ▸ List.mem_cons_self
    · exact List.mem_cons_of_mem _ ((List.mem_erase_of_ne same).mpr mem)
  · next leaves =>
    obtain ⟨absent, full⟩ := not_or.mp leaves
    have full : keys.length = capacity := by omega
    rw [List.erase_of_not_mem absent]
    obtain rfl | ⟨before, last, rfl⟩ := List.eq_nil_or_concat keys
    · simp
    · subst full
      have ends : (key :: (before.concat last)).take (before.concat last).length =
          key :: before := by
        simp
      rw [ends, List.concat_eq_append, List.getLast?_append_cons]
      rw [List.concat_eq_append] at distinct absent
      have fresh : last ∉ before := fun mem =>
        (List.nodup_append.mp distinct).2.2 last mem last List.mem_cons_self rfl
      constructor
      · intro same
        obtain rfl : last = other := by simpa using same
        refine ⟨by simp, fun mem => ?_⟩
        rcases List.mem_cons.mp mem with rfl | mem
        · exact absent (by simp)
        · exact fresh mem
      · rintro ⟨mem, notMem⟩
        rcases List.mem_append.mp mem with mem | mem
        · exact absurd (List.mem_cons_of_mem _ mem) notMem
        · simp [List.mem_singleton.mp mem]

/-! ## Histories -/

/-- Both lists have the latest first. -/
structure UseHistory (Key : Type u) (Value : Type v) where
  uses : List Key := []
  added : List (Key × Value) := []

namespace UseHistory

variable (history : UseHistory Key Value) (capacity : Nat) (key : Key)

/-- The keys in a map of this capacity. -/
def cached : List Key := (recent history.uses).take capacity

/-- The value added last to the key. -/
def added? : Option Value := history.added.lookup key

def found? : Option Value := if key ∈ history.cached capacity then history.added? key else none

/-- Only a key that is found is used. -/
def find : UseHistory Key Value :=
  if key ∈ history.cached capacity then { history with uses := key :: history.uses } else history

def add (value : Value) : UseHistory Key Value :=
  { uses := key :: history.uses, added := (key, value) :: history.added }

theorem cached_nodup : (history.cached capacity).Nodup :=
  (recent_nodup history.uses).sublist (List.take_sublist _ _)

theorem length_cached_le : (history.cached capacity).length ≤ capacity := by
  rw [cached, List.length_take]
  exact Nat.min_le_left _ _

/-- Only an empty map of capacity zero does not cache what is used. -/
theorem cached_cons (uses : List Key) (added : List (Key × Value)) :
    UseHistory.cached ⟨key :: uses, added⟩ capacity =
      (key :: (UseHistory.cached ⟨uses, added⟩ capacity).erase key).take capacity := by
  simp only [cached, recent]
  exact take_cons_erase _ _ _

theorem cached_add (value : Value) : (history.add key value).cached capacity =
    (key :: (history.cached capacity).erase key).take capacity := by
  rw [add, cached_cons]
  rfl

variable {history capacity key}

theorem cached_find (mem : key ∈ history.cached capacity) :
    (history.find capacity key).cached capacity =
      (key :: (history.cached capacity).erase key).take capacity := by
  rw [find, if_pos mem, cached_cons]

theorem added?_add_self (value : Value) : (history.add key value).added? key = some value := by
  simp [added?, add]

theorem added?_add_of_ne {other : Key} (different : other ≠ key) (value : Value) :
    (history.add key value).added? other = history.added? other := by
  simp [added?, add, List.lookup_cons, beq_false_of_ne different]

theorem added?_find (other : Key) :
    (history.find capacity key).added? other = history.added? other := by
  unfold find
  split <;> rfl

end UseHistory

/-! ## Entries -/

/-- The entries of a map, in the order of their use. -/
structure HoldsRecent (capacity : Nat) (history : UseHistory Key Value)
    (entries : List (Key × Value)) : Prop where
  keys : entries.map Prod.fst = history.cached capacity
  values : ∀ entry ∈ entries, history.added? entry.1 = some entry.2

/-- An entry put in front. -/
def putInFront (capacity : Nat) (key : Key) (value : Value) (entries : List (Key × Value)) :
    List (Key × Value) :=
  ((key, value) :: entries.eraseP (·.1 == key)).take capacity

theorem map_fst_eraseP (entries : List (Key × Value)) (key : Key) :
    (entries.eraseP (·.1 == key)).map Prod.fst = (entries.map Prod.fst).erase key := by
  rw [List.erase_eq_eraseP', List.eraseP_map]
  rfl

theorem map_fst_putInFront (capacity : Nat) (key : Key) (value : Value)
    (entries : List (Key × Value)) : (putInFront capacity key value entries).map Prod.fst =
      (key :: (entries.map Prod.fst).erase key).take capacity := by
  rw [putInFront, List.map_take, List.map_cons, map_fst_eraseP]

namespace HoldsRecent

variable {capacity : Nat} {history : UseHistory Key Value} {entries : List (Key × Value)}
  {key : Key} {value : Value}

theorem nil : HoldsRecent capacity ({} : UseHistory Key Value) [] where
  keys := by simp [UseHistory.cached, recent]
  values _ mem := absurd mem List.not_mem_nil

variable (holds : HoldsRecent capacity history entries)

include holds

theorem length_le : entries.length ≤ capacity := by
  rw [← List.length_map (f := Prod.fst), holds.keys]
  exact history.length_cached_le capacity

theorem nodup : (entries.map Prod.fst).Nodup := by
  rw [holds.keys]
  exact history.cached_nodup capacity

/-- The other entries are of other keys. -/
theorem ne_of_mem_eraseP {entry : Key × Value}
    (mem : entry ∈ entries.eraseP (·.1 == key)) : entry ∈ entries ∧ entry.1 ≠ key := by
  refine ⟨List.mem_of_mem_eraseP mem, ?_⟩
  have erased := List.mem_map_of_mem (f := Prod.fst) mem
  rw [map_fst_eraseP] at erased
  exact (holds.nodup.mem_erase_iff.mp erased).1

theorem found? (mem : (key, value) ∈ entries) :
    history.found? capacity key = some value := by
  have cached := List.mem_map_of_mem (f := Prod.fst) mem
  rw [holds.keys] at cached
  rw [UseHistory.found?, if_pos cached]
  exact holds.values _ mem

theorem not_found? (absent : key ∉ entries.map Prod.fst) :
    history.found? capacity key = none ∧ history.find capacity key = history := by
  rw [holds.keys] at absent
  exact ⟨if_neg absent, if_neg absent⟩

theorem find (mem : (key, value) ∈ entries) :
    HoldsRecent capacity (history.find capacity key) (putInFront capacity key value entries) where
  keys := by
    have cached := List.mem_map_of_mem (f := Prod.fst) mem
    rw [holds.keys] at cached
    rw [map_fst_putInFront, holds.keys, UseHistory.cached_find cached]
  values entry inFront := by
    rw [UseHistory.added?_find]
    rcases List.mem_cons.mp (List.mem_of_mem_take inFront) with rfl | other
    · exact holds.values _ mem
    · exact holds.values _ (holds.ne_of_mem_eraseP other).1

theorem add (key : Key) (value : Value) :
    HoldsRecent capacity (history.add key value) (putInFront capacity key value entries) where
  keys := by rw [map_fst_putInFront, holds.keys, UseHistory.cached_add]
  values entry inFront := by
    rcases List.mem_cons.mp (List.mem_of_mem_take inFront) with rfl | other
    · exact UseHistory.added?_add_self value
    · obtain ⟨mem, different⟩ := holds.ne_of_mem_eraseP other
      rw [UseHistory.added?_add_of_ne different]
      exact holds.values _ mem

end HoldsRecent

end FlutterEngine.Std
