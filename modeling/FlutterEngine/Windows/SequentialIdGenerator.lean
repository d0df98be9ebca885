import Mathlib.Data.List.AList
import Mathlib.Order.Interval.Finset.Nat
import FlutterEngine.Std.Machine

/-!
# The sequential id generator

`sequential_id_generator.cc`: ids for numbers, each the smallest one that is not in use, found
from a lower bound that is kept between calls.
-/

namespace FlutterEngine.Windows

open FlutterEngine.Std

/-- `std::unordered_map<uint32_t, uint32_t>`. -/
abbrev IdMap := AList fun _ : UInt32 => UInt32

namespace IdMap

/-- `emplace` leaves an entry that is there. -/
def emplace (key value : UInt32) (map : IdMap) : IdMap :=
  if (map.lookup key).isSome then map else map.insert key value

/-- Removes `key` from `first`, and `first[key]` from `second`. Erasing the end of a map is
undefined: `none`. -/
def remove (key : UInt32) (first second : IdMap) : Option (IdMap × IdMap) :=
  match first.lookup key with
  | none => some (first, second)
  | some secondKey =>
    match second.lookup secondKey with
    | none => none
    | some _ => some (first.erase key, second.erase secondKey)

theorem lookup_emplace {map : IdMap} {key : UInt32} (absent : map.lookup key = none)
    (value other : UInt32) :
    (map.emplace key value).lookup other =
      if other = key then some value else map.lookup other := by
  unfold emplace
  rw [if_neg (by simp [absent])]
  split
  · next same => rw [same, AList.lookup_insert]
  · next differs => exact AList.lookup_insert_ne differs

theorem lookup_erased (map : IdMap) (key other : UInt32) :
    (map.erase key).lookup other = if other = key then none else map.lookup other := by
  split
  · next same => rw [same, AList.lookup_erase]
  · next differs => exact AList.lookup_erase_ne differs

theorem mem_keys_iff {map : IdMap} {key : UInt32} :
    key ∈ map.keys ↔ ∃ value, map.lookup key = some value := by
  rw [← AList.mem_keys, ← AList.lookup_isSome, Option.isSome_iff_exists]

end IdMap

structure SequentialIdGenerator where
  minId : UInt32
  maxId : UInt32
  minAvailableId : UInt32
  numberToId : IdMap
  idToNumber : IdMap

namespace SequentialIdGenerator

def create (minId maxId : UInt32) : SequentialIdGenerator where
  minId := minId
  maxId := maxId
  minAvailableId := minId
  numberToId := ∅
  idToNumber := ∅

variable (generator : SequentialIdGenerator)

/-- The `while` loop of `GetNextAvailableId`. -/
def advance (id : UInt32) : UInt32 :=
  if (generator.idToNumber.lookup id).isSome ∧ id < generator.maxId then
    advance (id + 1)
  else id
termination_by generator.maxId.toNat - id.toNat
decreasing_by
  next continues =>
    have below := UInt32.lt_iff_toNat_lt.mp continues.2
    have bound := generator.maxId.toNat_lt
    rw [UInt32.toNat_add, UInt32.toNat_one, Nat.mod_eq_of_lt (by omega)]
    omega

def getNextAvailableId : UInt32 × SequentialIdGenerator :=
  let advanced := generator.advance generator.minAvailableId
  let next := if generator.maxId ≤ advanced then generator.minId else advanced
  (next, { generator with minAvailableId := next })

def updateNextAvailableIdAfterRelease (id : UInt32) : SequentialIdGenerator :=
  if id < generator.minAvailableId then { generator with minAvailableId := id } else generator

def getGeneratedId (number : UInt32) : UInt32 × SequentialIdGenerator :=
  match generator.numberToId.lookup number with
  | some id => (id, generator)
  | none =>
    let (id, next) := generator.getNextAvailableId
    (id, { next with
      numberToId := next.numberToId.emplace number id
      idToNumber := next.idToNumber.emplace id number })

/-- `Remove` from both maps. -/
def removeNumber (number : UInt32) : Option SequentialIdGenerator :=
  (IdMap.remove number generator.numberToId generator.idToNumber).map fun (numbers, ids) =>
    { generator with numberToId := numbers, idToNumber := ids }

def releaseNumber (number : UInt32) : Option SequentialIdGenerator :=
  match generator.numberToId.lookup number with
  | some id => (generator.updateNextAvailableIdAfterRelease id).removeNumber number
  | none => some generator

def releaseId (id : UInt32) : Option SequentialIdGenerator :=
  match generator.idToNumber.lookup id with
  | some number => (generator.updateNextAvailableIdAfterRelease id).removeNumber number
  | none => some generator

/-! ## Runs -/

inductive Call where
  | getGeneratedId (number : UInt32)
  | releaseNumber (number : UInt32)
  | releaseId (id : UInt32)
  deriving DecidableEq

def call : Call → Option SequentialIdGenerator
  | .getGeneratedId number => some (generator.getGeneratedId number).2
  | .releaseNumber number => generator.releaseNumber number
  | .releaseId id => generator.releaseId id

def machine : Machine SequentialIdGenerator Call where
  Initial generator := ∃ minId maxId, minId ≤ maxId ∧ generator = create minId maxId
  step := call

/-- How many numbers have an id. -/
def live : Nat := generator.numberToId.keys.length

/-- The two maps are inverse bijections. -/
def MapsInverse : Prop :=
  ∀ number id, generator.numberToId.lookup number = some id ↔
    generator.idToNumber.lookup id = some number

/-- The smallest id of the range that is not in use. -/
def SmallestFree (id : UInt32) : Prop :=
  generator.minId ≤ id ∧ id ≤ generator.maxId ∧ generator.idToNumber.lookup id = none ∧
    ∀ other, generator.minId ≤ other → other < id → generator.idToNumber.lookup other ≠ none

/-- What a call promises: the maps remain inverse, a number without an id gets the smallest one
that is free, and every other number keeps its id unless that or the number is released. -/
structure Serves (call : Call) (next : SequentialIdGenerator) : Prop where
  inverse : next.MapsInverse
  returned : ∀ number, call = .getGeneratedId number →
    next.numberToId.lookup number = some (generator.getGeneratedId number).1
  smallest : ∀ number, call = .getGeneratedId number →
    generator.numberToId.lookup number = none →
    generator.SmallestFree (generator.getGeneratedId number).1
  bound : ∀ number id, generator.numberToId.lookup number = some id →
    call ≠ .releaseNumber number → call ≠ .releaseId id →
    next.numberToId.lookup number = some id

/-- Every call of the run is defined and keeps its promise. -/
def Orderly : SequentialIdGenerator → List Call → Prop
  | _, [] => True
  | generator, call :: calls =>
    ∃ next, generator.call call = some next ∧ generator.Serves call next ∧ next.Orderly calls

/-- No more numbers than ids are live after the call. -/
def WithinRange : Call → Prop
  | .getGeneratedId number =>
    generator.numberToId.lookup number = none →
      generator.live + 1 ≤ generator.maxId.toNat - generator.minId.toNat + 1
  | _ => True

/-- A number that needs an id finds one below `max_id`, or is the only one of a range of one. -/
def FindsId : Call → Prop
  | .getGeneratedId number =>
    generator.numberToId.lookup number = none →
      generator.live < max (generator.maxId.toNat - generator.minId.toNat) 1
  | _ => True

instance : DecidablePred generator.WithinRange
  | .getGeneratedId _ => inferInstanceAs (Decidable (_ → _))
  | .releaseNumber _ => inferInstanceAs (Decidable True)
  | .releaseId _ => inferInstanceAs (Decidable True)

instance : DecidablePred generator.FindsId
  | .getGeneratedId _ => inferInstanceAs (Decidable (_ → _))
  | .releaseNumber _ => inferInstanceAs (Decidable True)
  | .releaseId _ => inferInstanceAs (Decidable True)

/-! ## The cached lower bound -/

/-- The ids that are ever given: those below `max_id`, and `min_id` when the two are one. -/
def ids : Finset Nat :=
  Finset.Ico generator.minId.toNat
    (generator.minId.toNat + max (generator.maxId.toNat - generator.minId.toNat) 1)

/-- Between two calls: no id below the cached one is free. -/
structure Wf : Prop where
  ordered : generator.minId ≤ generator.maxId
  inverse : generator.MapsInverse
  inRange : ∀ id, generator.idToNumber.lookup id ≠ none → id.toNat ∈ generator.ids
  available : generator.minId ≤ generator.minAvailableId ∧
    generator.minAvailableId ≤ generator.maxId
  inUse : ∀ id, generator.minId ≤ id → id < generator.minAvailableId →
    generator.idToNumber.lookup id ≠ none

variable {generator}

theorem wf_create {minId maxId : UInt32} (ordered : minId ≤ maxId) : (create minId maxId).Wf := by
  have below : ∀ id : UInt32, minId ≤ id → ¬id < minId := fun id above => UInt32.not_lt.mpr above
  refine ⟨ordered, fun number id => ?_, fun id used => absurd ?_ used,
    ⟨UInt32.le_refl minId, ordered⟩, fun id above less => absurd less (below id above)⟩
  · simp [create]
  · simp [create]

theorem advance_spec (id : UInt32) (inside : id ≤ generator.maxId) :
    id ≤ generator.advance id ∧ generator.advance id ≤ generator.maxId ∧
      (∀ other, id ≤ other → other < generator.advance id →
        generator.idToNumber.lookup other ≠ none) ∧
      (generator.advance id < generator.maxId →
        generator.idToNumber.lookup (generator.advance id) = none) := by
  induction id using advance.induct generator with
  | case1 id continues ih =>
    have below := UInt32.lt_iff_toNat_lt.mp continues.2
    have bound := generator.maxId.toNat_lt
    have next : (id + 1).toNat = id.toNat + 1 := by
      rw [UInt32.toNat_add, UInt32.toNat_one, Nat.mod_eq_of_lt (by omega)]
    rw [advance, if_pos continues]
    obtain ⟨after, within, used, free⟩ :=
      ih (UInt32.le_iff_toNat_le.mpr (next ▸ Nat.succ_le_of_lt below))
    rw [UInt32.le_iff_toNat_le, next] at after
    refine ⟨UInt32.le_iff_toNat_le.mpr (by omega), within, fun other above less => ?_, free⟩
    by_cases same : other = id
    · rw [same]
      exact Option.isSome_iff_ne_none.mp continues.1
    · have differs : other.toNat ≠ id.toNat := fun equal => same (UInt32.toNat_inj.mp equal)
      rw [UInt32.le_iff_toNat_le] at above
      exact used other (UInt32.le_iff_toNat_le.mpr (by omega)) less
  | case2 id stops =>
    rw [advance, if_neg stops]
    refine ⟨UInt32.le_refl id, inside, fun other above less => ?_, fun below => ?_⟩
    · exact absurd less (UInt32.not_lt.mpr above)
    · by_contra used
      exact stops ⟨Option.isSome_iff_ne_none.mpr used, below⟩

theorem mem_ids_iff {id : Nat} :
    id ∈ generator.ids ↔ generator.minId.toNat ≤ id ∧
      id < generator.minId.toNat + max (generator.maxId.toNat - generator.minId.toNat) 1 :=
  Finset.mem_Ico

/-- As many ids are in use as numbers are live. -/
theorem Wf.card_used (wf : generator.Wf) :
    (generator.idToNumber.keys.toFinset.image UInt32.toNat).card = generator.live := by
  rw [Finset.card_image_of_injective _ fun _ _ => UInt32.toNat_inj.mp, live,
    ← List.toFinset_card_of_nodup (AList.keys_nodup generator.numberToId)]
  refine Finset.card_nbij' (fun id => (generator.idToNumber.lookup id).getD 0)
    (fun number => (generator.numberToId.lookup number).getD 0) ?_ ?_ ?_ ?_
  · intro id used
    obtain ⟨number, found⟩ := IdMap.mem_keys_iff.mp (List.mem_toFinset.mp used)
    simpa [found] using IdMap.mem_keys_iff.mpr ⟨id, (wf.inverse number id).mpr found⟩
  · intro number bound
    obtain ⟨id, found⟩ := IdMap.mem_keys_iff.mp (List.mem_toFinset.mp bound)
    simpa [found] using IdMap.mem_keys_iff.mpr ⟨number, (wf.inverse number id).mp found⟩
  · intro id used
    obtain ⟨number, found⟩ := IdMap.mem_keys_iff.mp (List.mem_toFinset.mp used)
    dsimp only
    rw [found, Option.getD_some, (wf.inverse number id).mpr found, Option.getD_some]
  · intro number bound
    obtain ⟨id, found⟩ := IdMap.mem_keys_iff.mp (List.mem_toFinset.mp bound)
    dsimp only
    rw [found, Option.getD_some, (wf.inverse number id).mp found, Option.getD_some]

theorem mem_used_iff {id : UInt32} :
    id.toNat ∈ generator.idToNumber.keys.toFinset.image UInt32.toNat ↔
      generator.idToNumber.lookup id ≠ none := by
  rw [Finset.mem_image, Option.ne_none_iff_exists']
  constructor
  · rintro ⟨other, used, same⟩
    rw [← UInt32.toNat_inj.mp same]
    exact IdMap.mem_keys_iff.mp (List.mem_toFinset.mp used)
  · intro used
    exact ⟨id, List.mem_toFinset.mpr (IdMap.mem_keys_iff.mpr used), rfl⟩

/-- An id is left exactly when fewer numbers are live than there are ids. -/
theorem Wf.exists_free_iff (wf : generator.Wf) :
    (∃ id : UInt32, id.toNat ∈ generator.ids ∧ generator.idToNumber.lookup id = none) ↔
      generator.live < max (generator.maxId.toNat - generator.minId.toNat) 1 := by
  have size : generator.ids.card = max (generator.maxId.toNat - generator.minId.toNat) 1 := by
    rw [ids, Nat.card_Ico]
    omega
  have inside : generator.idToNumber.keys.toFinset.image UInt32.toNat ⊆ generator.ids := by
    intro id used
    obtain ⟨id, found, rfl⟩ := Finset.mem_image.mp used
    exact wf.inRange id (mem_used_iff.mp used)
  rw [← size, ← wf.card_used]
  constructor
  · rintro ⟨id, member, free⟩
    refine Finset.card_lt_card ⟨inside, fun all => ?_⟩
    exact mem_used_iff.mp (all member) free
  · intro fewer
    obtain ⟨id, member, unused⟩ := Finset.exists_mem_notMem_of_card_lt_card fewer
    have bounds := mem_ids_iff.mp member
    have ordered := UInt32.le_iff_toNat_le.mp wf.ordered
    have limit := generator.maxId.toNat_lt
    have small : id < UInt32.size := by
      change id < 2 ^ 32
      omega
    have same : (UInt32.ofNatLT id small).toNat = id := UInt32.toNat_ofNatLT
    refine ⟨.ofNatLT id small, by rwa [same], ?_⟩
    by_contra used
    exact unused (same ▸ mem_used_iff.mpr used)

theorem Wf.next_mem_ids (wf : generator.Wf) :
    generator.getNextAvailableId.1.toNat ∈ generator.ids := by
  obtain ⟨after, within, -⟩ := advance_spec _ wf.available.2
  have ordered := UInt32.le_iff_toNat_le.mp wf.ordered
  have start := UInt32.le_iff_toNat_le.mp wf.available.1
  rw [UInt32.le_iff_toNat_le] at after within
  rw [mem_ids_iff]
  unfold getNextAvailableId
  dsimp only
  split
  · omega
  · next below =>
      have less := UInt32.lt_iff_toNat_lt.mp (UInt32.not_le.mp below)
      omega

/-- The id that is given next is the smallest free one, or every id is in use. -/
theorem Wf.smallestFree_iff (wf : generator.Wf) :
    generator.SmallestFree generator.getNextAvailableId.1 ↔
      generator.live < max (generator.maxId.toNat - generator.minId.toNat) 1 := by
  obtain ⟨after, within, used, free⟩ := advance_spec _ wf.available.2
  have ordered := UInt32.le_iff_toNat_le.mp wf.ordered
  have start := UInt32.le_iff_toNat_le.mp wf.available.1
  have allUsed : ∀ other, generator.minId ≤ other →
      other < generator.advance generator.minAvailableId →
      generator.idToNumber.lookup other ≠ none := by
    intro other above less
    by_cases early : other < generator.minAvailableId
    · exact wf.inUse other above early
    · exact used other (UInt32.not_lt.mp early) less
  rw [← wf.exists_free_iff]
  rw [UInt32.le_iff_toNat_le] at after within
  constructor
  · intro smallest
    exact ⟨_, wf.next_mem_ids, smallest.2.2.1⟩
  · rintro ⟨id, member, unused⟩
    have bounds := mem_ids_iff.mp member
    unfold getNextAvailableId
    dsimp only
    split
    · next full =>
        rw [UInt32.le_iff_toNat_le] at full
        have same : id = generator.minId := by
          by_contra differs
          have other : id.toNat ≠ generator.minId.toNat := fun equal =>
            differs (UInt32.toNat_inj.mp equal)
          exact allUsed id (UInt32.le_iff_toNat_le.mpr bounds.1)
            (UInt32.lt_iff_toNat_lt.mpr (by omega)) unused
        rw [same] at unused
        exact ⟨UInt32.le_refl _, wf.ordered, unused, fun other above less =>
          absurd less (UInt32.not_lt.mpr above)⟩
    · next below =>
        have less := UInt32.not_le.mp below
        exact ⟨UInt32.le_iff_toNat_le.mpr (by omega), UInt32.le_iff_toNat_le.mpr within,
          free less, allUsed⟩

/-! ## Calls -/

@[simp] theorem getNextAvailableId_numberToId :
    generator.getNextAvailableId.2.numberToId = generator.numberToId := rfl

@[simp] theorem getNextAvailableId_idToNumber :
    generator.getNextAvailableId.2.idToNumber = generator.idToNumber := rfl

variable {number : UInt32} {next : SequentialIdGenerator}

theorem getGeneratedId_of_bound {id : UInt32}
    (bound : generator.numberToId.lookup number = some id) :
    generator.getGeneratedId number = (id, generator) := by
  simp [getGeneratedId, bound]

theorem getGeneratedId_of_new (new : generator.numberToId.lookup number = none) :
    generator.getGeneratedId number =
      (generator.getNextAvailableId.1, { generator.getNextAvailableId.2 with
        numberToId := generator.numberToId.emplace number generator.getNextAvailableId.1
        idToNumber := generator.idToNumber.emplace generator.getNextAvailableId.1 number }) := by
  simp [getGeneratedId, new]

theorem Wf.getGeneratedId (wf : generator.Wf) (new : generator.numberToId.lookup number = none)
    (smallest : generator.SmallestFree generator.getNextAvailableId.1) :
    (generator.getGeneratedId number).2.Wf := by
  obtain ⟨above, inside, free, used⟩ := smallest
  rw [getGeneratedId_of_new new]
  have lookupId := IdMap.lookup_emplace free number
  refine ⟨wf.ordered, fun other id => ?_, fun id taken => ?_, ⟨above, inside⟩,
    fun id least less => ?_⟩
  · dsimp only
    rw [IdMap.lookup_emplace new, lookupId]
    split
    · next same =>
        subst same
        rw [Option.some_inj, eq_comm]
        split
        · next equal => simp [equal]
        · next differs =>
            refine iff_of_false differs fun found => ?_
            rw [(wf.inverse other id).mpr found] at new
            exact Option.some_ne_none _ new
    · next differs =>
        split
        · next equal =>
            subst equal
            refine iff_of_false (fun found => ?_)
              fun found => differs (Option.some_inj.mp found).symm
            rw [(wf.inverse other _).mp found] at free
            exact Option.some_ne_none _ free
        · exact wf.inverse other id
  · dsimp only at taken
    rw [lookupId] at taken
    split at taken
    · next same => exact same ▸ wf.next_mem_ids
    · exact wf.inRange id taken
  · dsimp only
    rw [lookupId, if_neg fun same => UInt32.lt_irrefl _ (same ▸ less)]
    exact used id least less

theorem updateNextAvailableIdAfterRelease_eq (id : UInt32) :
    generator.updateNextAvailableIdAfterRelease id =
      { generator with
        minAvailableId :=
          if id < generator.minAvailableId then id else generator.minAvailableId } := by
  unfold updateNextAvailableIdAfterRelease
  split <;> rfl

/-- The state after a number and its id are released. -/
theorem Wf.removeNumber (wf : generator.Wf) {id : UInt32}
    (bound : generator.numberToId.lookup number = some id) :
    ∃ next, (generator.updateNextAvailableIdAfterRelease id).removeNumber number = some next ∧
      next.Wf ∧ next.numberToId = generator.numberToId.erase number := by
  have used := (wf.inverse number id).mp bound
  rw [updateNextAvailableIdAfterRelease_eq]
  refine ⟨{ generator with
    minAvailableId := if id < generator.minAvailableId then id else generator.minAvailableId
    numberToId := generator.numberToId.erase number
    idToNumber := generator.idToNumber.erase id }, ?_, ?_, rfl⟩
  · simp [SequentialIdGenerator.removeNumber, IdMap.remove, bound, used]
  · refine ⟨wf.ordered, fun other given => ?_, fun given taken => ?_, ?_,
      fun given least less => ?_⟩
    · dsimp only
      rw [IdMap.lookup_erased, IdMap.lookup_erased]
      split
      · next same =>
          subst same
          split
          · exact iff_of_false (by simp) (by simp)
          · next differs =>
              refine iff_of_false (by simp) fun found => differs ?_
              rw [(wf.inverse other given).mpr found] at bound
              exact Option.some_inj.mp bound
      · next differs =>
          split
          · next same =>
              subst same
              refine iff_of_false (fun found => differs ?_) (by simp)
              rw [(wf.inverse other given).mp found] at used
              exact Option.some_inj.mp used
          · exact wf.inverse other given
    · dsimp only at taken
      rw [IdMap.lookup_erased] at taken
      split at taken
      · exact absurd rfl taken
      · exact wf.inRange given taken
    · have inside := mem_ids_iff.mp (wf.inRange id (by simp [used]))
      dsimp only
      split
      · next lower =>
          exact ⟨UInt32.le_iff_toNat_le.mpr inside.1,
            UInt32.le_trans (UInt32.le_of_lt lower) wf.available.2⟩
      · exact wf.available
    · dsimp only at less ⊢
      have differs : given ≠ id := by
        rintro rfl
        split at less
        · exact UInt32.lt_irrefl _ less
        · next higher => exact higher less
      rw [IdMap.lookup_erased, if_neg differs]
      refine wf.inUse given least ?_
      split at less
      · next lower => exact UInt32.lt_trans less lower
      · exact less

/-- What is left to show of a call that releases. -/
theorem Serves.ofRelease {call : Call} (wf : next.Wf)
    (releases : ∀ number, call ≠ .getGeneratedId number)
    (bound : ∀ number id, generator.numberToId.lookup number = some id →
      call ≠ .releaseNumber number → call ≠ .releaseId id →
      next.numberToId.lookup number = some id) : generator.Serves call next where
  inverse := wf.inverse
  returned number same := absurd same (releases number)
  smallest number same := absurd same (releases number)
  bound := bound

/-- A call that finds an id keeps its promise. -/
theorem Wf.call (wf : generator.Wf) {call : Call} (finds : generator.FindsId call) :
    ∃ next, generator.call call = some next ∧ generator.Serves call next ∧ next.Wf := by
  cases call with
  | getGeneratedId number =>
    refine ⟨_, rfl, ?_⟩
    cases found : generator.numberToId.lookup number with
    | some id =>
      have same := getGeneratedId_of_bound found
      rw [same]
      refine ⟨⟨wf.inverse, ?_, ?_, fun _ _ bound _ _ => bound⟩, wf⟩
      · rintro _ ⟨⟩
        rw [found, same]
      · rintro _ ⟨⟩ new
        exact absurd (found.symm.trans new) (Option.some_ne_none id)
    | none =>
      have smallest := wf.smallestFree_iff.mpr (finds found)
      have after := wf.getGeneratedId found smallest
      have given := getGeneratedId_of_new found
      refine ⟨⟨after.inverse, ?_, ?_, fun other id bound _ _ => ?_⟩, after⟩
      · rintro _ ⟨⟩
        rw [given]
        exact (IdMap.lookup_emplace found _ _).trans (if_pos rfl)
      · rintro _ ⟨⟩ _
        rwa [given]
      · rw [given]
        dsimp only
        rw [IdMap.lookup_emplace found, if_neg ?_, bound]
        rintro rfl
        exact Option.some_ne_none _ (bound.symm.trans found)
  | releaseNumber number =>
    cases found : generator.numberToId.lookup number with
    | none =>
      refine ⟨generator, by simp [SequentialIdGenerator.call, releaseNumber, found],
        .ofRelease wf (by simp) fun _ _ bound _ _ => bound, wf⟩
    | some id =>
      obtain ⟨next, removed, after, numbers⟩ := wf.removeNumber found
      refine ⟨next, by simpa [SequentialIdGenerator.call, releaseNumber, found] using removed,
        .ofRelease after (by simp) fun other given bound others _ => ?_, after⟩
      rw [numbers, IdMap.lookup_erased, if_neg (fun same => others (by rw [same])), bound]
  | releaseId id =>
    cases found : generator.idToNumber.lookup id with
    | none =>
      refine ⟨generator, by simp [SequentialIdGenerator.call, releaseId, found],
        .ofRelease wf (by simp) fun _ _ bound _ _ => bound, wf⟩
    | some number =>
      have bound := (wf.inverse number id).mpr found
      obtain ⟨next, removed, after, numbers⟩ := wf.removeNumber bound
      refine ⟨next, by simpa [SequentialIdGenerator.call, releaseId, found] using removed,
        .ofRelease after (by simp) fun other given others _ differs => ?_, after⟩
      rw [numbers, IdMap.lookup_erased, if_neg ?_, others]
      rintro rfl
      exact differs (by rw [Option.some_inj.mp (bound.symm.trans others)])

/-- A call that keeps its promise has found an id. -/
theorem Wf.findsId (wf : generator.Wf) {call : Call}
    (serves : generator.Serves call next) : generator.FindsId call := by
  cases call with
  | getGeneratedId number =>
    intro new
    have smallest := serves.smallest number rfl new
    rw [getGeneratedId_of_new new] at smallest
    exact wf.smallestFree_iff.mp smallest
  | releaseNumber number => trivial
  | releaseId id => trivial

theorem Wf.orderly_iff (wf : generator.Wf) (calls : List Call) :
    generator.Orderly calls ↔ machine.Meets FindsId generator calls := by
  induction calls generalizing generator with
  | nil => exact iff_of_true trivial trivial
  | cons call calls ih =>
    constructor
    · rintro ⟨next, moves, serves, rest⟩
      have finds := wf.findsId serves
      refine ⟨finds, fun other transition => ?_⟩
      obtain ⟨after, movesAfter, -, wfAfter⟩ := wf.call finds
      cases moves.symm.trans transition
      cases moves.symm.trans movesAfter
      exact (ih wfAfter).mp rest
    · rintro ⟨finds, rest⟩
      obtain ⟨next, moves, serves, wfNext⟩ := wf.call finds
      exact ⟨next, moves, serves, (ih wfNext).mpr (rest next moves)⟩

/-- Every call of a run is served, with maps that remain inverse and the smallest free ids,
exactly when each number that needs an id finds fewer numbers live than there are ids below
`max_id`. -/
theorem run_orderly_iff (minId maxId : UInt32) (ordered : minId ≤ maxId) (calls : List Call) :
    (create minId maxId).Orderly calls ↔ machine.Meets FindsId (create minId maxId) calls :=
  (wf_create ordered).orderly_iff calls

theorem run_orderly_iff_touches :
    (create 4 128).Orderly [.getGeneratedId 45, .getGeneratedId 55, .releaseNumber 45] ↔
      machine.Meets FindsId (create 4 128)
        [.getGeneratedId 45, .getGeneratedId 55, .releaseNumber 45] :=
  run_orderly_iff 4 128 (by decide) _

/-- `max_id` is free, and the second number gets the id of the first one. -/
theorem fullRange_not_orderly :
    ¬ ∀ (minId maxId : UInt32), minId ≤ maxId → ∀ calls : List Call,
      machine.Meets WithinRange (create minId maxId) calls →
        (create minId maxId).Orderly calls := by
  intro orderly
  have within : machine.Meets WithinRange (create 0 1)
      [.getGeneratedId 10, .getGeneratedId 20] := by decide
  have finds := ((wf_create (by decide)).orderly_iff _).mp (orderly 0 1 (by decide) _ within)
  exact absurd finds (by decide)

end SequentialIdGenerator

end FlutterEngine.Windows
