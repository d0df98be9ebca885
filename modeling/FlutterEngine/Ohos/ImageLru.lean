import FlutterEngine.Std.LeastRecentlyUsed

/-!
# The image cache of external textures

`ImageLRU` of `image_lru.cpp`. A call fails when it reads or writes past the slots. An image is a
pointer, and `none` is null.
-/

namespace FlutterEngine.Ohos

open FlutterEngine.Std

universe u

def kMaxQueueSize : Nat := 9

abbrev NativeBufferKey : Type := UInt64

theorem kMaxQueueSize_pos : 0 < kMaxQueueSize := by decide

/-- A slot of the cache. -/
structure ImageData (Image : Type u) where
  key : NativeBufferKey := 0
  value : Option Image := none

def ImageData.empty {Image : Type u} : ImageData Image := {}

structure ImageLRU (Image : Type u) where
  images : Vector (ImageData Image) kMaxQueueSize := .replicate _ .empty

namespace ImageLRU

variable {Image : Type u} (lru : ImageLRU Image)

/-- `images_[index] = data`. -/
def assign (index : Nat) (data : ImageData Image) : Option (ImageLRU Image) :=
  if bound : index < kMaxQueueSize then some ⟨lru.images.set index data bound⟩ else none

/-- The loops `images_[i] = images_[i - 1]` from `index` down to 1. -/
def shift (lru : ImageLRU Image) : Nat → Option (ImageLRU Image)
  | 0 => some lru
  | index + 1 => do
      let data ← lru.images[index]?
      let next ← lru.assign (index + 1) data
      next.shift index

/-- The loop from `index`, and the assignment after it to the first slot. -/
def place (index : Nat) (data : ImageData Image) : Option (ImageLRU Image) := do
  let shifted ← lru.shift index
  shifted.assign 0 data

/-- Where the search from `start` stops; `kMaxQueueSize` when no slot has the key. -/
def firstIndex (key : NativeBufferKey) (start : Nat) : Nat :=
  start + (lru.images.toList.drop start).findIdx (·.key == key)

def updateKey (image : Option Image) (key : NativeBufferKey) : Option (ImageLRU Image) :=
  if (lru.images.get ⟨0, kMaxQueueSize_pos⟩).key = key then some lru
  else lru.place (lru.firstIndex key 1) { key, value := image }

def findImage (key : NativeBufferKey) : Option (Option Image × ImageLRU Image) :=
  if key = 0 then some (none, lru)
  else
    match lru.images[lru.firstIndex key 0]? with
    | none => some (none, lru)
    | some data => (lru.updateKey data.value key).map fun next => (data.value, next)

def addImage (image : Option Image) (key : NativeBufferKey) :
    Option (NativeBufferKey × ImageLRU Image) :=
  let index := lru.firstIndex key 0
  let (stop, lruKey) :=
    if index < kMaxQueueSize then (index + 1, 0)
    else (index, (lru.images.get ⟨kMaxQueueSize - 1, by decide⟩).key)
  (lru.place (stop - 1) { key, value := image }).map fun next => (lruKey, next)

def clear : ImageLRU Image := { images := lru.images.map fun _ => .empty }

/-! ## Runs -/

/-- A call of the cache. Images are added with keys that are not zero. -/
inductive Call (Image : Type u) where
  | findImage (key : NativeBufferKey)
  | addImage (image : Option Image) (key : {key : NativeBufferKey // key ≠ 0})
  | clear

def call : Call Image → Option (ImageLRU Image)
  | .findImage key => (lru.findImage key).map Prod.snd
  | .addImage image key => (lru.addImage image key).map Prod.snd
  | .clear => some lru.clear

/-- The cache after some calls. -/
def after (calls : List (Call Image)) : Option (ImageLRU Image) :=
  calls.foldlM (fun lru call => lru.call call) {}

/-- The keys in the cache, in the order of the slots. -/
def keys : List NativeBufferKey := (lru.images.toList.map (·.key)).filter (· ≠ 0)

/-- What a call means to a least-recently-used map. -/
def Call.record (history : UseHistory NativeBufferKey (Option Image)) :
    Call Image → UseHistory NativeBufferKey (Option Image)
  | .findImage key => history.find kMaxQueueSize key
  | .addImage image key => history.add key image
  | .clear => {}

/-- What was used and added since the last `Clear`. -/
def historyOf (calls : List (Call Image)) : UseHistory NativeBufferKey (Option Image) :=
  calls.foldl Call.record {}

/-- The cache is the least-recently-used map of a history. -/
structure IsLeastRecentlyUsed (history : UseHistory NativeBufferKey (Option Image)) : Prop where
  distinct : lru.keys.Nodup
  cached : lru.keys = history.cached kMaxQueueSize
  finds : ∀ key, ∃ next, lru.findImage key = some ((history.found? kMaxQueueSize key).join, next) ∧
    next.keys = (history.find kMaxQueueSize key).cached kMaxQueueSize
  /-- The key that is returned is the one that leaves; when it is zero none leaves. -/
  adds : ∀ image key, key ≠ 0 → ∃ released next,
    lru.addImage image key = some (released, next) ∧
    next.keys = (history.add key image).cached kMaxQueueSize ∧
    ∀ other, released = other ∧ released ≠ 0 ↔ other ∈ lru.keys ∧ other ∉ next.keys

/-! ## Slots and entries -/

/-- The slot of an entry. -/
def slot (entry : NativeBufferKey × Option Image) : ImageData Image := ⟨entry.1, entry.2⟩

/-- The slots that hold these entries. -/
def slots (entries : List (NativeBufferKey × Option Image)) : List (ImageData Image) :=
  entries.map slot ++
    List.replicate (kMaxQueueSize - entries.length) .empty

/-- The cache holds the entries of a least-recently-used map in its first slots. -/
structure Holds (history : UseHistory NativeBufferKey (Option Image))
    (entries : List (NativeBufferKey × Option Image)) : Prop where
  slots : lru.images.toList = slots entries
  nonzero : ∀ entry ∈ entries, entry.1 ≠ 0
  recent : HoldsRecent kMaxQueueSize history entries

variable {lru}
variable {index : Nat} {α : Type u}

theorem assign_of_lt (lru : ImageLRU Image) (bound : index < kMaxQueueSize)
    (data : ImageData Image) :
    ∃ next, lru.assign index data = some next ∧
      next.images.toList = lru.images.toList.set index data :=
  ⟨_, dif_pos bound, Vector.toList_set bound⟩

/-- Moving a slot up leaves what is below the slot it came from as it was. -/
theorem eraseIdx_set_succ {slots : List α} {data : α}
    (found : slots[index]? = some data) (bound : index + 1 < slots.length) :
    (slots.set (index + 1) data).eraseIdx index = slots.eraseIdx (index + 1) := by
  induction slots generalizing index with
  | nil => simp at found
  | cons first slots ih =>
    cases index with
    | zero =>
      obtain rfl : first = data := by simpa using found
      cases slots with
      | nil => simp at bound
      | cons second slots => rfl
    | succ index =>
      simp only [List.getElem?_cons_succ] at found
      simp [ih found (by simpa using bound)]

/-- The new slot is in front, and the one at `index` is gone. -/
theorem place_eq (lru : ImageLRU Image) (bound : index < kMaxQueueSize) (data : ImageData Image) :
    ∃ next, lru.place index data = some next ∧
      next.images.toList = data :: lru.images.toList.eraseIdx index := by
  induction index generalizing lru with
  | zero =>
    obtain ⟨next, assigned, list⟩ := assign_of_lt lru bound data
    refine ⟨next, assigned, ?_⟩
    rw [list]
    have length := lru.images.length_toList
    generalize lru.images.toList = slots at length
    cases slots with
    | nil => exact absurd length (Nat.ne_of_lt bound)
    | cons first slots => rfl
  | succ index ih =>
    have found : lru.images[index]? = some (lru.images.get ⟨index, by omega⟩) :=
      Vector.getElem?_eq_getElem (by omega)
    obtain ⟨moved, assigned, list⟩ := assign_of_lt lru bound
      (lru.images.get ⟨index, by omega⟩)
    obtain ⟨next, shifted, placed⟩ := ih moved (by omega)
    refine ⟨next, ?_, ?_⟩
    · simpa [place, shift, found, assigned] using shifted
    · rw [placed, list, eraseIdx_set_succ]
      · rwa [← Vector.getElem?_toList] at found
      · rwa [lru.images.length_toList]

/-- The first slot that passes. -/
theorem findIdx_append_cons (pass : α → Bool) {before after : List α} {first : α}
    (fail : ∀ slot ∈ before, pass slot = false) (passes : pass first = true) :
    (before ++ first :: after).findIdx pass = before.length := by
  induction before with
  | nil => simp [List.findIdx_cons, passes]
  | cons slot before ih =>
    have fails := fail slot List.mem_cons_self
    have rest := ih fun other mem => fail other (List.mem_cons_of_mem _ mem)
    simp [List.findIdx_cons, fails, rest]

/-- Where the entry of a key is among the others. -/
structure EntryAt (key : NativeBufferKey) (image : Option Image)
    (entries before after : List (NativeBufferKey × Option Image)) : Prop where
  split : entries = before ++ (key, image) :: after
  first : ∀ entry ∈ before, entry.1 ≠ key
  others : entries.eraseP (·.1 == key) = before ++ after

variable {history : UseHistory NativeBufferKey (Option Image)}
  {entries before after : List (NativeBufferKey × Option Image)} {key : NativeBufferKey}
  {image : Option Image}

theorem exists_entryAt (present : key ∈ entries.map Prod.fst) :
    ∃ image before after, EntryAt key image entries before after := by
  obtain ⟨entry, mem, rfl⟩ := List.mem_map.mp present
  obtain ⟨found, before, after, fresh, pass, split, others⟩ :=
    List.exists_of_eraseP
      (p := fun other : NativeBufferKey × Option Image => other.1 == entry.1) mem
      (beq_self_eq_true entry.1)
  obtain ⟨same, image⟩ := found
  obtain rfl : same = entry.1 := eq_of_beq pass
  refine ⟨image, before, after, split, ?_, others⟩
  intro other mem equal
  exact fresh other mem (beq_iff_eq.mpr equal)

theorem length_slots (fits : entries.length ≤ kMaxQueueSize) :
    (slots entries).length = kMaxQueueSize := by
  simp only [slots, List.length_append, List.length_map, List.length_replicate]
  omega

theorem EntryAt.mem (found : EntryAt key image entries before after) : (key, image) ∈ entries := by
  rw [found.split]
  simp

theorem EntryAt.slots_eq (found : EntryAt key image entries before after) :
    slots entries = before.map slot ++ slot (key, image) :: (after.map slot ++
      List.replicate (kMaxQueueSize - entries.length) .empty) := by
  have entries_map : entries.map slot = before.map slot ++ slot (key, image) :: after.map slot := by
    rw [found.split, List.map_append, List.map_cons]
  rw [slots, entries_map, List.append_assoc, List.cons_append]

/-- A search that starts at or before the slot of an entry stops there. -/
theorem EntryAt.firstIndex_eq (found : EntryAt key image entries before after)
    (holds : lru.images.toList = slots entries) {start : Nat} (starts : start ≤ before.length) :
    lru.firstIndex key start = before.length := by
  have dropped : (slots entries).drop start = (before.drop start).map slot ++
      slot (key, image) :: (after.map slot ++
        List.replicate (kMaxQueueSize - entries.length) .empty) := by
    rw [found.slots_eq, List.drop_append_of_le_length (by simpa using starts), List.map_drop]
  have passes : ((slot (key, image)).key == key) = true := beq_self_eq_true key
  rw [firstIndex, holds, dropped, 
    findIdx_append_cons (fun other : ImageData Image => other.key == key) ?_ passes]
  · simp only [List.length_map, List.length_drop]
    omega
  · intro other dropped
    obtain ⟨entry, mem, rfl⟩ := List.mem_map.mp dropped
    exact beq_false_of_ne (found.first entry (List.mem_of_mem_drop mem))

/-- A search for a key that is not there passes every slot. -/
theorem firstIndex_of_notMem (holds : lru.images.toList = slots entries)
    (fits : entries.length ≤ kMaxQueueSize) (absent : key ∉ entries.map Prod.fst)
    (nonzero : key ≠ 0) : lru.firstIndex key 0 = kMaxQueueSize := by
  have none : (slots entries).findIdx (·.key == key) = (slots entries).length := by
    refine List.findIdx_eq_length.mpr fun other among => ?_
    rcases List.mem_append.mp among with held | empty
    · obtain ⟨entry, mem, rfl⟩ := List.mem_map.mp held
      refine beq_false_of_ne fun same => absent ?_
      exact same ▸ List.mem_map_of_mem mem
    · rw [List.eq_of_mem_replicate empty]
      exact beq_false_of_ne nonzero.symm
  rw [firstIndex, List.drop_zero, holds, none, length_slots fits, Nat.zero_add]

/-! ## Entries put in front -/

theorem slots_putInFront_of_entryAt (found : EntryAt key image entries before after)
    (fits : entries.length ≤ kMaxQueueSize) (value : Option Image) :
    slots (putInFront kMaxQueueSize key value entries) =
      ⟨key, value⟩ :: (slots entries).eraseIdx before.length := by
  have length : ((key, value) :: (before ++ after)).length = entries.length := by
    rw [found.split]
    simp
    omega
  rw [putInFront, found.others, List.take_of_length_le (by omega), found.slots_eq,
    List.eraseIdx_append_of_length_le (by simp)]
  rw [slots, length]
  simp [slot]

theorem slots_putInFront_of_notMem (absent : key ∉ entries.map Prod.fst)
    (fits : entries.length ≤ kMaxQueueSize) (value : Option Image) :
    slots (putInFront kMaxQueueSize key value entries) =
      ⟨key, value⟩ :: (slots entries).eraseIdx (kMaxQueueSize - 1) := by
  have others : entries.eraseP (·.1 == key) = entries := by
    refine List.eraseP_eq_self_iff.mpr fun entry mem same => ?_
    exact absent (eq_of_beq same ▸ List.mem_map_of_mem mem)
  rw [putInFront, others]
  by_cases full : entries.length = kMaxQueueSize
  · obtain rfl | ⟨before, last, rfl⟩ := List.eq_nil_or_concat entries
    · exact absurd full (Nat.ne_of_lt kMaxQueueSize_pos)
    · have length : before.length + 1 = kMaxQueueSize := by simpa using full
      have front : ((key, value) :: before.concat last).take kMaxQueueSize =
          (key, value) :: before := by
        simp [← length]
      rw [front, slots, slots, ← length]
      simp [slot, List.eraseIdx_append_of_length_le]
  · have room : entries.length < kMaxQueueSize := by omega
    rw [List.take_of_length_le (by simpa using Nat.succ_le_of_lt room), slots, slots,
      List.eraseIdx_append_of_length_le (by simp; omega), List.eraseIdx_replicate]
    simp only [List.length_map, List.length_cons, List.map_cons, List.cons_append]
    rw [if_pos (by omega)]
    rfl

/-! ## What one call does -/

theorem get_zero_eq {first : ImageData Image} {rest : List (ImageData Image)}
    (list : lru.images.toList = first :: rest) : lru.images.get ⟨0, kMaxQueueSize_pos⟩ = first := by
  have found : lru.images.toList[0]? = some first := by rw [list]; rfl
  rw [Vector.getElem?_toList, Vector.getElem?_eq_getElem kMaxQueueSize_pos] at found
  exact Option.some.inj found

theorem updateKey_eq (found : EntryAt key image entries before after)
    (list : lru.images.toList = slots entries) (fits : entries.length ≤ kMaxQueueSize) :
    ∃ next, lru.updateKey image key = some next ∧
      next.images.toList = slots (putInFront kMaxQueueSize key image entries) := by
  rw [slots_putInFront_of_entryAt found fits, ← list, updateKey]
  cases before with
  | nil =>
    rw [found.slots_eq] at list
    have front := get_zero_eq list
    have same : (lru.images.get ⟨0, kMaxQueueSize_pos⟩).key = key := by rw [front]; rfl
    rw [if_pos same]
    refine ⟨lru, rfl, ?_⟩
    rw [list]
    rfl
  | cons entry before =>
    have front := get_zero_eq (list.trans found.slots_eq)
    have different : (lru.images.get ⟨0, kMaxQueueSize_pos⟩).key ≠ key :=
      front ▸ found.first entry List.mem_cons_self
    rw [if_neg different, found.firstIndex_eq list (Nat.succ_le_of_lt (by simp))]
    refine place_eq lru (Nat.lt_of_lt_of_le ?_ fits) _
    rw [found.split]
    simp

theorem Holds.findImage_of_entryAt (holds : lru.Holds history entries)
    (found : EntryAt key image entries before after) :
    ∃ next, lru.findImage key = some (image, next) ∧
      next.Holds (history.find kMaxQueueSize key) (putInFront kMaxQueueSize key image entries) := by
  have fits := holds.recent.length_le
  obtain ⟨next, updated, list⟩ := updateKey_eq found holds.slots fits
  have index : lru.firstIndex key 0 = before.length :=
    found.firstIndex_eq holds.slots (Nat.zero_le _)
  have read : lru.images[before.length]? = some (slot (key, image)) := by
    rw [← Vector.getElem?_toList, holds.slots, found.slots_eq]
    simp
  refine ⟨next, ?_, list, ?_, holds.recent.find found.mem⟩
  · rw [findImage, if_neg (holds.nonzero _ found.mem), index, read]
    simp only [slot, updated, Option.map_some]
  · intro entry mem
    rcases List.mem_cons.mp (List.mem_of_mem_take mem) with rfl | other
    · exact holds.nonzero _ found.mem
    · exact holds.nonzero _ (List.mem_of_mem_eraseP other)

theorem Holds.findImage_of_notMem (holds : lru.Holds history entries)
    (absent : key ∉ entries.map Prod.fst) : lru.findImage key = some (none, lru) := by
  unfold findImage
  split
  · rfl
  · next nonzero =>
    rw [firstIndex_of_notMem holds.slots holds.recent.length_le absent nonzero]
    simp

/-- The key of the last slot is the key that an absent key pushes out. -/
theorem lastKey_eq (list : lru.images.toList = slots entries)
    (fits : entries.length ≤ kMaxQueueSize) (absent : key ∉ entries.map Prod.fst) :
    (lru.images.get ⟨kMaxQueueSize - 1, by decide⟩).key =
      (pushedOut kMaxQueueSize key (entries.map Prod.fst)).getD 0 := by
  have bound : kMaxQueueSize - 1 < kMaxQueueSize := by decide
  have found : (slots entries)[kMaxQueueSize - 1]? =
      some (lru.images.get ⟨kMaxQueueSize - 1, bound⟩) := by
    rw [← list, Vector.getElem?_toList, Vector.getElem?_eq_getElem bound]
    rfl
  unfold pushedOut
  by_cases room : entries.length < kMaxQueueSize
  · rw [slots, List.getElem?_append_right (by simp; omega), List.getElem?_replicate] at found
    rw [if_pos (Or.inr (by simpa using room))]
    split at found
    · rw [← Option.some.inj found]
      rfl
    · exact absurd found (by simp)
  · have full : entries.length = kMaxQueueSize := by omega
    rw [if_neg (by simp_all), List.getLast?_eq_getElem?, List.length_map, full]
    rw [slots, List.getElem?_append_left (by simpa [full] using bound), List.getElem?_map] at found
    obtain ⟨entry, read, same⟩ := Option.map_eq_some_iff.mp found
    rw [List.getElem?_map, read, ← same]
    rfl

theorem Holds.addImage (holds : lru.Holds history entries) (image : Option Image)
    (nonzero : key ≠ 0) :
    ∃ released next, lru.addImage image key = some (released, next) ∧
      next.Holds (history.add key image) (putInFront kMaxQueueSize key image entries) ∧
      ∀ other, released = other ∧ released ≠ 0 ↔
        pushedOut kMaxQueueSize key (entries.map Prod.fst) = some other := by
  have fits := holds.recent.length_le
  have nonzeros : ∀ entry ∈ putInFront kMaxQueueSize key image entries, entry.1 ≠ 0 := by
    intro entry mem
    rcases List.mem_cons.mp (List.mem_of_mem_take mem) with rfl | other
    · exact nonzero
    · exact holds.nonzero _ (List.mem_of_mem_eraseP other)
  by_cases present : key ∈ entries.map Prod.fst
  · obtain ⟨image', before, after, found⟩ := exists_entryAt present
    have index := found.firstIndex_eq holds.slots (Nat.zero_le _)
    have bound : before.length < kMaxQueueSize := by
      refine Nat.lt_of_lt_of_le ?_ fits
      rw [found.split]
      simp
    obtain ⟨next, placed, list⟩ :=
      place_eq lru bound { key, value := image }
    rw [holds.slots, ← slots_putInFront_of_entryAt found fits] at list
    refine ⟨0, next, ?_, ⟨list, nonzeros, holds.recent.add key image⟩, fun other => ?_⟩
    · simp only [ImageLRU.addImage, index, if_pos bound, Nat.add_sub_cancel, placed]
      rfl
    · simp [pushedOut, present]
  · have index := firstIndex_of_notMem holds.slots fits present nonzero
    obtain ⟨next, placed, list⟩ :=
      place_eq lru (Nat.sub_lt kMaxQueueSize_pos Nat.one_pos)
        { key, value := image }
    rw [holds.slots, ← slots_putInFront_of_notMem present fits] at list
    refine ⟨(pushedOut kMaxQueueSize key (entries.map Prod.fst)).getD 0, next, ?_,
      ⟨list, nonzeros, holds.recent.add key image⟩, fun other => ?_⟩
    · simp only [ImageLRU.addImage, index, Nat.lt_irrefl, if_false, placed,
        lastKey_eq holds.slots fits present]
      rfl
    · cases out : pushedOut kMaxQueueSize key (entries.map Prod.fst) with
      | none => simp
      | some last =>
        have held :=
          ((pushedOut_eq_some_iff holds.recent.nodup (by simpa using fits) _ _).mp out).1
        obtain ⟨entry, mem, rfl⟩ := List.mem_map.mp held
        simp [holds.nonzero entry mem]

/-! ## Runs -/

section

variable (holds : lru.Holds history entries)

include holds

/-- The keys in the cache are those of the entries. -/
theorem Holds.keys_eq : lru.keys = entries.map Prod.fst := by
  rw [keys, holds.slots, ImageLRU.slots, List.map_append, List.filter_append, List.map_map,
    List.map_replicate]
  have none : (List.replicate (kMaxQueueSize - entries.length)
      (ImageData.empty : ImageData Image).key).filter (· ≠ 0) = [] := by
    simp [ImageData.empty]
  have all : ∀ other ∈ entries.map ((·.key) ∘ slot), decide (other ≠ 0) = true := by
    intro other held
    obtain ⟨entry, mem, rfl⟩ := List.mem_map.mp held
    exact decide_eq_true (holds.nonzero entry mem)
  rw [none, List.append_nil, List.filter_eq_self.mpr all]
  rfl

theorem Holds.keys_eq_cached :
    lru.keys = history.cached kMaxQueueSize :=
  holds.keys_eq.trans holds.recent.keys

theorem Holds.isLeastRecentlyUsed :
    lru.IsLeastRecentlyUsed history where
  distinct := by
    rw [holds.keys_eq]
    exact holds.recent.nodup
  cached := holds.keys_eq_cached
  finds key := by
    by_cases present : key ∈ entries.map Prod.fst
    · obtain ⟨image, before, after, found⟩ := exists_entryAt present
      obtain ⟨next, result, nextHolds⟩ := holds.findImage_of_entryAt found
      rw [holds.recent.found? found.mem]
      exact ⟨next, result, nextHolds.keys_eq_cached⟩
    · obtain ⟨notFound, unused⟩ := holds.recent.not_found? present
      rw [notFound, unused]
      exact ⟨lru, holds.findImage_of_notMem present, holds.keys_eq_cached⟩
  adds image key nonzero := by
    obtain ⟨released, next, result, nextHolds, leaves⟩ := holds.addImage image nonzero
    refine ⟨released, next, result, nextHolds.keys_eq_cached, fun other => ?_⟩
    rw [leaves, pushedOut_eq_some_iff holds.recent.nodup (by simpa using holds.recent.length_le),
      holds.keys_eq, nextHolds.keys_eq, map_fst_putInFront]

theorem Holds.call (call : Call Image) :
    ∃ next entries, lru.call call = some next ∧ next.Holds (call.record history) entries := by
  cases call with
  | findImage key =>
    by_cases present : key ∈ entries.map Prod.fst
    · obtain ⟨image, before, after, found⟩ := exists_entryAt present
      obtain ⟨next, result, nextHolds⟩ := holds.findImage_of_entryAt found
      exact ⟨next, _, by rw [ImageLRU.call, result]; rfl, nextHolds⟩
    · refine ⟨lru, entries, by rw [ImageLRU.call, holds.findImage_of_notMem present]; rfl, ?_⟩
      rw [Call.record, (holds.recent.not_found? present).2]
      exact holds
  | addImage image key =>
    obtain ⟨released, next, result, nextHolds, -⟩ := holds.addImage image key.2
    exact ⟨next, _, by rw [ImageLRU.call, result]; rfl, nextHolds⟩
  | clear =>
    refine ⟨lru.clear, [], rfl, ?_, by simp, .nil⟩
    rw [clear, Vector.toList_map, List.map_const', lru.images.length_toList]
    rfl

end

theorem holds_initial : Holds ({} : ImageLRU Image) {} [] where
  slots := by simp [slots]
  nonzero _ mem := absurd mem List.not_mem_nil
  recent := .nil

/-- No call reads or writes past the slots, and after any calls the cache is the map of what they
used and added. -/
theorem after_isLeastRecentlyUsed (calls : List (Call Image)) :
    ∃ lru, ImageLRU.after calls = some lru ∧ lru.IsLeastRecentlyUsed (historyOf calls) := by
  suffices holding : ∀ (calls : List (Call Image)) {lru : ImageLRU Image} {history entries},
      lru.Holds history entries → ∃ last entries,
        calls.foldlM (fun lru call => lru.call call) lru = some last ∧
          last.Holds (calls.foldl Call.record history) entries by
    obtain ⟨last, entries, runs, holds⟩ := holding calls holds_initial
    exact ⟨last, runs, holds.isLeastRecentlyUsed⟩
  intro calls
  induction calls with
  | nil => exact fun holds => ⟨_, _, rfl, holds⟩
  | cons call calls ih =>
    intro lru history entries holds
    obtain ⟨next, _, called, nextHolds⟩ := holds.call call
    obtain ⟨last, entries, runs, lastHolds⟩ := ih nextHolds
    exact ⟨last, entries, by rw [List.foldlM_cons, called]; exact runs, lastHolds⟩

end ImageLRU

end FlutterEngine.Ohos
