import FlutterEngine.Std.EntryLists
import FlutterEngine.Std.Ieee754
import FlutterEngine.Std.LittleEndian

/-!
# Message values

The values an OHOS message is built from. An object is known by its content only:
keys of a `Map` that are objects are compared by identity there, and no two objects
of one message are the same.
-/

namespace FlutterEngine.Ohos

open FlutterEngine.Std Ieee754 FlutterEngine.Std.Ieee754.Binary64

/-- A value of a message. Numbers and the items of typed arrays are their bits, strings
are sequences of Unicode scalar values, a `Map` is its entries in insertion order. -/
inductive Value where
  | null
  | boolean (value : Bool)
  | number (value : Binary64)
  | bigint (value : Int)
  | string (value : String)
  | uint8Array (value : List Byte)
  | int32Array (value : List (BitVec 32))
  | bigInt64Array (value : List (BitVec 64))
  | float32Array (value : List (BitVec 32))
  | float64Array (value : List (BitVec 64))
  | array (value : List Value)
  | map (entries : List (Value × Value))

namespace Value

/-- How a `Map` compares keys. -/
def sameValueZero : Value → Value → Bool
  | .null, .null => true
  | .boolean left, .boolean right => left == right
  | .number left, .number right =>
    left == right || isNaN infinity64 left && isNaN infinity64 right ||
      magnitude left == 0 && magnitude right == 0
  | .bigint left, .bigint right => left == right
  | .string left, .string right => left == right
  | _, _ => false

/-- `Number(value)` for a bigint in the range of safe integers. -/
def ofBigInt (value : Int) : Value :=
  if IsSafe value then .number (ofInt value) else .bigint value

/-! ## Maps -/

/-- The key a `Map` stores: negative zero is stored as zero. -/
def storedKey : Value → Value
  | .number value => .number (if value = negativeZero then 0 else value)
  | key => key

/-- Give a stored key its value. -/
def assign (key value : Value) : List (Value × Value) → List (Value × Value)
  | [] => [(key, value)]
  | (other, old) :: rest =>
    if sameValueZero other key then (other, value) :: rest
    else (other, old) :: assign key value rest

/-- `Map.prototype.set`. -/
def mapSet (entries : List (Value × Value)) (key value : Value) : List (Value × Value) :=
  assign (storedKey key) value entries

/-- Set all these entries, the first ones first. -/
def setAll (earlier entries : List (Value × Value)) : List (Value × Value) :=
  entries.foldl (fun entries entry => mapSet entries entry.1 entry.2) earlier

/-- No two keys are the same. -/
def Distinct (entries : List (Value × Value)) : Prop :=
  entries.Pairwise fun first second => sameValueZero first.1 second.1 = false

theorem assign_eq (key value : Value) (entries : List (Value × Value)) :
    assign key value entries = EntryLists.assign sameValueZero key value entries := by
  induction entries with
  | nil => rfl
  | cons entry rest ih => rw [assign, ih, EntryLists.assign]

variable {entries : List (Value × Value)}

theorem setAll_eq (earlier : List (Value × Value))
    (stored : ∀ entry ∈ entries, storedKey entry.1 = entry.1) :
    setAll earlier entries = EntryLists.assignAll sameValueZero earlier entries := by
  induction entries generalizing earlier with
  | nil => rfl
  | cons entry rest ih =>
    obtain ⟨key, stored⟩ := List.forall_mem_cons.mp stored
    change setAll (assign (storedKey entry.1) entry.2 earlier) rest = _
    rw [key, assign_eq, ih _ stored]
    rfl

/-- Setting entries gives as many as are set exactly when no key comes twice, and
then they are those set. -/
theorem length_setAll_iff (stored : ∀ entry ∈ entries, storedKey entry.1 = entry.1) :
    ((setAll [] entries).length = entries.length ↔ Distinct entries) ∧
      (Distinct entries → setAll [] entries = entries) := by
  rw [setAll_eq [] stored, ← Nat.zero_add entries.length]
  exact ⟨EntryLists.length_assignAll_iff .nil, fun distinct =>
    show _ = [] ++ entries from EntryLists.assignAll_of_distinct distinct⟩

/-! ## Normalisation -/

mutual

/-- The value with each bigint in the range of safe integers as the equal number. -/
def normalize : Value → Value
  | .bigint value => ofBigInt value
  | .array value => .array (normalizeValues value)
  | .map entries => .map (normalizeEntries entries)
  | value => value

def normalizeValues : List Value → List Value
  | [] => []
  | value :: rest => normalize value :: normalizeValues rest

def normalizeEntries : List (Value × Value) → List (Value × Value)
  | [] => []
  | (key, value) :: rest => (normalize key, normalize value) :: normalizeEntries rest

end

theorem length_normalizeEntries (entries : List (Value × Value)) :
    (normalizeEntries entries).length = entries.length := by
  induction entries with
  | nil => rfl
  | cons entry rest ih => simp [normalizeEntries, ih]

end Value

end FlutterEngine.Ohos
