import Mathlib.Data.List.TakeWhile
import FlutterEngine.Std.Ieee754
import FlutterEngine.Std.LittleEndian

/-!
# Values of the Linux embedding

`FlValue` of `fl_value.cc`. Numbers are their bits. The keys and the values of a map,
two arrays of one length there, are a list of entries. A custom value is known by
its type only.
-/

namespace FlutterEngine.Linux

open FlutterEngine.Std

/-- A text that a zero byte ends. -/
structure CString where
  bytes : List Byte
  nonzero : 0 ∉ bytes
deriving DecidableEq

namespace CString

/-- `g_strndup` of as many bytes as there are: a zero byte ends the text before. -/
def ofSized (bytes : List Byte) : CString where
  bytes := bytes.takeWhile (· ≠ 0)
  nonzero := fun listed => by simpa using List.mem_takeWhile_imp listed

theorem ofSized_bytes (text : CString) : ofSized text.bytes = text := by
  obtain ⟨bytes, nonzero⟩ := text
  have all : bytes.takeWhile (· ≠ 0) = bytes := by
    rw [List.takeWhile_eq_self_iff]
    intro byte listed
    have different : byte ≠ 0 := fun zero => nonzero (zero ▸ listed)
    simpa using different
  simp only [ofSized, all]

theorem bytes_ofSized {bytes : List Byte} (nonzero : 0 ∉ bytes) : (ofSized bytes).bytes = bytes :=
  congrArg CString.bytes (ofSized_bytes ⟨bytes, nonzero⟩)

end CString

/-- A value of one of the types. -/
inductive FlValue where
  | null
  | bool (value : Bool)
  | int (value : BitVec 64)
  | float (value : Ieee754.Binary64)
  | string (value : CString)
  | uint8List (values : List (BitVec 8))
  | int32List (values : List (BitVec 32))
  | int64List (values : List (BitVec 64))
  | float32List (values : List (BitVec 32))
  | floatList (values : List (BitVec 64))
  | list (values : List FlValue)
  | map (entries : List (FlValue × FlValue))
  | custom (type : BitVec 32)

namespace FlValue

/-- Two arrays of one length whose items are equal one by one. -/
def equalItems {α : Type} (equal : α → α → Bool) : List α → List α → Bool
  | [], [] => true
  | left :: lefts, right :: rights => equal left right && equalItems equal lefts rights
  | _, _ => false

mutual

/-- `fl_value_equal`. Entries of maps need not come in one order. -/
def equal : FlValue → FlValue → Bool
  | null, null => true
  | bool a, bool b => a == b
  | int a, int b => a == b
  | float a, float b => Ieee754.equal Ieee754.infinity64 a b
  | string a, string b => a == b
  | uint8List a, uint8List b => equalItems (· == ·) a b
  | int32List a, int32List b => equalItems (· == ·) a b
  | int64List a, int64List b => equalItems (· == ·) a b
  | float32List a, float32List b => equalItems (Ieee754.equal Ieee754.infinity32) a b
  | floatList a, floatList b => equalItems (Ieee754.equal Ieee754.infinity64) a b
  | list a, list b => equalValues a b
  | map a, map b => a.length == b.length && equalEntries a b
  | _, _ => false
termination_by a b => sizeOf a + sizeOf b

def equalValues : List FlValue → List FlValue → Bool
  | [], [] => true
  | a :: as, b :: bs => equal a b && equalValues as bs
  | _, _ => false
termination_by as bs => sizeOf as + sizeOf bs

/-- Every entry of the first map is one of the second. -/
def equalEntries : List (FlValue × FlValue) → List (FlValue × FlValue) → Bool
  | [], _ => true
  | (key, value) :: rest, b => equalLookup b key value && equalEntries rest b
termination_by a b => sizeOf a + sizeOf b

/-- `fl_value_lookup` finds the key, and with it this value. -/
def equalLookup : List (FlValue × FlValue) → FlValue → FlValue → Bool
  | [], _, _ => false
  | (other, found) :: rest, key, value =>
    if equal other key then equal value found else equalLookup rest key value
termination_by b key value => sizeOf b + sizeOf key + sizeOf value

end

/-! ## Maps -/

/-- `fl_value_lookup_index`. -/
def lookupIndex (entries : List (FlValue × FlValue)) (key : FlValue) : Option Nat :=
  entries.findIdx? fun entry => equal entry.1 key

/-- `fl_value_set`: the key found is replaced like its value. -/
def set (entries : List (FlValue × FlValue)) (key value : FlValue) : List (FlValue × FlValue) :=
  match lookupIndex entries key with
  | none => entries ++ [(key, value)]
  | some index => entries.set index (key, value)

/-- No key is found again later. -/
def Distinct (entries : List (FlValue × FlValue)) : Prop :=
  entries.Pairwise fun first second => equal first.1 second.1 = false

theorem set_new {entries : List (FlValue × FlValue)} {key value : FlValue}
    (new : ∀ entry ∈ entries, equal entry.1 key = false) :
    set entries key value = entries ++ [(key, value)] := by
  have missing : lookupIndex entries key = none := by
    rw [lookupIndex, List.findIdx?_eq_none_iff]
    exact new
  rw [set, missing]

end FlValue

end FlutterEngine.Linux
