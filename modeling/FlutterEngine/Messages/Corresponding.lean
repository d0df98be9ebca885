import Mathlib.Data.Nat.Digits.Lemmas
import FlutterEngine.ClientWrapper.RoundTrip
import FlutterEngine.Linux.MessageRoundTrip
import FlutterEngine.Ohos.Preserved

/-!
# Corresponding values of the three embeddings

What a value of the client wrapper is for the Linux embedding and for the OHOS
embedding. Linux has one type of integers, of 64 bits; OHOS has numbers and, for
integers that are not safe as numbers, bigints. `Shared` are the values that each of
them tells from all others.
-/

namespace FlutterEngine.Messages

open FlutterEngine.Std Ieee754 FlutterEngine.Std.Ieee754.Binary64
  FlutterEngine.Linux FlutterEngine.Ohos
open FlutterEngine.ClientWrapper (EncodableValue)

/-! ## The value for Linux -/

mutual

def toFlValue : EncodableValue → FlValue
  | .null => .null
  | .bool value => .bool value
  | .int32 value => .int (value.signExtend 64)
  | .int64 value => .int value
  | .double value => .float value
  | .string value => .string (CString.ofSized value)
  | .uint8List value => .uint8List value
  | .int32List value => .int32List value
  | .int64List value => .int64List value
  | .float64List value => .floatList value
  | .list value => .list (toFlValues value)
  | .map value => .map (toFlEntries value)
  | .float32List value => .float32List value

def toFlValues : List EncodableValue → List FlValue
  | [] => []
  | value :: rest => toFlValue value :: toFlValues rest

def toFlEntries : List (EncodableValue × EncodableValue) → List (FlValue × FlValue)
  | [] => []
  | (key, value) :: rest => (toFlValue key, toFlValue value) :: toFlEntries rest

end

@[simp] theorem length_toFlValues (values : List EncodableValue) :
    (toFlValues values).length = values.length := by
  induction values with
  | nil => rfl
  | cons value rest ih => simp [toFlValues, ih]

@[simp] theorem length_toFlEntries (entries : List (EncodableValue × EncodableValue)) :
    (toFlEntries entries).length = entries.length := by
  induction entries with
  | nil => rfl
  | cons entry rest ih => simp [toFlEntries, ih]

/-! ## The value for OHOS -/

section ToValue

variable (utf8 : NativeUtf8)

mutual

def toValue : EncodableValue → Value
  | .null => .null
  | .bool value => .boolean value
  | .int32 value => .number (ofInt value.toInt)
  | .int64 value => .ofBigInt value.toInt
  | .double value => .number value
  | .string value => .string (StringUtils.uint8ArrayToString utf8 value)
  | .uint8List value => .uint8Array value
  | .int32List value => .int32Array value
  | .int64List value => .bigInt64Array value
  | .float64List value => .float64Array value
  | .list value => .array (toValues value)
  | .map value => .map (toEntries value)
  | .float32List value => .float32Array value

def toValues : List EncodableValue → List Value
  | [] => []
  | value :: rest => toValue value :: toValues rest

def toEntries : List (EncodableValue × EncodableValue) → List (Value × Value)
  | [] => []
  | (key, value) :: rest => (toValue key, toValue value) :: toEntries rest

end

@[simp] theorem length_toValues (values : List EncodableValue) :
    (toValues utf8 values).length = values.length := by
  induction values with
  | nil => rfl
  | cons value rest ih => simp [toValues, ih]

@[simp] theorem length_toEntries (entries : List (EncodableValue × EncodableValue)) :
    (toEntries utf8 entries).length = entries.length := by
  induction entries with
  | nil => rfl
  | cons entry rest ih => simp [toEntries, ih]

/-! ## The values shared -/

/-- An integer that is not one of 32 bits. -/
def Wide (value : BitVec 64) : Prop := value.toInt < -2 ^ 31 ∨ 2 ^ 31 ≤ value.toInt

/-- A double that is a number, but no integer that is safe as one. -/
def StaysDouble (value : Binary64) : Prop :=
  isNaN infinity64 value = false ∧ ∀ integer ∈ toInt? value, ¬IsSafe integer

mutual

/-- 64-bit integers outside the range of 32 bits; doubles that are no safe integers;
texts in UTF-8 without a zero byte; sizes that fit in 32 bits, also in bytes; maps
whose keys each of the embeddings tells apart. -/
def Shared : EncodableValue → Prop
  | .null | .bool _ | .int32 _ => True
  | .int64 value => Wide value
  | .double value => StaysDouble value
  | .string value => value.length < 2 ^ 32 ∧ 0 ∉ value ∧
      StringUtils.stringToArrayBuffer utf8 (StringUtils.uint8ArrayToString utf8 value) = value
  | .uint8List value => value.length < 2 ^ 32
  | .int32List value | .float32List value => 4 * value.length < 2 ^ 32
  | .int64List value | .float64List value => 8 * value.length < 2 ^ 32
  | .list value => value.length < 2 ^ 32 ∧ SharedValues value
  | .map value => value.length < 2 ^ 32 ∧ EncodableValue.Ordered value ∧
      FlValue.Distinct (toFlEntries value) ∧ Value.Distinct (toEntries utf8 value) ∧
        SharedEntries value

def SharedValues : List EncodableValue → Prop
  | [] => True
  | value :: rest => Shared value ∧ SharedValues rest

def SharedEntries : List (EncodableValue × EncodableValue) → Prop
  | [] => True
  | (key, value) :: rest => Shared key ∧ Shared value ∧ SharedEntries rest

end

end ToValue

/-! ## Each embedding supports them -/

section Supports

variable {utf8 : NativeUtf8}

mutual

theorem encodable_of_shared : ∀ value, Shared utf8 value → ClientWrapper.Encodable value
  | .null, _ | .bool _, _ | .int32 _, _ | .int64 _, _ | .double _, _ => trivial
  | .string _, shared => shared.1
  | .uint8List _, shared => shared
  | .int32List value, shared | .float32List value, shared => by
      have short : 4 * value.length < 2 ^ 32 := shared
      change value.length < 2 ^ 32
      omega
  | .int64List value, shared | .float64List value, shared => by
      have short : 8 * value.length < 2 ^ 32 := shared
      change value.length < 2 ^ 32
      omega
  | .list value, shared => ⟨shared.1, encodableValues_of_shared value shared.2⟩
  | .map value, shared =>
    ⟨shared.1, shared.2.1, encodableEntries_of_shared value shared.2.2.2.2⟩

theorem encodableValues_of_shared : ∀ values, SharedValues utf8 values →
    ClientWrapper.EncodableValues values
  | [], _ => trivial
  | value :: rest, shared =>
    ⟨encodable_of_shared value shared.1, encodableValues_of_shared rest shared.2⟩

theorem encodableEntries_of_shared : ∀ entries, SharedEntries utf8 entries →
    ClientWrapper.EncodableEntries entries
  | [], _ => trivial
  | (key, value) :: rest, shared =>
    ⟨encodable_of_shared key shared.1, encodable_of_shared value shared.2.1,
      encodableEntries_of_shared rest shared.2.2⟩

end

open FlStandardMessageCodec in
mutual

theorem sendable_of_shared : ∀ value, Shared utf8 value → Sendable (toFlValue value)
  | .null, _ | .bool _, _ | .int32 _, _ | .int64 _, _ | .double _, _ => trivial
  | .string value, shared => by
      change (CString.ofSized value).bytes.length < 2 ^ 32
      rw [CString.bytes_ofSized shared.2.1]
      exact shared.1
  | .uint8List _, shared | .int32List _, shared | .float32List _, shared | .int64List _, shared
  | .float64List _, shared => shared
  | .list value, shared =>
    ⟨by rw [length_toFlValues]; exact shared.1, sendableValues_of_shared value shared.2⟩
  | .map value, shared =>
    ⟨by rw [length_toFlEntries]; exact shared.1, shared.2.2.1,
      sendableEntries_of_shared value shared.2.2.2.2⟩

theorem sendableValues_of_shared : ∀ values, SharedValues utf8 values →
    SendableValues (toFlValues values)
  | [], _ => trivial
  | value :: rest, shared =>
    ⟨sendable_of_shared value shared.1, sendableValues_of_shared rest shared.2⟩

theorem sendableEntries_of_shared : ∀ entries, SharedEntries utf8 entries →
    SendableEntries (toFlEntries entries)
  | [], _ => trivial
  | (key, value) :: rest, shared =>
    ⟨sendable_of_shared key shared.1, sendable_of_shared value shared.2.1,
      sendableEntries_of_shared rest shared.2.2⟩

end

open StandardMessageCodec

/-- A value of OHOS that a message gives back as it is. -/
structure Kept (utf8 : NativeUtf8) (value : Value) : Prop where
  supported : Supported utf8 value
  preserved : Preserved value
  normal : value.normalize = value

theorem isNaN_of_toInt? {number : Binary64} {value : Int} (integer : toInt? number = some value) :
    isNaN infinity64 number = false := by
  by_contra wrong
  have beyond : infinity64 < magnitude number := by simpa [isNaN] using wrong
  have bound := magnitude_lt number
  have limit : infinity64 = 2047 * 2 ^ 52 := by decide
  have top : exponent number = 2047 := by
    unfold exponent
    omega
  rw [toInt?, top, if_neg (by decide), if_neg (by decide), if_pos rfl] at integer
  cases integer

theorem kept_ofInt {value : Int} (safe : IsSafe value) : Kept utf8 (.number (ofInt value)) where
  supported := ⟨isNaN_of_toInt? (toInt?_ofInt safe), ofInt_ne_negativeZero safe⟩
  preserved := trivial
  normal := rfl

theorem kept_double {value : Binary64} (double : StaysDouble value) :
    Kept utf8 (.number value) where
  supported := by
    refine ⟨double.1, ?_⟩
    rintro rfl
    exact double.2 0 (by decide) (by decide)
  preserved := trivial
  normal := rfl

theorem length_toString16_lt {value : Int} (lower : -2 ^ 63 ≤ value) (upper : value < 2 ^ 63) :
    (toString16 value).length < 2 ^ 32 := by
  have few : (Nat.digits 16 value.natAbs).length ≤ 16 := by
    rw [Nat.digits_length_le_iff (by decide)]
    omega
  unfold toString16
  rw [List.length_append]
  have sign : (if value < 0 then [45] else ([] : List Byte)).length ≤ 1 := by split <;> simp
  have digits : (if value = 0 then [48]
      else ((Nat.digits 16 value.natAbs).reverse).map hexDigit).length ≤ 16 := by
    split
    · simp
    · simpa using few
  omega

theorem kept_ofBigInt (value : BitVec 64) : Kept utf8 (.ofBigInt value.toInt) := by
  have lower := BitVec.le_toInt value
  have upper := BitVec.toInt_lt (x := value)
  unfold Value.ofBigInt
  by_cases safe : IsSafe value.toInt
  · rw [if_pos safe]
    exact kept_ofInt safe
  · rw [if_neg safe]
    exact {
      supported := length_toString16_lt (by omega) (by omega)
      preserved := ⟨by omega, by omega⟩
      normal := if_neg safe }

mutual

theorem kept_of_shared : ∀ value, Shared utf8 value → Kept utf8 (toValue utf8 value)
  | .null, _ | .bool _, _ => ⟨trivial, trivial, rfl⟩
  | .int32 value, _ => by
      have lower := BitVec.le_toInt value
      have upper := BitVec.toInt_lt (x := value)
      refine kept_ofInt ?_
      unfold IsSafe maxSafeInteger
      omega
  | .int64 value, _ => kept_ofBigInt value
  | .double _, shared => kept_double shared
  | .string value, shared => by
      refine ⟨?_, trivial, rfl⟩
      change (StringUtils.stringToArrayBuffer utf8 _).length < 2 ^ 32
      rw [shared.2.2]
      exact shared.1
  | .uint8List _, shared => ⟨shared, trivial, rfl⟩
  | .int32List value, shared | .float32List value, shared => by
      have short : 4 * value.length < 2 ^ 32 := shared
      have bounded : value.length < 2 ^ 32 := by omega
      exact ⟨bounded, trivial, rfl⟩
  | .int64List value, shared | .float64List value, shared => by
      have short : 8 * value.length < 2 ^ 32 := shared
      have bounded : value.length < 2 ^ 32 := by omega
      exact ⟨bounded, trivial, rfl⟩
  | .list value, shared => by
      obtain ⟨supported, preserved, normal⟩ := keptValues_of_shared value shared.2
      exact ⟨⟨by rw [length_toValues]; exact shared.1, supported⟩, preserved,
        congrArg Value.array normal⟩
  | .map value, shared => by
      obtain ⟨supported, preserved, normal⟩ := keptEntries_of_shared value shared.2.2.2.2
      have distinct : Value.Distinct (Value.normalizeEntries (toEntries utf8 value)) := by
        rw [normal]
        exact shared.2.2.2.1
      exact ⟨⟨by rw [length_toEntries]; exact shared.1, shared.2.2.2.1, supported⟩,
        ⟨preserved, distinct⟩, congrArg Value.map normal⟩

theorem keptValues_of_shared : ∀ values, SharedValues utf8 values →
    SupportedValues utf8 (toValues utf8 values) ∧ PreservedValues (toValues utf8 values) ∧
      Value.normalizeValues (toValues utf8 values) = toValues utf8 values
  | [], _ => ⟨trivial, trivial, rfl⟩
  | value :: rest, shared => by
      have first := kept_of_shared value shared.1
      obtain ⟨supported, preserved, normal⟩ := keptValues_of_shared rest shared.2
      exact ⟨⟨first.supported, supported⟩, ⟨first.preserved, preserved⟩,
        congrArg₂ List.cons first.normal normal⟩

theorem keptEntries_of_shared : ∀ entries, SharedEntries utf8 entries →
    SupportedEntries utf8 (toEntries utf8 entries) ∧ PreservedEntries (toEntries utf8 entries) ∧
      Value.normalizeEntries (toEntries utf8 entries) = toEntries utf8 entries
  | [], _ => ⟨trivial, trivial, rfl⟩
  | (key, value) :: rest, shared => by
      have keyed := kept_of_shared key shared.1
      have first := kept_of_shared value shared.2.1
      obtain ⟨supported, preserved, normal⟩ := keptEntries_of_shared rest shared.2.2
      exact ⟨⟨keyed.supported, first.supported, supported⟩,
        ⟨keyed.preserved, first.preserved, preserved⟩,
        congrArg₂ List.cons (Prod.ext keyed.normal first.normal) normal⟩

end

end Supports

end FlutterEngine.Messages
