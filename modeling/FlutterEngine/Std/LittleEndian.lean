import Mathlib.Algebra.Order.Ring.Nat

/-!
# Little-endian bytes

Numbers of a fixed number of bytes, least significant byte first, and sequences
of elements of equal size.
-/

namespace FlutterEngine.Std

universe u

abbrev Byte := BitVec 8

namespace LittleEndian

/-- The lowest `count` bytes of a number. -/
def toBytes : (count : Nat) → Nat → List Byte
  | 0, _ => []
  | count + 1, value => BitVec.ofNat 8 value :: toBytes count (value / 256)

/-- The number these bytes are. -/
def ofBytes : List Byte → Nat
  | [] => 0
  | byte :: rest => byte.toNat + 256 * ofBytes rest

@[simp] theorem length_toBytes (count value : Nat) : (toBytes count value).length = count := by
  induction count generalizing value with
  | zero => rfl
  | succ count ih => simp [toBytes, ih]

theorem ofBytes_toBytes (count value : Nat) : ofBytes (toBytes count value) = value % 256 ^ count := by
  induction count generalizing value with
  | zero => simp [toBytes, ofBytes, Nat.mod_one]
  | succ count ih =>
    have low : (BitVec.ofNat 8 value).toNat = value % 256 := BitVec.toNat_ofNat value 8
    rw [toBytes, ofBytes, ih, low, Nat.pow_succ', Nat.mod_mul]

/-- Bytes of a value read back as a value of the same width. -/
theorem ofBytes_toBytes_toNat {count : Nat} (value : BitVec (8 * count)) :
    BitVec.ofNat (8 * count) (ofBytes (toBytes count value.toNat)) = value := by
  have width : 256 ^ count = 2 ^ (8 * count) := by rw [Nat.pow_mul]
  rw [ofBytes_toBytes, width, Nat.mod_eq_of_lt value.isLt, BitVec.ofNat_toNat, BitVec.setWidth_eq]

/-- Cut the bytes into `count` elements of `size` bytes. -/
def elements (size : Nat) : (count : Nat) → List Byte → List (List Byte)
  | 0, _ => []
  | count + 1, bytes => bytes.take size :: elements size count (bytes.drop size)

variable {α : Type u} {size : Nat}

/-- Elements laid end to end are cut where they were joined. -/
theorem elements_flatMap (encode : α → List Byte)
    (sized : ∀ item, (encode item).length = size) (items : List α) :
    elements size items.length (items.flatMap encode) = items.map encode := by
  induction items with
  | nil => rfl
  | cons item items ih =>
    rw [List.length_cons, elements, List.flatMap_cons, List.take_left' (sized item),
      List.drop_left' (sized item), ih, List.map_cons]

theorem length_flatMap (encode : α → List Byte)
    (sized : ∀ item, (encode item).length = size) (items : List α) :
    (items.flatMap encode).length = items.length * size := by
  induction items with
  | nil => simp
  | cons item items ih => simp [sized, ih, Nat.succ_mul, Nat.add_comm]

/-- The elements of one width as bytes. -/
def ofElements {size : Nat} (items : List (BitVec (8 * size))) : List Byte :=
  items.flatMap fun item => toBytes size item.toNat

/-- `count` elements of one width from bytes. -/
def toElements (size count : Nat) (bytes : List Byte) : List (BitVec (8 * size)) :=
  (elements size count bytes).map fun element => BitVec.ofNat (8 * size) (ofBytes element)

@[simp] theorem length_ofElements (items : List (BitVec (8 * size))) :
    (ofElements items).length = items.length * size :=
  length_flatMap (fun item : BitVec (8 * size) => toBytes size item.toNat)
    (fun item => length_toBytes size item.toNat) items

theorem length_toElements (size count : Nat) (bytes : List Byte) :
    (toElements size count bytes).length = count := by
  have cut : ∀ bytes, (elements size count bytes).length = count := by
    induction count with
    | zero => exact fun _ => rfl
    | succ count ih => exact fun bytes => congrArg (· + 1) (ih (bytes.drop size))
  rw [toElements, List.length_map, cut]

theorem toElements_ofElements (items : List (BitVec (8 * size))) :
    toElements size items.length (ofElements items) = items := by
  rw [toElements, ofElements, elements_flatMap (fun item : BitVec (8 * size) => toBytes size item.toNat)
    fun item => length_toBytes size item.toNat, List.map_map]
  exact List.map_id'' (fun item => ofBytes_toBytes_toNat item) items

end LittleEndian

/-! ## Alignment -/

/-- The bytes missing to the next multiple of the alignment. -/
def padding (alignment position : Nat) : Nat :=
  if position % alignment = 0 then 0 else alignment - position % alignment

theorem padding_eq_zero_iff {alignment position : Nat} (positive : 0 < alignment) :
    padding alignment position = 0 ↔ position % alignment = 0 := by
  have bound := Nat.mod_lt position positive
  unfold padding
  split <;> omega

theorem add_padding_mod {alignment position : Nat} (positive : 0 < alignment) :
    (position + padding alignment position) % alignment = 0 := by
  have bound := Nat.mod_lt position positive
  unfold padding
  split
  · assumption
  · rw [← Nat.mod_add_mod, Nat.add_sub_cancel' (Nat.le_of_lt bound), Nat.mod_self]

end FlutterEngine.Std
