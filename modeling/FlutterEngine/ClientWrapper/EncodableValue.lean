import FlutterEngine.Std.LittleEndian
import FlutterEngine.Std.Ieee754

/-!
# Encodable values

`EncodableValue` of `encodable_value.h` without the custom alternative. Numbers are
their bits and strings their bytes. A map is its list of entries, which
`std::map` keeps in the order of the keys.
-/

namespace FlutterEngine.ClientWrapper

open FlutterEngine.Std

/-- A value of one of the variant's alternatives. -/
inductive EncodableValue where
  | null
  | bool (value : Bool)
  | int32 (value : BitVec 32)
  | int64 (value : BitVec 64)
  | double (value : BitVec 64)
  | string (value : List Byte)
  | uint8List (value : List (BitVec 8))
  | int32List (value : List (BitVec 32))
  | int64List (value : List (BitVec 64))
  | float64List (value : List (BitVec 64))
  | list (value : List EncodableValue)
  | map (value : List (EncodableValue × EncodableValue))
  | float32List (value : List (BitVec 32))

namespace EncodableValue

/-- The index of the alternative. -/
def index : EncodableValue → Nat
  | null => 0
  | bool _ => 1
  | int32 _ => 2
  | int64 _ => 3
  | double _ => 4
  | string _ => 5
  | uint8List _ => 6
  | int32List _ => 7
  | int64List _ => 8
  | float64List _ => 9
  | list _ => 10
  | map _ => 11
  | float32List _ => 13

/-- Lexicographic comparison of vectors. -/
def cmpVector {α : Type} (cmp : α → α → Ordering) : List α → List α → Ordering
  | [], [] => .eq
  | [], _ :: _ => .lt
  | _ :: _, [] => .gt
  | left :: lefts, right :: rights => (cmp left right).then (cmpVector cmp lefts rights)

/-- Signed comparison. -/
def cmpInt {width : Nat} (left right : BitVec width) : Ordering := compare left.toInt right.toInt

/-- Unsigned comparison. -/
def cmpNat {width : Nat} (left right : BitVec width) : Ordering := compare left.toNat right.toNat

mutual

/-- Both directions of `operator<` at once: `lt` when the first value is less, `gt`
when the second is. Values of different alternatives compare by index. -/
def cmp : EncodableValue → EncodableValue → Ordering
  | null, null => .eq
  | bool left, bool right => compare left.toNat right.toNat
  | int32 left, int32 right => cmpInt left right
  | int64 left, int64 right => cmpInt left right
  | double left, double right => Ieee754.cmp Ieee754.infinity64 left right
  | string left, string right => cmpVector cmpNat left right
  | uint8List left, uint8List right => cmpVector cmpNat left right
  | int32List left, int32List right => cmpVector cmpInt left right
  | int64List left, int64List right => cmpVector cmpInt left right
  | float64List left, float64List right =>
    cmpVector (Ieee754.cmp Ieee754.infinity64) left right
  | list left, list right => cmpList left right
  | map left, map right => cmpMap left right
  | float32List left, float32List right =>
    cmpVector (Ieee754.cmp Ieee754.infinity32) left right
  | left, right => compare left.index right.index

def cmpList : List EncodableValue → List EncodableValue → Ordering
  | [], [] => .eq
  | [], _ :: _ => .lt
  | _ :: _, [] => .gt
  | left :: lefts, right :: rights => (cmp left right).then (cmpList lefts rights)

def cmpMap : List (EncodableValue × EncodableValue) → List (EncodableValue × EncodableValue) →
    Ordering
  | [], [] => .eq
  | [], _ :: _ => .lt
  | _ :: _, [] => .gt
  | (leftKey, left) :: lefts, (rightKey, right) :: rights =>
    ((cmp leftKey rightKey).then (cmp left right)).then (cmpMap lefts rights)

end

/-- `std::map::emplace`: an entry whose key is equivalent to one present is dropped. -/
def emplace (key value : EncodableValue) :
    List (EncodableValue × EncodableValue) → List (EncodableValue × EncodableValue)
  | [] => [(key, value)]
  | entry :: rest =>
    match cmp key entry.1 with
    | .lt => (key, value) :: entry :: rest
    | .eq => entry :: rest
    | .gt => entry :: emplace key value rest

/-- The order in which a map holds its entries. -/
abbrev Ordered (entries : List (EncodableValue × EncodableValue)) : Prop :=
  entries.Pairwise fun earlier later => cmp earlier.1 later.1 = .lt

theorem cmpVector_swap {α : Type} {cmp : α → α → Ordering}
    (swap : ∀ left right, (cmp left right).swap = cmp right left) (lefts rights : List α) :
    (cmpVector cmp lefts rights).swap = cmpVector cmp rights lefts := by
  induction lefts generalizing rights with
  | nil => cases rights <;> rfl
  | cons left lefts ih =>
    cases rights with
    | nil => rfl
    | cons right rights => rw [cmpVector, cmpVector, Ordering.swap_then, swap, ih]

theorem compare_swap (left right : Nat) : (compare left right).swap = compare right left :=
  Std.OrientedOrd.eq_swap.symm

theorem cmpInt_swap {width : Nat} (left right : BitVec width) :
    (cmpInt left right).swap = cmpInt right left := Std.OrientedOrd.eq_swap.symm

theorem cmpNat_swap {width : Nat} (left right : BitVec width) :
    (cmpNat left right).swap = cmpNat right left := Std.OrientedOrd.eq_swap.symm

mutual

/-- No value is both less and greater than another. -/
theorem cmp_swap : ∀ left right, (cmp left right).swap = cmp right left
  | null, right => by cases right <;> simp only [cmp] <;> rfl
  | bool left, right => by cases right <;> simp only [cmp] <;> exact compare_swap _ _
  | int32 left, right => by
      cases right <;> simp only [cmp] <;> first | exact cmpInt_swap _ _ | exact compare_swap _ _
  | int64 left, right => by
      cases right <;> simp only [cmp] <;> first | exact cmpInt_swap _ _ | exact compare_swap _ _
  | double left, right => by
      cases right <;> simp only [cmp] <;>
        first | exact Ieee754.cmp_swap _ _ _ | exact compare_swap _ _
  | string left, right => by
      cases right <;> simp only [cmp] <;>
        first | exact cmpVector_swap cmpNat_swap _ _ | exact compare_swap _ _
  | uint8List left, right => by
      cases right <;> simp only [cmp] <;>
        first | exact cmpVector_swap cmpNat_swap _ _ | exact compare_swap _ _
  | int32List left, right => by
      cases right <;> simp only [cmp] <;>
        first | exact cmpVector_swap cmpInt_swap _ _ | exact compare_swap _ _
  | int64List left, right => by
      cases right <;> simp only [cmp] <;>
        first | exact cmpVector_swap cmpInt_swap _ _ | exact compare_swap _ _
  | float64List left, right => by
      cases right <;> simp only [cmp] <;>
        first | exact cmpVector_swap (Ieee754.cmp_swap _) _ _ | exact compare_swap _ _
  | list left, right => by
      cases right <;> simp only [cmp] <;> first | exact cmpList_swap left _ | exact compare_swap _ _
  | map left, right => by
      cases right <;> simp only [cmp] <;> first | exact cmpMap_swap left _ | exact compare_swap _ _
  | float32List left, right => by
      cases right <;> simp only [cmp] <;>
        first | exact cmpVector_swap (Ieee754.cmp_swap _) _ _ | exact compare_swap _ _

theorem cmpList_swap : ∀ lefts rights, (cmpList lefts rights).swap = cmpList rights lefts
  | [], [] => rfl
  | [], _ :: _ => rfl
  | _ :: _, [] => rfl
  | left :: lefts, right :: rights => by
      rw [cmpList, cmpList, Ordering.swap_then, cmp_swap left, cmpList_swap lefts]

theorem cmpMap_swap : ∀ lefts rights, (cmpMap lefts rights).swap = cmpMap rights lefts
  | [], [] => rfl
  | [], _ :: _ => rfl
  | _ :: _, [] => rfl
  | (leftKey, left) :: lefts, (rightKey, right) :: rights => by
      rw [cmpMap, cmpMap, Ordering.swap_then, Ordering.swap_then, cmp_swap leftKey, cmp_swap left,
        cmpMap_swap lefts]

end

/-- An entry whose key comes last is put last. -/
theorem emplace_last {key value : EncodableValue} {entries : List (EncodableValue × EncodableValue)}
    (last : ∀ entry ∈ entries, cmp entry.1 key = .lt) :
    emplace key value entries = entries ++ [(key, value)] := by
  induction entries with
  | nil => rfl
  | cons entry rest ih =>
    have greater : cmp key entry.1 = .gt := by
      rw [← cmp_swap, last entry List.mem_cons_self]
      rfl
    rw [emplace, greater, List.cons_append,
      ← ih fun other later => last other (List.mem_cons_of_mem _ later)]

end EncodableValue

end FlutterEngine.ClientWrapper
