import Mathlib.Data.List.Infix
import FlutterEngine.Std.LittleEndian

/-!
# UTF-8

The bytes of a text and the text of bytes. A decoder may discard a byte order mark at the start of
the bytes; `withoutMark` is what is left of an encoded text then.
-/

namespace FlutterEngine.Std.Utf8

def encode (text : String) : List Byte := text.toByteArray.data.toList.map UInt8.toBitVec

/-- The text of well-formed bytes. -/
def decode? (bytes : List Byte) : Option String :=
  String.fromUTF8? ⟨(bytes.map UInt8.ofBitVec).toArray⟩

/-- U+FEFF, and its encoding. -/
def markCharacter : Char := '\uFEFF'

def byteOrderMark : List Byte := [0xEF, 0xBB, 0xBF]

/-- The text of well-formed bytes without a byte order mark at their start. -/
def decodeWithoutMark? (bytes : List Byte) : Option String :=
  decode? (if byteOrderMark <+: bytes then bytes.drop byteOrderMark.length else bytes)

/-- The text without a mark at its start. -/
def withoutMark (text : String) : String :=
  match text.toList with
  | [] => text
  | first :: rest => if first = markCharacter then String.ofList rest else text

theorem decode?_encode (text : String) : decode? (encode text) = some text := by
  have bytes : (encode text).map UInt8.ofBitVec = text.toByteArray.data.toList := by
    simp [encode, Function.comp_def]
  have whole : (⟨text.toByteArray.data.toList.toArray⟩ : ByteArray) = text.toByteArray := rfl
  rw [decode?, bytes, whole, String.fromUTF8?, dif_pos text.isValidUTF8]
  rfl

theorem encode_ofList_cons (first : Char) (rest : List Char) :
    encode (String.ofList (first :: rest)) =
      (String.utf8EncodeChar first).map UInt8.toBitVec ++ encode (String.ofList rest) := by
  unfold encode
  rw [String.toByteArray_ofList, String.toByteArray_ofList, List.utf8Encode_cons,
    List.utf8Encode_singleton]
  simp

theorem encode_markCharacter :
    (String.utf8EncodeChar markCharacter).map UInt8.toBitVec = byteOrderMark := by decide

/-- Encoded characters are told apart by the bytes that begin with them. -/
theorem eq_of_encode_append {first other : Char} {rest tail : List UInt8}
    (same : String.utf8EncodeChar first ++ rest = String.utf8EncodeChar other ++ tail) :
    first = other := by
  have reads : ∀ (char : Char) (after : List UInt8),
      ByteArray.utf8DecodeChar? (String.utf8EncodeChar char ++ after).toByteArray 0 =
        some char := by
    intro char after
    rw [List.toByteArray_append]
    exact ByteArray.utf8DecodeChar?_utf8EncodeChar_append
  have both := reads first rest
  rw [same, reads other tail] at both
  exact (Option.some.inj both).symm

/-- Only a text that starts with the mark is encoded with a byte order mark at the start. -/
theorem byteOrderMark_prefix_iff (first : Char) (rest : List Char) :
    byteOrderMark <+: encode (String.ofList (first :: rest)) ↔ first = markCharacter := by
  rw [encode_ofList_cons]
  constructor
  · rintro ⟨after, same⟩
    have bytes := congrArg (List.map UInt8.ofBitVec) same
    rw [← encode_markCharacter, List.map_append, List.map_append, List.map_map,
      List.map_map] at bytes
    simp only [Function.comp_def, UInt8.ofBitVec_toBitVec, List.map_id'] at bytes
    exact (eq_of_encode_append bytes).symm
  · rintro rfl
    rw [encode_markCharacter]
    exact List.prefix_append _ _

theorem decodeWithoutMark?_encode (text : String) :
    decodeWithoutMark? (encode text) = some (withoutMark text) := by
  obtain ⟨characters, rfl⟩ : ∃ characters, text = String.ofList characters :=
    ⟨text.toList, String.ofList_toList.symm⟩
  unfold decodeWithoutMark? withoutMark
  rw [String.toList_ofList]
  cases characters with
  | nil =>
    rw [if_neg (by decide)]
    exact decode?_encode _
  | cons first rest =>
    by_cases marked : first = markCharacter
    · have start := (byteOrderMark_prefix_iff first rest).mpr marked
      change decode? _ = some (if first = markCharacter then _ else _)
      rw [if_pos start, if_pos marked, encode_ofList_cons, marked, encode_markCharacter,
        List.drop_left, decode?_encode]
    · have start := mt (byteOrderMark_prefix_iff first rest).mp marked
      change decode? _ = some (if first = markCharacter then _ else _)
      rw [if_neg start, if_neg marked, decode?_encode]

/-- What is left is the whole text when it does not start with the mark. -/
theorem withoutMark_eq_self_iff (text : String) :
    withoutMark text = text ↔ text.toList.head? ≠ some markCharacter := by
  obtain ⟨characters, rfl⟩ : ∃ characters, text = String.ofList characters :=
    ⟨text.toList, String.ofList_toList.symm⟩
  unfold withoutMark
  rw [String.toList_ofList]
  cases characters with
  | nil => exact iff_of_true rfl nofun
  | cons first rest =>
    change (if first = markCharacter then String.ofList rest else _) = _ ↔ some first ≠ _
    by_cases marked : first = markCharacter
    · rw [if_pos marked]
      refine iff_of_false ?_ fun other => other (congrArg some marked)
      intro same
      have lengths := congrArg (fun text : String => text.toList.length) same
      simp only [String.toList_ofList, List.length_cons] at lengths
      omega
    · rw [if_neg marked]
      exact iff_of_true rfl fun same => marked (Option.some.inj same)

end FlutterEngine.Std.Utf8
