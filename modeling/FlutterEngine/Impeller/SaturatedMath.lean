import FlutterEngine.Std.SignedInts

/-!
# Saturated arithmetic

`saturated::Add` and `saturated::Sub` of `saturated_math.h`, on signed integers of any width.
An operation that would overflow is none.
-/

namespace FlutterEngine.Impeller.Saturated

open FlutterEngine.Std SignedInt

variable {bits : Nat}

def add (location distance : SignedInt bits) : Option (SignedInt bits) :=
  if 0 ≤ location.1 then
    (highest.sub? location).bind fun room =>
      if distance.1 > room.1 then some highest else location.add? distance
  else
    (lowest.sub? location).bind fun room =>
      if distance.1 < room.1 then some lowest else location.add? distance

def sub (upper lower : SignedInt bits) : Option (SignedInt bits) :=
  if 0 ≤ upper.1 then
    if lower.1 < 0 then
      (highest.add? lower).bind fun limit =>
        if upper.1 > limit.1 then some highest else upper.sub? lower
    else upper.sub? lower
  else if 0 < lower.1 then
    (lowest.add? lower).bind fun limit =>
      if upper.1 < limit.1 then some lowest else upper.sub? lower
  else upper.sub? lower

section

variable {number bound total : Int} (room : -2 ^ bits ≤ bound ∧ bound < 2 ^ bits)

include room

theorem limited_above (low : -2 ^ bits ≤ total) (beyond : bound < number ↔ 2 ^ bits ≤ total) :
    ((checked bound).bind fun limit : SignedInt bits =>
      if number > limit.1 then some highest else checked total) =
        some (clamp total : SignedInt bits) := by
  rw [checked_of_inRange room, Option.bind_some]
  split
  · next above => rw [clamp_of_ge (beyond.mp above)]
  · next fits => exact checked_eq_clamp ⟨low, not_le.mp (mt beyond.mpr fits)⟩

theorem limited_below (high : total < 2 ^ bits) (beyond : number < bound ↔ total < -2 ^ bits) :
    ((checked bound).bind fun limit : SignedInt bits =>
      if number < limit.1 then some lowest else checked total) =
        some (clamp total : SignedInt bits) := by
  rw [checked_of_inRange room, Option.bind_some]
  split
  · next under => rw [clamp_of_lt (beyond.mp under)]
  · next fits => exact checked_eq_clamp ⟨not_lt.mp (mt beyond.mpr fits), high⟩

end

/-- The sum is exact, or the limit that it is beyond, and nothing overflows on the way. -/
theorem add_eq (location distance : SignedInt bits) :
    add location distance = some (clamp (location.1 + distance.1)) := by
  obtain ⟨low, high⟩ := location.2
  obtain ⟨low', high'⟩ := distance.2
  have top : (highest : SignedInt bits).1 = 2 ^ bits - 1 := rfl
  have bottom : (lowest : SignedInt bits).1 = -2 ^ bits := rfl
  unfold add
  split
  · exact limited_above (by omega) (by omega) (by omega)
  · exact limited_below (by omega) (by omega) (by omega)

/-- So is the difference. -/
theorem sub_eq (upper lower : SignedInt bits) :
    sub upper lower = some (clamp (upper.1 - lower.1)) := by
  obtain ⟨low, high⟩ := upper.2
  obtain ⟨low', high'⟩ := lower.2
  have top : (highest : SignedInt bits).1 = 2 ^ bits - 1 := rfl
  have bottom : (lowest : SignedInt bits).1 = -2 ^ bits := rfl
  unfold sub
  split
  · split
    · exact limited_above (by omega) (by omega) (by omega)
    · exact checked_eq_clamp (by omega)
  · split
    · exact limited_below (by omega) (by omega) (by omega)
    · exact checked_eq_clamp (by omega)

end FlutterEngine.Impeller.Saturated
