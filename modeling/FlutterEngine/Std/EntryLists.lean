import Mathlib.Data.List.Basic

/-!
# Maps that keep the order of insertion

The entries of a map as a list, for any test of which keys are the same.
-/

namespace FlutterEngine.Std.EntryLists

universe u v

variable {Key : Type u} {Item : Type v} (same : Key → Key → Bool)

/-- Give a key its value: where the key is already, or at the end. -/
def assign (key : Key) (value : Item) : List (Key × Item) → List (Key × Item)
  | [] => [(key, value)]
  | (other, old) :: rest =>
    if same other key then (other, value) :: rest else (other, old) :: assign key value rest

theorem assign_cons (key : Key) (value : Item) (entry : Key × Item) (rest : List (Key × Item)) :
    assign same key value (entry :: rest) =
      if same entry.1 key then (entry.1, value) :: rest
      else entry :: assign same key value rest := rfl

/-- Assign these entries, the first ones first. -/
def assignAll (earlier entries : List (Key × Item)) : List (Key × Item) :=
  entries.foldl (fun assigned entry => assign same entry.1 entry.2 assigned) earlier

/-- No two keys are the same. -/
def Distinct (entries : List (Key × Item)) : Prop :=
  entries.Pairwise fun first second => same first.1 second.1 = false

/-- A key is new, or was there. -/
theorem assign_cases (key : Key) (value : Item) (entries : List (Key × Item)) :
    (∀ entry ∈ entries, same entry.1 key = false) ∨
      (assign same key value entries).length = entries.length := by
  induction entries with
  | nil => exact .inl fun _ listed => absurd listed List.not_mem_nil
  | cons entry rest ih =>
    rw [assign_cons]
    split
    · exact .inr rfl
    · next other =>
      rcases ih with new | present
      · exact .inl (List.forall_mem_cons.mpr ⟨by simpa using other, new⟩)
      · exact .inr (by simpa using present)

variable {same}
variable {entries earlier : List (Key × Item)}

/-- A new key comes at the end. -/
theorem assign_new {key : Key} {value : Item} (new : ∀ entry ∈ entries, same entry.1 key = false) :
    assign same key value entries = entries ++ [(key, value)] := by
  induction entries with
  | nil => rfl
  | cons entry rest ih =>
    have other := new entry List.mem_cons_self
    rw [assign_cons, if_neg (by simp [other]), ih fun entry listed => new entry (.tail _ listed)]
    rfl

variable (same) in
theorem length_assignAll_le (entries earlier : List (Key × Item)) :
    (assignAll same earlier entries).length ≤ earlier.length + entries.length := by
  induction entries generalizing earlier with
  | nil => exact Nat.le_refl _
  | cons entry rest ih =>
    have bound := ih (assign same entry.1 entry.2 earlier)
    change (assignAll same (assign same entry.1 entry.2 earlier) rest).length ≤ _
    rw [List.length_cons]
    rcases assign_cases same entry.1 entry.2 earlier with new | present
    · rw [assign_new new, List.length_append, List.length_singleton] at bound
      rw [assign_new new]
      omega
    · omega

theorem assignAll_of_distinct (distinct : Distinct same (earlier ++ entries)) :
    assignAll same earlier entries = earlier ++ entries := by
  induction entries generalizing earlier with
  | nil => exact (List.append_nil _).symm
  | cons entry rest ih =>
    have new : ∀ other ∈ earlier, same other.1 entry.1 = false := fun other listed =>
      (List.pairwise_append.mp distinct).2.2 other listed entry List.mem_cons_self
    change assignAll same (assign same entry.1 entry.2 earlier) rest = _
    rw [assign_new new, ih (by simpa using distinct), List.append_assoc, List.singleton_append]

/-- As many entries are left as were assigned exactly where no key comes twice. -/
theorem length_assignAll_iff (distinct : Distinct same earlier) :
    (assignAll same earlier entries).length = earlier.length + entries.length ↔
      Distinct same (earlier ++ entries) := by
  refine ⟨fun full => ?_, fun all => by rw [assignAll_of_distinct all, List.length_append]⟩
  induction entries generalizing earlier with
  | nil => rwa [List.append_nil]
  | cons entry rest ih =>
    have bound := length_assignAll_le same rest (assign same entry.1 entry.2 earlier)
    change (assignAll same (assign same entry.1 entry.2 earlier) rest).length = _ at full
    rw [List.length_cons] at full
    rcases assign_cases same entry.1 entry.2 earlier with new | present
    · rw [assign_new new] at full
      have next : Distinct same (earlier ++ [entry]) :=
        List.pairwise_append.mpr ⟨distinct, List.pairwise_singleton _ _, fun other listed _ last =>
          List.mem_singleton.mp last ▸ new other listed⟩
      rw [← List.singleton_append, ← List.append_assoc]
      exact ih next (by rw [full, List.length_append, List.length_singleton]; omega)
    · omega

end FlutterEngine.Std.EntryLists
