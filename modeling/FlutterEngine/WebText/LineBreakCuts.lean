import FlutterEngine.WebText.LineBreakVerdicts

/-!
# The fragments of characters with verdicts

Each fragment is a row of characters, and the first verdict to break in it is the one that ends
it. The fragments end after the characters with such verdicts, and at the end of the text.
-/

namespace FlutterEngine.WebText

namespace Verdicts

variable (judged : Verdicts)

/-- How many units the characters take. -/
def extent : Nat := (judged.map fun pair => pair.1.units).sum

/-- How many newlines they count as. -/
def newlines : Nat := (judged.map fun pair => pair.1.newlines).sum

/-- How many spaces they count as. -/
def spaces : Nat := (judged.map fun pair => pair.1.spaces).sum

variable {judged}

theorem extent_append (left right : Verdicts) :
    extent (left ++ right) = extent left + extent right := by
  rw [extent, List.map_append, List.sum_append]
  rfl

theorem extent_singleton (pair : Character × LineBreakType) : extent [pair] = pair.1.units :=
  List.sum_singleton

theorem extent_concat (left : Verdicts) (pair : Character × LineBreakType) :
    extent (left ++ [pair]) = extent left + pair.1.units := by
  rw [extent_append, extent_singleton]

theorem extent_cons (pair : Character × LineBreakType) (right : Verdicts) :
    extent (pair :: right) = pair.1.units + extent right := by
  rw [← List.singleton_append, extent_append, extent_singleton]

theorem newlines_concat (left : Verdicts) (pair : Character × LineBreakType) :
    newlines (left ++ [pair]) = newlines left + pair.1.newlines := by
  rw [newlines, List.map_append, List.sum_append]
  exact congrArg (_ + ·) List.sum_singleton

theorem spaces_concat (left : Verdicts) (pair : Character × LineBreakType) :
    spaces (left ++ [pair]) = spaces left + pair.1.spaces := by
  rw [spaces, List.map_append, List.sum_append]
  exact congrArg (_ + ·) List.sum_singleton

/-- No verdict in a fragment before the one that ends it is to break. -/
def StaysOpen (judged : Verdicts) : Prop := ∀ pair ∈ judged, pair.2 = .prohibited

theorem staysOpen_nil : StaysOpen [] := fun _ mem => nomatch mem

theorem staysOpen_concat {pair : Character × LineBreakType} (opened : StaysOpen judged)
    (prohibited : pair.2 = .prohibited) : StaysOpen (judged ++ [pair]) := by
  intro other mem
  rcases List.mem_append.mp mem with early | late
  · exact opened other early
  · rw [List.mem_singleton.mp late]
    exact prohibited

/-- Every character takes a unit. -/
def IsSolid (judged : Verdicts) : Prop := ∀ pair ∈ judged, 0 < pair.1.units

end Verdicts

open Verdicts

/-! ## A fragment -/

/-- A fragment of `judged` is the row `inner` of characters. -/
structure Cuts (judged : Verdicts) (fragment : LineBreakFragment)
    (before inner after : Verdicts) : Prop where
  eq : judged = before ++ inner ++ after
  start : fragment.start = extent before
  stop : fragment.stop = extent (before ++ inner)
  newlines : fragment.trailingNewlines = newlines inner
  spaces : fragment.trailingSpaces = spaces inner
  closed : StaysOpen inner ∧ after = [] ∧ fragment.type = .endOfText ∨
    ∃ front last, inner = front ++ [last] ∧ StaysOpen front ∧ last.2 = fragment.type ∧
      fragment.type ≠ .prohibited

/-- The next character joins the open fragment, and ends it unless it is kept with what follows. -/
theorem assemble_cons (before opened rest : Verdicts) (pair : Character × LineBreakType) :
    assemble (extent before) (extent (before ++ opened)) (newlines opened) (spaces opened)
        (pair :: rest) =
      if pair.2 = .prohibited then
        assemble (extent before) (extent (before ++ (opened ++ [pair])))
          (newlines (opened ++ [pair])) (spaces (opened ++ [pair])) rest
      else
        ⟨extent before, extent (before ++ (opened ++ [pair])), pair.2, newlines (opened ++ [pair]),
          spaces (opened ++ [pair])⟩ ::
          assemble (extent (before ++ (opened ++ [pair])))
            (extent (before ++ (opened ++ [pair]) ++ [])) (newlines []) (spaces []) rest := by
  rw [← List.append_assoc, extent_concat, newlines_concat, spaces_concat, List.append_nil,
    extent_concat]
  rfl

theorem append_cons_eq (before opened rest : Verdicts) (pair : Character × LineBreakType) :
    before ++ opened ++ pair :: rest = before ++ (opened ++ [pair]) ++ rest := by
  rw [List.append_assoc, List.append_assoc, List.append_assoc]
  rfl

variable {before after : Verdicts} {fragment : LineBreakFragment} {type : LineBreakType}
  {lineLookup : LineLookup} {text : DartString}

/-- Each fragment is a row of characters. -/
theorem exists_cuts {opened rest : Verdicts} (isOpen : StaysOpen opened)
    (mem : fragment ∈ assemble (extent before) (extent (before ++ opened)) (newlines opened)
      (spaces opened) rest) :
    ∃ earlier inner after, Cuts (before ++ opened ++ rest) fragment earlier inner after := by
  induction rest generalizing before opened with
  | nil =>
    rw [assemble, List.mem_singleton] at mem
    subst mem
    exact ⟨before, opened, [], rfl, rfl, rfl, rfl, rfl, .inl ⟨isOpen, rfl, rfl⟩⟩
  | cons pair rest ih =>
    rw [append_cons_eq]
    rw [assemble_cons] at mem
    split at mem
    · next prohibited => exact ih (staysOpen_concat isOpen prohibited) mem
    · next breaks =>
      rcases List.mem_cons.mp mem with rfl | later
      · exact ⟨before, opened ++ [pair], rest, rfl, rfl, rfl, rfl, rfl,
          .inr ⟨opened, pair, rfl, isOpen, rfl, breaks⟩⟩
      · have following := ih staysOpen_nil later
        rwa [List.append_nil] at following

theorem cuts_of_mem {judged : Verdicts} (mem : fragment ∈ assemble 0 0 0 0 judged) :
    ∃ before inner after, Cuts judged fragment before inner after :=
  @exists_cuts [] fragment [] judged staysOpen_nil mem

variable {character : Character}

/-- A verdict to break ends a fragment. -/
theorem exists_stop (start position newlines spaces : Nat)
    {character : Character} (breaks : type ≠ .prohibited) :
    ∃ fragment ∈ assemble start position newlines spaces
      (before ++ (character, type) :: after),
      fragment.type = type ∧
        fragment.stop = position + extent (before ++ [(character, type)]) := by
  induction before generalizing start position newlines spaces with
  | nil =>
    rw [List.nil_append, assemble, if_neg breaks]
    exact ⟨_, List.mem_cons_self, rfl, by rw [List.nil_append, extent_singleton]⟩
  | cons pair before ih =>
    obtain ⟨first, verdict⟩ := pair
    have place : position + extent ((first, verdict) :: before ++ [(character, type)]) =
        position + first.units + extent (before ++ [(character, type)]) := by
      rw [List.cons_append, extent_cons, Nat.add_assoc]
    rw [place, List.cons_append, assemble]
    split
    · exact ih ..
    · obtain ⟨fragment, mem, ends⟩ := ih _ _ _ _
      exact ⟨fragment, List.mem_cons_of_mem _ mem, ends⟩

/-! ## Verdicts on the characters of a text -/

/-- The memory at a character: a class that is not its own is that of a mark, and not counted. -/
structure Memory.Tracks (memory : Memory) (prop : LineCharProperty) : Prop where
  steady : memory.Steady
  alike : CountAlike memory.curr prop
  plain : prop ≠ .CM → prop ≠ .ZWJ → memory.curr = prop

/-- The verdict on a character before the next one. -/
def Memory.verdict (memory : Memory) (character : Character) : Option Character → LineBreakType
  | none => if memory.curr.isNewline then .mandatory else .prohibited
  | some next => (memory.judge character.last next.first next.property).type

/-- A verdict is passed with a memory of the characters before it. -/
theorem verdict_of_judged {memory : Memory} {chars : List Character} (tracks : ∀ first ∈ chars.head?, memory.Tracks first.property)
    (eq : chars.zip (verdicts memory chars) = before ++ (character, type) :: after) :
    ∃ memory : Memory, memory.Tracks character.property ∧
      type = memory.verdict character (after.head?.map Prod.fst) := by
  induction before generalizing memory chars with
  | nil =>
    match chars with
    | [] => cases eq
    | [_] =>
      obtain ⟨rfl, rfl⟩ := Prod.mk.inj (List.cons.inj eq).1
      cases (List.cons.inj eq).2
      exact ⟨memory, tracks _ rfl, rfl⟩
    | _ :: next :: rest =>
      obtain ⟨rfl, rfl⟩ := Prod.mk.inj (List.cons.inj eq).1
      refine ⟨memory, tracks _ rfl, ?_⟩
      have later := (List.cons.inj eq).2
      cases rest with
      | nil =>
        rw [← later]
        rfl
      | cons _ _ =>
        rw [← later]
        rfl
  | cons pair before ih =>
    match chars with
    | [] => cases eq
    | [_] =>
      have later := (List.cons.inj eq).2
      exact absurd later.symm (List.append_ne_nil_of_right_ne_nil before (List.cons_ne_nil _ _))
    | first :: next :: rest =>
      refine ih ?_ (List.cons.inj eq).2
      intro other mem
      obtain rfl := Option.some.inj mem
      have counts := Memory.counts_judge first.last next.first next.property
        (tracks first rfl).steady
      exact ⟨counts.steady, counts.curr, counts.plain⟩

/-! ## The characters of a text with their verdicts -/

theorem length_verdicts (memory : Memory) (chars : List Character) :
    (verdicts memory chars).length = chars.length := by
  induction chars generalizing memory with
  | nil => rfl
  | cons character chars ih =>
    cases chars with
    | nil => rfl
    | cons next chars =>
      rw [verdicts, List.length_cons, ih]
      rfl

theorem map_fst_judged (lineLookup : LineLookup) (text : DartString) :
    (judged lineLookup text).map Prod.fst = characters lineLookup text :=
  List.map_fst_zip (length_verdicts ..).ge

/-- A character is one unit, or a surrogate with the unit behind it. -/
theorem mem_characters (mem : character ∈ characters lineLookup text) :
    (∃ char, character = ⟨1, lineLookup.property (some char.toNat), char, char⟩) ∨
      ∃ first second, character =
        ⟨2, lineLookup.property (some (combineSurrogatePair first second)), first, second⟩ := by
  induction text using characters.induct with
  | case1 => cases mem
  | case2 char => exact .inl ⟨char, List.mem_singleton.mp mem⟩
  | case3 char next rest surrogate ih =>
    rw [characters, if_pos surrogate] at mem
    rcases List.mem_cons.mp mem with here | later
    · exact .inr ⟨char, next, here⟩
    · exact ih later
  | case4 char next rest basic ih =>
    rw [characters, if_neg basic] at mem
    rcases List.mem_cons.mp mem with here | later
    · exact .inl ⟨char, here⟩
    · exact ih later

theorem isSolid_judged (lineLookup : LineLookup) (text : DartString) :
    IsSolid (judged lineLookup text) := by
  intro pair mem
  have listed := List.mem_map_of_mem (f := Prod.fst) mem
  rw [map_fst_judged] at listed
  rcases mem_characters listed with ⟨char, eq⟩ | ⟨first, second, eq⟩ <;> rw [eq]
  · exact Nat.one_pos
  · exact Nat.two_pos

theorem verdict_judged
    {pair : Character × LineBreakType} (eq : judged lineLookup text = before ++ pair :: after) :
    ∃ memory : Memory, memory.Tracks pair.1.property ∧
      pair.2 = memory.verdict pair.1 (after.head?.map Prod.fst) := by
  refine verdict_of_judged (fun first mem => ?_) eq
  obtain ⟨rest, chars⟩ := List.head?_eq_some_iff.mp mem
  have begun := @begun_of_characters lineLookup text 0 first rest chars
  exact ⟨rfl, .inl begun.property.symm, fun _ _ => begun.property.symm⟩

end FlutterEngine.WebText
