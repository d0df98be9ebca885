import Mathlib.Data.List.TakeWhile
import Mathlib.Tactic.Tauto

/-!
# `AsciiTrie`

`fml::AsciiTrie` of `ascii_trie.cc`. A string is the characters from a pointer on, where the
`0` that ends it may come before the end of the list.
-/

namespace FlutterEngine.Fml

/-- `kMaxAsciiValue`. -/
abbrev kMaxAsciiValue : Nat := 128

abbrev Ascii := Fin kMaxAsciiValue

/-- The null character. -/
def nul : Ascii := ⟨0, by decide⟩

/-- `TrieNodePtr`: nothing, or a node with its `children`. -/
inductive TrieNodePtr where
  | null
  | node (children : Ascii → TrieNodePtr)

namespace TrieNodePtr

def IsNull : TrieNodePtr → Bool
  | null => true
  | node _ => false

/-- `children` of the node that is made where there is none. -/
def children : TrieNodePtr → Ascii → TrieNodePtr
  | null => fun _ => null
  | node children => children

/-- `Add`. -/
def add (trie : TrieNodePtr) : List Ascii → TrieNodePtr
  | [] => trie
  | ch :: entry =>
    if ch = nul then trie
    else node (Function.update trie.children ch (add (trie.children ch) entry))

/-- `MakeTrie`. -/
def makeTrie (entries : List (List Ascii)) : TrieNodePtr := entries.foldl add null

/-- The loop of `Query` at a node, and what it returns: whether there is no child, and the node
is not the root. -/
def queryLoop (children : Ascii → TrieNodePtr) (child : TrieNodePtr) (moved : Bool) :
    List Ascii → Bool
  | [] => child.IsNull && moved
  | ch :: query =>
    if ch = nul then child.IsNull && moved
    else
      match children ch with
      | null => moved
      | node grandchildren => queryLoop grandchildren (node grandchildren) true query

end TrieNodePtr

/-- `AsciiTrie`. -/
structure AsciiTrie where
  node : TrieNodePtr

namespace AsciiTrie

open TrieNodePtr

/-- `Fill`. -/
def fill (entries : List (List Ascii)) : AsciiTrie := ⟨makeTrie entries⟩

/-- `Query`. -/
def query (trie : AsciiTrie) (argument : List Ascii) : Bool :=
  match trie.node with
  | .null => true
  | .node children => queryLoop children .null false argument

/-! ## The nodes of a trie -/

/-- The string that a pointer to characters is for. -/
def cString (text : List Ascii) : List Ascii := text.takeWhile (· ≠ nul)

/-- A proper prefix of an entry, as it is read. -/
def Within (text entry : List Ascii) : Prop := text <+: cString entry ∧ text ≠ cString entry

/-- There is a node at a path. -/
def HasNode : TrieNodePtr → List Ascii → Prop
  | .null, _ => False
  | .node _, [] => True
  | .node children, ch :: path => HasNode (children ch) path

theorem not_hasNode_null (path : List Ascii) : ¬HasNode .null path := by
  cases path with
  | nil => exact not_false
  | cons ch path => exact not_false

theorem hasNode_root (children : Ascii → TrieNodePtr) : HasNode (.node children) [] := trivial

theorem within_nil (text : List Ascii) : ¬Within text [] := by
  rintro ⟨isPrefix, proper⟩
  exact proper (List.prefix_nil.mp isPrefix)

theorem within_nul (text entry : List Ascii) : ¬Within text (nul :: entry) := by
  rintro ⟨isPrefix, proper⟩
  rw [cString, List.takeWhile_cons_of_neg (by simp)] at isPrefix proper
  exact proper (List.prefix_nil.mp isPrefix)

theorem nil_within_cons {ch : Ascii} (entry : List Ascii) (plain : ch ≠ nul) :
    Within [] (ch :: entry) := by
  rw [Within, cString, List.takeWhile_cons_of_pos (by simpa using plain)]
  exact ⟨List.nil_prefix, (List.cons_ne_nil _ _).symm⟩

theorem cons_within_cons {ch other : Ascii} (path entry : List Ascii) (plain : ch ≠ nul) :
    Within (other :: path) (ch :: entry) ↔ other = ch ∧ Within path entry := by
  rw [Within, Within, cString, cString, List.takeWhile_cons_of_pos (by simpa using plain),
    List.cons_prefix_cons]
  constructor
  · rintro ⟨⟨rfl, isPrefix⟩, proper⟩
    exact ⟨rfl, isPrefix, fun same => proper (by rw [same])⟩
  · rintro ⟨rfl, isPrefix, proper⟩
    exact ⟨⟨rfl, isPrefix⟩, fun same => proper (List.cons.inj same).2⟩

theorem hasNode_cons (trie : TrieNodePtr) (ch : Ascii) (path : List Ascii) :
    HasNode trie (ch :: path) ↔ HasNode (trie.children ch) path := by
  cases trie with
  | null => exact Iff.rfl
  | node children => exact Iff.rfl

/-- An entry adds the nodes of its proper prefixes. -/
theorem hasNode_add (trie : TrieNodePtr) (entry path : List Ascii) :
    HasNode (trie.add entry) path ↔ HasNode trie path ∨ Within path entry := by
  fun_induction TrieNodePtr.add trie entry generalizing path with
  | case1 trie => simp [within_nil]
  | case2 trie entry => simp [within_nul]
  | case3 trie ch entry plain ih =>
    obtain _ | ⟨other, path⟩ := path
    · simp [hasNode_root, nil_within_cons entry plain]
    · rw [hasNode_cons, hasNode_cons, cons_within_cons path entry plain, TrieNodePtr.children]
      by_cases same : other = ch
      · subst same
        rw [Function.update_self, ih]
        simp
      · rw [Function.update_of_ne same]
        simp [same]

/-- The nodes are the proper prefixes of the entries. -/
theorem hasNode_makeTrie (entries : List (List Ascii)) (path : List Ascii) :
    HasNode (makeTrie entries) path ↔ ∃ entry ∈ entries, Within path entry := by
  have folded : ∀ trie : TrieNodePtr, HasNode (entries.foldl TrieNodePtr.add trie) path ↔
      HasNode trie path ∨ ∃ entry ∈ entries, Within path entry := by
    induction entries with
    | nil => simp
    | cons entry entries ih =>
      intro trie
      rw [List.foldl_cons, ih, hasNode_add, or_assoc]
      simp
  rw [makeTrie, folded]
  simp [not_hasNode_null]

/-! ## Queries -/

theorem cString_nul (text : List Ascii) : cString (nul :: text) = [] :=
  List.takeWhile_cons_of_neg (by simp)

theorem cString_cons {ch : Ascii} (text : List Ascii) (plain : ch ≠ nul) :
    cString (ch :: text) = ch :: cString text :=
  List.takeWhile_cons_of_pos (by simpa using plain)

/-- Below the root, what is accepted is what leaves the nodes. -/
theorem queryLoop_moved (children : Ascii → TrieNodePtr) (argument : List Ascii) :
    queryLoop children (.node children) true argument = true ↔
      ¬HasNode (.node children) (cString argument) := by
  induction argument generalizing children with
  | nil => simp [queryLoop, IsNull, cString, hasNode_root]
  | cons ch argument ih =>
    rw [queryLoop]
    by_cases ends : ch = nul
    · rw [if_pos ends, ends, cString_nul]
      simp [IsNull, hasNode_root]
    · rw [if_neg ends, cString_cons argument ends, hasNode_cons, TrieNodePtr.children]
      cases child : children ch with
      | null => simp [not_hasNode_null]
      | node grandchildren => exact ih grandchildren

/-- What a trie accepts: an argument whose first character leads to a node, and that is not
the path of one; and anything when there is no node. -/
theorem query_iff (trie : AsciiTrie) (argument : List Ascii) :
    trie.query argument = true ↔
      ¬HasNode trie.node [] ∨
        HasNode trie.node ((cString argument).take 1) ∧
          ¬HasNode trie.node (cString argument) := by
  rw [query]
  cases root : trie.node with
  | null => simp [not_hasNode_null]
  | node children =>
    obtain _ | ⟨ch, argument⟩ := argument
    · simp [queryLoop, cString, hasNode_root]
    · simp only
      rw [queryLoop]
      by_cases ends : ch = nul
      · rw [if_pos ends, ends, cString_nul]
        simp [hasNode_root]
      · rw [if_neg ends, cString_cons argument ends]
        simp only [List.take_succ_cons, List.take_zero, hasNode_root, hasNode_cons,
          TrieNodePtr.children, not_true, false_or]
        cases child : children ch with
        | null => simp [not_hasNode_null]
        | node grandchildren =>
          rw [queryLoop_moved]
          simp [hasNode_root]

section Entries

variable (entries : List (List Ascii)) (argument : List Ascii)

/-- A proper prefix of one of the entries. -/
def Inside (text : List Ascii) : Prop := ∃ entry ∈ entries, Within text entry

/-- An entry that is not empty is a prefix of the argument. -/
def Prefixed : Prop := ∃ entry ∈ entries, entry ≠ [] ∧ entry <+: cString argument

/-- What a query is to say. -/
def Accepted : Prop := Prefixed entries argument ∨ ∀ entry ∈ entries, entry = []

instance : Decidable (Prefixed entries argument) :=
  inferInstanceAs (Decidable (∃ entry ∈ entries, entry ≠ [] ∧ entry <+: cString argument))

instance : Decidable (Accepted entries argument) :=
  inferInstanceAs (Decidable (Prefixed entries argument ∨ ∀ entry ∈ entries, entry = []))

/-- Where a query says it: all entries are empty, or not all of them are read as empty and
what goes on in the trie neither hides an entry nor looks like one. -/
def Judged : Prop :=
  (∀ entry ∈ entries, entry = []) ∨
    Inside entries [] ∧
      -- An entry that is a prefix: another, of two characters or more, begins as it does, and
      -- none goes on after the argument.
      (Prefixed entries argument →
        Inside entries ((cString argument).take 1) ∧ ¬Inside entries (cString argument)) ∧
      -- An entry that only begins as the argument does: the argument ends inside of one.
      (Inside entries ((cString argument).take 1) →
        Inside entries (cString argument) ∨ Prefixed entries argument)

theorem query_fill :
    (fill entries).query argument = true ↔
      ¬Inside entries [] ∨
        Inside entries ((cString argument).take 1) ∧ ¬Inside entries (cString argument) := by
  rw [query_iff, fill, hasNode_makeTrie, hasNode_makeTrie, hasNode_makeTrie]
  rfl

/-- An entry with characters that is a prefix of a string reads as itself. -/
theorem inside_nil_of_prefixed (found : Prefixed entries argument) : Inside entries [] := by
  obtain ⟨entry, member, nonempty, isPrefix⟩ := found
  obtain _ | ⟨ch, entry⟩ := entry
  · contradiction
  · have plain : ch ≠ nul := by
      have inText := List.mem_takeWhile_imp (isPrefix.subset List.mem_cons_self)
      simpa using inText
    exact ⟨_, member, nil_within_cons entry plain⟩

theorem not_inside_of_empty (empty : ∀ entry ∈ entries, entry = []) : ¬Inside entries [] := by
  rintro ⟨entry, member, within⟩
  rw [empty entry member] at within
  exact within_nil _ within

/-- A query is answered right exactly where nothing of the entries hides one of them. -/
theorem query_iff_accepted_iff :
    ((fill entries).query argument = true ↔ Accepted entries argument) ↔
      Judged entries argument := by
  have reads := inside_nil_of_prefixed entries argument
  have blank := not_inside_of_empty entries
  rw [query_fill, Accepted, Judged]
  tauto

end Entries

/-- `fox` is accepted for the one entry `foo`. -/
theorem query_fox :
    ¬((fill [[102, 111, 111]]).query [102, 111, 120] = true ↔
      Accepted [[102, 111, 111]] [102, 111, 120]) := by
  decide

end AsciiTrie

end FlutterEngine.Fml
