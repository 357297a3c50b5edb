/-!
# Dictionaries in code point order

A finite map from strings whose entries are kept in strictly ascending order of their keys, so
that two dictionaries with the same contents are equal.  Main operations: `insert` (the last
value for a key wins), `find?`, and `ofList`.  A `NameSet` is a dictionary without values.
-/

namespace QueryAssist

/-! ## Sorted entry lists -/

namespace Entries

variable {α : Type}

/-- Puts an entry in its place, over an entry with the same key. -/
def insert (key : String) (value : α) : List (String × α) → List (String × α)
  | [] => [(key, value)]
  | entry :: entries =>
    if key < entry.1 then (key, value) :: entry :: entries
    else if key = entry.1 then (key, value) :: entries
    else entry :: insert key value entries

/-- Whether the keys of an entry list are in strictly ascending order. -/
def Sorted (entries : List (String × α)) : Prop :=
  entries.Pairwise fun a b => a.1 < b.1

/-- Two strings that are neither equal nor in ascending order are in descending order. -/
theorem gt_of_not_lt {a b : String} (hlt : ¬ a < b) (hne : a ≠ b) : b < a := by
  rcases String.le_total a b with h | h
  · exact absurd (String.le_antisymm h (String.not_lt.1 hlt)) hne
  · exact String.not_le.1 fun h' => hne (String.le_antisymm h' h)

theorem mem_insert {key : String} {value : α} {entry : String × α} {entries : List (String × α)}
    (h : entry ∈ insert key value entries) : entry = (key, value) ∨ entry ∈ entries := by
  induction entries with
  | nil => simpa [insert] using h
  | cons first rest ih =>
    rw [insert] at h
    split at h
    · simpa using h
    · split at h
      · rcases List.mem_cons.1 h with h | h
        · exact .inl h
        · exact .inr (List.mem_cons_of_mem _ h)
      · rcases List.mem_cons.1 h with rfl | h
        · exact .inr List.mem_cons_self
        · exact (ih h).imp id (List.mem_cons_of_mem _)

theorem sorted_insert (key : String) (value : α) {entries : List (String × α)}
    (h : Sorted entries) : Sorted (insert key value entries) := by
  induction entries with
  | nil => simp [insert, Sorted]
  | cons first rest ih =>
    obtain ⟨hfirst, hrest⟩ := List.pairwise_cons.1 h
    rw [insert]
    split
    · next hlt =>
      exact List.pairwise_cons.2 ⟨fun e he => (List.mem_cons.1 he).elim (fun eq => eq ▸ hlt)
        fun hm => String.lt_trans hlt (hfirst e hm), h⟩
    · next hlt =>
      split
      · next heq => exact List.pairwise_cons.2 ⟨fun e he => heq ▸ hfirst e he, hrest⟩
      · next hne =>
        exact List.pairwise_cons.2 ⟨fun e he => (mem_insert he).elim
          (fun eq => eq ▸ gt_of_not_lt hlt hne) (hfirst e), ih hrest⟩

end Entries

/-! ## Dictionaries -/

/-- A finite map from strings, held as its entries in ascending order of their keys. -/
structure Dictionary (α : Type) where
  entries : List (String × α) := []
  sorted : Entries.Sorted entries := by exact List.Pairwise.nil

namespace Dictionary

variable {α : Type}

instance [DecidableEq α] : DecidableEq (Dictionary α) := fun a b =>
  decidable_of_iff (a.entries = b.entries) (by cases a; cases b; simp)

instance [Repr α] : Repr (Dictionary α) where
  reprPrec d n := reprPrec d.entries n

/-- The dictionary without entries. -/
def empty : Dictionary α := {}

instance : Inhabited (Dictionary α) where
  default := empty

/-- The dictionary with one more entry; an earlier entry with the same key is replaced. -/
def insert (d : Dictionary α) (key : String) (value : α) : Dictionary α where
  entries := Entries.insert key value d.entries
  sorted := Entries.sorted_insert key value d.sorted

/-- The dictionary of a list of entries; of entries with one key the last counts. -/
def ofList (entries : List (String × α)) : Dictionary α :=
  entries.foldl (fun d entry => d.insert entry.1 entry.2) empty

/-- The value of a key. -/
def find? (d : Dictionary α) (key : String) : Option α :=
  d.entries.lookup key

/-- The keys in ascending order. -/
def keys (d : Dictionary α) : List String :=
  d.entries.map (·.1)

/-- The values in ascending order of their keys. -/
def values (d : Dictionary α) : List α :=
  d.entries.map (·.2)

/-- Whether there are no entries. -/
def isEmpty (d : Dictionary α) : Bool :=
  d.entries.isEmpty

end Dictionary

/-! ## Sets of names -/

/-- A finite set of names. -/
abbrev NameSet := Dictionary Unit

/-- The set of the names in a list. -/
def NameSet.ofNames (names : List String) : NameSet :=
  Dictionary.ofList (names.map fun name => (name, ()))

end QueryAssist
