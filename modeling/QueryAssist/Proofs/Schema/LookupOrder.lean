import QueryAssist.Proofs.Schema.Parts
import QueryAssist.Proofs.Text.LetterCase

/-!
# The order in which names are looked up

A name in a query is tried as a full name, then in the current database, then as the end of a full
name.  Nothing is assumed about the schema here: its full names need not be those of its tables.

* `EndsIn` — a full name ends in a dot and a name, the case of letters aside.
* `IsFirst` — a table stands under the first full name with a property.
* `Means` — what a name means: one case for each look-up, in which those before it find nothing.
* `resolve?_order` — **a name in a query is resolved to what it means without its quotes, and to
  nothing if and only if no full name is that name or ends in it.**
-/

namespace QueryAssist

open Text

namespace Schema

/-! ## Ends of full names -/

/-- A full name ends in a dot and a name, but for the case of letters. -/
def EndsIn (key name : String) : Prop :=
  ∃ front, asciiLower key = front ++ "." ++ asciiLower name

theorem endsInName_iff {key name : String} : endsInName key name = true ↔ EndsIn key name := by
  have hdot : ('.' :: name.toList).map Char.toLower = '.' :: name.toList.map Char.toLower := rfl
  rw [endsInName, List.isSuffixOf_iff_suffix, hdot]
  constructor
  · rintro ⟨front, hfront⟩
    refine ⟨String.ofList front, String.toList_inj.1 ?_⟩
    simp [asciiLower, ← hfront]
  · rintro ⟨front, hfront⟩
    refine ⟨front.toList, ?_⟩
    have hlist := congrArg String.toList hfront
    simpa [asciiLower] using hlist.symm

/-- A name in a database ends in this name. -/
theorem endsIn_append (front name : String) : EndsIn (front ++ "." ++ name) name := by
  refine ⟨asciiLower front, String.toList_inj.1 ?_⟩
  simp [asciiLower]

/-! ## The first table -/

/-- A table stands under the first full name with a property. -/
def IsFirst (schema : Schema) (property : String → Table → Prop) (table : Table) : Prop :=
  ∃ key, schema.tables.find? key = some table ∧ property key table ∧
    ∀ other value, schema.tables.find? other = some value → property other value → key ≤ other

variable {schema : Schema} {name : String} {database : Option String} {table : Table}

/-- Of the tables considered for a name, a search finds the first one. -/
theorem find?_candidates_eq_some_iff {p : Table → Bool} :
    (schema.candidates name).find? p = some table ↔
      schema.IsFirst (fun key value => EndsIn key name ∧ p value = true) table := by
  rw [candidates, List.find?_map, List.find?_filter, Option.map_eq_some_iff]
  constructor
  · rintro ⟨entry, hentry, rfl⟩
    obtain ⟨hfind, hp, hleast⟩ := Dictionary.find?_entries_eq_some_iff.1 hentry
    have hends : EndsIn entry.1 name ∧ p entry.2 = true := by
      simpa [← endsInName_iff] using hp
    refine ⟨entry.1, hfind, hends, fun other value hvalue hother => ?_⟩
    exact hleast other value hvalue (by simpa [← endsInName_iff] using hother)
  · rintro ⟨key, hfind, hends, hleast⟩
    refine ⟨(key, table), Dictionary.find?_entries_eq_some_iff.2 ⟨hfind, ?_, ?_⟩, rfl⟩
    · simpa [← endsInName_iff] using hends
    · intro other value hvalue hother
      exact hleast other value hvalue (by simpa [← endsInName_iff] using hother)

theorem head?_candidates (schema : Schema) (name : String) :
    (schema.candidates name).head? = (schema.candidates name).find? fun _ => true := by
  cases schema.candidates name <;> rfl

theorem find?_candidates_eq_none_iff {p : Table → Bool} :
    (schema.candidates name).find? p = none ↔
      ∀ key value, schema.tables.find? key = some value → EndsIn key name → ¬ p value = true := by
  rw [List.find?_eq_none]
  constructor
  · intro h key value hvalue hends
    refine h value (List.mem_map.2 ⟨(key, value), List.mem_filter.2 ⟨?_, ?_⟩, rfl⟩)
    · exact Dictionary.mem_entries_iff.2 hvalue
    · exact endsInName_iff.2 hends
  · intro h value hvalue
    obtain ⟨entry, hentry, rfl⟩ := List.mem_map.1 hvalue
    obtain ⟨hmem, hends⟩ := List.mem_filter.1 hentry
    exact h entry.1 entry.2 (Dictionary.mem_entries_iff.1 hmem) (endsInName_iff.1 hends)

/-! ## The look-ups -/

/-- What a name without quotes means in a schema, with or without a current database. -/
inductive Means (schema : Schema) (name : String) (database : Option String) (table : Table) :
    Prop where
  /-- The name is a full name. -/
  | fullName (found : schema.tables.find? name = some table)
  /-- Else the name, in the current database, is a full name. -/
  | inCurrent {current : String} (isCurrent : database = some current)
    (notFull : schema.tables.find? name = none)
    (found : schema.tables.find? (current ++ "." ++ name) = some table)
  /-- Else it is the end of full names, and among them of tables in the current database. -/
  | endInCurrent {current : String} (isCurrent : database = some current)
    (notFull : schema.tables.find? name = none)
    (notInCurrent : schema.tables.find? (current ++ "." ++ name) = none)
    (first : schema.IsFirst (fun key value => EndsIn key name ∧ value.database = current) table)
  /-- Else it is the end of full names, of other tables. -/
  | endElsewhere (notFull : schema.tables.find? name = none)
    (notInCurrent : ∀ current, database = some current →
      schema.tables.find? (current ++ "." ++ name) = none)
    (notEndInCurrent : ∀ current, database = some current → ∀ key value,
      schema.tables.find? key = some value → EndsIn key name → value.database ≠ current)
    (first : schema.IsFirst (fun key _ => EndsIn key name) table)

/-- The table of a full name that ends in a name: the first one in the current database, or else the
first one. -/
theorem resolveSuffix?_iff :
    schema.resolveSuffix? name database = some table ↔
      (∃ current, database = some current ∧
        schema.IsFirst (fun key value => EndsIn key name ∧ value.database = current) table) ∨
      (∀ current, database = some current → ∀ key value, schema.tables.find? key = some value →
        EndsIn key name → value.database ≠ current) ∧
        schema.IsFirst (fun key _ => EndsIn key name) table := by
  rw [resolveSuffix?, Option.or_eq_some_iff, head?_candidates, find?_candidates_eq_some_iff]
  cases database with
  | none => simp
  | some current =>
    rw [Option.bind_some, find?_candidates_eq_some_iff, find?_candidates_eq_none_iff]
    simp

theorem resolve?_of_eq {written : String} (hname : unquote written = "") :
    schema.resolve? written database = none := by
  simp only [resolve?, hname, if_true]

theorem resolve?_of_ne {written : String} (hname : unquote written ≠ "") :
    schema.resolve? written database =
      (schema.tables.find? (unquote written)).or
        ((database.bind fun db => schema.tables.find? (db ++ "." ++ unquote written)).or
          (schema.resolveSuffix? (unquote written) database)) := by
  simp only [resolve?, hname, if_false]

/-- The look-ups, one after the other, find what the name means. -/
theorem resolve?_eq_some_iff {written : String} (hname : unquote written ≠ "") :
    schema.resolve? written database = some table ↔
      schema.Means (unquote written) database table := by
  rw [resolve?_of_ne hname, Option.or_eq_some_iff, Option.or_eq_some_iff, resolveSuffix?_iff]
  constructor
  · rintro (found | ⟨notFull, found | ⟨notFound, hsuffix⟩⟩)
    · exact .fullName found
    · obtain ⟨current, isCurrent, hfound⟩ := Option.bind_eq_some_iff.1 found
      exact .inCurrent isCurrent notFull hfound
    · have notInCurrent := Option.bind_eq_none_iff.1 notFound
      rcases hsuffix with ⟨current, isCurrent, first⟩ | ⟨notEndInCurrent, first⟩
      · exact .endInCurrent isCurrent notFull (notInCurrent current isCurrent) first
      · exact .endElsewhere notFull notInCurrent notEndInCurrent first
  · intro h
    cases h with
    | fullName found => exact .inl found
    | inCurrent isCurrent notFull found =>
      exact .inr ⟨notFull, .inl (Option.bind_eq_some_iff.2 ⟨_, isCurrent, found⟩)⟩
    | endInCurrent isCurrent notFull notInCurrent first =>
      refine .inr ⟨notFull, .inr ⟨?_, .inl ⟨_, isCurrent, first⟩⟩⟩
      rwa [isCurrent]
    | endElsewhere notFull notInCurrent notEndInCurrent first =>
      refine .inr ⟨notFull, .inr ⟨?_, .inr ⟨notEndInCurrent, first⟩⟩⟩
      exact Option.bind_eq_none_iff.2 notInCurrent

/-- They find nothing if no full name is the name or ends in it. -/
theorem resolve?_eq_none_iff {written : String} (hname : unquote written ≠ "") :
    schema.resolve? written database = none ↔
      ∀ key table, schema.tables.find? key = some table →
        key ≠ unquote written ∧ ¬ EndsIn key (unquote written) := by
  rw [resolve?_of_ne hname, Option.or_eq_none_iff, Option.or_eq_none_iff, resolveSuffix?,
    Option.or_eq_none_iff, head?_candidates, find?_candidates_eq_none_iff]
  constructor
  · rintro ⟨notFull, -, -, noEnd⟩ key table htable
    refine ⟨?_, fun hends => noEnd key table htable hends rfl⟩
    rintro rfl
    exact nomatch htable.symm.trans notFull
  · intro h
    refine ⟨?_, Option.bind_eq_none_iff.2 fun current _ => ?_,
      Option.bind_eq_none_iff.2 fun current _ => ?_, fun key table htable hends _ => ?_⟩
    · exact Option.eq_none_iff_forall_ne_some.2 fun table htable => (h _ table htable).1 rfl
    · -- a full name that is found in the current database ends in the name, too
      exact Option.eq_none_iff_forall_ne_some.2 fun table htable =>
        (h _ table htable).2 (endsIn_append current _)
    · exact find?_candidates_eq_none_iff.2 fun key table htable hends _ =>
        (h key table htable).2 hends
    · exact (h key table htable).2 hends

/-- **A name in a query is resolved to what it means without its quotes**, and to nothing if and only
if nothing is left of it without them, or no full name is what is left or ends in it. -/
theorem resolve?_order (schema : Schema) (written : String) (database : Option String) :
    (∀ table, schema.resolve? written database = some table ↔
      unquote written ≠ "" ∧ schema.Means (unquote written) database table) ∧
    (schema.resolve? written database = none ↔
      unquote written = "" ∨ ∀ key table, schema.tables.find? key = some table →
        key ≠ unquote written ∧ ¬ EndsIn key (unquote written)) := by
  by_cases hname : unquote written = ""
  · simp [resolve?_of_eq hname, hname]
  · refine ⟨fun table => ?_, ?_⟩
    · rw [resolve?_eq_some_iff hname, and_iff_right hname]
    · rw [resolve?_eq_none_iff hname, or_iff_right hname]

end Schema

end QueryAssist
