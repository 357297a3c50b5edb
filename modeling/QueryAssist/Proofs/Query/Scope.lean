import QueryAssist.Proofs.Query.Context
import QueryAssist.Proofs.Query.TableReference
import QueryAssist.Proofs.Text.Dictionary

/-!
# The tables of a context

The tables in scope and their aliases are gathered from the references of a text.  This file says how
the two fit together, whatever the text.

* `TableReference.WellFormed` — what holds of a reference: path and alias are names without quotes,
  and an alias of its own is no keyword.  `wellFormed_of_mem_findAll` shows it of every reference
  that is found.
* `nodup_scopedTables`, `self_mem_scopedTables_iff` — the list of tables in scope.
* `QueryContext.Consistent`, `parse_consistent` — **aliases and tables of a context fit together.**
-/

namespace QueryAssist

open Text

/-! ## References -/

/-- A name that is not empty and has no quotes in it. -/
structure IsUnquotedName (name : String) : Prop where
  ne_empty : name ≠ ""
  not_isQuote : ∀ c ∈ name.toList, isQuote c = false

/-- What is left of a text without its quotes is such a name, if anything is left. -/
theorem isUnquotedName_ofList {cs : List Char} (h : String.ofList (unquoteL cs) ≠ "") :
    IsUnquotedName (String.ofList (unquoteL cs)) := by
  refine ⟨h, fun c hc => ?_⟩
  rw [String.toList_ofList] at hc
  exact not_isQuote_of_mem_unquoteL hc

namespace TableReference

/-- The path of a reference and its alias are names without quotes, and an alias of its own is no
keyword that may follow a table. -/
structure WellFormed (reference : TableReference) : Prop where
  path : IsUnquotedName reference.path
  aliasName : IsUnquotedName reference.aliasName
  isAlias : reference.aliasName ≠ reference.path → isAlias reference.aliasName = true

/-- A reference is well-formed, whatever the match that it is read from. -/
theorem wellFormed_of_ofMatch? {m : Match} {reference : TableReference}
    (h : ofMatch? m = some reference) : reference.WellFormed := by
  cases hpath : m.group? 1 with
  | none => simp [ofMatch?, hpath] at h
  | some path =>
    simp only [ofMatch?, hpath, Option.bind_eq_bind, Option.bind_some] at h
    split at h
    · exact absurd h (by simp)
    · next hsome =>
      have hname := isUnquotedName_ofList hsome
      rw [← Option.some.inj h]
      cases hfollowing : m.group? 2 with
      | none => exact ⟨hname, hname, fun hne => absurd rfl hne⟩
      | some following =>
        rw [Option.map_some, Option.filter_some]
        split
        · next halias =>
          have hfirst := (Bool.and_eq_true_iff.1 halias).1
          exact ⟨hname, isUnquotedName_ofList (of_decide_eq_true hfirst), fun _ => halias⟩
        · exact ⟨hname, hname, fun hne => absurd rfl hne⟩

/-- Every reference that is found in a text is well-formed. -/
theorem wellFormed_of_mem_findAll {text : List Char} {reference : TableReference}
    (h : reference ∈ findAll text) : reference.WellFormed := by
  obtain ⟨m, -, hreference⟩ := List.mem_filterMap.1 h
  exact wellFormed_of_ofMatch? hreference

/-- An alias is none of the keywords that may follow a table, ASCII case aside. -/
theorem ne_keyword_of_isAlias {name : String} (h : isAlias name = true) :
    ∀ keyword ∈ followingKeywords, equalIgnoringAsciiCase keyword name = false := by
  have hnone := (Bool.and_eq_true_iff.1 h).2
  simpa using hnone

end TableReference

/-! ## Entries and duplicates -/

/-- Whatever a dictionary of a list holds is in the list. -/
theorem Dictionary.mem_of_mem_entries_ofList {α : Type} {entries : List (String × α)}
    {entry : String × α} (h : entry ∈ (ofList entries).entries) : entry ∈ entries := by
  obtain ⟨before, after, hentries, -⟩ := find?_ofList_eq_some_iff.1 (mem_entries_iff.1 h)
  rw [hentries]
  exact List.mem_append_right _ List.mem_cons_self

/-- No entry stands twice in a dictionary. -/
theorem Dictionary.nodup_entries {α : Type} (d : Dictionary α) : d.entries.Nodup := by
  refine List.Pairwise.imp (fun {first second} hlt => ?_) d.sorted
  rintro rfl
  exact String.lt_irrefl _ hlt

/-- Without its duplicates a list has none. -/
theorem Text.nodup_eraseDups (names : List String) : names.eraseDups.Nodup := by
  cases names with
  | nil => simp
  | cons name rest =>
    rw [List.eraseDups_cons, List.nodup_cons, List.mem_eraseDups]
    exact ⟨by simp, nodup_eraseDups _⟩
termination_by names.length
decreasing_by exact Nat.lt_succ_of_le (List.length_filter_le _ rest)

/-! ## The tables in scope -/

namespace QueryContext

variable {context : QueryContext}

/-- A name stands for itself in the scope exactly if it is a table of the context. -/
theorem self_mem_scopedTables_iff {name : String} :
    (name, name) ∈ context.scopedTables ↔ name ∈ context.tables := by
  simp [scopedTables]

/-- No pair of a name and its table stands twice in the scope. -/
theorem nodup_scopedTables (h : context.tables.Nodup) : context.scopedTables.Nodup := by
  refine List.nodup_append.2 ⟨?_, ?_, ?_⟩
  · exact List.Pairwise.map _ (fun a b hne heq => hne (Prod.mk.inj heq).1) h
  · exact context.aliases.nodup_entries.filter _
  · -- the pairs of the first part have equal sides, those of the second part have not
    intro first hfirst second hsecond heq
    obtain ⟨table, -, rfl⟩ := List.mem_map.1 hfirst
    have hne := (List.mem_filter.1 hsecond).2
    rw [← heq] at hne
    simp at hne

/-- How the aliases and the tables of a context fit together. -/
structure Consistent (context : QueryContext) : Prop where
  /-- an alias stands for a table of the context -/
  table_mem : ∀ entry ∈ context.aliases.entries, entry.2 ∈ context.tables
  tables_nodup : context.tables.Nodup
  tables_unquoted : ∀ table ∈ context.tables, IsUnquotedName table
  aliases_unquoted : ∀ name ∈ context.aliases.keys, IsUnquotedName name
  /-- an alias that is not the table itself is no keyword, whatever the case of its ASCII letters -/
  alias_ne_keyword : ∀ entry ∈ context.aliases.entries, entry.1 ≠ entry.2 →
    ∀ keyword ∈ TableReference.followingKeywords, equalIgnoringAsciiCase keyword entry.1 = false
  /-- in the scope every table of the context stands for itself exactly once, and no other does -/
  scoped_self : ∀ name, context.scopedTables.count (name, name) =
    if name ∈ context.tables then 1 else 0
  scoped_nodup : context.scopedTables.Nodup

/-- A context is consistent whose aliases and tables are gathered from well-formed references. -/
theorem consistent_of_references {references : List TableReference}
    (wellFormed : ∀ reference ∈ references, reference.WellFormed)
    (aliases : context.aliases = Dictionary.ofList (references.map fun r => (r.aliasName, r.path)))
    (tables : context.tables = (references.map (·.path)).eraseDups) : context.Consistent := by
  have hentry : ∀ entry ∈ context.aliases.entries,
      ∃ reference ∈ references, (reference.aliasName, reference.path) = entry := by
    intro entry hentry
    rw [aliases] at hentry
    exact List.mem_map.1 (Dictionary.mem_of_mem_entries_ofList hentry)
  have htable : ∀ table, table ∈ context.tables ↔
      ∃ reference ∈ references, reference.path = table := by
    intro table
    rw [tables, List.mem_eraseDups, List.mem_map]
  have hnodup : context.tables.Nodup := by
    rw [tables]
    exact nodup_eraseDups _
  have hscoped := nodup_scopedTables hnodup
  refine ⟨?_, hnodup, ?_, ?_, ?_, ?_, hscoped⟩
  · intro entry hmem
    obtain ⟨reference, hreference, rfl⟩ := hentry entry hmem
    exact (htable _).2 ⟨reference, hreference, rfl⟩
  · intro table hmem
    obtain ⟨reference, hreference, rfl⟩ := (htable table).1 hmem
    exact (wellFormed reference hreference).path
  · intro name hmem
    obtain ⟨entry, hkey, rfl⟩ := List.mem_map.1 hmem
    obtain ⟨reference, hreference, rfl⟩ := hentry entry hkey
    exact (wellFormed reference hreference).aliasName
  · intro entry hmem hne
    obtain ⟨reference, hreference, rfl⟩ := hentry entry hmem
    exact TableReference.ne_keyword_of_isAlias ((wellFormed reference hreference).isAlias hne)
  · intro name
    rw [hscoped.count]
    simp only [self_mem_scopedTables_iff]

/-- **Aliases and tables of a context fit together**, whatever the text and the position of the
cursor. -/
theorem parse_consistent (text : String) (cursor : Position) :
    (QueryContext.parse text cursor).Consistent := by
  have wellFormed : ∀ reference ∈ TableReference.findAll (preceding text.toList cursor),
      reference.WellFormed :=
    fun _ h => TableReference.wellFormed_of_mem_findAll h
  exact consistent_of_references wellFormed (parse_aliases text cursor) (parse_tables text cursor)

end QueryContext

end QueryAssist
