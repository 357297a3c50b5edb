import QueryAssist.Proofs.Text.Dictionary
import QueryAssist.Schema.Basic

/-!
# Schemas made of parts

* `find?_ofParts` — of several tables with one full name a schema made of a list has the last.
* `mem_databases_ofParts` — its databases are those of the list.
* `find?_values_eq_some_iff` — of the tables with a property the one that comes first is the one
  with the least full name.
-/

namespace QueryAssist

namespace Schema

variable {databases : List String} {tables : List Table}

/-- The databases of a schema are those it was made of. -/
theorem mem_databases_ofParts {name : String} :
    name ∈ (ofParts databases tables).databases.keys ↔ name ∈ databases :=
  NameSet.mem_keys_ofNames

/-- The table under a full name is the last one in the list that has it. -/
theorem find?_ofParts {key : String} {table : Table} :
    (ofParts databases tables).tables.find? key = some table ↔
      ∃ before after, tables = before ++ table :: after ∧ table.key = key ∧
        ∀ other ∈ after, other.key ≠ key := by
  rw [ofParts, Dictionary.find?_ofList_eq_some_iff]
  constructor
  · rintro ⟨before, after, hentries, hafter⟩
    obtain ⟨first, rest, rfl, rfl, hrest⟩ := List.map_eq_append_iff.1 hentries
    obtain ⟨own, last, rfl, hown, rfl⟩ := List.map_eq_cons_iff.1 hrest
    obtain ⟨rfl, rfl⟩ := Prod.mk.inj hown
    exact ⟨first, last, rfl, rfl, fun other hother => hafter _ (List.mem_map_of_mem hother)⟩
  · rintro ⟨before, after, rfl, rfl, hafter⟩
    refine ⟨_, _, List.map_append, ?_⟩
    intro entry hentry
    obtain ⟨other, hother, rfl⟩ := List.mem_map.1 hentry
    exact hafter other hother

/-! ## The tables in their order -/

theorem key_of_mem_entries {entry : String × Table}
    (h : entry ∈ (ofParts databases tables).tables.entries) : entry.2.key = entry.1 := by
  obtain ⟨before, after, -, hkey, -⟩ := find?_ofParts.1 (Dictionary.mem_entries_iff.1 h)
  exact hkey

theorem mem_of_mem_values {table : Table}
    (h : table ∈ (ofParts databases tables).tables.values) : table ∈ tables := by
  obtain ⟨entry, hentry, rfl⟩ := List.mem_map.1 h
  obtain ⟨before, after, htables, -, -⟩ := find?_ofParts.1 (Dictionary.mem_entries_iff.1 hentry)
  rw [htables]
  exact List.mem_append_right _ List.mem_cons_self

/-- A table is found under its full name. -/
theorem find?_key {table : Table} (h : table ∈ (ofParts databases tables).tables.values) :
    (ofParts databases tables).tables.find? table.key = some table := by
  obtain ⟨entry, hentry, rfl⟩ := List.mem_map.1 h
  rw [key_of_mem_entries hentry]
  exact Dictionary.mem_entries_iff.1 hentry

/-- No two tables have one full name. -/
theorem eq_of_key_eq {table other : Table}
    (htable : table ∈ (ofParts databases tables).tables.values)
    (hother : other ∈ (ofParts databases tables).tables.values) (h : table.key = other.key) :
    table = other := by
  have hfind := find?_key htable
  rw [h] at hfind
  exact Option.some.inj (hfind.symm.trans (find?_key hother))

/-- The first table with a property is the one that has the least full name. -/
theorem find?_values_eq_some_iff {p : Table → Bool} {table : Table}
    (htable : table ∈ (ofParts databases tables).tables.values) :
    (ofParts databases tables).tables.values.find? p = some table ↔
      p table = true ∧
        ∀ other ∈ (ofParts databases tables).tables.values, p other = true →
          table.key ≤ other.key := by
  rw [Dictionary.values, List.find?_map, Option.map_eq_some_iff]
  constructor
  · rintro ⟨entry, hentry, rfl⟩
    obtain ⟨-, hp, hleast⟩ := Dictionary.find?_entries_eq_some_iff.1 hentry
    refine ⟨hp, fun other hother hpother => ?_⟩
    obtain ⟨last, hlast, rfl⟩ := List.mem_map.1 hother
    rw [key_of_mem_entries (List.mem_of_find?_eq_some hentry), key_of_mem_entries hlast]
    exact hleast last.1 last.2 (Dictionary.mem_entries_iff.1 hlast) hpother
  · rintro ⟨hp, hleast⟩
    obtain ⟨entry, hentry, rfl⟩ := List.mem_map.1 htable
    refine ⟨entry, Dictionary.find?_entries_eq_some_iff.2
      ⟨Dictionary.mem_entries_iff.1 hentry, hp, fun key value hvalue hpvalue => ?_⟩, rfl⟩
    have hother := Dictionary.mem_entries_iff.2 hvalue
    have hle := hleast value (List.mem_map_of_mem hother) hpvalue
    rwa [key_of_mem_entries hentry, key_of_mem_entries hother] at hle

end Schema

end QueryAssist
