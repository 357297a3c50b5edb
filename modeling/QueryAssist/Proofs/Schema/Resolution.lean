import QueryAssist.Proofs.Schema.LookupOrder
import QueryAssist.Proofs.Schema.Table

/-!
# What a bare name resolves to

A name without dots is no full name, so it is looked up in the current database and then by the
ends of full names.

* `endsIn_key_iff` — a full name ends in a bare name if that is the bare name of the table, the case
  of letters aside.
* `isFirst_ofParts_iff` — the table that stands first is the one with the least full name.
* `resolveSuffix?_eq_some_iff` — so of those in the current database with a bare name the one with
  the least full name is taken.
-/

namespace QueryAssist

open Text

namespace Schema

/-! ## The ends of full names -/

/-- A full name ends in a bare name if that is the bare name of the table, but for the case of
letters. -/
theorem endsIn_key_iff (table : Table) {name : String} (hname : '.' ∉ name.toList) :
    EndsIn table.key name ↔ equalIgnoringAsciiCase table.bareName name = true := by
  obtain ⟨before, hkey⟩ := toList_eq_append_lastPart table.dot_mem_key
  rw [table.lastPart_key] at hkey
  have hlower : table.key.toList.map Char.toLower =
      before.map Char.toLower ++ '.' :: table.bareName.toList.map Char.toLower := by
    rw [hkey, List.map_append, List.map_cons]
    rfl
  rw [← endsInName_iff, endsInName, List.isSuffixOf_iff_suffix, hlower, equalIgnoringAsciiCase_iff]
  constructor
  · rintro ⟨front, hfront⟩
    have hcut := append_dot_inj (dot_not_mem_map_toLower hname)
      (dot_not_mem_map_toLower table.dot_not_mem_bareName) hfront
    exact hcut.2.symm
  · intro h
    exact ⟨before.map Char.toLower, by rw [h]; rfl⟩

section

variable {databases : List String} {tables : List Table} {name : String}

/-! ## Names that are no full names -/

/-- A name without dots is no full name. -/
theorem find?_eq_none_of_dot_not_mem (hname : '.' ∉ name.toList) :
    (ofParts databases tables).tables.find? name = none := by
  cases hfind : (ofParts databases tables).tables.find? name with
  | none => rfl
  | some table =>
    have hkey : table.key = name := key_of_mem_entries (Dictionary.mem_entries_iff.2 hfind)
    exact absurd (hkey ▸ table.dot_mem_key) hname

/-- If the names of all tables have schemas, no full name is made of two parts only. -/
theorem find?_eq_none_of_two_parts {front last : String} (hfront : '.' ∉ front.toList)
    (hlast : '.' ∉ last.toList)
    (schemas : ∀ other ∈ (ofParts databases tables).tables.values, '.' ∈ other.name.toList) :
    (ofParts databases tables).tables.find? (front ++ "." ++ last) = none := by
  refine Option.eq_none_iff_forall_ne_some.2 fun other hother => ?_
  have hentry := Dictionary.mem_entries_iff.2 hother
  have hkey : other.key = front ++ "." ++ last := key_of_mem_entries hentry
  obtain ⟨before, hname⟩ := toList_eq_append_lastPart (schemas other (List.mem_map_of_mem hentry))
  have hlist : front.toList ++ '.' :: last.toList =
      (other.database.toList ++ '.' :: before) ++ '.' :: (lastPart other.name).toList := by
    have hchars := congrArg String.toList hkey
    simp only [Table.key, String.toList_append, hname] at hchars
    simpa using hchars.symm
  have hcut := (append_dot_inj hlast (dot_not_mem_lastPart other.name) hlist).1
  exact hfront (hcut ▸ by simp)

/-! ## The first table -/

/-- The first table with a property is the one that has the least full name. -/
theorem isFirst_ofParts_iff {property : String → Table → Prop} {table : Table}
    (htable : table ∈ (ofParts databases tables).tables.values) :
    (ofParts databases tables).IsFirst property table ↔
      property table.key table ∧ ∀ other ∈ (ofParts databases tables).tables.values,
        property other.key other → table.key ≤ other.key := by
  constructor
  · rintro ⟨key, hfind, hproperty, hleast⟩
    obtain rfl : table.key = key := key_of_mem_entries (Dictionary.mem_entries_iff.2 hfind)
    exact ⟨hproperty, fun other hother => hleast other.key other (find?_key hother)⟩
  · rintro ⟨hproperty, hleast⟩
    refine ⟨table.key, find?_key htable, hproperty, fun key other hfind hother => ?_⟩
    have hentry := Dictionary.mem_entries_iff.2 hfind
    obtain rfl : other.key = key := key_of_mem_entries hentry
    exact hleast other (List.mem_map_of_mem hentry) hother

/-- The current database has a table of the name: then the one with the least full name is
taken. -/
theorem resolveSuffix?_eq_some_iff (hname : '.' ∉ name.toList) {table : Table}
    (htable : table ∈ (ofParts databases tables).tables.values)
    (hsame : equalIgnoringAsciiCase table.bareName name = true) :
    (ofParts databases tables).resolveSuffix? name (some table.database) = some table ↔
      ∀ other ∈ (ofParts databases tables).tables.values, other.database = table.database →
        equalIgnoringAsciiCase other.bareName name = true → table.key ≤ other.key := by
  have hends : EndsIn table.key name := (endsIn_key_iff table hname).2 hsame
  rw [resolveSuffix?_iff]
  constructor
  · rintro (⟨current, hcurrent, hfirst⟩ | ⟨hnone, -⟩)
    · obtain rfl := Option.some.inj hcurrent
      intro other hother hdatabase hbare
      have hproperty := And.intro ((endsIn_key_iff other hname).2 hbare) hdatabase
      exact ((isFirst_ofParts_iff htable).1 hfirst).2 other hother hproperty
    · exact absurd rfl (hnone table.database rfl table.key table (find?_key htable) hends)
  · intro h
    refine .inl ⟨table.database, rfl, (isFirst_ofParts_iff htable).2 ⟨⟨hends, rfl⟩, ?_⟩⟩
    rintro other hother ⟨hend, hdatabase⟩
    exact h other hother hdatabase ((endsIn_key_iff other hname).1 hend)

end

end Schema

end QueryAssist
