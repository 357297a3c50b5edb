import QueryAssist.Proofs.Schema.Resolution
import QueryAssist.Proofs.Text.PlainWord
import QueryAssist.Suggestion.Source

/-!
# What the bare name of a table means

A table that is offered under its bare name alone ought to be the one that this name means in a
query.

* `resolve?_bareName_of_name` — with two-part full names it is, since the current database has no
  other table of that name.
* `resolve?_bareName_of_schema` — with schemas the name is looked up by the ends of full names.
* `bareName_resolves_iff` — so in PostgreSQL the name means the table if and only if no other table
  of the current database with that name, but for the case of letters, comes before it.
-/

namespace QueryAssist

open Text

/-- Names of databases and tables are plain words; in PostgreSQL a schema stands before the name of
a table. -/
structure Table.HasPlainNames (dialect : Dialect) (table : Table) : Prop where
  database : IsPlainWord table.database
  name : dialect ≠ .postgresql → IsPlainWord table.name
  qualified : dialect = .postgresql →
    ∃ schema name, IsPlainWord schema ∧ IsPlainWord name ∧ table.name = schema ++ "." ++ name

namespace Schema

section

variable {databases : List String} {tables : List Table} {table : Table}

/-- A bare name is looked up in the current database first, and then by the ends of full names. -/
theorem resolve?_of_isPlainWord {name : String} (hname : IsPlainWord name) (database : String) :
    (ofParts databases tables).resolve? name (some database) =
      ((ofParts databases tables).tables.find? (database ++ "." ++ name)).or
        ((ofParts databases tables).resolveSuffix? name (some database)) := by
  have hsome : unquote name ≠ "" := by rw [hname.unquote]; exact hname.1
  rw [resolve?_of_ne hsome, hname.unquote, find?_eq_none_of_dot_not_mem hname.dot_not_mem,
    Option.none_or, Option.bind_some]

/-- A table whose name is a plain word is what this name means in its database. -/
theorem resolve?_bareName_of_name (hname : IsPlainWord table.name)
    (htable : table ∈ (ofParts databases tables).tables.values) :
    (ofParts databases tables).resolve? table.bareName (some table.database) = some table := by
  rw [Table.bareName_eq_name hname.dot_not_mem, resolve?_of_isPlainWord hname, ← Table.key,
    find?_key htable, Option.some_or]

/-- With schemas, a table is what its bare name means in its database if and only if it comes first
of the tables there that have this bare name, but for the case of letters. -/
theorem resolve?_bareName_of_schema
    (schemas : ∀ other ∈ tables, other.HasPlainNames .postgresql)
    (htable : table ∈ (ofParts databases tables).tables.values) :
    (ofParts databases tables).resolve? table.bareName (some table.database) = some table ↔
      ∀ other ∈ (ofParts databases tables).tables.values, other.database = table.database →
        equalIgnoringAsciiCase other.bareName table.bareName = true → table.key ≤ other.key := by
  have hplain := schemas table (mem_of_mem_values htable)
  obtain ⟨schema, name, -, hname, hqualified⟩ := hplain.qualified rfl
  have hbare : table.bareName = name := Table.bareName_of_name_eq hqualified hname.dot_not_mem
  have hdots : ∀ other ∈ (ofParts databases tables).tables.values, '.' ∈ other.name.toList := by
    intro other hother
    obtain ⟨_, _, -, -, hother⟩ := (schemas other (mem_of_mem_values hother)).qualified rfl
    simp [hother]
  rw [hbare, resolve?_of_isPlainWord hname,
    find?_eq_none_of_two_parts hplain.database.dot_not_mem hname.dot_not_mem hdots, Option.none_or]
  exact resolveSuffix?_eq_some_iff hname.dot_not_mem htable (by simp [hbare, equalIgnoringAsciiCase])

end

/-- **The bare name of a table that is offered under no other name means this table**, except in
PostgreSQL when the current database has a table of that name, but for the case of letters, with a
smaller full name.  Tables of the default schema are offered under their bare names, while a bare
name in a query is looked up in all schemas alike. -/
theorem bareName_resolves_iff {dialect : Dialect} {databases : List String} {tables : List Table}
    {table : Table} {database : Option String}
    (names : ∀ other ∈ tables, other.HasPlainNames dialect)
    (htable : table ∈ (ofParts databases tables).tables.values)
    (honly : dialect.needsQualified table database = false) :
    (ofParts databases tables).resolve? table.bareName database = some table ↔
      (dialect = .postgresql → ∀ other ∈ (ofParts databases tables).tables.values,
        other.database = table.database →
          equalIgnoringAsciiCase other.bareName table.bareName = true → table.key ≤ other.key) := by
  have hdatabase : database = some table.database := by
    by_cases hsame : database = some table.database
    · exact hsame
    · simp [Dialect.needsQualified, hsame] at honly
  rw [hdatabase]
  by_cases hdialect : dialect = .postgresql
  · subst hdialect
    rw [resolve?_bareName_of_schema names htable]
    simp
  · have hname := (names table (mem_of_mem_values htable)).name hdialect
    simp [hdialect, resolve?_bareName_of_name hname htable]

/-- A table `users` in a schema of the database `shop`. -/
def usersIn (schema : String) : Table :=
  { database := "shop", name := schema ++ "." ++ "users" }

theorem hasPlainNames_usersIn {schema : String} (h : IsPlainWord schema) :
    (usersIn schema).HasPlainNames .postgresql :=
  have hdatabase : IsPlainWord "shop" := by decide
  ⟨hdatabase, nofun, fun _ => ⟨schema, "users", h, by decide, rfl⟩⟩

/-- The name `users` means the table of the default schema if the other one comes later. -/
theorem bareName_resolves_public :
    Dialect.postgresql.needsQualified (usersIn "public") (some "shop") = false ∧
    (ofParts ["shop"] [usersIn "public", usersIn "sales"]).resolve? (usersIn "public").bareName
      (some "shop") = some (usersIn "public") := by
  have hnames : ∀ other ∈ [usersIn "public", usersIn "sales"],
      other.HasPlainNames .postgresql :=
    List.forall_mem_cons.2 ⟨hasPlainNames_usersIn (by decide),
      List.forall_mem_singleton.2 (hasPlainNames_usersIn (by decide))⟩
  have honly : Dialect.postgresql.needsQualified (usersIn "public") (some "shop") = false := by
    decide
  exact ⟨honly, (bareName_resolves_iff hnames (by decide) honly).2 (by decide +kernel)⟩

/-- **A table of the default schema is not what its bare name means** when the current database has
a table of that name in a schema before it. -/
theorem bareName_means_namesake :
    (∀ other ∈ [usersIn "archive", usersIn "public"], other.HasPlainNames .postgresql) ∧
    Dialect.postgresql.needsQualified (usersIn "public") (some "shop") = false ∧
    usersIn "public" ∈
      (ofParts ["shop"] [usersIn "archive", usersIn "public"]).tables.values ∧
    (usersIn "public").bareName = "users" ∧
    (ofParts ["shop"] [usersIn "archive", usersIn "public"]).resolve? "users" (some "shop") =
      some (usersIn "archive") ∧
    usersIn "archive" ≠ usersIn "public" := by
  refine ⟨List.forall_mem_cons.2 ⟨hasPlainNames_usersIn (by decide), ?_⟩, by decide +kernel⟩
  exact List.forall_mem_singleton.2 (hasPlainNames_usersIn (by decide))

end Schema

end QueryAssist
