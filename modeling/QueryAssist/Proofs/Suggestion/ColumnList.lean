import QueryAssist.Proofs.Suggestion.Ranking
import QueryAssist.Proofs.Suggestion.Source

/-!
# Which columns stay in a completion list

* `columnLabels` — the labels for a column of a table that goes by some qualifier.
* `mem_map_label_suggestColumns` — columns are offered under these labels and no others.
* `columns_listed` — and all these labels stay in the list, whatever else is offered under them.
-/

namespace QueryAssist

open Text

/-! ## The labels of a column -/

/-- The labels of a column of a table that a query names and refers to by a qualifier: its own name,
the name after the qualifier and, in PostgreSQL, after the name of the table, unless the qualifier is
an alias. -/
def columnLabels (dialect : Dialect) (qualifier name : String) (table : Table) (column : Column) :
    List String :=
  [column.name, qualifier ++ "." ++ column.name] ++
    if dialect = .postgresql ∧ qualifier = name then [table.name ++ "." ++ column.name] else []

/-- Whether a label belongs to a column of some table in scope. -/
def IsColumnLabel (dialect : Dialect) (context : QueryContext) (schema : Schema)
    (database : Option String) (label : String) : Prop :=
  ∃ pair ∈ context.scopedTables, ∃ table, schema.resolve? pair.2 database = some table ∧
    ∃ column ∈ table.columns, label ∈ columnLabels dialect pair.1 pair.2 table column

namespace Dialect

variable {dialect : Dialect} {context : QueryContext} {schema : Schema} {database : Option String}
  {label : String}

theorem mem_scopedColumns_iff {entry : ScopedColumn} :
    entry ∈ scopedColumns context schema database ↔
      ∃ pair ∈ context.scopedTables, ∃ table, schema.resolve? pair.2 database = some table ∧
        ∃ column ∈ table.columns, entry = ⟨pair.1, pair.1 ≠ pair.2, table, column⟩ := by
  rw [scopedColumns, List.mem_flatMap]
  refine exists_congr fun pair => and_congr_right fun _ => ?_
  cases hresolve : schema.resolve? pair.2 database with
  | none => simp [hresolve]
  | some table => simp [hresolve, eq_comm]

theorem depth_eq_three_iff : dialect.depth = 3 ↔ dialect = .postgresql := by
  cases dialect <;> decide

@[simp] theorem qualifiedColumnItem_label (dialect : Dialect) (entry : ScopedColumn)
    (qualifier : String) (parts : List String) (tier : Tier) :
    (dialect.qualifiedColumnItem entry qualifier parts tier).label =
      qualifier ++ "." ++ entry.column.name := rfl

/-- The labels of the qualified entries: after the qualifier always, after the name of the table in
PostgreSQL unless the qualifier is an alias. -/
theorem mem_map_label_qualifiedColumnItems {entry : ScopedColumn} :
    label ∈ (dialect.qualifiedColumnItems entry).map (·.label) ↔
      label = entry.qualifier ++ "." ++ entry.column.name ∨
        (dialect = .postgresql ∧ entry.isAlias = false) ∧
          label = entry.table.name ++ "." ++ entry.column.name := by
  simp only [qualifiedColumnItems, depth_eq_three_iff]
  by_cases hdialect : dialect = .postgresql
  · rw [if_pos hdialect]
    cases halias : entry.isAlias with
    | true => simp
    | false =>
      by_cases hname : entry.qualifier = entry.table.name
      · simp [hdialect, hname]
      · simp [hdialect, hname, or_comm]
  · simp [hdialect]

/-- Columns are offered under all their labels, and under no others. -/
theorem mem_map_label_suggestColumns :
    label ∈ (dialect.suggestColumns context schema database).map (·.label) ↔
      IsColumnLabel dialect context schema database label := by
  constructor
  · intro h
    obtain ⟨item, hitem, rfl⟩ := List.mem_map.1 h
    obtain ⟨entry, hentry, hcases⟩ := mem_columnItems hitem
    obtain ⟨pair, hpair, table, htable, column, hcolumn, rfl⟩ := mem_scopedColumns_iff.1 hentry
    refine ⟨pair, hpair, table, htable, column, hcolumn, ?_⟩
    rcases hcases with rfl | hqualified
    · exact List.mem_cons_self
    · rcases mem_map_label_qualifiedColumnItems.1 (List.mem_map_of_mem hqualified) with
        hlabel | ⟨⟨hdialect, halias⟩, hlabel⟩
      · simp [columnLabels, hlabel]
      · have hsame : pair.1 = pair.2 := by simpa using halias
        simp [columnLabels, hdialect, hsame, hlabel]
  · rintro ⟨pair, hpair, table, htable, column, hcolumn, hlabel⟩
    have hentry : ⟨pair.1, pair.1 ≠ pair.2, table, column⟩ ∈
        scopedColumns context schema database :=
      mem_scopedColumns_iff.2 ⟨pair, hpair, table, htable, column, hcolumn, rfl⟩
    rw [columnLabels, List.cons_append, List.mem_cons] at hlabel
    rcases hlabel with rfl | hqualified
    · obtain ⟨item, hitem, hname⟩ := exists_mem_columnItems hentry List.not_mem_nil
      exact List.mem_map.2 ⟨item, hitem, hname⟩
    · have hlisted : label ∈ (dialect.qualifiedColumnItems
          ⟨pair.1, pair.1 ≠ pair.2, table, column⟩).map (·.label) :=
        mem_map_label_qualifiedColumnItems.2 (by
          simpa [and_assoc] using hqualified)
      obtain ⟨item, hitem, hname⟩ := List.mem_map.1 hlisted
      exact List.mem_map.2 ⟨item, mem_columnItems_of_qualified hentry hitem, hname⟩

end Dialect

namespace Engine

variable {dialect : Dialect} {database : Option String} {context : QueryContext} {schema : Schema}

/-- Where columns are asked for, functions are offered besides, and at the start of a projection the
wildcard. -/
theorem mem_offers_iff_of_columns {engine : Engine}
    (hkind : context.kind = .selectStart ∨ context.kind = .column ∨ context.kind = .condition)
    {item : Suggestion} :
    item ∈ engine.offers context schema ↔
      context.kind = .selectStart ∧ item = Suggestion.wildcard ∨
        item ∈ engine.dialect.suggestColumns context schema engine.database ∨
          item ∈ engine.dialect.suggestFunctions := by
  rcases hkind with hkind | hkind | hkind <;> simp [offers, hkind]

/-- **The columns in scope are listed under all their labels, and no other columns are.**  A label
that a function or the wildcard has too is listed for that one if its tier comes first. -/
theorem columns_listed
    (hkind : context.kind = .selectStart ∨ context.kind = .column ∨ context.kind = .condition)
    (hword : context.currentWord = "") :
    (∀ label, IsColumnLabel dialect context schema database label →
      ∃ item ∈ Engine.suggest { dialect, database } context schema, item.label = label) ∧
    ∀ item ∈ Engine.suggest { dialect, database } context schema, item.kind = .column →
      IsColumnLabel dialect context schema database item.label := by
  have hlist : Engine.suggest { dialect, database } context schema =
      Suggestion.rank (Engine.offers { dialect, database } context schema) "" none none := by
    rw [suggest, hword, if_pos rfl]
  rw [hlist]
  constructor
  · intro label hlabel
    obtain ⟨item, hitem, rfl⟩ := List.mem_map.1 (Dialect.mem_map_label_suggestColumns.2 hlabel)
    have hoffered : item ∈ Engine.offers { dialect, database } context schema :=
      (mem_offers_iff_of_columns hkind).2 (.inr (.inl hitem))
    exact Suggestion.exists_mem_rank_iff.2 ⟨item, hoffered, rfl, rfl⟩
  · intro item hitem hcolumn
    rcases (mem_offers_iff_of_columns hkind).1 (Suggestion.mem_of_mem_rank hitem) with
      ⟨-, rfl⟩ | hoffered | hfunction
    · exact absurd hcolumn nofun
    · exact Dialect.mem_map_label_suggestColumns.1 (List.mem_map_of_mem hoffered)
    · exact absurd hcolumn (Dialect.kind_ne_column_of_mem_suggestFunctions hfunction)

/-- A table with two columns. -/
def users : Table where
  database := "shop"
  name := "public.users"
  columns := [{ name := "id", dataType := "int" }, { name := "email", dataType := "text" }]

/-- A table with a column of the same name. -/
def orders : Table where
  database := "shop"
  name := "public.orders"
  columns := [{ name := "id", dataType := "int" }]

/-- A query with an alias for the first table and none for the second. -/
def usersAndOrders : QueryContext :=
  QueryContext.parse "SELECT * FROM users u JOIN orders WHERE "
    (endPosition "SELECT * FROM users u JOIN orders WHERE ")

/-- The columns of the first table are listed after the alias, those of the second after its full
name. -/
theorem columns_listed_usersAndOrders :
    (∃ item ∈ Engine.suggest { dialect := .postgresql, database := some "shop" } usersAndOrders
      (Schema.ofParts ["shop"] [users, orders]), item.label = "u.email") ∧
    ∃ item ∈ Engine.suggest { dialect := .postgresql, database := some "shop" } usersAndOrders
      (Schema.ofParts ["shop"] [users, orders]), item.label = "public.orders.id" := by
  have hkind : usersAndOrders.kind = .condition := by decide +kernel
  have hword : usersAndOrders.currentWord = "" := by decide +kernel
  refine ⟨(columns_listed (.inr (.inr hkind)) hword).1 "u.email" ?_,
    (columns_listed (.inr (.inr hkind)) hword).1 "public.orders.id" ?_⟩
  · refine ⟨("u", "users"), by decide +kernel, users, by decide +kernel, ?_⟩
    exact ⟨{ name := "email", dataType := "text" }, by decide, by decide⟩
  · refine ⟨("orders", "orders"), by decide +kernel, orders, by decide +kernel, ?_⟩
    exact ⟨{ name := "id", dataType := "int" }, by decide, by decide⟩

end Engine

end QueryAssist
