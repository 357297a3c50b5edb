import QueryAssist.Proofs.Schema.Parts
import QueryAssist.Proofs.Schema.Table
import QueryAssist.Proofs.Suggestion.Ranking
import QueryAssist.Proofs.Suggestion.Source

/-!
# Which tables stay in the table list

A table is offered under its bare name, and some tables under a qualified name besides.  Two tables
with one bare name are offered under one label, and only one of these entries stays in the list.

* `find?_suggestTables` — the first entry under a bare name is that of the first such table.
* `mem_suggest_iff` — and this one stays.
* `table_listed_iff` — so a table is missing from the list if and only if it is offered under its
  bare name alone and another one with that name comes before it.
-/

namespace QueryAssist

open Text

/-! ## Full names in details -/

namespace Table

/-- The detail of a table tells its full name. -/
theorem key_eq_of_detail_eq {table other : Table} (h : table.detail = other.detail) :
    table.key = other.key :=
  (String.append_left_inj " [TABLE]").1 h

end Table

namespace Dialect

variable {dialect : Dialect} {schema : Schema} {database : Option String}

/-! ## The entries of a table -/

@[simp] theorem tableItem_label (dialect : Dialect) (table : Table) :
    (dialect.tableItem table).label = table.bareName := rfl

@[simp] theorem tableItem_sortText (dialect : Dialect) (table : Table) :
    (dialect.tableItem table).sortText = Tier.table.sortText table.bareName := rfl

@[simp] theorem qualifiedTableItem_label (dialect : Dialect) (table : Table) :
    (dialect.qualifiedTableItem table).label = dialect.qualifiedName table := rfl

@[simp] theorem qualifiedTableItem_sortText (dialect : Dialect) (table : Table) :
    (dialect.qualifiedTableItem table).sortText =
      Tier.qualifiedTable.sortText (dialect.qualifiedName table) := rfl

/-! ## Tables with distinct qualified names -/

/-- The qualified names of the tables of a schema have dots, and no two tables have the same. -/
structure QualifiedApart (dialect : Dialect) (schema : Schema) : Prop where
  dotted : ∀ table ∈ schema.tables.values, '.' ∈ (dialect.qualifiedName table).toList
  apart : ∀ table ∈ schema.tables.values, ∀ other ∈ schema.tables.values,
    dialect.qualifiedName table = dialect.qualifiedName other → table = other

/-- Full names have dots and differ.  PostgreSQL leaves the database out of them, which does no harm
while all tables live in one database and have names with a schema. -/
theorem qualifiedApart_ofParts (database : Option String) {databases : List String}
    {tables : List Table} (postgres : dialect = .postgresql →
      ∀ table ∈ tables, '.' ∈ table.name.toList ∧ database = some table.database) :
    dialect.QualifiedApart (Schema.ofParts databases tables) := by
  have hkey (hdepth : dialect.depth ≠ 3) (table : Table) :
      dialect.qualifiedName table = table.key := if_neg hdepth
  have hname (hdepth : dialect.depth = 3) (table : Table) :
      dialect.qualifiedName table = table.name := if_pos hdepth
  by_cases hdepth : dialect.depth = 3
  · have hpostgres : dialect = .postgresql := by
      cases dialect <;> first | rfl | exact absurd hdepth (by decide)
    constructor
    · intro table htable
      rw [hname hdepth]
      exact (postgres hpostgres table (Schema.mem_of_mem_values htable)).1
    · intro table htable other hother h
      rw [hname hdepth, hname hdepth] at h
      have hdatabase := (postgres hpostgres table (Schema.mem_of_mem_values htable)).2
      have hdatabase' := (postgres hpostgres other (Schema.mem_of_mem_values hother)).2
      have hsame : table.database = other.database :=
        Option.some.inj (hdatabase.symm.trans hdatabase')
      exact Schema.eq_of_key_eq htable hother (by rw [Table.key, Table.key, hsame, h])
  · constructor
    · intro table _
      rw [hkey hdepth]
      exact table.dot_mem_key
    · intro table htable other hother h
      rw [hkey hdepth, hkey hdepth] at h
      exact Schema.eq_of_key_eq htable hother h

/-! ## The first entry of a label -/

section

variable (hapart : dialect.QualifiedApart schema)

include hapart

/-- A bare name is no qualified one. -/
theorem QualifiedApart.bareName_ne {table other : Table} (hother : other ∈ schema.tables.values) :
    table.bareName ≠ dialect.qualifiedName other := fun h =>
  table.dot_not_mem_bareName (h ▸ hapart.dotted other hother)

/-- Entries with one label are listed at one place. -/
theorem QualifiedApart.sortText_eq {a b : Suggestion}
    (ha : a ∈ dialect.suggestTables schema database)
    (hb : b ∈ dialect.suggestTables schema database) (h : a.label = b.label) :
    a.sortText = b.sortText := by
  obtain ⟨table, htable, hitem⟩ := mem_suggestTables_iff.1 ha
  obtain ⟨other, hother, hitem'⟩ := mem_suggestTables_iff.1 hb
  rcases hitem with rfl | ⟨-, rfl⟩ <;> rcases hitem' with rfl | ⟨-, rfl⟩
  · rw [tableItem_label, tableItem_label] at h
    rw [tableItem_sortText, tableItem_sortText, h]
  · exact absurd h (hapart.bareName_ne hother)
  · exact absurd h.symm (hapart.bareName_ne htable)
  · rw [qualifiedTableItem_label, qualifiedTableItem_label] at h
    rw [qualifiedTableItem_sortText, qualifiedTableItem_sortText, h]

/-- **The first entry under a bare name is that of the first table with the name.** -/
theorem QualifiedApart.find?_suggestTables (table : Table) :
    (dialect.suggestTables schema database).find? (·.label == table.bareName) =
      (schema.tables.values.find? (·.bareName == table.bareName)).map dialect.tableItem := by
  have hqualified : ∀ other ∈ schema.tables.values, ∀ item ∈
      (if dialect.needsQualified other database then [dialect.qualifiedTableItem other] else []),
      ¬ (item.label == table.bareName) = true := by
    intro other hother item hitem
    split at hitem
    · rw [List.mem_singleton.1 hitem, qualifiedTableItem_label, beq_iff_eq]
      exact (hapart.bareName_ne hother).symm
    · exact absurd hitem List.not_mem_nil
  rw [suggestTables]
  generalize schema.tables.values = values at hqualified ⊢
  induction values with
  | nil => rfl
  | cons first rest ih =>
    have hrest := ih fun other hother => hqualified other (List.mem_cons_of_mem _ hother)
    have hnone := List.find?_eq_none.2 (hqualified first List.mem_cons_self)
    rw [List.flatMap_cons, List.find?_append, hrest]
    cases hname : first.bareName == table.bareName with
    | true => simp [hname]
    | false => simp [hname, hnone]

/-- An entry under a qualified name is the first one of its label. -/
theorem QualifiedApart.find?_qualified {table : Table} (htable : table ∈ schema.tables.values)
    (hneeds : dialect.needsQualified table database = true) :
    (dialect.suggestTables schema database).find? (·.label == dialect.qualifiedName table) =
      some (dialect.qualifiedTableItem table) := by
  have hmem : dialect.qualifiedTableItem table ∈ dialect.suggestTables schema database :=
    mem_suggestTables_iff.2 ⟨table, htable, .inr ⟨hneeds, rfl⟩⟩
  have hsome : ((dialect.suggestTables schema database).find?
      (·.label == dialect.qualifiedName table)).isSome = true :=
    List.find?_isSome.2 ⟨_, hmem, by simp⟩
  obtain ⟨item, hitem⟩ := Option.isSome_iff_exists.1 hsome
  have hlabel : item.label = dialect.qualifiedName table := by simpa using List.find?_some hitem
  obtain ⟨other, hother, hcases⟩ := mem_suggestTables_iff.1 (List.mem_of_find?_eq_some hitem)
  rw [hitem]
  rcases hcases with rfl | ⟨-, rfl⟩
  · exact absurd hlabel (hapart.bareName_ne htable)
  · rw [hapart.apart other hother table htable hlabel]

end

end Dialect

namespace Engine

variable {dialect : Dialect} {database : Option String} {context : QueryContext}

/-! ## The table list -/

/-- Where tables are asked for and nothing has been typed, the first entry of every label stays. -/
theorem mem_suggest_iff {schema : Schema} (hapart : dialect.QualifiedApart schema)
    (hkind : context.kind = .source) (hword : context.currentWord = "") {item : Suggestion} :
    item ∈ Engine.suggest { dialect, database } context schema ↔
      (dialect.suggestTables schema database).find? (·.label == item.label) = some item := by
  have hlist : Engine.suggest { dialect, database } context schema =
      Suggestion.rank (dialect.suggestTables schema database) "" none none := by
    simp only [suggest, offers, hkind, hword, if_true]
  rw [hlist]
  exact Suggestion.mem_rank_iff fun a ha b hb => hapart.sortText_eq ha hb

/-- **A table stays in the table list if and only if it is offered under a qualified name too or
comes first of the tables with its bare name.**  The entry of another table keeps its label from one
of the current database, where the same name in a query means that table. -/
theorem table_listed_iff {databases : List String} {tables : List Table} {table : Table}
    (postgres : dialect = .postgresql →
      ∀ other ∈ tables, '.' ∈ other.name.toList ∧ database = some other.database)
    (hkind : context.kind = .source) (hword : context.currentWord = "")
    (htable : table ∈ (Schema.ofParts databases tables).tables.values) :
    (∃ item ∈ Engine.suggest { dialect, database } context (Schema.ofParts databases tables),
        item.detail = some table.detail) ↔
      dialect.needsQualified table database = true ∨
        ∀ other ∈ (Schema.ofParts databases tables).tables.values,
          other.bareName = table.bareName → table.key ≤ other.key := by
  have hapart : dialect.QualifiedApart (Schema.ofParts databases tables) :=
    Dialect.qualifiedApart_ofParts database postgres
  have hlisted {item : Suggestion} :
      item ∈ Engine.suggest { dialect, database } context (Schema.ofParts databases tables) ↔
        (dialect.suggestTables (Schema.ofParts databases tables) database).find?
          (·.label == item.label) = some item :=
    mem_suggest_iff hapart hkind hword
  have hsame {other : Table} (hother : other ∈ (Schema.ofParts databases tables).tables.values)
      (hdetail : some other.detail = some table.detail) : other = table :=
    Schema.eq_of_key_eq hother htable (Table.key_eq_of_detail_eq (Option.some.inj hdetail))
  have hfirst := Schema.find?_values_eq_some_iff (p := (·.bareName == table.bareName)) htable
  constructor
  · rintro ⟨item, hitem, hdetail⟩
    have hfind := hlisted.1 hitem
    obtain ⟨own, hown, rfl | ⟨hneeds, rfl⟩⟩ :=
      Dialect.mem_suggestTables_iff.1 (List.mem_of_find?_eq_some hfind)
    · obtain rfl := hsame hown hdetail
      rw [Dialect.tableItem_label, hapart.find?_suggestTables] at hfind
      obtain ⟨winner, hwinner, heq⟩ := Option.map_eq_some_iff.1 hfind
      obtain rfl := hsame (List.mem_of_find?_eq_some hwinner) (congrArg Suggestion.detail heq)
      refine .inr fun other hother hname => (hfirst.1 hwinner).2 other hother ?_
      simpa using hname
    · obtain rfl := hsame hown hdetail
      exact .inl hneeds
  · rintro (hneeds | hleast)
    · refine ⟨dialect.qualifiedTableItem table, hlisted.2 ?_, rfl⟩
      exact hapart.find?_qualified htable hneeds
    · refine ⟨dialect.tableItem table, hlisted.2 ?_, rfl⟩
      have hwinner := hfirst.2
        ⟨by simp, fun other hother h => hleast other hother (by simpa using h)⟩
      rw [Dialect.tableItem_label, hapart.find?_suggestTables, hwinner]
      rfl

/-- In PostgreSQL a table of another schema than the default one stays, beside its namesake. -/
theorem table_listed_archive :
    ∃ item ∈ Engine.suggest { dialect := .postgresql, database := some "shop" }
        (QueryContext.parse "SELECT * FROM " (endPosition "SELECT * FROM "))
        (Schema.ofParts ["shop"] [{ database := "shop", name := "public.users" },
          { database := "shop", name := "archive.users" }]),
      item.detail = some (Table.detail { database := "shop", name := "archive.users" }) :=
  (table_listed_iff (by decide) (by decide +kernel) (by decide +kernel) (by decide)).2
    (.inl (by decide))

/-- Two databases with a table `users` each. -/
def namesakes : Schema :=
  Schema.ofParts ["app", "audit"]
    [{ database := "app", name := "users" }, { database := "audit", name := "users" }]

/-- **A table of the current database is missing.**  MySQL has a table `users` in the current
database and another one in a database that comes before it.  The name alone means the former in a
query, but all entries of the list are those of the latter. -/
theorem table_missing_of_namesake :
    (QueryContext.parse "SELECT * FROM " (endPosition "SELECT * FROM ")).kind = .source ∧
    (QueryContext.parse "SELECT * FROM " (endPosition "SELECT * FROM ")).currentWord = "" ∧
    { database := "audit", name := "users" } ∈ namesakes.tables.values ∧
    namesakes.resolve? "users" (some "audit") = some { database := "audit", name := "users" } ∧
    ∀ item ∈ Engine.suggest { dialect := .mysql, database := some "audit" }
        (QueryContext.parse "SELECT * FROM " (endPosition "SELECT * FROM ")) namesakes,
      item.detail ≠ some (Table.detail { database := "audit", name := "users" }) := by
  have hkind : (QueryContext.parse "SELECT * FROM " (endPosition "SELECT * FROM ")).kind =
      .source := by decide +kernel
  have hword : (QueryContext.parse "SELECT * FROM " (endPosition "SELECT * FROM ")).currentWord =
      "" := by decide +kernel
  refine ⟨hkind, hword, by decide +kernel, by decide +kernel, fun item hitem => ?_⟩
  have hapart : Dialect.mysql.QualifiedApart namesakes :=
    Dialect.qualifiedApart_ofParts none (by simp)
  have hfind := (mem_suggest_iff hapart hkind hword).1 hitem
  -- the list itself is sorted by a recursion that does not evaluate, the offers do
  have hfirst : ∀ item ∈ Dialect.mysql.suggestTables namesakes (some "audit"),
      (Dialect.mysql.suggestTables namesakes (some "audit")).find? (·.label == item.label) =
        some item → item.detail ≠ some (Table.detail { database := "audit", name := "users" }) := by
    decide +kernel
  exact hfirst item (List.mem_of_find?_eq_some hfind) hfind

end Engine

end QueryAssist
