import QueryAssist.Proofs.Dialect.Path
import QueryAssist.Proofs.Schema.LookupOrder
import QueryAssist.Proofs.Schema.Resolution
import QueryAssist.Suggestion.Source

/-!
# What the entries of a table insert

An entry for a table inserts its bare name, or its qualified one, which is the full name or, in
PostgreSQL, the full name without the database.  Both are cut out of the full name at its dots.

* `readPath?_tableItem`, `readPath?_qualifiedTableItem` — what the inserted texts are read as by the
  rule of the dialect.
* `tableItems_read_iff` — with two-part full names this is the table itself, or its database and the
  table, **if and only if there are no dots in these names**.
* `qualifiedTableItem_resolves` — **as a name in a query, the qualified entry of a table means this
  table**, dots or not.
-/

namespace QueryAssist

open Text

/-! ## Two-part names -/

namespace Dialect

/-- What the entry of a table under its bare name inserts is read as this name. -/
theorem readPath?_tableItem (dialect : Dialect) (table : Table) :
    dialect.readPath? (dialect.tableItem table).insertText = some [table.bareName] := by
  have hpath : (dialect.tableItem table).insertText = dialect.formatPath [table.bareName] := by
    rw [formatPath, List.map_singleton, String.intercalate_singleton]
    rfl
  rw [hpath, dialect.readPath?_formatPath (List.cons_ne_nil _ _)]

/-- What the entry of a table under its qualified name inserts is read as the parts of this name. -/
theorem readPath?_qualifiedTableItem (dialect : Dialect) (table : Table) :
    dialect.readPath? (dialect.qualifiedTableItem table).insertText =
      some (splitDots (dialect.qualifiedName table)) :=
  dialect.readPath?_formatPath (splitDots_ne_nil _)

/-- Only PostgreSQL leaves the database out of qualified names. -/
theorem qualifiedName_eq_key {dialect : Dialect} (h : dialect ≠ .postgresql) (table : Table) :
    dialect.qualifiedName table = table.key := by
  cases dialect with
  | postgresql => exact absurd rfl h
  | mysql | mariadb | sqlite => rfl

/-- **In dialects without schemas, the entries of a table name the table itself if and only if there
are no dots in its name**, and for the qualified entry, in the name of its database.  A dot between
quotes belongs to an identifier, but the entries are cut at every dot. -/
theorem tableItems_read_iff {dialect : Dialect} (twoParts : dialect ≠ .postgresql)
    (table : Table) :
    (dialect.readPath? (dialect.tableItem table).insertText = some [table.name] ↔
      '.' ∉ table.name.toList) ∧
    (dialect.readPath? (dialect.qualifiedTableItem table).insertText =
        some [table.database, table.name] ↔
      '.' ∉ table.database.toList ∧ '.' ∉ table.name.toList) := by
  constructor
  · rw [readPath?_tableItem, Option.some_inj, List.singleton_inj, Table.bareName_eq_name_iff]
  · rw [readPath?_qualifiedTableItem, qualifiedName_eq_key twoParts, Option.some_inj, Table.key,
      splitDots_append_eq_pair_iff]

/-- Names with blanks and quotes are inserted as what they are. -/
theorem tableItems_read_oddNames :
    Dialect.mysql ≠ .postgresql ∧
    Dialect.mysql.readPath? (Dialect.mysql.tableItem
      { database := "my app", name := "odd\x60name" }).insertText = some ["odd\x60name"] ∧
    Dialect.mysql.readPath? (Dialect.mysql.qualifiedTableItem
      { database := "my app", name := "odd\x60name" }).insertText =
        some ["my app", "odd\x60name"] :=
  have hdialect : Dialect.mysql ≠ .postgresql := by decide
  have hiff := tableItems_read_iff hdialect { database := "my app", name := "odd\x60name" }
  ⟨hdialect, hiff.1.2 (by decide), hiff.2.2 ⟨by decide, by decide⟩⟩

/-- **The entries of a table whose name has a dot name another one**: MySQL has a table `v1.users`,
and what is inserted is read as a table `users`, or as a table in a schema `v1`, which MySQL does not
have. -/
theorem tableItems_read_dotted :
    let table : Table := { database := "app", name := "v1.users" }
    (Dialect.mysql.tableItem table).insertText = "\x60users\x60" ∧
    Dialect.mysql.readPath? (Dialect.mysql.tableItem table).insertText = some ["users"] ∧
    (Dialect.mysql.qualifiedTableItem table).insertText =
      "\x60app\x60.\x60v1\x60.\x60users\x60" ∧
    Dialect.mysql.readPath? (Dialect.mysql.qualifiedTableItem table).insertText =
      some ["app", "v1", "users"] := by
  decide +kernel

end Dialect

/-! ## Entries as names in a query -/

/-- The name of a table is that of a schema and a bare name. -/
def Table.HasSchema (table : Table) : Prop :=
  ∃ schema name, '.' ∉ schema.toList ∧ '.' ∉ name.toList ∧ table.name = schema ++ "." ++ name

theorem Table.HasSchema.dot_mem_name {table : Table} (h : table.HasSchema) :
    '.' ∈ table.name.toList := by
  obtain ⟨schema, name, -, -, heq⟩ := h
  simp [heq]

namespace Schema

variable {dialect : Dialect} {databases : List String} {tables : List Table} {table : Table}
  {database : Option String}

/-- As a name in a query, what is inserted for a qualified name is this name, if it has no quotes. -/
theorem unquote_qualifiedTableItem
    (unquoted : ∀ c ∈ (dialect.qualifiedName table).toList, isQuote c = false) :
    unquote (dialect.qualifiedTableItem table).insertText = dialect.qualifiedName table := by
  have hparts : ∀ part ∈ splitDots (dialect.qualifiedName table), ∀ c ∈ part.toList,
      isQuote c = false :=
    fun part hpart c hc => unquoted c (mem_of_mem_splitDots hpart hc)
  have hname := dialect.unquote_formatPath (splitDots_ne_nil _) hparts
  rwa [joinDots_splitDots] at hname

/-- A name with a dot in it means some table only by the look-ups. -/
theorem resolve?_of_means {written name : String} (hname : unquote written = name)
    (hdot : '.' ∈ name.toList)
    (h : (ofParts databases tables).Means name database table) :
    (ofParts databases tables).resolve? written database = some table := by
  have hsome : unquote written ≠ "" := by
    rw [hname]
    rintro rfl
    exact absurd hdot (by decide)
  exact (resolve?_eq_some_iff hsome).2 (hname ▸ h)

/-- **What the qualified entry of a table inserts means this table in a query**, in PostgreSQL if the
table lives in the current database and all tables have schemas. -/
theorem qualifiedTableItem_resolves
    (htable : table ∈ (ofParts databases tables).tables.values)
    (unquoted : ∀ c ∈ table.key.toList, isQuote c = false)
    (postgres : dialect = .postgresql → database = some table.database ∧
      ∀ other ∈ (ofParts databases tables).tables.values, other.HasSchema) :
    (ofParts databases tables).resolve? (dialect.qualifiedTableItem table).insertText database =
      some table := by
  by_cases hdialect : dialect = .postgresql
  case pos =>
    subst hdialect
    obtain ⟨hdatabase, hschemas⟩ := postgres rfl
    have hdots : ∀ other ∈ (ofParts databases tables).tables.values, '.' ∈ other.name.toList :=
      fun other hother => (hschemas other hother).dot_mem_name
    have hchars : ∀ c ∈ table.name.toList, isQuote c = false :=
      fun c hc => unquoted c (table.mem_key_of_mem_name hc)
    have hname : unquote (Dialect.postgresql.qualifiedTableItem table).insertText = table.name :=
      unquote_qualifiedTableItem hchars
    -- a full name here has three parts, so this one with two is not taken for that of another table
    obtain ⟨schema, name, hschema, hbare, heq⟩ := hschemas table htable
    have hnotFull : (ofParts databases tables).tables.find? table.name = none := by
      rw [heq]
      exact find?_eq_none_of_two_parts hschema hbare hdots
    exact resolve?_of_means hname (hdots table htable)
      (.inCurrent hdatabase hnotFull (find?_key htable))
  case neg =>
    have hkey : dialect.qualifiedName table = table.key :=
      Dialect.qualifiedName_eq_key hdialect table
    have hname : unquote (dialect.qualifiedTableItem table).insertText = table.key := by
      rw [unquote_qualifiedTableItem (hkey ▸ unquoted), hkey]
    exact resolve?_of_means hname table.dot_mem_key (.fullName (find?_key htable))

/-- A table `line items` in a schema of the database `shop`. -/
def lineItemsIn (schema : String) : Table :=
  { database := "shop", name := schema ++ "." ++ "line items" }

theorem hasSchema_lineItemsIn {schema : String} (h : '.' ∉ schema.toList) :
    (lineItemsIn schema).HasSchema :=
  ⟨schema, "line items", h, by decide, rfl⟩

/-- A table with a blank in its name, in a schema whose name is a reserved word, beside a table that
comes before it and has the same bare name. -/
theorem qualifiedTableItem_resolves_order :
    (Dialect.postgresql.qualifiedTableItem (lineItemsIn "order")).insertText =
      "\"order\".\"line items\"" ∧
    (ofParts ["shop"] [lineItemsIn "order", lineItemsIn "archive"]).resolve?
      (Dialect.postgresql.qualifiedTableItem (lineItemsIn "order")).insertText (some "shop") =
        some (lineItemsIn "order") := by
  have hschemas : ∀ table ∈
      (ofParts ["shop"] [lineItemsIn "order", lineItemsIn "archive"]).tables.values,
      table.HasSchema := by
    intro table htable
    rcases List.mem_cons.1 (mem_of_mem_values htable) with rfl | htable
    · exact hasSchema_lineItemsIn (by decide)
    · rw [List.mem_singleton.1 htable]
      exact hasSchema_lineItemsIn (by decide)
  have hquotes : ∀ c ∈ (lineItemsIn "order").key.toList, isQuote c = false := by
    simp [Table.key, lineItemsIn, isQuote, backQuote, doubleQuote]
  exact ⟨by decide +kernel,
    qualifiedTableItem_resolves (by decide +kernel) hquotes fun _ => ⟨rfl, hschemas⟩⟩

end Schema

end QueryAssist
