import QueryAssist.Proofs.Dialect.Identifier
import QueryAssist.Proofs.Query.FormattedPath
import QueryAssist.Proofs.Query.Scope
import QueryAssist.Proofs.Suggestion.ColumnList

/-!
# Columns after an alias

A query gives a table an alias, and the columns of the table are offered after it.  In PostgreSQL an
alias that is written without quotes is folded to lower case, as any identifier.

* `GivesAlias` — a text in which a table is given an alias, a word without quotes.
* `IsAliasItem` — the entries for columns after an alias; `exists_isAliasItem` says that there is one
  for every column of the table that the alias stands for.
* `alias_sameIdentifier_iff` — **what these entries insert refers to the alias of the query if and
  only if it has no capital letters.**
* `alias_capital` — an alias with a capital letter.
-/

namespace QueryAssist

open Text

/-! ## Aliases in a text -/

namespace TableReference

/-- In a text a table reference is found, and the name behind its table is a word that can be an
alias and stands there without quotes. -/
def GivesAlias (text : List Char) (word : String) : Prop :=
  isAlias word = true ∧ ∃ m ∈ pattern.scan resume 0 none text,
    (ofMatch? m).isSome = true ∧ (m.group? 2).map (·.text) = some word.toList

instance (text : List Char) (word : String) : Decidable (GivesAlias text word) :=
  inferInstanceAs (Decidable (_ ∧ _))

/-- Such a word is the alias of the reference. -/
theorem GivesAlias.exists_mem_findAll {text : List Char} {word : String}
    (h : GivesAlias text word) (plain : IsPlainWord word) :
    ∃ reference ∈ findAll text, reference.aliasName = word := by
  obtain ⟨halias, m, hm, hread, hfollowing⟩ := h
  obtain ⟨reference, hreference⟩ := Option.isSome_iff_exists.1 hread
  obtain ⟨following, hgroup, htext⟩ := Option.map_eq_some_iff.1 hfollowing
  obtain ⟨path, hpath, hname⟩ := exists_group_of_ofMatch? hreference
  have hsome : unquoteL path.text ≠ [] := by
    have hne := (wellFormed_of_ofMatch? hreference).path.ne_empty
    rw [hname] at hne
    simpa using hne
  have hword : String.ofList (unquoteL following.text) = word := by
    rw [htext]
    exact plain.unquote
  refine ⟨reference, List.mem_filterMap.2 ⟨m, hm, hreference⟩, ?_⟩
  rw [ofMatch?_of_groups hpath hgroup hsome, hword, if_pos halias] at hreference
  rw [← Option.some.inj hreference]

end TableReference

open TableReference

/-- An alias that is given in the text before the cursor stands for some table of the context. -/
theorem QueryContext.exists_find?_aliases {text : String} {cursor : Position} {word : String}
    (gives : GivesAlias (preceding text.toList cursor) word) (plain : IsPlainWord word) :
    ∃ name, (parse text cursor).aliases.find? word = some name := by
  obtain ⟨reference, hreference, haliasName⟩ := gives.exists_mem_findAll plain
  rw [parse_aliases]
  refine Dictionary.mem_keys_iff.1 (Dictionary.mem_keys_ofList.2 ?_)
  exact ⟨(reference.aliasName, reference.path),
    List.mem_map.2 ⟨reference, hreference, rfl⟩, haliasName⟩

/-! ## Entries after an alias -/

namespace Dialect

variable {context : QueryContext} {schema : Schema} {database : Option String} {word : String}

/-- An entry of PostgreSQL's dialect for a column after an alias. -/
def IsAliasItem (context : QueryContext) (schema : Schema) (database : Option String)
    (word : String) (item : Suggestion) : Prop :=
  ∃ entry ∈ scopedColumns context schema database, entry.qualifier = word ∧
    entry.isAlias = true ∧ item ∈ Dialect.postgresql.qualifiedColumnItems entry

/-- The one entry for a column after an alias. -/
theorem qualifiedColumnItems_of_isAlias {entry : ScopedColumn} (h : entry.isAlias = true) :
    Dialect.postgresql.qualifiedColumnItems entry =
      [Dialect.postgresql.qualifiedColumnItem entry entry.qualifier [entry.qualifier]
        .aliasedColumn] := by
  have hdepth : Dialect.postgresql.depth = 3 := rfl
  simp only [qualifiedColumnItems, hdepth, h, if_true]

/-- Every column of a table is offered after the alias that stands for it. -/
theorem exists_isAliasItem {name : String} {table : Table} {column : Column}
    (hname : context.aliases.find? word = some name) (hne : word ≠ name)
    (htable : schema.resolve? name database = some table) (hcolumn : column ∈ table.columns) :
    ∃ item ∈ Dialect.postgresql.suggestColumns context schema database,
      IsAliasItem context schema database word item ∧ item.label = word ++ "." ++ column.name := by
  have hpair : (word, name) ∈ context.scopedTables := by
    refine List.mem_append_right _ (List.mem_filter.2 ⟨Dictionary.mem_entries_iff.2 hname, ?_⟩)
    simpa using hne
  have hentry : ⟨word, word ≠ name, table, column⟩ ∈ scopedColumns context schema database :=
    mem_scopedColumns_iff.2 ⟨(word, name), hpair, table, htable, column, hcolumn, rfl⟩
  have halias : decide (word ≠ name) = true := decide_eq_true hne
  have hitem := List.mem_singleton_self (Dialect.postgresql.qualifiedColumnItem
    ⟨word, word ≠ name, table, column⟩ word [word] .aliasedColumn)
  rw [← qualifiedColumnItems_of_isAlias halias] at hitem
  exact ⟨_, mem_columnItems_of_qualified hentry hitem, ⟨_, hentry, rfl, halias, hitem⟩, rfl⟩

end Dialect

/-- The part of a path before its first dot. -/
def Text.firstPart (path : String) : String :=
  String.ofList (path.toList.takeWhile (· ≠ '.'))

namespace Dialect

/-- There is no dot in what is written for a plain word. -/
theorem dot_not_mem_formatIdentifierL (dialect : Dialect) {word : String}
    (plain : IsPlainWord word) : '.' ∉ dialect.formatIdentifierL word.toList := by
  have hname : IsName isPathChar word.toList :=
    ⟨plain.toList_ne_nil, fun c hc => Bool.or_eq_true_iff.2 (.inl (plain.isWordChar c hc))⟩
  exact (dialect.spells_formatIdentifierL plain.isQuote_eq_false).dot_not_mem hname

/-- What is written for a path of two names begins with what is written for the first. -/
theorem firstPart_formatPath (dialect : Dialect) {word : String} (plain : IsPlainWord word)
    (name : String) :
    firstPart (dialect.formatPath [word, name]) = dialect.formatIdentifier word := by
  have hdot : ∀ c ∈ dialect.formatIdentifierL word.toList, decide (c ≠ '.') = true := by
    intro c hc
    refine decide_eq_true ?_
    rintro rfl
    exact dialect.dot_not_mem_formatIdentifierL plain hc
  rw [firstPart, toList_formatPath, formatIdentifier]
  simp only [List.map_cons, List.map_nil, List.intercalate_cons_cons, List.intercalate_singleton,
    List.append_assoc, List.takeWhile_append_of_pos hdot]
  simp

variable {context : QueryContext} {schema : Schema} {database : Option String} {word : String}

theorem IsAliasItem.firstPart_insertText {item : Suggestion}
    (h : IsAliasItem context schema database word item) (plain : IsPlainWord word) :
    firstPart item.insertText = Dialect.postgresql.formatIdentifier word := by
  obtain ⟨entry, -, rfl, halias, hitem⟩ := h
  rw [qualifiedColumnItems_of_isAlias halias] at hitem
  rw [List.mem_singleton.1 hitem]
  exact firstPart_formatPath _ plain _

end Dialect

open Identifier Dialect in
/-- **What is inserted for a column after an alias refers to the alias of the query if and only if
the alias has no capital letters.**  The alias is offered as it is written in the query; PostgreSQL
folds it there, but not between the quotes that are written around capitals. -/
theorem alias_sameIdentifier_iff {text : String} {cursor : Position} {word : String}
    (plain : IsPlainWord word) (gives : GivesAlias (preceding text.toList cursor) word)
    (schema : Schema) (database : Option String) :
    (∀ item, IsAliasItem (QueryContext.parse text cursor) schema database word item →
      (SameIdentifier word (firstPart item.insertText) ↔ asciiLower word = word)) ∧
    ∃ name, (QueryContext.parse text cursor).aliases.find? word = some name ∧
      (word ≠ name → ∀ table, schema.resolve? name database = some table →
        ∀ column ∈ table.columns,
          ∃ item ∈ Dialect.postgresql.suggestColumns (QueryContext.parse text cursor) schema database,
            IsAliasItem (QueryContext.parse text cursor) schema database word item ∧
              item.label = word ++ "." ++ column.name) := by
  have hquote : doubleQuote ∉ word.toList := fun hmem =>
    absurd (plain.isQuote_eq_false doubleQuote hmem) (by decide)
  obtain ⟨name, hname⟩ := QueryContext.exists_find?_aliases gives plain
  refine ⟨?_, name, hname, ?_⟩
  · intro item hitem
    rw [hitem.firstPart_insertText plain]
    exact sameIdentifier_formatIdentifier_iff hquote
  · exact fun hne table htable column hcolumn => exists_isAliasItem hname hne htable hcolumn

/-- A table with one column. -/
def invoices : Table where
  database := "shop"
  name := "public.invoices"
  columns := [{ name := "id", dataType := "int" }]

open Identifier Dialect in
/-- An alias of a small letter and a digit is kept as it is. -/
theorem alias_sameIdentifier_iff_small :
    let text := "SELECT * FROM invoices AS i2 WHERE "
    let context := QueryContext.parse text (endPosition text)
    let schema := Schema.ofParts ["shop"] [invoices]
    IsPlainWord "i2" ∧ GivesAlias (preceding text.toList (endPosition text)) "i2" ∧
      ∃ item ∈ Dialect.postgresql.suggestColumns context schema (some "shop"),
        item.label = "i2" ++ "." ++ "id" ∧ SameIdentifier "i2" (firstPart item.insertText) := by
  intro text context schema
  have hplain : IsPlainWord "i2" := by decide
  have hgives : GivesAlias (preceding text.toList (endPosition text)) "i2" := by decide +kernel
  obtain ⟨hsame, name, hname, hoffered⟩ :=
    alias_sameIdentifier_iff hplain hgives schema (some "shop")
  have htable : context.aliases.find? "i2" = some "invoices" := by decide +kernel
  obtain rfl : name = "invoices" := Option.some.inj (hname.symm.trans htable)
  obtain ⟨item, hitem, hafter, hlabel⟩ := hoffered (by decide) invoices (by decide +kernel)
    { name := "id", dataType := "int" } List.mem_cons_self
  exact ⟨hplain, hgives, item, hitem, hlabel, (hsame item hafter).2 (by decide)⟩

open Identifier Dialect in
/-- **An alias with a capital letter is quoted, and does not stand for the alias of the query any
more**: there `I` is folded to `i`. -/
theorem alias_capital :
    let text := "SELECT * FROM invoices AS I WHERE "
    let context := QueryContext.parse text (endPosition text)
    let schema := Schema.ofParts ["shop"] [invoices]
    IsPlainWord "I" ∧ GivesAlias (preceding text.toList (endPosition text)) "I" ∧
      ∃ item ∈ Dialect.postgresql.suggestColumns context schema (some "shop"),
        item.label = "I.id" ∧ item.insertText = "\"I\".id" ∧
          ¬ SameIdentifier "I" (firstPart item.insertText) := by
  intro text context schema
  have hfirst : firstPart "\"I\".id" = Dialect.postgresql.formatIdentifier "I" := by decide +kernel
  have hoffered : ∃ item ∈ Dialect.postgresql.suggestColumns context schema (some "shop"),
      item.label = "I.id" ∧ item.insertText = "\"I\".id" := by decide +kernel
  obtain ⟨item, hitem, hlabel, hinsert⟩ := hoffered
  refine ⟨by decide, by decide +kernel, item, hitem, hlabel, hinsert, ?_⟩
  rw [hinsert, hfirst, sameIdentifier_formatIdentifier_iff (by decide)]
  decide

end QueryAssist
