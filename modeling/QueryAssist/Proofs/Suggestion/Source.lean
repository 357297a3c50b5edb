import QueryAssist.Suggestion.Engine

/-!
# What the sources offer

* `mem_suggestTables_iff`, `mem_suggestColumns_iff` — the entries for tables and for columns.
* `hasTier_of_mem_offers` — whatever is offered is sorted by the digit of its tier and its label.
* `kind_ne_column_of_mem_suggestFunctions` — columns are offered by no other source.
-/

namespace QueryAssist

open Text

/-! ## Tiers -/

namespace Tier

theorem digit_le (tier : Tier) : '0' ≤ tier.digit ∧ tier.digit ≤ '7' := by
  cases tier <;> decide

theorem toList_sortText (tier : Tier) (label : String) :
    (tier.sortText label).toList = tier.digit :: label.toList :=
  String.toList_ofList

end Tier

/-- The sort text of an entry is a digit from 0 to 7 and then the label of the entry. -/
def Suggestion.HasTier (item : Suggestion) (digit : Char) : Prop :=
  '0' ≤ digit ∧ digit ≤ '7' ∧ item.sortText.toList = digit :: item.label.toList

theorem Suggestion.hasTier_of_sortText_eq {item : Suggestion} {tier : Tier}
    (h : item.sortText = tier.sortText item.label) : item.HasTier tier.digit :=
  ⟨tier.digit_le.1, tier.digit_le.2, by rw [h, tier.toList_sortText]⟩

namespace Dialect

variable {dialect : Dialect} {schema : Schema} {database : Option String} {item : Suggestion}

/-! ## Keywords and functions -/

theorem mem_suggestKeywords_iff {base : KeywordSet} :
    item ∈ dialect.suggestKeywords base ↔
      ∃ keyword ∈ base.merge dialect.keywords, item = Suggestion.ofKeyword keyword := by
  simp [suggestKeywords, eq_comm]

theorem exists_function_of_mem (h : item ∈ dialect.suggestFunctions) :
    ∃ f tier, item = Suggestion.ofFunction f tier := by
  rcases List.mem_append.1 h with hcore | hextended
  · obtain ⟨f, -, rfl⟩ := List.mem_map.1 hcore
    exact ⟨f, _, rfl⟩
  · obtain ⟨f, -, rfl⟩ := List.mem_map.1 hextended
    exact ⟨f, _, rfl⟩

theorem kind_ne_column_of_mem_suggestFunctions (h : item ∈ dialect.suggestFunctions) :
    item.kind ≠ .column := by
  obtain ⟨f, tier, rfl⟩ := exists_function_of_mem h
  exact nofun

/-! ## Tables -/

theorem mem_suggestTables_iff :
    item ∈ dialect.suggestTables schema database ↔
      ∃ table ∈ schema.tables.values, item = dialect.tableItem table ∨
        dialect.needsQualified table database = true ∧ item = dialect.qualifiedTableItem table := by
  rw [suggestTables, List.mem_flatMap]
  refine exists_congr fun table => and_congr_right fun _ => ?_
  by_cases h : dialect.needsQualified table database = true <;> simp [h]

/-! ## Columns -/

/-- Every column is offered after its qualifier, and some also by themselves. -/
theorem mem_columnItems {seen : List String} {entries : List ScopedColumn}
    (h : item ∈ dialect.columnItems seen entries) :
    ∃ entry ∈ entries, item = dialect.columnItem entry ∨
      item ∈ dialect.qualifiedColumnItems entry := by
  induction entries generalizing seen with
  | nil => exact absurd h List.not_mem_nil
  | cons first rest ih =>
    rw [columnItems, List.append_assoc, List.mem_append, List.mem_append] at h
    rcases h with hplain | hqualified | hrest
    · split at hplain
      · exact absurd hplain List.not_mem_nil
      · exact ⟨first, List.mem_cons_self, .inl (List.mem_singleton.1 hplain)⟩
    · exact ⟨first, List.mem_cons_self, .inr hqualified⟩
    · obtain ⟨entry, hentry, hitem⟩ := ih hrest
      exact ⟨entry, List.mem_cons_of_mem first hentry, hitem⟩

theorem mem_columnItems_of_qualified {seen : List String} {entries : List ScopedColumn}
    {entry : ScopedColumn} (hentry : entry ∈ entries)
    (h : item ∈ dialect.qualifiedColumnItems entry) : item ∈ dialect.columnItems seen entries := by
  induction entries generalizing seen with
  | nil => exact absurd hentry List.not_mem_nil
  | cons first rest ih =>
    rw [columnItems, List.append_assoc, List.mem_append, List.mem_append]
    rcases List.mem_cons.1 hentry with rfl | hrest
    · exact .inr (.inl h)
    · exact .inr (.inr (ih hrest))

/-- A name that has not been given is given by the first column that has it. -/
theorem exists_mem_columnItems {seen : List String} {entries : List ScopedColumn}
    {entry : ScopedColumn} (hentry : entry ∈ entries) (hseen : entry.column.name ∉ seen) :
    ∃ item ∈ dialect.columnItems seen entries, item.label = entry.column.name := by
  induction entries generalizing seen with
  | nil => exact absurd hentry List.not_mem_nil
  | cons first rest ih =>
    rw [columnItems]
    by_cases hname : first.column.name = entry.column.name
    · refine ⟨dialect.columnItem first, ?_, hname⟩
      rw [hname, if_neg hseen]
      simp
    · have hrest : entry ∈ rest := by
        rcases List.mem_cons.1 hentry with rfl | hrest
        · exact absurd rfl hname
        · exact hrest
      have hnew : entry.column.name ∉ first.column.name :: seen := by
        rw [List.mem_cons, not_or]
        exact ⟨fun heq => hname heq.symm, hseen⟩
      obtain ⟨item, hitem, hlabel⟩ := ih hrest hnew
      exact ⟨item, List.mem_append_right _ hitem, hlabel⟩

/-- The entries for a column are made of its data with some label. -/
theorem exists_columnEntry {entry : ScopedColumn}
    (h : item = dialect.columnItem entry ∨ item ∈ dialect.qualifiedColumnItems entry) :
    ∃ label path tier, item = dialect.columnEntry entry label path tier := by
  rcases h with rfl | hqualified
  · exact ⟨_, _, _, rfl⟩
  · simp only [qualifiedColumnItems] at hqualified
    split at hqualified
    · split at hqualified
      · exact ⟨_, _, _, List.mem_singleton.1 hqualified⟩
      · rcases List.mem_cons.1 hqualified with rfl | hwritten
        · exact ⟨_, _, _, rfl⟩
        · split at hwritten
          · exact ⟨_, _, _, List.mem_singleton.1 hwritten⟩
          · exact absurd hwritten List.not_mem_nil
    · exact ⟨_, _, _, List.mem_singleton.1 hqualified⟩

end Dialect

/-! ## All entries -/

namespace Dialect

variable {dialect : Dialect} {schema : Schema} {database : Option String} {item : Suggestion}

theorem hasTier_of_mem_suggestKeywords {base : KeywordSet}
    (h : item ∈ dialect.suggestKeywords base) : ∃ digit, item.HasTier digit := by
  obtain ⟨keyword, -, rfl⟩ := mem_suggestKeywords_iff.1 h
  exact ⟨Tier.keyword.digit, Suggestion.hasTier_of_sortText_eq rfl⟩

theorem hasTier_of_mem_suggestFunctions (h : item ∈ dialect.suggestFunctions) :
    ∃ digit, item.HasTier digit := by
  obtain ⟨f, tier, rfl⟩ := exists_function_of_mem h
  exact ⟨tier.digit, Suggestion.hasTier_of_sortText_eq rfl⟩

theorem hasTier_of_mem_suggestTables (h : item ∈ dialect.suggestTables schema database) :
    ∃ digit, item.HasTier digit := by
  obtain ⟨table, -, rfl | ⟨-, rfl⟩⟩ := mem_suggestTables_iff.1 h
  · exact ⟨Tier.table.digit, Suggestion.hasTier_of_sortText_eq rfl⟩
  · exact ⟨Tier.qualifiedTable.digit, Suggestion.hasTier_of_sortText_eq rfl⟩

theorem hasTier_of_mem_suggestColumns {context : QueryContext}
    (h : item ∈ dialect.suggestColumns context schema database) : ∃ digit, item.HasTier digit := by
  obtain ⟨entry, -, hitem⟩ := mem_columnItems h
  obtain ⟨label, path, tier, rfl⟩ := exists_columnEntry hitem
  exact ⟨tier.digit, Suggestion.hasTier_of_sortText_eq rfl⟩

end Dialect

/-- **Whatever is offered is sorted by the digit of a tier and its label.** -/
theorem Engine.hasTier_of_mem_offers {engine : Engine} {context : QueryContext} {schema : Schema}
    {item : Suggestion} (h : item ∈ engine.offers context schema) : ∃ digit, item.HasTier digit := by
  cases hkind : context.kind <;> simp only [offers, hkind, List.mem_append, List.mem_cons] at h
  case selectStart =>
    rcases h with (rfl | hcolumn) | hfunction
    · exact ⟨Tier.column.digit, Suggestion.hasTier_of_sortText_eq rfl⟩
    · exact Dialect.hasTier_of_mem_suggestColumns hcolumn
    · exact Dialect.hasTier_of_mem_suggestFunctions hfunction
  case column | condition =>
    rcases h with hcolumn | hfunction
    · exact Dialect.hasTier_of_mem_suggestColumns hcolumn
    · exact Dialect.hasTier_of_mem_suggestFunctions hfunction
  case keyword | unknown =>
    rcases h with (hkeyword | htable) | hfunction
    · exact Dialect.hasTier_of_mem_suggestKeywords hkeyword
    · exact Dialect.hasTier_of_mem_suggestTables htable
    · exact Dialect.hasTier_of_mem_suggestFunctions hfunction
  case source | joinTarget => exact Dialect.hasTier_of_mem_suggestTables h
  case selectComplete => exact Dialect.hasTier_of_mem_suggestKeywords h
  case function => exact Dialect.hasTier_of_mem_suggestFunctions h

end QueryAssist
