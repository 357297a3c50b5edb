import QueryAssist.Proofs.Dialect.Path
import QueryAssist.Proofs.Query.Context
import QueryAssist.Proofs.Query.ReferenceScan
import QueryAssist.Text.Dotted

/-!
# Reading back a path that was written

A table path is written as identifiers of a dialect, and found in a query as a table reference.

* `findAll_selectFrom` — a path of names that the pattern of references knows is read back.
* `parse_formatPath_iff` — and no other path is: what quotes are written for, such as a name with a
  blank in it, the pattern does not take between quotes.
-/

namespace QueryAssist

open Text Query TableReference

/-! ## Identifiers as names -/

namespace Dialect

variable {dialect : Dialect} {name : List Char}

theorem isOpeningQuote_quote (dialect : Dialect) : isOpeningQuote dialect.quote = true := by
  cases dialect <;> decide

theorem isClosingQuote_quote (dialect : Dialect) : isClosingQuote dialect.quote = true := by
  cases dialect <;> decide

/-- A name without quotes in it is written as itself, with or without quotes around it. -/
theorem spells_formatIdentifierL (dialect : Dialect) (h : ∀ c ∈ name, isQuote c = false) :
    Spells name (dialect.formatIdentifierL name) := by
  rw [formatIdentifierL]
  split
  · exact .plain
  · rw [Identifier.quoted, Identifier.doubled_eq_self (dialect.quote_not_mem h)]
    exact .quoted _ _ dialect.isOpeningQuote_quote dialect.isClosingQuote_quote

end Dialect

/-! ## Queries with a path -/

namespace QueryContext

/-- A query with a table path, up to where its condition is to be typed. -/
def selectFrom (dialect : Dialect) (path : List String) : String :=
  "SELECT * FROM " ++ dialect.formatPath path ++ " WHERE "

theorem toList_selectFrom (dialect : Dialect) (path : List String) :
    (selectFrom dialect path).toList =
      "SELECT * FROM ".toList ++ (dialect.formatPath path).toList ++ " WHERE ".toList :=
  String.toList_append.trans (congrArg (· ++ " WHERE ".toList) String.toList_append)

/-- Names that can be written between quotes in every dialect and end at the dots of a path. -/
def IsSegment (name : String) : Prop :=
  name ≠ "" ∧ ∀ c ∈ name.toList, isQuote c = false ∧ c ≠ '.' ∧ c ≠ '\n'

instance (name : String) : Decidable (IsSegment name) :=
  decidable_of_iff
    (name ≠ "" ∧ name.toList.all (fun c => !isQuote c && c != '.' && c != '\n') = true)
    (by simp [IsSegment, and_assoc])

section

variable {dialect : Dialect} {path : List String}

/-- Names that the pattern of references knows are written as it reads them. -/
theorem spells_of_inside (dialect : Dialect) (nonempty : ∀ name ∈ path, name ≠ "")
    (inside : ∀ name ∈ path, ∀ c ∈ name.toList, isPathChar c = true) :
    ∀ name ∈ path, IsName isPathChar name.toList ∧
      Spells name.toList (dialect.formatIdentifierL name.toList) := by
  intro name hname
  refine ⟨⟨by simpa using nonempty name hname, inside name hname⟩, ?_⟩
  exact dialect.spells_formatIdentifierL fun c hc =>
    isQuote_eq_false_of_isPathChar (inside name hname c hc)

/-- **The path of a query is its only table reference** when all its names are of characters that
the pattern of references knows. -/
theorem findAll_selectFrom (hsome : path ≠ []) (hfew : path.length ≤ 3)
    (nonempty : ∀ name ∈ path, name ≠ "")
    (inside : ∀ name ∈ path, ∀ c ∈ name.toList, isPathChar c = true) :
    findAll (selectFrom dialect path).toList = [⟨joinDots path, joinDots path⟩] := by
  have hnames := spells_of_inside dialect nonempty inside
  have hend : EndsPath " WHERE ".toList := ⟨by rintro c ⟨⟩; decide, by decide⟩
  -- the keyword after the path is first taken for an alias, and then refused as one
  have hkeyword : IsName isWordChar "WHERE".toList :=
    ⟨by decide, List.all_eq_true.1 (by decide : "WHERE".toList.all isWordChar = true)⟩
  have halias (last groups) : ∃ last', aliasPattern.best? ⟨last, " WHERE ".toList, groups⟩ =
      some ⟨last', [' '], ⟨2, "WHERE".toList, [' ']⟩ :: groups⟩ :=
    best?_aliasPattern hkeyword (by rintro c ⟨⟩; decide) (by decide) last groups
  have hrefused : isAlias (String.ofList "WHERE".toList) = false := by decide
  obtain ⟨last, hfound⟩ := findFrom_reference (by decide : "FROM" ∈ referenceKeywords)
    (by decide : (some ' ').any isWordChar = false) hsome hfew hnames hend hkeyword halias
  rw [hrefused] at hfound
  have htext : (selectFrom dialect path).toList = "SELECT * ".toList ++ ("FROM".toList ++
      ' ' :: ((dialect.formatPath path).toList ++ " WHERE ".toList)) := by
    rw [toList_selectFrom, List.append_assoc]
    rfl
  have hafter : findFrom last (" WHERE ".toList ++ []) = [] :=
    (findFrom_quiet last (by decide +kernel) rfl).trans (findFrom_nil _)
  rw [List.append_nil] at hafter
  rw [htext, findAll_select, dialect.toList_formatPath, hfound, hafter]
  rfl

/-- **A path that was written is read back if and only if its names are of word characters and
dollar signs.**  The pattern of references allows quotes around a name, but between them only what
a name without quotes may have; blanks, hyphens and the like, which identifiers are quoted for, end
the path there. -/
theorem parse_formatPath_iff {cursor : Position} (hsome : path ≠ []) (hfew : path.length ≤ 3)
    (segments : ∀ name ∈ path, IsSegment name)
    (atEnd : preceding (selectFrom dialect path).toList cursor = (selectFrom dialect path).toList) :
    ((parse (selectFrom dialect path) cursor).tables = [joinDots path] ∧
        (parse (selectFrom dialect path) cursor).aliases.entries =
          [(joinDots path, joinDots path)]) ↔
      ∀ name ∈ path, ∀ c ∈ name.toList, isPathChar c = true := by
  have htables : (parse (selectFrom dialect path) cursor).tables =
      ((findAll (selectFrom dialect path).toList).map (·.path)).eraseDups := by
    rw [parse_tables, atEnd]
  have haliases : (parse (selectFrom dialect path) cursor).aliases =
      Dictionary.ofList ((findAll (selectFrom dialect path).toList).map
        fun r => (r.aliasName, r.path)) := by
    rw [parse_aliases, atEnd]
  constructor
  · rintro ⟨hread, -⟩ name hname c hc
    have hmem : joinDots path ∈ (parse (selectFrom dialect path) cursor).tables := by
      rw [hread]
      exact List.mem_singleton_self _
    rw [htables, List.mem_eraseDups] at hmem
    obtain ⟨reference, hreference, hpath⟩ := List.mem_map.1 hmem
    have hin : c ∈ reference.path.toList := by
      rw [hpath]
      exact mem_joinDots hname hc
    exact (pathChar_of_mem_findAll hreference hin).resolve_right ((segments name hname).2 c hc).2.1
  · intro inside
    rw [htables, haliases, findAll_selectFrom hsome hfew (fun n hn => (segments n hn).1) inside]
    exact ⟨rfl, rfl⟩

end

/-- A path of two names in PostgreSQL, one of them quoted, is read back. -/
theorem parse_formatPath_order :
    (parse (selectFrom .postgresql ["app", "order"])
        (endPosition (selectFrom .postgresql ["app", "order"]))).tables =
      [joinDots ["app", "order"]] ∧
    (parse (selectFrom .postgresql ["app", "order"])
        (endPosition (selectFrom .postgresql ["app", "order"]))).aliases.entries =
      [(joinDots ["app", "order"], joinDots ["app", "order"])] := by
  have hinside : ["app", "order"].all (·.toList.all isPathChar) = true := by decide +kernel
  refine (parse_formatPath_iff (by decide) (by decide) (by decide +kernel) (by decide +kernel)).2 ?_
  exact fun name hname => List.all_eq_true.1 (List.all_eq_true.1 hinside name hname)

/-- **A table whose name has a blank is not read back.**  In MySQL its name is written between back
quotes; the first word is read as the table and the second as an alias of it. -/
theorem parse_formatPath_blank :
    IsSegment "my table" ∧
    preceding (selectFrom .mysql ["my table"]).toList
        (endPosition (selectFrom .mysql ["my table"])) = (selectFrom .mysql ["my table"]).toList ∧
    (parse (selectFrom .mysql ["my table"])
        (endPosition (selectFrom .mysql ["my table"]))).tables = ["my"] ∧
    (parse (selectFrom .mysql ["my table"])
        (endPosition (selectFrom .mysql ["my table"]))).aliases.entries = [("table", "my")] := by
  decide +kernel

end QueryContext

end QueryAssist
