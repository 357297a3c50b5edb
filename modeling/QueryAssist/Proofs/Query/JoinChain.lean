import QueryAssist.Proofs.Query.Context
import QueryAssist.Proofs.Query.ReferenceScan
import QueryAssist.Proofs.Text.Dictionary
import QueryAssist.Proofs.Text.PlainWord

/-!
# Chains of joins

A query that joins tables one after the other is written down as a `JoinChain`: tables with or
without aliases, the words before each `JOIN`, and the conditions.  `JoinChain.parse_text` says that
its tables and aliases are read back, all of them and nothing else.

The word after a table without an alias is read as one, refused, and read again as what it is;
`findFrom_table` is that step, and `findFrom_joined` takes it along the chain.
-/

namespace QueryAssist

open Text Query TableReference

/-! ## Texts in pieces -/

/-- Pieces of a text one after the other, each with a blank before it. -/
def spaced (pieces : List String) : List Char :=
  pieces.flatMap fun piece => ' ' :: piece.toList

@[simp] theorem spaced_nil : spaced [] = [] := rfl

@[simp] theorem spaced_cons (piece : String) (pieces : List String) :
    spaced (piece :: pieces) = ' ' :: (piece.toList ++ spaced pieces) := rfl

@[simp] theorem spaced_append (pieces more : List String) :
    spaced (pieces ++ more) = spaced pieces ++ spaced more :=
  List.flatMap_append

/-- Pieces with a blank after them begin with a blank. -/
theorem exists_spaced_append (pieces : List String) (cs : List Char) :
    ∃ rest, spaced pieces ++ ' ' :: cs = ' ' :: rest := by
  cases pieces with
  | nil => exact ⟨cs, rfl⟩
  | cons piece pieces => exact ⟨piece.toList ++ spaced pieces ++ ' ' :: cs, by simp⟩

theorem endsName_spaced (pieces : List String) : EndsName isWordChar (spaced pieces ++ [' ']) := by
  obtain ⟨rest, hrest⟩ := exists_spaced_append pieces []
  rw [hrest]
  rintro c ⟨⟩
  decide

/-- No word of a piece is `FROM` or `JOIN`, in either case, so that no table reference begins in
it. -/
def IsQuiet (piece : String) : Prop :=
  ∀ word ∈ words piece.toList, isReferenceKeyword word = false

instance (piece : String) : Decidable (IsQuiet piece) :=
  inferInstanceAs (Decidable (∀ word ∈ words piece.toList, isReferenceKeyword word = false))

/-- The search passes over quiet pieces, and goes on behind the blank after them. -/
theorem findFrom_spaced {pieces : List String} (quiet : ∀ piece ∈ pieces, IsQuiet piece)
    (last : Option Char) (cs : List Char) :
    findFrom last (spaced pieces ++ ' ' :: cs) = findFrom (some ' ') cs := by
  induction pieces generalizing last with
  | nil => exact findFrom_blank last cs
  | cons piece pieces ih =>
    obtain ⟨rest, hrest⟩ := exists_spaced_append pieces cs
    have hbreak : (spaced pieces ++ ' ' :: cs).head?.any isWordChar = false := by
      rw [hrest]
      rfl
    rw [spaced_cons, List.cons_append, List.append_assoc, findFrom_blank,
      findFrom_quiet _ (quiet piece List.mem_cons_self) hbreak]
    exact ih (fun other hother => quiet other (List.mem_cons_of_mem piece hother)) _

/-! ## Tables as they are written -/

/-- An alias as it is written after a table, with or without `AS`. -/
structure WrittenAlias where
  name : String
  withAs : Bool
  plain : IsPlainWord name
  free : followingKeywords.any (equalIgnoringAsciiCase · name) = false

/-- A table as it is written in a query: a path of one to three plain words, and its alias. -/
structure WrittenTable where
  path : List String
  alias? : Option WrittenAlias
  nonempty : path ≠ []
  short : path.length ≤ 3
  plain : ∀ name ∈ path, IsPlainWord name

/-- A table with what is written before and after it to join it: the kind of the join, `OUTER`, and
the condition, in which no table reference may begin. -/
structure JoinedTable where
  kind? : Option String
  outer : Bool
  table : WrittenTable
  condition? : Option String
  known : ∀ kind ∈ kind?, kind ∈ Clause.joinKinds
  quiet : ∀ condition ∈ condition?, IsQuiet condition

/-- A query over tables that are joined one after the other. -/
structure JoinChain where
  first : WrittenTable
  joined : List JoinedTable

/-- The pieces of an alias. -/
def WrittenAlias.pieces (written : WrittenAlias) : List String :=
  if written.withAs then ["AS", written.name] else [written.name]

namespace WrittenTable

/-- The name of a table. -/
def name (table : WrittenTable) : String :=
  joinDots table.path

/-- The name that a table goes by in its query: its alias, or else its own name. -/
def calledBy (table : WrittenTable) : String :=
  (table.alias?.map WrittenAlias.name).getD table.name

/-- The pieces after the name of a table. -/
def aliasPieces (table : WrittenTable) : List String :=
  (table.alias?.map WrittenAlias.pieces).getD []

/-- The pieces of a table. -/
def pieces (table : WrittenTable) : List String :=
  table.name :: table.aliasPieces

end WrittenTable

namespace JoinedTable

/-- The pieces before `JOIN`. -/
def lead (joined : JoinedTable) : List String :=
  joined.kind?.toList ++ if joined.outer then ["OUTER"] else []

/-- The pieces after the table. -/
def conditionPieces (joined : JoinedTable) : List String :=
  (joined.condition?.map fun condition => ["ON", condition]).getD []

/-- The pieces of a joined table. -/
def pieces (joined : JoinedTable) : List String :=
  joined.lead ++ "JOIN" :: (joined.table.pieces ++ joined.conditionPieces)

end JoinedTable

namespace JoinChain

/-- The tables of a chain. -/
def tables (chain : JoinChain) : List WrittenTable :=
  chain.first :: chain.joined.map JoinedTable.table

/-- The pieces of a chain after its first table. -/
def tail (joined : List JoinedTable) : List String :=
  joined.flatMap JoinedTable.pieces ++ ["WHERE"]

/-- The text of a chain, up to where its condition is to be typed. -/
def text (chain : JoinChain) : String :=
  String.ofList ("SELECT * FROM".toList ++ spaced (chain.first.pieces ++ tail chain.joined) ++ [' '])

end JoinChain

/-! ## What stands between the tables -/

/-- The keywords that may stand right after a table of a chain. -/
def chainKeywords : List String :=
  Clause.joinKinds ++ ["OUTER", "JOIN", "ON", "WHERE"]

/-- Pieces begin with a keyword that may stand right after a table. -/
def BeginsWithKeyword (pieces : List String) : Prop :=
  ∃ keyword ∈ chainKeywords, ∃ more, pieces = keyword :: more

theorem isQuiet_of_mem_joinKinds : ∀ kind ∈ Clause.joinKinds, IsQuiet kind := by
  decide +kernel

/-- What comes after a table and its condition begins with a keyword. -/
theorem beginsWithKeyword_tail (joined : List JoinedTable) :
    BeginsWithKeyword (JoinChain.tail joined) := by
  cases joined with
  | nil => exact ⟨"WHERE", by decide, [], rfl⟩
  | cons link joined =>
    simp only [JoinChain.tail, List.flatMap_cons, JoinedTable.pieces, JoinedTable.lead]
    cases hkind : link.kind? with
    | some kind =>
      exact ⟨kind, List.mem_append_left _ (link.known kind hkind), _, rfl⟩
    | none =>
      cases link.outer with
      | true => exact ⟨"OUTER", by decide, _, rfl⟩
      | false => exact ⟨"JOIN", by decide, _, rfl⟩

/-- So does what comes after a table and its alias. -/
theorem beginsWithKeyword_condition (link : JoinedTable) (joined : List JoinedTable) :
    BeginsWithKeyword (link.conditionPieces ++ JoinChain.tail joined) := by
  cases hcondition : link.condition? with
  | some condition =>
    exact ⟨"ON", by decide, _, by rw [JoinedTable.conditionPieces, hcondition]; rfl⟩
  | none =>
    rw [JoinedTable.conditionPieces, hcondition]
    exact beginsWithKeyword_tail joined

/-- A plain word that is no keyword after a table is no keyword before one either. -/
theorem WrittenAlias.isQuiet_name (written : WrittenAlias) : IsQuiet written.name := by
  have hfollowing : ∀ keyword ∈ referenceKeywords, keyword ∈ followingKeywords := by decide
  intro word hword
  rw [words_eq_singleton written.plain.toList_ne_nil written.plain.isWordChar] at hword
  rw [List.mem_singleton.1 hword, isReferenceKeyword, String.ofList_toList, List.any_eq_false]
  exact fun keyword hkeyword =>
    List.any_eq_false.1 written.free keyword (hfollowing keyword hkeyword)

theorem WrittenTable.isQuiet_of_mem_aliasPieces {table : WrittenTable} {piece : String}
    (h : piece ∈ table.aliasPieces) : IsQuiet piece := by
  rw [aliasPieces] at h
  cases halias : table.alias? with
  | none => simp [halias] at h
  | some written =>
    simp only [halias, Option.map_some, Option.getD_some, WrittenAlias.pieces] at h
    split at h
    · rcases List.mem_cons.1 h with rfl | hname
      · decide +kernel
      · rw [List.mem_singleton.1 hname]
        exact written.isQuiet_name
    · rw [List.mem_singleton.1 h]
      exact written.isQuiet_name

theorem JoinedTable.isQuiet_of_mem_lead {link : JoinedTable} {piece : String}
    (h : piece ∈ link.lead) : IsQuiet piece := by
  rcases List.mem_append.1 h with hkind | houter
  · exact isQuiet_of_mem_joinKinds piece (link.known piece (Option.mem_toList.1 hkind))
  · split at houter
    · rw [List.mem_singleton.1 houter]
      decide +kernel
    · exact absurd houter List.not_mem_nil

theorem JoinedTable.isQuiet_of_mem_conditionPieces {link : JoinedTable} {piece : String}
    (h : piece ∈ link.conditionPieces) : IsQuiet piece := by
  rw [conditionPieces] at h
  cases hcondition : link.condition? with
  | none => simp [hcondition] at h
  | some condition =>
    simp only [hcondition, Option.map_some, Option.getD_some] at h
    rcases List.mem_cons.1 h with rfl | hmem
    · decide +kernel
    · rw [List.mem_singleton.1 hmem]
      exact link.quiet condition hcondition

/-! ## Reading a chain -/

theorem WrittenAlias.isAlias_name (written : WrittenAlias) : isAlias written.name = true := by
  simp [isAlias, written.plain.1, written.free]

/-- An alias is not read as the keyword `AS`. -/
theorem WrittenAlias.map_foldLetter_name_ne (written : WrittenAlias) :
    written.name.toList.map foldLetter ≠ "AS".toList.map foldLetter := by
  intro h
  have hkeyword : IsPlainWord "AS" := by decide
  have hsame := (map_foldLetter_eq_iff hkeyword written.plain).1 h.symm
  exact List.any_eq_false.1 written.free "AS" (by decide) hsame

/-- **What follows the name of a table is read as the alias it has.**  A keyword there is read as
one too, but refused. -/
theorem best?_aliasPieces (table : WrittenTable) {after : List String}
    (hafter : BeginsWithKeyword after) :
    ∃ word rest, IsName isWordChar word ∧
      (if isAlias (String.ofList word) then String.ofList word else table.name) = table.calledBy ∧
      ∀ last groups, ∃ last',
        aliasPattern.best? ⟨last, spaced (table.aliasPieces ++ after) ++ [' '], groups⟩ =
          some ⟨last', rest, ⟨2, word, rest⟩ :: groups⟩ := by
  cases halias : table.alias? with
  | none =>
    have hkeywords : ∀ keyword ∈ chainKeywords, IsPlainWord keyword ∧ isAlias keyword = false ∧
        keyword.toList.map foldLetter ≠ "AS".toList.map foldLetter := by decide +kernel
    obtain ⟨keyword, hkeyword, more, rfl⟩ := hafter
    obtain ⟨hplain, hrefused, hother⟩ := hkeywords keyword hkeyword
    have hword : IsName isWordChar keyword.toList := ⟨hplain.toList_ne_nil, hplain.isWordChar⟩
    have hpieces : spaced (table.aliasPieces ++ keyword :: more) ++ [' '] =
        ' ' :: (keyword.toList ++ (spaced more ++ [' '])) := by
      simp [WrittenTable.aliasPieces, halias]
    refine ⟨keyword.toList, spaced more ++ [' '], hword, ?_, fun last groups => ?_⟩
    · rw [String.ofList_toList, hrefused, WrittenTable.calledBy, halias]
      rfl
    · rw [hpieces]
      exact best?_aliasPattern hword (endsName_spaced more) hother last groups
  | some written =>
    have hword : IsName isWordChar written.name.toList :=
      ⟨written.plain.toList_ne_nil, written.plain.isWordChar⟩
    refine ⟨written.name.toList, spaced after ++ [' '], hword, ?_, fun last groups => ?_⟩
    · rw [String.ofList_toList, if_pos written.isAlias_name, WrittenTable.calledBy, halias]
      rfl
    · have hpieces : spaced (table.aliasPieces ++ after) ++ [' '] =
          spaced written.pieces ++ (spaced after ++ [' ']) := by
        simp [WrittenTable.aliasPieces, halias]
      rw [hpieces, WrittenAlias.pieces]
      split
      · have hread := best?_aliasPattern_as hword (endsName_spaced after) last groups
        simpa using hread
      · have hread := best?_aliasPattern hword (endsName_spaced after)
          written.map_foldLetter_name_ne last groups
        simpa using hread

/-- **A table of a chain is found with its alias, and the search goes on after its name.** -/
theorem findFrom_table {keyword : String} (hkeyword : keyword ∈ referenceKeywords)
    (table : WrittenTable) {after : List String} (hafter : BeginsWithKeyword after) :
    ∃ last, findFrom (some ' ') (keyword.toList ++ spaced (table.pieces ++ after) ++ [' ']) =
      ⟨table.name, table.calledBy⟩ ::
        findFrom last (spaced (table.aliasPieces ++ after) ++ [' ']) := by
  obtain ⟨word, rest, hword, hcalled, halias⟩ := best?_aliasPieces table hafter
  have hnames : ∀ name ∈ table.path, IsName isPathChar name.toList ∧
      Spells name.toList name.toList := by
    intro name hname
    have hplain := table.plain name hname
    refine ⟨⟨hplain.toList_ne_nil, fun c hc => ?_⟩, .plain⟩
    exact Bool.or_eq_true_iff.2 (.inl (hplain.isWordChar c hc))
  have hnext : EndsPath (spaced (table.aliasPieces ++ after) ++ [' ']) := by
    obtain ⟨rest, hrest⟩ := exists_spaced_append (table.aliasPieces ++ after) []
    rw [hrest]
    exact endsPath_blank rest
  obtain ⟨last, hfound⟩ := findFrom_reference hkeyword (by decide : (some ' ').any isWordChar = false)
    table.nonempty table.short hnames hnext hword halias
  have htext : keyword.toList ++ spaced (table.pieces ++ after) ++ [' '] =
      keyword.toList ++ ' ' :: (['.'].intercalate (table.path.map String.toList) ++
        (spaced (table.aliasPieces ++ after) ++ [' '])) := by
    simp [WrittenTable.pieces, WrittenTable.name, toList_joinDots]
  refine ⟨last, ?_⟩
  rw [htext, hfound, ← hcalled]
  rfl

/-- **The joined tables of a chain are found one after the other**, whatever quiet pieces stand
before the first of them. -/
theorem findFrom_tail (joined : List JoinedTable) {pieces : List String}
    (quiet : ∀ piece ∈ pieces, IsQuiet piece) (last : Option Char) :
    findFrom last (spaced (pieces ++ JoinChain.tail joined) ++ [' ']) =
      joined.map fun link => ⟨link.table.name, link.table.calledBy⟩ := by
  -- the alias and the condition of a table are the quiet pieces before the next one
  induction joined generalizing pieces last with
  | nil =>
    have hwhere : ∀ piece ∈ pieces ++ ["WHERE"], IsQuiet piece := by
      intro piece hpiece
      rcases List.mem_append.1 hpiece with hmem | hmem
      · exact quiet piece hmem
      · rw [List.mem_singleton.1 hmem]
        decide +kernel
    exact (findFrom_spaced hwhere last []).trans (findFrom_nil _)
  | cons link joined ih =>
    have hbefore : ∀ piece ∈ pieces ++ link.lead, IsQuiet piece := fun piece hpiece =>
      (List.mem_append.1 hpiece).elim (quiet piece) JoinedTable.isQuiet_of_mem_lead
    have hbetween : ∀ piece ∈ link.table.aliasPieces ++ link.conditionPieces, IsQuiet piece :=
      fun piece hpiece => (List.mem_append.1 hpiece).elim
        WrittenTable.isQuiet_of_mem_aliasPieces JoinedTable.isQuiet_of_mem_conditionPieces
    have htext : spaced (pieces ++ JoinChain.tail (link :: joined)) ++ [' '] =
        spaced (pieces ++ link.lead) ++ ' ' :: ("JOIN".toList ++
          spaced (link.table.pieces ++ (link.conditionPieces ++ JoinChain.tail joined)) ++ [' ']) := by
      simp [JoinChain.tail, JoinedTable.pieces]
    obtain ⟨last', hfound⟩ := findFrom_table (by decide : "JOIN" ∈ referenceKeywords) link.table
      (beginsWithKeyword_condition link joined)
    rw [htext, findFrom_spaced hbefore, hfound, ← List.append_assoc, ih hbetween]
    rfl

namespace JoinChain

theorem toList_text (chain : JoinChain) :
    chain.text.toList = "SELECT * ".toList ++ ("FROM".toList ++
      spaced (chain.first.pieces ++ tail chain.joined) ++ [' ']) :=
  String.toList_ofList.trans (List.append_assoc _ _ _)

/-- The tables of a chain are the table references in its text. -/
theorem findAll_text (chain : JoinChain) :
    findAll chain.text.toList = chain.tables.map fun table => ⟨table.name, table.calledBy⟩ := by
  obtain ⟨last, hfound⟩ := findFrom_table (by decide : "FROM" ∈ referenceKeywords) chain.first
    (beginsWithKeyword_tail chain.joined)
  have hquiet : ∀ piece ∈ chain.first.aliasPieces, IsQuiet piece :=
    fun _ => WrittenTable.isQuiet_of_mem_aliasPieces
  rw [toList_text, findAll_select, hfound, findFrom_tail chain.joined hquiet, tables, List.map_cons,
    List.map_map]
  rfl

/-- **A chain of joins is read back.**  At its end the tables in scope are those of the chain in the
order in which they first appear, and every name stands for the last table that goes by it. -/
theorem parse_text (chain : JoinChain) {cursor : Position}
    (atEnd : preceding chain.text.toList cursor = chain.text.toList) :
    (QueryContext.parse chain.text cursor).tables =
        (chain.tables.map WrittenTable.name).eraseDups ∧
      ∀ name, (QueryContext.parse chain.text cursor).aliases.find? name =
        (chain.tables.reverse.find? fun table => table.calledBy = name).map WrittenTable.name := by
  have htables : (QueryContext.parse chain.text cursor).tables =
      ((findAll chain.text.toList).map (·.path)).eraseDups := by
    rw [QueryContext.parse_tables, atEnd]
  have haliases : (QueryContext.parse chain.text cursor).aliases =
      Dictionary.ofList ((findAll chain.text.toList).map fun r => (r.aliasName, r.path)) := by
    rw [QueryContext.parse_aliases, atEnd]
  rw [htables, haliases, findAll_text, List.map_map, List.map_map]
  exact ⟨rfl, Dictionary.find?_ofList_map _ _ chain.tables⟩

/-- Tables of three paths: one with an alias after `AS`, one without an alias and with a condition,
and one with the alias of the first. -/
def ordersOfUsers : JoinChain where
  first :=
    { path := ["shop", "users"]
      alias? := some ⟨"u", true, by decide, by decide⟩
      nonempty := by decide
      short := by decide
      plain := by decide }
  joined := [
    { kind? := some "LEFT"
      outer := true
      table :=
        { path := ["orders"], alias? := none, nonempty := by decide, short := by decide
          plain := by decide }
      condition? := some "orders.user_id = u.id"
      known := by decide
      quiet := by decide +kernel },
    { kind? := none
      outer := false
      table :=
        { path := ["archive", "users"]
          alias? := some ⟨"u", false, by decide, by decide⟩
          nonempty := by decide
          short := by decide
          plain := by decide }
      condition? := none
      known := by decide
      quiet := by decide }]

/-- Of two tables that go by the same name in a chain, the name stands for the last one. -/
theorem parse_text_ordersOfUsers :
    ordersOfUsers.text = "SELECT * FROM shop.users AS u LEFT OUTER JOIN orders " ++
      "ON orders.user_id = u.id JOIN archive.users u WHERE " ∧
    preceding ordersOfUsers.text.toList (endPosition ordersOfUsers.text) =
      ordersOfUsers.text.toList ∧
    (QueryContext.parse ordersOfUsers.text (endPosition ordersOfUsers.text)).tables =
      ["shop.users", "orders", "archive.users"] ∧
    (QueryContext.parse ordersOfUsers.text (endPosition ordersOfUsers.text)).aliases.find? "u" =
      some "archive.users" := by
  have atEnd : preceding ordersOfUsers.text.toList (endPosition ordersOfUsers.text) =
      ordersOfUsers.text.toList := by decide +kernel
  obtain ⟨htables, haliases⟩ := parse_text ordersOfUsers atEnd
  have hnames : (ordersOfUsers.tables.map WrittenTable.name).eraseDups =
      ["shop.users", "orders", "archive.users"] := by decide +kernel
  have hlast : ((ordersOfUsers.tables.reverse.find? fun table => table.calledBy = "u").map
      WrittenTable.name) = some "archive.users" := by decide +kernel
  exact ⟨by decide +kernel, atEnd, htables.trans hnames, (haliases "u").trans hlast⟩

/-- **A condition may not have `join` in lower case either.**  None of the words of the condition is
`FROM` or `JOIN` as written, yet what comes after `join` is read as a table. -/
theorem parse_join_lowerCase :
    (∀ word ∈ words "a.id = b.id join c".toList, String.ofList word ∉ referenceKeywords) ∧
    preceding "SELECT * FROM a JOIN b ON a.id = b.id join c WHERE ".toList
        (endPosition "SELECT * FROM a JOIN b ON a.id = b.id join c WHERE ") =
      "SELECT * FROM a JOIN b ON a.id = b.id join c WHERE ".toList ∧
    (QueryContext.parse "SELECT * FROM a JOIN b ON a.id = b.id join c WHERE "
        (endPosition "SELECT * FROM a JOIN b ON a.id = b.id join c WHERE ")).tables =
      ["a", "b", "c"] := by
  decide +kernel

end JoinChain

end QueryAssist
