import QueryAssist.Proofs.Query.ClauseContext
import QueryAssist.Proofs.Text.Dictionary
import QueryAssist.Proofs.Text.LetterCase
import QueryAssist.Proofs.Text.PatternImage
import QueryAssist.Proofs.Text.Position
import QueryAssist.Proofs.Text.Quotes

/-!
# Queries in capitals and small letters

No pattern, table of characters or list of keywords tells a capital ASCII letter from its small one.
So what is read off a text in lower case is what is read off the text, with its names in lower case.

* `ignores_keyword`, `ignores_pattern` — the patterns of clause keywords and of table references.
* `clauseContext_map_toLower` — the clause, its label and what it asks for stay the same.
* `findAll_map_toLower` — the table references are the same but for the case of their names.
* `AgreesButForCase`, `parse_agrees` — **texts that are equal but for the case of ASCII letters have
  the same context, the case of table names and aliases aside.**
-/

namespace QueryAssist

open Text Query

/-! ## Classes of characters -/

theorem isBlank_toLower (c : Char) : isBlank c.toLower = isBlank c :=
  toLower_eq_of_capitals (by decide) c

theorem isWordChar_toLower (c : Char) : isWordChar c.toLower = isWordChar c :=
  toLower_eq_of_capitals (by decide) c

theorem isQuote_toLower (c : Char) : isQuote c.toLower = isQuote c :=
  toLower_eq_of_capitals (by decide) c

theorem isNameChar_toLower (c : Char) : isNameChar c.toLower = isNameChar c :=
  toLower_eq_of_capitals (by decide) c

theorem foldLetter_toLower (c : Char) : foldLetter c.toLower = foldLetter c :=
  toLower_eq_of_capitals (by decide) c

/-! ## Patterns -/

theorem ignores_spelled (word : String) : (spelled word).Ignores Char.toLower := by
  refine Pattern.ignores_all fun p hp => ?_
  obtain ⟨l, -, rfl⟩ := List.mem_map.1 hp
  intro c
  rw [letter, letter, foldLetter_toLower]

theorem ignores_anyOf_spelled (words : List String) :
    (Pattern.anyOf (words.map spelled)).Ignores Char.toLower := by
  refine Pattern.ignores_anyOf fun p hp => ?_
  obtain ⟨word, -, rfl⟩ := List.mem_map.1 hp
  exact ignores_spelled word

theorem ignores_blanks : blanks.Ignores Char.toLower :=
  isBlank_toLower

theorem ignores_wordEdge : wordEdge.Ignores Char.toLower :=
  isWordChar_toLower

theorem ignores_loneWord (word : String) : (loneWord word).Ignores Char.toLower :=
  ⟨ignores_wordEdge, ignores_spelled word, ignores_wordEdge, trivial⟩

namespace Clause

theorem ignores_joinKeyword : joinKeyword.Ignores Char.toLower := by
  have hkind : (Pattern.all [.anyOf (joinKinds.map spelled), blanks]).Ignores Char.toLower :=
    ⟨ignores_anyOf_spelled joinKinds, ignores_blanks, trivial⟩
  have houter : (Pattern.all [spelled "OUTER", blanks]).Ignores Char.toLower :=
    ⟨ignores_spelled "OUTER", ignores_blanks, trivial⟩
  exact ⟨Pattern.ignores_maybe hkind, Pattern.ignores_maybe houter, ignores_spelled "JOIN", trivial⟩

/-- **A clause keyword is read in either case.** -/
theorem ignores_keyword : keyword.Ignores Char.toLower := by
  have hphrase (first second : String) :
      (Pattern.all [spelled first, blanks, spelled second]).Ignores Char.toLower :=
    ⟨ignores_spelled first, ignores_blanks, ignores_spelled second, trivial⟩
  refine ⟨ignores_wordEdge, Pattern.ignores_anyOf ?_, ignores_wordEdge, trivial⟩
  simp [ignores_spelled, hphrase, ignores_joinKeyword]

end Clause

namespace TableReference

theorem ignores_name {cls : Char → Bool} (h : ∀ c, cls c.toLower = cls c) :
    (name cls).Ignores Char.toLower := by
  have hopening (c : Char) : isOpeningQuote c.toLower = isOpeningQuote c :=
    toLower_eq_of_capitals (by decide) c
  have hclosing (c : Char) : isClosingQuote c.toLower = isClosingQuote c :=
    toLower_eq_of_capitals (by decide) c
  exact ⟨⟨hopening, trivial⟩, h, ⟨hclosing, trivial⟩, trivial⟩

theorem ignores_pathPattern : pathPattern.Ignores Char.toLower := by
  have hpath (c : Char) : isPathChar c.toLower = isPathChar c :=
    toLower_eq_of_capitals (by decide) c
  have hqualifier : qualifier.Ignores Char.toLower := ⟨ignores_name hpath, toLower_beq (by decide)⟩
  exact ⟨⟨⟨hqualifier, hqualifier, trivial⟩, trivial⟩, ignores_name hpath⟩

/-- **A table reference is read in either case.** -/
theorem ignores_pattern : pattern.Ignores Char.toLower := by
  have halias : (Pattern.all [
      blanks,
      .maybe (.all [spelled "AS", blanks]),
      .group 2 (name isWordChar)]).Ignores Char.toLower :=
    ⟨ignores_blanks, ⟨⟨ignores_spelled "AS", ignores_blanks, trivial⟩, trivial⟩,
      ignores_name isWordChar_toLower, trivial⟩
  exact ⟨ignores_wordEdge, ignores_anyOf_spelled ["FROM", "JOIN"], ignores_blanks,
    ignores_pathPattern, Pattern.ignores_maybe halias, trivial⟩

end TableReference

/-! ## The text before the cursor -/

theorem preceding_map_toLower (text : List Char) (cursor : Position) :
    preceding (text.map Char.toLower) cursor = (preceding text cursor).map Char.toLower :=
  precedingFrom_map (toLower_eq_iff (by decide)) _ _ text

theorem takeWhile_map_toLower {p : Char → Bool} (h : ∀ c, p c.toLower = p c) (cs : List Char) :
    (cs.map Char.toLower).takeWhile p = (cs.takeWhile p).map Char.toLower := by
  rw [List.takeWhile_map]
  congr 2
  funext c
  exact h c

theorem count_map_toLower {d : Char} (h : d.isAlpha = false) (cs : List Char) :
    (cs.map Char.toLower).count d = cs.count d := by
  rw [List.count_eq_countP, List.count_eq_countP, List.countP_map]
  congr 1
  funext c
  exact toLower_beq h c

theorem insideOpenCall_map_toLower (before : List Char) :
    insideOpenCall (before.map Char.toLower) = insideOpenCall before := by
  have htoken : lastToken (before.map Char.toLower) = (lastToken before).map Char.toLower := by
    rw [lastToken, lastToken, ← List.map_reverse]
    exact takeWhile_map_toLower (fun c => by rw [isBlank_toLower]) before.reverse
  rw [insideOpenCall, insideOpenCall, htoken, count_map_toLower (by decide),
    count_map_toLower (by decide)]

/-- The word at the cursor is as long. -/
theorem span_currentWordAt_map_toLower (before after : List Char) (cursor : Position) :
    (currentWordAt (before.map Char.toLower) (after.map Char.toLower) cursor).span =
      (currentWordAt before after cursor).span := by
  have hleft : nameEnd (before.map Char.toLower) = (nameEnd before).map Char.toLower := by
    rw [nameEnd, nameEnd, ← List.map_reverse, takeWhile_map_toLower isNameChar_toLower,
      List.map_reverse]
  have hright : nameStart (after.map Char.toLower) = (nameStart after).map Char.toLower :=
    takeWhile_map_toLower isNameChar_toLower after
  simp only [currentWordAt, hleft, hright, charCount, List.length_map]

/-! ## The clause -/

namespace Clause

theorem lastKeyword?_map_toLower (before : List Char) :
    lastKeyword? (before.map Char.toLower) =
      (lastKeyword? before).map (Match.map Char.toLower) := by
  rw [lastKeyword?, lastKeyword?, Pattern.findAll_map ignores_keyword, List.getLast?_map]

/-- A label is in upper case, however the keyword is written. -/
theorem label_map_toLower (written : List Char) :
    label (written.map Char.toLower) = label written := by
  have hupper (word : List Char) :
      asciiUpper (String.ofList (word.map Char.toLower)) = asciiUpper (String.ofList word) := by
    simp only [asciiUpper, String.toList_ofList, List.map_map, Function.comp_def, toUpper_toLower]
  rw [label, label, fieldsL_map isBlank_toLower, List.map_map]
  simp only [Function.comp_def, hupper]

theorem contextKind_map_toLower (clause : Clause) (following before : List Char) :
    clause.contextKind (following.map Char.toLower) (before.map Char.toLower) =
      clause.contextKind following before := by
  have hblank : isAllBlank (following.map Char.toLower) = isAllBlank following := by
    simp [isAllBlank, Function.comp_def, isBlank_toLower]
  have hlast : (before.map Char.toLower).getLast?.any isBlank = before.getLast?.any isBlank := by
    cases hb : before.getLast? <;> simp [hb, isBlank_toLower]
  have hword (word : String) (cs : List Char) :
      (loneWord word).occursIn (cs.map Char.toLower) = (loneWord word).occursIn cs :=
    Pattern.occursIn_map (ignores_loneWord word) cs
  cases clause with
  | select => rw [contextKind, contextKind, hblank, hlast, sourceKeyword, hword]
  | join => rw [contextKind, contextKind, joinConditionKeyword, hword]
  | source | filter | having | joinCondition | grouping | ordering => rfl

end Clause

/-- **The clause of a text, its label and what it asks for are those of the text in lower case.** -/
theorem clauseContext_map_toLower (before : List Char) :
    clauseContext (before.map Char.toLower) = clauseContext before := by
  rw [clauseContext, clauseContext, Clause.lastKeyword?_map_toLower]
  cases Clause.lastKeyword? before with
  | none => rfl
  | some found =>
    simp only [Option.map_some, Match.map, Clause.label_map_toLower,
      Clause.contextKind_map_toLower]

/-! ## Table references -/

namespace TableReference

/-- A table reference with its names in lower case. -/
def lower (r : TableReference) : TableReference :=
  ⟨asciiLower r.path, asciiLower r.aliasName⟩

theorem asciiLower_eq_empty_iff {name : String} : asciiLower name = "" ↔ name = "" := by
  simp [asciiLower]

/-- The keywords that are no alias are none in either case. -/
theorem isAlias_asciiLower (name : String) : isAlias (asciiLower name) = isAlias name := by
  have hidem : asciiLower (asciiLower name) = asciiLower name := by
    simp only [asciiLower, String.toList_ofList, List.map_map, Function.comp_def, toLower_toLower]
  have hkeyword (keyword : String) :
      equalIgnoringAsciiCase keyword (asciiLower name) = equalIgnoringAsciiCase keyword name := by
    rw [equalIgnoringAsciiCase, equalIgnoringAsciiCase, hidem]
  have hempty : decide (asciiLower name ≠ "") = decide (name ≠ "") :=
    decide_eq_decide.2 (not_congr asciiLower_eq_empty_iff)
  rw [isAlias, isAlias, hempty]
  simp only [hkeyword]

theorem ofMatch?_map_toLower (m : Match) :
    ofMatch? (m.map Char.toLower) = (ofMatch? m).map lower := by
  have hread (found : Group) :
      String.ofList (unquoteL (found.map Char.toLower).text) =
        asciiLower (String.ofList (unquoteL found.text)) := by
    rw [Group.map, unquoteL_map isBlank_toLower isQuote_toLower, asciiLower, String.toList_ofList]
  unfold ofMatch?
  rw [Match.group?_map, Match.group?_map]
  cases m.group? 1 with
  | none => rfl
  | some path =>
    simp only [Option.map_some, Option.bind_eq_bind, Option.bind_some, hread,
      asciiLower_eq_empty_iff]
    generalize String.ofList (unquoteL path.text) = path
    by_cases hpath : path = ""
    · rw [if_pos hpath, if_pos hpath]
      rfl
    · rw [if_neg hpath, if_neg hpath]
      cases m.group? 2 with
      | none => rfl
      | some following =>
        simp only [Option.map_some, hread, Option.filter_some, isAlias_asciiLower]
        split <;> rfl

theorem findAll_map_toLower (text : List Char) :
    findAll (text.map Char.toLower) = (findAll text).map lower := by
  have hresume (m : Match) : resume (m.map Char.toLower) = (resume m).map Char.toLower := by
    rw [resume, resume, Match.group?_map]
    cases m.group? 1 <;> rfl
  have hscan := Pattern.scan_map ignores_pattern hresume 0 none text
  rw [Option.map_none] at hscan
  rw [findAll, findAll, hscan, List.filterMap_map, List.map_filterMap]
  congr 1
  funext m
  exact ofMatch?_map_toLower m

end TableReference

/-! ## The context -/

/-- Whether contexts say the same, but for the case of ASCII letters in the names of tables and
aliases. -/
structure AgreesButForCase (a b : QueryContext) : Prop where
  kind : a.kind = b.kind
  clause : a.clause = b.clause
  wordSpan : a.wordSpan = b.wordSpan
  tables : ∀ name, name ∈ a.tables.map asciiLower ↔ name ∈ b.tables.map asciiLower
  aliases : ∀ name, name ∈ a.aliases.keys.map asciiLower ↔ name ∈ b.aliases.keys.map asciiLower

namespace QueryContext

/-- The names of the tables in lower case are those of the references in lower case. -/
theorem mem_tables_lower_iff (text : String) (cursor : Position) (name : String) :
    name ∈ (parse text cursor).tables.map asciiLower ↔
      ∃ r ∈ TableReference.findAll ((preceding text.toList cursor).map Char.toLower),
        r.path = name := by
  simp [parse_tables, TableReference.findAll_map_toLower, TableReference.lower]

/-- The aliases in lower case are those of the references in lower case. -/
theorem mem_aliases_lower_iff (text : String) (cursor : Position) (name : String) :
    name ∈ (parse text cursor).aliases.keys.map asciiLower ↔
      ∃ r ∈ TableReference.findAll ((preceding text.toList cursor).map Char.toLower),
        r.aliasName = name := by
  simp [parse_aliases, TableReference.findAll_map_toLower, TableReference.lower,
    Dictionary.mem_keys_ofList]

/-- **Texts that are equal but for the case of ASCII letters have the same context**, wherever the
cursor stands: what is expected, the clause and the place of the word are the same, and so are the
tables and their aliases in lower case. -/
theorem parse_agrees {first second : String} (h : equalIgnoringAsciiCase first second = true)
    (cursor : Position) : AgreesButForCase (parse first cursor) (parse second cursor) := by
  have hlower := equalIgnoringAsciiCase_iff.1 h
  have hbefore : (preceding first.toList cursor).map Char.toLower =
      (preceding second.toList cursor).map Char.toLower := by
    rw [← preceding_map_toLower, hlower, preceding_map_toLower]
  constructor
  case kind =>
    rw [parse_kind, parse_kind, ← insideOpenCall_map_toLower, ← clauseContext_map_toLower, hbefore,
      insideOpenCall_map_toLower, clauseContext_map_toLower]
  case clause =>
    rw [parse_clause, parse_clause, ← clauseContext_map_toLower, hbefore, clauseContext_map_toLower]
  case wordSpan =>
    have hlength : (preceding first.toList cursor).length =
        (preceding second.toList cursor).length := by
      simpa using congrArg List.length hbefore
    have hafter : (first.toList.drop (preceding first.toList cursor).length).map Char.toLower =
        (second.toList.drop (preceding second.toList cursor).length).map Char.toLower := by
      rw [List.map_drop, List.map_drop, hlower, hlength]
    rw [parse_wordSpan, parse_wordSpan, ← span_currentWordAt_map_toLower, hbefore, hafter, span_currentWordAt_map_toLower]
  case tables =>
    intro name
    rw [mem_tables_lower_iff, mem_tables_lower_iff, hbefore]
  case aliases =>
    intro name
    rw [mem_aliases_lower_iff, mem_aliases_lower_iff, hbefore]

/-- A query with its keywords in capitals and in small letters. -/
theorem parse_agrees_users :
    let first := "SELECT * FROM Users U WHERE u.Na"
    let second := "select * from users u where U.NA"
    equalIgnoringAsciiCase first second = true ∧
      AgreesButForCase (parse first (endPosition first)) (parse second (endPosition first)) := by
  intro first second
  have hsame : equalIgnoringAsciiCase first second = true := by decide +kernel
  exact ⟨hsame, parse_agrees hsame (endPosition first)⟩

/-- A table that is written in two ways is listed twice. -/
example :
    let text := "FROM users JOIN Users"
    (parse text (endPosition text)).tables = ["users", "Users"] := by
  decide +kernel

end QueryContext

end QueryAssist
