import QueryAssist.Proofs.Query.ClauseKeyword
import QueryAssist.Proofs.Query.OpenCall

/-!
# Typing the name of a table

After `FROM` a table is expected while its name is being typed, letter by letter.  The last clause
keyword before the cursor decides, and what has been typed may be one.

* `lastKeyword?_typedTable` — the last keyword is the word behind `FROM` if that is one, or else
  `FROM`.
* `exists_clause_of_loneKeyword` — what is expected right behind a keyword of one word.
* `kind_typedTable_iff` — **a table is expected if and only if the word is none of the keywords that
  ask for something else**.
* `kind_typedTable_on` — behind `on` a condition is expected.
-/

namespace QueryAssist

open Text Query

/-! ## Calls -/

/-- No call is open behind a word without parentheses. -/
theorem insideOpenCall_append_word {front word : List Char} {b : Char} (hb : isBlank b = true)
    (inside : ∀ c ∈ word, isBlank c = false) (closed : '(' ∉ word) :
    insideOpenCall (front ++ b :: word) = false := by
  have hnone : word.reverse.count '(' = 0 :=
    List.count_eq_zero_of_not_mem fun h => closed (List.mem_reverse.1 h)
  rw [insideOpenCall, lastToken_append_cons front hb inside, hnone]
  simp

namespace Clause

/-! ## The last keyword -/

/-- `FROM` is read where it stands. -/
theorem matchAt_from {last : Option Char} (before : last.any isWordChar = false) (cs : List Char) :
    keyword.matchAt last ("FROM".toList ++ ' ' :: cs) = some ⟨"FROM".toList, ' ' :: cs, []⟩ := by
  have hstart : wordEdge.best? ⟨last, "FROM".toList ++ ' ' :: cs, []⟩ =
      some ⟨last, "FROM".toList ++ ' ' :: cs, []⟩ :=
    best?_wordEdge before (by decide) _ []
  have hword : (spelled "FROM").best? ⟨last, "FROM".toList ++ ' ' :: cs, []⟩ =
      some ⟨some 'M', ' ' :: cs, []⟩ := best?_spelled "FROM" last (' ' :: cs) []
  have hend : wordEdge.best? ⟨some 'M', ' ' :: cs, []⟩ = some ⟨some 'M', ' ' :: cs, []⟩ := by
    rw [wordEdge, Pattern.best?_boundary]
    rfl
  have hother : (spelled "SELECT").best? ⟨last, "FROM".toList ++ ' ' :: cs, []⟩ = none := rfl
  have hbest : keyword.best? ⟨last, "FROM".toList ++ ' ' :: cs, []⟩ =
      some ⟨some 'M', ' ' :: cs, []⟩ := by
    refine Pattern.best?_seq hstart (Pattern.best?_seq ?_ (Pattern.best?_seq hend rfl))
    refine (Pattern.best?_either (spelled "SELECT") _ _).trans ?_
    rw [hother, Option.none_or]
    exact Pattern.best?_either_of_some hword
  rw [Pattern.matchAt_eq_best?, hbest]
  simp

/-- **The last keyword is the word behind `FROM` if that is one, or else `FROM`**, whatever stands
in front. -/
theorem lastKeyword?_typedTable {front word : List Char}
    (hfront : front.getLast?.all isBlank = true) (nonempty : word ≠ [])
    (inside : ∀ c ∈ word, isWordChar c = true) :
    lastKeyword? (front ++ ("FROM".toList ++ ' ' :: word)) =
      (keyword.matchAt (some ' ') word).or (some ⟨"FROM".toList, ' ' :: word, []⟩) := by
  have hlater : ∀ words ∈ phrases, ∀ later ∈ words.tail,
      (later.toList.map foldLetter).head? ≠ some (foldLetter 'F') := by decide +kernel
  have hedge : front.getLast?.any isWordChar = false := by
    cases hlast : front.getLast? with
    | none => rfl
    | some b =>
      rw [hlast] at hfront
      exact isWordChar_eq_false_of_isBlank hfront
  have hblank : keyword.matchAt (some 'M') (' ' :: word) = none := matchAt_eq_none (.inr rfl)
  have hscan : keyword.scan Match.after 0 front.getLast? ("FROM".toList ++ ' ' :: word) =
      ⟨"FROM".toList, ' ' :: word, []⟩ :: (keyword.matchAt (some ' ') word).toList := by
    have hfrom : keyword.matchAt front.getLast? ('F' :: ("ROM".toList ++ ' ' :: word)) =
        some ⟨"FROM".toList, ' ' :: word, []⟩ := matchAt_from hedge word
    rw [← scan_word nonempty inside, ← Pattern.scan_pass hblank]
    exact Pattern.scan_match hfrom rfl
  obtain ⟨found, hfound⟩ :=
    exists_findAll_append hfront (by decide) hlater ("ROM".toList ++ ' ' :: word)
  have hall : keyword.findAll (front ++ ("FROM".toList ++ ' ' :: word)) =
      found ++ ⟨"FROM".toList, ' ' :: word, []⟩ :: (keyword.matchAt (some ' ') word).toList := by
    rw [← hscan]
    exact hfound
  rw [lastKeyword?, hall]
  cases keyword.matchAt (some ' ') word <;> simp

/-! ## What is expected behind it -/

/-- The keywords of one word that ask for something else than a table. -/
def otherKeywords : List String :=
  ["SELECT", "WHERE", "HAVING", "ON"]

theorem mem_loneKeywords_of_mem_phrases {word : String} (h : [word] ∈ phrases) :
    word ∈ loneKeywords := by
  have hall : ∀ words ∈ phrases, words.length = 1 → ∀ word ∈ words, word ∈ loneKeywords := by
    decide
  exact hall [word] h rfl word (List.mem_singleton_self word)

/-- The label of a keyword of one word is the keyword, however it is written. -/
theorem label_of_loneKeyword {word keyword : String} (plain : IsPlainWord word)
    (hkeyword : keyword ∈ loneKeywords) (h : equalIgnoringAsciiCase keyword word = true) :
    label word.toList = keyword := by
  have hcapitals : ∀ keyword ∈ loneKeywords, keyword.toList.map Char.toUpper = keyword.toList := by
    decide
  have hupper (cs : List Char) : (cs.map Char.toLower).map Char.toUpper = cs.map Char.toUpper := by
    simp only [List.map_map, Function.comp_def, toUpper_toLower]
  rw [equalIgnoringAsciiCase_iff] at h
  have hletters : word.toList.map Char.toUpper = keyword.toList := by
    rw [← hupper, ← h, hupper, hcapitals keyword hkeyword]
  rw [label, fieldsL_eq_singleton plain.toList_ne_nil plain.isBlank_eq_false]
  simp [asciiUpper, hletters]

/-- A keyword of one word opens a clause, and right behind it a table is expected if the keyword is
none of the others. -/
theorem exists_clause_of_loneKeyword {keyword : String} (h : keyword ∈ loneKeywords)
    (before : List Char) :
    ∃ clause, ofLabel? keyword = some clause ∧
      (clause.contextKind [] before = .source ↔ keyword ∉ otherKeywords) := by
  simp only [loneKeywords, List.mem_cons, List.not_mem_nil, or_false] at h
  rcases h with rfl | rfl | rfl | rfl | rfl | rfl
  · exact ⟨.select, rfl, iff_of_false (by simp [contextKind, isAllBlank]) (by decide)⟩
  · exact ⟨.source, rfl, iff_of_true rfl (by decide)⟩
  · exact ⟨.filter, rfl, iff_of_false (by simp [contextKind]) (by decide)⟩
  · exact ⟨.having, rfl, iff_of_false (by simp [contextKind]) (by decide)⟩
  · exact ⟨.joinCondition, rfl, iff_of_false (by simp [contextKind]) (by decide)⟩
  · exact ⟨.join, rfl, iff_of_true rfl (by decide)⟩

/-- Behind `FROM` a table is expected while a word is typed that is none of the other keywords. -/
theorem clauseContext_typedTable_iff {front : List Char} {word : String}
    (hfront : front.getLast?.all isBlank = true) (plain : IsPlainWord word) :
    (clauseContext (front ++ ("FROM".toList ++ ' ' :: word.toList))).1 = .source ↔
      ∀ keyword ∈ otherKeywords, equalIgnoringAsciiCase keyword word = false := by
  have hplain : ∀ keyword ∈ loneKeywords, IsPlainWord keyword := by decide
  have hlone : ∀ keyword ∈ otherKeywords, keyword ∈ loneKeywords := by decide
  rw [clauseContext, lastKeyword?_typedTable hfront plain.toList_ne_nil plain.isWordChar]
  cases hm : keyword.matchAt (some ' ') word.toList with
  | none =>
    refine iff_of_true rfl fun other hother => ?_
    rw [← Bool.not_eq_true]
    intro hsame
    have hletters := (map_foldLetter_eq_iff (hplain other (hlone other hother)) plain).2 hsame
    obtain ⟨m, hmatch⟩ := exists_matchAt_word (hlone other hother) hletters.symm
      (by decide : (some ' ').any isWordChar = false)
    exact nomatch hm.symm.trans hmatch
  | some m =>
    obtain ⟨htext, hafter, keyword, hphrase, hletters⟩ := matchAt_word plain.isWordChar hm
    have hkeyword := mem_loneKeywords_of_mem_phrases hphrase
    have hsame := (map_foldLetter_eq_iff (hplain keyword hkeyword) plain).1 hletters.symm
    have hlabel := label_of_loneKeyword plain hkeyword hsame
    obtain ⟨clause, hclause, hkind⟩ := exists_clause_of_loneKeyword hkeyword
      (front ++ ("FROM".toList ++ ' ' :: word.toList))
    simp only [Option.some_or, htext, hafter, hlabel, hclause]
    rw [hkind]
    constructor
    · -- the word is one keyword only
      intro hnone other hother
      rw [← Bool.not_eq_true]
      intro hequal
      have hword := label_of_loneKeyword plain (hlone other hother) hequal
      exact hnone (hlabel.symm.trans hword ▸ hother)
    · intro hnone hother
      exact nomatch hsame.symm.trans (hnone keyword hother)

end Clause

namespace QueryContext

/-- **While a word is typed behind `FROM`, a table is expected if and only if the word is none of
`SELECT`, `WHERE`, `HAVING` and `ON`**, in either case. -/
theorem kind_typedTable_iff {x p : String} {cursor : Position}
    (hx : x.toList.getLast?.all isBlank = true) (hp : IsPlainWord p)
    (atEnd : preceding (x ++ "FROM " ++ p).toList cursor = (x ++ "FROM " ++ p).toList) :
    (parse (x ++ "FROM " ++ p) cursor).kind = .source ↔
      ∀ keyword ∈ ["SELECT", "WHERE", "HAVING", "ON"], equalIgnoringAsciiCase keyword p = false := by
  have htext : (x ++ "FROM " ++ p).toList = x.toList ++ ("FROM".toList ++ ' ' :: p.toList) := by
    rw [String.toList_append, String.toList_append, List.append_assoc]
    rfl
  have hcall : insideOpenCall (x.toList ++ ("FROM".toList ++ ' ' :: p.toList)) = false := by
    rw [← List.append_assoc]
    refine insideOpenCall_append_word (by decide) hp.isBlank_eq_false fun hparen => ?_
    exact absurd (hp.2 _ hparen) (by decide)
  rw [htext] at atEnd
  have hkind : (parse (x ++ "FROM " ++ p) cursor).kind =
      (clauseContext (x.toList ++ ("FROM".toList ++ ' ' :: p.toList))).1 := by
    rw [parse_kind, htext, atEnd, hcall]
    rfl
  rw [hkind]
  exact Clause.clauseContext_typedTable_iff hx hp

/-- The name of a table after its first two letters. -/
theorem kind_typedTable_us :
    let text := "SELECT * " ++ "FROM " ++ "us"
    preceding text.toList (endPosition text) = text.toList ∧
      (parse text (endPosition text)).kind = .source := by
  intro text
  have atEnd : preceding text.toList (endPosition text) = text.toList := by decide +kernel
  have hx : "SELECT * ".toList.getLast?.all isBlank = true := by decide
  have hp : IsPlainWord "us" := by decide
  exact ⟨atEnd, (kind_typedTable_iff hx hp atEnd).2 (by decide +kernel)⟩

/-- **Behind `on` a condition is expected**, although it may be the beginning of a table's name. -/
theorem kind_typedTable_on :
    let text := "SELECT * " ++ "FROM " ++ "on"
    "SELECT * ".toList.getLast?.all isBlank = true ∧ IsPlainWord "on" ∧
      preceding text.toList (endPosition text) = text.toList ∧
      (parse text (endPosition text)).kind = .condition := by
  decide +kernel

end QueryContext

end QueryAssist
