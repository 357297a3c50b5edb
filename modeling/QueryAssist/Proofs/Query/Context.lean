import QueryAssist.Proofs.Text.Position
import QueryAssist.Query.Context

/-!
# What a context is read from

A text is cut at the offset of the cursor, and a context is read from the two parts.

* `parse_eq` — a context in terms of the text before the cursor, and of what follows for the current
  word; the lemmas after it tell each part of a context by itself.
-/

namespace QueryAssist

open Text

namespace QueryContext

variable (text : String) (cursor : Position)

/-- **A context is read from the text before the cursor**, and its word from both sides of it. -/
theorem parse_eq :
    parse text cursor =
      let before := preceding text.toList cursor
      let references := TableReference.findAll before
      let word := currentWordAt before (text.toList.drop before.length) cursor
      { kind := if insideOpenCall before then .function else (clauseContext before).1
        clause := (clauseContext before).2
        aliases := Dictionary.ofList (references.map fun r => (r.aliasName, r.path))
        tables := (references.map (·.path)).eraseDups
        cursor
        precedingText := String.ofList before
        currentWord := word.text
        wordSpan := word.span } := by
  simp only [parse, currentWordAtOffset, splitAtByte_offsetAt]

/-- An open call goes before the clause. -/
theorem parse_kind :
    (parse text cursor).kind =
      if insideOpenCall (preceding text.toList cursor) then .function
      else (clauseContext (preceding text.toList cursor)).1 := by
  rw [parse_eq]

theorem parse_clause :
    (parse text cursor).clause = (clauseContext (preceding text.toList cursor)).2 := by
  rw [parse_eq]

theorem parse_aliases :
    (parse text cursor).aliases =
      Dictionary.ofList ((TableReference.findAll (preceding text.toList cursor)).map
        fun r => (r.aliasName, r.path)) := by
  rw [parse_eq]

theorem parse_tables :
    (parse text cursor).tables =
      ((TableReference.findAll (preceding text.toList cursor)).map (·.path)).eraseDups := by
  rw [parse_eq]

theorem parse_precedingText :
    (parse text cursor).precedingText = String.ofList (preceding text.toList cursor) := by
  rw [parse_eq]

theorem parse_currentWord :
    (parse text cursor).currentWord =
      (currentWordAt (preceding text.toList cursor)
        (text.toList.drop (preceding text.toList cursor).length) cursor).text := by
  rw [parse_eq]

theorem parse_wordSpan :
    (parse text cursor).wordSpan =
      (currentWordAt (preceding text.toList cursor)
        (text.toList.drop (preceding text.toList cursor).length) cursor).span := by
  rw [parse_eq]

end QueryContext

end QueryAssist
