import QueryAssist.Text.Blank

/-!
# Quote characters

The four characters that quote identifiers in the dialects of SQL, and `unquote`, which reads a
name as written in a query by dropping them.
-/

namespace QueryAssist.Text

/-- The back quote, which quotes identifiers in some dialects. -/
def backQuote : Char := '\x60'

/-- The double quote, which quotes identifiers in the others. -/
def doubleQuote : Char := '\x22'

/-- Whether a character is an identifier quote: back quote, double quote or square bracket. -/
def isQuote (c : Char) : Bool :=
  c == backQuote || c == doubleQuote || c == '[' || c == ']'

/-- The text without surrounding blanks and then without any quote character. -/
def unquoteL (cs : List Char) : List Char :=
  (trimL cs).filter (!isQuote ·)

/-- The text without surrounding blanks and then without any quote character. -/
def unquote (s : String) : String :=
  String.ofList (unquoteL s.toList)

theorem not_isQuote_of_mem_unquoteL {c : Char} {cs : List Char} (h : c ∈ unquoteL cs) :
    isQuote c = false := by
  simpa using (List.mem_filter.1 h).2

end QueryAssist.Text
