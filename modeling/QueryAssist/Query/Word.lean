import QueryAssist.Text.Blank
import QueryAssist.Text.CharClass
import QueryAssist.Text.Position

/-!
# The word at the cursor

What is being typed at a cursor: the run of name characters around it (`currentWordAt`), and
whether a function call has just been opened (`insideOpenCall`).
-/

namespace QueryAssist

open Text

/-! ## The current word -/

/-- Letters, numbers, underscores and dots: the characters of a path being typed. -/
def isNameChar (c : Char) : Bool :=
  isAlphanumeric c || c == '_' || c == '.'

/-- A word and the span of it on the line of the cursor. -/
structure CurrentWord where
  text : String
  span : Span
  deriving DecidableEq, Repr

/-- The name characters at the end of a text. -/
def nameEnd (before : List Char) : List Char :=
  (before.reverse.takeWhile isNameChar).reverse

/-- The name characters at the start of a text. -/
def nameStart (after : List Char) : List Char :=
  after.takeWhile isNameChar

/-- The largest line or column number. -/
def maxIndex : Nat := 4294967295

/-- The length of a part of a word, counted with 32 bits. -/
def charCount (cs : List Char) : Nat :=
  (UInt32.ofNat cs.length).toNat

/-- The word around the cursor that stands between `before` and `after`.  Its span goes back from
the given column by the characters before the cursor, but not below 1, and forward by those after
it, but not above the largest column. -/
def currentWordAt (before after : List Char) (cursor : Position) : CurrentWord :=
  let left := nameEnd before
  let right := nameStart after
  let line := UInt32.ofNat (max cursor.line.toNat 1)
  let column := max cursor.column.toNat 1
  { text := String.ofList (left ++ right)
    span :=
      { start := ⟨line, UInt32.ofNat (max (column - charCount left) 1)⟩
        stop := ⟨line, UInt32.ofNat (min (column + charCount right) maxIndex)⟩ } }

/-- The word around a byte offset of a text, for a cursor whose position is given. -/
def currentWordAtOffset (text : String) (offset : Nat) (cursor : Position) : CurrentWord :=
  let (before, after) := splitAtByte offset text.toList
  currentWordAt before after cursor

/-! ## Open calls -/

/-- The characters after the last blank, last one first. -/
def lastToken (before : List Char) : List Char :=
  before.reverse.takeWhile (!isBlank ·)

/-- Whether the last token before the cursor opens more parentheses than it closes. -/
def insideOpenCall (before : List Char) : Bool :=
  (lastToken before).count ')' < (lastToken before).count '('

end QueryAssist
