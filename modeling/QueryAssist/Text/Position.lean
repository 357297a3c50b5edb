/-!
# Positions in a text

A position is a line and a column, both counted from 1 in characters, as editors show them.
Lines end at line feeds only.  `offsetAt` is the byte offset of a position; it goes through the lines
of the text, and a position that lies outside the text is clamped.  In the other direction
`endPosition` is the position at the end of a text, and `splitCursor` that of a mark in it.
-/

namespace QueryAssist

/-- A cursor position; lines and columns are counted from 1. -/
structure Position where
  line : UInt32
  column : UInt32
  deriving DecidableEq, Repr

/-- The part of a text from `start` up to, but not including, `stop`. -/
structure Span where
  start : Position
  stop : Position
  deriving DecidableEq, Repr

/-- Whether a span covers nothing. -/
def Span.isEmpty (span : Span) : Bool :=
  span.start == span.stop

namespace Text

/-! ## Bytes -/

/-- The length of a text in UTF-8 bytes. -/
def byteLength : List Char → Nat
  | [] => 0
  | c :: cs => c.utf8Size + byteLength cs

/-- The characters of a text that begins at an offset, each with the offset at which it begins. -/
def charOffsets (start : Nat) : List Char → List (Nat × Char)
  | [] => []
  | c :: cs => (start, c) :: charOffsets (start + c.utf8Size) cs

/-- The offset of the first of several characters that is a given one. -/
def firstOffset? (c : Char) (cs : List Char) : Option Nat :=
  ((charOffsets 0 cs).find? (·.2 == c)).map (·.1)

/-- The offset of the last of several characters that is a given one. -/
def lastOffset? (c : Char) (cs : List Char) : Option Nat :=
  ((charOffsets 0 cs).reverse.find? (·.2 == c)).map (·.1)

/-- Cuts a text at a byte offset; an offset inside a character is moved back to its start, one
beyond the text to the end. -/
def splitAtByte : Nat → List Char → List Char × List Char
  | _, [] => ([], [])
  | offset, c :: cs =>
    if c.utf8Size ≤ offset then
      let (before, after) := splitAtByte (offset - c.utf8Size) cs
      (c :: before, after)
    else ([], c :: cs)

/-! ## From positions to offsets -/

/-- The offset of a column in a line, counted from 0; a column beyond the line stands for its end. -/
def columnOffset (column : Nat) (line : List Char) : Nat :=
  ((charOffsets 0 line)[column]?.map (·.1)).getD (byteLength line)

/-- The offset of a column in the line `target` of several lines, the first of which begins at
`start`; all are counted from 0, and there may be no such line. -/
def offsetFrom (column : Nat) : Nat → Nat → List (List Char) → Option Nat
  | _, _, [] => none
  | 0, start, line :: _ => some (start + columnOffset column line)
  | target + 1, start, line :: lines =>
    offsetFrom column target (start + (byteLength line + 1)) lines

/-- The byte offset of a position in a text; line 0 and column 0 count as 1.  A column beyond the end
of its line stands for the end of that line, a line beyond the end of the text for the end of the
text. -/
def offsetAt (text : String) (position : Position) : Nat :=
  let line := max position.line.toNat 1 - 1
  let column := max position.column.toNat 1 - 1
  (offsetFrom column line 0 (text.toList.splitOn '\n')).getD (byteLength text.toList)

/-! ## From text to positions -/

/-- The position at the end of a text: one more than its line feeds, and one more than the characters
of its last line. -/
def endPosition (text : String) : Position :=
  let lines := text.toList.splitOn '\n'
  let lastLine := lines.reverse.head?.getD []
  { line := UInt32.ofNat (text.toList.count '\n') + 1
    column := UInt32.ofNat lastLine.length + 1 }

/-- The number of characters of line `line`, counted from 0; a line beyond the text has none. -/
def lineLength (line : Nat) (cs : List Char) : Nat :=
  ((cs.splitOn '\n')[line]?.getD []).length

/-! ## Texts with a marked cursor -/

/-- The mark of a cursor in a sample text. -/
def cursorMark : Char := '|'

/-- Removes the first cursor mark of a sample text and gives its position; a text without a mark
has its cursor at the end.  The line of the cursor begins behind the last line feed before it. -/
def splitCursor (sample : String) : String × Position :=
  let cs := sample.toList
  let offset := (firstOffset? cursorMark cs).getD (byteLength cs)
  let before := (splitAtByte offset cs).1
  let lineStart := ((lastOffset? '\n' before).map (· + 1)).getD 0
  let line := (splitAtByte lineStart before).2
  (String.ofList (cs.erase cursorMark),
    { line := UInt32.ofNat (before.count '\n') + 1
      column := UInt32.ofNat line.length + 1 })

end Text

end QueryAssist
