/-!
# Places in a YAML text

Reading a YAML text depends on lines and columns, so the rest of the text is carried together with
the place where it begins.
-/

namespace QueryAssist

namespace Yaml

/-- A place in a text: the characters and lines before it, and the characters before it in its
line. -/
structure Mark where
  index : Nat := 0
  line : Nat := 0
  column : Nat := 0
  deriving DecidableEq, Repr

/-- The place after one more character. -/
def Mark.next (mark : Mark) : Mark :=
  { mark with index := mark.index + 1, column := mark.column + 1 }

/-- The beginning of the next line, after a line break of some characters. -/
def Mark.nextLine (mark : Mark) (width : Nat) : Mark :=
  { index := mark.index + width, line := mark.line + 1 }

/-- The rest of a text, and the place where it begins. -/
structure Cursor where
  rest : List Char
  mark : Mark := {}

/-! ## Characters -/

/-- Whether a character separates words within a line. -/
def isSpace (c : Char) : Bool :=
  c == ' ' || c == '\t'

/-- Whether a character ends a line. -/
def isBreak (c : Char) : Bool :=
  c == '\n' || c == '\r' || c == '\u0085' || c == '\u2028' || c == '\u2029'

/-- What a line break stands for: a newline, unless it is one of the two separators that keep
their kind. -/
def breakValue (c : Char) : Char :=
  if c == '\u2028' || c == '\u2029' then c else '\n'

/-- Whether a character may stand in a text at all. -/
def isAllowed (c : Char) : Bool :=
  c == '\t' || c == '\n' || c == '\r' || ('\x20' ≤ c && c ≤ '\x7e') || c == '\u0085' ||
    ('\u00a0' ≤ c && c ≤ '\ufffd') || '\uffff' < c

/-- Whether nothing, a space or a line break comes next. -/
def atSpace : List Char → Bool
  | [] => true
  | c :: _ => isSpace c || isBreak c

/-- Whether a line begins with the mark of the beginning or the end of a document. -/
def atDocumentMark (cursor : Cursor) : Bool :=
  cursor.mark.column == 0 &&
    match cursor.rest with
    | '-' :: '-' :: '-' :: rest => atSpace rest
    | '.' :: '.' :: '.' :: rest => atSpace rest
    | _ => false

namespace Cursor

/-- The cursor after some characters that stand in one line. -/
def forward (cursor : Cursor) (count : Nat) : Cursor :=
  { rest := cursor.rest.drop count
    mark := { cursor.mark with
      index := cursor.mark.index + count, column := cursor.mark.column + count } }

/-- The cursor after the characters of a line that satisfy a test, with these characters. -/
def takeWhile (cursor : Cursor) (test : Char → Bool) : List Char × Cursor :=
  let taken := cursor.rest.takeWhile test
  (taken, cursor.forward taken.length)

/-- The cursor after a line break, with what the line break stands for. -/
def takeBreak? (cursor : Cursor) : Option (Char × Cursor) :=
  match cursor.rest with
  | '\r' :: '\n' :: rest => some ('\n', ⟨rest, cursor.mark.nextLine 2⟩)
  | c :: rest => if isBreak c then some (breakValue c, ⟨rest, cursor.mark.nextLine 1⟩) else none
  | [] => none

end Cursor

end Yaml

end QueryAssist
