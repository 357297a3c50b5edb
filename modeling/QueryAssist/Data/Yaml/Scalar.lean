import QueryAssist.Data.Yaml.Cursor
import QueryAssist.Text.Digits

/-!
# YAML scalars

A scalar is written plain, between quotes, or as a block of lines.  Where a plain or quoted scalar
goes on in another line, a single line break counts as a space, and of several all but the first
count.
-/

namespace QueryAssist

namespace Yaml

/-! ## Gaps between words -/

/-- The space between two words of a scalar. -/
structure Gap where
  /-- the spaces before the first line break -/
  spaces : List Char := []
  broken : Bool := false
  /-- the first line break, if it counts -/
  first : Option Char := none
  /-- the other line breaks -/
  others : List Char := []

namespace Gap

/-- One more space; spaces count only before the first line break. -/
def addSpace (gap : Gap) (c : Char) : Gap :=
  if gap.broken then gap else { gap with spaces := gap.spaces ++ [c] }

/-- One more line break. -/
def addBreak (gap : Gap) (c : Char) : Gap :=
  if gap.broken then { gap with others := gap.others ++ [c] }
  else { broken := true, first := some c }

/-- The text that a gap stands for. -/
def text (gap : Gap) : List Char :=
  if gap.broken then
    match gap.first with
    | some '\n' => if gap.others.isEmpty then [' '] else gap.others
    | some c => c :: gap.others
    | none => gap.others
  else gap.spaces

/-- Reads a gap.  After a line break no tab may stand before the column `margin`. -/
def readFrom (margin : Nat) (gap : Gap) : List Char → Mark → Option (Gap × Cursor)
  | [], mark => some (gap, ⟨[], mark⟩)
  | '\r' :: '\n' :: rest, mark => readFrom margin (gap.addBreak '\n') rest (mark.nextLine 2)
  | c :: rest, mark =>
    if isSpace c then
      if gap.broken && c == '\t' && mark.column < margin then none
      else readFrom margin (gap.addSpace c) rest mark.next
    else if isBreak c then readFrom margin (gap.addBreak (breakValue c)) rest (mark.nextLine 1)
    else some (gap, ⟨c :: rest, mark⟩)

/-- Reads a gap, going on from one that has begun. -/
def read (margin : Nat) (gap : Gap) (cursor : Cursor) : Option (Gap × Cursor) :=
  readFrom margin gap cursor.rest cursor.mark

end Gap

/-! ## Plain scalars -/

/-- Whether a character has a meaning of its own between brackets. -/
def isFlowMark (c : Char) : Bool :=
  c == ',' || c == '[' || c == ']' || c == '\x7b' || c == '\x7d'

/-- Reads one word of a plain scalar.  It ends at a space, at a colon before a space and, between
brackets, at a mark with a meaning; there a colon must not stand directly before such a mark. -/
def plainWord (inFlow : Bool) : List Char → Option (List Char)
  | [] => some []
  | c :: rest =>
    let next? := rest.head?
    if isSpace c || isBreak c then some []
    else if inFlow && c == ':' && next?.any (fun d => isFlowMark d || d == '?') then none
    else if c == ':' && atSpace rest then some []
    else if inFlow && isFlowMark c then some []
    else (plainWord inFlow rest).map (c :: ·)

/-- A scalar that was read. -/
structure ScalarText where
  text : List Char
  /-- whether a line break follows the last word directly -/
  broken : Bool := false
  cursor : Cursor

/-- Reads a plain scalar from its next word on; `text` is what was read before, in reverse, and
`gap` the space after that. -/
def plainFrom (inFlow : Bool) (margin : Nat) : Nat → List Char → Gap → Cursor → Option ScalarText
  | 0, _, _, _ => none
  | fuel + 1, text, gap, cursor =>
    if atDocumentMark cursor || cursor.rest.head? == some '#' then
      some ⟨text.reverse, gap.broken, cursor⟩
    else do
      let word ← plainWord inFlow cursor.rest
      let after := cursor.forward word.length
      let (text, gap) :=
        if word.isEmpty then (text, gap)
        else (word.reverse ++ (gap.text.reverse ++ text), ({} : Gap))
      if after.rest.isEmpty || !atSpace after.rest then
        some ⟨text.reverse, gap.broken, after⟩
      else
        let (gap, next) ← gap.read margin after
        if !inFlow && next.mark.column < margin then some ⟨text.reverse, gap.broken, next⟩
        else plainFrom inFlow margin fuel text gap next

/-- Reads a plain scalar.  In a block its further lines begin at the column `margin` or later. -/
def plain? (inFlow : Bool) (margin : Nat) (cursor : Cursor) : Option ScalarText :=
  plainFrom inFlow margin (cursor.rest.length + 1) [] {} cursor

/-! ## Quoted scalars -/

/-- The character with the code that some hexadecimal digits give. -/
def codePoint? (digits : List Char) : Option Char := do
  let code ← Text.digits? 16 digits
  if code < 0xD800 || (0xDFFF < code && code < 0x110000) then some (Char.ofNat code) else none

/-- The character that an escape after a backslash stands for, and its length. -/
def escape? (rest : List Char) : Option (Char × Nat) :=
  let coded (count : Nat) (digits : List Char) : Option (Char × Nat) :=
    if digits.length < count then none
    else (codePoint? (digits.take count)).map (·, count + 1)
  match rest with
  | [] => none
  | c :: digits =>
    match c with
    | 'x' => coded 2 digits
    | 'u' => coded 4 digits
    | 'U' => coded 8 digits
    | _ =>
      let simple : List (Char × Char) :=
        [('0', '\x00'), ('a', '\x07'), ('b', '\x08'), ('t', '\t'), ('\t', '\t'), ('n', '\n'),
          ('v', '\x0b'), ('f', '\x0c'), ('r', '\r'), ('e', '\x1b'), (' ', ' '), ('\x22', '\x22'),
          ('/', '/'), ('\\', '\\'), ('\'', '\''), ('N', '\u0085'), ('_', '\u00a0'),
          ('L', '\u2028'), ('P', '\u2029')]
      (simple.lookup c).map (·, 1)

/-- Reads a scalar between double quotes, after the first; `text` is what was read, in reverse. -/
def doubleQuotedFrom : Nat → List Char → Cursor → Option ScalarText
  | 0, _, _ => none
  | fuel + 1, text, cursor =>
    if atDocumentMark cursor then none
    else
      match cursor.rest with
      | [] => none
      | '\x22' :: _ => some { text := text.reverse, cursor := cursor.forward 1 }
      | '\\' :: rest =>
        match (cursor.forward 1).takeBreak? with
        | some (_, next) => do
          let (gap, next) ← Gap.read 0 { broken := true } next
          doubleQuotedFrom fuel (gap.text.reverse ++ text) next
        | none => do
          let (c, length) ← escape? rest
          doubleQuotedFrom fuel (c :: text) (cursor.forward (1 + length))
      | c :: rest =>
        if atSpace (c :: rest) then do
          let (gap, next) ← Gap.read 0 {} cursor
          doubleQuotedFrom fuel (gap.text.reverse ++ text) next
        else doubleQuotedFrom fuel (c :: text) (cursor.forward 1)

/-- Reads a scalar between single quotes, after the first; `text` is what was read, in reverse. -/
def singleQuotedFrom : Nat → List Char → Cursor → Option ScalarText
  | 0, _, _ => none
  | fuel + 1, text, cursor =>
    if atDocumentMark cursor then none
    else
      match cursor.rest with
      | [] => none
      | '\'' :: '\'' :: _ => singleQuotedFrom fuel ('\'' :: text) (cursor.forward 2)
      | '\'' :: _ => some { text := text.reverse, cursor := cursor.forward 1 }
      | c :: rest =>
        if atSpace (c :: rest) then do
          let (gap, next) ← Gap.read 0 {} cursor
          singleQuotedFrom fuel (gap.text.reverse ++ text) next
        else singleQuotedFrom fuel (c :: text) (cursor.forward 1)

/-- Reads a quoted scalar, from its first quote on. -/
def quoted? (cursor : Cursor) : Option ScalarText :=
  let inside := cursor.forward 1
  if cursor.rest.head? == some '\'' then singleQuotedFrom cursor.rest.length [] inside
  else doubleQuotedFrom cursor.rest.length [] inside

/-! ## Block scalars -/

/-- What happens to the line breaks at the end of a block scalar. -/
inductive Chomping where
  /-- none counts -/
  | strip
  /-- the first counts -/
  | clip
  /-- all count -/
  | keep
  deriving DecidableEq, Repr

/-- The head of a block scalar. -/
structure BlockHead where
  literal : Bool
  chomping : Chomping := .clip
  /-- how much deeper than its surroundings the scalar stands, if this is said -/
  indentation : Option Nat := none

/-- The chomping that a sign asks for. -/
def chomping? (c : Char) : Option Chomping :=
  if c == '+' then some .keep else if c == '-' then some .strip else none

/-- The indentation that a digit asks for. -/
def indentation? (c : Char) : Option Nat :=
  if '1' ≤ c && c ≤ '9' then some (c.toNat - '0'.toNat) else none

/-- Reads the head of a block scalar, through the end of its line. -/
def blockHead? (cursor : Cursor) : Option (BlockHead × Cursor) := do
  let head : BlockHead := { literal := cursor.rest.head? == some '|' }
  let cursor := cursor.forward 1
  let (signs, cursor) :=
    cursor.takeWhile fun c => (chomping? c).isSome || c.isDigit
  let head ←
    match signs with
    | [] => some head
    | [a] =>
      match chomping? a, indentation? a with
      | some chomping, _ => some { head with chomping }
      | none, some n => some { head with indentation := some n }
      | none, none => none
    | [a, b] =>
      match chomping? a, indentation? a, chomping? b, indentation? b with
      | some chomping, _, _, some n | _, some n, some chomping, _ =>
        some { head with chomping, indentation := some n }
      | _, _, _, _ => none
    | _ => none
  let (_, cursor) := cursor.takeWhile isSpace
  let cursor :=
    if cursor.rest.head? == some '#' then (cursor.takeWhile (!isBreak ·)).2 else cursor
  if cursor.rest.isEmpty then some (head, cursor)
  else
    let (_, cursor) ← cursor.takeBreak?
    some (head, cursor)

/-- Reads the empty lines before a line of a block scalar and the indentation of that line, with
the line breaks and the deepest column met.  If the column of the scalar is not known, all spaces
belong to the indentation. -/
def blockBreaks (column? : Option Nat) :
    Nat → List Char → Nat → Cursor → Option (List Char × Nat × Cursor)
  | 0, _, _, _ => none
  | fuel + 1, breaks, deepest, cursor =>
    let inside := column?.all fun column => cursor.mark.column < column
    match cursor.rest with
    | ' ' :: _ =>
      if inside then blockBreaks column? fuel breaks deepest (cursor.forward 1)
      else some (breaks.reverse, max deepest cursor.mark.column, cursor)
    | '\t' :: _ =>
      if inside then none else some (breaks.reverse, max deepest cursor.mark.column, cursor)
    | _ =>
      let deepest := max deepest cursor.mark.column
      match cursor.takeBreak? with
      | some (c, next) => blockBreaks column? fuel (c :: breaks) deepest next
      | none => some (breaks.reverse, deepest, cursor)

/-- Reads the lines of a block scalar that stands at a column.  `text` is what was read, in
reverse; `lineBreak` is the end of the last line, `breaks` are the empty lines after it, and
`indented` tells whether the last line began with a space. -/
def blockLines (head : BlockHead) (column : Nat) :
    Nat → List Char → List Char → List Char → Bool → Cursor → Option ScalarText
  | 0, _, _, _, _, _ => none
  | fuel + 1, text, lineBreak, breaks, indented, cursor =>
    if cursor.mark.column != column || cursor.rest.isEmpty then
      let ending :=
        match head.chomping with
        | .strip => []
        | .clip => lineBreak
        | .keep => lineBreak ++ breaks
      some { text := text.reverse ++ ending, cursor }
    else do
      let indents := cursor.rest.head?.any isSpace
      let joined :=
        if !head.literal && lineBreak.head? == some '\n' && !indented && !indents then
          if breaks.isEmpty then [' '] else []
        else lineBreak
      let (line, after) := cursor.takeWhile (!isBreak ·)
      let text := line.reverse ++ ((joined ++ breaks).reverse ++ text)
      let (lineBreak, next) :=
        match after.takeBreak? with
        | some (c, next) => ([c], next)
        | none => ([], after)
      let (breaks, _, next) ← blockBreaks (some column) (next.rest.length + 1) [] 0 next
      blockLines head column fuel text lineBreak breaks indents next

/-- Reads a block scalar, from its head on; `margin` is the least column of its lines. -/
def block? (margin : Nat) (cursor : Cursor) : Option ScalarText := do
  let (head, cursor) ← blockHead? cursor
  let column? := head.indentation.map fun n => margin - 1 + n
  let (breaks, deepest, next) ← blockBreaks column? (cursor.rest.length + 1) [] 0 cursor
  let column := column?.getD (max deepest (max margin 1))
  blockLines head column (next.rest.length + 1) [] [] breaks false next

end Yaml

end QueryAssist
