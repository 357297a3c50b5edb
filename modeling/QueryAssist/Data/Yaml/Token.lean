import QueryAssist.Data.Yaml.Scalar

/-!
# YAML tokens

A text is cut into tokens.  Indentation becomes tokens of its own: one where a block begins and one
where it ends.  Whether a node is the key of a mapping shows only at the colon after it, so the
places where a key may begin are remembered, and the tokens for the mapping and its key are put in
later.
-/

namespace QueryAssist

namespace Yaml

/-- A token of a YAML text. -/
inductive Token where
  | directive
  | documentStart
  | documentEnd
  | blockSequence
  | blockMapping
  | blockEnd
  | flowSequence
  | flowSequenceEnd
  | flowMapping
  | flowMappingEnd
  /-- the dash before an item of a block sequence -/
  | item
  /-- the comma between brackets -/
  | comma
  | key
  | value
  /-- the name of an anchor that a node repeats -/
  | reference (name : List Char)
  | anchor (name : List Char)
  | tag (text : List Char)
  | scalar (plain : Bool) (text : List Char)
  deriving DecidableEq, Repr

/-- A place where a key may begin. -/
structure KeyPlace where
  /-- how many tokens come before it -/
  position : Nat
  mark : Mark
  /-- whether nothing but a key can stand here -/
  required : Bool

/-- How far a text has been cut into tokens. -/
structure Lexer where
  cursor : Cursor
  tokens : Array Token := #[]
  /-- how many brackets are open -/
  depth : Nat := 0
  /-- one more than the column of the innermost block, 0 outside all blocks -/
  margin : Nat := 0
  /-- the margins around the innermost block, innermost first -/
  outer : List Nat := []
  /-- whether a key may begin at the next token -/
  keyAllowed : Bool := true
  /-- the place where a key may have begun, for the innermost bracket and those around it -/
  keys : List (Option KeyPlace) := [none]

namespace Lexer

/-! ## Blocks and keys -/

/-- Whether the text at hand stands between brackets. -/
def inFlow (lexer : Lexer) : Bool :=
  lexer.depth != 0

/-- The column of the text at hand. -/
def column (lexer : Lexer) : Nat :=
  lexer.cursor.mark.column

/-- One more token. -/
def push (lexer : Lexer) (token : Token) : Lexer :=
  { lexer with tokens := lexer.tokens.push token }

/-- A token that is put in before the tokens from a position on. -/
def insert (lexer : Lexer) (position : Nat) (token : Token) : Lexer :=
  let before := lexer.tokens.extract 0 position
  let after := lexer.tokens.extract position lexer.tokens.size
  { lexer with tokens := before.push token ++ after }

/-- A block that begins at a column, unless the text at hand is already in one so deep. -/
def openBlock (lexer : Lexer) (column position : Nat) (token : Token) : Lexer :=
  if !lexer.inFlow && lexer.margin ≤ column then
    { lexer with margin := column + 1, outer := lexer.margin :: lexer.outer }.insert position token
  else lexer

/-- The blocks that stay open at a margin, with one token for each that ends. -/
def closedBlocks (limit : Nat) : Nat → List Nat → Array Token → Nat × List Nat × Array Token
  | margin, [], tokens => (margin, [], tokens)
  | margin, next :: outer, tokens =>
    if limit < margin then closedBlocks limit next outer (tokens.push .blockEnd)
    else (margin, next :: outer, tokens)

/-- Ends all blocks that are deeper than a margin. -/
def closeBlocks (lexer : Lexer) (limit : Nat) : Lexer :=
  if lexer.inFlow then lexer
  else
    let (margin, outer, tokens) := closedBlocks limit lexer.margin lexer.outer lexer.tokens
    { lexer with margin, outer, tokens }

/-- Gives up the place where a key may have begun. -/
def forgetKey (lexer : Lexer) : Option Lexer :=
  match lexer.keys with
  | some place :: rest =>
    if place.required then none else some { lexer with keys := none :: rest }
  | _ => some lexer

/-- Remembers that a key may begin here. -/
def rememberKey (lexer : Lexer) : Option Lexer :=
  if lexer.keyAllowed then do
    let required := !lexer.inFlow && lexer.margin == lexer.column + 1
    let lexer ← lexer.forgetKey
    let place : KeyPlace := ⟨lexer.tokens.size, lexer.cursor.mark, required⟩
    some { lexer with keys := some place :: lexer.keys.drop 1 }
  else some lexer

/-- Gives up the places where a key began in an earlier line or too long ago. -/
def forgetStaleKeys (lexer : Lexer) : Option Lexer := do
  let mark := lexer.cursor.mark
  let keys ← lexer.keys.mapM fun key =>
    match key with
    | none => some none
    | some place =>
      if place.mark.line < mark.line || place.mark.index + 1024 < mark.index then
        if place.required then none else some none
      else some (some place)
  some { lexer with keys }

/-! ## Space between tokens -/

/-- Skips spaces, comments and line breaks.  A tab counts as space only where no key may begin; a
line break outside brackets lets a key begin. -/
def skipFrom (flow keyAllowed comment : Bool) : List Char → Mark → Cursor × Bool
  | [], mark => (⟨[], mark⟩, keyAllowed)
  | '\r' :: '\n' :: rest, mark =>
    skipFrom flow (keyAllowed || !flow) false rest (mark.nextLine 2)
  | c :: rest, mark =>
    if isBreak c then skipFrom flow (keyAllowed || !flow) false rest (mark.nextLine 1)
    else if comment || c == ' ' || (c == '\ufeff' && mark.column == 0) ||
        (c == '\t' && (flow || !keyAllowed)) then
      skipFrom flow keyAllowed comment rest mark.next
    else if c == '#' then skipFrom flow keyAllowed true rest mark.next
    else (⟨c :: rest, mark⟩, keyAllowed)

/-- Goes to the next token. -/
def skip (lexer : Lexer) : Lexer :=
  let (cursor, keyAllowed) :=
    skipFrom lexer.inFlow lexer.keyAllowed false lexer.cursor.rest lexer.cursor.mark
  { lexer with cursor, keyAllowed }

/-! ## Tokens -/

/-- Goes over some characters of the line. -/
def forward (lexer : Lexer) (count : Nat) : Lexer :=
  { lexer with cursor := lexer.cursor.forward count }

/-- The mark of the beginning or the end of a document. -/
def documentMark (lexer : Lexer) (token : Token) : Option Lexer := do
  let lexer ← (lexer.closeBlocks 0).forgetKey
  some ({ lexer with keyAllowed := false }.forward 3 |>.push token)

/-- A directive, through the end of its line. -/
def directive (lexer : Lexer) : Option Lexer := do
  let lexer ← (lexer.closeBlocks 0).forgetKey
  let (line, cursor) := lexer.cursor.takeWhile (!isBreak ·)
  let words := (line.splitBy fun a b => isSpace a == isSpace b).filter
    fun word => !word.all isSpace
  let words := words.takeWhile fun word => word.head? != some '#'
  let known :=
    match words with
    | [name, version] =>
      name == "%YAML".toList && (version == "1.1".toList || version == "1.2".toList)
    | [name, _, _] => name == "%TAG".toList
    | _ => false
  if known then some ({ lexer with keyAllowed := false, cursor }.push .directive) else none

/-- An opening bracket. -/
def openFlow (lexer : Lexer) (token : Token) : Option Lexer := do
  let lexer ← lexer.rememberKey
  let lexer :=
    { lexer with depth := lexer.depth + 1, keys := none :: lexer.keys, keyAllowed := true }
  some (lexer.forward 1 |>.push token)

/-- A closing bracket. -/
def closeFlow (lexer : Lexer) (token : Token) : Option Lexer := do
  let lexer ← lexer.forgetKey
  let keys := if lexer.inFlow then lexer.keys.drop 1 else lexer.keys
  let lexer := { lexer with depth := lexer.depth - 1, keys, keyAllowed := false }
  some (lexer.forward 1 |>.push token)

/-- A comma between brackets. -/
def comma (lexer : Lexer) : Option Lexer := do
  let lexer ← lexer.forgetKey
  some ({ lexer with keyAllowed := true }.forward 1 |>.push .comma)

/-- The dash before an item of a block sequence. -/
def item (lexer : Lexer) : Option Lexer := do
  if !lexer.inFlow && !lexer.keyAllowed then none
  else
    let lexer ← (lexer.openBlock lexer.column lexer.tokens.size .blockSequence).forgetKey
    some ({ lexer with keyAllowed := true }.forward 1 |>.push .item)

/-- A question mark before a key. -/
def key (lexer : Lexer) : Option Lexer := do
  if !lexer.inFlow && !lexer.keyAllowed then none
  else
    let lexer ← (lexer.openBlock lexer.column lexer.tokens.size .blockMapping).forgetKey
    some ({ lexer with keyAllowed := !lexer.inFlow }.forward 1 |>.push .key)

/-- A colon before a value.  If a key may have begun before it, it did. -/
def value (lexer : Lexer) : Option Lexer :=
  match lexer.keys with
  | some place :: rest =>
    let lexer := { lexer with keys := none :: rest, keyAllowed := false }.insert place.position .key
    let lexer := lexer.openBlock place.mark.column place.position .blockMapping
    some (lexer.forward 1 |>.push .value)
  | _ =>
    if lexer.inFlow then some ({ lexer with keyAllowed := false }.forward 1 |>.push .value)
    else if !lexer.keyAllowed then none
    else
      let lexer := lexer.openBlock lexer.column lexer.tokens.size .blockMapping
      some ({ lexer with keyAllowed := true }.forward 1 |>.push .value)

/-- Whether a character may stand in the name of an anchor. -/
def isAnchorChar (c : Char) : Bool :=
  c.isAlphanum || c == '_' || c == '-'

/-- Whether a character may follow the name of an anchor. -/
def endsAnchor (c : Char) : Bool :=
  isSpace c || isBreak c || "?:,]\x7d%@\x60".toList.contains c

/-- An anchor or an alias. -/
def anchor (lexer : Lexer) (token : List Char → Token) : Option Lexer := do
  let lexer ← lexer.rememberKey
  let (name, cursor) := (lexer.cursor.forward 1).takeWhile isAnchorChar
  if name.isEmpty || !cursor.rest.head?.all endsAnchor then none
  else some ({ lexer with keyAllowed := false, cursor }.push (token name))

/-- A tag. -/
def tag (lexer : Lexer) : Option Lexer := do
  let lexer ← lexer.rememberKey
  let (text, cursor) :=
    lexer.cursor.takeWhile fun c => !(isSpace c || isBreak c || isFlowMark c)
  if atSpace cursor.rest || (lexer.inFlow && cursor.rest.head? == some ',') then
    some ({ lexer with keyAllowed := false, cursor }.push (.tag text))
  else none

/-- A block scalar. -/
def blockScalar (lexer : Lexer) : Option Lexer := do
  let lexer ← lexer.forgetKey
  let scalar ← block? lexer.margin lexer.cursor
  some ({ lexer with keyAllowed := true, cursor := scalar.cursor }.push
    (.scalar false scalar.text))

/-- A quoted scalar. -/
def quotedScalar (lexer : Lexer) : Option Lexer := do
  let lexer ← lexer.rememberKey
  let scalar ← quoted? lexer.cursor
  some ({ lexer with keyAllowed := false, cursor := scalar.cursor }.push
    (.scalar false scalar.text))

/-- A plain scalar. -/
def plainScalar (lexer : Lexer) : Option Lexer := do
  let lexer ← lexer.rememberKey
  let scalar ← plain? lexer.inFlow lexer.margin lexer.cursor
  some ({ lexer with keyAllowed := scalar.broken, cursor := scalar.cursor }.push
    (.scalar true scalar.text))

/-- Whether a plain scalar may begin with a character before some others. -/
def startsPlain (flow : Bool) (c : Char) (rest : List Char) : Bool :=
  if c == '-' then !rest.head?.all isSpace
  else if c == '?' || c == ':' then !flow && !atSpace rest
  else !isSpace c && !(",[]\x7b\x7d#&*!|>'\x22%@\x60".toList.contains c)

/-- Cuts off the next token, at its first character. -/
def next (lexer : Lexer) (c : Char) (rest : List Char) : Option Lexer :=
  let flow := lexer.inFlow
  if lexer.column == 0 && c == '%' then lexer.directive
  else if atDocumentMark lexer.cursor then
    lexer.documentMark (if c == '-' then .documentStart else .documentEnd)
  else if c == '[' then lexer.openFlow .flowSequence
  else if c == '\x7b' then lexer.openFlow .flowMapping
  else if c == ']' then lexer.closeFlow .flowSequenceEnd
  else if c == '\x7d' then lexer.closeFlow .flowMappingEnd
  else if c == ',' then lexer.comma
  else if c == '-' && atSpace rest then lexer.item
  else if c == '?' && (flow || atSpace rest) then lexer.key
  else if c == ':' && (flow || atSpace rest) then lexer.value
  else if c == '*' then lexer.anchor .reference
  else if c == '&' then lexer.anchor .anchor
  else if c == '!' then lexer.tag
  else if (c == '|' || c == '>') && !flow then lexer.blockScalar
  else if c == '\'' || c == '\x22' then lexer.quotedScalar
  else if startsPlain flow c rest then lexer.plainScalar
  else none

/-- Cuts the rest of a text into tokens. -/
def finish : Nat → Lexer → Option (Array Token)
  | 0, _ => none
  | fuel + 1, lexer => do
    let lexer ← lexer.skip.forgetStaleKeys
    match lexer.cursor.rest with
    | [] => (lexer.forgetKey).map fun last => (last.closeBlocks 0).tokens
    | c :: rest => finish fuel (← (lexer.closeBlocks (lexer.column + 1)).next c rest)

end Lexer

/-- The tokens of a text. -/
def Token.ofText? (cs : List Char) : Option (List Token) :=
  if cs.all isAllowed then
    let rest := if cs.head? == some '\ufeff' then cs.drop 1 else cs
    (Lexer.finish (cs.length + 2) { cursor := { rest } }).map (·.toList)
  else none

end Yaml

end QueryAssist
