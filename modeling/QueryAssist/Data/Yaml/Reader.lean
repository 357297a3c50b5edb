import QueryAssist.Data.Value
import QueryAssist.Data.Yaml.Token

/-!
# Reading YAML

`Yaml.parse?` reads one document.  A plain scalar becomes a `plain` value, for its meaning depends
on the type that is asked for; other scalars become texts.  An alias stands for the value of its
anchor.  A mapping with a key that is not a scalar has no meaning as data and is `unreadable`.
-/

namespace QueryAssist

namespace Yaml

/-- The tokens that are left, and the values of the anchors met so far. -/
structure ReaderState where
  tokens : List Token
  anchors : List (List Char × Value) := []

/-- A reader of tokens. -/
abbrev Reader := StateT ReaderState Option

namespace Reader

/-! ## Tokens -/

/-- The next token. -/
def peek? : Reader (Option Token) := do
  return (← get).tokens.head?

/-- Goes over the next token. -/
def drop : Reader Unit :=
  modify fun state => { state with tokens := state.tokens.drop 1 }

/-- Goes over the next token if it is a given one, and tells whether it was. -/
def accept (token : Token) : Reader Bool := do
  if (← peek?) = some token then
    drop
    return true
  else return false

/-- Goes over the next token, which must be a given one. -/
def expect (token : Token) : Reader Unit := do
  unless ← accept token do failure

/-- Whether the next token is one of some. -/
def comesNext (tokens : List Token) : Reader Bool := do
  return (← peek?).any fun token => tokens.contains token

/-! ## Nodes -/

/-- The anchor and the tag before a node. -/
structure Properties where
  anchor : Option (List Char) := none
  tag : Option (List Char) := none

/-- Whether there are neither anchor nor tag. -/
def Properties.isEmpty (properties : Properties) : Bool :=
  properties.anchor.isNone && properties.tag.isNone

/-- Reads the anchor and the tag before a node, in any order. -/
def properties : Reader Properties := do
  match ← peek? with
  | some (.anchor name) =>
    drop
    match ← peek? with
    | some (.tag text) => drop; return { anchor := some name, tag := some text }
    | _ => return { anchor := some name }
  | some (.tag text) =>
    drop
    match ← peek? with
    | some (.anchor name) => drop; return { anchor := some name, tag := some text }
    | _ => return { tag := some text }
  | _ => return {}

/-- The value of a scalar.  A tag for texts makes a text of a plain one. -/
def scalarValue (properties : Properties) (plain : Bool) (text : List Char) : Value :=
  let texts : List (List Char) := ["!".toList, "!!str".toList, "!<tag:yaml.org,2002:str>".toList]
  let tagged := properties.tag.any fun tag => texts.contains tag
  if plain && !tagged then .plain (String.ofList text) else .text (String.ofList text)

/-- A node that is not written at all. -/
def nothing : Value :=
  .plain ""

/-- The text of a key. -/
def keyText? : Value → Option String
  | .plain s => some s
  | .text s => some s
  | _ => none

/-- The value of a mapping. -/
def mappingValue (entries : List (Value × Value)) : Value :=
  match entries.mapM fun (key, value) => (keyText? key).map (·, value) with
  | some members => .record members
  | none => .unreadable

/-- Gives a value to an anchor. -/
def define (properties : Properties) (value : Value) : Reader Value := do
  match properties.anchor with
  | none => return value
  | some name =>
    modify fun state => { state with anchors := (name, value) :: state.anchors }
    return value

mutual

/-- Reads a node.  A node of a block may be a block itself; `indentless` tells whether the items of
a sequence may stand here without a block of their own. -/
def node (inBlock indentless : Bool) : Nat → Reader Value
  | 0 => failure
  | fuel + 1 => do
    match ← peek? with
    | some (.reference name) =>
      drop
      match (← get).anchors.lookup name with
      | some value => return value
      | none => failure
    | _ =>
      let properties ← properties
      match ← peek? with
      | some (.scalar plain text) =>
        drop
        define properties (scalarValue properties plain text)
      | some .flowSequence =>
        drop
        define properties (.sequence (← flowItems true fuel))
      | some .flowMapping =>
        drop
        define properties (mappingValue (← flowEntries true fuel))
      | some .item =>
        if indentless then define properties (.sequence (← looseItems fuel))
        else if properties.isEmpty then failure
        else define properties (scalarValue properties true [])
      | some .blockSequence =>
        if inBlock then
          drop
          define properties (.sequence (← blockItems fuel))
        else if properties.isEmpty then failure
        else define properties (scalarValue properties true [])
      | some .blockMapping =>
        if inBlock then
          drop
          define properties (mappingValue (← blockEntries fuel))
        else if properties.isEmpty then failure
        else define properties (scalarValue properties true [])
      | _ =>
        if properties.isEmpty then failure
        else define properties (scalarValue properties true [])

/-- Reads a node, or nothing before one of some tokens. -/
def nodeBefore (stops : List Token) (inBlock indentless : Bool) : Nat → Reader Value
  | 0 => failure
  | fuel + 1 => do
    if ← comesNext stops then return nothing
    else node inBlock indentless fuel

/-- Reads the items of a block sequence. -/
def blockItems : Nat → Reader (List Value)
  | 0 => failure
  | fuel + 1 => do
    if ← accept .item then
      let value ← nodeBefore [.item, .blockEnd] true false fuel
      return value :: (← blockItems fuel)
    else
      expect .blockEnd
      return []

/-- Reads the items of a sequence without a block of its own. -/
def looseItems : Nat → Reader (List Value)
  | 0 => failure
  | fuel + 1 => do
    if ← accept .item then
      let value ← nodeBefore [.item, .key, .value, .blockEnd] true false fuel
      return value :: (← looseItems fuel)
    else return []

/-- Reads the entries of a block mapping. -/
def blockEntries : Nat → Reader (List (Value × Value))
  | 0 => failure
  | fuel + 1 => do
    if ← accept .key then
      let key ← nodeBefore [.key, .value, .blockEnd] true true fuel
      let value ←
        if ← accept .value then nodeBefore [.key, .value, .blockEnd] true true fuel
        else pure nothing
      return (key, value) :: (← blockEntries fuel)
    else
      expect .blockEnd
      return []

/-- Reads the items of a sequence between brackets; an item may be a mapping of one entry. -/
def flowItems (first : Bool) : Nat → Reader (List Value)
  | 0 => failure
  | fuel + 1 => do
    if ← accept .flowSequenceEnd then return []
    else
      unless first do expect .comma
      if ← accept .flowSequenceEnd then return []
      else if ← accept .key then
        let key ← nodeBefore [.value, .comma, .flowSequenceEnd] false false fuel
        let value ←
          if ← accept .value then nodeBefore [.comma, .flowSequenceEnd] false false fuel
          else pure nothing
        return mappingValue [(key, value)] :: (← flowItems false fuel)
      else
        let value ← node false false fuel
        return value :: (← flowItems false fuel)

/-- Reads the entries of a mapping between braces; an entry may be a key alone. -/
def flowEntries (first : Bool) : Nat → Reader (List (Value × Value))
  | 0 => failure
  | fuel + 1 => do
    if ← accept .flowMappingEnd then return []
    else
      unless first do expect .comma
      if ← accept .flowMappingEnd then return []
      else if ← accept .key then
        let key ← nodeBefore [.value, .comma, .flowMappingEnd] false false fuel
        let value ←
          if ← accept .value then nodeBefore [.comma, .flowMappingEnd] false false fuel
          else pure nothing
        return (key, value) :: (← flowEntries false fuel)
      else
        let key ← node false false fuel
        return (key, nothing) :: (← flowEntries false fuel)

end

/-! ## Documents -/

/-- Goes over the next tokens as long as they are a given one. -/
def dropAll (token : Token) : Reader Unit :=
  modify fun state => { state with tokens := state.tokens.dropWhile (· = token) }

/-- Whether no token is left. -/
def atEnd : Reader Bool := do
  return (← peek?).isNone

/-- Reads a text that holds one document.  The mark of its beginning may be left out if no
directive stands before it. -/
def document (fuel : Nat) : Reader Value := do
  if ← atEnd then return nothing
  else
    if ← comesNext [.directive, .documentStart, .documentEnd] then
      dropAll .documentEnd
      if ← atEnd then return nothing
      else
        dropAll .directive
        expect .documentStart
        finish
    else finish
where
  finish : Reader Value := do
    let value ←
      if (← atEnd) || (← comesNext [.directive, .documentStart, .documentEnd]) then pure nothing
      else node true false fuel
    dropAll .documentEnd
    if ← atEnd then return value else failure

end Reader

/-- The value of a text that holds one document, if it is well formed. -/
def parse? (text : String) : Option Value := do
  let tokens ← Token.ofText? text.toList
  let (value, _) ← (Reader.document (4 * tokens.length + 4)).run { tokens }
  some value

end Yaml

end QueryAssist
