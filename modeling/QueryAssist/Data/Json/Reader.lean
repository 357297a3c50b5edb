import QueryAssist.Data.Value
import QueryAssist.Data.Word
import QueryAssist.Text.Digits

/-!
# Reading JSON

`Json.parse?` reads one JSON document.  It follows the grammar of the standard to the letter: no
byte order mark, no comments, no trailing commas, nothing after the value.  Numbers without
fraction and exponent that fit into 64 bits are integers, all others floating point numbers; a
text with half a surrogate pair and a number out of range are `unreadable`.
-/

namespace QueryAssist.Json

/-! ## Blanks and literals -/

/-- Blanks between the tokens of a document. -/
def isSpace (c : Char) : Bool :=
  c == ' ' || c == '\t' || c == '\n' || c == '\r'

/-- The text after its leading blanks. -/
def skipSpace (cs : List Char) : List Char :=
  cs.dropWhile isSpace

/-- The text after a given word. -/
def afterWord? : List Char → List Char → Option (List Char)
  | [], cs => some cs
  | w :: ws, c :: cs => if w = c then afterWord? ws cs else none
  | _ :: _, [] => none

/-! ## Texts -/

/-- The number that four hexadecimal digits spell. -/
def fourHex? (a b c d : Char) : Option Nat :=
  Text.digits? 16 [a, b, c, d]

/-- The character of a one-letter escape. -/
def escaped? (c : Char) : Option Char :=
  if c = '\x22' || c = '\\' || c = '/' then some c
  else if c = 'b' then some '\x08'
  else if c = 'f' then some '\x0c'
  else if c = 'n' then some '\n'
  else if c = 'r' then some '\r'
  else if c = 't' then some '\t'
  else none

/-- Whether a code unit is the first half of a surrogate pair. -/
def isHighSurrogate (n : Nat) : Bool :=
  0xD800 ≤ n && n < 0xDC00

/-- Whether a code unit is the second half of a surrogate pair. -/
def isLowSurrogate (n : Nat) : Bool :=
  0xDC00 ≤ n && n < 0xE000

/-- The code units of a text up to its closing quote, and what follows it.  Characters are given
by their code points, escapes by the code units they spell. -/
def readUnits : List Char → Option (List Nat × List Char)
  | '\x22' :: cs => some ([], cs)
  | '\\' :: 'u' :: a :: b :: c :: d :: cs => do
    let unit ← fourHex? a b c d
    let (units, rest) ← readUnits cs
    some (unit :: units, rest)
  | '\\' :: e :: cs => do
    let unit ← escaped? e
    let (units, rest) ← readUnits cs
    some (unit.toNat :: units, rest)
  | c :: cs =>
    if c.toNat < 0x20 || c = '\\' then none
    else do
      let (units, rest) ← readUnits cs
      some (c.toNat :: units, rest)
  | [] => none

/-- The characters that code units stand for; `none` if there is half a surrogate pair. -/
def charsOfUnits? : List Nat → Option (List Char)
  | [] => some []
  | high :: low :: units =>
    if isHighSurrogate high then
      if isLowSurrogate low then do
        let c := Char.ofNat (0x10000 + (high - 0xD800) * 0x400 + (low - 0xDC00))
        some (c :: (← charsOfUnits? units))
      else none
    else if isLowSurrogate high then none
    else do some (Char.ofNat high :: (← charsOfUnits? (low :: units)))
  | [unit] =>
    if isHighSurrogate unit || isLowSurrogate unit then none else some [Char.ofNat unit]

/-- A text after its opening quote; its characters are missing if it has half a surrogate pair. -/
def readText (cs : List Char) : Option (Option String × List Char) := do
  let (units, rest) ← readUnits cs
  some ((charsOfUnits? units).map String.ofList, rest)

/-! ## Numbers -/

/-- The number that decimal digits spell. -/
def decimalValue (digits : List Char) : Nat :=
  digits.foldl (fun n c => n * 10 + (c.toNat - '0'.toNat)) 0

/-- The digits at the start of a text, and the rest. -/
def readDigits (cs : List Char) : List Char × List Char :=
  (cs.takeWhile Char.isDigit, cs.dropWhile Char.isDigit)

/-- A number as written: sign, digits before and after the point, exponent. -/
structure Numeral where
  negative : Bool
  whole : List Char
  fraction : Option (List Char)
  exponent : Option Int

/-- The digits after a point, if there is one. -/
def readFraction : List Char → Option (Option (List Char) × List Char)
  | '.' :: cs =>
    let (digits, rest) := readDigits cs
    if digits.isEmpty then none else some (some digits, rest)
  | cs => some (none, cs)

/-- The exponent after an `e`, if there is one. -/
def readExponent : List Char → Option (Option Int × List Char)
  | c :: cs =>
    if c = 'e' || c = 'E' then
      let (negative, cs) :=
        match cs with
        | '-' :: cs => (true, cs)
        | '+' :: cs => (false, cs)
        | cs => (false, cs)
      let (digits, rest) := readDigits cs
      if digits.isEmpty then none
      else
        let size : Int := decimalValue digits
        some (some (if negative then -size else size), rest)
    else some (none, c :: cs)
  | [] => some (none, [])

/-- A number at the start of a text. -/
def readNumeral (cs : List Char) : Option (Numeral × List Char) := do
  let (negative, cs) :=
    match cs with
    | '-' :: cs => (true, cs)
    | cs => (false, cs)
  let (whole, cs) := readDigits cs
  if whole.isEmpty || (whole.head? == some '0' && 1 < whole.length) then none
  let (fraction, cs) ← readFraction cs
  let (exponent, cs) ← readExponent cs
  some (⟨negative, whole, fraction, exponent⟩, cs)

/-- The number spelled by the leading digits that fit into 64 bits, and how many they are. -/
def leadingDigits (value count : Nat) : List Char → Nat × Nat
  | [] => (value, count)
  | c :: cs =>
    let next := value * 10 + (c.toNat - '0'.toNat)
    if next < Word.bound64 then leadingDigits next (count + 1) cs else (value, count)

/-- The floating point number of a numeral: the leading digits that fit into 64 bits are scaled by
the power of ten that belongs to them. -/
def Numeral.float? (n : Numeral) : Option Binary64 :=
  let (significand, count) := leadingDigits 0 0 (n.whole ++ n.fraction.getD [])
  Binary64.ofDecimal n.negative significand
    (n.exponent.getD 0 + (n.whole.length : Int) - (count : Int))

/-- The value of a numeral. -/
def Numeral.value (n : Numeral) : Value :=
  let size := decimalValue n.whole
  let whole := n.fraction.isNone && n.exponent.isNone
  if whole && !n.negative && size < Word.bound64 then .integer size
  else if whole && n.negative && 0 < size && size ≤ Word.signedBound64 then .integer (-(size : Int))
  else
    match n.float? with
    | some x => .float x
    | none => .unreadable

/-! ## Values -/

/-- A record with its members, unless the name of one is unreadable. -/
def recordOf (members : List (Option String × Value)) : Value :=
  match members.mapM fun (name?, value) => name?.map (·, value) with
  | some members => .record members
  | none => .unreadable

mutual

/-- A value at the start of a text, and the rest. -/
def readValue : Nat → List Char → Option (Value × List Char)
  | 0, _ => none
  | fuel + 1, cs =>
    match skipSpace cs with
    | '[' :: cs =>
      match skipSpace cs with
      | ']' :: cs => some (.list [], cs)
      | cs => (readItems fuel cs).map fun (items, rest) => (.list items, rest)
    | '\x7b' :: cs =>
      match skipSpace cs with
      | '\x7d' :: cs => some (.record [], cs)
      | cs => (readMembers fuel cs).map fun (members, rest) => (recordOf members, rest)
    | '\x22' :: cs =>
      (readText cs).map fun (s?, rest) => ((s?.map Value.text).getD .unreadable, rest)
    | 'n' :: cs => (afterWord? "ull".toList cs).map (Value.null, ·)
    | 't' :: cs => (afterWord? "rue".toList cs).map (Value.bool true, ·)
    | 'f' :: cs => (afterWord? "alse".toList cs).map (Value.bool false, ·)
    | cs => (readNumeral cs).map fun (n, rest) => (n.value, rest)

/-- The items of a list after its opening bracket, and what follows the closing one. -/
def readItems : Nat → List Char → Option (List Value × List Char)
  | 0, _ => none
  | fuel + 1, cs => do
    let (item, cs) ← readValue fuel cs
    match skipSpace cs with
    | ',' :: cs =>
      let (items, rest) ← readItems fuel cs
      some (item :: items, rest)
    | ']' :: rest => some ([item], rest)
    | _ => none

/-- The members of a record after its opening brace, and what follows the closing one. -/
def readMembers : Nat → List Char → Option (List (Option String × Value) × List Char)
  | 0, _ => none
  | fuel + 1, cs =>
    match skipSpace cs with
    | '\x22' :: cs => do
      let (name?, cs) ← readText cs
      match skipSpace cs with
      | ':' :: cs =>
        let (value, cs) ← readValue fuel cs
        match skipSpace cs with
        | ',' :: cs =>
          let (members, rest) ← readMembers fuel cs
          some ((name?, value) :: members, rest)
        | '\x7d' :: rest => some ([(name?, value)], rest)
        | _ => none
      | _ => none
    | _ => none

end

/-- Reads a JSON document; `none` if the text is none. -/
def parse? (s : String) : Option Value :=
  let cs := s.toList
  match readValue (2 * cs.length + 2) cs with
  | some (value, rest) => if (skipSpace rest).isEmpty then some value else none
  | none => none

end QueryAssist.Json
