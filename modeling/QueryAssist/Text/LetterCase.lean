import QueryAssist.Text.CaseTable
import QueryAssist.Text.CharClass

/-!
# Letter case

Two pairs of case mappings.  `asciiLower` and `asciiUpper` move the 26 ASCII letters and leave
everything else alone.  `lowercaseL` and `uppercase` are the full mappings of Unicode: a character
may become several, and a capital sigma at the end of a word becomes a final sigma.
-/

namespace QueryAssist.Text

/-! ## ASCII letters -/

/-- The text with the letters `A` to `Z` in lower case. -/
def asciiLower (s : String) : String :=
  String.ofList (s.toList.map Char.toLower)

/-- The text with the letters `a` to `z` in upper case. -/
def asciiUpper (s : String) : String :=
  String.ofList (s.toList.map Char.toUpper)

/-- Equality of texts up to the case of ASCII letters. -/
def equalIgnoringAsciiCase (s t : String) : Bool :=
  asciiLower s == asciiLower t

/-! ## Full mappings -/

/-- The image of a character in a run, if the run holds it. -/
def Table.CaseRun.image? (run : Table.CaseRun) (c : Char) : Option Char :=
  let n := c.toNat
  if run.first ≤ n && n ≤ run.last && (n - run.first) % run.step == 0 then
    some (Char.ofNat ((n : Int) + run.offset).toNat)
  else none

/-- The image of a character under a case mapping given by its expansions and runs; a character
in neither is its own image. -/
def caseImage (expansions : List (Nat × List Nat)) (runs : List Table.CaseRun) (c : Char) :
    List Char :=
  match expansions.find? (·.1 == c.toNat) with
  | some (_, image) => image.map Char.ofNat
  | none => [(runs.findSome? (·.image? c)).getD c]

/-- The lower-case form of one character. -/
def lowerChar (c : Char) : List Char :=
  if isAscii c then [c.toLower] else caseImage Table.lowerExpansions Table.lowerRuns c

/-- The upper-case form of one character. -/
def upperChar (c : Char) : List Char :=
  if isAscii c then [c.toUpper] else caseImage Table.upperExpansions Table.upperRuns c

/-- Whether the first character that is not case-ignorable is a cased one. -/
def startsCased (cs : List Char) : Bool :=
  match cs.dropWhile (inTable Table.caseIgnorable) with
  | [] => false
  | c :: _ => inTable Table.cased c

/-- Lower case of a text whose already passed part is `before`, last character first.  A capital
sigma is final when a cased letter stands before it and none after it, case-ignorable characters
not counted. -/
def lowercaseFrom (before : List Char) : List Char → List Char
  | [] => []
  | c :: cs =>
    (if c = 'Σ' then [if startsCased before && !startsCased cs then 'ς' else 'σ']
      else lowerChar c) ++ lowercaseFrom (c :: before) cs

/-- The lower-case form of a text. -/
def lowercaseL (cs : List Char) : List Char :=
  lowercaseFrom [] cs

/-- The upper-case form of a text. -/
def uppercase (s : String) : String :=
  String.ofList (s.toList.flatMap upperChar)

end QueryAssist.Text
