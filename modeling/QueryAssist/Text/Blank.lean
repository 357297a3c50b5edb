/-!
# White space

The characters with the Unicode property White_Space, and the two operations on text that are
defined by it: trimming both ends and splitting into fields.  The workers are on `List Char`;
`trim` and `fields` wrap them for strings.
-/

namespace QueryAssist.Text

/-! ## The class -/

/-- Whether a character has the Unicode property White_Space. -/
def isBlank (c : Char) : Bool :=
  let n := c.toNat
  (0x09 ≤ n && n ≤ 0x0D) || n == 0x20 || n == 0x85 || n == 0xA0 || n == 0x1680 ||
    (0x2000 ≤ n && n ≤ 0x200A) || n == 0x2028 || n == 0x2029 || n == 0x202F || n == 0x205F ||
    n == 0x3000

/-! ## Trimming -/

/-- The text without the blanks at both of its ends. -/
def trimL (cs : List Char) : List Char :=
  ((cs.dropWhile isBlank).reverse.dropWhile isBlank).reverse

/-- The text without the blanks at both of its ends. -/
def trim (s : String) : String :=
  String.ofList (trimL s.toList)

/-- Whether a text holds nothing but blanks. -/
def isAllBlank (cs : List Char) : Bool :=
  cs.all isBlank

/-! ## Fields -/

/-- The maximal runs of characters that are not blank; `current` holds the characters of the run
being read, last one first. -/
def fieldsFrom (current : List Char) : List Char → List (List Char)
  | [] => if current.isEmpty then [] else [current.reverse]
  | c :: cs =>
    if isBlank c then
      if current.isEmpty then fieldsFrom [] cs else current.reverse :: fieldsFrom [] cs
    else fieldsFrom (c :: current) cs

/-- The maximal runs of characters that are not blank, in order. -/
def fieldsL (cs : List Char) : List (List Char) :=
  fieldsFrom [] cs

end QueryAssist.Text
