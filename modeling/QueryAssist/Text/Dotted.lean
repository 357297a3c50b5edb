/-!
# Dotted names

Names such as `database.schema.table`: cutting them at their dots, and joining them again.
-/

namespace QueryAssist.Text

/-- The parts of a text between its dots; a text without dots is one part. -/
def splitDotsL : List Char → List (List Char)
  | [] => [[]]
  | c :: cs =>
    if c = '.' then [] :: splitDotsL cs
    else
      match splitDotsL cs with
      | [] => [[c]]
      | part :: parts => (c :: part) :: parts

/-- The parts of a name between its dots. -/
def splitDots (s : String) : List String :=
  (splitDotsL s.toList).map String.ofList

/-- Parts with a dot between every two. -/
def joinDots (parts : List String) : String :=
  ".".intercalate parts

/-- The part of a name after its last dot. -/
def lastPart (s : String) : String :=
  String.ofList (s.toList.reverse.takeWhile (· ≠ '.')).reverse

/-- The part of a name before its last dot, if it has one. -/
def beforeLastPart? (s : String) : Option String :=
  match s.toList.reverse.dropWhile (· ≠ '.') with
  | [] => none
  | _ :: before => some (String.ofList before.reverse)

end QueryAssist.Text
