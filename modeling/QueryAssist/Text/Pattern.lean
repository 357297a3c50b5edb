/-!
# Patterns

A small pattern language for finding keywords and references in a text.  A pattern is matched by
trying its alternatives from the left and repetitions from the longest, and the first way that
succeeds is taken.

* `Pattern.ends` is the meaning of a pattern: all places where a match can end, best first.
* `Pattern.run` finds the first end from which a continuation succeeds; `run_eq_findSome?` says
  that it is a search through `ends`.
* `Pattern.scan` finds all matches in a text, from left to right.
-/

namespace QueryAssist.Text

/-! ## Patterns -/

/-- A pattern over characters. -/
inductive Pattern where
  /-- the empty text -/
  | nothing
  /-- one character of a class -/
  | one (cls : Char → Bool)
  /-- one or more characters of a class, as many as possible first -/
  | many (cls : Char → Bool)
  /-- a place with a character of the class on exactly one side -/
  | boundary (cls : Char → Bool)
  | seq (first second : Pattern)
  /-- the first pattern, or else the second -/
  | either (first second : Pattern)
  /-- a part of a match that is remembered under a number -/
  | group (index : Nat) (inner : Pattern)

/-- A remembered part of a match: its text and what follows it. -/
structure Group where
  index : Nat
  text : List Char
  rest : List Char

/-- A place in a text reached by a match: the character before it, the text after it, and the
groups remembered so far, last one first. -/
structure Place where
  last : Option Char
  rest : List Char
  groups : List Group

/-- The text from one place up to a later one. -/
def Place.upTo (start stop : Place) : List Char :=
  start.rest.take (start.rest.length - stop.rest.length)

/-- Whether a class changes at a place. -/
def Place.isBoundary (cls : Char → Bool) (place : Place) : Bool :=
  place.last.any cls != place.rest.head?.any cls

namespace Pattern

/-! ## Meaning -/

/-- The places after zero or more characters of a class, the farthest first. -/
def manyEnds (cls : Char → Bool) (groups : List Group) : Option Char → List Char → List Place
  | last, [] => [⟨last, [], groups⟩]
  | last, c :: cs =>
    if cls c then manyEnds cls groups (some c) cs ++ [⟨last, c :: cs, groups⟩]
    else [⟨last, c :: cs, groups⟩]

/-- All places where a match that starts at a place can end, best first. -/
def ends : Pattern → Place → List Place
  | nothing, place => [place]
  | one cls, ⟨_, rest, groups⟩ =>
    match rest with
    | c :: cs => if cls c then [⟨some c, cs, groups⟩] else []
    | [] => []
  | many cls, ⟨_, rest, groups⟩ =>
    match rest with
    | c :: cs => if cls c then manyEnds cls groups (some c) cs else []
    | [] => []
  | boundary cls, place => if place.isBoundary cls then [place] else []
  | seq first second, place => (ends first place).flatMap (ends second)
  | either first second, place => ends first place ++ ends second place
  | group index inner, place => (ends inner place).map fun stop =>
    { stop with groups := ⟨index, place.upTo stop, stop.rest⟩ :: stop.groups }

/-! ## Search -/

variable {α : Type}

/-- Offers the places after zero or more characters of a class, the farthest first. -/
def runMany (cls : Char → Bool) (groups : List Group) (accept : Place → Option α) :
    Option Char → List Char → Option α
  | last, [] => accept ⟨last, [], groups⟩
  | last, c :: cs =>
    if cls c then
      match runMany cls groups accept (some c) cs with
      | some found => some found
      | none => accept ⟨last, c :: cs, groups⟩
    else accept ⟨last, c :: cs, groups⟩

/-- Offers the ends of a match to `accept`, best first, and returns the first answer. -/
def run : Pattern → Place → (Place → Option α) → Option α
  | nothing, place, accept => accept place
  | one cls, ⟨_, rest, groups⟩, accept =>
    match rest with
    | c :: cs => if cls c then accept ⟨some c, cs, groups⟩ else none
    | [] => none
  | many cls, ⟨_, rest, groups⟩, accept =>
    match rest with
    | c :: cs => if cls c then runMany cls groups accept (some c) cs else none
    | [] => none
  | boundary cls, place, accept => if place.isBoundary cls then accept place else none
  | seq first second, place, accept => run first place fun stop => run second stop accept
  | either first second, place, accept =>
    match run first place accept with
    | some found => some found
    | none => run second place accept
  | group index inner, place, accept => run inner place fun stop =>
    accept { stop with groups := ⟨index, place.upTo stop, stop.rest⟩ :: stop.groups }

theorem runMany_eq_findSome? (cls : Char → Bool) (groups : List Group)
    (accept : Place → Option α) (last : Option Char) (cs : List Char) :
    runMany cls groups accept last cs = (manyEnds cls groups last cs).findSome? accept := by
  induction cs generalizing last with
  | nil => simp [runMany, manyEnds]
  | cons c cs ih =>
    unfold runMany manyEnds
    split
    · rw [ih, List.findSome?_append]
      cases (manyEnds cls groups (some c) cs).findSome? accept <;> simp
    · simp

theorem findSome?_flatMap (places : List Place) (next : Place → List Place)
    (accept : Place → Option α) :
    (places.flatMap next).findSome? accept =
      places.findSome? fun place => (next place).findSome? accept := by
  induction places with
  | nil => rfl
  | cons place places ih =>
    rw [List.flatMap_cons, List.findSome?_append, List.findSome?_cons, ih]
    cases (next place).findSome? accept <;> simp

/-- The search goes through the ends of a match in their order. -/
theorem run_eq_findSome? (p : Pattern) (place : Place) (accept : Place → Option α) :
    p.run place accept = (p.ends place).findSome? accept := by
  induction p generalizing place accept with
  | nothing => simp [run, ends]
  | one cls =>
    obtain ⟨last, _ | ⟨c, cs⟩, groups⟩ := place
    · simp [run, ends]
    · simp only [run, ends]; split <;> simp
  | many cls =>
    obtain ⟨last, _ | ⟨c, cs⟩, groups⟩ := place
    · simp [run, ends]
    · simp only [run, ends]; split <;> simp [runMany_eq_findSome?]
  | boundary cls => simp only [run, ends]; split <;> simp
  | seq first second ih₁ ih₂ => simp only [run, ends, ih₁, ih₂, findSome?_flatMap]
  | either first second ih₁ ih₂ =>
    simp only [run, ends, ih₁, ih₂, List.findSome?_append]
    cases (first.ends place).findSome? accept <;> simp
  | group index inner ih => simp only [run, ends, ih, List.findSome?_map]; rfl

/-! ## Building patterns -/

/-- A pattern or nothing; the pattern is preferred. -/
def maybe (p : Pattern) : Pattern :=
  either p nothing

/-- Patterns one after the other. -/
def all (ps : List Pattern) : Pattern :=
  ps.foldr seq nothing

/-- The first of several patterns that leads to a match. -/
def anyOf : List Pattern → Pattern
  | [] => one fun _ => false
  | [p] => p
  | p :: ps => either p (anyOf ps)

end Pattern

/-! ## Matches -/

/-- A match: its text, what follows it, and its groups. -/
structure Match where
  text : List Char
  after : List Char
  groups : List Group

/-- The group with a number, if the match took part in it. -/
def Match.group? (m : Match) (index : Nat) : Option Group :=
  m.groups.find? (·.index == index)

namespace Pattern

/-- The best match that starts at the beginning of `cs`, with `last` before it. -/
def matchAt (p : Pattern) (last : Option Char) (cs : List Char) : Option Match :=
  p.run ⟨last, cs, []⟩ fun stop =>
    some ⟨cs.take (cs.length - stop.rest.length), stop.rest, stop.groups⟩

/-- All matches from left to right.  `resume` says with what rest of the text the search goes on
after a match; `skip` characters are passed over first. -/
def scan (p : Pattern) (resume : Match → List Char) (skip : Nat) (last : Option Char) :
    List Char → List Match
  | [] => if skip = 0 then (p.matchAt last []).toList else []
  | c :: cs =>
    match skip with
    | skip + 1 => scan p resume skip (some c) cs
    | 0 =>
      match p.matchAt last (c :: cs) with
      | some m => m :: scan p resume (cs.length - (resume m).length) (some c) cs
      | none => scan p resume 0 (some c) cs

/-- All matches in a text that do not overlap, from left to right. -/
def findAll (p : Pattern) (text : List Char) : List Match :=
  p.scan Match.after 0 none text

/-- Whether a pattern matches somewhere in a text. -/
def occursIn (p : Pattern) (text : List Char) : Bool :=
  !(p.findAll text).isEmpty

end Pattern

end QueryAssist.Text
