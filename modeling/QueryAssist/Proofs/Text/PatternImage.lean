import QueryAssist.Proofs.Text.Pattern

/-!
# Matches in the image of a text

A pattern sees of a character only in which of its classes the character is.  So a map of characters
that leaves these classes as they are takes the matches in a text to those in its image.

* `Pattern.Ignores` — the classes of a pattern do not tell a character from its image.
* `ends_map` — **the ends of a match in the image of a text are the images of its ends**.
* `matchAt_map`, `scan_map` — so are the matches themselves, and all that a search finds.
-/

namespace QueryAssist.Text

variable {f : Char → Char}

/-! ## Images -/

/-- What has been remembered, in the image of the text. -/
def Group.map (f : Char → Char) (g : Group) : Group :=
  ⟨g.index, g.text.map f, g.rest.map f⟩

/-- The same place in the image of the text. -/
def Place.map (f : Char → Char) (place : Place) : Place :=
  ⟨place.last.map f, place.rest.map f, place.groups.map (Group.map f)⟩

/-- The same match in the image of the text. -/
def Match.map (f : Char → Char) (m : Match) : Match :=
  ⟨m.text.map f, m.after.map f, m.groups.map (Group.map f)⟩

theorem Match.group?_map (m : Match) (index : Nat) :
    (m.map f).group? index = (m.group? index).map (Group.map f) :=
  List.find?_map

theorem Place.upTo_map (start stop : Place) :
    (start.map f).upTo (stop.map f) = (start.upTo stop).map f := by
  simp [Place.upTo, Place.map, List.map_take]

theorem Place.isBoundary_map {cls : Char → Bool} (h : ∀ c, cls (f c) = cls c) (place : Place) :
    (place.map f).isBoundary cls = place.isBoundary cls := by
  have hany (c : Option Char) : (c.map f).any cls = c.any cls := by
    cases c with
    | none => rfl
    | some c => exact h c
  simp [Place.isBoundary, Place.map, hany]

namespace Pattern

/-! ## The ends of a match -/

/-- Whether no class of a pattern tells a character from its image. -/
def Ignores (f : Char → Char) : Pattern → Prop
  | nothing => True
  | one cls | many cls | boundary cls => ∀ c, cls (f c) = cls c
  | seq p q | either p q => Ignores f p ∧ Ignores f q
  | group _ p => Ignores f p

theorem ignores_maybe {p : Pattern} (h : p.Ignores f) : (maybe p).Ignores f :=
  ⟨h, trivial⟩

theorem ignores_all {ps : List Pattern} (h : ∀ p ∈ ps, p.Ignores f) : (all ps).Ignores f := by
  induction ps with
  | nil => trivial
  | cons p ps ih =>
    obtain ⟨hp, hps⟩ := List.forall_mem_cons.1 h
    exact ⟨hp, ih hps⟩

theorem ignores_anyOf {ps : List Pattern} (h : ∀ p ∈ ps, p.Ignores f) : (anyOf ps).Ignores f := by
  induction ps with
  | nil => exact fun _ => rfl
  | cons p ps ih =>
    obtain ⟨hp, hps⟩ := List.forall_mem_cons.1 h
    cases ps with
    | nil => exact hp
    | cons q ps => exact ⟨hp, ih hps⟩

theorem manyEnds_map {cls : Char → Bool} (h : ∀ c, cls (f c) = cls c) (groups : List Group)
    (last : Option Char) (cs : List Char) :
    manyEnds cls (groups.map (Group.map f)) (last.map f) (cs.map f) =
      (manyEnds cls groups last cs).map (Place.map f) := by
  induction cs generalizing last with
  | nil => rfl
  | cons c cs ih =>
    rw [List.map_cons, manyEnds, manyEnds, h c]
    split
    · rw [List.map_append, ← ih]
      rfl
    · rfl

/-- **The ends of a match in the image of a text are the images of its ends in the text.** -/
theorem ends_map {p : Pattern} (h : p.Ignores f) (start : Place) :
    p.ends (start.map f) = (p.ends start).map (Place.map f) := by
  induction p generalizing start with
  | nothing => rfl
  | one cls =>
    obtain ⟨last, _ | ⟨c, cs⟩, groups⟩ := start
    · rfl
    · simp only [Place.map, List.map_cons, ends, h c]
      split <;> rfl
  | many cls =>
    obtain ⟨last, _ | ⟨c, cs⟩, groups⟩ := start
    · rfl
    · simp only [Place.map, List.map_cons, ends, h c]
      split
      · exact manyEnds_map h groups (some c) cs
      · rfl
  | boundary cls =>
    rw [ends, ends, Place.isBoundary_map h]
    split <;> rfl
  | seq p q ihp ihq =>
    rw [ends, ends, ihp h.1, List.flatMap_map, List.map_flatMap]
    simp only [ihq h.2]
  | either p q ihp ihq => rw [ends, ends, ihp h.1, ihq h.2, List.map_append]
  | group index p ih =>
    rw [ends, ends, ih h, List.map_map, List.map_map]
    refine List.map_congr_left fun stop _ => ?_
    simp [Place.map, Group.map, ← Place.upTo_map]

/-! ## Matches and searches -/

section

variable {p : Pattern} {resume : Match → List Char}

theorem matchAt_map (h : p.Ignores f) (last : Option Char) (cs : List Char) :
    p.matchAt (last.map f) (cs.map f) = (p.matchAt last cs).map (Match.map f) := by
  have hbest : p.best? ⟨last.map f, cs.map f, []⟩ = (p.best? ⟨last, cs, []⟩).map (Place.map f) := by
    have hends := ends_map h ⟨last, cs, []⟩
    rw [best?, best?, ← List.head?_map, ← hends]
    rfl
  rw [matchAt_eq_best?, matchAt_eq_best?, hbest, Option.map_map, Option.map_map]
  congr 1
  funext stop
  simp [Match.map, Place.map, List.map_take]

/-- **A search finds in the image of a text the images of what it finds in the text.** -/
theorem scan_map (h : p.Ignores f) (hresume : ∀ m, resume (m.map f) = (resume m).map f)
    (skip : Nat) (last : Option Char) (cs : List Char) :
    p.scan resume skip (last.map f) (cs.map f) =
      (p.scan resume skip last cs).map (Match.map f) := by
  induction cs generalizing skip last with
  | nil =>
    have hmatch := matchAt_map h last []
    rw [List.map_nil] at hmatch ⊢
    rw [scan, scan, hmatch]
    split
    · exact Option.toList_map
    · rfl
  | cons c cs ih =>
    have hmatch := matchAt_map h last (c :: cs)
    cases skip with
    | succ skip => exact ih skip (some c)
    | zero =>
      rw [List.map_cons] at hmatch ⊢
      rw [scan, scan, hmatch]
      cases p.matchAt last (c :: cs) with
      | none => exact ih 0 (some c)
      | some m =>
        simp only [Option.map_some, List.map_cons, hresume, List.length_map]
        exact congrArg _ (ih _ (some c))

theorem findAll_map (h : p.Ignores f) (cs : List Char) :
    p.findAll (cs.map f) = (p.findAll cs).map (Match.map f) :=
  scan_map h (fun _ => rfl) 0 none cs

theorem occursIn_map (h : p.Ignores f) (cs : List Char) :
    p.occursIn (cs.map f) = p.occursIn cs := by
  rw [occursIn, occursIn, findAll_map h, List.isEmpty_map]

end

end Pattern

end QueryAssist.Text
