import QueryAssist.Text.Blank

/-!
# The fields of a text

* `fieldsL_append_cons` — a blank parts the fields before it from those after it.
* `fieldsL_eq_singleton` — a text without blanks is one field.
* `exists_fieldsL_cons` — a text that does not begin with a blank begins with a field.
* `fieldsL_map`, `trimL_map` — fields and ends in the image of a text under a map that keeps blanks.
-/

namespace QueryAssist.Text

theorem fieldsFrom_append {word : List Char} (inside : ∀ c ∈ word, isBlank c = false)
    (current rest : List Char) :
    fieldsFrom current (word ++ rest) = fieldsFrom (word.reverse ++ current) rest := by
  induction word generalizing current with
  | nil => rfl
  | cons c word ih =>
    have hc : isBlank c = false := inside c List.mem_cons_self
    rw [List.cons_append, fieldsFrom, if_neg (by simp [hc]),
      ih (fun d hd => inside d (List.mem_cons_of_mem c hd)), List.reverse_cons, List.append_assoc,
      List.singleton_append]

/-- A blank parts the fields before it from those after it. -/
theorem fieldsFrom_append_cons {b : Char} (hb : isBlank b = true) (current front rest : List Char) :
    fieldsFrom current (front ++ b :: rest) = fieldsFrom current front ++ fieldsL rest := by
  induction front generalizing current with
  | nil =>
    rw [List.nil_append, fieldsFrom, fieldsFrom, if_pos hb]
    split <;> rfl
  | cons c front ih =>
    rw [List.cons_append, fieldsFrom, fieldsFrom]
    split
    · split
      · exact ih []
      · rw [ih [], List.cons_append]
    · exact ih (c :: current)

theorem fieldsL_append_cons {b : Char} (hb : isBlank b = true) (front rest : List Char) :
    fieldsL (front ++ b :: rest) = fieldsL front ++ fieldsL rest :=
  fieldsFrom_append_cons hb [] front rest

/-- Blanks in front of a text have no part in its fields. -/
theorem fieldsL_append_of_blanks {gap : List Char} (blank : ∀ c ∈ gap, isBlank c = true)
    (rest : List Char) : fieldsL (gap ++ rest) = fieldsL rest := by
  induction gap with
  | nil => rfl
  | cons b gap ih =>
    have hrest := ih fun c hc => blank c (List.mem_cons_of_mem b hc)
    rw [← hrest]
    exact fieldsL_append_cons (blank b List.mem_cons_self) [] (gap ++ rest)

/-- A text without blanks is one field. -/
theorem fieldsL_eq_singleton {word : List Char} (hsome : word ≠ [])
    (inside : ∀ c ∈ word, isBlank c = false) : fieldsL word = [word] := by
  have hread := fieldsFrom_append inside [] []
  rw [List.append_nil, List.append_nil] at hread
  rw [fieldsL, hread, fieldsFrom, if_neg (by simp [hsome]), List.reverse_reverse]

/-- The field that is being read goes on. -/
theorem exists_fieldsFrom_cons {current : List Char} (hsome : current ≠ []) (cs : List Char) :
    ∃ more words, fieldsFrom current cs = (current.reverse ++ more) :: words := by
  induction cs generalizing current with
  | nil => exact ⟨[], [], by simp [fieldsFrom, hsome]⟩
  | cons c cs ih =>
    rw [fieldsFrom]
    split
    · exact ⟨[], fieldsFrom [] cs, by simp [hsome]⟩
    · obtain ⟨more, words, hfields⟩ := ih (List.cons_ne_nil c current)
      exact ⟨c :: more, words, by simp [hfields]⟩

/-- A text that does not begin with a blank begins with a field. -/
theorem exists_fieldsL_cons {c : Char} (hc : isBlank c = false) (cs : List Char) :
    ∃ more words, fieldsL (c :: cs) = (c :: more) :: words := by
  rw [fieldsL, fieldsFrom, if_neg (by simp [hc])]
  exact exists_fieldsFrom_cons (List.cons_ne_nil c []) cs

/-! ## Images of a text -/

section

variable {f : Char → Char}

/-- The fields of the image of a text are the images of its fields. -/
theorem fieldsFrom_map (h : ∀ c, isBlank (f c) = isBlank c) (current cs : List Char) :
    fieldsFrom (current.map f) (cs.map f) = (fieldsFrom current cs).map (List.map f) := by
  induction cs generalizing current with
  | nil =>
    rw [List.map_nil, fieldsFrom, fieldsFrom, List.isEmpty_map]
    split <;> simp
  | cons c cs ih =>
    rw [List.map_cons, fieldsFrom, fieldsFrom, h c, List.isEmpty_map]
    split
    · split
      · exact ih []
      · rw [List.map_cons, List.map_reverse, ← ih []]
        rfl
    · exact ih (c :: current)

theorem fieldsL_map (h : ∀ c, isBlank (f c) = isBlank c) (cs : List Char) :
    fieldsL (cs.map f) = (fieldsL cs).map (List.map f) :=
  fieldsFrom_map h [] cs

theorem trimL_map (h : ∀ c, isBlank (f c) = isBlank c) (cs : List Char) :
    trimL (cs.map f) = (trimL cs).map f := by
  have hdrop (cs : List Char) : (cs.map f).dropWhile isBlank = (cs.dropWhile isBlank).map f := by
    rw [List.dropWhile_map]
    congr 2
    funext c
    exact h c
  rw [trimL, trimL, hdrop, ← List.map_reverse, hdrop, List.map_reverse]

end

end QueryAssist.Text
