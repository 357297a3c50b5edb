import QueryAssist.Text.Dotted

/-!
# Dotted names

* `append_dot_inj` — a text is cut at its last dot in one way only.
* `toList_eq_append_lastPart` — a name with a dot is cut there into what comes before and the last
  part.
* `lastPart_append` — what stands before a dot does not matter for the last part.
* `toList_joinDots` — the characters of a path, and `mem_joinDots`, `suffix_intercalate`,
  `filter_intercalate` about them.
* `splitDots_append`, `splitDots_eq_singleton_iff` — a name is cut at all its dots, and
  `joinDots_splitDots` puts it together again.
-/

namespace QueryAssist.Text

/-! ## The last part -/

/-- A text is cut at its last dot in one way only. -/
theorem append_dot_inj {before last before' last' : List Char} (h : '.' ∉ last) (h' : '.' ∉ last')
    (heq : before ++ '.' :: last = before' ++ '.' :: last') : before = before' ∧ last = last' := by
  rcases List.append_eq_append_iff.1 heq with ⟨more, rfl, hmore⟩ | ⟨more, rfl, hmore⟩
  · cases more with
    | nil => simpa using hmore
    | cons c more =>
      obtain ⟨-, rfl⟩ := List.cons.inj hmore
      exact absurd (by simp) h
  · cases more with
    | nil => simpa [eq_comm] using hmore
    | cons c more =>
      obtain ⟨-, rfl⟩ := List.cons.inj hmore
      exact absurd (by simp) h'

theorem dot_not_mem_lastPart (s : String) : '.' ∉ (lastPart s).toList := by
  intro h
  rw [lastPart, String.toList_ofList, List.mem_reverse] at h
  have hall := List.all_eq_true.1
    (List.all_takeWhile (p := (· ≠ '.')) (l := s.toList.reverse)) '.' h
  exact absurd hall (by decide)

theorem ne_dot_of_mem_reverse {cs : List Char} (h : '.' ∉ cs) :
    ∀ c ∈ cs.reverse, decide (c ≠ '.') = true := by
  intro c hc
  rw [decide_eq_true_eq]
  rintro rfl
  exact h (List.mem_reverse.1 hc)

/-- What comes after the last dot is the last part. -/
theorem lastPart_of_eq_append {s : String} {before last : List Char}
    (h : s.toList = before ++ '.' :: last) (hlast : '.' ∉ last) :
    lastPart s = String.ofList last := by
  have hreverse : s.toList.reverse = last.reverse ++ '.' :: before.reverse := by simp [h]
  rw [lastPart, hreverse, List.takeWhile_append_of_pos (ne_dot_of_mem_reverse hlast)]
  simp

/-- A name without dots is its own last part. -/
theorem lastPart_eq_self {s : String} (h : '.' ∉ s.toList) : lastPart s = s := by
  have htake : (s.toList.reverse ++ []).takeWhile (· ≠ '.') = s.toList.reverse ++ [] :=
    List.takeWhile_append_of_pos (ne_dot_of_mem_reverse h)
  rw [List.append_nil] at htake
  rw [lastPart, htake, List.reverse_reverse, String.ofList_toList]

/-- A name with a dot is what comes before its last dot, the dot, and its last part. -/
theorem toList_eq_append_lastPart {s : String} (h : '.' ∈ s.toList) :
    ∃ before, s.toList = before ++ '.' :: (lastPart s).toList := by
  obtain ⟨last, before, hsplit, hlast⟩ := List.eq_append_cons_of_mem (List.mem_reverse.2 h)
  have hs : s.toList = before.reverse ++ '.' :: last.reverse := by
    rw [← List.reverse_reverse s.toList, hsplit]
    simp
  refine ⟨before.reverse, ?_⟩
  rw [lastPart_of_eq_append hs (by simpa using hlast), String.toList_ofList]
  exact hs

/-- What stands before a dot does not matter for the last part. -/
theorem lastPart_append (before rest : String) :
    lastPart (before ++ "." ++ rest) = lastPart rest := by
  have hs : (before ++ "." ++ rest).toList = before.toList ++ '.' :: rest.toList := by simp
  by_cases hdot : '.' ∈ rest.toList
  · obtain ⟨middle, hmiddle⟩ := toList_eq_append_lastPart hdot
    have hcut : (before ++ "." ++ rest).toList =
        (before.toList ++ '.' :: middle) ++ '.' :: (lastPart rest).toList := by
      rw [hs, List.append_assoc, List.cons_append, ← hmiddle]
    rw [lastPart_of_eq_append hcut (dot_not_mem_lastPart rest), String.ofList_toList]
  · rw [lastPart_of_eq_append hs hdot, String.ofList_toList, lastPart_eq_self hdot]

/-! ## Paths -/

section

variable {texts : List (List Char)}

theorem mem_intercalate_of_mem {sep text : List Char} (htext : text ∈ texts) {c : Char}
    (hc : c ∈ text) : c ∈ sep.intercalate texts := by
  induction texts with
  | nil => exact absurd htext List.not_mem_nil
  | cons first others ih =>
    cases others with
    | nil => rwa [List.intercalate_singleton, ← List.mem_singleton.1 htext]
    | cons second others =>
      rw [List.intercalate_cons_cons, List.mem_append, List.mem_append]
      rcases List.mem_cons.1 htext with rfl | hothers
      · exact .inl (.inl hc)
      · exact .inr (ih hothers)

/-- Parts with a separator between every two end in the last part. -/
theorem suffix_intercalate (sep : List Char) (parts : List (List Char)) (last : List Char) :
    last <:+ sep.intercalate (parts ++ [last]) := by
  induction parts with
  | nil => simp
  | cons part parts ih =>
    have hrest : parts ++ [last] ≠ [] := by simp
    rw [List.cons_append, List.intercalate_cons_of_ne_nil hrest]
    exact ih.trans (List.suffix_append _ _)

theorem filter_intercalate (kept : Char → Bool) (sep : List Char) :
    (sep.intercalate texts).filter kept =
      (sep.filter kept).intercalate (texts.map (List.filter kept)) := by
  induction texts with
  | nil => rfl
  | cons first others ih =>
    cases others with
    | nil => simp
    | cons second others =>
      rw [List.intercalate_cons_cons, List.filter_append, List.filter_append, ih]
      simp [List.intercalate_cons_cons]

end

variable {path : List String}

theorem toList_joinDots (path : List String) :
    (joinDots path).toList = ['.'].intercalate (path.map String.toList) :=
  String.toList_intercalate

theorem mem_joinDots {name : String} (hname : name ∈ path) {c : Char} (hc : c ∈ name.toList) :
    c ∈ (joinDots path).toList := by
  rw [toList_joinDots]
  exact mem_intercalate_of_mem (List.mem_map_of_mem hname) hc

theorem toList_joinDots_ne_nil (hsome : path ≠ []) (nonempty : ∀ name ∈ path, name.toList ≠ []) :
    (joinDots path).toList ≠ [] := by
  obtain ⟨first, others, rfl⟩ := List.exists_cons_of_ne_nil hsome
  obtain ⟨c, hc⟩ := List.exists_mem_of_ne_nil _ (nonempty first List.mem_cons_self)
  exact List.ne_nil_of_mem (mem_joinDots List.mem_cons_self hc)

/-! ## All parts -/

theorem splitDotsL_eq_splitOn (cs : List Char) : splitDotsL cs = cs.splitOn '.' := by
  induction cs with
  | nil => rfl
  | cons c cs ih =>
    rw [splitDotsL, List.splitOn_cons_eq_if_modifyHead, ih]
    by_cases hc : c = '.'
    · simp [hc]
    · obtain ⟨part, parts, hparts⟩ := List.exists_cons_of_ne_nil (List.splitOn_ne_nil '.' cs)
      simp [hc, hparts]

theorem splitDots_ne_nil (s : String) : splitDots s ≠ [] := by
  simp [splitDots, splitDotsL_eq_splitOn, List.splitOn_ne_nil]

theorem length_splitDots_pos (s : String) : 0 < (splitDots s).length :=
  List.length_pos_iff.2 (splitDots_ne_nil s)

/-- The parts of two names with a dot between them are those of the one and those of the other. -/
theorem splitDots_append (front back : String) :
    splitDots (front ++ "." ++ back) = splitDots front ++ splitDots back := by
  have hlist : (front ++ "." ++ back).toList = front.toList ++ '.' :: back.toList := by simp
  rw [splitDots, hlist, splitDotsL_eq_splitOn, List.splitOn_append_cons_self, List.map_append,
    ← splitDotsL_eq_splitOn, ← splitDotsL_eq_splitOn]
  rfl

/-- A name is its only part if it has no dots. -/
theorem splitDots_eq_singleton_iff {s : String} : splitDots s = [s] ↔ '.' ∉ s.toList := by
  constructor
  · intro hparts hdot
    obtain ⟨front, back, hs, -⟩ := List.eq_append_cons_of_mem hdot
    have hcut : s = String.ofList front ++ "." ++ String.ofList back :=
      String.toList_inj.1 (by simp [hs])
    rw [hcut, splitDots_append] at hparts
    have hfront := length_splitDots_pos (String.ofList front)
    have hback := length_splitDots_pos (String.ofList back)
    have hlength := congrArg List.length hparts
    rw [List.length_append, List.length_singleton] at hlength
    omega
  · intro hdot
    rw [splitDots, splitDotsL_eq_splitOn, List.splitOn_eq_singleton hdot, List.map_singleton,
      String.ofList_toList]

/-- Two names with a dot between them are the only parts if neither of them has dots. -/
theorem splitDots_append_eq_pair_iff {front back : String} :
    splitDots (front ++ "." ++ back) = [front, back] ↔
      '.' ∉ front.toList ∧ '.' ∉ back.toList := by
  rw [splitDots_append, ← splitDots_eq_singleton_iff, ← splitDots_eq_singleton_iff]
  constructor
  · intro hparts
    have hfront := length_splitDots_pos front
    have hback := length_splitDots_pos back
    have hlength := congrArg List.length hparts
    rw [List.length_append, List.length_cons, List.length_singleton] at hlength
    have hone : (splitDots front).length = [front].length := by
      rw [List.length_singleton]
      omega
    have hpair : splitDots front ++ splitDots back = [front] ++ [back] := hparts
    exact List.append_inj hpair hone
  · rintro ⟨hfront, hback⟩
    rw [hfront, hback]
    rfl

/-- The parts of a name with dots between them are the name. -/
theorem joinDots_splitDots (s : String) : joinDots (splitDots s) = s := by
  refine String.toList_inj.1 ?_
  have hparts : (splitDots s).map String.toList = s.toList.splitOn '.' := by
    rw [splitDots, splitDotsL_eq_splitOn, List.map_map]
    simp [Function.comp_def]
  rw [toList_joinDots, hparts]
  exact List.intercalate_splitOn '.'

/-- A part has no characters but those of the name. -/
theorem mem_of_mem_splitDots {s part : String} (hpart : part ∈ splitDots s) {c : Char}
    (hc : c ∈ part.toList) : c ∈ s.toList := by
  rw [← joinDots_splitDots s]
  exact mem_joinDots hpart hc

end QueryAssist.Text
