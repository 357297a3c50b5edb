import QueryAssist.Text.Pattern

/-!
# Matches of a pattern

* `best?` — the end of the match that is taken, put together from those of the parts of a pattern.
* `HasRead` — what has been read between two places; `exists_hasRead` says that a match reads a part
  of the text, of characters that the pattern can read.
* `text_of_group?` — what a match remembers under a number, a group of the pattern has read.
* `scan_pass`, `scan_match` — how the search goes through a text; `exists_of_mem_scan` says that it
  finds matches only, and `exists_scan_append` that it comes by every place that no match goes over.
* `scan_eq_nil_iff` — it finds nothing only where nothing matches, and `scan_eq_append_cons` says that
  what it finds after a match stands in the text behind it.
-/

namespace QueryAssist.Text

namespace Pattern

/-- The character before the end of a text that goes on behind its first character. -/
theorem getLast?_cons_or (c : Char) (cs : List Char) (last : Option Char) :
    (c :: cs).getLast?.or last = cs.getLast?.or (some c) := by
  rw [List.getLast?_cons]
  cases cs.getLast? <;> rfl

/-! ## The match that is taken -/

/-- The end of the match that is taken from a place, if there is one. -/
def best? (p : Pattern) (place : Place) : Option Place :=
  (p.ends place).head?

section

variable {p q : Pattern} {start middle stop : Place}

theorem matchAt_eq_best? (p : Pattern) (last : Option Char) (cs : List Char) :
    p.matchAt last cs = (p.best? ⟨last, cs, []⟩).map fun stop =>
      ⟨cs.take (cs.length - stop.rest.length), stop.rest, stop.groups⟩ := by
  rw [matchAt, run_eq_findSome?, best?]
  cases p.ends ⟨last, cs, []⟩ <;> rfl

theorem best?_eq_none_iff : p.best? start = none ↔ p.ends start = [] :=
  List.head?_eq_none_iff

theorem mem_ends_of_best? (h : p.best? start = some stop) : stop ∈ p.ends start :=
  List.mem_of_head? h

theorem best?_one (cls : Char → Bool) (last : Option Char) (c : Char) (cs : List Char)
    (groups : List Group) :
    (one cls).best? ⟨last, c :: cs, groups⟩ =
      if cls c then some ⟨some c, cs, groups⟩ else none := by
  rw [best?, ends]
  split <;> rfl

theorem best?_boundary (cls : Char → Bool) (start : Place) :
    (boundary cls).best? start = if start.isBoundary cls then some start else none := by
  rw [best?, ends]
  split <;> rfl

theorem best?_either (p q : Pattern) (start : Place) :
    (either p q).best? start = (p.best? start).or (q.best? start) :=
  List.head?_append

theorem best?_group (index : Nat) (p : Pattern) (start : Place) :
    (group index p).best? start = (p.best? start).map fun stop =>
      { stop with groups := ⟨index, start.upTo stop, stop.rest⟩ :: stop.groups } :=
  List.head?_map

/-- When both parts of a sequence match at their best, so does the sequence. -/
theorem best?_seq (first : p.best? start = some middle) (second : q.best? middle = some stop) :
    (seq p q).best? start = some stop := by
  obtain ⟨others, hothers⟩ := List.head?_eq_some_iff.1 first
  obtain ⟨more, hmore⟩ := List.head?_eq_some_iff.1 second
  rw [best?, ends, hothers, List.flatMap_cons, hmore]
  rfl

/-- A sequence does not match when its second part matches at no end of the first. -/
theorem best?_seq_eq_none (h : ∀ middle ∈ p.ends start, q.best? middle = none) :
    (seq p q).best? start = none := by
  rw [best?_eq_none_iff, ends, List.flatMap_eq_nil_iff]
  exact fun middle hmiddle => best?_eq_none_iff.1 (h middle hmiddle)

/-- A sequence does not match when its first part does not. -/
theorem best?_seq_eq_none_of_first (h : p.best? start = none) : (seq p q).best? start = none := by
  refine best?_seq_eq_none fun middle hmiddle => ?_
  rw [best?_eq_none_iff.1 h] at hmiddle
  exact absurd hmiddle List.not_mem_nil

/-- What may be left out is left out when it does not match. -/
theorem best?_maybe_of_none (h : p.best? start = none) : (maybe p).best? start = some start := by
  rw [maybe, best?_either, h]
  rfl

/-- The first of two patterns is taken when it matches. -/
theorem best?_either_of_some (h : p.best? start = some stop) :
    (either p q).best? start = some stop := by
  rw [best?_either, h]
  rfl

/-- What may be left out is taken when it matches. -/
theorem best?_maybe_of_some (h : p.best? start = some stop) : (maybe p).best? start = some stop :=
  best?_either_of_some h

/-- A boundary reads nothing, and the class changes there. -/
theorem mem_ends_boundary_iff {cls : Char → Bool} :
    stop ∈ (boundary cls).ends start ↔ stop = start ∧ start.isBoundary cls = true := by
  rw [ends]
  split
  · next h => simp [h]
  · next h => simp [h]

theorem eq_of_mem_ends_boundary {cls : Char → Bool} (h : stop ∈ (boundary cls).ends start) :
    stop = start :=
  (mem_ends_boundary_iff.1 h).1

/-- What one of several patterns matches, they match together. -/
theorem mem_ends_anyOf {ps : List Pattern} (hp : p ∈ ps) (h : stop ∈ p.ends start) :
    stop ∈ (anyOf ps).ends start := by
  induction ps with
  | nil => exact absurd hp List.not_mem_nil
  | cons q ps ih =>
    cases ps with
    | nil => exact List.mem_singleton.1 hp ▸ h
    | cons r ps =>
      rcases List.mem_cons.1 hp with rfl | hothers
      · exact List.mem_append_left _ h
      · exact List.mem_append_right _ (ih hothers)

/-- A match of one of several patterns is a match of one of them. -/
theorem exists_of_mem_ends_anyOf {ps : List Pattern} (h : stop ∈ (anyOf ps).ends start) :
    ∃ p ∈ ps, stop ∈ p.ends start := by
  induction ps with
  | nil =>
    obtain ⟨last, _ | ⟨c, cs⟩, groups⟩ := start
    · exact absurd h List.not_mem_nil
    · exact absurd h (by simp [anyOf, ends])
  | cons p ps ih =>
    cases ps with
    | nil => exact ⟨p, List.mem_cons_self, h⟩
    | cons q ps =>
      rcases List.mem_append.1 h with hfirst | hothers
      · exact ⟨p, List.mem_cons_self, hfirst⟩
      · obtain ⟨r, hr, hends⟩ := ih hothers
        exact ⟨r, List.mem_cons_of_mem p hr, hends⟩

/-- A repetition reads all it can at first. -/
theorem head?_manyEnds {cls : Char → Bool} {word next : List Char} (last : Option Char)
    (groups : List Group) (inside : ∀ c ∈ word, cls c = true)
    (outside : next.head?.any cls = false) :
    (manyEnds cls groups last (word ++ next)).head? =
      some ⟨word.getLast?.or last, next, groups⟩ := by
  induction word generalizing last with
  | nil =>
    cases next with
    | nil => rfl
    | cons c cs =>
      have hc : cls c = false := outside
      simp [manyEnds, hc]
  | cons c word ih =>
    have hrest := ih (some c) fun d hd => inside d (List.mem_cons_of_mem c hd)
    rw [List.cons_append, manyEnds, if_pos (inside c List.mem_cons_self), List.head?_append, hrest,
      getLast?_cons_or]
    rfl

/-- The match of a repetition on the characters of its class, up to another one. -/
theorem best?_many {cls : Char → Bool} {word next : List Char} (last : Option Char)
    (groups : List Group) (nonempty : word ≠ []) (inside : ∀ c ∈ word, cls c = true)
    (outside : next.head?.any cls = false) :
    (many cls).best? ⟨last, word ++ next, groups⟩ = some ⟨word.getLast?, next, groups⟩ := by
  cases word with
  | nil => exact absurd rfl nonempty
  | cons c word =>
    have hrest := head?_manyEnds (some c) groups
      (fun d hd => inside d (List.mem_cons_of_mem c hd)) outside
    rw [best?, List.cons_append, ends]
    simp only [inside c List.mem_cons_self, if_true]
    rw [hrest, List.getLast?_cons]
    cases word.getLast? <;> rfl

end

/-! ## What a match reads -/

/-- All characters that a pattern can read have a property. -/
def Reads (property : Char → Prop) : Pattern → Prop
  | nothing => True
  | one cls => ∀ c, cls c = true → property c
  | many cls => ∀ c, cls c = true → property c
  | boundary _ => True
  | seq p q => Reads property p ∧ Reads property q
  | either p q => Reads property p ∧ Reads property q
  | group _ p => Reads property p

/-- Between two places a part of the text has been read: all its characters have a property, and the
last one stands before the second place. -/
structure HasRead (property : Char → Prop) (start : Place) (read : List Char) (stop : Place) :
    Prop where
  text : start.rest = read ++ stop.rest
  all : ∀ c ∈ read, property c
  last : stop.last = read.getLast?.or start.last

namespace HasRead

variable {property : Char → Prop} {start middle stop : Place} {read more : List Char}

theorem nil (start : Place) : HasRead property start [] start :=
  ⟨rfl, by simp, rfl⟩

theorem cons {c : Char} {cs : List Char} {last : Option Char} {groups groups' : List Group}
    (hc : property c) (h : HasRead property ⟨some c, cs, groups⟩ read stop) :
    HasRead property ⟨last, c :: cs, groups'⟩ (c :: read) stop := by
  constructor
  case text => exact congrArg (c :: ·) h.text
  case all => exact List.forall_mem_cons.2 ⟨hc, h.all⟩
  case last => exact h.last.trans (getLast?_cons_or c read last).symm

theorem append (h : HasRead property start read middle) (h' : HasRead property middle more stop) :
    HasRead property start (read ++ more) stop := by
  constructor
  case text => rw [h.text, h'.text, List.append_assoc]
  case all => exact fun c hc => (List.mem_append.1 hc).elim (h.all c) (h'.all c)
  case last => rw [h'.last, h.last, List.getLast?_append, Option.or_assoc]

end HasRead

theorem exists_hasRead_of_mem_manyEnds {property : Char → Prop} {cls : Char → Bool}
    (reads : ∀ c, cls c = true → property c) {groups : List Group} {last : Option Char}
    {cs : List Char} {stop : Place} (h : stop ∈ manyEnds cls groups last cs) :
    ∃ read, HasRead property ⟨last, cs, groups⟩ read stop := by
  induction cs generalizing last with
  | nil =>
    rw [List.mem_singleton.1 h]
    exact ⟨[], .nil _⟩
  | cons c cs ih =>
    rw [manyEnds] at h
    split at h
    · next hc =>
      rcases List.mem_append.1 h with hmore | hhere
      · obtain ⟨read, hread⟩ := ih hmore
        exact ⟨c :: read, .cons (reads c hc) hread⟩
      · rw [List.mem_singleton.1 hhere]
        exact ⟨[], .nil _⟩
    · rw [List.mem_singleton.1 h]
      exact ⟨[], .nil _⟩

/-- A repetition reads one character of its class, or more of them. -/
theorem exists_hasRead_of_mem_ends_many {property : Char → Prop} {cls : Char → Bool}
    (reads : ∀ c, cls c = true → property c) {start stop : Place}
    (h : stop ∈ (many cls).ends start) : ∃ c read, HasRead property start (c :: read) stop := by
  obtain ⟨last, _ | ⟨c, cs⟩, groups⟩ := start
  · exact absurd h List.not_mem_nil
  · simp only [ends] at h
    split at h
    · next hc =>
      obtain ⟨read, hread⟩ := exists_hasRead_of_mem_manyEnds reads h
      exact ⟨c, read, .cons (reads c hc) hread⟩
    · exact absurd h List.not_mem_nil

/-- **A match reads the text up to its end, and only what its pattern can read.** -/
theorem exists_hasRead {property : Char → Prop} {p : Pattern} {start stop : Place}
    (reads : p.Reads property) (h : stop ∈ p.ends start) :
    ∃ read, HasRead property start read stop := by
  induction p generalizing start stop with
  | nothing =>
    rw [List.mem_singleton.1 h]
    exact ⟨[], .nil start⟩
  | one cls =>
    obtain ⟨last, _ | ⟨c, cs⟩, groups⟩ := start
    · exact absurd h List.not_mem_nil
    · simp only [ends] at h
      split at h
      · next hc =>
        rw [List.mem_singleton.1 h]
        exact ⟨[c], .cons (reads c hc) (.nil _)⟩
      · exact absurd h List.not_mem_nil
  | many cls =>
    obtain ⟨c, read, hread⟩ := exists_hasRead_of_mem_ends_many reads h
    exact ⟨c :: read, hread⟩
  | boundary cls =>
    rw [eq_of_mem_ends_boundary h]
    exact ⟨[], .nil start⟩
  | seq p q ihp ihq =>
    obtain ⟨middle, hmiddle, hstop⟩ := List.mem_flatMap.1 h
    obtain ⟨first, hfirst⟩ := ihp reads.1 hmiddle
    obtain ⟨second, hsecond⟩ := ihq reads.2 hstop
    exact ⟨first ++ second, hfirst.append hsecond⟩
  | either p q ihp ihq =>
    rcases List.mem_append.1 h with hp | hq
    · exact ihp reads.1 hp
    · exact ihq reads.2 hq
  | group index p ih =>
    obtain ⟨inner, hinner, rfl⟩ := List.mem_map.1 h
    obtain ⟨read, hread⟩ := ih reads hinner
    exact ⟨read, hread.text, hread.all, hread.last⟩

theorem exists_read {property : Char → Prop} {p : Pattern} {start stop : Place}
    (reads : p.Reads property) (h : stop ∈ p.ends start) :
    ∃ read, start.rest = read ++ stop.rest ∧ ∀ c ∈ read, property c := by
  obtain ⟨read, hread⟩ := exists_hasRead reads h
  exact ⟨read, hread.text, hread.all⟩

theorem reads_true (p : Pattern) : p.Reads fun _ => True := by
  induction p with
  | nothing | boundary => trivial
  | one | many => exact fun _ _ => trivial
  | seq p q ihp ihq | either p q ihp ihq => exact ⟨ihp, ihq⟩
  | group index p ih => exact ih

/-- **Before the end of a match stands the last character it has read**, or the one before its
start if it has read nothing. -/
theorem last_eq_of_mem_ends {p : Pattern} {start stop : Place} {read : List Char}
    (h : stop ∈ p.ends start) (hread : start.rest = read ++ stop.rest) :
    stop.last = read.getLast?.or start.last := by
  obtain ⟨same, hsame⟩ := exists_hasRead (reads_true p) h
  rw [hsame.last, List.append_cancel_right (hsame.text.symm.trans hread)]

/-- The text between the ends of a match is what it has read. -/
theorem upTo_of_read {start stop : Place} {read : List Char} (h : start.rest = read ++ stop.rest) :
    start.upTo stop = read := by
  rw [Place.upTo, h]
  simp

/-- A match in a text is a place where its pattern can end, and it has read the text up to there. -/
theorem exists_stop_of_matchAt {p : Pattern} {last : Option Char} {cs : List Char} {m : Match}
    (h : p.matchAt last cs = some m) :
    ∃ stop ∈ p.ends ⟨last, cs, []⟩, stop.rest = m.after ∧ cs = m.text ++ m.after := by
  rw [matchAt_eq_best?] at h
  obtain ⟨stop, hstop, rfl⟩ := Option.map_eq_some_iff.1 h
  have hends := mem_ends_of_best? hstop
  obtain ⟨read, hread, -⟩ := exists_read (reads_true p) hends
  refine ⟨stop, hends, rfl, ?_⟩
  have htext : cs.take (cs.length - stop.rest.length) = read := upTo_of_read hread
  rw [htext, ← hread]

/-- Where a pattern can end, something matches. -/
theorem exists_matchAt_of_mem_ends {p : Pattern} {last : Option Char} {cs : List Char}
    {stop : Place} (h : stop ∈ p.ends ⟨last, cs, []⟩) : ∃ m, p.matchAt last cs = some m := by
  obtain ⟨best, hbest⟩ : ∃ best, p.best? ⟨last, cs, []⟩ = some best := by
    rw [← Option.ne_none_iff_exists', Ne, best?_eq_none_iff]
    exact List.ne_nil_of_mem h
  exact ⟨_, by rw [matchAt_eq_best?, hbest]; rfl⟩

/-! ## What a match remembers -/

/-- The patterns whose matches are remembered under a number. -/
def remembered (index : Nat) : Pattern → List Pattern
  | nothing | one _ | many _ | boundary _ => []
  | seq p q | either p q => remembered index p ++ remembered index q
  | group i p => (if i = index then [p] else []) ++ remembered index p

theorem groups_of_mem_manyEnds {cls : Char → Bool} {groups : List Group} {last : Option Char}
    {cs : List Char} {stop : Place} (h : stop ∈ manyEnds cls groups last cs) :
    stop.groups = groups := by
  induction cs generalizing last with
  | nil => rw [List.mem_singleton.1 h]
  | cons c cs ih =>
    rw [manyEnds] at h
    split at h
    · rcases List.mem_append.1 h with hmore | hhere
      · exact ih hmore
      · rw [List.mem_singleton.1 hhere]
    · rw [List.mem_singleton.1 h]

/-- **What a match remembers under a number was remembered before, or it is a part of the text that
such a group of the pattern has read.** -/
theorem text_of_mem_groups {index : Nat} {property : Char → Prop} {p : Pattern}
    {start stop : Place} (reads : ∀ q ∈ p.remembered index, q.Reads property)
    (h : stop ∈ p.ends start) {found : Group} (hfound : found ∈ stop.groups)
    (hindex : found.index = index) :
    found ∈ start.groups ∨ ∀ c ∈ found.text, property c := by
  induction p generalizing start stop with
  | nothing =>
    rw [List.mem_singleton.1 h] at hfound
    exact .inl hfound
  | one cls =>
    obtain ⟨last, _ | ⟨c, cs⟩, groups⟩ := start
    · exact absurd h List.not_mem_nil
    · simp only [ends] at h
      split at h
      · rw [List.mem_singleton.1 h] at hfound
        exact .inl hfound
      · exact absurd h List.not_mem_nil
  | many cls =>
    obtain ⟨last, _ | ⟨c, cs⟩, groups⟩ := start
    · exact absurd h List.not_mem_nil
    · simp only [ends] at h
      split at h
      · rw [groups_of_mem_manyEnds h] at hfound
        exact .inl hfound
      · exact absurd h List.not_mem_nil
  | boundary cls =>
    rw [eq_of_mem_ends_boundary h] at hfound
    exact .inl hfound
  | seq p q ihp ihq =>
    obtain ⟨middle, hmiddle, hstop⟩ := List.mem_flatMap.1 h
    rcases ihq (fun r hr => reads r (List.mem_append_right _ hr)) hstop hfound with hold | hnew
    · exact ihp (fun r hr => reads r (List.mem_append_left _ hr)) hmiddle hold
    · exact .inr hnew
  | either p q ihp ihq =>
    rcases List.mem_append.1 h with hp | hq
    · exact ihp (fun r hr => reads r (List.mem_append_left _ hr)) hp hfound
    · exact ihq (fun r hr => reads r (List.mem_append_right _ hr)) hq hfound
  | group i p ih =>
    obtain ⟨inner, hinner, rfl⟩ := List.mem_map.1 h
    rcases List.mem_cons.1 hfound with rfl | hold
    · have hinside : p ∈ (group i p).remembered index :=
        List.mem_append_left _ (by rw [if_pos hindex]; exact List.mem_singleton_self p)
      obtain ⟨read, hread, hproperty⟩ := exists_read (reads p hinside) hinner
      refine .inr ?_
      rw [upTo_of_read hread]
      exact hproperty
    · exact ih (fun r hr => reads r (List.mem_append_right _ hr)) hinner hold

/-- What a match in a text has remembered under a number, such a group of the pattern has read. -/
theorem text_of_group? {index : Nat} {property : Char → Prop} {p : Pattern} {last : Option Char}
    {cs : List Char} {m : Match} {found : Group}
    (reads : ∀ q ∈ p.remembered index, q.Reads property)
    (h : p.matchAt last cs = some m) (hfound : m.group? index = some found) :
    ∀ c ∈ found.text, property c := by
  rw [matchAt_eq_best?] at h
  obtain ⟨stop, hstop, rfl⟩ := Option.map_eq_some_iff.1 h
  have hindex : found.index = index := by simpa using List.find?_some hfound
  rcases text_of_mem_groups reads (mem_ends_of_best? hstop) (List.mem_of_find?_eq_some hfound)
    hindex with hbefore | hread
  · exact absurd hbefore List.not_mem_nil
  · exact hread

/-! ## The search through a text -/

section

variable {p : Pattern} {resume : Match → List Char}

/-- Where nothing matches, the search goes on behind the next character. -/
theorem scan_pass {last : Option Char} {c : Char} {cs : List Char}
    (h : p.matchAt last (c :: cs) = none) :
    p.scan resume 0 last (c :: cs) = p.scan resume 0 (some c) cs := by
  rw [scan, h]

/-- What is to be passed over is passed over. -/
theorem scan_skip (word : List Char) (last : Option Char) (cs : List Char) :
    p.scan resume word.length last (word ++ cs) =
      p.scan resume 0 (word.getLast?.or last) cs := by
  induction word generalizing last with
  | nil => rfl
  | cons c word ih =>
    rw [List.length_cons, List.cons_append, scan, ih, getLast?_cons_or]

/-- Where something matches, the search goes on at the place where it is to be resumed. -/
theorem scan_match {last : Option Char} {c : Char} {word rest : List Char} {m : Match}
    (h : p.matchAt last (c :: (word ++ rest)) = some m) (hresume : resume m = rest) :
    p.scan resume 0 last (c :: (word ++ rest)) =
      m :: p.scan resume 0 (word.getLast?.or (some c)) rest := by
  have hlength : (word ++ rest).length - (resume m).length = word.length := by
    rw [hresume, List.length_append]
    omega
  rw [scan, h]
  simp only [hlength, scan_skip]

/-- The search passes over a text when nothing matches at any place in it. -/
theorem scan_pass_all {word : List Char} (last : Option Char) (rest : List Char)
    (h : ∀ before c after, word = before ++ c :: after →
      p.matchAt (before.getLast?.or last) (c :: (after ++ rest)) = none) :
    p.scan resume 0 last (word ++ rest) = p.scan resume 0 (word.getLast?.or last) rest := by
  induction word generalizing last with
  | nil => rfl
  | cons c word ih =>
    have hfirst : p.matchAt last (c :: (word ++ rest)) = none := h [] c word rfl
    have hrest := ih (some c) fun before d after hword => by
      have hlater := h (c :: before) d after (by rw [hword, List.cons_append])
      rwa [getLast?_cons_or] at hlater
    rw [List.cons_append, scan_pass hfirst, hrest, getLast?_cons_or]

/-- **The search comes by the end of a part of the text that no match goes over**: what it finds
behind it does not depend on what it has found before. -/
theorem exists_scan_append {front rest : List Char} {skip : Nat} {last : Option Char}
    (hskip : skip ≤ front.length)
    (h : ∀ before c after m, front = before ++ c :: after →
      p.matchAt (before.getLast?.or last) (c :: (after ++ rest)) = some m →
        rest.length ≤ (resume m).length) :
    ∃ found, p.scan resume skip last (front ++ rest) =
      found ++ p.scan resume 0 (front.getLast?.or last) rest := by
  induction front generalizing skip last with
  | nil =>
    obtain rfl : skip = 0 := Nat.le_zero.1 hskip
    exact ⟨[], rfl⟩
  | cons c front ih =>
    have hlater : ∀ before d after m, front = before ++ d :: after →
        p.matchAt (before.getLast?.or (some c)) (d :: (after ++ rest)) = some m →
          rest.length ≤ (resume m).length := by
      intro before d after m hfront hm
      refine h (c :: before) d after m (by rw [hfront, List.cons_append]) ?_
      rwa [getLast?_cons_or]
    rw [List.cons_append, getLast?_cons_or]
    cases skip with
    | succ skip => exact ih (Nat.le_of_succ_le_succ hskip) hlater
    | zero =>
      cases hm : p.matchAt last (c :: (front ++ rest)) with
      | none =>
        rw [scan_pass hm]
        exact ih (Nat.zero_le _) hlater
      | some m =>
        have hlength : rest.length ≤ (resume m).length := h [] c front m rfl hm
        have hinside : (front ++ rest).length - (resume m).length ≤ front.length := by
          rw [List.length_append]
          omega
        obtain ⟨found, hfound⟩ := ih hinside hlater
        refine ⟨m :: found, ?_⟩
        rw [scan, hm]
        simp only [hfound, List.cons_append]

/-- The search finds nothing exactly in a text in which nothing matches at any place. -/
theorem scan_eq_nil_iff {last : Option Char} {cs : List Char} :
    p.scan resume 0 last cs = [] ↔
      ∀ front rest, cs = front ++ rest → p.matchAt (front.getLast?.or last) rest = none := by
  induction cs generalizing last with
  | nil =>
    rw [scan, if_pos rfl, Option.toList_eq_nil_iff]
    constructor
    · intro h front rest hempty
      obtain ⟨rfl, rfl⟩ := List.append_eq_nil_iff.1 hempty.symm
      exact h
    · intro h
      exact h [] [] rfl
  | cons c cs ih =>
    cases hm : p.matchAt last (c :: cs) with
    | some m =>
      rw [scan, hm]
      refine iff_of_false (List.cons_ne_nil m _) fun h => ?_
      exact nomatch hm.symm.trans (h [] (c :: cs) rfl)
    | none =>
      rw [scan_pass hm, ih]
      constructor
      · intro h front rest hsplit
        cases front with
        | nil =>
          rw [List.nil_append] at hsplit
          rwa [← hsplit]
        | cons d front =>
          obtain ⟨rfl, hcs⟩ := List.cons.inj hsplit
          rw [getLast?_cons_or]
          exact h front rest hcs
      · intro h front rest hcs
        rw [← getLast?_cons_or]
        exact h (c :: front) rest (congrArg (c :: ·) hcs)

/-- A pattern does not occur in a text exactly when it matches at no place. -/
theorem occursIn_eq_false_iff {cs : List Char} :
    p.occursIn cs = false ↔
      ∀ front rest, cs = front ++ rest → p.matchAt front.getLast? rest = none := by
  have hnil : p.occursIn cs = false ↔ p.scan Match.after 0 none cs = [] := by
    simp [occursIn, findAll]
  rw [hnil, scan_eq_nil_iff]
  simp only [Option.or_none]

/-- Whether no match of a pattern is empty. -/
def NeverEmpty (p : Pattern) : Prop :=
  ∀ {last : Option Char} {cs : List Char} {m : Match}, p.matchAt last cs = some m → m.text ≠ []

/-- Nothing is found at the end of a text when no match is empty. -/
theorem scan_nil (nonempty : p.NeverEmpty) (skip : Nat) (last : Option Char) :
    p.scan resume skip last [] = [] := by
  have hnone : p.matchAt last [] = none := by
    rw [Option.eq_none_iff_forall_ne_some]
    intro m hm
    obtain ⟨-, -, -, htext⟩ := exists_stop_of_matchAt hm
    exact nonempty hm (List.append_eq_nil_iff.1 htext.symm).1
  rw [scan, hnone]
  split <;> rfl

/-- **What is found after a match is what the search finds in the text behind it**, when no match is
empty. -/
theorem scan_eq_append_cons (nonempty : p.NeverEmpty) {skip : Nat} {last : Option Char}
    {cs : List Char} {earlier later : List Match} {m : Match}
    (h : p.scan Match.after skip last cs = earlier ++ m :: later) :
    ∃ front, cs = front ++ (m.text ++ m.after) ∧
      p.matchAt (front.getLast?.or last) (m.text ++ m.after) = some m ∧
      later = p.scan Match.after 0 m.text.getLast? m.after := by
  induction cs generalizing skip last earlier with
  | nil =>
    rw [scan_nil nonempty] at h
    exact absurd h.symm (List.append_ne_nil_of_right_ne_nil earlier (List.cons_ne_nil m later))
  | cons c cs ih =>
    have hlater {skip : Nat} {earlier : List Match}
        (h : p.scan Match.after skip (some c) cs = earlier ++ m :: later) :
        ∃ front, c :: cs = front ++ (m.text ++ m.after) ∧
          p.matchAt (front.getLast?.or last) (m.text ++ m.after) = some m ∧
          later = p.scan Match.after 0 m.text.getLast? m.after := by
      obtain ⟨front, hcs, hmatch, hrest⟩ := ih h
      refine ⟨c :: front, congrArg (c :: ·) hcs, ?_, hrest⟩
      rwa [getLast?_cons_or]
    cases skip with
    | succ skip => exact hlater h
    | zero =>
      cases hfirst : p.matchAt last (c :: cs) with
      | none =>
        rw [scan_pass hfirst] at h
        exact hlater h
      | some first =>
        cases earlier with
        | cons other earlier =>
          rw [scan, hfirst] at h
          exact hlater (List.cons.inj h).2
        | nil =>
          obtain ⟨-, -, -, htext⟩ := exists_stop_of_matchAt hfirst
          obtain ⟨d, word, hword⟩ := List.exists_cons_of_ne_nil (nonempty hfirst)
          rw [hword, List.cons_append] at htext
          obtain ⟨rfl, rfl⟩ := List.cons.inj htext
          rw [List.nil_append, scan_match hfirst rfl] at h
          obtain ⟨rfl, rfl⟩ := List.cons.inj h
          rw [hword, ← getLast?_cons_or, Option.or_none]
          exact ⟨[], rfl, hfirst, rfl⟩

/-- Everything the search finds is a match. -/
theorem exists_of_mem_scan {skip : Nat} {last : Option Char} {cs : List Char} {m : Match}
    (h : m ∈ p.scan resume skip last cs) : ∃ last cs, p.matchAt last cs = some m := by
  induction cs generalizing skip last with
  | nil =>
    rw [scan] at h
    split at h
    · exact ⟨last, [], Option.mem_toList.1 h⟩
    · exact absurd h List.not_mem_nil
  | cons c cs ih =>
    cases skip with
    | succ skip => exact ih h
    | zero =>
      rw [scan] at h
      split at h
      · next found hfound =>
        rcases List.mem_cons.1 h with rfl | hlater
        · exact ⟨last, c :: cs, hfound⟩
        · exact ih hlater
      · exact ih h

end

end Pattern

end QueryAssist.Text
