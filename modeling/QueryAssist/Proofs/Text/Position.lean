import Mathlib.Data.List.TakeWhile
import QueryAssist.Proofs.Text.Bytes

/-!
# Positions and the text before them

`preceding` is the text before a position and `positionAfter` the position after a text, both by their
meaning; offsets, the end of a text and the mark of a sample text are computed line by line or by
searches in bytes, and come to the same.

* `offsetAt_eq` — the loop over the lines finds the length of the text before the position;
  `splitAtByte_offsetAt` — a text is cut there at its offset.
* `endPosition_eq`, `splitCursor_of_mark`, `splitCursor_of_no_mark` — the end of a text, and a sample
  text with and without a mark.
* `precedingFrom_append` — the line feeds of a text and the length of its last line lead to its end,
  whatever follows.
* `preceding_positionAfter` — so does the position after the text, if 32 bits hold its numbers;
  `endsInRange_of_offsetAt` says that no position on its line does so otherwise.
* `precedingFrom_eq_before_iff` — a column beyond those of a text's end leads there only if the line
  ends there, too.
* `precedingFrom_isPrefix_of_le` — the text before a place is a beginning of the text before any
  later one.
* `length_lastLine_precedingFrom_le` — no more characters of its line stand before a position than
  its column counts, unless the whole text does.
* `precedingFrom_map` — a map of characters that keeps the line feeds keeps what stands before a
  position.
* `precedingFrom_lineLength` — the length of a line leads to the end of that line, or to the end of
  the text if there is no such line.
-/

namespace QueryAssist.Text

/-! ## What positions mean -/

/-- The characters before the column `column` of the line `line`, both counted from 0.  A column
beyond the end of its line stands for the end of that line, a line beyond the end of the text for
the end of the text. -/
def precedingFrom : Nat → Nat → List Char → List Char
  | _, _, [] => []
  | 0, 0, _ => []
  | 0, column + 1, c :: cs => if c = '\n' then [] else c :: precedingFrom 0 column cs
  | line + 1, column, c :: cs =>
    c :: precedingFrom (if c = '\n' then line else line + 1) column cs

/-- The characters before a position; line 0 and column 0 count as 1. -/
def preceding (text : List Char) (position : Position) : List Char :=
  precedingFrom (position.line.toNat - 1) (position.column.toNat - 1) text

/-- The characters after the last line feed. -/
def lastLine (cs : List Char) : List Char :=
  (cs.reverse.takeWhile (· ≠ '\n')).reverse

/-- The position at the end of a text: one more than its line feeds, and one more than the
characters of its last line. -/
def positionAfter (cs : List Char) : Position where
  line := UInt32.ofNat (cs.count '\n' + 1)
  column := UInt32.ofNat ((lastLine cs).length + 1)

/-- A text that lacks a character has none to stop at. -/
theorem forall_ne_of_not_mem {c : Char} {cs : List Char} (h : c ∉ cs) :
    ∀ d ∈ cs, decide (d ≠ c) = true :=
  fun _ hd => decide_eq_true (ne_of_mem_of_not_mem hd h)

/-! ## The end of a text -/

/-- A text is made of whole lines and its last line, which has no line feed. -/
theorem exists_lastLine (cs : List Char) :
    ∃ whole, cs = whole ++ lastLine cs ∧ '\n' ∉ lastLine cs ∧
      ∀ c, whole.getLast? = some c → c = '\n' := by
  refine ⟨(cs.reverse.dropWhile (· ≠ '\n')).reverse, ?_, ?_, ?_⟩
  · rw [lastLine, ← List.reverse_append, List.takeWhile_append_dropWhile, List.reverse_reverse]
  · intro h
    have hfeed := List.all_eq_true.1 List.all_takeWhile _ (List.mem_reverse.1 h)
    simp at hfeed
  · intro c hc
    rw [List.getLast?_reverse] at hc
    have hfeed := List.head?_dropWhile_not (· ≠ '\n') cs.reverse
    rw [hc] at hfeed
    simpa using hfeed

theorem feed_not_mem_lastLine (cs : List Char) : '\n' ∉ lastLine cs := by
  obtain ⟨whole, -, hfeed, -⟩ := exists_lastLine cs
  exact hfeed

/-- A text is its last line, or has a line feed in front of it. -/
theorem lastLine_eq_self_or_exists (cs : List Char) :
    lastLine cs = cs ∨ ∃ front, cs = front ++ '\n' :: lastLine cs := by
  obtain ⟨whole, hcs, -, hwhole⟩ := exists_lastLine cs
  rcases List.eq_nil_or_concat whole with rfl | ⟨front, c, rfl⟩
  · exact .inl hcs.symm
  · obtain rfl := hwhole c (by simp)
    exact .inr ⟨front, by simpa using hcs⟩

theorem length_lastLine_le (cs : List Char) : (lastLine cs).length ≤ cs.length := by
  obtain ⟨whole, hcs, -⟩ := exists_lastLine cs
  have hlength := congrArg List.length hcs
  rw [List.length_append] at hlength
  omega

/-- Characters without a line feed prolong the last line. -/
theorem lastLine_append {word : List Char} (cs : List Char) (h : '\n' ∉ word) :
    lastLine (cs ++ word) = lastLine cs ++ word := by
  have hword : '\n' ∉ word.reverse := fun hfeed => h (List.mem_reverse.1 hfeed)
  rw [lastLine, List.reverse_append, List.takeWhile_append_of_pos (forall_ne_of_not_mem hword),
    List.reverse_append, List.reverse_reverse]
  rfl

theorem count_feed_append {word : List Char} (cs : List Char) (h : '\n' ∉ word) :
    (cs ++ word).count '\n' = cs.count '\n' := by
  rw [List.count_append, List.count_eq_zero_of_not_mem h, Nat.add_zero]

/-- On the first line stand before a column as many characters as it counts, up to the line feed. -/
theorem precedingFrom_zero (column : Nat) (cs : List Char) :
    precedingFrom 0 column cs = (cs.takeWhile (· ≠ '\n')).take column := by
  induction column generalizing cs with
  | zero => cases cs <;> simp [precedingFrom]
  | succ column ih =>
    cases cs with
    | nil => simp [precedingFrom]
    | cons c cs =>
      rw [precedingFrom, ih]
      by_cases hc : c = '\n' <;> simp [hc]

/-- On the line of the text's beginning, columns count its characters. -/
theorem precedingFrom_line {line : List Char} (h : '\n' ∉ line) (after : List Char) :
    precedingFrom 0 line.length (line ++ after) = line := by
  rw [precedingFrom_zero, List.takeWhile_append_of_pos (forall_ne_of_not_mem h), List.take_left]

/-- Whole lines in front of a text are passed over with their line feeds. -/
theorem precedingFrom_whole {whole : List Char} (h : ∀ c, whole.getLast? = some c → c = '\n')
    (line column : Nat) (after : List Char) :
    precedingFrom (whole.count '\n' + line) column (whole ++ after) =
      whole ++ precedingFrom line column after := by
  induction whole with
  | nil => simp
  | cons c whole ih =>
    have hwhole : ∀ d, whole.getLast? = some d → d = '\n' := by
      intro d hd
      exact h d (by rw [List.getLast?_cons, hd]; rfl)
    by_cases hc : c = '\n'
    · subst hc
      rw [List.count_cons_self, Nat.add_right_comm, List.cons_append, precedingFrom, if_pos rfl,
        ih hwhole]
      rfl
    · -- the last character is a line feed, so there is one among those that follow
      have hfeed : '\n' ∈ whole := by
        cases hlast : whole.getLast? with
        | none => exact absurd (h c (by rw [List.getLast?_cons, hlast]; rfl)) hc
        | some d => exact hwhole d hlast ▸ List.mem_of_getLast? hlast
      obtain ⟨n, hn⟩ := Nat.exists_eq_add_one.2 (List.count_pos_iff.2 hfeed)
      have hih := ih hwhole
      rw [hn, Nat.add_right_comm] at hih
      rw [List.count_cons_of_ne hc, hn, Nat.add_right_comm, List.cons_append, precedingFrom,
        if_neg hc, hih]
      rfl

/-- **The line feeds of a text and the length of its last line lead to its end**, whatever
follows. -/
theorem precedingFrom_append (before after : List Char) :
    precedingFrom (before.count '\n') (lastLine before).length (before ++ after) = before := by
  obtain ⟨whole, hbefore, hline, hwhole⟩ := exists_lastLine before
  generalize lastLine before = line at *
  subst hbefore
  have hcount : (whole ++ line).count '\n' = whole.count '\n' + 0 := by
    rw [List.count_append, List.count_eq_zero_of_not_mem hline]
  rw [hcount, List.append_assoc, precedingFrom_whole hwhole, precedingFrom_line hline]

/-- **A column beyond those of a text's end leads there only if the line ends there, too.** -/
theorem precedingFrom_eq_before_iff {before after : List Char} {column : Nat}
    (enough : (lastLine before).length ≤ column) :
    precedingFrom (before.count '\n') column (before ++ after) = before ↔
      column = (lastLine before).length ∨ ∀ c ∈ after.head?, c = '\n' := by
  obtain ⟨whole, hbefore, hfeed, hwhole⟩ := exists_lastLine before
  generalize lastLine before = line at *
  subst hbefore
  have hrest : after.takeWhile (· ≠ '\n') = [] ↔ ∀ c ∈ after.head?, c = '\n' := by
    cases after <;> simp
  have hcolumn : column - line.length = 0 ↔ column = line.length := by omega
  rw [count_feed_append whole hfeed, ← Nat.add_zero (whole.count '\n'), List.append_assoc,
    precedingFrom_whole hwhole, List.append_right_inj, precedingFrom_zero,
    List.takeWhile_append_of_pos (forall_ne_of_not_mem hfeed), List.take_append,
    List.take_of_length_le enough, List.append_right_eq_self, List.take_eq_nil_iff, hcolumn, hrest]

/-- The same for the numbers of a position, which are counted from 1. -/
theorem preceding_append {before after : List Char} {position : Position}
    (line : position.line.toNat = before.count '\n' + 1)
    (column : position.column.toNat = (lastLine before).length + 1) :
    preceding (before ++ after) position = before := by
  rw [preceding, line, column]
  exact precedingFrom_append before after

/-- A text whose end has a line and a column that 32 bits hold. -/
structure EndsInRange (cs : List Char) : Prop where
  line : cs.count '\n' + 1 < UInt32.size
  column : (lastLine cs).length + 1 < UInt32.size

/-- A text that is short enough ends in range. -/
theorem endsInRange_of_length_lt {cs : List Char} (h : cs.length + 1 < UInt32.size) :
    EndsInRange cs := by
  have hline := length_lastLine_le cs
  have hcount : cs.count '\n' ≤ cs.length := List.count_le_length
  exact ⟨by omega, by omega⟩

/-- **The position after a text leads back to its end**, whatever follows. -/
theorem preceding_positionAfter {before : List Char} (h : EndsInRange before)
    (after : List Char) : preceding (before ++ after) (positionAfter before) = before :=
  preceding_append (UInt32.toNat_ofNat_of_lt' h.line) (UInt32.toNat_ofNat_of_lt' h.column)

/-- A text ends in range if it does with a word behind it. -/
theorem EndsInRange.of_append {cs word : List Char} (h : EndsInRange (cs ++ word))
    (hfeed : '\n' ∉ word) : EndsInRange cs := by
  obtain ⟨hline, hcolumn⟩ := h
  rw [count_feed_append cs hfeed] at hline
  rw [lastLine_append cs hfeed, List.length_append] at hcolumn
  exact ⟨hline, by omega⟩

/-- What stands before a position is a beginning of the text. -/
theorem precedingFrom_isPrefix (line column : Nat) (cs : List Char) :
    precedingFrom line column cs <+: cs := by
  fun_induction precedingFrom line column cs with
  | case1 => exact List.prefix_rfl
  | case2 => exact List.nil_prefix
  | case3 => exact List.nil_prefix
  | case4 column c cs hc ih => exact List.cons_prefix_cons.2 ⟨rfl, ih⟩
  | case5 line column c cs ih => exact List.cons_prefix_cons.2 ⟨rfl, ih⟩

/-- **The text before a place is a beginning of the text before any later place**: one further on
the same line, or on a later line. -/
theorem precedingFrom_isPrefix_of_le {line column line' column' : Nat}
    (h : line < line' ∨ line = line' ∧ column ≤ column') (cs : List Char) :
    precedingFrom line column cs <+: precedingFrom line' column' cs := by
  induction cs generalizing line column line' column' with
  | nil => simp [precedingFrom]
  | cons c cs ih =>
    cases line with
    | zero =>
      cases column with
      | zero => exact List.nil_prefix
      | succ column =>
        by_cases hc : c = '\n'
        · rw [precedingFrom, if_pos hc]
          exact List.nil_prefix
        rw [precedingFrom, if_neg hc]
        cases line' with
        | zero =>
          obtain ⟨column', rfl⟩ : ∃ n, column' = n + 1 := ⟨column' - 1, by omega⟩
          rw [precedingFrom, if_neg hc]
          exact List.cons_prefix_cons.2 ⟨rfl, ih (by omega)⟩
        | succ line' =>
          rw [precedingFrom, if_neg hc]
          exact List.cons_prefix_cons.2 ⟨rfl, ih (by omega)⟩
    | succ line =>
      obtain ⟨line', rfl⟩ : ∃ n, line' = n + 1 := ⟨line' - 1, by omega⟩
      rw [precedingFrom, precedingFrom]
      refine List.cons_prefix_cons.2 ⟨rfl, ih ?_⟩
      split <;> omega

/-- Before a place stand no more line feeds than there are lines before its own. -/
theorem count_feed_precedingFrom_le (line column : Nat) (cs : List Char) :
    (precedingFrom line column cs).count '\n' ≤ line := by
  fun_induction precedingFrom line column cs with
  | case1 => simp
  | case2 => simp
  | case3 => simp
  | case4 column c cs hc ih => rw [List.count_cons_of_ne hc]; exact ih
  | case5 line column c cs ih =>
    rw [List.count_cons]
    split at ih <;> simp_all

/-- A map that keeps the line feeds of a text keeps its positions. -/
theorem precedingFrom_map {f : Char → Char} (h : ∀ c, f c = '\n' ↔ c = '\n') (line column : Nat)
    (cs : List Char) :
    precedingFrom line column (cs.map f) = (precedingFrom line column cs).map f := by
  fun_induction precedingFrom line column cs with
  | case1 => simp [precedingFrom]
  | case2 cs hsome =>
    cases cs with
    | nil => rfl
    | cons c cs => rfl
  | case3 column cs => rw [List.map_cons, precedingFrom, if_pos ((h _).2 rfl), List.map_nil]
  | case4 column c cs hc ih =>
    rw [List.map_cons, precedingFrom, if_neg fun hfeed => hc ((h c).1 hfeed), ih, List.map_cons]
  | case5 line column c cs ih =>
    simp only [List.map_cons, precedingFrom, h c]
    rw [ih]

/-- On the first line no more characters stand before a column than it counts. -/
theorem length_precedingFrom_le (column : Nat) (cs : List Char) :
    (precedingFrom 0 column cs).length ≤ column := by
  rw [precedingFrom_zero]
  exact List.length_take_le _ _

/-- A position on a later line that has no line feed before it stands behind the whole text. -/
theorem precedingFrom_eq_self {line column : Nat} {cs : List Char}
    (h : '\n' ∉ precedingFrom (line + 1) column cs) : precedingFrom (line + 1) column cs = cs := by
  induction cs with
  | nil => rfl
  | cons c cs ih =>
    rw [precedingFrom] at h ⊢
    obtain ⟨hc, hrest⟩ := List.ne_and_not_mem_of_not_mem_cons h
    rw [if_neg hc.symm] at hrest ⊢
    rw [ih hrest]

/-! ## Offsets -/

/-- The first line of a text that has a line feed. -/
theorem splitOn_append_feed {first : List Char} (h : '\n' ∉ first) (rest : List Char) :
    (first ++ '\n' :: rest).splitOn '\n' = first :: rest.splitOn '\n' := by
  rw [List.splitOn_append_cons_self, List.splitOn_eq_singleton h]
  rfl

/-- A place on a later line stands behind the first line and its line feed. -/
theorem precedingFrom_append_feed {first : List Char} (h : '\n' ∉ first) (line column : Nat)
    (rest : List Char) :
    precedingFrom (line + 1) column (first ++ '\n' :: rest) =
      first ++ '\n' :: precedingFrom line column rest := by
  induction first with
  | nil => rw [List.nil_append, precedingFrom, if_pos rfl, List.nil_append]
  | cons c first ih =>
    obtain ⟨hc, hfirst⟩ := List.ne_and_not_mem_of_not_mem_cons h
    rw [List.cons_append, precedingFrom, if_neg hc.symm, ih hfirst, List.cons_append]

/-- The first line of a text is what stands before its first line feed. -/
theorem exists_splitOn_eq (cs : List Char) :
    ∃ lines, cs.splitOn '\n' = cs.takeWhile (· ≠ '\n') :: lines := by
  by_cases hfeed : '\n' ∈ cs
  · obtain ⟨first, rest, rfl, hfirst⟩ := List.eq_append_cons_of_mem hfeed
    refine ⟨rest.splitOn '\n', ?_⟩
    rw [splitOn_append_feed hfirst, List.takeWhile_append_of_pos (forall_ne_of_not_mem hfirst)]
    simp
  · refine ⟨[], ?_⟩
    rw [List.splitOn_eq_singleton hfeed,
      List.takeWhile_eq_self_iff.2 (forall_ne_of_not_mem hfeed)]

/-- **The loop over the lines of a text finds the length of the text before the place**, and reaches
the end of the text if there is no such line. -/
theorem offsetFrom_splitOn (column line start : Nat) (cs : List Char) :
    (offsetFrom column line start (cs.splitOn '\n')).getD (start + byteLength cs) =
      start + byteLength (precedingFrom line column cs) := by
  induction line generalizing start cs with
  | zero =>
    obtain ⟨lines, hlines⟩ := exists_splitOn_eq cs
    rw [hlines, offsetFrom, Option.getD_some, columnOffset_eq, precedingFrom_zero]
  | succ line ih =>
    by_cases hfeed : '\n' ∈ cs
    · -- the first line is passed over with its line feed, which has one byte
      obtain ⟨first, rest, rfl, hfirst⟩ := List.eq_append_cons_of_mem hfeed
      have hpassed : ∀ ds, start + byteLength (first ++ '\n' :: ds) =
          start + (byteLength first + 1) + byteLength ds := by
        intro ds
        have hbyte : byteLength ('\n' :: ds) = 1 + byteLength ds := rfl
        rw [byteLength_append, hbyte]
        omega
      rw [splitOn_append_feed hfirst, offsetFrom, precedingFrom_append_feed hfirst, hpassed, hpassed,
        ih]
    · -- there is no further line
      have hall : precedingFrom (line + 1) column cs = cs :=
        precedingFrom_eq_self fun h => hfeed ((precedingFrom_isPrefix _ _ _).subset h)
      rw [List.splitOn_eq_singleton hfeed, offsetFrom, offsetFrom, hall, Option.getD_none]

/-- **The offset of a position is the length of the text before it.** -/
theorem offsetAt_eq (text : String) (position : Position) :
    offsetAt text position = byteLength (preceding text.toList position) := by
  have hline : max position.line.toNat 1 - 1 = position.line.toNat - 1 := by omega
  have hcolumn : max position.column.toNat 1 - 1 = position.column.toNat - 1 := by omega
  have hloop := offsetFrom_splitOn (position.column.toNat - 1) (position.line.toNat - 1) 0 text.toList
  rw [Nat.zero_add, Nat.zero_add] at hloop
  simp only [offsetAt, hline, hcolumn]
  exact hloop

/-- **A text is cut at an offset into what stands before the position and what follows.** -/
theorem splitAtByte_offsetAt (text : String) (position : Position) :
    splitAtByte (offsetAt text position) text.toList =
      (preceding text.toList position,
        text.toList.drop (preceding text.toList position).length) := by
  obtain ⟨after, hafter⟩ :=
    precedingFrom_isPrefix (position.line.toNat - 1) (position.column.toNat - 1) text.toList
  have htext : text.toList = preceding text.toList position ++ after := hafter.symm
  rw [offsetAt_eq]
  generalize preceding text.toList position = before at htext ⊢
  rw [htext, splitAtByte_append, List.drop_left]

/-- The offset of a position before which a known text stands. -/
theorem offsetAt_of_preceding {text : String} {position : Position} {before : List Char}
    (h : preceding text.toList position = before) :
    offsetAt text position = (String.ofList before).utf8ByteSize := by
  rw [offsetAt_eq, h, byteLength_eq_utf8ByteSize]

/-- A position has the offset of a beginning of the text if and only if that stands before it. -/
theorem offsetAt_eq_iff {text : String} {position : Position} {before : List Char}
    (h : before <+: text.toList) : offsetAt text position = (String.ofList before).utf8ByteSize ↔
      preceding text.toList position = before := by
  refine ⟨fun hoffset => ?_, offsetAt_of_preceding⟩
  rw [offsetAt_eq, ← byteLength_eq_utf8ByteSize] at hoffset
  exact eq_of_prefix_of_byteLength_eq (precedingFrom_isPrefix _ _ _) h hoffset

/-- A position that leads to the end of a text from its own line has numbers of 32 bits, so the end
of the text is in range. -/
theorem endsInRange_of_offsetAt {text : String} {before after : List Char} {position : Position}
    (htext : text.toList = before ++ after)
    (line : position.line.toNat = before.count '\n' + 1)
    (h : offsetAt text position = (String.ofList before).utf8ByteSize) : EndsInRange before := by
  have hpreceding : preceding text.toList position = before :=
    (offsetAt_eq_iff ⟨after, htext.symm⟩).1 h
  obtain ⟨whole, hbefore, hline, hwhole⟩ := exists_lastLine before
  have hcount : position.line.toNat - 1 = whole.count '\n' + 0 := by
    rw [line, Nat.add_sub_cancel, hbefore, count_feed_append whole hline, Nat.add_zero]
  rw [preceding, hcount, htext, hbefore, List.append_assoc,
    precedingFrom_whole hwhole] at hpreceding
  have hlast := List.append_cancel_left hpreceding
  have hlength := length_precedingFrom_le (position.column.toNat - 1) (lastLine before ++ after)
  rw [hlast] at hlength
  have hlineBound := position.line.toNat_lt
  have hcolumnBound := position.column.toNat_lt
  exact ⟨by rw [← line]; exact hlineBound, by simp only [UInt32.size]; omega⟩

/-- The last line of a text with a line feed does not depend on the first character. -/
theorem lastLine_cons_of_feed_mem {c : Char} {cs : List Char} (h : '\n' ∈ c :: cs) :
    lastLine (c :: cs) = lastLine cs := by
  have hnone : ∀ ds : List Char, (ds.reverse.takeWhile (· ≠ '\n')).length = ds.reverse.length →
      '\n' ∉ ds := by
    intro ds hlength hfeed
    have hall := List.all_takeWhile (p := (· ≠ '\n')) (l := ds.reverse)
    rw [(List.takeWhile_prefix _).eq_of_length hlength] at hall
    simpa using List.all_eq_true.1 hall '\n' (List.mem_reverse.2 hfeed)
  rw [lastLine, lastLine, List.reverse_cons, List.takeWhile_append]
  split
  · next hlength =>
    obtain rfl : '\n' = c := (List.mem_cons.1 h).resolve_right (hnone cs hlength)
    rw [(List.takeWhile_prefix _).eq_of_length hlength]
    simp
  · rfl

/-- **No more characters of its line stand before a position than its column counts**, unless the
whole text stands before it. -/
theorem length_lastLine_precedingFrom_le (line column : Nat) (cs : List Char) :
    precedingFrom line column cs = cs ∨
      (lastLine (precedingFrom line column cs)).length ≤ column := by
  induction cs generalizing line with
  | nil => exact .inl (by simp [precedingFrom])
  | cons c cs ih =>
    cases line with
    | zero =>
      exact .inr (Nat.le_trans (length_lastLine_le _) (length_precedingFrom_le column (c :: cs)))
    | succ line =>
      by_cases hfeed : '\n' ∈ precedingFrom (line + 1) column (c :: cs)
      case neg => exact .inl (precedingFrom_eq_self hfeed)
      case pos =>
        rw [precedingFrom] at hfeed ⊢
        rw [lastLine_cons_of_feed_mem hfeed]
        exact (ih _).imp (congrArg (c :: ·)) id

/-- Positions with one offset have the same text before them. -/
theorem preceding_eq_of_offsetAt_eq {text : String} {first second : Position}
    (h : offsetAt text first = offsetAt text second) :
    preceding text.toList first = preceding text.toList second := by
  rw [offsetAt_eq, offsetAt_eq] at h
  exact eq_of_prefix_of_byteLength_eq (precedingFrom_isPrefix _ _ _) (precedingFrom_isPrefix _ _ _) h

/-! ## The end of a line -/

/-- A character in front of the first of several parts stands in front of the whole. -/
theorem intercalate_modifyHead_cons {sep : List Char} {parts : List (List Char)}
    (h : parts ≠ []) (c : Char) :
    sep.intercalate (parts.modifyHead (c :: ·)) = c :: sep.intercalate parts := by
  obtain ⟨part, others, rfl⟩ := List.exists_cons_of_ne_nil h
  rw [List.modifyHead_cons]
  by_cases hothers : others = []
  · simp [hothers]
  · rw [List.intercalate_cons_of_ne_nil hothers, List.intercalate_cons_of_ne_nil hothers]
    rfl

/-- The first line is longer by a character in front of it, unless that is a line feed. -/
theorem lineLength_zero_cons (c : Char) (cs : List Char) :
    lineLength 0 (c :: cs) = if c = '\n' then 0 else lineLength 0 cs + 1 := by
  obtain ⟨first, others, hlines⟩ := List.exists_cons_of_ne_nil (List.splitOn_ne_nil '\n' cs)
  rw [lineLength, lineLength, List.splitOn_cons_eq_if_modifyHead, hlines]
  by_cases hc : c = '\n' <;> simp [hc]

/-- A line feed in front of a text makes one line more. -/
theorem lineLength_succ_cons (line : Nat) (c : Char) (cs : List Char) :
    lineLength (line + 1) (c :: cs) = lineLength (if c = '\n' then line else line + 1) cs := by
  obtain ⟨first, others, hlines⟩ := List.exists_cons_of_ne_nil (List.splitOn_ne_nil '\n' cs)
  rw [lineLength, lineLength, List.splitOn_cons_eq_if_modifyHead, hlines]
  by_cases hc : c = '\n' <;> simp [hc]

/-- **The length of a line leads to the end of that line**: before it stand the lines up to this
one, that is the whole text if there are no more. -/
theorem precedingFrom_lineLength (line : Nat) (cs : List Char) :
    precedingFrom line (lineLength line cs) cs =
      ['\n'].intercalate ((cs.splitOn '\n').take (line + 1)) := by
  induction cs generalizing line with
  | nil => simp [precedingFrom]
  | cons c cs ih =>
    have hlines : ∀ n, (cs.splitOn '\n').take (n + 1) ≠ [] := by
      intro n h
      rw [List.take_eq_nil_iff] at h
      exact h.elim (Nat.succ_ne_zero n) (List.splitOn_ne_nil '\n' cs)
    rw [List.splitOn_cons_eq_if_modifyHead]
    by_cases hc : c = '\n'
    · subst hc
      rw [if_pos (beq_self_eq_true _), List.take_succ_cons]
      cases line with
      | zero => rw [lineLength_zero_cons, if_pos rfl]; rfl
      | succ line =>
        rw [lineLength_succ_cons, if_pos rfl, precedingFrom, if_pos rfl, ih,
          List.intercalate_cons_of_ne_nil (hlines line)]
        rfl
    · rw [if_neg (by simpa using hc), List.take_modifyHead,
        intercalate_modifyHead_cons (hlines line), ← ih]
      cases line with
      | zero => rw [lineLength_zero_cons, if_neg hc, precedingFrom, if_neg hc]
      | succ line => rw [lineLength_succ_cons, if_neg hc, precedingFrom, if_neg hc]

/-! ## Ends and marks -/

/-- The last of the lines of a text is what stands behind its last line feed. -/
theorem head?_reverse_splitOn (cs : List Char) :
    (cs.splitOn '\n').reverse.head? = some (lastLine cs) := by
  have hfeed := feed_not_mem_lastLine cs
  rcases lastLine_eq_self_or_exists cs with hline | ⟨front, hcs⟩
  · rw [hline] at hfeed ⊢
    rw [List.splitOn_eq_singleton hfeed]
    rfl
  · generalize lastLine cs = line at *
    rw [hcs, List.splitOn_append_cons_self, List.splitOn_eq_singleton hfeed, List.reverse_append]
    rfl

/-- Behind the last line feed of a text stands its last line. -/
theorem splitAtByte_lastOffset? (cs : List Char) :
    (splitAtByte (((lastOffset? '\n' cs).map (· + 1)).getD 0) cs).2 = lastLine cs := by
  have hfeed := feed_not_mem_lastLine cs
  rcases lastLine_eq_self_or_exists cs with hline | ⟨front, hcs⟩
  · rw [hline] at hfeed ⊢
    rw [lastOffset?_eq_none hfeed]
    exact congrArg Prod.snd (splitAtByte_append [] cs)
  · generalize lastLine cs = line at *
    have hlength : byteLength front + 1 = byteLength (front ++ ['\n']) :=
      (byteLength_append front ['\n']).symm
    have hwhole : front ++ '\n' :: line = (front ++ ['\n']) ++ line := by simp
    rw [hcs, lastOffset?_append front hfeed, Option.map_some, Option.getD_some, hlength, hwhole,
      splitAtByte_append]

/-- The position at the end of a text is the one after it. -/
theorem endPosition_eq (text : String) : endPosition text = positionAfter text.toList := by
  simp only [endPosition, head?_reverse_splitOn, Option.getD_some, positionAfter, UInt32.ofNat_add]
  rfl

/-- A sample text is cut at its mark. -/
theorem splitCursor_of_offset {sample : String} {before after : List Char}
    (hsample : sample.toList = before ++ after)
    (hoffset : (firstOffset? cursorMark sample.toList).getD (byteLength sample.toList) =
      byteLength before) :
    splitCursor sample = (String.ofList (sample.toList.erase cursorMark), positionAfter before) := by
  have hbefore : (splitAtByte (byteLength before) sample.toList).1 = before := by
    rw [hsample, splitAtByte_append]
  simp only [splitCursor, hoffset, hbefore, splitAtByte_lastOffset?, positionAfter,
    UInt32.ofNat_add]
  rfl

/-- A sample text with a mark is left without it, and the cursor stands where the mark was. -/
theorem splitCursor_of_mark {sample : String} {before after : List Char}
    (h : sample.toList = before ++ cursorMark :: after) (first : cursorMark ∉ before) :
    splitCursor sample = (String.ofList (before ++ after), positionAfter before) := by
  have hoffset : (firstOffset? cursorMark sample.toList).getD (byteLength sample.toList) =
      byteLength before := by
    rw [h, firstOffset?_append first, Option.getD_some]
  rw [splitCursor_of_offset h hoffset, h, List.erase_append_right _ first, List.erase_cons_head]

/-- A sample text without a mark is left as it is, and the cursor stands at its end. -/
theorem splitCursor_of_no_mark {sample : String} (h : cursorMark ∉ sample.toList) :
    splitCursor sample = (sample, positionAfter sample.toList) := by
  have hoffset : (firstOffset? cursorMark sample.toList).getD (byteLength sample.toList) =
      byteLength sample.toList := by
    rw [firstOffset?_eq_none h, Option.getD_none]
  rw [splitCursor_of_offset (List.append_nil _).symm hoffset, List.erase_of_not_mem h,
    String.ofList_toList]

end QueryAssist.Text
