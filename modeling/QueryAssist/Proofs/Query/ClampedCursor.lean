import QueryAssist.Proofs.Query.CurrentWord

/-!
# Cursors at one place

A column beyond the end of its line stands for that end, and a line beyond the end of the text for
the end of the text, so many positions of a cursor stand for one place.  What a context says of the
text depends on the place alone.  The span of the current word does not: it is counted out from the
position as it was given.

* `charCount_nameEnd_lt` — a cursor has the columns that its word takes up before it, unless the
  whole text stands before it.
* `span_currentWordAt_eq_iff` — so cursors with different numbers have different spans.
* `parse_eq_iff_sameNumbers` — **contexts at one place are the same, apart from the cursor, if and
  only if the positions have the same numbers**; apart from the span they are the same anyway.
* `wordSpan_beyond_line` — a cursor beyond the end of its line.
-/

namespace QueryAssist

open Text

/-! ## Numbers of positions -/

/-- Two positions have the same line and the same column, 0 counting as 1. -/
def Position.SameNumbers (first second : Position) : Prop :=
  max first.line.toNat 1 = max second.line.toNat 1 ∧
    max first.column.toNat 1 = max second.column.toNat 1

instance (first second : Position) : Decidable (first.SameNumbers second) :=
  inferInstanceAs (Decidable (_ ∧ _))

theorem max_toNat_lt (n : UInt32) : max n.toNat 1 < UInt32.size := by
  have hn := n.toNat_lt
  simp only [UInt32.size]
  omega

/-- Numbers of 32 bits are kept as they are. -/
theorem ofNat_eq_ofNat_iff {m n : Nat} (hm : m < UInt32.size) (hn : n < UInt32.size) :
    UInt32.ofNat m = UInt32.ofNat n ↔ m = n := by
  constructor
  · intro h
    have hnat := congrArg UInt32.toNat h
    rwa [UInt32.toNat_ofNat_of_lt' hm, UInt32.toNat_ofNat_of_lt' hn] at hnat
  · exact congrArg UInt32.ofNat

/-! ## Spans -/

/-- The part of the word before a cursor fits into the columns before it, unless the whole text
stands before the cursor. -/
theorem charCount_nameEnd_lt (cs : List Char) (cursor : Position) :
    preceding cs cursor = cs ∨
      charCount (nameEnd (preceding cs cursor)) < max cursor.column.toNat 1 := by
  refine (length_lastLine_precedingFrom_le _ _ cs).imp id fun hline => ?_
  have hcount := charCount_le (nameEnd (preceding cs cursor))
  have hword := length_nameEnd_le (preceding cs cursor)
  rw [preceding] at hcount hword ⊢
  omega

/-- **The spans of one word for two cursors are the same only if the positions have the same
numbers.**  Either the left end tells the columns apart or, where no text follows, the right end. -/
theorem span_currentWordAt_eq_iff {before after : List Char} {first second : Position}
    (h : after = [] ∨ charCount (nameEnd before) < max first.column.toNat 1 ∧
      charCount (nameEnd before) < max second.column.toNat 1) :
    (currentWordAt before after first).span = (currentWordAt before after second).span ↔
      first.SameNumbers second := by
  have hfirst := max_toNat_lt first.column
  have hsecond := max_toNat_lt second.column
  constructor
  · intro hspan
    simp only [currentWordAt, Span.mk.injEq, Position.mk.injEq] at hspan
    obtain ⟨⟨hline, hstart⟩, -, hstop⟩ := hspan
    refine ⟨(ofNat_eq_ofNat_iff (max_toNat_lt _) (max_toNat_lt _)).1 hline, ?_⟩
    rcases h with rfl | ⟨hleft, hleft'⟩
    · have hnone : charCount (nameStart []) = 0 := rfl
      simp only [hnone, maxIndex, Nat.add_zero] at hstop
      simp only [UInt32.size] at hfirst hsecond
      rw [ofNat_eq_ofNat_iff (by simp only [UInt32.size]; omega)
        (by simp only [UInt32.size]; omega)] at hstop
      omega
    · rw [ofNat_eq_ofNat_iff (by omega) (by omega)] at hstart
      omega
  · rintro ⟨hline, hcolumn⟩
    simp only [currentWordAt, hline, hcolumn]

/-! ## Contexts -/

namespace QueryContext

/-- **Contexts at one place are the same but for the span of the current word, and the spans are the
same if and only if the positions have the same numbers**, 0 counting as 1.  So a position that is
clamped has another context than the position it is clamped to. -/
theorem parse_eq_iff_sameNumbers {text : String} {first second : Position}
    (samePlace : offsetAt text first = offsetAt text second) :
    parse text second =
        { parse text first with cursor := second, wordSpan := (parse text second).wordSpan } ∧
      (parse text second = { parse text first with cursor := second } ↔
        first.SameNumbers second) := by
  have hbefore := preceding_eq_of_offsetAt_eq samePlace
  have hsame : parse text second =
      { parse text first with cursor := second, wordSpan := (parse text second).wordSpan } := by
    simp only [parse_eq, hbefore]
    rfl
  have hspan : (parse text first).wordSpan = (parse text second).wordSpan ↔
      first.SameNumbers second := by
    have hfirst := charCount_nameEnd_lt text.toList first
    have hsecond := charCount_nameEnd_lt text.toList second
    rw [hbefore] at hfirst
    rw [parse_wordSpan, parse_wordSpan, hbefore]
    refine span_currentWordAt_eq_iff ?_
    by_cases hall : preceding text.toList second = text.toList
    · exact .inl (by rw [hall, List.drop_length])
    · exact .inr ⟨hfirst.resolve_left hall, hsecond.resolve_left hall⟩
  refine ⟨hsame, ?_⟩
  rw [← hspan]
  constructor
  · exact fun h => (congrArg wordSpan h).symm
  · intro h
    rw [hsame, ← h]

/-- Line 0 and column 0 stand for the first ones, and nothing of the context changes. -/
theorem parse_eq_iff_sameNumbers_zero :
    offsetAt "us er" ⟨0, 0⟩ = offsetAt "us er" ⟨1, 1⟩ ∧
      parse "us er" ⟨1, 1⟩ = { parse "us er" ⟨0, 0⟩ with cursor := ⟨1, 1⟩ } := by
  have hplace : offsetAt "us er" ⟨0, 0⟩ = offsetAt "us er" ⟨1, 1⟩ := by decide
  exact ⟨hplace, (parse_eq_iff_sameNumbers hplace).2.2 (by decide)⟩

/-- **A cursor beyond the end of its line has another span than one at that end.**  The line has two
characters; for column 99 the word is said to stand in columns 97 and 98. -/
theorem wordSpan_beyond_line :
    offsetAt "us" ⟨1, 99⟩ = offsetAt "us" ⟨1, 3⟩ ∧
      (parse "us" ⟨1, 3⟩).wordSpan = ⟨⟨1, 1⟩, ⟨1, 3⟩⟩ ∧
      (parse "us" ⟨1, 99⟩).wordSpan = ⟨⟨1, 97⟩, ⟨1, 99⟩⟩ := by
  decide +kernel

end QueryContext

end QueryAssist
