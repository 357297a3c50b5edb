import QueryAssist.CommandLine.Response
import QueryAssist.Proofs.Text.Position

/-!
# Where a cursor stands

Positions are made in several ways: by counting what stands before a place, by marking a sample
text, as the end of a text, and from a line that was asked for.  All of them lead back to the place
that was meant.

* `offsetAt_cursor_of_line`, `offsetAt_cursor_of_missing` — a line that was asked for leads to its
  end, or to the end of the text.
* `offsetAt_of_cursors` — **every way to make a position leads back to its place.**
-/

namespace QueryAssist

open Text

namespace CommandLine

section

variable {arguments : Arguments} {text : String} {line : UInt32} {number : Nat}

/-- Without a column, the cursor stands at the end of the line that was asked for, which is the end
of the text if there is no such line. -/
theorem preceding_cursor (hline : arguments.line = some line) (hcolumn : arguments.column = none)
    (hnumber : number + 1 = max line.toNat 1)
    (inRange : lineLength number text.toList + 1 < UInt32.size) :
    preceding text.toList (arguments.cursor text) =
      ['\n'].intercalate ((text.toList.splitOn '\n').take (number + 1)) := by
  have hindex : line.toNat - 1 = number := by omega
  rw [Arguments.cursor, hline, hcolumn]
  simp only [preceding, hindex]
  rw [UInt32.toNat_ofNat_of_lt' inRange]
  exact precedingFrom_lineLength number text.toList

/-- A line that was asked for leads to its end. -/
theorem offsetAt_cursor_of_line (hline : arguments.line = some line)
    (hcolumn : arguments.column = none) (hnumber : number + 1 = max line.toNat 1)
    {before after : List (List Char)} {content : List Char}
    (hlines : text.toList.splitOn '\n' = before ++ content :: after)
    (hlength : before.length = number) (inRange : content.length + 1 < UInt32.size) :
    offsetAt text (arguments.cursor text) =
      (String.ofList (['\n'].intercalate (before ++ [content]))).utf8ByteSize := by
  have hcontent : lineLength number text.toList = content.length := by
    rw [lineLength, hlines, ← hlength, List.getElem?_append_right (Nat.le_refl _), Nat.sub_self]
    rfl
  refine offsetAt_of_preceding ?_
  rw [preceding_cursor hline hcolumn hnumber (hcontent ▸ inRange), hlines, ← hlength,
    List.take_length_add_append]
  rfl

/-- A line that does not exist leads to the end of the text. -/
theorem offsetAt_cursor_of_missing (hline : arguments.line = some line)
    (hcolumn : arguments.column = none) (hnumber : number + 1 = max line.toNat 1)
    (missing : (text.toList.splitOn '\n').length ≤ number) :
    offsetAt text (arguments.cursor text) = text.utf8ByteSize := by
  have hcontent : lineLength number text.toList = 0 := by
    rw [lineLength, List.getElem?_eq_none missing]
    rfl
  have inRange : lineLength number text.toList + 1 < UInt32.size := by
    rw [hcontent]
    decide
  have hpreceding := preceding_cursor hline hcolumn hnumber inRange
  rw [List.take_of_length_le (Nat.le_succ_of_le missing), List.intercalate_splitOn] at hpreceding
  rw [offsetAt_of_preceding hpreceding, String.ofList_toList]

end

/-- The position after a text leads to its end. -/
theorem offsetAt_positionAfter {text : String} (inRange : EndsInRange text.toList) :
    offsetAt text (positionAfter text.toList) = text.utf8ByteSize := by
  have hpreceding := preceding_positionAfter inRange []
  rw [List.append_nil] at hpreceding
  rw [offsetAt_of_preceding hpreceding, String.ofList_toList]

/-- **Every way to make a position leads back to its place.**  That holds for the position that is
counted out before a place in a text, for the mark of a sample text, for the end of a text, and for
a line that was asked for without a column: its end, or the end of the text if there is no such
line.  The numbers of a position have 32 bits; line 0 stands for line 1. -/
theorem offsetAt_of_cursors (text : String) :
    (∀ (before after : List Char) (position : Position), text.toList = before ++ after →
      position.line.toNat = before.count '\n' + 1 →
      position.column.toNat = (before.reverse.takeWhile (· ≠ '\n')).length + 1 →
      offsetAt text position = (String.ofList before).utf8ByteSize) ∧
    (∀ before after : List Char, text.toList = before ++ cursorMark :: after →
      cursorMark ∉ before → EndsInRange before →
      (splitCursor text).1 = String.ofList (before ++ after) ∧
        offsetAt (splitCursor text).1 (splitCursor text).2 =
          (String.ofList before).utf8ByteSize) ∧
    (cursorMark ∉ text.toList → EndsInRange text.toList →
      (splitCursor text).1 = text ∧
        offsetAt (splitCursor text).1 (splitCursor text).2 = text.utf8ByteSize) ∧
    (EndsInRange text.toList → offsetAt text (endPosition text) = text.utf8ByteSize) ∧
    ∀ (arguments : Arguments) (line : UInt32) (number : Nat),
      arguments.line = some line → arguments.column = none →
      number + 1 = max line.toNat 1 →
      (∀ before content after, text.toList.splitOn '\n' = before ++ content :: after →
        before.length = number → content.length + 1 < UInt32.size →
        offsetAt text (arguments.cursor text) =
          (String.ofList (['\n'].intercalate (before ++ [content]))).utf8ByteSize) ∧
      ((text.toList.splitOn '\n').length ≤ number →
        offsetAt text (arguments.cursor text) = text.utf8ByteSize) := by
  refine ⟨?_, ?_, ?_, ?_, ?_⟩
  · intro before after position htext hline hcolumn
    refine offsetAt_of_preceding ?_
    rw [htext]
    exact preceding_append hline (by rw [hcolumn, lastLine, List.length_reverse])
  · intro before after htext first inRange
    rw [splitCursor_of_mark htext first]
    refine ⟨rfl, offsetAt_of_preceding ?_⟩
    rw [String.toList_ofList]
    exact preceding_positionAfter inRange after
  · intro unmarked inRange
    rw [splitCursor_of_no_mark unmarked]
    exact ⟨rfl, offsetAt_positionAfter inRange⟩
  · intro inRange
    rw [endPosition_eq]
    exact offsetAt_positionAfter inRange
  · intro arguments line number hline hcolumn hnumber
    refine ⟨?_, offsetAt_cursor_of_missing hline hcolumn hnumber⟩
    exact fun _ _ _ hlines hlength inRange =>
      offsetAt_cursor_of_line hline hcolumn hnumber hlines hlength inRange

/-- A text of two lines with letters of two bytes: a place in its second line, its mark, its end, and
the ends of the first line and of a third one that does not exist; and a text without a mark. -/
theorem offsetAt_of_cursors_twoLines :
    let text := "né\n|é"
    offsetAt text ⟨2, 2⟩ = 5 ∧
      offsetAt (splitCursor text).1 (splitCursor text).2 = 4 ∧
      offsetAt text (endPosition text) = 7 ∧
      offsetAt text (Arguments.cursor { line := some 0 } text) = 3 ∧
      offsetAt text (Arguments.cursor { line := some 3 } text) = 7 ∧
      offsetAt (splitCursor "né").1 (splitCursor "né").2 = 3 := by
  intro text
  obtain ⟨hplace, hmark, -, hend, hline⟩ := offsetAt_of_cursors text
  obtain ⟨-, -, hunmarked, -⟩ := offsetAt_of_cursors "né"
  have hplace := hplace ['n', 'é', '\n', '|'] ['é'] ⟨2, 2⟩ (by decide) (by decide) (by decide)
  have hmark := hmark ['n', 'é', '\n'] ['é'] (by decide) (by decide) ⟨by decide, by decide⟩
  have hend := hend ⟨by decide, by decide⟩
  have hfirst := (hline { line := some 0 } 0 0 rfl rfl (by decide)).1 [] ['n', 'é'] [['|', 'é']]
    (by decide) rfl (by decide)
  have hthird := (hline { line := some 3 } 3 2 rfl rfl (by decide)).2 (by decide)
  have hunmarked := hunmarked (by decide) ⟨by decide, by decide⟩
  exact ⟨hplace.trans (by decide), hmark.2.trans (by decide), hend.trans (by decide),
    hfirst.trans (by decide), hthird.trans (by decide), hunmarked.2.trans (by decide)⟩

end CommandLine

end QueryAssist
