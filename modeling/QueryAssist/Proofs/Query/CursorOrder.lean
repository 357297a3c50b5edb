import QueryAssist.Proofs.Query.Context

/-!
# Cursors in order

An offset is a place in the text it is asked for, between two of its characters, and the text before
it is the one that a context is read from.  When a cursor moves on, that text only gets longer.

* `exists_append_of_offsetAt` — a text can be cut at an offset, and what is cut off is the text before
  the position.
* `preceding_isPrefix_of_atOrBefore` — a cursor that moves on leaves a longer text before it.
* `exists_offsetAt_lt` — positions in any other order have offsets in that other order in some text.
* `offsetAt_safe_monotone` — **offsets are safe, and grow with the position**; `offsetAt_lineZero` is
  why line 0 has to count as line 1 for that.
-/

namespace QueryAssist

open Text

/-! ## Positions in order -/

/-- A position is at another one or before it: on an earlier line, or on the same line in a column
that is no later.  Line 0 and column 0 count as the first ones. -/
def Position.AtOrBefore (first second : Position) : Prop :=
  max first.line.toNat 1 < max second.line.toNat 1 ∨
    max first.line.toNat 1 = max second.line.toNat 1 ∧
      max first.column.toNat 1 ≤ max second.column.toNat 1

namespace Text

/-- **An offset is a place between two characters**: the text before the position ends there. -/
theorem exists_append_of_offsetAt (text : String) (position : Position) :
    ∃ after, text = String.ofList (preceding text.toList position) ++ after ∧
      (String.ofList (preceding text.toList position)).utf8ByteSize = offsetAt text position := by
  obtain ⟨after, hafter⟩ :=
    precedingFrom_isPrefix (position.line.toNat - 1) (position.column.toNat - 1) text.toList
  refine ⟨String.ofList after, ?_, ?_⟩
  · rw [← String.ofList_append, preceding, hafter, String.ofList_toList]
  · rw [offsetAt_eq, byteLength_eq_utf8ByteSize]

theorem preceding_isPrefix_of_atOrBefore {first second : Position} (h : first.AtOrBefore second)
    (cs : List Char) : preceding cs first <+: preceding cs second := by
  refine precedingFrom_isPrefix_of_le ?_ cs
  rw [Position.AtOrBefore] at h
  omega

/-- The text whose end is in a given line and column, both counted from 0: empty lines and a last
line of that length. -/
def reaching (line column : Nat) : List Char :=
  List.replicate line '\n' ++ List.replicate column 'x'

theorem precedingFrom_reaching (line column column' : Nat) :
    precedingFrom line column' (reaching line column) =
      List.replicate line '\n' ++ List.replicate (min column' column) 'x' := by
  have hwhole : ∀ c, (List.replicate line '\n').getLast? = some c → c = '\n' :=
    fun c hc => List.eq_of_mem_replicate (List.mem_of_getLast? hc)
  have hline : (List.replicate column 'x').takeWhile (· ≠ '\n') = List.replicate column 'x' :=
    List.takeWhile_eq_self_iff.2 fun c hc => by rw [List.eq_of_mem_replicate hc]; decide
  have hbeginning := precedingFrom_whole hwhole 0 column' (List.replicate column 'x')
  rwa [List.count_replicate_self, Nat.add_zero, precedingFrom_zero, hline, List.take_replicate]
    at hbeginning

/-- A position that is not at another one or before it is further on in some text. -/
theorem exists_offsetAt_lt {first second : Position} (h : ¬ first.AtOrBefore second) :
    ∃ text, offsetAt text second < offsetAt text first := by
  let cs := reaching (first.line.toNat - 1) (first.column.toNat - 1)
  have hfirst : preceding cs first = cs := by
    rw [preceding, precedingFrom_reaching, Nat.min_self]
    rfl
  have hbeginning : preceding cs second <+: cs := precedingFrom_isPrefix _ _ _
  have hne : preceding cs second ≠ cs := by
    intro hsame
    rw [Position.AtOrBefore] at h
    by_cases hline : second.line.toNat - 1 = first.line.toNat - 1
    · -- on the same line, too few characters of it stand before the second position
      rw [preceding, hline, precedingFrom_reaching] at hsame
      have hlength := congrArg List.length hsame
      simp only [cs, reaching, List.length_append, List.length_replicate] at hlength
      omega
    · -- on an earlier line, too few line feeds do
      have hcount := count_feed_precedingFrom_le (second.line.toNat - 1)
        (second.column.toNat - 1) cs
      rw [← preceding, hsame] at hcount
      simp only [cs, reaching, List.count_append, List.count_replicate_self] at hcount
      omega
  refine ⟨String.ofList cs, ?_⟩
  rw [offsetAt_eq, offsetAt_eq, String.toList_ofList, hfirst]
  exact Nat.lt_of_le_of_ne (byteLength_le_of_isPrefix hbeginning) fun hsame =>
    hne (eq_of_prefix_of_byteLength_eq hbeginning List.prefix_rfl hsame)

end Text

namespace QueryContext

/-- **An offset lies in the text and between two of its characters, and it grows with the position.**
The text before it is the one that a context gives, so the text can be cut there.  When a position
moves on, line 0 and column 0 counting as the first ones, the text before it only gets longer; in any
other order of positions the offsets fall in some text. -/
theorem offsetAt_safe_monotone :
    (∀ (text : String) (position : Position),
      offsetAt text position ≤ text.utf8ByteSize ∧
        (⟨offsetAt text position⟩ : String.Pos.Raw).IsValid text ∧
        ∃ after, text = (parse text position).precedingText ++ after ∧
          (parse text position).precedingText.utf8ByteSize = offsetAt text position) ∧
    ∀ first second : Position, first.AtOrBefore second ↔ ∀ text : String,
      offsetAt text first ≤ offsetAt text second ∧
        (parse text first).precedingText.toList <+: (parse text second).precedingText.toList := by
  refine ⟨fun text position => ?_, fun first second => ⟨fun h text => ?_, fun h => ?_⟩⟩
  · obtain ⟨after, htext, hsize⟩ := exists_append_of_offsetAt text position
    have hvalid : (⟨offsetAt text position⟩ : String.Pos.Raw).IsValid text :=
      String.Pos.Raw.isValid_iff_exists_append.2
        ⟨_, after, htext, String.Pos.Raw.ext hsize.symm⟩
    rw [parse_precedingText]
    exact ⟨hvalid.le_rawEndPos, hvalid, after, htext, hsize⟩
  · have hbeginning := preceding_isPrefix_of_atOrBefore h text.toList
    rw [offsetAt_eq, offsetAt_eq, parse_precedingText, parse_precedingText, String.toList_ofList,
      String.toList_ofList]
    exact ⟨byteLength_le_of_isPrefix hbeginning, hbeginning⟩
  · by_contra hnot
    obtain ⟨text, hlt⟩ := exists_offsetAt_lt hnot
    exact Nat.not_lt.2 (h text).1 hlt

/-- **Line 0 is not before line 1**: column 2 of line 0 lies behind column 1 of line 1. -/
theorem offsetAt_lineZero :
    (⟨0, 2⟩ : Position).line < (⟨1, 1⟩ : Position).line ∧
      offsetAt "ab" ⟨1, 1⟩ = 0 ∧ offsetAt "ab" ⟨0, 2⟩ = 1 := by
  decide

end QueryContext

end QueryAssist
