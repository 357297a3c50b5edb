import QueryAssist.Editor.Protocol
import QueryAssist.Proofs.Text.Position

/-!
# Places of an editor in a text

An editor counts the characters of a line in UTF-16 code units, of which a character has one or two.
A place becomes a position by adding 1 to both numbers, so its units are taken for characters.

* `unitLength_eq_length_iff` — units and characters are the same number if and only if no character
  has two units.
* `offsetAt_toPosition_iff` — **the exact condition** under which a place leads to the boundary that
  the editor means; `offsetAt_behindPair` is a place that does not.
-/

namespace QueryAssist

open Text

namespace Editor

/-! ## Units -/

/-- How many UTF-16 code units a character has: two beyond the first 65536 code points. -/
def unitSize (c : Char) : Nat :=
  if c.val ≤ 0xFFFF then 1 else 2

/-- The length of a text in UTF-16 code units, in which an editor counts. -/
def unitLength : List Char → Nat
  | [] => 0
  | c :: cs => unitSize c + unitLength cs

theorem length_le_unitLength (cs : List Char) : cs.length ≤ unitLength cs := by
  induction cs with
  | nil => exact Nat.le_refl _
  | cons c cs ih =>
    rw [unitLength, unitSize, List.length_cons]
    split <;> omega

/-- **Units and characters are the same number if and only if no character has two units.** -/
theorem unitLength_eq_length_iff {cs : List Char} :
    unitLength cs = cs.length ↔ ∀ c ∈ cs, c.val ≤ 0xFFFF := by
  induction cs with
  | nil => simp [unitLength]
  | cons c cs ih =>
    have hle := length_le_unitLength cs
    rw [unitLength, List.length_cons, List.forall_mem_cons, ← ih, unitSize]
    split
    · next hc => simp only [hc, true_and]; omega
    · next hc => simp only [hc, false_and, iff_false]; omega

/-! ## Places -/

/-- A number below the greatest one is increased by 1. -/
theorem toNat_add_one {n : UInt32} (h : n < 4294967295) : (n + 1).toNat = n.toNat + 1 := by
  have hn : n.toNat < 4294967295 := h
  rw [UInt32.toNat_add]
  exact Nat.mod_eq_of_lt (by simp; omega)

/-- The text before the position of a place is counted from 0 as the place is. -/
theorem preceding_toPosition {place : Place} (line : place.line < 4294967295)
    (character : place.character < 4294967295) (cs : List Char) :
    preceding cs place.toPosition =
      precedingFrom place.line.toNat place.character.toNat cs := by
  have hline : place.line ≠ 4294967295 := by rintro h; simp [h] at line
  have hcharacter : place.character ≠ 4294967295 := by rintro h; simp [h] at character
  rw [preceding, Place.toPosition, if_neg hline, if_neg hcharacter, toNat_add_one line,
    toNat_add_one character]
  rfl

/-- **The editor's place leads to its boundary if and only if no character of two units stands before
it on its line, or nothing of the line after it.**  In the first case units are characters; in the
second the column that is too great stands for the end of the line. -/
theorem offsetAt_toPosition_iff {text : String} {before after : List Char} {place : Place}
    (htext : text.toList = before ++ after)
    (line : place.line.toNat = before.count '\n')
    (character : place.character.toNat = unitLength (lastLine before))
    (lineBelow : place.line < 4294967295) (characterBelow : place.character < 4294967295) :
    offsetAt text place.toPosition = (String.ofList before).utf8ByteSize ↔
      (∀ c ∈ lastLine before, c.val ≤ 0xFFFF) ∨ ∀ c ∈ after.head?, c = '\n' := by
  rw [offsetAt_eq_iff ⟨after, htext.symm⟩, preceding_toPosition lineBelow characterBelow, line,
    character, htext, precedingFrom_eq_before_iff (length_le_unitLength _), unitLength_eq_length_iff]

/-- On the second line a place behind letters of the first 65536 code points, and a place behind a
character of two units at the end of the line. -/
theorem offsetAt_toPosition_iff_secondLine :
    let text := "😀\nné😀"
    offsetAt text (Place.toPosition ⟨1, 2⟩) = 8 ∧ offsetAt text (Place.toPosition ⟨1, 4⟩) = 12 := by
  intro text
  have hinside := (@offsetAt_toPosition_iff text ['😀', '\n', 'n', 'é'] ['😀'] ⟨1, 2⟩
    (by decide) (by decide) (by decide) (by decide) (by decide)).2
      (.inl (unitLength_eq_length_iff.1 (by decide)))
  have hend := (@offsetAt_toPosition_iff text ['😀', '\n', 'n', 'é', '😀'] [] ⟨1, 4⟩
    (by decide) (by decide) (by decide) (by decide) (by decide)).2 (.inr (by simp))
  exact ⟨hinside.trans (by decide), hend.trans (by decide)⟩

/-- **A place behind a character of two units leads too far.**  The editor's character 2 stands
between the two characters of the text, at byte 4; it is taken for the end of the text. -/
theorem offsetAt_behindPair :
    let place : Place := ⟨0, 2⟩
    "😀a".toList = ['😀'] ++ ['a'] ∧ place.line.toNat = ['😀'].count '\n' ∧
      place.character.toNat = unitLength (lastLine ['😀']) ∧
      (String.ofList ['😀']).utf8ByteSize = 4 ∧ offsetAt "😀a" place.toPosition = 5 := by
  decide

end Editor

end QueryAssist
