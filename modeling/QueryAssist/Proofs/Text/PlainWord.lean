import QueryAssist.Proofs.Text.CharClass
import QueryAssist.Proofs.Text.Quotes

/-!
# Plain words

Words of ASCII letters, digits and underscores, the names that need no quotes in most queries.

* `IsPlainWord.isWordChar` — their characters are word characters.
* `IsPlainWord.unquote` — nothing of them is lost with the quotes.
-/

namespace QueryAssist.Text

/-- Whether a character is an ASCII letter, an ASCII digit or an underscore. -/
def isPlainWordChar (c : Char) : Bool :=
  c.isAlphanum || c == '_'

/-- Words of ASCII letters, digits and underscores. -/
def IsPlainWord (word : String) : Prop :=
  word ≠ "" ∧ ∀ c ∈ word.toList, isPlainWordChar c = true

instance (word : String) : Decidable (IsPlainWord word) :=
  decidable_of_iff (word ≠ "" ∧ word.toList.all isPlainWordChar = true) (by simp [IsPlainWord])

theorem isAscii_of_isPlainWordChar {c : Char} (h : isPlainWordChar c = true) :
    isAscii c = true := by
  have hascii {last : Char} (hlast : last.toNat < 128) (hle : c.val ≤ last.val) :
      isAscii c = true :=
    decide_eq_true (Nat.lt_of_le_of_lt hle hlast)
  rcases Bool.or_eq_true_iff.1 h with halphanum | hunderscore
  · rcases Bool.or_eq_true_iff.1 halphanum with halpha | hdigit
    · rcases Bool.or_eq_true_iff.1 halpha with hupper | hlower
      · exact hascii (by decide : 'Z'.toNat < 128) (of_decide_eq_true hupper).2
      · exact hascii (by decide : 'z'.toNat < 128)
          (of_decide_eq_true (Bool.and_eq_true_iff.1 hlower).2)
    · exact hascii (by decide : '9'.toNat < 128)
        (of_decide_eq_true (Bool.and_eq_true_iff.1 hdigit).2)
  · rw [eq_of_beq hunderscore]
    decide

/-- The characters of plain words are word characters. -/
theorem isWordChar_of_isPlainWordChar {c : Char} (h : isPlainWordChar c = true) :
    isWordChar c = true := by
  rw [isWordChar, if_pos (isAscii_of_isPlainWordChar h)]
  exact h

theorem isQuote_eq_false_of_isPlainWordChar {c : Char} (h : isPlainWordChar c = true) :
    isQuote c = false := by
  rw [← Bool.not_eq_true]
  intro hquote
  simp only [isQuote, Bool.or_eq_true, beq_iff_eq] at hquote
  rcases hquote with ((rfl | rfl) | rfl) | rfl <;> exact absurd h (by decide)

namespace IsPlainWord

variable {word : String}

theorem isWordChar (h : IsPlainWord word) : ∀ c ∈ word.toList, isWordChar c = true :=
  fun c hc => isWordChar_of_isPlainWordChar (h.2 c hc)

theorem toList_ne_nil (h : IsPlainWord word) : word.toList ≠ [] := by
  simpa using h.1

theorem dot_not_mem (h : IsPlainWord word) : '.' ∉ word.toList :=
  fun hdot => absurd (h.2 '.' hdot) (by decide)

theorem isBlank_eq_false (h : IsPlainWord word) : ∀ c ∈ word.toList, isBlank c = false :=
  fun c hc => isBlank_eq_false_of_isWordChar (h.isWordChar c hc)

theorem isQuote_eq_false (h : IsPlainWord word) : ∀ c ∈ word.toList, isQuote c = false :=
  fun c hc => isQuote_eq_false_of_isPlainWordChar (h.2 c hc)

/-- Nothing of a plain word is lost with the quotes. -/
theorem unquote (h : IsPlainWord word) : unquote word = word := by
  rw [Text.unquote, unquoteL_eq_self h.isBlank_eq_false h.isQuote_eq_false, String.ofList_toList]

end IsPlainWord

end QueryAssist.Text
