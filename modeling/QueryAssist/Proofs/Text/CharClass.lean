import QueryAssist.Text.Blank
import QueryAssist.Text.CharClass

/-!
# How character classes lie to each other

* `isWordChar_eq_false_of_isBlank` — no blank is a word character.
-/

namespace QueryAssist.Text

/-- The code points of the blanks, as runs of a first one and a length. -/
def blankRuns : List (Nat × Nat) :=
  [(0x09, 5), (0x20, 1), (0x85, 1), (0xA0, 1), (0x1680, 1), (0x2000, 11), (0x2028, 2), (0x202F, 1),
    (0x205F, 1), (0x3000, 1)]

theorem exists_blankRun {c : Char} (h : isBlank c = true) :
    ∃ run ∈ blankRuns, ∃ offset < run.2, c.toNat = run.1 + offset := by
  simp only [isBlank, Bool.or_eq_true, Bool.and_eq_true, decide_eq_true_eq, beq_iff_eq] at h
  rcases h with
    (((((((((h | h) | h) | h) | h) | h) | h) | h) | h) | h) | h
  · exact ⟨(0x09, 5), by decide, c.toNat - 0x09, by simp only; omega, by simp only; omega⟩
  · exact ⟨(0x20, 1), by decide, 0, by decide, h⟩
  · exact ⟨(0x85, 1), by decide, 0, by decide, h⟩
  · exact ⟨(0xA0, 1), by decide, 0, by decide, h⟩
  · exact ⟨(0x1680, 1), by decide, 0, by decide, h⟩
  · exact ⟨(0x2000, 11), by decide, c.toNat - 0x2000, by simp only; omega, by simp only; omega⟩
  · exact ⟨(0x2028, 2), by decide, 0, by decide, h⟩
  · exact ⟨(0x2028, 2), by decide, 1, by decide, h⟩
  · exact ⟨(0x202F, 1), by decide, 0, by decide, h⟩
  · exact ⟨(0x205F, 1), by decide, 0, by decide, h⟩
  · exact ⟨(0x3000, 1), by decide, 0, by decide, h⟩

/-- No blank is a word character. -/
theorem isWordChar_eq_false_of_isBlank {c : Char} (h : isBlank c = true) :
    isWordChar c = false := by
  have htable : ∀ run ∈ blankRuns, ∀ offset < run.2,
      isWordChar (Char.ofNat (run.1 + offset)) = false := by decide +kernel
  obtain ⟨run, hrun, offset, hoffset, hcode⟩ := exists_blankRun h
  rw [← Char.ofNat_toNat c, hcode]
  exact htable run hrun offset hoffset

theorem isBlank_eq_false_of_isWordChar {c : Char} (h : isWordChar c = true) :
    isBlank c = false := by
  rw [← Bool.not_eq_true]
  exact fun hblank => nomatch h.symm.trans (isWordChar_eq_false_of_isBlank hblank)

end QueryAssist.Text
