import QueryAssist.Proofs.Suggestion.Ranking
import QueryAssist.Proofs.Text.LetterCase

/-!
# Labels that are being typed

Label and word are compared in lower case, each by itself.  The lower-case form of a capital sigma
depends on what follows it, and to a word that is not complete yet nothing has been added.

* `hasWord_iff` — when a label has a word it begins with, character for character.
* `typed_label_listed_iff` — **the label that is being typed is in the list**, unless the word ends
  in a final sigma that is not final in the label.
* `typed_label_hidden` — such a label comes back only when more of it is typed.
-/

namespace QueryAssist

open Text

namespace Suggestion

/-- A label has a word it begins with, unless a sigma that is final in the word is not so in the
label. -/
theorem hasWord_iff {item : Suggestion} {word rest : String} (hlabel : item.label = word ++ rest) :
    hasWord word item = true ↔
      ¬ (EndsInFinalSigma [] word.toList ∧ startsCased rest.toList = true) := by
  rw [hasWord, hlabel, String.toList_append, List.isPrefixOf_iff_prefix]
  exact lowercaseFrom_isPrefix_iff [] word.toList rest.toList

/-- **When the label that is being typed is in the list**: always, unless the word ends in a capital
sigma behind a cased letter and the label goes on with a cased letter.  Then the sigma is a final
one in the word but not in the label. -/
theorem typed_label_listed_iff {items : List Suggestion} {item : Suggestion} (hitem : item ∈ items)
    {word rest : String} (hlabel : item.label = word ++ rest) (span : Option Span) :
    (∃ listed ∈ rank items word span none, listed.label = item.label) ↔
      ¬ (EndsInFinalSigma [] word.toList ∧ startsCased rest.toList = true) := by
  rw [exists_mem_rank_iff, ← hasWord_iff hlabel]
  constructor
  · rintro ⟨other, -, hsame, hword⟩
    rwa [hasWord_congr hsame] at hword
  · exact fun hword => ⟨item, hitem, rfl, hword⟩

/-- An underscore after a final sigma changes nothing. -/
theorem typed_label_listed_underscore :
    let item := plain "ΑΣ_1" .column .column
    item ∈ [item] ∧ item.label = "ΑΣ" ++ "_1" ∧
      ∃ listed ∈ rank [item] "ΑΣ" none none, listed.label = item.label := by
  intro item
  have hlabel : item.label = "ΑΣ" ++ "_1" := by decide
  have hitem : item ∈ [item] := List.mem_singleton_self item
  exact ⟨hitem, hlabel, (typed_label_listed_iff hitem hlabel none).2 (by decide +kernel)⟩

/-- **A label is missing while it is being typed**: `ΑΣΑ` is not in the list for `ΑΣ`, and it is
there again for the whole word. -/
theorem typed_label_hidden :
    let item := plain "ΑΣΑ" .column .column
    item.label = "ΑΣ" ++ "Α" ∧
      (¬ ∃ listed ∈ rank [item] "ΑΣ" none none, listed.label = item.label) ∧
      ∃ listed ∈ rank [item] "ΑΣΑ" none none, listed.label = item.label := by
  intro item
  have hshort : hasWord "ΑΣ" item = false := by decide +kernel
  have hwhole : hasWord "ΑΣΑ" item = true := by decide +kernel
  refine ⟨by decide, ?_, ?_⟩
  · rw [exists_mem_rank_iff]
    rintro ⟨other, hother, -, hword⟩
    obtain rfl := List.mem_singleton.1 hother
    exact Bool.false_ne_true (hshort.symm.trans hword)
  · exact exists_mem_rank_iff.2 ⟨item, List.mem_singleton_self item, rfl, hwhole⟩

end Suggestion

end QueryAssist
