import QueryAssist.Proofs.Dialect.Identifier
import QueryAssist.Proofs.Query.CurrentWord
import QueryAssist.Proofs.Suggestion.TypedWord

/-!
# Typing an identifier again

PostgreSQL takes some names without quotes, and its dialect writes them so.  Whoever types such a
name again should find it in the list.

* `isNameChar_iff_of_isPlainChar` — of the characters of plain identifiers, only the dollar sign ends
  the current word.
* `nameEnd_append_cons` — what follows such a character is the word.
* `retyped_isWord_iff` — **what has been typed of a plain identifier is the current word if and only
  if it has no dollar sign**; then the identifier stays in the list.
* `retyped_after_dollar` — a name with a dollar sign is lost.
-/

namespace QueryAssist

open Text

/-! ## The characters of the word -/

theorem isNameChar_of_isPlainWordChar {c : Char} (h : isPlainWordChar c = true) :
    isNameChar c = true := by
  have hascii := isAscii_of_isPlainWordChar h
  rcases Bool.or_eq_true_iff.1 h with halphanum | hunderscore
  · simp [isNameChar, isAlphanumeric, hascii, halphanum]
  · simp [isNameChar, eq_of_beq hunderscore]

/-- Of the characters of plain identifiers, only the dollar sign is none of the current word. -/
theorem isNameChar_iff_of_isPlainChar {c : Char} (h : Identifier.isPlainChar c = true) :
    isNameChar c = true ↔ c ≠ '$' := by
  constructor
  · rintro hname rfl
    exact absurd hname (by decide)
  · intro hdollar
    exact isNameChar_of_isPlainWordChar (Identifier.isPlainWordChar_of_isPlainChar h hdollar)

/-- The name characters at the end of a text, when another character stands before them. -/
theorem nameEnd_append_cons {front word : List Char} {c : Char} (hc : isNameChar c = false)
    (inside : ∀ d ∈ word, isNameChar d = true) : nameEnd (front ++ c :: word) = word := by
  have hword : ∀ d ∈ word.reverse, isNameChar d = true :=
    fun d hd => inside d (List.mem_reverse.1 hd)
  rw [nameEnd, List.reverse_append, List.reverse_cons, List.append_assoc,
    List.takeWhile_append_of_pos hword]
  simp [hc]

/-! ## The identifier in the list -/

/-- No sigma is hidden in a plain identifier, so a label stays in the list while it is typed. -/
theorem Suggestion.hasWord_of_isPlainChar {item : Suggestion} {typed : String}
    (isPrefix : typed.toList <+: item.label.toList)
    (plain : ∀ c ∈ typed.toList, Identifier.isPlainChar c = true) : hasWord typed item = true := by
  obtain ⟨rest, hrest⟩ := isPrefix
  have hlabel : item.label = typed ++ String.ofList rest := by
    rw [← String.toList_inj, String.toList_append, String.toList_ofList, hrest]
  refine (hasWord_iff hlabel).2 ?_
  rintro ⟨⟨front, c, after, htyped, rfl, -, -⟩, -⟩
  exact absurd (plain 'Σ' (by rw [htyped]; simp)) (by decide)

namespace QueryContext

/-- **What has been typed of an identifier that PostgreSQL takes without quotes is the current word,
with the span of the word, if and only if there is no dollar sign in it.**  Then a suggestion with
that identifier as its label stays in the list. -/
theorem retyped_isWord_iff {name typed : String}
    (bare : Dialect.postgresql.formatIdentifier name = name)
    (isPrefix : typed.toList <+: name.toList) (inRange : EndsInRange (' ' :: typed.toList)) :
    let context := parse (" " ++ typed) (endPosition (" " ++ typed))
    (context.currentWord = typed ∧
        context.wordSpan = ⟨endPosition " ", endPosition (" " ++ typed)⟩ ↔ '$' ∉ typed.toList) ∧
      ('$' ∉ typed.toList → ∀ items : List Suggestion, ∀ item ∈ items, item.label = name →
        ∃ listed ∈ Suggestion.rank items context.currentWord none none, listed.label = name) := by
  intro context
  have hbare : Dialect.postgresql.formatIdentifierL name.toList = name.toList := by
    have hchars := congrArg String.toList bare
    rwa [Dialect.formatIdentifier, String.toList_ofList] at hchars
  have hplain : ∀ c ∈ typed.toList, Identifier.isPlainChar c = true := fun c hc =>
    Identifier.isPlainChar_of_mem (Dialect.formatIdentifierL_eq_self_iff.1 hbare).2 c
      (isPrefix.subset hc)
  have htext : (" " ++ typed).toList = (' ' :: typed.toList) ++ [] := by
    rw [String.toList_append, List.append_nil]
    rfl
  have hend : endPosition (" " ++ typed) = positionAfter (' ' :: typed.toList) := by
    rw [endPosition_eq, htext, List.append_nil]
  obtain ⟨hword, hspan⟩ := parse_positionAfter htext inRange
  rw [← hend] at hword hspan
  have hwordEnd : context.currentWord.toList = nameEnd (' ' :: typed.toList) := by
    rw [hword, toList_currentWordAt]
    exact List.append_nil _
  have hwhole : '$' ∉ typed.toList → context.currentWord = typed := by
    intro hdollar
    have inside : ∀ c ∈ typed.toList, isNameChar c = true := by
      intro c hc
      refine (isNameChar_iff_of_isPlainChar (hplain c hc)).2 ?_
      rintro rfl
      exact hdollar hc
    have hspace : isNameChar ' ' = false := by decide
    have hwordChars : nameEnd ([] ++ ' ' :: typed.toList) = typed.toList :=
      nameEnd_append_cons hspace inside
    rw [← String.toList_inj, hwordEnd]
    exact hwordChars
  refine ⟨⟨?_, ?_⟩, ?_⟩
  · rintro ⟨hsame, -⟩ hdollar
    rw [← hsame, hwordEnd] at hdollar
    exact absurd (isNameChar_of_mem_nameEnd _ hdollar) (by decide)
  · intro hdollar
    refine ⟨hwhole hdollar, ?_⟩
    have hfront : nameFront (' ' :: typed.toList) = [' '] := by
      have hparts := nameFront_append_nameEnd (' ' :: typed.toList)
      rw [← hwordEnd, hwhole hdollar] at hparts
      exact List.append_cancel_right hparts
    have hnone : ' ' :: typed.toList ++ nameStart [] = ' ' :: typed.toList := List.append_nil _
    have hstart : context.wordSpan.start = endPosition " " := by
      rw [hspan, hend, span_start_eq inRange, hfront]
      rfl
    have hstop : context.wordSpan.stop = endPosition (" " ++ typed) := by
      rw [hspan, hend, span_stop_eq (hnone.symm ▸ inRange), hnone]
    exact congrArg₂ Span.mk hstart hstop
  · intro hdollar items item hitem hlabel
    rw [hwhole hdollar, Suggestion.exists_mem_rank_iff]
    exact ⟨item, hitem, hlabel, Suggestion.hasWord_of_isPlainChar (hlabel ▸ isPrefix) hplain⟩

/-- The beginning of a name with an underscore and a digit. -/
theorem retyped_isWord_iff_underscore :
    let context := parse (" " ++ "user_i") (endPosition (" " ++ "user_i"))
    Dialect.postgresql.formatIdentifier "user_id2" = "user_id2" ∧
      context.currentWord = "user_i" ∧
      context.wordSpan = ⟨endPosition " ", endPosition (" " ++ "user_i")⟩ := by
  intro context
  have hbare : Dialect.postgresql.formatIdentifier "user_id2" = "user_id2" := by decide +kernel
  have hprefix : "user_i".toList <+: "user_id2".toList := by decide
  have inRange : EndsInRange (' ' :: "user_i".toList) := ⟨by decide, by decide⟩
  exact ⟨hbare, (retyped_isWord_iff hbare hprefix inRange).1.2 (by decide)⟩

/-- **Of a name with a dollar sign only the part after it is the word**, and the name is not in the
list for that part. -/
theorem retyped_after_dollar :
    let context := parse (" " ++ "a$b") (endPosition (" " ++ "a$b"))
    let item := Suggestion.plain "a$b" .column .column
    Dialect.postgresql.formatIdentifier "a$b" = "a$b" ∧
      context.currentWord = "b" ∧ context.wordSpan = ⟨⟨1, 4⟩, ⟨1, 5⟩⟩ ∧
      Suggestion.hasWord context.currentWord item = false := by
  decide +kernel

end QueryContext

end QueryAssist
