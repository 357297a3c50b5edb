import QueryAssist.Proofs.Query.ClauseContext
import QueryAssist.Proofs.Query.ClauseKeyword
import QueryAssist.Proofs.Text.Dotted

/-!
# The labels of clause keywords

A clause keyword is found in either case of its letters, and the long s stands for an `S` in it.  Its
clause is looked up by its label, which has the ASCII letters of the keyword in upper case and the
long s as it is.

* `isSome_ofLabel?_iff` — the labels that stand for a clause.
* `label_of_readsAs` — what has been read as a phrase has such a label, unless it begins with a long s.
* `ClauseReading`, `parse_clauseReading` — **what a context says of its clause: the clause of the last
  keyword and what it asks for, and nothing is known exactly behind a `SELECT` with a long s.**
* `parse_longSelect` — behind such a `SELECT`.
-/

namespace QueryAssist

open Text Query

namespace Clause

/-! ## Labels that stand for a clause -/

/-- The labels of the clauses but the joins. -/
def labels : List String :=
  ["SELECT", "FROM", "WHERE", "HAVING", "ON", "GROUP BY", "ORDER BY"]

/-- Whether a label is that of a clause: one of the list, or one that ends in `JOIN`. -/
def IsLabel (label : String) : Prop :=
  label ∈ labels ∨ "JOIN".toList <:+ label.toList

instance (label : String) : Decidable (IsLabel label) :=
  inferInstanceAs (Decidable (_ ∨ _))

/-- Only the end of a label that is not in the list decides. -/
theorem ofLabel?_of_not_mem {label : String} (h : label ∉ labels) :
    ofLabel? label = if "JOIN".toList <:+ label.toList then some .join else none := by
  simp only [labels, List.mem_cons, List.not_mem_nil, or_false, not_or] at h
  obtain ⟨hselect, hfrom, hwhere, hhaving, hon, hgroup, horder⟩ := h
  unfold ofLabel?
  rw [if_neg hselect, if_neg hfrom, if_neg hwhere, if_neg hhaving, if_neg hon, if_neg hgroup,
    if_neg horder]
  simp only [List.isSuffixOf_iff_suffix]

/-- The labels that end in `JOIN` are those of joins. -/
theorem ofLabel?_of_suffix {label : String} (h : "JOIN".toList <:+ label.toList) :
    ofLabel? label = some .join := by
  have hother : ∀ label ∈ labels, ¬ "JOIN".toList <:+ label.toList := by decide
  rw [ofLabel?_of_not_mem fun hmem => hother label hmem h, if_pos h]

/-- A clause is found for the labels of clauses and for no others. -/
theorem isSome_ofLabel?_iff {label : String} :
    (ofLabel? label).isSome = true ↔ IsLabel label := by
  by_cases hmem : label ∈ labels
  · have hall : ∀ label ∈ labels, (ofLabel? label).isSome = true := by decide
    exact iff_of_true (hall label hmem) (.inl hmem)
  · rw [IsLabel, or_iff_right hmem, ofLabel?_of_not_mem hmem]
    split
    · next hjoin => exact iff_of_true rfl hjoin
    · next hother => exact iff_of_false Bool.false_ne_true hother

/-! ## The label of what has been read -/

section

variable {word : String} {words : List String} {read : List Char}

/-- Whether a word is written in capitals that no character beyond ASCII stands for. -/
def IsPlainCapital (word : String) : Prop :=
  asciiUpper word = word ∧ isPlainlySpelled word = true

instance (word : String) : Decidable (IsPlainCapital word) :=
  inferInstanceAs (Decidable (_ ∧ _))

/-- Such a word is what it is read as, in upper case. -/
theorem IsPlainCapital.asciiUpper_read (h : IsPlainCapital word)
    (letters : read.map foldLetter = word.toList.map foldLetter) :
    asciiUpper (String.ofList read) = word := by
  have hupper : ∀ cs : List Char, cs.map Char.toUpper = (cs.map Char.toLower).map Char.toUpper := by
    intro cs
    simp only [List.map_map, Function.comp_def, toUpper_toLower]
  have hsame : read.map Char.toUpper = word.toList.map Char.toUpper := by
    rw [hupper read, map_toLower_of_letters h.2 letters, ← hupper word.toList]
  rw [asciiUpper, String.toList_ofList, hsame]
  exact h.1

/-- The label of a phrase of such words is the phrase. -/
theorem label_of_isPlainCapital {parts : List (List Char)}
    (hwords : ∀ word ∈ words, IsPlainCapital word)
    (letters : parts.map (List.map foldLetter) = words.map (·.toList.map foldLetter)) :
    (parts.map fun part => asciiUpper (String.ofList part)) = words := by
  induction words generalizing parts with
  | nil => simpa using letters
  | cons word words ih =>
    cases parts with
    | nil => simp at letters
    | cons part parts =>
      obtain ⟨hpart, hparts⟩ := List.cons.inj letters
      obtain ⟨hword, hothers⟩ := List.forall_mem_cons.1 hwords
      rw [List.map_cons, hword.asciiUpper_read hpart, ih hothers hparts]

/-- The label of a phrase that ends in `JOIN` does so, however its other words are written. -/
theorem suffix_label_of_join (hlast : words.getLast? = some "JOIN")
    (letters : (fieldsL read).map (List.map foldLetter) = words.map (·.toList.map foldLetter)) :
    "JOIN".toList <:+ (label read).toList := by
  have hcapital : IsPlainCapital "JOIN" := by decide
  obtain ⟨front, rfl⟩ := List.getLast?_eq_some_iff.1 hlast
  rw [List.map_append] at letters
  obtain ⟨parts, ends, hfields, -, hends⟩ := List.map_eq_append_iff.1 letters
  obtain ⟨part, rfl, hpart⟩ := List.map_eq_singleton_iff.1 hends
  rw [label, hfields, List.map_append, List.map_singleton, hcapital.asciiUpper_read hpart,
    String.toList_intercalate, List.map_append, List.map_singleton]
  exact suffix_intercalate _ _ _

/-- What a character is that stands for an `S`. -/
theorem eq_longS_or_toUpper_eq {c : Char} (h : foldLetter c = 's') : c = 'ſ' ∨ c.toUpper = 'S' := by
  by_cases hlong : c = 'ſ'
  · exact .inl hlong
  · have hkelvin : c ≠ '\u212A' := by
      rintro rfl
      exact absurd h (by decide)
    rw [foldLetter, if_neg hlong, if_neg hkelvin] at h
    refine .inr ?_
    rw [← toUpper_toLower, h]
    decide

/-- The label of a `SELECT`: the first letter is a long s where it is written as one. -/
theorem label_of_select (letters : read.map foldLetter = "SELECT".toList.map foldLetter) :
    read.head? = some 'ſ' ∧ label read = "ſELECT" ∨
      read.head? ≠ some 'ſ' ∧ label read = "SELECT" := by
  have hfields : fieldsL read = [read] :=
    fieldsL_of_map_foldLetter (by decide) letters
  cases read with
  | nil => simp at letters
  | cons c rest =>
    obtain ⟨hc, hrest⟩ := List.cons.inj letters
    have hcapital : IsPlainCapital "ELECT" := by decide
    have hupper : rest.map Char.toUpper = "ELECT".toList := by
      have hread := congrArg String.toList (hcapital.asciiUpper_read hrest)
      simpa [asciiUpper] using hread
    have hlabel : label (c :: rest) = String.ofList (c.toUpper :: "ELECT".toList) := by
      rw [label, hfields, ← hupper]
      simp [asciiUpper]
    rw [hlabel]
    rcases eq_longS_or_toUpper_eq hc with rfl | hplain
    · exact .inl ⟨rfl, by decide⟩
    · refine .inr ⟨?_, by rw [hplain]; decide⟩
      rw [List.head?_cons, ne_eq, Option.some_inj]
      rintro rfl
      exact absurd hplain (by decide)

/-- **What has been read as a clause keyword has the label of a clause, unless it begins with a long
s.**  Then it is a `SELECT`, and no clause has its label. -/
theorem label_of_readsAs (hwords : words ∈ phrases) (h : ReadsAs words read) :
    read.head? = some 'ſ' ∧ label read = "ſELECT" ∨
      read.head? ≠ some 'ſ' ∧ IsLabel (label read) := by
  have hcases : ∀ words ∈ phrases, words = ["SELECT"] ∨
      (∀ word ∈ words.head?, word.toList.head?.map foldLetter ≠ some 's') ∧
        (words.getLast? = some "JOIN" ∨
          (∀ word ∈ words, IsPlainCapital word) ∧ " ".intercalate words ∈ labels) := by
    decide +kernel
  have lettered := areLettered_of_mem_phrases words hwords
  rcases hcases words hwords with rfl | ⟨hfirst, hphrase⟩
  · cases h with
    | word letters =>
      exact (label_of_select letters).imp_right fun ⟨hhead, hlabel⟩ =>
        ⟨hhead, .inl (by rw [hlabel]; decide)⟩
    | cons letters blank others => exact nomatch others
  · have hhead : read.head? ≠ some 'ſ' := by
      intro hlong
      obtain ⟨word, hword, hletter⟩ := h.exists_head? lettered
      rw [hlong] at hletter
      exact hfirst word hword hletter.symm
    refine .inr ⟨hhead, ?_⟩
    rcases hphrase with hjoin | ⟨hcapital, hmem⟩
    · exact .inr (suffix_label_of_join hjoin (h.map_fieldsL lettered))
    · refine .inl ?_
      rw [label, label_of_isPlainCapital hcapital (h.map_fieldsL lettered)]
      exact hmem

end

/-! ## The keywords of a text -/

/-- Every keyword that is found in a text has been read as one of the phrases. -/
theorem exists_phrase_of_mem_findAll {before : List Char} {m : Match}
    (h : m ∈ keyword.findAll before) : ∃ words ∈ phrases, ReadsAs words m.text := by
  obtain ⟨last, cs, hmatch⟩ := Pattern.exists_of_mem_scan h
  exact (readsKeyword_of_matchAt hmatch).phrase

/-- A keyword of a text opens a clause if and only if it does not begin with a long s. -/
theorem isLabel_label_iff {before : List Char} {m : Match} (h : m ∈ keyword.findAll before) :
    IsLabel (label m.text) ↔ m.text.head? ≠ some 'ſ' := by
  have hunknown : ¬ IsLabel "ſELECT" := by decide
  obtain ⟨words, hwords, hreads⟩ := exists_phrase_of_mem_findAll h
  rcases label_of_readsAs hwords hreads with ⟨hhead, hlabel⟩ | ⟨hhead, hlabel⟩
  · rw [hlabel, hhead]
    simp [hunknown]
  · exact iff_of_true hlabel hhead

theorem lastKeyword?_eq_none_iff {before : List Char} :
    lastKeyword? before = none ↔ keyword.occursIn before = false := by
  simp [Pattern.occursIn, lastKeyword?]

end Clause

/-! ## The clause of a context -/

/-- What a context says of the clause it is in, given the text before the cursor. -/
structure ClauseReading (before : List Char) (context : QueryContext) : Prop where
  /-- a clause is known for every keyword of the text that does not begin with a long s -/
  known_iff : ∀ m ∈ Clause.keyword.findAll before,
    (Clause.ofLabel? (Clause.label m.text)).isSome = true ↔ m.text.head? ≠ some 'ſ'
  /-- a text without a keyword is in no clause, and a keyword is expected -/
  outside : Clause.keyword.occursIn before = false →
    context.clause = none ∧ (context.kind = .keyword ∨ context.kind = .function)
  /-- behind a keyword the text is in the clause of the last one, and what that asks for is
  expected -/
  inside : ∀ found, Clause.lastKeyword? before = some found → found.text.head? ≠ some 'ſ' →
    ∃ clause, Clause.ofLabel? (Clause.label found.text) = some clause ∧
      Clause.IsLabel (Clause.label found.text) ∧
      context.clause = some (Clause.label found.text) ∧
      (context.kind = clause.contextKind found.after before ∨ context.kind = .function)
  /-- nothing is known what to expect if the last keyword does begin so -/
  unknown_iff : context.kind = .unknown ↔ insideOpenCall before = false ∧
    ∃ found, Clause.lastKeyword? before = some found ∧ found.text.head? = some 'ſ'

namespace QueryContext

/-- **The clause of a context is that of the last keyword**, whatever the text and the position of the
cursor, **and it is unknown exactly behind a `SELECT` with a long s.** -/
theorem parse_clauseReading (text : String) (cursor : Position) :
    ClauseReading (preceding text.toList cursor) (parse text cursor) := by
  have hkind := parse_kind text cursor
  have hchoice := kind_eq_or_function text cursor
  have hclause := parse_clause text cursor
  generalize preceding text.toList cursor = before at *
  have hknown : ∀ m ∈ Clause.keyword.findAll before,
      (Clause.ofLabel? (Clause.label m.text)).isSome = true ↔ m.text.head? ≠ some 'ſ' :=
    fun m hm => Clause.isSome_ofLabel?_iff.trans (Clause.isLabel_label_iff hm)
  constructor
  case known_iff => exact hknown
  case outside =>
    intro hnone
    rw [clauseContext_of_none (Clause.lastKeyword?_eq_none_iff.2 hnone)] at hchoice hclause
    exact ⟨hclause, hchoice⟩
  case inside =>
    intro found hfound hhead
    have hmem : found ∈ Clause.keyword.findAll before := List.mem_of_getLast? hfound
    obtain ⟨clause, hof⟩ := Option.isSome_iff_exists.1 ((hknown found hmem).2 hhead)
    rw [clauseContext_of_some hfound hof] at hchoice hclause
    exact ⟨clause, hof, (Clause.isLabel_label_iff hmem).2 hhead, hclause, hchoice⟩
  case unknown_iff =>
    cases hfound : Clause.lastKeyword? before with
    | none =>
      rw [clauseContext_of_none hfound] at hchoice
      rcases hchoice with h | h <;> simp [h]
    | some found =>
      have hiff := hknown found (List.mem_of_getLast? hfound)
      cases hof : Clause.ofLabel? (Clause.label found.text) with
      | some clause =>
        have hhead : found.text.head? ≠ some 'ſ' := hiff.1 (by simp [hof])
        have hne : (parse text cursor).kind ≠ .unknown := by
          rw [clauseContext_of_some hfound hof] at hchoice
          rcases hchoice with h | h
          · rw [h]
            exact clause.contextKind_ne (by decide) found.after before
          · simp [h]
        simp [hne, hhead]
      | none =>
        have hhead : found.text.head? = some 'ſ' := by
          refine Decidable.byContradiction fun hother => ?_
          have hsome := hiff.2 hother
          simp [hof] at hsome
        rw [hkind, clauseContext_of_unknown hfound hof]
        simp [hhead]

/-- **A `SELECT` with a long s is taken for a keyword whose clause nobody knows.** -/
theorem parse_longSelect :
    let text := "ſELECT "
    let context := parse text (endPosition text)
    Clause.keyword.occursIn (preceding text.toList (endPosition text)) = true ∧
      context.clause = some "ſELECT" ∧ Clause.ofLabel? "ſELECT" = none ∧
      context.kind = .unknown := by
  decide +kernel

end QueryContext

end QueryAssist
