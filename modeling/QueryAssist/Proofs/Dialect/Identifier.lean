import QueryAssist.Dialect.Identifier
import QueryAssist.Proofs.Text.LetterCase
import QueryAssist.Proofs.Text.PlainWord

/-!
# What identifiers stand for

* `isPlainChar_of_mem`, `toLower_of_isPlainChar` — the characters of identifiers without quotes.
* `readPathFrom_doubled` — what was written between quotes is read back, so `quoted_injective`: no
  two names are quoted alike.
* `Denotes` — the rule of PostgreSQL for what a written identifier stands for;
  `denotes_formatIdentifier` says that what its dialect writes for a name stands for that name, and
  `sameIdentifier_formatIdentifier_iff` when this is what the name itself stands for in a query.
-/

namespace QueryAssist

open Text

namespace Identifier

/-! ## Plain identifiers -/

section

variable {c : Char} {name : List Char}

theorem isPlainChar_of_isPlainStart (h : isPlainStart c = true) : isPlainChar c = true := by
  rcases Bool.or_eq_true_iff.1 h with hlower | hunderscore
  · simp [isPlainChar, hlower]
  · simp [isPlainChar, eq_of_beq hunderscore]

theorem isPlainChar_of_isPlainForm (h : isPlainForm name = true) :
    ∀ c ∈ name, isPlainChar c = true := by
  cases name with
  | nil => exact nofun
  | cons c cs =>
    obtain ⟨hfirst, hrest⟩ := Bool.and_eq_true_iff.1 h
    exact List.forall_mem_cons.2 ⟨isPlainChar_of_isPlainStart hfirst, List.all_eq_true.1 hrest⟩

/-- A plain word goes on with such characters. -/
theorem isPlainForm_append (h : isPlainForm name = true) (hc : isPlainChar c = true) :
    isPlainForm (name ++ [c]) = true := by
  cases name with
  | nil => exact nomatch h
  | cons d ds =>
    obtain ⟨hfirst, hrest⟩ := Bool.and_eq_true_iff.1 h
    simp only [List.cons_append, isPlainForm, hfirst, List.all_append, hrest, List.all_cons, hc,
      List.all_nil, Bool.and_self]

theorem isPlainChar_of_mem (h : isPlain name = true) : ∀ c ∈ name, isPlainChar c = true :=
  isPlainChar_of_isPlainForm (Bool.and_eq_true_iff.1 h).1

/-- The characters of plain identifiers are those of plain words, and the dollar sign. -/
theorem isPlainWordChar_of_isPlainChar (h : isPlainChar c = true) (hdollar : c ≠ '$') :
    isPlainWordChar c = true := by
  simp only [isPlainChar, Bool.or_eq_true, beq_iff_eq, hdollar, or_false] at h
  rcases h with (hlower | hdigit) | rfl
  · have halpha : c.isAlpha = true := Bool.or_eq_true_iff.2 (.inr hlower)
    simp [isPlainWordChar, Char.isAlphanum, halpha]
  · simp [isPlainWordChar, Char.isAlphanum, hdigit]
  · decide

theorem isBlank_eq_false_of_isPlainChar (h : isPlainChar c = true) : isBlank c = false := by
  by_cases hdollar : c = '$'
  · rw [hdollar]
    decide
  · exact isBlank_eq_false_of_isWordChar
      (isWordChar_of_isPlainWordChar (isPlainWordChar_of_isPlainChar h hdollar))

/-- There are no capital letters in plain identifiers. -/
theorem toLower_of_isPlainChar (h : isPlainChar c = true) : c.toLower = c := by
  refine toLower_of_not_isUpper fun hupper => ?_
  have hbounds : 'A'.val ≤ c.val ∧ c.val ≤ 'Z'.val := of_decide_eq_true hupper
  have hlow : 65 ≤ c.toNat := hbounds.1
  have hhigh : c.toNat ≤ 90 := hbounds.2
  simp only [isPlainChar, Bool.or_eq_true, beq_iff_eq] at h
  rcases h with ((hlower | hdigit) | rfl) | rfl
  · have hsmall : 97 ≤ c.toNat := of_decide_eq_true (Bool.and_eq_true_iff.1 hlower).1
    omega
  · have hnine : c.toNat ≤ 57 := of_decide_eq_true (Bool.and_eq_true_iff.1 hdigit).2
    omega
  · exact absurd hupper (by decide)
  · exact absurd hupper (by decide)

theorem asciiLower_of_isPlain {name : String} (h : isPlain name.toList = true) :
    asciiLower name = name := by
  have hsame : name.toList.map Char.toLower = name.toList.map id :=
    List.map_congr_left fun c hc => toLower_of_isPlainChar (isPlainChar_of_mem h c hc)
  rw [asciiLower, hsame, List.map_id, String.ofList_toList]

/-- There are no quotes in plain identifiers. -/
theorem doubleQuote_not_mem (h : isPlain name = true) : doubleQuote ∉ name := fun hquote =>
  absurd (isPlainChar_of_mem h _ hquote) (by decide)

end

/-! ## Quoted identifiers -/

theorem doubled_nil (quote : Char) : doubled quote [] = [] := rfl

theorem doubled_cons_self (quote : Char) (name : List Char) :
    doubled quote (quote :: name) = quote :: quote :: doubled quote name := by
  simp [doubled]

theorem doubled_cons_of_ne {quote c : Char} (h : c ≠ quote) (name : List Char) :
    doubled quote (c :: name) = c :: doubled quote name := by
  simp [doubled, h]

theorem doubled_append (quote : Char) (front back : List Char) :
    doubled quote (front ++ back) = doubled quote front ++ doubled quote back :=
  List.flatMap_append

theorem doubled_eq_self {quote : Char} {name : List Char} (h : quote ∉ name) :
    doubled quote name = name := by
  induction name with
  | nil => rfl
  | cons c cs ih =>
    have hc : c ≠ quote := fun heq => h (heq ▸ List.mem_cons_self)
    rw [doubled_cons_of_ne hc, ih fun hcs => h (List.mem_cons_of_mem c hcs)]

/-- Quotes are written twice, and all else once. -/
theorem length_doubled (quote : Char) (name : List Char) :
    (doubled quote name).length = name.length + name.count quote := by
  induction name with
  | nil => rfl
  | cons c name ih =>
    by_cases hc : c = quote
    · rw [hc, doubled_cons_self, List.length_cons, List.length_cons, ih, List.count_cons_self,
        List.length_cons]
      omega
    · rw [doubled_cons_of_ne hc, List.length_cons, ih, List.count_cons_of_ne hc, List.length_cons]
      omega

end Identifier

namespace Dialect

open Identifier

variable {dialect : Dialect} {name : List Char}

/-- What was written between quotes is read back up to the closing one. -/
theorem readPathFrom_doubled (dialect : Dialect) (read name rest : List Char) :
    dialect.readPathFrom (.inQuotes read) (doubled dialect.quote name ++ dialect.quote :: rest) =
      dialect.readPathFrom (.afterQuote (name.reverse ++ read)) rest := by
  induction name generalizing read with
  | nil =>
    show dialect.readPathFrom (.inQuotes read) (dialect.quote :: rest) = _
    rw [readPathFrom, if_pos rfl]
    rfl
  | cons c name ih =>
    have hrest := ih (c :: read)
    rw [List.reverse_cons, List.append_assoc, List.singleton_append, ← hrest, doubled,
      List.flatMap_cons, ← doubled]
    by_cases hc : c = dialect.quote
    · simp only [if_pos hc, List.cons_append, List.nil_append]
      rw [readPathFrom, if_pos rfl, readPathFrom, if_pos rfl, hc]
    · simp only [if_neg hc, List.cons_append, List.nil_append]
      rw [readPathFrom, if_neg hc]

/-- A quoted identifier is read back as the one name that was quoted. -/
theorem readPathFrom_quoted (dialect : Dialect) (name : List Char) :
    dialect.readPathFrom .start (quoted dialect.quote name) = some [name] := by
  have hread := dialect.readPathFrom_doubled [] name []
  rw [List.append_nil] at hread
  rw [quoted, List.cons_append, readPathFrom, if_pos rfl, hread, readPathFrom,
    List.reverse_reverse]

/-- Names that are quoted alike are the same. -/
theorem quoted_injective (dialect : Dialect) : Function.Injective (quoted dialect.quote) := by
  intro name other h
  have hread := congrArg (dialect.readPathFrom .start) h
  rw [readPathFrom_quoted, readPathFrom_quoted] at hread
  simpa using hread

/-- Quotes make a name longer, so a name that is written as it is has none. -/
theorem formatIdentifierL_eq_self_iff :
    dialect.formatIdentifierL name = name ↔ dialect.leavesPlain = true ∧ isPlain name = true := by
  rw [← Bool.and_eq_true_iff, formatIdentifierL]
  split
  · next hplain => exact ⟨fun _ => hplain, fun _ => rfl⟩
  · next hquoted =>
    refine ⟨fun h => ?_, fun h => absurd h hquoted⟩
    have hlength := congrArg List.length h
    rw [quoted, List.length_append, List.length_cons, length_doubled, List.length_singleton]
      at hlength
    omega

end Dialect

/-! ## The rule of PostgreSQL -/

namespace Identifier

/-- What a written identifier stands for: without quotes its text with ASCII letters in lower case,
between double quotes the text as it is. -/
inductive Denotes : String → String → Prop where
  | folded {written : String} (unquoted : doubleQuote ∉ written.toList) :
    Denotes written (asciiLower written)
  | verbatim (name : String) : Denotes (String.ofList (quoted doubleQuote name.toList)) name

/-- Two written identifiers stand for the same one. -/
def SameIdentifier (first second : String) : Prop :=
  ∃ identifier, Denotes first identifier ∧ Denotes second identifier

theorem doubleQuote_mem_quoted (name : List Char) : doubleQuote ∈ quoted doubleQuote name :=
  List.mem_append_left _ List.mem_cons_self

/-- A written identifier stands for one only. -/
theorem Denotes.unique {written identifier other : String} (first : Denotes written identifier)
    (second : Denotes written other) : identifier = other := by
  generalize hagain : written = again at second
  cases first with
  | folded unquoted =>
    cases second with
    | folded => rw [hagain]
    | verbatim name =>
      rw [hagain, String.toList_ofList] at unquoted
      exact absurd (doubleQuote_mem_quoted _) unquoted
  | verbatim =>
    cases second with
    | folded unquoted =>
      rw [← hagain, String.toList_ofList] at unquoted
      exact absurd (doubleQuote_mem_quoted _) unquoted
    | verbatim name =>
      exact String.toList_inj.1 (Dialect.quoted_injective .postgresql (String.ofList_inj.1 hagain))

/-- **What the dialect of PostgreSQL writes for a name stands for that name**, whatever the name. -/
theorem denotes_formatIdentifier (name : String) :
    Denotes (Dialect.postgresql.formatIdentifier name) name := by
  rw [Dialect.formatIdentifier, Dialect.formatIdentifierL]
  split
  · next hplain =>
    have hname := (Bool.and_eq_true_iff.1 hplain).2
    have hfolded : Denotes name (asciiLower name) := .folded (doubleQuote_not_mem hname)
    rw [asciiLower_of_isPlain hname] at hfolded
    rwa [String.ofList_toList]
  · exact .verbatim name

/-- **A name without quotes stands for what is written for it exactly if it has no capital letters**:
a query folds them, and what is written keeps them. -/
theorem sameIdentifier_formatIdentifier_iff {name : String} (unquoted : doubleQuote ∉ name.toList) :
    SameIdentifier name (Dialect.postgresql.formatIdentifier name) ↔ asciiLower name = name := by
  have hwritten := denotes_formatIdentifier name
  constructor
  · rintro ⟨identifier, hname, hformat⟩
    rw [(Denotes.folded unquoted).unique hname, hformat.unique hwritten]
  · intro hlower
    have hname : Denotes name (asciiLower name) := .folded unquoted
    rw [hlower] at hname
    exact ⟨name, hname, hwritten⟩

end Identifier

end QueryAssist
