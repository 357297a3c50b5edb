import QueryAssist.Proofs.Query.ClauseContext
import QueryAssist.Proofs.Text.PlainWord

/-!
# Calls being opened

Whether the cursor stands in a call is decided by the last token, that is by everything that is glued
to the cursor without a blank.  The parentheses of the token are counted, not matched, so a
parenthesis that is closed in it and was opened before its first blank stands against the call.

* `lastToken_append`, `lastToken_append_cons` — characters that are not blank prolong the token, and
  behind a blank another one begins.
* `insideOpenCall_opened_iff` — what is glued to the front of a call decides whether it counts as open.
* `kind_openedCall_iff` — **behind the opening parenthesis of a call an argument is expected if and
  only if what is glued to the front of the call closes no more parentheses than it opens.**
* `kind_openedCall_afterArguments` — a call behind one whose arguments are parted by a blank.
-/

namespace QueryAssist

open Text

/-! ## The last token -/

/-- Characters that are not blank prolong the last token. -/
theorem lastToken_append {word : List Char} (front : List Char)
    (inside : ∀ c ∈ word, isBlank c = false) :
    lastToken (front ++ word) = word.reverse ++ lastToken front := by
  have hword : ∀ c ∈ word.reverse, (!isBlank c) = true := by
    intro c hc
    simp [inside c (List.mem_reverse.1 hc)]
  unfold lastToken
  rw [List.reverse_append, List.takeWhile_append_of_pos hword]

/-- Behind a blank another token begins. -/
theorem lastToken_append_cons {b : Char} {word : List Char} (front : List Char)
    (hb : isBlank b = true) (inside : ∀ c ∈ word, isBlank c = false) :
    lastToken (front ++ b :: word) = word.reverse := by
  have hstart : lastToken (front ++ [b]) = [] := by simp [lastToken, hb]
  have htoken := lastToken_append (front ++ [b]) inside
  rw [hstart, List.append_nil, List.append_assoc] at htoken
  exact htoken

/-- Characters of a token that are no parentheses. -/
def IsPlainlyGlued (word : List Char) : Prop :=
  ∀ c ∈ word, isBlank c = false ∧ c ≠ '(' ∧ c ≠ ')'

instance (word : List Char) : Decidable (IsPlainlyGlued word) :=
  decidable_of_iff (word.all fun c => isBlank c = false ∧ c ≠ '(' ∧ c ≠ ')')
    (by simp [IsPlainlyGlued])

theorem IsPlainlyGlued.count_eq_zero {word : List Char} (h : IsPlainlyGlued word) :
    word.count '(' = 0 ∧ word.count ')' = 0 := by
  constructor
  · apply List.count_eq_zero_of_not_mem
    intro hopen
    exact (h _ hopen).2.1 rfl
  · apply List.count_eq_zero_of_not_mem
    intro hclose
    exact (h _ hclose).2.2 rfl

theorem isPlainlyGlued_of_isPlainWord {word : String} (h : IsPlainWord word) :
    IsPlainlyGlued word.toList := by
  intro c hc
  have hplain := h.2 c hc
  refine ⟨h.isBlank_eq_false c hc, ?_, ?_⟩
  · rintro rfl
    exact absurd hplain (by decide)
  · rintro rfl
    exact absurd hplain (by decide)

/-- **A call that is being opened counts one more opening parenthesis than what is glued to its
front.** -/
theorem insideOpenCall_opened_iff {front called argument : List Char}
    (hcalled : IsPlainlyGlued called) (hargument : IsPlainlyGlued argument) :
    insideOpenCall (front ++ (called ++ '(' :: argument)) = true ↔
      (lastToken front).count ')' ≤ (lastToken front).count '(' := by
  have hblank : ∀ c ∈ called ++ '(' :: argument, isBlank c = false := by
    intro c hc
    rcases List.mem_append.1 hc with hc | hc
    · exact (hcalled c hc).1
    · rcases List.mem_cons.1 hc with rfl | hc
      · decide
      · exact (hargument c hc).1
  have hopens : (called ++ '(' :: argument).count '(' = 1 := by
    simp [hcalled.count_eq_zero, hargument.count_eq_zero]
  have hcloses : (called ++ '(' :: argument).count ')' = 0 := by
    simp [hcalled.count_eq_zero, hargument.count_eq_zero]
  unfold insideOpenCall
  rw [lastToken_append front hblank, List.count_append, List.count_append, List.count_reverse,
    List.count_reverse, hopens, hcloses, decide_eq_true_eq]
  omega

/-! ## What is expected in a call -/

namespace QueryContext

/-- **Behind the opening parenthesis of a call an argument is expected if and only if what is glued
to the front of the call closes no more parentheses than it opens**, whatever function is called,
whatever has been typed of the argument and whatever clause the call stands in. -/
theorem kind_openedCall_iff {text front called argument : String} {cursor : Position}
    (hcalled : IsPlainWord called)
    (hargument : ∀ c ∈ argument.toList, isBlank c = false ∧ c ≠ '(' ∧ c ≠ ')')
    (hbefore : (parse text cursor).precedingText = front ++ called ++ "(" ++ argument) :
    (parse text cursor).kind = .function ↔
      (lastToken front.toList).count ')' ≤ (lastToken front.toList).count '(' := by
  have hpreceding : preceding text.toList cursor =
      front.toList ++ (called.toList ++ '(' :: argument.toList) := by
    have hlist : (String.ofList (preceding text.toList cursor)).toList =
        (front ++ called ++ "(" ++ argument).toList := by
      rw [← parse_precedingText, hbefore]
    simpa using hlist
  rw [kind_eq_function_iff, hpreceding]
  exact insideOpenCall_opened_iff (isPlainlyGlued_of_isPlainWord hcalled) hargument

/-- A call behind a sum in parentheses, with a part of its argument. -/
theorem kind_openedCall_behindSum :
    let text := "SELECT (a+b)||LOWER(na"
    let context := parse text (endPosition text)
    context.precedingText = "SELECT (a+b)||" ++ "LOWER" ++ "(" ++ "na" ∧
      context.kind = .function := by
  intro text context
  have hbefore : context.precedingText = "SELECT (a+b)||" ++ "LOWER" ++ "(" ++ "na" := by
    decide +kernel
  have hcalled : IsPlainWord "LOWER" := by decide
  have hargument : IsPlainlyGlued "na".toList := by decide
  exact ⟨hbefore, (kind_openedCall_iff hcalled hargument hbefore).2 (by decide)⟩

/-- **Behind a call whose arguments are parted by a blank a column is expected in a call that is just
being opened**: of the first call the last token has the closing parenthesis only. -/
theorem kind_openedCall_afterArguments :
    let text := "SELECT COALESCE(a, b)||LOWER("
    let context := parse text (endPosition text)
    IsPlainWord "LOWER" ∧
      context.precedingText = "SELECT COALESCE(a, b)||" ++ "LOWER" ++ "(" ++ "" ∧
      context.kind = .column := by
  decide +kernel

end QueryContext

end QueryAssist
