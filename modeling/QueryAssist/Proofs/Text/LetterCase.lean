import QueryAssist.Text.LetterCase

/-!
# Texts in lower case

* `equalIgnoringAsciiCase_iff` — texts are equal but for the case of ASCII letters if they are the
  same in lower case.
* `toLower_eq_of_capitals` — nothing but capitals changes in lower case; so no letter comes up where
  there was none (`isAlpha_toLower`), and no other character (`toLower_eq_iff`).
* `EndsInFinalSigma` — what a text ends in that has another form in lower case when more follows.
* `lowercaseFrom_isPrefix_iff` — **longer texts begin as shorter ones in lower case**, but for that.
-/

namespace QueryAssist.Text

/-! ## ASCII letters -/

theorem equalIgnoringAsciiCase_iff {s t : String} :
    equalIgnoringAsciiCase s t = true ↔
      s.toList.map Char.toLower = t.toList.map Char.toLower := by
  simp [equalIgnoringAsciiCase, asciiLower, String.ofList_inj]

/-- What is no capital letter stays as it is in lower case. -/
theorem toLower_of_not_isUpper {c : Char} (h : ¬ c.isUpper = true) : c.toLower = c :=
  dif_neg fun hupper => h (decide_eq_true hupper)

/-- The capital ASCII letters. -/
def capitals : List Char :=
  "ABCDEFGHIJKLMNOPQRSTUVWXYZ".toList

theorem mem_capitals_of_isUpper {c : Char} (h : c.isUpper = true) : c ∈ capitals := by
  have hbounds : 'A'.val ≤ c.val ∧ c.val ≤ 'Z'.val := of_decide_eq_true h
  have hlow : 65 ≤ c.toNat := hbounds.1
  have hhigh : c.toNat ≤ 90 := hbounds.2
  have hall : ∀ n < 91, 65 ≤ n → Char.ofNat n ∈ capitals := by decide
  rw [← Char.ofNat_toNat c]
  exact hall c.toNat (by omega) hlow

/-- **What does not tell capitals from small letters does not change in lower case.** -/
theorem toLower_eq_of_capitals {β : Type} [DecidableEq β] {g : Char → β}
    (h : capitals.all (fun c => g c.toLower = g c) = true) (c : Char) : g c.toLower = g c := by
  by_cases hupper : c.isUpper = true
  · simpa using List.all_eq_true.1 h c (mem_capitals_of_isUpper hupper)
  · rw [toLower_of_not_isUpper hupper]

theorem toUpper_toLower (c : Char) : c.toLower.toUpper = c.toUpper :=
  toLower_eq_of_capitals (by decide) c

theorem toLower_toLower (c : Char) : c.toLower.toLower = c.toLower :=
  toLower_eq_of_capitals (by decide) c

theorem isAlpha_toLower (c : Char) : c.toLower.isAlpha = c.isAlpha :=
  toLower_eq_of_capitals (by decide) c

theorem toLower_of_not_isAlpha {c : Char} (h : c.isAlpha = false) : c.toLower = c := by
  refine toLower_of_not_isUpper fun hupper => ?_
  have halpha : c.isAlpha = true := Bool.or_eq_true_iff.2 (.inl hupper)
  exact Bool.false_ne_true (h.symm.trans halpha)

/-- A character that is no letter neither comes up in lower case nor goes. -/
theorem toLower_eq_iff {d : Char} (h : d.isAlpha = false) (c : Char) : c.toLower = d ↔ c = d := by
  constructor
  · rintro rfl
    rw [isAlpha_toLower] at h
    exact (toLower_of_not_isAlpha h).symm
  · rintro rfl
    exact toLower_of_not_isAlpha h

theorem toLower_beq {d : Char} (h : d.isAlpha = false) (c : Char) : (c.toLower == d) = (c == d) := by
  rw [Bool.eq_iff_iff, beq_iff_eq, beq_iff_eq]
  exact toLower_eq_iff h c

theorem dot_not_mem_map_toLower {cs : List Char} (h : '.' ∉ cs) : '.' ∉ cs.map Char.toLower := by
  intro hmem
  obtain ⟨c, hc, hlower⟩ := List.mem_map.1 hmem
  exact h ((toLower_eq_iff (by decide) c).1 hlower ▸ hc)

/-! ## The full mapping and what follows a text -/

/-- Only behind case-ignorable characters does it matter what follows a text. -/
theorem startsCased_append (cs rest : List Char) :
    startsCased (cs ++ rest) =
      if cs.all (inTable Table.caseIgnorable) then startsCased rest else startsCased cs := by
  induction cs with
  | nil => rfl
  | cons c cs ih =>
    by_cases h : inTable Table.caseIgnorable c = true
    · simpa [startsCased, h] using ih
    · simp [startsCased, h]

theorem startsCased_eq_false_of_all {cs : List Char}
    (h : cs.all (inTable Table.caseIgnorable) = true) : startsCased cs = false := by
  rw [← List.append_nil cs, startsCased_append, if_pos h]
  rfl

/-- Whether a character is a capital sigma that is final as long as no more text follows: a cased
letter stands before it, and nothing but case-ignorable characters behind.  The text before it is
given with its last character first. -/
def IsFinalSigma (before : List Char) (c : Char) (after : List Char) : Prop :=
  c = 'Σ' ∧ startsCased before = true ∧ after.all (inTable Table.caseIgnorable) = true

instance (before : List Char) (c : Char) (after : List Char) :
    Decidable (IsFinalSigma before c after) :=
  inferInstanceAs (Decidable (_ ∧ _))

/-- Whether the last letter of a text is such a sigma. -/
def EndsInFinalSigma (before cs : List Char) : Prop :=
  ∃ front c after, cs = front ++ c :: after ∧ IsFinalSigma (front.reverse ++ before) c after

theorem not_endsInFinalSigma_nil (before : List Char) : ¬ EndsInFinalSigma before [] := by
  rintro ⟨front, c, after, htext, -⟩
  exact List.append_ne_nil_of_right_ne_nil front (List.cons_ne_nil c after) htext.symm

theorem endsInFinalSigma_cons {before cs : List Char} {c : Char} :
    EndsInFinalSigma before (c :: cs) ↔
      IsFinalSigma before c cs ∨ EndsInFinalSigma (c :: before) cs := by
  constructor
  · rintro ⟨front, d, after, htext, hsigma⟩
    cases front with
    | nil =>
      obtain ⟨rfl, rfl⟩ := List.cons.inj htext
      exact .inl hsigma
    | cons e front =>
      obtain ⟨rfl, rfl⟩ := List.cons.inj htext
      rw [List.reverse_cons, List.append_assoc] at hsigma
      exact .inr ⟨front, d, after, rfl, hsigma⟩
  · rintro (hsigma | ⟨front, d, after, rfl, hsigma⟩)
    · exact ⟨[], c, cs, rfl, hsigma⟩
    · refine ⟨c :: front, d, after, rfl, ?_⟩
      rwa [List.reverse_cons, List.append_assoc]

instance decidableEndsInFinalSigma :
    (before cs : List Char) → Decidable (EndsInFinalSigma before cs)
  | before, [] => isFalse (not_endsInFinalSigma_nil before)
  | before, c :: cs =>
    have := decidableEndsInFinalSigma (c :: before) cs
    decidable_of_iff _ endsInFinalSigma_cons.symm

/-- The lower-case form of a character between the text before it, last character first, and the
text behind it. -/
def lowerCharBetween (before : List Char) (c : Char) (after : List Char) : List Char :=
  if c = 'Σ' then [if startsCased before && !startsCased after then 'ς' else 'σ'] else lowerChar c

theorem lowercaseFrom_cons (before cs : List Char) (c : Char) :
    lowercaseFrom before (c :: cs) =
      lowerCharBetween before c cs ++ lowercaseFrom (c :: before) cs :=
  rfl

theorem lowerCharBetween_of_isFinalSigma {before after : List Char} {c : Char}
    (h : IsFinalSigma before c after) : lowerCharBetween before c after = ['ς'] := by
  obtain ⟨rfl, hbefore, hafter⟩ := h
  simp [lowerCharBetween, hbefore, startsCased_eq_false_of_all hafter]

/-- Text that follows changes the lower-case form of a character only if it is a final sigma. -/
theorem lowerCharBetween_append (before after rest : List Char) (c : Char) :
    lowerCharBetween before c (after ++ rest) =
      if IsFinalSigma before c after ∧ startsCased rest = true then ['σ']
      else lowerCharBetween before c after := by
  by_cases hsigma : c = 'Σ'
  case neg =>
    rw [if_neg fun h => hsigma h.1.1, lowerCharBetween, lowerCharBetween, if_neg hsigma,
      if_neg hsigma]
  case pos =>
    by_cases hafter : after.all (inTable Table.caseIgnorable) = true
    · have hcased := startsCased_eq_false_of_all hafter
      cases hbefore : startsCased before <;> cases hrest : startsCased rest <;>
        simp [lowerCharBetween, IsFinalSigma, startsCased_append, *]
    · simp [lowerCharBetween, IsFinalSigma, startsCased_append, hsigma, hafter]

/-- **The lower-case form of a text begins that of a longer text**, unless it ends in a final sigma
that is not final there. -/
theorem lowercaseFrom_isPrefix_iff (before cs rest : List Char) :
    lowercaseFrom before cs <+: lowercaseFrom before (cs ++ rest) ↔
      ¬ (EndsInFinalSigma before cs ∧ startsCased rest = true) := by
  induction cs generalizing before with
  | nil => simp [lowercaseFrom, not_endsInFinalSigma_nil]
  | cons c cs ih =>
    rw [List.cons_append, lowercaseFrom_cons, lowercaseFrom_cons, lowerCharBetween_append,
      endsInFinalSigma_cons]
    by_cases hsigma : IsFinalSigma before c cs ∧ startsCased rest = true
    case pos =>
      -- here the two lower-case forms part, whatever comes behind
      have hne : 'ς' ≠ 'σ' := by decide
      simp [lowerCharBetween_of_isFinalSigma hsigma.1, hsigma, hne]
    case neg =>
      rw [if_neg hsigma, List.prefix_append_right_inj, ih, or_and_right, or_iff_right hsigma]

end QueryAssist.Text
