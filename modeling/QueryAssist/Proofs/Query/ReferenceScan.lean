import QueryAssist.Proofs.Query.TableReference
import QueryAssist.Proofs.Text.LetterCase

/-!
# Searching a text for table references

* `matchAt_eq_none` — a reference begins at the edge of a word, and the word is `FROM` or `JOIN`.
* `findFrom_quiet` — so the search passes over a text that has neither of them among its words.
* `findFrom_reference` — a reference is found where it stands, and the search goes on after its
  path.
-/

namespace QueryAssist

open Text Query

namespace TableReference

/-! ## Keywords -/

/-- Whether a word is a keyword that a table stands after, in either case. -/
def isReferenceKeyword (word : List Char) : Bool :=
  referenceKeywords.any (equalIgnoringAsciiCase · (String.ofList word))

/-- A word with the letters of `FROM` or `JOIN` is that keyword, ASCII case aside. -/
theorem isReferenceKeyword_of_map_foldLetter {word : List Char} {keyword : String}
    (hkeyword : keyword ∈ referenceKeywords)
    (h : word.map foldLetter = keyword.toList.map foldLetter) : isReferenceKeyword word = true := by
  have hplain : ∀ keyword ∈ referenceKeywords, isPlainlySpelled keyword = true := by decide
  refine List.any_eq_true.2 ⟨keyword, hkeyword, equalIgnoringAsciiCase_iff.2 ?_⟩
  rw [String.toList_ofList]
  exact (map_toLower_of_letters (hplain keyword hkeyword) h).symm

/-! ## Where no reference begins -/

/-- A reference begins at the edge of a word, and the word is `FROM` or `JOIN`. -/
theorem matchAt_eq_none {last : Option Char} {c : Char} {cs : List Char}
    (h : last.any isWordChar = true ∨
      isReferenceKeyword ((c :: cs).takeWhile isWordChar) = false) :
    pattern.matchAt last (c :: cs) = none := by
  rw [Pattern.matchAt_eq_best?, Option.map_eq_none_iff]
  by_cases hinside : last.any isWordChar = true ∧ isWordChar c = true
  · exact Pattern.best?_seq_eq_none_of_first (best?_wordEdge_eq_none hinside.1 hinside.2 cs [])
  · have hword : isReferenceKeyword ((c :: cs).takeWhile isWordChar) = false := by
      rcases h with hlast | hword
      · have hc : isWordChar c = false := by simpa [hlast] using hinside
        rw [List.takeWhile_cons, if_neg (by simp [hc])]
        rfl
      · exact hword
    have hletters : ∀ keyword ∈ referenceKeywords, isLettered keyword = true := by decide
    -- the word edge in front reads nothing, so the keyword has to begin with this character
    refine Pattern.best?_seq_eq_none fun middle hmiddle => ?_
    rw [Pattern.eq_of_mem_ends_boundary hmiddle]
    refine best?_keyword_eq_none hletters fun keyword hkeyword hfold => ?_
    exact nomatch hword.symm.trans (isReferenceKeyword_of_map_foldLetter hkeyword hfold)

/-! ## The search -/

/-- The references that the search finds in what is left of a text. -/
def findFrom (last : Option Char) (cs : List Char) : List TableReference :=
  (pattern.scan resume 0 last cs).filterMap ofMatch?

/-- At the end of a text there is nothing to be found. -/
theorem findFrom_nil (last : Option Char) : findFrom last [] = [] := by
  have hnone : pattern.matchAt last [] = none := by
    rw [Pattern.matchAt_eq_best?, Option.map_eq_none_iff]
    refine Pattern.best?_seq_eq_none fun middle hmiddle => ?_
    rw [Pattern.eq_of_mem_ends_boundary hmiddle]
    rfl
  rw [findFrom, Pattern.scan, hnone]
  rfl

/-- No reference begins at a blank. -/
theorem findFrom_blank (last : Option Char) (cs : List Char) :
    findFrom last (' ' :: cs) = findFrom (some ' ') cs := by
  have hnone : pattern.matchAt last (' ' :: cs) = none := matchAt_eq_none (.inr rfl)
  rw [findFrom, Pattern.scan_pass hnone, findFrom]

/-- **The search passes over a text that has no keyword of a reference among its words.** -/
theorem findFrom_quiet {cs rest : List Char} (last : Option Char)
    (quiet : ∀ word ∈ words cs, isReferenceKeyword word = false)
    (hrest : rest.head?.any isWordChar = false) :
    findFrom last (cs ++ rest) = findFrom (cs.getLast?.or last) rest := by
  rw [findFrom, findFrom]
  refine congrArg _ (Pattern.scan_pass_all last rest fun before c after hcs => ?_)
  by_cases hbefore : (before.getLast?.or last).any isWordChar = true
  · exact matchAt_eq_none (.inl hbefore)
  · -- the word that begins at this place, if there is one, is a word of the text
    have hedge : before.getLast?.any isWordChar = false := by
      cases hb : before.getLast? with
      | none => rfl
      | some b => simpa [hb] using hbefore
    obtain ⟨word, left, hcut, inside, hleft⟩ := exists_word_append (c :: after)
    have hmore : (left ++ rest).head?.any isWordChar = false := by
      cases left with
      | nil => exact hrest
      | cons d left => exact hleft
    refine matchAt_eq_none (.inr ?_)
    rw [← List.cons_append, hcut, List.append_assoc, takeWhile_isWordChar_append inside hmore]
    by_cases hempty : word = []
    · rw [hempty]
      rfl
    · refine quiet word ?_
      rw [hcs, hcut]
      exact mem_words_of_edges hempty inside hedge hleft

/-- **A reference is found where it stands, and the search goes on after its path.**  The word after
the path is its alias, unless it cannot be one. -/
theorem findFrom_reference {keyword : String} {path : List String} {write : String → List Char}
    {word next rest : List Char} {last : Option Char} (hkeyword : keyword ∈ referenceKeywords)
    (before : last.any isWordChar = false) (hsome : path ≠ []) (hfew : path.length ≤ 3)
    (names : ∀ name ∈ path, IsName isPathChar name.toList ∧ Spells name.toList (write name))
    (hnext : EndsPath next) (hword : IsName isWordChar word)
    (halias : ∀ last groups, ∃ last',
      aliasPattern.best? ⟨last, next, groups⟩ = some ⟨last', rest, ⟨2, word, rest⟩ :: groups⟩) :
    ∃ last', findFrom last (keyword.toList ++ ' ' :: (['.'].intercalate (path.map write) ++ next)) =
      ⟨joinDots path, if isAlias (String.ofList word) then String.ofList word else joinDots path⟩ ::
        findFrom last' next := by
  have hunquoted := unquoteL_path hsome hfew names
  obtain ⟨m, hm, hgroups⟩ := matchAt_reference hkeyword before (by simpa using hsome)
    (by simpa using hfew) (isNameText_of_spells names) hnext halias
  generalize ['.'].intercalate (path.map write) = text at *
  have hfirst : m.group? 1 = some ⟨1, text, next⟩ := by
    rw [Match.group?, hgroups]
    rfl
  have hsecond : m.group? 2 = some ⟨2, word, rest⟩ := by
    rw [Match.group?, hgroups]
    rfl
  have hresume : resume m = next := by
    rw [resume, hfirst]
    rfl
  have hread : unquoteL text ≠ [] := by
    rw [hunquoted]
    exact toList_joinDots_ne_nil hsome fun name hname => (names name hname).1.1
  have halias' : unquoteL word = word :=
    unquoteL_eq_self (fun c hc => isBlank_eq_false_of_isWordChar (hword.2 c hc))
      fun c hc => isQuote_eq_false_of_isWordChar (hword.2 c hc)
  have hreference := ofMatch?_of_groups hfirst hsecond hread
  rw [hunquoted, halias', String.ofList_toList] at hreference
  have hcut : keyword.toList ++ ' ' :: (text ++ next) = (keyword.toList ++ ' ' :: text) ++ next := by
    rw [List.append_assoc, List.cons_append]
  obtain ⟨c, cs, hcons⟩ : ∃ c cs, keyword.toList ++ ' ' :: text = c :: cs :=
    List.exists_cons_of_ne_nil (by simp)
  rw [hcut, hcons] at hm ⊢
  refine ⟨cs.getLast?.or (some c), ?_⟩
  rw [findFrom, List.cons_append, Pattern.scan_match hm hresume, List.filterMap_cons, hreference]
  rfl

/-- Nothing is found before the first keyword of a query. -/
theorem findAll_select (cs : List Char) :
    findAll ("SELECT * ".toList ++ cs) = findFrom (some ' ') cs := by
  have htext : "SELECT * ".toList ++ cs = "SELECT *".toList ++ ' ' :: cs := rfl
  have hquiet : ∀ word ∈ words "SELECT *".toList, isReferenceKeyword word = false := by
    decide +kernel
  have hpass := findFrom_quiet none hquiet (by rfl : (' ' :: cs).head?.any isWordChar = false)
  rw [htext]
  exact hpass.trans (findFrom_blank _ cs)

end TableReference

end QueryAssist
