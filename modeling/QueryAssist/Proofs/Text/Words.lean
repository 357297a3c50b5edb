import QueryAssist.Text.CharClass

/-!
# The words of a text

* `words_append_cons` — a character that is none of a word parts the words before it from those
  after it.
* `words_eq_singleton` — a text of word characters is one word.
* `mem_words_of_edges` — a run of word characters between two edges is one of the words.
-/

namespace QueryAssist.Text

/-- The words of a text, which are its longest runs of word characters. -/
def words (cs : List Char) : List (List Char) :=
  (cs.splitOnP (!isWordChar ·)).filter (· ≠ [])

theorem words_append_cons {c : Char} (hc : isWordChar c = false) (before after : List Char) :
    words (before ++ c :: after) = words before ++ words after := by
  rw [words, List.splitOnP_append_cons before after (by simp [hc]), List.filter_append]
  rfl

theorem words_eq_singleton {cs : List Char} (hsome : cs ≠ [])
    (inside : ∀ c ∈ cs, isWordChar c = true) : words cs = [cs] := by
  rw [words, List.splitOnP_eq_singleton fun c hc => by simp [inside c hc]]
  simp [hsome]

/-- Every text begins with a word, which may be empty. -/
theorem exists_word_append (cs : List Char) : ∃ word after, cs = word ++ after ∧
    (∀ c ∈ word, isWordChar c = true) ∧ after.head?.any isWordChar = false := by
  refine ⟨cs.takeWhile isWordChar, cs.dropWhile isWordChar,
    List.takeWhile_append_dropWhile.symm, List.all_eq_true.1 List.all_takeWhile, ?_⟩
  have hhead := List.head?_dropWhile_not isWordChar cs
  cases hdrop : (cs.dropWhile isWordChar).head? with
  | none => rfl
  | some c => simpa [hdrop] using hhead

/-- The word that a text begins with goes on as long as there are word characters. -/
theorem takeWhile_isWordChar_append {word next : List Char}
    (inside : ∀ c ∈ word, isWordChar c = true) (hnext : next.head?.any isWordChar = false) :
    (word ++ next).takeWhile isWordChar = word := by
  rw [List.takeWhile_append_of_pos inside]
  cases next with
  | nil => simp
  | cons c cs =>
    have hc : isWordChar c = false := hnext
    simp [hc]

/-- A run of word characters between two edges is one of the words. -/
theorem mem_words_of_edges {before word after : List Char} (hsome : word ≠ [])
    (inside : ∀ c ∈ word, isWordChar c = true)
    (hbefore : before.getLast?.any isWordChar = false)
    (hafter : after.head?.any isWordChar = false) : word ∈ words (before ++ (word ++ after)) := by
  have hright : word ∈ words (word ++ after) := by
    cases after with
    | nil => simp [words_eq_singleton hsome inside]
    | cons c after =>
      rw [words_append_cons hafter, words_eq_singleton hsome inside]
      exact List.mem_append_left _ (List.mem_singleton_self word)
  rcases List.eq_nil_or_concat before with rfl | ⟨before, c, rfl⟩
  · exact hright
  · have hc : isWordChar c = false := by simpa using hbefore
    rw [List.concat_eq_append, List.append_assoc, List.singleton_append, words_append_cons hc]
    exact List.mem_append_right _ hright

end QueryAssist.Text
