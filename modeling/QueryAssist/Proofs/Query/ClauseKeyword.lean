import QueryAssist.Proofs.Query.Keyword
import QueryAssist.Proofs.Text.Blank
import QueryAssist.Query.Clause

/-!
# Reading clause keywords

A clause keyword is one word, or it is a phrase of several words with blanks between them.

* `ReadsAs` — what a text has to be like to be read as such a phrase.
* `exists_phrase_of_mem_ends` — **a match begins and ends at the edge of a word and has read a
  phrase**.
* `readsKeyword_of_matchAt` — the same for a match in a text.
* `matchAt_word` — so a word at the end of a text is read as a whole or not at all; `scan_word` says
  that the search finds nothing else there.
* `mem_ends_of_loneKeyword` — a keyword that stands as a word of its own is read.
* `exists_findAll_append` — the search comes by a place behind a blank, unless the word there can
  be a later word of a phrase.
-/

namespace QueryAssist

open Text Query

namespace Clause

/-! ## Phrases -/

/-- The words of the join keywords. -/
def joinPhrases : List (List String) :=
  [["JOIN"], ["OUTER", "JOIN"]].flatMap fun words => words :: joinKinds.map (· :: words)

/-- The words of the keywords that open a clause. -/
def phrases : List (List String) :=
  [["SELECT"], ["FROM"], ["WHERE"], ["HAVING"], ["ON"], ["GROUP", "BY"], ["ORDER", "BY"]] ++
    joinPhrases

/-- A text is read as words when it has their letters, in either case, and blanks between them. -/
inductive ReadsAs : List String → List Char → Prop
  | word {word : String} {read : List Char}
      (letters : read.map foldLetter = word.toList.map foldLetter) : ReadsAs [word] read
  | cons {word : String} {words : List String} {read more : List Char} {b : Char}
      {gap : List Char} (letters : read.map foldLetter = word.toList.map foldLetter)
      (blank : ∀ c ∈ b :: gap, isBlank c = true) (others : ReadsAs words more) :
      ReadsAs (word :: words) (read ++ b :: gap ++ more)

/-- Whether all words are words of letters. -/
def AreLettered (words : List String) : Prop :=
  ∀ word ∈ words, word ≠ "" ∧ isLettered word = true

instance (words : List String) : Decidable (AreLettered words) :=
  inferInstanceAs (Decidable (∀ word ∈ words, word ≠ "" ∧ isLettered word = true))

theorem areLettered_of_mem_phrases : ∀ words ∈ phrases, AreLettered words := by
  decide +kernel

section

variable {word : String} {words : List String} {read : List Char}

/-- What has the letters of a word is made of one word character or more. -/
theorem wordChars_of_map_foldLetter (hword : word ≠ "" ∧ isLettered word = true)
    (letters : read.map foldLetter = word.toList.map foldLetter) :
    read ≠ [] ∧ ∀ c ∈ read, isWordChar c = true := by
  refine ⟨?_, isWordChar_of_map_foldLetter hword.2 letters⟩
  rintro rfl
  exact hword.1 (by simpa using letters.symm)

/-- What has the letters of a word is one field. -/
theorem fieldsL_of_map_foldLetter (hword : word ≠ "" ∧ isLettered word = true)
    (letters : read.map foldLetter = word.toList.map foldLetter) : fieldsL read = [read] := by
  obtain ⟨hsome, inside⟩ := wordChars_of_map_foldLetter hword letters
  exact fieldsL_eq_singleton hsome fun c hc => isBlank_eq_false_of_isWordChar (inside c hc)

/-- **The fields of what is read are its words**, the case of letters aside. -/
theorem ReadsAs.map_fieldsL (h : ReadsAs words read) (lettered : AreLettered words) :
    (fieldsL read).map (List.map foldLetter) = words.map (·.toList.map foldLetter) := by
  induction h with
  | word letters =>
    rw [fieldsL_of_map_foldLetter (lettered _ List.mem_cons_self) letters]
    exact congrArg (· :: []) letters
  | @cons word words read more b gap letters blank others ih =>
    have hmore := ih fun other hother => lettered other (List.mem_cons_of_mem word hother)
    obtain ⟨hb, hgap⟩ := List.forall_mem_cons.1 blank
    rw [List.append_assoc, List.cons_append, fieldsL_append_cons hb,
      fieldsL_append_of_blanks hgap, fieldsL_of_map_foldLetter (lettered _ List.mem_cons_self) letters,
      List.singleton_append, List.map_cons, List.map_cons, hmore, letters]

/-- What is read begins with a word character, whatever follows. -/
theorem ReadsAs.any_head?_append (h : ReadsAs words read) (lettered : AreLettered words)
    (next : List Char) : (read ++ next).head?.any isWordChar = true := by
  have hfirst {word : String} {read : List Char} (hword : word ≠ "" ∧ isLettered word = true)
      (letters : read.map foldLetter = word.toList.map foldLetter) (next : List Char) :
      (read ++ next).head?.any isWordChar = true := by
    obtain ⟨hsome, inside⟩ := wordChars_of_map_foldLetter hword letters
    obtain ⟨c, cs, rfl⟩ := List.exists_cons_of_ne_nil hsome
    exact inside c List.mem_cons_self
  cases h with
  | word letters => exact hfirst (lettered _ List.mem_cons_self) letters next
  | cons letters blank others =>
    rw [List.append_assoc, List.append_assoc]
    exact hfirst (lettered _ List.mem_cons_self) letters _

/-- It ends with one, whatever stands before it. -/
theorem ReadsAs.any_getLast?_or (h : ReadsAs words read) (lettered : AreLettered words)
    (last : Option Char) : (read.getLast?.or last).any isWordChar = true := by
  induction h generalizing last with
  | word letters =>
    obtain ⟨hsome, inside⟩ := wordChars_of_map_foldLetter (lettered _ List.mem_cons_self) letters
    rw [List.getLast?_eq_some_getLast hsome]
    exact inside _ (List.getLast_mem hsome)
  | @cons word words read more b gap letters blank others ih =>
    rw [List.getLast?_append, Option.or_assoc]
    exact ih (fun other hother => lettered other (List.mem_cons_of_mem word hother)) _

/-- What is read begins with the first letter of the first word. -/
theorem ReadsAs.exists_head? (h : ReadsAs words read) (lettered : AreLettered words) :
    ∃ word ∈ words.head?, read.head?.map foldLetter = word.toList.head?.map foldLetter := by
  cases h with
  | @word word read letters =>
    refine ⟨word, rfl, ?_⟩
    rw [← List.head?_map, letters, List.head?_map]
  | @cons word words read more b gap letters blank others =>
    have hsome : read ≠ [] :=
      (wordChars_of_map_foldLetter (lettered word List.mem_cons_self) letters).1
    refine ⟨word, rfl, ?_⟩
    rw [List.append_assoc, List.head?_append, Option.or_of_isSome (by simpa using hsome),
      ← List.head?_map, letters, List.head?_map]

/-- What stands behind a blank in what is read is the first letter of a later word. -/
theorem ReadsAs.exists_word_of_blank {front more : List Char} {b c : Char}
    (h : ReadsAs words (front ++ b :: c :: more)) (lettered : AreLettered words)
    (hb : isBlank b = true) (hc : isBlank c = false) :
    ∃ word ∈ words.tail, (word.toList.map foldLetter).head? = some (foldLetter c) := by
  have hfirst := h.any_head?_append lettered []
  rw [List.append_nil] at hfirst
  have hwords := h.map_fieldsL lettered
  cases front with
  | nil =>
    have hedge : isWordChar b = true := hfirst
    exact nomatch hedge.symm.trans (isWordChar_eq_false_of_isBlank hb)
  | cons d front =>
    obtain ⟨first, others, hfront⟩ :=
      exists_fieldsL_cons (isBlank_eq_false_of_isWordChar hfirst) front
    obtain ⟨second, later, hlater⟩ := exists_fieldsL_cons hc more
    rw [fieldsL_append_cons hb, hfront, hlater] at hwords
    cases words with
    | nil => simp at hwords
    | cons word words =>
      have htail := (List.cons.inj hwords).2
      have hmem : (c :: second).map foldLetter ∈ words.map (·.toList.map foldLetter) := by
        rw [← htail]
        simp
      obtain ⟨found, hfound, hletters⟩ := List.mem_map.1 hmem
      exact ⟨found, hfound, by rw [hletters]; rfl⟩

end

/-! ## What a match reads -/

/-- The text between two places is read as words. -/
def ReadsTo (words : List String) (start stop : Place) : Prop :=
  ∃ read, start.rest = read ++ stop.rest ∧ ReadsAs words read

section

variable {word : String} {words : List String} {start middle next stop : Place}

theorem readsTo_of_mem_ends (h : stop ∈ (spelled word).ends start) :
    ReadsTo [word] start stop := by
  obtain ⟨read, hread, letters⟩ := exists_read_of_mem_ends_spelled h
  exact ⟨read, hread, .word letters⟩

theorem ReadsTo.cons (h : ReadsTo words next stop) (hword : middle ∈ (spelled word).ends start)
    (hgap : next ∈ blanks.ends middle) : ReadsTo (word :: words) start stop := by
  obtain ⟨more, hmore, others⟩ := h
  obtain ⟨read, hread, letters⟩ := exists_read_of_mem_ends_spelled hword
  obtain ⟨b, gap, hblanks⟩ := Pattern.exists_hasRead_of_mem_ends_many (fun _ hc => hc) hgap
  refine ⟨read ++ b :: gap ++ more, ?_, .cons letters hblanks.all others⟩
  rw [hread, hblanks.text, hmore]
  simp

/-- A word that may be left out stands before the others, or it does not. -/
theorem ReadsTo.maybe {leads : List String} (h : ReadsTo words middle stop)
    (hlead : middle ∈ (Pattern.maybe (.all [.anyOf (leads.map spelled), blanks])).ends start) :
    ReadsTo words start stop ∨ ∃ lead ∈ leads, ReadsTo (lead :: words) start stop := by
  rcases List.mem_append.1 hlead with htaken | hleft
  · obtain ⟨second, hlead, hrest⟩ := List.mem_flatMap.1 htaken
    obtain ⟨third, hgap, hthird⟩ := List.mem_flatMap.1 hrest
    rw [List.mem_singleton.1 hthird] at h
    obtain ⟨p, hp, hends⟩ := Pattern.exists_of_mem_ends_anyOf hlead
    obtain ⟨lead, hmem, rfl⟩ := List.mem_map.1 hp
    exact .inr ⟨lead, hmem, h.cons hends hgap⟩
  · rw [List.mem_singleton.1 hleft] at h
    exact .inl h

/-- A join keyword is read with the words that stand before it. -/
theorem exists_joinPhrase_of_mem_ends (h : stop ∈ joinKeyword.ends start) :
    ∃ words ∈ joinPhrases, ReadsTo words start stop := by
  obtain ⟨second, hkind, hrest⟩ := List.mem_flatMap.1 h
  obtain ⟨third, houter, hjoin⟩ := List.mem_flatMap.1 hrest
  obtain ⟨fourth, hends, hstop⟩ := List.mem_flatMap.1 hjoin
  rw [← List.mem_singleton.1 hstop] at hends
  have hread : ∃ words ∈ [["JOIN"], ["OUTER", "JOIN"]], ReadsTo words second stop := by
    have hlead : third ∈
        (Pattern.maybe (.all [.anyOf (["OUTER"].map spelled), blanks])).ends second := houter
    rcases (readsTo_of_mem_ends hends).maybe hlead with hbare | ⟨lead, hlead, hboth⟩
    · exact ⟨["JOIN"], by simp, hbare⟩
    · rw [List.mem_singleton.1 hlead] at hboth
      exact ⟨["OUTER", "JOIN"], by simp, hboth⟩
  obtain ⟨words, hwords, hwordsRead⟩ := hread
  rcases hwordsRead.maybe hkind with hbare | ⟨kind, hmem, hboth⟩
  · exact ⟨words, List.mem_flatMap.2 ⟨words, hwords, List.mem_cons_self⟩, hbare⟩
  · refine ⟨kind :: words, List.mem_flatMap.2 ⟨words, hwords, ?_⟩, hboth⟩
    exact List.mem_cons_of_mem _ (List.mem_map_of_mem hmem)

/-- **A match begins and ends at the edge of a word, and has read one of the phrases.** -/
theorem exists_phrase_of_mem_ends (h : stop ∈ keyword.ends start) :
    start.isBoundary isWordChar = true ∧ stop.isBoundary isWordChar = true ∧
      ∃ words ∈ phrases, ReadsTo words start stop := by
  obtain ⟨second, hstart, hrest⟩ := List.mem_flatMap.1 h
  obtain ⟨third, hany, hlast⟩ := List.mem_flatMap.1 hrest
  obtain ⟨fourth, hedge, hstop⟩ := List.mem_flatMap.1 hlast
  obtain ⟨hsame, hbegin⟩ := Pattern.mem_ends_boundary_iff.1 hstart
  obtain ⟨hsame', hend⟩ := Pattern.mem_ends_boundary_iff.1 hedge
  rw [hsame] at hany
  rw [List.mem_singleton.1 hstop, hsame']
  refine ⟨hbegin, hend, ?_⟩
  obtain ⟨p, hp, hends⟩ := Pattern.exists_of_mem_ends_anyOf hany
  have hphrase {first : String} (hmem : [first, "BY"] ∈ phrases)
      (hboth : third ∈ (Pattern.all [spelled first, blanks, spelled "BY"]).ends start) :
      ∃ words ∈ phrases, ReadsTo words start third := by
    obtain ⟨a, ha, hrest⟩ := List.mem_flatMap.1 hboth
    obtain ⟨b, hb, hby⟩ := List.mem_flatMap.1 hrest
    obtain ⟨c, hc, hsame⟩ := List.mem_flatMap.1 hby
    rw [← List.mem_singleton.1 hsame] at hc
    exact ⟨[first, "BY"], hmem, (readsTo_of_mem_ends hc).cons ha hb⟩
  simp only [List.mem_cons, List.not_mem_nil, or_false] at hp
  rcases hp with rfl | rfl | rfl | rfl | rfl | rfl | rfl | rfl
  · exact ⟨["SELECT"], by decide, readsTo_of_mem_ends hends⟩
  · exact ⟨["FROM"], by decide, readsTo_of_mem_ends hends⟩
  · exact ⟨["WHERE"], by decide, readsTo_of_mem_ends hends⟩
  · exact ⟨["HAVING"], by decide, readsTo_of_mem_ends hends⟩
  · exact ⟨["ON"], by decide, readsTo_of_mem_ends hends⟩
  · exact hphrase (by decide) hends
  · exact hphrase (by decide) hends
  · obtain ⟨words, hwords, hread⟩ := exists_joinPhrase_of_mem_ends hends
    exact ⟨words, List.mem_append_right _ hwords, hread⟩

end

/-! ## Matches in a text -/

/-- What a match says about the text it stands in: it has read one of the phrases, and it has no
word character next to it. -/
structure ReadsKeyword (last : Option Char) (cs : List Char) (m : Match) : Prop where
  text : cs = m.text ++ m.after
  before : last.any isWordChar = false
  after : m.after.head?.any isWordChar = false
  phrase : ∃ words ∈ phrases, ReadsAs words m.text

section

variable {last : Option Char} {cs : List Char} {m : Match}

theorem readsKeyword_of_matchAt (h : keyword.matchAt last cs = some m) :
    ReadsKeyword last cs m := by
  obtain ⟨stop, hstop, hafter, htext⟩ := Pattern.exists_stop_of_matchAt h
  obtain ⟨hbegin, hend, words, hwords, read, hread, hreads⟩ := exists_phrase_of_mem_ends hstop
  obtain rfl : m.text = read := by
    rw [hafter] at hread
    exact List.append_cancel_right (htext.symm.trans hread)
  have hlast := Pattern.last_eq_of_mem_ends hstop hread
  have lettered := areLettered_of_mem_phrases words hwords
  rw [Place.isBoundary, hlast, hreads.any_getLast?_or lettered, hafter] at hend
  rw [Place.isBoundary, htext, hreads.any_head?_append lettered] at hbegin
  exact ⟨htext, by simpa using hbegin, by simpa using hend, words, hwords, hreads⟩

theorem ReadsKeyword.any_head? (h : ReadsKeyword last cs m) :
    cs.head?.any isWordChar = true := by
  obtain ⟨words, hwords, hreads⟩ := h.phrase
  rw [h.text]
  exact hreads.any_head?_append (areLettered_of_mem_phrases words hwords) _

/-- No keyword is empty. -/
theorem neverEmpty_keyword : keyword.NeverEmpty := by
  intro last cs m h hempty
  obtain ⟨words, hwords, hreads⟩ := (readsKeyword_of_matchAt h).phrase
  have hhead := hreads.any_head?_append (areLettered_of_mem_phrases words hwords) []
  rw [hempty] at hhead
  exact nomatch hhead

/-- Nothing is found where no word begins. -/
theorem matchAt_eq_none (h : last.any isWordChar = true ∨ cs.head?.any isWordChar = false) :
    keyword.matchAt last cs = none := by
  rw [Option.eq_none_iff_forall_ne_some]
  intro m hm
  have hreads := readsKeyword_of_matchAt hm
  rcases h with hbefore | hhead
  · exact nomatch hbefore.symm.trans hreads.before
  · exact nomatch hhead.symm.trans hreads.any_head?

/-- **A match that begins in a word at the end of a text has read the whole word**, and the word is a
keyword of its own. -/
theorem matchAt_word (inside : ∀ c ∈ cs, isWordChar c = true)
    (h : keyword.matchAt last cs = some m) :
    m.text = cs ∧ m.after = [] ∧
      ∃ word, [word] ∈ phrases ∧ cs.map foldLetter = word.toList.map foldLetter := by
  have hreads := readsKeyword_of_matchAt h
  have htext := hreads.text
  have hafter : m.after = [] := by
    cases hnext : m.after with
    | nil => rfl
    | cons d rest =>
      have hd : isWordChar d = true := inside d (by rw [htext, hnext]; simp)
      have hedge := hreads.after
      rw [hnext] at hedge
      exact nomatch hd.symm.trans hedge
  rw [hafter, List.append_nil] at htext
  subst htext
  refine ⟨rfl, hafter, ?_⟩
  obtain ⟨words, hwords, hphrase⟩ := hreads.phrase
  generalize m.text = read at inside hphrase
  cases hphrase with
  | word letters => exact ⟨_, hwords, letters⟩
  | @cons word words read more b gap letters blank others =>
    -- there is no blank in a word
    have hb : isBlank b = true := blank b List.mem_cons_self
    have hword : isWordChar b = true := inside b (by simp)
    exact nomatch hword.symm.trans (isWordChar_eq_false_of_isBlank hb)

/-- The keywords of one word. -/
def loneKeywords : List String :=
  ["SELECT", "FROM", "WHERE", "HAVING", "ON", "JOIN"]

/-- A `JOIN` is a join keyword, with no other word before it. -/
theorem mem_ends_joinKeyword {start stop : Place} (h : stop ∈ (spelled "JOIN").ends start) :
    stop ∈ joinKeyword.ends start := by
  have hleft (p : Pattern) : start ∈ (Pattern.maybe p).ends start :=
    List.mem_append_right _ (List.mem_singleton_self start)
  refine List.mem_flatMap.2 ⟨start, hleft _, List.mem_flatMap.2 ⟨start, hleft _, ?_⟩⟩
  exact List.mem_flatMap.2 ⟨stop, h, List.mem_singleton_self stop⟩

/-- Where such a keyword stands as a word of its own, it is read as a clause keyword. -/
theorem mem_ends_of_loneKeyword {word : String} (hword : word ∈ loneKeywords) {start stop : Place}
    (h : stop ∈ (loneWord word).ends start) : stop ∈ keyword.ends start := by
  obtain ⟨second, hstart, hrest⟩ := List.mem_flatMap.1 h
  obtain ⟨third, hspelled, hlast⟩ := List.mem_flatMap.1 hrest
  refine List.mem_flatMap.2 ⟨second, hstart, List.mem_flatMap.2 ⟨third, ?_, hlast⟩⟩
  simp only [loneKeywords, List.mem_cons, List.not_mem_nil, or_false] at hword
  rcases hword with rfl | rfl | rfl | rfl | rfl | rfl
  case inr.inr.inr.inr.inr =>
    exact Pattern.mem_ends_anyOf (by simp) (mem_ends_joinKeyword hspelled)
  all_goals exact Pattern.mem_ends_anyOf (by simp) hspelled

/-- A word that is one of these keywords is found. -/
theorem exists_matchAt_word {word : String} (hword : word ∈ loneKeywords)
    (letters : cs.map foldLetter = word.toList.map foldLetter)
    (before : last.any isWordChar = false) : ∃ m, keyword.matchAt last cs = some m := by
  have hlettered : word ≠ "" ∧ isLettered word = true := by
    have hall : ∀ word ∈ loneKeywords, word ≠ "" ∧ isLettered word = true := by decide +kernel
    exact hall word hword
  have hreads : ReadsAs [word] cs := .word letters
  have lettered : AreLettered [word] := List.forall_mem_singleton.2 hlettered
  have hhead := hreads.any_head?_append lettered []
  rw [List.append_nil] at hhead
  let start : Place := ⟨last, cs, []⟩
  let stop : Place := ⟨cs.getLast?.or last, [], []⟩
  have hstart : start.isBoundary isWordChar = true := by
    rw [Place.isBoundary, before, hhead]
    rfl
  have hstop : stop.isBoundary isWordChar = true := by
    rw [Place.isBoundary, hreads.any_getLast?_or lettered]
    rfl
  have hspelled : stop ∈ (spelled word).ends start := by
    have hread := best?_spelled_of_letters letters last [] []
    rw [List.append_nil] at hread
    exact Pattern.mem_ends_of_best? hread
  have hlone : stop ∈ (loneWord word).ends start := by
    refine List.mem_flatMap.2 ⟨start, Pattern.mem_ends_boundary_iff.2 ⟨rfl, hstart⟩, ?_⟩
    refine List.mem_flatMap.2 ⟨stop, hspelled, List.mem_flatMap.2 ⟨stop, ?_, ?_⟩⟩
    · exact Pattern.mem_ends_boundary_iff.2 ⟨rfl, hstop⟩
    · exact List.mem_singleton_self stop
  exact Pattern.exists_matchAt_of_mem_ends (mem_ends_of_loneKeyword hword hlone)

/-- In a word at the end of a text nothing is found but a match at its beginning. -/
theorem scan_word (nonempty : cs ≠ []) (inside : ∀ c ∈ cs, isWordChar c = true) :
    keyword.scan Match.after 0 last cs = (keyword.matchAt last cs).toList := by
  cases cs with
  | nil => exact absurd rfl nonempty
  | cons c cs =>
    have hbehind : ∀ front rest, cs = front ++ rest →
        (front.getLast?.or (some c)).any isWordChar = true := by
      intro front rest hword
      obtain ⟨hc, hcs⟩ := List.forall_mem_cons.1 inside
      cases hb : front.getLast? with
      | none => exact hc
      | some b => exact hcs b (by rw [hword]; simp [List.mem_of_getLast? hb])
    have hlater : keyword.scan Match.after 0 (some c) cs = [] :=
      Pattern.scan_eq_nil_iff.2 fun front rest hword =>
        matchAt_eq_none (.inl (hbehind front rest hword))
    cases hm : keyword.matchAt last (c :: cs) with
    | none =>
      rw [Pattern.scan_pass hm, hlater]
      rfl
    | some m =>
      have hmatch : keyword.matchAt last (c :: (cs ++ [])) = some m := by rwa [List.append_nil]
      have hfound := Pattern.scan_match hmatch (matchAt_word inside hm).2.1
      rw [List.append_nil, Pattern.scan_nil neverEmpty_keyword] at hfound
      exact hfound

/-- **The search comes by a place behind a blank**, if the word there is not a later word of a
phrase. -/
theorem exists_findAll_append {front : List Char} {c : Char}
    (hfront : front.getLast?.all isBlank = true) (hc : isBlank c = false)
    (first : ∀ words ∈ phrases, ∀ word ∈ words.tail,
      (word.toList.map foldLetter).head? ≠ some (foldLetter c)) (cs : List Char) :
    ∃ found, keyword.findAll (front ++ c :: cs) =
      found ++ keyword.scan Match.after 0 front.getLast? (c :: cs) := by
  have hresult : ∃ found, keyword.scan Match.after 0 none (front ++ c :: cs) =
      found ++ keyword.scan Match.after 0 (front.getLast?.or none) (c :: cs) := by
    refine Pattern.exists_scan_append (Nat.zero_le _) fun before d after m hsplit hm => ?_
    have hreads := readsKeyword_of_matchAt hm
    have hsame : (d :: after) ++ c :: cs = m.text ++ m.after := hreads.text
    rcases List.append_eq_append_iff.1 hsame with ⟨beyond, htext, hrest⟩ | ⟨left, -, hafter⟩
    · cases beyond with
      | nil => exact Nat.le_of_eq (congrArg List.length hrest)
      | cons e beyond =>
        -- otherwise the match has read the blank and the word behind it
        obtain ⟨rfl, -⟩ := List.cons.inj hrest
        obtain ⟨words, hwords, hphrase⟩ := hreads.phrase
        obtain ⟨back, b, hback⟩ : ∃ back b, d :: after = back ++ [b] :=
          ⟨_, _, (List.dropLast_concat_getLast (List.cons_ne_nil d after)).symm⟩
        have hb : isBlank b = true := by simpa [hsplit, hback] using hfront
        rw [htext, hback, List.append_assoc, List.singleton_append] at hphrase
        obtain ⟨word, hword, hletter⟩ :=
          hphrase.exists_word_of_blank (areLettered_of_mem_phrases words hwords) hb hc
        exact absurd hletter (first words hwords word hword)
    · rw [hafter, List.length_append]
      omega
  simpa [Pattern.findAll] using hresult

end

end Clause

end QueryAssist
