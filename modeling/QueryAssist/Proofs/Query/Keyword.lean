import QueryAssist.Proofs.Text.LetterCase
import QueryAssist.Proofs.Text.Pattern
import QueryAssist.Proofs.Text.PlainWord
import QueryAssist.Proofs.Text.Words
import QueryAssist.Query.Keyword

/-!
# Reading keywords

* `map_foldLetter_eq_iff` — plain words have the same letters if they are equal but for case.
* `map_toLower_of_letters` — what has the letters of a word without `s` and `k` is the word but for case.
* `best?_spelled_of_letters` — a keyword is read to its end, in either case.
* `takeWhile_of_mem_ends_spelled` — where a keyword is read and a blank follows, the word at that
  place is the keyword, the case of letters aside.
* `best?_keyword_eq_none` — so a word that is none of some keywords is not read as one of them.
-/

namespace QueryAssist.Query

open Text

/-! ## Letters -/

/-- A character that stands for an ASCII letter is a word character. -/
theorem isWordChar_of_letter {l c : Char} (hl : (foldLetter l).isAlpha = true)
    (h : letter l c = true) : isWordChar c = true := by
  rw [letter, beq_iff_eq] at h
  rw [← h, foldLetter] at hl
  split at hl
  · next hlong => rw [hlong]; decide +kernel
  · split at hl
    · next hkelvin => rw [hkelvin]; decide +kernel
    · rw [isAlpha_toLower] at hl
      have hplain : isPlainWordChar c = true := by
        simp [isPlainWordChar, Char.isAlphanum, hl]
      exact isWordChar_of_isPlainWordChar hplain

/-- Among the characters of plain words only letters of the same name stand for a letter. -/
theorem foldLetter_of_isPlainWordChar {c : Char} (h : isPlainWordChar c = true) :
    foldLetter c = c.toLower := by
  have hlong : c ≠ 'ſ' := by
    rintro rfl
    exact absurd h (by decide)
  have hkelvin : c ≠ '\u212A' := by
    rintro rfl
    exact absurd h (by decide)
  rw [foldLetter, if_neg hlong, if_neg hkelvin]

theorem map_foldLetter_of_plain {cs : List Char} (h : ∀ c ∈ cs, isPlainWordChar c = true) :
    cs.map foldLetter = cs.map Char.toLower :=
  List.map_congr_left fun c hc => foldLetter_of_isPlainWordChar (h c hc)

/-- Plain words have the same letters if they are equal but for the case of ASCII letters. -/
theorem map_foldLetter_eq_iff {s t : String} (hs : IsPlainWord s) (ht : IsPlainWord t) :
    s.toList.map foldLetter = t.toList.map foldLetter ↔ equalIgnoringAsciiCase s t = true := by
  rw [map_foldLetter_of_plain hs.2, map_foldLetter_of_plain ht.2, equalIgnoringAsciiCase_iff]

/-- A character that stands for a letter other than `s` and `k` does so by its case. -/
theorem foldLetter_eq_toLower {c : Char} (hs : foldLetter c ≠ 's') (hk : foldLetter c ≠ 'k') :
    foldLetter c = c.toLower := by
  rw [foldLetter] at hs hk ⊢
  split
  · next h => exact absurd (if_pos h) hs
  · next h =>
    rw [if_neg h] at hk
    split
    · next h' => exact absurd (if_pos h') hk
    · rfl

/-- Whether nothing but ASCII letters can stand for the letters of a word: there is no `s` and no
`k` among them. -/
def isPlainlySpelled (word : String) : Bool :=
  word.toList.all fun l => foldLetter l != 's' && foldLetter l != 'k'

/-- What has the letters of such a word is the word, the case of ASCII letters aside. -/
theorem map_toLower_of_letters {word : String} {read : List Char}
    (plain : isPlainlySpelled word = true)
    (letters : read.map foldLetter = word.toList.map foldLetter) :
    read.map Char.toLower = word.toList.map Char.toLower := by
  have hfolded : ∀ folded ∈ word.toList.map foldLetter, folded ≠ 's' ∧ folded ≠ 'k' := by
    intro folded hmem
    obtain ⟨l, hl, rfl⟩ := List.mem_map.1 hmem
    simpa using List.all_eq_true.1 plain l hl
  have hlower : ∀ cs : List Char, cs.map foldLetter = word.toList.map foldLetter →
      cs.map foldLetter = cs.map Char.toLower := by
    intro cs hcs
    apply List.map_congr_left
    intro c hc
    obtain ⟨hs, hk⟩ := hfolded _ (hcs ▸ List.mem_map_of_mem hc)
    exact foldLetter_eq_toLower hs hk
  rw [← hlower read letters, ← hlower word.toList rfl, letters]

/-! ## Keywords -/

/-- The letters of a keyword are read to their end, in either case. -/
theorem best?_spelled_of_letters {word : String} {read : List Char}
    (h : read.map foldLetter = word.toList.map foldLetter) (last : Option Char) (next : List Char)
    (groups : List Group) :
    (spelled word).best? ⟨last, read ++ next, groups⟩ =
      some ⟨read.getLast?.or last, next, groups⟩ := by
  rw [spelled, Pattern.all]
  generalize word.toList = letters at h ⊢
  induction letters generalizing read last with
  | nil =>
    obtain rfl : read = [] := by simpa using h
    rfl
  | cons l letters ih =>
    cases read with
    | nil => simp at h
    | cons c read =>
      obtain ⟨hc, hread⟩ := List.cons.inj h
      have hletter : letter l c = true := beq_iff_eq.2 hc
      have hfirst : (Pattern.one (letter l)).best? ⟨last, c :: (read ++ next), groups⟩ =
          some ⟨some c, read ++ next, groups⟩ := by
        rw [Pattern.best?_one, if_pos hletter]
      rw [List.map_cons, List.foldr_cons, List.cons_append,
        Pattern.best?_seq hfirst (ih (some c) hread), Pattern.getLast?_cons_or]

/-- A keyword in capitals is read to its end. -/
theorem best?_spelled (word : String) (last : Option Char) (next : List Char)
    (groups : List Group) :
    (spelled word).best? ⟨last, word.toList ++ next, groups⟩ =
      some ⟨word.toList.getLast?.or last, next, groups⟩ :=
  best?_spelled_of_letters rfl last next groups

/-- What is read as a keyword is the keyword, the case of letters aside. -/
theorem exists_read_of_mem_ends_spelled {word : String} {start middle : Place}
    (h : middle ∈ (spelled word).ends start) :
    ∃ read, start.rest = read ++ middle.rest ∧
      read.map foldLetter = word.toList.map foldLetter := by
  rw [spelled, Pattern.all] at h
  generalize word.toList = letters at h ⊢
  induction letters generalizing start with
  | nil =>
    have hstay : middle = start := List.mem_singleton.1 h
    exact ⟨[], by rw [hstay]; rfl, rfl⟩
  | cons l letters ih =>
    rw [List.map_cons, List.foldr_cons, Pattern.ends] at h
    obtain ⟨second, hfirst, hrest⟩ := List.mem_flatMap.1 h
    obtain ⟨read, hread, hletters⟩ := ih hrest
    obtain ⟨last, _ | ⟨c, cs⟩, groups⟩ := start
    · exact absurd hfirst List.not_mem_nil
    · simp only [Pattern.ends] at hfirst
      split at hfirst
      · next hc =>
        rw [List.mem_singleton.1 hfirst] at hread
        refine ⟨c :: read, congrArg (c :: ·) hread, ?_⟩
        rw [List.map_cons, List.map_cons, hletters, eq_of_beq hc]
      · exact absurd hfirst List.not_mem_nil

/-- Whether a keyword is made of letters. -/
def isLettered (keyword : String) : Bool :=
  keyword.toList.all fun l => (foldLetter l).isAlpha

/-- What has the letters of a keyword is made of word characters. -/
theorem isWordChar_of_map_foldLetter {keyword : String} {read : List Char}
    (letters : isLettered keyword = true)
    (h : read.map foldLetter = keyword.toList.map foldLetter) :
    ∀ c ∈ read, isWordChar c = true := by
  intro c hc
  have hmem : foldLetter c ∈ keyword.toList.map foldLetter := h ▸ List.mem_map_of_mem hc
  obtain ⟨l, hl, hletter⟩ := List.mem_map.1 hmem
  exact isWordChar_of_letter (List.all_eq_true.1 letters l hl) (beq_iff_eq.2 hletter.symm)

/-- Where a keyword is read and a blank follows, the word at that place is the keyword, the case of
letters aside. -/
theorem takeWhile_of_mem_ends_spelled {keyword : String} (letters : isLettered keyword = true)
    {start middle : Place} (h : middle ∈ (spelled keyword).ends start)
    (hblank : middle.rest.head?.any isBlank = true) :
    (start.rest.takeWhile isWordChar).map foldLetter = keyword.toList.map foldLetter := by
  obtain ⟨read, hread, hfold⟩ := exists_read_of_mem_ends_spelled h
  have hinside := isWordChar_of_map_foldLetter letters hfold
  have hend : middle.rest.head?.any isWordChar = false := by
    cases hrest : middle.rest with
    | nil => rfl
    | cons b more =>
      rw [hrest] at hblank
      exact isWordChar_eq_false_of_isBlank hblank
  rw [hread, takeWhile_isWordChar_append hinside hend, hfold]

theorem best?_blanks_eq_none {place : Place} (h : place.rest.head?.any isBlank = false) :
    blanks.best? place = none := by
  obtain ⟨last, _ | ⟨c, cs⟩, groups⟩ := place
  · rfl
  · have hc : isBlank c = false := h
    rw [blanks, Pattern.best?, Pattern.ends]
    simp [hc]

/-- A word that is none of the keywords is not read as one of them with blanks after it. -/
theorem best?_keyword_eq_none {keywords : List String}
    (letters : ∀ keyword ∈ keywords, isLettered keyword = true) {start : Place} {next : Pattern}
    (h : ∀ keyword ∈ keywords,
      (start.rest.takeWhile isWordChar).map foldLetter ≠ keyword.toList.map foldLetter) :
    (Pattern.seq (.anyOf (keywords.map spelled)) (.seq blanks next)).best? start = none := by
  refine Pattern.best?_seq_eq_none fun middle hmiddle => ?_
  refine Pattern.best?_seq_eq_none_of_first (best?_blanks_eq_none ?_)
  obtain ⟨p, hp, hends⟩ := Pattern.exists_of_mem_ends_anyOf hmiddle
  obtain ⟨keyword, hkeyword, rfl⟩ := List.mem_map.1 hp
  rw [← Bool.not_eq_true]
  exact fun hblank =>
    h keyword hkeyword (takeWhile_of_mem_ends_spelled (letters keyword hkeyword) hends hblank)

/-- A word edge stands between a character that is none of a word and one that is. -/
theorem best?_wordEdge {last : Option Char} {c : Char} (before : last.any isWordChar = false)
    (after : isWordChar c = true) (cs : List Char) (groups : List Group) :
    wordEdge.best? ⟨last, c :: cs, groups⟩ = some ⟨last, c :: cs, groups⟩ := by
  rw [wordEdge, Pattern.best?_boundary, Place.isBoundary, before]
  simp [after]

/-- There is no word edge between two word characters. -/
theorem best?_wordEdge_eq_none {last : Option Char} {c : Char} (before : last.any isWordChar = true)
    (after : isWordChar c = true) (cs : List Char) (groups : List Group) :
    wordEdge.best? ⟨last, c :: cs, groups⟩ = none := by
  rw [wordEdge, Pattern.best?_boundary, Place.isBoundary, before]
  simp [after]

end QueryAssist.Query
