import QueryAssist.Proofs.Query.Keyword
import QueryAssist.Proofs.Text.Dotted
import QueryAssist.Proofs.Text.Quotes
import QueryAssist.Query.TableReference

/-!
# Reading table references

* `best?_name` — a name is read to its end, with or without quotes around it.
* `best?_path` — so is a path of one to three such names.
* `matchAt_reference` — so is a reference whose path stands after `FROM` or `JOIN`, and
  `best?_aliasPattern` says which word after it is taken for an alias.
* `pathChar_of_mem_findAll` — conversely the path of a reference, wherever it was found, has no
  characters but those of names and dots.
-/

namespace QueryAssist

open Text Query

namespace TableReference

/-! ## The characters of a path -/

/-- A quote is no character of a name. -/
theorem isPathChar_eq_false_of_isQuote {c : Char} (h : isQuote c = true) :
    isPathChar c = false := by
  simp only [isQuote, Bool.or_eq_true, beq_iff_eq] at h
  rcases h with ((rfl | rfl) | rfl) | rfl <;> decide

theorem isQuote_of_isOpeningQuote {c : Char} (h : isOpeningQuote c = true) : isQuote c = true := by
  simp only [isOpeningQuote, Bool.or_eq_true, beq_iff_eq] at h
  rcases h with (rfl | rfl) | rfl <;> rfl

theorem isQuote_of_isClosingQuote {c : Char} (h : isClosingQuote c = true) : isQuote c = true := by
  simp only [isClosingQuote, Bool.or_eq_true, beq_iff_eq] at h
  rcases h with (rfl | rfl) | rfl <;> rfl

/-- A character of a name is no quote. -/
theorem isQuote_eq_false_of_isPathChar {c : Char} (h : isPathChar c = true) :
    isQuote c = false := by
  rw [← Bool.not_eq_true]
  exact fun hquote => nomatch h.symm.trans (isPathChar_eq_false_of_isQuote hquote)

theorem isQuote_eq_false_of_isWordChar {c : Char} (h : isWordChar c = true) :
    isQuote c = false :=
  isQuote_eq_false_of_isPathChar (Bool.or_eq_true_iff.2 (.inl h))

/-- A character of a name is not blank. -/
theorem isBlank_eq_false_of_isPathChar {c : Char} (h : isPathChar c = true) :
    isBlank c = false := by
  rcases Bool.or_eq_true_iff.1 h with hword | hdollar
  · exact isBlank_eq_false_of_isWordChar hword
  · rw [eq_of_beq hdollar]
    decide

/-- A quote is not blank. -/
theorem isBlank_eq_false_of_isQuote {c : Char} (h : isQuote c = true) : isBlank c = false := by
  simp only [isQuote, Bool.or_eq_true, beq_iff_eq] at h
  rcases h with ((rfl | rfl) | rfl) | rfl <;> decide

/-! ## Names -/

/-- A text stands for a name: it is the name itself, or the name between quotes. -/
inductive Spells (word : List Char) : List Char → Prop where
  | plain : Spells word word
  | quoted (opening closing : Char) (opens : isOpeningQuote opening = true)
      (closes : isClosingQuote closing = true) : Spells word (opening :: word ++ [closing])

/-- Names over a class of characters: they are not empty, and have such characters only. -/
def IsName (cls : Char → Bool) (word : List Char) : Prop :=
  word ≠ [] ∧ ∀ c ∈ word, cls c = true

/-- A place that ends a name: no character of the class and no quote follows. -/
def EndsName (cls : Char → Bool) (next : List Char) : Prop :=
  ∀ c, next.head? = some c → cls c = false ∧ isQuote c = false

/-- A place that ends a path: it ends a name, and no dot follows. -/
def EndsPath (next : List Char) : Prop :=
  EndsName isPathChar next ∧ next.head? ≠ some '.'

section

variable {cls : Char → Bool} {word text next : List Char}

/-- The characters of the text of a name. -/
theorem Spells.mem (h : Spells word text) {c : Char} (hc : c ∈ text) :
    c ∈ word ∨ isQuote c = true := by
  cases h with
  | plain => exact .inl hc
  | quoted opening closing opens closes =>
    rcases List.mem_append.1 hc with hmem | hclosing
    · rcases List.mem_cons.1 hmem with rfl | hword
      · exact .inr (isQuote_of_isOpeningQuote opens)
      · exact .inl hword
    · rw [List.mem_singleton.1 hclosing]
      exact .inr (isQuote_of_isClosingQuote closes)

/-- What a name is spelled as, without its quotes, is the name. -/
theorem Spells.filter_eq (h : Spells word text) (hword : ∀ c ∈ word, isQuote c = false) :
    text.filter (!isQuote ·) = word := by
  have hkept : word.filter (!isQuote ·) = word :=
    List.filter_eq_self.2 fun c hc => by simp [hword c hc]
  cases h with
  | plain => exact hkept
  | quoted opening closing opens closes =>
    simp [hkept, isQuote_of_isOpeningQuote opens, isQuote_of_isClosingQuote closes]

theorem Spells.ne_nil (h : Spells word text) (hname : IsName cls word) : text ≠ [] := by
  cases h with
  | plain => exact hname.1
  | quoted => exact List.cons_ne_nil _ _

/-- There is no dot in the text of a name. -/
theorem Spells.dot_not_mem (h : Spells word text) (hname : IsName isPathChar word) :
    '.' ∉ text := by
  intro hdot
  rcases h.mem hdot with hword | hquote
  · exact absurd (hname.2 '.' hword) (by decide)
  · exact absurd hquote (by decide)

theorem EndsName.head?_any (h : EndsName cls next) : next.head?.any cls = false := by
  cases next with
  | nil => rfl
  | cons c cs => exact (h c rfl).1

/-- A name is read to its end, with its quotes. -/
theorem best?_name (unquoted : ∀ c, cls c = true → isQuote c = false) (spells : Spells word text)
    (hname : IsName cls word) (hnext : EndsName cls next) (last : Option Char)
    (groups : List Group) :
    ∃ last', (name cls).best? ⟨last, text ++ next, groups⟩ = some ⟨last', next, groups⟩ := by
  cases spells with
  | plain =>
    obtain ⟨c, cs, rfl⟩ := List.exists_cons_of_ne_nil hname.1
    have hquote : isQuote c = false := unquoted c (hname.2 c List.mem_cons_self)
    have hopening : (Pattern.one isOpeningQuote).best? ⟨last, c :: cs ++ next, groups⟩ = none := by
      rw [List.cons_append, Pattern.best?_one,
        if_neg fun h => nomatch hquote.symm.trans (isQuote_of_isOpeningQuote h)]
    have hclosing : (Pattern.one isClosingQuote).best? ⟨(c :: cs).getLast?, next, groups⟩ =
        none := by
      cases next with
      | nil => rfl
      | cons d ds =>
        have hd : isQuote d = false := (hnext d rfl).2
        rw [Pattern.best?_one, if_neg fun h => nomatch hd.symm.trans (isQuote_of_isClosingQuote h)]
    have hbetween := Pattern.best?_many last groups hname.1 hname.2 hnext.head?_any
    refine ⟨(c :: cs).getLast?, ?_⟩
    refine Pattern.best?_seq (Pattern.best?_maybe_of_none hopening) ?_
    exact Pattern.best?_seq hbetween (Pattern.best?_seq (Pattern.best?_maybe_of_none hclosing) rfl)
  | quoted opening closing opens closes =>
    have hopening : (Pattern.one isOpeningQuote).best?
        ⟨last, opening :: (word ++ closing :: next), groups⟩ =
          some ⟨some opening, word ++ closing :: next, groups⟩ := by
      rw [Pattern.best?_one, if_pos opens]
    have houtside : (closing :: next).head?.any cls = false := by
      rw [List.head?_cons, Option.any_some, ← Bool.not_eq_true]
      exact fun h => nomatch (unquoted closing h).symm.trans (isQuote_of_isClosingQuote closes)
    have hbetween := Pattern.best?_many (some opening) groups hname.1 hname.2 houtside
    have hclosing : (Pattern.one isClosingQuote).best? ⟨word.getLast?, closing :: next, groups⟩ =
        some ⟨some closing, next, groups⟩ := by
      rw [Pattern.best?_one, if_pos closes]
    refine ⟨some closing, ?_⟩
    rw [List.append_assoc, List.singleton_append, List.cons_append]
    refine Pattern.best?_seq (Pattern.best?_maybe_of_some hopening) ?_
    exact Pattern.best?_seq hbetween (Pattern.best?_seq (Pattern.best?_maybe_of_some hclosing) rfl)

/-- A name is read of characters of names and quotes. -/
theorem reads_name {property : Char → Prop} (hname : ∀ c, isPathChar c = true → property c)
    (hquote : ∀ c, isQuote c = true → property c) : (name isPathChar).Reads property := by
  refine ⟨⟨?_, trivial⟩, hname, ⟨?_, trivial⟩, trivial⟩
  · exact fun c hc => hquote c (isQuote_of_isOpeningQuote hc)
  · exact fun c hc => hquote c (isQuote_of_isClosingQuote hc)

/-- What has been read of a text, when it goes on with a character that cannot be read, is a part
of that text. -/
theorem exists_suffix_of_read {property : Char → Prop} {read rest : List Char}
    (h : text ++ next = read ++ rest) (hread : ∀ c ∈ read, property c)
    (hnext : ∀ c, next.head? = some c → ¬ property c) :
    ∃ unread, rest = unread ++ next ∧ text = read ++ unread := by
  rcases List.append_eq_append_iff.1 h with ⟨more, hmore, hnextmore⟩ | ⟨unread, htext, hrest⟩
  · cases more with
    | nil => exact ⟨[], hnextmore.symm, by simpa using hmore.symm⟩
    | cons c more =>
      have hc : property c := hread c (by rw [hmore]; simp)
      exact absurd hc (hnext c (by rw [hnextmore]; rfl))
  · exact ⟨unread, hrest, htext⟩

end

/-! ## Paths -/

/-- A text that is read as one name of a path. -/
def IsNameText (text : List Char) : Prop :=
  ∃ word, IsName isPathChar word ∧ Spells word text

theorem isNameText_of_spells {path : List String} {write : String → List Char}
    (names : ∀ name ∈ path, IsName isPathChar name.toList ∧ Spells name.toList (write name)) :
    ∀ text ∈ path.map write, IsNameText text :=
  List.forall_mem_map.2 fun name hname => ⟨name.toList, names name hname⟩

/-- The characters of the text of a path: those of names, quotes and dots. -/
def isReadInPath (c : Char) : Prop :=
  isPathChar c = true ∨ isQuote c = true ∨ c = '.'

section

variable {text next : List Char}

/-- What follows a name can be read in no name. -/
theorem EndsName.not_read (h : EndsName isPathChar next) (c : Char) (hc : next.head? = some c) :
    ¬ (isPathChar c = true ∨ isQuote c = true) := by
  simp [h c hc]

theorem endsName_dot (cs : List Char) : EndsName isPathChar ('.' :: cs) := by
  rintro c ⟨⟩
  decide

theorem endsPath_blank (cs : List Char) : EndsPath (' ' :: cs) :=
  ⟨by rintro c ⟨⟩; decide, by rw [List.head?_cons]; decide⟩

/-- A name with a dot after it is read as one of the names before the last. -/
theorem best?_qualifier (hname : IsNameText text) (next : List Char) (last : Option Char)
    (groups : List Group) :
    qualifier.best? ⟨last, text ++ '.' :: next, groups⟩ = some ⟨some '.', next, groups⟩ := by
  obtain ⟨word, hword, spells⟩ := hname
  obtain ⟨last', hread⟩ := best?_name (fun _ => isQuote_eq_false_of_isPathChar) spells hword
    (endsName_dot next) last groups
  refine Pattern.best?_seq hread ?_
  rw [Pattern.best?_one, if_pos (by decide)]

/-- The last name of a path is not read as one of the names before it, however short the match. -/
theorem best?_qualifier_eq_none (hname : IsNameText text) (hnext : EndsPath next)
    (last : Option Char) (groups : List Group) :
    qualifier.best? ⟨last, text ++ next, groups⟩ = none := by
  obtain ⟨word, hword, spells⟩ := hname
  refine Pattern.best?_seq_eq_none fun middle hmiddle => ?_
  have hreads : (name isPathChar).Reads fun c => isPathChar c = true ∨ isQuote c = true :=
    reads_name (fun _ => .inl) fun _ => .inr
  obtain ⟨read, hread, hchars⟩ := Pattern.exists_read hreads hmiddle
  obtain ⟨unread, hrest, htext⟩ := exists_suffix_of_read hread hchars hnext.1.not_read
  -- the name pattern may also stop inside the name; there is no dot to go on with there either
  have hdot : middle.rest.head? ≠ some '.' := by
    cases unread with
    | nil => rw [hrest]; exact hnext.2
    | cons c unread =>
      have hc : c ∈ text := by rw [htext]; simp
      rw [hrest, List.cons_append, List.head?_cons, ne_eq, Option.some_inj]
      rintro rfl
      exact spells.dot_not_mem hword hc
  obtain ⟨last', rest, groups'⟩ := middle
  cases rest with
  | nil => rfl
  | cons c cs => rw [Pattern.best?_one, if_neg (by simpa using hdot)]

/-- The last name of a path is read to its end. -/
theorem exists_best?_name (hname : IsNameText text) (hnext : EndsPath next) (last : Option Char)
    (groups : List Group) :
    ∃ last', (name isPathChar).best? ⟨last, text ++ next, groups⟩ = some ⟨last', next, groups⟩ := by
  obtain ⟨word, hword, spells⟩ := hname
  exact best?_name (fun _ => isQuote_eq_false_of_isPathChar) spells hword hnext.1 last groups

/-- **A path of one to three names is read to its end.**  Of four names the last would be left. -/
theorem best?_path {texts : List (List Char)} (hsome : texts ≠ []) (hfew : texts.length ≤ 3)
    (names : ∀ text ∈ texts, IsNameText text) (hnext : EndsPath next) (last : Option Char)
    (groups : List Group) :
    ∃ last', pathPattern.best? ⟨last, ['.'].intercalate texts ++ next, groups⟩ =
      some ⟨last', next, groups⟩ := by
  -- the names before the last are read by two nested optional parts, one for each of them
  match texts, hsome, hfew with
  | [first], _, _ =>
    have hfirst : IsNameText first := names first (by simp)
    obtain ⟨last', hread⟩ := exists_best?_name hfirst hnext last groups
    have hnone := best?_qualifier_eq_none hfirst hnext last groups
    refine ⟨last', ?_⟩
    simp only [List.intercalate_singleton]
    exact Pattern.best?_seq
      (Pattern.best?_maybe_of_none (Pattern.best?_seq_eq_none_of_first hnone)) hread
  | [first, second], _, _ =>
    have hsecond : IsNameText second := names second (by simp)
    obtain ⟨last', hread⟩ := exists_best?_name hsecond hnext (some '.') groups
    have hnone := best?_qualifier_eq_none hsecond hnext (some '.') groups
    have hqualifier := best?_qualifier (names first (by simp)) (second ++ next) last groups
    refine ⟨last', ?_⟩
    simp only [List.intercalate_cons_cons, List.intercalate_singleton, List.append_assoc,
      List.singleton_append]
    exact Pattern.best?_seq (Pattern.best?_maybe_of_some
      (Pattern.best?_seq hqualifier (Pattern.best?_maybe_of_none hnone))) hread
  | [first, second, third], _, _ =>
    obtain ⟨last', hread⟩ := exists_best?_name (names third (by simp)) hnext (some '.') groups
    have hqualifier := best?_qualifier (names first (by simp)) (second ++ '.' :: (third ++ next))
      last groups
    have hqualifier' := best?_qualifier (names second (by simp)) (third ++ next) (some '.') groups
    refine ⟨last', ?_⟩
    simp only [List.intercalate_cons_cons, List.intercalate_singleton, List.append_assoc,
      List.cons_append, List.nil_append]
    exact Pattern.best?_seq (Pattern.best?_maybe_of_some
      (Pattern.best?_seq hqualifier (Pattern.best?_maybe_of_some hqualifier'))) hread

/-- A path is read of characters of names, quotes and dots. -/
theorem reads_path : pathPattern.Reads isReadInPath := by
  have hname : (name isPathChar).Reads isReadInPath :=
    reads_name (fun _ hc => .inl hc) fun _ hc => .inr (.inl hc)
  have hqualifier : qualifier.Reads isReadInPath :=
    ⟨hname, fun c hc => .inr (.inr (eq_of_beq hc))⟩
  exact ⟨⟨⟨hqualifier, hqualifier, trivial⟩, trivial⟩, hname⟩

end

/-! ## References -/

/-- No character of the text of a path is blank. -/
theorem isBlank_eq_false_of_isReadInPath {c : Char} (h : isReadInPath c) : isBlank c = false := by
  rcases h with hname | hquote | rfl
  · exact isBlank_eq_false_of_isPathChar hname
  · exact isBlank_eq_false_of_isQuote hquote
  · decide

theorem path_ne_nil {texts : List (List Char)} (hsome : texts ≠ [])
    (names : ∀ text ∈ texts, IsNameText text) : ['.'].intercalate texts ≠ [] := by
  obtain ⟨first, others, rfl⟩ := List.exists_cons_of_ne_nil hsome
  obtain ⟨word, hword, spells⟩ := names first List.mem_cons_self
  cases others with
  | nil => simpa using spells.ne_nil hword
  | cons second others => simp [List.intercalate_cons_cons, spells.ne_nil hword]

/-- The characters of a path are those that a path is read of. -/
theorem isReadInPath_of_mem {texts : List (List Char)} (hsome : texts ≠ [])
    (hfew : texts.length ≤ 3) (names : ∀ text ∈ texts, IsNameText text) :
    ∀ c ∈ ['.'].intercalate texts, isReadInPath c := by
  have hend : EndsPath [] := ⟨nofun, nofun⟩
  obtain ⟨last', hread⟩ := best?_path hsome hfew names hend none []
  obtain ⟨read, hpath, hchars⟩ := Pattern.exists_read reads_path (Pattern.mem_ends_of_best? hread)
  rw [List.append_cancel_right hpath]
  exact hchars

/-- Without its quotes, the text of a path is its names with dots between them. -/
theorem unquoteL_path {path : List String} {write : String → List Char} (hsome : path ≠ [])
    (hfew : path.length ≤ 3)
    (names : ∀ name ∈ path, IsName isPathChar name.toList ∧ Spells name.toList (write name)) :
    unquoteL (['.'].intercalate (path.map write)) = (joinDots path).toList := by
  have hread := isReadInPath_of_mem (by simpa using hsome) (by simpa using hfew)
    (isNameText_of_spells names)
  rw [unquoteL, trimL_eq_self_of_forall fun c hc => isBlank_eq_false_of_isReadInPath (hread c hc),
    toList_joinDots, filter_intercalate, List.map_map]
  congr 1
  refine List.map_congr_left fun name hname => ?_
  obtain ⟨hword, spells⟩ := names name hname
  exact spells.filter_eq fun c hc => isQuote_eq_false_of_isPathChar (hword.2 c hc)

/-- The name after a table, which may be an alias of it. -/
def aliasPattern : Pattern :=
  .maybe (.all [
    blanks,
    .maybe (.all [spelled "AS", blanks]),
    .group 2 (name isWordChar)])

section

variable {word next : List Char}

/-- The blank before a word is read, and nothing else. -/
theorem best?_blank (hword : IsName isWordChar word) (last : Option Char) (groups : List Group) :
    blanks.best? ⟨last, ' ' :: (word ++ next), groups⟩ = some ⟨some ' ', word ++ next, groups⟩ := by
  obtain ⟨c, cs, rfl⟩ := List.exists_cons_of_ne_nil hword.1
  have hblank : (c :: cs ++ next).head?.any isBlank = false :=
    isBlank_eq_false_of_isWordChar (hword.2 c List.mem_cons_self)
  exact Pattern.best?_many last groups (List.cons_ne_nil ' ' [])
    (List.forall_mem_singleton.2 (by decide)) hblank

/-- A word that may be an alias is read to its end and remembered. -/
theorem best?_aliasGroup (hword : IsName isWordChar word) (hnext : EndsName isWordChar next)
    (last : Option Char) (groups : List Group) :
    ∃ last', (Pattern.group 2 (name isWordChar)).best? ⟨last, word ++ next, groups⟩ =
      some ⟨last', next, ⟨2, word, next⟩ :: groups⟩ := by
  obtain ⟨last', hname⟩ :=
    best?_name (fun _ => isQuote_eq_false_of_isWordChar) .plain hword hnext last groups
  refine ⟨last', ?_⟩
  rw [Pattern.best?_group, hname, Option.map_some, Pattern.upTo_of_read rfl]

/-- A word after a table is taken for an alias, unless it is the keyword `AS`. -/
theorem best?_aliasPattern (hword : IsName isWordChar word) (hnext : EndsName isWordChar next)
    (hkeyword : word.map foldLetter ≠ "AS".toList.map foldLetter) (last : Option Char)
    (groups : List Group) :
    ∃ last', aliasPattern.best? ⟨last, ' ' :: (word ++ next), groups⟩ =
      some ⟨last', next, ⟨2, word, next⟩ :: groups⟩ := by
  have hletters : ∀ keyword ∈ ["AS"], isLettered keyword = true := by decide
  have hnone : (Pattern.all [spelled "AS", blanks]).best? ⟨some ' ', word ++ next, groups⟩ =
      none := by
    refine best?_keyword_eq_none hletters (List.forall_mem_singleton.2 ?_)
    rwa [takeWhile_isWordChar_append hword.2 hnext.head?_any]
  obtain ⟨last', hgroup⟩ := best?_aliasGroup hword hnext (some ' ') groups
  exact ⟨last', Pattern.best?_maybe_of_some (Pattern.best?_seq (best?_blank hword last groups)
    (Pattern.best?_seq (Pattern.best?_maybe_of_none hnone) (Pattern.best?_seq hgroup rfl)))⟩

/-- A word after a table and `AS` is taken for an alias. -/
theorem best?_aliasPattern_as (hword : IsName isWordChar word) (hnext : EndsName isWordChar next)
    (last : Option Char) (groups : List Group) :
    ∃ last', aliasPattern.best? ⟨last, ' ' :: ("AS".toList ++ ' ' :: (word ++ next)), groups⟩ =
      some ⟨last', next, ⟨2, word, next⟩ :: groups⟩ := by
  have hkeyword : IsName isWordChar "AS".toList := by
    refine ⟨by decide, List.all_eq_true.1 ?_⟩
    decide
  have hspelled := best?_spelled "AS" (some ' ') (' ' :: (word ++ next)) groups
  obtain ⟨last', hgroup⟩ := best?_aliasGroup hword hnext (some ' ') groups
  exact ⟨last', Pattern.best?_maybe_of_some (Pattern.best?_seq (best?_blank hkeyword last groups)
    (Pattern.best?_seq (Pattern.best?_maybe_of_some (Pattern.best?_seq hspelled
      (Pattern.best?_seq (best?_blank hword _ groups) rfl))) (Pattern.best?_seq hgroup rfl)))⟩

end

/-- The keywords that a table stands after. -/
def referenceKeywords : List String :=
  ["FROM", "JOIN"]

/-- A keyword that a table stands after is read to its end. -/
theorem best?_referenceKeyword {keyword : String} (hkeyword : keyword ∈ referenceKeywords)
    (last : Option Char) (next : List Char) (groups : List Group) :
    (Pattern.anyOf (referenceKeywords.map spelled)).best? ⟨last, keyword.toList ++ next, groups⟩ =
      some ⟨keyword.toList.getLast?.or last, next, groups⟩ := by
  simp only [referenceKeywords, List.mem_cons, List.not_mem_nil, or_false] at hkeyword
  rcases hkeyword with rfl | rfl
  · exact Pattern.best?_either_of_some (best?_spelled "FROM" last next groups)
  · have hother : (spelled "FROM").best? ⟨last, "JOIN".toList ++ next, groups⟩ = none := rfl
    refine (Pattern.best?_either _ _ _).trans ?_
    rw [hother]
    exact best?_spelled "JOIN" last next groups

/-- **A path after `FROM` or `JOIN` is read as a whole.**  What follows it is for the alias. -/
theorem matchAt_reference {keyword : String} {texts : List (List Char)} {next rest : List Char}
    {last : Option Char} {following : Group} (hkeyword : keyword ∈ referenceKeywords)
    (before : last.any isWordChar = false) (hsome : texts ≠ []) (hfew : texts.length ≤ 3)
    (names : ∀ text ∈ texts, IsNameText text) (hnext : EndsPath next)
    (halias : ∀ last groups, ∃ last',
      aliasPattern.best? ⟨last, next, groups⟩ = some ⟨last', rest, following :: groups⟩) :
    ∃ m, pattern.matchAt last (keyword.toList ++ ' ' :: (['.'].intercalate texts ++ next)) =
        some m ∧
      m.groups = [following, ⟨1, ['.'].intercalate texts, next⟩] := by
  have hfirst : ∃ c cs, keyword.toList = c :: cs ∧ isWordChar c = true := by
    simp only [referenceKeywords, List.mem_cons, List.not_mem_nil, or_false] at hkeyword
    rcases hkeyword with rfl | rfl
    · exact ⟨'F', "ROM".toList, rfl, by decide⟩
    · exact ⟨'J', "OIN".toList, rfl, by decide⟩
  have hedge : wordEdge.best?
      ⟨last, keyword.toList ++ ' ' :: (['.'].intercalate texts ++ next), []⟩ =
        some ⟨last, keyword.toList ++ ' ' :: (['.'].intercalate texts ++ next), []⟩ := by
    obtain ⟨c, cs, htext, hc⟩ := hfirst
    rw [htext]
    exact best?_wordEdge before hc _ []
  have hread := best?_referenceKeyword hkeyword last (' ' :: (['.'].intercalate texts ++ next)) []
  have hblank : (['.'].intercalate texts ++ next).head?.any isBlank = false := by
    have hchars := isReadInPath_of_mem hsome hfew names
    obtain ⟨c, cs, hpath⟩ := List.exists_cons_of_ne_nil (path_ne_nil hsome names)
    rw [hpath] at hchars ⊢
    exact isBlank_eq_false_of_isReadInPath (hchars c List.mem_cons_self)
  have hblanks := Pattern.best?_many (keyword.toList.getLast?.or last) [] (List.cons_ne_nil ' ' [])
    (List.forall_mem_singleton.2 (by decide)) hblank
  obtain ⟨last', hpath⟩ := best?_path hsome hfew names hnext (some ' ') []
  have hgroup : (Pattern.group 1 pathPattern).best?
      ⟨some ' ', ['.'].intercalate texts ++ next, []⟩ =
        some ⟨last', next, [⟨1, ['.'].intercalate texts, next⟩]⟩ := by
    rw [Pattern.best?_group, hpath, Option.map_some, Pattern.upTo_of_read rfl]
  obtain ⟨last'', hrest⟩ := halias last' [⟨1, ['.'].intercalate texts, next⟩]
  have hmatch : pattern.best?
      ⟨last, keyword.toList ++ ' ' :: (['.'].intercalate texts ++ next), []⟩ =
        some ⟨last'', rest, [following, ⟨1, ['.'].intercalate texts, next⟩]⟩ :=
    Pattern.best?_seq hedge (Pattern.best?_seq hread (Pattern.best?_seq hblanks
      (Pattern.best?_seq hgroup (Pattern.best?_seq hrest rfl))))
  rw [Pattern.matchAt_eq_best?, hmatch]
  exact ⟨_, rfl, rfl⟩

/-- The path of a reference is what the path of its match is without its quotes. -/
theorem exists_group_of_ofMatch? {m : Match} {reference : TableReference}
    (h : ofMatch? m = some reference) :
    ∃ found, m.group? 1 = some found ∧ reference.path = String.ofList (unquoteL found.text) := by
  cases hgroup : m.group? 1 with
  | none => simp [ofMatch?, hgroup] at h
  | some found =>
    simp only [ofMatch?, hgroup, Option.bind_eq_bind, Option.bind_some] at h
    split at h
    · exact absurd h (by simp)
    · exact ⟨found, rfl, by rw [← Option.some.inj h]⟩

/-- The reference in a match: what follows the path is its alias, unless it cannot be one. -/
theorem ofMatch?_of_groups {m : Match} {path following : Group}
    (hpath : m.group? 1 = some path) (hfollowing : m.group? 2 = some following)
    (hsome : unquoteL path.text ≠ []) :
    ofMatch? m = some ⟨String.ofList (unquoteL path.text),
      if isAlias (String.ofList (unquoteL following.text)) then
        String.ofList (unquoteL following.text)
      else String.ofList (unquoteL path.text)⟩ := by
  simp only [ofMatch?, hpath, hfollowing, Option.bind_eq_bind, Option.bind_some, Option.map_some,
    String.ofList_eq_empty_iff, hsome, if_false, Option.filter_some]
  split <;> rfl

/-- **The path of a reference has no characters but those of names, and dots between them.** -/
theorem pathChar_of_mem_findAll {text : List Char} {reference : TableReference}
    (h : reference ∈ findAll text) {c : Char} (hc : c ∈ reference.path.toList) :
    isPathChar c = true ∨ c = '.' := by
  obtain ⟨m, hm, hreference⟩ := List.mem_filterMap.1 h
  obtain ⟨last, cs, hmatch⟩ := Pattern.exists_of_mem_scan hm
  obtain ⟨found, hgroup, hpath⟩ := exists_group_of_ofMatch? hreference
  have hremembered : pattern.remembered 1 = [pathPattern] := rfl
  have hreads : ∀ q ∈ pattern.remembered 1, q.Reads isReadInPath := by
    rw [hremembered]
    exact List.forall_mem_singleton.2 reads_path
  rw [hpath, String.toList_ofList] at hc
  rcases Pattern.text_of_group? hreads hmatch hgroup c (mem_of_mem_unquoteL hc) with
    hname | hquote | hdot
  · exact .inl hname
  · exact nomatch hquote.symm.trans (not_isQuote_of_mem_unquoteL hc)
  · exact .inr hdot

end TableReference

end QueryAssist
