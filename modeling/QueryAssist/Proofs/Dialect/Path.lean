import QueryAssist.Proofs.Dialect.Identifier
import QueryAssist.Proofs.Text.Dotted

/-!
# Paths of identifiers

What a dialect writes for a path of names is inserted into a query, where it is read by the lexical
rule of the dialect.

* `Spelled`, `IsPath` — this rule: how an identifier stands for a name, and a text with dots for a
  path of names.
* `readPathFrom_start_iff` — the reader of paths knows exactly these texts.
* `IsPath.eq_of_append_eq` — a text begins with one path only, whatever follows.
* `IsPath.unquoteL_eq` — what is left of a path without its quotes.
* `formatPath_decodes` — **so a path that was written is read as the names it was written for**: no
  name, whatever its characters, closes its own quotes.
-/

namespace QueryAssist

open Text

namespace Dialect

open Identifier

/-! ## The lexical rule -/

/-- An identifier stands for a name: the name between quotes, with the quotes in it written twice,
or a plain word where the dialect has them. -/
inductive Spelled (dialect : Dialect) (name : List Char) : List Char → Prop where
  | quoted : Spelled dialect name (quoted dialect.quote name)
  | plain (leaves : dialect.leavesPlain = true) (form : isPlainForm name = true) :
    Spelled dialect name name

/-- A text stands for a path: it is made of the identifiers of its names, one dot between every
two. -/
inductive IsPath (dialect : Dialect) : List (List Char) → List Char → Prop where
  | last {name text : List Char} (spelled : dialect.Spelled name text) : IsPath dialect [name] text
  | cons {name text : List Char} {names : List (List Char)} {more : List Char}
    (spelled : dialect.Spelled name text) (rest : IsPath dialect names more) :
    IsPath dialect (name :: names) (text ++ '.' :: more)

/-- Whether an identifier that has been read goes on with a character. -/
def continuesIdentifier (dialect : Dialect) (c : Char) : Bool :=
  c == dialect.quote || dialect.leavesPlain && isPlainChar c

/-- A text that may follow a path: neither its last identifier nor the path itself goes on. -/
def EndsPath (dialect : Dialect) (rest : List Char) : Prop :=
  rest.head?.any dialect.continuesIdentifier = false ∧ rest.head? ≠ some '.'

variable {dialect : Dialect} {name text rest : List Char} {names : List (List Char)}

theorem quote_ne_dot (dialect : Dialect) : '.' ≠ dialect.quote := by
  cases dialect <;> decide

theorem isPlainChar_quote (dialect : Dialect) : isPlainChar dialect.quote = false := by
  cases dialect <;> decide

theorem continuesIdentifier_dot (dialect : Dialect) : dialect.continuesIdentifier '.' = false := by
  cases dialect <;> decide

/-! ## What is written -/

theorem toList_formatPath (dialect : Dialect) (path : List String) :
    (dialect.formatPath path).toList =
      ['.'].intercalate (path.map fun name => dialect.formatIdentifierL name.toList) := by
  rw [formatPath, String.toList_intercalate, List.map_map]
  congr 1
  refine List.map_congr_left fun name _ => ?_
  simp [formatIdentifier]

/-- What is written for a name stands for it. -/
theorem spelled_formatIdentifierL (dialect : Dialect) (name : List Char) :
    dialect.Spelled name (dialect.formatIdentifierL name) := by
  rw [formatIdentifierL]
  split
  · next h =>
    obtain ⟨hleaves, hplain⟩ := Bool.and_eq_true_iff.1 h
    exact .plain hleaves (Bool.and_eq_true_iff.1 hplain).1
  · exact .quoted

/-- What is written for a path stands for it. -/
theorem isPath_formatPath (dialect : Dialect) {path : List String} (hsome : path ≠ []) :
    dialect.IsPath (path.map String.toList) (dialect.formatPath path).toList := by
  rw [toList_formatPath]
  induction path with
  | nil => exact absurd rfl hsome
  | cons name path ih =>
    have hname := dialect.spelled_formatIdentifierL name.toList
    cases path with
    | nil =>
      rw [List.map_cons, List.map_nil, List.map_cons, List.map_nil, List.intercalate_singleton]
      exact .last hname
    | cons next path =>
      have hpath := ih (List.cons_ne_nil next path)
      have hwritten : ['.'].intercalate ((name :: next :: path).map fun name =>
          dialect.formatIdentifierL name.toList) = dialect.formatIdentifierL name.toList ++
            '.' :: ['.'].intercalate ((next :: path).map fun name =>
              dialect.formatIdentifierL name.toList) := by
        simp [List.intercalate_cons_cons]
      rw [hwritten]
      exact .cons hname hpath

/-! ## What is read -/

/-- A plain word is read to its end. -/
theorem readPathFrom_inPlain (read : List Char) (hname : ∀ c ∈ name, isPlainChar c = true) :
    dialect.readPathFrom (.inPlain read) (name ++ rest) =
      dialect.readPathFrom (.inPlain (name.reverse ++ read)) rest := by
  induction name generalizing read with
  | nil => rfl
  | cons c name ih =>
    have hrest := ih (c :: read) fun d hd => hname d (List.mem_cons_of_mem c hd)
    rw [List.cons_append, readPathFrom, if_pos (hname c List.mem_cons_self), hrest]
    simp

/-- After an identifier the reading stands behind a quote or in a plain word, and has read the
name. -/
theorem Spelled.readPathFrom (h : dialect.Spelled name text) :
    ∃ state, (state = .afterQuote name.reverse ∨ state = .inPlain name.reverse) ∧
      ∀ rest, dialect.readPathFrom .start (text ++ rest) = dialect.readPathFrom state rest := by
  cases h with
  | quoted =>
    refine ⟨_, .inl rfl, fun rest => ?_⟩
    have hread := dialect.readPathFrom_doubled [] name rest
    rw [List.append_nil] at hread
    rw [Identifier.quoted, List.append_assoc, List.singleton_append, List.cons_append,
      Dialect.readPathFrom, if_pos rfl, hread]
  | plain leaves form =>
    refine ⟨_, .inr rfl, fun rest => ?_⟩
    cases name with
    | nil => exact absurd form Bool.false_ne_true
    | cons c name =>
      obtain ⟨hfirst, hrest⟩ := Bool.and_eq_true_iff.1 form
      have hquote : c ≠ dialect.quote := by
        rintro rfl
        have hplain := isPlainChar_of_isPlainStart hfirst
        rw [dialect.isPlainChar_quote] at hplain
        exact Bool.false_ne_true hplain
      rw [List.cons_append, Dialect.readPathFrom, if_neg hquote, if_pos (by simp [leaves, hfirst]),
        readPathFrom_inPlain [c] (List.all_eq_true.1 hrest), List.reverse_cons]

/-- A path is read as its names. -/
theorem IsPath.readPathFrom (h : dialect.IsPath names text) :
    dialect.readPathFrom .start text = some names := by
  induction h with
  | @last name text spelled =>
    obtain ⟨state, hstate, hread⟩ := spelled.readPathFrom
    rw [← List.append_nil text, hread]
    rcases hstate with rfl | rfl <;> simp [Dialect.readPathFrom]
  | cons spelled rest ih =>
    obtain ⟨state, hstate, hread⟩ := spelled.readPathFrom
    rw [hread]
    have hplain : isPlainChar '.' = false := by decide
    rcases hstate with rfl | rfl <;>
      simp [Dialect.readPathFrom, ih, dialect.quote_ne_dot, hplain]

/-- What has been read of the identifier in which a reading stands. -/
def PathState.written (quote : Char) : PathState → List Char
  | .start => []
  | .inQuotes read => quote :: doubled quote read.reverse
  | .afterQuote read => quoted quote read.reverse
  | .inPlain read => read.reverse

/-- A reading stands in a plain word only where the dialect has them. -/
def PathState.Allowed (dialect : Dialect) : PathState → Prop
  | .inPlain read => dialect.leavesPlain = true ∧ isPlainForm read.reverse = true
  | .start | .inQuotes _ | .afterQuote _ => True

/-- What is read up to the end is a path, together with what has been read of its first
identifier. -/
theorem isPath_of_readPathFrom {state : PathState} (hstate : state.Allowed dialect)
    (h : dialect.readPathFrom state rest = some names) :
    dialect.IsPath names (state.written dialect.quote ++ rest) := by
  fun_induction Dialect.readPathFrom dialect state rest generalizing names with
  | case1 | case4 | case5 | case11 | case15 => exact nomatch h
  | case2 cs ih => exact ih trivial h
  | case3 c cs hquote hstart ih =>
    obtain ⟨hleaves, hfirst⟩ := Bool.and_eq_true_iff.1 hstart
    exact ih ⟨hleaves, by simp [isPlainForm, hfirst]⟩ h
  | case6 read cs ih =>
    have hpath := ih trivial h
    rw [PathState.written, Identifier.quoted, List.append_assoc] at hpath
    exact hpath
  | case7 read c cs hc ih =>
    have hpath := ih trivial h
    rw [PathState.written, List.reverse_cons, doubled_append, doubled_cons_of_ne hc,
      doubled_nil] at hpath
    simpa [PathState.written] using hpath
  | case8 read =>
    rw [← Option.some.inj h, List.append_nil]
    exact .last .quoted
  | case9 read cs ih =>
    have hpath := ih trivial h
    rw [PathState.written, List.reverse_cons, doubled_append, doubled_cons_self,
      doubled_nil] at hpath
    simpa [PathState.written, Identifier.quoted] using hpath
  | case10 read cs hquote ih =>
    obtain ⟨others, hothers, rfl⟩ := Option.map_eq_some_iff.1 h
    exact .cons .quoted (ih trivial hothers)
  | case12 read =>
    rw [← Option.some.inj h, List.append_nil]
    exact .last (.plain hstate.1 hstate.2)
  | case13 read c cs hc ih =>
    have hform : isPlainForm (read.reverse ++ [c]) = true := isPlainForm_append hstate.2 hc
    have hpath := ih ⟨hstate.1, by rwa [List.reverse_cons]⟩ h
    simpa [PathState.written] using hpath
  | case14 read cs hdot ih =>
    obtain ⟨others, hothers, rfl⟩ := Option.map_eq_some_iff.1 h
    exact .cons (.plain hstate.1 hstate.2) (ih trivial hothers)

/-- **The reader knows exactly the paths of the lexical rule.** -/
theorem readPathFrom_start_iff :
    dialect.readPathFrom .start text = some names ↔ dialect.IsPath names text := by
  have hstart : PathState.Allowed dialect .start := trivial
  exact ⟨isPath_of_readPathFrom hstart, IsPath.readPathFrom⟩

/-! ## What follows a path -/

/-- A name that is not empty does not begin with the closing quote. -/
theorem doubled_cons_append_ne {quote c : Char} {name more : List Char}
    (hmore : more.head? ≠ some quote) (rest : List Char) :
    doubled quote (c :: name) ++ rest ≠ quote :: more := by
  intro h
  by_cases hc : c = quote
  · rw [hc, doubled_cons_self] at h
    rw [← (List.cons.inj h).2] at hmore
    exact hmore rfl
  · rw [doubled_cons_of_ne hc] at h
    exact hc (List.cons.inj h).1

/-- A quoted name ends at the first quote that belongs to no pair. -/
theorem doubled_append_inj {quote : Char} {name other rest more : List Char}
    (hrest : rest.head? ≠ some quote) (hmore : more.head? ≠ some quote)
    (h : doubled quote name ++ quote :: rest = doubled quote other ++ quote :: more) :
    name = other ∧ rest = more := by
  induction name generalizing other with
  | nil =>
    cases other with
    | nil => exact ⟨rfl, (List.cons.inj h).2⟩
    | cons d other => exact absurd h.symm (doubled_cons_append_ne hrest _)
  | cons c name ih =>
    cases other with
    | nil => exact absurd h (doubled_cons_append_ne hmore _)
    | cons d other =>
      by_cases hc : c = quote <;> by_cases hd : d = quote
      · rw [hc, hd, doubled_cons_self, doubled_cons_self] at h
        obtain ⟨hname, hend⟩ := ih (List.cons.inj (List.cons.inj h).2).2
        exact ⟨by rw [hc, hd, hname], hend⟩
      · rw [hc, doubled_cons_self, doubled_cons_of_ne hd] at h
        exact absurd (List.cons.inj h).1.symm hd
      · rw [hd, doubled_cons_self, doubled_cons_of_ne hc] at h
        exact absurd (List.cons.inj h).1 hc
      · rw [doubled_cons_of_ne hc, doubled_cons_of_ne hd] at h
        obtain ⟨hname, hend⟩ := ih (List.cons.inj h).2
        exact ⟨by rw [(List.cons.inj h).1, hname], hend⟩

/-- A plain word does not begin with a quote. -/
theorem plain_append_ne_quoted {name other rest more : List Char}
    (hname : isPlainForm name = true) :
    name ++ rest ≠ quoted dialect.quote other ++ more := by
  cases name with
  | nil => exact nomatch hname
  | cons c name =>
    intro h
    have hc : isPlainChar c = true := isPlainChar_of_isPlainForm hname c List.mem_cons_self
    rw [(List.cons.inj h).1, dialect.isPlainChar_quote] at hc
    exact nomatch hc

theorem head?_ne_quote (h : rest.head?.any dialect.continuesIdentifier = false) :
    rest.head? ≠ some dialect.quote := by
  intro hquote
  simp [hquote, continuesIdentifier] at h

/-- A plain word ends where the first other character stands. -/
theorem takeWhile_isPlainChar_append (leaves : dialect.leavesPlain = true)
    (hname : isPlainForm name = true) (h : rest.head?.any dialect.continuesIdentifier = false) :
    (name ++ rest).takeWhile isPlainChar = name := by
  rw [List.takeWhile_append_of_pos (isPlainChar_of_isPlainForm hname)]
  cases rest with
  | nil => simp
  | cons c cs =>
    have hc : isPlainChar c = false := by
      simp only [List.head?_cons, Option.any_some, continuesIdentifier, leaves, Bool.true_and,
        Bool.or_eq_false_iff] at h
      exact h.2
    simp [hc]

/-- A text begins with one identifier only. -/
theorem Spelled.eq_of_append_eq {other text' more : List Char} (h : dialect.Spelled name text)
    (h' : dialect.Spelled other text') (hrest : rest.head?.any dialect.continuesIdentifier = false)
    (hmore : more.head?.any dialect.continuesIdentifier = false)
    (heq : text ++ rest = text' ++ more) : name = other ∧ rest = more := by
  cases h with
  | quoted =>
    cases h' with
    | quoted =>
      rw [Identifier.quoted, Identifier.quoted, List.append_assoc, List.append_assoc] at heq
      exact doubled_append_inj (head?_ne_quote hrest) (head?_ne_quote hmore) (List.cons.inj heq).2
    | plain leaves form => exact absurd heq.symm (plain_append_ne_quoted form)
  | plain leaves form =>
    cases h' with
    | quoted => exact absurd heq (plain_append_ne_quoted form)
    | plain _ form' =>
      have hname : name = other := by
        rw [← takeWhile_isPlainChar_append leaves form hrest, heq,
          takeWhile_isPlainChar_append leaves form' hmore]
      rw [hname] at heq
      exact ⟨hname, List.append_cancel_left heq⟩

/-- **A text begins with one path only**, whatever follows it that neither its last identifier nor
the path itself goes on with. -/
theorem IsPath.eq_of_append_eq {others : List (List Char)} {text' more : List Char}
    (h : dialect.IsPath names text) (h' : dialect.IsPath others text')
    (hrest : dialect.EndsPath rest) (hmore : dialect.EndsPath more)
    (heq : text ++ rest = text' ++ more) : names = others ∧ rest = more := by
  have hdot (cs : List Char) : ('.' :: cs).head?.any dialect.continuesIdentifier = false :=
    dialect.continuesIdentifier_dot
  induction h generalizing others text' with
  | last spelled =>
    cases h' with
    | last spelled' =>
      obtain ⟨hname, hend⟩ := spelled.eq_of_append_eq spelled' hrest.1 hmore.1 heq
      exact ⟨by rw [hname], hend⟩
    | cons spelled' rest' =>
      rw [List.append_assoc] at heq
      obtain ⟨-, hend⟩ := spelled.eq_of_append_eq spelled' hrest.1 (hdot _) heq
      exact absurd (hend ▸ rfl) hrest.2
  | cons spelled _ ih =>
    rw [List.append_assoc] at heq
    cases h' with
    | last spelled' =>
      obtain ⟨-, hend⟩ := spelled.eq_of_append_eq spelled' (hdot _) hmore.1 heq
      exact absurd (hend ▸ rfl) hmore.2
    | cons spelled' rest' =>
      rw [List.append_assoc] at heq
      obtain ⟨hname, hend⟩ := spelled.eq_of_append_eq spelled' (hdot _) (hdot _) heq
      obtain ⟨hnames, hlast⟩ := ih rest' (List.cons.inj hend).2
      exact ⟨by rw [hname, hnames], hlast⟩

/-! ## Paths without their quotes -/

theorem isQuote_quote (dialect : Dialect) : isQuote dialect.quote = true := by
  cases dialect <;> rfl

theorem quote_not_mem (dialect : Dialect) (h : ∀ c ∈ name, isQuote c = false) :
    dialect.quote ∉ name :=
  fun hmem => nomatch (h _ hmem).symm.trans dialect.isQuote_quote

/-- A text that begins and ends with characters that are not blank. -/
def HasEdges (text : List Char) : Prop :=
  ∃ first last, text.head? = some first ∧ text.getLast? = some last ∧ isBlank first = false ∧
    isBlank last = false

theorem HasEdges.trimL_eq_self (h : HasEdges text) : trimL text = text := by
  obtain ⟨first, last, hfirst, hlast, hfront, hback⟩ := h
  exact Text.trimL_eq_self (by rw [hfirst]; exact hfront) (by rw [hlast]; exact hback)

theorem hasEdges_of_forall (hsome : text ≠ []) (h : ∀ c ∈ text, isBlank c = false) :
    HasEdges text :=
  ⟨text.head hsome, text.getLast hsome, List.head?_eq_some_head hsome,
    List.getLast?_eq_some_getLast hsome, h _ (List.head_mem hsome), h _ (List.getLast_mem hsome)⟩

theorem Spelled.hasEdges (h : dialect.Spelled name text) : HasEdges text := by
  cases h with
  | quoted =>
    have hblank : isBlank dialect.quote = false := by cases dialect <;> rfl
    exact ⟨dialect.quote, dialect.quote, rfl, List.getLast?_concat, hblank, hblank⟩
  | plain leaves form =>
    have hsome : name ≠ [] := by
      rintro rfl
      exact nomatch form
    exact hasEdges_of_forall hsome fun c hc =>
      isBlank_eq_false_of_isPlainChar (isPlainChar_of_isPlainForm form c hc)

theorem IsPath.hasEdges (h : dialect.IsPath names text) : HasEdges text := by
  induction h with
  | last spelled => exact spelled.hasEdges
  | cons spelled _ ih =>
    obtain ⟨first, _, hfirst, -, hfront, -⟩ := spelled.hasEdges
    obtain ⟨_, last, -, hlast, -, hback⟩ := ih
    exact ⟨first, last, by simp [hfirst], by simp [List.getLast?_cons, hlast], hfront, hback⟩

/-- Of an identifier, nothing but the quotes around it is lost with the quotes, if there are none in
its name. -/
theorem Spelled.filter_eq (h : dialect.Spelled name text) (hname : ∀ c ∈ name, isQuote c = false) :
    text.filter (!isQuote ·) = name := by
  have hkept : name.filter (!isQuote ·) = name :=
    List.filter_eq_self.2 fun c hc => by simp [hname c hc]
  cases h with
  | quoted =>
    rw [Identifier.quoted, doubled_eq_self (dialect.quote_not_mem hname)]
    simp [hkept, dialect.isQuote_quote]
  | plain => exact hkept

/-- A path without its quotes is its names with dots between them, if there are no quotes in the
names. -/
theorem IsPath.unquoteL_eq (h : dialect.IsPath names text)
    (hnames : ∀ name ∈ names, ∀ c ∈ name, isQuote c = false) :
    unquoteL text = ['.'].intercalate names := by
  rw [unquoteL, h.hasEdges.trimL_eq_self]
  induction h with
  | last spelled =>
    rw [List.intercalate_singleton]
    exact spelled.filter_eq (hnames _ List.mem_cons_self)
  | @cons name text names more spelled rest ih =>
    have hrest := ih fun other hother => hnames other (List.mem_cons_of_mem name hother)
    have hfirst := spelled.filter_eq (hnames name List.mem_cons_self)
    have hdot : ('.' :: more).filter (!isQuote ·) = '.' :: more.filter (!isQuote ·) := rfl
    rw [List.filter_append, hfirst, hdot, hrest]
    cases rest <;> simp [List.intercalate_cons_cons]

/-! ## Paths that were written -/

/-- What was written for a path is read as this path. -/
theorem readPath?_formatPath (dialect : Dialect) {path : List String} (hsome : path ≠ []) :
    dialect.readPath? (dialect.formatPath path) = some path := by
  rw [readPath?, readPathFrom_start_iff.2 (dialect.isPath_formatPath hsome), Option.map_some,
    List.map_map]
  simp [Function.comp_def]

/-- What a path that was written means as a name in a query: its names with dots between them. -/
theorem unquote_formatPath (dialect : Dialect) {path : List String} (hsome : path ≠ [])
    (hnames : ∀ name ∈ path, ∀ c ∈ name.toList, isQuote c = false) :
    unquote (dialect.formatPath path) = joinDots path := by
  refine String.toList_inj.1 ?_
  have hpath := dialect.isPath_formatPath hsome
  rw [unquote, String.toList_ofList, toList_joinDots]
  exact hpath.unquoteL_eq (List.forall_mem_map.2 hnames)

/-- **A path that was written is read as the names it was written for**, none left out and nothing
left over, so no two paths are written alike.  Nor does it matter what follows in the query: no
name, whatever its characters, closes its own quotes or goes on behind them. -/
theorem formatPath_decodes (dialect : Dialect) {path : List String} (hsome : path ≠ []) :
    dialect.readPath? (dialect.formatPath path) = some path ∧
    (∀ other, dialect.formatPath other = dialect.formatPath path → other = path) ∧
    ∀ names text rest more, dialect.IsPath names text → dialect.EndsPath rest →
      dialect.EndsPath more → text ++ rest = (dialect.formatPath path).toList ++ more →
        names = path.map String.toList ∧ rest = more := by
  have hread := dialect.readPath?_formatPath hsome
  refine ⟨hread, fun other h => ?_, fun names text rest more hpath hrest hmore h => ?_⟩
  · rw [← h] at hread
    by_cases hother : other = []
    · rw [hother] at hread
      exact nomatch hread
    · exact Option.some.inj ((dialect.readPath?_formatPath hother).symm.trans hread)
  · exact hpath.eq_of_append_eq (dialect.isPath_formatPath hsome) hrest hmore h

/-- An empty name, a name with a quote, one with a dot, a reserved word and a plain word. -/
theorem formatPath_decodes_quotes :
    ["", "a\"b", "c.d", "user", "id"] ≠ [] ∧
    Dialect.postgresql.formatPath ["", "a\"b", "c.d", "user", "id"] =
      "\"\".\"a\"\"b\".\"c.d\".\"user\".id" ∧
    Dialect.postgresql.readPath?
      (Dialect.postgresql.formatPath ["", "a\"b", "c.d", "user", "id"]) =
        some ["", "a\"b", "c.d", "user", "id"] :=
  have hsome : ["", "a\"b", "c.d", "user", "id"] ≠ [] := by decide
  ⟨hsome, by decide +kernel, (formatPath_decodes .postgresql hsome).1⟩

end Dialect

end QueryAssist
