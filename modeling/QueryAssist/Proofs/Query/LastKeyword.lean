import QueryAssist.Proofs.Query.ClauseLabel

/-!
# Behind the last clause keyword

The clause of a context is that of the last keyword before the cursor.  The text behind this keyword
is searched once more, on its own, and there is nothing to be found in it.

* `exists_front_of_lastKeyword?` — the last keyword stands in the text, and no keyword can be read
  from any place behind it.
* `occursIn_after_eq_false` — nor when the text is cut there, since no word goes over the cut.
* `occursIn_loneWord_eq_false` — so none of the keywords of one word stands there either.
* `IsDecidedBy`, `parse_isDecidedBy` — **where a context has a clause, no keyword stands behind the one
  of the clause, so in a join a table is expected and never a condition.**
-/

namespace QueryAssist

open Text Query

namespace Clause

/-! ## The text behind it -/

section

variable {last : Option Char} {before cs : List Char} {found : Match} {word : String}

/-- **The last keyword stands in the text, and from no place behind it another one can be read.** -/
theorem exists_front_of_lastKeyword? (h : lastKeyword? before = some found) :
    ∃ front, before = front ++ (found.text ++ found.after) ∧
      keyword.matchAt front.getLast? (found.text ++ found.after) = some found ∧
      ∀ passed rest, found.after = passed ++ rest →
        keyword.matchAt (passed.getLast?.or found.text.getLast?) rest = none := by
  obtain ⟨earlier, hall⟩ := List.getLast?_eq_some_iff.1 h
  obtain ⟨front, hbefore, hmatch, hnothing⟩ :=
    Pattern.scan_eq_append_cons neverEmpty_keyword hall
  rw [Option.or_none] at hmatch
  exact ⟨front, hbefore, hmatch, Pattern.scan_eq_nil_iff.1 hnothing.symm⟩

/-- **The text behind the last keyword has no keyword in it when it is cut off there**: the cut is at
the edge of a word. -/
theorem occursIn_after_eq_false (h : lastKeyword? before = some found) :
    keyword.occursIn found.after = false := by
  obtain ⟨front, -, hmatch, hnothing⟩ := exists_front_of_lastKeyword? h
  have hedge := (readsKeyword_of_matchAt hmatch).after
  rw [Pattern.occursIn_eq_false_iff]
  intro passed rest hafter
  cases hlast : passed.getLast? with
  | none =>
    -- at the cut itself no word begins
    rw [List.getLast?_eq_none_iff.1 hlast, List.nil_append] at hafter
    rw [hafter] at hedge
    exact matchAt_eq_none (.inr hedge)
  | some c =>
    have hplace := hnothing passed rest hafter
    rwa [hlast] at hplace

/-- Where no clause keyword can be read, none of one word stands as a word of its own. -/
theorem matchAt_loneWord_eq_none (hword : word ∈ loneKeywords)
    (h : keyword.matchAt last cs = none) : (loneWord word).matchAt last cs = none := by
  rw [Option.eq_none_iff_forall_ne_some]
  intro m hm
  obtain ⟨stop, hstop, -, -⟩ := Pattern.exists_stop_of_matchAt hm
  obtain ⟨m', hm'⟩ := Pattern.exists_matchAt_of_mem_ends (mem_ends_of_loneKeyword hword hstop)
  exact nomatch h.symm.trans hm'

theorem occursIn_loneWord_eq_false (hword : word ∈ loneKeywords)
    (h : keyword.occursIn cs = false) : (loneWord word).occursIn cs = false := by
  rw [Pattern.occursIn_eq_false_iff] at h ⊢
  intro front rest hcs
  exact matchAt_loneWord_eq_none hword (h front rest hcs)

/-! ## Joins -/

/-- Whether a clause keyword opens a join. -/
def IsJoin (m : Match) : Prop :=
  "JOIN".toList <:+ (label m.text).toList

instance (m : Match) : Decidable (IsJoin m) :=
  inferInstanceAs (Decidable (_ <:+ _))

/-- The last join keyword of a text. -/
def lastJoin? (before : List Char) : Option Match :=
  ((keyword.findAll before).filter (IsJoin ·)).getLast?

/-- If the last keyword opens a join, it is the last one that does. -/
theorem lastJoin?_of_isJoin (h : lastKeyword? before = some found) (hjoin : IsJoin found) :
    lastJoin? before = some found := by
  obtain ⟨earlier, hall⟩ := List.getLast?_eq_some_iff.1 h
  simp [lastJoin?, hall, hjoin]

/-- A table is expected behind a join keyword that is the last one. -/
theorem contextKind_join_after (h : lastKeyword? before = some found) :
    join.contextKind found.after before = .source := by
  have hnone : joinConditionKeyword.occursIn found.after = false :=
    occursIn_loneWord_eq_false (by decide) (occursIn_after_eq_false h)
  simp [contextKind, hnone]

end

end Clause

/-! ## The context -/

/-- What the last clause keyword of a text says of the context behind the text. -/
structure IsDecidedBy (before : List Char) (found : Match) (context : QueryContext) : Prop where
  /-- the keyword stands in the text, and from no place behind it another one can be read -/
  last : ∃ front, before = front ++ (found.text ++ found.after) ∧
    ∀ passed rest, found.after = passed ++ rest →
      Clause.keyword.matchAt (passed.getLast?.or found.text.getLast?) rest = none
  /-- it is the keyword of the clause -/
  clause : context.clause = some (Clause.label found.text)
  /-- in the text behind it no keyword is found -/
  keyword : Clause.keyword.occursIn found.after = false
  /-- in particular no `FROM` -/
  source : Clause.sourceKeyword.occursIn found.after = false
  /-- and no `ON` -/
  joinCondition : Clause.joinConditionKeyword.occursIn found.after = false
  /-- in a join a table is expected, or the argument of a function -/
  join : Clause.IsJoin found → context.kind = .source ∨ context.kind = .function
  /-- a text whose last join has an `ON` behind it is in another clause -/
  joined : ∀ other, Clause.lastJoin? before = some other →
    Clause.joinConditionKeyword.occursIn other.after = true → ¬ Clause.IsJoin found

namespace QueryContext

/-- **Where a context has a clause, no keyword stands behind the one of the clause**, whatever the text
and the position of the cursor; so in a join a table is expected and never a condition. -/
theorem parse_isDecidedBy {text : String} {cursor : Position} {found : Match}
    (h : Clause.lastKeyword? (preceding text.toList cursor) = some found) :
    IsDecidedBy (preceding text.toList cursor) found (parse text cursor) := by
  have hclause := parse_clause text cursor
  have hchoice := kind_eq_or_function text cursor
  have hnone := Clause.occursIn_after_eq_false h
  constructor
  case last =>
    obtain ⟨front, hbefore, -, hnothing⟩ := Clause.exists_front_of_lastKeyword? h
    exact ⟨front, hbefore, hnothing⟩
  case clause => rw [hclause, clauseContext_clause, h, Option.map_some]
  case keyword => exact hnone
  case source => exact Clause.occursIn_loneWord_eq_false (by decide) hnone
  case joinCondition => exact Clause.occursIn_loneWord_eq_false (by decide) hnone
  case join =>
    intro hjoin
    rw [clauseContext_of_some h (Clause.ofLabel?_of_suffix hjoin),
      Clause.contextKind_join_after h] at hchoice
    exact hchoice
  case joined =>
    intro other hother hcondition hjoin
    rw [Clause.lastJoin?_of_isJoin h hjoin] at hother
    obtain rfl := Option.some.inj hother
    have hmissing : Clause.joinConditionKeyword.occursIn found.after = false :=
      Clause.occursIn_loneWord_eq_false (by decide) hnone
    exact nomatch hmissing.symm.trans hcondition

/-- A join whose condition is being typed. -/
theorem parse_isDecidedBy_on :
    let text := "SELECT * FROM a LEFT JOIN b ON a.id"
    let before := preceding text.toList (endPosition text)
    ∃ found, Clause.lastKeyword? before = some found ∧ found.text = "ON".toList ∧
      (Clause.lastJoin? before).any (Clause.joinConditionKeyword.occursIn ·.after) = true ∧
      IsDecidedBy before found (parse text (endPosition text)) := by
  intro text before
  have hlast : (Clause.lastKeyword? before).map (·.text) = some "ON".toList := by decide +kernel
  obtain ⟨found, hfound, htext⟩ := Option.map_eq_some_iff.1 hlast
  exact ⟨found, hfound, htext, by decide +kernel, parse_isDecidedBy hfound⟩

end QueryContext

end QueryAssist
