import QueryAssist.Proofs.Query.Context

/-!
# What is expected in a clause

What a text leads one to expect is read off the last clause keyword, unless a call is open.

* `clauseContext_of_none`, `clauseContext_of_some`, `clauseContext_of_unknown` — without a keyword,
  in the clause of one, and behind one that stands for no clause; `clauseContext_clause` says which
  clause it is.
* `contextKind_mem_kinds` — what clauses ask for, and `clauseContext_ne_function`: no argument of a
  function.
* `kind_eq_function_iff` — such an argument is expected exactly where a call is open.
-/

namespace QueryAssist

open Text

/-! ## The clause of a text -/

section

variable {before : List Char} {found : Match} {clause : Clause}

theorem clauseContext_of_none (h : Clause.lastKeyword? before = none) :
    clauseContext before = (.keyword, none) := by
  unfold clauseContext
  rw [h]

theorem clauseContext_of_some (h : Clause.lastKeyword? before = some found)
    (hclause : Clause.ofLabel? (Clause.label found.text) = some clause) :
    clauseContext before =
      (clause.contextKind found.after before, some (Clause.label found.text)) := by
  unfold clauseContext
  simp only [h, hclause]

theorem clauseContext_of_unknown (h : Clause.lastKeyword? before = some found)
    (hclause : Clause.ofLabel? (Clause.label found.text) = none) :
    clauseContext before = (.unknown, some (Clause.label found.text)) := by
  unfold clauseContext
  simp only [h, hclause]

/-- The clause is that of the last keyword, whatever it stands for. -/
theorem clauseContext_clause (before : List Char) :
    (clauseContext before).2 = (Clause.lastKeyword? before).map (Clause.label ·.text) := by
  cases hfound : Clause.lastKeyword? before with
  | none => rw [clauseContext_of_none hfound]; rfl
  | some found =>
    cases hclause : Clause.ofLabel? (Clause.label found.text) with
    | none => rw [clauseContext_of_unknown hfound hclause]; rfl
    | some clause => rw [clauseContext_of_some hfound hclause]; rfl

end

/-! ## What clauses ask for -/

/-- What the clauses ask for. -/
def Clause.kinds : List ContextKind :=
  [.selectStart, .selectComplete, .column, .source, .condition]

theorem Clause.contextKind_mem_kinds (clause : Clause) (following before : List Char) :
    clause.contextKind following before ∈ kinds := by
  cases clause <;> simp only [contextKind]
  case select =>
    by_cases hblank : isAllBlank following = true
    · rw [if_pos hblank]
      decide
    · rw [if_neg hblank]
      split <;> decide
  case join => split <;> decide
  all_goals decide

/-- A kind that no clause asks for is not that of a clause. -/
theorem Clause.contextKind_ne {kind : ContextKind} (h : kind ∉ kinds) (clause : Clause)
    (following before : List Char) : clause.contextKind following before ≠ kind := by
  intro hkind
  apply h
  rw [← hkind]
  exact clause.contextKind_mem_kinds following before

/-- No clause asks for the argument of a function. -/
theorem clauseContext_ne_function (before : List Char) : (clauseContext before).1 ≠ .function := by
  cases hfound : Clause.lastKeyword? before with
  | none => simp [clauseContext_of_none hfound]
  | some found =>
    cases hclause : Clause.ofLabel? (Clause.label found.text) with
    | none => simp [clauseContext_of_unknown hfound hclause]
    | some clause =>
      rw [clauseContext_of_some hfound hclause]
      exact clause.contextKind_ne (by decide) found.after before

/-! ## Clauses and calls -/

namespace QueryContext

variable (text : String) (cursor : Position)

/-- What is expected is what the clause asks for, or the argument of a function. -/
theorem kind_eq_or_function :
    (parse text cursor).kind = (clauseContext (preceding text.toList cursor)).1 ∨
      (parse text cursor).kind = .function := by
  rw [parse_kind]
  split
  · exact .inr rfl
  · exact .inl rfl

/-- The argument of a function is expected exactly where a call is open. -/
theorem kind_eq_function_iff :
    (parse text cursor).kind = .function ↔
      insideOpenCall (preceding text.toList cursor) = true := by
  rw [parse_kind]
  split
  · next hopen => simp [hopen]
  · next hclosed => simp [hclosed, clauseContext_ne_function]

end QueryContext

end QueryAssist
