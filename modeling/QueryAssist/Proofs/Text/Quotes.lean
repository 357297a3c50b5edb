import QueryAssist.Proofs.Text.Blank
import QueryAssist.Text.Quotes

/-!
# What is left without quotes

* `mem_of_mem_unquoteL` — dropping blanks and quotes brings in nothing new.
* `trimL_eq_self` — a text that neither begins nor ends with a blank is not shortened.
* `unquoteL_eq_self` — a text without blanks and quotes stays as it is.
* `unquoteL_map` — a map of characters that keeps blanks and quotes keeps what is left.
-/

namespace QueryAssist.Text

variable {cs : List Char}

theorem mem_of_mem_trimL {c : Char} (h : c ∈ trimL cs) : c ∈ cs := by
  have hend := (List.dropWhile_sublist isBlank).mem (List.mem_reverse.1 h)
  exact (List.dropWhile_sublist isBlank).mem (List.mem_reverse.1 hend)

theorem mem_of_mem_unquoteL {c : Char} (h : c ∈ unquoteL cs) : c ∈ cs :=
  mem_of_mem_trimL (List.mem_filter.1 h).1

theorem dropWhile_isBlank_eq_self (h : cs.head?.any isBlank = false) :
    cs.dropWhile isBlank = cs := by
  cases cs with
  | nil => rfl
  | cons c cs =>
    have hc : isBlank c = false := h
    rw [List.dropWhile_cons, if_neg (by simp [hc])]

/-- Nothing is trimmed off between two characters that are not blank. -/
theorem trimL_eq_self (hfirst : cs.head?.any isBlank = false)
    (hlast : cs.getLast?.any isBlank = false) : trimL cs = cs := by
  rw [← List.head?_reverse] at hlast
  rw [trimL, dropWhile_isBlank_eq_self hfirst, dropWhile_isBlank_eq_self hlast,
    List.reverse_reverse]

theorem trimL_eq_self_of_forall (h : ∀ c ∈ cs, isBlank c = false) : trimL cs = cs := by
  refine trimL_eq_self ?_ ?_
  · cases hhead : cs.head? with
    | none => rfl
    | some c => exact h c (List.mem_of_head? hhead)
  · cases hlast : cs.getLast? with
    | none => rfl
    | some c => exact h c (List.mem_of_getLast? hlast)

theorem unquoteL_eq_self (hblank : ∀ c ∈ cs, isBlank c = false)
    (hquote : ∀ c ∈ cs, isQuote c = false) : unquoteL cs = cs := by
  rw [unquoteL, trimL_eq_self_of_forall hblank]
  exact List.filter_eq_self.2 fun c hc => by simp [hquote c hc]

theorem unquoteL_map {f : Char → Char} (hblank : ∀ c, isBlank (f c) = isBlank c)
    (hquote : ∀ c, isQuote (f c) = isQuote c) (cs : List Char) :
    unquoteL (cs.map f) = (unquoteL cs).map f := by
  rw [unquoteL, unquoteL, trimL_map hblank, List.filter_map]
  congr 2
  funext c
  simp [hquote]

end QueryAssist.Text
