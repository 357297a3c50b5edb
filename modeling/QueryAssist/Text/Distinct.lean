/-!
# Elements with distinct names

Of several elements with one name only the first is kept.
-/

namespace QueryAssist.Text

variable {α : Type}

/-- The elements whose name has not been seen before, in their order; `seen` holds the names that
count as seen from the start. -/
def distinctFrom (name : α → String) (seen : List String) : List α → List α
  | [] => []
  | x :: xs =>
    if name x ∈ seen then distinctFrom name seen xs
    else x :: distinctFrom name (name x :: seen) xs

/-- The first element of every name, in their order. -/
def distinctBy (name : α → String) (xs : List α) : List α :=
  distinctFrom name [] xs

end QueryAssist.Text
