import QueryAssist.Text.Distinct

/-!
# What stays of elements with one name

* `mem_distinctBy_iff` — of the elements with one name the first one stays, and no other.
* `distinctFrom_eq_filter` — the elements that stay are those with no namesake before them.
* `distinctFrom_append`, `distinctFrom_distinctFrom` — what stays of two lists, and of what has
  stayed before.
* `distinctBy_map` — it makes no difference whether a name is taken before or after a mapping.
* `find?_eq_some_iff_of_pairwise` — in an ordered list the first element with a property is the one
  that stands before all others with it.
-/

namespace QueryAssist.Text

variable {α : Type} {name : α → String}

/-! ## Elements with distinct names -/

theorem mem_distinctFrom_iff {seen : List String} {xs : List α} {x : α} :
    x ∈ distinctFrom name seen xs ↔
      name x ∉ seen ∧ xs.find? (name · == name x) = some x := by
  induction xs generalizing seen with
  | nil => simp [distinctFrom]
  | cons y ys ih =>
    rw [distinctFrom]
    by_cases hname : name y = name x
    · have hfind : (y :: ys).find? (name · == name x) = some y :=
        List.find?_cons_of_pos (by simpa using hname)
      rw [hfind, hname]
      split
      · next hseen => simp [ih, hseen]
      · next hseen =>
        rw [List.mem_cons, ih]
        simp [hseen, eq_comm]
    · have hfind : (y :: ys).find? (name · == name x) = ys.find? (name · == name x) :=
        List.find?_cons_of_neg (by simpa using hname)
      rw [hfind]
      split
      · exact ih
      · have hne : x ≠ y := fun heq => hname (heq ▸ rfl)
        have hnot : name x ≠ name y := fun heq => hname heq.symm
        rw [List.mem_cons, ih]
        simp [hne, hnot]

/-- **An element stays if and only if it is the first one with its name.** -/
theorem mem_distinctBy_iff {xs : List α} {x : α} :
    x ∈ distinctBy name xs ↔ xs.find? (name · == name x) = some x := by
  rw [distinctBy, mem_distinctFrom_iff]
  simp

/-- It only matters which names have been seen, not in which order. -/
theorem distinctFrom_congr {seen seen' : List String} (h : ∀ n, n ∈ seen ↔ n ∈ seen')
    (xs : List α) : distinctFrom name seen xs = distinctFrom name seen' xs := by
  induction xs generalizing seen seen' with
  | nil => rfl
  | cons x xs ih =>
    have hmore : ∀ n, n ∈ name x :: seen ↔ n ∈ name x :: seen' := by
      intro n
      rw [List.mem_cons, List.mem_cons, h n]
    simp only [distinctFrom, h (name x)]
    rw [ih h, ih hmore]

/-- A name that has been seen makes no difference when it is seen again. -/
theorem distinctFrom_cons_of_mem {seen : List String} {n : String} (h : n ∈ seen) (xs : List α) :
    distinctFrom name (n :: seen) xs = distinctFrom name seen xs :=
  distinctFrom_congr (fun _ => ⟨fun hm => (List.mem_cons.1 hm).elim (· ▸ h) id,
    List.mem_cons_of_mem n⟩) xs

/-- Behind some elements their names have been seen. -/
theorem distinctFrom_append (seen : List String) (xs ys : List α) :
    distinctFrom name seen (xs ++ ys) =
      distinctFrom name seen xs ++ distinctFrom name (xs.map name ++ seen) ys := by
  induction xs generalizing seen with
  | nil => rfl
  | cons x xs ih =>
    have hnames : distinctFrom name ((x :: xs).map name ++ seen) ys =
        distinctFrom name (xs.map name ++ name x :: seen) ys :=
      distinctFrom_congr (fun n => by simp [or_left_comm]) ys
    rw [List.cons_append, distinctFrom, distinctFrom, hnames]
    split
    · next hseen =>
      rw [← distinctFrom_cons_of_mem hseen (xs ++ ys), ih, distinctFrom_cons_of_mem hseen xs]
    · rw [ih, List.cons_append]

/-- To select twice is to select once, with the names seen in either round. -/
theorem distinctFrom_distinctFrom (seen seen' : List String) (xs : List α) :
    distinctFrom name seen (distinctFrom name seen' xs) = distinctFrom name (seen ++ seen') xs := by
  induction xs generalizing seen seen' with
  | nil => rfl
  | cons x xs ih =>
    have hmove : ∀ first : List String, distinctFrom name (first ++ name x :: seen') xs =
        distinctFrom name (name x :: (first ++ seen')) xs :=
      fun first => distinctFrom_congr (fun n => by simp [or_left_comm]) xs
    by_cases hseen' : name x ∈ seen'
    · rw [distinctFrom, if_pos hseen', ih, distinctFrom, if_pos (List.mem_append_right _ hseen')]
    rw [distinctFrom, if_neg hseen']
    by_cases hseen : name x ∈ seen
    · have hboth := List.mem_append_left seen' hseen
      rw [distinctFrom, if_pos hseen, ih, hmove, distinctFrom_cons_of_mem hboth, distinctFrom,
        if_pos hboth]
    · have hneither : name x ∉ seen ++ seen' := fun h => (List.mem_append.1 h).elim hseen hseen'
      rw [distinctFrom, if_neg hseen, ih, hmove, List.cons_append,
        distinctFrom_cons_of_mem List.mem_cons_self, distinctFrom, if_neg hneither]

/-- The names that stay are those that have not been seen before. -/
theorem mem_map_distinctFrom_iff {seen : List String} {xs : List α} {n : String} :
    n ∈ (distinctFrom name seen xs).map name ↔ n ∈ xs.map name ∧ n ∉ seen := by
  induction xs generalizing seen with
  | nil => simp [distinctFrom]
  | cons x xs ih =>
    rw [distinctFrom]
    split
    · next hseen =>
      rw [ih, List.map_cons, List.mem_cons]
      grind
    · next hseen =>
      rw [List.map_cons, List.mem_cons, ih, List.map_cons, List.mem_cons, List.mem_cons]
      grind

/-- **The elements that stay are those with no namesake before them**, in their order. -/
theorem distinctFrom_eq_filter (before xs : List α) :
    distinctFrom name (before.map name) xs =
      ((xs.zipIdx before.length).filter fun entry =>
        name entry.1 ∉ ((before ++ xs).take entry.2).map name).map (·.1) := by
  induction xs generalizing before with
  | nil => rfl
  | cons x xs ih =>
    have hnext := ih (before ++ [x])
    have hassoc : before ++ [x] ++ xs = before ++ x :: xs := by simp
    have htake : (before ++ x :: xs).take before.length = before := by simp
    rw [List.length_append, List.length_singleton, hassoc, List.map_append, List.map_singleton]
      at hnext
    have hseen : distinctFrom name (before.map name ++ [name x]) xs =
        distinctFrom name (name x :: before.map name) xs :=
      distinctFrom_congr (fun n => by simp [or_comm]) xs
    rw [List.zipIdx_cons, List.filter_cons, distinctFrom]
    simp only [htake]
    split
    · next hname =>
      rw [← distinctFrom_cons_of_mem hname, ← hseen, hnext]
      simp [hname]
    · next hname =>
      rw [← hseen, hnext]
      simp [hname]

theorem distinctFrom_sublist {seen : List String} {xs : List α} :
    (distinctFrom name seen xs).Sublist xs := by
  induction xs generalizing seen with
  | nil => exact List.Sublist.slnil
  | cons y ys ih =>
    rw [distinctFrom]
    split
    · exact ih.cons y
    · exact ih.cons_cons y

/-- The elements that stay keep their order. -/
theorem distinctBy_sublist (xs : List α) : (distinctBy name xs).Sublist xs :=
  distinctFrom_sublist

theorem pairwise_distinctFrom {seen : List String} {xs : List α} :
    (distinctFrom name seen xs).Pairwise fun a b => name a ≠ name b := by
  induction xs generalizing seen with
  | nil => exact List.Pairwise.nil
  | cons y ys ih =>
    rw [distinctFrom]
    split
    · exact ih
    · refine List.pairwise_cons.2 ⟨fun x hx heq => ?_, ih⟩
      exact (mem_distinctFrom_iff.1 hx).1 (heq ▸ List.mem_cons_self)

/-- No two elements that stay have one name. -/
theorem pairwise_distinctBy (xs : List α) :
    (distinctBy name xs).Pairwise fun a b => name a ≠ name b :=
  pairwise_distinctFrom

/-- Every name stays. -/
theorem exists_mem_distinctBy {xs : List α} {x : α} (hx : x ∈ xs) :
    ∃ y ∈ distinctBy name xs, name y = name x := by
  have hname : name x ∈ (distinctBy name xs).map name :=
    mem_map_distinctFrom_iff.2 ⟨List.mem_map_of_mem hx, List.not_mem_nil⟩
  exact List.mem_map.1 hname

theorem distinctFrom_map {β : Type} (f : β → α) (seen : List String) (xs : List β) :
    distinctFrom name seen (xs.map f) = (distinctFrom (name ∘ f) seen xs).map f := by
  induction xs generalizing seen with
  | nil => rfl
  | cons x xs ih =>
    simp only [List.map_cons, distinctFrom, Function.comp_apply]
    split
    · exact ih seen
    · rw [ih, List.map_cons]

/-- It makes no difference whether a name is taken before or after a mapping. -/
theorem distinctBy_map {β : Type} (f : β → α) (xs : List β) :
    distinctBy name (xs.map f) = (distinctBy (name ∘ f) xs).map f :=
  distinctFrom_map f [] xs

/-! ## Ordered lists -/

/-- **In an ordered list the first element with a property stands before all others with it.** -/
theorem find?_eq_some_iff_of_pairwise {R : α → α → Prop} {p : α → Bool} {xs : List α} {x : α}
    (asymm : ∀ a b, R a b → ¬ R b a) (ordered : xs.Pairwise R) (hx : x ∈ xs) :
    xs.find? p = some x ↔ p x = true ∧ ∀ y ∈ xs, p y = true → y = x ∨ R x y := by
  rw [List.find?_eq_some_iff_append]
  refine and_congr_right fun _ => ⟨?_, ?_⟩
  · rintro ⟨before, after, rfl, hbefore⟩ y hy hpy
    rcases List.mem_append.1 hy with hmem | hmem
    · exact absurd hpy (by simpa using hbefore y hmem)
    · rcases List.mem_cons.1 hmem with rfl | hafter
      · exact .inl rfl
      · exact .inr ((List.pairwise_cons.1 (List.pairwise_append.1 ordered).2.1).1 y hafter)
  · intro hfirst
    obtain ⟨before, after, rfl⟩ := List.append_of_mem hx
    refine ⟨before, after, rfl, fun y hy => ?_⟩
    have hyx : R y x := (List.pairwise_append.1 ordered).2.2 y hy x List.mem_cons_self
    rw [Bool.not_eq_true', ← Bool.not_eq_true]
    intro hpy
    rcases hfirst y (List.mem_append_left _ hy) hpy with rfl | hxy
    · exact asymm y y hyx hyx
    · exact asymm x y hxy hyx

end QueryAssist.Text
