import QueryAssist.Proofs.Text.Distinct
import QueryAssist.Suggestion.Ranking

/-!
# What stays in a completion list

* `filter_mergeSort` — sorting leaves entries that may stand in either order as they are.
* `pairwise_select` — the entries that are selected are in order and have distinct labels.
* `exists_rank_eq` — a list is made of such entries; `exists_mem_rank_iff` says that without a limit
  no label that begins with the word is missing.
* `mem_rank_iff` — where the label decides the tier, an entry stays in the list if and only if it is
  the first one of its label that was offered.
-/

namespace QueryAssist

namespace Suggestion

open Text

/-! ## Sorting -/

theorem before_trans (a b c : Suggestion) (hab : before a b = true) (hbc : before b c = true) :
    before a c = true := by
  simp only [before, decide_eq_true_eq] at hab hbc ⊢
  exact String.le_trans hab hbc

theorem before_total (a b : Suggestion) : (before a b || before b a) = true := by
  simpa [before] using String.le_total a.sortText b.sortText

theorem before_of_sortText_eq {a b : Suggestion} (h : a.sortText = b.sortText) :
    before a b = true := by
  simp [before, h]

/-- Sorting leaves entries that may stand in either order as they are. -/
theorem filter_mergeSort {items : List Suggestion} {p : Suggestion → Bool}
    (h : ∀ a ∈ items, ∀ b ∈ items, p a → p b → before a b = true) :
    (items.mergeSort before).filter p = items.filter p := by
  have hpairwise : (items.filter p).Pairwise (before · · = true) := by
    refine List.pairwise_of_forall_mem_list fun a ha b hb => ?_
    obtain ⟨ha, hpa⟩ := List.mem_filter.1 ha
    obtain ⟨hb, hpb⟩ := List.mem_filter.1 hb
    exact h a ha b hb hpa hpb
  have hsublist : (items.filter p).Sublist (items.mergeSort before) :=
    List.sublist_mergeSort before_trans before_total hpairwise List.filter_sublist
  have hfiltered : (items.filter p).Sublist ((items.mergeSort before).filter p) := by
    simpa [List.filter_filter] using hsublist.filter p
  -- the order among them is kept since the sort is stable; none is missing since it permutes
  have hlength := ((List.mergeSort_perm items before).filter p).length_eq
  exact (hfiltered.eq_of_length hlength.symm).symm

theorem pairwise_mergeSort (items : List Suggestion) :
    (items.mergeSort before).Pairwise (·.sortText ≤ ·.sortText) :=
  (List.pairwise_mergeSort before_trans before_total items).imp fun h => by simpa [before] using h

/-! ## The list -/

theorem select_sublist (items : List Suggestion) (word : String) :
    (select items word).Sublist (items.mergeSort before) :=
  List.filter_sublist.trans (distinctBy_sublist _)

/-- The entries that are selected are in order, and no two have one label. -/
theorem pairwise_select (items : List Suggestion) (word : String) :
    (select items word).Pairwise fun a b => a.sortText ≤ b.sortText ∧ a.label ≠ b.label :=
  ((pairwise_mergeSort items).sublist (select_sublist items word)).and
    ((pairwise_distinctBy _).sublist List.filter_sublist)

theorem hasWord_congr {word : String} {a b : Suggestion} (h : a.label = b.label) :
    hasWord word a = hasWord word b := by
  rw [hasWord, hasWord, h]

/-- Every label that was offered and begins with the word is selected, and no other. -/
theorem exists_mem_select_iff {items : List Suggestion} {word label : String} :
    (∃ listed ∈ select items word, listed.label = label) ↔
      ∃ item ∈ items, item.label = label ∧ hasWord word item = true := by
  constructor
  · rintro ⟨listed, hlisted, hlabel⟩
    have hitem := List.mem_mergeSort.1 ((select_sublist items word).mem hlisted)
    exact ⟨listed, hitem, hlabel, (List.mem_filter.1 hlisted).2⟩
  · rintro ⟨item, hitem, hlabel, hword⟩
    have hsorted : item ∈ items.mergeSort before := List.mem_mergeSort.2 hitem
    obtain ⟨listed, hlisted, hsame⟩ : ∃ listed ∈ distinctBy Suggestion.label
        (items.mergeSort before), listed.label = item.label := exists_mem_distinctBy hsorted
    refine ⟨listed, List.mem_filter.2 ⟨hlisted, ?_⟩, hsame.trans hlabel⟩
    rw [hasWord_congr hsame, hword]

/-- With no limit, every label that was offered and begins with the word is listed, and no other. -/
theorem exists_mem_rank_iff {items : List Suggestion} {word label : String} {span : Option Span} :
    (∃ listed ∈ rank items word span none, listed.label = label) ↔
      ∃ item ∈ items, item.label = label ∧ hasWord word item = true := by
  rw [← exists_mem_select_iff]
  constructor
  · rintro ⟨listed, hlisted, hlabel⟩
    obtain ⟨own, hown, rfl⟩ := List.mem_map.1 hlisted
    exact ⟨own, hown, hlabel⟩
  · rintro ⟨own, hown, hlabel⟩
    exact ⟨replacing span own, List.mem_map_of_mem hown, hlabel⟩

/-- A list is made of entries that are selected, with the span to replace. -/
theorem exists_rank_eq (items : List Suggestion) (word : String) (span : Option Span)
    (limit : Option Nat) :
    ∃ kept : List Suggestion, kept.Sublist (select items word) ∧
      rank items word span limit = kept.map (replacing span) := by
  cases limit with
  | none => exact ⟨_, List.Sublist.refl _, rfl⟩
  | some count => exact ⟨_, List.take_sublist count _, rfl⟩

/-- With no word, no span and no limit, a list has every entry that is the first of its label in the
sorted order. -/
theorem mem_rank_iff_mergeSort {items : List Suggestion} {item : Suggestion} :
    item ∈ rank items "" none none ↔
      (items.mergeSort before).find? (·.label == item.label) = some item := by
  have hword (xs : List Suggestion) : xs.filter (hasWord "") = xs :=
    List.filter_eq_self.2 fun _ _ => rfl
  have hspan : replacing none = id := rfl
  rw [rank, select, hword, hspan, Option.map_none, Option.getD_none, List.map_id]
  exact mem_distinctBy_iff

/-- **Where the label of an entry decides its place, the first entry of every label stays**, in the
order in which they were offered. -/
theorem mem_rank_iff {items : List Suggestion} {item : Suggestion}
    (hplace : ∀ a ∈ items, ∀ b ∈ items, a.label = b.label → a.sortText = b.sortText) :
    item ∈ rank items "" none none ↔ items.find? (·.label == item.label) = some item := by
  have hfilter : (items.mergeSort before).filter (·.label == item.label) =
      items.filter (·.label == item.label) :=
    filter_mergeSort fun a ha b hb hpa hpb =>
      before_of_sortText_eq (hplace a ha b hb ((eq_of_beq hpa).trans (eq_of_beq hpb).symm))
  rw [mem_rank_iff_mergeSort, ← List.head?_filter, ← List.head?_filter, hfilter]

/-- With no word, no span and no limit, nothing is listed but what was offered. -/
theorem mem_of_mem_rank {items : List Suggestion} {item : Suggestion}
    (h : item ∈ rank items "" none none) : item ∈ items :=
  List.mem_mergeSort.1 (List.mem_of_find?_eq_some (mem_rank_iff_mergeSort.1 h))

end Suggestion

end QueryAssist
