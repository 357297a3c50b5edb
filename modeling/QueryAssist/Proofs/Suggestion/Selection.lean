import Mathlib.Data.List.Sort
import QueryAssist.Proofs.Suggestion.Ranking

/-!
# Which entries a completion list has

Ranking sorts, drops all but one entry of every label, filters by the word and cuts off.  This file
says without these steps which entries come out, and in which order.

* `Precedes` — the order of the list: by sort texts, and by the places among the entries that were
  offered where sort texts are equal.
* `Leads` — an entry that comes before all others with its label.
* `IsSelection` — the entries that lead and begin with the word, in their order.  There is only one
  such list, `IsSelection.eq`.
* `rank_exact` — **a completion list is that selection**, cut off at its limit and with the span to
  replace.
-/

namespace QueryAssist

open Text

namespace Suggestion

/-! ## Entries and their places -/

/-- Whether one entry comes before another, each with its place among those that were offered: by
its sort text, or by its place if they have one sort text. -/
def Precedes (a b : Suggestion × Nat) : Prop :=
  a.1.sortText < b.1.sortText ∨ a.1.sortText = b.1.sortText ∧ a.2 < b.2

theorem Precedes.asymm {a b : Suggestion × Nat} (hab : Precedes a b) : ¬ Precedes b a := by
  rintro (hlt | ⟨heq, hplace⟩)
  · rcases hab with hlt' | ⟨heq', -⟩
    · exact String.lt_asymm hlt hlt'
    · exact String.lt_irrefl _ (heq' ▸ hlt)
  · rcases hab with hlt' | ⟨-, hplace'⟩
    · exact String.lt_irrefl _ (heq ▸ hlt')
    · omega

instance : Std.Irrefl Precedes where
  irrefl _ h := h.asymm h

instance : Std.Antisymm Precedes where
  antisymm _ _ hab hba := (hab.asymm hba).elim

/-- Whether an entry comes before all others with its label. -/
def Leads (items : List Suggestion) (entry : Suggestion × Nat) : Prop :=
  ∀ other ∈ items.zipIdx, other.1.label = entry.1.label → other = entry ∨ Precedes entry other

/-- The entries of the list for a word, with their places among those that were offered. -/
structure IsSelection (items : List Suggestion) (word : String)
    (entries : List (Suggestion × Nat)) : Prop where
  ordered : entries.Pairwise Precedes
  mem_iff : ∀ entry, entry ∈ entries ↔ entry ∈ items.zipIdx ∧ Leads items entry ∧
    lowercaseL word.toList <+: lowercaseL entry.1.label.toList

/-- There is only one selection. -/
theorem IsSelection.eq {items : List Suggestion} {word : String}
    {entries other : List (Suggestion × Nat)} (h : IsSelection items word entries)
    (hother : IsSelection items word other) : other = entries :=
  hother.ordered.eq_of_mem_iff h.ordered fun entry =>
    (hother.mem_iff entry).trans (h.mem_iff entry).symm

/-! ## The sorted entries -/

/-- The entries in the order of the list, with their places. -/
def sorted (items : List Suggestion) : List (Suggestion × Nat) :=
  items.zipIdx.mergeSort (List.zipIdxLE before)

/-- Without their places they are the entries as ranking sorts them. -/
theorem map_fst_sorted (items : List Suggestion) :
    (sorted items).map (·.1) = items.mergeSort before :=
  List.mergeSort_zipIdx

theorem mem_sorted {items : List Suggestion} {entry : Suggestion × Nat} :
    entry ∈ sorted items ↔ entry ∈ items.zipIdx :=
  List.mem_mergeSort

/-- No two entries have one place. -/
theorem nodup_places (items : List Suggestion) : ((sorted items).map (·.2)).Nodup := by
  have hperm : ((sorted items).map (·.2)).Perm (items.zipIdx.map (·.2)) :=
    (List.mergeSort_perm _ _).map _
  have hplaces : items.zipIdx.map (·.2) = List.range' 0 items.length := List.zipIdx_map_snd 0 items
  rw [hperm.nodup_iff, hplaces]
  exact List.nodup_range'

/-- **Sorting keeps entries with one sort text in the order in which they were offered.** -/
theorem pairwise_sorted (items : List Suggestion) : (sorted items).Pairwise Precedes := by
  have hsorted : (sorted items).Pairwise (List.zipIdxLE before · · = true) :=
    List.pairwise_mergeSort (List.zipIdxLE_trans before_trans) (List.zipIdxLE_total before_total) _
  have hplaces : (sorted items).Pairwise (·.2 ≠ ·.2) := List.pairwise_map.1 (nodup_places items)
  refine (hsorted.and hplaces).imp fun {a b} hab => ?_
  obtain ⟨hle, hne⟩ := hab
  simp only [List.zipIdxLE, before, decide_eq_true_eq] at hle
  split at hle
  · next hab =>
    split at hle
    · next hba =>
      have hplace : a.2 ≤ b.2 := by simpa using hle
      exact .inr ⟨String.le_antisymm hab hba, by omega⟩
    · next hba => exact .inl (String.not_le.1 hba)
  · exact absurd hle Bool.false_ne_true

/-! ## The selection -/

/-- The entries of every label that lead, with their places. -/
def leading (items : List Suggestion) : List (Suggestion × Nat) :=
  distinctBy (fun entry => entry.1.label) (sorted items)

theorem mem_leading_iff {items : List Suggestion} {entry : Suggestion × Nat} :
    entry ∈ leading items ↔ entry ∈ items.zipIdx ∧ Leads items entry := by
  rw [leading, mem_distinctBy_iff]
  constructor
  · intro h
    have hmem := List.mem_of_find?_eq_some h
    obtain ⟨-, hfirst⟩ := (find?_eq_some_iff_of_pairwise (fun _ _ => Precedes.asymm)
      (pairwise_sorted items) hmem).1 h
    refine ⟨mem_sorted.1 hmem, fun other hother hlabel => ?_⟩
    exact hfirst other (mem_sorted.2 hother) (by simpa using hlabel)
  · rintro ⟨hmem, hleads⟩
    refine (find?_eq_some_iff_of_pairwise (fun _ _ => Precedes.asymm) (pairwise_sorted items)
      (mem_sorted.2 hmem)).2 ⟨by simp, fun other hother hlabel => ?_⟩
    exact hleads other (mem_sorted.1 hother) (by simpa using hlabel)

/-- The entries that lead and begin with the word are the selection. -/
theorem isSelection_leading (items : List Suggestion) (word : String) :
    IsSelection items word ((leading items).filter fun entry => hasWord word entry.1) := by
  constructor
  case ordered =>
    exact (pairwise_sorted items).sublist (List.filter_sublist.trans (distinctBy_sublist _))
  case mem_iff =>
    intro entry
    rw [List.mem_filter, mem_leading_iff, hasWord, List.isPrefixOf_iff_prefix, and_assoc]

/-- Without their places these are the entries that ranking selects. -/
theorem select_eq_map_leading (items : List Suggestion) (word : String) :
    select items word =
      ((leading items).filter fun entry => hasWord word entry.1).map (·.1) := by
  rw [select, ← map_fst_sorted, distinctBy_map, List.filter_map]
  rfl

/-- **A completion list is the selection for its word**: of every label the entry with the least
sort text, of several ones the first that was offered; of these the entries whose label begins with
the word, both in lower case; in the order of their sort texts, and of their places where these are
equal; no more than the limit allows, and with the span to replace if one is given. -/
theorem rank_exact (items : List Suggestion) (word : String) (span : Option Span)
    (limit : Option Nat) :
    ∃ entries : List (Suggestion × Nat),
      (∀ other, IsSelection items word other ↔ other = entries) ∧
      rank items word span limit = (limit.elim entries entries.take).map fun entry =>
        { entry.1 with span := span.or entry.1.span } := by
  have hselection := isSelection_leading items word
  refine ⟨_, fun other => ⟨hselection.eq, fun h => h ▸ hselection⟩, ?_⟩
  rw [rank, select_eq_map_leading]
  cases limit with
  | none => exact List.map_map
  | some count =>
    simp only [Option.map_some, Option.getD_some, Option.elim_some, ← List.map_take, List.map_map]
    rfl

end Suggestion

end QueryAssist
