import Mathlib.Data.List.Nodup
import QueryAssist.Proofs.Suggestion.Ranking
import QueryAssist.Proofs.Suggestion.Source

/-!
# The order of a completion list

* `Canonical` — sort texts are made of a tier and a label and strictly ascend, and no label occurs
  twice.
* `canonical_rank` — ranking brings entries with tiers into such a list.
* `Canonical.tierMajor` — in it the tiers go up, and within a tier the labels.
* `Canonical.eq_of_perm` — whoever sorts it once more gets the same list.
* `suggest_order` — every completion list is of this kind.
-/

namespace QueryAssist

open Text

namespace Suggestion

/-! ## Sort texts -/

/-- Two entries with one sort text have one label. -/
theorem HasTier.label_eq {a b : Suggestion} {s t : Char} (ha : a.HasTier s) (hb : b.HasTier t)
    (h : a.sortText = b.sortText) : a.label = b.label := by
  have hchars : s :: a.label.toList = t :: b.label.toList := by
    rw [← ha.2.2, ← hb.2.2, h]
  exact String.toList_inj.1 (List.cons.inj hchars).2

/-- Of two entries the one with the smaller sort text has the smaller tier, or the same tier and the
smaller label. -/
theorem HasTier.lt {a b : Suggestion} {s t : Char} (ha : a.HasTier s) (hb : b.HasTier t)
    (h : a.sortText < b.sortText) : s < t ∨ s = t ∧ a.label < b.label := by
  rw [String.lt_iff, ha.2.2, hb.2.2, List.cons_lt_cons_iff] at h
  exact h.imp_right (And.imp_right String.lt_iff.2)

/-! ## Canonical lists -/

/-- A list of entries whose sort texts are made of a tier and the label, in strict order of the sort
texts and with every label once. -/
structure Canonical (items : List Suggestion) : Prop where
  placed : ∀ item ∈ items, ∃ digit, item.HasTier digit
  ascending : items.Pairwise (·.sortText < ·.sortText)
  distinct : (items.map (·.label)).Nodup

namespace Canonical

variable {items : List Suggestion}

/-- Tiers go up, and within a tier the labels. -/
theorem tierMajor (h : Canonical items) :
    items.Pairwise fun a b => ∀ s t, a.HasTier s → b.HasTier t →
      s < t ∨ s = t ∧ a.label < b.label :=
  h.ascending.imp fun hlt _ _ ha hb => ha.lt hb hlt

/-- Whoever sorts the entries by their sort texts once more gets the same list. -/
theorem eq_of_perm (h : Canonical items) {sorted : List Suggestion} (hperm : sorted.Perm items)
    (hsorted : sorted.Pairwise (·.sortText ≤ ·.sortText)) : sorted = items := by
  have hle : items.Pairwise (·.sortText ≤ ·.sortText) :=
    h.ascending.imp fun hlt => String.not_lt.1 (String.lt_asymm hlt)
  refine hperm.eq_of_pairwise (fun a b ha hb hab hba => ?_) hsorted hle
  -- entries with one sort text have one label, and no two entries of the list have
  have hmem : a ∈ items := hperm.mem_iff.1 ha
  obtain ⟨s, hs⟩ := h.placed a hmem
  obtain ⟨t, ht⟩ := h.placed b hb
  have hlabel : a.label = b.label := hs.label_eq ht (String.le_antisymm hab hba)
  exact List.inj_on_of_nodup_map h.distinct hmem hb hlabel

end Canonical

/-- A span to replace changes neither label nor tier. -/
theorem hasTier_replacing {span : Option Span} {item : Suggestion} {digit : Char}
    (h : item.HasTier digit) : (replacing span item).HasTier digit :=
  h

/-- **Ranking brings entries with tiers into a canonical list.** -/
theorem canonical_rank {items : List Suggestion}
    (placed : ∀ item ∈ items, ∃ digit, item.HasTier digit) (word : String) (span : Option Span)
    (limit : Option Nat) :
    Canonical (rank items word span limit) := by
  obtain ⟨kept, hkept, hrank⟩ := exists_rank_eq items word span limit
  have hpairwise := (pairwise_select items word).sublist hkept
  have hplaced : ∀ item ∈ kept, ∃ digit, item.HasTier digit := fun item hitem =>
    placed item (List.mem_mergeSort.1 ((select_sublist items word).mem (hkept.mem hitem)))
  rw [hrank]
  constructor
  · intro item hitem
    obtain ⟨own, hown, rfl⟩ := List.mem_map.1 hitem
    obtain ⟨digit, hdigit⟩ := hplaced own hown
    exact ⟨digit, hasTier_replacing hdigit⟩
  · refine List.pairwise_map.2 (hpairwise.imp_of_mem fun {a b} ha hb hab => ?_)
    obtain ⟨s, hs⟩ := hplaced a ha
    obtain ⟨t, ht⟩ := hplaced b hb
    -- entries that are sorted and have distinct labels have distinct sort texts
    refine String.not_le.1 fun hba => hab.2 ?_
    exact hs.label_eq ht (String.le_antisymm hab.1 hba)
  · rw [List.map_map]
    exact List.pairwise_map.2 (hpairwise.imp fun hab => hab.2)

end Suggestion

namespace Engine

open Suggestion

/-- **Every completion list is in one canonical order**: by tiers, and within a tier by labels, of
which none occurs twice; sorting it by its sort texts gives it back.  Without a limit it has every
label that was offered and begins with the current word. -/
theorem suggest_order (engine : Engine) (context : QueryContext) (schema : Schema) :
    (engine.suggest context schema).Pairwise (·.sortText < ·.sortText) ∧
    (∀ item ∈ engine.suggest context schema, ∃ digit, '0' ≤ digit ∧ digit ≤ '7' ∧
      item.sortText.toList = digit :: item.label.toList) ∧
    ((engine.suggest context schema).map (·.label)).Nodup ∧
    ((engine.suggest context schema).Pairwise fun a b =>
      ∀ s t, a.HasTier s → b.HasTier t → s < t ∨ s = t ∧ a.label < b.label) ∧
    (∀ sorted : List Suggestion, sorted.Perm (engine.suggest context schema) →
      sorted.Pairwise (·.sortText ≤ ·.sortText) → sorted = engine.suggest context schema) ∧
    (engine.limit = none → ∀ item ∈ engine.offers context schema,
      hasWord context.currentWord item = true →
        ∃ listed ∈ engine.suggest context schema, listed.label = item.label) := by
  have hcanonical : Canonical (engine.suggest context schema) :=
    canonical_rank (fun item hitem => hasTier_of_mem_offers hitem) _ _ _
  refine ⟨hcanonical.ascending, hcanonical.placed, hcanonical.distinct, hcanonical.tierMajor,
    fun sorted hperm hsorted => hcanonical.eq_of_perm hperm hsorted, ?_⟩
  intro hlimit item hitem hword
  rw [suggest, hlimit]
  exact exists_mem_rank_iff.2 ⟨item, hitem, rfl, hword⟩

end Engine

end QueryAssist
