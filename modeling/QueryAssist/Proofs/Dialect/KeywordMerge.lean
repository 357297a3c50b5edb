import QueryAssist.Dialect.Keyword
import QueryAssist.Proofs.Text.Distinct

/-!
# Merged keyword sets

A set is merged into another by adding the keywords whose label is new there.  A set may repeat a
label: the first set keeps its repetitions, the second one brings none.

* `merge_assoc` — merging is associative, as the labels of a merged set are those of either set.
* `foldl_merge` — sets that are merged one after the other into a set without repetitions give the
  first keyword with each label.
* `merge_keepsFirst` — **the laws of merging**: it is associative, it puts behind the first set what
  is new in the second, and of several sets merged into the empty one the keywords stay that are the
  first with their label.
-/

namespace QueryAssist.KeywordSet

open Text

/-- The labels of merged sets are those of either set. -/
theorem mem_labels_merge {first second : KeywordSet} {label : String} :
    label ∈ labels (first.merge second) ↔ label ∈ labels first ∨ label ∈ labels second := by
  have hnew : label ∈ labels (distinctFrom Keyword.label (labels first) second) ↔
      label ∈ labels second ∧ label ∉ labels first := mem_map_distinctFrom_iff
  have happend : labels (first.merge second) =
      labels first ++ labels (distinctFrom Keyword.label (labels first) second) :=
    List.map_append
  rw [happend, List.mem_append, hnew]
  by_cases h : label ∈ labels first <;> simp [h]

/-- **Merging is associative.**  Either way, the keywords of the third set stay whose labels are
neither in the first nor in the second. -/
theorem merge_assoc (first second third : KeywordSet) :
    (first.merge second).merge third = first.merge (second.merge third) := by
  have hlabels : ∀ label, label ∈ labels (first.merge second) ↔
      label ∈ labels second ++ labels first ++ labels second := by
    intro label
    rw [mem_labels_merge, List.mem_append, List.mem_append]
    grind
  calc (first.merge second).merge third
    _ = first.merge second ++
          distinctFrom Keyword.label (labels second ++ labels first ++ labels second) third :=
        congrArg _ (distinctFrom_congr hlabels third)
    _ = first ++ (distinctFrom Keyword.label (labels first) second ++
          distinctFrom Keyword.label (labels second ++ labels first)
            (distinctFrom Keyword.label (labels second) third)) := by
        rw [merge, List.append_assoc, distinctFrom_distinctFrom]
    _ = first.merge (second.merge third) := by
        rw [merge, merge, distinctFrom_append]
        rfl

/-- A set that is merged into the first keywords with each label. -/
theorem merge_distinctBy (keywords set : KeywordSet) :
    merge (distinctBy Keyword.label keywords) set = distinctBy Keyword.label (keywords ++ set) := by
  have hlabels : ∀ label, label ∈ labels (distinctBy Keyword.label keywords) ↔
      label ∈ keywords.map Keyword.label ++ [] := by
    intro label
    rw [labels, distinctBy, mem_map_distinctFrom_iff]
    simp
  rw [merge, distinctFrom_congr hlabels, distinctBy, distinctBy, distinctFrom_append]

/-- Sets that are merged one after the other into the first keywords with each label. -/
theorem foldl_merge (sets : List KeywordSet) (keywords : KeywordSet) :
    sets.foldl merge (distinctBy Keyword.label keywords) =
      distinctBy Keyword.label (keywords ++ sets.flatten) := by
  induction sets generalizing keywords with
  | nil => simp
  | cons set sets ih =>
    rw [List.foldl_cons, merge_distinctBy, ih, List.flatten_cons, List.append_assoc]

/-- **The laws of merging.**  It is associative, keyword for keyword.  It leaves the first set as it
is and puts behind it those keywords of the second that are the first with their label, in their
order.  Of any sets that are merged in turn into the empty one the keywords stay that are the first
with their label, in their order and with their own descriptions, so no label occurs twice. -/
theorem merge_keepsFirst :
    (∀ first second third : KeywordSet,
      (first.merge second).merge third = first.merge (second.merge third)) ∧
    (∀ first second : KeywordSet, first.merge second =
      first ++ ((second.zipIdx first.length).filter fun (keyword, place) =>
        keyword.label ∉ labels ((first ++ second).take place)).map (·.1)) ∧
    ∀ sets : List KeywordSet,
      sets.foldl merge [] =
          (sets.flatten.zipIdx.filter fun (keyword, place) =>
            keyword.label ∉ labels (sets.flatten.take place)).map (·.1) ∧
        (labels (sets.foldl merge [])).Nodup := by
  refine ⟨merge_assoc, fun first second => ?_, fun sets => ?_⟩
  · exact congrArg (first ++ ·) (distinctFrom_eq_filter first second)
  · have hmerged : sets.foldl merge [] = distinctBy Keyword.label sets.flatten :=
      foldl_merge sets []
    rw [hmerged]
    refine ⟨distinctFrom_eq_filter [] sets.flatten, ?_⟩
    exact List.pairwise_map.2 (pairwise_distinctBy sets.flatten)

/-- The first set keeps its own repetition, the second one brings neither a label of the first nor
one of its own again. -/
example :
    let from₁ : Keyword := ⟨"FROM", some "first"⟩
    let from₂ : Keyword := ⟨"FROM", some "second"⟩
    let where₁ : Keyword := ⟨"WHERE", none⟩
    merge [from₁, from₂] [from₂, where₁, where₁] = [from₁, from₂, where₁] := by
  decide

end QueryAssist.KeywordSet
