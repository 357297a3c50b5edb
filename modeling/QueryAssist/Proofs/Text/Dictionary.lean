import QueryAssist.Proofs.Text.Distinct
import QueryAssist.Text.Dictionary

/-!
# What a dictionary holds

* `find?_insert` — an insertion changes the value of its own key only.
* `find?_ofList` — a dictionary made of a list has, for every key, the last value in the list.
* `find?_ofList_of_nodup` — if the keys in the list are distinct, that is what the list itself has.
* `mem_entries_iff` — the entries are the keys with their values.
* `find?_entries_eq_some_iff` — of the entries with a property the first has the least key.
* `ofList_entries` — a dictionary is made anew of its entries.
-/

namespace QueryAssist

/-! ## Entry lists -/

namespace Entries

variable {α : Type}

/-- A look-up finds the first entry, or else looks on. -/
theorem lookup_cons (first : String × α) (rest : List (String × α)) (key : String) :
    (first :: rest).lookup key = if key = first.1 then some first.2 else rest.lookup key := by
  rw [List.lookup_cons]
  by_cases h : key = first.1
  · simp [h]
  · simp [beq_eq_false_iff_ne.2 h, h]

/-- A look-up after an insertion. -/
theorem lookup_insert (key : String) (value : α) (entries : List (String × α)) (other : String) :
    (insert key value entries).lookup other =
      if other = key then some value else entries.lookup other := by
  induction entries with
  | nil => exact lookup_cons _ _ _
  | cons first rest ih =>
    rw [insert]
    split
    · exact lookup_cons _ _ _
    · next hlt =>
      split
      · next heq =>
        rw [lookup_cons, lookup_cons, heq]
        split <;> rfl
      · next hne =>
        rw [lookup_cons, lookup_cons, ih]
        by_cases h : other = first.1
        · have hother : other ≠ key := fun hkey => hne (hkey.symm.trans h)
          rw [if_pos h, if_neg hother, if_pos h]
        · rw [if_neg h, if_neg h]

/-- The keys of a sorted list are distinct. -/
theorem Sorted.nodup {entries : List (String × α)} (h : Sorted entries) :
    (entries.map (·.1)).Nodup := by
  refine List.pairwise_map.2 (List.Pairwise.imp (fun hlt heq => ?_) h)
  exact String.lt_irrefl _ (heq ▸ hlt)

/-- Among distinct keys there is one value for each, wherever it stands. -/
theorem lookup_eq_some_iff_mem {entries : List (String × α)} (nodup : (entries.map (·.1)).Nodup)
    {key : String} {value : α} : entries.lookup key = some value ↔ (key, value) ∈ entries := by
  induction entries with
  | nil => simp
  | cons first rest ih =>
    rw [List.map_cons, List.nodup_cons] at nodup
    rw [lookup_cons, List.mem_cons]
    by_cases h : key = first.1
    · rw [if_pos h, Option.some_inj]
      constructor
      · exact fun hvalue => .inl (Prod.ext h hvalue.symm)
      · rintro (hfirst | hrest)
        · exact congrArg Prod.snd hfirst.symm
        · exact absurd (h ▸ List.mem_map_of_mem hrest) nodup.1
    · rw [if_neg h, ih nodup.2]
      refine (or_iff_right fun hfirst => h ?_).symm
      exact congrArg Prod.fst hfirst

/-- In a sorted list every entry is the one that a look-up of its key finds. -/
theorem lookup_eq_some_of_mem {entry : String × α} {entries : List (String × α)}
    (sorted : Sorted entries) (h : entry ∈ entries) : entries.lookup entry.1 = some entry.2 :=
  (lookup_eq_some_iff_mem sorted.nodup).2 h

/-- An entry whose key comes after all others is put at the end. -/
theorem insert_of_forall_lt {key : String} (value : α) {entries : List (String × α)}
    (h : ∀ entry ∈ entries, entry.1 < key) :
    insert key value entries = entries ++ [(key, value)] := by
  induction entries with
  | nil => rfl
  | cons first rest ih =>
    have hfirst : first.1 < key := h first List.mem_cons_self
    have hne : key ≠ first.1 := fun heq => String.lt_irrefl _ (heq ▸ hfirst)
    rw [insert, if_neg (String.lt_asymm hfirst), if_neg hne,
      ih fun entry hentry => h entry (List.mem_cons_of_mem _ hentry), List.cons_append]

end Entries

namespace Dictionary

variable {α : Type}

/-! ## Look-ups -/

@[simp] theorem find?_empty (key : String) : (empty : Dictionary α).find? key = none := rfl

/-- An insertion changes the value of its own key only. -/
theorem find?_insert (d : Dictionary α) (key : String) (value : α) (other : String) :
    (d.insert key value).find? other = if other = key then some value else d.find? other :=
  Entries.lookup_insert key value d.entries other

/-- Insertions one after the other: the last one of a key counts. -/
theorem find?_foldl_insert (d : Dictionary α) (entries : List (String × α)) (key : String) :
    (entries.foldl (fun d entry => d.insert entry.1 entry.2) d).find? key =
      (entries.reverse.lookup key).or (d.find? key) := by
  induction entries generalizing d with
  | nil => simp
  | cons entry entries ih =>
    rw [List.foldl_cons, ih, find?_insert, List.reverse_cons, List.lookup_append,
      Entries.lookup_cons, Option.or_assoc]
    by_cases h : key = entry.1
    · rw [if_pos h, if_pos h, Option.some_or]
    · rw [if_neg h, if_neg h, List.lookup_nil, Option.none_or]

/-- **For every key the last value in the list.** -/
theorem find?_ofList (entries : List (String × α)) (key : String) :
    (ofList entries).find? key = entries.reverse.lookup key := by
  rw [ofList, find?_foldl_insert, find?_empty, Option.or_none]

/-- What a dictionary made of a list holds for a key: the value in the last entry with that key. -/
theorem find?_ofList_eq_some_iff {entries : List (String × α)} {key : String} {value : α} :
    (ofList entries).find? key = some value ↔
      ∃ before after, entries = before ++ (key, value) :: after ∧
        ∀ entry ∈ after, entry.1 ≠ key := by
  rw [find?_ofList, List.lookup_eq_some_iff]
  constructor
  · rintro ⟨after, before, hreverse, hafter⟩
    refine ⟨before.reverse, after.reverse, ?_, ?_⟩
    · rw [List.reverse_eq_iff.1 hreverse]
      simp
    · intro entry hentry
      exact (bne_iff_ne.1 (hafter entry (List.mem_reverse.1 hentry))).symm
  · rintro ⟨before, after, rfl, hafter⟩
    refine ⟨after.reverse, before.reverse, by simp, ?_⟩
    intro entry hentry
    exact bne_iff_ne.2 (hafter entry (List.mem_reverse.1 hentry)).symm

/-- A dictionary made of the entries of some things holds for a key the value of the last of them
with that key. -/
theorem find?_ofList_map {β : Type} (key : β → String) (value : β → α) (things : List β)
    (name : String) : (ofList (things.map fun thing => (key thing, value thing))).find? name =
      (things.reverse.find? fun thing => key thing = name).map value := by
  rw [find?_ofList, ← List.map_reverse]
  induction things.reverse with
  | nil => rfl
  | cons thing rest ih =>
    rw [List.map_cons, Entries.lookup_cons, ih, List.find?_cons]
    by_cases h : key thing = name
    · simp [h]
    · simp [h, Ne.symm h]

/-- A dictionary made of a list with distinct keys has the values of the list. -/
theorem find?_ofList_of_nodup {entries : List (String × α)} (nodup : (entries.map (·.1)).Nodup)
    (key : String) : (ofList entries).find? key = entries.lookup key := by
  have hreverse : (entries.reverse.map (·.1)).Nodup :=
    (entries.reverse_perm.map _).nodup_iff.2 nodup
  rw [find?_ofList]
  refine Option.ext fun value => ?_
  rw [Entries.lookup_eq_some_iff_mem hreverse, Entries.lookup_eq_some_iff_mem nodup,
    List.mem_reverse]

/-- Dictionaries with the same entries are equal. -/
theorem eq_of_entries_eq {d other : Dictionary α} (h : d.entries = other.entries) : d = other := by
  cases d
  cases other
  cases h
  rfl

/-- Entries in ascending order are put one behind the other. -/
theorem entries_foldl_insert {d : Dictionary α} {entries : List (String × α)}
    (sorted : Entries.Sorted (d.entries ++ entries)) :
    (entries.foldl (fun d entry => d.insert entry.1 entry.2) d).entries = d.entries ++ entries := by
  induction entries generalizing d with
  | nil => simp
  | cons entry entries ih =>
    have hlt : ∀ other ∈ d.entries, other.1 < entry.1 := fun other hother =>
      (List.pairwise_append.1 sorted).2.2 other hother entry List.mem_cons_self
    have hinsert : (d.insert entry.1 entry.2).entries = d.entries ++ [entry] :=
      Entries.insert_of_forall_lt entry.2 hlt
    have hassoc : d.entries ++ [entry] ++ entries = d.entries ++ entry :: entries := by simp
    rw [List.foldl_cons, ih (by rwa [hinsert, hassoc]), hinsert, hassoc]

/-- **A dictionary is made anew of its entries.** -/
theorem ofList_entries (d : Dictionary α) : ofList d.entries = d :=
  eq_of_entries_eq (entries_foldl_insert (d := empty) d.sorted)

/-- The keys with their values are the entries. -/
theorem mem_entries_iff {d : Dictionary α} {key : String} {value : α} :
    (key, value) ∈ d.entries ↔ d.find? key = some value := by
  constructor
  · exact fun h => Entries.lookup_eq_some_of_mem d.sorted h
  · intro h
    obtain ⟨before, after, hentries, -⟩ := List.lookup_eq_some_iff.1 h
    rw [hentries]
    exact List.mem_append_right _ List.mem_cons_self

/-- **Of the entries with a property the first one is that with the least key.** -/
theorem find?_entries_eq_some_iff {d : Dictionary α} {p : String × α → Bool}
    {entry : String × α} :
    d.entries.find? p = some entry ↔ d.find? entry.1 = some entry.2 ∧ p entry = true ∧
      ∀ key value, d.find? key = some value → p (key, value) = true → entry.1 ≤ key := by
  have hfirst {entry : String × α} (hentry : entry ∈ d.entries) :=
    Text.find?_eq_some_iff_of_pairwise (p := p) (fun _ _ => String.lt_asymm) d.sorted hentry
  constructor
  · intro h
    have hentry := List.mem_of_find?_eq_some h
    obtain ⟨hp, hbefore⟩ := (hfirst hentry).1 h
    refine ⟨mem_entries_iff.1 hentry, hp, fun key value hvalue hother => ?_⟩
    rcases hbefore (key, value) (mem_entries_iff.2 hvalue) hother with rfl | hlt
    · exact String.le_refl _
    · exact String.not_lt.1 (String.lt_asymm hlt)
  · rintro ⟨hvalue, hp, hleast⟩
    refine (hfirst (mem_entries_iff.2 hvalue)).2 ⟨hp, fun other hother hpother => ?_⟩
    have hfind := mem_entries_iff.1 hother
    by_cases hkey : other.1 = entry.1
    · rw [hkey, hvalue] at hfind
      exact .inl (Prod.ext hkey (Option.some.inj hfind).symm)
    · have hle := hleast other.1 other.2 hfind hpother
      exact .inr (Entries.gt_of_not_lt (String.not_lt.2 hle) hkey)

/-- The keys are those that have a value. -/
theorem mem_keys_iff {d : Dictionary α} {key : String} :
    key ∈ d.keys ↔ ∃ value, d.find? key = some value := by
  constructor
  · intro h
    obtain ⟨⟨_, value⟩, hentry, rfl⟩ := List.mem_map.1 h
    exact ⟨value, mem_entries_iff.1 hentry⟩
  · rintro ⟨value, h⟩
    exact List.mem_map.2 ⟨(key, value), mem_entries_iff.2 h, rfl⟩

/-- The keys of a dictionary made of a list are those in the list. -/
theorem mem_keys_ofList {entries : List (String × α)} {key : String} :
    key ∈ (ofList entries).keys ↔ ∃ entry ∈ entries, entry.1 = key := by
  rw [mem_keys_iff]
  constructor
  · rintro ⟨value, h⟩
    obtain ⟨before, after, rfl, -⟩ := find?_ofList_eq_some_iff.1 h
    exact ⟨(key, value), List.mem_append_right _ List.mem_cons_self, rfl⟩
  · rintro ⟨entry, hentry, rfl⟩
    rw [← Option.isSome_iff_exists, ← Option.ne_none_iff_isSome, find?_ofList]
    intro h
    have hne := List.lookup_eq_none_iff.1 h entry (List.mem_reverse.2 hentry)
    exact bne_iff_ne.1 hne rfl

end Dictionary

/-- A set of names has the names it was made of. -/
theorem NameSet.mem_keys_ofNames {names : List String} {name : String} :
    name ∈ (NameSet.ofNames names).keys ↔ name ∈ names := by
  rw [ofNames, Dictionary.mem_keys_ofList]
  simp

/-- A set of names is made anew of its names. -/
theorem NameSet.ofNames_keys (names : NameSet) : ofNames names.keys = names := by
  rw [ofNames, Dictionary.keys, List.map_map]
  exact (congrArg Dictionary.ofList (List.map_id' names.entries)).trans names.ofList_entries

end QueryAssist
