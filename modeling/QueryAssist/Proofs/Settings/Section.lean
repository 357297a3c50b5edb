import Mathlib.Tactic.MkIffOfInductiveProp
import QueryAssist.Proofs.Data.Record
import QueryAssist.Settings.Reader

/-!
# Sections of settings

A section of settings is a record or a list.  A record is read in the order of its members' names, a
list in the order of the fields; so of two bad members the one form reports this, the other that one.
Apart from the wording of that report, both forms mean the same.

* `Draft.IsReadOnto` — what members say of each field, whatever their order;
  `Draft.foldlM_set_eq_ok_iff` says that this is what they are read as one after the other.
* `ofValue_sameOutcome` — sections that give the same members have the same outcome.
* `engine_of_ofEditor` — an engine is made of all settings that are read from a section.
* `ofEditor_list_record` — **a list and a record that give the same members have the same outcome.**
-/

namespace QueryAssist

open Value Decoded

namespace Settings

/-- The names of the members of a section, in the order in which a list gives them. -/
def memberNames : List String :=
  ["databaseType", "connectionId", "currentDatabase", "cacheTimeoutSecs", "triggerCharacters",
    "maxItems"]

theorem map_fst_fields : shape.fields.map (·.1) = memberNames := rfl

/-! ## What a section says -/

namespace Draft

/-- A draft is what some members make of another one: every field has the value of its member, or is
kept where there is none.  The order of the members does not matter. -/
@[mk_iff]
structure IsReadOnto (start : Draft) (members : List (String × Value)) (draft : Draft) : Prop where
  dialectName : orDefault members "databaseType" (fun v => some <$> asText v) start.dialectName =
    .ok draft.dialectName
  connectionId : orDefault members "connectionId" (asOption asText) start.connectionId =
    .ok draft.connectionId
  currentDatabase : orDefault members "currentDatabase" (asOption asText) start.currentDatabase =
    .ok draft.currentDatabase
  cacheTimeout : orDefault members "cacheTimeoutSecs" (asOption (asBelow Word.bound64 "u64"))
    start.cacheTimeout = .ok draft.cacheTimeout
  triggers : orDefault members "triggerCharacters" (asOption (asList asChar)) start.triggers =
    .ok draft.triggers
  maxItems : orDefault members "maxItems" (asOption (asBelow Word.bound64 "usize")) start.maxItems =
    .ok draft.maxItems

variable {start draft : Draft} {members members' : List (String × Value)}

/-- One member changes the field of its name, and no other name means anything. -/
theorem set_eq_ok_iff {name : String} {value : Value} :
    start.set name value = .ok draft ↔ IsReadOnto start [(name, value)] draft := by
  obtain ⟨_, _, _, _, _, _⟩ := draft
  simp only [isReadOnto_iff, orDefault_singleton]
  by_cases h : name ∈ memberNames
  · -- one case for each field
    simp only [memberNames, List.mem_cons, List.not_mem_nil, or_false] at h
    rcases h with rfl | rfl | rfl | rfl | rfl | rfl <;> simp [set, map_eq_ok_iff] <;> grind
  · have hne : ∀ key ∈ memberNames, name ≠ key ∧ key ≠ name :=
      fun key hkey => ⟨fun heq => h (heq ▸ hkey), fun heq => h (heq ▸ hkey)⟩
    simp only [memberNames, List.forall_mem_cons] at hne
    obtain ⟨_, _, _, _, _, _⟩ := start
    simp [set, hne]

/-- Members are read one after the other. -/
theorem isReadOnto_cons_iff {member : String × Value} (fresh : members.lookup member.1 = none) :
    IsReadOnto start (member :: members) draft ↔
      ∃ middle, IsReadOnto start [member] middle ∧ IsReadOnto middle members draft := by
  constructor
  · rintro ⟨h₁, h₂, h₃, h₄, h₅, h₆⟩
    obtain ⟨dialectName, h₁, h₁'⟩ := (orDefault_cons_eq_ok_iff fresh).1 h₁
    obtain ⟨connectionId, h₂, h₂'⟩ := (orDefault_cons_eq_ok_iff fresh).1 h₂
    obtain ⟨currentDatabase, h₃, h₃'⟩ := (orDefault_cons_eq_ok_iff fresh).1 h₃
    obtain ⟨cacheTimeout, h₄, h₄'⟩ := (orDefault_cons_eq_ok_iff fresh).1 h₄
    obtain ⟨triggers, h₅, h₅'⟩ := (orDefault_cons_eq_ok_iff fresh).1 h₅
    obtain ⟨maxItems, h₆, h₆'⟩ := (orDefault_cons_eq_ok_iff fresh).1 h₆
    exact ⟨⟨dialectName, connectionId, currentDatabase, cacheTimeout, triggers, maxItems⟩,
      ⟨h₁, h₂, h₃, h₄, h₅, h₆⟩, ⟨h₁', h₂', h₃', h₄', h₅', h₆'⟩⟩
  · rintro ⟨middle, ⟨h₁, h₂, h₃, h₄, h₅, h₆⟩, ⟨h₁', h₂', h₃', h₄', h₅', h₆'⟩⟩
    exact ⟨(orDefault_cons_eq_ok_iff fresh).2 ⟨_, h₁, h₁'⟩,
      (orDefault_cons_eq_ok_iff fresh).2 ⟨_, h₂, h₂'⟩,
      (orDefault_cons_eq_ok_iff fresh).2 ⟨_, h₃, h₃'⟩,
      (orDefault_cons_eq_ok_iff fresh).2 ⟨_, h₄, h₄'⟩,
      (orDefault_cons_eq_ok_iff fresh).2 ⟨_, h₅, h₅'⟩,
      (orDefault_cons_eq_ok_iff fresh).2 ⟨_, h₆, h₆'⟩⟩

/-- Members with distinct names say the same in every order. -/
theorem foldlM_set_eq_ok_iff (nodup : (members.map (·.1)).Nodup) :
    members.foldlM (fun draft member => draft.set member.1 member.2) start = .ok draft ↔
      IsReadOnto start members draft := by
  induction members generalizing start with
  | nil =>
    obtain ⟨_, _, _, _, _, _⟩ := start
    obtain ⟨_, _, _, _, _, _⟩ := draft
    simp [isReadOnto_iff, orDefault, pure, Except.pure]
  | cons member members ih =>
    rw [List.map_cons, List.nodup_cons] at nodup
    have fresh : members.lookup member.1 = none := by
      refine List.lookup_eq_none_iff.2 fun other hother => bne_iff_ne.2 fun heq => ?_
      exact nodup.1 (heq ▸ List.mem_map_of_mem hother)
    rw [List.foldlM_cons, bind_eq_ok_iff, isReadOnto_cons_iff fresh]
    simp only [set_eq_ok_iff, ih nodup.2]

/-- Only the members of a section are looked at. -/
theorem isReadOnto_congr
    (same : ∀ name ∈ memberNames, members.lookup name = members'.lookup name) :
    IsReadOnto start members draft ↔ IsReadOnto start members' draft := by
  simp only [memberNames, List.forall_mem_cons] at same
  simp only [isReadOnto_iff, orDefault, same]

/-- Readings without an error are those of members. -/
theorem ofReadings_map_ok : ofReadings (members.map .ok) =
    members.foldlM (fun draft member => draft.set member.1 member.2) {} := by
  rw [ofReadings, List.foldlM_map]
  rfl

end Draft

/-! ## Outcomes -/

/-- Two readings of settings end in the same way: with the same settings, or with the same error,
only that the reason why settings cannot be read may be another one. -/
inductive SameOutcome :
    Except SettingsError Settings → Except SettingsError Settings → Prop
  | accepted (settings : Settings) : SameOutcome (.ok settings) (.ok settings)
  | unsupportedDialect (name : String) :
    SameOutcome (.error (.unsupportedDialect name)) (.error (.unsupportedDialect name))
  | invalidCacheTimeout : SameOutcome (.error .invalidCacheTimeout) (.error .invalidCacheTimeout)
  | missingConnectionId : SameOutcome (.error .missingConnectionId) (.error .missingConnectionId)
  | unreadable (reason reason' : String) :
    SameOutcome (.error (.unreadable reason)) (.error (.unreadable reason'))

/-- Valid settings are given as they are. -/
theorem validated_eq_ok_iff {settings result : Settings} :
    settings.validated = .ok result ↔ settings.validate = .ok () ∧ result = settings := by
  rw [validated]
  cases settings.validate <;> simp [Bind.bind, Except.bind, pure, Except.pure, eq_comm]

theorem sameOutcome_validated (settings : Settings) :
    SameOutcome settings.validated settings.validated := by
  rw [validated, validate]
  split
  · exact .invalidCacheTimeout
  · split
    · exact .missingConnectionId
    · exact .accepted settings

/-- A draft without a dialect is not completed. -/
theorem Draft.complete_of_eq_none {draft : Draft} (h : draft.dialectName = none) :
    draft.complete = .error (.unreadable (DecodeError.missingField "databaseType").message) := by
  obtain ⟨_, _, _, _, _, _⟩ := draft
  subst h
  rfl

/-- A draft with a dialect is completed if the dialect is known. -/
theorem Draft.complete_of_eq_some {draft : Draft} {name : String}
    (h : draft.dialectName = some name) :
    draft.complete = .error (.unsupportedDialect name) ∨
      ∃ settings, draft.complete = .ok settings := by
  obtain ⟨_, _, _, _, _, _⟩ := draft
  subst h
  cases hname : Dialect.ofName? name with
  | none =>
    have hdialect : Dialect.ofName name = .error (.unsupportedDialect name) := by
      rw [Dialect.ofName, hname]
    exact .inl (by simp only [Draft.complete, Bind.bind, Except.bind, hdialect])
  | some dialect =>
    have hdialect : Dialect.ofName name = .ok dialect := by rw [Dialect.ofName, hname]
    exact .inr ⟨_, by simp only [Draft.complete, Bind.bind, Except.bind, hdialect]; rfl⟩

/-- What a draft is completed to is an outcome of its own: no file is read any more. -/
theorem sameOutcome_complete (draft : Draft) :
    SameOutcome (draft.complete >>= validated) (draft.complete >>= validated) := by
  cases hname : draft.dialectName with
  | none =>
    rw [Draft.complete_of_eq_none hname]
    exact .unreadable _ _
  | some name =>
    rcases Draft.complete_of_eq_some hname with h | ⟨settings, h⟩
    · rw [h]
      exact .unsupportedDialect name
    · rw [h]
      exact sameOutcome_validated settings

/-- A section without a dialect cannot be read. -/
theorem ofValue_of_lookup_eq_none {value : Value} {members : List (String × Value)}
    (hvalue : shape.readings value = members.map .ok) (nodup : (members.map (·.1)).Nodup)
    (missing : members.lookup "databaseType" = none) :
    ∃ reason, ofValue value = .error (.unreadable reason) := by
  rw [ofValue, hvalue, Draft.ofReadings_map_ok]
  cases hread : members.foldlM (fun draft member => draft.set member.1 member.2) ({} : Draft) with
  | error e => exact ⟨_, rfl⟩
  | ok draft =>
    have hdialect := ((Draft.foldlM_set_eq_ok_iff nodup).1 hread).dialectName
    rw [orDefault, missing] at hdialect
    have hnone : draft.dialectName = none := (Except.ok.inj hdialect).symm
    refine ⟨(DecodeError.missingField "databaseType").message, ?_⟩
    change (draft.complete >>= validated) = _
    rw [Draft.complete_of_eq_none hnone]
    rfl

/-- **Sections that give the same members have the same outcome.** -/
theorem ofValue_sameOutcome {value value' : Value} {members members' : List (String × Value)}
    (hvalue : shape.readings value = members.map .ok)
    (hvalue' : shape.readings value' = members'.map .ok)
    (nodup : (members.map (·.1)).Nodup) (nodup' : (members'.map (·.1)).Nodup)
    (same : ∀ name ∈ memberNames, members.lookup name = members'.lookup name) :
    SameOutcome (ofValue value) (ofValue value') := by
  have hdraft : ∀ draft, Draft.ofReadings (shape.readings value) = .ok draft ↔
      Draft.ofReadings (shape.readings value') = .ok draft := by
    intro draft
    rw [hvalue, hvalue', Draft.ofReadings_map_ok, Draft.ofReadings_map_ok,
      Draft.foldlM_set_eq_ok_iff nodup, Draft.foldlM_set_eq_ok_iff nodup',
      Draft.isReadOnto_congr same]
  rw [ofValue, ofValue]
  cases hread : Draft.ofReadings (shape.readings value) with
  | ok draft =>
    rw [(hdraft draft).1 hread]
    exact sameOutcome_complete draft
  | error e =>
    cases hread' : Draft.ofReadings (shape.readings value') with
    | ok draft => exact absurd ((hdraft draft).2 hread') (by rw [hread]; simp)
    | error e' => exact .unreadable _ _

/-- Settings that are read from a value are valid. -/
theorem validate_of_ofValue {value : Value} {settings : Settings}
    (h : ofValue value = .ok settings) : settings.validate = .ok () := by
  obtain ⟨draft, -, hdraft⟩ := bind_eq_ok_iff.1 h
  obtain ⟨complete, -, hcomplete⟩ := bind_eq_ok_iff.1 hdraft
  obtain ⟨hvalid, rfl⟩ := validated_eq_ok_iff.1 hcomplete
  exact hvalid

/-- **Settings that are read from a section have an engine.** -/
theorem engine_of_ofEditor {editorSettings : Value} {settings : Settings}
    (h : ofEditor editorSettings = .ok settings) :
    settings.engine = .ok {
      dialect := settings.dialect
      database := settings.currentDatabase
      limit := settings.maxItems } := by
  rw [ofEditor] at h
  split at h
  · rw [engine, validate_of_ofValue h]
    rfl
  · exact nomatch h

/-! ## Lists and records -/

section

variable {listed named : Value} {values : List Value} {members : List (String × Value)}

/-- A list that is not empty gives its items to the first members. -/
theorem readings_list (nonempty : values ≠ []) (few : values.length ≤ 6) :
    shape.readings (.list values) = (memberNames.zip values).map .ok := by
  obtain ⟨value, rest, rfl⟩ := List.exists_cons_of_ne_nil nonempty
  have hdefaulted : ∀ field ∈ shape.fields.tail, field.2 = .defaulted := by decide
  rw [← map_fst_fields]
  exact RecordShape.positionalFrom_eq_zip few fun field hfield =>
    hdefaulted field (List.mem_of_mem_drop hfield)

theorem nodup_zip_memberNames (values : List Value) :
    ((memberNames.zip values).map (·.1)).Nodup := by
  have hnames : (memberNames.zip values).map (·.1) <+: memberNames := by
    rw [List.zip_eq_zip_take_min, List.map_fst_zip (by simp)]
    exact List.take_prefix _ _
  exact List.Nodup.sublist hnames.sublist (by decide)

/-- A record is read as the members of the section in it, in whatever order. -/
theorem exists_readings_record (distinct : (members.map (·.1)).Nodup) :
    ∃ known : List (String × Value), shape.readings (sorted (.record members)) = known.map .ok ∧
      (known.map (·.1)).Nodup ∧
      ∀ name ∈ memberNames, known.lookup name = members.lookup name := by
  have hknown : ∀ name ∈ memberNames, (shape.fields.lookup name).isSome = true := by decide
  have hnodup := (Dictionary.ofList members).sorted.nodup
  refine ⟨(Dictionary.ofList members).entries.filter shape.knows, ?_, ?_, fun name hname => ?_⟩
  · exact RecordShape.namedFrom_eq_filter (fun _ _ => List.not_mem_nil) hnodup
  · exact hnodup.sublist (List.filter_sublist.map _)
  · rw [RecordShape.lookup_filter_knows (hknown name hname)]
    exact Dictionary.find?_ofList_of_nodup distinct name

/-- **A list and a record that give the same members end in the same way**, and an engine is made of
all settings that come of them.  The record may have further members, and its members may stand in
any order. -/
theorem ofEditor_list_record (few : values.length ≤ 6)
    (hlisted : listed.get? sectionName = some (.list values))
    (hnamed : named.get? sectionName = some (.record members))
    (distinct : (members.map (·.1)).Nodup)
    (given : ∀ name ∈ memberNames,
      members.lookup name = (memberNames.zip values).lookup name) :
    SameOutcome (ofEditor listed) (ofEditor named) ∧
      ∀ settings, ofEditor listed = .ok settings ∨ ofEditor named = .ok settings →
        settings.engine = .ok {
          dialect := settings.dialect
          database := settings.currentDatabase
          limit := settings.maxItems } := by
  obtain ⟨known, hknown, hnodup, hsame⟩ := exists_readings_record distinct
  have hlist : ofEditor listed = ofValue (.list values) := by
    simp only [ofEditor, hlisted, sorted]
  have hrecord : ofEditor named = ofValue (sorted (.record members)) := by
    simp only [ofEditor, hnamed]
  refine ⟨?_, fun settings h => h.elim engine_of_ofEditor engine_of_ofEditor⟩
  rw [hlist, hrecord]
  by_cases hvalues : values = []
  · -- an empty list is too short, and the record lacks its dialect
    subst hvalues
    have hmissing : known.lookup "databaseType" = none := by
      rw [hsame _ (by decide), given _ (by decide)]
      rfl
    obtain ⟨reason, hreason⟩ := ofValue_of_lookup_eq_none hknown hnodup hmissing
    rw [hreason]
    exact .unreadable _ _
  · refine ofValue_sameOutcome (readings_list hvalues few) hknown (nodup_zip_memberNames values)
      hnodup fun name hname => ?_
    rw [hsame name hname, given name hname]

end

/-- A list of four values, and a record with the same members in another order and one that means
nothing. -/
theorem ofEditor_list_record_four :
    let listed : Value := .record [(sectionName, .list [.text "pg", .text "c", .null, .integer 60])]
    let named : Value := .record [(sectionName, .record [("cacheTimeoutSecs", .integer 60),
      ("theme", .bool true), ("databaseType", .text "pg"), ("currentDatabase", .null),
      ("connectionId", .text "c")])]
    let settings : Settings := { dialect := .postgresql, connectionId := "c", cacheTimeout := 60 }
    ofEditor listed = .ok settings ∧ ofEditor named = .ok settings ∧
      settings.engine = .ok { dialect := .postgresql } := by
  intro listed named settings
  have hlisted : ofEditor listed = .ok settings := by rfl
  obtain ⟨hsame, hengine⟩ := @ofEditor_list_record listed named _ _
    (by decide) rfl rfl (by decide) (by
      simp only [memberNames, List.forall_mem_cons]
      exact ⟨rfl, rfl, rfl, rfl, rfl, rfl, nofun⟩)
  refine ⟨hlisted, ?_, hengine settings (.inl hlisted)⟩
  generalize ofEditor named = reading at hsame
  rw [hlisted] at hsame
  cases hsame
  rfl

end Settings

end QueryAssist
