import QueryAssist.Data.Decode
import QueryAssist.Proofs.Text.Dictionary

/-!
# What is written and read back

Scalars, lists and records are written as data and read back.  This file has the parts from which
the round trip of a record is put together.

* `ReadsBack` — what is written is read back as it was.  `ReadsBack.list` and `ReadsBack.members`
  lift it to lists and to records with arbitrary names, `ReadsBack.required`, `ReadsBack.optional`
  and `ReadsBack.optional_orNull` to the members of a record.
* `RecordShape.Fits` — a record has its members in the order of the fields, and leaves out none but
  defaulted ones.
* `exists_members_of_fits` — such a record is read member by member.
* `namedFrom_eq_filter`, `positionalFrom_eq_zip` — what is read of members with distinct names, and of
  the items of a list.
* `RecordShape.Keeps` — a type whose values are written as records of a shape and read back without
  loss; `keeps_of_fits` says what is to be shown for it.
-/

namespace QueryAssist

variable {α : Type} {encode : α → Value} {read : Value → Decoded α}

/-! ## Values that stand for something -/

namespace Value

/-- Whether a value is sure not to be taken for a missing one. -/
def IsPresent : Value → Prop
  | null | plain _ => False
  | _ => True

/-- Where a value may be null, one that is present is read like any other. -/
theorem asOption_of_isPresent {value : Value} (h : value.IsPresent) :
    asOption read value = some <$> read value := by
  cases value with
  | null => exact h.elim
  | plain s => exact h.elim
  | _ => rfl

/-- The look-up of a member that may be left out. -/
theorem lookup_member? (name : String) (encode : α → Value) (value : Option α) (key : String) :
    (member? name encode value).lookup key = if key = name then value.map encode else none := by
  cases value with
  | none => simp [member?]
  | some a =>
    by_cases h : key = name
    · simp [member?, h]
    · simp [member?, List.lookup_cons, beq_eq_false_iff_ne.2 h, h]

/-- A name of a list of names with values finds its value. -/
theorem asVariant_text {variants : List (String × α)} {name : String} {variant : α}
    (h : variants.lookup name = some variant) : asVariant variants (text name) = .ok variant := by
  simp only [asVariant, h]

end Value

open Value

/-! ## Reading back -/

/-- What is written is no missing value, and is read back as it was. -/
structure ReadsBack (encode : α → Value) (read : Value → Decoded α) : Prop where
  isPresent : ∀ a, (encode a).IsPresent
  read_encode : ∀ a, read (encode a) = .ok a

theorem readsBack_text : ReadsBack .text asText :=
  ⟨fun _ => trivial, fun _ => rfl⟩

theorem readsBack_bool : ReadsBack .bool asBool :=
  ⟨fun _ => trivial, fun _ => rfl⟩

namespace ReadsBack

/-- Lists are read back if their items are. -/
theorem list (h : ReadsBack encode read) :
    ReadsBack (fun items => .list (items.map encode)) (asList read) := by
  refine ⟨fun _ => trivial, fun items => ?_⟩
  have hread : read ∘ encode = fun a => pure a := funext h.read_encode
  rw [asList, List.mapM_map, hread, List.mapM_pure, List.map_id']
  rfl

/-- Records with arbitrary names are read back if their values are. -/
theorem members (h : ReadsBack encode read) :
    ReadsBack (fun entries => .record (entries.map fun entry => (entry.1, encode entry.2)))
      (asMembers read) := by
  refine ⟨fun _ => trivial, fun entries => ?_⟩
  have hread : ∀ entry : String × α, (entry.1, ·) <$> read (encode entry.2) = pure entry := by
    intro entry
    rw [h.read_encode]
    rfl
  have hentries : entries.mapM (fun entry => (entry.1, ·) <$> read (encode entry.2)) =
      Except.ok entries := by
    rw [funext hread, List.mapM_pure, List.map_id']
    rfl
  rw [asMembers, List.mapM_map]
  exact hentries

section

variable {members : List (String × Value)} {name : String}

/-- A member that must be there, when it is. -/
theorem required (h : ReadsBack encode read) {a : α}
    (hlookup : members.lookup name = some (encode a)) :
    Decoded.required members name read = .ok a := by
  simp only [Decoded.required, hlookup, h.read_encode]

/-- A member with a default, when it is there. -/
theorem orDefault (h : ReadsBack encode read) {a default : α}
    (hlookup : members.lookup name = some (encode a)) :
    Decoded.orDefault members name read default = .ok a := by
  simp only [Decoded.orDefault, hlookup, h.read_encode]

/-- A member that is left out when there is nothing to say. -/
theorem optional (h : ReadsBack encode read) {value : Option α}
    (hlookup : members.lookup name = value.map encode) :
    Decoded.optional members name read = .ok value := by
  rw [Decoded.optional, Decoded.orDefault, hlookup]
  cases value with
  | none => rfl
  | some a =>
    simp only [Option.map_some, asOption_of_isPresent (h.isPresent a), h.read_encode]
    rfl

/-- A member that is null when there is nothing to say. -/
theorem optional_orNull (h : ReadsBack encode read) {value : Option α}
    (hlookup : members.lookup name = some (orNull encode value)) :
    Decoded.optional members name read = .ok value := by
  rw [Decoded.optional, Decoded.orDefault, hlookup]
  cases value with
  | none => rfl
  | some a =>
    have horNull : orNull encode (some a) = encode a := rfl
    simp only [horNull, asOption_of_isPresent (h.isPresent a), h.read_encode]
    rfl

end

end ReadsBack

theorem readsBack_texts : ReadsBack .texts (asList asText) :=
  readsBack_text.list

/-! ## Members that may be left out -/

namespace Decoded

variable {default : α}

theorem orDefault_singleton (key name : String) (value : Value) :
    orDefault [(key, value)] name read default =
      if name = key then read value else .ok default := by
  simp only [orDefault, Entries.lookup_cons, List.lookup_nil]
  by_cases h : name = key <;> simp [h]

/-- A member that may be left out is looked for at the front and then among the other members. -/
theorem orDefault_cons_eq_ok_iff {member : String × Value} {members : List (String × Value)}
    (fresh : members.lookup member.1 = none) {name : String} {result : α} :
    orDefault (member :: members) name read default = .ok result ↔
      ∃ middle, orDefault [member] name read default = .ok middle ∧
        orDefault members name read middle = .ok result := by
  obtain ⟨key, value⟩ := member
  simp only [orDefault, Entries.lookup_cons]
  by_cases h : name = key
  · subst h
    simp [fresh]
  · simp [h]

/-- A mapped reading gives what its mapping makes of what was read. -/
theorem map_eq_ok_iff {ε β : Type} {f : α → β} {reading : Except ε α} {b : β} :
    f <$> reading = .ok b ↔ ∃ a, reading = .ok a ∧ f a = b := by
  cases reading <;> simp [Functor.map, Except.map]

/-- Two readings one after the other give a result if both do. -/
theorem bind_eq_ok_iff {ε β : Type} {f : α → Except ε β} {reading : Except ε α} {b : β} :
    reading >>= f = .ok b ↔ ∃ a, reading = .ok a ∧ f a = .ok b := by
  cases reading <;> simp [Bind.bind, Except.bind]

end Decoded

/-! ## Records of a shape -/

/-- Members that stand in the order of some fields, of which only defaulted ones are left out. -/
inductive FitsFields : List (String × Presence) → List (String × Value) → Prop
  | nil : FitsFields [] []
  | given {name : String} {presence : Presence} {value : Value}
      {fields : List (String × Presence)} {members : List (String × Value)}
      (h : FitsFields fields members) :
      FitsFields ((name, presence) :: fields) ((name, value) :: members)
  | leftOut {name : String} {fields : List (String × Presence)} {members : List (String × Value)}
      (h : FitsFields fields members) : FitsFields ((name, .defaulted) :: fields) members

namespace FitsFields

variable {fields fields' : List (String × Presence)} {members members' : List (String × Value)}

/-- The members are some of the fields, in their order. -/
theorem sublist (h : FitsFields fields members) :
    (members.map (·.1)).Sublist (fields.map (·.1)) := by
  induction h with
  | nil => exact List.Sublist.slnil
  | given _ ih => exact ih.cons_cons _
  | leftOut _ ih => exact ih.cons _

theorem append (h : FitsFields fields members) (h' : FitsFields fields' members') :
    FitsFields (fields ++ fields') (members ++ members') := by
  induction h with
  | nil => exact h'
  | given _ ih => exact .given ih
  | leftOut _ ih => exact .leftOut ih

/-- A defaulted member may be left out when there is nothing to say. -/
theorem member? (name : String) (encode : α → Value) (value : Option α) :
    FitsFields [(name, .defaulted)] (Value.member? name encode value) := by
  cases value with
  | none => exact .leftOut .nil
  | some a => exact .given .nil

end FitsFields

namespace RecordShape

variable {shape : RecordShape}

/-- Whether a value is a record whose members stand in the order of the fields of a shape, with none
left out but defaulted ones. -/
def Fits (shape : RecordShape) : Value → Prop
  | .record members => FitsFields shape.fields members
  | _ => False

/-- Whether a member belongs to a field. -/
def knows (shape : RecordShape) (member : String × Value) : Bool :=
  (shape.fields.lookup member.1).isSome

/-- **Members with distinct names are read one by one**, those that belong to no field apart. -/
theorem namedFrom_eq_filter {seen : List String} {members : List (String × Value)}
    (fresh : ∀ name ∈ members.map (·.1), name ∉ seen) (nodup : (members.map (·.1)).Nodup) :
    shape.namedFrom seen members = (members.filter shape.knows).map .ok := by
  induction members generalizing seen with
  | nil => rfl
  | cons member members ih =>
    obtain ⟨name, value⟩ := member
    rw [List.map_cons, List.nodup_cons] at nodup
    rw [List.map_cons, List.forall_mem_cons] at fresh
    by_cases hknown : shape.knows (name, value) = true
    · have hfresh : ∀ other ∈ members.map (·.1), other ∉ name :: seen := by
        intro other hother hmem
        rcases List.mem_cons.1 hmem with rfl | hseen
        · exact nodup.1 hother
        · exact fresh.2 other hother hseen
      have hsome : (shape.fields.lookup name).isNone = false := Option.isNone_eq_false_iff.2 hknown
      rw [namedFrom, hsome, if_neg Bool.false_ne_true, if_neg fresh.1, ih hfresh nodup.2,
        List.filter_cons_of_pos hknown, List.map_cons]
    · have hnone : (shape.fields.lookup name).isNone = true :=
        Option.isNone_iff_eq_none.2 (Option.not_isSome_iff_eq_none.1 hknown)
      rw [namedFrom, if_pos hnone, ih fresh.2 nodup.2, List.filter_cons_of_neg hknown]

/-- Members that belong to fields and have distinct names are read one by one. -/
theorem namedFrom_of_nodup {seen : List String} {members : List (String × Value)}
    (known : ∀ name ∈ members.map (·.1), (shape.fields.lookup name).isSome = true)
    (fresh : ∀ name ∈ members.map (·.1), name ∉ seen) (nodup : (members.map (·.1)).Nodup) :
    shape.namedFrom seen members = members.map .ok := by
  have hknown : ∀ member ∈ members, shape.knows member = true :=
    fun member hmember => known member.1 (List.mem_map_of_mem hmember)
  rw [namedFrom_eq_filter fresh nodup, List.filter_eq_self.2 hknown]

/-- A member that belongs to a field is found among those that do. -/
theorem lookup_filter_knows {name : String} (h : (shape.fields.lookup name).isSome = true)
    (members : List (String × Value)) :
    (members.filter shape.knows).lookup name = members.lookup name := by
  induction members with
  | nil => rfl
  | cons member members ih =>
    by_cases hknown : shape.knows member = true
    · rw [List.filter_cons_of_pos hknown, Entries.lookup_cons, Entries.lookup_cons, ih]
    · have hne : name ≠ member.1 := by
        rintro rfl
        exact hknown h
      rw [List.filter_cons_of_neg hknown, ih, Entries.lookup_cons, if_neg hne]

/-- **The items of a list are read one by one as members of the fields**, if there are not too many
and only defaulted fields are left. -/
theorem positionalFrom_eq_zip {total : Nat} {fields : List (String × Presence)} {items : List Value}
    (few : items.length ≤ fields.length)
    (rest : ∀ field ∈ fields.drop items.length, field.2 = .defaulted) :
    shape.positionalFrom total fields items = ((fields.map (·.1)).zip items).map .ok := by
  induction items generalizing fields with
  | nil =>
    cases fields with
    | nil => rfl
    | cons field fields =>
      have hall : (field :: fields).all (·.2 == .defaulted) = true :=
        List.all_eq_true.2 fun other hother => beq_iff_eq.2 (rest other hother)
      rw [positionalFrom, if_pos hall]
      · rfl
      · simp
  | cons item items ih =>
    cases fields with
    | nil => simp at few
    | cons field fields =>
      rw [positionalFrom, ih (Nat.le_of_succ_le_succ few) rest]
      rfl

/-- **A record that fits is read member by member.** -/
theorem exists_members_of_fits {value : Value} (h : shape.Fits value)
    (distinct : (shape.fields.map (·.1)).Nodup) :
    ∃ members, shape.members value = .ok members ∧
      ∀ name, members.lookup name = value.get? name := by
  cases value with
  | record members =>
    refine ⟨members, ?_, fun _ => rfl⟩
    have hsublist := FitsFields.sublist h
    have known : ∀ name ∈ members.map (·.1), (shape.fields.lookup name).isSome = true := by
      intro name hname
      obtain ⟨field, hfield, rfl⟩ := List.mem_map.1 (hsublist.mem hname)
      exact List.lookup_isSome_iff.2 ⟨field, hfield, beq_self_eq_true _⟩
    have hnamed : shape.namedFrom [] members = members.map .ok :=
      namedFrom_of_nodup known (fun _ _ => List.not_mem_nil) (distinct.sublist hsublist)
    have hid : (id ∘ Except.ok : String × Value → Decoded (String × Value)) = fun m => pure m := rfl
    rw [RecordShape.members, readings, hnamed, List.mapM_map, hid, List.mapM_pure, List.map_id']
    rfl
  | _ => exact h.elim

/-- A type whose values are written as records of a shape and read back without loss. -/
structure Keeps (shape : RecordShape) (encode : α → Value) (decode : Value → Decoded α) :
    Prop where
  /-- the members are fields of the shape in their order, and none is left out that must be given -/
  fits : ∀ a, shape.Fits (encode a)
  /-- what is written is read back as it was -/
  decode_encode : ∀ a, decode (encode a) = .ok a
  /-- what was read, whatever value it was read from, stays as it is when it is written and read -/
  decode_encode_of_decode : ∀ value a, decode value = .ok a → decode (encode a) = decode value

/-- A type keeps its values if they fit its shape, its fields have distinct names, and every value
is read from its own members. -/
theorem keeps_of_fits {decode : Value → Decoded α} (fits : ∀ a, shape.Fits (encode a))
    (distinct : (shape.fields.map (·.1)).Nodup)
    (reads : ∀ a members, shape.members (encode a) = .ok members →
      (∀ name, members.lookup name = (encode a).get? name) → decode (encode a) = .ok a) :
    shape.Keeps encode decode := by
  have hdecode : ∀ a, decode (encode a) = .ok a := by
    intro a
    obtain ⟨members, hmembers, hlookup⟩ := exists_members_of_fits (fits a) distinct
    exact reads a members hmembers hlookup
  exact ⟨fits, hdecode, fun _ a h => (hdecode a).trans h.symm⟩

/-- Values of such a type are read back where they are members of others. -/
theorem Keeps.readsBack {decode : Value → Decoded α} (h : shape.Keeps encode decode) :
    ReadsBack encode decode := by
  refine ⟨fun a => ?_, h.decode_encode⟩
  have hfits := h.fits a
  cases hvalue : encode a with
  | record members => trivial
  | _ =>
    rw [hvalue] at hfits
    exact hfits.elim

end RecordShape

end QueryAssist
