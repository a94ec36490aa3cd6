import Mathlib.Data.List.Nodup
import RemoteRecords.Payload.Encode
import RemoteRecords.Proofs.Registry.History

/-! Members: what each field writes into a payload, and what the payload holds in the end. -/

namespace RemoteRecords

namespace FieldDescriptor

/-- The keys under which a field can write: its own name and its foreign-key column. -/
def columns (field : FieldDescriptor) : List String :=
  field.name :: field.referenceKey.toList

variable {field : FieldDescriptor} {config : MappingConfig} {intent : WriteIntent}

/-- Metadata is never written. -/
theorem isAttributes_of_writable (writable : field.writable config intent) :
    field.isAttributes = false := by
  -- It is the first of the conditions for being written.
  simp only [FieldDescriptor.writable, Bool.and_eq_true, Bool.not_eq_true'] at writable
  exact writable.1.1.1.1

/-- Child records are never written. -/
theorem isChild_of_writable (writable : field.writable config intent) : field.isChild = false := by
  -- It is one of the conditions for being written.
  simp only [FieldDescriptor.writable, Bool.and_eq_true, Bool.not_eq_true'] at writable
  exact writable.1.1.2

/-- A relationship is no collection of child records. -/
theorem isChild_of_isReference (relationship : field.isReference) : field.isChild = false := by
  -- The kind of a field is one of the two.
  have kind : field.kind = .relationship := by simpa [isReference] using relationship
  simp [isChild, kind]

end FieldDescriptor

namespace Dict

variable {α : Type u}

/-- Entries of other keys leave a key alone. -/
theorem get?_insertAll_of_ne {entries : List (String × α)} {key : String}
    (apart : ∀ entry ∈ entries, entry.1 ≠ key) (table : Dict α) :
    (table.insertAll entries).get? key = table.get? key :=
  -- Storing under other keys, one after another, never touches the key.
  get?_foldl_insert_of_ne Prod.fst Prod.snd apart table

/-- The last entry of a key stands. -/
theorem get?_insertAll_of_last {before after : List (String × α)} {key : String} {value : α}
    (apart : ∀ entry ∈ after, entry.1 ≠ key) (table : Dict α) :
    (table.insertAll (before ++ (key, value) :: after)).get? key = some value := by
  -- The entry is stored over whatever came before, and nothing behind it has its key.
  rw [insertAll, List.foldl_append, List.foldl_cons, ← insertAll, ← insertAll,
    get?_insertAll_of_ne apart, get?_insert, if_pos rfl]

/-- A table of items with different names holds the value of each item under its name, and nothing
under any other key. -/
theorem get?_ofEntries_filterMap {β : Type} {items : List β} {name : β → String}
    (once : (items.map name).Nodup) (value : β → Option α) :
    (∀ item ∈ items, (ofEntries (items.filterMap fun item =>
      (value item).map fun held => (name item, held))).get? (name item) = value item) ∧
    ∀ key, key ∉ items.map name → (ofEntries (items.filterMap fun item =>
      (value item).map fun held => (name item, held))).get? key = none := by
  -- An entry of the list belongs to the item that has its key for a name.
  have entry : ∀ {key : String} {held : α}, (key, held) ∈ (items.filterMap fun item =>
      (value item).map fun held => (name item, held)) ↔
      ∃ item ∈ items, name item = key ∧ value item = some held := by
    intro key held
    simp only [List.mem_filterMap, Option.map_eq_some_iff, Prod.mk.injEq]
    constructor
    · rintro ⟨item, listed, stored, found, named, rfl⟩
      exact ⟨item, listed, named, found⟩
    · rintro ⟨item, listed, named, found⟩
      exact ⟨item, listed, held, found, named, rfl⟩
  refine ⟨fun item listed => ?_, fun key absent => ?_⟩
  · -- The name belongs to no other item, so all entries of the name agree.
    have alone : ∀ other ∈ items, name other = name item → other = item :=
      fun other among same => List.inj_on_of_nodup_map once among listed same
    cases found : value item with
    | none =>
      refine get?_insertAll_of_ne ?_ _
      rintro ⟨key, held⟩ stored same
      obtain ⟨other, among, named, found'⟩ := entry.mp stored
      rw [alone other among (named.trans same), found] at found'
      cases found'
    | some held =>
      refine get?_foldl_insert_of_mem Prod.fst Prod.snd
        ⟨_, entry.mpr ⟨item, listed, rfl, found⟩, rfl⟩ ?_ _
      rintro ⟨key, held'⟩ stored same
      obtain ⟨other, among, named, found'⟩ := entry.mp stored
      rw [alone other among (named.trans same), found] at found'
      exact (Option.some.inj found').symm
  · -- A key that names no item has no entry.
    refine get?_insertAll_of_ne ?_ _
    rintro ⟨key, held⟩ stored rfl
    obtain ⟨item, listed, rfl, -⟩ := entry.mp stored
    exact absent (List.mem_map_of_mem listed)

end Dict

namespace Payload

variable {registry : Registry} {owner descriptor : Descriptor} {record : Object}
  {intent : WriteIntent}

/-- Related records are created with their type stated, whatever the record around them is for. -/
def created (registry : Registry) (record : Object) : Nested record := fun target inner _smaller =>
  members registry target inner .create (some { typeName := target.name })

/-- A payload is what its fields write over the metadata, unless one of them fails. -/
theorem members_eq (attributes : Option Attributes) :
    members registry descriptor record intent attributes =
      (descriptor.fields.mapM
        (member? registry descriptor record intent (created registry record))).map fun written =>
          Dict.insertAll (attributes.map fun metadata => (Attributes.key, metadata.toJson)).toList
            (written.filterMap fun member => member) := by
  -- Running the fields and storing what they wrote is a run followed by a pure step.
  rw [members]
  change (do
    let written ← descriptor.fields.mapM
      (member? registry descriptor record intent (created registry record))
    pure (Dict.insertAll _ (written.filterMap fun member => member))) = _
  cases descriptor.fields.mapM
      (member? registry descriptor record intent (created registry record)) with
  | error fault => rfl
  | ok written => rfl

/-- A payload is written field by field over the metadata. -/
theorem members_eq_ok_iff {attributes : Option Attributes} {payload : Object} :
    members registry descriptor record intent attributes = .ok payload ↔
      ∃ written,
        List.Forall₂ (fun field member =>
          member? registry descriptor record intent (created registry record) field = .ok member)
          descriptor.fields written ∧
        payload = Dict.insertAll
          (attributes.map fun metadata => (Attributes.key, metadata.toJson)).toList
          (written.filterMap fun member => member) := by
  -- A run succeeds exactly if it has members, and the payload is made of these.
  rw [members_eq, map_eq_ok_iff]
  -- A list is written without an error exactly if each of its fields is.
  exact exists_congr fun written => and_congr mapM_eq_ok_iff eq_comm

/-- A payload of a record holds the members of its fields. -/
theorem encode_object_eq_ok_iff {payload : Json} :
    encode registry descriptor (.object record) intent = .ok payload ↔
      ∃ written, payload = .object written ∧
        members registry descriptor record intent
          (if descriptor.isMetadataAware then some { typeName := descriptor.name } else none) =
            .ok written := by
  -- A payload of a record is the object of its members, whatever fails while they are written.
  rw [encode, map_eq_ok_iff]
  exact exists_congr fun written => and_comm.trans (and_congr_left' eq_comm)

/-- The type that a related record states, around it or in its metadata. -/
def statedType (field : FieldDescriptor) (related : Object) : Option String :=
  (untag field related).1.orElse fun _ => Attributes.typeOf? (untag field related).2

/-- The identifier that a relationship's value stands for: a text as it is, a record by its own. -/
def heldId? (registry : Registry) (field : FieldDescriptor) : Json → Option String
  | .string id => some id
  | .object related =>
    match registry.targetOf field (statedType field related) with
    | .ok target => target.idOf? (untag field related).2
    | .error _ => none
  | _ => none

/-- What a field of a record writes: a member of the payload or nothing. -/
inductive Writes (registry : Registry) (record : Object) (intent : WriteIntent)
    (field : FieldDescriptor) : Option (String × Json) → Prop where
  | unwritable (unwritable : field.writable registry.config intent = false) :
      Writes registry record intent field none
  /-- A missing value is left out unless the intent forces nulls. -/
  | absent (missing : record.get? field.name = none ∨ record.get? field.name = some .null)
      (sparse : intent.forcesNulls = false) :
      Writes registry record intent field none
  | forced (writable : field.writable registry.config intent = true)
      (missing : record.get? field.name = none ∨ record.get? field.name = some .null)
      (full : intent.forcesNulls = true) :
      Writes registry record intent field
        (some (if field.isReference then keyOf field else field.name, .null))
  | value (writable : field.writable registry.config intent = true)
      (plain : field.isReference = false) {value : Json}
      (held : record.get? field.name = some value) (given : value ≠ .null) :
      Writes registry record intent field (some (field.name, value))
  /-- A stored record is referred to by its identifier. -/
  | reference (writable : field.writable registry.config intent = true)
      (relationship : field.isReference = true) {value : Json} {id : String}
      (held : record.get? field.name = some value)
      (stored : heldId? registry field value = some id) :
      Writes registry record intent field (some (keyOf field, .string id))
  /-- Any other related record is created along with the one around it. -/
  | creation (writable : field.writable registry.config intent = true)
      (relationship : field.isReference = true) {related inner : Object} {target : Descriptor}
      (held : record.get? field.name = some (.object related))
      (unstored : heldId? registry field (.object related) = none)
      (taken : registry.targetOf field (statedType field related) = .ok target)
      (written : members registry target (untag field related).2 .create
        (some { typeName := target.name }) = .ok inner) :
      Writes registry record intent field (some (field.name, .object inner))

section Field

variable {field : FieldDescriptor} {member : Option (String × Json)}

/-- A missing value is written as null if the intent forces that, and left out otherwise. -/
theorem writes_of_missing (writable : field.writable registry.config intent = true)
    (missing : record.get? field.name = none ∨ record.get? field.name = some .null) :
    Writes registry record intent field
      (if intent.forcesNulls then
        some (if field.isReference then keyOf field else field.name, .null)
      else none) := by
  -- The intent says whether null is forced.
  cases forces : intent.forcesNulls with
  | false => exact .absent missing forces
  | true => exact .forced writable missing forces

/-- A writable relationship writes what its value calls for. -/
theorem writes_of_relationshipMember (writable : field.writable registry.config intent = true)
    (relationship : field.isReference = true)
    (written : relationshipMember registry owner record intent (created registry record) field =
      .ok member) : Writes registry record intent field member := by
  -- The value of the relationship decides: nothing, a text, a record, or something else.
  unfold relationshipMember at written
  split at written
  · rename_i held
    cases written
    simpa [relationship] using writes_of_missing writable (.inl held)
  · rename_i held
    cases written
    simpa [relationship] using writes_of_missing writable (.inr held)
  · -- A text is the identifier itself.
    rename_i id held
    cases written
    exact .reference writable relationship held rfl
  · -- The target decides whether the related record has an identifier.
    rename_i related held
    simp only [bind, Except.bind] at written
    split at written
    · cases written
    · rename_i target taken
      have stated : registry.targetOf field (statedType field related) = .ok target := taken
      split at written
      · -- A related record with an identifier is referred to by it.
        rename_i id stored
        cases written
        exact .reference writable relationship held (by simp [heldId?, stated, stored])
      · -- One without an identifier is created along with its owner.
        rename_i unstored
        split at written
        · cases written
        · rename_i inner created
          cases written
          exact .creation writable relationship held (by simp [heldId?, stated, unstored]) stated
            created
  · cases written

/-- A field writes what its value calls for. -/
theorem writes_of_member?
    (written : member? registry owner record intent (created registry record) field = .ok member) :
    Writes registry record intent field member := by
  -- Whether a field is written at all is asked first, and whether it is a relationship then.
  cases writable : field.writable registry.config intent with
  | false =>
    simp only [member?, writable, Bool.not_false, if_true, Except.ok.injEq] at written
    exact written ▸ .unwritable writable
  | true =>
    simp only [member?, writable, Bool.not_true, Bool.false_eq_true, if_false] at written
    cases relationship : field.isReference with
    | true =>
      simp only [relationship, if_true] at written
      exact writes_of_relationshipMember writable relationship written
    | false =>
      simp only [relationship, Bool.false_eq_true, if_false] at written
      -- A plain value is passed on as it is.
      split at written
      · rename_i held
        cases written
        simpa [relationship] using writes_of_missing writable (.inl held)
      · rename_i held
        cases written
        simpa [relationship] using writes_of_missing writable (.inr held)
      · rename_i value given held
        cases written
        exact .value writable relationship held given

/-- A writable plain field with a value writes that value under its own name. -/
theorem Writes.eq_of_value (writes : Writes registry record intent field member)
    (writable : field.writable registry.config intent = true) (plain : field.isReference = false)
    {value : Json} (held : record.get? field.name = some value) (given : value ≠ .null) :
    member = some (field.name, value) := by
  -- Every other kind of member has a value or a field that contradicts what is given.
  cases writes with
  | unwritable unwritable => simp [writable] at unwritable
  | absent missing => simp [held, given] at missing
  | forced _ missing => simp [held, given] at missing
  | value _ _ found =>
    cases held.symm.trans found
    rfl
  | reference _ relationship => simp [plain] at relationship
  | creation _ relationship => simp [plain] at relationship

/-- A writable relationship to a stored record writes the record's identifier. -/
theorem Writes.eq_of_stored (writes : Writes registry record intent field member)
    (writable : field.writable registry.config intent = true)
    (relationship : field.isReference = true) {value : Json} {id : String}
    (held : record.get? field.name = some value) (stored : heldId? registry field value = some id) :
    member = some (keyOf field, .string id) := by
  -- Null stands for no identifier, so the value is not missing.
  have given : value ≠ .null := by
    rintro rfl
    cases stored
  cases writes with
  | unwritable unwritable => simp [writable] at unwritable
  | absent missing => simp [held, given] at missing
  | forced _ missing => simp [held, given] at missing
  | value _ plain => simp [relationship] at plain
  | reference _ _ found identified =>
    cases held.symm.trans found
    cases stored.symm.trans identified
    rfl
  | creation _ _ found unstored =>
    cases held.symm.trans found
    simp [stored] at unstored

/-- A writable field without a value writes null if the intent forces that. -/
theorem Writes.eq_of_missing (writes : Writes registry record intent field member)
    (writable : field.writable registry.config intent = true) (full : intent.forcesNulls = true)
    (missing : record.get? field.name = none ∨ record.get? field.name = some .null) :
    member = some (if field.isReference then keyOf field else field.name, .null) := by
  -- The value is missing, so of all ways to write it only a forced null is left.
  cases writes with
  | unwritable unwritable => simp [writable] at unwritable
  | absent _ sparse => simp [full] at sparse
  | forced => rfl
  | value _ _ held given => simp [held, given] at missing
  | @reference _ _ value id held stored =>
    -- Null stands for no identifier, so a value that does is not missing.
    have given : value ≠ .null := by
      rintro rfl
      cases stored
    simp [held, given] at missing
  | creation _ _ held => simp [held] at missing

/-- Whatever a field writes stands under one of its columns, and the field is writable. -/
theorem Writes.column {key : String} {value : Json}
    (writes : Writes registry record intent field (some (key, value))) :
    key ∈ field.columns ∧ field.writable registry.config intent = true := by
  -- Both its name and its foreign key are columns of a field.
  have foreign : keyOf field ∈ field.columns := by
    cases key : field.referenceKey <;> simp [keyOf, FieldDescriptor.columns, key]
  have own : field.name ∈ field.columns := List.mem_cons_self
  cases writes with
  | forced writable =>
    refine ⟨?_, writable⟩
    split
    · exact foreign
    · exact own
  | value writable => exact ⟨own, writable⟩
  | reference writable => exact ⟨foreign, writable⟩
  | creation writable => exact ⟨own, writable⟩

end Field

/-- A payload holds what each of the record's fields writes, over the metadata. -/
theorem exists_written_of_members {attributes : Option Attributes} {payload : Object}
    (encoded : members registry descriptor record intent attributes = .ok payload) :
    ∃ written, List.Forall₂ (Writes registry record intent) descriptor.fields written ∧
      payload = Dict.insertAll
        (attributes.map fun metadata => (Attributes.key, metadata.toJson)).toList
        (written.filterMap fun member => member) := by
  -- Each field has run without an error, so it has written what its value calls for.
  obtain ⟨written, each, rfl⟩ := members_eq_ok_iff.mp encoded
  exact ⟨written, each.imp fun field member => writes_of_member?, rfl⟩

end Payload

end RemoteRecords
