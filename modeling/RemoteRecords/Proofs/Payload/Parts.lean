import Mathlib.Logic.Relation
import RemoteRecords.Proofs.Payload.Columns
import RemoteRecords.Proofs.Payload.Image
import RemoteRecords.Proofs.Payload.Targets

/-! Parts: the records that are created inside a payload, at any depth. -/

namespace RemoteRecords

/-- Among stored entries and what a table held before, a value is found where it came from. -/
theorem Dict.get?_insertAll_cases {α : Type u} {entries : List (String × α)} {table : Dict α}
    {key : String} {value : α} (found : (table.insertAll entries).get? key = some value) :
    (key, value) ∈ entries ∨ (table.get? key = some value ∧ ∀ entry ∈ entries, entry.1 ≠ key) := by
  -- The induction is on the entries in the order in which they were stored.
  induction entries generalizing table with
  | nil => exact .inr ⟨found, by simp⟩
  | cons first rest ih =>
    -- The first entry was stored before the others, so it stands if none of them has its key.
    rcases ih found with later | ⟨before, apart⟩
    · exact .inl (List.mem_cons_of_mem _ later)
    · rw [get?_insert] at before
      split at before
      · rename_i same
        cases before
        exact .inl (same ▸ List.mem_cons_self)
      · rename_i differs
        refine .inr ⟨before, ?_⟩
        intro entry listed
        rcases List.mem_cons.mp listed with rfl | later
        · exact differs
        · exact apart entry later

namespace Payload

/-- A record that is written into a payload: the record itself or one that is created inside it. -/
structure Part where
  descriptor : Descriptor
  record : Object
  intent : WriteIntent
  payload : Object

/-- The payload of a part is what is written of its record, with or without its type stated. -/
def Part.Written (registry : Registry) (part : Part) : Prop :=
  ∃ stated : Bool, members registry part.descriptor part.record part.intent
    (if stated then some { typeName := part.descriptor.name } else none) = .ok part.payload

/-- A part is followed by the records that are created under the names of its relationships. -/
inductive Nests (registry : Registry) : Part → Part → Prop where
  | creation {outer : Part} {field : FieldDescriptor} {related payload : Object}
      {target : Descriptor} (declared : field ∈ outer.descriptor.fields)
      (writable : field.writable registry.config outer.intent)
      (relationship : field.isReference)
      (held : outer.record.get? field.name = some (.object related))
      (unstored : heldId? registry field (.object related) = none)
      (taken : registry.targetOf field (statedType field related) = .ok target)
      (stands : outer.payload.get? field.name = some (.object payload)) :
      Nests registry outer ⟨target, (untag field related).2, .create, payload⟩

variable {registry : Registry} {descriptor : Descriptor} {record payload : Object}
  {intent : WriteIntent} {part : Part}

/-- A value of a payload was written by a field, or it is metadata that no field wrote over. -/
theorem exists_writes_of_get? {attributes : Option Attributes}
    (encoded : members registry descriptor record intent attributes = .ok payload)
    {key : String} {value : Json} (found : payload.get? key = some value) :
    (∃ field ∈ descriptor.fields, Writes registry record intent field (some (key, value))) ∨
      ((header attributes).get? key = some value ∧ ∀ field ∈ descriptor.fields,
        ∃ member, Writes registry record intent field member ∧
          ∀ held, member ≠ some (key, held)) := by
  -- A value of a table was stored there by an entry or was in the table before.
  obtain ⟨written, each, rfl⟩ := exists_written_of_members encoded
  rcases Dict.get?_insertAll_cases found with listed | ⟨before, apart⟩
  · -- An entry is the member of the field that wrote it.
    obtain ⟨member, among, rfl⟩ := List.mem_filterMap.mp listed
    exact .inl (exists_left_of_forall₂ each among)
  · -- No member has the key, so each field wrote elsewhere or not at all.
    refine .inr ⟨before, ?_⟩
    intro field declared
    obtain ⟨member, among, writes⟩ := exists_left_of_forall₂ each.flip declared
    refine ⟨member, writes, ?_⟩
    rintro held rfl
    exact apart (key, held) (List.mem_filterMap.mpr ⟨_, among, rfl⟩) rfl

/-- A record that is not stored is created under the name of its relationship. -/
theorem Writes.created {field : FieldDescriptor} {member : Option (String × Json)}
    (writes : Writes registry record intent field member)
    (writable : field.writable registry.config intent = true)
    (relationship : field.isReference = true) {related : Object} {target : Descriptor}
    (held : record.get? field.name = some (.object related))
    (unstored : heldId? registry field (.object related) = none)
    (taken : registry.targetOf field (statedType field related) = .ok target) :
    ∃ inner, member = some (field.name, .object inner) ∧
      members registry target (untag field related).2 .create
        (some { typeName := target.name }) = .ok inner := by
  -- A record that is not stored is neither missing, plain nor an identifier.
  cases writes with
  | unwritable unwritable => simp [writable] at unwritable
  | absent missing => simp [held] at missing
  | forced _ missing => simp [held] at missing
  | value _ plain => simp [relationship] at plain
  | reference _ _ found stored =>
    cases held.symm.trans found
    simp [unstored] at stored
  | creation _ _ found _ again written =>
    cases held.symm.trans found
    cases taken.symm.trans again
    exact ⟨_, rfl, written⟩

/-- What stands under a key was written as a plain value under a name, as an identifier or null under
the key of a relationship, or as a record under the name of one. -/
theorem Writes.entry_cases {field : FieldDescriptor} {key : String} {value : Json}
    (writes : Writes registry record intent field (some (key, value))) :
    (field.isReference = false ∧ key = field.name ∧
        (value = .null ∨ record.get? field.name = some value)) ∨
      (field.isReference = true ∧ key = keyOf field ∧ (value = .null ∨ ∃ id, value = .string id)) ∨
      ∃ related target inner, field.isReference = true ∧ key = field.name ∧
        record.get? field.name = some (.object related) ∧
        heldId? registry field (.object related) = none ∧
        registry.targetOf field (statedType field related) = .ok target ∧ value = .object inner := by
  -- The six ways of writing a field leave four that write anything, and null is written in two.
  generalize same : some (key, value) = member at writes
  cases writes with
  | unwritable => cases same
  | absent => cases same
  | forced =>
    cases same
    cases relationship : field.isReference with
    | false => simp
    | true => simp
  | value _ plain held =>
    cases same
    exact .inl ⟨plain, rfl, .inr held⟩
  | reference _ relationship =>
    cases same
    exact .inr (.inl ⟨relationship, rfl, .inr ⟨_, rfl⟩⟩)
  | creation _ relationship held unstored taken =>
    cases same
    exact .inr (.inr ⟨_, _, _, relationship, rfl, held, unstored, taken, rfl⟩)

/-- What is nested in a part that was written has been written itself, of a published type. -/
theorem Nests.written {outer inner : Part} (nested : Nests registry outer inner)
    (represents : Registry.Represents registry)
    (once : (outer.descriptor.fields.map (·.name)).Nodup) (written : outer.Written registry) :
    inner.Written registry ∧ inner.descriptor ∈ registry.arena := by
  -- What is nested stands under the name of its relationship, so the question is who wrote it.
  obtain ⟨stated, encoded⟩ := written
  cases nested with
  | @creation field related payload target declared writable relationship held unstored taken
      stands =>
    refine ⟨⟨true, ?_⟩, (represents.admits_of_targetOf taken).1⟩
    rcases exists_writes_of_get? encoded stands with ⟨other, among, writes⟩ | ⟨-, silent⟩
    · -- Only a field of that name writes an object under it, so it is the relationship itself.
      have named : other.name = field.name := by
        rcases writes.entry_cases with ⟨-, own, -⟩ | ⟨-, -, null | ⟨id, text⟩⟩ | ⟨-, -, -, -, own, -⟩
        · exact own.symm
        · cases null
        · cases text
        · exact own.symm
      cases List.inj_on_of_nodup_map once among declared named
      obtain ⟨made, same, encoded⟩ := writes.created writable relationship held unstored taken
      cases same
      exact encoded
    · -- The relationship has written under its name, so that is not left to the metadata.
      obtain ⟨member, writes, elsewhere⟩ := silent field declared
      obtain ⟨made, same, -⟩ := writes.created writable relationship held unstored taken
      exact absurd same (elsewhere _)

/-- Whatever stands under a key of a part was written by a field, or it is the part's type. -/
theorem Part.Written.get?_cases (written : part.Written registry) {key : String} {value : Json}
    (found : part.payload.get? key = some value) :
    (∃ field ∈ part.descriptor.fields,
        Writes registry part.record part.intent field (some (key, value))) ∨
      (key = Attributes.key ∧ value = ({ typeName := part.descriptor.name } : Attributes).toJson) := by
  -- The payload starts from at most one entry, and fields wrote the rest.
  obtain ⟨stated, encoded⟩ := written
  refine (exists_writes_of_get? encoded found).imp_right ?_
  rintro ⟨metadata, -⟩
  -- Metadata has one key, if it is there at all.
  cases stated with
  | false => cases metadata
  | true =>
    simp only [header, if_true, Option.map_some, Option.toList_some, Dict.get?_cons] at metadata
    split at metadata
    · rename_i same
      exact ⟨same.symm, (Option.some.inj metadata).symm⟩
    · cases metadata

/-- An object in a payload is metadata, a plain value as it was, or what is nested in the part. -/
theorem Part.Written.object_cases (written : part.Written registry) {key : String} {inner : Object}
    (found : part.payload.get? key = some (.object inner)) :
    (key = Attributes.key ∧
        Json.object inner = ({ typeName := part.descriptor.name } : Attributes).toJson) ∨
      (∃ field ∈ part.descriptor.fields, field.isReference = false ∧ field.name = key ∧
        part.record.get? key = some (.object inner)) ∨
      ∃ nested, Nests registry part nested ∧ nested.payload = inner := by
  -- Of the entries that fields write, two kinds can be objects.
  rcases written.get?_cases found with ⟨field, declared, writes⟩ | metadata
  · have writable := writes.column.2
    rcases writes.entry_cases with ⟨plain, rfl, null | held⟩ | ⟨-, -, null | ⟨id, text⟩⟩ |
      ⟨related, target, made, relationship, rfl, held, unstored, taken, same⟩
    · -- Null is no object.
      cases null
    · exact .inr (.inl ⟨field, declared, plain, rfl, held⟩)
    · cases null
    · -- Neither is an identifier.
      cases text
    · exact .inr (.inr ⟨_, .creation declared writable relationship held unstored taken found, rfl⟩)
  · exact .inl metadata

end Payload

namespace Registry

open Payload

/-- Whatever is nested in a payload, at any depth, is itself the payload of a record of a published
type. -/
theorem written_of_nested {config : MappingConfig} {calls : List Lookup} {whole part : Part}
    (published : whole.descriptor ∈ (after config calls).arena)
    (written : whole.Written (after config calls))
    (reached : Relation.ReflTransGen (Nests (after config calls)) whole part) :
    part.Written (after config calls) ∧ part.descriptor ∈ (after config calls).arena := by
  -- The induction is on the depth at which a part is nested, and each step is one relationship.
  induction reached with
  | refl => exact ⟨written, published⟩
  | tail _ nested ih =>
    exact nested.written (after_represents config calls) (nodup_names_of_published ih.2) ih.1

end Registry

end RemoteRecords
