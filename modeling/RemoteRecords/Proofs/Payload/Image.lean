import RemoteRecords.Payload.Decode
import RemoteRecords.Proofs.Payload.Members
import RemoteRecords.Proofs.Registry.Published

/-! Images: what is read back of a created record, field by field. -/

namespace RemoteRecords

namespace Payload

/-- The record that holds an identifier and nothing else, of the type that a field leads to. -/
def idStub? (registry : Registry) (field : FieldDescriptor) (id : String) : Option Json := do
  let target ← registry.related? field
  let idField ← target.idField?
  pure (tagged field target (.object [(idField.name, .string id)]))

/-- What is read back of the records inside a record, given their types. -/
abbrev Restoring (record : Object) :=
  Descriptor → (inner : Object) → sizeOf inner < sizeOf record → Object

/-- What is read back of a relationship: a stored record as a stub, any other one as what is read
back of itself, under its type. -/
def restoredRelated? (registry : Registry) (record : Object) (inside : Restoring record)
    (field : FieldDescriptor) : Option Json :=
  match held : record.get? field.name with
  | some (.string id) => idStub? registry field id
  | some (.object related) =>
    match registry.targetOf field (statedType field related) with
    | .error _ => none
    | .ok target =>
      match target.idOf? (untag field related).2 with
      | some id => idStub? registry field id
      | none =>
        some (tagged field target
          (.object (inside target (untag field related).2 (sizeOf_untag_lt held))))
  | _ => none

/-- What is read back of a field: of metadata the type, of child records none, of a field that is
not written nothing, and a plain value as it was. -/
def restored? (registry : Registry) (owner : Descriptor) (record : Object)
    (inside : Restoring record) (field : FieldDescriptor) : Option Json :=
  if field.isAttributes then some ({ typeName := owner.name } : Attributes).toJson
  else if field.isChild then some (.array [])
  else if !field.writable registry.config .create then none
  else if field.isReference then restoredRelated? registry record inside field
  else (record.get? field.name).filter fun value => !value.isNull

/-- What is read back of a created record, field by field. -/
def image (registry : Registry) (descriptor : Descriptor) (record : Object) : Object :=
  Dict.ofEntries (descriptor.fields.filterMap fun field =>
    (restored? registry descriptor record
      (fun target inner _smaller => image registry target inner) field).map
        fun value => (field.name, value))
termination_by sizeOf record

/-- Records inside a record are read back like the record itself. -/
def imageInside (registry : Registry) (record : Object) : Restoring record :=
  fun target inner _smaller => image registry target inner

variable {registry : Registry} {descriptor : Descriptor} {record : Object} {field : FieldDescriptor}

/-- An image holds for each field what is read back of it. -/
theorem image_eq : image registry descriptor record =
    Dict.ofEntries (descriptor.fields.filterMap fun field =>
      (restored? registry descriptor record (imageInside registry record) field).map
        fun value => (field.name, value)) := by
  -- This is the definition, with the records inside named.
  rw [image]
  rfl

/-- Nothing is read back of a field that is not written, or no child records. -/
theorem restored?_of_not_writable {inside : Restoring record} (data : field.isAttributes = false)
    (unwritable : field.writable registry.config .create = false) :
    restored? registry descriptor record inside field =
      if field.isChild then some (.array []) else none := by
  -- A field that is not written is passed over behind metadata and child records.
  simp [restored?, data, unwritable]

/-- Nothing is read back of a field without a value, or no child records. -/
theorem restored?_of_missing {inside : Restoring record} (data : field.isAttributes = false)
    (missing : record.get? field.name = none ∨ record.get? field.name = some .null) :
    restored? registry descriptor record inside field =
      if field.isChild then some (.array []) else none := by
  -- Neither way of holding a value leads to one.
  have unrelated : restoredRelated? registry record inside field = none := by
    unfold restoredRelated?
    rcases missing with held | held
    · split <;> simp_all
    · split <;> simp_all
  have empty : ((record.get? field.name).filter fun value => !value.isNull) = none := by
    rcases missing with held | held <;> simp [held, Json.isNull]
  simp [restored?, data, unrelated, empty]

/-- A stored record is read back as a stub of its identifier. -/
theorem restoredRelated?_of_stored {inside : Restoring record} {value : Json} {id : String}
    (held : record.get? field.name = some value) (stored : heldId? registry field value = some id) :
    restoredRelated? registry record inside field = idStub? registry field id := by
  -- A stored record is held as a text or as a record with an identifier of its own.
  unfold restoredRelated?
  split
  · rename_i text found
    cases held.symm.trans found
    cases stored
    rfl
  · rename_i related found
    cases held.symm.trans found
    -- The identifier is that of the target which the record is taken for.
    simp only [heldId?] at stored
    cases taken : registry.targetOf field (statedType field related) with
    | error fault => simp [taken] at stored
    | ok target =>
      simp only [taken] at stored
      simp [stored]
  · -- No other value stands for an identifier.
    rename_i other _
    cases value <;> simp_all [heldId?]

/-- A record that is not stored is read back under its type. -/
theorem restoredRelated?_of_unstored {inside : Restoring record} {related : Object}
    {target : Descriptor} (held : record.get? field.name = some (.object related))
    (unstored : heldId? registry field (.object related) = none)
    (taken : registry.targetOf field (statedType field related) = .ok target) :
    restoredRelated? registry record inside field =
      some (tagged field target
        (.object (inside target (untag field related).2 (sizeOf_untag_lt held)))) := by
  -- Of the cases only that of a record is left, and in it the target has no identifier.
  simp only [heldId?, taken] at unstored
  unfold restoredRelated?
  split
  · rename_i found
    cases held.symm.trans found
  · rename_i found
    cases held.symm.trans found
    simp [taken, unstored]
  · rename_i other
    exact absurd held (other _)

end Payload

namespace Registry

open Payload

/-- An image holds for each field what is read back of it, and nothing under any other key. -/
theorem get?_image {config : MappingConfig} {calls : List Lookup} {descriptor : Descriptor}
    (published : descriptor ∈ (after config calls).arena) (record : Object) :
    (∀ field ∈ descriptor.fields, (image (after config calls) descriptor record).get? field.name =
      restored? (after config calls) descriptor record (imageInside (after config calls) record)
        field) ∧
    ∀ key, key ∉ descriptor.fields.map (·.name) →
      (image (after config calls) descriptor record).get? key = none := by
  -- Names are not repeated, so no field is stored over another.
  rw [image_eq]
  exact Dict.get?_ofEntries_filterMap (nodup_names_of_published published) _

end Registry

end RemoteRecords
