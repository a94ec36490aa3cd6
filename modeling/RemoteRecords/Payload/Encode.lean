import RemoteRecords.Payload.Target

/-! Payloads: what of a record is written, and how its relationships are. -/

namespace RemoteRecords

/-- Missing and null values are written as null. -/
def WriteIntent.forcesNulls : WriteIntent → Bool
  | .update => true
  | _ => false

/-- A field is written for an intent. Identifiers, metadata and child records never are, and audit
columns are not while they are protected. -/
def FieldDescriptor.writable (config : MappingConfig) (intent : WriteIntent)
    (field : FieldDescriptor) : Bool :=
  !field.isAttributes && !field.isId && !field.isChild &&
  !(field.audit && config.protectAuditFields) &&
  match intent with
  | .create => field.insertable
  | .patch | .update => field.updatable

namespace Payload

/-- Takes the type name off a record of a polymorphic field: an object with one member whose value
is an object and whose key is not that of metadata. -/
def untag (field : FieldDescriptor) (record : Object) : Option String × Object :=
  match field.isPolymorphic, record with
  -- Metadata alone is a record without values and not a type name around one.
  | true, [(tag, .object inner)] => if tag = Attributes.key then (none, record) else (some tag, inner)
  | _, _ => (none, record)

/-- Taking a type name off never makes a record larger. -/
theorem sizeOf_untag_le (field : FieldDescriptor) (record : Object) :
    sizeOf (untag field record).2 ≤ sizeOf record := by
  -- Either the record stays whole or what remains was inside it.
  unfold untag
  split
  · split
    · exact Nat.le_refl _
    · simp only [List.cons.sizeOf_spec, Prod.mk.sizeOf_spec, Json.object.sizeOf_spec,
        List.nil.sizeOf_spec]
      omega
  · exact Nat.le_refl _

/-- The column of a relationship that holds identifiers. -/
def keyOf (field : FieldDescriptor) : String :=
  field.referenceKey.getD field.name

/-- The encoding of the records inside a record, given their types. -/
abbrev Nested (record : Object) :=
  Descriptor → (inner : Object) → sizeOf inner < sizeOf record → Except CodecFault Object

/-- A related record is smaller than the record around it. -/
theorem sizeOf_untag_lt {record related : Object} {field : FieldDescriptor}
    (held : record.get? field.name = some (.object related)) :
    sizeOf (untag field related).2 < sizeOf record := by
  -- The related record is held by a member, and untagging does not enlarge it.
  have outer := Json.sizeOf_lt_of_get? held
  have inner := sizeOf_untag_le field related
  simp only [Json.object.sizeOf_spec] at outer
  omega

/-- The member that a relationship writes: an identifier under the foreign key, or a record without
an identifier as an object to be created. -/
def relationshipMember (registry : Registry) (owner : Descriptor) (record : Object)
    (intent : WriteIntent) (nested : Nested record) (field : FieldDescriptor) :
    Except CodecFault (Option (String × Json)) :=
  match held : record.get? field.name with
  | none | some .null => .ok (if intent.forcesNulls then some (keyOf field, .null) else none)
  -- A bare identifier is passed on as the key.
  | some (.string id) => .ok (some (keyOf field, .string id))
  | some (.object related) => do
    let (tag, inner) := untag field related
    let target ← registry.targetOf field (tag.orElse fun _ => Attributes.typeOf? inner)
    -- A record that is stored already is referred to and not written again.
    match target.idOf? inner with
    | some id => pure (some (keyOf field, .string id))
    | none => do
      let members ← nested target (untag field related).2 (sizeOf_untag_lt held)
      pure (some (field.name, .object members))
  | some other => .error (.badReference owner.name field.name other)

/-- The member that a field writes, if any. -/
def member? (registry : Registry) (owner : Descriptor) (record : Object) (intent : WriteIntent)
    (nested : Nested record) (field : FieldDescriptor) :
    Except CodecFault (Option (String × Json)) :=
  if !field.writable registry.config intent then .ok none
  else if field.isReference then relationshipMember registry owner record intent nested field
  else match record.get? field.name with
    | none | some .null => .ok (if intent.forcesNulls then some (field.name, .null) else none)
    | some value => .ok (some (field.name, value))

/-- The members of a payload, field by field after the metadata if there is any. -/
def members (registry : Registry) (descriptor : Descriptor) (record : Object)
    (intent : WriteIntent) (attributes : Option Attributes) : Except CodecFault Object := do
  -- Records inside a payload are always created and always state their type.
  let nested : Nested record := fun target inner _smaller =>
    members registry target inner .create (some { typeName := target.name })
  let written ← descriptor.fields.mapM (member? registry descriptor record intent nested)
  -- A field of the same key as the metadata is written over it.
  let start : Object := (attributes.map fun metadata => (Attributes.key, metadata.toJson)).toList
  pure (Dict.insertAll start (written.filterMap fun member => member))
termination_by sizeOf record

/-- The payload of a record. Records of metadata-aware types state their type. -/
def encode (registry : Registry) (descriptor : Descriptor) (record : Json) (intent : WriteIntent) :
    Except CodecFault Json :=
  match record with
  | .object fields =>
    let attributes : Option Attributes :=
      if descriptor.isMetadataAware then some { typeName := descriptor.name } else none
    (members registry descriptor fields intent attributes).map .object
  | _ => .error (.notAnObject descriptor.name)

end Payload

end RemoteRecords
