import RemoteRecords.Payload.Target
import RemoteRecords.Wire.QueryEnvelope

/-! Records as read: related records by type, child rows out of their envelopes, stubs from keys. -/

namespace RemoteRecords.Payload

/-- The rows of a child relationship: nothing, an array, or an envelope that ends with its rows. -/
def childRows (field : FieldDescriptor) (held : Option Json) : Except Error (List Json) :=
  match held with
  | none | some .null => .ok []
  | some (.array rows) => .ok rows
  | some (.object members) =>
    match QueryEnvelope.ofJson? (.object members) with
    | none => .error (.codec .misshapen)
    | some envelope =>
      -- Rows that go on elsewhere would be lost, so they are refused.
      match envelope.nextRecordsUrl with
      | some next => .error (.tooManyRows (.childContinues field.name next))
      | none => .ok envelope.records
  | some other => .error (.codec (.notRows field.name other))

/-- A child row is smaller than the record that holds it. -/
theorem sizeOf_lt_of_childRows {field : FieldDescriptor} {record : Object} {rows : List Json}
    (read : childRows field (record.get? field.name) = .ok rows) {row : Json} (held : row ∈ rows) :
    sizeOf row < sizeOf record := by
  -- The rows are items of the member, directly or inside its envelope.
  cases found : record.get? field.name with
  | none => simp_all [childRows]
  | some value =>
    have outer := Json.sizeOf_lt_of_get? found
    rw [found] at read
    cases value with
    | null => simp_all [childRows]
    | array items =>
      -- A row is an item of the array.
      simp only [childRows, Except.ok.injEq] at read
      subst read
      have inner := List.sizeOf_lt_of_mem held
      simp only [Json.array.sizeOf_spec] at outer
      omega
    | object members =>
      -- A row is among the records of the envelope, which goes nowhere else.
      simp only [childRows] at read
      split at read
      · contradiction
      · rename_i envelope shaped
        split at read
        · contradiction
        · simp only [Except.ok.injEq] at read
          subst read
          have inner := QueryEnvelope.sizeOf_lt_of_mem_records shaped held
          simp only [Json.object.sizeOf_spec] at outer
          omega
    | bool | number | string => simp [childRows] at read

/-- Puts the type's name on a record of a polymorphic field. -/
def tagged (field : FieldDescriptor) (target : Descriptor) (value : Json) : Json :=
  if field.isPolymorphic then .object [(target.name, value)] else value

/-- A record that holds nothing but the identifier in the foreign-key column of a field. -/
def stub? (registry : Registry) (field : FieldDescriptor) (record : Object) : Option Json := do
  let key ← field.referenceKey
  let value ← Dict.get? record key
  -- Only a text can be an identifier, and the target needs a place for it.
  let id ← value.asString?
  let target ← registry.related? field
  let idField ← target.idField?
  pure (tagged field target (.object [(idField.name, .string id)]))

/-- The reading of the records inside a record, given their types. -/
abbrev Inside (record : Object) :=
  Descriptor → (inner : Object) → sizeOf inner < sizeOf record → Except Error Object

/-- Reads one child row, which has to be a record. -/
def readRow {record : Object} (inside : Inside record) (element : Descriptor) (row : Json)
    (smaller : sizeOf row < sizeOf record) : Except Error Json :=
  match row, smaller with
  | .object members, smaller =>
    (inside element members (Nat.lt_trans (by simp) smaller)).map .object
  | other, _ => .error (.codec (.notARecord element.name other))

/-- The child records of a field, one for each row. -/
def readChildren (registry : Registry) (record : Object) (inside : Inside record)
    (field : FieldDescriptor) : Except Error (List Json) :=
  match found : childRows field (record.get? field.name) with
  | .error error => .error error
  | .ok rows =>
    match record.get? field.name with
    | none | some .null => .ok []
    | some _ =>
      match registry.related? field with
      | none => .error (.codec (.noElementType field.name))
      | some element => rows.attach.mapM fun ⟨row, listed⟩ =>
          readRow inside element row (sizeOf_lt_of_childRows found listed)

/-- The related record of a field: an object as a record of its type, a bare foreign key as a stub. -/
def readRelated (registry : Registry) (owner : Descriptor) (record : Object)
    (inside : Inside record) (field : FieldDescriptor) : Except Error (Option Json) :=
  match held : record.get? field.name with
  | some (.object related) => do
    let target ← (registry.targetOf field (Attributes.typeOf? related)).mapError .codec
    let smaller : sizeOf related < sizeOf record :=
      Nat.lt_trans (by simp) (Json.sizeOf_lt_of_get? held)
    let members ← inside target related smaller
    pure (some (tagged field target (.object members)))
  | none | some .null => .ok (stub? registry field record)
  | some other => .error (.codec (.notRelated owner.name field.name other))

/-- The value of a field as read, if it has one. -/
def readField (registry : Registry) (owner : Descriptor) (record : Object) (inside : Inside record)
    (field : FieldDescriptor) : Except Error (Option Json) :=
  -- Metadata always travels under its own key, whatever the field is called.
  if field.isAttributes then .ok (record.get? Attributes.key)
  else if field.isChild then
    (readChildren registry record inside field).map fun rows => some (.array rows)
  else if field.isReference then readRelated registry owner record inside field
  else .ok (record.get? field.name)

/-- The members of a record as read, field by field. -/
def read (registry : Registry) (descriptor : Descriptor) (record : Object) :
    Except Error Object := do
  let inside : Inside record := fun target inner _smaller => read registry target inner
  let held ← descriptor.fields.mapM fun field => do
    -- A field without a value on the wire has none in the record.
    let value ← readField registry descriptor record inside field
    pure (value.map fun value => (field.name, value))
  pure (Dict.ofEntries (held.filterMap fun member => member))
termination_by sizeOf record

/-- A record as read from the wire. -/
def decode (registry : Registry) (descriptor : Descriptor) (value : Json) : Except Error Json :=
  match value with
  | .object members => (read registry descriptor members).map .object
  | other => .error (.codec (.notARecord descriptor.name other))

end RemoteRecords.Payload
