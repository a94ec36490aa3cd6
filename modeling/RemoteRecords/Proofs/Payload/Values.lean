import RemoteRecords.Proofs.Payload.Reading

/-! Values: what is read of a field, told from the values on the wire that the field looks at. -/

namespace RemoteRecords

namespace Payload

/-- The text of a value, if it is there and is one. -/
def textOf (held : Option Json) : Option String :=
  held.bind Json.asString?

/-- The child records that are read of rows, each as a record of the type of the field. -/
def rowValues (registry : Registry) (field : FieldDescriptor) (rows : List Json) :
    Except Error (List Json) :=
  match registry.related? field with
  | none => .error (.codec (.noElementType field.name))
  | some element => rows.mapM (decode registry element)

/-- The child records that are read of what a record holds under the name of a field. -/
def childValues (registry : Registry) (field : FieldDescriptor) (held : Option Json) :
    Except Error (List Json) :=
  match held with
  | none | some .null => .ok []
  | some container => childRows field (some container) >>= rowValues registry field

/-- The related record that is read of what a record holds under the name of a field. -/
def relatedValue (registry : Registry) (owner : Descriptor) (field : FieldDescriptor)
    (stub : Option Json) (held : Option Json) : Except Error (Option Json) :=
  match held with
  | some (.object related) =>
    match registry.targetOf field (Attributes.typeOf? related) with
    | .error fault => .error (.codec fault)
    | .ok target => (read registry target related).map fun inner =>
        some (tagged field target (.object inner))
  | none | some .null => .ok stub
  | some other => .error (.codec (.notRelated owner.name field.name other))

/-- What is read of a field of a record. -/
def fieldRead (registry : Registry) (descriptor : Descriptor) (wire : Object)
    (field : FieldDescriptor) : Except Error (Option Json) :=
  if field.isAttributes then .ok (wire.get? Attributes.key)
  else if field.isChild then
    (childValues registry field (wire.get? field.name)).map fun rows => some (.array rows)
  else if field.isReference then
    relatedValue registry descriptor field (stub? registry field wire) (wire.get? field.name)
  else .ok (wire.get? field.name)

/-- The member that is read of a field of a record. -/
def memberRead (registry : Registry) (descriptor : Descriptor) (wire : Object)
    (field : FieldDescriptor) : Except Error (Option (String × Json)) :=
  (fieldRead registry descriptor wire field).map fun value =>
    value.map fun value => (field.name, value)

variable {registry : Registry} {descriptor target : Descriptor} {wire wire' related : Object}
  {field : FieldDescriptor}

/-- Child records are read row by row. -/
theorem readChildren_eq :
    readChildren registry wire (readInside registry wire) field =
      childValues registry field (wire.get? field.name) := by
  -- Rows are read one by one in both, as records if they are objects.
  have row : ∀ {element : Descriptor} {row : Json} (smaller : sizeOf row < sizeOf wire),
      readRow (readInside registry wire) element row smaller = decode registry element row := by
    intro element row smaller
    cases row <;> rfl
  unfold readChildren
  simp only [row]
  generalize wire.get? field.name = held
  -- The rows are looked at before the value is, and a value without rows is refused by then.
  split
  · rename_i error refused
    cases held with
    | none => cases refused
    | some container => cases container <;> simp_all [childValues, childRows, bind, Except.bind]
  · rename_i rows found
    split
    · rfl
    · rfl
    · rename_i container given
      rw [childValues, found]
      · cases leads : registry.related? field with
        | none => simp [bind, Except.bind, rowValues, leads]
        | some element =>
          -- Rows are paired with their places for the sake of termination alone.
          simp only [bind, Except.bind, rowValues, leads]
          conv_rhs => rw [← List.attach_map_subtype_val rows, List.mapM_map]
          rfl
      · exact given

/-- A related record is read as one of its type. -/
theorem readRelated_eq :
    readRelated registry descriptor wire (readInside registry wire) field =
      relatedValue registry descriptor field (stub? registry field wire)
        (wire.get? field.name) := by
  -- The same values are told apart on both sides, and an object by its type.
  unfold readRelated
  split
  · rename_i related held
    simp only [held, relatedValue]
    cases registry.targetOf field (Attributes.typeOf? related) with
    | error fault => rfl
    | ok target =>
      simp only [readInside, Except.mapError, bind, Except.bind]
      cases read registry target related <;> rfl
  · rename_i held
    simp only [held, relatedValue]
  · rename_i held
    simp only [held, relatedValue]
  · rename_i other notNull notObject held
    cases other <;> simp_all [relatedValue]

/-- A field is read from the values that it looks at. -/
theorem readField_eq :
    readField registry descriptor wire (readInside registry wire) field =
      fieldRead registry descriptor wire field := by
  -- The two sides ask for the same kinds of fields, and each kind is read alike.
  rw [readField, fieldRead, readChildren_eq, readRelated_eq]

/-- A record is read field by field. -/
theorem read_eq : read registry descriptor wire =
    (descriptor.fields.mapM (memberRead registry descriptor wire)).map fun held =>
      Dict.ofEntries (held.filterMap fun member => member) := by
  -- Each field is read alike in both, so the runs over all fields are the same.
  have step : ∀ field, (do
      let value ← readField registry descriptor wire (readInside registry wire) field
      pure (value.map fun value => (field.name, value))) =
      memberRead registry descriptor wire field := by
    intro field
    rw [readField_eq, memberRead]
    cases fieldRead registry descriptor wire field <;> rfl
  rw [read]
  change (do
    let held ← descriptor.fields.mapM fun field => do
      let value ← readField registry descriptor wire (readInside registry wire) field
      pure (value.map fun value => (field.name, value))
    pure (Dict.ofEntries (held.filterMap fun member => member))) = _
  simp only [step]
  cases descriptor.fields.mapM (memberRead registry descriptor wire) <;> rfl

/-- A stub looks at nothing but the text under the foreign key. -/
theorem stub?_eq : stub? registry field wire = field.referenceKey.bind fun key =>
    (textOf (wire.get? key)).bind fun id => (registry.related? field).bind fun target =>
      target.idField?.map fun idField =>
        tagged field target (.object [(idField.name, .string id)]) := by
  -- Both sides ask for the same things one after the other, nested in different ways.
  simp only [stub?, pure, Option.bind_eq_bind, textOf, Option.map_eq_bind, Function.comp_def,
    Option.bind_assoc]

/-- Of two records the same is read of a field if they have the same metadata, the same value under
its name, and the same text under its foreign key. -/
theorem fieldRead_congr
    (metadata : field.isAttributes → wire.get? Attributes.key = wire'.get? Attributes.key)
    (named : field.isAttributes = false → wire.get? field.name = wire'.get? field.name)
    (foreign : ∀ key, field.referenceKey = some key →
      textOf (wire.get? key) = textOf (wire'.get? key)) :
    fieldRead registry descriptor wire field = fieldRead registry descriptor wire' field := by
  -- Metadata, a value, and a stub of the foreign key are all that a field can be read as.
  have stub : stub? registry field wire = stub? registry field wire' := by
    rw [stub?_eq, stub?_eq]
    cases column : field.referenceKey with
    | none => rfl
    | some key => simp [foreign key column]
  cases role : field.isAttributes with
  | true => simp [fieldRead, role, metadata role]
  | false => simp [fieldRead, role, named role, stub]

/-- A related record is read as what is read of it, under its type. -/
theorem memberRead_of_related {inner : Object} (data : field.isAttributes = false)
    (relationship : field.isReference) (held : wire.get? field.name = some (.object related))
    (taken : registry.targetOf field (Attributes.typeOf? related) = .ok target)
    (reads : read registry target related = .ok inner) :
    memberRead registry descriptor wire field =
      .ok (some (field.name, tagged field target (.object inner))) := by
  -- A relationship is neither metadata nor a child relationship, and its value is a record.
  have single := FieldDescriptor.isChild_of_isReference relationship
  simp [memberRead, fieldRead, data, single, relationship, held, relatedValue, taken, reads,
    Except.map]

end Payload

end RemoteRecords
