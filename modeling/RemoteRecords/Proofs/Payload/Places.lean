import Mathlib.Logic.Relation
import RemoteRecords.Proofs.Dict
import RemoteRecords.Proofs.Payload.Reading
import RemoteRecords.Proofs.Payload.Rows
import RemoteRecords.Proofs.Payload.Values
import RemoteRecords.Proofs.Registry.Published

/-! Places: the records inside a record that is read, each beside what was read of it. -/

namespace RemoteRecords

namespace Payload

/-- A record on the wire, the type that it is read as, and the record that is read. -/
structure Place where
  descriptor : Descriptor
  wire : Object
  record : Object

/-- A place stands directly inside another one, on the wire as well as in the record. -/
inductive Within (registry : Registry) : Place → Place → Prop where
  | related {place : Place} {target : Descriptor} {related inner : Object} {field : FieldDescriptor}
      (declared : field ∈ place.descriptor.fields) (relationship : field.isReference)
      (held : place.wire.get? field.name = some (.object related))
      (taken : registry.targetOf field (Attributes.typeOf? related) = .ok target)
      (shown : place.record.get? field.name = some (tagged field target (.object inner))) :
      Within registry place ⟨target, related, inner⟩
  | row {place : Place} {element : Descriptor} {row inner : Object} {field : FieldDescriptor}
      {rows values : List Json} (declared : field ∈ place.descriptor.fields) (child : field.isChild)
      (leads : registry.related? field = some element)
      (held : Rows (place.wire.get? field.name) rows)
      (shown : place.record.get? field.name = some (.array values))
      (beside : (.object row, .object inner) ∈ rows.zip values) :
      Within registry place ⟨element, row, inner⟩

/-- The record of a place shows all the records that there are on the wire. -/
structure Place.Complete (registry : Registry) (place : Place) : Prop where
  related : ∀ field ∈ place.descriptor.fields, field.isReference → ∀ related,
    place.wire.get? field.name = some (.object related) → ∃ target inner,
      place.record.get? field.name = some (tagged field target (.object inner)) ∧
        Within registry place ⟨target, related, inner⟩
  children : ∀ field ∈ place.descriptor.fields, field.isChild → ∃ element rows values,
    registry.related? field = some element ∧ Rows (place.wire.get? field.name) rows ∧
      place.record.get? field.name = some (.array values) ∧
      List.Forall₂ (fun row value => decode registry element row = .ok value ∧
        ∃ members inner, row = .object members ∧ value = .object inner ∧
          Within registry place ⟨element, members, inner⟩) rows values

/-- What a place holds of its own: members of declared fields, and stubs with identifiers alone. -/
structure Place.Declared (registry : Registry) (place : Place) : Prop where
  keys : ∀ key ∈ place.record.keys, ∃ field ∈ place.descriptor.fields, field.name = key
  stubs : ∀ field ∈ place.descriptor.fields, field.isReference →
    (place.wire.get? field.name = none ∨ place.wire.get? field.name = some .null) →
    ∀ value, place.record.get? field.name = some value → ∃ target idField id,
      registry.related? field = some target ∧ idField ∈ target.fields ∧
        value = tagged field target (.object [(idField.name, .string id)])

/-- A record is told from what stands under its type's name. -/
theorem tagged_injective {field : FieldDescriptor} {target : Descriptor} {left right : Json}
    (same : tagged field target left = tagged field target right) : left = right := by
  -- A record stands alone or under a name, which can be taken off again.
  unfold tagged at same
  split at same
  · simpa using same
  · exact same

/-- A record holds no keys but the names of its declared fields. -/
theorem exists_declared_of_read {registry : Registry} {descriptor : Descriptor}
    {wire record : Object} (decoded : read registry descriptor wire = .ok record) {key : String}
    (held : key ∈ record.keys) : ∃ field ∈ descriptor.fields, field.name = key := by
  -- A record is stored from the members that were read, and each of them carries a name.
  rw [read_eq, map_eq_ok_iff] at decoded
  obtain ⟨members, run, rfl⟩ := decoded
  -- An entry of the record is a member that was read of a field, under the name of the field.
  obtain ⟨entry, listed, rfl⟩ := List.mem_map.mp held
  have stored : some entry ∈ members := by
    simpa [List.mem_filterMap] using Dict.mem_ofEntries listed
  obtain ⟨field, declared, found⟩ := exists_left_of_forall₂ (mapM_eq_ok_iff.mp run) stored
  obtain ⟨value, -, named⟩ := map_eq_ok_iff.mp found
  obtain ⟨inner, -, same⟩ := Option.map_eq_some_iff.mp named
  exact ⟨field, declared, congrArg Prod.fst same⟩

/-- The place is one of a published type, and its record is what is read there. -/
def Place.Read (registry : Registry) (place : Place) : Prop :=
  place.descriptor ∈ registry.arena ∧
    read registry place.descriptor place.wire = .ok place.record

section Published

open Registry

variable {config : MappingConfig} {calls : List Lookup} {place inner : Place}
  {field : FieldDescriptor}

/-- Child records are read of all rows there are, one record for each. -/
theorem exists_children_of_read (reads : place.Read (after config calls))
    (declared : field ∈ place.descriptor.fields) (child : field.isChild) :
    ∃ element rows values, (after config calls).related? field = some element ∧
      Rows (place.wire.get? field.name) rows ∧
      place.record.get? field.name = some (.array values) ∧
      List.Forall₂ (fun row value => decode (after config calls) element row = .ok value)
        rows values := by
  -- The reading has not failed, so the child records were read as well.
  obtain ⟨published, decoded⟩ := reads
  have held := readField_eq_of_read (nodup_names_of_published published) decoded declared
  have data := (role_of_children published declared child).1
  rw [readField_eq, fieldRead] at held
  simp only [data, child, Bool.false_eq_true, if_false, if_true, map_eq_ok_iff] at held
  obtain ⟨values, taken, shown⟩ := held
  -- A child relationship leads to a published type.
  have linked : ∃ element, (after config calls).related? field = some element := by
    obtain ⟨id, link⟩ := Option.isSome_iff_exists.mp (Bool.and_eq_true_iff.mp child).2
    obtain ⟨element, found⟩ :=
      (after_closed config calls place.descriptor published field declared).1 id link
    exact ⟨element, by rw [related?, link, Option.bind_some, found]⟩
  obtain ⟨element, leads⟩ := linked
  -- No value has no rows, and the rows of any other value were read one by one.
  unfold childValues at taken
  split at taken
  · rename_i missing
    cases taken
    exact ⟨element, [], [], leads, missing ▸ .missing, shown.symm, .nil⟩
  · rename_i null
    cases taken
    exact ⟨element, [], [], leads, null ▸ .null, shown.symm, .nil⟩
  · rename_i container held
    obtain ⟨rows, found, each⟩ := exists_of_bind_eq_ok taken
    rw [rowValues, leads] at each
    exact ⟨element, rows, values, leads, held ▸ rows_of_childRows found, shown.symm,
      mapM_eq_ok_iff.mp each⟩

/-- A related record is read as one of its type. -/
theorem exists_related_of_read (reads : place.Read (after config calls))
    (declared : field ∈ place.descriptor.fields) (relationship : field.isReference)
    {related : Object} (held : place.wire.get? field.name = some (.object related)) :
    ∃ target inner, (after config calls).targetOf field (Attributes.typeOf? related) = .ok target ∧
      place.record.get? field.name = some (tagged field target (.object inner)) ∧
      read (after config calls) target related = .ok inner := by
  -- Of the two ways of reading a relationship, a stub is made only where there is no record.
  obtain ⟨published, decoded⟩ := reads
  have shown := readsRelated_of_read (nodup_names_of_published published) decoded declared
    relationship (role_of_relationship published declared relationship).1
  generalize place.record.get? field.name = value at shown
  cases shown with
  | whole held' taken read =>
    cases held.symm.trans held'
    exact ⟨_, _, taken, rfl, read⟩
  | stub missing => simp [held] at missing

/-- What stands inside a place that was read was read as well. -/
theorem Place.Read.within (reads : place.Read (after config calls))
    (inside : Within (after config calls) place inner) : inner.Read (after config calls) := by
  -- A place inside is that of a related record or of a row.
  cases inside with
  | related declared relationship held taken shown =>
    obtain ⟨target, members, taken', shown', read⟩ :=
      exists_related_of_read reads declared relationship held
    -- The same value is on the wire, so the same type was taken for it.
    cases taken.symm.trans taken'
    have same := tagged_injective (Option.some.inj (shown.symm.trans shown'))
    cases same
    exact ⟨((after_represents config calls).admits_of_targetOf taken).1, read⟩
  | row declared child leads held shown beside =>
    obtain ⟨element, rows, values, leads', held', shown', each⟩ :=
      exists_children_of_read reads declared child
    -- The rows are told from their value, and each of them was read into the value beside it.
    cases leads.symm.trans leads'
    cases held.unique held'
    cases shown.symm.trans shown'
    have decoded := (List.forall₂_iff_zip.mp each).2 beside
    obtain ⟨record, same, read⟩ := decode_object_eq_ok_iff.mp decoded
    cases same
    exact ⟨mem_arena_of_related? leads, read⟩

/-- All places inside one that was read were read. -/
theorem Place.Read.inside (reads : place.Read (after config calls))
    (inside : Relation.ReflTransGen (Within (after config calls)) place inner) :
    inner.Read (after config calls) := by
  -- The induction is on the steps that lead inside.
  induction inside with
  | refl => exact reads
  | tail _ step ih => exact ih.within step

/-- A record that was read shows all records there are on the wire. -/
theorem Place.Read.complete (reads : place.Read (after config calls)) :
    place.Complete (after config calls) where
  related field declared relationship related held := by
    -- A record on the wire was read, and stands where it was read.
    obtain ⟨target, inner, taken, shown, -⟩ :=
      exists_related_of_read reads declared relationship held
    exact ⟨target, inner, shown, .related declared relationship held taken shown⟩
  children field declared child := by
    -- Rows and values go in pairs, and each pair is a place inside.
    obtain ⟨element, rows, values, leads, held, shown, each⟩ :=
      exists_children_of_read reads declared child
    refine ⟨element, rows, values, leads, held, shown, List.forall₂_iff_zip.mpr
      ⟨each.length_eq, fun {row value} beside => ?_⟩⟩
    have decoded := (List.forall₂_iff_zip.mp each).2 beside
    refine ⟨decoded, ?_⟩
    -- What is read as a record is a record.
    cases row with
    | object members =>
      obtain ⟨inner, rfl, -⟩ := decode_object_eq_ok_iff.mp decoded
      exact ⟨members, inner, rfl, rfl, .row declared child leads held shown beside⟩
    | null | bool | number | string | array => cases decoded

/-- A record that was read holds declared members and stubs alone. -/
theorem Place.Read.declared (reads : place.Read (after config calls)) :
    place.Declared (after config calls) where
  keys _ held := exists_declared_of_read reads.2 held
  stubs field declared relationship missing value shown := by
    -- A value that the wire does not have can only be a stub.
    obtain ⟨published, decoded⟩ := reads
    rw [eq_stub?_of_read (nodup_names_of_published published) decoded declared relationship
      (role_of_relationship published declared relationship).1 missing] at shown
    obtain ⟨key, id, target, idField, -, -, leads, identified, rfl⟩ :=
      stub?_eq_some_iff.mp shown
    exact ⟨target, idField, id, leads, List.mem_of_find?_eq_some identified, rfl⟩

end Published

end Payload

end RemoteRecords
