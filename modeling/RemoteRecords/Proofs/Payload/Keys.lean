import RemoteRecords.Proofs.Dict
import RemoteRecords.Proofs.Payload.Parts
import RemoteRecords.Proofs.Payload.RoundTrip

/-! Keys: what a payload is written under, at every depth, and where it can hold null. -/

namespace RemoteRecords

/-- The keys of a field are its name and its foreign key, if it has one. -/
theorem FieldDescriptor.mem_columns_iff {field : FieldDescriptor} {key : String} :
    key ∈ field.columns ↔ key = field.name ∨ field.referenceKey = some key := by
  -- The columns are listed name first.
  rw [columns, List.mem_cons, Option.mem_toList]

/-- What is written for an intent takes part in it, and is none of what is never written. -/
theorem FieldDescriptor.writable_iff {config : MappingConfig} {intent : WriteIntent}
    {field : FieldDescriptor} :
    field.writable config intent = true ↔
      (intent = .create → field.insertable = true) ∧ (intent ≠ .create → field.updatable = true) ∧
        field.isId = false ∧ field.isAttributes = false ∧ field.isChild = false ∧
        (config.protectAuditFields = true → field.audit = false) := by
  -- Each intent asks one of the flags, and protection matters for audit columns alone.
  cases protects : config.protectAuditFields <;> cases intent <;> simp [writable, protects] <;> tauto

namespace Payload

variable {registry : Registry} {descriptor : Descriptor} {record payload : Object}
  {intent : WriteIntent}

/-- Payloads are written in key order. -/
theorem sorted_of_members {attributes : Option Attributes}
    (encoded : members registry descriptor record intent attributes = .ok payload) :
    payload.Sorted := by
  -- Storing entries one by one keeps the order of keys, whatever was there.
  obtain ⟨written, -, rfl⟩ := members_eq_ok_iff.mp encoded
  refine Dict.Sorted.insertAll ?_ _
  -- At first there is at most the metadata.
  cases attributes with
  | none => exact .nil
  | some metadata => exact List.pairwise_singleton _ _

/-- Null is written only where the intent forces it. -/
theorem Writes.forcesNulls_of_null {field : FieldDescriptor} {key : String}
    (writes : Writes registry record intent field (some (key, .null))) :
    intent.forcesNulls = true := by
  -- Of the ways to write a field, only a forced null and a plain value could hold null.
  generalize same : some (key, Json.null) = member at writes
  cases writes with
  | unwritable => cases same
  | absent => cases same
  | forced _ _ full => exact full
  | value _ _ _ given =>
    cases same
    -- A plain value that is null is not written as one.
    exact absurd rfl given
  | reference => cases same
  | creation => cases same

variable {part : Part} {key : String} {value : Json}

/-- The payload of a record is a part that was written. -/
theorem written_of_encode
    (encoded : encode registry descriptor (.object record) intent = .ok (.object payload)) :
    Part.Written registry ⟨descriptor, record, intent, payload⟩ := by
  -- The payload states its type or does not, and a part may do either.
  obtain ⟨members, same, written⟩ := encode_object_eq_ok_iff.mp encoded
  cases same
  exact ⟨descriptor.isMetadataAware, written⟩

/-- Parts are written in key order. -/
theorem Part.Written.sorted (written : part.Written registry) : part.payload.Sorted := by
  -- A part holds the members of its record, which are stored in key order.
  obtain ⟨stated, encoded⟩ := written
  exact sorted_of_members encoded

/-- An entry of a part is what is found under its key. -/
theorem Part.Written.get?_of_mem (written : part.Written registry)
    (listed : (key, value) ∈ part.payload) : part.payload.get? key = some value :=
  -- In key order no key occurs twice.
  written.sorted.get?_of_mem listed

/-- A part is written under the keys of its writable fields and that of its metadata. -/
theorem Part.Written.key_cases (written : part.Written registry)
    (listed : (key, value) ∈ part.payload) :
    key = Attributes.key ∨ ∃ field ∈ part.descriptor.fields, key ∈ field.columns ∧
      field.writable registry.config part.intent = true := by
  -- An entry is metadata or was written by a field, which writes under its columns.
  rcases written.get?_cases (written.get?_of_mem listed) with
    ⟨field, declared, writes⟩ | ⟨metadata, -⟩
  · exact .inr ⟨field, declared, writes.column⟩
  · exact .inl metadata

/-- A part that is no update holds no null. -/
theorem Part.Written.intent_of_null (written : part.Written registry)
    (listed : (key, .null) ∈ part.payload) : part.intent = .update := by
  -- A null was written by a field, since the intent forces it, and only an update does.
  rcases written.get?_cases (written.get?_of_mem listed) with ⟨field, -, writes⟩ | ⟨-, metadata⟩
  · have forces := writes.forcesNulls_of_null
    cases intent : part.intent <;> simp [intent, WriteIntent.forcesNulls] at forces ⊢
  · -- Metadata is an object.
    cases metadata

/-- Whatever is nested in a part is created. -/
theorem eq_or_create_of_nested {whole : Part}
    (reached : Relation.ReflTransGen (Nests registry) whole part) :
    part = whole ∨ part.intent = .create := by
  -- The last step to a part says what it is for.
  rcases Relation.ReflTransGen.cases_tail reached with same | ⟨outer, -, nested⟩
  · exact .inl same
  · cases nested
    exact .inr rfl

end Payload

namespace Registry

open Payload

/--
A payload holds the keys of writable fields only, and so does every record created inside it.

Besides the metadata, a key is the name or the foreign key of a field that the intent writes.
Records inside are created, whatever the payload is for, each with the fields of its own type.
Only the outermost record of an update holds null.
Every other object in a payload is a plain value as it was, or states a type.
-/
theorem payloads_hold_keys_of_writable_fields {config : MappingConfig} {calls : List Lookup}
    {descriptor : Descriptor} (published : descriptor ∈ (after config calls).arena)
    {record : Object} {intent : WriteIntent} {payload : Json}
    (encoded : encode (after config calls) descriptor (.object record) intent = .ok payload) :
    let registry := after config calls
    ∃ members : Object, payload = .object members ∧
      ∀ part, Relation.ReflTransGen (Nests registry) ⟨descriptor, record, intent, members⟩ part →
        (part = ⟨descriptor, record, intent, members⟩ ∨ part.intent = .create) ∧
        (∀ key value, (key, value) ∈ part.payload → key = Attributes.key ∨
          ∃ field ∈ part.descriptor.fields, (key = field.name ∨ field.referenceKey = some key) ∧
            (part.intent = .create → field.insertable = true) ∧
            (part.intent ≠ .create → field.updatable = true) ∧
            field.isId = false ∧ field.isAttributes = false ∧ field.isChild = false ∧
            (config.protectAuditFields = true → field.audit = false)) ∧
        (part.intent ≠ .update → ∀ key, (key, .null) ∉ part.payload) ∧
        ∀ key inner, (key, Json.object inner) ∈ part.payload →
          (key = Attributes.key ∧
              Json.object inner = ({ typeName := part.descriptor.name } : Attributes).toJson) ∨
            (∃ field ∈ part.descriptor.fields, field.isReference = false ∧ field.name = key ∧
              part.record.get? key = some (.object inner)) ∨
            ∃ nested, Nests registry part nested ∧ nested.payload = inner := by
  intro registry
  obtain ⟨members, rfl, -⟩ := encode_object_eq_ok_iff.mp encoded
  refine ⟨members, rfl, ?_⟩
  intro part reached
  -- Every part is a payload of its own, so what holds of one holds at every depth.
  obtain ⟨written, -⟩ := written_of_nested published (written_of_encode encoded) reached
  refine ⟨eq_or_create_of_nested reached, ?_, ?_, ?_⟩
  · -- Keys are told by what fields write and what they are written for.
    intro key value listed
    refine (written.key_cases listed).imp_right ?_
    rintro ⟨field, declared, column, writable⟩
    -- Lookups leave the configuration as it was.
    rw [after_config] at writable
    exact ⟨field, declared, FieldDescriptor.mem_columns_iff.mp column,
      FieldDescriptor.writable_iff.mp writable⟩
  · -- Null tells the part of an update from all others.
    intro sparse key listed
    exact sparse (written.intent_of_null listed)
  · -- An object is metadata, a plain value or a part of its own.
    intro key inner listed
    exact written.object_cases (written.get?_of_mem listed)

/-- An account without a name that gets a new group as its owner. -/
def regrouped : Object := [
  ("Id", .string "001A"), ("Name", .null),
  ("Owner", .object [("Group", .object [("Name", .string "Sales")])])]

/-- An update clears the name and the account above, and creates the group. -/
theorem update_regrouped {account group : Descriptor}
    (first : afterClientele.arena[0]? = some account)
    (third : afterClientele.arena[2]? = some group) :
    encode afterClientele account (.object regrouped) .update = .ok (.object [
      ("Name", .null),
      ("Owner", .object [("Name", .string "Sales"),
        ("attributes", .object [("type", .string "Group")])]),
      ("ParentId", .null),
      ("attributes", .object [("type", .string "Account")])]) := by
  -- Each field writes its member, and that of the owner holds the group.
  have inner := members_newGroup third
  rw [afterClientele_eq] at first third inner ⊢
  cases first
  cases third
  refine encode_object_eq_ok_iff.mpr ⟨_, rfl, members_eq_ok_iff.mpr ⟨[none, none,
    some ("Name", .null), some ("ParentId", .null),
    some ("Owner", .object [("Name", .string "Sales"),
      ("attributes", .object [("type", .string "Group")])]), none],
    .cons rfl (.cons rfl (.cons rfl (.cons rfl (.cons ?_ (.cons rfl .nil))))), rfl⟩⟩
  exact congrArg (fun run => run >>= fun group => pure (some ("Owner", Json.object group))) inner

/-- The update of an account holds null, but the group that is created inside it does not, and has no
key but those of groups. -/
theorem payloads_hold_keys_of_writable_fields_clientele :
    ∃ account ∈ afterClientele.arena, ∃ payload group : Object,
      encode afterClientele account (.object regrouped) .update = .ok (.object payload) ∧
      payload.get? "Name" = some .null ∧ payload.get? "Owner" = some (.object group) ∧
      (∀ key, (key, .null) ∉ group) ∧
      ∀ key value, (key, value) ∈ group → key = Attributes.key ∨ key = "Name" := by
  -- The payload is known, and the group inside it is a part of which the law speaks.
  have known : ∃ account group, afterClientele.arena[0]? = some account ∧
      afterClientele.arena[2]? = some group ∧ group.fields.map FieldDescriptor.columns = [["Name"]] ∧
      ∃ field ∈ account.fields, field.name = "Owner" ∧ field.isReference ∧
        field.writable afterClientele.config .update ∧
        heldId? afterClientele field
          (.object [("Group", .object [("Name", .string "Sales")])]) = none ∧
        afterClientele.targetOf field (statedType field
          [("Group", .object [("Name", .string "Sales")])]) = .ok group := by
    rw [afterClientele_eq]
    exact ⟨_, _, rfl, rfl, rfl, _, .tail _ (.tail _ (.tail _ (.tail _ (.head _)))), rfl, rfl, rfl,
      rfl, rfl⟩
  obtain ⟨account, group, first, third, columns, field, declared, named, relationship, writable,
    unstored, taken⟩ := known
  have encoded := update_regrouped first third
  have published := List.mem_of_getElem? first
  obtain ⟨members, same, each⟩ := payloads_hold_keys_of_writable_fields published encoded
  cases same
  refine ⟨account, published, _, _, encoded, rfl, rfl, ?_⟩
  -- The group is a part of the payload, under the name of the relationship.
  let whole : Part := ⟨account, regrouped, .update, [
    ("Name", .null),
    ("Owner", .object [("Name", .string "Sales"),
      ("attributes", .object [("type", .string "Group")])]),
    ("ParentId", .null), ("attributes", .object [("type", .string "Account")])]⟩
  have held : whole.record.get? field.name =
      some (.object [("Group", .object [("Name", .string "Sales")])]) := by
    rw [named]
    rfl
  have stands : whole.payload.get? field.name = some (.object [
      ("Name", .string "Sales"), ("attributes", .object [("type", .string "Group")])]) := by
    rw [named]
    rfl
  have nested := Nests.creation declared writable relationship held unstored taken stands
  obtain ⟨-, keys, full, -⟩ := each _ (.single nested)
  refine ⟨full nofun, ?_⟩
  intro key value listed
  refine (keys key value listed).imp_right ?_
  rintro ⟨other, among, column, -⟩
  -- Groups have no other field than their name.
  have own := List.mem_map_of_mem (f := FieldDescriptor.columns) among
  rw [columns, List.mem_singleton] at own
  rw [← FieldDescriptor.mem_columns_iff, own] at column
  exact List.mem_singleton.mp column

end Registry

end RemoteRecords
