import RemoteRecords.Proofs.Payload.Parts

/-! Audit columns: what of them a payload can hold while they are protected. -/

namespace RemoteRecords

/-- A key is an audit column of a type: one that the server maintains for every type, or the name of
a field that is flagged as one. -/
def Descriptor.Audits (descriptor : Descriptor) (key : String) : Prop :=
  key ∈ FieldDescriptor.auditNames ∨ ∃ field ∈ descriptor.fields, field.audit ∧ field.name = key

namespace Registry

open Payload

section Protected

variable {config : MappingConfig} {calls : List Lookup} {descriptor : Descriptor}

/-- A field that is called like an audit column of its type is one. -/
theorem audit_of_audits (published : descriptor ∈ (after config calls).arena)
    {field : FieldDescriptor} (declared : field ∈ descriptor.fields)
    (audits : descriptor.Audits field.name) : field.audit = true := by
  -- An audit column is one by its name alone or by the flag of a field.
  rcases audits with known | ⟨other, listed, flagged, named⟩
  · -- The names that are known are flagged when the field is described.
    obtain ⟨call, -, -, describes⟩ := describes_of_published published
    rw [describes.fields] at declared
    obtain ⟨source, -, rfl⟩ := List.mem_map.mp declared
    have contained : source.name ∈ FieldDescriptor.auditNames := known
    simp [FieldSchema.describe, contained]
  · -- Names are not repeated, so the flagged field is this one.
    have once := nodup_names_of_published published
    cases List.inj_on_of_nodup_map once listed declared named
    exact flagged

/-- While audit columns are protected, no field that is one is written. -/
theorem audit_eq_false_of_writable (guarded : config.protectAuditFields) {intent : WriteIntent}
    {field : FieldDescriptor} (writable : field.writable (after config calls).config intent) :
    field.audit = false := by
  -- Protection is one of the conditions under which a field is written, and it is on.
  rw [after_config] at writable
  simp only [FieldDescriptor.writable, Bool.and_eq_true, Bool.not_eq_true', guarded, Bool.and_true]
    at writable
  exact writable.1.2

/-- While audit columns are protected, nothing stands under their keys in a part but its type and the
identifiers of relationships that have the keys for their own. -/
theorem audit_key_cases (guarded : config.protectAuditFields) {part : Part}
    (published : part.descriptor ∈ (after config calls).arena)
    (written : part.Written (after config calls)) {key : String} {value : Json}
    (found : part.payload.get? key = some value) (audits : part.descriptor.Audits key) :
    (key = Attributes.key ∧ value = ({ typeName := part.descriptor.name } : Attributes).toJson) ∨
      ((value = .null ∨ ∃ id, value = .string id) ∧
        ∃ field ∈ part.descriptor.fields, field.isReference ∧ field.audit = false ∧
          field.writable (after config calls).config part.intent ∧
          field.referenceKey = some key) := by
  -- What stands in a part is metadata or was written by a field, and the latter matters here.
  refine (written.get?_cases found).symm.imp_right ?_
  rintro ⟨field, declared, writes⟩
  have writable := writes.column.2
  have plain := audit_eq_false_of_writable guarded writable
  -- Under its own name the field would be an audit column, which is not written.
  have foreign : key ≠ field.name := by
    rintro rfl
    rw [audit_of_audits published declared audits] at plain
    cases plain
  -- So of the three kinds of entries only that under a foreign key is left.
  rcases writes.entry_cases with ⟨-, own, -⟩ | ⟨relationship, column, held⟩ | ⟨-, -, -, -, own, -⟩
  · exact absurd own foreign
  · -- A published relationship has its foreign key recorded.
    refine ⟨held, field, declared, relationship, plain, writable, ?_⟩
    have described := referenceKey_of_declared published declared
    rw [if_pos relationship] at described
    rw [column, keyOf, described, Option.getD_some]
  · exact absurd own foreign

end Protected

/-- While audit columns are protected, neither a payload nor any record that is created inside it holds
a value of one: under the key of an audit column there is at most the identifier of a relationship,
which is no audit column itself but has the key for its own. Every other object in a payload is a
plain value as it was, or states a type. -/
theorem audit_columns_hold_identifiers_only {config : MappingConfig} {calls : List Lookup}
    (guarded : config.protectAuditFields) {descriptor : Descriptor}
    (published : descriptor ∈ (after config calls).arena) {record : Object} {intent : WriteIntent}
    {payload : Json}
    (encoded : encode (after config calls) descriptor (.object record) intent = .ok payload) :
    let registry := after config calls
    ∃ members : Object, payload = .object members ∧
      ∀ part, Relation.ReflTransGen (Nests registry) ⟨descriptor, record, intent, members⟩ part →
        (∀ key value, part.payload.get? key = some value → part.descriptor.Audits key →
          (key = Attributes.key ∧
              value = ({ typeName := part.descriptor.name } : Attributes).toJson) ∨
            ((value = .null ∨ ∃ id, value = .string id) ∧
              ∃ field ∈ part.descriptor.fields, field.isReference ∧ field.audit = false ∧
                field.writable registry.config part.intent ∧ field.referenceKey = some key)) ∧
        ∀ key inner, part.payload.get? key = some (.object inner) →
          (key = Attributes.key ∧
              Json.object inner = ({ typeName := part.descriptor.name } : Attributes).toJson) ∨
            (∃ field ∈ part.descriptor.fields, field.isReference = false ∧ field.name = key ∧
              part.record.get? key = some (.object inner)) ∨
            ∃ nested, Nests registry part nested ∧ nested.payload = inner := by
  -- The payload is the outermost part, and all others are nested in it.
  intro registry
  obtain ⟨members, rfl, written⟩ := encode_object_eq_ok_iff.mp encoded
  refine ⟨members, rfl, ?_⟩
  intro part reached
  have whole : Part.Written registry ⟨descriptor, record, intent, members⟩ :=
    ⟨descriptor.isMetadataAware, written⟩
  -- Every part is a payload of its own, so what holds of one holds at every depth.
  obtain ⟨written, listed⟩ := written_of_nested published whole reached
  refine ⟨?_, fun key inner found => written.object_cases found⟩
  intro key value found audits
  exact audit_key_cases guarded listed written found audits

/-- Accounts with audit columns of both kinds, and with the user who created them as a relationship. -/
def authored : Catalog where
  schemas := [
    ("Account", {
      name := "Account"
      fields := [.simple "Name", .simple "CreatedDate",
        { name := "Score", shape := .simple, audit := true },
        .reference "Parent" ⟨"Account", .mapped⟩, .reference "CreatedBy" ⟨"User", .mapped⟩] }),
    ("User", { name := "User", fields := [.id "Id"] })]

/-- The registry of a lookup of such accounts, with audit columns protected. -/
def afterAuthored : Registry :=
  after { protectAuditFields := true } [⟨authored, ⟨"Account", .mapped⟩⟩]

/-- Accounts are published before their users. -/
theorem afterAuthored_eq : afterAuthored =
    ({ config := { protectAuditFields := true } } : Registry).publish
      ⟨[(⟨"Account", .mapped⟩, authored.schema "Account"),
        (⟨"User", .mapped⟩, authored.schema "User")], [], ["Account", "User"]⟩ := by
  -- The exploration of the catalog ends within three steps, so it can be run.
  have explored : Exploration.explore [] authored {} [⟨⟨"Account", .mapped⟩, none⟩] =
      (⟨[(⟨"Account", .mapped⟩, authored.schema "Account"),
        (⟨"User", .mapped⟩, authored.schema "User")], [], ["Account", "User"]⟩, none) :=
    Exploration.explore_of_exploreWithin 3 rfl
  simp [afterAuthored, after, lookUp, descriptor, published?, explore, explored]

/-- An account above another, with values of audit columns and with its creator. -/
def parentOfAuthored : Object := [
  ("CreatedBy", .object [("Id", .string "005X")]), ("CreatedDate", .string "2024-01-01"),
  ("Name", .string "Head"), ("Score", .string "A")]

/-- The account above a new account is created without its audit columns but with its creator, who is
referred to by a relationship. -/
theorem audit_columns_hold_identifiers_only_authored :
    ∃ account ∈ afterAuthored.arena, ∃ payload parent : Object,
      encode afterAuthored account (.object [("Parent", .object parentOfAuthored)]) .create =
        .ok (.object payload) ∧
      payload.get? "Parent" = some (.object parent) ∧
      parent.get? "CreatedDate" = none ∧ parent.get? "Score" = none ∧
      parent.get? "CreatedById" = some (.string "005X") ∧
      ∃ field ∈ account.fields, field.isReference ∧ field.audit = false ∧
        field.referenceKey = some "CreatedById" := by
  -- The parts of the payload are computed, and what they must not hold is then told by the law.
  let inner : Object := [("CreatedById", .string "005X"), ("Name", .string "Head"),
    ("attributes", .object [("type", .string "Account")])]
  let payload : Object := [("Parent", .object inner)]
  have known : ∃ account, afterAuthored.arena[0]? = some account ∧
      encode afterAuthored account (.object [("Parent", .object parentOfAuthored)]) .create =
        .ok (.object payload) ∧
      ∃ field ∈ account.fields, field.name = "Parent" ∧ field.isReference ∧
        field.writable afterAuthored.config .create ∧
        heldId? afterAuthored field (.object parentOfAuthored) = none ∧
        afterAuthored.targetOf field (statedType field parentOfAuthored) = .ok account := by
    -- The inner account is written first, for the outer payload has it as a member.
    have creates : ∀ account, afterAuthored.arena[0]? = some account →
        members afterAuthored account parentOfAuthored .create
          (some { typeName := account.name }) = .ok inner := by
      rw [afterAuthored_eq]
      intro account first
      cases first
      rw [members]
      rfl
    rw [afterAuthored_eq] at creates ⊢
    refine ⟨_, rfl, ?_, _, .tail _ (.tail _ (.tail _ (.head _))), rfl, rfl, rfl, rfl, rfl⟩
    refine encode_object_eq_ok_iff.mpr ⟨_, rfl, members_eq_ok_iff.mpr ⟨[none, none, none,
      some ("Parent", .object _), none],
      .cons rfl (.cons rfl (.cons rfl (.cons ?_ (.cons rfl .nil)))), rfl⟩⟩
    exact congrArg (fun run => run >>= fun made => pure (some ("Parent", Json.object made)))
      (creates _ rfl)
  -- From here on only what is known of the payload is used.
  obtain ⟨account, first, encoded, field, declared, named, relationship, writable, unstored, taken⟩ :=
    known
  have published := List.mem_of_getElem? first
  obtain ⟨members, same, each⟩ := audit_columns_hold_identifiers_only rfl published encoded
  cases same
  -- The account above is a part of the payload, and what is below the creator's key is told by it.
  let whole : Part := ⟨account, [("Parent", .object parentOfAuthored)], .create, payload⟩
  have held : whole.record.get? field.name = some (.object parentOfAuthored) := by
    rw [named]
    rfl
  have stands : whole.payload.get? field.name = some (.object inner) := by
    rw [named]
    rfl
  have nested := Nests.creation declared writable relationship held unstored taken stands
  obtain ⟨columns, -⟩ := each _ (.single nested)
  rcases columns "CreatedById" (.string "005X") rfl (.inl (by decide)) with
    ⟨metadata, -⟩ | ⟨-, creator, listed, foreign, plain, -, key⟩
  · exact absurd metadata (by decide)
  · exact ⟨account, published, payload, _, encoded, rfl, rfl, rfl, rfl, creator, listed, foreign,
      plain, key⟩

/-- The creator of an account is written under the key of an audit column, although audit columns are
protected. -/
theorem creator_is_written_as_foreign_key :
    ∃ account ∈ afterAuthored.arena, afterAuthored.config.protectAuditFields = true ∧
      account.Audits "CreatedById" ∧
      encode afterAuthored account (.object [("CreatedBy", .string "005U")]) .create =
        .ok (.object [("CreatedById", .string "005U")]) := by
  -- The relationship is no audit column by its own name, so it is written under its foreign key.
  rw [afterAuthored_eq]
  refine ⟨_, .head _, rfl, .inl (by decide), ?_⟩
  rw [encode, members]
  rfl

end Registry

end RemoteRecords
