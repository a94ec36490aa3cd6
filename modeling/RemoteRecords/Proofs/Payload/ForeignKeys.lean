import RemoteRecords.Proofs.Payload.Reading

/-! Foreign keys: what an update sends of the keys of a record that was read before. -/

namespace RemoteRecords

namespace Registry

open Payload

section Published

variable {config : MappingConfig} {calls : List Lookup} {descriptor : Descriptor}
  (published : descriptor ∈ (after config calls).arena)

include published

/-- Fields behind a relationship leave its foreign key alone if none of them is called like it. -/
theorem untouched_referenceKey {ahead behind : List FieldDescriptor} {field : FieldDescriptor}
    (split : descriptor.fields = ahead ++ field :: behind) {key : String}
    (foreign : field.referenceKey = some key) (free : key ∉ descriptor.fields.map (·.name))
    (mapping : MappingConfig) (intent : WriteIntent) : Untouched mapping intent key behind := by
  -- A field behind could have the key for its name or for its foreign key, and neither is possible.
  have apart := pairwise_referenceKey_of_published published
  rw [split, List.pairwise_append, List.pairwise_cons] at apart
  intro other later _ column
  rcases List.mem_cons.mp column with own | own
  · have listed : other ∈ descriptor.fields := by simp [split, later]
    exact free (own ▸ List.mem_map_of_mem listed)
  · -- The key is that of the field, so none behind it has it as well.
    exact apart.2.1.1 other later key foreign (Option.mem_toList.mp own)

end Published

/-- A record that was read can be written back by an update if all relationships that are met tell
their targets apart. The update sends every identifier that a foreign key held as it was, if the
relationship leads to a type with a place for identifiers, and null if it leads to none. -/
theorem update_after_read_keeps_foreign_keys {config : MappingConfig} {calls : List Lookup}
    {descriptor : Descriptor} (published : descriptor ∈ (after config calls).arena) {wire : Object}
    {value : Json}
    (decoded : decode (after config calls) descriptor (.object wire) = .ok value) :
    let registry := after config calls
    ((∀ next, registry.Reaches descriptor next → ∀ field ∈ next.fields, registry.TellsApart field) →
      ∃ payload, encode registry descriptor value .update = .ok payload) ∧
    ∀ payload, encode registry descriptor value .update = .ok payload →
      ∃ members : Object, payload = .object members ∧
        ∀ field ∈ descriptor.fields, field.isReference → field.updatable →
          ¬ (field.audit ∧ registry.config.protectAuditFields) →
          wire.get? field.name = none ∨ wire.get? field.name = some .null →
          ∀ key id, field.referenceKey = some key → key ∉ descriptor.fields.map (·.name) →
            wire.get? key = some (.string id) → id ≠ "" →
            (∀ target idField, registry.related? field = some target →
              target.idField? = some idField → registry.TellsApart field →
              members.get? key = some (.string id)) ∧
            ((∀ target, registry.related? field = some target → target.idField? = none) →
              members.get? key = some .null) := by
  -- Names are not repeated in published types, so each member of a record belongs to one field.
  intro registry
  have once : ∀ other ∈ registry.arena, (other.fields.map (·.name)).Nodup :=
    fun other listed => nodup_names_of_published listed
  obtain ⟨record, rfl, run⟩ := decode_object_eq_ok_iff.mp decoded
  refine ⟨fun apart => ?_, fun payload encoded => ?_⟩
  · -- What was read can be written where targets are told apart, whatever for.
    obtain ⟨payload, written⟩ := (after_represents config calls).exists_members_of_read once
      published apart run .update _
    exact ⟨.object payload, encode_object_eq_ok_iff.mpr ⟨payload, rfl, written⟩⟩
  obtain ⟨members, rfl, written⟩ := encode_object_eq_ok_iff.mp encoded
  refine ⟨members, rfl, ?_⟩
  intro field declared relationship updatable unprotected missing key id foreign free held given
  -- The relationship is one that an update writes.
  obtain ⟨data, noId⟩ := role_of_relationship published declared relationship
  have writable : field.writable registry.config .update := by
    have single := FieldDescriptor.isChild_of_isReference relationship
    have allowed : (field.audit && registry.config.protectAuditFields) = false := by
      simpa using unprotected
    simp [FieldDescriptor.writable, data, noId, single, updatable, allowed]
  have column : keyOf field = key := by simp [keyOf, foreign]
  -- What the relationship writes under its key stands, since no field behind it has the key.
  obtain ⟨ahead, behind, split⟩ := List.append_of_mem declared
  obtain ⟨member, writes, stands, -⟩ := exists_member_of_members written split
  have untouched := untouched_referenceKey published split foreign free registry.config .update
  have stub := eq_stub?_of_read (once descriptor published) run declared relationship data missing
  refine ⟨fun target idField related identified apart => ?_, fun placeless => ?_⟩
  · -- The stub holds the identifier, and it is found there again.
    have stubbed : record.get? field.name =
        some (tagged field target (.object [(idField.name, .string id)])) :=
      stub.trans (stub?_eq_some_iff.mpr ⟨key, id, target, idField, foreign, held, related,
        identified, rfl⟩)
    have stored : heldId? registry field
        (tagged field target (.object [(idField.name, .string id)])) = some id := by
      rw [heldId?_of_tagged apart (targetOf_none related), idOf?_of_identifier identified]
      simp [given]
    have sent := writes.eq_of_stored writable relationship stubbed stored
    exact stands key _ (column ▸ sent) untouched
  · -- Without a stub the relationship has no value, and the update forces null.
    have unstubbed : record.get? field.name = none := by
      rw [stub, Option.eq_none_iff_forall_not_mem]
      intro value found
      obtain ⟨-, -, target, idField, -, -, related, identified, -⟩ := stub?_eq_some_iff.mp found
      simp [placeless target related] at identified
    have sent := writes.eq_of_missing writable rfl (.inl unstubbed)
    rw [if_pos relationship, column] at sent
    exact stands key _ sent untouched

/-- The account above an account, which is of a type with identifiers. -/
def parentOfClientele : FieldDescriptor :=
  { name := "Parent", kind := .relationship, role := .value, related := some ⟨0⟩
    insertable := true, updatable := true, audit := false, referenceKey := some "ParentId" }

/-- The owner of an account, which is of either of two types and of none if nothing is stated. -/
def ownerOfClientele : FieldDescriptor :=
  { parentOfClientele with
    name := "Owner", related := none, alternatives := [⟨1⟩, ⟨2⟩], referenceKey := some "OwnerId" }

/-- An account that is read with two foreign keys is written back with that of the account above it,
while that of its owner is cleared. -/
theorem update_after_read_keeps_foreign_keys_clientele :
    ∃ account ∈ afterClientele.arena, ∃ members : Object,
      decode afterClientele account (.object [
          ("OwnerId", .string "005U"), ("ParentId", .string "001P")]) =
        .ok (.object [("Contacts", .array []), ("Parent", .object [("Id", .string "001P")])]) ∧
      encode afterClientele account (.object [
          ("Contacts", .array []), ("Parent", .object [("Id", .string "001P")])]) .update =
        .ok (.object members) ∧
      members.get? "ParentId" = some (.string "001P") ∧ members.get? "OwnerId" = some .null := by
  -- What is read of the account can be computed, and what is then written is told by the law.
  have known : ∃ account, afterClientele.arena[0]? = some account ∧
      parentOfClientele ∈ account.fields ∧ ownerOfClientele ∈ account.fields ∧
      "ParentId" ∉ account.fields.map (·.name) ∧ "OwnerId" ∉ account.fields.map (·.name) ∧
      (∃ idField, account.idField? = some idField) ∧
      decode afterClientele account (.object [
          ("OwnerId", .string "005U"), ("ParentId", .string "001P")]) =
        .ok (.object [("Contacts", .array []), ("Parent", .object [("Id", .string "001P")])]) := by
    rw [afterClientele_eq]
    refine ⟨_, rfl, by decide, by decide, by decide, by decide, ⟨_, rfl⟩, ?_⟩
    rw [decode, Payload.read]
    rfl
  obtain ⟨account, first, parent, owner, noParentId, noOwnerId, ⟨idField, identified⟩, decoded⟩ :=
    known
  have published := List.mem_of_getElem? first
  -- No two types of the clientele share a name, and none is called like metadata.
  have unique : (afterClientele.arena.map (·.name)).Nodup := by
    rw [afterClientele_eq]
    decide
  have data : ∀ descriptor ∈ afterClientele.arena, descriptor.name ≠ Attributes.key := by
    rw [afterClientele_eq]
    decide
  have tells := (after_represents {} _).tellsApart unique data
  obtain ⟨succeeds, keeps⟩ := update_after_read_keeps_foreign_keys published decoded
  obtain ⟨payload, encoded⟩ := succeeds fun _ _ field _ => tells field
  obtain ⟨members, rfl, each⟩ := keeps payload encoded
  -- The one relationship leads to accounts, and the other to nothing that could be a default.
  have kept := (each parentOfClientele parent rfl rfl (by decide) (.inl rfl) "ParentId" "001P" rfl
    noParentId rfl (by decide)).1 account idField first identified (tells _)
  have cleared := (each ownerOfClientele owner rfl rfl (by decide) (.inl rfl) "OwnerId" "005U" rfl
    noOwnerId rfl (by decide)).2 fun target related => by cases related
  exact ⟨account, published, members, decoded, encoded, kept, cleared⟩

/-- Tasks whose relationships lead to types of several kinds: one without a place for identifiers, one
that is called like the key of metadata, and two that share a name. -/
def errands : Catalog where
  schemas := [
    ("Agency", { name := "Agency", fields := [.simple "Name"] }),
    ("Inbound", { name := "Channel" }),
    ("Lead", { name := "Lead", fields := [.id "Id"] }),
    ("Outbound", { name := "Channel", fields := [.id "Id"] }),
    ("Tag", { name := "attributes", fields := [.id "Id"] }),
    ("Task", {
      name := "Task"
      fields := [.polymorphic "Who" [⟨"Lead", .mapped⟩], .reference "Agency" ⟨"Agency", .mapped⟩,
        .polymorphic "Label" [⟨"Tag", .mapped⟩],
        (FieldSchema.polymorphic "Topic" [⟨"Tag", .mapped⟩]).fallingBackTo ⟨"Tag", .mapped⟩,
        (FieldSchema.polymorphic "Origin" [⟨"Inbound", .mapped⟩, ⟨"Outbound", .mapped⟩]).fallingBackTo
          ⟨"Outbound", .mapped⟩] })]

/-- The registry of a lookup of such tasks. -/
def afterErrands : Registry :=
  after {} [⟨errands, ⟨"Task", .mapped⟩⟩]

/-- Tasks are met first, then the types of their relationships in declared order. -/
theorem afterErrands_eq : afterErrands =
    ({ config := {} } : Registry).publish
      ⟨["Task", "Lead", "Agency", "Tag", "Inbound", "Outbound"].map fun name =>
          (⟨name, .mapped⟩, errands.schema name),
        [], ["Task", "Lead", "Agency", "Tag", "Inbound", "Outbound"]⟩ := by
  -- The exploration of the catalog ends within nine steps, so it can be run.
  have explored : Exploration.explore [] errands {} [⟨⟨"Task", .mapped⟩, none⟩] =
      (⟨["Task", "Lead", "Agency", "Tag", "Inbound", "Outbound"].map fun name =>
          (⟨name, .mapped⟩, errands.schema name),
        [], ["Task", "Lead", "Agency", "Tag", "Inbound", "Outbound"]⟩, none) :=
    Exploration.explore_of_exploreWithin 9 rfl
  simp [afterErrands, after, lookUp, descriptor, published?, explore, explored]

/-- The type of tags, which is called like the key of metadata. -/
def tagOfErrands : Descriptor :=
  ⟨⟨3⟩, "attributes", "Tag", false, [{
    name := "Id", kind := .simple, role := .id
    insertable := false, updatable := false, audit := false }]⟩

/-- The first type of its name, which has no place for identifiers. -/
def inboundOfErrands : Descriptor :=
  ⟨⟨4⟩, "Channel", "Inbound", false, []⟩

/-- A task that is read with nothing but foreign keys is written back without any of them: two are
cleared, and two give way to new records. A task with a label cannot be written back at all. -/
theorem foreign_keys_of_errands_are_lost :
    ∃ task ∈ afterErrands.arena,
      (∀ field ∈ task.fields, field.isReference ∧ field.updatable ∧ ¬ field.audit ∧
        ∀ key, field.referenceKey = some key → key ∉ task.fields.map (·.name)) ∧
      (∃ record, decode afterErrands task (.object [
          ("AgencyId", .string "0A1"), ("OriginId", .string "0C1"), ("TopicId", .string "0T1"),
          ("WhoId", .string "00Q1")]) = .ok record ∧
        encode afterErrands task record .update = .ok (.object [
          ("AgencyId", .null), ("LabelId", .null),
          ("Origin", .object [("attributes", .object [("type", .string "Channel")])]),
          ("Topic", .object [("attributes", .object [("type", .string "attributes")])]),
          ("WhoId", .null)])) ∧
      ∃ record, decode afterErrands task (.object [
          ("Label", .object [("attributes", .object [("type", .string "attributes")])])]) =
            .ok record ∧
        encode afterErrands task record .update = .error (.unknownTarget "Label") := by
  -- The tag's own name is not taken off again, so its identifier is not found and a tag is created.
  have tag : members afterErrands tagOfErrands [("attributes", .object [("Id", .string "0T1")])]
      .create (some { typeName := tagOfErrands.name }) =
        .ok [("attributes", .object [("type", .string "attributes")])] := by
    rw [members]
    rfl
  -- The channel is taken for the first type of its name, which has no identifier either.
  have inbound : members afterErrands inboundOfErrands [("Id", .string "0C1")]
      .create (some { typeName := inboundOfErrands.name }) =
        .ok [("attributes", .object [("type", .string "Channel")])] := by
    rw [members]
    rfl
  -- A label is read as an empty record, for its type states nothing but itself.
  have label : Payload.read afterErrands tagOfErrands
      [("attributes", .object [("type", .string "attributes")])] = .ok [] := by
    rw [Payload.read]
    rfl
  rw [afterErrands_eq] at tag inbound label ⊢
  -- With these the whole task is read and written field by field.
  refine ⟨_, .head _, by decide,
    ⟨.object [("Origin", .object [("Channel", .object [("Id", .string "0C1")])]),
      ("Topic", .object [("attributes", .object [("Id", .string "0T1")])])], ?_, ?_⟩,
    ⟨.object [("Label", .object [("attributes", .object [])])], ?_, ?_⟩⟩
  · rw [decode, Payload.read]
    rfl
  · refine encode_object_eq_ok_iff.mpr ⟨_, rfl, members_eq_ok_iff.mpr ⟨[
      some ("WhoId", .null), some ("AgencyId", .null), some ("LabelId", .null),
      some ("Topic", .object [("attributes", .object [("type", .string "attributes")])]),
      some ("Origin", .object [("attributes", .object [("type", .string "Channel")])])],
      .cons rfl (.cons rfl (.cons rfl (.cons ?_ (.cons ?_ .nil)))), rfl⟩⟩
    · exact congrArg (fun run => run >>= fun made => pure (some ("Topic", Json.object made))) tag
    · exact congrArg (fun run => run >>= fun made => pure (some ("Origin", Json.object made)))
        inbound
  · refine decode_object_eq_ok_iff.mpr ⟨_, rfl, ?_⟩
    -- Of all fields only the label is on the wire.
    let held : FieldDescriptor → Option Json := fun field =>
      if field.name = "Label" then some (.object [("attributes", .object [])]) else none
    refine (@read_of_readField _ _ _ held ?_).trans rfl
    have labelled := congrArg (fun run => run >>= fun members =>
      pure (some (Json.object [("attributes", .object members)]))) label
    exact List.forall_mem_cons.mpr ⟨rfl, List.forall_mem_cons.mpr ⟨rfl, List.forall_mem_cons.mpr
      ⟨labelled, List.forall_mem_cons.mpr ⟨rfl, List.forall_mem_cons.mpr ⟨rfl, by simp⟩⟩⟩⟩⟩
  · rw [encode, members]
    rfl

end Registry

end RemoteRecords
