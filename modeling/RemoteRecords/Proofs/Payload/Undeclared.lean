import RemoteRecords.Proofs.Payload.Envelopes

/-! Undeclared keys: what a type does not declare is not read, wherever a record of it stands. -/

namespace RemoteRecords

namespace Payload

/-- Records agree on their metadata, on the columns of their type's fields, and on the type that
they state if they are themselves the metadata of the record around them. -/
structure AgreeAsRecords (holding : Holding) (descriptor : Descriptor) (wire wire' : Object) :
    Prop where
  metadata : wire.get? Attributes.key = wire'.get? Attributes.key
  declared : ∀ field ∈ descriptor.fields, ∀ key ∈ field.columns, wire.get? key = wire'.get? key
  type : holding.tells → wire.get? "type" = wire'.get? "type"

/-- Envelopes agree on all that an envelope has, and on the type that they state if they are the
metadata of the record around them. -/
inductive AgreeAsEnvelopes (telling : Bool) : Json → Json → Prop where
  | members {members members' : Object}
      (known : ∀ key ∈ QueryEnvelope.keys, members.get? key = members'.get? key)
      (type : telling → members.get? "type" = members'.get? "type") :
      AgreeAsEnvelopes telling (.object members) (.object members')

/-- Keys that mean nothing where they stand are added to records and envelopes. -/
def annotating : Edit where
  opens := Unshared
  members := AgreeAsRecords
  rows := AgreeAsEnvelopes

/-- Keys that mean nothing where they stand are not read. -/
theorem tracked_annotating (registry : Registry) : annotating.Tracked registry Eq Eq where
  opens := .inl
  members {holding descriptor wire wire'} _ agree := by
    refine ⟨?_, fun _ => ?_, fun tells => by rw [agree.type tells]⟩
    · have each : descriptor.fields.mapM (memberRead registry descriptor wire) =
          descriptor.fields.mapM (memberRead registry descriptor wire') := by
        -- A field looks at the metadata and at its own columns alone.
        refine mapM_congr fun field declared => ?_
        rw [memberRead, memberRead, fieldRead_congr (fun _ => agree.metadata)
          (fun _ => agree.declared field declared _ List.mem_cons_self) fun key foreign => ?_]
        rw [agree.declared field declared key (by simp [FieldDescriptor.columns, foreign])]
      rw [read_eq, read_eq, each]
    · -- The stated type is part of the metadata, which agrees.
      rw [Attributes.typeOf?, Attributes.typeOf?, agree.metadata]
  rows := by
    -- Envelopes that agree are read as one, so their rows are the same.
    rintro _ _ _ ⟨known, type⟩
    refine ⟨.object _, .object _, fun telling => ?_, fun field => ?_⟩
    · simp only [Json.member?, type telling]
    · simp only [childRows, QueryEnvelope.ofJson?_congr known]

end Payload

namespace Registry

open Payload

/--
Keys that a type does not declare are not read, in a record or in any record or envelope inside it.

Declared are the names of the fields, their foreign-key columns and the key of metadata.
Metadata is passed on as it is, so no keys are added where a field of metadata takes a relationship
along under a name of its own.
A type is not added to a relationship that is the metadata by which a related record states its own.
All records that are read hold declared members alone, and stubs hold the identifier of their type.
-/
theorem undeclared_keys_are_ignored {config : MappingConfig} {calls : List Lookup}
    {descriptor : Descriptor} (published : descriptor ∈ (after config calls).arena)
    (wire : Object) :
    let registry := after config calls
    (∀ wire', Relation.EqvGen (Edited registry annotating {} descriptor) wire wire' →
      decode registry descriptor (.object wire) = decode registry descriptor (.object wire')) ∧
    ∀ value, decode registry descriptor (.object wire) = .ok value →
      ∃ record, value = .object record ∧
        ∀ place, Relation.ReflTransGen (Within registry) ⟨descriptor, wire, record⟩ place →
          place.Complete registry ∧ place.Declared registry := by
  -- Adding keys is an edit that never shows, and what was read is declared at every place.
  intro registry
  refine ⟨fun wire' annotated => ?_, fun value decoded => ?_⟩
  · rw [decode, decode, read_eq_of_eqvGen (tracked_annotating registry) published annotated]
  · obtain ⟨record, rfl, reads⟩ := decode_object_eq_ok_iff.mp decoded
    refine ⟨record, rfl, fun place inside => ?_⟩
    have read := Place.Read.inside ⟨published, reads⟩ inside
    exact ⟨read.complete, read.declared⟩

/-- The account is read the same with keys that neither accounts nor envelopes have. -/
theorem undeclared_keys_are_ignored_clientele :
    ∃ account ∈ afterClientele.arena,
      decode afterClientele account (.object [
        ("Contacts", .object (oneContact.insert "batchSize" (Json.ofNat 200))),
        ("Draft", .bool true)]) = .ok (.object [("Contacts", .array [.object ann])]) ∧
      ∀ key ∈ Dict.keys [("Contacts", Json.array [.object ann])],
        ∃ field ∈ account.fields, field.name = key := by
  -- The account without the additional keys is read, so the law tells what is read with them.
  have known : ∃ account, afterClientele.arena[0]? = some account ∧
      ∀ field ∈ account.fields, ∀ key ∈ field.columns, key ≠ "Draft" := by
    rw [afterClientele_eq]
    exact ⟨_, rfl, by decide⟩
  obtain ⟨account, first, undeclared⟩ := known
  obtain ⟨same, reads⟩ := undeclared_keys_are_ignored (List.mem_of_getElem? first)
    [("Contacts", .object oneContact)]
  obtain ⟨record, held, inside⟩ := reads _ (decode_oneContact first)
  cases held
  refine ⟨account, List.mem_of_getElem? first, ?_, (inside _ .refl).2.keys⟩
  rw [← decode_oneContact first]
  -- One key is added to the envelope, and another one to the account around it.
  have inner : Edited afterClientele annotating {} account [("Contacts", .object oneContact)]
      [("Contacts", .object (oneContact.insert "batchSize" (Json.ofNat 200)))] :=
    edited_contacts first (fun _ apart named => absurd named apart) (.members (by decide) nofun)
  have outer : Edited afterClientele annotating {} account
      [("Contacts", .object (oneContact.insert "batchSize" (Json.ofNat 200)))]
      (Dict.insert [("Contacts", .object (oneContact.insert "batchSize" (Json.ofNat 200)))]
        "Draft" (.bool true)) := by
    refine .members ⟨rfl, fun field declared key column => ?_, nofun⟩
    rw [Dict.get?_insert, if_neg (undeclared field declared key column).symm]
  exact (same _ (.trans _ _ _ (.rel _ _ inner) (.rel _ _ outer))).symm

/-- Contacts and memos refer to a note under the key of metadata, and memos have metadata besides.
Tasks are about either of them, or about users. -/
def marginalia : Catalog where
  schemas := [
    ("Contact", { name := "Contact", fields := [.reference "attributes" ⟨"Note", .mapped⟩] }),
    ("Memo", {
      name := "Memo"
      fields := [.attributes "Meta", .reference "attributes" ⟨"Note", .mapped⟩] }),
    ("Note", { name := "Note", fields := [.simple "Body"] }),
    ("Task", {
      name := "Task"
      fields := [(FieldSchema.polymorphic "Who" [⟨"Contact", .mapped⟩, ⟨"Memo", .mapped⟩,
        ⟨"User", .mapped⟩]).fallingBackTo ⟨"Contact", .mapped⟩] }),
    ("User", { name := "User", fields := [.simple "Alias"] })]

/-- The registry of a lookup of such tasks. -/
def afterMarginalia : Registry :=
  after {} [⟨marginalia, ⟨"Task", .mapped⟩⟩]

/-- Contacts are met before their notes, then the other types that tasks are about. -/
theorem afterMarginalia_eq : afterMarginalia =
    ({ config := {} } : Registry).publish
      ⟨[(⟨"Task", .mapped⟩, marginalia.schema "Task"),
        (⟨"Contact", .mapped⟩, marginalia.schema "Contact"),
        (⟨"Note", .mapped⟩, marginalia.schema "Note"),
        (⟨"Memo", .mapped⟩, marginalia.schema "Memo"),
        (⟨"User", .mapped⟩, marginalia.schema "User")],
        [], ["Task", "Contact", "Note", "Memo", "User"]⟩ := by
  -- The exploration of the catalog ends within eight steps, so it can be run.
  have explored : Exploration.explore [] marginalia {} [⟨⟨"Task", .mapped⟩, none⟩] =
      (⟨[(⟨"Task", .mapped⟩, marginalia.schema "Task"),
        (⟨"Contact", .mapped⟩, marginalia.schema "Contact"),
        (⟨"Note", .mapped⟩, marginalia.schema "Note"),
        (⟨"Memo", .mapped⟩, marginalia.schema "Memo"),
        (⟨"User", .mapped⟩, marginalia.schema "User")],
        [], ["Task", "Contact", "Note", "Memo", "User"]⟩, none) :=
    Exploration.explore_of_exploreWithin 8 rfl
  simp [afterMarginalia, after, lookUp, descriptor, published?, explore, explored]

/-- A note. -/
def note : Object :=
  [("Body", .string "Hi")]

section Marginalia

variable {task contact target memo user : Descriptor}
  (published : afterMarginalia.arena = [task, contact, target, memo, user])

include published

/-- A note is read with or without a key that notes do not have. -/
theorem read_note : read afterMarginalia target note = .ok note ∧
    read afterMarginalia target (note.insert "Draft" (.bool true)) = .ok note := by
  -- A note has one field, and neither record differs in it.
  rw [afterMarginalia_eq] at published ⊢
  cases published
  rw [read_eq, read_eq]
  exact ⟨rfl, rfl⟩

/-- A memo takes its note along as metadata, and shows there what is not read of the note. -/
theorem decode_memo :
    decode afterMarginalia memo (.object [("attributes", .object note)]) =
      .ok (.object [("Meta", .object note), ("attributes", .object note)]) ∧
    decode afterMarginalia memo
        (.object [("attributes", .object (note.insert "Draft" (.bool true)))]) =
      .ok (.object [("Meta", .object (note.insert "Draft" (.bool true))),
        ("attributes", .object note)]) := by
  -- The metadata is passed on with the note in it, and the note is read besides.
  obtain ⟨plain, drafted⟩ := read_note published
  rw [afterMarginalia_eq] at published plain drafted ⊢
  cases published
  rw [decode_object_eq_ok_iff, decode_object_eq_ok_iff]
  refine ⟨⟨_, rfl, ?_⟩, _, rfl, ?_⟩
  all_goals rw [read_eq, map_eq_ok_iff]
  · exact ⟨[some ("Meta", .object note), some ("attributes", .object note)],
      mapM_eq_ok_iff.mpr (.cons rfl (.cons (memberRead_of_related rfl rfl rfl rfl plain) .nil)),
      rfl⟩
  · exact ⟨[some ("Meta", .object (note.insert "Draft" (.bool true))),
        some ("attributes", .object note)],
      mapM_eq_ok_iff.mpr (.cons rfl (.cons (memberRead_of_related rfl rfl rfl rfl drafted) .nil)),
      rfl⟩

/-- A contact with a note is read with the note. -/
theorem read_contact : read afterMarginalia contact [("attributes", .object note)] =
    .ok [("attributes", .object note)] := by
  -- The only field of a contact is its note, which is read as such.
  have inner := (read_note published).1
  rw [afterMarginalia_eq] at published inner ⊢
  cases published
  rw [read_eq, map_eq_ok_iff]
  exact ⟨[some ("attributes", .object note)],
    mapM_eq_ok_iff.mpr (.cons (memberRead_of_related rfl rfl rfl rfl inner) .nil), rfl⟩

/-- A user is read without the note. -/
theorem read_user (wire : Json) : read afterMarginalia user [("attributes", wire)] = .ok [] := by
  -- Users have no field that looks at the key of metadata.
  rw [afterMarginalia_eq] at published ⊢
  cases published
  rw [read_eq]
  rfl

/-- A task is about a contact with a note, unless the note says that it is about a user. -/
theorem decode_task :
    decode afterMarginalia task (.object [("Who", .object [("attributes", .object note)])]) =
      .ok (.object [("Who", .object [("Contact", .object [("attributes", .object note)])])]) ∧
    decode afterMarginalia task (.object [("Who",
        .object [("attributes", .object (note.insert "type" (.string "User")))])]) =
      .ok (.object [("Who", .object [("User", .object [])])]) := by
  -- The metadata of the contact is its note, so a type in the note is one that the contact states.
  have first := read_contact published
  have second := read_user published (.object (note.insert "type" (.string "User")))
  rw [afterMarginalia_eq] at published first second ⊢
  cases published
  rw [decode_object_eq_ok_iff, decode_object_eq_ok_iff]
  refine ⟨⟨_, rfl, ?_⟩, _, rfl, ?_⟩
  all_goals rw [read_eq, map_eq_ok_iff]
  · exact ⟨[some ("Who", .object [("Contact", .object [("attributes", .object note)])])],
      mapM_eq_ok_iff.mpr (.cons (memberRead_of_related rfl rfl rfl rfl first) .nil), rfl⟩
  · exact ⟨[some ("Who", .object [("User", .object [])])],
      mapM_eq_ok_iff.mpr (.cons (memberRead_of_related rfl rfl rfl rfl second) .nil), rfl⟩

end Marginalia

/-- Keys that a note does not have show in the metadata of the record around it, and in the type of
that record. -/
theorem undeclared_keys_show_in_metadata :
    ∃ task contact target memo user,
      afterMarginalia.arena = [task, contact, target, memo, user] ∧
      (∀ field ∈ target.fields, "Draft" ∉ field.columns ∧ "type" ∉ field.columns) ∧
      (∀ record ∈ [contact, memo], ∃ field ∈ record.fields, field.name = "attributes" ∧
        field.isReference ∧ afterMarginalia.related? field = some target) ∧
      decode afterMarginalia memo (.object [("attributes", .object note)]) =
        .ok (.object [("Meta", .object note), ("attributes", .object note)]) ∧
      decode afterMarginalia memo
          (.object [("attributes", .object (note.insert "Draft" (.bool true)))]) =
        .ok (.object [("Meta", .object (note.insert "Draft" (.bool true))),
          ("attributes", .object note)]) ∧
      decode afterMarginalia task
          (.object [("Who", .object [("attributes", .object note)])]) =
        .ok (.object [("Who", .object [("Contact", .object [("attributes", .object note)])])]) ∧
      decode afterMarginalia task (.object [("Who",
          .object [("attributes", .object (note.insert "type" (.string "User")))])]) =
        .ok (.object [("Who", .object [("User", .object [])])]) := by
  -- The types are read off the registry as it is written out, and the readings are known.
  have known : ∃ task contact target memo user,
      afterMarginalia.arena = [task, contact, target, memo, user] ∧
      (∀ field ∈ target.fields, "Draft" ∉ field.columns ∧ "type" ∉ field.columns) ∧
      ∀ record ∈ [contact, memo], ∃ field ∈ record.fields, field.name = "attributes" ∧
        field.isReference ∧ afterMarginalia.related? field = some target := by
    rw [afterMarginalia_eq]
    exact ⟨_, _, _, _, _, rfl, by decide, by decide⟩
  obtain ⟨task, contact, target, memo, user, published, undeclared, related⟩ := known
  obtain ⟨plain, drafted⟩ := decode_memo published
  exact ⟨task, contact, target, memo, user, published, undeclared, related, plain, drafted,
    decode_task published⟩

end Registry

end RemoteRecords
