import RemoteRecords.Proofs.Payload.Edits
import RemoteRecords.Proofs.Payload.Places

/-! Envelopes: rows read the same with or without one around them, and none are lost. -/

namespace RemoteRecords

namespace Payload

/-- Rows stand in an envelope that is not continued, whatever else it says. -/
inductive Wraps : Json → Json → Prop where
  | envelope {members : Object} {envelope : QueryEnvelope}
      (known : ∀ key ∈ members.keys, key ∈ QueryEnvelope.keys)
      (shaped : QueryEnvelope.ofJson? (.object members) = some envelope)
      (last : envelope.nextRecordsUrl = none) : Wraps (.array envelope.records) (.object members)

/-- Rows of child relationships are wrapped in envelopes. -/
def wrapping : Edit where
  opens := Unshared
  rows _ := Wraps

/-- An envelope gets a link to further rows. -/
inductive Continues : Json → Json → Prop where
  | link {members : Object} {envelope : QueryEnvelope}
      (shaped : QueryEnvelope.ofJson? (.object members) = some envelope) (next : String) :
      Continues (.object members) (.object (members.insert "nextRecordsUrl" (.string next)))

/-- Envelopes of child relationships get links. -/
def continuing : Edit where
  opens _ _ := True
  rows _ := Continues

/-- The error of child rows that go on elsewhere. -/
def ContinuesElsewhere (error : Error) : Prop :=
  ∃ name next, error = .tooManyRows (.childContinues name next)

/-- The rows of an envelope are those that stand in it. -/
theorem tracked_wrapping (registry : Registry) : wrapping.Tracked registry Eq Eq where
  opens := .inl
  members _ := False.elim
  rows := by
    rintro _ _ _ @⟨members, _, known, shaped, last⟩
    refine ⟨.array _, .object _, fun _ => ?_, fun field => ?_⟩
    · -- An envelope has no member that could be taken for a type.
      have untyped : members.get? "type" = none := by
        by_contra typed
        obtain ⟨value, found⟩ := Option.ne_none_iff_exists'.mp typed
        have listed := known "type" (List.mem_map_of_mem (Dict.mem_of_get? found))
        revert listed
        decide
      simp [Json.member?, untyped]
    · -- The rows that are taken of the envelope are those of the array.
      simp [childRows, shaped, last]

/-- The rows of an envelope with a link are refused. -/
theorem tracked_continuing (registry : Registry) :
    continuing.Tracked registry (Fails ContinuesElsewhere) EndsAlike where
  opens _ := .inr fun _ right => ⟨fun _ _ => ⟨right, rfl⟩, fun _ failed => nomatch failed⟩
  members _ := False.elim
  rows := by
    rintro _ _ _ ⟨shaped, next⟩
    -- The link is read with all else of the envelope, so the rows are refused because of it.
    refine ⟨.object _, .object _, fun _ => by simp [Json.member?, Dict.get?_insert],
      fun field _ => ⟨_, ?_, field.name, next, rfl⟩⟩
    simp [childRows, QueryEnvelope.ofJson?_insert_nextRecordsUrl shaped next]

end Payload

namespace Registry

open Payload

/--
Rows of child relationships are read the same with or without an envelope, and all of them are read.

This holds for any number of relationships, at any depth.
Only the metadata of a record is passed on as it is, so rows are not wrapped where a field of
metadata takes them along under a name of its own.
Each record that is read shows one record for each row on the wire, in their order.
No envelope among them has a link to further rows, and a record that gets one is refused.
-/
theorem envelopes_are_transparent {config : MappingConfig} {calls : List Lookup}
    {descriptor : Descriptor} (published : descriptor ∈ (after config calls).arena)
    (wire : Object) :
    let registry := after config calls
    (∀ wire', Relation.EqvGen (Edited registry wrapping {} descriptor) wire wire' →
      decode registry descriptor (.object wire) = decode registry descriptor (.object wire')) ∧
    ∀ value, decode registry descriptor (.object wire) = .ok value →
      (∃ record, value = .object record ∧
        ∀ place, Relation.ReflTransGen (Within registry) ⟨descriptor, wire, record⟩ place →
          place.Complete registry ∧
          ∀ field ∈ place.descriptor.fields, field.isChild → ∀ members : Object,
            place.wire.get? field.name = some (.object members) →
              members.get? "nextRecordsUrl" = none ∨
                members.get? "nextRecordsUrl" = some .null) ∧
      ∀ wire', Relation.TransGen (Edited registry continuing {} descriptor) wire wire' →
        ∃ name next, decode registry descriptor (.object wire') =
          .error (.tooManyRows (.childContinues name next)) := by
  -- Wrapping is an edit that never shows, and linking one that always fails.
  intro registry
  refine ⟨fun wire' wrapped => ?_, fun value decoded => ?_⟩
  · -- No edit that wraps or unwraps rows changes what is read.
    rw [decode, decode, read_eq_of_eqvGen (tracked_wrapping registry) published wrapped]
  · -- What was read without an error was read completely at every place inside.
    obtain ⟨record, rfl, reads⟩ := decode_object_eq_ok_iff.mp decoded
    refine ⟨⟨record, rfl, fun place inside => ?_⟩, fun wire' continued => ?_⟩
    · have complete := (Place.Read.inside ⟨published, reads⟩ inside).complete
      refine ⟨complete, fun field declared child members held => ?_⟩
      -- Rows that were taken of an envelope stand in one without a link.
      obtain ⟨_, rows, _, _, taken, -⟩ := complete.children field declared child
      rw [held] at taken
      cases taken with
      | envelope _ last => exact last
      | bare _ last => exact last
    · -- Nothing failed before the links were there.
      have succeeded : ∀ error, read registry descriptor wire = .error error →
          ContinuesElsewhere error := by
        intro error failed
        cases reads.symm.trans failed
      obtain ⟨_, refused, name, next, rfl⟩ :=
        fails_of_transGen (tracked_continuing registry) published continued succeeded
      exact ⟨name, next, by rw [decode, refused]; rfl⟩

/-- A contact by its address. -/
def ann : Object :=
  [("Email", .string "ann@example.com")]

/-- A query envelope of one contact. -/
def oneContact : Object :=
  [("done", .bool true), ("records", .array [.object ann])]

section Clientele

variable {account : Descriptor} (first : afterClientele.arena[0]? = some account)

include first

/-- What is edited of contacts is edited of their account. -/
theorem edited_contacts {edit : Edit}
    (opens : ∀ field : FieldDescriptor, field.name ≠ Attributes.key → edit.opens account field)
    {contacts contacts' : Json} (edited : edit.rows false contacts contacts') :
    Edited afterClientele edit {} account [("Contacts", contacts)] [("Contacts", contacts')] := by
  -- The account has a field for its contacts, and that is the one the edit opens.
  have known : ∃ field ∈ account.fields, field.name = "Contacts" ∧ field.isChild := by
    rw [afterClientele_eq] at first
    cases first
    exact ⟨_, @List.mem_of_getElem? _ _ 5 _ rfl, rfl, rfl⟩
  obtain ⟨field, declared, named, child⟩ := known
  have step : Edited afterClientele edit {} account [("Contacts", contacts)]
      (Dict.insert [("Contacts", contacts)] field.name contacts') :=
    .rows declared child (opens field (by rw [named]; decide)) (by rw [named]; rfl) edited
  simpa [named, Dict.insert] using step

/-- The account is read with its contact. -/
theorem decode_oneContact :
    decode afterClientele account (.object [("Contacts", .object oneContact)]) =
      .ok (.object [("Contacts", .array [.object ann])]) := by
  -- The contact is read first, since the account is read with it.
  have known : ∃ contact, afterClientele.arena[3]? = some contact := by
    rw [afterClientele_eq]
    exact ⟨_, rfl⟩
  obtain ⟨contact, last⟩ := known
  have inner : read afterClientele contact ann = .ok ann := by
    rw [afterClientele_eq] at last ⊢
    cases last
    rw [read_eq]
    rfl
  rw [afterClientele_eq] at first last inner ⊢
  cases first
  cases last
  -- The other fields have nothing to read, and the contacts are read one by one.
  refine decode_object_eq_ok_iff.mpr ⟨_, rfl, ?_⟩
  rw [read_eq, map_eq_ok_iff]
  refine ⟨[none, none, none, none, none, some ("Contacts", .array [.object ann])],
    mapM_eq_ok_iff.mpr (.cons rfl (.cons rfl (.cons rfl (.cons rfl (.cons rfl (.cons ?_ .nil)))))),
    rfl⟩
  exact congrArg (fun run : Except Error Object =>
    ((run.map Json.object >>= fun row => pure [row]).map fun rows => some (Json.array rows)).map
      fun value => value.map fun value => ("Contacts", value)) inner

end Clientele

/-- The contact is read with or without the envelope, and with a link in it the account is
refused. -/
theorem envelopes_are_transparent_clientele :
    ∃ account ∈ afterClientele.arena,
      decode afterClientele account (.object [("Contacts", .array [.object ann])]) =
        .ok (.object [("Contacts", .array [.object ann])]) ∧
      (∃ contact, Within afterClientele
        ⟨account, [("Contacts", .object oneContact)], [("Contacts", .array [.object ann])]⟩
        ⟨contact, ann, ann⟩) ∧
      ∃ name next, decode afterClientele account (.object [("Contacts",
        .object (oneContact.insert "nextRecordsUrl" (.string "/query/01g-2")))]) =
          .error (.tooManyRows (.childContinues name next)) := by
  -- The envelope of the one contact is read, so both parts of the law apply to it.
  have known : ∃ account, afterClientele.arena[0]? = some account ∧
      ∃ field ∈ account.fields, field.name = "Contacts" ∧ field.isChild := by
    rw [afterClientele_eq]
    exact ⟨_, rfl, _, @List.mem_of_getElem? _ _ 5 _ rfl, rfl, rfl⟩
  obtain ⟨account, first, field, declared, named, child⟩ := known
  have shaped : QueryEnvelope.ofJson? (.object oneContact) =
      some { done := true, records := [.object ann] } := rfl
  obtain ⟨same, reads⟩ := envelopes_are_transparent (List.mem_of_getElem? first)
    [("Contacts", .object oneContact)]
  obtain ⟨⟨record, held, inside⟩, refused⟩ := reads _ (decode_oneContact first)
  cases held
  have unwrapped := same [("Contacts", .array [.object ann])] <| .symm _ _ <| .rel _ _ <|
    edited_contacts first (fun _ apart named => absurd named apart)
      (.envelope (by decide) shaped rfl)
  refine ⟨account, List.mem_of_getElem? first, unwrapped ▸ decode_oneContact first, ?_,
    refused _ (.single (edited_contacts first (fun _ _ => trivial) (.link shaped _)))⟩
  -- The only row there is stands beside the only record.
  obtain ⟨contact, rows, values, -, taken, shown, each⟩ :=
    (inside _ .refl).1.children field declared child
  rw [named] at taken shown
  cases shown
  cases taken.unique (.envelope rfl (.inl rfl))
  obtain ⟨-, members, inner, row, value, within⟩ := (List.forall₂_cons.mp each).1
  cases row
  cases value
  exact ⟨contact, within⟩

/-- Contacts hold their notes under the key of metadata, and metadata under a name of their own. -/
def annotations : Catalog where
  schemas := [
    ("Contact", {
      name := "Contact"
      fields := [.attributes "Meta", .collection "attributes" ⟨"Note", .mapped⟩] }),
    ("Note", { name := "Note", fields := [.simple "Body"] })]

/-- The registry of a lookup of such contacts. -/
def afterAnnotations : Registry :=
  after {} [⟨annotations, ⟨"Contact", .mapped⟩⟩]

/-- Contacts are met first, then their notes. -/
theorem afterAnnotations_eq : afterAnnotations =
    ({ config := {} } : Registry).publish
      ⟨[(⟨"Contact", .mapped⟩, annotations.schema "Contact"),
        (⟨"Note", .mapped⟩, annotations.schema "Note")], [], ["Contact", "Note"]⟩ := by
  -- The exploration of the catalog ends within three steps, so it can be run.
  have explored : Exploration.explore [] annotations {} [⟨⟨"Contact", .mapped⟩, none⟩] =
      (⟨[(⟨"Contact", .mapped⟩, annotations.schema "Contact"),
        (⟨"Note", .mapped⟩, annotations.schema "Note")], [], ["Contact", "Note"]⟩, none) :=
    Exploration.explore_of_exploreWithin 3 rfl
  simp [afterAnnotations, after, lookUp, descriptor, published?, explore, explored]

/-- An envelope around rows shows in a record that takes them along as metadata. -/
theorem envelope_shows_in_metadata :
    ∃ contact ∈ afterAnnotations.arena, ∃ envelope,
      (∃ field ∈ contact.fields, field.name = "attributes" ∧ field.isChild) ∧
      Wraps (.array []) (.object envelope) ∧
      decode afterAnnotations contact (.object [("attributes", .array [])]) =
        .ok (.object [("Meta", .array []), ("attributes", .array [])]) ∧
      decode afterAnnotations contact (.object [("attributes", .object envelope)]) =
        .ok (.object [("Meta", .object envelope), ("attributes", .array [])]) := by
  -- The metadata of a contact is passed on as it is, with the envelope that it is taken from.
  have shaped : QueryEnvelope.ofJson? (.object [("done", .bool true), ("records", .array []),
      ("totalSize", Json.ofNat 0)]) = some { done := true } := rfl
  rw [afterAnnotations_eq]
  refine ⟨_, @List.mem_of_getElem? _ _ 0 _ rfl, _,
    ⟨_, @List.mem_of_getElem? _ _ 1 _ rfl, rfl, rfl⟩, .envelope (by decide) shaped rfl, ?_, ?_⟩
  all_goals
    rw [decode, read_eq]
    rfl

end Registry

end RemoteRecords
