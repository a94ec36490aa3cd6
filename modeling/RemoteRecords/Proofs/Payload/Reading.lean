import Mathlib.Tactic.Choose
import RemoteRecords.Proofs.Payload.RoundTrip

/-! Readings: what a record holds that was read, and when it can be written again. -/

namespace RemoteRecords

namespace Payload

variable {registry : Registry} {owner descriptor : Descriptor} {wire record : Object}
  {field : FieldDescriptor}

/-- A value is read as a record if it is one whose members are. -/
theorem decode_object_eq_ok_iff {value : Json} :
    decode registry descriptor (.object wire) = .ok value ↔
      ∃ record : Object, value = .object record ∧
        read registry descriptor wire = .ok record := by
  -- Reading an object is reading its members and putting them into one again.
  rw [decode, map_eq_ok_iff]
  exact exists_congr fun record => and_comm.trans (and_congr_left' eq_comm)

/-- What a relationship is read as: a related record under its type, or the stub of its key. -/
inductive ReadsRelated (registry : Registry) (wire : Object) (field : FieldDescriptor) :
    Option Json → Prop where
  | whole {related inner : Object} {target : Descriptor}
      (held : wire.get? field.name = some (.object related))
      (taken : registry.targetOf field (Attributes.typeOf? related) = .ok target)
      (read : read registry target related = .ok inner) :
      ReadsRelated registry wire field (some (tagged field target (.object inner)))
  | stub (missing : wire.get? field.name = none ∨ wire.get? field.name = some .null) :
      ReadsRelated registry wire field (stub? registry field wire)

/-- A relationship is read in one of these ways. -/
theorem readsRelated_of_readRelated {value : Option Json}
    (decoded : readRelated registry owner wire (readInside registry wire) field = .ok value) :
    ReadsRelated registry wire field value := by
  -- The value on the wire decides: a record, nothing, or something that is refused.
  unfold readRelated at decoded
  split at decoded
  · -- A record is read as one of its target.
    rename_i related held
    cases taken : registry.targetOf field (Attributes.typeOf? related) with
    | error fault => simp [taken, Except.mapError, bind, Except.bind] at decoded
    | ok target =>
      cases inside : read registry target related with
      | error fault =>
        simp [taken, readInside, inside, Except.mapError, bind, Except.bind] at decoded
      | ok inner =>
        simp only [taken, readInside, inside, Except.mapError, bind, Except.bind, pure, Except.pure,
          Except.ok.injEq] at decoded
        exact decoded ▸ .whole held taken inside
  · -- Nothing is read as a stub, and so is null.
    rename_i held
    cases decoded
    exact .stub (.inl held)
  · rename_i held
    cases decoded
    exact .stub (.inr held)
  · cases decoded

/-- A record that was read holds for each field what was read of the field. -/
theorem readField_eq_of_read (once : (descriptor.fields.map (·.name)).Nodup)
    (decoded : read registry descriptor wire = .ok record) (declared : field ∈ descriptor.fields) :
    readField registry descriptor wire (readInside registry wire) field =
      .ok (record.get? field.name) := by
  -- No field can have failed, since the reading as a whole has not.
  have each : ∀ field ∈ descriptor.fields, ∃ value,
      readField registry descriptor wire (readInside registry wire) field = .ok value := by
    rw [read] at decoded
    obtain ⟨values, run, -⟩ := exists_of_bind_eq_ok decoded
    intro field declared
    obtain ⟨member, -, found⟩ := exists_left_of_forall₂ (mapM_eq_ok_iff.mp run).flip declared
    obtain ⟨value, held, -⟩ := exists_of_bind_eq_ok found
    exact ⟨value, held⟩
  -- What was read of the fields makes up the record, and each is found under its name.
  choose! held reads using each
  cases (read_of_readField reads).symm.trans decoded
  rw [(Dict.get?_ofEntries_filterMap once held).1 field declared]
  exact reads field declared

/-- A relationship of a record that was read holds what the relationship was read as. -/
theorem readsRelated_of_read (once : (descriptor.fields.map (·.name)).Nodup)
    (decoded : read registry descriptor wire = .ok record) (declared : field ∈ descriptor.fields)
    (relationship : field.isReference) (data : field.isAttributes = false) :
    ReadsRelated registry wire field (record.get? field.name) := by
  -- A relationship is read neither as metadata nor as child records.
  have held := readField_eq_of_read once decoded declared
  have single := FieldDescriptor.isChild_of_isReference relationship
  simp only [readField, data, single, relationship, Bool.false_eq_true, if_false, if_true] at held
  exact readsRelated_of_readRelated held

/-- A relationship without a value on the wire holds the stub of its key, if there is one. -/
theorem eq_stub?_of_read (once : (descriptor.fields.map (·.name)).Nodup)
    (decoded : read registry descriptor wire = .ok record) (declared : field ∈ descriptor.fields)
    (relationship : field.isReference) (data : field.isAttributes = false)
    (missing : wire.get? field.name = none ∨ wire.get? field.name = some .null) :
    record.get? field.name = stub? registry field wire := by
  -- Without a value there is no record to be read, so it is the stub.
  have reads := readsRelated_of_read once decoded declared relationship data
  generalize record.get? field.name = value at reads
  cases reads with
  | whole held => simp [held] at missing
  | stub => rfl

end Payload

namespace Registry

/-- A polymorphic field takes each of its targets again by the target's own name, and none of these
names is the key of metadata. -/
def TellsApart (registry : Registry) (field : FieldDescriptor) : Prop :=
  field.isPolymorphic → ∀ named target, registry.targetOf field named = .ok target →
    target.name ≠ Attributes.key ∧ registry.targetOf field (some target.name) = .ok target

/-- Where no two types share a name and none is called like the key of metadata, every field tells
its targets apart. -/
theorem Represents.tellsApart {registry : Registry} (represents : Represents registry)
    (unique : (registry.arena.map (·.name)).Nodup)
    (data : ∀ descriptor ∈ registry.arena, descriptor.name ≠ Attributes.key)
    (field : FieldDescriptor) : registry.TellsApart field := by
  -- What is taken is published, and a name that is not shared leads back to it.
  intro _ named target taken
  exact ⟨data target (represents.admits_of_targetOf taken).1,
    represents.targetOf_name unique taken⟩

end Registry

namespace Payload

variable {registry : Registry} {owner descriptor : Descriptor} {wire record : Object}
  {intent : WriteIntent} {field : FieldDescriptor}

/-- A record under its type's name is taken for a record of that type again. -/
theorem exists_untag_of_tagged (apart : registry.TellsApart field) {named : Option String}
    {target : Descriptor} (taken : registry.targetOf field named = .ok target) (inner : Object) :
    ∃ outer, tagged field target (.object inner) = .object outer ∧ (untag field outer).2 = inner ∧
      registry.targetOf field (statedType field outer) = .ok target := by
  -- A polymorphic field writes the name around the record and takes it off again.
  by_cases polymorphic : field.isPolymorphic
  · obtain ⟨data, again⟩ := apart polymorphic named target taken
    have outside : untag field [(target.name, .object inner)] = (some target.name, inner) := by
      simp [untag, polymorphic, data]
    refine ⟨[(target.name, .object inner)], by simp [tagged, polymorphic], by rw [outside], ?_⟩
    simpa [statedType, outside] using again
  · -- A field with one target writes no name and asks for none.
    have outside : untag field inner = (none, inner) := by simp [untag, polymorphic]
    refine ⟨inner, by simp [tagged, polymorphic], by rw [outside], ?_⟩
    rw [Registry.targetOf_of_no_member fun poly => absurd poly polymorphic] at taken ⊢
    exact taken

/-- A stub holds the identifier of the key alone, under the type that the field leads to. -/
theorem stub?_eq_some_iff {value : Json} :
    stub? registry field wire = some value ↔
      ∃ key id target idField, field.referenceKey = some key ∧
        wire.get? key = some (.string id) ∧ registry.related? field = some target ∧
        target.idField? = some idField ∧
        tagged field target (.object [(idField.name, .string id)]) = value := by
  -- The steps of the stub succeed one after the other.
  have text : ∀ {held : Json} {id : String}, held.asString? = some id ↔ held = .string id := by
    intro held id
    cases held <;> simp [Json.asString?]
  simp only [stub?, Option.bind_eq_bind, Option.bind_eq_some_iff, text, pure, Option.some.injEq]
  constructor
  · rintro ⟨key, foreign, _, held, id, rfl, target, related, idField, identified, rfl⟩
    exact ⟨key, id, target, idField, foreign, held, related, identified, rfl⟩
  · rintro ⟨key, id, target, idField, foreign, held, related, identified, rfl⟩
    exact ⟨key, foreign, _, held, id, rfl, target, related, idField, identified, rfl⟩

/-- The identifier of a record that holds nothing else is found, unless it is empty. -/
theorem idOf?_of_identifier {target : Descriptor} {idField : FieldDescriptor}
    (identified : target.idField? = some idField) (id : String) :
    target.idOf? [(idField.name, .string id)] = if id.isEmpty then none else some id := by
  -- The place for the identifier is the only member, and the empty text is no identifier.
  simp [Descriptor.idOf?, identified, Dict.get?_cons, Json.asString?]

/-- What a relationship can be written with: nothing, an identifier, or a record of a type that the
field takes. -/
inductive Sendable (registry : Registry) (field : FieldDescriptor) : Json → Prop where
  | null : Sendable registry field .null
  | identifier (id : String) : Sendable registry field (.string id)
  /-- A record that is not stored yet has to be one that can be created. -/
  | record {related : Object} {target : Descriptor}
      (taken : registry.targetOf field (statedType field related) = .ok target)
      (creatable : target.idOf? (untag field related).2 = none → ∃ inner,
        members registry target (untag field related).2 .create
          (some { typeName := target.name }) = .ok inner) :
      Sendable registry field (.object related)

/-- A record under its type's name stands for its own identifier. -/
theorem heldId?_of_tagged (apart : registry.TellsApart field) {named : Option String}
    {target : Descriptor} (taken : registry.targetOf field named = .ok target) (inner : Object) :
    heldId? registry field (tagged field target (.object inner)) = target.idOf? inner := by
  -- The name around the record leads to its type, which knows its identifier.
  obtain ⟨outer, same, rfl, again⟩ := exists_untag_of_tagged apart taken inner
  simp [same, heldId?, again]

/-- A record under its type's name can be sent if it is stored already or can be created. -/
theorem sendable_of_tagged (apart : registry.TellsApart field) {named : Option String}
    {target : Descriptor} (taken : registry.targetOf field named = .ok target) {inner : Object}
    (creatable : target.idOf? inner = none → ∃ payload, members registry target inner .create
      (some { typeName := target.name }) = .ok payload) :
    Sendable registry field (tagged field target (.object inner)) := by
  -- The same record is found inside, and the same type is taken for it.
  obtain ⟨outer, same, rfl, again⟩ := exists_untag_of_tagged apart taken inner
  rw [same]
  exact .record again creatable

/-- A relationship is written if what it holds can be sent. -/
theorem exists_relationshipMember
    (sendable : ∀ value, record.get? field.name = some value → Sendable registry field value) :
    ∃ member, relationshipMember registry owner record intent (created registry record) field =
      .ok member := by
  -- A relationship with no value or a text is always written.
  unfold relationshipMember
  split
  · exact ⟨_, rfl⟩
  · exact ⟨_, rfl⟩
  · exact ⟨_, rfl⟩
  · rename_i related held
    -- The target is found, and what has no identifier can be created.
    cases sendable _ held with
    | @record _ target taken creatable =>
      simp only [statedType] at taken
      cases stored : target.idOf? (untag field related).2 with
      | some id =>
        simp only [taken, stored, bind, Except.bind]
        exact ⟨_, rfl⟩
      | none =>
        obtain ⟨inner, made⟩ := creatable stored
        simp only [taken, stored, created, made, bind, Except.bind]
        exact ⟨_, rfl⟩
  · -- No other value can be sent.
    rename_i other notNull notText notObject held
    cases sendable _ held with
    | null => exact (notNull rfl).elim
    | identifier id => exact (notText id rfl).elim
    | record => exact (notObject _ rfl).elim

/-- A record is written if all that its writable relationships hold can be sent. -/
theorem exists_members (attributes : Option Attributes)
    (sendable : ∀ field ∈ descriptor.fields, field.writable registry.config intent →
      field.isReference → ∀ value, record.get? field.name = some value →
        Sendable registry field value) :
    ∃ payload, members registry descriptor record intent attributes = .ok payload := by
  -- No field fails, so the run over all of them does not.
  have each : ∀ field ∈ descriptor.fields, ∃ member,
      member? registry descriptor record intent (created registry record) field = .ok member := by
    intro field declared
    unfold member?
    by_cases writable : field.writable registry.config intent
    · by_cases relationship : field.isReference
      · simp only [writable, relationship, Bool.not_true, Bool.false_eq_true, if_false, if_true]
        exact exists_relationshipMember (sendable field declared writable relationship)
      · -- A plain value is never refused.
        simp only [writable, relationship, Bool.not_true, Bool.false_eq_true, if_false]
        split <;> exact ⟨_, rfl⟩
    · exact ⟨none, by simp [writable]⟩
  choose! member writes using each
  refine ⟨_, members_eq_ok_iff.mpr ⟨descriptor.fields.map member, ?_, rfl⟩⟩
  rw [List.forall₂_map_right_iff, List.forall₂_same]
  exact writes

end Payload

namespace Registry

open Payload

variable {registry : Registry}

/-- Without a name, a field takes the type that it leads to. -/
theorem targetOf_none {field : FieldDescriptor} {target : Descriptor}
    (related : registry.related? field = some target) :
    registry.targetOf field none = .ok target := by
  -- Without a name there is no member to be found under it.
  rw [targetOf_of_no_member fun _ => rfl, related]

/-- A record that holds an identifier and nothing else can be created. -/
theorem exists_members_of_identifier {target : Descriptor}
    (once : (target.fields.map (·.name)).Nodup) {idField : FieldDescriptor}
    (identified : target.idField? = some idField) (id : String) (attributes : Option Attributes) :
    ∃ payload, members registry target [(idField.name, .string id)] .create attributes =
      .ok payload := by
  -- Nothing but relationships can fail, and the identifier is none that is written.
  refine exists_members attributes fun field declared writable _ value held => ?_
  -- The only field with a value is the identifier, which is never written.
  rw [Dict.get?_cons] at held
  split at held
  · rename_i same
    have listed : idField ∈ target.fields := List.mem_of_find?_eq_some identified
    have isId : idField.isId := List.find?_some identified
    rw [← List.inj_on_of_nodup_map once listed declared same] at writable
    simp [FieldDescriptor.writable, isId] at writable
  · cases held

/-- What was read of a record can be written, whatever for, if all relationships that are met tell
their targets apart. -/
theorem Represents.exists_members_of_read (represents : Represents registry)
    (once : ∀ descriptor ∈ registry.arena, (descriptor.fields.map (·.name)).Nodup)
    {descriptor : Descriptor} (published : descriptor ∈ registry.arena)
    (apart : ∀ next, registry.Reaches descriptor next → ∀ field ∈ next.fields,
      registry.TellsApart field)
    {wire record : Object} (decoded : read registry descriptor wire = .ok record)
    (intent : WriteIntent) (attributes : Option Attributes) :
    ∃ payload, members registry descriptor record intent attributes = .ok payload := by
  -- Each relationship of the record holds what was read of it: a record or a stub.
  refine exists_members attributes fun field declared writable relationship value held => ?_
  have data := FieldDescriptor.isAttributes_of_writable writable
  have reads := readsRelated_of_read (once descriptor published) decoded declared relationship data
  have tells := apart descriptor .refl field declared
  generalize found : record.get? field.name = read at reads
  cases reads with
  | @whole related inner target onWire taken read =>
    cases held.symm.trans found
    -- The related record was read of a part of the wire, from a type that is one step away.
    obtain ⟨listed, admitted⟩ := represents.admits_of_targetOf taken
    have beyond : ∀ next, registry.Reaches target next → ∀ field ∈ next.fields,
        registry.TellsApart field := fun next reached =>
      apart next (.head ⟨listed, field, declared, admitted⟩ reached)
    have smaller : sizeOf related < sizeOf wire :=
      Nat.lt_trans (by simp) (Json.sizeOf_lt_of_get? onWire)
    exact sendable_of_tagged tells taken fun _ =>
      represents.exists_members_of_read once listed beyond read .create _
  | stub missing =>
    -- A stub holds nothing but an identifier, so it can be created if need be.
    obtain ⟨key, id, target, idField, -, -, related, identified, rfl⟩ :=
      stub?_eq_some_iff.mp (found.symm.trans held)
    have listed := (represents.related?_eq_some related).1
    exact sendable_of_tagged tells (targetOf_none related) fun _ =>
      exists_members_of_identifier (once target listed) identified id _
termination_by sizeOf wire

end Registry

end RemoteRecords
