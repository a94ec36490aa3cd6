import Mathlib.Logic.Relation
import RemoteRecords.Proofs.Payload.Columns
import RemoteRecords.Proofs.Payload.Image
import RemoteRecords.Proofs.Payload.Targets

/-! Round trips: a payload that creates a record is read back as what was written of the record. -/

namespace RemoteRecords

namespace Registry

/-- A descriptor is followed by the published ones that its fields admit. -/
def Leads (registry : Registry) (descriptor next : Descriptor) : Prop :=
  next ∈ registry.arena ∧ ∃ field ∈ descriptor.fields, field.Admits next

/-- The descriptors that are found by following links, the first one among them. -/
def Reaches (registry : Registry) : Descriptor → Descriptor → Prop :=
  Relation.ReflTransGen registry.Leads

/-- Links lead from published descriptors to published descriptors. -/
theorem Reaches.published {registry : Registry} {descriptor next : Descriptor}
    (reached : registry.Reaches descriptor next) (published : descriptor ∈ registry.arena) :
    next ∈ registry.arena := by
  -- Either nothing was followed or the last link led to a published descriptor.
  cases reached with
  | refl => exact published
  | tail _ step => exact step.1

end Registry

namespace Payload

/-- Records inside a payload are read like the payload itself. -/
def readInside (registry : Registry) (payload : Object) : Inside payload :=
  fun target inner _smaller => read registry target inner

variable {registry : Registry} {descriptor : Descriptor} {record payload : Object}
  {field : FieldDescriptor}

/-- A record is read if each of its fields is. -/
theorem read_of_readField {held : FieldDescriptor → Option Json}
    (each : ∀ field ∈ descriptor.fields,
      readField registry descriptor payload (readInside registry payload) field =
        .ok (held field)) :
    read registry descriptor payload =
      .ok (Dict.ofEntries (descriptor.fields.filterMap fun field =>
        (held field).map fun value => (field.name, value))) := by
  -- Fields that are read one by one are read as a list, and the members are what was found.
  have run : descriptor.fields.mapM (fun field => do
      let value ← readField registry descriptor payload (readInside registry payload) field
      pure (value.map fun value => (field.name, value))) =
      .ok (descriptor.fields.map fun field =>
        (held field).map fun value => (field.name, value)) := by
    rw [mapM_eq_ok_iff, List.forall₂_map_right_iff, List.forall₂_same]
    intro field declared
    rw [each field declared]
    rfl
  rw [read]
  change (do
    let values ← descriptor.fields.mapM fun field => do
      let value ← readField registry descriptor payload (readInside registry payload) field
      pure (value.map fun value => (field.name, value))
    pure (Dict.ofEntries (values.filterMap fun member => member))) = _
  rw [run]
  simp only [bind, Except.bind, pure, Except.pure, List.filterMap_map]
  rfl

/-- Without a value, a relationship is read as the stub of its foreign key. -/
theorem readRelated_of_missing {inside : Inside payload}
    (missing : payload.get? field.name = none) :
    readRelated registry descriptor payload inside field = .ok (stub? registry field payload) := by
  -- The cases in which the relationship has a value are ruled out.
  unfold readRelated
  split
  · rename_i held
    cases missing.symm.trans held
  · rfl
  · rfl
  · rename_i held
    cases missing.symm.trans held

/-- A related record is read under its type. -/
theorem readRelated_of_object {inside : Inside payload} {related members : Object}
    {target : Descriptor} (held : payload.get? field.name = some (.object related))
    (taken : registry.targetOf field (Attributes.typeOf? related) = .ok target)
    (read : ∀ smaller, inside target related smaller = .ok members) :
    readRelated registry descriptor payload inside field =
      .ok (some (tagged field target (.object members))) := by
  -- Only the case of an object is left, and it ends with the target that was taken.
  unfold readRelated
  split
  · rename_i found
    cases held.symm.trans found
    simp [taken, read, Except.mapError, bind, Except.bind, pure, Except.pure]
  · rename_i found
    cases held.symm.trans found
  · rename_i found
    cases held.symm.trans found
  · rename_i other _ found
    exact absurd (Option.some.inj (found.symm.trans held)) (other _)

/-- Without a value in any of its columns, a field is read as nothing, or as no child records. -/
theorem readField_of_silent {inside : Inside payload} (data : field.isAttributes = false)
    (silent : ∀ key ∈ field.columns, payload.get? key = none) :
    readField registry descriptor payload inside field =
      .ok (if field.isChild then some (.array []) else none) := by
  -- The field has no value of its own, so what it is read as depends on its kind.
  have own : payload.get? field.name = none := silent _ List.mem_cons_self
  simp only [readField, data, Bool.false_eq_true, if_false]
  split
  · -- No rows are no child records.
    have rows : readChildren registry payload inside field = .ok [] := by
      unfold readChildren
      split
      · rename_i fault
        simp [own, childRows] at fault
      · simp [own]
    simp [rows, Except.map]
  · split
    · -- The column of the foreign key is as empty as that of the name.
      have unstubbed : stub? registry field payload = none := by
        cases key : field.referenceKey with
        | none => simp [stub?, key]
        | some column =>
          have empty := silent column (by simp [FieldDescriptor.columns, key])
          simp [stub?, key, empty]
      rw [readRelated_of_missing own, unstubbed]
    · rw [own]

/-- A field of a payload is read as what is to be read back of it, if the records that are created
along with the payload are. -/
theorem readField_of_writes {member : Option (String × Json)}
    (data : field.isAttributes = false)
    (foreign : field.isReference → ∃ key, field.referenceKey = some key)
    (own : field.columns.Nodup) (writes : Writes registry record .create field member)
    (stands : ∀ key ∈ field.columns, payload.get? key = Dict.get? member.toList key)
    (created : ∀ related target inner, record.get? field.name = some (.object related) →
      registry.targetOf field (statedType field related) = .ok target →
      members registry target (untag field related).2 .create
        (some { typeName := target.name }) = .ok inner →
      registry.targetOf field (Attributes.typeOf? inner) = .ok target ∧
        read registry target inner = .ok (image registry target (untag field related).2)) :
    readField registry descriptor payload (readInside registry payload) field =
      .ok (restored? registry descriptor record (imageInside registry record) field) := by
  -- There is one case for each way in which the field was written.
  have named : payload.get? field.name = Dict.get? member.toList field.name :=
    stands _ List.mem_cons_self
  cases writes with
  | unwritable unwritable =>
    -- Nothing was written, so nothing is read back.
    rw [restored?_of_not_writable data unwritable]
    exact readField_of_silent data stands
  | absent missing =>
    -- A missing value was left out, and is missing again.
    rw [restored?_of_missing data missing]
    exact readField_of_silent data stands
  | forced _ _ full => simp [WriteIntent.forcesNulls] at full
  | @value writable plain value held given =>
    -- A plain value stands under its own name.
    have childless := FieldDescriptor.isChild_of_writable writable
    have kept : Json.isNull value = false := by cases value <;> simp_all [Json.isNull]
    simp [readField, restored?, data, childless, plain, writable, held, named, Dict.get?_cons,
      Option.filter, kept]
  | @reference writable relationship value id held stored =>
    -- A stored record stands under its foreign key, and a stub is made of it.
    have childless := FieldDescriptor.isChild_of_writable writable
    obtain ⟨key, column⟩ := foreign relationship
    -- The foreign key is another column than the name, so the relationship itself has no value.
    have differs : key ≠ field.name := by
      rintro rfl
      simp [FieldDescriptor.columns, column] at own
    have foreignKey : payload.get? key = some (.string id) := by
      rw [stands key (by simp [FieldDescriptor.columns, column])]
      simp [keyOf, column, Dict.get?_cons]
    have empty : payload.get? field.name = none := by
      simp [named, keyOf, column, Dict.get?_cons, differs]
    have stubbed : stub? registry field payload = idStub? registry field id := by
      simp [stub?, idStub?, column, foreignKey, Json.asString?]
    simp [readField, restored?, data, childless, relationship, writable,
      readRelated_of_missing empty, stubbed, restoredRelated?_of_stored held stored]
  | @creation writable relationship related inner target held unstored taken written =>
    -- A new record stands under its own name, and is read as what it was written from.
    have childless := FieldDescriptor.isChild_of_writable writable
    obtain ⟨again, restored⟩ := created related target inner held taken written
    have whole : payload.get? field.name = some (.object inner) := by
      simp [named, Dict.get?_cons]
    have read : readRelated registry descriptor payload (readInside registry payload) field =
        .ok (some (tagged field target
          (.object (image registry target (untag field related).2)))) :=
      readRelated_of_object whole again fun _ => restored
    simp [readField, restored?, data, childless, relationship, writable, read, imageInside,
      restoredRelated?_of_unstored held unstored taken]

end Payload

namespace Registry

open Payload

variable {registry : Registry}

/-- A target that was taken once is taken again by its own name, if no other type has that name. -/
theorem Represents.targetOf_name (represents : Represents registry)
    (unique : (registry.arena.map (·.name)).Nodup) {field : FieldDescriptor} {named : Option String}
    {target : Descriptor} (taken : registry.targetOf field named = .ok target) :
    registry.targetOf field (some target.name) = .ok target := by
  -- Where names are not shared, the first type of a name is the one that has it.
  obtain ⟨published, admitted⟩ := represents.admits_of_targetOf taken
  by_cases polymorphic : field.isPolymorphic
  · exact represents.targetOf_of_first? polymorphic (first?_of_nodup unique published) admitted
  · -- A field with one target takes it whatever is stated.
    rw [targetOf_of_no_member fun poly => absurd poly polymorphic] at taken ⊢
    exact taken

/-- A payload that states its type says so when it is read. -/
theorem typeOf?_of_members {descriptor : Descriptor} {record payload : Object}
    {intent : WriteIntent} (apart : descriptor.KeysApart)
    (encoded : members registry descriptor record intent (some { typeName := descriptor.name }) =
      .ok payload) :
    payload.get? Attributes.key = some ({ typeName := descriptor.name } : Attributes).toJson ∧
      Attributes.typeOf? payload = some descriptor.name := by
  -- No field writes over the metadata that the payload starts from.
  have metadata : payload.get? Attributes.key =
      some ({ typeName := descriptor.name } : Attributes).toJson := by
    rw [get?_of_untouched encoded (apart.untouched_attributes registry.config intent)]
    rfl
  refine ⟨metadata, ?_⟩
  rw [Attributes.typeOf?, metadata]
  rfl

/-- The members of a payload that creates a record are read back as the image of the record. -/
theorem Represents.read_of_members (represents : Represents registry)
    (unique : (registry.arena.map (·.name)).Nodup)
    (foreign : ∀ descriptor ∈ registry.arena, ∀ field ∈ descriptor.fields,
      field.isReference → ∃ key, field.referenceKey = some key)
    {descriptor : Descriptor} (published : descriptor ∈ registry.arena)
    (apart : ∀ next, registry.Reaches descriptor next → next.KeysApart)
    {attributes : Option Attributes}
    (stated : ∀ field ∈ descriptor.fields, field.isAttributes →
      attributes = some { typeName := descriptor.name })
    {record payload : Object}
    (encoded : members registry descriptor record .create attributes = .ok payload) :
    read registry descriptor payload = .ok (image registry descriptor record) := by
  -- The record is read back field by field, and the recursion is on the records inside.
  rw [image_eq]
  refine read_of_readField fun field declared => ?_
  have here : descriptor.KeysApart := apart descriptor .refl
  cases data : field.isAttributes with
  | true =>
    -- A field of metadata is read as the type that the payload states.
    rw [stated field declared data] at encoded
    simp [readField, restored?, data, (typeOf?_of_members here encoded).1]
  | false =>
    obtain ⟨own, member, writes, stands⟩ := exists_member_of_keysApart encoded here declared data
    refine readField_of_writes data (foreign descriptor published field declared) own writes stands
      fun related target inner held taken written => ?_
    -- The target is one step away, so what is reached from it is reached from here.
    obtain ⟨listed, admitted⟩ := represents.admits_of_targetOf taken
    have beyond : ∀ next, registry.Reaches target next → next.KeysApart := fun next reached =>
      apart next (.head ⟨listed, field, declared, admitted⟩ reached)
    have smaller := sizeOf_untag_lt held
    refine ⟨?_, represents.read_of_members unique foreign listed beyond (fun _ _ _ => rfl) written⟩
    rw [(typeOf?_of_members (beyond target .refl) written).2]
    exact represents.targetOf_name unique taken
termination_by sizeOf record

/-- Whatever was looked up before, if all types have different names and the keys of a type and of
those that are reached from it are apart, every payload that creates a record of the type is read
back, as exactly what is to be read back of the record, field by field at every depth. -/
theorem created_payload_reads_back {config : MappingConfig} {calls : List Lookup}
    (unique : ((after config calls).arena.map (·.name)).Nodup) {descriptor : Descriptor}
    (published : descriptor ∈ (after config calls).arena)
    (apart : ∀ next, (after config calls).Reaches descriptor next → next.KeysApart)
    {record : Object} {payload : Json}
    (encoded : encode (after config calls) descriptor (.object record) .create = .ok payload) :
    decode (after config calls) descriptor payload =
        .ok (.object (image (after config calls) descriptor record)) ∧
      ∀ owner ∈ (after config calls).arena, ∀ held : Object,
        (∀ field ∈ owner.fields, (image (after config calls) owner held).get? field.name =
          restored? (after config calls) owner held (imageInside (after config calls) held) field) ∧
        ∀ key, key ∉ owner.fields.map (·.name) →
          (image (after config calls) owner held).get? key = none := by
  refine ⟨?_, fun owner listed held => get?_image listed held⟩
  obtain ⟨members, rfl, written⟩ := encode_object_eq_ok_iff.mp encoded
  -- A type with a place for metadata states itself in its payloads.
  have stated : ∀ field ∈ descriptor.fields, field.isAttributes →
      (if descriptor.isMetadataAware then
        some ({ typeName := descriptor.name } : Attributes) else none) =
        some { typeName := descriptor.name } := by
    intro field declared metadata
    have somewhere : descriptor.attributesField?.isSome := by
      rw [Descriptor.attributesField?, List.find?_isSome]
      exact ⟨field, declared, metadata⟩
    simp [Descriptor.isMetadataAware, somewhere]
  -- Published relationships have their foreign keys.
  have foreign : ∀ owner ∈ (after config calls).arena, ∀ field ∈ owner.fields,
      field.isReference → ∃ key, field.referenceKey = some key := by
    intro owner listed field declared relationship
    obtain ⟨call, -, -, describes⟩ := describes_of_published listed
    exact ⟨_, (describes.referenceKey_eq declared).trans (if_pos relationship)⟩
  have read := (after_represents config calls).read_of_members unique foreign published apart stated
    written
  simp [decode, read, Except.map]

/-- Accounts below other accounts, with an owner of either of two types. -/
def clientele : Catalog where
  schemas := [
    ("Account", {
      name := "Account"
      fields := [.attributes "attributes", .id "Id", .simple "Name",
        .reference "Parent" ⟨"Account", .mapped⟩,
        .polymorphic "Owner" [⟨"User", .mapped⟩, ⟨"Group", .mapped⟩],
        .collection "Contacts" ⟨"Contact", .mapped⟩] }),
    ("Contact", { name := "Contact", fields := [.simple "Email"] }),
    ("Group", { name := "Group", fields := [.simple "Name"] }),
    ("User", { name := "User", fields := [.id "Id"] })]

/-- The registry of a lookup of such accounts. -/
def afterClientele : Registry :=
  after {} [⟨clientele, ⟨"Account", .mapped⟩⟩]

/-- Accounts are met first, then the types of their owners, then their contacts. -/
theorem afterClientele_eq : afterClientele =
    ({ config := {} } : Registry).publish
      ⟨[(⟨"Account", .mapped⟩, clientele.schema "Account"),
        (⟨"User", .mapped⟩, clientele.schema "User"),
        (⟨"Group", .mapped⟩, clientele.schema "Group"),
        (⟨"Contact", .mapped⟩, clientele.schema "Contact")],
        [], ["Account", "User", "Group", "Contact"]⟩ := by
  -- The exploration of the catalog ends within five steps, so it can be run.
  have explored : Exploration.explore [] clientele {} [⟨⟨"Account", .mapped⟩, none⟩] =
      (⟨[(⟨"Account", .mapped⟩, clientele.schema "Account"),
        (⟨"User", .mapped⟩, clientele.schema "User"),
        (⟨"Group", .mapped⟩, clientele.schema "Group"),
        (⟨"Contact", .mapped⟩, clientele.schema "Contact")],
        [], ["Account", "User", "Group", "Contact"]⟩, none) :=
    Exploration.explore_of_exploreWithin 5 rfl
  simp [afterClientele, after, lookUp, descriptor, published?, explore, explored]

/-- An account with a new group as its owner and a stored account above it. -/
def newAccount : Object := [
  ("Name", .string "Acme"),
  ("Owner", .object [("Group", .object [("Name", .string "Sales")])]),
  ("Parent", .object [("Id", .string "001P"), ("Name", .string "Head")])]

section Clientele

variable {account group : Descriptor} (first : afterClientele.arena[0]? = some account)
  (third : afterClientele.arena[2]? = some group)

include third

/-- A new group is written with its name and its type. -/
theorem members_newGroup :
    members afterClientele group [("Name", .string "Sales")] .create
      (some { typeName := group.name }) =
        .ok [("Name", .string "Sales"), ("attributes", .object [("type", .string "Group")])] := by
  -- The group has a single field, which is written beside the type.
  rw [afterClientele_eq] at third ⊢
  cases third
  rw [members]
  rfl

include first

/-- The new account is written with the new group inside it and the identifier of the other. -/
theorem encode_newAccount :
    encode afterClientele account (.object newAccount) .create = .ok (.object [
      ("Name", .string "Acme"),
      ("Owner", .object [("Name", .string "Sales"),
        ("attributes", .object [("type", .string "Group")])]),
      ("ParentId", .string "001P"),
      ("attributes", .object [("type", .string "Account")])]) := by
  -- The owner is a new record, so what is written of the group comes first.
  have inner := members_newGroup third
  rw [afterClientele_eq] at first third inner ⊢
  cases first
  cases third
  -- Each field writes its member, and that of the owner holds the group.
  refine encode_object_eq_ok_iff.mpr ⟨_, rfl, members_eq_ok_iff.mpr ⟨[none, none,
    some ("Name", .string "Acme"), some ("ParentId", .string "001P"),
    some ("Owner", .object [("Name", .string "Sales"),
      ("attributes", .object [("type", .string "Group")])]), none],
    .cons rfl (.cons rfl (.cons rfl (.cons rfl (.cons ?_ (.cons rfl .nil))))), rfl⟩⟩
  exact congrArg (fun run => run >>= fun group => pure (some ("Owner", Json.object group))) inner

/-- The group is read back under its name, and of the other account only the identifier. -/
theorem image_newAccount :
    image afterClientele account newAccount = [
      ("Contacts", .array []),
      ("Name", .string "Acme"),
      ("Owner", .object [("Group", .object [("Name", .string "Sales")])]),
      ("Parent", .object [("Id", .string "001P")]),
      ("attributes", .object [("type", .string "Account")])] := by
  -- The group is read back first, since it stands inside the image of the account.
  have inner : image afterClientele group [("Name", .string "Sales")] =
      [("Name", .string "Sales")] := by
    rw [afterClientele_eq] at third ⊢
    cases third
    rw [image]
    rfl
  rw [afterClientele_eq] at first third inner ⊢
  cases first
  cases third
  rw [image]
  exact congrArg (fun group => [
    ("Contacts", Json.array []),
    ("Name", .string "Acme"),
    ("Owner", .object [("Group", .object group)]),
    ("Parent", .object [("Id", .string "001P")]),
    ("attributes", .object [("type", .string "Account")])]) inner

end Clientele

/-- A new account is read back with its new owner and a stub of the stored account above it. -/
theorem created_payload_reads_back_clientele :
    ∃ account payload, account ∈ afterClientele.arena ∧
      encode afterClientele account (.object newAccount) .create = .ok payload ∧
      decode afterClientele account payload = .ok (.object [
        ("Contacts", .array []),
        ("Name", .string "Acme"),
        ("Owner", .object [("Group", .object [("Name", .string "Sales")])]),
        ("Parent", .object [("Id", .string "001P")]),
        ("attributes", .object [("type", .string "Account")])]) := by
  -- The clientele meets all the conditions, so its payload is read back as its image.
  have known : ∃ account group, afterClientele.arena[0]? = some account ∧
      afterClientele.arena[2]? = some group := by
    rw [afterClientele_eq]
    exact ⟨_, _, rfl, rfl⟩
  obtain ⟨account, group, first, third⟩ := known
  have encoded := encode_newAccount first third
  have listed := List.mem_of_getElem? first
  have unique : (afterClientele.arena.map (·.name)).Nodup := by
    rw [afterClientele_eq]
    decide
  have apart : ∀ next ∈ afterClientele.arena, next.KeysApart := by
    rw [afterClientele_eq]
    decide +kernel
  have decoded := (created_payload_reads_back unique listed
    (fun next reached => apart next (reached.published listed)) encoded).1
  exact ⟨account, _, listed, encoded, decoded.trans (by rw [← image_newAccount first third]; rfl)⟩

end Registry

end RemoteRecords
