import RemoteRecords.Proofs.Batch.Plans
import RemoteRecords.Proofs.Payload.Influence
import RemoteRecords.Proofs.Payload.Keys
import RemoteRecords.Proofs.Query.Listing
import RemoteRecords.Proofs.Registry.Published
import RemoteRecords.Proofs.Rest.Path

/-! Upserts: what of the field that addresses a record is left in the body, and what is not. -/

namespace RemoteRecords

/-- The foreign key that a field is written under for an intent, if it is written and has one. -/
def FieldDescriptor.foreignColumn? (config : MappingConfig) (intent : WriteIntent)
    (field : FieldDescriptor) : Option String :=
  if field.writable config intent then field.referenceKey else none

/-- A field without a foreign key of its own, or with one that is not written, has none to write. -/
theorem FieldDescriptor.foreignColumn?_eq_some_iff {config : MappingConfig} {intent : WriteIntent}
    {field : FieldDescriptor} {key : String}
    (keyed : field.referenceKey = if field.isReference then some key else none) {column : String} :
    field.foreignColumn? config intent = some column ↔
      field.isReference = true ∧ field.writable config intent = true ∧
        column = Payload.keyOf field := by
  -- Relationships and writable fields are told apart by flags, so there are four cases.
  rw [Payload.keyOf, keyed]
  cases relationship : field.isReference <;> cases writable : field.writable config intent <;>
    simp [foreignColumn?, keyed, relationship, writable, eq_comm]

/-- How the body of an upsert compares with the record as a new one in which its key is cleared. -/
structure UpsertBody (config : MappingConfig) (descriptor : Descriptor) (field : FieldDescriptor)
    (key : String) (body cleared : Object) : Prop where
  nameless : body.get? field.name = none
  /-- No column differs but the name of the field and its foreign key. -/
  agrees : ∀ column, column ≠ field.name → field.foreignColumn? config .create ≠ some column →
    body.get? column = cleared.get? column
  /-- Under the foreign key the key is sent after all, unless a later field is written over it. -/
  foreign : ∀ column ahead behind, column ≠ field.name →
    field.foreignColumn? config .create = some column →
    descriptor.fields = ahead ++ field :: behind →
    Payload.Untouched config .create column behind → body.get? column = some (.string key)
  /-- Of a field that is written under no other name, nothing is left. -/
  erased : (∀ column, field.foreignColumn? config .create = some column → column = field.name) →
    body = cleared.erase field.name
  /-- What is removed with it was written under its name by another field or as metadata. -/
  whole : (∀ column, field.foreignColumn? config .create = some column → column = field.name) →
    (descriptor.isMetadataAware = true → field.name ≠ Attributes.key) →
    (∀ other ∈ descriptor.fields, other.name ≠ field.name →
      other.foreignColumn? config .create ≠ some field.name) → body = cleared

namespace Payload

variable {registry : Registry} {owner descriptor : Descriptor} {record payload : Object}
  {field : FieldDescriptor} {ahead behind : List FieldDescriptor} {attributes : Option Attributes}

/-- A new record leaves null out, whatever field it is the value of. -/
theorem valueMember?_null_create :
    valueMember? registry owner .create field .null = .ok none := by
  -- Neither a plain field nor a relationship forces null on a new record.
  cases writable : field.writable registry.config .create <;>
    cases relationship : field.isReference <;>
    simp [valueMember?, relationshipEntry, writable, relationship, Json.isNull,
      WriteIntent.forcesNulls]

/-- Fields of other names write what they wrote before a value was stored. -/
theorem forall₂_member?_insert {name : String} {fields : List FieldDescriptor}
    {written : List (Option (String × Json))} (apart : name ∉ fields.map (·.name)) (value : Json)
    (each : List.Forall₂ (fun field member =>
      member? registry descriptor record .create (created registry record) field = .ok member)
      fields written) :
    List.Forall₂ (fun field member => member? registry descriptor (record.insert name value) .create
      (created registry (record.insert name value)) field = .ok member) fields written := by
  refine mapM_eq_ok_iff.mp ((mapM_congr fun field declared => ?_).trans (mapM_eq_ok_iff.mpr each))
  -- A field reads nothing but the value of its own name.
  have differs : name ≠ field.name := fun same =>
    apart (List.mem_map.mpr ⟨field, declared, same.symm⟩)
  rw [member?_eq, member?_eq]
  simp [Dict.valueOrNull, Dict.get?_insert, differs]

/-- A field of a descriptor without repeated names shares its own with none ahead or behind. -/
theorem name_apart_of_split (declared : descriptor.fields = ahead ++ field :: behind)
    (once : (descriptor.fields.map (·.name)).Nodup) :
    field.name ∉ ahead.map (·.name) ∧ field.name ∉ behind.map (·.name) := by
  -- The names split where the fields do, and no name occurs twice.
  rw [declared, List.map_append, List.map_cons, List.nodup_middle, List.nodup_cons,
    List.mem_append, not_or] at once
  exact once.1

/-- With the value of one field cleared, a new record is written without what that field wrote, and
otherwise as before. -/
theorem exists_members_of_cleared
    (encoded : members registry descriptor record .create attributes = .ok payload)
    (declared : descriptor.fields = ahead ++ field :: behind)
    (once : (descriptor.fields.map (·.name)).Nodup) :
    ∃ member first rest, Writes registry record .create field member ∧
      payload = Dict.insertAll (header attributes) (first ++ member.toList ++ rest) ∧
      members registry descriptor (record.insert field.name .null) .create attributes =
        .ok (Dict.insertAll (header attributes) (first ++ rest)) := by
  obtain ⟨written, each, rfl⟩ := members_eq_ok_iff.mp encoded
  obtain ⟨unnamed, unnamed'⟩ := name_apart_of_split declared once
  rw [declared] at each
  -- The members are split where the fields are, and only that of the field itself changes.
  obtain ⟨first, member, rest, rfl, before, here, after⟩ := exists_split_of_forall₂ each
  refine ⟨member, first.filterMap fun member => member, rest.filterMap fun member => member,
    writes_of_member? here, ?_, members_eq_ok_iff.mpr ⟨first ++ none :: rest, ?_, ?_⟩⟩
  · -- The payload was written from all the members, that of the field between the others.
    cases member <;> simp [header]
  · -- Null under the name of the field makes it write nothing.
    have cleared : member? registry descriptor (record.insert field.name .null) .create
        (created registry (record.insert field.name .null)) field = .ok none := by
      rw [member?_eq]
      simp [Dict.valueOrNull, Dict.get?_insert, valueMember?_null_create]
    rw [declared]
    exact List.rel_append (forall₂_member?_insert unnamed .null before)
      (.cons cleared (forall₂_member?_insert unnamed' .null after))
  · -- Nothing between the members is nothing in the payload.
    simp [header]

/-- A field whose value is a key writes the key: under its own name if it is plain, under its
foreign key if it is a relationship, and nowhere only if it is not written at all. -/
theorem Writes.key_cases {member : Option (String × Json)} {key : String}
    (writes : Writes registry record .create field member)
    (held : Plan.keyText? (record.get? field.name) = some key) :
    (field.writable registry.config .create = false ∧ member = none) ∨
      (field.isReference = false ∧ ∃ value, member = some (field.name, value)) ∨
      (field.isReference = true ∧ field.writable registry.config .create = true ∧
        member = some (keyOf field, .string key)) := by
  -- There is one case for each way in which a field can be written.
  cases writes with
  | unwritable unwritable => exact .inl ⟨unwritable, rfl⟩
  | absent missing =>
    -- A value that is missing or null is no key.
    rcases missing with missing | missing <;> cases missing ▸ held
  | forced _ _ full => simp [WriteIntent.forcesNulls] at full
  | value _ plain => exact .inr (.inl ⟨plain, _, rfl⟩)
  | @reference writable relationship value id found stored =>
    -- Of the values that are keys, only a text stands for an identifier.
    rw [found] at held
    cases value with
    | string text =>
      cases stored
      simp only [Plan.keyText?] at held
      split at held
      · cases held
      · cases held
        exact .inr (.inr ⟨relationship, writable, rfl⟩)
    | null | bool | number | array | object => simp_all [Plan.keyText?, heldId?]
  | creation _ _ found =>
    -- A related record is an object, and an object is no key.
    rw [found] at held
    cases held

/-- With the value of a key field cleared, the body of an upsert is the same but for the columns of
that field. -/
theorem exists_cleared_of_key
    (encoded : members registry descriptor record .create attributes = .ok payload)
    (declared : field ∈ descriptor.fields) (once : (descriptor.fields.map (·.name)).Nodup)
    {key : String} (held : Plan.keyText? (record.get? field.name) = some key) :
    ∃ emptied, members registry descriptor (record.insert field.name .null) .create attributes =
        .ok emptied ∧
      ∀ column, column ≠ field.name →
        (field.isReference = true → field.writable registry.config .create = true →
          column ≠ keyOf field) →
        payload.get? column = emptied.get? column := by
  -- The two bodies are written from the same members but for that of the field.
  obtain ⟨ahead, behind, split⟩ := List.append_of_mem declared
  obtain ⟨member, first, rest, writes, rfl, cleared⟩ :=
    exists_members_of_cleared encoded split once
  refine ⟨_, cleared, fun column named foreign => ?_⟩
  -- Only the entry of the field is missing, and it stood under its name or its foreign key.
  rcases writes.key_cases held with ⟨-, rfl⟩ | ⟨-, value, rfl⟩ | ⟨relationship, writable, rfl⟩
  · -- A field that writes nothing makes no difference at all.
    simp
  · simpa using Dict.get?_insertAll_drop (field.name, value) named.symm first rest
      (header attributes)
  · simpa using Dict.get?_insertAll_drop (keyOf field, .string key)
      (foreign relationship writable).symm first rest (header attributes)

/-- Fields of other names whose foreign keys differ from a name leave it alone. -/
theorem untouched_of_foreignColumn? {config : MappingConfig} {intent : WriteIntent} {name : String}
    {fields : List FieldDescriptor} (fresh : name ∉ fields.map (·.name))
    (others : ∀ field ∈ fields, field.name ≠ name →
      field.foreignColumn? config intent ≠ some name) : Untouched config intent name fields := by
  -- A column is either the name of its field or its foreign key, and both were excluded.
  intro field listed writable column
  have differs : field.name ≠ name := fun same => fresh (List.mem_map.mpr ⟨field, listed, same⟩)
  rcases FieldDescriptor.mem_columns_iff.mp column with own | key
  · exact differs own.symm
  · refine others field listed differs ?_
    rw [FieldDescriptor.foreignColumn?, if_pos writable, key]

/-- A cleared field leaves nothing under its name, where no other field and no metadata is
written. -/
theorem get?_eq_none_of_cleared {emptied : Object}
    (cleared : members registry descriptor (record.insert field.name .null) .create attributes =
      .ok emptied)
    (declared : field ∈ descriptor.fields) (once : (descriptor.fields.map (·.name)).Nodup)
    (headless : (header attributes).get? field.name = none)
    (others : ∀ other ∈ descriptor.fields, other.name ≠ field.name →
      other.foreignColumn? registry.config .create ≠ some field.name) :
    emptied.get? field.name = none := by
  -- What stands under a name comes from its own field, another field or the metadata.
  obtain ⟨ahead, behind, split⟩ := List.append_of_mem declared
  obtain ⟨unnamed, unnamed'⟩ := name_apart_of_split split once
  have before : Untouched registry.config .create field.name ahead :=
    untouched_of_foreignColumn? unnamed fun other listed => others other (by simp [split, listed])
  have after : Untouched registry.config .create field.name behind :=
    untouched_of_foreignColumn? unnamed' fun other listed => others other (by simp [split, listed])
  obtain ⟨member, writes, -, silent⟩ := exists_member_of_members cleared split
  -- Null is neither a value nor a related record, and a new record does not send it.
  have unwritten : member = none := by
    have null : Dict.get? (record.insert field.name .null) field.name = some .null := by
      simp [Dict.get?_insert]
    cases writes with
    | unwritable | absent => rfl
    | forced _ _ full => simp [WriteIntent.forcesNulls] at full
    | value _ _ found given => simp_all
    | reference _ _ found stored =>
      cases null.symm.trans found
      cases stored
    | creation _ _ found => cases null.symm.trans found
  -- No field touches the name, so what is there is what the metadata put there.
  rw [silent field.name (by simp [unwritten]) before after, headless]

/-- A body from which the name of a key field was removed compares with the cleared record as the
body of an upsert does. -/
theorem upsertBody_of_members
    (encoded : members registry descriptor record .create attributes = .ok payload)
    (stated : attributes = if descriptor.isMetadataAware then some { typeName := descriptor.name }
      else none)
    (declared : field ∈ descriptor.fields) (once : (descriptor.fields.map (·.name)).Nodup)
    {column : String}
    (keyed : field.referenceKey = if field.isReference then some column else none) {key : String}
    (held : Plan.keyText? (record.get? field.name) = some key) :
    ∃ emptied, members registry descriptor (record.insert field.name .null) .create attributes =
        .ok emptied ∧
      UpsertBody registry.config descriptor field key (Dict.erase payload field.name) emptied := by
  obtain ⟨emptied, cleared, agree⟩ := exists_cleared_of_key encoded declared once held
  have foreign {column : String} : field.foreignColumn? registry.config .create = some column ↔
      field.isReference = true ∧ field.writable registry.config .create = true ∧
        column = keyOf field := field.foreignColumn?_eq_some_iff keyed
  -- Seen through the columns of the field, the two bodies agree everywhere else.
  have elsewhere : ∀ column, column ≠ field.name →
      field.foreignColumn? registry.config .create ≠ some column →
      Dict.get? payload column = emptied.get? column := fun column other own =>
    agree column other fun relationship writable same =>
      own (foreign.mpr ⟨relationship, writable, same⟩)
  -- Both are in key order, so they are compared key by key.
  have erased (alone : ∀ column, field.foreignColumn? registry.config .create = some column →
      column = field.name) : Dict.erase payload field.name = emptied.erase field.name := by
    refine ((sorted_of_members encoded).erase _).ext ((sorted_of_members cleared).erase _)
      fun column => ?_
    rw [Dict.get?_erase, Dict.get?_erase]
    split
    · rfl
    · rename_i other
      exact elsewhere column (Ne.symm other) fun own => other (alone column own).symm
  refine ⟨emptied, cleared, ?_, fun column other own => ?_,
    fun column ahead behind other own split untouched => ?_, erased,
    fun alone headless others => ?_⟩
  · -- The name is what was removed.
    rw [Dict.get?_erase, if_pos rfl]
  · -- The removal leaves any other column as it was.
    rw [Dict.get?_erase, if_neg other.symm, elsewhere column other own]
  · -- The key is written under the foreign key, and nothing behind the field is written there.
    obtain ⟨relationship, writable, rfl⟩ := foreign.mp own
    obtain ⟨member, writes, stands, -⟩ := exists_member_of_members encoded split
    rcases writes.key_cases held with ⟨unwritable, -⟩ | ⟨plain, -⟩ | ⟨-, -, rfl⟩
    · cases unwritable.symm.trans writable
    · cases plain.symm.trans relationship
    · rw [Dict.get?_erase, if_neg other.symm]
      exact stands _ _ rfl untouched
  · -- Metadata is the only thing besides fields that could stand under the name.
    have unheaded : (header attributes).get? field.name = none := by
      rw [stated]
      cases aware : descriptor.isMetadataAware
      · rfl
      · simp [header, Dict.get?_cons, (headless aware).symm]
    exact (erased alone).trans ((sorted_of_members cleared).erase_of_missing
      (get?_eq_none_of_cleared cleared declared once unheaded others))

end Payload

namespace Registry

open Payload

/--
An upsert is addressed by the value of a field, and its body is the record as a new one without that
field, but for the foreign key of a relationship.

The last segment of the path encodes the value, and the record can be written with the field
cleared.
How the body compares with that depends on the columns of the field alone: the name is removed, and
a foreign key of another name is not.
-/
theorem upsert_clears_name_of_key {config : MappingConfig} {calls : List Lookup} {mapper : Mapper}
    (history : mapper.registry = after config calls) {paths : Paths} {catalog : Catalog}
    {typeName external : String} {record : Object} {plan : Plan}
    (planned : ((Plan.upsert paths catalog typeName external (.object record)).run.run mapper).1 =
      .ok plan) :
    let looked := mapper.registry.descriptorOf catalog typeName
    ∃ descriptor ∈ looked.2.arena, looked.1 = .ok descriptor ∧
      ∃ field, descriptor.field? external = some field ∧ field.name = external ∧
        ∃ key, Plan.keyText? (record.get? external) = some key ∧ ∃ body cleared : Object,
          plan.request =
            ⟨.patch, paths.external descriptor.name external key, some (.object body)⟩ ∧
          FormText.percentDecode? (Paths.lastSegment plan.request.path) =
            some key.toUTF8.toList ∧
          encode looked.2 descriptor (.object (record.insert external .null)) .create =
            .ok (.object cleared) ∧
          UpsertBody config descriptor field key body cleared := by
  -- The plan was made by looking up the type, finding the field and writing the record.
  intro looked
  obtain ⟨descriptor, field, key, body, described, found, held, encoded, rfl⟩ :=
    Plan.run_upsert_eq_ok_iff.mp planned
  have published := mem_arena_of_descriptorOf described
  -- The lookup for the type is one call more.
  have left : looked.2 = after config (calls ++ [⟨catalog, ⟨typeName, .mapped⟩⟩]) := by
    rw [after_concat, ← history, descriptorOf_snd]
  rw [← descriptorOf_snd] at published
  change descriptor ∈ looked.2.arena at published
  change encode looked.2 descriptor _ _ = _ at encoded
  rw [left] at published encoded ⊢
  -- The field found is declared, and it carries the name that was asked for.
  have declared : field ∈ descriptor.fields := List.mem_of_find?_eq_some found
  have named : field.name = external := by simpa using List.find?_some found
  subst named
  obtain ⟨call, -, -, describes⟩ := describes_of_published published
  obtain ⟨payload, rfl, written⟩ := encode_object_eq_ok_iff.mp encoded
  obtain ⟨cleared, emptied, compares⟩ := upsertBody_of_members written rfl declared
    (nodup_names_of_published published) (describes.referenceKey_eq declared) held
  rw [after_config] at compares
  -- The rest is told by how the bodies compare and by the spelling of the last segment.
  refine ⟨descriptor, published, described, field, found, rfl, key, held, _, cleared, rfl, ?_,
    encode_object_eq_ok_iff.mpr ⟨cleared, rfl, emptied⟩, compares⟩
  exact Paths.lastSegment_append_segment _ key ▸ (FormText.segment_spec key).2

/-- An account below another one. -/
def branchAccount : Object :=
  [("Name", .string "Acme"), ("Parent", .string "001P")]

/-- What its fields are written under, and what is written of it as a new account. -/
theorem encode_branchAccount :
    ∃ account name parent,
      Mapper.ofDirectory.registry.descriptorOf directory "Account" =
        (.ok account, Mapper.ofDirectory.registry) ∧
      account.name = "Account" ∧
      (account.field? "Name" = some name ∧ name.name = "Name" ∧
        name.foreignColumn? {} .create = none ∧
        ∀ other ∈ account.fields, other.name ≠ "Name" →
          other.foreignColumn? {} .create ≠ some "Name") ∧
      (account.field? "Parent" = some parent ∧ parent.name = "Parent") ∧
      encode Mapper.ofDirectory.registry account (.object branchAccount) .create =
        .ok (.object [("Name", .string "Acme"), ("ParentId", .string "001P")]) ∧
      encode Mapper.ofDirectory.registry account (.object (branchAccount.insert "Parent" .null))
        .create = .ok (.object [("Name", .string "Acme")]) := by
  -- The directory is a fixed registry, so what it holds and writes can be computed.
  rw [Mapper.registry_ofDirectory, after_directory]
  exact ⟨_, _, _, rfl, rfl, ⟨rfl, rfl, rfl, by decide⟩, ⟨rfl, rfl⟩, by decide +kernel,
    by decide +kernel⟩

/-- An account that is upserted by its name is sent as one without a name. -/
theorem upsert_clears_name_of_key_branch :
    ∃ account ∈ Mapper.ofDirectory.registry.arena, ∃ plan body,
      ((Plan.upsert (Paths.ofVersion "58.0") directory "Account" "Name"
        (.object branchAccount)).run.run Mapper.ofDirectory).1 = .ok plan ∧
      plan.request = ⟨.patch, "v58.0/sobjects/Account/Name/Acme", some (.object body)⟩ ∧
      FormText.percentDecode? (Paths.lastSegment plan.request.path) =
        some "Acme".toUTF8.toList ∧
      encode Mapper.ofDirectory.registry account (.object (branchAccount.insert "Name" .null))
        .create = .ok (.object body) ∧
      body = [("ParentId", .string "001P")] := by
  -- The call can be planned, and the law is applied to its plan.
  obtain ⟨account, name, parent, described, called, ⟨found, named, keyless, others⟩, -, encoded,
    -⟩ := encode_branchAccount
  have planned : ((Plan.upsert (Paths.ofVersion "58.0") directory "Account" "Name"
      (.object branchAccount)).run.run Mapper.ofDirectory).1 =
      .ok ⟨⟨.patch, (Paths.ofVersion "58.0").external account.name name.name "Acme",
        some (Plan.without (.object [("Name", .string "Acme"), ("ParentId", .string "001P")])
          name.name)⟩, .upserted⟩ :=
    Plan.run_upsert_eq_ok_iff.mpr ⟨account, name, "Acme", _, by rw [described], found,
      by rw [named]; rfl, by rw [described, encoded], rfl⟩
  obtain ⟨_, published, same, field, held, -, key, text, body, cleared, request, decoded, written,
    compares⟩ := upsert_clears_name_of_key Mapper.registry_ofDirectory planned
  rw [described] at published same written
  cases same
  cases found.symm.trans held
  cases text
  -- The name has no other column, and no other field of accounts is written under it.
  have whole : body = cleared := compares.whole (by simp [keyless]) (fun _ => by rw [named]; decide)
    (by rwa [named])
  subst whole
  -- The path and the body are those of the request that was planned.
  have path : (Paths.ofVersion "58.0").external "Account" "Name" "Acme" =
      "v58.0/sobjects/Account/Name/Acme" := by decide +kernel
  have sent := congrArg SubRequest.body request
  rw [named] at sent
  refine ⟨account, published, _, body, planned, ?_, decoded, written, ?_⟩
  · rw [request, called, path]
  · exact (Json.object.inj (Option.some.inj sent)).symm

/-- Upserted by its parent, the account has the parent in the path and, under its foreign key, in
the body too: a new account without the parent is sent without that column. -/
theorem upsert_sends_key_as_foreign_key :
    ∃ account ∈ Mapper.ofDirectory.registry.arena, account.name = "Account" ∧
      ((Plan.upsert (Paths.ofVersion "58.0") directory "Account" "Parent"
        (.object branchAccount)).run.run Mapper.ofDirectory).1 =
          .ok ⟨⟨.patch, "v58.0/sobjects/Account/Parent/001P",
            some (.object [("Name", .string "Acme"), ("ParentId", .string "001P")])⟩, .upserted⟩ ∧
      encode Mapper.ofDirectory.registry account (.object (branchAccount.insert "Parent" .null))
        .create = .ok (.object [("Name", .string "Acme")]) := by
  -- The body is written from the whole record, and only the name of the relationship is removed.
  obtain ⟨account, -, parent, described, called, -, ⟨found, named⟩, encoded, cleared⟩ :=
    encode_branchAccount
  have published := mem_arena_of_descriptorOf (congrArg Prod.fst described)
  rw [← descriptorOf_snd, described] at published
  refine ⟨account, published, called, Plan.run_upsert_eq_ok_iff.mpr ⟨account, parent, "001P", _,
    by rw [described], found, by rw [named]; rfl, by rw [described, encoded], ?_⟩, cleared⟩
  rw [called, named]
  decide +kernel

end Registry

end RemoteRecords
