import Mathlib.Data.List.Nodup
import RemoteRecords.Proofs.Payload.Members

/-! Columns: of the fields that write under one key, the last one stands. -/

namespace RemoteRecords

namespace Payload

/-- No writable field of a list can write under a key. -/
def Untouched (config : MappingConfig) (intent : WriteIntent) (key : String)
    (fields : List FieldDescriptor) : Prop :=
  ∀ field ∈ fields, field.writable config intent → key ∉ field.columns

end Payload

/-- The keys under which a descriptor's fields write, and that of metadata, are all different. -/
def Descriptor.KeysApart (descriptor : Descriptor) : Prop :=
  (Attributes.key ::
    (descriptor.fields.filter (!·.isAttributes)).flatMap FieldDescriptor.columns).Nodup

instance (descriptor : Descriptor) : Decidable descriptor.KeysApart :=
  inferInstanceAs (Decidable (List.Nodup _))

namespace Descriptor

/-- A field of a descriptor whose keys are apart shares no column with the others, and none with the
metadata. -/
theorem KeysApart.untouched {descriptor : Descriptor} (apart : descriptor.KeysApart)
    {ahead behind : List FieldDescriptor} {field : FieldDescriptor}
    (declared : descriptor.fields = ahead ++ field :: behind) (data : field.isAttributes = false)
    (config : MappingConfig) (intent : WriteIntent) :
    field.columns.Nodup ∧ ∀ key ∈ field.columns, key ≠ Attributes.key ∧
      Payload.Untouched config intent key ahead ∧ Payload.Untouched config intent key behind := by
  -- The keys split where the fields do, and those of the field are apart from all others.
  simp only [KeysApart, declared, List.filter_append, List.filter_cons, data, Bool.not_false,
    if_true, List.flatMap_append, List.flatMap_cons, List.nodup_cons, List.nodup_append',
    List.mem_append, not_or] at apart
  obtain ⟨⟨-, notKey, -⟩, -, ⟨own, -, afterOwn⟩, beforeOwn⟩ := apart
  -- A writable field is one with data, so its columns are among those of the rest.
  have listed : ∀ {other : FieldDescriptor} {fields : List FieldDescriptor} {key : String},
      other ∈ fields → other.writable config intent → key ∈ other.columns →
      key ∈ (fields.filter (!·.isAttributes)).flatMap FieldDescriptor.columns := by
    intro other fields key declared writable column
    have kept := FieldDescriptor.isAttributes_of_writable writable
    exact List.mem_flatMap.mpr ⟨other, List.mem_filter.mpr ⟨declared, by simp [kept]⟩, column⟩
  refine ⟨own, fun key column => ⟨fun same => notKey (same ▸ column), ?_, ?_⟩⟩
  · -- A field ahead has its columns before those of the field.
    intro other declared writable shared
    exact beforeOwn (listed declared writable shared) (List.mem_append_left _ column)
  · -- A field behind has its columns after them.
    intro other declared writable shared
    exact afterOwn column (listed declared writable shared)

/-- No field of a descriptor whose keys are apart writes over the metadata. -/
theorem KeysApart.untouched_attributes {descriptor : Descriptor} (apart : descriptor.KeysApart)
    (config : MappingConfig) (intent : WriteIntent) :
    Payload.Untouched config intent Attributes.key descriptor.fields := by
  -- The column of a writable field is never the key of metadata.
  intro field declared writable column
  obtain ⟨ahead, behind, split⟩ := List.append_of_mem declared
  have data := FieldDescriptor.isAttributes_of_writable writable
  exact ((apart.untouched split data config intent).2 _ column).1 rfl

end Descriptor

namespace Payload

variable {registry : Registry} {descriptor : Descriptor} {record : Object} {intent : WriteIntent}

/-- Members of fields that leave a key alone have other keys. -/
theorem ne_key_of_untouched {key : String} {fields : List FieldDescriptor}
    {written : List (Option (String × Json))}
    (each : List.Forall₂ (Writes registry record intent) fields written)
    (untouched : Untouched registry.config intent key fields) :
    ∀ entry ∈ written.filterMap fun member => member, entry.1 ≠ key := by
  -- An entry under the key would have been written by a field that was said to leave it alone.
  rintro ⟨other, value⟩ listed rfl
  obtain ⟨member, held, rfl⟩ := List.mem_filterMap.mp listed
  -- The entry was written by one of the fields, under one of its columns.
  obtain ⟨field, declared, writes⟩ := exists_left_of_forall₂ each held
  obtain ⟨column, writable⟩ := writes.column
  exact untouched field declared writable column

/-- The metadata that a payload starts from. -/
def header (attributes : Option Attributes) : Object :=
  (attributes.map fun metadata => (Attributes.key, metadata.toJson)).toList

/-- A key that no field writes under holds what the metadata holds there. -/
theorem get?_of_untouched {attributes : Option Attributes} {payload : Object}
    (encoded : members registry descriptor record intent attributes = .ok payload) {key : String}
    (untouched : Untouched registry.config intent key descriptor.fields) :
    payload.get? key = (header attributes).get? key := by
  -- The payload starts from the metadata, and nothing is stored over it under this key.
  obtain ⟨written, each, rfl⟩ := exists_written_of_members encoded
  exact Dict.get?_insertAll_of_ne (ne_key_of_untouched each untouched) _

/-- What a field writes stands in the payload unless a field behind it writes under the same key. A
key that neither the field nor any other writes under holds what the metadata holds there. -/
theorem exists_member_of_members {attributes : Option Attributes} {payload : Object}
    (encoded : members registry descriptor record intent attributes = .ok payload)
    {ahead behind : List FieldDescriptor} {field : FieldDescriptor}
    (declared : descriptor.fields = ahead ++ field :: behind) :
    ∃ member, Writes registry record intent field member ∧
      (∀ key value, member = some (key, value) → Untouched registry.config intent key behind →
        payload.get? key = some value) ∧
      ∀ key, (∀ value, member ≠ some (key, value)) → Untouched registry.config intent key ahead →
        Untouched registry.config intent key behind →
        payload.get? key = (header attributes).get? key := by
  -- The payload is the metadata with the members of all fields stored over it, in declared order.
  obtain ⟨written, each, rfl⟩ := exists_written_of_members encoded
  rw [declared] at each
  -- The members are split where the fields are.
  obtain ⟨first, member, rest, rfl, ahead, writes, behind⟩ := exists_split_of_forall₂ each
  refine ⟨member, writes, ?_, fun key silent before after => ?_⟩
  · -- What the field writes is stored after the fields ahead and before those behind.
    rintro key value rfl untouched
    rw [List.filterMap_append, List.filterMap_cons_some (f := fun member => member) rfl]
    exact Dict.get?_insertAll_of_last (ne_key_of_untouched behind untouched) _
  · -- Every entry comes from the fields ahead, from the field itself or from those behind.
    refine Dict.get?_insertAll_of_ne ?_ _
    rintro ⟨other, value⟩ listed rfl
    obtain ⟨held, among, rfl⟩ := List.mem_filterMap.mp listed
    rcases List.mem_append.mp among with early | late
    · exact ne_key_of_untouched ahead before _ (List.mem_filterMap.mpr ⟨_, early, rfl⟩) rfl
    · rcases List.mem_cons.mp late with here | late
      · exact silent value here.symm
      · exact ne_key_of_untouched behind after _ (List.mem_filterMap.mpr ⟨_, late, rfl⟩) rfl

/-- Where keys are apart, the columns of a field hold what the field writes and nothing else. -/
theorem exists_member_of_keysApart {attributes : Option Attributes} {payload : Object}
    (encoded : members registry descriptor record intent attributes = .ok payload)
    (apart : descriptor.KeysApart) {field : FieldDescriptor} (declared : field ∈ descriptor.fields)
    (data : field.isAttributes = false) :
    field.columns.Nodup ∧ ∃ member, Writes registry record intent field member ∧
      ∀ key ∈ field.columns, payload.get? key = Dict.get? member.toList key := by
  -- The fields are split at this one, and its keys are apart from those on both sides.
  obtain ⟨ahead, behind, split⟩ := List.append_of_mem declared
  obtain ⟨own, alone⟩ := apart.untouched split data registry.config intent
  obtain ⟨member, writes, stands, silent⟩ := exists_member_of_members encoded split
  refine ⟨own, member, writes, fun key column => ?_⟩
  -- Under each of its columns the field has written or has not.
  obtain ⟨notKey, before, after⟩ := alone key column
  by_cases here : ∃ value, member = some (key, value)
  · -- What it has written is not written over by any field behind it.
    obtain ⟨value, rfl⟩ := here
    rw [stands key value rfl after]
    simp [Dict.get?_cons]
  · -- The field writes elsewhere or not at all, and the metadata has a key of its own.
    have elsewhere : ∀ value, member ≠ some (key, value) := fun value same => here ⟨value, same⟩
    rw [silent key elsewhere before after]
    have headless : (header attributes).get? key = none := by
      cases attributes <;> simp [header, Dict.get?_cons, notKey.symm]
    rw [headless]
    rcases member with _ | ⟨other, value⟩
    · rfl
    · have differs : other ≠ key := fun same => elsewhere value (same ▸ rfl)
      simp [Dict.get?_cons, differs]

end Payload

namespace Registry

open Payload

/-- In every payload, whatever it is for, a plain field that has a value keeps the value under its
own name, and a relationship to a stored record keeps the identifier under its foreign key, unless a
writable field that is declared behind it has the same key as its name or foreign key. -/
theorem last_write_of_column_stands {config : MappingConfig} {calls : List Lookup}
    {descriptor : Descriptor} (published : descriptor ∈ (after config calls).arena)
    {record : Object} {intent : WriteIntent} {payload : Json}
    (encoded : encode (after config calls) descriptor (.object record) intent = .ok payload)
    {ahead behind : List FieldDescriptor} {field : FieldDescriptor}
    (declared : descriptor.fields = ahead ++ field :: behind)
    (writable : field.writable (after config calls).config intent) :
    ∃ members : Object, payload = .object members ∧
      (field.isReference = false → ∀ value, record.get? field.name = some value → value ≠ .null →
        Untouched (after config calls).config intent field.name behind →
        members.get? field.name = some value) ∧
      (field.isReference = true → ∃ key, field.referenceKey = some key ∧
        ∀ value id, record.get? field.name = some value →
          heldId? (after config calls) field value = some id →
          Untouched (after config calls).config intent key behind →
          members.get? key = some (.string id)) := by
  -- Nothing behind the field touches its column, so what the field writes is what stands.
  obtain ⟨members, rfl, written⟩ := encode_object_eq_ok_iff.mp encoded
  obtain ⟨member, writes, stands, -⟩ := exists_member_of_members written declared
  obtain ⟨call, -, -, describes⟩ := describes_of_published published
  have listed : field ∈ descriptor.fields := by simp [declared]
  have key := describes.referenceKey_eq listed
  refine ⟨members, rfl, fun plain value held given untouched => ?_, fun relationship => ?_⟩
  · -- A plain field with a value writes it under its own name.
    exact stands _ _ (writes.eq_of_value writable plain held given) untouched
  · -- A relationship to a stored record writes the identifier.
    rw [if_pos relationship] at key
    refine ⟨_, key, fun value id held stored untouched => ?_⟩
    -- The column of a relationship is its foreign key.
    have column : keyOf field = (after config calls).config.naming.referenceKey field.name := by
      simp [keyOf, key]
    exact stands _ _ (column ▸ writes.eq_of_stored writable relationship held stored) untouched

/-- Accounts that declare their owner twice: as a relationship and as a plain column. -/
def twiceOwned : Catalog where
  schemas := [
    ("Account", {
      name := "Account", fields := [.reference "Owner" ⟨"User", .mapped⟩, .simple "OwnerId"] }),
    ("User", { name := "User", fields := [.id "Id"] })]

/-- The owner of an account as a relationship, with the plain column as its foreign key. -/
def ownerOfAccounts : FieldDescriptor :=
  { name := "Owner", kind := .relationship, role := .value, related := some ⟨1⟩
    insertable := true, updatable := true, audit := false, referenceKey := some "OwnerId" }

/-- The plain column of an account's owner. -/
def ownerIdOfAccounts : FieldDescriptor :=
  { name := "OwnerId", kind := .simple, role := .value
    insertable := true, updatable := true, audit := false }

def accountDescriptor : Descriptor :=
  ⟨⟨0⟩, "Account", "Account", false, [ownerOfAccounts, ownerIdOfAccounts]⟩

/-- The registry of a lookup of such accounts. -/
def afterAccounts : Registry :=
  after {} [⟨twiceOwned, ⟨"Account", .mapped⟩⟩]

/-- Accounts are published before the type of their owners. -/
theorem afterAccounts_eq : afterAccounts =
    { config := {}
      arena := [accountDescriptor,
        ⟨⟨1⟩, "User", "User", false, [{
          name := "Id", kind := .simple, role := .id
          insertable := false, updatable := false, audit := false }]⟩]
      slots := [("Account", .mapped ⟨0⟩), ("User", .mapped ⟨1⟩)]
      names := [("Account", ⟨0⟩), ("User", ⟨1⟩)] } := by
  -- The exploration of the catalog ends within two steps, so it can be run.
  have explored : Exploration.explore [] twiceOwned {} [⟨⟨"Account", .mapped⟩, none⟩] =
      (⟨[(⟨"Account", .mapped⟩, twiceOwned.schema "Account"),
        (⟨"User", .mapped⟩, twiceOwned.schema "User")], [], ["Account", "User"]⟩, none) :=
    Exploration.explore_of_exploreWithin 2 rfl
  simp only [afterAccounts, after, List.foldl_cons, List.foldl_nil, lookUp, descriptor, published?,
    explore, explored, Dict.get?_nil, Option.map_none]
  rfl

/-- The plain column of an account is declared last, so its value is what a new account gets. -/
theorem last_write_of_column_stands_accounts :
    ∃ members : Object,
      encode afterAccounts accountDescriptor
        (.object [("Owner", .string "005U"), ("OwnerId", .string "005X")]) .create =
          .ok (.object members) ∧
      members.get? "OwnerId" = some (.string "005X") := by
  -- All that the law asks for is read off the registry as it is written out.
  have published : accountDescriptor ∈ afterAccounts.arena := by
    rw [afterAccounts_eq]
    exact .head _
  have encoded : encode afterAccounts accountDescriptor
      (.object [("Owner", .string "005U"), ("OwnerId", .string "005X")]) .create =
        .ok (.object [("OwnerId", .string "005X")]) := by
    rw [afterAccounts_eq, encode, members]
    rfl
  have declared : accountDescriptor.fields = [ownerOfAccounts] ++ ownerIdOfAccounts :: [] := rfl
  have writable : ownerIdOfAccounts.writable afterAccounts.config .create := by
    rw [afterAccounts_eq]
    rfl
  -- No field stands behind the plain column, so nothing is written over it.
  obtain ⟨members, same, plain, -⟩ :=
    last_write_of_column_stands published encoded declared writable
  exact ⟨members, encoded.trans (congrArg Except.ok same),
    plain rfl (.string "005X") rfl (by simp) (by simp [Untouched])⟩

/-- An update that names the owner of an account clears it, because the plain column behind has no
value and is sent as null. -/
theorem forced_null_overwrites_identifier :
    accountDescriptor ∈ afterAccounts.arena ∧ ownerOfAccounts ∈ accountDescriptor.fields ∧
      ownerOfAccounts.writable afterAccounts.config .update ∧
      ownerOfAccounts.referenceKey = some "OwnerId" ∧
      encode afterAccounts accountDescriptor (.object [("Owner", .string "005U")]) .update =
        .ok (.object [("OwnerId", .null)]) := by
  -- The fields are written in order, so the payload can be computed.
  rw [afterAccounts_eq]
  refine ⟨.head _, .head _, rfl, rfl, ?_⟩
  rw [encode, members]
  rfl

end Registry

end RemoteRecords
