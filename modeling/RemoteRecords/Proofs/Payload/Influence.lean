import RemoteRecords.Proofs.Payload.RoundTrip

/-! Influence: of a record, only the values of the fields that are written show in its payload. -/

namespace RemoteRecords

/-- The value of a key, with null for a missing one. -/
def Dict.valueOrNull (record : Object) (key : String) : Json :=
  (record.get? key).getD .null

namespace Payload

variable {registry : Registry} {owner descriptor : Descriptor} {record left right : Object}
  {intent : WriteIntent} {field : FieldDescriptor}

/-- What a writable relationship writes for its value, whatever else its record holds. -/
def relationshipEntry (registry : Registry) (owner : Descriptor) (intent : WriteIntent)
    (field : FieldDescriptor) : Json → Except CodecFault (Option (String × Json))
  | .null => .ok (if intent.forcesNulls then some (keyOf field, .null) else none)
  | .string id => .ok (some (keyOf field, .string id))
  | .object related => do
    let target ← registry.targetOf field (statedType field related)
    match target.idOf? (untag field related).2 with
    | some id => pure (some (keyOf field, .string id))
    | none => do
      let inner ← members registry target (untag field related).2 .create
        (some { typeName := target.name })
      pure (some (field.name, .object inner))
  | other => .error (.badReference owner.name field.name other)

/-- A relationship reads its own value and nothing else of the record. -/
theorem relationshipMember_eq :
    relationshipMember registry owner record intent (created registry record) field =
      relationshipEntry registry owner intent field (record.valueOrNull field.name) := by
  -- The same cases stand on both sides, and a missing value is read as null.
  unfold relationshipMember
  split
  · rename_i held
    simp [Dict.valueOrNull, held, relationshipEntry]
  · rename_i held
    simp [Dict.valueOrNull, held, relationshipEntry]
  · rename_i held
    simp [Dict.valueOrNull, held, relationshipEntry]
  · rename_i related held
    rw [show record.valueOrNull field.name = .object related by simp [Dict.valueOrNull, held]]
    rfl
  · rename_i held
    simp [Dict.valueOrNull, held, relationshipEntry]

/-- What a field writes for its value, whatever else its record holds. -/
def valueMember? (registry : Registry) (owner : Descriptor) (intent : WriteIntent)
    (field : FieldDescriptor) (value : Json) : Except CodecFault (Option (String × Json)) :=
  if !field.writable registry.config intent then .ok none
  else if field.isReference then relationshipEntry registry owner intent field value
  else if value.isNull then .ok (if intent.forcesNulls then some (field.name, .null) else none)
  else .ok (some (field.name, value))

/-- A field reads its own value and nothing else of the record. -/
theorem member?_eq :
    member? registry owner record intent (created registry record) field =
      valueMember? registry owner intent field (record.valueOrNull field.name) := by
  rw [member?, valueMember?, relationshipMember_eq]
  split
  · rfl
  split
  · rfl
  -- A plain field does not tell a missing value from null either.
  split
  · rename_i held
    simp [Dict.valueOrNull, held, Json.isNull]
  · rename_i held
    simp [Dict.valueOrNull, held, Json.isNull]
  · rename_i value given held
    have kept : value.isNull = false := by cases value <;> simp_all [Json.isNull]
    simp [Dict.valueOrNull, held, kept]

/-- A field that is not written has no influence, whatever its value. -/
theorem valueMember?_of_unwritable (unwritable : field.writable registry.config intent = false)
    (value : Json) : valueMember? registry owner intent field value = .ok none := by
  -- Whether a field is written is asked before its value is looked at.
  simp [valueMember?, unwritable]

/-- Records with the same values of the fields that are written have the same members, or fail
alike. -/
theorem members_congr (attributes : Option Attributes)
    (agree : ∀ field ∈ descriptor.fields, field.writable registry.config intent →
      left.valueOrNull field.name = right.valueOrNull field.name) :
    members registry descriptor left intent attributes =
      members registry descriptor right intent attributes := by
  -- A payload is made of what the fields write, and these agree one by one.
  have each : descriptor.fields.mapM (member? registry descriptor left intent
        (created registry left)) =
      descriptor.fields.mapM (member? registry descriptor right intent
        (created registry right)) := by
    refine mapM_congr fun field declared => ?_
    rw [member?_eq, member?_eq]
    -- The records have to agree only where the field is written.
    cases writable : field.writable registry.config intent with
    | false => rw [valueMember?_of_unwritable writable, valueMember?_of_unwritable writable]
    | true => rw [agree field declared writable]
  rw [members_eq, members_eq, each]

end Payload

namespace Registry

open Payload

/--
Records with the same values of the fields that are written have the same payload, or fail alike.

A missing value is as good as null.
So identifiers, metadata, child records, protected audit columns, fields that the intent does not
write, and keys that the type does not declare show neither in a payload nor in an error.
-/
theorem payload_shows_written_values_only {config : MappingConfig} {calls : List Lookup}
    {descriptor : Descriptor} {intent : WriteIntent} {left right : Object}
    (agree : ∀ field ∈ descriptor.fields, field.writable config intent →
      left.valueOrNull field.name = right.valueOrNull field.name) :
    encode (after config calls) descriptor (.object left) intent =
      encode (after config calls) descriptor (.object right) intent := by
  -- A payload is the object of its members, and lookups leave the configuration alone.
  rw [← after_config config calls] at agree
  rw [encode, encode, members_congr _ agree]

/-- The new account with values that are not written: its own identifier and metadata, a contact,
and a key that accounts do not have. -/
def annotatedAccount : Object := [
  ("Contacts", .array [.object [("Email", .string "ann@example.com")]]),
  ("Draft", .bool true), ("Id", .string "001A"),
  ("Name", .string "Acme"),
  ("Owner", .object [("Group", .object [("Name", .string "Sales")])]),
  ("Parent", .object [("Id", .string "001P"), ("Name", .string "Head")]),
  ("attributes", .object [("type", .string "Lead")])]

/-- None of what an account holds besides its written fields shows when it is created. -/
theorem payload_shows_written_values_only_clientele :
    ∃ account ∈ afterClientele.arena,
      encode afterClientele account (.object annotatedAccount) .create =
        encode afterClientele account (.object newAccount) .create ∧
      encode afterClientele account (.object annotatedAccount) .create = .ok (.object [
        ("Name", .string "Acme"),
        ("Owner", .object [("Name", .string "Sales"),
          ("attributes", .object [("type", .string "Group")])]),
        ("ParentId", .string "001P"),
        ("attributes", .object [("type", .string "Account")])]) := by
  -- The two accounts agree on all that is written of accounts, so one payload tells the other.
  have known : ∃ account group, afterClientele.arena[0]? = some account ∧
      afterClientele.arena[2]? = some group ∧
      ∀ field ∈ account.fields, field.writable {} .create →
        Dict.valueOrNull annotatedAccount field.name = Dict.valueOrNull newAccount field.name := by
    rw [afterClientele_eq]
    exact ⟨_, _, rfl, rfl, by decide⟩
  obtain ⟨account, group, first, third, agree⟩ := known
  have same : encode afterClientele account (.object annotatedAccount) .create =
      encode afterClientele account (.object newAccount) .create :=
    payload_shows_written_values_only agree
  exact ⟨account, List.mem_of_getElem? first, same, same.trans (encode_newAccount first third)⟩

end Registry

end RemoteRecords
