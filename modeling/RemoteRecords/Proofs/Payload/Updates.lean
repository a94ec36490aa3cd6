import RemoteRecords.Proofs.Payload.Keys

/-! Updates: an update is the sparse payload of a record with null for what the record lacks. -/

namespace RemoteRecords

/-- Two runs over a list end alike if they differ only in that one adds an entry where the other adds
none. -/
theorem mapM_cases_of_added {ε α β : Type} {step full : α → Except ε (Option β)}
    {adds : α → Bool} {entry : α → β} {items : List α}
    (added : ∀ item ∈ items, adds item = true →
      step item = .ok none ∧ full item = .ok (some (entry item)))
    (alike : ∀ item ∈ items, adds item = false → full item = step item) :
    (∃ fault, items.mapM step = .error fault ∧ items.mapM full = .error fault) ∨
      ∃ written written', items.mapM step = .ok written ∧ items.mapM full = .ok written' ∧
        (written'.filterMap fun member => member).Perm
          ((written.filterMap fun member => member) ++ (items.filter adds).map entry) := by
  -- The induction is on the list, as the runs take it.
  induction items with
  | nil => exact .inr ⟨[], [], rfl, rfl, .refl _⟩
  | cons item rest ih =>
    have others := ih (fun other listed => added other (List.mem_cons_of_mem _ listed))
      (fun other listed => alike other (List.mem_cons_of_mem _ listed))
    rw [List.mapM_cons, List.mapM_cons]
    cases here : adds item with
    | true =>
      -- One run has nothing here, and the other one the added entry.
      obtain ⟨silent, written⟩ := added item List.mem_cons_self here
      rw [silent, written, List.filter_cons_of_pos here]
      rcases others with ⟨fault, stopped, stopped'⟩ | ⟨members, members', ran, ran', same⟩
      · exact .inl ⟨fault, by rw [stopped]; rfl, by rw [stopped']; rfl⟩
      · refine .inr ⟨none :: members, some (entry item) :: members', by rw [ran]; rfl,
          by rw [ran']; rfl, ?_⟩
        -- The added entry comes first in one run and last in the other.
        exact (same.cons _).trans List.perm_middle.symm
    | false =>
      -- Here both runs do the same.
      rw [alike item List.mem_cons_self here, List.filter_cons_of_neg (by simp [here])]
      cases first : step item with
      -- Both runs end here with one error.
      | error fault => exact .inl ⟨fault, rfl, rfl⟩
      | ok member =>
        rcases others with ⟨fault, stopped, stopped'⟩ | ⟨members, members', ran, ran', same⟩
        · exact .inl ⟨fault, by rw [stopped]; rfl, by rw [stopped']; rfl⟩
        · refine .inr ⟨member :: members, member :: members', by rw [ran]; rfl,
            by rw [ran']; rfl, ?_⟩
          cases member with
          | none => exact same
          | some value => exact same.cons value

/-- An update clears a field that it writes if the record has no value for it or null. -/
def FieldDescriptor.clears (config : MappingConfig) (record : Object) (field : FieldDescriptor) :
    Bool :=
  !field.isAttributes && !field.isId && !field.isChild &&
  !(field.audit && config.protectAuditFields) && field.updatable &&
  (record.get? field.name).all Json.isNull

namespace Payload

/-- A field is cleared by a null under its foreign key, or under its name if it has none. -/
def clearing (field : FieldDescriptor) : String × Json :=
  (if field.isReference then keyOf field else field.name, .null)

variable {registry : Registry} {owner descriptor : Descriptor} {record : Object}
  {field : FieldDescriptor}

/-- Values are missing if they are not there or null. -/
theorem missing_iff {held : Option Json} :
    held.all Json.isNull = true ↔ held = none ∨ held = some .null := by
  -- What is there is null or something else.
  rcases held with _ | _ | _ <;> simp [Json.isNull]

/-- A field without a value writes null under one key if the intent forces that. -/
theorem member?_of_missing (nested : Nested record) {intent : WriteIntent}
    (writable : field.writable registry.config intent = true)
    (missing : record.get? field.name = none ∨ record.get? field.name = some .null) :
    member? registry owner record intent nested field =
      .ok (if intent.forcesNulls then some (clearing field) else none) := by
  -- A relationship without a value writes null or nothing, as the intent says.
  have related : relationshipMember registry owner record intent nested field =
      .ok (if intent.forcesNulls then some (keyOf field, .null) else none) := by
    unfold relationshipMember
    split
    · rfl
    · rfl
    -- Every other value is there and not null.
    all_goals simp_all
  rw [member?, writable, related, clearing]
  -- A plain field does the same under its own name.
  cases field.isReference with
  | true => rfl
  | false =>
    rcases missing with held | held
    · simp [held]
    · simp [held]

/-- A field with a value writes the same whatever the payload is for, if it is written at all. -/
theorem member?_of_given (nested : Nested record) {intent intent' : WriteIntent}
    (alike : field.writable registry.config intent = field.writable registry.config intent')
    (given : ¬(record.get? field.name = none ∨ record.get? field.name = some .null)) :
    member? registry owner record intent nested field =
      member? registry owner record intent' nested field := by
  -- The same cases are gone through twice, and the intent is asked in none of those that are left.
  have related : relationshipMember registry owner record intent nested field =
      relationshipMember registry owner record intent' nested field := by
    unfold relationshipMember
    -- The intent is only asked where there is no value.
    split
    · rename_i held
      exact absurd (.inl held) given
    · rename_i held
      exact absurd (.inr held) given
    all_goals rfl
  rw [member?, member?, alike, related]
  split
  · rfl
  · split
    · rfl
    · split
      · rename_i held
        exact absurd (.inl held) given
      · rename_i held
        exact absurd (.inr held) given
      · rfl

/-- A patch and an update of a record go the same way field by field, but the update clears what the
patch leaves out. -/
theorem mapM_member?_cases (registry : Registry) (owner : Descriptor) (nested : Nested record)
    (fields : List FieldDescriptor) :
    (∃ fault, fields.mapM (member? registry owner record .patch nested) = .error fault ∧
      fields.mapM (member? registry owner record .update nested) = .error fault) ∨
    ∃ written written',
      fields.mapM (member? registry owner record .patch nested) = .ok written ∧
      fields.mapM (member? registry owner record .update nested) = .ok written' ∧
      (written'.filterMap fun member => member).Perm ((written.filterMap fun member => member) ++
        (fields.filter (·.clears registry.config record)).map clearing) := by
  -- Both intents write the same fields.
  have alike : ∀ field : FieldDescriptor,
      field.writable registry.config .update = field.writable registry.config .patch := fun _ => rfl
  apply mapM_cases_of_added
  · -- A cleared field is passed over by the patch and written as null by the update.
    intro field _ clears
    obtain ⟨writable, missing⟩ := Bool.and_eq_true_iff.mp clears
    rw [missing_iff] at missing
    exact ⟨member?_of_missing nested (alike field ▸ writable) missing,
      member?_of_missing nested writable missing⟩
  · -- Any other field is not written at all or has a value.
    intro field _ kept
    cases writable : field.writable registry.config .update with
    | false => simp [member?, alike field ▸ writable, writable]
    | true =>
      apply member?_of_given nested (alike field)
      intro missing
      -- A field that is written and has no value is one that is cleared.
      have clears : field.clears registry.config record = true :=
        Bool.and_eq_true_iff.mpr ⟨writable, missing_iff.mpr missing⟩
      cases clears.symm.trans kept

/-- Fields write under their own columns, in the order in which they are declared. -/
theorem keys_sublist_columns {intent : WriteIntent} {fields : List FieldDescriptor}
    {written : List (Option (String × Json))}
    (each : List.Forall₂ (Writes registry record intent) fields written) :
    ((written.filterMap fun member => member).map Prod.fst).Sublist
      ((fields.filter (!·.isAttributes)).flatMap FieldDescriptor.columns) := by
  -- The induction is on the fields, and each writes under one of its columns or not at all.
  induction each with
  | nil => exact .refl _
  | @cons field member _ _ writes _ ih =>
    cases member with
    | none =>
      -- Columns that are not written under are passed over.
      refine ih.trans ?_
      rw [List.filter_cons]
      split
      · exact List.sublist_append_right _ _
      · exact .refl _
    | some entry =>
      obtain ⟨column, writable⟩ := writes.column
      have data := FieldDescriptor.isAttributes_of_writable writable
      rw [List.filter_cons_of_pos (by simp [data]), List.flatMap_cons]
      exact (List.singleton_sublist.mpr column).append ih

/-- A payload whose keys are apart has its metadata and an entry for each field that wrote one. -/
theorem perm_of_encode {intent : WriteIntent} (apart : descriptor.KeysApart)
    {written : List (Option (String × Json))}
    (ran : descriptor.fields.mapM
      (member? registry descriptor record intent (created registry record)) = .ok written) :
    ∃ payload : Object,
      encode registry descriptor (.object record) intent = .ok (.object payload) ∧
      payload.Perm
        (header (if descriptor.isMetadataAware then some { typeName := descriptor.name } else none) ++
          written.filterMap fun member => member) := by
  -- Keys that are apart are stored without one overwriting another.
  have each : List.Forall₂ (Writes registry record intent) descriptor.fields written :=
    (mapM_eq_ok_iff.mp ran).imp fun field member => writes_of_member?
  -- The payload is what storing the entries one after another comes to.
  refine ⟨_, ?_, Dict.insertAll_perm ?_⟩
  · rw [encode, members_eq, ran]
    rfl
  · -- The keys of a payload are among those that are apart.
    refine List.Nodup.sublist ?_ apart
    have metadata : (Dict.keys (header (if descriptor.isMetadataAware then
        some { typeName := descriptor.name } else none))).Sublist [Attributes.key] := by
      cases descriptor.isMetadataAware with
      | false => exact List.nil_sublist _
      | true => exact .refl _
    exact metadata.append (keys_sublist_columns each)

end Payload

namespace Registry

open Payload

/--
A patch is an update without its nulls, and an update is a patch with null for each field it clears.

The keys of the type must be different.
Both go wrong alike or not at all, and records that are created inside are the same in both.
A relationship is cleared under its foreign key, any other field under its name.
-/
theorem patch_is_sparse_update {config : MappingConfig} {calls : List Lookup}
    {descriptor : Descriptor} (published : descriptor ∈ (after config calls).arena)
    (apart : descriptor.KeysApart) (record : Object) :
    let registry := after config calls
    let cleared := descriptor.fields.filter (·.clears config record)
    (∃ fault, encode registry descriptor (.object record) .patch = .error fault ∧
      encode registry descriptor (.object record) .update = .error fault) ∨
    ∃ patched updated : Object,
      encode registry descriptor (.object record) .patch = .ok (.object patched) ∧
      encode registry descriptor (.object record) .update = .ok (.object updated) ∧
      updated.Perm (patched ++ cleared.map fun field =>
        (if field.isReference then keyOf field else field.name, .null)) ∧
      (∀ field ∈ cleared, field.isReference → field.referenceKey = some (keyOf field)) ∧
      (updated.filter fun entry => !entry.2.isNull) = patched ∧
      ∀ key inner, (key, Json.object inner) ∈ updated ↔ (key, Json.object inner) ∈ patched := by
  -- Both run over the same fields, so they are compared run by run and then payload by payload.
  intro registry cleared
  have runs := mapM_member?_cases registry descriptor (created registry record) descriptor.fields
  rw [show registry.config = config from after_config ..] at runs
  rcases runs with ⟨fault, stopped, stopped'⟩ | ⟨written, written', ran, ran', added⟩
  · refine .inl ⟨fault, ?_, ?_⟩
    · rw [encode, members_eq, stopped]
      rfl
    · rw [encode, members_eq, stopped']
      rfl
  · obtain ⟨patched, patch, entries⟩ := perm_of_encode apart ran
    obtain ⟨updated, update, entries'⟩ := perm_of_encode apart ran'
    have sparse := written_of_encode patch
    have sorted' := (written_of_encode update).sorted
    -- What an update has more than a patch are the entries of cleared fields.
    have more : updated.Perm (patched ++ cleared.map clearing) := by
      refine entries'.trans ((added.append_left _).trans ?_)
      rw [← List.append_assoc]
      exact (entries.append_right _).symm
    have nulls : ∀ entry ∈ cleared.map clearing, entry.2 = .null := by
      intro entry listed
      obtain ⟨field, -, rfl⟩ := List.mem_map.mp listed
      rfl
    refine .inr ⟨patched, updated, patch, update, more, ?_, ?_, ?_⟩
    · -- Published relationships have a foreign key.
      intro field among relationship
      obtain ⟨call, -, -, describes⟩ := describes_of_published published
      have key := describes.referenceKey_eq (List.mem_filter.mp among).1
      rw [if_pos relationship] at key
      simp [keyOf, key]
    · -- Both stand in key order, so it is enough that they have the same entries.
      apply Dict.Sorted.eq_of_perm (sorted'.filter _) sparse.sorted
      have given : ∀ entry ∈ patched, (!entry.2.isNull) = true := by
        rintro ⟨key, value⟩ listed
        cases value with
        | null => cases sparse.intent_of_null listed
        | _ => rfl
      have none : (cleared.map clearing).filter (fun entry => !entry.2.isNull) = [] := by
        rw [List.filter_eq_nil_iff]
        intro entry listed
        simp [nulls entry listed, Json.isNull]
      have kept := more.filter fun entry => !entry.2.isNull
      rwa [List.filter_append, List.filter_eq_self.mpr given, none, List.append_nil] at kept
    · -- What an update has more holds no object.
      intro key inner
      rw [more.mem_iff, List.mem_append, or_iff_left]
      intro listed
      cases nulls _ listed

/-- Without its nulls, the update of an account without a name is the patch of it. -/
theorem patch_is_sparse_update_clientele :
    ∃ account ∈ afterClientele.arena, account.KeysApart ∧
      encode afterClientele account (.object regrouped) .update = .ok (.object [
        ("Name", .null),
        ("Owner", .object [("Name", .string "Sales"),
          ("attributes", .object [("type", .string "Group")])]),
        ("ParentId", .null),
        ("attributes", .object [("type", .string "Account")])]) ∧
      encode afterClientele account (.object regrouped) .patch = .ok (.object [
        ("Owner", .object [("Name", .string "Sales"),
          ("attributes", .object [("type", .string "Group")])]),
        ("attributes", .object [("type", .string "Account")])]) := by
  -- The update is known, so the patch is what is left of it without its nulls.
  have known : ∃ account group, afterClientele.arena[0]? = some account ∧
      afterClientele.arena[2]? = some group ∧ account.KeysApart := by
    rw [afterClientele_eq]
    exact ⟨_, _, rfl, rfl, by decide +kernel⟩
  obtain ⟨account, group, first, third, apart⟩ := known
  have published := List.mem_of_getElem? first
  have encoded := update_regrouped first third
  refine ⟨account, published, apart, encoded, ?_⟩
  rcases patch_is_sparse_update published apart regrouped with
    ⟨fault, -, stopped⟩ | ⟨patched, updated, patch, update, -, -, sparse, -⟩
  · cases encoded.symm.trans stopped
  · cases encoded.symm.trans update
    cases sparse
    exact patch

end Registry

end RemoteRecords
