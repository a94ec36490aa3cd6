import RemoteRecords.Proofs.Config.Naming
import RemoteRecords.Proofs.Registry.History
import RemoteRecords.Proofs.Schema.Identifier

/-! Published descriptors: what the acceptance of their schemas says of their names, fields and foreign
keys. -/

namespace RemoteRecords.Registry

section Published

variable {config : MappingConfig} {calls : List Lookup} {descriptor : Descriptor}
  (published : descriptor ∈ (after config calls).arena)

include published

/-- The name of a published descriptor is an identifier. -/
theorem identifier_of_published : Identifier descriptor.name := by
  -- The name is that of a schema that was accepted.
  obtain ⟨call, -, valid, describes⟩ := describes_of_published published
  rw [describes.name]
  exact RecordSchema.identifier_of_validate valid

/-- A field of a published descriptor comes from a field without faults. -/
theorem exists_faultless_of_published {field : FieldDescriptor}
    (declared : field ∈ descriptor.fields) : ∃ source : FieldSchema, source.faults = [] ∧
      field = source.describe (after config calls).config ((after config calls).idOf []) := by
  -- The field describes one of a schema that was accepted, and acceptance leaves no fault.
  obtain ⟨call, -, valid, describes⟩ := describes_of_published published
  rw [describes.fields] at declared
  obtain ⟨source, listed, rfl⟩ := List.mem_map.mp declared
  exact ⟨source, RecordSchema.faults_eq_nil_of_validate valid listed, rfl⟩

/-- The names of the fields of a published descriptor are identifiers. -/
theorem identifier_of_declared {field : FieldDescriptor} (declared : field ∈ descriptor.fields) :
    Identifier field.name := by
  -- A field with another name would be faulty.
  obtain ⟨source, faultless, rfl⟩ := exists_faultless_of_published published declared
  exact FieldSchema.identifier_of_faults faultless

/-- The fields of a published descriptor have different names. -/
theorem nodup_names_of_published : (descriptor.fields.map (·.name)).Nodup := by
  -- The names are those of a schema that was accepted, and acceptance rules out repeats.
  obtain ⟨call, -, valid, describes⟩ := describes_of_published published
  have same : descriptor.fields.map (·.name) =
      (call.catalog.schema descriptor.typeName).fields.map (·.name) := by
    rw [describes.fields, List.map_map]
    rfl
  exact same ▸ RecordSchema.nodup_names_of_validate valid

/-- A relationship of a published descriptor has the foreign key of its name, and any other field has
none. -/
theorem referenceKey_of_declared {field : FieldDescriptor} (declared : field ∈ descriptor.fields) :
    field.referenceKey =
      if field.isReference then some (config.naming.referenceKey field.name) else none := by
  -- The descriptor was made under the options of the registry, which never change.
  obtain ⟨call, -, -, describes⟩ := describes_of_published published
  rw [describes.referenceKey_eq declared, after_config]

/-- Of two fields of a published descriptor at most one has a given foreign key. -/
theorem pairwise_referenceKey_of_published :
    descriptor.fields.Pairwise fun left right =>
      ∀ key, left.referenceKey = some key → right.referenceKey ≠ some key := by
  have named : ∀ {field : FieldDescriptor} {key : String}, field ∈ descriptor.fields →
      field.referenceKey = some key → config.naming.referenceKey field.name = key := by
    intro field key declared foreign
    rw [referenceKey_of_declared published declared, Option.ite_none_right_eq_some] at foreign
    exact Option.some.inj foreign.2
  -- Under the convention fields with one key have one name, and no name stands twice.
  have once := List.pairwise_map.mp (nodup_names_of_published published)
  refine once.imp_of_mem fun first second differ key here there => differ ?_
  exact config.naming.referenceKey_injective ((named first here).trans (named second there).symm)

/-- A field of a published descriptor that is no simple value is neither its identifier nor its
metadata. -/
theorem role_of_kind {field : FieldDescriptor} (declared : field ∈ descriptor.fields)
    (linked : field.kind ≠ .simple) : field.isAttributes = false ∧ field.isId = false := by
  obtain ⟨source, faultless, rfl⟩ := exists_faultless_of_published published declared
  -- Acceptance keeps both roles for simple values.
  have shaped : source.shape ≠ .simple := by
    intro simple
    simp [FieldSchema.describe, FieldSchema.kind, simple] at linked
  obtain ⟨noId, noMetadata⟩ := FieldSchema.roles_of_shape faultless shaped
  simp [FieldSchema.describe, FieldDescriptor.isAttributes, FieldDescriptor.isId, FieldSchema.role,
    noId, noMetadata]

/-- A relationship of a published descriptor is neither its identifier nor its metadata. -/
theorem role_of_relationship {field : FieldDescriptor} (declared : field ∈ descriptor.fields)
    (relationship : field.isReference) : field.isAttributes = false ∧ field.isId = false := by
  -- A relationship is of another kind than a simple value.
  refine role_of_kind published declared fun simple => ?_
  simp [FieldDescriptor.isReference, simple] at relationship

/-- Child records of a published descriptor are neither its identifier nor its metadata. -/
theorem role_of_children {field : FieldDescriptor} (declared : field ∈ descriptor.fields)
    (child : field.isChild) : field.isAttributes = false ∧ field.isId = false := by
  -- Child records are of another kind than a simple value.
  refine role_of_kind published declared fun simple => ?_
  simp [FieldDescriptor.isChild, simple] at child

/-- A relationship of a published descriptor that is not polymorphic leads to a published one. -/
theorem exists_related_of_single {field : FieldDescriptor} (declared : field ∈ descriptor.fields)
    (relationship : field.isReference) (single : field.isPolymorphic = false) :
    ∃ target, (after config calls).related? field = some target := by
  -- The links of the field lead where the declared field refers to.
  obtain ⟨call, -, valid, describes⟩ := describes_of_published published
  have linked := describes.linked (after_represents config calls)
  rw [describes.fields] at declared
  obtain ⟨source, listed, rfl⟩ := List.mem_map.mp declared
  rw [Linked, describes.fields, List.forall₂_map_right_iff, List.forall₂_same] at linked
  have links := (linked source listed).2
  -- The shape of the declared field says what its links lead to.
  unfold Links at links
  cases shape : source.shape with
  | simple => simp [FieldDescriptor.isReference, FieldSchema.describe, FieldSchema.kind, shape]
      at relationship
  | collection element => simp [FieldDescriptor.isReference, FieldSchema.describe,
      FieldSchema.kind, shape] at relationship
  | reference target =>
    rw [shape] at links
    obtain ⟨⟨id, related, target, found, -⟩, -⟩ := links
    exact ⟨target, by simp [related?, related, found]⟩
  | polymorphic alternatives fallback =>
    -- Acceptance rules out a polymorphic field without alternatives.
    rw [shape] at links
    obtain ⟨each, -⟩ := links
    have none : alternatives = [] := by
      simp only [FieldDescriptor.isPolymorphic, Bool.not_eq_false', List.isEmpty_iff] at single
      simpa [single] using each
    have faultless := RecordSchema.faults_eq_nil_of_validate valid listed
    simp [FieldSchema.faults, FieldSchema.shapeFaults, shape, none] at faultless

end Published

/-- Under every convention, relationships of different names have different foreign keys. Whatever was
looked up, with success or not, a relationship of a published descriptor has the foreign key of its
name under the convention of the registry, other fields have none, and no two relationships of one
descriptor have the same. -/
theorem foreign_keys_are_distinct (config : MappingConfig) (calls : List Lookup) :
    (∀ naming : Naming, Function.Injective naming.referenceKey) ∧
    ∀ descriptor ∈ (after config calls).arena,
      (∀ field ∈ descriptor.fields, field.referenceKey =
        if field.isReference then some (config.naming.referenceKey field.name) else none) ∧
      descriptor.fields.Pairwise fun left right =>
        left.isReference → right.isReference → left.referenceKey ≠ right.referenceKey := by
  -- The conventions are injective, and the names of the relationships are different.
  refine ⟨Naming.referenceKey_injective, ?_⟩
  intro descriptor published
  refine ⟨fun field declared => referenceKey_of_declared published declared, ?_⟩
  have apart := pairwise_referenceKey_of_published published
  refine apart.imp_of_mem fun declared _ differ relationship _ same => ?_
  -- A relationship does have a foreign key, so two that agree would share one.
  have own := (referenceKey_of_declared published declared).trans (if_pos relationship)
  exact differ _ own (same.symm.trans own)

/-- Accounts with relationships that are called alike, one of them like the column of another. -/
def kinship : Catalog where
  schemas := [
    ("Account", {
      name := "Account"
      fields := [.reference "Parent__r" ⟨"Account", .mapped⟩, .simple "Name",
        .reference "Parent" ⟨"Account", .mapped⟩,
        .polymorphic "Parent__c" [⟨"Account", .mapped⟩]] })]

/-- The registry of a lookup of such accounts under the custom convention. -/
def afterKinship : Registry :=
  after { naming := .custom } [⟨kinship, ⟨"Account", .mapped⟩⟩]

/-- Accounts need no type but their own. -/
theorem afterKinship_eq : afterKinship =
    ({ config := { naming := .custom } } : Registry).publish
      ⟨[(⟨"Account", .mapped⟩, kinship.schema "Account")], [], ["Account"]⟩ := by
  -- The exploration of the catalog ends within four steps, so it can be run.
  have explored : Exploration.explore [] kinship {} [⟨⟨"Account", .mapped⟩, none⟩] =
      (⟨[(⟨"Account", .mapped⟩, kinship.schema "Account")], [], ["Account"]⟩, none) :=
    Exploration.explore_of_exploreWithin 4 rfl
  simp [afterKinship, after, lookUp, descriptor, published?, explore, explored]

/-- The relationships of such an account have three columns: the first is named after a stem, and to the
names of the others `Id` is appended. -/
theorem foreign_keys_are_distinct_kinship :
    ∃ account ∈ afterKinship.arena,
      account.fields.filterMap (·.referenceKey) = ["Parent__c", "ParentId", "Parent__cId"] ∧
      (account.fields.filter (·.isReference)).Pairwise fun left right =>
        left.referenceKey ≠ right.referenceKey := by
  -- The keys are read off the registry of the lookup, and that they differ is a case of the law.
  have known : ∃ account, afterKinship.arena[0]? = some account ∧
      account.fields.filterMap (·.referenceKey) = ["Parent__c", "ParentId", "Parent__cId"] := by
    rw [afterKinship_eq]
    exact ⟨_, rfl, rfl⟩
  obtain ⟨account, first, keys⟩ := known
  have published := List.mem_of_getElem? first
  obtain ⟨-, apart⟩ := (foreign_keys_are_distinct { naming := .custom } _).2 account published
  refine ⟨account, published, keys, List.pairwise_filter.mpr ?_⟩
  exact apart.imp fun differ left right => differ left right

end RemoteRecords.Registry
