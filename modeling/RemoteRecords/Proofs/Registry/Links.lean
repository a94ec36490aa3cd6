import RemoteRecords.Proofs.Pairing
import RemoteRecords.Proofs.Registry.Publication

/-! Links: the numbers in a descriptor's fields lead to the types that its schema refers to. -/

namespace RemoteRecords

namespace Registry

/-- Links of a described field lead to the types that the declared field refers to. -/
def Links (registry : Registry) (field : FieldSchema) (described : FieldDescriptor) : Prop :=
  match field.shape with
  | .simple => described.related = none ∧ described.alternatives = []
  | .reference target =>
    (∃ id, described.related = some id ∧ registry.LeadsTo id target.typeName) ∧
      described.alternatives = []
  | .collection element =>
    -- Only a type that was refused leaves a collection without a link.
    (described.related = none ↔ registry.slots.get? element.typeName = some .ineligible) ∧
      (∀ id, described.related = some id → registry.LeadsTo id element.typeName) ∧
      described.alternatives = []
  | .polymorphic alternatives fallback =>
    List.Forall₂ (fun id (token : TypeRef) => registry.LeadsTo id token.typeName)
      described.alternatives alternatives ∧
    match fallback with
    | none => described.related = none
    | some token => ∃ id, described.related = some id ∧ registry.LeadsTo id token.typeName

/-- The fields of a descriptor carry the names of a schema's fields and link to their types, one by
one. -/
def Linked (registry : Registry) (schema : RecordSchema) (descriptor : Descriptor) : Prop :=
  List.Forall₂ (fun field described => described.name = field.name ∧ registry.Links field described)
    schema.fields descriptor.fields

/-- A published descriptor is found at its own number. -/
theorem Represents.get?_id {registry : Registry} (represents : Represents registry)
    {descriptor : Descriptor} (listed : descriptor ∈ registry.arena) :
    registry.get? descriptor.id = some descriptor := by
  -- The number is the place, and the place holds the descriptor.
  obtain ⟨place, held⟩ := List.mem_iff_getElem?.mp listed
  rw [represents.numbered place descriptor held]
  exact held

/-- What a field leads to is published. -/
theorem mem_arena_of_related? {registry : Registry} {field : FieldDescriptor} {next : Descriptor}
    (leads : registry.related? field = some next) : next ∈ registry.arena := by
  -- The link is a number, and a number leads to a place of the arena.
  obtain ⟨id, -, found⟩ := Option.bind_eq_some_iff.mp leads
  exact List.mem_of_getElem? found

/-- No type is published twice. -/
theorem Represents.nodup_typeNames {registry : Registry} (represents : Represents registry) :
    (registry.arena.map (·.typeName)).Nodup := by
  -- Two places of one type would both be the number in the type's slot.
  rw [List.Nodup, List.pairwise_map, List.pairwise_iff_getElem]
  intro first second bound bound' before same
  have left := (represents.mapped _ ⟨first⟩).mpr ⟨_, List.getElem?_eq_getElem bound, rfl⟩
  have right := (represents.mapped _ ⟨second⟩).mpr ⟨_, List.getElem?_eq_getElem bound', rfl⟩
  rw [same, right] at left
  simp only [Option.some.injEq, Slot.mapped.injEq, DescriptorId.mk.injEq] at left
  omega

/-- A name leads to the first descriptor that has it. -/
theorem Represents.byName?_eq {registry : Registry} (represents : Represents registry)
    (name : String) : registry.byName? name = registry.arena.find? (·.name == name) := by
  -- The number on record is that of the first descriptor of the name, which is found there.
  unfold byName?
  rw [represents.named]
  cases first : registry.arena.find? (·.name == name) with
  | none => rfl
  | some descriptor => exact represents.get?_id (List.mem_of_find?_eq_some first)

/-- A settled demand leads to its descriptor, or its type was refused and none is required. -/
theorem Represents.settles {registry : Registry} (represents : Represents registry)
    {demand : Demand} (answered : Exploration.Answered registry.slots {} demand) :
    (∃ id, registry.idOf [] demand.token.typeName = some id ∧
        registry.LeadsTo id demand.token.typeName) ∨
      registry.idOf [] demand.token.typeName = none ∧
        registry.slots.get? demand.token.typeName = some .ineligible ∧ demand.refusal? = none := by
  -- The slot of the type decides, and its number leads to the descriptor.
  rcases Exploration.answered_start_iff.mp answered with ⟨id, slot⟩ | ⟨slot, optional⟩
  · exact .inl ⟨id, idOf_nil_eq_some_iff.mpr slot, (represents.mapped _ id).mp slot⟩
  · exact .inr ⟨by simp only [idOf, slot], slot, optional⟩

/-- Every relationship of a described schema leads to the type that it refers to. -/
theorem Describes.requires {registry : Registry} {schema : RecordSchema} {descriptor : Descriptor}
    (describes : Describes registry schema descriptor) (represents : Represents registry)
    {field : FieldSchema} (declared : field ∈ schema.fields) {token : TypeRef}
    (demanded : ⟨token, some (schema.name, field.name)⟩ ∈ field.demands schema.name) :
    ∃ id, registry.idOf [] token.typeName = some id ∧ registry.LeadsTo id token.typeName := by
  -- The demand is answered by a descriptor, or else its type was refused.
  have answered := describes.answered _ (List.mem_flatMap.mpr ⟨field, declared, demanded⟩)
  rcases represents.settles answered with leads | ⟨-, -, optional⟩
  · exact leads
  · -- A demand that requires a descriptor refuses a type without one.
    simp [Demand.refusal?] at optional

/-- A described schema is linked field by field. -/
theorem Describes.linked {registry : Registry} {schema : RecordSchema} {descriptor : Descriptor}
    (describes : Describes registry schema descriptor) (represents : Represents registry) :
    registry.Linked schema descriptor := by
  -- Both lists are made from the fields of the schema, so each field is told by itself.
  rw [Linked, describes.fields, List.forall₂_map_right_iff, List.forall₂_same]
  intro field declared
  refine ⟨rfl, ?_⟩
  -- The shape of the field decides which of its targets require a descriptor.
  have requires : ∀ {token : TypeRef}, ⟨token, some (schema.name, field.name)⟩ ∈
      field.demands schema.name → _ := describes.requires represents declared
  unfold FieldSchema.demands at requires
  unfold Links FieldSchema.describe
  cases shape : field.shape with
  | simple => exact ⟨rfl, rfl⟩
  | reference target =>
    rw [shape] at requires
    exact ⟨requires (List.mem_map_of_mem (by simp [FieldSchema.targets, shape])), rfl⟩
  | collection element =>
    -- The element type may have been refused, and then there is no link.
    have demanded : (⟨element, none⟩ : Demand) ∈ field.demands schema.name := by
      simp [FieldSchema.demands, shape]
    have answered := describes.answered _ (List.mem_flatMap.mpr ⟨field, declared, demanded⟩)
    rcases represents.settles answered with ⟨id, number, leads⟩ | ⟨number, slot, -⟩
    · have slot := idOf_nil_eq_some_iff.mp number
      refine ⟨?_, ?_, rfl⟩
      · -- The element type has a number, so it was not refused.
        simp only at number slot ⊢
        simp [number, slot]
      · intro other same
        cases number.symm.trans same
        exact leads
    · -- The element type was refused, and there is no number to lead anywhere.
      refine ⟨?_, ?_, rfl⟩
      · simp only at number slot ⊢
        simp [number, slot]
      · intro other same
        cases number.symm.trans same
  | polymorphic alternatives fallback =>
    -- Alternatives and fallback are required alike, so no number is missing.
    rw [shape] at requires
    have each : ∀ token ∈ alternatives ++ fallback.toList,
        ∃ id, registry.idOf [] token.typeName = some id ∧ registry.LeadsTo id token.typeName := by
      intro token listed
      exact requires (List.mem_map_of_mem (by simpa [FieldSchema.targets, shape] using listed))
    refine ⟨?_, ?_⟩
    · exact forall₂_filterMap fun token listed => each token (List.mem_append_left _ listed)
    · cases fallback with
      | none => rfl
      | some token => exact each token (by simp)

/-- Every link of a published descriptor leads to a published descriptor. -/
def Closed (registry : Registry) : Prop :=
  ∀ descriptor ∈ registry.arena, ∀ field ∈ descriptor.fields,
    (∀ id, field.related = some id → ∃ target, registry.get? id = some target) ∧
      ∀ id ∈ field.alternatives, ∃ target, registry.get? id = some target

/-- Links to types are links to published descriptors. -/
theorem Links.published {registry : Registry} {field : FieldSchema} {described : FieldDescriptor}
    (links : registry.Links field described) :
    (∀ id, described.related = some id → ∃ target, registry.get? id = some target) ∧
      ∀ id ∈ described.alternatives, ∃ target, registry.get? id = some target := by
  -- Whatever a link leads to by its type, it leads to a descriptor.
  unfold Links at links
  cases shape : field.shape with
  | simple =>
    -- A simple value has no links.
    rw [shape] at links
    simp [links.1, links.2]
  | reference target =>
    rw [shape] at links
    obtain ⟨⟨id, related, descriptor, found, -⟩, alternatives⟩ := links
    refine ⟨fun other same => ⟨descriptor, ?_⟩, by simp [alternatives]⟩
    cases related.symm.trans same
    exact found
  | collection element =>
    -- The link is missing or leads to the element type.
    rw [shape] at links
    obtain ⟨-, leads, alternatives⟩ := links
    refine ⟨fun id related => ?_, by simp [alternatives]⟩
    obtain ⟨descriptor, found, -⟩ := leads id related
    exact ⟨descriptor, found⟩
  | polymorphic alternatives fallback =>
    rw [shape] at links
    obtain ⟨each, last⟩ := links
    constructor
    · -- Only the fallback is a link of the field itself.
      intro id related
      cases fallback with
      | none => simp [related] at last
      | some token =>
        obtain ⟨other, same, descriptor, found, -⟩ := last
        cases related.symm.trans same
        exact ⟨descriptor, found⟩
    · intro id listed
      obtain ⟨token, -, descriptor, found, -⟩ := exists_left_of_forall₂ each.flip listed
      exact ⟨descriptor, found⟩

end Registry

end RemoteRecords
