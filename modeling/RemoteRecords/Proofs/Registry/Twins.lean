import RemoteRecords.Proofs.Registry.Alike
import RemoteRecords.Proofs.Registry.Defects

/-! Twins: the descriptors of a type in two registries are alike, however each was looked up. -/

namespace RemoteRecords

/-- A field is described alike by numbers of its targets that stand for each other. -/
theorem FieldSchema.describe_alike {field : FieldSchema} (config : MappingConfig)
    {link : DescriptorId → DescriptorId → Prop} {idOf idOf' : String → Option DescriptorId}
    (each : ∀ token ∈ field.targets, Option.Rel link (idOf token.typeName) (idOf' token.typeName)) :
    (field.describe config idOf).Alike link (field.describe config idOf') := by
  -- All but the links is read off the declared field, which is the same on both sides.
  unfold FieldSchema.targets at each
  unfold FieldSchema.describe
  refine ⟨rfl, rfl, rfl, ?_, ?_, rfl, rfl, rfl, rfl⟩
  · -- A field is linked to its target, its element type or its fallback.
    cases shape : field.shape with
    | simple => exact .none
    | reference target => exact each target (by simp [shape])
    | collection element => exact each element (by simp [shape])
    | polymorphic alternatives fallback =>
      cases fallback with
      | none => exact .none
      | some token => exact each token (by simp [shape])
  · cases shape : field.shape with
    | simple | reference | collection => exact .nil
    | polymorphic alternatives fallback =>
      exact forall₂_filterMap_of_rel fun token listed =>
        each token (by rw [shape]; exact List.mem_append_left _ listed)

namespace Registry

/-- Descriptors that two registries have published for one type. -/
def Twins (left right : Registry) (descriptor descriptor' : Descriptor) : Prop :=
  descriptor ∈ left.arena ∧ descriptor' ∈ right.arena ∧ descriptor.typeName = descriptor'.typeName

section Steady

variable {config : MappingConfig} {catalog : Catalog} {kinds : String → TypeKind}
  {calls calls' : List Lookup} (uniform : catalog.Uniform kinds)
  (steady : Steady catalog kinds calls) (steady' : Steady catalog kinds calls')

include uniform steady steady'

/-- A type that is answered in both registries has numbers of twins there, or none in either. -/
theorem idOf_alike {demand : Demand}
    (answered : Exploration.Answered (after config calls).slots {} demand)
    (answered' : Exploration.Answered (after config calls').slots {} demand) :
    Option.Rel ((after config calls).Joins (after config calls')
        ((after config calls).Twins (after config calls')))
      ((after config calls).idOf [] demand.token.typeName)
      ((after config calls').idOf [] demand.token.typeName) := by
  -- Both registries judge the type by one catalog, so it has a number in both or in none.
  have represents := after_represents config calls
  have represents' := after_represents config calls'
  have judges := after_judges config uniform steady
  have judges' := after_judges config uniform steady'
  rcases represents.settles answered with ⟨id, number, leads⟩ | ⟨number, refused, -⟩ <;>
    rcases represents'.settles answered' with ⟨id', number', leads'⟩ | ⟨number', refused', -⟩
  · -- Both numbers lead to descriptors of the type.
    rw [number, number']
    obtain ⟨descriptor, found, same⟩ := leads
    obtain ⟨descriptor', found', same'⟩ := leads'
    exact .some ⟨descriptor, descriptor', found, found', List.mem_of_getElem? found,
      List.mem_of_getElem? found', same.trans same'.symm⟩
  · -- No type is described in one registry and refused in the other.
    have mapped := (represents.mapped _ id).mpr leads
    cases (judges _ _ mapped).mpr ((judges' _ _ refused').mp rfl)
  · have mapped := (represents'.mapped _ id').mpr leads'
    cases (judges' _ _ mapped).mpr ((judges _ _ refused).mp rfl)
  · rw [number, number']
    exact .none

/-- Twins are alike, and their links lead to twins. -/
theorem twins_bisimulation :
    (after config calls).Bisimulation (after config calls')
      ((after config calls).Twins (after config calls')) := by
  -- Descriptors say what the schema says, and their links are numbers of the types it names.
  rintro descriptor descriptor' ⟨published, published', same⟩
  obtain ⟨call, listed, -, describes⟩ := describes_of_published published
  obtain ⟨call', listed', -, describes'⟩ := describes_of_published published'
  -- Both describe the schema of their type in the one catalog.
  rw [(steady call listed).1] at describes
  rw [(steady' call' listed').1, ← same] at describes'
  refine ⟨describes.name.trans describes'.name.symm,
    describes.metadataAware.trans describes'.metadataAware.symm, ?_⟩
  rw [describes.fields, describes'.fields, List.forall₂_map_left_iff, List.forall₂_map_right_iff,
    List.forall₂_same, after_config, after_config]
  intro field declared
  refine FieldSchema.describe_alike config fun token target => ?_
  obtain ⟨demand, demanded, rfl⟩ := RecordSchema.exists_demand declared target
  exact idOf_alike uniform steady steady' (describes.answered demand demanded)
    (describes'.answered demand demanded)

end Steady

end Registry

end RemoteRecords
