import RemoteRecords.Proofs.Pairing
import RemoteRecords.Registry.Basic

/-! Likeness: descriptors that say the same, though their links may have other numbers. -/

namespace RemoteRecords

/-- Two fields say the same, and their links stand for each other. -/
structure FieldDescriptor.Alike (link : DescriptorId → DescriptorId → Prop)
    (left right : FieldDescriptor) : Prop where
  name : left.name = right.name
  kind : left.kind = right.kind
  role : left.role = right.role
  related : Option.Rel link left.related right.related
  alternatives : List.Forall₂ link left.alternatives right.alternatives
  insertable : left.insertable = right.insertable
  updatable : left.updatable = right.updatable
  audit : left.audit = right.audit
  referenceKey : left.referenceKey = right.referenceKey

/-- Two descriptors say the same, field by field and in the same order. -/
structure Descriptor.Alike (link : DescriptorId → DescriptorId → Prop)
    (left right : Descriptor) : Prop where
  name : left.name = right.name
  metadataAware : left.metadataAware = right.metadataAware
  fields : List.Forall₂ (FieldDescriptor.Alike link) left.fields right.fields

section Likeness

variable {link : DescriptorId → DescriptorId → Prop}

namespace FieldDescriptor.Alike

variable {left right : FieldDescriptor} (alike : left.Alike link right)

include alike

/-- Fields that are alike are polymorphic alike. -/
theorem isPolymorphic_eq : left.isPolymorphic = right.isPolymorphic := by
  -- As many alternatives stand on one side as on the other.
  have lengths := alike.alternatives.length_eq
  rw [isPolymorphic, isPolymorphic, Bool.eq_iff_iff]
  simp [← List.length_eq_zero_iff, lengths]

/-- Fields that are alike hold child records alike. -/
theorem isChild_eq : left.isChild = right.isChild := by
  -- The kind is the same, and there is a link on both sides or on neither.
  rw [isChild, isChild, alike.kind, isSome_eq_of_rel alike.related]

/-- Fields that are alike are references alike. -/
theorem isReference_eq : left.isReference = right.isReference := by
  -- Only the kind is asked for.
  rw [isReference, isReference, alike.kind]

/-- Fields that are alike are metadata alike. -/
theorem isAttributes_eq : left.isAttributes = right.isAttributes := by
  -- Only the role is asked for.
  rw [isAttributes, isAttributes, alike.role]

/-- Fields that are alike are identifiers alike. -/
theorem isId_eq : left.isId = right.isId := by
  -- Only the role is asked for.
  rw [isId, isId, alike.role]

/-- Fields that are alike have the same rank in queries. -/
theorem rank_eq : Descriptor.rank left = Descriptor.rank right := by
  -- The rank goes by the role and the name.
  rw [Descriptor.rank, Descriptor.rank, alike.isAttributes_eq, alike.isId_eq, alike.name]

end FieldDescriptor.Alike

namespace Descriptor.Alike

variable {left right : Descriptor} (alike : left.Alike link right)

include alike

/-- A name belongs to fields that are alike. -/
theorem field? (name : String) :
    Option.Rel (FieldDescriptor.Alike link) (left.field? name) (right.field? name) :=
  -- Fields that are alike have one name, so the first of that name stands at one place in both.
  rel_find? (fun _ _ same => by rw [same.name]) alike.fields

/-- A name in any spelling belongs to fields that are alike. -/
theorem fieldIgnoringCase? (name : String) :
    Option.Rel (FieldDescriptor.Alike link) (left.fieldIgnoringCase? name)
      (right.fieldIgnoringCase? name) := by
  -- An exact spelling comes first, and it is there on both sides or on neither.
  unfold Descriptor.fieldIgnoringCase?
  rcases rel_cases (alike.field? name) with ⟨found, found'⟩ | ⟨field, field', found, found', same⟩
  · -- Where no spelling is exact, the first of the others is taken on both sides.
    rw [found, found']
    exact rel_find? (fun _ _ same => by rw [same.name]) alike.fields
  · rw [found, found']
    -- An exact spelling is taken on both sides.
    exact .some same

/-- Queries name fields that are alike, in the same order. -/
theorem queryFields :
    List.Forall₂ (FieldDescriptor.Alike link) left.queryFields right.queryFields := by
  -- The order goes by ranks, and within a rank by the order of declaration.
  refine List.rel_filter (fun _ _ same => by simp [same.isAttributes_eq]) ?_
  refine List.rel_flatMap (List.forall₂_same.mpr fun level _ => (rfl : level = level)) ?_
  rintro level _ rfl
  exact List.rel_filter (fun _ _ same => by simp [same.rank_eq]) alike.fields

end Descriptor.Alike

end Likeness

namespace Registry

/-- Two numbers lead to a pair of descriptors. -/
def Joins (left right : Registry) (pairs : Descriptor → Descriptor → Prop)
    (id id' : DescriptorId) : Prop :=
  ∃ descriptor descriptor', left.get? id = some descriptor ∧ right.get? id' = some descriptor' ∧
    pairs descriptor descriptor'

/-- The descriptors of every pair are alike, and their links lead to further pairs. -/
def Bisimulation (left right : Registry) (pairs : Descriptor → Descriptor → Prop) : Prop :=
  ∀ ⦃descriptor descriptor' : Descriptor⦄, pairs descriptor descriptor' →
    descriptor.Alike (left.Joins right pairs) descriptor'

/-- Fields that are alike lead to a pair of descriptors, or nowhere. -/
theorem related?_alike {left right : Registry} {pairs : Descriptor → Descriptor → Prop}
    {field field' : FieldDescriptor} (alike : field.Alike (left.Joins right pairs) field') :
    Option.Rel pairs (left.related? field) (right.related? field') := by
  -- Links that stand for each other lead to descriptors that are paired.
  unfold related?
  rcases rel_cases alike.related with ⟨link, link'⟩ | ⟨id, id', link, link', joins⟩
  · rw [link, link']
    exact .none
  · obtain ⟨descriptor, descriptor', found, found', paired⟩ := joins
    rw [link, link', Option.bind_some, Option.bind_some, found, found']
    exact .some paired

end Registry

end RemoteRecords
