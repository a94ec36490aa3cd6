import Mathlib.Data.List.Forall2
import RemoteRecords.Proofs.Registry.Exploration
import RemoteRecords.Registry.Publication

/-! Publication: what a registry keeps when it grows, and what descriptors say of their schemas. -/

namespace RemoteRecords

/-- Each target of a field belongs to a demand of the field's schema. -/
theorem RecordSchema.exists_demand {schema : RecordSchema} {field : FieldSchema} {token : TypeRef}
    (declared : field ∈ schema.fields) (target : token ∈ field.targets) :
    ∃ demand ∈ schema.demands, demand.token = token := by
  -- A collection demands its element type, and every other shape demands all targets.
  have own : ∃ demand ∈ field.demands schema.name, demand.token = token := by
    unfold FieldSchema.demands
    split
    · rename_i element shape
      simp only [FieldSchema.targets, shape, List.mem_singleton] at target
      exact ⟨⟨element, none⟩, by simp, target.symm⟩
    · exact ⟨⟨token, some (schema.name, field.name)⟩, List.mem_map_of_mem target, rfl⟩
  obtain ⟨demand, demanded, same⟩ := own
  exact ⟨demand, List.mem_flatMap.mpr ⟨field, declared, demanded⟩, same⟩

/-- The description of a field depends on the numbers of its targets only. -/
theorem FieldSchema.describe_congr {field : FieldSchema} (config : MappingConfig)
    {left right : String → Option DescriptorId}
    (agree : ∀ token ∈ field.targets, left token.typeName = right token.typeName) :
    field.describe config left = field.describe config right := by
  -- Everything else in the description is read off the field itself.
  unfold FieldSchema.targets at agree
  unfold FieldSchema.describe
  -- Each shape asks for the numbers of its own targets.
  cases shape : field.shape with
  | simple => rfl
  | reference target => simp [agree target (by simp [shape])]
  | collection element => simp [agree element (by simp [shape])]
  | polymorphic alternatives fallback =>
    rw [shape] at agree
    have listed : alternatives.filterMap (fun token => left token.typeName) =
        alternatives.filterMap (fun token => right token.typeName) :=
      List.filterMap_congr fun token held => agree token (List.mem_append_left _ held)
    have last : (fallback.bind fun token => left token.typeName) =
        fallback.bind fun token => right token.typeName := by
      cases fallback with
      | none => rfl
      | some token => exact agree token (by simp)
    simp only [listed, last]

namespace Registry

/-- The number leads to a published descriptor of the type. -/
def LeadsTo (registry : Registry) (id : DescriptorId) (typeName : String) : Prop :=
  ∃ descriptor, registry.get? id = some descriptor ∧ descriptor.typeName = typeName

/-- Arena and indexes are one and the same record of what is published. -/
structure Represents (registry : Registry) : Prop where
  /-- A descriptor's number is its place. -/
  numbered : ∀ place (descriptor : Descriptor), registry.arena[place]? = some descriptor →
    descriptor.id = ⟨place⟩
  /-- A type is mapped to the number of its descriptor and to no other. -/
  mapped : ∀ typeName id, registry.slots.get? typeName = some (.mapped id) ↔
    registry.LeadsTo id typeName
  /-- A name belongs to the first descriptor that has it. -/
  named : ∀ name, registry.names.get? name =
    (registry.arena.find? (·.name == name)).map Descriptor.id

/-- A later registry keeps all that an earlier one has published or refused. -/
structure Extends (before after : Registry) : Prop where
  config : after.config = before.config
  arena : before.arena <+: after.arena
  slots : ∀ typeName slot, before.slots.get? typeName = some slot →
    after.slots.get? typeName = some slot
  names : ∀ name id, before.names.get? name = some id → after.names.get? name = some id

/-- A registry keeps what it has. -/
theorem Extends.refl (registry : Registry) : Extends registry registry :=
  -- Nothing is different, so nothing can be missing.
  ⟨rfl, List.prefix_rfl, fun _ _ held => held, fun _ _ held => held⟩

/-- What is kept at every stage is kept throughout. -/
theorem Extends.trans {first second third : Registry} (left : Extends first second)
    (right : Extends second third) : Extends first third :=
  -- Each record is kept from the first to the second and from there to the third.
  ⟨right.config.trans left.config, left.arena.trans right.arena,
    fun typeName slot held => right.slots typeName slot (left.slots typeName slot held),
    fun name id held => right.names name id (left.names name id held)⟩

/-- Published numbers keep their meaning. -/
theorem Extends.get? {before after : Registry} (grown : Extends before after) {id : DescriptorId}
    {descriptor : Descriptor} (found : before.get? id = some descriptor) :
    after.get? id = some descriptor := by
  -- New descriptors come after the old ones, whose places stay.
  obtain ⟨added, same⟩ := grown.arena
  unfold Registry.get? at found ⊢
  rw [← same, List.getElem?_append_left (List.getElem?_eq_some_iff.mp found).1]
  exact found

/-- Published types stay where their numbers lead. -/
theorem Extends.leadsTo {before after : Registry} (grown : Extends before after)
    {id : DescriptorId} {typeName : String} (leads : before.LeadsTo id typeName) :
    after.LeadsTo id typeName := by
  -- The number still leads to the descriptor that it led to.
  obtain ⟨descriptor, found, same⟩ := leads
  exact ⟨descriptor, grown.get? found, same⟩

/-- A descriptor presents the fields of a schema, and the registry has settled all their types. -/
structure Describes (registry : Registry) (schema : RecordSchema) (descriptor : Descriptor) :
    Prop where
  name : descriptor.name = schema.name
  metadataAware : descriptor.metadataAware = schema.metadataAware
  fields : descriptor.fields = schema.fields.map (·.describe registry.config (registry.idOf []))
  answered : ∀ demand ∈ schema.demands, Exploration.Answered registry.slots {} demand

/-- A described field has a foreign-key column exactly if it is a relationship. -/
theorem Describes.referenceKey_eq {registry : Registry} {schema : RecordSchema}
    {descriptor : Descriptor} (describes : Describes registry schema descriptor)
    {field : FieldDescriptor} (declared : field ∈ descriptor.fields) :
    field.referenceKey =
      if field.isReference then some (registry.config.naming.referenceKey field.name)
      else none := by
  -- A described field comes from a declared one, whose kind decides.
  rw [describes.fields] at declared
  obtain ⟨source, -, rfl⟩ := List.mem_map.mp declared
  simp [FieldSchema.describe, FieldDescriptor.isReference]

/-- The number of a mapped type is the one in its slot. -/
theorem idOf_nil_eq_some_iff {registry : Registry} {typeName : String} {id : DescriptorId} :
    registry.idOf [] typeName = some id ↔ registry.slots.get? typeName = some (.mapped id) := by
  -- With nothing about to be described, only slots give numbers.
  unfold idOf
  split <;> simp_all

/-- A settled type has the same number in every later registry. -/
theorem Extends.idOf_nil {before after : Registry} (grown : Extends before after)
    {demand : Demand} (answered : Exploration.Answered before.slots {} demand) :
    after.idOf [] demand.token.typeName = before.idOf [] demand.token.typeName := by
  -- Either kind of slot is kept, and the slot alone decides.
  rcases Exploration.answered_start_iff.mp answered with ⟨id, held⟩ | ⟨held, -⟩
  · simp only [idOf, held, grown.slots _ _ held]
  · simp only [idOf, held, grown.slots _ _ held]

/-- What a schema demands stays settled, so its descriptor says the same in every later registry. -/
theorem Describes.extends {before after : Registry} {schema : RecordSchema}
    {descriptor : Descriptor} (describes : Describes before schema descriptor)
    (grown : Extends before after) : Describes after schema descriptor where
  name := describes.name
  metadataAware := describes.metadataAware
  fields := by
    rw [describes.fields, grown.config]
    apply List.map_congr_left
    intro field declared
    apply FieldSchema.describe_congr
    -- Every target is demanded, and the number of an answered demand stays.
    intro token target
    obtain ⟨demand, demanded, rfl⟩ := RecordSchema.exists_demand declared target
    exact (grown.idOf_nil (describes.answered demand demanded)).symm
  answered := by
    -- Either kind of slot is kept.
    intro demand demanded
    have answered := describes.answered demand demanded
    rw [Exploration.answered_start_iff] at answered ⊢
    rcases answered with ⟨id, held⟩ | ⟨held, optional⟩
    · exact .inl ⟨id, grown.slots _ _ held⟩
    · exact .inr ⟨grown.slots _ _ held, optional⟩

section Publish

variable {registry : Registry} {catalog : Catalog} {seen : Exploration}

/-- The descriptor of a found type takes the place after those that are there. -/
theorem getElem?_describeAll (registry : Registry) (found : List (TypeRef × RecordSchema))
    (place : Nat) :
    (registry.describeAll found)[place]? = found[place]?.map fun entry =>
      { id := ⟨registry.size + place⟩
        name := entry.2.name
        typeName := entry.1.typeName
        metadataAware := entry.2.metadataAware
        fields := entry.2.fields.map (·.describe registry.config (registry.idOf found)) } := by
  -- Descriptors are made one by one, each from the entry at its place.
  simp [describeAll]

/-- The type of a new descriptor is one that was found. -/
theorem mem_foundNames_of_describeAll {registry : Registry} {descriptor : Descriptor}
    (added : descriptor ∈ registry.describeAll seen.found) :
    descriptor.typeName ∈ seen.foundNames := by
  -- The descriptor was made from the entry at its own place.
  obtain ⟨place, held⟩ := List.mem_iff_getElem?.mp added
  rw [getElem?_describeAll] at held
  obtain ⟨entry, found, rfl⟩ := Option.map_eq_some_iff.mp held
  exact List.mem_map_of_mem (List.mem_of_getElem? found)

/-- The places of the earlier descriptors are as they were. -/
theorem getElem?_publish_of_old {place : Nat} (old : place < registry.size) :
    (registry.publish seen).arena[place]? = registry.arena[place]? := by
  -- New descriptors stand behind the old ones.
  simp only [publish]
  exact List.getElem?_append_left old

/-- The places behind them hold the new descriptors, in the order of their finding. -/
theorem getElem?_publish_of_new {place : Nat} (new : registry.size ≤ place) :
    (registry.publish seen).arena[place]? =
      (registry.describeAll seen.found)[place - registry.size]? := by
  -- What stands behind the old descriptors are the new ones.
  simp only [publish]
  exact List.getElem?_append_right new

/-- Publication keeps every slot that was there. -/
theorem slots_publish_of_known (coherent : Exploration.Coherent registry.slots catalog ⟨seen, []⟩)
    {typeName : String} {slot : Slot} (known : registry.slots.get? typeName = some slot) :
    (registry.publish seen).slots.get? typeName = some slot := by
  -- Only types that the registry does not know are found or refused.
  simp only [publish]
  rw [Dict.get?_foldl_insert_of_ne, Dict.get?_foldl_insert_of_ne (fun name => name), known]
  · intro name refused same
    have unknown := (coherent.refused name refused).1
    rw [same, known] at unknown
    cases unknown
  · intro descriptor added same
    have found : typeName ∈ seen.foundNames := same ▸ mem_foundNames_of_describeAll added
    have unknown := coherent.fresh typeName found
    rw [known] at unknown
    cases unknown

/-- A found type is mapped to the place of its descriptor. -/
theorem slots_publish_of_found (coherent : Exploration.Coherent registry.slots catalog ⟨seen, []⟩)
    {place : Nat} {entry : TypeRef × RecordSchema} (found : seen.found[place]? = some entry) :
    (registry.publish seen).slots.get? entry.1.typeName =
      some (.mapped ⟨registry.size + place⟩) := by
  -- No type is found twice, so one descriptor alone is stored under the type.
  have described := getElem?_describeAll registry seen.found place
  rw [found, Option.map_some] at described
  simp only [publish]
  apply Dict.get?_foldl_insert_of_mem
  · exact ⟨_, List.mem_of_getElem? described, rfl⟩
  · intro other added same
    -- Another descriptor of the type would stand at the same place.
    obtain ⟨position, bound, atPosition⟩ := List.mem_iff_getElem.mp added
    have twin := List.getElem?_eq_getElem bound
    rw [atPosition, getElem?_describeAll] at twin
    obtain ⟨held, heldAt, rfl⟩ := Option.map_eq_some_iff.mp twin
    have equal : position = place := by
      have bounded : position < seen.foundNames.length := by
        rw [Exploration.foundNames, List.length_map]
        exact (List.getElem?_eq_some_iff.mp heldAt).1
      refine (List.getElem?_inj bounded coherent.once).mp ?_
      rw [Exploration.foundNames, List.getElem?_map, List.getElem?_map, heldAt, found]
      exact congrArg some same
    rw [equal]

/-- A refused type is remembered as one without a descriptor. -/
theorem slots_publish_of_refused (coherent : Exploration.Coherent registry.slots catalog ⟨seen, []⟩)
    {typeName : String} (refused : typeName ∈ seen.ineligible) :
    (registry.publish seen).slots.get? typeName = some .ineligible := by
  -- No found type is refused, so no descriptor is stored over the refusal.
  simp only [publish]
  rw [Dict.get?_foldl_insert_of_ne]
  · exact Dict.get?_foldl_insert_of_mem (fun name => name) _ ⟨typeName, refused, rfl⟩
      (fun _ _ _ => rfl) _
  · intro descriptor added same
    apply (coherent.refused typeName refused).2
    exact same ▸ mem_foundNames_of_describeAll added

/-- A type that was neither found nor refused has the slot that it had. -/
theorem slots_publish_of_unmet {typeName : String} (unfound : typeName ∉ seen.foundNames)
    (unrefused : typeName ∉ seen.ineligible) :
    (registry.publish seen).slots.get? typeName = registry.slots.get? typeName := by
  -- Slots are written for the types found and for those refused, and for no other.
  simp only [publish]
  rw [Dict.get?_foldl_insert_of_ne, Dict.get?_foldl_insert_of_ne (fun name => name)]
  · exact fun name refused same => unrefused (same ▸ refused)
  · intro descriptor added same
    apply unfound
    exact same ▸ mem_foundNames_of_describeAll added

/-- A name goes to the first new descriptor that has it, unless it was taken before. -/
theorem get?_foldl_reserveName (added : List Descriptor) (names : Dict DescriptorId)
    (name : String) :
    Dict.get? (added.foldl reserveName names) name =
      (names.get? name).or ((added.find? (·.name == name)).map Descriptor.id) := by
  -- The induction runs over the new descriptors while names are taken.
  induction added generalizing names with
  | nil => simp
  | cons first rest ih =>
    rw [List.foldl_cons, ih, List.find?_cons]
    unfold reserveName
    -- The first descriptor takes its own name only, and only if it is free.
    by_cases here : first.name = name
    · subst here
      cases taken : names.get? first.name <;> simp [taken, Dict.get?_insert]
    · have differs : (first.name == name) = false := by simpa using here
      cases taken : names.get? first.name <;> simp [here, differs, Dict.get?_insert]

/-- Publication adds to what was there. -/
theorem publish_extends (coherent : Exploration.Coherent registry.slots catalog ⟨seen, []⟩) :
    Extends registry (registry.publish seen) where
  config := rfl
  arena := List.prefix_append _ _
  slots _ _ known := slots_publish_of_known coherent known
  names name id held := by
    -- A name that is taken is not given again.
    simp only [publish]
    rw [get?_foldl_reserveName, held, Option.some_or]

/-- Publication keeps arena and indexes in agreement. -/
theorem publish_represents (represents : Represents registry)
    (coherent : Exploration.Coherent registry.slots catalog ⟨seen, []⟩) :
    Represents (registry.publish seen) where
  numbered := by
    intro place descriptor held
    by_cases old : place < registry.size
    · -- An old descriptor keeps its number.
      rw [getElem?_publish_of_old old] at held
      exact represents.numbered place descriptor held
    · -- A new descriptor is numbered on from the size that the registry had.
      rw [getElem?_publish_of_new (by omega), getElem?_describeAll] at held
      obtain ⟨entry, -, rfl⟩ := Option.map_eq_some_iff.mp held
      simp only [DescriptorId.mk.injEq]
      omega
  mapped := by
    intro typeName id
    have grown := publish_extends coherent
    constructor
    · intro slot
      by_cases found : typeName ∈ seen.foundNames
      · -- The type was found at some place, and its descriptor follows the old ones.
        obtain ⟨entry, listed, rfl⟩ := List.mem_map.mp found
        obtain ⟨place, bound, atPlace⟩ := List.mem_iff_getElem.mp listed
        have here := List.getElem?_eq_getElem bound
        rw [atPlace] at here
        rw [slots_publish_of_found coherent here] at slot
        cases slot
        have described := getElem?_describeAll registry seen.found place
        rw [here, Option.map_some] at described
        have behind : (registry.publish seen).get? ⟨registry.size + place⟩ =
            (registry.describeAll seen.found)[place]? := by
          rw [get?, getElem?_publish_of_new (by simp), Nat.add_sub_cancel_left]
        exact ⟨_, behind.trans described, rfl⟩
      · by_cases refused : typeName ∈ seen.ineligible
        · rw [slots_publish_of_refused coherent refused] at slot
          cases slot
        · -- The type was not met, so its slot and its descriptor are the old ones.
          rw [slots_publish_of_unmet found refused] at slot
          exact grown.leadsTo ((represents.mapped typeName id).mp slot)
    · -- In the other direction, the number is a place among the old descriptors or the new ones.
      rintro ⟨descriptor, held, rfl⟩
      by_cases old : id.index < registry.size
      · rw [get?, getElem?_publish_of_old old] at held
        have leads : registry.LeadsTo id descriptor.typeName := ⟨descriptor, held, rfl⟩
        exact grown.slots _ _ ((represents.mapped _ id).mpr leads)
      · rw [get?, getElem?_publish_of_new (by omega), getElem?_describeAll] at held
        obtain ⟨entry, found, rfl⟩ := Option.map_eq_some_iff.mp held
        rw [slots_publish_of_found coherent found]
        -- The place after the old descriptors is the number itself.
        have place : registry.size + (id.index - registry.size) = id.index := by omega
        rw [place]
  named := by
    -- New names come behind the old ones, as their descriptors do.
    intro name
    simp only [publish]
    rw [get?_foldl_reserveName, represents.named, List.find?_append]
    cases registry.arena.find? (·.name == name) <;> rfl

/-- The number that publication gives a type with a verdict is the one in the type's new slot. -/
theorem idOf_publish (coherent : Exploration.Coherent registry.slots catalog ⟨seen, []⟩)
    {demand : Demand} (answered : Exploration.Answered registry.slots seen demand) :
    (registry.publish seen).idOf [] demand.token.typeName =
        registry.idOf seen.found demand.token.typeName ∧
      Exploration.Answered (registry.publish seen).slots {} demand := by
  rw [Exploration.answered_start_iff]
  -- Either verdict comes from the registry, whose slot is kept, or from the exploration.
  rcases answered with described | ⟨plain, optional⟩
  · rcases Exploration.verdict?_eq_true_iff.mp described with ⟨id, known⟩ | ⟨unknown, found⟩
    · have kept := slots_publish_of_known coherent known
      exact ⟨by simp only [idOf, known, kept], .inl ⟨id, kept⟩⟩
    · -- The first entry of the type is the only one, and its place makes the number.
      obtain ⟨place, first⟩ : ∃ place, (seen.found.findIdx? fun entry =>
          entry.1.typeName == demand.token.typeName) = some place := by
        rw [← Option.isSome_iff_exists, List.findIdx?_isSome, List.any_eq_true]
        obtain ⟨entry, listed, same⟩ := List.mem_map.mp found
        exact ⟨entry, listed, by simpa using same⟩
      obtain ⟨bound, same, -⟩ := List.findIdx?_eq_some_iff_getElem.mp first
      have slot := slots_publish_of_found coherent (List.getElem?_eq_getElem bound)
      rw [beq_iff_eq.mp same] at slot
      exact ⟨by simp only [idOf, unknown, slot, first, Option.map_some], .inl ⟨_, slot⟩⟩
  · rcases Exploration.verdict?_eq_false_iff.mp plain with known | ⟨unknown, unfound, refused⟩
    · have kept := slots_publish_of_known coherent known
      exact ⟨by simp only [idOf, known, kept], .inr ⟨kept, optional⟩⟩
    · -- A refused type has no entry to make a number from.
      have slot := slots_publish_of_refused coherent refused
      have absent : (seen.found.findIdx? fun entry =>
          entry.1.typeName == demand.token.typeName) = none := by
        rw [List.findIdx?_eq_none_iff]
        intro entry listed
        rw [beq_eq_false_iff_ne]
        exact fun same => unfound (same ▸ List.mem_map_of_mem listed)
      exact ⟨by simp only [idOf, unknown, slot, absent, Option.map_none], .inr ⟨slot, optional⟩⟩

/-- A newly published descriptor describes the schema on record for its type. -/
theorem publish_describes (coherent : Exploration.Coherent registry.slots catalog ⟨seen, []⟩)
    {place : Nat} {descriptor : Descriptor} (new : registry.size ≤ place)
    (held : (registry.publish seen).arena[place]? = some descriptor) :
    (catalog.schema descriptor.typeName).mapped = true ∧
      (catalog.schema descriptor.typeName).validate = .ok () ∧
      Describes (registry.publish seen) (catalog.schema descriptor.typeName) descriptor := by
  -- The place is new, so its descriptor was made from an entry that the exploration found.
  rw [getElem?_publish_of_new new, getElem?_describeAll] at held
  obtain ⟨entry, found, rfl⟩ := Option.map_eq_some_iff.mp held
  have listed := List.mem_of_getElem? found
  obtain ⟨onRecord, marked, valid⟩ := coherent.declared entry listed
  -- Nothing waits at the end of an exploration, so all that the schema demands is answered.
  have answered : ∀ demand ∈ entry.2.demands, Exploration.Answered registry.slots seen demand :=
    fun demand demanded => (coherent.closed entry listed demand demanded).resolve_left (by simp)
  simp only [← onRecord]
  exact ⟨marked, valid, {
    name := rfl
    metadataAware := rfl
    fields := by
      apply List.map_congr_left
      intro field declared
      apply FieldSchema.describe_congr
      intro token target
      obtain ⟨demand, demanded, rfl⟩ := RecordSchema.exists_demand declared target
      exact (idOf_publish coherent (answered demand demanded)).1.symm
    answered := fun demand demanded => (idOf_publish coherent (answered demand demanded)).2 }⟩

end Publish

end Registry

end RemoteRecords
