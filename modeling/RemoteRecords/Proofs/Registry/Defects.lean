import RemoteRecords.Proofs.Registry.History

/-! Defects: a lookup fails exactly if a type that it needs is faulty, whatever came before. -/

namespace RemoteRecords

/-- What a schema demands are targets of its fields. -/
theorem RecordSchema.exists_target {schema : RecordSchema} {demand : Demand}
    (demanded : demand ∈ schema.demands) :
    ∃ field ∈ schema.fields, demand.token ∈ field.targets := by
  -- A demand stems from a field, and its token is among the targets of that field.
  obtain ⟨field, declared, own⟩ := List.mem_flatMap.mp demanded
  refine ⟨field, declared, ?_⟩
  -- A collection has its element type as its only target.
  unfold FieldSchema.demands at own
  split at own
  · rename_i element shape
    rw [List.mem_singleton.mp own]
    simp [FieldSchema.targets, shape]
  · obtain ⟨token, listed, rfl⟩ := List.mem_map.mp own
    exact listed

/-- Fields of a shape cannot do without a descriptor of a type. -/
inductive FieldShape.Requires : FieldShape → TypeRef → Prop where
  | reference {target : TypeRef} : Requires (.reference target) target
  | alternative {alternatives : List TypeRef} {fallback : Option TypeRef} {token : TypeRef}
      (listed : token ∈ alternatives) : Requires (.polymorphic alternatives fallback) token
  | fallback {alternatives : List TypeRef} {token : TypeRef} :
      Requires (.polymorphic alternatives (some token)) token

/-- A field requires a type exactly if its demand for it can be refused, with the field and the type
as the reason. -/
theorem FieldSchema.requires_iff (owner : String) {field : FieldSchema} {token : TypeRef} :
    field.shape.Requires token ↔ ⟨token, some (owner, field.name)⟩ ∈ field.demands owner := by
  -- Both sides go by the shape of the field.
  unfold demands
  constructor
  · intro required
    -- Whatever is required is among the targets of a field that is no collection.
    cases shape : field.shape with
    | simple => rw [shape] at required; cases required
    | reference target =>
      rw [shape] at required
      cases required
      simp [targets, shape]
    | collection element => rw [shape] at required; cases required
    | polymorphic alternatives fallback =>
      rw [shape] at required
      cases required with
      | alternative listed => simp [targets, shape, listed]
      | fallback => simp [targets, shape]
  · intro demanded
    cases shape : field.shape with
    | simple => simp [targets, shape] at demanded
    | reference target =>
      obtain rfl : token = target := by simpa [targets, shape] using demanded
      exact .reference
    | collection element => simp [shape] at demanded
    | polymorphic alternatives fallback =>
      -- The targets are the alternatives and the fallback after them.
      have target : token ∈ alternatives ∨ fallback = some token := by
        simpa [targets, shape] using demanded
      rcases target with listed | rfl
      · exact .alternative listed
      · exact .fallback

/-- A demand of a schema that can be refused is that of a field which requires the type. -/
theorem RecordSchema.requires_of_refusal {schema : RecordSchema} {demand : Demand} {error : Error}
    (demanded : demand ∈ schema.demands) (required : demand.refusal? = some error) :
    ∃ field ∈ schema.fields, field.shape.Requires demand.token ∧
      error = .unmappableType schema.name (.badTarget field.name demand.token.typeName) := by
  -- A demand that can be refused stems from a field that is no collection.
  obtain ⟨field, declared, own⟩ := List.mem_flatMap.mp demanded
  refine ⟨field, declared, ?_⟩
  obtain ⟨token, requiredBy⟩ := demand
  -- The demand names its owner and its field, so that they stand in the error.
  have named : requiredBy = some (schema.name, field.name) := by
    unfold FieldSchema.demands at own
    split at own
    · rw [List.mem_singleton.mp own] at required
      cases required
    · obtain ⟨other, -, same⟩ := List.mem_map.mp own
      cases same
      rfl
  subst named
  cases required
  exact ⟨(FieldSchema.requires_iff _).mpr own, rfl⟩

namespace Catalog

variable (catalog : Catalog) (kinds : String → TypeKind)

/-- Every field refers to each type as one of the type's kind. -/
def Uniform : Prop :=
  ∀ typeName, ∀ field ∈ (catalog.schema typeName).fields, ∀ token ∈ field.targets,
    token.kind = kinds token.typeName

/-- A type gets a descriptor if it is presented as mapped and marked as mapped. -/
def Eligible (typeName : String) : Prop :=
  kinds typeName = .mapped ∧ (catalog.schema typeName).mapped = true

/-- The fields of a type with a descriptor refer to another type. -/
def Needs (typeName other : String) : Prop :=
  catalog.Eligible kinds typeName ∧
    ∃ demand ∈ (catalog.schema typeName).demands, demand.token.typeName = other

/-- The types that are found by following the fields of types with descriptors. -/
def Reaches : String → String → Prop :=
  Relation.ReflTransGen (catalog.Needs kinds)

/-- A type should get a descriptor, but its schema is faulty or requires a descriptor of a type that
gets none. -/
def Defective (typeName : String) : Prop :=
  catalog.Eligible kinds typeName ∧
    ((catalog.schema typeName).validate ≠ .ok () ∨
      ∃ demand ∈ (catalog.schema typeName).demands, demand.refusal? ≠ none ∧
        ¬ catalog.Eligible kinds demand.token.typeName)

/-- A fault for which a type that should get a descriptor gets none, as errors report it. -/
inductive Defect (owner : String) : UnmappableReason → Prop where
  | invalid {findings : Findings} (eligible : catalog.Eligible kinds owner)
      (faulty : (catalog.schema owner).validate = .error findings) :
      Defect owner (.invalid findings)
  /-- Of collections nothing is required, so that no element type is at fault. -/
  | badTarget {field : FieldSchema} {token : TypeRef} (eligible : catalog.Eligible kinds owner)
      (declared : field ∈ (catalog.schema owner).fields) (required : field.shape.Requires token)
      (plain : ¬ catalog.Eligible kinds token.typeName) :
      Defect owner (.badTarget field.name token.typeName)

/-- No type that is reached from a type is defective. -/
def Mappable (typeName : String) : Prop :=
  ∀ other, catalog.Reaches kinds typeName other → ¬ catalog.Defective kinds other

/-- Slots say of each type whether it gets a descriptor. -/
def Judges (slots : Dict Slot) : Prop :=
  ∀ typeName slot, slots.get? typeName = some slot →
    (slot = .ineligible ↔ ¬ catalog.Eligible kinds typeName)

variable {catalog kinds}

/-- What is demanded is presented as its kind. -/
theorem Uniform.of_demand (uniform : catalog.Uniform kinds) {typeName : String} {demand : Demand}
    (demanded : demand ∈ (catalog.schema typeName).demands) :
    demand.token.kind = kinds demand.token.typeName := by
  -- What a schema demands is a target of one of its fields.
  obtain ⟨field, declared, target⟩ := RecordSchema.exists_target demanded
  exact uniform typeName field declared demand.token target

/-- Only the schemas on record have fields that could refer to a type as another one. -/
theorem uniform_of_forall (each : ∀ entry ∈ catalog.schemas, ∀ field ∈ entry.2.fields,
    ∀ token ∈ field.targets, token.kind = kinds token.typeName) : catalog.Uniform kinds := by
  -- A type that is not on record has no fields at all.
  intro typeName field declared
  unfold schema at declared
  cases found : catalog.schemas.get? typeName with
  | none => simp [found, absent] at declared
  | some schema =>
    rw [found] at declared
    exact each _ (Dict.mem_of_get? found) field declared

/-- A type is defective exactly if it has a defect. -/
theorem defective_iff_exists_defect {owner : String} :
    catalog.Defective kinds owner ↔ ∃ reason, catalog.Defect kinds owner reason := by
  -- Each of the two faults of a type is reported as one reason.
  constructor
  · rintro ⟨eligible, faulty | ⟨demand, demanded, required, plain⟩⟩
    · cases checked : (catalog.schema owner).validate with
      | ok => exact absurd checked faulty
      | error findings => exact ⟨_, .invalid eligible checked⟩
    · -- The demand that can be refused is that of a field.
      obtain ⟨error, refused⟩ := Option.ne_none_iff_exists'.mp required
      obtain ⟨field, declared, needed, -⟩ := RecordSchema.requires_of_refusal demanded refused
      exact ⟨_, .badTarget eligible declared needed plain⟩
  · rintro ⟨reason, defect⟩
    cases defect with
    | invalid eligible faulty =>
      -- A schema with findings is not valid.
      exact ⟨eligible, .inl (by simp [faulty])⟩
    | badTarget eligible declared required plain =>
      -- The demand of the field can be refused, since the field requires the type.
      have demanded := (FieldSchema.requires_iff (catalog.schema owner).name).mp required
      exact ⟨eligible, .inr ⟨_, List.mem_flatMap.mpr ⟨_, declared, demanded⟩,
        by simp [Demand.refusal?], plain⟩⟩

/-- From a type without a descriptor no other type is reached. -/
theorem mappable_of_not_eligible {typeName : String} (plain : ¬ catalog.Eligible kinds typeName) :
    catalog.Mappable kinds typeName := by
  -- Only types with descriptors have their fields followed.
  intro other reached defective
  rcases reached.cases_head with rfl | ⟨next, step, -⟩
  · exact plain defective.1
  · exact plain step.1

end Catalog

namespace Exploration

variable {known : Dict Slot} {catalog : Catalog} {kinds : String → TypeKind} {root : TypeRef}

/-- An exploration finds what gets a descriptor, refuses what gets none, and follows the fields of
types that are reached from its root. -/
structure Honest (catalog : Catalog) (kinds : String → TypeKind) (root : TypeRef) (walk : Walk) :
    Prop where
  found : ∀ typeName ∈ walk.seen.foundNames, catalog.Eligible kinds typeName
  refused : ∀ typeName ∈ walk.seen.ineligible, ¬ catalog.Eligible kinds typeName
  uniform : ∀ demand ∈ walk.demands, demand.token.kind = kinds demand.token.typeName
  traced : ∀ demand ∈ walk.demands, demand = ⟨root, none⟩ ∨
    ∃ owner, catalog.Reaches kinds root.typeName owner ∧ catalog.Eligible kinds owner ∧
      demand ∈ (catalog.schema owner).demands

/-- An exploration starts with its root. -/
theorem honest_start (presented : root.kind = kinds root.typeName) :
    Honest catalog kinds root ⟨{}, [⟨root, none⟩]⟩ where
  -- Nothing is met yet, and the root is all that waits.
  found := by simp [foundNames]
  refused := by simp
  uniform := by simpa using presented
  traced := by simp

/-- What waits to be met is reached from the root. -/
theorem Honest.reached {walk : Walk} (honest : Honest catalog kinds root walk) {demand : Demand}
    (waiting : demand ∈ walk.demands) :
    catalog.Reaches kinds root.typeName demand.token.typeName := by
  -- The demand is the root itself or is made by a type that is reached.
  rcases honest.traced demand waiting with rfl | ⟨owner, reached, eligible, demanded⟩
  · exact .refl
  · exact reached.tail ⟨eligible, demand, demanded, rfl⟩

/-- A type that comes with a schema gets a descriptor. -/
theorem eligible_of_inspect {token : TypeRef} {seen after : Exploration} {schema : RecordSchema}
    (presented : token.kind = kinds token.typeName)
    (inspected : seen.inspect catalog token = (some schema, after)) :
    catalog.Eligible kinds token.typeName := by
  -- Inspection yields a schema only if the type is presented and marked as mapped.
  obtain ⟨rfl, marked, mapped, -⟩ := inspect_eq_some inspected
  exact ⟨presented.symm.trans mapped, marked⟩

/-- A type that comes without a schema gets none. -/
theorem not_eligible_of_inspect {token : TypeRef} {seen after : Exploration}
    (presented : token.kind = kinds token.typeName)
    (inspected : seen.inspect catalog token = (none, after)) :
    ¬ catalog.Eligible kinds token.typeName := by
  -- Inspection yields no schema only if the type is not presented or not marked as mapped.
  intro eligible
  exact (inspect_eq_none inspected).1 ⟨presented.trans eligible.1, eligible.2⟩

/-- Every step is an honest one. -/
theorem Step.honest {before after : Walk} (step : Step known catalog before after)
    (uniform : catalog.Uniform kinds) (honest : Honest catalog kinds root before) :
    Honest catalog kinds root after := by
  -- Only the first demand is met, so only what it adds has to be judged.
  cases step with
  | described | plain =>
    -- Nothing is met, and one demand fewer waits.
    exact {
      found := honest.found
      refused := honest.refused
      uniform := fun demand waiting => honest.uniform demand (List.mem_cons_of_mem _ waiting)
      traced := fun demand waiting => honest.traced demand (List.mem_cons_of_mem _ waiting) }
  | @refused seen after demand rest unmet inspected optional =>
    -- The type is refused, and it gets no descriptor.
    have plain := not_eligible_of_inspect (honest.uniform demand List.mem_cons_self) inspected
    obtain ⟨-, found, ineligible⟩ := inspect_eq_none inspected
    exact {
      found := by
        intro typeName listed
        rw [foundNames, found] at listed
        exact honest.found typeName listed
      refused := by
        intro typeName listed
        simp only [ineligible, List.mem_append, List.mem_singleton] at listed
        rcases listed with earlier | rfl
        · exact honest.refused typeName earlier
        · exact plain
      uniform := fun other waiting => honest.uniform other (List.mem_cons_of_mem _ waiting)
      traced := fun other waiting => honest.traced other (List.mem_cons_of_mem _ waiting) }
  | @found seen after demand rest schema unmet inspected valid =>
    -- The type is found, it gets a descriptor, and its fields are followed next.
    have eligible := eligible_of_inspect (honest.uniform demand List.mem_cons_self) inspected
    have reached : catalog.Reaches kinds root.typeName demand.token.typeName :=
      honest.reached List.mem_cons_self
    obtain ⟨rfl, -, -, found, ineligible⟩ := inspect_eq_some inspected
    exact {
      found := by
        intro typeName listed
        rw [foundNames_describe, foundNames, found] at listed
        rcases List.mem_append.mp listed with earlier | newest
        · exact honest.found typeName earlier
        · rw [List.mem_singleton.mp newest]
          exact eligible
      refused := by
        intro typeName listed
        exact honest.refused typeName (ineligible ▸ listed)
      uniform := by
        intro other waiting
        rcases List.mem_append.mp waiting with own | later
        · exact uniform.of_demand own
        · exact honest.uniform other (List.mem_cons_of_mem _ later)
      traced := by
        intro other waiting
        rcases List.mem_append.mp waiting with own | later
        · exact .inr ⟨_, reached, eligible, own⟩
        · exact honest.traced other (List.mem_cons_of_mem _ later) }

/-- Every exploration stays honest. -/
theorem honest_of_steps (uniform : catalog.Uniform kinds)
    (presented : root.kind = kinds root.typeName) {walk : Walk}
    (run : Relation.ReflTransGen (Step known catalog) ⟨{}, [⟨root, none⟩]⟩ walk) :
    Honest catalog kinds root walk := by
  -- The induction is on the steps taken.
  induction run with
  | refl => exact honest_start presented
  | tail _ step ih => exact step.honest uniform ih

/-- An obstacle is a defect of a type that is reached from the root, and the error reports it. -/
theorem Blocked.defect {walk : Walk} {error : Error} (blocked : Blocked known catalog walk error)
    (judges : catalog.Judges kinds known) (honest : Honest catalog kinds root walk) :
    ∃ owner reason, catalog.Reaches kinds root.typeName owner ∧ catalog.Defect kinds owner reason ∧
      error = .unmappableType (catalog.schema owner).name reason := by
  -- A demand that requires a descriptor is not the first one, so a reached type demands it.
  have owned : ∀ {demand : Demand} {fault : Error}, demand ∈ walk.demands →
      demand.refusal? = some fault → ¬ catalog.Eligible kinds demand.token.typeName →
      ∃ owner reason, catalog.Reaches kinds root.typeName owner ∧
        catalog.Defect kinds owner reason ∧
        fault = .unmappableType (catalog.schema owner).name reason := by
    intro demand fault waiting required plain
    rcases honest.traced demand waiting with rfl | ⟨owner, reached, eligible, demanded⟩
    · cases required
    · obtain ⟨field, declared, needed, same⟩ :=
        RecordSchema.requires_of_refusal demanded required
      exact ⟨owner, _, reached, .badTarget eligible declared needed plain, same⟩
  cases blocked with
  | plain met required =>
    -- The type has a verdict from the registry or from the exploration, and both judge right.
    refine owned List.mem_cons_self required ?_
    rcases verdict?_eq_false_iff.mp met with slot | ⟨-, -, refused⟩
    · exact (judges _ _ slot).mp rfl
    · exact honest.refused _ refused
  | refused unmet inspected required =>
    -- The type is refused here.
    exact owned List.mem_cons_self required
      (not_eligible_of_inspect (honest.uniform _ List.mem_cons_self) inspected)
  | @invalid _ _ demand _ _ findings unmet inspected faulty =>
    -- The faulty schema is that of the type itself.
    have eligible := eligible_of_inspect (honest.uniform _ List.mem_cons_self) inspected
    obtain ⟨rfl, -⟩ := inspect_eq_some inspected
    exact ⟨demand.token.typeName, _, honest.reached List.mem_cons_self,
      .invalid eligible faulty, rfl⟩

end Exploration

namespace Registry

variable {config : MappingConfig} {catalog : Catalog} {kinds : String → TypeKind}

/-- All calls are made under one catalog, and each presents its type as one of the type's kind. -/
def Steady (catalog : Catalog) (kinds : String → TypeKind) (calls : List Lookup) : Prop :=
  ∀ call ∈ calls, call.catalog = catalog ∧ call.token.kind = kinds call.token.typeName

/-- A slot after publication was there before or is that of a type that was met. -/
theorem slots_publish_cases {registry : Registry} {seen : Exploration}
    (coherent : Exploration.Coherent registry.slots catalog ⟨seen, []⟩) {typeName : String}
    {slot : Slot} (held : (registry.publish seen).slots.get? typeName = some slot) :
    registry.slots.get? typeName = some slot ∨
      (typeName ∈ seen.foundNames ∧ slot ≠ .ineligible) ∨
      (typeName ∈ seen.ineligible ∧ slot = .ineligible) := by
  -- Publication writes slots of found types and of refused ones, and it leaves the others alone.
  by_cases found : typeName ∈ seen.foundNames
  · refine .inr (.inl ⟨found, ?_⟩)
    obtain ⟨entry, listed, rfl⟩ := List.mem_map.mp found
    obtain ⟨place, atPlace⟩ := List.mem_iff_getElem?.mp listed
    rw [slots_publish_of_found coherent atPlace] at held
    cases held
    simp
  · by_cases refused : typeName ∈ seen.ineligible
    · rw [slots_publish_of_refused coherent refused] at held
      exact .inr (.inr ⟨refused, (Option.some.inj held).symm⟩)
    · rw [slots_publish_of_unmet found refused] at held
      exact .inl held

/-- The slots of a registry judge every type right. -/
theorem after_judges (config : MappingConfig) (uniform : catalog.Uniform kinds)
    {calls : List Lookup} (steady : Steady catalog kinds calls) :
    catalog.Judges kinds (after config calls).slots := by
  -- The induction is on the last lookup, which adds the slots of an honest exploration or none.
  induction calls using List.reverseRecOn with
  | nil => simp [Catalog.Judges, after]
  | append_singleton calls call ih =>
    have judges := ih fun other listed => steady other (List.mem_append_left _ listed)
    obtain ⟨rfl, presented⟩ := steady call (by simp)
    rw [after_concat]
    rcases lookUp_explored (after config calls) call with same | ⟨seen, explored, published⟩
    · rw [same]
      exact judges
    · -- What is new in the slots was met by an honest exploration.
      have honest := Exploration.honest_of_steps uniform presented
        (Exploration.steps_of_explore explored)
      rw [published]
      intro typeName slot held
      rcases slots_publish_cases (Exploration.explore_coherent explored).1 held with
        old | ⟨found, mapped⟩ | ⟨refused, rfl⟩
      · exact judges typeName slot old
      · exact iff_of_false mapped fun plain => plain (honest.found typeName found)
      · exact iff_of_true rfl (honest.refused typeName refused)

section Steady

variable {calls : List Lookup} (steady : Steady catalog kinds calls)

include steady

/-- The schema of a type on record is valid, and what it demands is answered. -/
theorem answered_of_mapped {typeName : String} {id : DescriptorId}
    (slot : (after config calls).slots.get? typeName = some (.mapped id)) :
    (catalog.schema typeName).validate = .ok () ∧
      ∀ demand ∈ (catalog.schema typeName).demands,
        Exploration.Answered (after config calls).slots {} demand := by
  -- The number leads to a descriptor, which describes the schema.
  obtain ⟨descriptor, found, rfl⟩ := ((after_represents config calls).mapped typeName id).mp slot
  -- The schema is the one that the catalog still has, as all calls are made under it.
  obtain ⟨call, listed, valid, describes⟩ :=
    describes_of_published (List.mem_of_getElem? found)
  obtain ⟨rfl, -⟩ := steady call listed
  exact ⟨valid, describes.answered⟩

/-- Whatever is reached from a type on record is on record, unless it gets no descriptor. -/
theorem mapped_of_reached (uniform : catalog.Uniform kinds) {typeName other : String}
    {id : DescriptorId} (slot : (after config calls).slots.get? typeName = some (.mapped id))
    (reached : catalog.Reaches kinds typeName other) (eligible : catalog.Eligible kinds other) :
    ∃ id, (after config calls).slots.get? other = some (.mapped id) := by
  -- The induction is on the way from the type, whose every owner is on record.
  have judges := after_judges config uniform steady
  induction reached with
  | refl => exact ⟨id, slot⟩
  | tail _ step ih =>
    -- The type before it is on record, so what that type demands is answered.
    obtain ⟨eligible', demand, demanded, rfl⟩ := step
    obtain ⟨_, before⟩ := ih eligible'
    have answered := (answered_of_mapped steady before).2 demand demanded
    rcases Exploration.answered_start_iff.mp answered with mapped | ⟨refused, -⟩
    · exact mapped
    · exact absurd eligible ((judges _ _ refused).mp rfl)

/-- A type on record gets a descriptor, and nothing that is reached from it is defective. -/
theorem mappable_of_mapped (uniform : catalog.Uniform kinds) {typeName : String} {id : DescriptorId}
    (slot : (after config calls).slots.get? typeName = some (.mapped id)) :
    catalog.Eligible kinds typeName ∧ catalog.Mappable kinds typeName := by
  -- What is reached stays on record, where schemas are valid and demands are answered.
  have judges := after_judges config uniform steady
  have mapped_eligible : ∀ {name : String} {id : DescriptorId},
      (after config calls).slots.get? name = some (.mapped id) → catalog.Eligible kinds name := by
    intro name id held
    by_contra plain
    cases (judges _ _ held).mpr plain
  refine ⟨mapped_eligible slot, ?_⟩
  rintro other reached ⟨eligible, fault⟩
  obtain ⟨_, held⟩ := mapped_of_reached steady uniform slot reached eligible
  obtain ⟨valid, answered⟩ := answered_of_mapped steady held
  rcases fault with faulty | ⟨demand, demanded, required, plain⟩
  · exact faulty valid
  · -- A demand that is answered without a descriptor requires none.
    rcases Exploration.answered_start_iff.mp (answered demand demanded) with
      ⟨_, target⟩ | ⟨-, optional⟩
    · exact plain (mapped_eligible target)
    · exact required optional

/-- A type with a slot is answered from it: with its descriptor, or with none if it gets none. -/
theorem published?_of_slot (uniform : catalog.Uniform kinds) {typeName : String} {slot : Slot}
    (held : (after config calls).slots.get? typeName = some slot) :
    catalog.Mappable kinds typeName ∧
      ((after config calls).published? typeName = some none ∧ ¬ catalog.Eligible kinds typeName ∨
        ∃ descriptor ∈ (after config calls).arena, descriptor.typeName = typeName ∧
          (after config calls).published? typeName = some (some descriptor) ∧
          catalog.Eligible kinds typeName) := by
  -- The slot judges the type right, and its number leads to the type's descriptor.
  cases slot with
  | ineligible =>
    have plain := (after_judges config uniform steady _ _ held).mp rfl
    exact ⟨Catalog.mappable_of_not_eligible plain, .inl ⟨by simp [published?, held], plain⟩⟩
  | mapped id =>
    obtain ⟨eligible, mappable⟩ := mappable_of_mapped steady uniform held
    obtain ⟨descriptor, found, same⟩ :=
      ((after_represents config calls).mapped typeName id).mp held
    exact ⟨mappable, .inr ⟨descriptor, List.mem_of_getElem? found, same,
      by simp [published?, held, found], eligible⟩⟩

end Steady

/-- A lookup fails exactly if the type is not mappable, with a defect that is reached from the type,
and answers with none exactly if the type gets no descriptor; otherwise it answers with a descriptor
of the type. -/
theorem descriptor_outcome (config : MappingConfig) (uniform : catalog.Uniform kinds)
    {calls : List Lookup} (steady : Steady catalog kinds calls) {token : TypeRef}
    (presented : token.kind = kinds token.typeName) :
    (∃ owner reason, catalog.Reaches kinds token.typeName owner ∧
        catalog.Defect kinds owner reason ∧
        ((after config calls).descriptor catalog token).1 =
          .error (.unmappableType (catalog.schema owner).name reason)) ∨
      catalog.Mappable kinds token.typeName ∧
        (((after config calls).descriptor catalog token).1 = .ok none ∧
            ¬ catalog.Eligible kinds token.typeName ∨
          ∃ descriptor, descriptor.typeName = token.typeName ∧
            ((after config calls).descriptor catalog token).1 = .ok (some descriptor) ∧
            catalog.Eligible kinds token.typeName) := by
  -- A type with a slot is answered from it, and any other by an exploration, which ends in one way.
  cases slot : (after config calls).slots.get? token.typeName with
  | some slot' =>
    -- The type was settled before, and is answered from its slot.
    obtain ⟨mappable, answer⟩ := published?_of_slot steady uniform slot
    refine .inr ⟨mappable, ?_⟩
    rcases answer with ⟨none, plain⟩ | ⟨descriptor, -, same, found, eligible⟩
    · exact .inl ⟨by simp [Registry.descriptor, none], plain⟩
    · exact .inr ⟨descriptor, same, by simp [Registry.descriptor, found], eligible⟩
  | none =>
    have unmet : (after config calls).published? token.typeName = none := by
      simp [published?, slot]
    cases explored : (after config calls).explore catalog token with
    | mk seen obstacle =>
      cases obstacle with
      | some error =>
        -- The obstacle is a defect that is reached from the type.
        obtain ⟨walk, run, blocked⟩ := Exploration.obstacle_of_explore explored
        obtain ⟨owner, reason, reached, defect, rfl⟩ := blocked.defect
          (after_judges config uniform steady) (Exploration.honest_of_steps uniform presented run)
        exact .inl ⟨owner, reason, reached, defect, by simp [Registry.descriptor, unmet, explored]⟩
      | none =>
        -- The type is settled by the lookup, and answered from the slot that it gets.
        have next : after config (calls ++ [⟨catalog, token⟩]) =
            (after config calls).publish seen := by
          simp [after_concat, lookUp, Registry.descriptor, unmet, explored]
        have longer : Steady catalog kinds (calls ++ [⟨catalog, token⟩]) := by
          intro call listed
          rcases List.mem_append.mp listed with earlier | last
          · exact steady call earlier
          · rw [List.mem_singleton.mp last]
            exact ⟨rfl, presented⟩
        obtain ⟨coherent, answered⟩ := Exploration.explore_coherent explored
        have settled := (idOf_publish coherent (answered _ List.mem_cons_self)).2
        have slot' : ∃ slot, (after config (calls ++ [⟨catalog, token⟩])).slots.get?
            token.typeName = some slot := by
          rw [next]
          rcases Exploration.answered_start_iff.mp settled with ⟨id, held⟩ | ⟨held, -⟩
          · exact ⟨_, held⟩
          · exact ⟨_, held⟩
        obtain ⟨_, held⟩ := slot'
        obtain ⟨mappable, answer⟩ := published?_of_slot longer uniform held
        rw [next] at answer
        refine .inr ⟨mappable, ?_⟩
        rcases answer with ⟨none, plain⟩ | ⟨descriptor, -, same, found, eligible⟩
        · exact .inl ⟨by simp [Registry.descriptor, unmet, explored, none], plain⟩
        · exact .inr ⟨descriptor, same, by simp [Registry.descriptor, unmet, explored, found],
            eligible⟩

/-- A lookup succeeds exactly if the type is mappable. -/
theorem descriptor_succeeds_iff (config : MappingConfig) (uniform : catalog.Uniform kinds)
    {calls : List Lookup} (steady : Steady catalog kinds calls) {token : TypeRef}
    (presented : token.kind = kinds token.typeName) :
    (∃ answer, ((after config calls).descriptor catalog token).1 = .ok answer) ↔
      catalog.Mappable kinds token.typeName := by
  -- The three outcomes exclude each other.
  rcases descriptor_outcome config uniform steady presented with
    ⟨owner, reason, reached, defect, failed⟩ |
      ⟨mappable, ⟨answered, -⟩ | ⟨descriptor, -, answered, -⟩⟩
  · have defective : ¬ catalog.Mappable kinds token.typeName :=
      fun mappable => mappable owner reached (Catalog.defective_iff_exists_defect.mpr ⟨_, defect⟩)
    simp [failed, defective]
  · simp [answered, mappable]
  · simp [answered, mappable]

/-- A lookup answers with none exactly if the type gets no descriptor. -/
theorem descriptor_eq_none_iff (config : MappingConfig) (uniform : catalog.Uniform kinds)
    {calls : List Lookup} (steady : Steady catalog kinds calls) {token : TypeRef}
    (presented : token.kind = kinds token.typeName) :
    ((after config calls).descriptor catalog token).1 = .ok none ↔
      ¬ catalog.Eligible kinds token.typeName := by
  -- Of the three outcomes one is such an answer, and it is the one of a type that gets none.
  rcases descriptor_outcome config uniform steady presented with
    ⟨owner, reason, reached, defect, failed⟩ |
      ⟨-, ⟨answered, plain⟩ | ⟨descriptor, -, answered, eligible⟩⟩
  · -- From a type that gets no descriptor no defect is reached.
    have eligible : catalog.Eligible kinds token.typeName := by
      by_contra plain
      exact Catalog.mappable_of_not_eligible plain owner reached
        (Catalog.defective_iff_exists_defect.mpr ⟨_, defect⟩)
    simp [failed, eligible]
  · simp [answered, plain]
  · simp [answered, eligible]

end Registry

end RemoteRecords
