import RemoteRecords.Batch.Plan
import RemoteRecords.Proofs.Query.Interleaving
import RemoteRecords.Proofs.Registry.Closure

/-! Plans: what a call that can be planned is planned as. -/

namespace RemoteRecords

namespace Registry

/-- A lookup for a record type leaves the registry as any other lookup does. -/
theorem descriptorOf_snd (registry : Registry) (catalog : Catalog) (typeName : String) :
    (registry.descriptorOf catalog typeName).2 =
      registry.lookUp ⟨catalog, ⟨typeName, .mapped⟩⟩ := by
  -- The kinds of answer are told apart only after the registry has been changed.
  unfold descriptorOf lookUp
  split <;> simp_all

/-- What is published for a type stands in the registry. -/
theorem mem_arena_of_published? {registry : Registry} {typeName : String} {descriptor : Descriptor}
    (published : registry.published? typeName = some (some descriptor)) :
    descriptor ∈ registry.arena := by
  -- A type with a descriptor has a number, which is a place of the arena.
  obtain ⟨slot, -, held⟩ := Option.map_eq_some_iff.mp published
  cases slot with
  | mapped id => exact List.mem_of_getElem? held
  | ineligible => cases held

/-- A lookup that gives a descriptor has published it. -/
theorem mem_arena_of_descriptorOf {registry : Registry} {catalog : Catalog} {typeName : String}
    {descriptor : Descriptor}
    (found : (registry.descriptorOf catalog typeName).1 = .ok descriptor) :
    descriptor ∈ (registry.lookUp ⟨catalog, ⟨typeName, .mapped⟩⟩).arena := by
  -- What a lookup answers is what is published for the type once it is over.
  suffices published : (registry.lookUp ⟨catalog, ⟨typeName, .mapped⟩⟩).published? typeName =
      some (some descriptor) from mem_arena_of_published? published
  unfold lookUp
  unfold descriptorOf at found
  -- The answer is read from the registry that the lookup leaves.
  rcases registry.descriptor_cases catalog ⟨typeName, .mapped⟩ with
    ⟨held, known, same⟩ | ⟨error, same⟩ | ⟨seen, -, same⟩
  · -- The type was known, and its descriptor is the one on record.
    rw [same] at found ⊢
    cases held with
    | none => cases found
    | some other =>
      cases found
      exact known
  · -- A lookup that fails gives no descriptor.
    rw [same] at found
    cases found
  · -- The type was published with all that it needs.
    rw [same] at found ⊢
    cases answer : ((registry.publish seen).published? typeName).join with
    | none =>
      simp only [answer] at found
      cases found
    | some other =>
      simp only [answer] at found
      cases found
      exact Option.join_eq_some_iff.mp answer

end Registry

/-- Writing a record leaves a mapper as it is. -/
theorem Mapper.run_encodeAs (descriptor : Descriptor) (record : Json) (intent : WriteIntent)
    (mapper : Mapper) :
    (encodeAs descriptor record intent).run.run mapper =
      ((Payload.encode mapper.registry descriptor record intent).mapError .codec, mapper) := rfl

/-- Batches go to another place than the records of any type. -/
theorem Paths.records_ne_batch (paths : Paths) (typeName : String) :
    paths.records typeName ≠ paths.batch := by
  -- Behind the version the two paths differ in their letters.
  intro same
  have letters := congrArg String.toList same
  simp [records, batch] at letters

namespace Plan

variable {paths : Paths} {catalog : Catalog} {typeName : String} {mapper : Mapper} {plan : Plan}

/-- An upsert can be planned if its type is known, its field declared and holding a key, and its
record fit to be written. It is addressed by the key, and the field is removed from what is
written. -/
theorem run_upsert_eq_ok_iff {external : String} {record : Json} :
    ((upsert paths catalog typeName external record).run.run mapper).1 = .ok plan ↔
      ∃ descriptor field key body,
        (mapper.registry.descriptorOf catalog typeName).1 = .ok descriptor ∧
        descriptor.field? external = some field ∧
        keyText? (record.member? field.name) = some key ∧
        Payload.encode (mapper.registry.descriptorOf catalog typeName).2 descriptor record .create =
          .ok body ∧
        plan = ⟨⟨.patch, paths.external descriptor.name field.name key,
          some (without body field.name)⟩, .upserted⟩ := by
  -- Each step of the plan needs the one before it, and nothing else.
  constructor
  · intro planned
    obtain ⟨descriptor, described, rest⟩ := exists_of_run_bind planned
    rw [Mapper.run_descriptorOf] at described rest
    -- The field has to be declared and the record to hold a key.
    cases found : descriptor.field? external with
    | none =>
      rw [found] at rest
      cases rest
    | some field =>
      cases held : keyText? (record.member? field.name) with
      | none =>
        simp only [found, held] at rest
        cases rest
      | some key =>
        simp only [found, held] at rest
        obtain ⟨body, encoded, made⟩ := exists_of_run_bind rest
        cases made
        exact ⟨descriptor, field, key, body, described, found, held, mapError_eq_ok_iff.mp encoded,
          rfl⟩
  · -- Where all of them are given, the steps succeed one after the other.
    rintro ⟨descriptor, field, key, body, described, found, held, encoded, rfl⟩
    have known : mapper.registry.descriptorOf catalog typeName =
        (.ok descriptor, (mapper.registry.descriptorOf catalog typeName).2) := by
      rw [← described]
    rw [upsert, run_bind, Mapper.run_descriptorOf, known]
    simp only [found, held]
    rw [run_bind, Mapper.run_encodeAs, encoded]
    rfl

/-- An update or a patch that can be planned is addressed by the identifier of its record. -/
theorem exists_of_write {record : Json} {intent : WriteIntent}
    (planned : ((write paths catalog typeName record intent).run.run mapper).1 = .ok plan) :
    ∃ (descriptor : Descriptor) (id : String) (body : Json),
      plan = ⟨⟨.patch, paths.record descriptor.name id, some body⟩, .written⟩ := by
  -- The descriptor is looked up, then the identifier is taken, then the record is written.
  obtain ⟨descriptor, -, rest⟩ := exists_of_run_bind planned
  -- Without an identifier there is no plan.
  cases held : record.asObject?.bind descriptor.idOf? with
  | none =>
    rw [held] at rest
    cases rest
  | some id =>
    rw [held] at rest
    obtain ⟨body, -, made⟩ := exists_of_run_bind rest
    cases made
    exact ⟨descriptor, id, body, rfl⟩

/-- A query that can be planned is addressed by its text. -/
theorem exists_of_query {path : String → String} {template : String} {options : CompileOptions}
    (planned : ((query path catalog typeName template options).run.run mapper).1 = .ok plan) :
    ∃ descriptor text, plan = ⟨⟨.get, path text, none⟩, .queried descriptor⟩ := by
  -- The template is compiled into the text, and that is all that can fail.
  obtain ⟨descriptor, -, rest⟩ := exists_of_run_bind planned
  obtain ⟨text, -, made⟩ := exists_of_run_bind rest
  cases made
  exact ⟨descriptor, text, rfl⟩

/-- No operation has a request like that of a batch. -/
theorem request_ne_of_ofCall {call : Call}
    (planned : ((ofCall paths catalog typeName call).run.run mapper).1 = .ok plan)
    (body : Option Json) : plan.request ≠ ⟨.post, paths.batch, body⟩ := by
  -- A batch is posted to a place of its own.
  intro same
  have method := congrArg SubRequest.method same
  cases call with
  | create record =>
    obtain ⟨descriptor, -, rest⟩ := exists_of_run_bind planned
    obtain ⟨body, -, made⟩ := exists_of_run_bind rest
    cases made
    -- A new record goes out as a batch does, but to another place.
    exact paths.records_ne_batch _ (congrArg SubRequest.path same)
  | get id =>
    obtain ⟨descriptor, -, rest⟩ := exists_of_run_bind planned
    obtain ⟨fields, -, made⟩ := exists_of_run_bind rest
    cases made
    cases method
  | update record | patch record =>
    obtain ⟨descriptor, id, body, rfl⟩ := exists_of_write planned
    cases method
  | upsert field record =>
    obtain ⟨descriptor, declared, key, body, -, -, -, -, rfl⟩ := run_upsert_eq_ok_iff.mp planned
    cases method
  | delete id =>
    obtain ⟨descriptor, -, made⟩ := exists_of_run_bind planned
    cases made
    cases method
  | query template options | queryAll template options =>
    obtain ⟨descriptor, text, rfl⟩ := exists_of_query planned
    cases method

end Plan

end RemoteRecords
