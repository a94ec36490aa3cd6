import Mathlib.Data.List.Induction
import RemoteRecords.Proofs.Registry.Links

/-! Histories: whatever was looked up before, a registry is a sound record of what it published. -/

namespace RemoteRecords

/-- A request for the descriptor of a type, made while a catalog was in force. -/
structure Lookup where
  catalog : Catalog
  token : TypeRef

namespace Registry

/-- The registry after a lookup, whether it succeeds or fails. -/
def lookUp (registry : Registry) (call : Lookup) : Registry :=
  (registry.descriptor call.catalog call.token).2

/-- The registry after a history of lookups, each under the catalog of its own moment. -/
def after (config : MappingConfig) (calls : List Lookup) : Registry :=
  calls.foldl lookUp { config }

/-- A lookup leaves the registry alone or publishes what its exploration has met. -/
theorem lookUp_explored (registry : Registry) (call : Lookup) :
    registry.lookUp call = registry ∨
      ∃ seen, registry.explore call.catalog call.token = (seen, none) ∧
        registry.lookUp call = registry.publish seen := by
  -- A type on record is answered from there, and an obstacle leaves nothing to publish.
  unfold lookUp descriptor
  cases registry.published? call.token.typeName with
  | some answer => exact .inl rfl
  | none =>
    cases explored : registry.explore call.catalog call.token with
    | mk seen obstacle =>
      cases obstacle with
      | some error => exact .inl rfl
      | none => exact .inr ⟨seen, rfl, rfl⟩

/-- What a lookup publishes fits together and with what the registry knows. -/
theorem lookUp_cases (registry : Registry) (call : Lookup) :
    registry.lookUp call = registry ∨
      ∃ seen, Exploration.Coherent registry.slots call.catalog ⟨seen, []⟩ ∧
        registry.lookUp call = registry.publish seen := by
  -- An exploration that is published has come to its end, and there it is coherent.
  rcases lookUp_explored registry call with same | ⟨seen, explored, published⟩
  · exact .inl same
  · exact .inr ⟨seen, (Exploration.explore_coherent explored).1, published⟩

/-- A lookup only adds. -/
theorem lookUp_extends (registry : Registry) (call : Lookup) :
    Extends registry (registry.lookUp call) := by
  -- Publication adds, and any other lookup changes nothing.
  rcases lookUp_cases registry call with same | ⟨seen, coherent, published⟩
  · rw [same]
    exact Extends.refl registry
  · rw [published]
    exact publish_extends coherent

/-- A lookup keeps arena and indexes in agreement. -/
theorem lookUp_represents {registry : Registry} (represents : Represents registry)
    (call : Lookup) : Represents (registry.lookUp call) := by
  -- An agreement that is not touched stays, and publication keeps it.
  rcases lookUp_cases registry call with same | ⟨seen, coherent, published⟩
  · rw [same]
    exact represents
  · rw [published]
    exact publish_represents represents coherent

/-- What a lookup publishes describes the schemas of its own catalog. -/
theorem lookUp_describes {registry : Registry} {call : Lookup} {place : Nat}
    {descriptor : Descriptor} (new : registry.size ≤ place)
    (held : (registry.lookUp call).arena[place]? = some descriptor) :
    (call.catalog.schema descriptor.typeName).validate = .ok () ∧
      Describes (registry.lookUp call) (call.catalog.schema descriptor.typeName) descriptor := by
  -- Only publication adds a descriptor, and it makes that from the schema that was found.
  rcases lookUp_cases registry call with same | ⟨seen, coherent, published⟩
  · -- Nothing was published, so no place is new.
    rw [same] at held
    have bound := (List.getElem?_eq_some_iff.mp held).1
    simp only [size] at new
    omega
  · rw [published] at held ⊢
    exact (publish_describes coherent new held).2

/-- The last lookup of a history is made on the registry that the others leave. -/
theorem after_concat (config : MappingConfig) (calls : List Lookup) (call : Lookup) :
    after config (calls ++ [call]) = (after config calls).lookUp call := by
  -- A history is run from its first lookup to its last.
  simp [after]

/-- A registry extends what it was at any earlier moment of its history. -/
theorem after_append_extends (config : MappingConfig) (earlier later : List Lookup) :
    Extends (after config earlier) (after config (earlier ++ later)) := by
  -- Each later lookup extends the registry that the ones before it leave.
  induction later using List.reverseRecOn with
  | nil =>
    rw [List.append_nil]
    exact Extends.refl _
  | append_singleton later call ih =>
    rw [← List.append_assoc, after_concat]
    exact ih.trans (lookUp_extends _ call)

/-- The options of a registry are those that it began with. -/
theorem after_config (config : MappingConfig) (calls : List Lookup) :
    (after config calls).config = config := by
  -- Lookups extend registries, and extension keeps the options.
  have grown := after_append_extends config [] calls
  exact grown.config

/-- A registry without descriptors has nothing to disagree on. -/
theorem represents_fresh (config : MappingConfig) : Represents { config } := by
  -- The arena is empty, and both indexes are.
  constructor <;> simp [LeadsTo, get?]

/-- Arena and indexes agree after every history. -/
theorem after_represents (config : MappingConfig) (calls : List Lookup) :
    Represents (after config calls) := by
  -- The empty registry is in agreement, and every lookup keeps it so.
  induction calls using List.reverseRecOn with
  | nil => exact represents_fresh config
  | append_singleton calls call ih =>
    rw [after_concat]
    exact lookUp_represents ih call

/-- Every descriptor was published by one lookup of the history, from a valid schema that was then
on record, and still says the same. -/
theorem after_describes {config : MappingConfig} {calls : List Lookup} {place : Nat}
    {descriptor : Descriptor} (held : (after config calls).arena[place]? = some descriptor) :
    ∃ earlier call later, calls = earlier ++ call :: later ∧
      (after config earlier).size ≤ place ∧
      (after config (earlier ++ [call])).arena[place]? = some descriptor ∧
      (call.catalog.schema descriptor.typeName).validate = .ok () ∧
      Describes (after config (earlier ++ [call])) (call.catalog.schema descriptor.typeName)
        descriptor := by
  -- The induction is on the last lookup: a place is its work or that of an earlier one.
  induction calls using List.reverseRecOn with
  | nil => simp [after] at held
  | append_singleton calls call ih =>
    by_cases old : place < (after config calls).size
    · -- Descriptors of earlier lookups stay where they were.
      have grown := after_append_extends config calls [call]
      have before : (after config calls).arena[place]? = some descriptor := by
        obtain ⟨added, same⟩ := grown.arena
        rwa [← same, List.getElem?_append_left old] at held
      obtain ⟨earlier, first, later, split, rest⟩ := ih before
      exact ⟨earlier, first, later ++ [call], by simp [split], rest⟩
    · -- The place is new, so the last lookup has filled it.
      have new : (after config calls).size ≤ place := Nat.le_of_not_lt old
      refine ⟨calls, call, [], rfl, new, held, ?_⟩
      rw [after_concat] at held ⊢
      exact lookUp_describes new held

/-- Every published descriptor still describes the valid schema that it was made from. -/
theorem describes_of_published {config : MappingConfig} {calls : List Lookup}
    {descriptor : Descriptor} (published : descriptor ∈ (after config calls).arena) :
    ∃ call ∈ calls, (call.catalog.schema descriptor.typeName).validate = .ok () ∧
      Describes (after config calls) (call.catalog.schema descriptor.typeName) descriptor := by
  -- What was described at the time of publication is described ever since.
  obtain ⟨place, atPlace⟩ := List.mem_iff_getElem?.mp published
  obtain ⟨earlier, call, later, rfl, -, -, valid, describes⟩ := after_describes atPlace
  have grown : Extends (after config (earlier ++ [call]))
      (after config (earlier ++ call :: later)) := by
    simpa using after_append_extends config (earlier ++ [call]) later
  exact ⟨call, by simp, valid, describes.extends grown⟩

/-- No link of a registry leads out of it, whatever was looked up. -/
theorem after_closed (config : MappingConfig) (calls : List Lookup) :
    (after config calls).Closed := by
  -- Each field of a descriptor is linked as the declared field at its place.
  intro descriptor listed described held
  -- The links lead to the types that the described schema refers to.
  obtain ⟨call, -, -, describes⟩ := describes_of_published listed
  have linked := describes.linked (after_represents config calls)
  obtain ⟨field, -, -, links⟩ := exists_left_of_forall₂ linked held
  exact links.published

/-- Whatever was looked up under whatever catalogs, with success or not: numbers are places; types
and numbers belong to each other one to one, and no described type is refused; links lead to the
types that the schema of the time of publication refers to, then and ever since; and a name leads to
the first descriptor that has it. -/
theorem lookups_keep_representation (config : MappingConfig) (calls : List Lookup) :
    let registry := after config calls
    (∀ place (descriptor : Descriptor), registry.arena[place]? = some descriptor →
      descriptor.id = ⟨place⟩) ∧
    (∀ typeName id, registry.slots.get? typeName = some (.mapped id) ↔
      ∃ descriptor, registry.arena[id.index]? = some descriptor ∧ descriptor.typeName = typeName) ∧
    (registry.arena.map (·.typeName)).Nodup ∧
    (∀ descriptor ∈ registry.arena,
      registry.slots.get? descriptor.typeName ≠ some .ineligible) ∧
    (∀ place (descriptor : Descriptor), registry.arena[place]? = some descriptor →
      ∃ earlier call later, calls = earlier ++ call :: later ∧
        (after config earlier).size ≤ place ∧
        (after config (earlier ++ [call])).arena[place]? = some descriptor ∧
        (after config (earlier ++ [call])).Linked (call.catalog.schema descriptor.typeName)
          descriptor ∧
        registry.Linked (call.catalog.schema descriptor.typeName) descriptor) ∧
    ∀ name, registry.byName? name = registry.arena.find? (·.name == name) := by
  -- Agreement of arena and indexes says most of this, and the descriptions say the rest.
  intro registry
  have represents : Represents registry := after_represents config calls
  refine ⟨represents.numbered, represents.mapped, represents.nodup_typeNames, ?_, ?_,
    represents.byName?_eq⟩
  · -- The slot of a described type holds its number.
    intro descriptor listed refused
    obtain ⟨place, held⟩ := List.mem_iff_getElem?.mp listed
    have slot := (represents.mapped descriptor.typeName ⟨place⟩).mpr ⟨descriptor, held, rfl⟩
    rw [refused] at slot
    cases slot
  · -- What was described at the time of publication still is.
    intro place descriptor held
    obtain ⟨earlier, call, later, rfl, new, published, -, describes⟩ := after_describes held
    have grown : Extends (after config (earlier ++ [call])) registry := by
      simpa using after_append_extends config (earlier ++ [call]) later
    exact ⟨earlier, call, later, rfl, new, published, describes.linked (after_represents config _),
      (describes.extends grown).linked represents⟩

/-- Accounts below other accounts, with contacts that lead back to them. -/
def directory : Catalog where
  schemas := [
    ("Account", {
      name := "Account"
      fields := [.simple "Name", .reference "Parent" ⟨"Account", .mapped⟩,
        .collection "Contacts" ⟨"Contact", .mapped⟩, .collection "Tags" ⟨"String", .scalar⟩] }),
    ("Contact", {
      name := "Contact"
      fields := [.simple "Email", .reference "Account" ⟨"Account", .mapped⟩] })]

/-- Accounts are met before their contacts, and neither a second time. -/
theorem explore_directory :
    Exploration.explore [] directory {} [⟨⟨"Account", .mapped⟩, none⟩] =
      (⟨[(⟨"Account", .mapped⟩, directory.schema "Account"),
          (⟨"Contact", .mapped⟩, directory.schema "Contact")], ["String"], ["Account", "Contact"]⟩,
        none) :=
  -- The exploration of the catalog ends within five steps, so it can be run.
  Exploration.explore_of_exploreWithin 5 rfl

/-- The registry of a lookup of accounts. -/
theorem after_directory : after {} [⟨directory, ⟨"Account", .mapped⟩⟩] =
    ({ config := {} } : Registry).publish
      ⟨[(⟨"Account", .mapped⟩, directory.schema "Account"),
        (⟨"Contact", .mapped⟩, directory.schema "Contact")],
        ["String"], ["Account", "Contact"]⟩ := by
  -- The lookup publishes what the exploration has found.
  simp [after, lookUp, descriptor, published?, explore, explore_directory]

/-- Looking up accounts publishes their contacts under the next number, linked back to them. -/
theorem lookups_keep_representation_directory :
    ∃ contact, (after {} [⟨directory, ⟨"Account", .mapped⟩⟩]).arena[1]? = some contact ∧
      contact.id = ⟨1⟩ ∧ contact.typeName = "Contact" ∧
      (after {} [⟨directory, ⟨"Account", .mapped⟩⟩]).slots.get? "Contact" = some (.mapped ⟨1⟩) ∧
      (after {} [⟨directory, ⟨"Account", .mapped⟩⟩]).byName? "Contact" = some contact := by
  -- The place is looked up once, and the general statement gives the rest.
  obtain ⟨numbered, mapped, -, -, -, named⟩ :=
    lookups_keep_representation {} [⟨directory, ⟨"Account", .mapped⟩⟩]
  have held : ∃ contact, (after {} [⟨directory, ⟨"Account", .mapped⟩⟩]).arena[1]? = some contact ∧
      contact.typeName = "Contact" ∧
      (after {} [⟨directory, ⟨"Account", .mapped⟩⟩]).arena.find? (·.name == "Contact") =
        some contact := by
    rw [after_directory]
    exact ⟨_, rfl, rfl, rfl⟩
  obtain ⟨contact, atPlace, typeName, first⟩ := held
  exact ⟨contact, atPlace, numbered 1 contact atPlace, typeName,
    (mapped "Contact" ⟨1⟩).mpr ⟨contact, atPlace, typeName⟩, (named "Contact").trans first⟩

end Registry

end RemoteRecords
