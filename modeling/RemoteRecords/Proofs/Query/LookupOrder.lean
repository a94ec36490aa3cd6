import RemoteRecords.Proofs.Query.Interleaving
import RemoteRecords.Proofs.Registry.Twins

/-! Lookup order: what was looked up before, and in which order, is immaterial to every answer. -/

namespace RemoteRecords.Registry

open Relation

variable (config : MappingConfig) {catalog : Catalog} {kinds : String → TypeKind}
  {calls calls' : List Lookup}

/-- Twins are roots that are alike. -/
theorem roots_of_twins (uniform : catalog.Uniform kinds) (steady : Steady catalog kinds calls)
    (steady' : Steady catalog kinds calls') {root root' : Descriptor}
    (twins : (after config calls).Twins (after config calls') root root') :
    Query.Roots (after config calls) (after config calls')
      ((after config calls).Twins (after config calls')) root root' := by
  -- Twins have the same name and fields, so they differ in their numbers only.
  have alike := twins_bisimulation uniform steady steady' twins
  refine ⟨alike.name, fun name => isSome_eq_of_rel (alike.field? name), ?_⟩
  -- Each root is found at its own number.
  rw [(after_represents config calls).get?_id twins.1,
    (after_represents config calls').get?_id twins.2.1]
  exact .some twins

/-- Take one catalog that refers to each type as one of the type's kind, and any two histories of
lookups in it. A lookup after the one history succeeds exactly if it does after the other, and
answers with none exactly if it does after the other. The descriptors that both have for a type are
alike, with links to the same types, and every query compiles to the same text or with the same
fault for both, whatever was compiled before. If the same types are published, the numbers differ by
a permutation. -/
theorem lookup_order_is_immaterial (uniform : catalog.Uniform kinds)
    (steady : Steady catalog kinds calls) (steady' : Steady catalog kinds calls') :
    let left := after config calls
    let right := after config calls'
    (∀ token : TypeRef, token.kind = kinds token.typeName →
      ((∃ answer, (left.descriptor catalog token).1 = .ok answer) ↔
        ∃ answer, (right.descriptor catalog token).1 = .ok answer) ∧
      ((left.descriptor catalog token).1 = .ok none ↔
        (right.descriptor catalog token).1 = .ok none)) ∧
    (∀ root ∈ left.arena, ∀ root' ∈ right.arena, root.typeName = root'.typeName →
      root.Alike (left.Joins right (left.Twins right)) root' ∧
      ∀ template options,
        Query.compile left root template options = Query.compile right root' template options ∧
        ∀ mapper mapper', ReflTransGen Mapper.Step (Mapper.ofConfig config) mapper →
          ReflTransGen Mapper.Step (Mapper.ofConfig config) mapper' →
          mapper.registry = left → mapper'.registry = right →
          ((Mapper.compile root template options).run.run mapper).1 =
            ((Mapper.compile root' template options).run.run mapper').1) ∧
    ((∀ typeName, typeName ∈ left.arena.map (·.typeName) ↔
        typeName ∈ right.arena.map (·.typeName)) →
      (left.arena.map (·.typeName)).Perm (right.arena.map (·.typeName))) := by
  intro left right
  refine ⟨fun token presented => ⟨?_, ?_⟩, fun root published root' published' same => ⟨?_, ?_⟩,
    fun together => ?_⟩
  · -- What decides on success does not mention any history.
    rw [descriptor_succeeds_iff config uniform steady presented,
      descriptor_succeeds_iff config uniform steady' presented]
  · -- Neither does what decides on an answer of none.
    rw [descriptor_eq_none_iff config uniform steady presented,
      descriptor_eq_none_iff config uniform steady' presented]
  · -- Descriptors of one type are twins, and twins are alike.
    exact twins_bisimulation uniform steady steady' ⟨published, published', same⟩
  · intro template options
    have compiled : Query.compile left root template options =
        Query.compile right root' template options :=
      Query.compile_alike (twins_bisimulation uniform steady steady')
        (roots_of_twins config uniform steady steady' ⟨published, published', same⟩) template
        options
    refine ⟨compiled, fun mapper mapper' used used' history history' => ?_⟩
    -- A cached compilation answers as a plain one.
    have sound := (Mapper.steps_sound (Mapper.sound_ofConfig config) used).1
    have sound' := (Mapper.steps_sound (Mapper.sound_ofConfig config) used').1
    rw [(Mapper.run_compile sound root template options).1,
      (Mapper.run_compile sound' root' template options).1, history, history', compiled]
  · -- Each type is published once, so the same types are so in some order.
    exact (List.perm_ext_iff_of_nodup (after_represents config calls).nodup_typeNames
      (after_represents config calls').nodup_typeNames).mpr together

/-- The kinds of the types of the directory. -/
def directoryKinds (typeName : String) : TypeKind :=
  if typeName = "String" then .scalar else .mapped

/-- The directory refers to each type as one of the type's kind. -/
theorem directory_uniform : directory.Uniform directoryKinds :=
  Catalog.uniform_of_forall (by decide)

/-- A lookup of contacts publishes them first and accounts behind them. -/
theorem after_directory_contacts : after {} [⟨directory, ⟨"Contact", .mapped⟩⟩] =
    ({ config := {} } : Registry).publish
      ⟨[(⟨"Contact", .mapped⟩, directory.schema "Contact"),
        (⟨"Account", .mapped⟩, directory.schema "Account")],
        ["String"], ["Contact", "Account"]⟩ := by
  -- The exploration of the catalog ends within five steps, so it can be run.
  have explored : Exploration.explore [] directory {} [⟨⟨"Contact", .mapped⟩, none⟩] =
      (⟨[(⟨"Contact", .mapped⟩, directory.schema "Contact"),
        (⟨"Account", .mapped⟩, directory.schema "Account")], ["String"], ["Contact", "Account"]⟩,
        none) :=
    Exploration.explore_of_exploreWithin 5 rfl
  simp [after, lookUp, descriptor, published?, explore, explored]

/-- Accounts have one number if they are looked up first and another if contacts are, and every
query on them compiles alike. -/
theorem lookup_order_is_immaterial_directory :
    ∃ account account',
      (after {} [⟨directory, ⟨"Account", .mapped⟩⟩]).get? ⟨0⟩ = some account ∧
      (after {} [⟨directory, ⟨"Contact", .mapped⟩⟩]).get? ⟨1⟩ = some account' ∧
      ∀ template options,
        Query.compile (after {} [⟨directory, ⟨"Account", .mapped⟩⟩]) account template options =
          Query.compile (after {} [⟨directory, ⟨"Contact", .mapped⟩⟩]) account' template
            options := by
  -- Both accounts are found at their numbers, and the general statement compares their queries.
  have steady : ∀ typeName, directoryKinds typeName = .mapped →
      Steady directory directoryKinds [⟨directory, ⟨typeName, .mapped⟩⟩] := by
    intro typeName mapped call listed
    rw [List.mem_singleton.mp listed]
    exact ⟨rfl, mapped.symm⟩
  have known : ∃ account account',
      (after {} [⟨directory, ⟨"Account", .mapped⟩⟩]).get? ⟨0⟩ = some account ∧
      (after {} [⟨directory, ⟨"Contact", .mapped⟩⟩]).get? ⟨1⟩ = some account' ∧
      account.typeName = account'.typeName := by
    rw [after_directory, after_directory_contacts]
    exact ⟨_, _, rfl, rfl, rfl⟩
  obtain ⟨account, account', found, found', same⟩ := known
  obtain ⟨-, twins, -⟩ := lookup_order_is_immaterial {} directory_uniform
    (steady "Account" rfl) (steady "Contact" rfl)
  refine ⟨account, account', found, found', fun template options => ?_⟩
  exact ((twins account (List.mem_of_getElem? found) account' (List.mem_of_getElem? found')
    same).2 template options).1

end RemoteRecords.Registry
