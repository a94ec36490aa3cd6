import Mathlib.Logic.Relation
import RemoteRecords.Proofs.Query.Cache

/-! Interleavings: lookups and expansions in any order leave a cache that no answer depends on. -/

namespace RemoteRecords.Mapper

open Expansion Relation

/-- One use of a mapper, whether it succeeds or fails. -/
inductive Step : Mapper → Mapper → Prop where
  /-- A lookup, under the catalog of its moment. -/
  | descriptor (mapper : Mapper) (catalog : Catalog) (token : TypeRef) :
      Step mapper ((Mapper.descriptor catalog token).run.run mapper).2
  /-- A query is compiled. -/
  | compile (mapper : Mapper) (root : Descriptor) (template : String) (options : CompileOptions) :
      Step mapper ((Mapper.compile root template options).run.run mapper).2
  /-- The fields of one of the mapper's own descriptors are listed. -/
  | fieldList {mapper : Mapper} {descriptor : Descriptor}
      (published : descriptor ∈ mapper.registry.arena) (path : String) (depth : Nat) :
      Step mapper ((Mapper.fieldList descriptor path depth).run.run mapper).2

/-- A mapper whose registry has a history and whose cache holds what plain expansion gives. -/
structure Sound (config : MappingConfig) (mapper : Mapper) : Prop where
  history : ∃ calls, mapper.registry = Registry.after config calls
  cache : CacheSound mapper.registry mapper.expansions

/-- A mapper that has kept all descriptors and all select lists of an earlier one. -/
structure Continues (mapper later : Mapper) : Prop where
  registry : mapper.registry.Extends later.registry
  cache : ∀ key items, mapper.expansions.get? key = some items →
    later.expansions.get? key = some items

/-- The registry of a sound mapper is a record of what it published. -/
theorem Sound.represents {config : MappingConfig} {mapper : Mapper} (sound : Sound config mapper) :
    mapper.registry.Represents := by
  -- Every registry with a history is one.
  obtain ⟨calls, same⟩ := sound.history
  rw [same]
  exact Registry.after_represents config calls

/-- No link leads out of the registry of a sound mapper. -/
theorem Sound.closed {config : MappingConfig} {mapper : Mapper} (sound : Sound config mapper) :
    mapper.registry.Closed := by
  -- Every registry with a history is closed.
  obtain ⟨calls, same⟩ := sound.history
  rw [same]
  exact Registry.after_closed config calls

/-- A mapper that has not been used holds no select list. -/
theorem sound_ofConfig (config : MappingConfig) : Sound config (ofConfig config) where
  -- Its registry has the empty history.
  history := ⟨[], rfl⟩
  cache key items held := by simp [ofConfig, ExpansionCache.get?] at held

/-- A cached step leaves the registry alone and the cache that it ran to. -/
theorem run_cached {α : Type} (step : Registry → Cached α) (mapper : Mapper) :
    (cached step).run.run mapper =
      (((step mapper.registry).run.run mapper.expansions).1.mapError .queryCompile,
        { mapper with expansions := ((step mapper.registry).run.run mapper.expansions).2 }) := rfl

/-- A transparent step answers what the plain one does, and the mapper stays sound. -/
theorem run_cached_of_transparent {config : MappingConfig} {mapper : Mapper} {α : Type}
    (step : Registry → Cached α) {plain : Except QueryFault α} (sound : Sound config mapper)
    (transparent : Transparent mapper.registry (step mapper.registry) plain) :
    ((cached step).run.run mapper).1 = plain.mapError .queryCompile ∧
      Sound config ((cached step).run.run mapper).2 ∧
      Continues mapper ((cached step).run.run mapper).2 := by
  -- The registry stays, so the history does, and the step has kept the cache sound.
  obtain ⟨answered, kept, keeps⟩ := transparent mapper.expansions sound.cache
  rw [run_cached, answered]
  exact ⟨rfl, ⟨sound.history, kept⟩, ⟨Registry.Extends.refl _, keeps⟩⟩

/-- A compiled query is the one compiled without a cache. -/
theorem run_compile {config : MappingConfig} {mapper : Mapper} (sound : Sound config mapper)
    (root : Descriptor) (template : String) (options : CompileOptions) :
    ((compile root template options).run.run mapper).1 =
        (Query.compile mapper.registry root template options).mapError .queryCompile ∧
      Sound config ((compile root template options).run.run mapper).2 ∧
      Continues mapper ((compile root template options).run.run mapper).2 :=
  -- Compilation is a cached step, and it is transparent.
  run_cached_of_transparent
    (fun registry => Query.compileCached registry root template options) sound
    (compileCached_transparent sound.represents sound.closed root template options)

/-- Writing a list out changes its answer only. -/
theorem run_fieldList (descriptor : Descriptor) (path : String) (depth : Nat) (mapper : Mapper) :
    (fieldList descriptor path depth).run.run mapper =
      let ran := (cached fun registry => cachedList registry depth descriptor path).run.run mapper
      (ran.1.map SelectItem.listText, ran.2) := by
  -- The list is written out behind the cached step, whose answer decides whether there is one.
  rw [fieldList, run_bind]
  obtain ⟨answer, left⟩ :=
    (cached fun registry => cachedList registry depth descriptor path).run.run mapper
  cases answer with
  | ok items => rfl
  | error error => rfl

/-- A value is written and a fault is named independently of each other. -/
theorem mapError_map {ε ε' α β : Type} (answer : Except ε α) (fault : ε → ε') (write : α → β) :
    (answer.mapError fault).map write = (answer.map write).mapError fault := by
  -- Only one of the two does anything to a given answer.
  cases answer with
  | ok value => rfl
  | error error => rfl

/-- A field list is the one expanded without a cache. -/
theorem run_fieldList_of_published {config : MappingConfig} {mapper : Mapper}
    {descriptor : Descriptor} (sound : Sound config mapper)
    (published : descriptor ∈ mapper.registry.arena) (path : String) (depth : Nat) :
    ((fieldList descriptor path depth).run.run mapper).1 =
        ((selectList mapper.registry depth descriptor path).map SelectItem.listText).mapError
          .queryCompile ∧
      Sound config ((fieldList descriptor path depth).run.run mapper).2 ∧
      Continues mapper ((fieldList descriptor path depth).run.run mapper).2 := by
  -- The list is expanded by a transparent step.
  have transparent :=
    cachedList_transparent sound.represents sound.closed depth descriptor published path
  obtain ⟨answered, kept, continues⟩ := run_cached_of_transparent
    (fun registry => cachedList registry depth descriptor path) sound transparent
  -- Writing the list out comes after the cached step.
  rw [run_fieldList]
  refine ⟨?_, kept, continues⟩
  simp only
  rw [answered, mapError_map]

/-- A lookup changes the registry of a mapper only. -/
theorem run_descriptorOf (catalog : Catalog) (typeName : String) (mapper : Mapper) :
    (descriptorOf catalog typeName).run.run mapper =
      ((mapper.registry.descriptorOf catalog typeName).1,
        { mapper with registry := (mapper.registry.descriptorOf catalog typeName).2 }) := rfl

/-- A lookup publishes below what the cache was expanded from, which stays right. -/
theorem run_descriptor {config : MappingConfig} {mapper : Mapper} (sound : Sound config mapper)
    (catalog : Catalog) (token : TypeRef) :
    Sound config ((Mapper.descriptor catalog token).run.run mapper).2 ∧
      Continues mapper ((Mapper.descriptor catalog token).run.run mapper).2 := by
  -- The cache is left alone, so it has to be sound for the registry that has grown.
  have ran : ((Mapper.descriptor catalog token).run.run mapper).2 =
      { mapper with registry := mapper.registry.lookUp ⟨catalog, token⟩ } := rfl
  have grown := Registry.lookUp_extends mapper.registry ⟨catalog, token⟩
  rw [ran]
  refine ⟨⟨?_, fun key items held => ?_⟩, ⟨grown, fun _ _ held => held⟩⟩
  · -- The history has one call more.
    obtain ⟨calls, same⟩ := sound.history
    exact ⟨calls ++ [⟨catalog, token⟩], by rw [Registry.after_concat, same]⟩
  · -- The list of a published descriptor is the same in the registry that has grown.
    obtain ⟨holder, found, expanded⟩ := sound.cache key items held
    have same := selectList_extends sound.closed grown key.depth holder
      (List.mem_of_getElem? found) key.path
    exact ⟨holder, grown.get? found, by rw [← same, expanded]⟩

/-- Every use of a sound mapper leaves it sound, with all that it held. -/
theorem Step.sound {config : MappingConfig} {mapper next : Mapper} (step : Step mapper next)
    (sound : Sound config mapper) : Sound config next ∧ Continues mapper next := by
  -- Each use has its own law, and soundness is a part of it.
  cases step with
  | descriptor catalog token => exact run_descriptor sound catalog token
  | compile root template options => exact (run_compile sound root template options).2
  | fieldList published path depth =>
    exact (run_fieldList_of_published sound published path depth).2

/-- However a sound mapper is used, it stays sound and keeps all that it held. -/
theorem steps_sound {config : MappingConfig} {mapper later : Mapper} (sound : Sound config mapper)
    (steps : ReflTransGen Step mapper later) : Sound config later ∧ Continues mapper later := by
  induction steps with
  | refl =>
    -- Without any use, nothing has changed.
    exact ⟨sound, ⟨Registry.Extends.refl _, fun _ _ held => held⟩⟩
  | tail _ step ih =>
    -- The last use starts from a mapper that the earlier ones leave sound.
    obtain ⟨reached, before⟩ := ih
    obtain ⟨kept, after⟩ := step.sound reached
    exact ⟨kept, before.registry.trans after.registry, fun key items held =>
      after.cache key items (before.cache key items held)⟩

/-- However a mapper was used, whatever it cached is what plain expansion gives, then and ever
since, and its queries and field lists are those of plain expansion. -/
theorem expansions_are_transparent {config : MappingConfig} {mapper later : Mapper}
    (used : ReflTransGen Step (ofConfig config) mapper)
    (continued : ReflTransGen Step mapper later) :
    (∀ key items, mapper.expansions.get? key = some items →
      ∃ descriptor, mapper.registry.get? key.descriptor = some descriptor ∧
        selectList mapper.registry key.depth descriptor key.path = .ok items ∧
        later.registry.get? key.descriptor = some descriptor ∧
        selectList later.registry key.depth descriptor key.path = .ok items ∧
        later.expansions.get? key = some items) ∧
    (∀ root template options, ((compile root template options).run.run mapper).1 =
      (Query.compile mapper.registry root template options).mapError .queryCompile) ∧
    ∀ descriptor ∈ mapper.registry.arena, ∀ path depth,
      ((fieldList descriptor path depth).run.run mapper).1 =
        ((selectList mapper.registry depth descriptor path).map SelectItem.listText).mapError
          .queryCompile := by
  -- A mapper that was used is sound, and whatever comes later continues it.
  have sound := (steps_sound (sound_ofConfig config) used).1
  obtain ⟨_, continues⟩ := steps_sound sound continued
  refine ⟨fun key items held => ?_, fun root template options => ?_,
    fun descriptor published path depth => ?_⟩
  · -- The key's descriptor is still there, and expands in the grown registry as before.
    obtain ⟨holder, found, expanded⟩ := sound.cache key items held
    have same := selectList_extends sound.closed continues.registry key.depth holder
      (List.mem_of_getElem? found) key.path
    exact ⟨holder, found, expanded, continues.registry.get? found, by rw [← same, expanded],
      continues.cache key items held⟩
  · exact (run_compile sound root template options).1
  · exact (run_fieldList_of_published sound published path depth).1

/-- The fields of accounts read the same from the cache as at first. -/
theorem expansions_are_transparent_directory :
    let looked :=
      ((Mapper.descriptor Registry.directory ⟨"Account", .mapped⟩).run.run (ofConfig {})).2
    ∃ account, looked.registry.arena[0]? = some account ∧
      let listed := ((fieldList account "" 1).run.run looked).2
      ((fieldList account "" 1).run.run listed).1 =
        .ok "Name,Parent.Name,Parent.Tags,(SELECT Email FROM Contacts),Tags" := by
  -- The text is computed without a cache, and the law says that it is the same with one.
  intro looked
  have history : looked.registry =
      Registry.after {} [⟨Registry.directory, ⟨"Account", .mapped⟩⟩] := rfl
  have held : ∃ account, looked.registry.arena[0]? = some account ∧
      (selectList looked.registry 1 account "").map SelectItem.listText =
        .ok "Name,Parent.Name,Parent.Tags,(SELECT Email FROM Contacts),Tags" := by
    rw [history, Registry.after_directory]
    exact ⟨_, rfl, by decide +kernel⟩
  obtain ⟨account, found, text⟩ := held
  refine ⟨account, found, ?_⟩
  intro listed
  -- Listing the fields leaves the registry alone, so the general statement applies after it.
  have published : account ∈ looked.registry.arena := List.mem_of_getElem? found
  have asked : ReflTransGen Step (ofConfig {}) looked := .single (.descriptor _ _ _)
  have used : ReflTransGen Step (ofConfig {}) listed := asked.tail (.fieldList published "" 1)
  have same : listed.registry = looked.registry := by
    simp only [listed, run_fieldList]
    rfl
  obtain ⟨-, -, answers⟩ := expansions_are_transparent used .refl
  rw [answers account (same ▸ published) "" 1, same, text]
  rfl

end RemoteRecords.Mapper
