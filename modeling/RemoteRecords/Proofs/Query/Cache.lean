import RemoteRecords.Mapper
import RemoteRecords.Proofs.Query.Simulation
import RemoteRecords.Proofs.Registry.History

/-! The cache of select lists: whatever was expanded before, answers are those without a cache. -/

namespace RemoteRecords

namespace Expansion

/-- Published descriptors are alike in a registry and in every later one. -/
theorem bisimulation_of_closed {registry later : Registry} (closed : registry.Closed)
    (grown : registry.Extends later) :
    registry.Bisimulation later fun descriptor descriptor' =>
      descriptor = descriptor' ∧ descriptor ∈ registry.arena := by
  -- A descriptor is paired with itself, so only its links have to be followed on both sides.
  rintro descriptor _ ⟨rfl, listed⟩
  -- No link leads out of the earlier registry, and what it leads to is still there.
  have joins : ∀ id, (∃ target, registry.get? id = some target) →
      registry.Joins later (fun descriptor descriptor' =>
        descriptor = descriptor' ∧ descriptor ∈ registry.arena) id id := by
    rintro id ⟨target, found⟩
    exact ⟨target, target, found, grown.get? found, rfl, List.mem_of_getElem? found⟩
  refine ⟨rfl, rfl, List.forall₂_same.mpr fun field declared => ?_⟩
  have links := closed descriptor listed field declared
  refine ⟨rfl, rfl, rfl, ?_, List.forall₂_same.mpr fun id held => joins id (links.2 id held), rfl,
    rfl, rfl, rfl⟩
  cases link : field.related with
  | none => exact .none
  | some id => exact .some (joins id (links.1 id link))

/-- A published descriptor expands the same in every later registry. -/
theorem selectList_extends {registry later : Registry} (closed : registry.Closed)
    (grown : registry.Extends later) (depth : Nat) :
    ∀ descriptor ∈ registry.arena, ∀ path,
      selectList registry depth descriptor path = selectList later depth descriptor path :=
  -- Expansion follows links only, and those of the earlier registry lead to the same descriptors.
  fun _ listed => selectList_alike (bisimulation_of_closed closed grown) depth _ _ ⟨rfl, listed⟩

/-- Every cached list is the one that plain expansion gives. -/
def CacheSound (registry : Registry) (cache : ExpansionCache) : Prop :=
  ∀ key items, cache.get? key = some items →
    ∃ descriptor, registry.get? key.descriptor = some descriptor ∧
      selectList registry key.depth descriptor key.path = .ok items

/-- A cached step answers as a plain one; it keeps the cache sound and all that the cache held. -/
def Transparent (registry : Registry) {α : Type} (cached : Cached α) (plain : Except QueryFault α) :
    Prop :=
  ∀ cache, CacheSound registry cache →
    (cached.run.run cache).1 = plain ∧ CacheSound registry (cached.run.run cache).2 ∧
      ∀ key items, cache.get? key = some items → (cached.run.run cache).2.get? key = some items

/-- Transparency respects results, faults and sequence. -/
theorem simulation_transparent (registry : Registry) :
    Simulation fun α (cached : Cached α) plain => Transparent registry cached plain where
  -- A result or a fault leaves the cache as it is.
  result _ cache sound := ⟨rfl, sound, fun _ _ held => held⟩
  fault _ cache sound := ⟨rfl, sound, fun _ _ held => held⟩
  sequence {α β left right next next'} first second cache sound := by
    -- The second step meets the cache of the first, which is sound.
    obtain ⟨same, kept, keeps⟩ := first cache sound
    rw [run_bind, same]
    cases right with
    | error fault => exact ⟨rfl, kept, keeps⟩
    | ok value =>
      obtain ⟨same', kept', keeps'⟩ := second value _ kept
      exact ⟨same', kept', fun key items held => keeps' key items (keeps key items held)⟩

/-- A look-up after an insertion sees the inserted list at its own key and nothing new elsewhere. -/
theorem get?_insert (cache : ExpansionCache) (key other : ExpansionKey) (items : List SelectItem) :
    (cache.insert key items).get? other = if key = other then some items else cache.get? other := by
  -- The cache is a table of which the library knows this law.
  simp only [ExpansionCache.get?, ExpansionCache.insert, Std.HashMap.getElem?_insert, beq_iff_eq]

/-- A sound cache stays sound when the list that plain expansion gives is inserted. -/
theorem CacheSound.insert {registry : Registry} {cache : ExpansionCache} {key : ExpansionKey}
    {descriptor : Descriptor} {items : List SelectItem} (sound : CacheSound registry cache)
    (published : registry.get? key.descriptor = some descriptor)
    (expanded : selectList registry key.depth descriptor key.path = .ok items) :
    CacheSound registry (cache.insert key items) := by
  -- A key has the new list or the one that it had.
  intro other listed held
  rw [get?_insert] at held
  split at held
  · rename_i same
    subst same
    cases held
    exact ⟨descriptor, published, expanded⟩
  · exact sound other listed held

/-- A list that is remembered needs no expansion. -/
theorem remember_of_held {cache : ExpansionCache} {key : ExpansionKey} {items : List SelectItem}
    (held : cache.get? key = some items) (expand : Cached (List SelectItem)) :
    (remember key expand).run.run cache = (.ok items, cache) := by
  -- The cache is asked first, and it has the list.
  have started : (get : Cached ExpansionCache).run.run cache = (.ok cache, cache) := rfl
  rw [remember, run_bind, started]
  simp only [held]
  rfl

/-- A list that is not remembered is expanded, and kept unless the expansion fails. -/
theorem remember_of_missing {cache : ExpansionCache} {key : ExpansionKey}
    (missing : cache.get? key = none) (expand : Cached (List SelectItem)) :
    (remember key expand).run.run cache =
      match expand.run.run cache with
      | (.ok items, left) => (.ok items, left.insert key items)
      | (.error fault, left) => (.error fault, left) := by
  -- The cache is asked first, and it has no list, so the expansion runs and its list is stored.
  have started : (get : Cached ExpansionCache).run.run cache = (.ok cache, cache) := rfl
  rw [remember, run_bind, started]
  simp only [missing]
  rw [run_bind]
  obtain ⟨answer, left⟩ := expand.run.run cache
  cases answer with
  | ok items => rfl
  | error fault => rfl

/-- Remembering a list is transparent if expanding it is. -/
theorem remember_transparent {registry : Registry} (key : ExpansionKey) {descriptor : Descriptor}
    {expand : Cached (List SelectItem)}
    (published : registry.get? key.descriptor = some descriptor)
    (expands : Transparent registry expand (selectList registry key.depth descriptor key.path)) :
    Transparent registry (remember key expand)
      (selectList registry key.depth descriptor key.path) := by
  -- The key has a list in the cache or has none.
  intro cache sound
  cases found : cache.get? key with
  | some items =>
    -- A sound cache holds the answer of plain expansion.
    obtain ⟨holder, same, expanded⟩ := sound key items found
    rw [published] at same
    cases same
    rw [remember_of_held found]
    exact ⟨expanded.symm, sound, fun _ _ held => held⟩
  | none =>
    -- The list is expanded, and then kept under its key.
    obtain ⟨answered, kept, keeps⟩ := expands cache sound
    rw [remember_of_missing found]
    cases ran : expand.run.run cache with
    | mk answer left =>
      rw [ran] at answered kept keeps
      cases answer with
      | error fault => exact ⟨answered, kept, keeps⟩
      | ok items =>
        refine ⟨answered, kept.insert published answered.symm, fun other listed held => ?_⟩
        rw [get?_insert]
        split
        · -- The key had no list before.
          rename_i same
          rw [← same, found] at held
          cases held
        · exact keeps other listed held

/-- Expansion by way of the cache is transparent for published descriptors. -/
theorem cachedList_transparent {registry : Registry} (represents : registry.Represents)
    (closed : registry.Closed) (depth : Nat) :
    ∀ descriptor ∈ registry.arena, ∀ path,
      Transparent registry (cachedList registry depth descriptor path)
        (selectList registry depth descriptor path) := by
  have bisimulation := bisimulation_of_closed closed (Registry.Extends.refl registry)
  -- One level deeper every list is cached as well, so transparency is carried along.
  induction depth with
  | zero =>
    intro descriptor listed path
    refine remember_transparent ⟨descriptor.id, path, 0⟩ (represents.get?_id listed) ?_
    exact itemsOf_related (simulation_transparent registry) deepens_none path
      (bisimulation ⟨rfl, listed⟩).queryFields
  | succ depth ih =>
    intro descriptor listed path
    refine remember_transparent ⟨descriptor.id, path, depth + 1⟩ (represents.get?_id listed) ?_
    refine itemsOf_related (simulation_transparent registry) (deepens_some bisimulation ?_) path
      (bisimulation ⟨rfl, listed⟩).queryFields
    rintro next _ ⟨rfl, published⟩
    exact ih next published

/-- Compilation by way of the cache is transparent. -/
theorem compileCached_transparent {registry : Registry} (represents : registry.Represents)
    (closed : registry.Closed) (root : Descriptor) (template : String) (options : CompileOptions) :
    Transparent registry (Query.compileCached registry root template options)
      (Query.compile registry root template options) := by
  -- Compilation only expands, and expansion by way of the cache is transparent.
  refine Query.compileWith_related (simulation_transparent registry)
    (bisimulation_of_closed closed (Registry.Extends.refl registry)) ?_ ⟨rfl, fun _ => rfl, ?_⟩
    template options
  · rintro depth descriptor _ ⟨rfl, published⟩
    exact cachedList_transparent represents closed depth descriptor published
  · -- The number of the root leads to a published descriptor, or nowhere.
    cases start : registry.get? root.id with
    | none => exact .none
    | some first => exact .some ⟨rfl, List.mem_of_getElem? start⟩

end Expansion

end RemoteRecords
