import RemoteRecords.Proofs.Registry.History
import RemoteRecords.Proofs.Registry.DepthFirst

/-! Closures: a lookup publishes what its type needs in the order of a walk, or nothing at all. -/

namespace RemoteRecords.Registry

open Relation
open Exploration (DepthFirst Met)

/-- A lookup answers from what is published, fails and changes nothing, or publishes what its
exploration has met and answers from that. -/
theorem descriptor_cases (registry : Registry) (catalog : Catalog) (token : TypeRef) :
    (∃ held, registry.published? token.typeName = some held ∧
        registry.descriptor catalog token = (.ok held, registry)) ∨
      (∃ error, registry.descriptor catalog token = (.error error, registry)) ∨
      ∃ seen, registry.explore catalog token = (seen, none) ∧
        registry.descriptor catalog token =
          (.ok ((registry.publish seen).published? token.typeName).join, registry.publish seen) := by
  -- The three cases are a slot, an exploration with an obstacle and one without.
  unfold descriptor
  cases known : registry.published? token.typeName with
  | some held => exact .inl ⟨held, rfl, rfl⟩
  | none =>
    cases explored : registry.explore catalog token with
    | mk seen obstacle =>
      cases obstacle with
      | some error => exact .inr (.inl ⟨error, rfl⟩)
      | none => exact .inr (.inr ⟨seen, rfl, rfl⟩)

/-- A later registry has a slot more for each visit of a walk, and no other. Visits to types with
descriptors are numbered on in their order, and the others are remembered as having none. -/
structure Adds (before next : Registry) (catalog : Catalog) (visits : List TypeRef) : Prop where
  arena : next.arena.map (·.typeName) =
    before.arena.map (·.typeName) ++ (visits.filter catalog.admits).map (·.typeName)
  described : ∀ place (visit : TypeRef), (visits.filter catalog.admits)[place]? = some visit →
    next.slots.get? visit.typeName = some (.mapped ⟨before.size + place⟩)
  refused : ∀ visit ∈ visits, catalog.admits visit = false →
    next.slots.get? visit.typeName = some .ineligible
  others : ∀ typeName, typeName ∉ visits.map (·.typeName) →
    next.slots.get? typeName = before.slots.get? typeName

/-- A type is new in a later registry, with a descriptor. -/
def NewlyDescribed (before next : Registry) (typeName : String) : Prop :=
  before.slots.get? typeName = none ∧ ∃ id, next.slots.get? typeName = some (.mapped id)

/-- A field of a newly described type names another type. -/
def Draws (before next : Registry) (catalog : Catalog) (owner other : String) : Prop :=
  NewlyDescribed before next owner ∧
    ∃ token ∈ (catalog.schema owner).targets, token.typeName = other

section Publish

variable {registry : Registry} {catalog : Catalog} {seen : Exploration} {visits : List TypeRef}

/-- Publication adds what a walk has visited. -/
theorem publish_adds (coherent : Exploration.Coherent registry.slots catalog ⟨seen, []⟩)
    (holds : Exploration.Holds catalog seen visits) :
    registry.Adds (registry.publish seen) catalog visits where
  arena := by
    -- Each new descriptor carries the type that was found at its place.
    have added : (registry.describeAll seen.found).map (·.typeName) =
        (visits.filter catalog.admits).map (·.typeName) := by
      rw [← holds.found, List.map_map]
      apply List.ext_getElem?
      intro place
      rw [List.getElem?_map, getElem?_describeAll, List.getElem?_map]
      cases seen.found[place]? <;> rfl
    rw [publish, List.map_append, added]
  described place visit atPlace := by
    -- The type found at a place gets the number of that place.
    rw [← holds.found, List.getElem?_map] at atPlace
    obtain ⟨entry, found, rfl⟩ := Option.map_eq_some_iff.mp atPlace
    exact slots_publish_of_found coherent found
  refused visit listed plain := by
    -- A visit that the catalog does not admit was refused.
    apply slots_publish_of_refused coherent
    rw [holds.ineligible]
    exact List.mem_map_of_mem (List.mem_filter.mpr ⟨listed, by simp [plain]⟩)
  others typeName unvisited := by
    -- What was not visited was neither found nor refused.
    rw [holds.mem_iff, not_or] at unvisited
    exact slots_publish_of_unmet unvisited.1 unvisited.2

/-- The visits of a walk that stays where it begins add nothing. -/
theorem adds_nil (registry : Registry) (catalog : Catalog) : registry.Adds registry catalog [] where
  -- No visit has a place, and no name is among theirs.
  arena := by simp
  described := by simp
  refused := by simp
  others := fun _ _ => rfl

/-- A type that was visited has a slot, by whether its visit found it to have a descriptor. -/
theorem Adds.slot_of_visit {before next : Registry} (adds : before.Adds next catalog visits)
    {visit : TypeRef} (listed : visit ∈ visits) :
    next.slots.get? visit.typeName ≠ none ∧
      (catalog.admits visit = true → ∃ id, next.slots.get? visit.typeName = some (.mapped id)) := by
  -- A visit that the catalog admits is numbered, and any other is remembered as refused.
  cases admitted : catalog.admits visit with
  | true =>
    -- The visit has a place among those that are numbered.
    obtain ⟨place, atPlace⟩ :=
      List.mem_iff_getElem?.mp (List.mem_filter.mpr ⟨listed, admitted⟩)
    have slot := adds.described place visit atPlace
    exact ⟨by simp [slot], fun _ => ⟨_, slot⟩⟩
  | false =>
    -- The visit is remembered as having none.
    have slot := adds.refused visit listed admitted
    exact ⟨by simp [slot], by simp⟩

/-- The types that a walk adds are those that are drawn in by its token, one by the other. -/
theorem Adds.slot_iff_drawn {before next : Registry} {token : TypeRef}
    (adds : before.Adds next catalog visits)
    (walk : DepthFirst before.slots catalog [] [token] visits) {typeName : String}
    (unknown : before.slots.get? typeName = none) :
    next.slots.get? typeName ≠ none ↔
      ReflTransGen (before.Draws next catalog) token.typeName typeName := by
  -- A walk is closed under fields, and all that it visits is reached from its token.
  obtain ⟨tokens, fields⟩ := walk.closed
  obtain ⟨-, fresh⟩ := walk.fresh
  -- A type that the walk has met was visited, unless the registry knew it.
  have visited : ∀ {name : String}, Met before.slots ([] ++ visits) name →
      before.slots.get? name = none → name ∈ visits.map (·.typeName) := by
    intro name met new
    exact met.resolve_left fun held => held new
  constructor
  · intro slot
    -- The slot is new, so it comes from a visit, and visits are reached from the token.
    have listed : typeName ∈ visits.map (·.typeName) := by
      by_contra unvisited
      exact slot ((adds.others typeName unvisited).trans unknown)
    obtain ⟨visit, among, rfl⟩ := List.mem_map.mp listed
    have follows : ∀ visit ∈ visits, catalog.admits visit = true →
        ∀ target ∈ (catalog.schema visit.typeName).targets,
          before.Draws next catalog visit.typeName target.typeName := by
      intro visit among admitted target named
      have new : before.slots.get? visit.typeName = none := by
        by_contra held
        exact fresh visit among (.inl held)
      exact ⟨⟨new, (adds.slot_of_visit among).2 admitted⟩, target, named, rfl⟩
    obtain ⟨start, only, reached⟩ := walk.reached follows visit among
    rw [List.mem_singleton.mp only] at reached
    exact reached
  · intro drawn
    -- The last step leads from a visit with a descriptor to a token of its fields.
    have listed : typeName ∈ visits.map (·.typeName) := by
      rcases drawn.cases_tail with rfl | ⟨owner, -, ⟨new, id, slot⟩, target, named, rfl⟩
      · exact visited (tokens token List.mem_cons_self) unknown
      · have owned : owner ∈ visits.map (·.typeName) := by
          by_contra unvisited
          rw [adds.others owner unvisited, new] at slot
          cases slot
        obtain ⟨visit, among, rfl⟩ := List.mem_map.mp owned
        have admitted : catalog.admits visit = true := by
          by_contra plain
          rw [adds.refused visit among (by simpa using plain)] at slot
          cases slot
        exact visited (fields visit among admitted target named) unknown
    obtain ⟨visit, among, rfl⟩ := List.mem_map.mp listed
    exact (adds.slot_of_visit among).1

end Publish

/-- What is published of a type is published of it in every later registry. -/
theorem Extends.published? {before after : Registry} (grown : Extends before after)
    (represents : Represents before) {typeName : String} {held : Option Descriptor}
    (known : before.published? typeName = some held) : after.published? typeName = some held := by
  -- Slots are kept, and so are the descriptors that they lead to.
  unfold Registry.published? at known ⊢
  obtain ⟨slot, found, rfl⟩ := Option.map_eq_some_iff.mp known
  rw [grown.slots _ _ found, Option.map_some]
  cases slot with
  | ineligible => rfl
  | mapped id =>
    -- The number leads to a descriptor, which keeps its place.
    obtain ⟨descriptor, first, -⟩ := (represents.mapped typeName id).mp found
    simp only [first, grown.get? first]

/-- A lookup that fails changes nothing. One that succeeds keeps all that is there and adds a slot
for each first visit of a depth-first walk from its token, with the new descriptors in the order of
these visits; the types that get a slot are those that are drawn in, from the token on, by fields of
newly described types. From then on every lookup of a type with a slot, whatever came between and
whatever the schemas are by then, gives the same answer and changes nothing. -/
theorem lookup_publishes_closure (config : MappingConfig) (calls : List Lookup) (catalog : Catalog)
    (token : TypeRef) :
    let before := after config calls
    let answer := (before.descriptor catalog token).1
    let next := (before.descriptor catalog token).2
    (∀ error, answer = .error error → next = before) ∧
    ∀ described, answer = .ok described →
      Extends before next ∧
      (∃ visits, DepthFirst before.slots catalog [] [token] visits ∧
        (visits.map (·.typeName)).Nodup ∧ before.Adds next catalog visits) ∧
      (∀ typeName, before.slots.get? typeName = none →
        (next.slots.get? typeName ≠ none ↔
          ReflTransGen (before.Draws next catalog) token.typeName typeName)) ∧
      next.published? token.typeName = some described ∧
      ∀ typeName held, next.published? typeName = some held →
        ∀ (later : List Lookup) (again : Lookup), again.token.typeName = typeName →
          let registry := after config (calls ++ ⟨catalog, token⟩ :: later)
          registry.descriptor again.catalog again.token = (.ok held, registry) := by
  -- There are three ways a lookup can go, and each is judged by what its walk adds.
  intro before answer next
  have moved : next = after config (calls ++ [⟨catalog, token⟩]) :=
    (after_concat config calls ⟨catalog, token⟩).symm
  have represents : Represents next := moved ▸ after_represents config _
  -- What is published now is published in every registry to come, and answered from there.
  have repeats : ∀ typeName held, next.published? typeName = some held →
      ∀ (later : List Lookup) (again : Lookup), again.token.typeName = typeName →
        let registry := after config (calls ++ ⟨catalog, token⟩ :: later)
        registry.descriptor again.catalog again.token = (.ok held, registry) := by
    rintro typeName held known later again rfl registry
    have grown : Extends next registry := by
      have longer := after_append_extends config (calls ++ [⟨catalog, token⟩]) later
      rwa [← moved, List.append_assoc] at longer
    have settled := grown.published? represents known
    unfold descriptor
    rw [settled]
  have grown : Extends before next := lookUp_extends before ⟨catalog, token⟩
  rcases descriptor_cases before catalog token with
    ⟨held, known, same⟩ | ⟨error, same⟩ | ⟨seen, explored, same⟩
  · -- The type is known, so the walk ends where it begins.
    have answered : answer = .ok held := congrArg Prod.fst same
    have unchanged : next = before := congrArg Prod.snd same
    refine ⟨fun _ _ => unchanged, fun described succeeded => ?_⟩
    cases answered.symm.trans succeeded
    have met : Met before.slots [] token.typeName := by
      refine .inl fun absent => ?_
      simp [published?, absent] at known
    have walk : DepthFirst before.slots catalog [] [token] [] := .again met .nil
    have adds : before.Adds next catalog [] := unchanged ▸ adds_nil before catalog
    exact ⟨grown, ⟨[], walk, List.nodup_nil, adds⟩, fun _ => adds.slot_iff_drawn walk,
      unchanged ▸ known, repeats⟩
  · -- A lookup that fails leaves the registry as it is.
    have failed : answer = .error error := congrArg Prod.fst same
    refine ⟨fun _ _ => congrArg Prod.snd same, fun described succeeded => ?_⟩
    cases failed.symm.trans succeeded
  · -- What was explored is published.
    have answered : answer = .ok ((before.publish seen).published? token.typeName).join :=
      congrArg Prod.fst same
    have published : next = before.publish seen := congrArg Prod.snd same
    refine ⟨fun error failed => ?_, fun described succeeded => ?_⟩
    · cases answered.symm.trans failed
    cases answered.symm.trans succeeded
    -- The exploration is a walk from the token, and publication adds its visits.
    obtain ⟨coherent, -⟩ := Exploration.explore_coherent explored
    have empty : Exploration.Holds catalog {} [] := ⟨rfl, rfl⟩
    obtain ⟨visits, walk, holds⟩ := Exploration.depthFirst_of_explore explored empty
    have adds : before.Adds next catalog visits := published ▸ publish_adds coherent holds
    have drawn : ∀ typeName, before.slots.get? typeName = none →
        (next.slots.get? typeName ≠ none ↔
          ReflTransGen (before.Draws next catalog) token.typeName typeName) :=
      fun _ => adds.slot_iff_drawn walk
    refine ⟨grown, ⟨visits, walk, walk.fresh.1, adds⟩, drawn, ?_, repeats⟩
    -- The token's own type has a slot now, from this lookup or from before.
    have slot : next.slots.get? token.typeName ≠ none := by
      cases known : before.slots.get? token.typeName with
      | none => exact (drawn token.typeName known).mpr .refl
      | some slot => simp [grown.slots _ _ known]
    rw [← published]
    unfold published?
    cases held : next.slots.get? token.typeName with
    | none => exact absurd held slot
    | some slot => rfl

/-- Looking up accounts draws in contacts and tags, and publishes contacts behind accounts. They are
found there even if all schemas are gone and the lookup takes them for plain values. -/
theorem lookup_publishes_closure_directory :
    let registry := after {} [⟨directory, ⟨"Account", .mapped⟩⟩]
    registry.arena.map (·.typeName) = ["Account", "Contact"] ∧
      registry.slots.get? "String" ≠ none ∧
      ∃ contact, contact.typeName = "Contact" ∧
        registry.descriptor {} ⟨"Contact", .scalar⟩ = (.ok (some contact), registry) := by
  -- The lookup of the catalog is run, and the law adds what follows from it.
  intro registry
  obtain ⟨-, closure⟩ := lookup_publishes_closure {} [] directory ⟨"Account", .mapped⟩
  have next : ((after {} []).descriptor directory ⟨"Account", .mapped⟩).2 = registry := rfl
  -- The lookup succeeds, so that the law is about its answer.
  have account : ∃ account, ((after {} []).descriptor directory ⟨"Account", .mapped⟩).1 =
      .ok (some account) := by
    simp only [after, List.foldl_nil, descriptor, published?, explore, explore_directory,
      Dict.get?_nil, Option.map_none]
    exact ⟨_, rfl⟩
  obtain ⟨account, found⟩ := account
  obtain ⟨-, -, drawn, -, repeats⟩ := closure _ found
  rw [next] at drawn repeats
  -- Contacts are on record behind accounts.
  have contact : ∃ contact, contact.typeName = "Contact" ∧
      registry.published? "Contact" = some (some contact) := by
    unfold registry
    rw [after_directory]
    exact ⟨_, rfl, rfl⟩
  obtain ⟨contact, typeName, published⟩ := contact
  refine ⟨?_, (drawn "String" rfl).mpr ?_, contact, typeName,
    repeats "Contact" _ published [] ⟨{}, ⟨"Contact", .scalar⟩⟩ rfl⟩
  · unfold registry
    rw [after_directory]
    rfl
  · -- Tags are named by a field of accounts, which are newly described.
    have accounts : registry.slots.get? "Account" = some (.mapped ⟨0⟩) := by
      unfold registry
      rw [after_directory]
      rfl
    exact .single ⟨⟨rfl, ⟨0⟩, accounts⟩, ⟨"String", .scalar⟩, by decide, rfl⟩

end RemoteRecords.Registry
