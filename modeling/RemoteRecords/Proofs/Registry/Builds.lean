import Mathlib.Data.Finset.Card
import RemoteRecords.Proofs.Registry.History

/-! Builds: an exploration as builds inside builds, how many of them there are, and which schemas are
asked for. -/

namespace RemoteRecords

/-- The types on record that are marked as mapped and that the registry does not know. -/
def Catalog.unpublished (catalog : Catalog) (known : Dict Slot) : Finset String :=
  catalog.schemas.keys.toFinset.filter fun typeName =>
    (catalog.schema typeName).mapped = true ∧ known.get? typeName = none

/-- A type that the registry does not know is unpublished if its schema is marked as mapped. -/
theorem Catalog.mem_unpublished_iff {catalog : Catalog} {known : Dict Slot} {typeName : String} :
    typeName ∈ catalog.unpublished known ↔
      (catalog.schema typeName).mapped = true ∧ known.get? typeName = none := by
  -- A schema that is marked as mapped is on record.
  simp only [unpublished, Finset.mem_filter, List.mem_toFinset, and_iff_right_iff_imp]
  exact fun marked => mem_keys_of_mapped marked.1

namespace Exploration

/-- Meets demands one after the other, up to the first obstacle. -/
def inTurn (meet : Exploration → Demand → Option (Exploration × Option Error)) (seen : Exploration) :
    List Demand → Option (Exploration × Option Error)
  | [] => some (seen, none)
  | demand :: rest =>
    match meet seen demand with
    | some (after, none) => inTurn meet after rest
    | stopped => stopped

/-- Meets a demand by the build of its type, if it is to be described, and the demands of its fields
inside that build. Builds may lie inside each other so deep and no deeper. -/
def meetWithin (known : Dict Slot) (catalog : Catalog) (depth : Nat) (seen : Exploration)
    (demand : Demand) : Option (Exploration × Option Error) :=
  match verdict? known seen demand.token.typeName with
  | some true => some (seen, none)
  | some false => some (seen, demand.refusal?)
  | none =>
    match seen.inspect catalog demand.token with
    | (none, after) => some (after, demand.refusal?)
    | (some schema, after) =>
      -- From here on the type is being built.
      match depth with
      | 0 => none
      | depth + 1 =>
        match schema.validate with
        | .error findings => some (after, some (.unmappableType schema.name (.invalid findings)))
        | .ok () =>
          inTurn (meetWithin known catalog depth) (after.describe demand.token schema)
            schema.demands

variable {known : Dict Slot} {catalog : Catalog} {seen after : Exploration} {demand : Demand}
  {demands rest : List Demand}

/-- An exploration meets its first demand and goes on with the others. -/
theorem explore_cons (known : Dict Slot) (catalog : Catalog) (seen : Exploration) (demand : Demand)
    (rest : List Demand) :
    explore known catalog seen (demand :: rest) =
      match verdict? known seen demand.token.typeName with
      | some true => explore known catalog seen rest
      | some false =>
        match demand.refusal? with
        | some error => (seen, some error)
        | none => explore known catalog seen rest
      | none =>
        match seen.inspect catalog demand.token with
        | (none, after) =>
          match demand.refusal? with
          | some error => (after, some error)
          | none => explore known catalog after rest
        | (some schema, after) =>
          match schema.validate with
          | .error findings => (after, some (.unmappableType schema.name (.invalid findings)))
          | .ok () =>
            explore known catalog (after.describe demand.token schema) (schema.demands ++ rest) := by
  -- The equation says once, by verdict and inspection, what the definition tells case by case.
  rw [explore]
  split
  · -- A type with a descriptor asks for nothing more.
    rename_i met
    simp only [met]
  · -- A type without one is an obstacle if the demand can be refused.
    rename_i met
    cases demand.refusal? <;> simp only [met]
  · rename_i met
    simp only [met]
    -- The type is met for the first time.
    split
    · rename_i inspected
      cases demand.refusal? <;> simp only [inspected]
    · rename_i schema after inspected
      cases valid : schema.validate <;> simp only [inspected, valid]

/-- What an exploration comes to after a part of its demands was met with a result. -/
def resume (known : Dict Slot) (catalog : Catalog) (rest : List Demand) :
    Exploration × Option Error → Exploration × Option Error
  | (after, none) => explore known catalog after rest
  | (after, some error) => (after, some error)

/-- An exploration of two lists of demands is one of the first and then one of the second. -/
theorem explore_append (known : Dict Slot) (catalog : Catalog) (seen : Exploration)
    (demands rest : List Demand) :
    explore known catalog seen (demands ++ rest) =
      resume known catalog rest (explore known catalog seen demands) := by
  -- The induction is on the exploration of the first list, and the second one waits behind it.
  fun_induction explore known catalog seen demands with
  | case1 => rfl
  | case2 seen demand others met ih => simpa [explore_cons, met] using ih
  | case3 seen demand others met fault required => simp [explore_cons, met, required, resume]
  | case4 seen demand others met optional ih => simpa [explore_cons, met, optional] using ih
  | case5 seen demand others unmet after inspected fault required =>
    simp [explore_cons, unmet, inspected, required, resume]
  | case6 seen demand others unmet after inspected optional ih =>
    simpa [explore_cons, unmet, inspected, optional] using ih
  | case7 seen demand others unmet schema after inspected findings faulty =>
    simp [explore_cons, unmet, inspected, faulty, resume]
  | case8 seen demand others unmet schema after inspected valid ih =>
    -- The demands of the type come before those of both lists.
    rw [List.append_assoc] at ih
    simpa [explore_cons, unmet, inspected, valid] using ih

/-- Inspection asks for a schema if the token presents its type as mapped. -/
theorem inspected_inspect (catalog : Catalog) (token : TypeRef) (seen : Exploration) :
    (seen.inspect catalog token).2.inspected =
      seen.inspected ++ if token.kind = .mapped then [token.typeName] else [] := by
  -- A token that presents its type as plain has no schema to ask for.
  unfold inspect
  split
  · simp only
    -- Whether the schema is marked as mapped is seen only once it is there.
    split <;> rfl
  · simp

/-- Inspection takes back nothing that was found or asked for. -/
theorem inspect_grows {schema : Option RecordSchema}
    (inspected : seen.inspect catalog demand.token = (schema, after)) :
    seen.foundNames <+: after.foundNames ∧ seen.inspected <+: after.inspected := by
  -- Inspection finds nothing yet, and it asks for one schema at most, after all others.
  have found := inspect_found catalog demand.token seen
  have asked := inspected_inspect catalog demand.token seen
  simp only [inspected] at found asked
  simp only [foundNames, found, asked]
  exact ⟨List.prefix_rfl, List.prefix_append _ _⟩

/-- Exploration only adds to what was found and to the schemas that were asked for. -/
theorem explore_grows (known : Dict Slot) (catalog : Catalog) (seen : Exploration)
    (demands : List Demand) :
    seen.foundNames <+: (explore known catalog seen demands).1.foundNames ∧
      seen.inspected <+: (explore known catalog seen demands).1.inspected := by
  -- The induction is on the exploration, and what an inspection adds comes before what follows.
  fun_induction explore known catalog seen demands with
  | case1 | case3 => exact ⟨List.prefix_rfl, List.prefix_rfl⟩
  | case2 seen demand rest met ih => exact ih
  | case4 seen demand rest met optional ih => exact ih
  | case5 seen demand rest unmet after inspected fault required =>
    exact inspect_grows inspected
  | case6 seen demand rest unmet after inspected optional ih =>
    obtain ⟨found, asked⟩ := inspect_grows inspected
    exact ⟨found.trans ih.1, asked.trans ih.2⟩
  | case7 seen demand rest unmet schema after inspected findings faulty =>
    exact inspect_grows inspected
  | case8 seen demand rest unmet schema after inspected valid ih =>
    obtain ⟨found, asked⟩ := inspect_grows inspected
    -- The type that is built joins the found ones.
    rw [foundNames_describe] at ih
    exact ⟨found.trans ((List.prefix_append _ _).trans ih.1), asked.trans ih.2⟩

/-- The unpublished types that an exploration has not found. -/
def unfound (known : Dict Slot) (catalog : Catalog) (seen : Exploration) : Finset String :=
  (catalog.unpublished known).filter fun typeName => typeName ∉ seen.foundNames

/-- Whatever is unfound after further exploration was unfound before. -/
theorem card_unfound_explore_le (known : Dict Slot) (catalog : Catalog) (seen : Exploration)
    (demands : List Demand) :
    (unfound known catalog (explore known catalog seen demands).1).card ≤
      (unfound known catalog seen).card := by
  -- What is found stays found, so the unfound types afterwards are some of those before.
  refine Finset.card_le_card fun typeName listed => ?_
  simp only [unfound, Finset.mem_filter] at listed ⊢
  exact ⟨listed.1, fun found =>
    listed.2 ((explore_grows known catalog seen demands).1.subset found)⟩

/-- A type that is built was unfound, and fewer types are unfound once it is. -/
theorem card_unfound_describe_lt {schema : RecordSchema}
    (unmet : verdict? known seen demand.token.typeName = none)
    (inspected : seen.inspect catalog demand.token = (some schema, after)) :
    (unfound known catalog (after.describe demand.token schema)).card <
      (unfound known catalog seen).card := by
  -- Nothing becomes unfound, and the type itself is unfound no more.
  obtain ⟨onRecord, marked, -, found, -⟩ := inspect_eq_some inspected
  obtain ⟨unknown, unmet', -⟩ := verdict?_eq_none_iff.mp unmet
  have names : after.foundNames = seen.foundNames := by simp only [foundNames, found]
  have smaller : unfound known catalog (after.describe demand.token schema) ⊆
      unfound known catalog seen := by
    intro typeName listed
    simp only [unfound, Finset.mem_filter, foundNames_describe, names, List.mem_append,
      not_or] at listed ⊢
    exact ⟨listed.1, listed.2.1⟩
  refine Finset.card_lt_card ((Finset.ssubset_iff_of_subset smaller).mpr
    ⟨demand.token.typeName, ?_, ?_⟩)
  · -- The type is on record as mapped, and neither the registry nor the exploration has it.
    simp only [unfound, Finset.mem_filter, Catalog.mem_unpublished_iff]
    exact ⟨⟨onRecord ▸ marked, unknown⟩, unmet'⟩
  · -- From here on the type is found.
    simp [unfound]

/-- Demands that are met within a depth one by one are met within it in turn. -/
theorem inTurn_eq_explore {depth : Nat}
    (each : ∀ seen demand, (unfound known catalog seen).card ≤ depth →
      meetWithin known catalog depth seen demand = some (explore known catalog seen [demand]))
    (enough : (unfound known catalog seen).card ≤ depth) :
    inTurn (meetWithin known catalog depth) seen demands =
      some (explore known catalog seen demands) := by
  -- The induction is on the demands, and the depth stays enough, as no type becomes unfound.
  induction demands generalizing seen with
  | nil => simp [inTurn, explore]
  | cons demand rest ih =>
    have split := explore_append known catalog seen [demand] rest
    have shrinks := card_unfound_explore_le known catalog seen [demand]
    rw [inTurn, each seen demand enough]
    rw [List.singleton_append] at split
    rw [split]
    -- An obstacle ends both, and otherwise the rest is met from where the first demand led.
    cases first : explore known catalog seen [demand] with
    | mk after obstacle =>
      cases obstacle with
      | some error => rfl
      | none =>
        rw [first] at shrinks
        exact ih (shrinks.trans enough)

/-- No more builds lie inside each other than there are types to be found. -/
theorem meetWithin_eq_explore (known : Dict Slot) (catalog : Catalog) {depth : Nat}
    {seen : Exploration} (demand : Demand) (enough : (unfound known catalog seen).card ≤ depth) :
    meetWithin known catalog depth seen demand = some (explore known catalog seen [demand]) := by
  -- The recursion is on the depth, and each build leaves one type fewer to be found.
  rw [meetWithin, explore_cons]
  split
  · -- A type that has a verdict is not built.
    simp [explore]
  · cases demand.refusal? <;> simp [explore]
  · rename_i unmet
    split
    · cases demand.refusal? <;> simp [explore]
    · -- The type to be built is unfound until then, so the depth has a build left for it.
      rename_i schema after inspected
      have fewer := card_unfound_describe_lt unmet inspected
      cases depth with
      | zero => omega
      | succ depth =>
        simp only [List.append_nil]
        cases schema.validate with
        | error findings => rfl
        | ok accepted =>
          exact inTurn_eq_explore
            (fun seen demand enough => meetWithin_eq_explore known catalog demand enough)
            (by omega)

/-- The schemas that an exploration has asked for: each once, and only where the registry knows
nothing of the type. -/
structure Asks (known : Dict Slot) (seen : Exploration) : Prop where
  once : seen.inspected.Nodup
  unknown : ∀ typeName ∈ seen.inspected, known.get? typeName = none

/-- Every type whose schema was asked for was found or refused. -/
def Settled (seen : Exploration) : Prop :=
  ∀ typeName ∈ seen.inspected, typeName ∈ seen.foundNames ∨ typeName ∈ seen.ineligible

/-- What inspection asks for, if anything, is the schema of the type at hand. -/
theorem mem_inspected_of_inspect {schema : Option RecordSchema}
    (inspected : seen.inspect catalog demand.token = (schema, after)) {typeName : String}
    (listed : typeName ∈ after.inspected) :
    typeName ∈ seen.inspected ∨ typeName = demand.token.typeName := by
  -- The list of schemas asked for is the old one with the type at hand behind it, if anything.
  have asked := inspected_inspect catalog demand.token seen
  simp only [inspected] at asked
  rw [asked] at listed
  rcases List.mem_append.mp listed with earlier | newest
  · exact .inl earlier
  · -- The newest entry is there only if the type is presented as mapped.
    refine .inr ?_
    split at newest
    · exact List.mem_singleton.mp newest
    · cases newest

/-- A schema that is asked for now has not been asked for before, since its type had no verdict. -/
theorem Asks.inspect {schema : Option RecordSchema} (asks : Asks known seen)
    (settled : Settled seen) (unmet : verdict? known seen demand.token.typeName = none)
    (inspected : seen.inspect catalog demand.token = (schema, after)) : Asks known after := by
  -- A type that was asked for has been settled since, and then it would have a verdict.
  obtain ⟨unknown, unfound, unrefused⟩ := verdict?_eq_none_iff.mp unmet
  constructor
  · have asked := inspected_inspect catalog demand.token seen
    simp only [inspected] at asked
    rw [asked, List.nodup_append]
    refine ⟨asks.once, by split <;> simp, ?_⟩
    rintro earlier listed newest last rfl
    -- The type would be among those found or refused if it had been asked for.
    split at last
    · rw [List.mem_singleton] at last
      exact (settled earlier listed).elim (last ▸ unfound) (last ▸ unrefused)
    · cases last
  · -- The registry does not know the type at hand, or it would have a verdict from there.
    intro typeName listed
    rcases mem_inspected_of_inspect inspected listed with earlier | rfl
    · exact asks.unknown typeName earlier
    · exact unknown

/-- A type that is refused is settled as well. -/
theorem Settled.refuse (settled : Settled seen)
    (inspected : seen.inspect catalog demand.token = (none, after)) : Settled after := by
  -- The only type that can be new among those asked for is the one that is refused here.
  obtain ⟨-, found, ineligible⟩ := inspect_eq_none inspected
  intro typeName listed
  simp only [foundNames, found, ineligible, List.mem_append, List.mem_singleton]
  rcases mem_inspected_of_inspect inspected listed with earlier | rfl
  · exact (settled typeName earlier).imp_right .inl
  · exact .inr (.inr rfl)

/-- A type that is built is settled as well. -/
theorem Settled.describe {schema : RecordSchema} (settled : Settled seen)
    (inspected : seen.inspect catalog demand.token = (some schema, after)) :
    Settled (after.describe demand.token schema) := by
  -- The only type that can be new among those asked for is the one that is found here.
  obtain ⟨-, -, -, found, ineligible⟩ := inspect_eq_some inspected
  intro typeName listed
  have names : after.foundNames = seen.foundNames := by simp only [foundNames, found]
  rw [foundNames_describe, names, List.mem_append, List.mem_singleton]
  rcases mem_inspected_of_inspect inspected listed with earlier | rfl
  · exact (settled typeName earlier).imp .inl fun refused => ineligible ▸ refused
  · exact .inl (.inr rfl)

/-- However an exploration ends, it has asked for each schema once. -/
theorem asks_explore (demands : List Demand) (asks : Asks known seen) (settled : Settled seen) :
    Asks known (explore known catalog seen demands).1 := by
  -- The induction is on the exploration, and whatever was asked for is settled by then.
  fun_induction explore known catalog seen demands with
  | case1 | case3 => exact asks
  | case2 seen demand rest met ih => exact ih asks settled
  | case4 seen demand rest met optional ih => exact ih asks settled
  | case5 seen demand rest unmet after inspected fault required =>
    exact asks.inspect settled unmet inspected
  | case6 seen demand rest unmet after inspected optional ih =>
    exact ih (asks.inspect settled unmet inspected) (settled.refuse inspected)
  | case7 seen demand rest unmet schema after inspected findings faulty =>
    exact asks.inspect settled unmet inspected
  | case8 seen demand rest unmet schema after inspected valid ih =>
    have asked := asks.inspect settled unmet inspected
    exact ih ⟨asked.once, asked.unknown⟩ (settled.describe inspected)

/-- Inspection needs no schema but the one that it asks for. -/
theorem inspect_congr {other : Catalog} {token : TypeRef}
    (same : token.kind = .mapped → other.schema token.typeName = catalog.schema token.typeName) :
    seen.inspect other token = seen.inspect catalog token := by
  -- A schema is read only if the type is presented as mapped.
  unfold inspect
  split
  · rename_i presented
    simp only [same presented]
  · rfl

/-- Exploration needs no schemas but those that it asks for. -/
theorem explore_congr {other : Catalog} (seen : Exploration) (demands : List Demand)
    (same : ∀ typeName ∈ (explore known catalog seen demands).1.inspected,
      other.schema typeName = catalog.schema typeName) :
    explore known other seen demands = explore known catalog seen demands := by
  -- What inspection asks for is among all that is asked for in the end.
  have inspects : ∀ {seen : Exploration} {token : TypeRef} {inspected : List String},
      (∀ typeName ∈ inspected, other.schema typeName = catalog.schema typeName) →
      (seen.inspect catalog token).2.inspected <+: inspected →
      seen.inspect other token = seen.inspect catalog token := by
    intro seen token inspected same within
    refine inspect_congr fun presented => same _ (within.subset ?_)
    rw [inspected_inspect, if_pos presented]
    simp
  -- Both explorations meet the same verdicts and inspect the same schemas, so they go the same way.
  fun_induction explore known catalog seen demands with
  | case1 => simp [explore]
  | case2 seen demand rest met ih => simpa only [explore_cons, met] using ih same
  | case3 seen demand rest met fault required => simp only [explore_cons, met, required]
  | case4 seen demand rest met optional ih => simpa only [explore_cons, met, optional] using ih same
  | case5 seen demand rest unmet after inspected fault required =>
    have inspected' := inspects same (by rw [inspected])
    simp only [explore_cons, unmet, inspected', inspected, required]
  | case6 seen demand rest unmet after inspected optional ih =>
    have inspected' := inspects same (by
      rw [inspected]
      exact (explore_grows known catalog after rest).2)
    simpa only [explore_cons, unmet, inspected', inspected, optional] using ih same
  | case7 seen demand rest unmet schema after inspected findings faulty =>
    have inspected' := inspects same (by rw [inspected])
    simp only [explore_cons, unmet, inspected', inspected, faulty]
  | case8 seen demand rest unmet schema after inspected valid ih =>
    have inspected' := inspects same (by
      rw [inspected]
      exact (explore_grows known catalog (after.describe demand.token schema) _).2)
    simpa only [explore_cons, unmet, inspected', inspected, valid] using ih same

end Exploration

namespace Registry

/-- The types whose schemas a lookup asks for, in order. -/
def asked (registry : Registry) (call : Lookup) : List String :=
  match registry.published? call.token.typeName with
  | some _ => []
  | none => (registry.explore call.catalog call.token).1.inspected

/-- The types whose builds a lookup begins: those whose schemas it asks for and finds marked as
mapped. -/
def builds (registry : Registry) (call : Lookup) : List String :=
  (registry.asked call).filter fun typeName => (call.catalog.schema typeName).mapped

/-- A lookup asks for each schema once, and only where the registry knows nothing of the type. -/
theorem asked_spec (registry : Registry) (call : Lookup) :
    (registry.asked call).Nodup ∧
      ∀ typeName ∈ registry.asked call, registry.slots.get? typeName = none := by
  -- A lookup of a type with a slot asks for nothing, and any other explores.
  unfold asked
  split
  · simp
  · -- Nothing has been asked for when the exploration begins.
    have nothing : Exploration.Asks registry.slots {} := ⟨List.nodup_nil, by simp⟩
    have asks : Exploration.Asks registry.slots (registry.explore call.catalog call.token).1 :=
      Exploration.asks_explore [⟨call.token, none⟩] nothing (by simp [Exploration.Settled])
    exact ⟨asks.once, asks.unknown⟩

/-- A lookup needs no schemas but those that it asks for. -/
theorem descriptor_congr_of_asked {registry : Registry} {call : Lookup} {other : Catalog}
    (same : ∀ typeName ∈ registry.asked call,
      other.schema typeName = call.catalog.schema typeName) :
    registry.descriptor other call.token = registry.descriptor call.catalog call.token := by
  -- The answer is read from what is published, or from an exploration that needs nothing else.
  unfold asked at same
  unfold descriptor
  cases known : registry.published? call.token.typeName with
  | some held => rfl
  | none =>
    simp only [known] at same
    have explored : registry.explore other call.token = registry.explore call.catalog call.token :=
      Exploration.explore_congr {} [⟨call.token, none⟩] same
    simp only [explored]

/-- No later lookup asks for the schema of a type that has a slot. -/
theorem not_mem_asked_of_slot {registry : Registry} {typeName : String}
    (slot : registry.slots.get? typeName ≠ none) (later : List Lookup) (next : Lookup) :
    typeName ∉ (later.foldl lookUp registry).asked next := by
  -- A lookup asks only for types without a slot.
  intro asked
  have unknown := (asked_spec _ next).2 typeName asked
  -- Slots are kept by all lookups.
  induction later generalizing registry with
  | nil => exact slot unknown
  | cons call later ih =>
    obtain ⟨held, found⟩ := Option.ne_none_iff_exists'.mp slot
    have kept : (registry.lookUp call).slots.get? typeName ≠ none := by
      simp [(lookUp_extends registry call).slots typeName held found]
    exact ih kept asked unknown

/--
Whatever refers to whatever and whatever is published already, a lookup comes to its end.

Its exploration is a recursion of builds inside builds, of which no more lie inside each other, and
no more are begun in all, than there are unpublished types.
Each schema is asked for once at most, and schemas that are not asked for make no difference.
A type that has a slot after the lookup is not asked for its schema in any later one.
-/
theorem lookup_builds_each_once (registry : Registry) (call : Lookup) :
    let unpublished := call.catalog.unpublished registry.slots
    let asked := registry.asked call
    Exploration.meetWithin registry.slots call.catalog unpublished.card {} ⟨call.token, none⟩ =
      some (registry.explore call.catalog call.token) ∧
    (registry.builds call).length ≤ unpublished.card ∧
    asked.Nodup ∧
    (∀ other : Catalog,
      (∀ typeName ∈ asked, other.schema typeName = call.catalog.schema typeName) →
      registry.descriptor other call.token = registry.descriptor call.catalog call.token) ∧
    ∀ typeName, (registry.lookUp call).slots.get? typeName ≠ none →
      ∀ (later : List Lookup) (next : Lookup),
        typeName ∉ (later.foldl lookUp (registry.lookUp call)).asked next := by
  -- The exploration lies within the depth, and what it asks for begins one build at most.
  intro unpublished asked
  obtain ⟨once, unknown⟩ := registry.asked_spec call
  refine ⟨?_, ?_, once, fun _ => descriptor_congr_of_asked, fun typeName slot later next =>
    not_mem_asked_of_slot slot later next⟩
  · -- At first all unpublished types are unfound.
    exact Exploration.meetWithin_eq_explore registry.slots call.catalog ⟨call.token, none⟩
      (Finset.card_filter_le _ _)
  · -- The builds that are begun are of different types, all of them unpublished.
    rw [builds, ← List.toFinset_card_of_nodup (once.filter _)]
    refine Finset.card_le_card fun typeName built => ?_
    obtain ⟨listed, marked⟩ := List.mem_filter.mp (List.mem_toFinset.mp built)
    exact Catalog.mem_unpublished_iff.mpr ⟨marked, unknown typeName listed⟩

/-- A lookup of accounts asks for two schemas, has as many types to build, and would be the same
beside another schema. A later lookup of contacts does not ask for theirs. -/
theorem lookup_builds_each_once_directory :
    let registry : Registry := { config := {} }
    let call : Lookup := ⟨directory, ⟨"Account", .mapped⟩⟩
    let other := directory.define "Note" { name := "Note" }
    registry.asked call = ["Account", "Contact"] ∧
      (call.catalog.unpublished registry.slots).card = 2 ∧
      registry.descriptor other call.token = registry.descriptor directory call.token ∧
      (registry.lookUp call).slots.get? "Contact" ≠ none ∧
      "Contact" ∉ (registry.lookUp call).asked ⟨directory, ⟨"Contact", .mapped⟩⟩ := by
  -- The exploration of the catalog is known, and the theorem says what follows for other lookups.
  intro registry call other
  obtain ⟨-, -, -, unasked, later⟩ := lookup_builds_each_once registry call
  have asked : registry.asked call = ["Account", "Contact"] := by
    simp [registry, call, Registry.asked, published?, explore, explore_directory]
  have slot : (registry.lookUp call).slots.get? "Contact" ≠ none := by
    have published : registry.lookUp call = after {} [call] := rfl
    rw [published, after_directory]
    decide
  refine ⟨asked, by decide, unasked other ?_, slot, later "Contact" slot [] _⟩
  rw [asked]
  decide

end Registry

end RemoteRecords
