import RemoteRecords.Proofs.Registry.Exploration

/-! Depth first: an exploration visits a type before what its fields name, and each type once. -/

namespace RemoteRecords

/-- The tokens in the fields of a schema, in the order in which they are resolved. -/
def RecordSchema.targets (schema : RecordSchema) : List TypeRef :=
  schema.fields.flatMap (·.targets)

/-- A schema demands the types that its fields name, in the same order. -/
theorem RecordSchema.map_token_demands (schema : RecordSchema) :
    schema.demands.map (·.token) = schema.targets := by
  -- Field by field, a demand is made of each token, whether or not a descriptor is required.
  have each : ∀ field : FieldSchema, (field.demands schema.name).map (·.token) = field.targets := by
    intro field
    unfold FieldSchema.demands
    split
    · rename_i element shape
      simp [FieldSchema.targets, shape]
    · rw [List.map_map]
      exact List.map_id _
  simp only [demands, targets, List.map_flatMap, each]

/-- A token names a type that gets a descriptor: as a mapped one that is marked as mapped. -/
def Catalog.admits (catalog : Catalog) (token : TypeRef) : Bool :=
  token.kind == .mapped && (catalog.schema token.typeName).mapped

namespace Exploration

/-- A type is met already if the registry knows it or one of the visits was to it. -/
def Met (known : Dict Slot) (visited : List TypeRef) (typeName : String) : Prop :=
  known.get? typeName ≠ none ∨ typeName ∈ visited.map (·.typeName)

/-- A depth-first walk over tokens, and its first visits in their order. A type that is met already
is passed over. A type without a descriptor is visited by itself. A type with one is visited before
the types that its own fields name, and these are visited before the walk goes on. -/
inductive DepthFirst (known : Dict Slot) (catalog : Catalog) :
    List TypeRef → List TypeRef → List TypeRef → Prop where
  | nil {visited : List TypeRef} : DepthFirst known catalog visited [] []
  | again {visited visits rest : List TypeRef} {token : TypeRef}
      (met : Met known visited token.typeName)
      (behind : DepthFirst known catalog visited rest visits) :
      DepthFirst known catalog visited (token :: rest) visits
  | plain {visited visits rest : List TypeRef} {token : TypeRef}
      (unmet : ¬ Met known visited token.typeName) (refused : catalog.admits token = false)
      (behind : DepthFirst known catalog (visited ++ [token]) rest visits) :
      DepthFirst known catalog visited (token :: rest) (token :: visits)
  | described {visited below visits rest : List TypeRef} {token : TypeRef}
      (unmet : ¬ Met known visited token.typeName) (admitted : catalog.admits token = true)
      (inside : DepthFirst known catalog (visited ++ [token])
        (catalog.schema token.typeName).targets below)
      (behind : DepthFirst known catalog (visited ++ token :: below) rest visits) :
      DepthFirst known catalog visited (token :: rest) (token :: (below ++ visits))

variable {known : Dict Slot} {catalog : Catalog} {visited tokens visits : List TypeRef}

/-- What was met stays met while visits are added. -/
theorem Met.append {typeName : String} (met : Met known visited typeName)
    (more : List TypeRef) : Met known (visited ++ more) typeName := by
  -- What the registry knows it knows still, and visits are not taken back.
  rcases met with held | listed
  · exact .inl held
  · exact .inr (by simpa using .inl (by simpa using listed))

/-- A walk over two lists is a walk over the first and then one over the second. -/
theorem DepthFirst.split {first second : List TypeRef}
    (walk : DepthFirst known catalog visited (first ++ second) visits) :
    ∃ ahead behind, visits = ahead ++ behind ∧ DepthFirst known catalog visited first ahead ∧
      DepthFirst known catalog (visited ++ ahead) second behind := by
  -- The induction follows the walk until the first list is used up.
  generalize whole : first ++ second = tokens at walk
  induction walk generalizing first with
  | nil =>
    -- Both lists are empty, and so are their walks.
    obtain ⟨rfl, rfl⟩ := List.append_eq_nil_iff.mp whole
    exact ⟨[], [], rfl, .nil, .nil⟩
  | @again visited visits rest token met behind ih =>
    -- With the first list used up, the whole walk is one over the second list.
    cases first with
    | nil =>
      rw [List.nil_append] at whole
      subst whole
      exact ⟨[], visits, rfl, .nil, by simpa using .again met behind⟩
    | cons head tail =>
      obtain ⟨rfl, tailed⟩ := List.cons.inj whole
      obtain ⟨ahead, others, rfl, before, after⟩ := ih tailed
      exact ⟨ahead, others, rfl, .again met before, after⟩
  | @plain visited visits rest token unmet refused behind ih =>
    cases first with
    | nil =>
      rw [List.nil_append] at whole
      subst whole
      exact ⟨[], token :: visits, rfl, .nil, by simpa using .plain unmet refused behind⟩
    | cons head tail =>
      obtain ⟨rfl, tailed⟩ := List.cons.inj whole
      obtain ⟨ahead, others, rfl, before, after⟩ := ih tailed
      exact ⟨head :: ahead, others, rfl, .plain unmet refused before, by simpa using after⟩
  | @described visited below visits rest token unmet admitted inside behind _ ih =>
    cases first with
    | nil =>
      rw [List.nil_append] at whole
      subst whole
      exact ⟨[], token :: (below ++ visits), rfl, .nil,
        by simpa using .described unmet admitted inside behind⟩
    | cons head tail =>
      obtain ⟨rfl, tailed⟩ := List.cons.inj whole
      -- The visits below the type belong to the first list as the type itself does.
      obtain ⟨ahead, others, rfl, before, after⟩ := ih tailed
      exact ⟨head :: (below ++ ahead), others, by simp,
        .described unmet admitted inside before, by simpa using after⟩

/-- No walk visits a type that was met before, and none visits a type twice. -/
theorem DepthFirst.fresh (walk : DepthFirst known catalog visited tokens visits) :
    (visits.map (·.typeName)).Nodup ∧ ∀ visit ∈ visits, ¬ Met known visited visit.typeName := by
  -- The induction is on the walk, and each visit makes its type met for all that come after it.
  induction walk with
  | nil => simp
  | again met behind ih =>
    -- A type that is passed over is not visited.
    exact ih
  | @plain visited visits rest token unmet refused behind ih =>
    obtain ⟨once, unmet'⟩ := ih
    constructor
    · refine List.nodup_cons.mpr ⟨fun again => ?_, once⟩
      -- A later visit to the type would be one to a type that is met.
      obtain ⟨visit, listed, same⟩ := List.mem_map.mp again
      exact unmet' visit listed (.inr (by simp [same]))
    · intro visit listed
      rcases List.mem_cons.mp listed with rfl | later
      · exact unmet
      · exact fun met => unmet' visit later (met.append _)
  | @described visited below visits rest token unmet admitted inside behind ihInside ihBehind =>
    obtain ⟨onceInside, unmetInside⟩ := ihInside
    obtain ⟨onceBehind, unmetBehind⟩ := ihBehind
    constructor
    · rw [List.map_cons, List.map_append, List.nodup_cons, List.nodup_append]
      refine ⟨fun again => ?_, onceInside, onceBehind, ?_⟩
      · -- The type is met both below it and behind it.
        rcases List.mem_append.mp again with again | again
        · obtain ⟨visit, listed, same⟩ := List.mem_map.mp again
          exact unmetInside visit listed (.inr (by simp [same]))
        · obtain ⟨visit, listed, same⟩ := List.mem_map.mp again
          exact unmetBehind visit listed (.inr (by simp [same]))
      · -- What was visited below the type is met when the walk goes on.
        rintro left inner right outer rfl
        obtain ⟨visit, listed, same⟩ := List.mem_map.mp outer
        refine unmetBehind visit listed (.inr ?_)
        rw [same, List.map_append, List.map_cons]
        exact List.mem_append_right _ (List.mem_cons_of_mem _ inner)
    · intro visit listed
      rcases List.mem_cons.mp listed with rfl | later
      · exact unmet
      · rcases List.mem_append.mp later with inner | outer
        · exact fun met => unmetInside visit inner (met.append _)
        · exact fun met => unmetBehind visit outer (met.append _)

/-- Once a walk is over, all its tokens name types that are met, and so do the fields of every type
that it found to have a descriptor. -/
theorem DepthFirst.closed (walk : DepthFirst known catalog visited tokens visits) :
    (∀ token ∈ tokens, Met known (visited ++ visits) token.typeName) ∧
      ∀ visit ∈ visits, catalog.admits visit = true →
        ∀ target ∈ (catalog.schema visit.typeName).targets,
          Met known (visited ++ visits) target.typeName := by
  -- The induction is on the walk, and what is met at one time stays met while visits are added.
  induction walk with
  | nil => simp
  | @again visited visits rest token met behind ih =>
    refine ⟨fun other listed => ?_, ih.2⟩
    rcases List.mem_cons.mp listed with rfl | later
    · exact met.append _
    · exact ih.1 other later
  | @plain visited visits rest token unmet refused behind ih =>
    -- The type has no descriptor, so that its fields are not asked for.
    rw [List.append_assoc, List.singleton_append] at ih
    constructor
    · intro other listed
      rcases List.mem_cons.mp listed with rfl | later
      · exact .inr (by simp)
      · exact ih.1 other later
    · intro visit listed admitted
      rcases List.mem_cons.mp listed with rfl | later
      · simp [refused] at admitted
      · exact ih.2 visit later admitted
  | @described visited below visits rest token unmet admitted inside behind ihInside ihBehind =>
    rw [List.append_assoc, List.cons_append] at ihBehind
    -- What is met below the type is still met when the whole walk is over.
    have inner : ∀ {typeName : String}, Met known (visited ++ [token] ++ below) typeName →
        Met known (visited ++ token :: (below ++ visits)) typeName := by
      intro typeName met
      simpa using met.append visits
    constructor
    · intro other listed
      rcases List.mem_cons.mp listed with rfl | later
      · exact .inr (by simp)
      · exact ihBehind.1 other later
    · intro visit listed admitted' target named
      rcases List.mem_cons.mp listed with rfl | later
      · exact inner (ihInside.1 target named)
      · rcases List.mem_append.mp later with below | after
        · exact inner (ihInside.2 visit below admitted' target named)
        · exact ihBehind.2 visit after admitted' target named

/-- Every visit is reached from a token of the walk, by following the fields of types that were
visited and have descriptors. -/
theorem DepthFirst.reached {step : String → String → Prop}
    (walk : DepthFirst known catalog visited tokens visits)
    (follows : ∀ visit ∈ visits, catalog.admits visit = true →
      ∀ target ∈ (catalog.schema visit.typeName).targets, step visit.typeName target.typeName) :
    ∀ visit ∈ visits, ∃ token ∈ tokens,
      Relation.ReflTransGen step token.typeName visit.typeName := by
  -- The induction is on the walk: tokens reach themselves, and fields are one step from their type.
  induction walk with
  | nil => simp
  | again met behind ih =>
    intro visit listed
    obtain ⟨token, held, reached⟩ := ih follows visit listed
    exact ⟨token, List.mem_cons_of_mem _ held, reached⟩
  | @plain visited visits rest token unmet refused behind ih =>
    intro visit listed
    rcases List.mem_cons.mp listed with rfl | later
    · exact ⟨visit, List.mem_cons_self, .refl⟩
    · obtain ⟨other, held, reached⟩ :=
        ih (fun visit among => follows visit (List.mem_cons_of_mem _ among)) visit later
      exact ⟨other, List.mem_cons_of_mem _ held, reached⟩
  | @described visited below visits rest token unmet admitted inside behind ihInside ihBehind =>
    intro visit listed
    rcases List.mem_cons.mp listed with rfl | later
    · exact ⟨visit, List.mem_cons_self, .refl⟩
    · rcases List.mem_append.mp later with inner | outer
      · -- The visit is reached from a field of the type, which is one step further.
        obtain ⟨target, named, reached⟩ := ihInside (fun visit among =>
          follows visit (List.mem_cons_of_mem _ (List.mem_append_left _ among))) visit inner
        exact ⟨token, List.mem_cons_self,
          .head (follows token List.mem_cons_self admitted target named) reached⟩
      · obtain ⟨other, held, reached⟩ := ihBehind (fun visit among =>
          follows visit (List.mem_cons_of_mem _ (List.mem_append_right _ among))) visit outer
        exact ⟨other, List.mem_cons_of_mem _ held, reached⟩

/-- An exploration holds what was visited: the types with descriptors and those without, each in the
order of the visits. -/
structure Holds (catalog : Catalog) (seen : Exploration) (visited : List TypeRef) : Prop where
  found : seen.found.map Prod.fst = visited.filter catalog.admits
  ineligible : seen.ineligible = (visited.filter fun token => !catalog.admits token).map (·.typeName)

/-- A type was visited if it was found or refused. -/
theorem Holds.mem_iff {seen : Exploration} {visited : List TypeRef}
    (holds : Holds catalog seen visited) (typeName : String) :
    typeName ∈ visited.map (·.typeName) ↔
      typeName ∈ seen.foundNames ∨ typeName ∈ seen.ineligible := by
  -- A visit is found or refused by whether the catalog admits it.
  have names : seen.foundNames = (visited.filter catalog.admits).map (·.typeName) := by
    rw [← holds.found, List.map_map]
    rfl
  rw [names, holds.ineligible]
  simp only [List.mem_map, List.mem_filter]
  constructor
  · rintro ⟨token, listed, rfl⟩
    -- Every token is admitted or not.
    cases admitted : catalog.admits token with
    | true => exact .inl ⟨token, ⟨listed, admitted⟩, rfl⟩
    | false => exact .inr ⟨token, ⟨listed, by simp [admitted]⟩, rfl⟩
  · rintro (⟨token, ⟨listed, -⟩, rfl⟩ | ⟨token, ⟨listed, -⟩, rfl⟩)
    · exact ⟨token, listed, rfl⟩
    · exact ⟨token, listed, rfl⟩

/-- A type has a verdict exactly if it is met. -/
theorem Holds.met_iff {seen : Exploration} {visited : List TypeRef}
    (holds : Holds catalog seen visited) (typeName : String) :
    Met known visited typeName ↔ verdict? known seen typeName ≠ none := by
  -- A type without a verdict is on none of the three records that make it met.
  rw [Met, holds.mem_iff, ne_eq, ne_eq, verdict?_eq_none_iff]
  grind

/-- Inspection returns a schema exactly for a token that is admitted. -/
theorem admits_eq_isSome_inspect (token : TypeRef) (seen : Exploration) :
    catalog.admits token = (seen.inspect catalog token).1.isSome := by
  -- Inspection reads a schema and its mark just as admission does.
  unfold Catalog.admits inspect
  by_cases presented : token.kind = .mapped
  · cases marked : (catalog.schema token.typeName).mapped <;> simp [presented, marked]
  · simp [presented]

/-- A refused token is held behind those before it. -/
theorem Holds.refuse {seen after : Exploration} {visited : List TypeRef} {token : TypeRef}
    (holds : Holds catalog seen visited)
    (inspected : seen.inspect catalog token = (none, after)) :
    Holds catalog after (visited ++ [token]) := by
  -- The catalog does not admit the token, which goes to the refused ones.
  have refused : catalog.admits token = false := by
    rw [admits_eq_isSome_inspect token seen, inspected]
    rfl
  obtain ⟨-, found, ineligible⟩ := inspect_eq_none inspected
  constructor
  · simp [found, holds.found, refused]
  · simp [ineligible, holds.ineligible, refused]

/-- A token that is to be described is held behind those before it. -/
theorem Holds.describe {seen after : Exploration} {visited : List TypeRef} {token : TypeRef}
    {schema : RecordSchema} (holds : Holds catalog seen visited)
    (inspected : seen.inspect catalog token = (some schema, after)) :
    Holds catalog (after.describe token schema) (visited ++ [token]) := by
  -- The catalog admits the token, which goes to the found ones.
  have admitted : catalog.admits token = true := by
    rw [admits_eq_isSome_inspect token seen, inspected]
    rfl
  obtain ⟨-, -, -, found, ineligible⟩ := inspect_eq_some inspected
  constructor
  · simp [Exploration.describe, found, holds.found, admitted]
  · simp [Exploration.describe, ineligible, holds.ineligible, admitted]

/-- An exploration without an obstacle is a depth-first walk over the tokens that are demanded. -/
theorem depthFirst_of_explore {seen final : Exploration} {demands : List Demand}
    (finished : explore known catalog seen demands = (final, none)) {visited : List TypeRef}
    (holds : Holds catalog seen visited) :
    ∃ visits, DepthFirst known catalog visited (demands.map (·.token)) visits ∧
      Holds catalog final (visited ++ visits) := by
  -- The worker keeps one list of demands, in which those of a type stand before what follows it.
  fun_induction explore known catalog seen demands generalizing visited with
  | case1 seen =>
    cases finished
    exact ⟨[], .nil, by simpa using holds⟩
  | case2 seen demand rest met ih =>
    obtain ⟨visits, walk, held⟩ := ih finished holds
    exact ⟨visits, .again ((holds.met_iff _).mpr (by simp [met])) walk, held⟩
  | case3 =>
    -- An obstacle would have ended the exploration.
    cases finished
  | case4 seen demand rest met optional ih =>
    obtain ⟨visits, walk, held⟩ := ih finished holds
    exact ⟨visits, .again ((holds.met_iff _).mpr (by simp [met])) walk, held⟩
  | case5 => cases finished
  | case6 seen demand rest unmet after inspected optional ih =>
    obtain ⟨visits, walk, held⟩ := ih finished (holds.refuse inspected)
    refine ⟨demand.token :: visits, .plain ?_ ?_ walk, by simpa using held⟩
    · -- The type had no verdict, and inspection returns no schema.
      rw [holds.met_iff]
      simp [unmet]
    · rw [admits_eq_isSome_inspect _ seen, inspected]
      rfl
  | case7 => cases finished
  | case8 seen demand rest unmet schema after inspected valid ih =>
    obtain ⟨visits, walk, held⟩ := ih finished (holds.describe inspected)
    -- The walk over the one list is cut where the demands of the type end.
    rw [List.map_append, schema.map_token_demands] at walk
    obtain ⟨below, behind, rfl, inside, others⟩ := walk.split
    have onRecord := (inspect_eq_some inspected).1
    refine ⟨demand.token :: (below ++ behind), .described ?_ ?_ ?_ ?_, by simpa using held⟩
    · -- The type had no verdict, and inspection returns its schema.
      rw [holds.met_iff]
      simp [unmet]
    · rw [admits_eq_isSome_inspect _ seen, inspected]
      rfl
    · exact onRecord ▸ inside
    · simpa using others

end Exploration

end RemoteRecords
