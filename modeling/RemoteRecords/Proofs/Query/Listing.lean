import RemoteRecords.Proofs.Query.Interleaving

/-! Listings: published descriptors expand without a fault, to what a plain function says. -/

namespace RemoteRecords

namespace Descriptor

/-- There are four ranks. -/
theorem rank_mem (field : FieldDescriptor) : rank field ∈ [0, 1, 2, 3] := by
  -- Each case of the rank is a number of its own.
  unfold rank
  split
  · simp
  · split
    · simp
    · split <;> simp

/-- Ordering the fields loses none and adds none. -/
theorem mem_orderedFields_iff {descriptor : Descriptor} {field : FieldDescriptor} :
    field ∈ descriptor.orderedFields ↔ field ∈ descriptor.fields := by
  -- Every field has one of the four ranks, so it is among those that are gone through.
  simp only [orderedFields, List.mem_flatMap, List.mem_filter, beq_iff_eq]
  constructor
  · rintro ⟨level, -, declared, -⟩
    exact declared
  · intro declared
    exact ⟨rank field, rank_mem field, declared, rfl⟩

/-- Queries can name the declared fields that hold no metadata. -/
theorem mem_queryFields_iff {descriptor : Descriptor} {field : FieldDescriptor} :
    field ∈ descriptor.queryFields ↔ field ∈ descriptor.fields ∧ field.isAttributes = false := by
  -- Queries leave out metadata and keep the order of what is left.
  rw [queryFields, List.mem_filter, mem_orderedFields_iff, Bool.not_eq_true']

end Descriptor

namespace Expansion

/-- How descriptors are listed below paths. -/
abbrev Lister := Descriptor → String → List SelectItem

/-- Child records are selected if there is anything to be selected of them. -/
def subqueryListing (relation : String) (items : List SelectItem) : List SelectItem :=
  if items = [] then [] else [.subquery items relation]

/-- The alternatives of which anything is listed, by their names. -/
def branchListing (lister : Lister) (alternatives : List Descriptor) :
    List (String × List SelectItem) :=
  (alternatives.map fun alternative => (alternative.name, lister alternative "")).filter
    fun branch => branch.2 ≠ []

/-- A clause stands if it has a branch. -/
def clauseListing (field : String) (branches : List (String × List SelectItem))
    (others : List SelectItem) : List SelectItem :=
  if branches = [] then [] else [.typeOf field branches others]

/-- What is listed of a field, given how the descriptors that it leads to are listed. -/
def fieldListing (registry : Registry) (lister : Lister) (path : String)
    (field : FieldDescriptor) : List SelectItem :=
  match field.kind, registry.related? field with
  | .simple, _ => [.path (path ++ field.name)]
  | .collection, none => [.path (path ++ field.name)]
  | .collection, some element =>
    if path = "" then subqueryListing field.name (lister element "") else []
  | .relationship, related =>
    -- At the root a polymorphic field is listed by its alternatives, elsewhere by its fallback.
    if field.isPolymorphic ∧ path = "" then
      clauseListing field.name
        (branchListing lister (field.alternatives.filterMap registry.get?))
        (related.elim [] (lister · ""))
    else related.elim [] (lister · (path ++ field.name ++ "."))

/-- What is listed of a descriptor within so many levels of records, its own one included. -/
def listing (registry : Registry) : Nat → Lister
  | 0, _, _ => []
  | levels + 1, descriptor, path =>
    descriptor.queryFields.flatMap (fieldListing registry (listing registry levels) path)

variable {registry : Registry} {lister : Lister} {path : String} {field : FieldDescriptor}

section Laws

/-- A simple value is listed by its path. -/
theorem fieldListing_of_simple (simple : field.kind = .simple) :
    fieldListing registry lister path field = [.path (path ++ field.name)] := by
  simp only [fieldListing, simple]

/-- A collection of values is listed by its path. -/
theorem fieldListing_of_values (collection : field.kind = .collection)
    (plain : registry.related? field = none) :
    fieldListing registry lister path field = [.path (path ++ field.name)] := by
  simp only [fieldListing, collection, plain]

/-- A collection of child records is listed at the root only. -/
theorem fieldListing_of_children (collection : field.kind = .collection) {element : Descriptor}
    (leads : registry.related? field = some element) :
    fieldListing registry lister path field =
      if path = "" then subqueryListing field.name (lister element "") else [] := by
  -- Both the kind and the link are known, so one case is left.
  simp only [fieldListing, collection, leads]

/-- A polymorphic field is listed at the root by its alternatives. -/
theorem fieldListing_of_clause (relationship : field.kind = .relationship)
    (polymorphic : field.isPolymorphic = true) :
    fieldListing registry lister "" field = clauseListing field.name
      (branchListing lister (field.alternatives.filterMap registry.get?))
      ((registry.related? field).elim [] (lister · "")) := by
  -- At the root the first of the two cases for relationships holds.
  simp only [fieldListing, relationship, polymorphic, and_self, if_true]

/-- Any other relationship is listed by what it leads to. -/
theorem fieldListing_of_relationship (relationship : field.kind = .relationship)
    (single : ¬ (field.isPolymorphic = true ∧ path = "")) :
    fieldListing registry lister path field =
      (registry.related? field).elim [] (lister · (path ++ field.name ++ ".")) := by
  -- Below a path, or for a field with one target, the link of the field is followed.
  simp only [fieldListing, relationship, if_neg single]

/-- A subquery has something to select. -/
theorem mem_subqueryListing_iff {relation : String} {items : List SelectItem} {item : SelectItem} :
    item ∈ subqueryListing relation items ↔ items ≠ [] ∧ item = .subquery items relation := by
  -- There is one subquery or nothing.
  unfold subqueryListing
  split <;> simp [*]

/-- A clause has a branch. -/
theorem mem_clauseListing_iff {name : String} {branches : List (String × List SelectItem)}
    {others : List SelectItem} {item : SelectItem} :
    item ∈ clauseListing name branches others ↔
      branches ≠ [] ∧ item = .typeOf name branches others := by
  -- There is one clause or nothing.
  unfold clauseListing
  split <;> simp [*]

/-- A branch lists something of an alternative. -/
theorem mem_branchListing_iff {alternatives : List Descriptor}
    {branch : String × List SelectItem} :
    branch ∈ branchListing lister alternatives ↔ ∃ alternative ∈ alternatives,
      branch = (alternative.name, lister alternative "") ∧ lister alternative "" ≠ [] := by
  -- Alternatives are listed one by one, and those without items are left out.
  simp only [branchListing, List.mem_filter, List.mem_map, decide_eq_true_eq]
  constructor
  · rintro ⟨⟨alternative, listed, rfl⟩, filled⟩
    exact ⟨alternative, listed, rfl, filled⟩
  · rintro ⟨alternative, listed, rfl, filled⟩
    exact ⟨⟨alternative, listed, rfl⟩, filled⟩

end Laws

/-- The alternatives of a field are published. -/
theorem mem_arena_of_alternative {alternative : Descriptor}
    (listed : alternative ∈ field.alternatives.filterMap registry.get?) :
    alternative ∈ registry.arena := by
  -- What a number leads to is published.
  obtain ⟨id, -, found⟩ := List.mem_filterMap.mp listed
  exact List.mem_of_getElem? found

/-- How an item comes to be listed of a field. -/
inductive ListedOf (registry : Registry) (lister : Lister) (path : String)
    (field : FieldDescriptor) : SelectItem → Prop where
  /-- The field holds values of the record itself. -/
  | value (held : field.kind = .simple ∨
      field.kind = .collection ∧ registry.related? field = none) :
      ListedOf registry lister path field (.path (path ++ field.name))
  | children {element : Descriptor} (root : path = "") (collection : field.kind = .collection)
      (leads : registry.related? field = some element) (filled : lister element "" ≠ []) :
      ListedOf registry lister path field (.subquery (lister element "") field.name)
  /-- The fallback lists nothing if there is none. -/
  | clause {branches : List (String × List SelectItem)} {others : List SelectItem}
      (root : path = "") (polymorphic : field.isPolymorphic = true) (some : branches ≠ [])
      (alternatives : ∀ branch ∈ branches, ∃ alternative ∈ registry.arena,
        branch = (alternative.name, lister alternative "") ∧ lister alternative "" ≠ [])
      (fallback : others ≠ [] → ∃ next ∈ registry.arena, others = lister next "") :
      ListedOf registry lister path field (.typeOf field.name branches others)
  /-- The item is one of the record that the field leads to. -/
  | behind {next : Descriptor} {item : SelectItem} (relationship : field.kind = .relationship)
      (leads : registry.related? field = some next)
      (listed : item ∈ lister next (path ++ field.name ++ ".")) :
      ListedOf registry lister path field item

/-- Whatever is listed of a field comes to be so in one of these ways. -/
theorem listedOf_of_mem {item : SelectItem}
    (listed : item ∈ fieldListing registry lister path field) :
    ListedOf registry lister path field item := by
  -- The kind of the field, what it leads to and the path tell which way it is.
  cases kind : field.kind with
  | simple =>
    rw [fieldListing_of_simple kind, List.mem_singleton] at listed
    exact listed ▸ .value (.inl kind)
  | collection =>
    cases leads : registry.related? field with
    | none =>
      rw [fieldListing_of_values kind leads, List.mem_singleton] at listed
      exact listed ▸ .value (.inr ⟨kind, leads⟩)
    | some element =>
      rw [fieldListing_of_children kind leads] at listed
      split at listed
      · rename_i root
        obtain ⟨filled, rfl⟩ := mem_subqueryListing_iff.mp listed
        exact .children root kind leads filled
      · cases listed
  | relationship =>
    by_cases clause : field.isPolymorphic = true ∧ path = ""
    · obtain ⟨polymorphic, rfl⟩ := clause
      rw [fieldListing_of_clause kind polymorphic] at listed
      obtain ⟨some, rfl⟩ := mem_clauseListing_iff.mp listed
      refine .clause rfl polymorphic some (fun branch held => ?_) (fun filled => ?_)
      · -- The alternatives are published, since links to nowhere are left out.
        obtain ⟨alternative, among, same, filled⟩ := mem_branchListing_iff.mp held
        exact ⟨alternative, mem_arena_of_alternative among, same, filled⟩
      · -- The fallback lists something only where there is one.
        cases leads : registry.related? field with
        | none => simp [leads] at filled
        | some next => exact ⟨next, Registry.mem_arena_of_related? leads, rfl⟩
    · rw [fieldListing_of_relationship kind clause] at listed
      cases leads : registry.related? field with
      | none => simp [leads] at listed
      | some next =>
        rw [leads] at listed
        exact .behind kind leads listed

/-- A way of expanding one level deeper gives what a lister lists of published descriptors. At depth
zero that is nothing. -/
def Lists (registry : Registry) (lister : Lister) : Deeper (Except QueryFault) → Prop
  | none => ∀ descriptor path, lister descriptor path = []
  | some deeper => ∀ descriptor ∈ registry.arena, ∀ path,
      deeper descriptor path = pure (lister descriptor path)

/-- All links of a field lead to published descriptors. -/
def Led (registry : Registry) (field : FieldDescriptor) : Prop :=
  (∀ id, field.related = some id → ∃ target, registry.get? id = some target) ∧
    ∀ id ∈ field.alternatives, ∃ target, registry.get? id = some target

/-- A field whose links are published leads nowhere or to a published descriptor. -/
theorem Led.cases (led : Led registry field) :
    (field.related = none ∧ registry.related? field = none) ∨
      ∃ id, ∃ target ∈ registry.arena, field.related = some id ∧
        registry.get? id = some target ∧ registry.related? field = some target := by
  -- The field has a link or has none, and a link that it has leads somewhere.
  unfold Registry.related?
  cases related : field.related with
  | none => exact .inl ⟨rfl, rfl⟩
  | some id =>
    obtain ⟨target, found⟩ := led.1 id related
    exact .inr ⟨id, target, List.mem_of_getElem? found, rfl, found, found⟩

/-- Branches of published alternatives are those that are listed. -/
theorem branches_eq_listing {deeper : Descriptor → String → Except QueryFault (List SelectItem)}
    (lists : Lists registry lister (some deeper)) (field : FieldDescriptor)
    {ids : List DescriptorId} (led : ∀ id ∈ ids, ∃ target, registry.get? id = some target) :
    branches registry deeper field ids =
      pure (branchListing lister (ids.filterMap registry.get?)) := by
  -- The induction is on the alternatives, each of which is found and expanded.
  induction ids with
  | nil => rfl
  | cons id rest ih =>
    obtain ⟨alternative, found⟩ := led id List.mem_cons_self
    have others := ih fun other listed => led other (List.mem_cons_of_mem _ listed)
    simp only [branches, target_of_get? field found, pure_bind,
      lists alternative (List.mem_of_getElem? found), others, List.filterMap_cons, found]
    -- An alternative of which nothing is listed has no branch.
    by_cases empty : lister alternative "" = []
    · simp [branchListing, empty]
    · simp [branchListing, empty]

/-- The clause of a field with published alternatives is what is listed of it at the root. -/
theorem typeOf_eq_listing {deeper : Descriptor → String → Except QueryFault (List SelectItem)}
    (lists : Lists registry lister (some deeper)) (led : Led registry field) :
    typeOf registry deeper field = pure (clauseListing field.name
      (branchListing lister (field.alternatives.filterMap registry.get?))
      ((registry.related? field).elim [] (lister · ""))) := by
  -- The branches are those that are listed, and then the fallback is looked at.
  rw [typeOf, branches_eq_listing lists field led.2, pure_bind]
  -- The fallback is published like the alternatives.
  rcases led.cases with ⟨related, nowhere⟩ | ⟨id, fallback, listed, related, found, leads⟩
  · simp [related, nowhere, clauseListing]
  · simp only [related, target_of_get? field found, pure_bind, leads, lists fallback listed,
      Option.elim_some]
    simp [clauseListing]

/-- A field whose links are published expands to what is listed of it. -/
theorem fieldItems_eq_listing {deeper : Deeper (Except QueryFault)}
    (lists : Lists registry lister deeper) (path : String) (led : Led registry field) :
    fieldItems registry deeper path field = pure (fieldListing registry lister path field) := by
  -- Both are by kind; where a link is followed, it leads to a descriptor that is listed.
  unfold fieldItems
  cases kind : field.kind with
  | simple => rw [fieldListing_of_simple kind]
  | collection =>
    rcases led.cases with ⟨related, nowhere⟩ | ⟨id, element, listed, related, found, leads⟩
    · rw [fieldListing_of_values kind nowhere]
      simp [FieldDescriptor.isChild, kind, related]
    · have child : field.isChild = true := by simp [FieldDescriptor.isChild, kind, related]
      rw [fieldListing_of_children kind leads]
      by_cases root : path = ""
      · subst root
        -- At depth zero nothing is selected, so there is no subquery either.
        cases deeper with
        | none => simp [child, lists element "", subqueryListing]
        | some deeper =>
          simp only [child, related, target_of_get? field found, pure_bind, lists element listed]
          simp [subqueryListing]
      · simp [child, root]
  | relationship =>
    by_cases clause : field.isPolymorphic = true ∧ path = ""
    · obtain ⟨polymorphic, rfl⟩ := clause
      rw [fieldListing_of_clause kind polymorphic]
      cases deeper with
      | none =>
        -- Without a branch there is no clause.
        have none : ∀ alternatives, branchListing lister alternatives = [] := by
          intro alternatives
          simp [branchListing, lists _ ""]
        simp [clauseListing, none]
      | some deeper => simp [polymorphic, typeOf_eq_listing lists led]
    · rw [fieldListing_of_relationship kind clause]
      cases deeper with
      | none => cases registry.related? field <;> simp [lists _ _]
      | some deeper =>
        have single : (field.isPolymorphic && path.isEmpty) = false := by simpa using clause
        rcases led.cases with ⟨related, nowhere⟩ | ⟨id, next, listed, related, found, leads⟩
        · simp [single, related, nowhere]
        · simp [single, related, leads, target_of_get? field found, lists next listed]

/-- Fields whose links are published expand to what is listed of them, one after another. -/
theorem itemsOf_eq_listing {deeper : Deeper (Except QueryFault)}
    (lists : Lists registry lister deeper) (path : String) {fields : List FieldDescriptor}
    (led : ∀ field ∈ fields, Led registry field) :
    itemsOf registry deeper path fields =
      pure (fields.flatMap (fieldListing registry lister path)) := by
  -- The induction is on the fields, none of which fails.
  induction fields with
  | nil => rfl
  | cons field rest ih =>
    have others := ih fun other listed => led other (List.mem_cons_of_mem _ listed)
    rw [itemsOf, fieldItems_eq_listing lists path (led field List.mem_cons_self), others, pure_bind,
      pure_bind, List.flatMap_cons]

/-- A published descriptor expands without a fault. At depth zero its own fields are listed, and
each level of depth is one level of records more. -/
theorem selectList_eq_listing (closed : registry.Closed) (depth : Nat) :
    ∀ descriptor ∈ registry.arena, ∀ path,
      selectList registry depth descriptor path =
        .ok (listing registry (depth + 1) descriptor path) := by
  have led : ∀ descriptor ∈ registry.arena, ∀ field ∈ descriptor.queryFields,
      Led registry field := by
    intro descriptor published field queried
    exact closed descriptor published field (Descriptor.mem_queryFields_iff.mp queried).1
  -- The induction is on the depth, since links may well lead round in circles.
  induction depth with
  | zero =>
    intro descriptor published path
    have nothing : Lists registry (listing registry 0) none := fun _ _ => rfl
    exact itemsOf_eq_listing nothing path (led descriptor published)
  | succ depth ih =>
    intro descriptor published path
    have deeper : Lists registry (listing registry (depth + 1))
        (some (selectList registry depth)) := ih
    exact itemsOf_eq_listing deeper path (led descriptor published)

end Expansion

namespace Mapper

open Relation

/-- However a mapper was used, the fields of a published descriptor are listed without a fault. -/
theorem run_fieldList_of_used {config : MappingConfig} {mapper : Mapper}
    (used : ReflTransGen Step (ofConfig config) mapper) {descriptor : Descriptor}
    (published : descriptor ∈ mapper.registry.arena) (path : String) (depth : Nat) :
    Expansion.selectList mapper.registry depth descriptor path =
        .ok (Expansion.listing mapper.registry (depth + 1) descriptor path) ∧
      ((fieldList descriptor path depth).run.run mapper).1 =
        .ok (SelectItem.listText
          (Expansion.listing mapper.registry (depth + 1) descriptor path)) := by
  -- The registry of a sound mapper is closed, so expansion does not fail there.
  have sound := (steps_sound (sound_ofConfig config) used).1
  have expanded := Expansion.selectList_eq_listing sound.closed depth descriptor published path
  refine ⟨expanded, ?_⟩
  -- What was expanded before makes no difference.
  rw [(run_fieldList_of_published sound published path depth).1, expanded]
  rfl

/-- A mapper that has looked up the accounts of the directory. -/
def ofDirectory : Mapper :=
  ((Mapper.descriptor Registry.directory ⟨"Account", .mapped⟩).run.run (ofConfig {})).2

/-- It was used once. -/
theorem used_ofDirectory : ReflTransGen Step (ofConfig {}) ofDirectory :=
  .single (.descriptor _ _ _)

/-- Its registry is that of the lookup. -/
theorem registry_ofDirectory : ofDirectory.registry =
    Registry.after {} [⟨Registry.directory, ⟨"Account", .mapped⟩⟩] := rfl

end Mapper

end RemoteRecords
