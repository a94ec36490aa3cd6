import RemoteRecords.Proofs.Query.Chains
import RemoteRecords.Proofs.Query.Grammar

/-! Clauses: when a subquery stands inside a clause, and where every other one stands. -/

namespace RemoteRecords

/-- A parenthesis stands in a text. Of all items only subqueries have one of their own. -/
def HasParen (text : String) : Prop :=
  '(' ∈ text.toList

instance (text : String) : Decidable (HasParen text) :=
  inferInstanceAs (Decidable (_ ∈ _))

/-- A parenthesis stands in two texts together if it does in one of them. -/
theorem hasParen_append (left right : String) :
    HasParen (left ++ right) ↔ HasParen left ∨ HasParen right := by
  -- Each character stands in one of the two.
  simp [HasParen]

/-- A parenthesis stands in joined texts if it does in one of them. -/
theorem hasParen_join (texts : List String) :
    HasParen (String.join texts) ↔ ∃ text ∈ texts, HasParen text := by
  -- Each character stands in one of the texts.
  simp [HasParen]

/-- No parenthesis stands in an identifier. -/
theorem Identifier.not_hasParen {name : String} (named : Identifier name) : ¬ HasParen name :=
  -- A parenthesis is no character of names.
  named.not_mem (by decide)

namespace SelectItem

/-- An item stands in a list, or in that of a subquery which does. None stands inside a clause. -/
inductive Stands (items : List SelectItem) : SelectItem → Prop where
  | listed {item : SelectItem} (listed : item ∈ items) : Stands items item
  | selected {inner : List SelectItem} {relation : String} {item : SelectItem}
      (outer : Stands items (.subquery inner relation)) (listed : item ∈ inner) : Stands items item

/-- A parenthesis stands in a list if it does in an item. -/
theorem hasParen_listText (items : List SelectItem) :
    HasParen (listText items) ↔ ∃ item ∈ items, HasParen item.text := by
  rw [listText, texts_eq_map]
  -- The commas between the items are no parentheses.
  induction items with
  | nil => simp [HasParen]
  | cons item rest ih =>
    cases rest with
    | nil => simp
    | cons second others =>
      have comma : ¬ HasParen "," := by decide
      rw [List.map_cons] at ih ⊢
      rw [List.map_cons, String.intercalate_cons_cons, hasParen_append, hasParen_append, ih]
      simp [comma]

/-- A parenthesis stands in a subquery. -/
theorem hasParen_subquery (items : List SelectItem) (relation : String) :
    HasParen (SelectItem.subquery items relation).text := by
  -- The text begins with one.
  simp [text, HasParen]

/-- A parenthesis stands in a clause if it does in a name or in a list inside. -/
theorem hasParen_typeOf {field : String} {branches : List (String × List SelectItem)}
    (filled : branches ≠ []) (others : List SelectItem) :
    HasParen (SelectItem.typeOf field branches others).text ↔
      HasParen field ∨ (∃ branch ∈ branches, HasParen branch.1 ∨ HasParen (listText branch.2)) ∨
        HasParen (listText others) := by
  -- The words of a clause have none, so it comes from what stands between them.
  have words : ¬ HasParen "TYPEOF " ∧ ¬ HasParen " WHEN " ∧ ¬ HasParen " THEN " ∧
      ¬ HasParen " ELSE " ∧ ¬ HasParen " END" := by decide
  have last : HasParen (if others = [] then "" else " ELSE " ++ listText others) ↔
      HasParen (listText others) := by
    split
    · rename_i none
      rw [none]
      rfl
    · simp [hasParen_append, words]
  rw [Expansion.text_typeOf filled]
  simp [hasParen_append, hasParen_join, last, words, branchText, or_assoc]

end SelectItem

namespace Expansion

open SelectItem Relation

/-- A field of child records has a subquery for the type of its elements, within so many levels. -/
structure SelectsFrom (registry : Registry) (levels : Nat) (field : FieldDescriptor)
    (element : Descriptor) : Prop where
  collection : field.kind = .collection
  leads : registry.related? field = some element
  filled : listing registry levels element "" ≠ []

/-- A polymorphic field has a branch for a type within so many levels: for an alternative of which
anything is listed, or behind such a branch for its fallback. -/
inductive BranchesTo (registry : Registry) (levels : Nat) (field : FieldDescriptor) :
    Descriptor → Prop where
  | alternative {id : DescriptorId} {target : Descriptor} (relationship : field.kind = .relationship)
      (among : id ∈ field.alternatives) (found : registry.get? id = some target)
      (filled : listing registry levels target "" ≠ []) : BranchesTo registry levels field target
  | fallback {other target : Descriptor} (behind : BranchesTo registry levels field other)
      (leads : registry.related? field = some target)
      (filled : listing registry levels target "" ≠ []) : BranchesTo registry levels field target

/-- A type within so many levels, and one for which a subquery opens in its list. -/
inductive Selects (registry : Registry) : Nat × Descriptor → Nat × Descriptor → Prop where
  | child {levels : Nat} {owner element : Descriptor} {field : FieldDescriptor}
      (queried : field ∈ owner.queryFields) (selects : SelectsFrom registry levels field element) :
      Selects registry (levels + 1, owner) (levels, element)

/-- A type within so many levels, and one for which a clause in its list has a branch. -/
inductive Branches (registry : Registry) : Nat × Descriptor → Nat × Descriptor → Prop where
  | clause {levels : Nat} {owner target : Descriptor} {field : FieldDescriptor}
      (queried : field ∈ owner.queryFields) (branches : BranchesTo registry levels field target) :
      Branches registry (levels + 1, owner) (levels, target)

variable {registry : Registry} {levels : Nat} {field : FieldDescriptor}

/-- What has a branch is published. -/
theorem BranchesTo.published {target : Descriptor}
    (branches : BranchesTo registry levels field target) : target ∈ registry.arena := by
  -- An alternative is found by its number and a fallback by a link, both in the registry.
  cases branches with
  | alternative _ _ found => exact List.mem_of_getElem? found
  | fallback _ leads => exact Registry.mem_arena_of_related? leads

/-- The subqueries of a field at the root are those for its elements. -/
theorem subquery_mem_fieldListing_iff {inner : List SelectItem} {relation : String} :
    .subquery inner relation ∈ fieldListing registry (listing registry levels) "" field ↔
      ∃ element, SelectsFrom registry levels field element ∧
        inner = listing registry levels element "" ∧ relation = field.name := by
  -- Whatever is listed of a field came to be so in one of four ways, of which one is a subquery.
  constructor
  · intro listed
    cases listedOf_of_mem listed with
    | children _ collection leads filled => exact ⟨_, ⟨collection, leads, filled⟩, rfl, rfl⟩
    | behind _ _ listed =>
      -- Behind a relationship there are paths only.
      have below : "" ++ field.name ++ "." ≠ "" := by simp
      obtain ⟨text, same⟩ := exists_path_of_mem_listing below listed
      cases same
  · rintro ⟨element, ⟨collection, leads, filled⟩, rfl, rfl⟩
    rw [fieldListing_of_children collection leads, if_pos rfl]
    exact mem_subqueryListing_iff.mpr ⟨filled, rfl⟩

/-- A field with a branch has alternatives. -/
theorem isPolymorphic_of_filled {lister : Lister}
    (filled : branchListing lister (field.alternatives.filterMap registry.get?) ≠ []) :
    field.isPolymorphic = true := by
  -- A branch is that of an alternative, so there is one.
  rw [FieldDescriptor.isPolymorphic, Bool.not_eq_true', List.isEmpty_eq_false_iff]
  intro none
  simp [none, branchListing] at filled

/-- The clauses of a field at the root are the one over its alternatives, if that has a branch. -/
theorem typeOf_mem_fieldListing_iff {name : String} {branches : List (String × List SelectItem)}
    {others : List SelectItem} :
    .typeOf name branches others ∈ fieldListing registry (listing registry levels) "" field ↔
      field.kind = .relationship ∧ name = field.name ∧ branches ≠ [] ∧
        branches = branchListing (listing registry levels)
          (field.alternatives.filterMap registry.get?) ∧
        others = (registry.related? field).elim [] (listing registry levels · "") := by
  constructor
  · intro listed
    cases kind : field.kind with
    | simple =>
      -- What is listed for a field that is no relationship is never a clause.
      rw [fieldListing_of_simple kind] at listed
      simp at listed
    | collection =>
      cases leads : registry.related? field with
      | none =>
        rw [fieldListing_of_values kind leads] at listed
        simp at listed
      | some element =>
        rw [fieldListing_of_children kind leads, if_pos rfl, mem_subqueryListing_iff] at listed
        cases listed.2
    | relationship =>
      by_cases polymorphic : field.isPolymorphic = true
      · -- A polymorphic field lists one clause, which has all its branches.
        rw [fieldListing_of_clause kind polymorphic, mem_clauseListing_iff] at listed
        obtain ⟨filled, same⟩ := listed
        cases same
        exact ⟨rfl, rfl, filled, rfl, rfl⟩
      · -- A relationship to one type has paths only.
        rw [fieldListing_of_relationship kind fun both => polymorphic both.1] at listed
        cases leads : registry.related? field with
        | none => simp [leads] at listed
        | some next =>
          have below : "" ++ field.name ++ "." ≠ "" := by simp
          rw [leads] at listed
          obtain ⟨text, same⟩ := exists_path_of_mem_listing below listed
          cases same
  · -- In turn, a clause with a branch is the one that is listed.
    rintro ⟨relationship, rfl, filled, rfl, rfl⟩
    rw [fieldListing_of_clause relationship (isPolymorphic_of_filled filled)]
    exact mem_clauseListing_iff.mpr ⟨filled, rfl⟩

/-- A field that has a branch is a relationship, and its clause is listed. -/
theorem BranchesTo.filled {target : Descriptor}
    (branches : BranchesTo registry levels field target) :
    field.kind = .relationship ∧ branchListing (listing registry levels)
      (field.alternatives.filterMap registry.get?) ≠ [] := by
  -- Behind a fallback there is an alternative with a branch, which is the one that counts.
  induction branches with
  | @alternative id target relationship among found filled =>
    have held : (target.name, listing registry levels target "") ∈
        branchListing (listing registry levels) (field.alternatives.filterMap registry.get?) :=
      mem_branchListing_iff.mpr ⟨target, List.mem_filterMap.mpr ⟨id, among, found⟩, rfl, filled⟩
    exact ⟨relationship, List.ne_nil_of_mem held⟩
  | fallback _ _ _ ih => exact ih

/-- A branch takes a level and leads to a published type. -/
theorem Branches.step {owner target : Nat × Descriptor} (branches : Branches registry owner target) :
    target.1 + 1 = owner.1 ∧ target.2 ∈ registry.arena := by
  -- The branches of a clause are listed one level deeper.
  cases branches with
  | clause _ branches => exact ⟨rfl, branches.published⟩

/-- A subquery takes a level and leads to a published type. -/
theorem Selects.step {owner element : Nat × Descriptor} (selects : Selects registry owner element) :
    element.1 + 1 = owner.1 ∧ element.2 ∈ registry.arena := by
  -- The elements of a subquery are listed one level deeper.
  cases selects with
  | child _ selects => exact ⟨rfl, Registry.mem_arena_of_related? selects.leads⟩

/-- A subquery has something to select, so levels are left for that. -/
theorem Selects.pos {owner element : Nat × Descriptor} (selects : Selects registry owner element) :
    0 < element.1 := by
  -- Without a level nothing is listed, and a subquery would be empty.
  cases selects with
  | child _ selects =>
    refine Nat.pos_of_ne_zero ?_
    rintro rfl
    exact selects.filled rfl

/-- Steps that each take a level and lead to published types do so as a whole. -/
theorem reached_of_steps {step : Nat × Descriptor → Nat × Descriptor → Prop}
    (each : ∀ {owner next}, step owner next → next.1 + 1 = owner.1 ∧ next.2 ∈ registry.arena)
    {owner reached : Nat × Descriptor} (published : owner.2 ∈ registry.arena)
    (steps : ReflTransGen step owner reached) :
    reached.1 ≤ owner.1 ∧ reached.2 ∈ registry.arena := by
  -- The induction is on the steps, each of which adds up.
  induction steps with
  | refl => exact ⟨Nat.le_refl _, published⟩
  | tail _ last ih =>
    obtain ⟨taken, published⟩ := each last
    exact ⟨by omega, published⟩

/-- The subqueries in a list at the root are those that open for a type. -/
theorem exists_subquery_mem_listing_iff (owner : Nat × Descriptor) {inner : List SelectItem} :
    (∃ relation, .subquery inner relation ∈ listing registry owner.1 owner.2 "") ↔
      ∃ child, Selects registry owner child ∧ inner = listing registry child.1 child.2 "" := by
  -- A subquery in a list belongs to one of the fields that are listed.
  constructor
  · rintro ⟨relation, listed⟩
    obtain ⟨levels, descriptor⟩ := owner
    cases levels with
    | zero => cases listed
    | succ levels =>
      obtain ⟨field, queried, own⟩ := List.mem_flatMap.mp listed
      obtain ⟨element, selects, same, -⟩ := subquery_mem_fieldListing_iff.mp own
      exact ⟨_, .child queried selects, same⟩
  · -- In turn, a field of child records has its subquery in the list of its owner.
    rintro ⟨child, ⟨queried, selects⟩, rfl⟩
    have own := subquery_mem_fieldListing_iff.mpr ⟨_, selects, rfl, rfl⟩
    exact ⟨_, List.mem_flatMap.mpr ⟨_, queried, own⟩⟩

/-- The items that stand in a list are those of the types for which subqueries open, one inside the
other. -/
theorem stands_listing_iff (owner : Nat × Descriptor) {item : SelectItem} :
    Stands (listing registry owner.1 owner.2 "") item ↔
      ∃ inner, ReflTransGen (Selects registry) owner inner ∧
        item ∈ listing registry inner.1 inner.2 "" := by
  constructor
  · intro stands
    -- Going inside a subquery is one more step from type to type.
    induction stands with
    | listed listed => exact ⟨owner, .refl, listed⟩
    | selected outer listed ih =>
      obtain ⟨around, reached, subquery⟩ := ih
      obtain ⟨child, selects, rfl⟩ := (exists_subquery_mem_listing_iff around).mp ⟨_, subquery⟩
      exact ⟨child, reached.tail selects, listed⟩
  · rintro ⟨inner, reached, listed⟩
    induction reached generalizing item with
    | refl => exact .listed listed
    | tail reached selects ih =>
      -- The subquery around the item stands in the list.
      obtain ⟨relation, subquery⟩ := (exists_subquery_mem_listing_iff _).mpr ⟨_, selects, rfl⟩
      exact .selected (ih subquery) listed

/-- What has a branch is an alternative of a polymorphic field or its fallback. -/
theorem BranchesTo.exists_link {target : Descriptor}
    (branches : BranchesTo registry levels field target) :
    field.isPolymorphic = true ∧ ∃ id, (id ∈ field.alternatives ∨ field.related = some id) ∧
      registry.get? id = some target := by
  -- There is a clause, so the field has alternatives.
  refine ⟨isPolymorphic_of_filled branches.filled.2, ?_⟩
  cases branches with
  | alternative _ among found => exact ⟨_, .inl among, found⟩
  | fallback _ leads =>
    obtain ⟨id, related, found⟩ := Option.bind_eq_some_iff.mp leads
    exact ⟨id, .inr related, found⟩

/-- A clause with a branch is that of a polymorphic field, which leads to the type. -/
theorem Branches.exists_link {owner target : Nat × Descriptor}
    (branches : Branches registry owner target) :
    ∃ field ∈ owner.2.fields, field.isPolymorphic = true ∧
      ∃ id, (id ∈ field.alternatives ∨ field.related = some id) ∧
        registry.get? id = some target.2 := by
  -- A clause is that of a field which queries can name.
  cases branches with
  | clause queried branches =>
    exact ⟨_, (Descriptor.mem_queryFields_iff.mp queried).1, branches.exists_link⟩

/-- A subquery is that of a field of child records. -/
theorem Selects.exists_isChild {owner element : Nat × Descriptor}
    (selects : Selects registry owner element) :
    ∃ field ∈ owner.2.fields, field.isChild = true := by
  -- A field that holds a collection and has a link is one of child records.
  cases selects with
  | child queried selects =>
    obtain ⟨id, related, -⟩ := Option.bind_eq_some_iff.mp selects.leads
    refine ⟨_, (Descriptor.mem_queryFields_iff.mp queried).1, ?_⟩
    simp [FieldDescriptor.isChild, selects.collection, related]

section Published

variable {config : MappingConfig} {calls : List Lookup} {descriptor : Descriptor}

/-- No parenthesis stands in a path, if there is none in what it begins with. -/
theorem not_hasParen_of_path_mem_listing
    (published : descriptor ∈ (Registry.after config calls).arena) {path : String}
    (plain : ¬ HasParen path) {text : String}
    (listed : .path text ∈ listing (Registry.after config calls) levels descriptor path) :
    ¬ HasParen text := by
  -- A path is made of names and points, and is added to level by level.
  induction levels generalizing descriptor path with
  | zero => cases listed
  | succ levels ih =>
    obtain ⟨field, queried, own⟩ := List.mem_flatMap.mp listed
    have declared := (Descriptor.mem_queryFields_iff.mp queried).1
    have named := (Registry.identifier_of_declared published declared).not_hasParen
    cases listedOf_of_mem own with
    | value => simp [hasParen_append, plain, named]
    | behind _ leads listed =>
      have point : ¬ HasParen "." := by decide
      have below : ¬ HasParen (path ++ field.name ++ ".") := by
        simp [hasParen_append, plain, named, point]
      exact ih (Registry.mem_arena_of_related? leads) below listed

/-- A list with a parenthesis is not empty. -/
theorem ne_nil_of_hasParen {items : List SelectItem} (paren : HasParen (listText items)) :
    items ≠ [] := by
  -- The empty list has the empty text.
  rintro rfl
  cases paren

/-- A parenthesis stands in the clause of a field if it does in a list that has a branch. -/
theorem hasParen_clause_iff (published : descriptor ∈ (Registry.after config calls).arena)
    (declared : field ∈ descriptor.fields) :
    (∃ name branches others, .typeOf name branches others ∈
        fieldListing (Registry.after config calls) (listing (Registry.after config calls) levels) ""
          field ∧ HasParen (SelectItem.typeOf name branches others).text) ↔
      ∃ target, BranchesTo (Registry.after config calls) levels field target ∧
        HasParen (listText (listing (Registry.after config calls) levels target "")) := by
  constructor
  · rintro ⟨name, branches, others, listed, paren⟩
    obtain ⟨relationship, rfl, filled, held, last⟩ := typeOf_mem_fieldListing_iff.mp listed
    -- What the clause lists behind WHEN are the alternatives, each with the list of its type.
    have alternative : ∀ branch ∈ branches, ∃ target,
        BranchesTo (Registry.after config calls) levels field target ∧
          branch = (target.name, listing (Registry.after config calls) levels target "") := by
      intro branch among
      rw [held] at among
      obtain ⟨target, linked, same, some⟩ := mem_branchListing_iff.mp among
      obtain ⟨id, among, found⟩ := List.mem_filterMap.mp linked
      exact ⟨target, .alternative relationship among found some, same⟩
    rcases (hasParen_typeOf filled others).mp paren with inName | ⟨branch, among, inBranch⟩ | inLast
    -- Names of fields and of types are identifiers.
    · exact absurd inName (Registry.identifier_of_declared published declared).not_hasParen
    · obtain ⟨target, branches, rfl⟩ := alternative branch among
      refine ⟨target, branches, inBranch.resolve_left ?_⟩
      exact (Registry.identifier_of_published branches.published).not_hasParen
    · -- Where the fallback has a list, there is a branch before it.
      obtain ⟨branch, among⟩ := List.exists_mem_of_ne_nil branches filled
      obtain ⟨other, behind, -⟩ := alternative branch among
      cases leads : (Registry.after config calls).related? field with
      | none =>
        rw [last, leads] at inLast
        cases inLast
      | some target =>
        rw [last, leads] at inLast
        exact ⟨target, .fallback behind leads (ne_nil_of_hasParen inLast), inLast⟩
  · -- In turn, a list with a parenthesis is that of an alternative or of the fallback.
    rintro ⟨target, branches, paren⟩
    obtain ⟨relationship, filled⟩ := branches.filled
    refine ⟨_, _, _, typeOf_mem_fieldListing_iff.mpr ⟨relationship, rfl, filled, rfl, rfl⟩, ?_⟩
    rw [hasParen_typeOf filled]
    cases branches with
    | alternative _ among found some =>
      have linked := List.mem_filterMap.mpr ⟨_, among, found⟩
      have held := mem_branchListing_iff.mpr ⟨target, linked, rfl, some⟩
      exact .inr (.inl ⟨_, held, .inr paren⟩)
    | fallback _ leads =>
      refine .inr (.inr ?_)
      rw [leads]
      exact paren

/-- A parenthesis stands in a clause of a list if it does in a list that has a branch there. -/
theorem hasParen_clauses_iff (published : descriptor ∈ (Registry.after config calls).arena) :
    (∃ name branches others, .typeOf name branches others ∈
        listing (Registry.after config calls) (levels + 1) descriptor "" ∧
        HasParen (SelectItem.typeOf name branches others).text) ↔
      ∃ target, Branches (Registry.after config calls) (levels + 1, descriptor) (levels, target) ∧
        HasParen (listText (listing (Registry.after config calls) levels target "")) := by
  -- A clause in a list belongs to one field, of which the same is known.
  constructor
  · rintro ⟨name, branches, others, listed, paren⟩
    obtain ⟨field, queried, own⟩ := List.mem_flatMap.mp listed
    have declared := (Descriptor.mem_queryFields_iff.mp queried).1
    obtain ⟨target, branches, paren⟩ :=
      (hasParen_clause_iff published declared).mp ⟨_, _, _, own, paren⟩
    exact ⟨target, .clause queried branches, paren⟩
  · rintro ⟨target, ⟨queried, branches⟩, paren⟩
    have declared := (Descriptor.mem_queryFields_iff.mp queried).1
    obtain ⟨name, branches, others, own, paren⟩ :=
      (hasParen_clause_iff published declared).mpr ⟨target, branches, paren⟩
    exact ⟨name, branches, others, List.mem_flatMap.mpr ⟨_, queried, own⟩, paren⟩

/-- A parenthesis stands in a list at the root if a subquery opens in it, or inside its clauses. -/
theorem hasParen_listing_iff (published : descriptor ∈ (Registry.after config calls).arena) :
    HasParen (listText (listing (Registry.after config calls) levels descriptor "")) ↔
      ∃ target child, ReflTransGen (Branches (Registry.after config calls)) (levels, descriptor)
        target ∧ Selects (Registry.after config calls) target child := by
  -- The induction is on the levels, of which each clause takes one.
  induction levels generalizing descriptor with
  | zero =>
    constructor
    · -- Without levels there is no text.
      intro paren
      cases paren
    · rintro ⟨target, child, reached, selects⟩
      rcases ReflTransGen.cases_head reached with rfl | ⟨next, branches, -⟩
      · cases selects
      · cases branches
  | succ levels ih =>
    constructor
    · -- The parenthesis stands in one of the items, and not in a path.
      intro paren
      obtain ⟨item, listed, inItem⟩ := (hasParen_listText _).mp paren
      cases item with
      | path text =>
        exact absurd inItem (not_hasParen_of_path_mem_listing published (by decide) listed)
      | subquery inner relation =>
        obtain ⟨child, selects, -⟩ :=
          (exists_subquery_mem_listing_iff (levels + 1, descriptor)).mp ⟨relation, listed⟩
        exact ⟨_, child, .refl, selects⟩
      | typeOf name branches others =>
        obtain ⟨next, branches, inside⟩ :=
          (hasParen_clauses_iff published).mp ⟨_, _, _, listed, inItem⟩
        obtain ⟨target, child, reached, selects⟩ := (ih branches.step.2).mp inside
        exact ⟨target, child, .head branches reached, selects⟩
    · -- The subquery opens here or behind the branch of a clause.
      rintro ⟨target, child, reached, selects⟩
      rcases ReflTransGen.cases_head reached with rfl | ⟨⟨_, next⟩, branches, behind⟩
      · obtain ⟨relation, listed⟩ := (exists_subquery_mem_listing_iff _).mpr ⟨child, selects, rfl⟩
        exact (hasParen_listText _).mpr ⟨_, listed, hasParen_subquery _ _⟩
      · obtain rfl := Nat.succ.inj branches.step.1
        have inside := (ih branches.step.2).mpr ⟨target, child, behind, selects⟩
        obtain ⟨name, branches, others, listed, paren⟩ :=
          (hasParen_clauses_iff published).mpr ⟨next, branches, inside⟩
        exact (hasParen_listText _).mpr ⟨_, listed, paren⟩

/-- A parenthesis stands in a clause at the root exactly if a subquery opens further inside its
branches. -/
theorem hasParen_clause_of_listing_iff
    (published : descriptor ∈ (Registry.after config calls).arena) :
    (∃ name branches others, .typeOf name branches others ∈
        listing (Registry.after config calls) levels descriptor "" ∧
        HasParen (SelectItem.typeOf name branches others).text) ↔
      ∃ target child, TransGen (Branches (Registry.after config calls)) (levels, descriptor)
        target ∧ Selects (Registry.after config calls) target child := by
  -- The clause takes the first step, and what is said of lists holds behind it.
  cases levels with
  | zero =>
    -- Without levels there is neither a clause nor a branch.
    constructor
    · rintro ⟨_, _, _, listed, -⟩
      cases listed
    · rintro ⟨target, child, reached, -⟩
      obtain ⟨next, branches, -⟩ := TransGen.head'_iff.mp reached
      cases branches
  | succ levels =>
    rw [hasParen_clauses_iff published]
    constructor
    · -- What stands in a branch is told by the law of lists.
      rintro ⟨next, branches, inside⟩
      obtain ⟨target, child, reached, selects⟩ :=
        (hasParen_listing_iff branches.step.2).mp inside
      exact ⟨target, child, TransGen.head'_iff.mpr ⟨_, branches, reached⟩, selects⟩
    · rintro ⟨target, child, reached, selects⟩
      obtain ⟨⟨_, next⟩, branches, behind⟩ := TransGen.head'_iff.mp reached
      obtain rfl := Nat.succ.inj branches.step.1
      exact ⟨next, branches,
        (hasParen_listing_iff branches.step.2).mpr ⟨target, child, behind, selects⟩⟩

/-- A parenthesis stands in a clause that stands in a list at the root if subqueries lead to the type
with the clause, and its branches to one with a subquery of its own. -/
theorem hasParen_standing_clause_iff
    (published : descriptor ∈ (Registry.after config calls).arena) :
    (∃ name branches others,
      Stands (listing (Registry.after config calls) levels descriptor "")
        (.typeOf name branches others) ∧
      HasParen (SelectItem.typeOf name branches others).text) ↔
      ∃ owner target child,
        ReflTransGen (Selects (Registry.after config calls)) (levels, descriptor) owner ∧
        TransGen (Branches (Registry.after config calls)) owner target ∧
        Selects (Registry.after config calls) target child := by
  -- Subqueries are gone through first, and from there it is a matter of one list at the root.
  constructor
  · rintro ⟨name, branches, others, stands, paren⟩
    obtain ⟨owner, reached, listed⟩ := (stands_listing_iff (levels, descriptor)).mp stands
    have arrived := reached_of_steps Selects.step published reached
    obtain ⟨target, child, branched, selects⟩ :=
      (hasParen_clause_of_listing_iff arrived.2).mp ⟨_, _, _, listed, paren⟩
    exact ⟨owner, target, child, reached, branched, selects⟩
  · -- The clause of the last type stands where the subqueries lead.
    rintro ⟨owner, target, child, reached, branched, selects⟩
    have arrived := reached_of_steps Selects.step published reached
    obtain ⟨name, branches, others, listed, paren⟩ :=
      (hasParen_clause_of_listing_iff arrived.2).mpr ⟨target, child, branched, selects⟩
    exact ⟨name, branches, others,
      (stands_listing_iff (levels, descriptor)).mpr ⟨owner, reached, listed⟩, paren⟩

end Published

end Expansion

namespace Mapper

open Relation SelectItem Expansion

/--
Subqueries open in select lists and inside the branches of clauses.

Below any path but the empty one there are only paths.
In a list at the root a subquery stands inside a clause exactly if one comes, before the depth is used
up, by subqueries to a type with a clause and by its branches to a type with child records.
So none does within a depth of one.
Nor does any where the types that polymorphic fields lead to have no child records.
-/
theorem fieldList_opens_subqueries {config : MappingConfig} {mapper : Mapper}
    (used : ReflTransGen Step (ofConfig config) mapper) {descriptor : Descriptor}
    (published : descriptor ∈ mapper.registry.arena) (path : String) (depth : Nat) :
    ∃ items, selectList mapper.registry depth descriptor path = .ok items ∧
      ((fieldList descriptor path depth).run.run mapper).1 = .ok (listText items) ∧
      (path ≠ "" → ∀ item ∈ items, ∃ text, item = .path text) ∧
      (path = "" →
        (∀ text, Stands items (.path text) → ¬ HasParen text) ∧
        ((∃ name branches others, Stands items (.typeOf name branches others) ∧
            HasParen (SelectItem.typeOf name branches others).text) ↔
          ∃ owner target child,
            ReflTransGen (Selects mapper.registry) (depth + 1, descriptor) owner ∧
            TransGen (Branches mapper.registry) owner target ∧
            Selects mapper.registry target child) ∧
        (depth ≤ 1 ∨ (∀ owner ∈ mapper.registry.arena, ∀ field ∈ owner.fields,
            field.isPolymorphic = true → ∀ id, id ∈ field.alternatives ∨ field.related = some id →
            ∀ target, mapper.registry.get? id = some target →
            ∀ child ∈ target.fields, child.isChild = false) →
          ∀ name branches others, Stands items (.typeOf name branches others) →
            ¬ HasParen (SelectItem.typeOf name branches others).text)) := by
  -- The field list is the listing of the history's registry, of which everything is known.
  obtain ⟨expanded, answered⟩ := run_fieldList_of_used used published path depth
  obtain ⟨calls, history⟩ := (steps_sound (sound_ofConfig config) used).1.history
  rw [history] at published expanded answered ⊢
  refine ⟨_, expanded, answered, fun filled item => exists_path_of_mem_listing filled, ?_⟩
  rintro rfl
  have exact := @hasParen_standing_clause_iff (depth + 1) config calls descriptor published
  refine ⟨?_, exact, ?_⟩
  · -- Paths that stand anywhere are made of names and points.
    intro text stands
    obtain ⟨owner, reached, listed⟩ := (stands_listing_iff (depth + 1, descriptor)).mp stands
    have arrived := reached_of_steps Selects.step published reached
    exact not_hasParen_of_path_mem_listing arrived.2 (by decide) listed
  · -- A parenthesis inside a clause would lead from there to child records.
    intro without name branches others stands paren
    obtain ⟨owner, target, child, reached, branched, selects⟩ := exact.mp ⟨_, _, _, stands, paren⟩
    obtain ⟨above, published⟩ := reached_of_steps Selects.step published reached
    -- The last clause on the way has a branch for the type with child records.
    obtain ⟨last, through, branch⟩ := TransGen.tail'_iff.mp branched
    obtain ⟨within, published⟩ := reached_of_steps Branches.step published through
    rcases without with shallow | childless
    · -- A subquery, its clause and what it selects take a level each.
      have levels : 0 < child.1 := selects.pos
      have taken : child.1 + 1 = target.1 := selects.step.1
      have taken' : target.1 + 1 = last.1 := branch.step.1
      have above : owner.1 ≤ depth + 1 := above
      omega
    · -- The type that it leads to would have child records after all.
      obtain ⟨field, declared, polymorphic, id, link, found⟩ := branch.exists_link
      obtain ⟨collection, declared', child⟩ := selects.exists_isChild
      have none := childless _ published field declared polymorphic id link _ found _ declared'
      cases child.symm.trans none

/-- Activities that concern contacts, and the notes on these. -/
def activities : Catalog where
  schemas := [
    ("Contact", {
      name := "Contact", fields := [.simple "Name", .collection "Notes" ⟨"Note", .mapped⟩] }),
    ("Note", { name := "Note", fields := [.simple "Body"] }),
    ("Task", { name := "Task", fields := [.polymorphic "Who" [⟨"Contact", .mapped⟩]] })]

/-- A mapper that has looked up the tasks among the activities. -/
def ofActivities : Mapper :=
  ((Mapper.descriptor activities ⟨"Task", .mapped⟩).run.run (ofConfig {})).2

/-- It was used once. -/
theorem used_ofActivities : ReflTransGen Step (ofConfig {}) ofActivities :=
  .single (.descriptor _ _ _)

/-- Tasks are published before contacts and these before their notes. -/
theorem registry_ofActivities : ofActivities.registry =
    ({ config := {} } : Registry).publish
      ⟨[(⟨"Task", .mapped⟩, activities.schema "Task"),
        (⟨"Contact", .mapped⟩, activities.schema "Contact"),
        (⟨"Note", .mapped⟩, activities.schema "Note")], [], ["Task", "Contact", "Note"]⟩ := by
  -- The exploration of the catalog ends within five steps, so it can be run.
  have explored : Exploration.explore [] activities {} [⟨⟨"Task", .mapped⟩, none⟩] =
      (⟨[(⟨"Task", .mapped⟩, activities.schema "Task"),
        (⟨"Contact", .mapped⟩, activities.schema "Contact"),
        (⟨"Note", .mapped⟩, activities.schema "Note")], [], ["Task", "Contact", "Note"]⟩, none) :=
    Exploration.explore_of_exploreWithin 5 rfl
  have looked : ofActivities.registry =
      Registry.after {} [⟨activities, ⟨"Task", .mapped⟩⟩] := rfl
  simp [looked, Registry.after, Registry.lookUp, Registry.descriptor, Registry.published?,
    Registry.explore, explored]

/-- Within a depth of one there is a clause in the list of tasks, and no parenthesis stands in it. -/
theorem fieldList_opens_subqueries_activities :
    ∃ task ∈ ofActivities.registry.arena,
      let clause := SelectItem.typeOf "Who" [("Contact", [.path "Name"])] []
      ((fieldList task "" 1).run.run ofActivities).1 = .ok (listText [clause]) ∧
        clause.text = "TYPEOF Who WHEN Contact THEN Name END" ∧ ¬ HasParen clause.text := by
  -- The list is computed, and within this depth the law lets no subquery stand in its clause.
  have held : ∃ task, ofActivities.registry.arena[0]? = some task ∧
      selectList ofActivities.registry 1 task "" =
        .ok [.typeOf "Who" [("Contact", [.path "Name"])] []] := by
    rw [registry_ofActivities]
    exact ⟨_, rfl, rfl⟩
  obtain ⟨task, found, listed⟩ := held
  have published := List.mem_of_getElem? found
  obtain ⟨items, expanded, answered, -, root⟩ :=
    fieldList_opens_subqueries used_ofActivities published "" 1
  obtain ⟨-, -, without⟩ := root rfl
  obtain rfl := Except.ok.inj (listed.symm.trans expanded)
  exact ⟨task, published, answered, by decide +kernel,
    without (.inl (Nat.le_refl 1)) _ _ _ (.listed (.head _))⟩

/-- Within a depth of two the notes on a contact are selected inside the clause of a task. -/
theorem subquery_opens_inside_clause :
    ∃ task ∈ ofActivities.registry.arena,
      selectList ofActivities.registry 2 task "" =
        .ok [.typeOf "Who" [("Contact", [.path "Name", .subquery [.path "Body"] "Notes"])] []] ∧
      ((fieldList task "" 2).run.run ofActivities).1 =
        .ok "TYPEOF Who WHEN Contact THEN Name,(SELECT Body FROM Notes) END" := by
  -- One level deeper the contact has room for its notes.
  have held : ∃ task, ofActivities.registry.arena[0]? = some task ∧
      listing ofActivities.registry 3 task "" =
        [.typeOf "Who" [("Contact", [.path "Name", .subquery [.path "Body"] "Notes"])] []] := by
    rw [registry_ofActivities]
    exact ⟨_, rfl, rfl⟩
  obtain ⟨task, found, listed⟩ := held
  have published := List.mem_of_getElem? found
  obtain ⟨expanded, answered⟩ := run_fieldList_of_used used_ofActivities published "" 2
  rw [listed] at expanded answered
  exact ⟨task, published, expanded, answered.trans (congrArg Except.ok (by decide +kernel))⟩

end Mapper

end RemoteRecords
