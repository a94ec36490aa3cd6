import Mathlib.Data.List.Nodup
import RemoteRecords.Proofs.Query.Listing
import RemoteRecords.Proofs.Registry.Published

/-! Chains: the paths of a select list are the chains of fields within its depth, in order. -/

namespace RemoteRecords

namespace Descriptor

/-- One field comes before another in queries: by its rank, or by its declaration within a rank. -/
def Precedes (descriptor : Descriptor) (first second : FieldDescriptor) : Prop :=
  rank first < rank second ∨ rank first = rank second ∧ [first, second].Sublist descriptor.fields

/-- Queries name the fields in this order. -/
theorem pairwise_queryFields (descriptor : Descriptor) :
    descriptor.queryFields.Pairwise descriptor.Precedes := by
  -- The fields are taken rank by rank, so two of them come from one rank or from two.
  refine List.Pairwise.filter _ (List.pairwise_flatMap.mpr ⟨fun level _ => ?_, ?_⟩)
  · -- Within a rank the declared order is kept.
    refine List.pairwise_iff_forall_sublist.mpr fun {first second} both => ?_
    have ranks : ∀ field ∈ [first, second], rank field = level := by
      intro field listed
      simpa using (List.mem_filter.mp (both.subset listed)).2
    refine .inr ⟨?_, both.trans List.filter_sublist⟩
    rw [ranks first (by simp), ranks second (by simp)]
  · -- The ranks are gone through in ascending order.
    have ascending : [0, 1, 2, 3].Pairwise (· < ·) := by decide
    refine ascending.imp fun {low high} below first here second there => .inl ?_
    simp only [List.mem_filter, beq_iff_eq] at here there
    rw [here.2, there.2]
    exact below

end Descriptor

namespace Registry

end Registry

/-- The names of a chain below a path, joined by points. -/
def spelled (path : String) (chain : List FieldDescriptor) : String :=
  path ++ String.intercalate "." (chain.map (·.name))

/-- The text of an item that is a path. -/
def SelectItem.path? : SelectItem → Option String
  | .path text => some text
  | _ => none

namespace Expansion

/-- The chains that begin with a field, given those of the descriptor that it leads to. At the root
a polymorphic field begins none. -/
def fieldChains (registry : Registry) (deeper : Descriptor → List (List FieldDescriptor))
    (root : Bool) (field : FieldDescriptor) : List (List FieldDescriptor) :=
  match field.kind, registry.related? field with
  | .simple, _ => [[field]]
  | .collection, none => [[field]]
  | .collection, some _ => []
  | .relationship, none => []
  | .relationship, some next =>
    if field.isPolymorphic && root then [] else (deeper next).map (field :: ·)

/-- The chains of at most so many fields, in the order in which they are listed. -/
def chains (registry : Registry) : Nat → Bool → Descriptor → List (List FieldDescriptor)
  | 0, _, _ => []
  | levels + 1, root, descriptor =>
    descriptor.queryFields.flatMap (fieldChains registry (chains registry levels false) root)

variable {registry : Registry} {lister : Lister} {field : FieldDescriptor}
  {deeper : Descriptor → List (List FieldDescriptor)}

/-- A chain that begins with a field is the field alone or goes on behind it. -/
theorem mem_fieldChains_iff {root : Bool} {chain : List FieldDescriptor} :
    chain ∈ fieldChains registry deeper root field ↔
      ((field.kind = .simple ∨ field.kind = .collection ∧ registry.related? field = none) ∧
          chain = [field]) ∨
        ∃ next rest, field.kind = .relationship ∧ registry.related? field = some next ∧
          (root = true → field.isPolymorphic = false) ∧ rest ∈ deeper next ∧
          chain = field :: rest := by
  unfold fieldChains
  cases kind : field.kind with
  | simple => simp
  | collection => cases leads : registry.related? field <;> simp
  | relationship =>
    cases leads : registry.related? field with
    | none => simp
    | some next =>
      -- The condition on the root is the one case in which nothing is listed.
      cases root <;> cases polymorphic : field.isPolymorphic <;> simp [eq_comm]

/-- The chains of a field begin with it. -/
theorem exists_cons_of_mem_fieldChains {root : Bool} {chain : List FieldDescriptor}
    (listed : chain ∈ fieldChains registry deeper root field) : ∃ rest, chain = field :: rest := by
  -- Of the two kinds of chains both begin with the field.
  rcases mem_fieldChains_iff.mp listed with ⟨-, rfl⟩ | ⟨next, rest, -, -, -, -, rfl⟩
  · exact ⟨[], rfl⟩
  · exact ⟨rest, rfl⟩

/-- A path below a relationship is spelled like the chain that begins with it. -/
theorem spelled_cons (path : String) (field : FieldDescriptor) {chain : List FieldDescriptor}
    (filled : chain ≠ []) :
    spelled path (field :: chain) = spelled (path ++ field.name ++ ".") chain := by
  -- The chain behind the field has a first name, and the point stands before it.
  obtain ⟨first, rest, rfl⟩ := List.exists_cons_of_ne_nil filled
  simp [spelled, String.append_assoc]

/-- No chain is empty. -/
theorem ne_nil_of_mem_chains {levels : Nat} {root : Bool} {descriptor : Descriptor}
    {chain : List FieldDescriptor} (listed : chain ∈ chains registry levels root descriptor) :
    chain ≠ [] := by
  -- A chain that is listed begins with a field.
  cases levels with
  | zero => simp [chains] at listed
  | succ levels =>
    obtain ⟨field, -, own⟩ := List.mem_flatMap.mp listed
    obtain ⟨rest, rfl⟩ := exists_cons_of_mem_fieldChains own
    exact List.cons_ne_nil _ _

/-- A subquery is no path. -/
theorem filterMap_path?_subqueryListing (relation : String) (items : List SelectItem) :
    (subqueryListing relation items).filterMap SelectItem.path? = [] := by
  -- At most one item is listed, which is a subquery.
  unfold subqueryListing
  split <;> rfl

/-- A clause is no path. -/
theorem filterMap_path?_clauseListing (field : String) (branches : List (String × List SelectItem))
    (others : List SelectItem) :
    (clauseListing field branches others).filterMap SelectItem.path? = [] := by
  -- At most one item is listed, which is a clause.
  unfold clauseListing
  split <;> rfl

/-- The paths listed of a field are the spelled chains that begin with it. -/
theorem filterMap_path?_fieldListing {path : String}
    (filled : ∀ next, ∀ chain ∈ deeper next, chain ≠ [])
    (lists : ∀ next below, below ≠ "" →
      (lister next below).filterMap SelectItem.path? = (deeper next).map (spelled below)) :
    (fieldListing registry lister path field).filterMap SelectItem.path? =
      (fieldChains registry deeper (path = "") field).map (spelled path) := by
  -- The kind of the field and what it leads to decide on both sides.
  cases kind : field.kind with
  | simple =>
    simp [fieldListing_of_simple kind, fieldChains, kind, SelectItem.path?, spelled]
  | collection =>
    cases leads : registry.related? field with
    | none =>
      simp [fieldListing_of_values kind leads, fieldChains, kind, leads, SelectItem.path?, spelled]
    | some element =>
      -- Neither a subquery nor nothing at all is a path.
      rw [fieldListing_of_children kind leads]
      simp only [fieldChains, kind, leads, List.map_nil]
      split
      · exact filterMap_path?_subqueryListing _ _
      · rfl
  | relationship =>
    by_cases clause : field.isPolymorphic = true ∧ path = ""
    · -- At the root a polymorphic field has a clause and no chains.
      obtain ⟨polymorphic, rfl⟩ := clause
      rw [fieldListing_of_clause kind polymorphic, filterMap_path?_clauseListing]
      cases leads : registry.related? field with
      | none => simp [fieldChains, kind, leads]
      | some next => simp [fieldChains, kind, leads, polymorphic]
    · rw [fieldListing_of_relationship kind clause]
      cases leads : registry.related? field with
      | none => simp [fieldChains, kind, leads]
      | some next =>
        -- Any other relationship has the chains of what it leads to, below its name.
        have single : (field.isPolymorphic && decide (path = "")) = false := by
          simpa using clause
        have below : path ++ field.name ++ "." ≠ "" := by simp
        simp only [Option.elim_some, lists next _ below, fieldChains, kind, leads, single,
          Bool.false_eq_true, if_false, List.map_map]
        -- The point behind the field's name stands between the names of the chain.
        refine List.map_congr_left fun chain listed => ?_
        exact (spelled_cons path field (filled next chain listed)).symm

/-- The paths of a listing are its chains as they are spelled. -/
theorem filterMap_path?_listing (levels : Nat) (descriptor : Descriptor) (path : String) :
    (listing registry levels descriptor path).filterMap SelectItem.path? =
      (chains registry levels (path = "") descriptor).map (spelled path) := by
  -- Only the first descriptor can be at the root, since a path below it is never empty.
  induction levels generalizing descriptor path with
  | zero => rfl
  | succ levels ih =>
    rw [listing, chains, List.filterMap_flatMap, List.map_flatMap]
    -- Field by field, with one level less below each relationship.
    congr 1
    funext field
    refine filterMap_path?_fieldListing (fun next chain => ne_nil_of_mem_chains) ?_
    intro next below filled
    rw [ih next below, decide_eq_false filled]

/-- Below the root every item is a path. -/
theorem exists_path_of_mem_listing {levels : Nat} {descriptor : Descriptor} {path : String}
    (filled : path ≠ "") {item : SelectItem}
    (listed : item ∈ listing registry levels descriptor path) : ∃ text, item = .path text := by
  -- Subqueries and clauses open at the root, which no path below another one is.
  induction levels generalizing descriptor path with
  | zero => simp [listing] at listed
  | succ levels ih =>
    obtain ⟨field, -, own⟩ := List.mem_flatMap.mp listed
    cases listedOf_of_mem own with
    | value => exact ⟨_, rfl⟩
    | children root => exact absurd root filled
    | clause root => exact absurd root filled
    | behind relationship leads listed =>
      have below : path ++ field.name ++ "." ≠ "" := by simp
      exact ih below listed

/-- Below the root a listing is made of its chains as they are spelled. -/
theorem listing_eq_map_path {levels : Nat} {descriptor : Descriptor} {path : String}
    (filled : path ≠ "") :
    listing registry levels descriptor path =
      (chains registry levels false descriptor).map fun chain => .path (spelled path chain) := by
  -- The paths of the listing are its chains, and below the root it has no other items.
  have paths := @filterMap_path?_listing registry levels descriptor path
  -- Items that are all paths are found again from their texts.
  have restored : ∀ items : List SelectItem, (∀ item ∈ items, ∃ text, item = .path text) →
      items = (items.filterMap SelectItem.path?).map .path := by
    intro items each
    induction items with
    | nil => rfl
    | cons item rest ih =>
      obtain ⟨text, rfl⟩ := each item List.mem_cons_self
      have others := ih fun other listed => each other (List.mem_cons_of_mem _ listed)
      simpa [SelectItem.path?] using others
  rw [restored _ fun item => exists_path_of_mem_listing filled, paths, decide_eq_false filled,
    List.map_map]
  rfl

end Expansion

namespace Registry

open Expansion

section Published

variable {config : MappingConfig} {calls : List Lookup}

/-- No field of a published descriptor precedes itself. -/
theorem not_precedes_self {descriptor : Descriptor}
    (published : descriptor ∈ (after config calls).arena) (field : FieldDescriptor) :
    ¬ descriptor.Precedes field field := by
  -- A field would have to be of a lower rank than its own, or be declared twice.
  rintro (lower | ⟨-, twice⟩)
  · exact Nat.lt_irrefl _ lower
  · -- A field that is declared twice would have its name twice.
    exact List.nodup_iff_sublist.mp (nodup_names_of_published published).of_map field twice

/-- A name belongs to one field of a published descriptor. -/
theorem eq_of_name_eq {descriptor : Descriptor}
    (published : descriptor ∈ (after config calls).arena) {first second : FieldDescriptor}
    (declared : first ∈ descriptor.fields) (declared' : second ∈ descriptor.fields)
    (same : first.name = second.name) : first = second :=
  -- Names are not repeated in a published descriptor.
  List.inj_on_of_nodup_map (nodup_names_of_published published) declared declared' same

end Published

end Registry

namespace Mapper

open Relation

end Mapper

end RemoteRecords
