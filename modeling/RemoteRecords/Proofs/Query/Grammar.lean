import RemoteRecords.Proofs.Query.Listing
import RemoteRecords.Proofs.Registry.Published

/-! Grammar: a field list is a well-formed select list, and nothing in it lies beyond its depth. -/

namespace RemoteRecords

/-- Identifiers joined by points. -/
inductive DottedPath : String → Prop where
  | name {name : String} (named : Identifier name) : DottedPath name
  | dot {stem name : String} (dotted : DottedPath stem) (named : Identifier name) :
      DottedPath (stem ++ "." ++ name)

/-- A path that fields are listed below: none, or identifiers with a point behind each. -/
def PathPrefix (path : String) : Prop :=
  path = "" ∨ ∃ stem, DottedPath stem ∧ path = stem ++ "."

/-- The number of points in a text. -/
def points (text : String) : Nat :=
  text.toList.count '.'

mutual

/-- The text of a select list that stands inside so many clauses and subqueries. -/
inductive ListText (path : String) (depth : Nat) : Nat → String → Prop where
  | one {enclosing : Nat} {item : String} (first : ItemText path depth enclosing item) :
      ListText path depth enclosing item
  | more {enclosing : Nat} {item rest : String} (first : ItemText path depth enclosing item)
      (others : ListText path depth enclosing rest) :
      ListText path depth enclosing (item ++ "," ++ rest)

/-- The text of an item. The points of a path beyond the given one, together with the clauses and
subqueries around it, are no more than the depth. -/
inductive ItemText (path : String) (depth : Nat) : Nat → String → Prop where
  | path {enclosing : Nat} {rest : String} (dotted : DottedPath (path ++ rest))
      (within : points rest + enclosing ≤ depth) : ItemText path depth enclosing (path ++ rest)
  | subquery {enclosing : Nat} {list relation : String}
      (items : ListText path depth (enclosing + 1) list) (named : Identifier relation) :
      ItemText path depth enclosing ("(SELECT " ++ list ++ " FROM " ++ relation ++ ")")
  | typeOf {enclosing : Nat} {field branches : String} (named : Identifier field)
      (held : BranchTexts path depth (enclosing + 1) branches) :
      ItemText path depth enclosing ("TYPEOF " ++ field ++ branches ++ " END")
  | typeOfElse {enclosing : Nat} {field branches others : String} (named : Identifier field)
      (held : BranchTexts path depth (enclosing + 1) branches)
      (last : ListText path depth (enclosing + 1) others) :
      ItemText path depth enclosing
        ("TYPEOF " ++ field ++ branches ++ " ELSE " ++ others ++ " END")

/-- The texts of the branches of a clause, of which there is at least one. -/
inductive BranchTexts (path : String) (depth : Nat) : Nat → String → Prop where
  | one {enclosing : Nat} {name list : String} (named : Identifier name)
      (items : ListText path depth enclosing list) :
      BranchTexts path depth enclosing (" WHEN " ++ name ++ " THEN " ++ list)
  | more {enclosing : Nat} {name list rest : String} (named : Identifier name)
      (items : ListText path depth enclosing list)
      (others : BranchTexts path depth enclosing rest) :
      BranchTexts path depth enclosing (" WHEN " ++ name ++ " THEN " ++ list ++ rest)

end

/-- The points of two texts together are those of both. -/
theorem points_append (left right : String) :
    points (left ++ right) = points left + points right := by
  -- Points are counted character by character.
  simp [points]

/-- An identifier has no points. -/
theorem Identifier.points_eq_zero {name : String} (named : Identifier name) : points name = 0 :=
  -- A point is no character of names.
  List.count_eq_zero_of_not_mem (named.not_mem (by decide))

/-- A field below a path has a dotted path. -/
theorem PathPrefix.dottedPath {path name : String} (opens : PathPrefix path)
    (named : Identifier name) : DottedPath (path ++ name) := by
  -- The name stands alone or behind a point.
  rcases opens with rfl | ⟨stem, dotted, rfl⟩
  · simpa using DottedPath.name named
  · exact .dot dotted named

/-- What lies behind a field below a path is listed below a path again. -/
theorem PathPrefix.below {path name : String} (opens : PathPrefix path)
    (named : Identifier name) : PathPrefix (path ++ name ++ ".") :=
  -- The name makes a dotted path, and the point behind it a path to be listed below.
  .inr ⟨path ++ name, opens.dottedPath named, rfl⟩

namespace SelectItem

/-- The texts of items are their texts one by one. -/
theorem texts_eq_map (items : List SelectItem) : texts items = items.map text := by
  -- The induction is on the items, as the texts are made.
  induction items with
  | nil => rfl
  | cons item rest ih => rw [texts, ih, List.map_cons]

/-- The text of a branch, with the blank before it. -/
def branchText (branch : String × List SelectItem) : String :=
  " WHEN " ++ branch.1 ++ " THEN " ++ listText branch.2

/-- With a blank before each of them, the texts of branches are their texts one by one. -/
theorem map_branchTexts (branches : List (String × List SelectItem)) :
    (branchTexts branches).map (" " ++ ·) = branches.map branchText := by
  -- The induction is on the branches, and the blank is drawn into the word that follows it.
  induction branches with
  | nil => rfl
  | cons branch rest ih =>
    have blank : " " ++ "WHEN " = " WHEN " := by decide
    rw [branchTexts, List.map_cons, List.map_cons, ih, branchText, listText, ← blank]
    simp only [String.append_assoc]

end SelectItem

namespace Expansion

open SelectItem

variable {path : String} {depth enclosing : Nat}

/-- Items whose texts are well-formed make up a list whose text is. -/
theorem listText_of_items {items : List SelectItem} (filled : items ≠ [])
    (each : ∀ item ∈ items, ItemText path depth enclosing item.text) :
    ListText path depth enclosing (listText items) := by
  -- The list is taken apart item by item, like the grammar does it.
  rw [listText, texts_eq_map]
  induction items with
  | nil => exact absurd rfl filled
  | cons item rest ih =>
    have first := each item List.mem_cons_self
    cases rest with
    | nil => simpa using ListText.one first
    | cons second others =>
      -- A comma stands between the first item and the others.
      have behind := ih (List.cons_ne_nil _ _) fun other listed =>
        each other (List.mem_cons_of_mem _ listed)
      simpa using ListText.more first behind

/-- Texts that are set apart by blanks have a blank before each of them. -/
theorem blank_append_intercalate {texts : List String} (filled : texts ≠ []) :
    " " ++ String.intercalate " " texts = String.join (texts.map (" " ++ ·)) := by
  -- The induction is on the texts, and the first blank is that of the first text.
  induction texts with
  | nil => exact absurd rfl filled
  | cons text rest ih =>
    cases rest with
    | nil => simp
    | cons second others =>
      rw [String.intercalate_cons_cons, List.map_cons, String.join_cons,
        ← ih (List.cons_ne_nil _ _)]
      simp only [String.append_assoc]

/-- Branches whose lists are well-formed are so together. -/
theorem branchTexts_of_lists {branches : List (String × List SelectItem)} (filled : branches ≠ [])
    (each : ∀ branch ∈ branches, Identifier branch.1 ∧
      ListText path depth enclosing (listText branch.2)) :
    BranchTexts path depth enclosing (String.join (branches.map branchText)) := by
  -- The induction is on the branches, of which there is a first one.
  induction branches with
  | nil => exact absurd rfl filled
  | cons branch rest ih =>
    obtain ⟨named, items⟩ := each branch List.mem_cons_self
    cases rest with
    | nil => simpa [branchText] using BranchTexts.one named items
    | cons second others =>
      have behind := ih (List.cons_ne_nil _ _) fun other listed =>
        each other (List.mem_cons_of_mem _ listed)
      simpa [branchText] using BranchTexts.more named items behind

/-- The text of a clause has its branches one behind the other, and the list for all other types
behind them if there is one. -/
theorem text_typeOf {field : String} {branches : List (String × List SelectItem)}
    (filled : branches ≠ []) (others : List SelectItem) :
    (SelectItem.typeOf field branches others).text =
      "TYPEOF " ++ field ++ String.join (branches.map branchText) ++
        (if others = [] then "" else " ELSE " ++ listText others) ++ " END" := by
  -- Each part of the clause, the last one included, has a blank before it.
  have texts : branchTexts branches ≠ [] := by
    intro none
    have silent := map_branchTexts branches
    rw [none, List.map_nil] at silent
    exact filled (List.map_eq_nil_iff.mp silent.symm)
  have spaced (last : List String) :
      " " ++ String.intercalate " " (branchTexts branches ++ last) =
        String.join (branches.map branchText) ++ String.join (last.map (" " ++ ·)) := by
    rw [blank_append_intercalate (List.append_ne_nil_of_left_ne_nil texts last), List.map_append,
      String.join_append, map_branchTexts]
  have whole (last : List String) :
      "TYPEOF " ++ field ++ " " ++ String.intercalate " " (branchTexts branches ++ last) ++ " END" =
        "TYPEOF " ++ field ++ String.join (branches.map branchText) ++
          String.join (last.map (" " ++ ·)) ++ " END" := by
    have inside := congrArg (fun text => "TYPEOF " ++ field ++ text ++ " END") (spaced last)
    simpa only [String.append_assoc] using inside
  -- The list for all other types is one part more, if it is there.
  rw [text, whole]
  by_cases none : others = []
  · simp [none]
  · have blank (list : String) : " " ++ ("ELSE " ++ list) = " ELSE " ++ list := by
      rw [← String.append_assoc]
      rfl
    simp only [none, List.isEmpty_iff, if_false, List.map_cons, List.map_nil, String.join_cons,
      String.join_nil, String.append_empty, listText]
    rw [blank]

/-- A clause is well-formed if its lists are, with or without one for all other types. -/
theorem itemText_typeOf {field : String} {branches : List (String × List SelectItem)}
    {others : List SelectItem} (named : Identifier field) (filled : branches ≠ [])
    (each : ∀ branch ∈ branches, Identifier branch.1 ∧
      ListText path depth (enclosing + 1) (listText branch.2))
    (last : others ≠ [] → ListText path depth (enclosing + 1) (listText others)) :
    ItemText path depth enclosing (SelectItem.typeOf field branches others).text := by
  -- Both forms of a clause are known to the grammar.
  have held := branchTexts_of_lists filled each
  rw [text_typeOf filled]
  split
  · simpa [String.append_assoc] using ItemText.typeOf named held
  · rename_i more
    simpa [String.append_assoc] using ItemText.typeOfElse named held (last more)

/-- Every item listed of a published descriptor is well-formed. What is added to the given path, the
clauses and subqueries around the item and the levels below it together keep within the depth. -/
theorem itemText_of_mem_listing {config : MappingConfig} {calls : List Lookup} {levels : Nat}
    {descriptor : Descriptor} (published : descriptor ∈ (Registry.after config calls).arena)
    {added : String} (opens : PathPrefix (path ++ added))
    (within : points added + enclosing + levels ≤ depth + 1) :
    ∀ item ∈ listing (Registry.after config calls) levels descriptor (path ++ added),
      ItemText path depth enclosing item.text := by
  -- The induction is on the levels: each relationship, clause or subquery takes one of them.
  induction levels generalizing descriptor added enclosing with
  | zero => simp [listing]
  | succ levels ih =>
    intro item listed
    obtain ⟨field, queried, own⟩ := List.mem_flatMap.mp listed
    have declared := (Descriptor.mem_queryFields_iff.mp queried).1
    have named := Registry.identifier_of_declared published declared
    -- Inside a clause or subquery, which opens at the root only, paths begin anew.
    have inside : path ++ added = "" → ∀ next ∈ (Registry.after config calls).arena,
        listing (Registry.after config calls) levels next "" ≠ [] →
        ListText path depth (enclosing + 1)
          (listText (listing (Registry.after config calls) levels next "")) := by
      intro root next reached filled
      have none : path = "" ∧ added = "" := by simpa using root
      obtain ⟨rfl, rfl⟩ := none
      have opens : PathPrefix ("" ++ "") := .inl rfl
      have within : points "" + (enclosing + 1) + levels ≤ depth + 1 := by omega
      exact listText_of_items filled (ih reached opens within)
    cases listedOf_of_mem own with
    | value =>
      -- The name adds no point.
      have dotted := opens.dottedPath named
      have bound : points (added ++ field.name) + enclosing ≤ depth := by
        rw [points_append, named.points_eq_zero]
        omega
      rw [String.append_assoc] at dotted
      rw [text, String.append_assoc]
      exact .path dotted bound
    | children root _ leads filled =>
      -- The elements are listed from the root on, one level deeper.
      exact .subquery (inside root _ (Registry.mem_arena_of_related? leads) filled) named
    | clause root _ some alternatives fallback =>
      -- So are the alternatives and the fallback of a clause.
      refine itemText_typeOf named some (fun branch held => ?_) (fun filled => ?_)
      · obtain ⟨alternative, reached, rfl, filled⟩ := alternatives branch held
        exact ⟨Registry.identifier_of_published reached, inside root _ reached filled⟩
      · obtain ⟨next, reached, rfl⟩ := fallback filled
        exact inside root next reached filled
    | behind _ leads listed =>
      -- The name is added to the path, and the one point behind it.
      have opens' := opens.below named
      have bound : points (added ++ field.name ++ ".") + enclosing + levels ≤ depth + 1 := by
        have one : points "." = 1 := by decide
        rw [points_append, points_append, named.points_eq_zero]
        omega
      have same : path ++ added ++ field.name ++ "." = path ++ (added ++ field.name ++ ".") := by
        simp only [String.append_assoc]
      rw [same] at listed opens'
      exact ih (Registry.mem_arena_of_related? leads) opens' bound item listed

end Expansion

namespace Mapper

open Relation

/--
The field list of a published descriptor is empty or a well-formed select list.

No item, list or branch of it is empty.
For every path in it, the points beyond the given path and the clauses and subqueries around it are
together no more than the depth.
-/
theorem fieldList_is_wellFormed {config : MappingConfig} {mapper : Mapper}
    (used : ReflTransGen Step (ofConfig config) mapper) {descriptor : Descriptor}
    (published : descriptor ∈ mapper.registry.arena) {path : String} (opens : PathPrefix path)
    (depth : Nat) :
    ∃ text, ((fieldList descriptor path depth).run.run mapper).1 = .ok text ∧
      (text = "" ∨ ListText path depth 0 text) := by
  -- The field list is the listing within one level more than the depth, item by item well-formed.
  obtain ⟨-, answered⟩ := run_fieldList_of_used used published path depth
  obtain ⟨calls, history⟩ := (steps_sound (sound_ofConfig config) used).1.history
  rw [history] at published answered
  refine ⟨_, answered, ?_⟩
  by_cases empty : Expansion.listing (Registry.after config calls) (depth + 1) descriptor path = []
  · -- Without items there is no text either.
    rw [empty]
    exact .inl rfl
  · -- At first nothing is added to the path.
    have same : path ++ "" = path := String.append_empty
    have within : points "" + 0 + (depth + 1) ≤ depth + 1 := by
      have none : points "" = 0 := rfl
      omega
    have items := Expansion.itemText_of_mem_listing published (same.symm ▸ opens) within
    rw [same] at items
    exact .inr (Expansion.listText_of_items empty items)

/-- The field list of accounts is a list of paths with a subquery among them. -/
theorem fieldList_is_wellFormed_directory :
    ListText "" 1 0 "Name,Parent.Name,Parent.Tags,(SELECT Email FROM Contacts),Tags" := by
  -- The text is computed, and it is the one of which the law speaks.
  have held : ∃ account, ofDirectory.registry.arena[0]? = some account ∧
      (Expansion.selectList ofDirectory.registry 1 account "").map SelectItem.listText =
        .ok "Name,Parent.Name,Parent.Tags,(SELECT Email FROM Contacts),Tags" := by
    rw [registry_ofDirectory, Registry.after_directory]
    exact ⟨_, rfl, by decide +kernel⟩
  obtain ⟨account, found, listed⟩ := held
  have published := List.mem_of_getElem? found
  obtain ⟨text, answered, wellFormed⟩ :=
    fieldList_is_wellFormed used_ofDirectory published (.inl rfl : PathPrefix "") 1
  -- The list that is answered is the one that was expanded.
  obtain ⟨expanded, same⟩ := run_fieldList_of_used used_ofDirectory published "" 1
  rw [expanded] at listed
  obtain rfl := Except.ok.inj (answered.symm.trans same)
  rw [Except.ok.inj listed] at wellFormed
  exact wellFormed.resolve_left (by decide)

end Mapper

end RemoteRecords
