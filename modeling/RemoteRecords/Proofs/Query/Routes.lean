import RemoteRecords.Proofs.Query.Chains
import RemoteRecords.Proofs.Query.Compilation

/-! Routes: a path of relationships before a star selects a run of items out of the bare star's. -/

namespace RemoteRecords

/-- Relationships that lead from one descriptor to another, one behind the other. -/
inductive Registry.Route (registry : Registry) :
    Descriptor → List FieldDescriptor → Descriptor → Prop where
  | here (descriptor : Descriptor) : Route registry descriptor [] descriptor
  | step {descriptor next reached : Descriptor} {field : FieldDescriptor}
      {rest : List FieldDescriptor} (declared : field ∈ descriptor.fields)
      (relationship : field.kind = .relationship) (leads : registry.related? field = some next)
      (behind : Route registry next rest reached) :
      Route registry descriptor (field :: rest) reached

/-- The names of fields as they are declared, each with a point behind it. -/
def pathText (fields : List FieldDescriptor) : String :=
  String.join (fields.map fun field => field.name ++ ".")

/-- The text of an item begins with a path. -/
def SelectItem.Below (path : String) (item : SelectItem) : Prop :=
  ∃ rest, item.text = path ++ rest

/-- A path goes on behind its first field. -/
theorem pathText_cons (field : FieldDescriptor) (rest : List FieldDescriptor) :
    pathText (field :: rest) = field.name ++ "." ++ pathText rest := by
  -- The first name and its point stand before the others.
  simp [pathText]

/-- A path of fields with a star behind it is a wildcard. -/
theorem wildcardText_names (fields : List FieldDescriptor) :
    Template.wildcardText (fields.map (·.name)) = pathText fields ++ "*" := by
  -- Both are the names with a point behind each, and a star in the end.
  simp [Template.wildcardText, pathText, Function.comp_def]

namespace Expansion

variable {registry : Registry} {levels : Nat} {descriptor : Descriptor} {path : String}
  {field : FieldDescriptor} {item : SelectItem}

/-- Below the root every item begins with the path that it is listed below. -/
theorem below_of_mem_listing (filled : path ≠ "")
    (listed : item ∈ listing registry levels descriptor path) : item.Below path := by
  -- Below the root everything listed is a chain that is spelled below the path.
  rw [listing_eq_map_path filled] at listed
  obtain ⟨chain, -, rfl⟩ := List.mem_map.mp listed
  exact ⟨_, rfl⟩

/-- Behind the path, an item listed of a field begins with a word, and this is the field's name if a
point follows. -/
theorem exists_word_of_mem_fieldListing (named : Identifier field.name)
    (listed : item ∈ fieldListing registry (listing registry levels) path field) :
    ∃ word rest : List Char, item.text.toList = path.toList ++ (word ++ rest) ∧
      (∀ c ∈ word, NameFault.isNameChar c = true) ∧
      (∀ c, rest.head? = some c → NameFault.isNameChar c = false) ∧
      (rest.head? = some '.' → word = field.name.toList) := by
  -- There is one case for each way in which an item is listed of a field.
  cases listedOf_of_mem listed with
  | value =>
    -- The whole text is the name below the path.
    exact ⟨field.name.toList, [], by simp [SelectItem.text], named.letters, by simp, fun _ => rfl⟩
  | @children element root =>
    -- The text begins with a parenthesis.
    subst root
    obtain ⟨more, same⟩ : ∃ more, (SelectItem.subquery (listing registry levels element "")
        field.name).text = "(SELECT " ++ more :=
      ⟨_, by rw [SelectItem.text]; simp only [String.append_assoc]; rfl⟩
    exact ⟨[], '(' :: "SELECT ".toList ++ more.toList, by simp [same], by simp, by simp; decide,
      by simp⟩
  | @clause branches others root =>
    -- The text begins with a word that has a blank behind it.
    subst root
    obtain ⟨more, same⟩ : ∃ more, (SelectItem.typeOf field.name branches others).text =
        "TYPEOF " ++ more :=
      ⟨_, by rw [SelectItem.text]; simp only [String.append_assoc]; rfl⟩
    exact ⟨"TYPEOF".toList, ' ' :: more.toList, by simp [same],
      List.all_eq_true.mp (by decide), by simp; decide, by simp⟩
  | behind relationship leads listed =>
    -- The name is followed by a point, behind which the item goes on.
    have below : path ++ field.name ++ "." ≠ "" := by simp
    obtain ⟨rest, same⟩ := below_of_mem_listing below listed
    refine ⟨field.name.toList, '.' :: rest.toList, by simp [same], named.letters, ?_, fun _ => rfl⟩
    rintro c first
    cases first
    rfl

/-- An item that is listed of a field and begins with a path through another one has to be listed of
that one. -/
theorem name_eq_of_below {other : FieldDescriptor} {more : String} (named : Identifier field.name)
    (named' : Identifier other.name)
    (listed : item ∈ fieldListing registry (listing registry levels) path other)
    (below : item.Below (path ++ field.name ++ "." ++ more)) : other.name = field.name := by
  -- Behind the path the text begins with one word, and so does what is below the field.
  obtain ⟨word, rest, text, inside, stops, point⟩ := exists_word_of_mem_fieldListing named' listed
  obtain ⟨behind, same⟩ := below
  have chars : word ++ rest = field.name.toList ++ '.' :: (more.toList ++ behind.toList) := by
    rw [same] at text
    simpa using text.symm
  -- The same word is taken from both sides, since no point stands in a name.
  have stops' : ∀ c, ('.' :: (more.toList ++ behind.toList)).head? = some c →
      NameFault.isNameChar c = false := by
    rintro c first
    cases first
    rfl
  obtain ⟨taken, left⟩ := Template.takeWhile_append_of_stop inside stops
  obtain ⟨taken', left'⟩ := Template.takeWhile_append_of_stop named.letters stops'
  rw [chars] at taken left
  have dotted : rest.head? = some '.' := by rw [← left, left']; rfl
  exact String.toList_injective ((point dotted).symm.trans (taken.symm.trans taken'))

end Expansion

namespace Registry

open Expansion

variable {config : MappingConfig} {calls : List Lookup} {descriptor reached : Descriptor}

/-- What lies at the end of a route is published. -/
theorem Route.published {fields : List FieldDescriptor}
    (route : (after config calls).Route descriptor fields reached)
    (published : descriptor ∈ (after config calls).arena) :
    reached ∈ (after config calls).arena := by
  -- The induction is on the route, and each link leads to a published descriptor.
  induction route with
  | here => exact published
  | step _ _ leads _ ih => exact ih (mem_arena_of_related? leads)

/-- The fields of a route have identifiers for names. -/
theorem Route.identifiers {fields : List FieldDescriptor}
    (route : (after config calls).Route descriptor fields reached)
    (published : descriptor ∈ (after config calls).arena) :
    ∀ name ∈ fields.map (·.name), Identifier name := by
  -- The induction is on the route, each of whose fields is declared by a published descriptor.
  induction route with
  | here => simp
  | step declared _ leads _ ih =>
    exact List.forall_mem_cons.mpr
      ⟨identifier_of_declared published declared, ih (mem_arena_of_related? leads)⟩

/-- The fields that a query can name stand once each, before and behind any one of them. -/
theorem exists_split_of_queried (published : descriptor ∈ (after config calls).arena)
    {field : FieldDescriptor} (queried : field ∈ descriptor.queryFields) :
    ∃ before later, descriptor.queryFields = before ++ field :: later ∧
      ∀ other ∈ before ++ later, other ∈ descriptor.fields ∧ other.name ≠ field.name := by
  -- The fields are split at the one in question, and no other one has its name.
  obtain ⟨before, later, split⟩ := List.append_of_mem queried
  refine ⟨before, later, split, fun other listed => ?_⟩
  have declared : ∀ other ∈ descriptor.queryFields, other ∈ descriptor.fields :=
    fun other queried => (Descriptor.mem_queryFields_iff.mp queried).1
  have among : other ∈ descriptor.queryFields := by
    rw [split]
    simp only [List.mem_append, List.mem_cons] at listed ⊢
    exact listed.imp_right .inr
  refine ⟨declared other among, fun same => ?_⟩
  -- A field of the same name would be the field itself and precede itself.
  obtain rfl := eq_of_name_eq published (declared other among) (declared field queried) same
  have ordered := descriptor.pairwise_queryFields
  rw [split, List.pairwise_append, List.pairwise_cons] at ordered
  rcases List.mem_append.mp listed with early | late
  · exact not_precedes_self published other (ordered.2.2 other early other List.mem_cons_self)
  · exact not_precedes_self published other (ordered.2.1.1 other late)

/-- What is listed of a record that a relationship leads to stands in one run among what is listed of
its owner, and no other item there begins with the name of the relationship and a point. -/
theorem exists_run_of_declared (published : descriptor ∈ (after config calls).arena)
    {field : FieldDescriptor} (declared : field ∈ descriptor.fields)
    (relationship : field.kind = .relationship) {next : Descriptor}
    (leads : (after config calls).related? field = some next) {path : String}
    (single : path = "" → field.isPolymorphic = false) (levels : Nat) :
    ∃ before later, listing (after config calls) (levels + 1) descriptor path =
        before ++ listing (after config calls) levels next (path ++ field.name ++ ".") ++ later ∧
      ∀ item ∈ before ++ later, ∀ more, ¬ item.Below (path ++ field.name ++ "." ++ more) := by
  -- A relationship is never metadata, so queries can name it.
  have data := (role_of_relationship published declared
    (by simp [FieldDescriptor.isReference, relationship])).1
  obtain ⟨early, late, split, apart⟩ := exists_split_of_queried published
    (Descriptor.mem_queryFields_iff.mpr ⟨declared, data⟩)
  have one : ¬ (field.isPolymorphic = true ∧ path = "") := by
    rintro ⟨polymorphic, root⟩
    rw [single root] at polymorphic
    cases polymorphic
  have own : fieldListing (after config calls) (listing (after config calls) levels) path field =
      listing (after config calls) levels next (path ++ field.name ++ ".") := by
    rw [fieldListing_of_relationship relationship one, leads, Option.elim_some]
  refine ⟨_, _, by rw [listing, split, List.flatMap_append, List.flatMap_cons, own,
    List.append_assoc], fun item listed more below => ?_⟩
  -- The item is listed of another field, whose name would have to be the same.
  rw [← List.flatMap_append] at listed
  obtain ⟨other, among, here⟩ := List.mem_flatMap.mp listed
  obtain ⟨declared', differs⟩ := apart other among
  exact differs (name_eq_of_below (identifier_of_declared published declared)
    (identifier_of_declared published declared') here below)

/-- What is listed at the end of a route stands in one run among what is listed at its beginning, and
no other item there begins with the path of the route. -/
theorem Route.exists_run {fields : List FieldDescriptor}
    (route : (after config calls).Route descriptor fields reached)
    (published : descriptor ∈ (after config calls).arena) (path : String)
    (single : path = "" → ∀ field ∈ fields.head?, field.isPolymorphic = false) (levels : Nat) :
    ∃ before later, listing (after config calls) (levels + fields.length) descriptor path =
        before ++ listing (after config calls) levels reached (path ++ pathText fields) ++ later ∧
      ∀ item ∈ before ++ later, ¬ item.Below (path ++ pathText fields) := by
  -- The induction is on the route: each of its fields is one level, and the rest is below its name.
  induction route generalizing path with
  | here => exact ⟨[], [], by simp [pathText], by simp⟩
  | @step descriptor next reached field rest declared relationship leads behind ih =>
    obtain ⟨early, late, outer, strangers⟩ := exists_run_of_declared published declared relationship
      leads (fun root => single root field rfl) (levels + rest.length)
    have filled : path ++ field.name ++ "." ≠ "" := by simp
    obtain ⟨before, later, inner, others⟩ := ih (mem_arena_of_related? leads) _
      fun none => absurd none filled
    have text : path ++ pathText (field :: rest) = path ++ field.name ++ "." ++ pathText rest := by
      simp only [pathText_cons, String.append_assoc]
    refine ⟨early ++ before, later ++ late, ?_, fun item listed => ?_⟩
    · -- The inner run lies within the outer one.
      rw [List.length_cons, ← Nat.add_assoc, outer, inner, text]
      simp only [List.append_assoc]
    · -- What is outside of either run does not begin with its path.
      rw [text]
      have among : item ∈ early ++ late ∨ item ∈ before ++ later := by
        simp only [List.mem_append] at listed ⊢
        tauto
      rcases among with outside | inside
      · exact strangers item outside (pathText rest)
      · exact others item inside

end Registry

namespace Query

open Expansion Template Registry

/-- A template that is one wildcard compiles to its field list or with its fault. -/
theorem compile_wildcardText {registry : Registry} {root : Descriptor} {segments : List String}
    (named : ∀ segment ∈ segments, Identifier segment) {options : CompileOptions}
    (unbounded : bounds options = "") :
    compile registry root (wildcardText segments) options =
      expandWildcard (selectList registry) registry root options.depth segments := by
  -- The template is cut into the one wildcard, and nothing is added to its text.
  rw [compile_eq (splitAtLiteral_wildcardText named) (cut_wildcardText named), unbounded,
    List.mapM_cons, List.mapM_nil]
  cases expandWildcard (selectList registry) registry root options.depth segments with
  | error fault => rfl
  | ok text => exact congrArg Except.ok (by simp [filled])

/-- A declared field is found by its name. -/
theorem field?_of_declared {config : MappingConfig} {calls : List Lookup} {descriptor : Descriptor}
    (published : descriptor ∈ (after config calls).arena) {field : FieldDescriptor}
    (declared : field ∈ descriptor.fields) : descriptor.field? field.name = some field := by
  -- Whatever is found has the name, and only the field itself does.
  have somewhere : (descriptor.field? field.name).isSome := by
    rw [Descriptor.field?, List.find?_isSome]
    exact ⟨field, declared, by simp⟩
  obtain ⟨other, found⟩ := Option.isSome_iff_exists.mp somewhere
  have same : other.name = field.name := by simpa using List.find?_some found
  rw [found, eq_of_name_eq published (List.mem_of_find?_eq_some found) declared same]

/-- A path of declared names is followed along the route of their fields. -/
theorem follow_of_route {config : MappingConfig} {calls : List Lookup} {wildcard path : String}
    {descriptor reached : Descriptor} {fields : List FieldDescriptor}
    (published : descriptor ∈ (after config calls).arena)
    (route : (after config calls).Route descriptor fields reached) :
    follow (after config calls) wildcard descriptor path (fields.map (·.name)) =
      .ok (reached, path ++ pathText fields) := by
  -- The induction is on the route, whose fields are found by their exact names.
  induction route generalizing path with
  | here => simp [follow, pathText]
  | @step descriptor next reached field rest declared relationship leads behind ih =>
    have found : descriptor.fieldIgnoringCase? field.name = some field := by
      simp [Descriptor.fieldIgnoringCase?, field?_of_declared published declared]
    refine follow_cons_eq_ok_iff.mpr ⟨field, next, found, by simp [FieldDescriptor.isReference,
      relationship], leads, ?_⟩
    rw [ih (mem_arena_of_related? leads), pathText_cons]
    simp only [String.append_assoc]

/-- No segment is left out of a path of declared names. -/
theorem withoutRoot_of_route {config : MappingConfig} {calls : List Lookup}
    {root reached : Descriptor} {fields : List FieldDescriptor}
    (published : root ∈ (after config calls).arena)
    (route : (after config calls).Route root fields reached) :
    withoutRoot root (fields.map (·.name)) = fields.map (·.name) := by
  -- The first segment is the name of a field, which has precedence over the name of the root.
  cases route with
  | here => rfl
  | step declared => simp [withoutRoot, field?_of_declared published declared]

/-- The answer to a template that is one wildcard: the items, if there are any. -/
def wildcardAnswer (wildcard : String) (items : List SelectItem) : Except QueryFault String :=
  if items = [] then .error (.noFields wildcard) else .ok (SelectItem.listText items)

/-- A route with a star behind it compiles to what is listed at its end. -/
theorem compile_of_route {config : MappingConfig} {calls : List Lookup}
    {root reached : Descriptor} {fields : List FieldDescriptor}
    (published : root ∈ (after config calls).arena)
    (route : (after config calls).Route root fields reached) (depth : Nat) :
    compile (after config calls) root (pathText fields ++ "*") { depth } =
      wildcardAnswer (pathText fields ++ "*")
        (listing (after config calls) (depth - fields.length + 1) reached (pathText fields)) := by
  -- The wildcard is expanded where the route leads, and all of the path is taken from the depth.
  rw [← wildcardText_names, compile_wildcardText (route.identifiers published) rfl,
    expandWildcard_of_published published, withoutRoot_of_route published route,
    follow_of_route published route]
  simp only [bind, Except.bind, String.empty_append, List.length_map]
  rfl

end Query

namespace Mapper

open Expansion Relation SelectItem

/--
A path of relationships before a star selects a run of items out of those of the bare star.

The items of the run are those of the bare star that begin with the path, all of them and no others.
So the template fails exactly if there are none, and otherwise its text is theirs.
-/
theorem path_wildcard_selects_run {config : MappingConfig} {mapper : Mapper}
    (used : ReflTransGen Step (ofConfig config) mapper) {root reached : Descriptor}
    (published : root ∈ mapper.registry.arena) {fields : List FieldDescriptor}
    (route : mapper.registry.Route root fields reached) (filled : fields ≠ [])
    (single : ∀ first ∈ fields.head?, first.isPolymorphic = false) {depth : Nat}
    (within : fields.length ≤ depth) :
    ∃ before run later,
      selectList mapper.registry depth root "" = .ok (before ++ run ++ later) ∧
      ((compile root "*" { depth }).run.run mapper).1 =
        (Query.wildcardAnswer "*" (before ++ run ++ later)).mapError .queryCompile ∧
      (∀ item ∈ run, item.Below (pathText fields)) ∧
      (∀ item ∈ before ++ later, ¬ item.Below (pathText fields)) ∧
      ((compile root (pathText fields ++ "*") { depth }).run.run mapper).1 =
        (Query.wildcardAnswer (pathText fields ++ "*") run).mapError .queryCompile := by
  -- Both templates list what is known, and the one listing is a run of the other.
  obtain ⟨calls, history⟩ := exists_history_of_used used
  simp only [run_compile_of_used used]
  rw [history] at published route ⊢
  -- The levels that are left at the end of the path and its length are those of the star.
  obtain ⟨before, later, listed, others⟩ := route.exists_run published ""
    (fun _ => single) (depth - fields.length + 1)
  have levels : depth - fields.length + 1 + fields.length = depth + 1 := by omega
  rw [levels, String.empty_append] at listed
  rw [String.empty_append] at others
  have star := Query.compile_of_route published (.here root) depth
  have text : pathText [] = "" := rfl
  rw [text, String.empty_append, List.length_nil, Nat.sub_zero, listed] at star
  -- The path has a field, so it is not empty.
  have below : pathText fields ≠ "" := by
    cases fields with
    | nil => exact absurd rfl filled
    | cons => simp [pathText_cons]
  refine ⟨before, _, later, ?_, by rw [star], fun item => below_of_mem_listing below, others,
    by rw [Query.compile_of_route published route]⟩
  rw [selectList_eq_listing (Registry.after_closed config calls) depth root published, listed]

/-- The parents of an account are the run of its items that begin with their relationship. -/
theorem path_wildcard_selects_run_directory :
    ∃ account ∈ ofDirectory.registry.arena, ∃ before run later,
      selectList ofDirectory.registry 2 account "" = .ok (before ++ run ++ later) ∧
      (∀ item ∈ run, item.Below "Parent.") ∧ (∀ item ∈ before ++ later, ¬ item.Below "Parent.") ∧
      listText run = "Parent.Name,Parent.Parent.Name,Parent.Parent.Tags,Parent.Tags" ∧
      ((compile account "Parent.*" { depth := 2 }).run.run ofDirectory).1 = .ok (listText run) ∧
      ((compile account "*" { depth := 2 }).run.run ofDirectory).1 =
        .ok ("Name," ++ listText run ++
          ",(SELECT Email,Account.Name,Account.Tags FROM Contacts),Tags") := by
  -- Both templates are compiled, and the law tells which items their texts are made of.
  have held : ∃ account parent, ofDirectory.registry.arena[0]? = some account ∧
      account.fields.find? (·.name == "Parent") = some parent ∧ parent.kind = .relationship ∧
      ofDirectory.registry.related? parent = some account ∧ parent.isPolymorphic = false ∧
      pathText [parent] = "Parent." ∧
      Query.compile ofDirectory.registry account "Parent.*" { depth := 2 } =
        .ok "Parent.Name,Parent.Parent.Name,Parent.Parent.Tags,Parent.Tags" ∧
      Query.compile ofDirectory.registry account "*" { depth := 2 } =
        .ok ("Name,Parent.Name,Parent.Parent.Name,Parent.Parent.Tags,Parent.Tags," ++
          "(SELECT Email,Account.Name,Account.Tags FROM Contacts),Tags") := by
    rw [registry_ofDirectory, Registry.after_directory]
    exact ⟨_, _, rfl, rfl, rfl, rfl, rfl, by decide, by decide +kernel, by decide +kernel⟩
  obtain ⟨account, parent, atPlace, found, relationship, leads, single, text, below, bare⟩ := held
  -- The path is a route from accounts to themselves.
  have published := List.mem_of_getElem? atPlace
  obtain ⟨before, run, later, listed, -, inside, outside, answer⟩ :=
    path_wildcard_selects_run used_ofDirectory published
      (.step (List.mem_of_find?_eq_some found) relationship leads (.here account))
      (by simp) (by simp [single]) (show [parent].length ≤ 2 by simp)
  rw [text] at inside outside answer
  -- The text of the run is what the path compiles to.
  have compiled : Query.wildcardAnswer "Parent.*" run =
      .ok "Parent.Name,Parent.Parent.Name,Parent.Parent.Tags,Parent.Tags" := by
    have whole := run_compile_of_used used_ofDirectory account "Parent.*" { depth := 2 }
    rw [below] at whole
    exact mapError_eq_ok_iff.mp (answer.symm.trans whole)
  have items : listText run = "Parent.Name,Parent.Parent.Name,Parent.Parent.Tags,Parent.Tags" := by
    rw [Query.wildcardAnswer] at compiled
    split at compiled
    · cases compiled
    · exact Except.ok.inj compiled
  refine ⟨account, published, before, run, later, listed, inside, outside, items, ?_, ?_⟩
  · rw [items, run_compile_of_used used_ofDirectory, below]
    rfl
  · rw [items, run_compile_of_used used_ofDirectory, bare]
    rfl

end Mapper

end RemoteRecords
