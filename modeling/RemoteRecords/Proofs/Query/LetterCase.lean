import RemoteRecords.Proofs.Query.Chains
import RemoteRecords.Proofs.Query.Compilation

/-! Letter case: templates that spell the paths of their wildcards in different cases. -/

namespace RemoteRecords

open NameFault

section Letters

/-- Only letters have another lower case, and it is a letter again. -/
theorem toLower_eq_or_letters (c : Char) :
    c.toLower = c ∨ c.isAlpha = true ∧ c.toLower.isAlpha = true := by
  unfold Char.toLower
  by_cases upper : c.val ≥ 'A'.val ∧ c.val ≤ 'Z'.val
  · -- The capitals are moved to the small letters by the distance between the two ranges.
    right
    rw [dif_pos upper]
    have hA : 'A'.val.toNat = 65 := rfl
    have hZ : 'Z'.val.toNat = 90 := rfl
    have distance : ('a'.val - 'A'.val).toNat = 32 := rfl
    simp only [ge_iff_le, UInt32.le_iff_toNat_le] at upper
    have moved : (c.val + ('a'.val - 'A'.val)).toNat = c.val.toNat + 32 := by
      rw [UInt32.toNat_add, distance]
      omega
    rw [isAlpha_iff, isAlpha_iff]
    simp only [moved]
    omega
  · -- Everything else is left as it is.
    left
    rw [dif_neg upper]

/-- A character that is no letter is the lower case of itself alone. -/
theorem eq_of_toLower_eq {c d : Char} (plain : d.isAlpha = false) (same : c.toLower = d) :
    c = d := by
  -- A letter would have a letter for its lower case.
  rcases toLower_eq_or_letters c with kept | ⟨-, letter⟩
  · exact kept.symm.trans same
  · rw [same, plain] at letter
    cases letter

/-- A character of names is one in any case. -/
theorem isNameChar_toLower (c : Char) : isNameChar c.toLower = isNameChar c := by
  -- Letters are characters of names in both cases.
  rcases toLower_eq_or_letters c with kept | ⟨letter, lower⟩
  · rw [kept]
  · simp [isNameChar, Char.isAlphanum, letter, lower]

/-- A digit is one in any case. -/
theorem isDigit_toLower (c : Char) : c.toLower.isDigit = c.isDigit := by
  -- Letters are no digits in either case.
  rcases toLower_eq_or_letters c with kept | ⟨letter, lower⟩
  · rw [kept]
  · rw [isDigit_of_isAlpha letter, isDigit_of_isAlpha lower]

end Letters

/-- Names are the same up to case if their lower cases are. -/
theorem sameIgnoringCase_iff {left right : String} :
    sameIgnoringCase left right = true ↔
      left.toList.map Char.toLower = right.toList.map Char.toLower := by
  -- This is how names are compared, said in terms of lists.
  simp [sameIgnoringCase]

/-- What is an identifier in one case is one in any other. -/
theorem Identifier.recased {name name' : String} (named : Identifier name)
    (same : name.toList.map Char.toLower = name'.toList.map Char.toLower) : Identifier name' := by
  -- Each character of the one stands for one of the other that is of the same kind.
  have kind : ∀ {c c' : Char}, c.toLower = c'.toLower →
      isNameChar c = isNameChar c' ∧ c.isDigit = c'.isDigit := by
    intro c c' lower
    rw [← isNameChar_toLower c, ← isDigit_toLower c, lower, isNameChar_toLower, isDigit_toLower]
    exact ⟨rfl, rfl⟩
  refine ⟨?_, fun c' first => ?_, fun c' listed => ?_⟩
  · -- Only the empty name has the lower case of the empty one.
    rintro rfl
    exact named.filled (by simpa using same)
  · -- The first character stands for the first one.
    have heads := congrArg List.head? same
    rw [List.head?_map, List.head?_map, first] at heads
    obtain ⟨c, first', lower⟩ := Option.map_eq_some_iff.mp heads
    rw [← (kind lower).2]
    exact named.start c first'
  · -- Any other character stands for some character.
    have inside : c'.toLower ∈ name.toList.map Char.toLower := same ▸ List.mem_map_of_mem listed
    obtain ⟨c, listed', lower⟩ := List.mem_map.mp inside
    rw [← (kind lower).1]
    exact named.letters c listed'

namespace Template

/-- A path in lower case is made up of its segments in lower case. -/
theorem map_toLower_pathChars (segments : List String) :
    (pathChars segments).map Char.toLower =
      segments.flatMap fun segment => segment.toList.map Char.toLower ++ ['.'] := by
  -- A point has no other case.
  simp only [pathChars, List.map_flatMap, List.map_append]
  rfl

/-- What is a path in one case is one in any other. -/
theorem IsPath.recased {text text' : List Char} (path : IsPath text)
    (same : text.map Char.toLower = text'.map Char.toLower) : IsPath text' := by
  obtain ⟨segments, named, rfl⟩ := path
  -- The induction is on the segments, each of which is found again with its point.
  induction segments generalizing text' with
  | nil =>
    obtain rfl : text' = [] := by simpa [pathChars] using same.symm
    exact ⟨[], by simp, rfl⟩
  | cons segment more ih =>
    obtain ⟨first, others⟩ := List.forall_mem_cons.mp named
    -- The text is cut where the first segment and its point end.
    have opened : text'.map Char.toLower = segment.toList.map Char.toLower ++
        ('.' :: (pathChars more).map Char.toLower) := by
      rw [← same]
      simp only [map_toLower_pathChars, List.flatMap_cons, List.append_assoc]
      rfl
    obtain ⟨name, behind, rfl, sameName, sameBehind⟩ := List.map_eq_append_iff.mp opened
    obtain ⟨point, rest, rfl, isPoint, sameRest⟩ := List.map_eq_cons_iff.mp sameBehind
    obtain rfl := eq_of_toLower_eq (by decide) isPoint
    obtain ⟨segments, named', rfl⟩ := ih others sameRest.symm
    refine ⟨String.ofList name :: segments, List.forall_mem_cons.mpr ⟨?_, named'⟩,
      by simp [pathChars]⟩
    exact first.recased (by rw [String.toList_ofList, sameName])

/-- Paths that differ in the case of letters only. -/
def SamePath (segments segments' : List String) : Prop :=
  List.Forall₂ (fun segment segment' => sameIgnoringCase segment segment' = true) segments segments'

/-- Wildcards with the same text ahead of them whose paths differ in the case of letters only. -/
structure Occurrence.Respelled (site site' : Occurrence) : Prop where
  ahead : site.ahead = site'.ahead
  path : SamePath site.segments site'.segments

/-- Templates that differ in the case of letters in the paths of their wildcards only. -/
structure Respelled (template template' : String) (found found' : List Occurrence) : Prop where
  each : List.Forall₂ Occurrence.Respelled found found'
  heads : ∃ head head' tail rest, splitAtLiteral template = (head, tail) ∧
    splitAtLiteral template' = (head', tail) ∧ Cut head.toList found rest ∧
    head'.toList = found'.flatMap Occurrence.text ++ rest

/-- Paths that differ in case have the same lower case. -/
theorem SamePath.pathChars {segments segments' : List String} (same : SamePath segments segments') :
    (pathChars segments).map Char.toLower = (Template.pathChars segments').map Char.toLower := by
  -- The induction is on the segments, which are compared one by one.
  simp only [map_toLower_pathChars]
  induction same with
  | nil => rfl
  | cons first _ ih => rw [List.flatMap_cons, List.flatMap_cons, ih, sameIgnoringCase_iff.mp first]

/-- A wildcard in other letter cases begins as early as it can, too. -/
theorem Occurrence.Earliest.respelled {site site' : Occurrence} (earliest : site.Earliest)
    (respelled : site.Respelled site') : site'.Earliest where
  named segment' listed := by
    obtain ⟨segment, held, same⟩ := exists_left_of_forall₂ respelled.path listed
    exact (earliest.named segment held).recased (sameIgnoringCase_iff.mp same)
  starless := respelled.ahead ▸ earliest.starless
  first before behind split path := by
    -- A path that begins earlier in one case would do so in the other.
    refine earliest.first before behind (respelled.ahead.trans split) (path.recased ?_)
    rw [List.map_append, List.map_append, respelled.path.pathChars]

/-- The wildcards of a text in other letter cases stand where they stood. -/
theorem Cut.respelled {text : List Char} {found found' : List Occurrence} {rest : List Char}
    (cut : Cut text found rest) (each : List.Forall₂ Occurrence.Respelled found found') :
    Cut (found'.flatMap Occurrence.text ++ rest) found' rest where
  -- The text is put together from its wildcards, and each of them begins as early as before.
  whole := rfl
  each site' listed := by
    obtain ⟨site, held, respelled⟩ := exists_left_of_forall₂ each listed
    exact (cut.each site held).respelled respelled
  last := cut.last

/-- Filled templates do not depend on the paths of their wildcards. -/
theorem filled_eq_of_respelled {found found' : List Occurrence}
    (each : List.Forall₂ Occurrence.Respelled found found') (texts : List String)
    (rest : List Char) : filled found texts rest = filled found' texts rest := by
  -- Of a wildcard only what stands ahead of it is kept.
  induction each generalizing texts with
  | nil => rfl
  | cons first _ ih =>
    cases texts with
    | nil => rfl
    | cons text more =>
      have others := ih more
      simp only [filled, List.zipWith_cons_cons, String.join_cons, String.append_assoc, first.ahead]
        at others ⊢
      rw [others]

/-- A wildcard alone is respelled by any other case of its path. -/
theorem respelled_wildcardText {segments segments' : List String}
    (named : ∀ segment ∈ segments, Identifier segment) (same : SamePath segments segments') :
    Respelled (wildcardText segments) (wildcardText segments') [⟨[], segments⟩] [⟨[], segments'⟩] := by
  -- Nothing stands ahead of the wildcards, and both are cut into themselves.
  have each : List.Forall₂ Occurrence.Respelled [⟨[], segments⟩] [⟨[], segments'⟩] :=
    .cons ⟨rfl, same⟩ .nil
  have named' : ∀ segment ∈ segments', Identifier segment :=
    ((earliest_of_named named).respelled ⟨rfl, same⟩ : Occurrence.Earliest ⟨[], segments'⟩).named
  exact ⟨each, _, _, _, _, splitAtLiteral_wildcardText named, splitAtLiteral_wildcardText named',
    cut_wildcardText named, by simp [Occurrence.text]⟩

end Template

/-- No two names of fields differ in the case of letters only. -/
def Descriptor.NamesApart (descriptor : Descriptor) : Prop :=
  ∀ field ∈ descriptor.fields, ∀ other ∈ descriptor.fields,
    sameIgnoringCase field.name other.name = true → field.name = other.name

instance (descriptor : Descriptor) : Decidable descriptor.NamesApart :=
  inferInstanceAs (Decidable (∀ _ ∈ _, ∀ _ ∈ _, _ → _))

namespace Query

open Expansion Template Registry

/-- Two paths agree on where they begin with a field that is named like the root. -/
def AgreeOnRoot (root : Descriptor) (segments segments' : List String) : Prop :=
  ∀ field ∈ root.fields, sameIgnoringCase field.name root.name = true →
    (segments.head? = some field.name ↔ segments'.head? = some field.name)

section Published

variable {config : MappingConfig} {calls : List Lookup} {descriptor : Descriptor}

/-- A field that is found has the name in some letter case. -/
theorem sameIgnoringCase_of_fieldIgnoringCase? {name : String} {field : FieldDescriptor}
    (found : descriptor.fieldIgnoringCase? name = some field) :
    sameIgnoringCase field.name name = true := by
  -- The field was found by its exact name or by one in another case.
  rw [Descriptor.fieldIgnoringCase?, Option.orElse_eq_or, Option.or_eq_some_iff] at found
  rcases found with exact | ⟨-, other⟩
  · have same : field.name = name := by simpa using List.find?_some exact
    rw [same, sameIgnoringCase_iff]
  · simpa using List.find?_some other

/-- Where the names of the fields are apart, what has the name in some letter case is found. -/
theorem fieldIgnoringCase?_eq_some_iff (published : descriptor ∈ (after config calls).arena)
    (apart : descriptor.NamesApart) {name : String} {field : FieldDescriptor} :
    descriptor.fieldIgnoringCase? name = some field ↔
      field ∈ descriptor.fields ∧ sameIgnoringCase field.name name = true := by
  -- What is found is declared and has the name; the converse is where the names have to be apart.
  refine ⟨fun found => ⟨mem_fields_of_fieldIgnoringCase? found,
    sameIgnoringCase_of_fieldIgnoringCase? found⟩, ?_⟩
  rintro ⟨declared, called⟩
  cases found : descriptor.fieldIgnoringCase? name with
  | none =>
    -- The field itself would have been found.
    rw [Descriptor.fieldIgnoringCase?, Option.orElse_eq_or, Option.or_eq_none_iff] at found
    exact absurd called (List.find?_eq_none.mp found.2 field declared)
  | some other =>
    -- Whatever is found instead has the name in some case, too, and so it is the field itself.
    have declared' := mem_fields_of_fieldIgnoringCase? found
    have called' := sameIgnoringCase_of_fieldIgnoringCase? found
    rw [sameIgnoringCase_iff] at called called'
    have same := apart other declared' field declared
      (sameIgnoringCase_iff.mpr (called'.trans called.symm))
    rw [Registry.eq_of_name_eq published declared' declared same]

/-- Where the names of the fields are apart, the letter case of a name makes no difference. -/
theorem fieldIgnoringCase?_eq_of_same (published : descriptor ∈ (after config calls).arena)
    (apart : descriptor.NamesApart) {name name' : String}
    (same : sameIgnoringCase name name' = true) :
    descriptor.fieldIgnoringCase? name = descriptor.fieldIgnoringCase? name' := by
  -- Both names are had by the same fields, and it is these that are found.
  ext field
  rw [fieldIgnoringCase?_eq_some_iff published apart, fieldIgnoringCase?_eq_some_iff published apart,
    sameIgnoringCase_iff, sameIgnoringCase_iff, sameIgnoringCase_iff.mp same]

/-- A path in other letter cases is followed to the same end. -/
theorem follow_eq_ok_iff_of_samePath
    (apart : ∀ descriptor ∈ (after config calls).arena, descriptor.NamesApart)
    (published : descriptor ∈ (after config calls).arena) {segments segments' : List String}
    (same : SamePath segments segments') {wildcard wildcard' path : String}
    {ends : Descriptor × String} :
    follow (after config calls) wildcard descriptor path segments = .ok ends ↔
      follow (after config calls) wildcard' descriptor path segments' = .ok ends := by
  -- The induction is on the segments, and both paths go on with the same field.
  induction same generalizing descriptor path with
  | nil => rfl
  | cons first _ ih =>
    rw [follow_cons_eq_ok_iff, follow_cons_eq_ok_iff,
      fieldIgnoringCase?_eq_of_same published (apart descriptor published) first]
    -- Where the field leads is published again.
    refine exists_congr fun field => exists_congr fun next => and_congr_right fun _ =>
      and_congr_right fun _ => and_congr_right fun leads => ?_
    exact ih (mem_arena_of_related? leads)

/-- If two paths agree on the root, what is left of them behind it differs in case only. -/
theorem samePath_withoutRoot {root : Descriptor} {segments segments' : List String}
    (same : SamePath segments segments') (agree : AgreeOnRoot root segments segments') :
    SamePath (withoutRoot root segments) (withoutRoot root segments') := by
  -- Only the first segment can be left out, and it is left out of both paths or of neither.
  cases same with
  | nil => exact .nil
  | @cons first first' rest rest' called others =>
    have roots : sameIgnoringCase first root.name = true ↔
        sameIgnoringCase first' root.name = true := by
      rw [sameIgnoringCase_iff, sameIgnoringCase_iff, sameIgnoringCase_iff.mp called]
    -- A field that has the one name exactly is named like the root, so it has the other one, too.
    have dropped : (sameIgnoringCase first root.name = true ∧ root.field? first = none) ↔
        (sameIgnoringCase first' root.name = true ∧ root.field? first' = none) := by
      rw [← roots]
      refine and_congr_right fun own => ?_
      simp only [Descriptor.field?, List.find?_eq_none, beq_iff_eq]
      refine forall₂_congr fun field declared => not_congr ⟨?_, ?_⟩
      · rintro rfl
        exact (Option.some.inj ((agree field declared own).mp rfl)).symm
      · rintro rfl
        exact (Option.some.inj ((agree field declared (roots.mp own)).mpr rfl)).symm
    simp only [withoutRoot, Bool.and_eq_true, Option.isNone_iff_eq_none, dropped]
    split
    · exact others
    · exact .cons called others

/-- Two wildcards that differ in letter case have the same field lists. -/
theorem expandWildcard_eq_ok_iff_of_samePath
    (apart : ∀ descriptor ∈ (after config calls).arena, descriptor.NamesApart)
    {root : Descriptor} (published : root ∈ (after config calls).arena)
    {segments segments' : List String} (same : SamePath segments segments')
    (agree : AgreeOnRoot root segments segments') {depth : Nat} {text : String} :
    expandWildcard (selectList (after config calls)) (after config calls) root depth segments =
        .ok text ↔
      expandWildcard (selectList (after config calls)) (after config calls) root depth segments' =
        .ok text := by
  -- Both paths are followed to the same end, and they leave the same number of levels.
  have behind := samePath_withoutRoot same agree
  rw [expandWildcard_eq_ok_iff published, expandWildcard_eq_ok_iff published, behind.length_eq]
  exact exists_congr fun ends =>
    and_congr_left fun _ => follow_eq_ok_iff_of_samePath apart published behind

end Published

end Query

namespace Mapper

open Relation Query Template

/--
A path may be written in any letter case, as long as no two names of fields differ in case only.

The one exception is the name of the root itself: a first segment of that name is left out unless a
field has it in this very case.
So two templates that differ in the case of their paths compile alike if they agree on where a path
begins with a field that is named like the root.
-/
theorem compile_ignores_case {config : MappingConfig} {mapper : Mapper}
    (used : ReflTransGen Step (ofConfig config) mapper)
    (apart : ∀ descriptor ∈ mapper.registry.arena, descriptor.NamesApart) {root : Descriptor}
    (published : root ∈ mapper.registry.arena) {template template' : String}
    {found found' : List Occurrence} (respelled : Template.Respelled template template' found found')
    (agree : List.Forall₂ (fun site site' => AgreeOnRoot root site.segments site'.segments)
      found found')
    (options : CompileOptions) (query : String) :
    ((compile root template options).run.run mapper).1 = .ok query ↔
      ((compile root template' options).run.run mapper).1 = .ok query := by
  -- Behind the cache it is a matter of plain compilation in a registry with a history.
  obtain ⟨calls, history⟩ := exists_history_of_used used
  obtain ⟨each, head, head', tail, rest, split, split', cut, text⟩ := respelled
  -- Both templates are cut at the same places, so the same texts fill them alike.
  have cut' : Cut head'.toList found' rest := text ▸ cut.respelled each
  rw [run_compile_of_used used, run_compile_of_used used, mapError_eq_ok_iff, mapError_eq_ok_iff,
    compile_eq_ok_iff split cut, compile_eq_ok_iff split' cut', history]
  rw [history] at apart published
  refine exists_congr fun texts => ?_
  rw [filled_eq_of_respelled each]
  -- Wildcard by wildcard both have the same field list or none.
  refine and_congr_left fun _ => forall₂_congr_left (each.mp ?_ agree)
  exact fun site site' respelled agree text =>
    expandWildcard_eq_ok_iff_of_samePath apart published respelled.path agree

/-- Managers below other managers, the relationship being named like its type but for the case. -/
def hierarchy : Catalog where
  schemas := [
    ("Manager", {
      name := "Manager"
      fields := [.simple "Name", .reference "manager" ⟨"Manager", .mapped⟩] })]

/-- A mapper that has looked up the managers of the hierarchy. -/
def ofHierarchy : Mapper :=
  ((Mapper.descriptor hierarchy ⟨"Manager", .mapped⟩).run.run (ofConfig {})).2

/-- It was used once. -/
theorem used_ofHierarchy : ReflTransGen Step (ofConfig {}) ofHierarchy :=
  .single (.descriptor _ _ _)

/-- Managers are all that is published. -/
theorem registry_ofHierarchy : ofHierarchy.registry =
    ({ config := {} } : Registry).publish
      ⟨[(⟨"Manager", .mapped⟩, hierarchy.schema "Manager")], [], ["Manager"]⟩ := by
  -- The exploration of the catalog ends within five steps, so it can be run.
  have explored : Exploration.explore [] hierarchy {} [⟨⟨"Manager", .mapped⟩, none⟩] =
      (⟨[(⟨"Manager", .mapped⟩, hierarchy.schema "Manager")], [], ["Manager"]⟩, none) :=
    Exploration.explore_of_exploreWithin 5 rfl
  have looked : ofHierarchy.registry =
      Registry.after {} [⟨hierarchy, ⟨"Manager", .mapped⟩⟩] := rfl
  simp [looked, Registry.after, Registry.lookUp, Registry.descriptor, Registry.published?,
    Registry.explore, explored]

/-- The names of the fields in the hierarchy are apart. -/
theorem namesApart_ofHierarchy :
    ∀ descriptor ∈ ofHierarchy.registry.arena, descriptor.NamesApart := by
  -- The only descriptor has two fields, whose names have different letters.
  rw [registry_ofHierarchy]
  decide +kernel

/-- A relationship behind the first one is found in capitals, too. -/
theorem compile_ignores_case_hierarchy :
    ∃ manager ∈ ofHierarchy.registry.arena,
      ((compile manager "manager.manager.*" { depth := 2 }).run.run ofHierarchy).1 =
          .ok "manager.manager.Name" ∧
        ((compile manager "manager.MANAGER.*" { depth := 2 }).run.run ofHierarchy).1 =
          .ok "manager.manager.Name" := by
  -- The one template is compiled, and the law says what becomes of the other.
  have held : ∃ manager, ofHierarchy.registry.arena[0]? = some manager ∧
      Query.compile ofHierarchy.registry manager "manager.manager.*" { depth := 2 } =
        .ok "manager.manager.Name" := by
    rw [registry_ofHierarchy]
    exact ⟨_, rfl, by decide +kernel⟩
  obtain ⟨manager, atPlace, text⟩ := held
  have published := List.mem_of_getElem? atPlace
  have compiled := (run_compile_of_used used_ofHierarchy manager "manager.manager.*"
    { depth := 2 }).trans (mapError_eq_ok_iff.mpr text)
  have respelled : Template.Respelled "manager.manager.*" "manager.MANAGER.*"
      [⟨[], ["manager", "manager"]⟩] [⟨[], ["manager", "MANAGER"]⟩] := by
    have named : ∀ segment ∈ ["manager", "manager"], Identifier segment := by
      simpa using identifier_of_faultless (by decide +kernel : NameFault.of? "manager" = none)
    have same : SamePath ["manager", "manager"] ["manager", "MANAGER"] :=
      .cons (by decide) (.cons (by decide) .nil)
    exact respelled_wildcardText named same
  -- The first segments are the same, so they agree on the root.
  have again := compile_ignores_case used_ofHierarchy namesApart_ofHierarchy published respelled
    (.cons (by simp [AgreeOnRoot]) .nil) { depth := 2 } "manager.manager.Name"
  exact ⟨manager, published, compiled, again.mp compiled⟩

/-- In the case of the type the name of the relationship is taken for that of the root. -/
theorem root_hides_relationship_in_other_case :
    ∃ manager ∈ ofHierarchy.registry.arena,
      (∀ descriptor ∈ ofHierarchy.registry.arena, descriptor.NamesApart) ∧
      Template.Respelled "manager.*" "Manager.*" [⟨[], ["manager"]⟩] [⟨[], ["Manager"]⟩] ∧
      ((compile manager "manager.*" { depth := 1 }).run.run ofHierarchy).1 = .ok "manager.Name" ∧
      ((compile manager "Manager.*" { depth := 1 }).run.run ofHierarchy).1 =
        .ok "Name,manager.Name" := by
  -- Both templates are compiled, with the relationship and with the root as the first segment.
  have held : ∃ manager, ofHierarchy.registry.arena[0]? = some manager ∧
      Query.compile ofHierarchy.registry manager "manager.*" { depth := 1 } =
        .ok "manager.Name" ∧
      Query.compile ofHierarchy.registry manager "Manager.*" { depth := 1 } =
        .ok "Name,manager.Name" := by
    rw [registry_ofHierarchy]
    exact ⟨_, rfl, by decide +kernel, by decide +kernel⟩
  obtain ⟨manager, atPlace, below, root⟩ := held
  have respelled : Template.Respelled "manager.*" "Manager.*" [⟨[], ["manager"]⟩]
      [⟨[], ["Manager"]⟩] := by
    have named : ∀ segment ∈ ["manager"], Identifier segment := by
      simpa using identifier_of_faultless (by decide +kernel : NameFault.of? "manager" = none)
    have same : SamePath ["manager"] ["Manager"] := .cons (by decide) .nil
    exact respelled_wildcardText named same
  exact ⟨manager, List.mem_of_getElem? atPlace, namesApart_ofHierarchy, respelled,
    (run_compile_of_used used_ofHierarchy _ _ _).trans (mapError_eq_ok_iff.mpr below),
    (run_compile_of_used used_ofHierarchy _ _ _).trans (mapError_eq_ok_iff.mpr root)⟩

end Mapper

end RemoteRecords
