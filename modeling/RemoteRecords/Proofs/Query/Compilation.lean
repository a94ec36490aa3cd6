import RemoteRecords.Proofs.Query.Grammar
import RemoteRecords.Proofs.Query.Wildcards

/-! Compilations: what a template comes to whose root is published, wildcard by wildcard. -/

namespace RemoteRecords

namespace Template

/-- The pieces of a text are those of its cut. -/
theorem Cut.pieces_eq {text : List Char} {found : List Occurrence} {rest : List Char}
    (cut : Cut text found rest) :
    pieces text = found.flatMap Occurrence.pieces ++ rest.map .literal := by
  -- The scanner cuts the text, and there is one way to do so.
  obtain ⟨found', rest', cut', same⟩ := exists_cut text
  obtain ⟨rfl, rfl⟩ := cut'.unique cut
  exact same

/-- A text without a star is a rest without any wildcard. -/
theorem cut_of_starless {text : List Char} (starless : '*' ∉ text) : Cut text [] text :=
  ⟨rfl, by simp, starless⟩

/-- A text without quotes is the head of a template whose tail begins with one. -/
theorem splitAtLiteral_eq {head tail : String} (unquoted : '\x27' ∉ head.toList)
    (quoted : ∀ c, tail.toList.head? = some c → c = '\x27') :
    splitAtLiteral (head ++ tail) = (head, tail) := by
  -- The head is all that stands before the first quote.
  have inside : ∀ c ∈ head.toList, (c != '\x27') = true := by
    intro c listed
    simpa using fun same : c = '\x27' => unquoted (same ▸ listed)
  -- The tail is empty, or it begins where the head has to end.
  have stops : ∀ c, tail.toList.head? = some c → (c != '\x27') = false := by
    intro c first
    simp [quoted c first]
  obtain ⟨taken, left⟩ := takeWhile_append_of_stop inside stops
  simp [splitAtLiteral, taken, left]

section Alone

variable {segments : List String} (named : ∀ segment ∈ segments, Identifier segment)
include named

/-- There is no quote in a wildcard. -/
theorem splitAtLiteral_wildcardText :
    splitAtLiteral (wildcardText segments) = (wildcardText segments, "") := by
  -- Neither the names nor what stands between them and behind them is a quote.
  have unquoted : '\x27' ∉ (wildcardText segments).toList := by
    rw [toList_wildcardText]
    simp only [pathChars, List.mem_append, List.mem_flatMap, List.mem_singleton, not_or, not_exists,
      not_and]
    exact ⟨fun segment listed => ⟨(named segment listed).not_mem (by decide), by decide⟩, by decide⟩
  have whole := splitAtLiteral_eq unquoted (by simp : ∀ c, "".toList.head? = some c → c = '\x27')
  rwa [String.append_empty] at whole

/-- A wildcard alone is cut into itself. -/
theorem cut_wildcardText : Cut (wildcardText segments).toList [⟨[], segments⟩] [] :=
  -- Nothing stands ahead of the wildcard or behind it.
  ⟨by simp [Occurrence.text], by simpa using earliest_of_named named, by simp⟩

end Alone

end Template

namespace Query

open Expansion Template Registry

/-- A path is followed as long as each segment names a field that leads to one record. -/
theorem follow_cons_eq_ok_iff {registry : Registry} {wildcard : String} {current : Descriptor}
    {path segment : String} {rest : List String} {ends : Descriptor × String} :
    follow registry wildcard current path (segment :: rest) = .ok ends ↔
      ∃ field next, current.fieldIgnoringCase? segment = some field ∧ field.isReference = true ∧
        registry.related? field = some next ∧
        follow registry wildcard next (path ++ field.name ++ ".") rest = .ok ends := by
  -- The segment is looked for among the fields first.
  rw [follow]
  cases found : current.fieldIgnoringCase? segment with
  | none => simp
  | some field =>
    -- The field that was found decides, and then what it leads to.
    by_cases single : field.isReference
    · cases leads : registry.related? field <;> simp [single, leads]
    · simp [single]

/-- A field that is found is a declared one. -/
theorem mem_fields_of_fieldIgnoringCase? {descriptor : Descriptor} {name : String}
    {field : FieldDescriptor} (found : descriptor.fieldIgnoringCase? name = some field) :
    field ∈ descriptor.fields := by
  -- The field was found by its exact name or, if there is none, by one in another case.
  rw [Descriptor.fieldIgnoringCase?, Option.orElse_eq_or, Option.or_eq_some_iff] at found
  rcases found with exact | ⟨-, other⟩
  · exact List.mem_of_find?_eq_some exact
  · exact List.mem_of_find?_eq_some other

section Published

variable {config : MappingConfig} {calls : List Lookup} {root : Descriptor}

/-- A path that is followed leads to a published descriptor, below a path of identifiers. -/
theorem published_of_follow {wildcard : String} {current : Descriptor} {path : String}
    {segments : List String} {ends : Descriptor × String}
    (published : current ∈ (after config calls).arena) (opens : PathPrefix path)
    (followed : follow (after config calls) wildcard current path segments = .ok ends) :
    ends.1 ∈ (after config calls).arena ∧ PathPrefix ends.2 := by
  -- The induction is on the segments, and each link leads to a published descriptor.
  induction segments generalizing current path with
  | nil =>
    cases followed
    exact ⟨published, opens⟩
  | cons segment rest ih =>
    obtain ⟨field, next, found, -, leads, behind⟩ := follow_cons_eq_ok_iff.mp followed
    -- The name of a declared field is added to the path.
    have named := identifier_of_declared published (mem_fields_of_fieldIgnoringCase? found)
    exact ih (mem_arena_of_related? leads) (opens.below named) behind

/-- A wildcard of a published root comes to what is listed where its path leads. -/
theorem expandWildcard_of_published (published : root ∈ (after config calls).arena) (depth : Nat)
    (segments : List String) :
    expandWildcard (selectList (after config calls)) (after config calls) root depth segments =
      follow (after config calls) (wildcardText segments) root "" (withoutRoot root segments) >>=
        fun ends =>
          let items := listing (after config calls)
            (depth - (withoutRoot root segments).length + 1) ends.1 ends.2
          if items = [] then .error (.noFields (wildcardText segments))
          else .ok (SelectItem.listText items) := by
  -- The root is found at its own number, so the path is followed from there.
  have start := (after_represents config calls).get?_id published
  simp only [expandWildcard, start]
  cases followed : follow (after config calls) (wildcardText segments) root ""
      (withoutRoot root segments) with
  | error fault => rfl
  | ok ends =>
    -- What is reached is published, so it expands without a fault.
    have reached := (published_of_follow published (.inl rfl) followed).1
    have expanded := selectList_eq_listing (after_closed config calls)
      (depth - (withoutRoot root segments).length) ends.1 reached ends.2
    simp only [expanded, bind, Except.bind, List.isEmpty_iff]
    rfl

/-- A wildcard of a published root has a field list if its path can be followed to where anything is
listed. -/
theorem expandWildcard_eq_ok_iff (published : root ∈ (after config calls).arena) {depth : Nat}
    {segments : List String} {text : String} :
    expandWildcard (selectList (after config calls)) (after config calls) root depth segments =
        .ok text ↔
      ∃ ends, follow (after config calls) (wildcardText segments) root ""
          (withoutRoot root segments) = .ok ends ∧
        listing (after config calls) (depth - (withoutRoot root segments).length + 1) ends.1
          ends.2 ≠ [] ∧
        SelectItem.listText (listing (after config calls)
          (depth - (withoutRoot root segments).length + 1) ends.1 ends.2) = text := by
  -- What is known of the wildcard has a text in one case only.
  rw [expandWildcard_of_published published]
  cases follow (after config calls) (wildcardText segments) root ""
      (withoutRoot root segments) with
  | error fault =>
    -- Where the path cannot be followed, there is neither a list nor an end.
    simp [bind, Except.bind]
  | ok ends =>
    simp only [bind, Except.bind, Except.ok.injEq, exists_eq_left']
    split <;> simp [*]

end Published

/-- A template is compiled wildcard by wildcard. -/
theorem compile_eq {registry : Registry} {root : Descriptor} {template head tail : String}
    (split : splitAtLiteral template = (head, tail)) {found : List Occurrence} {rest : List Char}
    (cut : Cut head.toList found rest) (options : CompileOptions) :
    compile registry root template options =
      (fun texts => filled found texts rest ++ tail ++ bounds options) <$>
        found.mapM fun site =>
          expandWildcard (selectList registry) registry root options.depth site.segments := by
  -- The pieces of the head are those of its cut, and only wildcards among them are expanded.
  rw [compile, compileWith, substitute_eq split cut.pieces_eq, bind_pure_comp, Functor.map_map]

/-- A template compiles exactly if each of its wildcards has a field list. -/
theorem compile_eq_ok_iff {registry : Registry} {root : Descriptor} {template head tail : String}
    (split : splitAtLiteral template = (head, tail)) {found : List Occurrence} {rest : List Char}
    (cut : Cut head.toList found rest) {options : CompileOptions} {query : String} :
    compile registry root template options = .ok query ↔
      ∃ texts, List.Forall₂ (fun (site : Occurrence) text =>
          expandWildcard (selectList registry) registry root options.depth site.segments = .ok text)
          found texts ∧ filled found texts rest ++ tail ++ bounds options = query := by
  -- A run over the wildcards succeeds exactly if each of them does.
  rw [compile_eq split cut]
  exact map_eq_ok_iff.trans (exists_congr fun texts => and_congr_left fun _ => mapM_eq_ok_iff)

end Query

namespace Mapper

open Relation

/-- However a mapper was used, its queries are compiled as if there were no cache. -/
theorem run_compile_of_used {config : MappingConfig} {mapper : Mapper}
    (used : ReflTransGen Step (ofConfig config) mapper) (root : Descriptor) (template : String)
    (options : CompileOptions) :
    ((compile root template options).run.run mapper).1 =
      (Query.compile mapper.registry root template options).mapError .queryCompile :=
  -- A mapper that was used is sound, and on a sound one the cache does not show.
  (run_compile (steps_sound (sound_ofConfig config) used).1 root template options).1

/-- The registry of a mapper that was used has a history of lookups. -/
theorem exists_history_of_used {config : MappingConfig} {mapper : Mapper}
    (used : ReflTransGen Step (ofConfig config) mapper) :
    ∃ calls, mapper.registry = Registry.after config calls :=
  -- A history is a part of being sound.
  (steps_sound (sound_ofConfig config) used).1.history

end Mapper

end RemoteRecords
