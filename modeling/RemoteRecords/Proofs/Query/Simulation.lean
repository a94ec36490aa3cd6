import RemoteRecords.Proofs.Registry.Alike
import RemoteRecords.Query.Compile

/-! Simulation: ways of expanding that agree one level deeper agree on whole queries, and so do
registries whose descriptors are paired. -/

namespace RemoteRecords

/-- A relation between two kinds of compilation steps that respects results, faults and sequence. -/
structure Simulation {m m' : Type → Type} [Monad m] [Faulty m] [Monad m'] [Faulty m']
    (related : ⦃α : Type⦄ → m α → m' α → Prop) : Prop where
  result : ∀ {α : Type} (value : α), related (pure value : m α) (pure value : m' α)
  fault : ∀ {α : Type} (fault : QueryFault),
    related (throwThe QueryFault fault : m α) (throwThe QueryFault fault : m' α)
  sequence : ∀ {α β : Type} {left : m α} {right : m' α} {next : α → m β} {next' : α → m' β},
    related left right → (∀ value, related (next value) (next' value)) →
      related (left >>= next) (right >>= next')

/-- Equality respects results, faults and sequence. -/
theorem simulation_eq :
    Simulation fun α (left right : Except QueryFault α) => left = right where
  result _ := rfl
  fault _ := rfl
  sequence same alike := by rw [same, funext alike]

namespace Expansion

section Deepens

variable {m m' : Type → Type} {related : ⦃α : Type⦄ → m α → m' α → Prop} {left right : Registry}
  {pairs : Descriptor → Descriptor → Prop}

/-- Paired descriptors expand alike one level deeper, as far as anything is expanded there. -/
def Deepens (related : ⦃α : Type⦄ → m α → m' α → Prop) (pairs : Descriptor → Descriptor → Prop) :
    Deeper m → Deeper m' → Prop
  | none, none => True
  | some deeper, some deeper' => ∀ descriptor descriptor', pairs descriptor descriptor' →
      descriptor.name = descriptor'.name ∧
        ∀ path, related (deeper descriptor path) (deeper' descriptor' path)
  | _, _ => False

/-- At depth zero nothing is deeper. -/
theorem deepens_none : Deepens related pairs none none := trivial

/-- Pairs of a bisimulation that expand alike have the same names besides. -/
theorem deepens_some (bisimulation : left.Bisimulation right pairs)
    {deeper : Descriptor → String → m (List SelectItem)}
    {deeper' : Descriptor → String → m' (List SelectItem)}
    (expands : ∀ descriptor descriptor', pairs descriptor descriptor' →
      ∀ path, related (deeper descriptor path) (deeper' descriptor' path)) :
    Deepens related pairs (some deeper) (some deeper') :=
  -- Names are a part of what descriptors of a bisimulation have in common.
  fun descriptor descriptor' paired =>
    ⟨(bisimulation paired).name, expands descriptor descriptor' paired⟩

end Deepens

variable {m m' : Type → Type} [Monad m] [Faulty m] [Monad m'] [Faulty m']

/-- A link that leads somewhere is followed without a fault. -/
theorem target_of_get? {registry : Registry} (field : FieldDescriptor) {id : DescriptorId}
    {descriptor : Descriptor} (found : registry.get? id = some descriptor) :
    (target registry field (some id) : m Descriptor) = pure descriptor := by
  -- The link is there and so is what it leads to.
  unfold target
  rw [Option.bind_some, found]

variable [LawfulMonad m] [LawfulMonad m'] {related : ⦃α : Type⦄ → m α → m' α → Prop}
  {left right : Registry} {pairs : Descriptor → Descriptor → Prop} {field field' : FieldDescriptor}

/-- Following links that join and expanding their descriptors is alike on both sides. -/
theorem follow_related (field field' : FieldDescriptor) {id id' : DescriptorId}
    (joins : left.Joins right pairs id id') {β : Type} {next : Descriptor → m β}
    {next' : Descriptor → m' β} (alike : ∀ descriptor descriptor', pairs descriptor descriptor' →
      related (next descriptor) (next' descriptor')) :
    related (target left field (some id) >>= next) (target right field' (some id') >>= next') := by
  -- Both links lead somewhere, and to a pair.
  obtain ⟨descriptor, descriptor', found, found', paired⟩ := joins
  rw [target_of_get? field found, target_of_get? field' found', pure_bind, pure_bind]
  exact alike descriptor descriptor' paired

variable {deeper : Descriptor → String → m (List SelectItem)}
  {deeper' : Descriptor → String → m' (List SelectItem)}

/-- Alternatives that join have branches that are alike. -/
theorem branches_related (simulation : Simulation related)
    (deepens : Deepens related pairs (some deeper) (some deeper')) (field field' : FieldDescriptor)
    {ids ids' : List DescriptorId} (joined : List.Forall₂ (left.Joins right pairs) ids ids') :
    related (branches left deeper field ids) (branches right deeper' field' ids') := by
  -- The induction is on the alternatives, of which both sides have the same number.
  induction joined with
  | nil => exact simulation.result []
  | cons joins _ others =>
    -- The first alternative is expanded before the others, on both sides.
    refine follow_related field field' joins fun alternative alternative' paired => ?_
    obtain ⟨named, expands⟩ := deepens alternative alternative' paired
    refine simulation.sequence (expands "") fun items => ?_
    rw [named]
    exact simulation.sequence others fun held => simulation.result _

/-- Polymorphic fields that are alike have clauses that are alike. -/
theorem typeOf_related (simulation : Simulation related)
    (deepens : Deepens related pairs (some deeper) (some deeper'))
    (alike : field.Alike (left.Joins right pairs) field') :
    related (typeOf left deeper field) (typeOf right deeper' field') := by
  -- The branches come first, and they are alike.
  refine simulation.sequence
    (branches_related simulation deepens field field' alike.alternatives) fun held => ?_
  rw [alike.name]
  -- The fallback comes last, if there is one.
  rcases rel_cases alike.related with ⟨link, link'⟩ | ⟨id, id', link, link', joins⟩
  · rw [link, link']
    exact simulation.sequence (simulation.result []) fun others => simulation.result _
  · rw [link, link']
    refine follow_related field field' joins fun descriptor descriptor' paired => ?_
    exact simulation.sequence ((deepens descriptor descriptor' paired).2 "") fun others =>
      simulation.result _

/-- Fields that are alike have items that are alike. -/
theorem fieldItems_related (simulation : Simulation related) {deeper : Deeper m}
    {deeper' : Deeper m'} (deepens : Deepens related pairs deeper deeper') (path : String)
    (alike : field.Alike (left.Joins right pairs) field') :
    related (fieldItems left deeper path field) (fieldItems right deeper' path field') := by
  -- The kind of the field and the path decide alike on both sides.
  unfold fieldItems
  rw [← alike.kind, ← alike.name, ← alike.isChild_eq, ← alike.isPolymorphic_eq]
  cases kind : field.kind with
  | simple => exact simulation.result _
  | collection =>
    -- Below a path and without levels left, a collection stands for itself.
    simp only
    split
    · exact simulation.result _
    · split
      · exact simulation.result _
      · -- A collection of child records has a link, and both sides follow it or neither.
        rename_i child _
        cases deeper with
        | none =>
          cases deeper' with
          | none => exact simulation.result _
          | some => cases deepens
        | some deeper =>
          cases deeper' with
          | none => cases deepens
          | some deeper' =>
            rcases rel_cases alike.related with ⟨link, -⟩ | ⟨id, id', link, link', joins⟩
            · simp [FieldDescriptor.isChild, link] at child
            · rw [link, link']
              refine follow_related field field' joins fun element element' paired => ?_
              exact simulation.sequence ((deepens element element' paired).2 "") fun items =>
                simulation.result _
  | relationship =>
    -- A relationship is expanded only where there are levels left.
    cases deeper with
    | none =>
      cases deeper' with
      | none => exact simulation.result _
      | some => cases deepens
    | some deeper =>
      cases deeper' with
      | none => cases deepens
      | some deeper' =>
        simp only
        split
        · -- At the root a polymorphic field has a clause of its own.
          exact typeOf_related simulation deepens alike
        · rcases rel_cases alike.related with ⟨link, link'⟩ | ⟨id, id', link, link', joins⟩
          · rw [link, link']
            exact simulation.result _
          · rw [link, link']
            exact follow_related field field' joins fun next next' paired =>
              (deepens next next' paired).2 _

/-- Fields that are alike one by one have items that are alike. -/
theorem itemsOf_related (simulation : Simulation related) {deeper : Deeper m} {deeper' : Deeper m'}
    (deepens : Deepens related pairs deeper deeper') (path : String)
    {fields fields' : List FieldDescriptor}
    (alike : List.Forall₂ (FieldDescriptor.Alike (left.Joins right pairs)) fields fields') :
    related (itemsOf left deeper path fields) (itemsOf right deeper' path fields') := by
  -- The induction is on the fields, of which both sides have the same number.
  induction alike with
  | nil => exact simulation.result []
  | cons first _ others =>
    -- Fields are taken one after another, and each of them is alike.
    refine simulation.sequence (fieldItems_related simulation deepens path first) fun items => ?_
    exact simulation.sequence others fun held => simulation.result _

/-- Paired descriptors have the same select lists at every depth. -/
theorem selectList_alike (bisimulation : left.Bisimulation right pairs) (depth : Nat) :
    ∀ descriptor descriptor', pairs descriptor descriptor' → ∀ path,
      selectList left depth descriptor path = selectList right depth descriptor' path := by
  -- The induction is on the depth, since links may well lead round in circles.
  induction depth with
  | zero =>
    intro descriptor descriptor' paired path
    exact itemsOf_related simulation_eq deepens_none path (bisimulation paired).queryFields
  | succ depth ih =>
    intro descriptor descriptor' paired path
    exact itemsOf_related simulation_eq (deepens_some bisimulation ih) path
      (bisimulation paired).queryFields

end Expansion

namespace Query

variable {m m' : Type → Type} [Monad m] [Faulty m] [Monad m'] [Faulty m']
  {related : ⦃α : Type⦄ → m α → m' α → Prop} {left right : Registry}
  {pairs : Descriptor → Descriptor → Prop}

/-- Two attempts end with related results or with the same fault. -/
inductive Agree {ε α β : Type} (related : α → β → Prop) : Except ε α → Except ε β → Prop where
  | ok {value : α} {value' : β} (same : related value value') :
      Agree related (.ok value) (.ok value')
  | error (fault : ε) : Agree related (.error fault) (.error fault)

/-- A path leads paired descriptors to paired descriptors, and is spelled out the same. -/
theorem follow_agree (bisimulation : left.Bisimulation right pairs) (wildcard : String)
    {segments : List String} {current current' : Descriptor} (paired : pairs current current')
    (path : String) :
    Agree (fun reached reached' => pairs reached.1 reached'.1 ∧ reached.2 = reached'.2)
      (follow left wildcard current path segments)
      (follow right wildcard current' path segments) := by
  -- The induction is on the path: each segment leads a pair to a pair, or both to the same fault.
  induction segments generalizing current current' path with
  | nil => exact .ok ⟨paired, rfl⟩
  | cons segment rest ih =>
    have alike := bisimulation paired
    unfold follow
    rcases rel_cases (alike.fieldIgnoringCase? segment) with
      ⟨found, found'⟩ | ⟨field, field', found, found', same⟩
    · simp only [found, found', alike.name]
      exact .error _
    · simp only [found, found', ← same.isReference_eq, ← same.name, ← alike.name]
      split
      · exact .error _
      · -- The field leads to a pair of descriptors, or nowhere on both sides.
        rcases rel_cases (Registry.related?_alike same) with
          ⟨link, link'⟩ | ⟨next, next', link, link', joined⟩
        · simp only [link, link']
          exact .error _
        · simp only [link, link']
          exact ih joined _

/-- Two descriptors serve as roots alike: they say the same of their own names and fields, and their
numbers lead to a pair. -/
structure Roots (left right : Registry) (pairs : Descriptor → Descriptor → Prop)
    (root root' : Descriptor) : Prop where
  name : root.name = root'.name
  fields : ∀ name, (root.field? name).isSome = (root'.field? name).isSome
  start : Option.Rel pairs (left.get? root.id) (right.get? root'.id)

/-- Roots that are alike drop the same segments. -/
theorem Roots.withoutRoot_eq {root root' : Descriptor} (roots : Roots left right pairs root root')
    (segments : List String) : withoutRoot root segments = withoutRoot root' segments := by
  -- Only the first segment is looked at, and what is asked of it is the same for both roots.
  cases segments with
  | nil => rfl
  | cons first rest =>
    have fields := roots.fields first
    simp only [withoutRoot, roots.name, ← Option.not_isSome, fields]

/-- Ways of expanding that are alike give a wildcard the same field list or the same fault. -/
theorem expandWildcard_related (simulation : Simulation related)
    (bisimulation : left.Bisimulation right pairs)
    {expand : Nat → Descriptor → String → m (List SelectItem)}
    {expand' : Nat → Descriptor → String → m' (List SelectItem)}
    (expands : ∀ depth descriptor descriptor', pairs descriptor descriptor' → ∀ path,
      related (expand depth descriptor path) (expand' depth descriptor' path))
    {root root' : Descriptor} (roots : Roots left right pairs root root') (depth : Nat)
    (segments : List String) :
    related (expandWildcard expand left root depth segments)
      (expandWildcard expand' right root' depth segments) := by
  -- The number of the root is followed first, on both sides or on neither.
  unfold expandWildcard
  rw [← roots.withoutRoot_eq, ← roots.name]
  rcases rel_cases roots.start with ⟨found, found'⟩ | ⟨first, first', found, found', paired⟩
  · simp only [found, found']
    exact simulation.fault _
  · simp only [found, found']
    -- The path is followed without expanding anything.
    have followed : Agree _
        (follow left (Template.wildcardText segments) first "" (withoutRoot root segments))
        (follow right (Template.wildcardText segments) first' "" (withoutRoot root segments)) :=
      follow_agree bisimulation _ paired ""
    generalize follow left (Template.wildcardText segments) first ""
      (withoutRoot root segments) = answer at followed ⊢
    generalize follow right (Template.wildcardText segments) first' ""
      (withoutRoot root segments) = answer' at followed ⊢
    cases followed with
    | error fault => exact simulation.fault _
    | @ok reached reached' ends =>
      obtain ⟨joined, same⟩ := ends
      simp only [same]
      refine simulation.sequence (expands _ _ _ joined _) fun items => ?_
      split
      · exact simulation.fault _
      · exact simulation.result _

/-- Steps that are alike for each item are alike for a whole list. -/
theorem mapM_related [LawfulMonad m] [LawfulMonad m'] (simulation : Simulation related)
    {α β : Type} {step : α → m β} {step' : α → m' β}
    (alike : ∀ item, related (step item) (step' item))
    (items : List α) : related (items.mapM step) (items.mapM step') := by
  -- Items are taken one after another, on both sides.
  induction items with
  | nil =>
    rw [List.mapM_nil, List.mapM_nil]
    exact simulation.result []
  | cons item rest ih =>
    rw [List.mapM_cons, List.mapM_cons]
    refine simulation.sequence (alike item) fun value => ?_
    exact simulation.sequence ih fun others => simulation.result _

/-- Ways of expanding that are alike on paired descriptors compile every template alike. -/
theorem compileWith_related [LawfulMonad m] [LawfulMonad m'] (simulation : Simulation related)
    (bisimulation : left.Bisimulation right pairs)
    {expand : Nat → Descriptor → String → m (List SelectItem)}
    {expand' : Nat → Descriptor → String → m' (List SelectItem)}
    (expands : ∀ depth descriptor descriptor', pairs descriptor descriptor' → ∀ path,
      related (expand depth descriptor path) (expand' depth descriptor' path))
    {root root' : Descriptor} (roots : Roots left right pairs root root') (template : String)
    (options : CompileOptions) :
    related (compileWith expand left root template options)
      (compileWith expand' right root' template options) := by
  -- A template is compiled piece by piece, and only wildcards are expanded.
  refine simulation.sequence ?_ fun text => simulation.result _
  refine simulation.sequence (mapM_related simulation (fun piece => ?_) _) fun texts =>
    simulation.result _
  cases piece with
  | literal c => exact simulation.result _
  | wildcard segments =>
    exact expandWildcard_related simulation bisimulation expands roots options.depth segments

/-- Roots that are alike compile every template to the same text or with the same fault. -/
theorem compile_alike (bisimulation : left.Bisimulation right pairs) {root root' : Descriptor}
    (roots : Roots left right pairs root root') (template : String) (options : CompileOptions) :
    compile left root template options = compile right root' template options :=
  -- Without a cache, related steps are equal ones.
  compileWith_related simulation_eq bisimulation (Expansion.selectList_alike bisimulation) roots
    template options

end Query

end RemoteRecords
