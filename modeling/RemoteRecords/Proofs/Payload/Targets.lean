import Mathlib.Data.List.Nodup
import RemoteRecords.Payload.Target
import RemoteRecords.Proofs.Registry.History

/-! Targets: the type that a related record is taken for, by the name that it states. -/

namespace RemoteRecords

/-- A descriptor is one of a field's alternatives or its fallback. -/
def FieldDescriptor.Admits (field : FieldDescriptor) (descriptor : Descriptor) : Prop :=
  descriptor.id ∈ field.alternatives ∨ field.related = some descriptor.id

namespace Registry

/-- The first descriptor that was published under a name. -/
def first? (registry : Registry) (name : String) : Option Descriptor :=
  registry.arena.find? (·.name == name)

/-- The first descriptor of a name is published and has the name. -/
theorem mem_of_first? {registry : Registry} {name : String} {descriptor : Descriptor}
    (first : registry.first? name = some descriptor) :
    descriptor ∈ registry.arena ∧ descriptor.name = name :=
  -- What a search finds is listed and meets the condition.
  ⟨List.mem_of_find?_eq_some first, by simpa using List.find?_some first⟩

/-- Where no two descriptors share a name, each is the first of its own. -/
theorem first?_of_nodup {registry : Registry} (unique : (registry.arena.map (·.name)).Nodup)
    {descriptor : Descriptor} (published : descriptor ∈ registry.arena) :
    registry.first? descriptor.name = some descriptor := by
  -- Whatever is found has the name, and only the descriptor itself does.
  have somewhere : (registry.first? descriptor.name).isSome := by
    rw [first?, List.find?_isSome]
    exact ⟨descriptor, published, by simp⟩
  obtain ⟨other, found⟩ := Option.isSome_iff_exists.mp somewhere
  obtain ⟨listed, same⟩ := mem_of_first? found
  rw [found, List.inj_on_of_nodup_map unique listed published same]

/-- A named member is the first descriptor of the name, if the field admits that one. -/
theorem Represents.member?_eq_some_iff {registry : Registry} (represents : Represents registry)
    {field : FieldDescriptor} {name : String} {target : Descriptor} :
    registry.member? field name = some target ↔
      registry.first? name = some target ∧ field.Admits target := by
  -- The names lead to the first descriptor of each, and those of the field are admitted.
  rw [member?, represents.byName?_eq, Option.filter_eq_some_iff]
  simp [first?, FieldDescriptor.Admits]

/-- The descriptor that a field leads to is published, and the field admits it. -/
theorem Represents.related?_eq_some {registry : Registry} (represents : Represents registry)
    {field : FieldDescriptor} {target : Descriptor}
    (found : registry.related? field = some target) :
    target ∈ registry.arena ∧ field.Admits target := by
  -- The number that the field holds is the number of the descriptor at that place.
  obtain ⟨id, link, held⟩ := Option.bind_eq_some_iff.mp found
  have number : target.id = id := represents.numbered id.index target held
  exact ⟨List.mem_of_getElem? held, .inr (number ▸ link)⟩

/-- A polymorphic field takes the first descriptor of the stated name if it admits that one. -/
theorem Represents.targetOf_of_first? {registry : Registry} (represents : Represents registry)
    {field : FieldDescriptor} (polymorphic : field.isPolymorphic) {name : String}
    {target : Descriptor} (first : registry.first? name = some target)
    (admitted : field.Admits target) : registry.targetOf field (some name) = .ok target := by
  -- The first descriptor of the name is a member, and members are preferred.
  have member := represents.member?_eq_some_iff.mpr ⟨first, admitted⟩
  simp [targetOf, polymorphic, member]

/-- Without a member of the stated name, the link of the field itself decides. -/
theorem targetOf_of_no_member {registry : Registry} {field : FieldDescriptor}
    {named : Option String}
    (none : field.isPolymorphic → named.bind (registry.member? field) = none) :
    registry.targetOf field named =
      match registry.related? field with
      | some target => .ok target
      | .none => .error (.unknownTarget field.name) := by
  -- A field with one target never asks for the name, and the others find nothing under it.
  unfold targetOf
  by_cases polymorphic : field.isPolymorphic
  · rw [if_pos polymorphic, none polymorphic]
    rfl
  · rw [if_neg polymorphic]
    rfl

/-- No target is taken but a published one that the field admits. -/
theorem Represents.admits_of_targetOf {registry : Registry} (represents : Represents registry)
    {field : FieldDescriptor} {named : Option String} {target : Descriptor}
    (taken : registry.targetOf field named = .ok target) :
    target ∈ registry.arena ∧ field.Admits target := by
  -- Either a member of the stated name was found, or it was not.
  by_cases member : field.isPolymorphic ∧ ∃ held, named.bind (registry.member? field) = some held
  · -- The stated name leads to a member.
    obtain ⟨polymorphic, held, found⟩ := member
    obtain ⟨name, rfl, found⟩ := Option.bind_eq_some_iff.mp found
    obtain ⟨first, admitted⟩ := represents.member?_eq_some_iff.mp found
    rw [represents.targetOf_of_first? polymorphic first admitted] at taken
    cases taken
    exact ⟨(mem_of_first? first).1, admitted⟩
  · -- No member is found, so the link of the field was followed.
    rw [targetOf_of_no_member fun polymorphic => Option.eq_none_iff_forall_not_mem.mpr
      fun held found => member ⟨polymorphic, held, found⟩] at taken
    cases related : registry.related? field with
    | none => simp [related] at taken
    | some other =>
      simp only [related, Except.ok.injEq] at taken
      exact taken ▸ represents.related?_eq_some related

/-- Whatever was looked up before, a polymorphic field takes a record for the first type that was
published under the stated name, if that type is one of its alternatives or its fallback. Otherwise
it takes the record for its fallback, and without a fallback it refuses the record. No other type is
ever taken. -/
theorem polymorphic_target_by_first_name (config : MappingConfig) (calls : List Lookup)
    {owner : Descriptor} {field : FieldDescriptor}
    (published : owner ∈ (after config calls).arena) (declared : field ∈ owner.fields)
    (polymorphic : field.isPolymorphic) (named : Option String) :
    let registry := after config calls
    (∀ target, named.bind registry.first? = some target → field.Admits target →
      registry.targetOf field named = .ok target ∧ named = some target.name) ∧
    ((∀ target, named.bind registry.first? = some target → ¬ field.Admits target) →
      (∀ id, field.related = some id →
        ∃ fallback, registry.get? id = some fallback ∧
          registry.targetOf field named = .ok fallback) ∧
      (field.related = none → registry.targetOf field named = .error (.unknownTarget field.name))) ∧
    ∀ target, registry.targetOf field named = .ok target →
      target ∈ registry.arena ∧ field.Admits target := by
  intro registry
  have represents : Represents registry := after_represents config calls
  refine ⟨fun target first admitted => ?_, fun strangers => ?_,
    fun target taken => represents.admits_of_targetOf taken⟩
  · -- A name was stated, and its first type is admitted.
    obtain ⟨name, rfl, first⟩ := Option.bind_eq_some_iff.mp first
    exact ⟨represents.targetOf_of_first? polymorphic first admitted,
      congrArg some (mem_of_first? first).2.symm⟩
  · -- A member would be the first descriptor of the name, which the field does not admit.
    have none : named.bind (registry.member? field) = none := by
      rw [Option.eq_none_iff_forall_not_mem]
      intro target found
      obtain ⟨name, rfl, found⟩ := Option.bind_eq_some_iff.mp found
      obtain ⟨first, admitted⟩ := represents.member?_eq_some_iff.mp found
      exact strangers target first admitted
    rw [targetOf_of_no_member fun _ => none, related?]
    refine ⟨fun id link => ?_, fun unlinked => by simp [unlinked]⟩
    -- The fallback's number leads to a published descriptor.
    obtain ⟨fallback, found⟩ :=
      (after_closed config calls owner published field declared).1 id link
    exact ⟨fallback, found, by simp [link, registry, found]⟩

/-- Two types share the name `Lead`, and tasks can be about the second of them. -/
def namesakes : Catalog where
  schemas := [
    ("Archive", { name := "Lead" }),
    ("Lead", { name := "Lead" }),
    ("Task", {
      name := "Task"
      fields := [.polymorphic "Who" [⟨"Lead", .mapped⟩],
        (FieldSchema.polymorphic "What" [⟨"Lead", .mapped⟩, ⟨"User", .mapped⟩]).fallingBackTo
          ⟨"User", .mapped⟩] }),
    ("User", { name := "User" })]

/-- The field of tasks that admits nothing but the second type of the name. -/
def whoOfTasks : FieldDescriptor :=
  { name := "Who", kind := .relationship, role := .value, alternatives := [⟨2⟩]
    insertable := true, updatable := true, audit := false, referenceKey := some "WhoId" }

/-- The field of tasks that admits users as well, and falls back to them. -/
def whatOfTasks : FieldDescriptor :=
  { whoOfTasks with
    name := "What", related := some ⟨3⟩, alternatives := [⟨2⟩, ⟨3⟩], referenceKey := some "WhatId" }

/-- A lookup of the first type of the name publishes that type alone. -/
theorem lookUp_archive : lookUp { config := {} } ⟨namesakes, ⟨"Archive", .mapped⟩⟩ =
    { config := {}, arena := [⟨⟨0⟩, "Lead", "Archive", false, []⟩]
      slots := [("Archive", .mapped ⟨0⟩)], names := [("Lead", ⟨0⟩)] } := by
  -- The exploration ends within one step, so it can be run.
  have explored : Exploration.explore [] namesakes {} [⟨⟨"Archive", .mapped⟩, none⟩] =
      (⟨[(⟨"Archive", .mapped⟩, namesakes.schema "Archive")], [], ["Archive"]⟩, none) :=
    Exploration.explore_of_exploreWithin 1 rfl
  simp only [lookUp, descriptor, published?, explore, explored, Dict.get?_nil, Option.map_none]
  rfl

/-- The registry after a lookup of the first type of the name and one of tasks. -/
def afterNamesakes : Registry :=
  after {} [⟨namesakes, ⟨"Archive", .mapped⟩⟩, ⟨namesakes, ⟨"Task", .mapped⟩⟩]

/-- A lookup of tasks publishes the other type of the name behind them. -/
theorem afterNamesakes_eq : afterNamesakes =
    { config := {}
      arena := [⟨⟨0⟩, "Lead", "Archive", false, []⟩,
        ⟨⟨1⟩, "Task", "Task", false, [whoOfTasks, whatOfTasks]⟩,
        ⟨⟨2⟩, "Lead", "Lead", false, []⟩, ⟨⟨3⟩, "User", "User", false, []⟩]
      slots := [("Archive", .mapped ⟨0⟩), ("Lead", .mapped ⟨2⟩), ("Task", .mapped ⟨1⟩),
        ("User", .mapped ⟨3⟩)]
      names := [("Lead", ⟨0⟩), ("Task", ⟨1⟩), ("User", ⟨3⟩)] } := by
  -- The first type of the name is published already, and the exploration for tasks can be run.
  have explored : Exploration.explore [("Archive", .mapped ⟨0⟩)] namesakes {}
      [⟨⟨"Task", .mapped⟩, none⟩] =
      (⟨[(⟨"Task", .mapped⟩, namesakes.schema "Task"), (⟨"Lead", .mapped⟩, namesakes.schema "Lead"),
        (⟨"User", .mapped⟩, namesakes.schema "User")], [], ["Task", "Lead", "User"]⟩, none) :=
    Exploration.explore_of_exploreWithin 5 rfl
  simp only [afterNamesakes, after, List.foldl_cons, List.foldl_nil, lookUp_archive]
  simp only [lookUp, descriptor, published?, explore, explored]
  rfl

/-- A related record of a task that says it is a lead is taken for a user, the fallback, since the
first type of that name is none that the field admits. One that says it is a user is one. -/
theorem polymorphic_target_by_first_name_namesakes :
    ∃ user, user.name = "User" ∧ whatOfTasks.isPolymorphic ∧
      afterNamesakes.targetOf whatOfTasks (some "User") = .ok user ∧
      afterNamesakes.targetOf whatOfTasks (some "Lead") = .ok user := by
  -- The law is applied to the field that falls back to users.
  have published : ⟨⟨1⟩, "Task", "Task", false, [whoOfTasks, whatOfTasks]⟩ ∈
      afterNamesakes.arena := by
    rw [afterNamesakes_eq]
    exact .tail _ (.head _)
  have selects := polymorphic_target_by_first_name {} _ published
    (.tail _ (.head _) : whatOfTasks ∈ [whoOfTasks, whatOfTasks]) rfl
  -- The type named `User` is published last, and it is both an alternative and the fallback.
  have user : afterNamesakes.first? "User" = some ⟨⟨3⟩, "User", "User", false, []⟩ := by
    rw [afterNamesakes_eq]
    rfl
  have lead : afterNamesakes.first? "Lead" = some ⟨⟨0⟩, "Lead", "Archive", false, []⟩ := by
    rw [afterNamesakes_eq]
    rfl
  refine ⟨⟨⟨3⟩, "User", "User", false, []⟩, rfl, rfl,
    ((selects (some "User")).1 _ user (.inr rfl)).1, ?_⟩
  -- The first type named `Lead` is the one that tasks know nothing of.
  obtain ⟨fallback, found, taken⟩ := ((selects (some "Lead")).2.1 (fun target first => by
    cases lead.symm.trans first
    simp [FieldDescriptor.Admits, whatOfTasks]) ).1 ⟨3⟩ rfl
  have third : afterNamesakes.get? ⟨3⟩ = some ⟨⟨3⟩, "User", "User", false, []⟩ := by
    rw [afterNamesakes_eq]
    rfl
  cases third.symm.trans found
  exact taken

/-- A record that says it is a lead is refused by a field that admits leads, because another type
was published under that name before. -/
theorem alternative_behind_namesake_is_missed :
    ∃ task lead, task ∈ afterNamesakes.arena ∧ whoOfTasks ∈ task.fields ∧
      whoOfTasks.isPolymorphic ∧ lead ∈ afterNamesakes.arena ∧ whoOfTasks.Admits lead ∧
      lead.name = "Lead" ∧
      afterNamesakes.targetOf whoOfTasks (some "Lead") = .error (.unknownTarget "Who") := by
  -- All facts are read off the registry as it is written out.
  refine ⟨⟨⟨1⟩, "Task", "Task", false, [whoOfTasks, whatOfTasks]⟩, ⟨⟨2⟩, "Lead", "Lead", false, []⟩,
    ?_, .head _, rfl, ?_, .inl (.head _), rfl, ?_⟩
  · rw [afterNamesakes_eq]
    exact .tail _ (.head _)
  · rw [afterNamesakes_eq]
    exact .tail _ (.tail _ (.head _))
  · rw [afterNamesakes_eq]
    rfl

end Registry

end RemoteRecords
