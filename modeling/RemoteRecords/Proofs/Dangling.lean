import RemoteRecords.Proofs.Faults
import RemoteRecords.Proofs.Payload.RoundTrip
import RemoteRecords.Proofs.Payload.Values
import RemoteRecords.Proofs.Query.Compilation

/-! Dangling links: no query and no reading comes upon a link to what is not published. -/

namespace RemoteRecords

/-- A query fails for a descriptor that is not published. -/
def QueryFault.Dangling : QueryFault → Prop
  | .unpublishedTarget _ | .unpublishedRoot _ => True
  | _ => False

/-- A reading fails for child records without a type. -/
def CodecFault.Dangling : CodecFault → Prop
  | .noElementType _ => True
  | _ => False

/-- An operation fails for a link that leads nowhere. -/
def Error.Dangling : Error → Prop
  | .queryCompile fault => fault.Dangling
  | .codec fault => fault.Dangling
  | _ => False

namespace Query

open Expansion Registry

/-- A path fails for what it says, not for what is published. -/
theorem avoids_follow (registry : Registry) (wildcard : String) (current : Descriptor)
    (path : String) (segments : List String) :
    Avoids QueryFault.Dangling (follow registry wildcard current path segments) := by
  -- The induction is on the segments, and each step either fails by itself or goes on.
  induction segments generalizing current path with
  | nil => exact .ok _
  | cons segment rest ih =>
    rw [follow]
    -- The segment names no field, or one that leads to many records, or one without a fallback.
    split
    · exact .error id
    · split
      · exact .error id
      · split
        · exact .error id
        · exact ih _ _

/-- A query on a published root meets nothing that is not published. -/
theorem avoids_compile {config : MappingConfig} {calls : List Lookup} {root : Descriptor}
    (published : root ∈ (after config calls).arena) (template : String) (options : CompileOptions) :
    Avoids QueryFault.Dangling (compile (after config calls) root template options) := by
  -- The text is cut at its wildcards, and what each of them is replaced by is told separately.
  obtain ⟨head, tail, split⟩ : ∃ head tail, Template.splitAtLiteral template = (head, tail) :=
    ⟨_, _, rfl⟩
  obtain ⟨found, rest, cut, -⟩ := Template.exists_cut head.toList
  rw [compile_eq split cut]
  refine (Avoids.mapM fun site _ => ?_).map _
  -- A wildcard fails where its path cannot be followed or where nothing is listed.
  rw [expandWildcard_of_published published]
  refine (avoids_follow _ _ _ _ _).bind fun ends _ => ?_
  simp only
  split
  · exact .error id
  · exact .ok _

end Query

namespace Payload

open Registry

/-- Rows are found or refused for their shape. -/
theorem avoids_childRows (field : FieldDescriptor) (held : Option Json) :
    Avoids Error.Dangling (childRows field held) := by
  -- Each kind of value gives rows or a fault of its own.
  unfold childRows
  split
  · exact .ok _
  · exact .ok _
  · exact .ok _
  · split
    · exact .error id
    · split
      · exact .error id
      · exact .ok _
  · exact .error id

/-- A related record without a type is at fault itself. -/
theorem avoids_targetOf (registry : Registry) (field : FieldDescriptor) (named : Option String) :
    Avoids CodecFault.Dangling (registry.targetOf field named) := by
  -- The search for a type comes back with one or with a fault for the missing member.
  unfold targetOf
  simp only
  split
  · exact .ok _
  · exact .error id

section Reading

variable {registry : Registry} {descriptor : Descriptor} {record : Object} {field : FieldDescriptor}
  (represents : Represents registry) (closed : registry.Closed)
  (published : descriptor ∈ registry.arena)

include closed published in
/-- Child records of a published descriptor have a type. -/
theorem exists_related_of_isChild (declared : field ∈ descriptor.fields) (child : field.isChild) :
    ∃ element, registry.related? field = some element := by
  -- The link of the field leads into the closed registry.
  simp only [FieldDescriptor.isChild, Bool.and_eq_true, Option.isSome_iff_exists] at child
  obtain ⟨-, id, link⟩ := child
  obtain ⟨element, found⟩ := (closed descriptor published field declared).1 id link
  exact ⟨element, by simp [related?, link, found]⟩

/-- Records of published types that are smaller than a given one are read without such a fault. -/
def AvoidsInside (registry : Registry) (record : Object) : Prop :=
  ∀ target ∈ registry.arena, ∀ inner : Object, sizeOf inner < sizeOf record →
    Avoids Error.Dangling (read registry target inner)

variable (inside : AvoidsInside registry record)

include inside

/-- A value inside a record is read as one of a published type without such a fault. -/
theorem AvoidsInside.decode {element : Descriptor} (there : element ∈ registry.arena) {value : Json}
    (smaller : sizeOf value < sizeOf record) :
    Avoids Error.Dangling (Payload.decode registry element value) := by
  -- An object is smaller than the value that holds it, and all other values are refused.
  cases value with
  | object members => exact (inside element there members (Nat.lt_trans (by simp) smaller)).map _
  | null | bool | number | string | array => exact .error id

include closed published in
/-- Child records are read by a link to their type. -/
theorem avoids_childValues (declared : field ∈ descriptor.fields) (child : field.isChild) :
    Avoids Error.Dangling (childValues registry field (record.get? field.name)) := by
  -- A missing or null container has no rows, and in any other the rows are read one by one.
  obtain ⟨element, leads⟩ := exists_related_of_isChild closed published declared child
  unfold childValues
  split
  · exact .ok _
  · exact .ok _
  · rename_i container held
    refine (avoids_childRows _ _).bind fun rows read => ?_
    -- The type is found, so the rows are read, each of them smaller than the record.
    rw [← held] at read
    simp only [rowValues, leads]
    exact Avoids.mapM fun row listed =>
      inside.decode (mem_arena_of_related? leads) (sizeOf_lt_of_childRows read listed)

include represents in
/-- A related record is read as one of the type that was found for it. -/
theorem avoids_relatedValue (owner : Descriptor) (stub : Option Json) :
    Avoids Error.Dangling
      (relatedValue registry owner field stub (record.get? field.name)) := by
  -- Only an object is read on; a stub is made without reading and other values are refused.
  unfold relatedValue
  split
  · rename_i related held
    cases taken : registry.targetOf field (Attributes.typeOf? related) with
    | error fault => exact .error (avoids_targetOf _ _ _ fault taken)
    | ok target =>
      -- Whatever type is taken is published, so the record inside is covered.
      have smaller : sizeOf related < sizeOf record :=
        Nat.lt_trans (by simp) (Json.sizeOf_lt_of_get? held)
      exact (inside target (represents.admits_of_targetOf taken).1 related smaller).map _
  · exact .ok _
  · exact .ok _
  · exact .error id

include represents closed published in
/-- A field is read without such a fault if the records inside are. -/
theorem avoids_fieldRead (declared : field ∈ descriptor.fields) :
    Avoids Error.Dangling (fieldRead registry descriptor record field) := by
  -- Metadata and simple values are copied and cannot fail.
  unfold fieldRead
  split
  · exact .ok _
  · split
    · rename_i child
      exact (avoids_childValues closed published inside declared child).map _
    · split
      · exact avoids_relatedValue represents inside descriptor _
      · exact .ok _

end Reading

/-- However deep records lie inside each other, none is read by a link that leads nowhere. -/
theorem avoids_read {registry : Registry} (represents : Represents registry)
    (closed : registry.Closed) {descriptor : Descriptor} (published : descriptor ∈ registry.arena)
    (record : Object) : Avoids Error.Dangling (read registry descriptor record) := by
  -- The records inside are smaller, so the statement holds of them by recursion.
  have inside : AvoidsInside registry record := fun target there inner smaller =>
    avoids_read represents closed there inner
  rw [read_eq]
  refine (Avoids.mapM fun field declared => ?_).map _
  exact (avoids_fieldRead represents closed published inside declared).map _
termination_by sizeOf record

/-- A value is read as a record of a published type without such a fault. -/
theorem avoids_decode {registry : Registry} (represents : Represents registry)
    (closed : registry.Closed) {descriptor : Descriptor} (published : descriptor ∈ registry.arena)
    (value : Json) : Avoids Error.Dangling (decode registry descriptor value) := by
  -- An object is read as a record, and other values are refused for their shape.
  cases value with
  | object members => exact (avoids_read represents closed published members).map _
  | null | bool | number | string | array => exact .error id

/-- A foreign key with a text under it is read as a record that holds the text as its identifier. -/
theorem stub?_of_related {registry : Registry} {field : FieldDescriptor} {target : Descriptor}
    (single : field.isPolymorphic = false) (leads : registry.related? field = some target)
    {record : Object} {key id : String} (column : field.referenceKey = some key)
    (held : record.get? key = some (.string id)) {idField : FieldDescriptor}
    (place : target.idField? = some idField) :
    stub? registry field record = some (.object [(idField.name, .string id)]) := by
  -- The one target has a place for an identifier, and no type has to be stated with it.
  simp [stub?_eq, column, held, textOf, Json.asString?, leads, place, tagged, single]

end Payload

namespace Mapper

open Relation

/--
However a mapper was used, no operation on a published descriptor comes upon a dangling link.

Field lists always succeed, queries and readings never fail for something that is not published,
and every relationship that is not polymorphic has its target, whatever type a record states.
-/
theorem links_never_dangle {config : MappingConfig} {mapper : Mapper}
    (used : ReflTransGen Step (ofConfig config) mapper) {descriptor : Descriptor}
    (published : descriptor ∈ mapper.registry.arena) :
    (∀ path depth, ∃ items,
      Expansion.selectList mapper.registry depth descriptor path = .ok items ∧
      ((fieldList descriptor path depth).run.run mapper).1 = .ok (SelectItem.listText items)) ∧
    (∀ template options,
      Avoids Error.Dangling ((compile descriptor template options).run.run mapper).1) ∧
    (∀ value, Avoids Error.Dangling ((decodeAs descriptor value).run.run mapper).1) ∧
    ∀ field ∈ descriptor.fields, field.isReference → field.isPolymorphic = false →
      ∃ target ∈ mapper.registry.arena, mapper.registry.related? field = some target ∧
        (∀ named, mapper.registry.targetOf field named = .ok target) ∧
        ∀ (record : Object) key id idField, field.referenceKey = some key →
          record.get? key = some (.string id) → target.idField? = some idField →
          Payload.stub? mapper.registry field record =
            some (.object [(idField.name, .string id)]) := by
  -- The registry is that of some history of lookups, so it is closed and represents its types.
  obtain ⟨calls, history⟩ := exists_history_of_used used
  refine ⟨fun path depth => ⟨_, run_fieldList_of_used used published path depth⟩,
    fun template options => ?_, fun value => ?_, fun field declared relationship single => ?_⟩
  · -- The cache does not change which faults there are.
    rw [run_compile_of_used used, history]
    rw [history] at published
    exact (Query.avoids_compile published template options).mapError fun _ => id
  · have sound := (steps_sound (sound_ofConfig config) used).1
    exact Payload.avoids_decode sound.represents sound.closed published value
  · -- The one target is taken without a look at the stated type.
    rw [history] at published ⊢
    obtain ⟨target, leads⟩ :=
      Registry.exists_related_of_single published declared relationship single
    refine ⟨target, Registry.mem_arena_of_related? leads, leads, fun named => ?_,
      fun record key id idField column held place =>
        Payload.stub?_of_related single leads column held place⟩
    rw [Registry.targetOf_of_no_member (by simp [single]), leads]

/-- A mapper that has looked up the accounts of the clientele. -/
def ofClientele : Mapper :=
  ((Mapper.descriptor Registry.clientele ⟨"Account", .mapped⟩).run.run (ofConfig {})).2

/-- The parent of an account is an account, whatever type it states, and a bare key is a stub of
it; owners have no fallback, and it is this that their wildcard fails for. -/
theorem links_never_dangle_clientele :
    ∃ account ∈ ofClientele.registry.arena, ∃ parent ∈ account.fields,
      parent.name = "Parent" ∧
      ofClientele.registry.targetOf parent (some "User") = .ok account ∧
      Payload.stub? ofClientele.registry parent [("ParentId", .string "001")] =
        some (.object [("Id", .string "001")]) ∧
      ((compile account "Owner.*" { depth := 1 }).run.run ofClientele).1 =
        .error (.queryCompile (.noFallback "Account" "Owner")) ∧
      ¬ (Error.queryCompile (.noFallback "Account" "Owner")).Dangling := by
  -- The clientele is a fixed catalog, so what its lookup publishes can be computed.
  have used : ReflTransGen Step (ofConfig {}) ofClientele := .single (.descriptor _ _ _)
  have same : ofClientele.registry = Registry.afterClientele := rfl
  have held : ∃ account parent idField, ofClientele.registry.arena[0]? = some account ∧
      account.fields.find? (·.name == "Parent") = some parent ∧ parent.isReference = true ∧
      parent.isPolymorphic = false ∧ parent.referenceKey = some "ParentId" ∧
      ofClientele.registry.related? parent = some account ∧ account.idField? = some idField ∧
      idField.name = "Id" ∧ Query.compile ofClientele.registry account "Owner.*" { depth := 1 } =
        .error (.noFallback "Account" "Owner") := by
    rw [same, Registry.afterClientele_eq]
    exact ⟨_, _, _, rfl, rfl, rfl, rfl, by decide, rfl, rfl, rfl, by decide +kernel⟩
  obtain ⟨account, parent, idField, atPlace, found, relationship, single, column, leads, place,
    name, failed⟩ := held
  have published := List.mem_of_getElem? atPlace
  have declared := List.mem_of_find?_eq_some found
  -- The theorem is applied to the account itself.
  obtain ⟨-, queries, -, targets⟩ := links_never_dangle used published
  obtain ⟨target, -, leads', taken, stubs⟩ := targets parent declared relationship single
  obtain rfl : account = target := Option.some.inj (leads.symm.trans leads')
  have compiled : ((compile account "Owner.*" { depth := 1 }).run.run ofClientele).1 =
      .error (.queryCompile (.noFallback "Account" "Owner")) := by
    rw [run_compile_of_used used, failed]
    rfl
  refine ⟨account, published, parent, declared, by simpa using List.find?_some found,
    taken (some "User"), ?_, compiled, queries _ _ _ compiled⟩
  rw [← name]
  exact stubs _ _ _ _ column rfl place

end Mapper

end RemoteRecords
