import Mathlib.Logic.Relation
import RemoteRecords.Proofs.Payload.Rows
import RemoteRecords.Proofs.Payload.Values
import RemoteRecords.Proofs.Registry.Published

/-! Edits: records that differ at a place inside them, and how what is read of them differs. -/

namespace RemoteRecords

/-- Two ways to compare results, one for a place that was edited and one for the places beside it,
such that a run over all places compares like the edited one. -/
structure Tracks (edited beside : ∀ {α : Type}, Except Error α → Except Error α → Prop) : Prop where
  same : ∀ {α : Type} (result : Except Error α), beside result result
  error : ∀ {α : Type} (fault : Error), edited (.error fault : Except Error α) (.error fault)
  bind : ∀ {α β : Type} {left right : Except Error α} (next : α → Except Error β),
    edited left right → edited (left >>= next) (right >>= next)
  mapM : ∀ {α β : Type} {step step' : α → Except Error β} {ahead behind : List α} {item item' : α},
    (∀ other ∈ ahead ++ behind, beside (step other) (step' other)) →
    edited (step item) (step' item') →
    edited ((ahead ++ item :: behind).mapM step) ((ahead ++ item' :: behind).mapM step')

namespace Tracks

variable {edited beside : ∀ {α : Type}, Except Error α → Except Error α → Prop}

/-- Results are compared alike after they are mapped. -/
theorem map (tracks : Tracks edited beside) {α β : Type} {left right : Except Error α}
    (image : α → β) (compared : edited left right) :
    edited (left.map image) (right.map image) := by
  -- Mapping is running on with a step that never fails.
  have step : ∀ result : Except Error α,
      result.map image = result >>= fun value => .ok (image value) := by
    intro result
    cases result <;> rfl
  rw [step, step]
  exact tracks.bind _ compared

/-- Equality is carried from all places to the result. -/
theorem eq : Tracks Eq Eq where
  -- Where every step is the same, so is the run.
  same _ := rfl
  error _ := rfl
  bind next alike := by rw [alike]
  mapM alike here := by
    rw [List.mapM_append, List.mapM_append, List.mapM_cons, List.mapM_cons, here,
      mapM_congr fun other listed => alike other (List.mem_append_left _ listed),
      mapM_congr fun other listed => alike other (List.mem_append_right _ listed)]

end Tracks

/-- If a result has no errors but some, then another one fails, and with one of these. -/
def Fails (fault : Error → Prop) {α : Type} (left right : Except Error α) : Prop :=
  (∀ error, left = .error error → fault error) → ∃ error, right = .error error ∧ fault error

/-- A result succeeds if another one does, and has the error of the other one. -/
def EndsAlike {α : Type} (left right : Except Error α) : Prop :=
  (∀ value, left = .ok value → ∃ value', right = .ok value') ∧
    ∀ error, left = .error error → right = .error error

/-- An error at one place fails the whole, unless another error comes before it. -/
theorem Tracks.fails (fault : Error → Prop) : Tracks (Fails fault) EndsAlike where
  same _ := ⟨fun value found => ⟨value, found⟩, fun _ found => found⟩
  error fault allowed := ⟨fault, rfl, allowed fault rfl⟩
  bind {_ _ left right} next failing allowed := by
    obtain ⟨error, found, faulty⟩ := failing fun error found => allowed error (by rw [found]; rfl)
    exact ⟨error, by rw [found]; rfl, faulty⟩
  -- Ahead of the edited place both runs go alike, so the induction is on what is ahead.
  mapM {_ _ step step' ahead _ item item'} alike failing allowed := by
    induction ahead with
    | nil =>
      rw [List.nil_append, List.mapM_cons] at allowed
      -- The edited place comes first, and its error ends the run.
      obtain ⟨error, found, faulty⟩ := failing fun error found =>
        allowed error (by rw [found]; rfl)
      exact ⟨error, by rw [List.nil_append, List.mapM_cons, found]; rfl, faulty⟩
    | cons first rest ih =>
      obtain ⟨⟨succeeds, fails⟩, others⟩ := List.forall_mem_cons.mp alike
      rw [List.cons_append, List.mapM_cons] at allowed ⊢
      -- The first step ends alike on both sides, with an error that is passed on or with a value.
      cases ended : step first with
      | error error =>
        exact ⟨error, by rw [fails error ended]; rfl, allowed error (by rw [ended]; rfl)⟩
      | ok value =>
        -- Neither run has ended yet, so the rest of them is compared.
        obtain ⟨value', ended'⟩ := succeeds value ended
        obtain ⟨error, found, faulty⟩ := ih others fun error found =>
          allowed error (by rw [ended, found]; rfl)
        exact ⟨error, by rw [ended', found]; rfl, faulty⟩

namespace Payload

/-- What the place of a record says of its metadata. -/
structure Holding where
  /-- The metadata of the record chooses its type. -/
  told : Bool := false
  /-- The record is itself the metadata that chooses the type of the record around it. -/
  tells : Bool := false
deriving DecidableEq, Repr

/-- The value of a field is the metadata that chooses the type of its record. -/
def Holding.telling (holding : Holding) (field : FieldDescriptor) : Bool :=
  holding.told && field.name == Attributes.key

/-- The value of a field is not passed on as metadata besides. -/
def Unshared (descriptor : Descriptor) (field : FieldDescriptor) : Prop :=
  field.name = Attributes.key → ∀ other ∈ descriptor.fields, other.isAttributes = false

/-- What an edit does to a record, or to the value that holds its child records. -/
structure Edit where
  /-- The relationships whose values are edited. -/
  opens : Descriptor → FieldDescriptor → Prop
  members : Holding → Descriptor → Object → Object → Prop := fun _ _ _ _ => False
  /-- The value may be the metadata that chooses the type of its record. -/
  rows : (telling : Bool) → Json → Json → Prop := fun _ _ _ => False

/-- A record is edited at one place: itself, child records of its own, or a record inside it. -/
inductive Edited (registry : Registry) (edit : Edit) :
    Holding → Descriptor → Object → Object → Prop where
  | members {holding : Holding} {descriptor : Descriptor} {wire wire' : Object}
      (edited : edit.members holding descriptor wire wire') :
      Edited registry edit holding descriptor wire wire'
  | rows {holding : Holding} {descriptor : Descriptor} {wire : Object} {field : FieldDescriptor}
      {container container' : Json} (declared : field ∈ descriptor.fields) (child : field.isChild)
      (opened : edit.opens descriptor field) (held : wire.get? field.name = some container)
      (edited : edit.rows (holding.telling field) container container') :
      Edited registry edit holding descriptor wire (wire.insert field.name container')
  | related {holding : Holding} {descriptor target : Descriptor} {wire related related' : Object}
      {field : FieldDescriptor} (declared : field ∈ descriptor.fields)
      (relationship : field.isReference) (opened : edit.opens descriptor field)
      (held : wire.get? field.name = some (.object related))
      (taken : registry.targetOf field (Attributes.typeOf? related) = .ok target)
      (inside : Edited registry edit ⟨field.isPolymorphic, holding.telling field⟩ target related
        related') :
      Edited registry edit holding descriptor wire (wire.insert field.name (.object related'))
  | row {holding : Holding} {descriptor element : Descriptor} {wire row row' : Object}
      {field : FieldDescriptor} {container container' : Json} (declared : field ∈ descriptor.fields)
      (child : field.isChild) (opened : edit.opens descriptor field)
      (leads : registry.related? field = some element)
      (held : wire.get? field.name = some container)
      (replaced : Replaces (.object row) (.object row') container container')
      (inside : Edited registry edit {} element row row') :
      Edited registry edit holding descriptor wire (wire.insert field.name container')

/-- What is read of a record before and after an edit, and what the records around it read of it. -/
structure Kept (compared : ∀ {α : Type}, Except Error α → Except Error α → Prop)
    (registry : Registry) (holding : Holding) (descriptor : Descriptor) (wire wire' : Object) :
    Prop where
  reads : compared (read registry descriptor wire) (read registry descriptor wire')
  told : holding.told → Attributes.typeOf? wire = Attributes.typeOf? wire'
  tells : holding.tells → textOf (wire.get? "type") = textOf (wire'.get? "type")

/-- The stated type is a text in the metadata. -/
theorem typeOf?_eq {wire : Object} : Attributes.typeOf? wire =
    textOf ((wire.get? Attributes.key).bind fun metadata => metadata.member? "type") := by
  -- Both sides look up the same member and differ in when it is taken for a text.
  simp [Attributes.typeOf?, textOf, Option.bind_assoc]

/-- A value that can hold records is no text. -/
theorem Container.textOf_eq_none {value : Json} (container : Container value) :
    textOf (some value) = none := by
  -- Arrays and objects are no texts.
  cases container <;> rfl

/-- Child records are read of the rows that a value holds. -/
theorem Container.fieldRead_eq {value : Json} (container : Container value) {registry : Registry}
    {descriptor : Descriptor} {wire : Object} {field : FieldDescriptor}
    (data : field.isAttributes = false) (child : field.isChild)
    (held : wire.get? field.name = some value) :
    fieldRead registry descriptor wire field =
      (childRows field (some value) >>= rowValues registry field).map
        fun rows => some (.array rows) := by
  -- The container is there and not null, so its rows are taken and read.
  simp only [fieldRead, data, child, Bool.false_eq_true, if_false, if_true, held]
  cases container <;> rfl

section Insertion

variable {edited beside : ∀ {α : Type}, Except Error α → Except Error α → Prop}
  {registry : Registry} {holding : Holding} {descriptor : Descriptor} {wire : Object}
  {field other : FieldDescriptor} {value value' : Json}

/-- A new value of a relationship shows in no other field, unless that is metadata. -/
theorem fieldRead_insert (held : wire.get? field.name = some value) (container : Container value)
    (container' : Container value') (apart : other.name ≠ field.name)
    (metadata : other.isAttributes → field.name ≠ Attributes.key) :
    fieldRead registry descriptor wire other =
      fieldRead registry descriptor (wire.insert field.name value') other := by
  -- A field looks at three places, and the value was put in none of those that matter to it.
  refine fieldRead_congr (fun role => ?_) (fun _ => ?_) fun key _ => ?_
  · rw [Dict.get?_insert, if_neg (metadata role)]
  · rw [Dict.get?_insert, if_neg apart.symm]
  · -- Neither of the two values is a text, so neither is taken for an identifier.
    rw [Dict.get?_insert]
    split
    · rename_i same
      rw [← same, held, container.textOf_eq_none, container'.textOf_eq_none]
    · rfl

/-- A record with a new value of a relationship is compared like the field is. -/
theorem kept_of_insert (tracks : Tracks edited beside)
    (once : (descriptor.fields.map (·.name)).Nodup) (declared : field ∈ descriptor.fields)
    (shared : Unshared descriptor field ∨
      ∀ {α : Type} (left right : α), beside (Except.ok left) (Except.ok right))
    (held : wire.get? field.name = some value) (container : Container value)
    (container' : Container value')
    (told : holding.telling field →
      textOf (value.member? "type") = textOf (value'.member? "type"))
    (compared : edited (fieldRead registry descriptor wire field)
      (fieldRead registry descriptor (wire.insert field.name value') field)) :
    Kept edited registry holding descriptor wire (wire.insert field.name value') where
  reads := by
    -- The record is read field by field, and the fields beside the edited one read the same.
    obtain ⟨ahead, behind, split⟩ := List.append_of_mem declared
    rw [read_eq, read_eq, split]
    refine tracks.map _ (tracks.mapM (fun other listed => ?_) (tracks.map _ compared))
    -- The names tell the field from all others.
    have among : other ∈ descriptor.fields := by
      rw [split]
      exact List.mem_append.mpr ((List.mem_append.mp listed).imp_right (List.mem_cons_of_mem _))
    have apart : other.name ≠ field.name := by
      rw [split, List.map_append, List.map_cons] at once
      have fresh := (List.nodup_cons.mp (List.nodup_middle.mp once)).1
      rw [← List.map_append] at fresh
      exact fun same => fresh (same ▸ List.mem_map_of_mem listed)
    -- Metadata is the one field that looks at the value of another.
    by_cases metadata : other.isAttributes → field.name ≠ Attributes.key
    · rw [memberRead, memberRead,
        fieldRead_insert held container container' apart metadata]
      exact tracks.same _
    · obtain ⟨role, key⟩ := Classical.not_imp.mp metadata
      rcases shared with unshared | free
      · simp [unshared (not_not.mp key) other among] at role
      · simp only [memberRead, fieldRead, role, if_true, Except.map]
        exact free _ _
  told told' := by
    -- The type is stated in the value itself, if that is the metadata, or elsewhere.
    rw [typeOf?_eq, typeOf?_eq, Dict.get?_insert]
    split
    · rename_i key
      rw [← key, held]
      exact told (by simp [Holding.telling, told', key])
    · rfl
  tells _ := by
    -- A member for the type is a text, which neither of the two values is.
    rw [Dict.get?_insert]
    split
    · rename_i same
      rw [← same, held, container.textOf_eq_none, container'.textOf_eq_none]
    · rfl

end Insertion

/-- What an edit does at its own place is tracked from there. -/
structure Edit.Tracked (edit : Edit) (registry : Registry)
    (edited beside : ∀ {α : Type}, Except Error α → Except Error α → Prop) : Prop where
  opens : ∀ {descriptor : Descriptor} {field : FieldDescriptor}, edit.opens descriptor field →
    Unshared descriptor field ∨
      ∀ {α : Type} (left right : α), beside (Except.ok left) (Except.ok right)
  members : ∀ {holding : Holding} {descriptor : Descriptor} {wire wire' : Object},
    descriptor ∈ registry.arena → edit.members holding descriptor wire wire' →
      Kept edited registry holding descriptor wire wire'
  rows : ∀ {telling : Bool} {container container' : Json}, edit.rows telling container container' →
    Container container ∧ Container container' ∧
      (telling → textOf (container.member? "type") = textOf (container'.member? "type")) ∧
      ∀ field, edited (childRows field (some container)) (childRows field (some container'))

section Published

open Registry

variable {edited beside : ∀ {α : Type}, Except Error α → Except Error α → Prop} {edit : Edit}
  {config : MappingConfig} {calls : List Lookup} {holding : Holding} {descriptor : Descriptor}
  {wire wire' : Object}

/-- What an edit does at its own place is what it does to the record around the place. -/
theorem kept_of_edited (tracks : Tracks edited beside)
    (tracked : edit.Tracked (after config calls) edited beside)
    (published : descriptor ∈ (after config calls).arena)
    (changed : Edited (after config calls) edit holding descriptor wire wire') :
    Kept edited (after config calls) holding descriptor wire wire' := by
  -- The induction goes from the place of the edit outwards, one record around another.
  induction changed with
  | members changed => exact tracked.members published changed
  | @rows _ descriptor wire field container container' declared child opened held changed =>
    -- The rows are taken of both containers in the way in which they are compared.
    obtain ⟨first, second, told, compared⟩ := tracked.rows changed
    have data := (role_of_children published declared child).1
    have stored : (wire.insert field.name container').get? field.name = some container' := by
      rw [Dict.get?_insert, if_pos rfl]
    refine kept_of_insert tracks (nodup_names_of_published published) declared
      (tracked.opens opened) held first second told ?_
    rw [first.fieldRead_eq data child held, second.fieldRead_eq data child stored]
    exact tracks.map _ (tracks.bind _ (compared field))
  | @related holding descriptor target wire related related' field declared relationship opened held
      taken inside ih =>
    have kept := ih ((after_represents config calls).admits_of_targetOf taken).1
    have data := (role_of_relationship published declared relationship).1
    have single := FieldDescriptor.isChild_of_isReference relationship
    -- The type is the same before and after, since a name is looked for by told records alone.
    have taken' : (after config calls).targetOf field (Attributes.typeOf? related') =
        .ok target := by
      by_cases polymorphic : field.isPolymorphic
      · rw [← kept.told polymorphic, taken]
      · rw [targetOf_of_no_member fun poly => absurd poly polymorphic] at taken ⊢
        exact taken
    refine kept_of_insert tracks (nodup_names_of_published published) declared
      (tracked.opens opened) held (.object _) (.object _) kept.tells ?_
    simp only [fieldRead, data, single, relationship, Bool.false_eq_true, if_false, if_true, held,
      Dict.get?_insert, relatedValue, taken, taken']
    exact tracks.map _ kept.reads
  | @row _ descriptor element wire row row' field container container' declared child opened leads
      held replaced inside ih =>
    -- A row is read as a record of the published type that its field leads to.
    have kept := ih (mem_arena_of_related? leads)
    have data := (role_of_children published declared child).1
    have stored : (wire.insert field.name container').get? field.name = some container' := by
      rw [Dict.get?_insert, if_pos rfl]
    obtain ⟨first, second⟩ := replaced.containers
    refine kept_of_insert tracks (nodup_names_of_published published) declared
      (tracked.opens opened) held first second (fun _ => by rw [replaced.type_eq]) ?_
    rw [first.fieldRead_eq data child held, second.fieldRead_eq data child stored]
    refine tracks.map _ ?_
    -- Either no rows are taken from both, or rows that differ in one place.
    rcases replaced.childRows_cases field with
      ⟨fault, refused, refused'⟩ | ⟨ahead, behind, rows, rows'⟩
    · rw [refused, refused']
      exact tracks.error fault
    · simp only [rows, rows', bind, Except.bind, rowValues, leads]
      exact tracks.mapM (fun _ _ => tracks.same _) (tracks.map _ kept.reads)

/-- Edits that are tracked by equality, made or taken back one after another, do not show. -/
theorem read_eq_of_eqvGen (tracked : edit.Tracked (after config calls) Eq Eq)
    (published : descriptor ∈ (after config calls).arena)
    (changed : Relation.EqvGen (Edited (after config calls) edit holding descriptor) wire wire') :
    read (after config calls) descriptor wire = read (after config calls) descriptor wire' := by
  -- Each edit leaves what is read as it was, and equality goes both ways and along a chain.
  induction changed with
  | rel _ _ step => exact (kept_of_edited Tracks.eq tracked published step).reads
  | refl => rfl
  | symm _ _ _ ih => exact ih.symm
  | trans _ _ _ _ _ first second => exact first.trans second

/-- Edits that fail with certain errors, made one after another, fail with one of these. -/
theorem fails_of_transGen {fault : Error → Prop}
    (tracked : edit.Tracked (after config calls) (Fails fault) EndsAlike)
    (published : descriptor ∈ (after config calls).arena)
    (changed : Relation.TransGen (Edited (after config calls) edit holding descriptor) wire wire') :
    Fails fault (read (after config calls) descriptor wire)
      (read (after config calls) descriptor wire') := by
  -- The induction is on the edits in the order in which they were made.
  induction changed with
  | single step => exact (kept_of_edited (.fails fault) tracked published step).reads
  | tail _ step ih =>
    -- The errors that are left are allowed for the next edit.
    intro allowed
    obtain ⟨error, found, faulty⟩ := ih allowed
    refine (kept_of_edited (.fails fault) tracked published step).reads fun other found' => ?_
    cases found.symm.trans found'
    exact faulty

end Published

end Payload

end RemoteRecords
