import RemoteRecords.Registry.Exploration

/-! Publication: a type is published together with all types that it needs, or not at all. -/

namespace RemoteRecords

namespace FieldSchema

/-- The role of a field; the identifier's comes first. -/
def role (field : FieldSchema) : FieldRole :=
  if field.isId then .id else if field.isAttributes then .attributes else .value

def kind (field : FieldSchema) : FieldKind :=
  match field.shape with
  | .simple => .simple
  | .collection _ => .collection
  | .reference _ => .relationship
  | .polymorphic .. => .relationship

/-- The descriptor of a field, given the numbers of the types around it. -/
def describe (config : MappingConfig) (idOf : String → Option DescriptorId)
    (field : FieldSchema) : FieldDescriptor where
  name := field.name
  kind := field.kind
  role := field.role
  related := match field.shape with
    | .simple => none
    | .reference target => idOf target.typeName
    | .collection element => idOf element.typeName
    | .polymorphic _ fallback => fallback.bind fun token => idOf token.typeName
  alternatives := match field.shape with
    | .polymorphic alternatives _ => alternatives.filterMap fun token => idOf token.typeName
    | _ => []
  insertable := field.insertable
  updatable := field.updatable
  audit := field.audit || FieldDescriptor.auditNames.contains field.name
  referenceKey :=
    if field.kind = .relationship then some (config.naming.referenceKey field.name) else none

end FieldSchema

namespace Registry

/-- The number of a type once the found types are published after the ones that are there. -/
def idOf (registry : Registry) (found : List (TypeRef × RecordSchema)) (typeName : String) :
    Option DescriptorId :=
  match registry.slots.get? typeName with
  | some (.mapped id) => some id
  | some .ineligible => none
  | none =>
    -- A type that is about to be published takes the place at which it was found.
    (found.findIdx? fun entry => entry.1.typeName == typeName).map fun place =>
      ⟨registry.size + place⟩

/-- The descriptors of the found types, numbered on from the ones that are there. -/
def describeAll (registry : Registry) (found : List (TypeRef × RecordSchema)) : List Descriptor :=
  found.mapIdx fun place entry =>
    { id := ⟨registry.size + place⟩
      name := entry.2.name
      typeName := entry.1.typeName
      metadataAware := entry.2.metadataAware
      fields := entry.2.fields.map (·.describe registry.config (registry.idOf found)) }

/-- Takes a name for a descriptor unless an earlier one has it. -/
def reserveName (names : Dict DescriptorId) (descriptor : Descriptor) : Dict DescriptorId :=
  match names.get? descriptor.name with
  | some _ => names
  | none => names.insert descriptor.name descriptor.id

/-- Publishes all that an exploration has met. -/
def publish (registry : Registry) (seen : Exploration) : Registry :=
  -- New descriptors follow the old ones, so published numbers keep their meaning.
  let added := registry.describeAll seen.found
  let refused := seen.ineligible.foldl (fun slots typeName => slots.insert typeName .ineligible)
    registry.slots
  { config := registry.config
    arena := registry.arena ++ added
    slots := added.foldl (fun slots descriptor =>
      slots.insert descriptor.typeName (.mapped descriptor.id)) refused
    names := added.foldl reserveName registry.names }

/-- The descriptor of a type that the registry has met. -/
def published? (registry : Registry) (typeName : String) : Option (Option Descriptor) :=
  (registry.slots.get? typeName).map fun slot =>
    match slot with
    | .mapped id => registry.get? id
    | .ineligible => none

/-- Explores a type that the registry has not met. -/
def explore (registry : Registry) (catalog : Catalog) (token : TypeRef) :
    Exploration × Option Error :=
  Exploration.explore registry.slots catalog {} [⟨token, none⟩]

/-- The descriptor of a type, or none for a type without one, and the registry that remembers the
answer. After an error the registry is as before. -/
def descriptor (registry : Registry) (catalog : Catalog) (token : TypeRef) :
    Except Error (Option Descriptor) × Registry :=
  match registry.published? token.typeName with
  | some answer => (.ok answer, registry)
  | none =>
    match registry.explore catalog token with
    -- What was met on the way to an obstacle is forgotten with it.
    | (_, some error) => (.error error, registry)
    | (seen, none) =>
      -- The answer is looked up in the registry that the caller goes on with.
      let next := registry.publish seen
      (.ok ((next.published? token.typeName).join), next)

/-- The descriptor of a record type, which has to be mapped. -/
def descriptorOf (registry : Registry) (catalog : Catalog) (typeName : String) :
    Except Error Descriptor × Registry :=
  match registry.descriptor catalog ⟨typeName, .mapped⟩ with
  | (.ok (some descriptor), next) => (.ok descriptor, next)
  | (.ok none, next) => (.error (.unmappableType typeName .unmarked), next)
  | (.error error, next) => (.error error, next)

end Registry

end RemoteRecords
