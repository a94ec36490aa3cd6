import RemoteRecords.Error
import RemoteRecords.Registry.Basic
import RemoteRecords.Wire.Attributes

/-! Targets: the record type of a related record, and the identifier that it holds. -/

namespace RemoteRecords

namespace Registry

/-- The alternative or fallback of a polymorphic field that has a name. -/
def member? (registry : Registry) (field : FieldDescriptor) (name : String) : Option Descriptor :=
  (registry.byName? name).filter fun descriptor =>
    field.alternatives.contains descriptor.id || field.related == some descriptor.id

/-- The type of a related record: of a polymorphic field the one that is named, or else the
fallback. -/
def targetOf (registry : Registry) (field : FieldDescriptor) (named : Option String) :
    Except CodecFault Descriptor :=
  -- A name that no member of the field has is as good as none.
  let member := if field.isPolymorphic then named.bind (registry.member? field) else none
  match member.orElse fun _ => registry.related? field with
  | some target => .ok target
  | none => .error (.unknownTarget field.name)

end Registry

/-- The identifier of a record, unless it is empty. -/
def Descriptor.idOf? (descriptor : Descriptor) (record : Object) : Option String := do
  let field ← descriptor.idField?
  let value ← Dict.get? record field.name
  let id ← value.asString?
  -- An empty identifier marks a record that was never stored.
  if id.isEmpty then none else some id

end RemoteRecords
