import RemoteRecords.Descriptor.Basic
import RemoteRecords.Dict

/-! Registries: published descriptors, found by number, by type and by name. -/

namespace RemoteRecords

/-- What a registry remembers of a type that it has met. -/
inductive Slot where
  | mapped (id : DescriptorId)
  /-- The type has no descriptor and will not get one. -/
  | ineligible
deriving DecidableEq, Repr

/-- Published descriptors and the indexes into them. -/
structure Registry where
  config : MappingConfig
  /-- The descriptor at each place carries the place as its number. -/
  arena : List Descriptor := []
  slots : Dict Slot := []
  /-- The descriptor of each record name; the first to take a name keeps it. -/
  names : Dict DescriptorId := []
deriving Repr, Inhabited

namespace Registry

def size (registry : Registry) : Nat :=
  registry.arena.length

def isEmpty (registry : Registry) : Bool :=
  registry.arena.isEmpty

/-- The descriptor of a number. -/
def get? (registry : Registry) (id : DescriptorId) : Option Descriptor :=
  registry.arena[id.index]?

/-- The descriptor of a record name. -/
def byName? (registry : Registry) (name : String) : Option Descriptor :=
  (registry.names.get? name).bind registry.get?

/-- The descriptor that a field leads to. -/
def related? (registry : Registry) (field : FieldDescriptor) : Option Descriptor :=
  field.related.bind registry.get?

end Registry

end RemoteRecords
