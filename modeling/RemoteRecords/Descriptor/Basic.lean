import RemoteRecords.Config.Mapping
import RemoteRecords.Schema.Basic

/-! Descriptors: record types as queries and payloads see them, with links to each other by number. -/

namespace RemoteRecords

/-- The place of a descriptor in its registry. -/
structure DescriptorId where
  index : Nat
deriving DecidableEq, Hashable, Repr, Inhabited

/-- A descriptor's number as it is written. -/
def DescriptorId.text (id : DescriptorId) : String :=
  "#" ++ toString id.index

inductive FieldKind where
  | simple
  | relationship
  | collection
deriving DecidableEq, Repr, Inhabited

inductive FieldRole where
  | value
  | id
  | attributes
deriving DecidableEq, Repr, Inhabited

/-- A field of a descriptor. -/
structure FieldDescriptor where
  name : String
  kind : FieldKind
  role : FieldRole
  /-- The target of a relationship, the fallback of a polymorphic one, or the type of child records. -/
  related : Option DescriptorId := none
  /-- The alternatives of a polymorphic relationship, in declared order. -/
  alternatives : List DescriptorId := []
  insertable : Bool
  updatable : Bool
  audit : Bool
  /-- The foreign-key column of a relationship. -/
  referenceKey : Option String := none
deriving DecidableEq, Repr, Inhabited

namespace FieldDescriptor

def isPolymorphic (field : FieldDescriptor) : Bool :=
  !field.alternatives.isEmpty

def isId (field : FieldDescriptor) : Bool :=
  field.role == .id

def isAttributes (field : FieldDescriptor) : Bool :=
  field.role == .attributes

/-- A relationship to one record, polymorphic or not. -/
def isReference (field : FieldDescriptor) : Bool :=
  field.kind == .relationship

/-- A collection of child records. -/
def isChild (field : FieldDescriptor) : Bool :=
  field.kind == .collection && field.related.isSome

/-- Columns that the server maintains, flagged or not. -/
def auditNames : List String :=
  ["CreatedById", "CreatedDate", "LastModifiedById", "LastModifiedDate", "SystemModstamp"]

end FieldDescriptor

/-- A record type with its fields in declared order. -/
structure Descriptor where
  id : DescriptorId
  name : String
  /-- The full name of the described type. -/
  typeName : String
  metadataAware : Bool
  fields : List FieldDescriptor
deriving DecidableEq, Repr, Inhabited

/-- Equality of names up to the case of ASCII letters. -/
def sameIgnoringCase (left right : String) : Bool :=
  left.toList.map Char.toLower == right.toList.map Char.toLower

namespace Descriptor

def field? (descriptor : Descriptor) (name : String) : Option FieldDescriptor :=
  descriptor.fields.find? fun field => field.name == name

/-- The field of a name, or else the first one that differs from it in case only. -/
def fieldIgnoringCase? (descriptor : Descriptor) (name : String) : Option FieldDescriptor :=
  -- An exact spelling wins over any other, wherever it stands.
  (descriptor.field? name).orElse fun _ =>
    descriptor.fields.find? fun field => sameIgnoringCase field.name name

def idField? (descriptor : Descriptor) : Option FieldDescriptor :=
  descriptor.fields.find? (·.isId)

def attributesField? (descriptor : Descriptor) : Option FieldDescriptor :=
  descriptor.fields.find? (·.isAttributes)

/-- Writes state the type of the record. -/
def isMetadataAware (descriptor : Descriptor) : Bool :=
  descriptor.metadataAware || descriptor.attributesField?.isSome

/-- The rank of a field in queries: metadata, identifier, name, all others. -/
def rank (field : FieldDescriptor) : Nat :=
  if field.isAttributes then 0
  else if field.isId then 1
  else if sameIgnoringCase field.name "name" then 2
  else 3

/-- The fields by rank, in declared order within a rank. -/
def orderedFields (descriptor : Descriptor) : List FieldDescriptor :=
  -- Picking one rank after another keeps the declared order within each.
  [0, 1, 2, 3].flatMap fun level => descriptor.fields.filter fun field => rank field == level

/-- The fields that a query can name, by rank. -/
def queryFields (descriptor : Descriptor) : List FieldDescriptor :=
  descriptor.orderedFields.filter fun field => !field.isAttributes

end Descriptor

end RemoteRecords
