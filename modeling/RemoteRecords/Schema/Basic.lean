import RemoteRecords.Schema.TypeRef

/-! Record schemas: the declared fields of a record type, in order. -/

namespace RemoteRecords

/-- What a field holds. -/
inductive FieldShape where
  | simple
  /-- One record of another type. -/
  | reference (target : TypeRef)
  /-- Many values; child records if the element type is mapped. -/
  | collection (element : TypeRef)
  /-- One record whose type is one of several; the fallback serves where none is named. -/
  | polymorphic (alternatives : List TypeRef) (fallback : Option TypeRef)
deriving DecidableEq, Repr, Inhabited

/-- A declared field. -/
structure FieldSchema where
  name : String
  shape : FieldShape
  insertable : Bool := true
  updatable : Bool := true
  isId : Bool := false
  isAttributes : Bool := false
  audit : Bool := false
deriving DecidableEq, Repr, Inhabited

namespace FieldSchema

/-- A plain value. -/
def simple (name : String) : FieldSchema :=
  { name, shape := .simple }

/-- The record's identifier, which travels in paths and never in bodies. -/
def id (name : String) : FieldSchema :=
  { name, shape := .simple, insertable := false, updatable := false, isId := true }

/-- The record's metadata, which the server writes. -/
def attributes (name : String) : FieldSchema :=
  { name, shape := .simple, insertable := false, updatable := false, isAttributes := true }

def reference (name : String) (target : TypeRef) : FieldSchema :=
  { name, shape := .reference target }

def collection (name : String) (element : TypeRef) : FieldSchema :=
  { name, shape := .collection element }

def polymorphic (name : String) (alternatives : List TypeRef) : FieldSchema :=
  { name, shape := .polymorphic alternatives none }

/-- Names the type that serves where no alternative is named; other shapes stay as they are. -/
def fallingBackTo (field : FieldSchema) (token : TypeRef) : FieldSchema :=
  match field.shape with
  | .polymorphic alternatives _ => { field with shape := .polymorphic alternatives (some token) }
  | _ => field

/-- Neither insertable nor updatable. -/
def readOnly (field : FieldSchema) : FieldSchema :=
  { field with insertable := false, updatable := false }

/-- The types that a field refers to, in the order in which they are resolved. -/
def targets (field : FieldSchema) : List TypeRef :=
  match field.shape with
  | .simple => []
  | .reference target => [target]
  | .collection element => [element]
  -- The fallback is resolved after all alternatives.
  | .polymorphic alternatives fallback => alternatives ++ fallback.toList

end FieldSchema

/-- A declared record type. A schema that is not marked as mapped describes plain values. -/
structure RecordSchema where
  name : String
  mapped : Bool := true
  metadataAware : Bool := false
  fields : List FieldSchema := []
deriving DecidableEq, Repr, Inhabited

namespace RecordSchema

/-- The first field of a name. -/
def field? (schema : RecordSchema) (name : String) : Option FieldSchema :=
  schema.fields.find? fun field => field.name == name

/-- The first field in the identifier's role. -/
def idField? (schema : RecordSchema) : Option FieldSchema :=
  schema.fields.find? (·.isId)

end RecordSchema

end RemoteRecords
