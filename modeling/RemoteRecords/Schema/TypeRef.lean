/-! References to types from the fields of a schema. -/

namespace RemoteRecords

/-- How a reference presents its type. -/
inductive TypeKind where
  /-- A record type with a schema of its own. -/
  | mapped
  | scalar
  /-- A closed list of values. -/
  | enumeration
deriving DecidableEq, Repr, Inhabited

/-- A reference to a type by its full name. The name alone identifies the type: two references of
different kinds can mean the same type. -/
structure TypeRef where
  typeName : String
  kind : TypeKind
deriving DecidableEq, Repr, Inhabited

/-- Both references mean one type. -/
def TypeRef.sameType (left right : TypeRef) : Bool :=
  left.typeName == right.typeName

end RemoteRecords
