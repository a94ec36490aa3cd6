import RemoteRecords.Wire.Shape

/-! Record metadata: the type name of a record and, on reads, its address. -/

namespace RemoteRecords

/-- The metadata of one record. -/
structure Attributes where
  typeName : String
  url : Option String := none
deriving DecidableEq, Repr, Inhabited

namespace Attributes

/-- The key that holds a record's metadata. -/
def key : String := "attributes"

/-- Metadata has a type name. -/
def ofJson? (value : Json) : Option Attributes := do
  match ← Shape.members? ["type", "url"] value with
  | [typeName, url] =>
    let typeName ← Shape.required Json.asString? typeName
    let url ← Shape.optional Json.asString? url
    pure { typeName, url }
  | _ => none

/-- An address that is absent is left out. -/
def toJson (attributes : Attributes) : Json :=
  Json.ofMembers
    (("type", .string attributes.typeName) :: (attributes.url.map ("url", .string ·)).toList)

/-- The metadata as a value, put together member by member. -/
def toValue (attributes : Attributes) : Json :=
  let stated : Object := Dict.insert [] "type" (.string attributes.typeName)
  match attributes.url with
  | none => .object stated
  | some url => .object (stated.insert "url" (.string url))

/-- The type name that an object states in its metadata. -/
def typeOf? (record : Object) : Option String := do
  let metadata ← Dict.get? record key
  let typeName ← metadata.member? "type"
  typeName.asString?

end Attributes

end RemoteRecords
