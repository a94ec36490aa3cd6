import RemoteRecords.Wire.ServerError

/-! What the server answers to a create and to an upsert. -/

namespace RemoteRecords

/-- The answer to a create. -/
structure CreateResult where
  id : String := ""
  success : Bool := false
  errors : List ServerError := []
deriving DecidableEq, Repr, Inhabited

namespace CreateResult

def ofJson? (value : Json) : Option CreateResult := do
  match ← Shape.members? ["id", "success", "errors"] value with
  | [id, success, errors] =>
    let id ← Shape.withDefault "" Json.asString? id
    let success ← Shape.withDefault false Json.asBool? success
    let errors ← Shape.withDefault [] (Shape.list ServerError.ofJson?) errors
    pure { id, success, errors }
  | _ => none

def toJson (result : CreateResult) : Json :=
  Json.ofMembers [("id", .string result.id), ("success", .bool result.success),
    ("errors", .array (result.errors.map ServerError.toJson))]

end CreateResult

/-- The answer to an upsert; a record that was there before is updated and not created. -/
structure UpsertResult where
  id : Option String := none
  created : Bool := false
deriving DecidableEq, Repr, Inhabited

namespace UpsertResult

def ofJson? (value : Json) : Option UpsertResult := do
  match ← Shape.members? ["id", "created"] value with
  | [id, created] =>
    let id ← Shape.optional Json.asString? id
    let created ← Shape.withDefault false Json.asBool? created
    pure { id, created }
  | _ => none

/-- An identifier that is absent is written as null. -/
def toJson (result : UpsertResult) : Json :=
  Json.ofMembers [("id", (result.id.map Json.string).getD .null), ("created", .bool result.created)]

end UpsertResult

end RemoteRecords
