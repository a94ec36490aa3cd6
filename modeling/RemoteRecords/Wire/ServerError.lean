import RemoteRecords.Wire.Shape

/-! The server's list of errors in the body of a failed request. -/

namespace RemoteRecords

/-- One entry of the server's list of errors. -/
structure ServerError where
  code : String := ""
  message : String := ""
  fields : List String := []
deriving DecidableEq, Repr, Inhabited

namespace ServerError

/-- The code of an entry goes by two keys, but not by both at once. -/
def codeOf? : Json → Option Json → Option (Option Json)
  | .object members, code =>
    match code, Dict.get? members "statusCode" with
    | some _, some _ => none
    | some code, none => some (some code)
    | none, other => some other
  -- By position the code has one place and one meaning.
  | _, code => some code

def ofJson? (value : Json) : Option ServerError := do
  match ← Shape.members? ["errorCode", "message", "fields"] value with
  | [code, message, fields] =>
    let code ← codeOf? value code
    let code ← Shape.withDefault "" Json.asString? code
    let message ← Shape.withDefault "" Json.asString? message
    let fields ← Shape.withDefault [] (Shape.list Json.asString?) fields
    pure { code, message, fields }
  | _ => none

def toJson (error : ServerError) : Json :=
  Json.ofMembers [("errorCode", .string error.code), ("message", .string error.message),
    ("fields", .array (error.fields.map .string))]

/-- The entry's code and message, and the fields at fault if any. -/
def text (error : ServerError) : String :=
  let fields :=
    if error.fields.isEmpty then ""
    else " (fields: " ++ String.intercalate ", " error.fields ++ ")"
  error.code ++ ": " ++ error.message ++ fields

/-- The entries in a body: the readable items of a list, or a single entry that says something. -/
def listOf (body : Json) : List ServerError :=
  match body with
  -- Items that cannot be read are passed over, and the others keep their order.
  | .array items => items.filterMap ofJson?
  | .object _ =>
    -- An object without code and message is some other body.
    ((ofJson? body).filter fun error => !(error.code.isEmpty && error.message.isEmpty)).toList
  | _ => []

/-- The message for a failed request: the server's entries, or else the bare status. -/
def render (status : UInt16) (errors : List ServerError) : String :=
  if errors.isEmpty then "HTTP status " ++ toString status.toNat
  else String.intercalate "; " (errors.map text)

end ServerError

end RemoteRecords
