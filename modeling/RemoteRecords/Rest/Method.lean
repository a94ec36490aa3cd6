import RemoteRecords.Wire.Shape

/-! The request methods. -/

namespace RemoteRecords

/-- A request method. -/
inductive Method where
  | get
  | post
  | patch
  | delete
deriving DecidableEq, Repr, Inhabited

namespace Method

def text : Method → String
  | .get => "GET"
  | .post => "POST"
  | .patch => "PATCH"
  | .delete => "DELETE"

def ofText? (text : String) : Option Method :=
  [get, post, patch, delete].find? fun method => method.text == text

def ofJson? (value : Json) : Option Method := do
  let (name, content) ← Shape.choice? value
  if Shape.noContent content then ofText? name else none

def toJson (method : Method) : Json :=
  .string method.text

end Method

end RemoteRecords
