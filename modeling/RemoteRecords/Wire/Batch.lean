import RemoteRecords.Json.Writer
import RemoteRecords.Rest.Method

/-! Batch envelopes: several requests in one body, and their results in the same order. -/

namespace RemoteRecords

/-- One request of a batch, with its path and its body if it has one. -/
structure SubRequest where
  method : Method
  path : String
  body : Option Json := none
deriving DecidableEq, Repr, Inhabited

/-- The text of the body as it goes out, if there is a body. -/
def SubRequest.bodyText? (request : SubRequest) : Option String :=
  request.body.map Json.compact

/-- A request as an entry of a batch; a body that is absent is left out. -/
def SubRequest.toJson (request : SubRequest) : Json :=
  Json.ofMembers ([("url", .string request.path), ("method", request.method.toJson)] ++
    (request.body.map ("richInput", ·)).toList)

/-- The body of a batch. -/
structure BatchEnvelope where
  haltOnError : Bool
  requests : List SubRequest
deriving DecidableEq, Repr

def BatchEnvelope.toJson (envelope : BatchEnvelope) : Json :=
  Json.ofMembers [("haltOnError", .bool envelope.haltOnError),
    ("batchRequests", .array (envelope.requests.map SubRequest.toJson))]

/-- The result of one request of a batch. -/
structure BatchResult where
  status : UInt16
  result : Option Json := none
deriving DecidableEq, Repr, Inhabited

def BatchResult.ofJson? (value : Json) : Option BatchResult := do
  match ← Shape.members? ["statusCode", "result"] value with
  | [status, result] =>
    let status ← Shape.required Shape.shortWord status
    let result ← Shape.optional some result
    pure { status, result }
  | _ => none

/-- The results of a batch. -/
structure BatchResponse where
  results : List BatchResult
deriving DecidableEq, Repr

def BatchResponse.ofJson? (value : Json) : Option BatchResponse := do
  match ← Shape.members? ["results"] value with
  | [results] =>
    let results ← Shape.required (Shape.list BatchResult.ofJson?) results
    pure { results }
  | _ => none

end RemoteRecords
