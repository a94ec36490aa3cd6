import RemoteRecords.Json.Writer
import RemoteRecords.Schema.Findings
import RemoteRecords.Wire.ServerError

/-! Errors: their causes, their kinds and their messages. -/

namespace RemoteRecords

/-- What a record is written for. -/
inductive WriteIntent where
  /-- Insertable fields; nulls are left out. -/
  | create
  /-- Updatable fields; nulls are left out. -/
  | patch
  /-- Updatable fields; missing values are sent as null. -/
  | update
deriving DecidableEq, Repr, Inhabited

def WriteIntent.label : WriteIntent → String
  | .create => "Create"
  | .patch => "Patch"
  | .update => "Update"

/-- Why a type has no descriptor. -/
inductive UnmappableReason where
  | invalid (findings : Findings)
  | badTarget (field typeName : String)
  | unmarked
deriving Repr

def UnmappableReason.text : UnmappableReason → String
  | .invalid findings => findings.text
  | .badTarget field typeName =>
    "field '" ++ field ++ "' targets '" ++ typeName ++ "', which is not a mapped type"
  | .unmarked => "schema is not marked as mapped"

/-- Why a query does not compile. -/
inductive QueryFault where
  | unpublishedTarget (field : String)
  | unpublishedRoot (name : String)
  | unknownField (owner segment wildcard : String)
  | notSingleValued (owner field wildcard : String)
  | noFallback (owner field : String)
  | noFields (wildcard : String)
deriving DecidableEq, Repr

def QueryFault.text : QueryFault → String
  | .unpublishedTarget field => "field '" ++ field ++ "' refers to an unpublished descriptor"
  | .unpublishedRoot name => "'" ++ name ++ "' is not published"
  | .unknownField owner segment wildcard =>
    "'" ++ owner ++ "' has no field '" ++ segment ++ "' (in '" ++ wildcard ++ "')"
  | .notSingleValued owner field wildcard =>
    "'" ++ owner ++ "." ++ field ++ "' is not a single-valued relationship (in '" ++ wildcard ++ "')"
  | .noFallback owner field =>
    "polymorphic field '" ++ owner ++ "." ++ field ++ "' has no default and cannot be traversed"
  | .noFields wildcard => "'" ++ wildcard ++ "' expands to no fields"

/-- Why a record cannot be written or read. -/
inductive CodecFault where
  /-- A value on the wire has not the shape of its record. -/
  | misshapen
  | notAnObject (typeName : String)
  | badReference (owner field : String) (held : Json)
  | unknownTarget (field : String)
  | notARecord (typeName : String) (held : Json)
  | notRelated (owner field : String) (held : Json)
  | notRows (field : String) (held : Json)
  | noElementType (field : String)
  | missingId (intent : WriteIntent) (typeName : String)
  | unknownField (typeName field : String)
  | missingKey (typeName field : String)
deriving DecidableEq, Repr

def CodecFault.text : CodecFault → String
  | .misshapen => "<shape>"
  | .notAnObject typeName => "'" ++ typeName ++ "' must serialize to a JSON object"
  | .badReference owner field held =>
    "relationship '" ++ owner ++ "." ++ field ++ "' holds " ++ held.compact ++
      ", expected an object or an id"
  | .unknownTarget field =>
    "cannot determine the concrete type of relationship '" ++ field ++ "'"
  | .notARecord typeName held =>
    "expected a '" ++ typeName ++ "' record object, got " ++ held.compact
  | .notRelated owner field held =>
    "relationship '" ++ owner ++ "." ++ field ++ "' holds " ++ held.compact ++ ", expected an object"
  | .notRows field held =>
    "child relationship '" ++ field ++ "' holds " ++ held.compact ++ ", expected rows"
  | .noElementType field => "child relationship '" ++ field ++ "' has no element type"
  | .missingId intent typeName =>
    intent.label ++ " of '" ++ typeName ++ "' requires a populated id"
  | .unknownField typeName field => "'" ++ typeName ++ "' has no field '" ++ field ++ "'"
  | .missingKey typeName field =>
    "upsert of '" ++ typeName ++ "' requires a value for '" ++ field ++ "'"

/-- Where rows go on that cannot be followed. -/
inductive RowsFault where
  | childContinues (field next : String)
  | resultContinues (next : String)
deriving DecidableEq, Repr

def RowsFault.text : RowsFault → String
  | .childContinues field next => "child relationship '" ++ field ++ "' continues at '" ++ next ++ "'"
  | .resultContinues next =>
    "result continues at '" ++ next ++ "' and cannot be followed here"

/-- Why a round trip brought no usable answer. -/
inductive TransportFault where
  | failed (message : String)
  /-- A successful body is not JSON text. -/
  | notJson
  /-- The results of a batch have not their shape. -/
  | malformedBatch
deriving DecidableEq, Repr

def TransportFault.text : TransportFault → String
  | .failed message => message
  | .notJson => "<json>"
  | .malformedBatch => "malformed batch response: <shape>"

/-- What can go wrong with records, queries and requests. -/
inductive Error where
  | batchProtocolViolation (sent received : Nat)
  | codec (fault : CodecFault)
  /-- An operation was read before it was completed. -/
  | incomplete
  | queryCompile (fault : QueryFault)
  | recordNotFound (record : String)
  | remoteRequest (status : UInt16) (errors : List ServerError)
  | tooManyRows (fault : RowsFault)
  | transport (fault : TransportFault)
  | unauthorized (errors : List ServerError)
  | unmappableType (typeName : String) (reason : UnmappableReason)
deriving Repr

/-- The kind of an error, apart from its details. -/
inductive ErrorKind where
  | batchProtocolViolation
  | codec
  | incomplete
  | queryCompile
  | recordNotFound
  | remoteRequest
  | tooManyRows
  | transport
  | unauthorized
  | unmappableType
deriving DecidableEq, Repr

def ErrorKind.label : ErrorKind → String
  | .batchProtocolViolation => "batch_protocol_violation"
  | .codec => "codec"
  | .incomplete => "incomplete"
  | .queryCompile => "query_compile"
  | .recordNotFound => "record_not_found"
  | .remoteRequest => "remote_request"
  | .tooManyRows => "too_many_rows"
  | .transport => "transport"
  | .unauthorized => "unauthorized"
  | .unmappableType => "unmappable_type"

namespace Error

def kind : Error → ErrorKind
  | .batchProtocolViolation .. => .batchProtocolViolation
  | .codec _ => .codec
  | .incomplete => .incomplete
  | .queryCompile _ => .queryCompile
  | .recordNotFound _ => .recordNotFound
  | .remoteRequest .. => .remoteRequest
  | .tooManyRows _ => .tooManyRows
  | .transport _ => .transport
  | .unauthorized _ => .unauthorized
  | .unmappableType .. => .unmappableType

/-- The entries of the server, if the error came from there. -/
def serverErrors : Error → List ServerError
  | .remoteRequest _ errors => errors
  | .unauthorized errors => errors
  | _ => []

def message : Error → String
  | .batchProtocolViolation sent received =>
    "batch protocol violation: sent " ++ toString sent ++ " sub-requests, received " ++
      toString received ++ " results"
  | .codec fault => "codec error: " ++ fault.text
  | .incomplete => "operation read before completion"
  | .queryCompile fault => "query compile error: " ++ fault.text
  | .recordNotFound record => "record not found: " ++ record
  | .remoteRequest status errors => ServerError.render status errors
  | .tooManyRows fault => "too many rows: " ++ fault.text
  | .transport fault => "transport error: " ++ fault.text
  | .unauthorized errors => "unauthorized: " ++ ServerError.render 401 errors
  | .unmappableType typeName reason => "unmappable type '" ++ typeName ++ "': " ++ reason.text

end Error

end RemoteRecords
