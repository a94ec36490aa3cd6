import RemoteRecords.Error
import RemoteRecords.Json.Reader

/-! Answers of the server: raw responses, and replies with a body that is read. -/

namespace RemoteRecords

/-- A status that reports success. -/
def isSuccess (status : UInt16) : Bool :=
  200 ≤ status && status < 300

/-- A response as it comes over the wire. -/
structure Response where
  status : UInt16
  body : ByteArray := .empty
deriving Inhabited

/-- The ASCII white space: blank, tab, line feed, form feed, carriage return. -/
def isBlankByte (byte : UInt8) : Bool :=
  byte == 0x20 || byte == 0x09 || byte == 0x0a || byte == 0x0c || byte == 0x0d

/-- A response without content. -/
def Response.isBlank (response : Response) : Bool :=
  response.body.toList.all isBlankByte

/-- The status and the body of the answer to one request, alone or in a batch. -/
structure Reply where
  status : UInt16
  body : Option Json := none
deriving DecidableEq, Repr, Inhabited

namespace Reply

/-- Reads the body of a response. A body that is not JSON text is a fault after success; after a
failure the status stands and the body is dropped. -/
def ofResponse (response : Response) : Except TransportFault Reply :=
  -- A blank body counts as absent, whatever the status.
  if response.isBlank then .ok ⟨response.status, none⟩
  else
    match Json.parseBytes response.body with
    | some body => .ok ⟨response.status, some body⟩
    | none => if isSuccess response.status then .error .notJson else .ok ⟨response.status, none⟩

/-- The body of a successful reply, or the error of a failed one. A record that was asked for by
itself is missing if there is none at its path. -/
def content (reply : Reply) (missing : Option String) : Except Error (Option Json) :=
  if isSuccess reply.status then .ok reply.body
  else
    let errors := (reply.body.map ServerError.listOf).getD []
    -- Missing authority comes before a missing record.
    if reply.status = 401 then .error (.unauthorized errors)
    else match missing with
      | some record =>
        if reply.status = 404 then .error (.recordNotFound record)
        else .error (.remoteRequest reply.status errors)
      | none => .error (.remoteRequest reply.status errors)

end Reply

end RemoteRecords
