import RemoteRecords.Proofs.Rest.Reply
import RemoteRecords.Rest.Channel

/-! Channels: an exchange takes the next answer, and what comes of it depends on nothing else. -/

namespace RemoteRecords.Channel

/-- The reply that an answer amounts to; without an answer there is none. -/
def reading : Option (Except String Response) → Except Error Reply
  | none => .error (.transport (.failed "no scripted response left"))
  | some (.error message) => .error (.transport (.failed message))
  | some (.ok response) => (Reply.ofResponse response).mapError .transport

/-- A response whose body reads as a value amounts to a reply with that value. -/
theorem reading_of_parseBytes {body : ByteArray} {value : Json}
    (read : Json.parseBytes body = some value) (status : UInt16) :
    reading (some (.ok ⟨status, body⟩)) = .ok ⟨status, some value⟩ :=
  -- The response is a reply, and a reply is passed on as it is.
  congrArg (·.mapError Error.transport) (Reply.ofResponse_of_parseBytes read status)

/-- A response without a body amounts to a reply without one. -/
theorem reading_empty (status : UInt16) :
    reading (some (.ok ⟨status, .empty⟩)) = .ok ⟨status, none⟩ :=
  -- The response is a reply, and a reply is passed on as it is.
  congrArg (·.mapError Error.transport) (Reply.ofResponse_empty status)

/-- A response that failed amounts to a reply of its status, whatever it holds. -/
theorem reading_of_failed {response : Response} (failed : isSuccess response.status = false) :
    reading (some (.ok response)) = .ok ⟨response.status, Json.parseBytes response.body⟩ :=
  -- The response is a reply, and a reply is passed on as it is.
  congrArg (·.mapError Error.transport) (Reply.ofResponse_of_failed failed)

/-- A response of success that is neither blank nor a value is a fault of the transport. -/
theorem reading_of_illegible {response : Response} (successful : isSuccess response.status = true)
    (filled : response.isBlank = false) (illegible : Json.parseBytes response.body = none) :
    reading (some (.ok response)) = .error (.transport .notJson) :=
  -- The response is no reply, and that is passed on as a fault of the transport.
  congrArg (·.mapError Error.transport) (Reply.ofResponse_of_illegible successful filled illegible)

/-- A channel after a request went out and took the next answer. -/
def passed (channel : Channel) (request : SubRequest) : Channel :=
  { channel with answers := channel.answers.tail, sent := channel.sent ++ [request] }

/-- A request takes the next answer, whatever that amounts to. -/
theorem exchange_eq (channel : Channel) (request : SubRequest) :
    channel.exchange request = (reading channel.answers.head?, channel.passed request) := by
  unfold exchange send passed
  -- The request is on record in each case, with or without an answer to it.
  cases channel.answers with
  | nil => rfl
  | cons answer rest =>
    cases answer with
    | ok response => rfl
    | error message => rfl

end RemoteRecords.Channel
