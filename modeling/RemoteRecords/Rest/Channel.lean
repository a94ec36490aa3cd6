import RemoteRecords.Rest.Reply
import RemoteRecords.Wire.Batch

/-! Channels: requests go out one at a time and take the answers in the order of their coming. -/

namespace RemoteRecords

/-- A connection to the server, with the answers that are still to come. -/
structure Channel where
  /-- What the next requests are answered, a response or a failure of the connection. -/
  answers : List (Except String Response) := []
  /-- A request waits for its answer. -/
  synchronous : Bool := true
  /-- The requests that went out, in order. -/
  sent : List SubRequest := []
  /-- How often outstanding requests were waited for. -/
  waits : Nat := 0
deriving Inhabited

namespace Channel

/-- Sends a request and takes the next answer. -/
def send (channel : Channel) (request : SubRequest) : Except TransportFault Response × Channel :=
  -- The request is on record even if nothing answers it.
  let noted := { channel with sent := channel.sent ++ [request] }
  match channel.answers with
  | [] => (.error (.failed "no scripted response left"), noted)
  | .ok response :: rest => (.ok response, { noted with answers := rest })
  | .error message :: rest => (.error (.failed message), { noted with answers := rest })

/-- Waits until no request is outstanding. -/
def wait (channel : Channel) : Channel :=
  { channel with waits := channel.waits + 1 }

/-- Sends a request and reads the reply. -/
def exchange (channel : Channel) (request : SubRequest) : Except Error Reply × Channel :=
  match channel.send request with
  | (.error fault, channel) => (.error (.transport fault), channel)
  | (.ok response, channel) => ((Reply.ofResponse response).mapError .transport, channel)

/-- A response takes an answer away. -/
theorem answers_length_lt_of_send {channel next : Channel} {request : SubRequest}
    {response : Response} (answered : channel.send request = (.ok response, next)) :
    next.answers.length < channel.answers.length := by
  -- A response is taken off the front of the answers, and every other case fails.
  simp only [send] at answered
  split at answered
  · simp at answered
  · rename_i rest held
    simp only [Prod.mk.injEq] at answered
    rw [held, ← answered.2]
    simp
  · simp at answered

/-- A reply takes an answer away. -/
theorem answers_length_lt_of_exchange {channel next : Channel} {request : SubRequest}
    {reply : Reply} (answered : channel.exchange request = (.ok reply, next)) :
    next.answers.length < channel.answers.length := by
  -- A reply is read from a response, and reading takes no further answer.
  unfold exchange at answered
  split at answered
  · simp at answered
  · rename_i response after found
    simp only [Prod.mk.injEq] at answered
    rw [← answered.2]
    exact answers_length_lt_of_send found

end Channel

end RemoteRecords
