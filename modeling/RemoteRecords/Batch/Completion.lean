import RemoteRecords.Batch.Plan
import RemoteRecords.Rest.Channel
import RemoteRecords.Wire.WriteResult

/-! Completion: replies become results, and results that go on elsewhere are followed. -/

namespace RemoteRecords

/-- The result of an operation. -/
inductive Outcome where
  | created (result : CreateResult)
  | record (value : Json)
  | done
  | upserted (result : UpsertResult)
  | page (page : QueryPage)
deriving DecidableEq, Repr, Inhabited

namespace Completion

/-- Reads the body of a successful reply as a record of a given shape; no body counts as null. -/
def readBody (read : Json → Option α) (reply : Reply) : Except Error α := do
  let body ← reply.content none
  match read (body.getD .null) with
  | some value => .ok value
  | none => .error (.codec .misshapen)

/-- Adds the pages that follow a first one. Pages are only followed where requests go out alone and
wait for their answers. -/
def followPages (batched : Bool) (channel : Channel) (page : QueryEnvelope) :
    Except Error QueryEnvelope × Channel :=
  if page.done then (.ok page, channel)
  else match page.nextRecordsUrl with
    | none => (.ok page, channel)
    | some next =>
      -- Following a link takes a request of its own and its answer at once.
      if batched || !channel.synchronous then
        (.error (.tooManyRows (.resultContinues next)), channel)
      else
        match _answered : channel.exchange ⟨.get, Paths.relative next, none⟩ with
        | (.error error, after) => (.error error, after)
        | (.ok reply, after) =>
          match readBody QueryEnvelope.ofJson? reply with
          | .error error => (.error error, after)
          | .ok more =>
            followPages batched after
              -- The first page states the total, the last one how the result ends.
              { page with
                records := page.records ++ more.records
                done := more.done
                nextRecordsUrl := more.nextRecordsUrl }
termination_by channel.answers.length
decreasing_by exact Channel.answers_length_lt_of_exchange _answered

/-- An upsert without a body tells by its status whether a record was created. -/
def upsertResult (reply : Reply) : Except Error UpsertResult := do
  let result ← match ← reply.content none with
    | none => .ok {}
    | some body =>
      match UpsertResult.ofJson? body with
      | some result => .ok result
      | none => .error (.codec .misshapen)
  -- The status of a new record stands in for a body that does not say so.
  pure { result with created := result.created || reply.status == 201 }

/-- The result of an operation, given the reply to its request. -/
def finish (registry : Registry) (batched : Bool) (channel : Channel) (reply : Reply) :
    Completion → Except Error Outcome × Channel
  | .created => ((readBody CreateResult.ofJson? reply).map .created, channel)
  | .fetched descriptor record =>
    let value := do
      let body ← reply.content (some record)
      Payload.decode registry descriptor (body.getD .null)
    (value.map .record, channel)
  | .written => ((reply.content none).map fun _ => .done, channel)
  | .upserted => ((upsertResult reply).map .upserted, channel)
  | .queried descriptor =>
    match readBody QueryEnvelope.ofJson? reply with
    | .error error => (.error error, channel)
    | .ok first =>
      match followPages batched channel first with
      | (.error error, after) => (.error error, after)
      | (.ok envelope, after) =>
        ((QueryPage.ofEnvelope registry descriptor envelope).map .page, after)

end Completion

end RemoteRecords
