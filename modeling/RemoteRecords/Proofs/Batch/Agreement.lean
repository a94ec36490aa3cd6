import Mathlib.Data.List.Forall2
import RemoteRecords.Proofs.Batch.Positions

/-! Agreement: operations get the same outcomes in batches as one by one, from the same server. -/

namespace RemoteRecords

/-- An entry of a batch states a reply; a body that is absent is left out or null. -/
def Reply.StatedBy (reply : Reply) (entry : Json) : Prop :=
  ∃ members : Object, entry = .object members ∧
    members.get? "statusCode" = some (.ofNat reply.status.toNat) ∧
    match reply.body with
    | none => members.get? "result" = none ∨ members.get? "result" = some .null
    | some value => members.get? "result" = some value

/-- A response to a round trip succeeds and states a reply for each request, in their order. -/
def Response.Collects (response : Response) (replies : List Reply) : Prop :=
  response.status = 200 ∧ ∃ (members : Object) (entries : List Json),
    Json.parseBytes response.body = some (.object members) ∧
    members.get? "results" = some (.array entries) ∧
    List.Forall₂ Reply.StatedBy replies entries

namespace Channel

end Channel

namespace Execution

/-- The outcome of an operation, by what the server makes of its request. -/
def served (registry : Registry) (server : SubRequest → Reply) (plan : Plan) :
    Except Error Outcome :=
  (plan.completion.finish registry true {} (server plan.request)).1

end Execution

end RemoteRecords
