import RemoteRecords.Batch.Completion

/-! Execution: planned operations go out one by one or in batches, and each gets one outcome. -/

namespace RemoteRecords

namespace Execution

/-- The outcomes of planned operations, in their order. -/
abbrev Outcomes := List (Except Error Outcome)

/-- Cuts a list into round trips of at most `limit` items, all but the last one full. A limit of zero
counts as one. -/
def roundTrips (limit : Nat) : List α → List (List α)
  | [] => []
  | first :: rest => (first :: rest.take (limit - 1)) :: roundTrips limit (rest.drop (limit - 1))
termination_by items => items.length
decreasing_by
  -- The first item is always taken, so what is left is shorter.
  simp only [List.length_drop, List.length_cons]
  omega

/-- Sends each request by itself. Once execution is halted, operations fail unsent. -/
def direct (registry : Registry) (haltOnError : Bool) (halted : Option Error) (channel : Channel) :
    List Plan → Outcomes × Channel
  | [] => ([], channel)
  | plan :: rest =>
    match halted with
    | some error =>
      let (outcomes, after) := direct registry haltOnError halted channel rest
      (.error error :: outcomes, after)
    | none =>
      match channel.exchange plan.request with
      | (.ok reply, answered) =>
        -- Only an exchange that fails halts; an unfavourable reply belongs to its operation.
        let (outcome, completed) := plan.completion.finish registry false answered reply
        let (outcomes, after) := direct registry haltOnError none completed rest
        (outcome :: outcomes, after)
      | (.error error, answered) =>
        let halted := if haltOnError then some error else none
        let (outcomes, after) := direct registry haltOnError halted answered rest
        (.error error :: outcomes, after)

/-- The body of one round trip. -/
def envelope (haltOnError : Bool) (plans : List Plan) : BatchEnvelope :=
  ⟨haltOnError, plans.map (·.request)⟩

/-- Reads the results of a round trip, of which there has to be one for each request. -/
def results (sent : Nat) (reply : Reply) : Except Error (List BatchResult) := do
  let body ← reply.content none
  match BatchResponse.ofJson? (body.getD .null) with
  | none => .error (.transport .malformedBatch)
  | some response =>
    -- Results are matched by position, so their number has to agree.
    if response.results.length = sent then .ok response.results
    else .error (.batchProtocolViolation sent response.results.length)

/-- Sends one round trip and reads its results. -/
def sendRoundTrip (paths : Paths) (haltOnError : Bool) (channel : Channel) (plans : List Plan) :
    Except Error (List BatchResult) × Channel :=
  let body := (envelope haltOnError plans).toJson
  match channel.exchange ⟨.post, paths.batch, some body⟩ with
  | (.error error, after) => (.error error, after)
  | (.ok reply, after) => (results plans.length reply, after)

/-- Completes each operation of a round trip with the result at its position. -/
def completeEach (registry : Registry) (channel : Channel) (plans : List Plan)
    (results : List BatchResult) : Outcomes :=
  plans.zipWith (fun plan result =>
    -- In a batch no completion sends anything, so the channel stays as it is.
    (plan.completion.finish registry true channel ⟨result.status, result.result⟩).1) results

/-- Sends round trips one after another. A round trip that fails as a whole fails each of its
operations; once execution is halted, round trips fail unsent. -/
def batched (registry : Registry) (paths : Paths) (haltOnError : Bool) (halted : Option Error)
    (channel : Channel) : List (List Plan) → Outcomes × Channel
  | [] => ([], channel)
  | plans :: rest =>
    match halted with
    | some error =>
      let (outcomes, after) := batched registry paths haltOnError halted channel rest
      (plans.map (fun _ => .error error) ++ outcomes, after)
    | none =>
      match sendRoundTrip paths haltOnError channel plans with
      | (.ok results, answered) =>
        let here := completeEach registry answered plans results
        let (outcomes, after) := batched registry paths haltOnError none answered rest
        (here ++ outcomes, after)
      | (.error error, answered) =>
        let halted := if haltOnError then some error else none
        let (outcomes, after) := batched registry paths haltOnError halted answered rest
        (plans.map (fun _ => .error error) ++ outcomes, after)

/-- Executes planned operations and waits for all that is outstanding. A single operation goes out by
itself, as all do where batches are off. -/
def run (config : ClientConfig) (registry : Registry) (channel : Channel) (plans : List Plan) :
    Outcomes × Channel :=
  if plans.isEmpty then ([], channel)
  else
    let (outcomes, after) :=
      -- A batch of one would only wrap the request.
      if plans.length = 1 || !config.supportsBatching then
        direct registry config.haltOnError none channel plans
      else
        batched registry (Paths.ofVersion config.apiVersion) config.haltOnError none channel
          (roundTrips config.effectiveBatchLimit plans)
    (outcomes, after.wait)

end Execution

end RemoteRecords
