import RemoteRecords.Proofs.Batch.Settlement
import RemoteRecords.Proofs.Pairing
import RemoteRecords.Proofs.Rest.Reply
import RemoteRecords.Session

/-! Positions: every operation is completed once, and in a batch by the result at its own place. -/

namespace RemoteRecords

namespace Execution

/-- An outcome that an operation may have: not one of an operation read too early, and either a
failure or what the operation's own completion makes of a reply. -/
def Completes (registry : Registry) (plan : Plan) (outcome : Except Error Outcome) : Prop :=
  Timely outcome ∧ ((∃ error, outcome = .error error) ∨ ∃ batched channel reply,
    outcome = (plan.completion.finish registry batched channel reply).1)

/-- What a completion makes of a reply is an outcome of its operation. -/
theorem completes_finish (registry : Registry) (plan : Plan) (batched : Bool) (channel : Channel)
    (reply : Reply) :
    Completes registry plan (plan.completion.finish registry batched channel reply).1 :=
  -- A completion always comes in time, and the outcome is its own.
  ⟨Completion.timely_finish registry batched channel reply plan.completion,
    .inr ⟨batched, channel, reply, rfl⟩⟩

/-- A failure completes an operation as well. -/
theorem completes_error (registry : Registry) (plan : Plan) {error : Error}
    (timely : error ≠ .incomplete) : Completes registry plan (.error error) :=
  -- An error in time is one of the two kinds of outcome.
  ⟨(Timely.error_iff error).mpr timely, .inl ⟨error, rfl⟩⟩

/-- Sent one by one, each operation is completed once. -/
theorem direct_completes (registry : Registry) (haltOnError : Bool) {halted : Option Error}
    (timely : ∀ error, halted = some error → error ≠ .incomplete) (channel : Channel)
    (plans : List Plan) :
    List.Forall₂ (Completes registry) plans
      (direct registry haltOnError halted channel plans).1 := by
  -- Halted or not, each operation has one outcome, and then come the others.
  induction plans generalizing halted channel with
  | nil => exact .nil
  | cons plan rest ih =>
    cases halted with
    | some error =>
      -- The operation fails unsent.
      exact .cons (completes_error registry plan (timely error rfl)) (ih timely channel)
    | none =>
      -- A fault of the exchange is not the error of an early reading.
      have read := channel.timely_exchange plan.request
      simp only [direct]
      cases answered : channel.exchange plan.request with
      | mk answer after =>
        rw [answered] at read
        cases answer with
        | ok reply =>
          -- The reply completes the operation.
          exact .cons (completes_finish registry plan false after reply) (ih (by simp) _)
        | error error =>
          have kind : error ≠ .incomplete := read error rfl
          refine .cons (completes_error registry plan kind) (ih (fun other same => ?_) after)
          -- Whatever halts is the error of this exchange.
          cases haltOnError with
          | true =>
            simp only [if_true, Option.some.injEq] at same
            rwa [← same]
          | false => simp at same

/-- A round trip completes each of its operations once. -/
theorem settle_completes (registry : Registry) {plans : List Plan}
    {fate : Except Error (List BatchResult)} (timely : Timely fate)
    (counted : ∀ results, fate = .ok results → results.length = plans.length) :
    List.Forall₂ (Completes registry) plans (settle registry plans fate) := by
  -- An unfavourable fate is the outcome of all, and a favourable one holds their results.
  cases fate with
  | error error =>
    have kind : error ≠ .incomplete := timely error rfl
    exact List.forall₂_map_right_iff.mpr
      (List.forall₂_same.mpr fun plan _ => completes_error registry plan kind)
  | ok results =>
    -- There is a result for each operation, so pairing them drops none.
    have same := counted results rfl
    clear timely counted
    simp only [settle, completeEach]
    induction plans generalizing results with
    | nil => simp
    | cons plan rest ih =>
      cases results with
      | nil => simp at same
      | cons result others =>
        simp only [List.length_cons, Nat.add_right_cancel_iff] at same
        exact .cons (completes_finish registry plan true _ _) (ih others same)

/-- Whatever a round trip meets is timely and, if favourable, has a result for each operation. -/
theorem fate_sound {haltOnError : Bool} {answers : List (Except String Response)}
    {trips : List (List Plan)} {place : Nat} {plans : List Plan}
    {fate : Except Error (List BatchResult)} (held : trips[place]? = some plans)
    (met : (fates haltOnError (verdicts answers trips))[place]? = some fate) :
    Timely fate ∧ ∀ results, fate = .ok results → results.length = plans.length := by
  rcases getElem?_fates met with ⟨error, ⟨-, earlier, -, failed, -⟩, rfl⟩ | ⟨-, own⟩
  · -- The error that halts is the verdict on an earlier round trip.
    rw [getElem?_verdicts] at failed
    obtain ⟨others, -, failure⟩ := Option.map_eq_some_iff.mp failed
    refine ⟨?_, by simp⟩
    rw [← failure]
    exact timely_verdict _ _
  · -- Its own verdict counts the results.
    rw [getElem?_verdicts, held] at own
    simp only [Option.map_some, Option.some.injEq] at own
    refine ⟨own ▸ timely_verdict _ _, fun results favourable => ?_⟩
    rw [favourable] at own
    exact length_of_verdict own

/-- There is one verdict on each round trip. -/
theorem length_verdicts (answers : List (Except String Response)) (trips : List (List Plan)) :
    (verdicts answers trips).length = trips.length := by
  -- The verdicts are given round trip by round trip.
  induction trips generalizing answers with
  | nil => rfl
  | cons plans rest ih => simp [verdicts, ih]

/-- The outcomes of round trips, one list for each. -/
def settlements (registry : Registry) (haltOnError : Bool) (answers : List (Except String Response))
    (trips : List (List Plan)) : List Outcomes :=
  trips.zipWith (settle registry) (fates haltOnError (verdicts answers trips))

/-- Round trips complete each of their operations once. -/
theorem settlements_complete (registry : Registry) (haltOnError : Bool)
    (answers : List (Except String Response)) (trips : List (List Plan)) :
    List.Forall₂ (List.Forall₂ (Completes registry)) trips
      (settlements registry haltOnError answers trips) := by
  -- Each round trip is settled by the fate at its own place.
  apply forall₂_zipWith
  · rw [length_fates, length_verdicts]
  · intro place plans fate held met
    obtain ⟨timely, counted⟩ := fate_sound held met
    exact settle_completes registry timely counted

/-- Several operations go out in batches where these are accepted. -/
theorem run_batched {config : ClientConfig} {plans : List Plan} (several : 2 ≤ plans.length)
    (supported : config.supportsBatching = true) (registry : Registry) (channel : Channel) :
    run config registry channel plans =
      let trips := roundTrips config.effectiveBatchLimit plans
      let count := dispatched config.haltOnError (verdicts channel.answers trips)
      ((settlements registry config.haltOnError channel.answers trips).flatten,
        { channel with
          answers := channel.answers.drop count
          sent := channel.sent ++ (trips.take count).map
            (tripRequest (Paths.ofVersion config.apiVersion) config.haltOnError)
          waits := channel.waits + 1 }) := by
  -- With several operations and batches accepted, execution takes the branch of round trips.
  have filled : plans.isEmpty = false := by
    cases plans with
    | nil => simp at several
    | cons => rfl
  have alone : plans.length ≠ 1 := by omega
  simp only [run, filled, alone, supported, batched_eq]
  rfl

/-- Operations go out by themselves where batches are not accepted, or where there is only one. -/
theorem run_direct {config : ClientConfig} {plans : List Plan} (filled : plans ≠ [])
    (unbatched : plans.length ≤ 1 ∨ config.supportsBatching = false) (registry : Registry)
    (channel : Channel) :
    run config registry channel plans =
      let ran := direct registry config.haltOnError none channel plans
      (ran.1, ran.2.wait) := by
  -- Either reason is enough for execution to take the branch of single requests.
  cases plans with
  | nil => exact absurd rfl filled
  | cons plan rest =>
    have alone : ((plan :: rest).length = 1 || !config.supportsBatching) = true := by
      rcases unbatched with one | off
      · have none : rest.length = 0 := by simpa using one
        simp [none]
      · simp [off]
    simp only [run, alone]
    rfl

/-- However operations are sent and whatever is answered, each is completed once. -/
theorem run_completes (config : ClientConfig) (registry : Registry) (channel : Channel)
    (plans : List Plan) :
    List.Forall₂ (Completes registry) plans (run config registry channel plans).1 := by
  -- Execution takes one of three ways, and each of them completes the operations.
  by_cases filled : plans = []
  · -- Nothing is sent for an empty batch.
    subst filled
    exact .nil
  · by_cases grouped : 2 ≤ plans.length ∧ config.supportsBatching = true
    · -- Round trip by round trip, operations and outcomes pair up, and so they do in all.
      rw [run_batched grouped.1 grouped.2]
      have settled := settlements_complete registry config.haltOnError channel.answers
        (roundTrips config.effectiveBatchLimit plans)
      simpa only [flatten_roundTrips] using List.rel_flatten settled
    · -- What is not sent in round trips goes out by itself.
      have unbatched : plans.length ≤ 1 ∨ config.supportsBatching = false := by
        simpa only [not_and_or, Nat.not_le, Nat.lt_succ_iff, Bool.not_eq_true] using grouped
      rw [run_direct filled unbatched]
      exact direct_completes registry config.haltOnError (by simp) channel plans

/-- How an operation comes to its outcome, by its place in a round trip. -/
inductive Settled (registry : Registry) (haltOnError : Bool)
    (verdicts : List (Except Error (List BatchResult))) (trip place : Nat) (plan : Plan) :
    Except Error Outcome → Prop where
  /-- The result at the operation's place completes it. -/
  | answered {results : List BatchResult} {result : BatchResult}
      (reached : ∀ error, ¬Halted haltOnError verdicts trip error)
      (favourable : verdicts[trip]? = some (.ok results)) (held : results[place]? = some result) :
      Settled registry haltOnError verdicts trip place plan
        (plan.completion.finish registry true {} ⟨result.status, result.result⟩).1
  /-- The round trip failed as a whole. -/
  | failed {error : Error} (reached : ∀ error, ¬Halted haltOnError verdicts trip error)
      (unfavourable : verdicts[trip]? = some (.error error)) :
      Settled registry haltOnError verdicts trip place plan (.error error)
  /-- An earlier round trip failed, and execution stopped there. -/
  | halted {error : Error} (stopped : Halted haltOnError verdicts trip error) :
      Settled registry haltOnError verdicts trip place plan (.error error)

/-- An operation at a place of a round trip is settled by the fate of the round trip. -/
theorem settled_of_fate (registry : Registry) {haltOnError : Bool}
    {verdicts : List (Except Error (List BatchResult))} {trip place : Nat} {plans : List Plan}
    {plan : Plan} {fate : Except Error (List BatchResult)} {outcome : Except Error Outcome}
    (held : plans[place]? = some plan) (met : (fates haltOnError verdicts)[trip]? = some fate)
    (completed : (settle registry plans fate)[place]? = some outcome) :
    Settled registry haltOnError verdicts trip place plan outcome := by
  -- The fate is an error that halted the round trip, its own error, or its results.
  rcases getElem?_fates met with ⟨error, stopped, rfl⟩ | ⟨reached, own⟩
  · -- Every place of the round trip has the error that halted it.
    simp only [settle, List.getElem?_map, held, Option.map_some, Option.some.injEq] at completed
    exact completed ▸ .halted stopped
  · cases fate with
    | error error =>
      -- The round trip has failed as a whole, so every place has its error.
      simp only [settle, List.getElem?_map, held, Option.map_some, Option.some.injEq] at completed
      exact completed ▸ .failed reached own
    | ok results =>
      -- The outcome is made from the result at the same place.
      simp only [settle, completeEach, List.getElem?_zipWith, held] at completed
      cases answered : results[place]? with
      | none => simp [answered] at completed
      | some result =>
        simp only [answered, Option.some.injEq] at completed
        exact completed ▸ .answered reached own answered

/-- The outcome at a place is the one at the remainder, in the settlement of the quotient. -/
theorem getElem?_settlements (registry : Registry) (haltOnError : Bool) {limit : Nat}
    (positive : 0 < limit) (answers : List (Except String Response)) {trips : List (List Plan)}
    (packed : Packed limit trips) (place : Nat) :
    (settlements registry haltOnError answers trips).flatten[place]? =
      (settlements registry haltOnError answers trips)[place / limit]?.bind
        (·[place % limit]?) := by
  -- The settlements have the sizes of the round trips, so they are packed like these.
  refine (packed.of_lengths ?_).getElem?_flatten positive place
  -- Each settlement has as many outcomes as its round trip has operations.
  have sizes : List.Forall₂ (fun plans outcomes => plans.length = outcomes.length) trips
      (settlements registry haltOnError answers trips) :=
    (settlements_complete registry haltOnError answers trips).imp fun _ _ each => each.length_eq
  rw [eq_comm, ← List.forall₂_eq_eq_eq, List.forall₂_map_left_iff, List.forall₂_map_right_iff]
  exact sizes

/-- The outcomes of a round trip come from its fate. -/
theorem settlement_of_getElem? {registry : Registry} {haltOnError : Bool}
    {answers : List (Except String Response)} {trips : List (List Plan)} {index : Nat}
    {trip : List Plan} {outcomes : Outcomes} (going : trips[index]? = some trip)
    (together : (settlements registry haltOnError answers trips)[index]? = some outcomes) :
    ∃ fate, (fates haltOnError (verdicts answers trips))[index]? = some fate ∧
      settle registry trip fate = outcomes := by
  -- Settlements pair round trips with fates place by place.
  simp only [settlements, List.getElem?_zipWith, going] at together
  cases met : (fates haltOnError (verdicts answers trips))[index]? with
  | none => simp [met] at together
  | some fate =>
    simp only [met, Option.some.injEq] at together
    exact ⟨fate, rfl, together⟩

/-- A round trip can always take an operation. -/
theorem effectiveBatchLimit_pos (config : ClientConfig) : 0 < config.effectiveBatchLimit := by
  -- The limit is never below one.
  simp only [ClientConfig.effectiveBatchLimit, maxBatchRequests]
  omega

section Batched

variable {config : ClientConfig} {plans : List Plan}

/-- An operation at a place is the one at the remainder, in the round trip of the quotient. -/
theorem getElem?_plans (config : ClientConfig) (plans : List Plan) (place : Nat) :
    plans[place]? =
      (roundTrips config.effectiveBatchLimit plans)[place / config.effectiveBatchLimit]?.bind
        (·[place % config.effectiveBatchLimit]?) := by
  -- The round trips are packed and hold the operations in order.
  have positive := effectiveBatchLimit_pos config
  have position := (packed_roundTrips positive plans).getElem?_flatten positive place
  rwa [flatten_roundTrips] at position

/-- In a batch every operation is settled by its own place. -/
theorem run_settles (several : 2 ≤ plans.length) (supported : config.supportsBatching = true)
    (registry : Registry) (channel : Channel) {place : Nat} {plan : Plan}
    (held : plans[place]? = some plan) :
    let limit := config.effectiveBatchLimit
    let trips := roundTrips limit plans
    ∃ trip outcome, trips[place / limit]? = some trip ∧ trip[place % limit]? = some plan ∧
      (run config registry channel plans).1[place]? = some outcome ∧
      Settled registry config.haltOnError (verdicts channel.answers trips) (place / limit)
        (place % limit) plan outcome := by
  -- The place is found in the round trips, and its outcome at the same place of theirs.
  intro limit trips
  have positive : 0 < limit := effectiveBatchLimit_pos config
  have packed : Packed limit trips := packed_roundTrips positive plans
  have position := getElem?_plans config plans place
  rw [held] at position
  obtain ⟨trip, going, inside⟩ := Option.bind_eq_some_iff.mp position.symm
  -- There are as many outcomes as operations, so there is one at this place.
  have lengths := (run_completes config registry channel plans).length_eq
  have within := (List.getElem?_eq_some_iff.mp held).1
  obtain ⟨outcome, completed⟩ : ∃ outcome,
      (run config registry channel plans).1[place]? = some outcome :=
    ⟨_, List.getElem?_eq_getElem (lengths ▸ within)⟩
  refine ⟨trip, outcome, going, inside, completed, ?_⟩
  rw [run_batched several supported] at completed
  simp only at completed
  rw [getElem?_settlements registry config.haltOnError positive channel.answers packed] at completed
  obtain ⟨outcomes, together, settled⟩ := Option.bind_eq_some_iff.mp completed
  -- The outcomes of the round trip come from its fate.
  obtain ⟨fate, met, rfl⟩ := settlement_of_getElem? going together
  exact settled_of_fate registry inside met settled

end Batched

end Execution

namespace Session

open Execution

/-- The answer to a round trip of two deletions. -/
def twoDeleted : Response :=
  ⟨200, "\x7b\"results\":[\x7b\"statusCode\":204\x7d,\x7b\"statusCode\":204\x7d]\x7d".toUTF8⟩

end Session

end RemoteRecords
