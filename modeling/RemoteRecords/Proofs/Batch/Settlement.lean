import RemoteRecords.Proofs.Batch.Completion
import RemoteRecords.Proofs.Batch.RoundTrips
import RemoteRecords.Proofs.Pairing

/-! Settlement: what each round trip comes to, and what its operations get from it. -/

namespace RemoteRecords

namespace Execution

/-- The request that carries a round trip. -/
def tripRequest (paths : Paths) (haltOnError : Bool) (plans : List Plan) : SubRequest :=
  ⟨.post, paths.batch, some (envelope haltOnError plans).toJson⟩

/-- What a round trip of so many operations comes to, by the answer to its request. -/
def verdict (sent : Nat) (answer : Option (Except String Response)) :
    Except Error (List BatchResult) := do
  let reply ← Channel.reading answer
  results sent reply

/-- A round trip takes one answer, and its verdict is that on the answer. -/
theorem sendRoundTrip_eq (paths : Paths) (haltOnError : Bool) (channel : Channel)
    (plans : List Plan) :
    sendRoundTrip paths haltOnError channel plans =
      (verdict plans.length channel.answers.head?,
        channel.passed (tripRequest paths haltOnError plans)) := by
  -- The exchange takes the next answer and is one request more.
  unfold sendRoundTrip verdict
  simp only [Channel.exchange_eq]
  cases Channel.reading channel.answers.head? with
  | ok reply => rfl
  | error error => rfl

/-- A favourable verdict has one result for each operation. -/
theorem length_of_verdict {sent : Nat} {answer : Option (Except String Response)}
    {results : List BatchResult} (favourable : verdict sent answer = .ok results) :
    results.length = sent := by
  -- A verdict with results has come through the count.
  unfold verdict at favourable
  obtain ⟨reply, -, read⟩ := exists_of_bind_eq_ok favourable
  obtain ⟨body, -, counted⟩ := exists_of_bind_eq_ok read
  -- Only the branch in which the numbers agree gives any results.
  split at counted
  · cases counted
  · split at counted
    · rename_i response _ agree
      cases counted
      exact agree
    · cases counted

/-- Results of the same number as the operations are a favourable verdict. -/
theorem verdict_of_counted {sent : Nat} {answer : Option (Except String Response)}
    {reply : Reply} {body : Option Json} {response : BatchResponse}
    (read : Channel.reading answer = .ok reply) (successful : reply.content none = .ok body)
    (shaped : BatchResponse.ofJson? (body.getD .null) = some response)
    (counted : response.results.length = sent) : verdict sent answer = .ok response.results := by
  -- None of the steps that lead to the count fails.
  simp only [verdict, read, results, bind, Except.bind, successful, shaped, if_pos counted]

/-- Results of any other number than that of the operations break the protocol. -/
theorem verdict_of_miscounted {sent : Nat} {answer : Option (Except String Response)}
    {reply : Reply} {body : Option Json} {response : BatchResponse}
    (read : Channel.reading answer = .ok reply) (successful : reply.content none = .ok body)
    (shaped : BatchResponse.ofJson? (body.getD .null) = some response)
    (miscounted : response.results.length ≠ sent) :
    verdict sent answer = .error (.batchProtocolViolation sent response.results.length) := by
  -- All steps succeed but the last, which compares the numbers.
  simp only [verdict, read, results, bind, Except.bind, successful, shaped, if_neg miscounted]

/-- A round trip that fails does so by an error of its own. -/
theorem timely_verdict (sent : Nat) (answer : Option (Except String Response)) :
    Timely (verdict sent answer) := by
  -- The answer is read, then its status is judged, then its body is read as results.
  refine (Channel.timely_reading answer).bind fun reply => ?_
  refine (reply.timely_content none).bind fun body => ?_
  -- What is left is a body without the shape of results, or with a wrong number of them.
  split
  · simp
  · split <;> simp

/-- The verdicts on round trips that each take the next answer. -/
def verdicts (answers : List (Except String Response)) :
    List (List Plan) → List (Except Error (List BatchResult))
  | [] => []
  | plans :: rest => verdict plans.length answers.head? :: verdicts answers.tail rest

/-- The verdict on a round trip rests on the answer at its own place. -/
theorem getElem?_verdicts (answers : List (Except String Response)) (trips : List (List Plan))
    (place : Nat) :
    (verdicts answers trips)[place]? =
      trips[place]?.map fun plans => verdict plans.length answers[place]? := by
  induction trips generalizing answers place with
  | nil => rfl
  | cons plans rest ih =>
    -- The first answer goes to the first round trip, and the others to the rest.
    cases place with
    | zero => simp [verdicts, List.head?_eq_getElem?]
    | succ place => simp [verdicts, ih]

variable {α : Type}

/-- Verdicts as they take effect: where errors halt, the first one stands for all that follows. -/
def fates (haltOnError : Bool) : List (Except Error α) → List (Except Error α)
  | [] => []
  | .ok results :: rest => .ok results :: fates haltOnError rest
  | .error error :: rest =>
    .error error :: if haltOnError then rest.map fun _ => .error error else fates haltOnError rest

/-- The number of round trips that go out. -/
def dispatched (haltOnError : Bool) : List (Except Error α) → Nat
  | [] => 0
  | .ok _ :: rest => dispatched haltOnError rest + 1
  | .error _ :: rest => if haltOnError then 1 else dispatched haltOnError rest + 1

/-- A round trip is halted by an earlier one that is the first to fail, where errors halt. -/
def Halted (haltOnError : Bool) (verdicts : List (Except Error α)) (place : Nat) (error : Error) :
    Prop :=
  haltOnError = true ∧ ∃ earlier, earlier < place ∧ verdicts[earlier]? = some (.error error) ∧
    ∀ first, first < earlier → ∃ results, verdicts[first]? = some (.ok results)

/-- Nothing can halt the first round trip. -/
theorem not_halted_zero (haltOnError : Bool) (verdicts : List (Except Error α)) (error : Error) :
    ¬Halted haltOnError verdicts 0 error := by
  -- There is no earlier round trip that could have failed.
  rintro ⟨-, earlier, before, -⟩
  omega

/-- Nothing halts where errors do not. -/
theorem not_halted_of_off (verdicts : List (Except Error α)) (place : Nat) (error : Error) :
    ¬Halted false verdicts place error :=
  -- Being halted says that errors halt.
  fun halted => Bool.false_ne_true halted.1

/-- Behind a round trip that succeeds, the others decide. -/
theorem halted_ok_succ_iff (haltOnError : Bool) (results : α) (rest : List (Except Error α))
    (place : Nat) (error : Error) :
    Halted haltOnError (.ok results :: rest) (place + 1) error ↔
      Halted haltOnError rest place error := by
  -- The first failure is looked for behind the success, where places are one less.
  constructor
  · -- The success is one more that comes ahead of the failure.
    rintro ⟨halting, earlier, before, failed, others⟩
    cases earlier with
    | zero => simp at failed
    | succ earlier =>
      -- The first failure lies behind the success, one place nearer there.
      refine ⟨halting, earlier, by omega, by simpa using failed, fun first sooner => ?_⟩
      simpa using others (first + 1) (by omega)
  · rintro ⟨halting, earlier, before, failed, others⟩
    refine ⟨halting, earlier + 1, by omega, by simpa using failed, fun first sooner => ?_⟩
    cases first with
    | zero => exact ⟨results, rfl⟩
    | succ first => simpa using others first (by omega)

/-- Behind a round trip that fails, its error halts. -/
theorem halted_error_succ_iff (haltOnError : Bool) (failure : Error)
    (rest : List (Except Error α)) (place : Nat) (error : Error) :
    Halted haltOnError (.error failure :: rest) (place + 1) error ↔
      haltOnError = true ∧ error = failure := by
  -- The first of all round trips has failed, so it is the first to fail.
  constructor
  · rintro ⟨halting, earlier, -, failed, others⟩
    cases earlier with
    | zero =>
      simp only [List.getElem?_cons_zero, Option.some.injEq, Except.error.injEq] at failed
      exact ⟨halting, failed.symm⟩
    | succ earlier =>
      -- A later failure is not the first one.
      obtain ⟨results, first⟩ := others 0 (by omega)
      simp at first
  · rintro ⟨halting, rfl⟩
    exact ⟨halting, 0, by omega, rfl, fun first sooner => by omega⟩

/-- A round trip meets the error that halted it, or else its own verdict. -/
theorem getElem?_fates {haltOnError : Bool} {verdicts : List (Except Error α)} {place : Nat}
    {fate : Except Error α} (met : (fates haltOnError verdicts)[place]? = some fate) :
    (∃ error, Halted haltOnError verdicts place error ∧ fate = .error error) ∨
      (∀ error, ¬Halted haltOnError verdicts place error) ∧ verdicts[place]? = some fate := by
  -- The fates are told from the first verdict on, as being halted is.
  induction verdicts generalizing place with
  | nil => simp [fates] at met
  | cons verdict rest ih =>
    cases place with
    | zero =>
      -- Nothing comes before the first round trip.
      refine .inr ⟨not_halted_zero haltOnError _, ?_⟩
      cases verdict <;> simpa [fates] using met
    | succ place =>
      cases verdict with
      | ok results =>
        -- A success is passed over by both.
        simp only [fates, List.getElem?_cons_succ] at met
        simpa only [halted_ok_succ_iff, List.getElem?_cons_succ] using ih met
      | error failure =>
        simp only [halted_error_succ_iff, List.getElem?_cons_succ]
        simp only [fates, List.getElem?_cons_succ] at met
        cases haltOnError with
        | true =>
          -- From here on every round trip meets this error.
          simp only [if_true, List.getElem?_map] at met
          obtain ⟨_, -, rfl⟩ := Option.map_eq_some_iff.mp met
          exact .inl ⟨failure, ⟨rfl, rfl⟩, rfl⟩
        | false =>
          -- The error stays with its round trip, and the others go on.
          simp only [Bool.false_eq_true, if_false] at met
          rcases ih met with ⟨error, halted, -⟩ | ⟨-, own⟩
          · exact absurd halted (not_halted_of_off _ _ error)
          · exact .inr ⟨fun error halted => Bool.false_ne_true halted.1, own⟩

/-- Every round trip meets something. -/
theorem length_fates (haltOnError : Bool) (verdicts : List (Except Error α)) :
    (fates haltOnError verdicts).length = verdicts.length := by
  -- Whatever the verdict, one round trip meets one fate.
  induction verdicts with
  | nil => rfl
  | cons verdict rest ih =>
    cases verdict with
    | ok results => simp [fates, ih]
    | error error => cases haltOnError <;> simp [fates, ih]

/-- The round trips that go out are those that nothing halted before. -/
theorem lt_dispatched_iff {haltOnError : Bool} {verdicts : List (Except Error α)} {place : Nat} :
    place < dispatched haltOnError verdicts ↔
      place < verdicts.length ∧ ∀ error, ¬Halted haltOnError verdicts place error := by
  -- The count and the condition both look at the first verdict and then at the others.
  induction verdicts generalizing place with
  | nil => simp [dispatched]
  | cons verdict rest ih =>
    cases place with
    | zero =>
      -- The first round trip always goes out.
      have some : 0 < dispatched haltOnError (verdict :: rest) := by
        cases verdict <;> cases haltOnError <;> simp [dispatched]
      simp [some, not_halted_zero]
    | succ place =>
      cases verdict with
      | ok results => simpa [dispatched, halted_ok_succ_iff] using ih
      | error failure =>
        simp only [halted_error_succ_iff]
        cases haltOnError with
        | true =>
          -- The error halts everything behind it.
          simp [dispatched]
        | false =>
          -- Where errors do not halt, every round trip goes out.
          have free := not_halted_of_off rest place
          have counted : place < dispatched false rest ↔ _ := ih
          simp only [free, not_false_eq_true, implies_true, and_true] at counted
          simp [dispatched, counted]

/-- What the operations of a round trip get from its fate. -/
def settle (registry : Registry) (plans : List Plan) : Except Error (List BatchResult) → Outcomes
  | .ok results => completeEach registry {} plans results
  | .error error => plans.map fun _ => .error error

/-- No operation of a batch depends on the connection any more. -/
theorem completeEach_eq (registry : Registry) (channel : Channel) (plans : List Plan)
    (results : List BatchResult) :
    completeEach registry channel plans results = completeEach registry {} plans results := by
  -- Neither the value of a completion nor its error involves the connection.
  unfold completeEach
  congr 1
  funext plan result
  rw [Completion.finish_batched registry channel {}]

/-- Once execution is halted, every operation gets the error that halted it and nothing goes out. -/
theorem batched_of_halted (registry : Registry) (paths : Paths) (haltOnError : Bool) (error : Error)
    (channel : Channel) (trips : List (List Plan)) :
    batched registry paths haltOnError (some error) channel trips =
      ((trips.map fun plans => settle registry plans (.error error)).flatten, channel) := by
  -- No round trip of the rest sends anything, so the channel is passed on as it is.
  induction trips with
  | nil => rfl
  | cons plans rest ih =>
    simp only [batched, ih]
    rfl

/-- One error for all round trips settles each of them by itself. -/
theorem zipWith_settle_error (registry : Registry) (error : Error)
    (answers : List (Except String Response)) (trips : List (List Plan)) :
    trips.zipWith (settle registry) ((verdicts answers trips).map fun _ => .error error) =
      trips.map fun plans => settle registry plans (.error error) := by
  -- The error is settled with each round trip in turn.
  induction trips generalizing answers with
  | nil => rfl
  | cons plans rest ih =>
    simp only [verdicts, List.map_cons, List.zipWith_cons_cons, ih]

/-- Every round trip is settled by its fate, and those that go out take one answer each. -/
theorem batched_eq (registry : Registry) (paths : Paths) (haltOnError : Bool) (channel : Channel)
    (trips : List (List Plan)) :
    let fates := fates haltOnError (verdicts channel.answers trips)
    let count := dispatched haltOnError (verdicts channel.answers trips)
    batched registry paths haltOnError none channel trips =
      ((trips.zipWith (settle registry) fates).flatten,
        { channel with
          answers := channel.answers.drop count
          sent := channel.sent ++ (trips.take count).map (tripRequest paths haltOnError) }) := by
  -- The induction takes round trips one by one, each on the channel that the last one left.
  induction trips generalizing channel with
  | nil => simp [batched, verdicts, fates, dispatched]
  | cons plans rest ih =>
    simp only [batched, sendRoundTrip_eq, verdicts]
    cases settled : verdict plans.length channel.answers.head? with
    | ok results =>
      -- The results settle this round trip, and the others go on.
      simp only [ih, fates, dispatched, completeEach_eq]
      simp [settle, Channel.passed]
    | error error =>
      cases haltOnError with
      | true =>
        -- The rest fails unsent.
        simp only [if_true, batched_of_halted, fates, dispatched, List.zipWith_cons_cons,
          zipWith_settle_error]
        simp [settle, Channel.passed]
      | false =>
        -- The round trip fails by itself.
        simp only [Bool.false_eq_true, if_false, ih, fates, dispatched]
        simp [settle, Channel.passed]

end Execution

end RemoteRecords
