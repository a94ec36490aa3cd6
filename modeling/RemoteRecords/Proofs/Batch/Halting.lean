import RemoteRecords.Proofs.Batch.Positions

/-! Halting: where errors halt, what goes out after a request that failed, and what no longer does. -/

namespace RemoteRecords

namespace QueryEnvelope

/-- Where a page goes on, if it is not the last one. -/
def continuation? (page : QueryEnvelope) : Option String :=
  if page.done then none else page.nextRecordsUrl

/-- A page goes on if it has a link and is not done. -/
theorem continuation?_eq_some_iff {page : QueryEnvelope} {next : String} :
    page.continuation? = some next ↔ page.done = false ∧ page.nextRecordsUrl = some next := by
  -- A finished page has no continuation, and any other one has its link.
  cases finished : page.done <;> simp [continuation?, finished]

/-- A page ends the result if it is done or has no link. -/
theorem continuation?_eq_none_iff {page : QueryEnvelope} :
    page.continuation? = none ↔ page.done = true ∨ page.nextRecordsUrl = none := by
  -- The two reasons are the two ways in which the link is not taken.
  cases finished : page.done <;> simp [continuation?, finished]

/-- A page with the rows of another one behind its own, which goes on where that one does. -/
def extended (page more : QueryEnvelope) : QueryEnvelope :=
  { page with
    records := page.records ++ more.records
    done := more.done
    nextRecordsUrl := more.nextRecordsUrl }

end QueryEnvelope

/-- The request for a page that a link leads to. -/
def pageRequest (next : String) : SubRequest :=
  ⟨.get, Paths.relative next, none⟩

/-- A channel after links were followed, one after the other. -/
def Channel.followed (channel : Channel) (links : List String) : Channel :=
  { channel with
    answers := channel.answers.drop links.length
    sent := channel.sent ++ links.map pageRequest }

namespace Completion

/-- All that an outcome takes from a channel: pages that were asked for one after the other. Only the
last of them can have failed, and its error is the outcome. -/
def Follows (channel : Channel) {α : Type} (outcome : Except Error α × Channel) : Prop :=
  ∃ links : List String, outcome.2 = channel.followed links ∧
    ∀ index error, index < links.length →
      Channel.reading channel.answers[index]? = .error error →
      index + 1 = links.length ∧ outcome.1 = .error error

/-- An outcome that leaves the channel alone follows no link. -/
theorem follows_nothing (channel : Channel) {α : Type} (outcome : Except Error α) :
    Follows channel (outcome, channel) := by
  -- Following no links leaves the channel as it is.
  refine ⟨[], ?_, by simp⟩
  simp [Channel.followed]

/-- A link that cannot be followed is the last one, and its error is the outcome. -/
theorem follows_failure {channel : Channel} {α : Type} {error : Error} (next : String)
    (failed : Channel.reading channel.answers.head? = .error error) :
    Follows channel ((.error error : Except Error α), channel.passed (pageRequest next)) := by
  -- There is one link, so the place of the failure is its place.
  refine ⟨[next], ?_, ?_⟩
  · simp [Channel.followed, Channel.passed]
  · intro index other only found
    have first : index = 0 := by simpa using only
    subst first
    rw [← List.head?_eq_getElem?, failed] at found
    cases found
    exact ⟨rfl, rfl⟩

/-- A link that is followed comes before those behind it. -/
theorem Follows.cons {channel : Channel} {α : Type} {outcome : Except Error α × Channel}
    {reply : Reply} {next : String} (answered : Channel.reading channel.answers.head? = .ok reply)
    (later : Follows (channel.passed (pageRequest next)) outcome) : Follows channel outcome := by
  -- The link is put ahead of the others, and each of these takes the answer one place further on.
  obtain ⟨links, left, failures⟩ := later
  refine ⟨next :: links, ?_, ?_⟩
  · rw [left]
    simp [Channel.followed, Channel.passed]
  · intro index error within found
    cases index with
    | zero =>
      -- The first link was followed, so it has not failed.
      rw [← List.head?_eq_getElem?, answered] at found
      cases found
    | succ index =>
      -- A later failure is one of the links behind.
      have behind : Channel.reading (channel.passed (pageRequest next)).answers[index]? =
          .error error := by
        simpa [Channel.passed] using found
      obtain ⟨last, same⟩ := failures index error (by simpa using within) behind
      exact ⟨by simpa using last, same⟩

/-- Pages are asked for until one is the last or fails. -/
theorem follows_followPages (batched : Bool) (channel : Channel) (page : QueryEnvelope) :
    Follows channel (followPages batched channel page) := by
  -- The induction follows the pages as they are asked for.
  fun_induction followPages batched channel page with
  | case1 | case2 | case3 => exact follows_nothing _ _
  | case4 channel page unfinished next linked alone error after answered =>
    -- The answer to the link is a failure.
    rw [Channel.exchange_eq, Prod.mk.injEq] at answered
    obtain ⟨failed, rfl⟩ := answered
    exact follows_failure next failed
  | case5 channel page unfinished next linked alone reply after answered error unread =>
    -- The page came but cannot be read, so nothing is asked for behind it.
    rw [Channel.exchange_eq, Prod.mk.injEq] at answered
    obtain ⟨replied, rfl⟩ := answered
    exact Follows.cons replied (follows_nothing _ _)
  | case6 channel page unfinished next linked alone reply after answered more read ih =>
    -- The page came and was read, and it goes on from there.
    rw [Channel.exchange_eq, Prod.mk.injEq] at answered
    obtain ⟨replied, rfl⟩ := answered
    exact Follows.cons replied ih

/-- A body of the right shape is read. -/
theorem readBody_of_shape {α : Type} {read : Json → Option α} {reply : Reply} {body : Option Json}
    {value : α} (successful : reply.content none = .ok body)
    (shaped : read (body.getD .null) = some value) : readBody read reply = .ok value := by
  -- There is a body, and it can be read.
  simp only [readBody, successful, bind, Except.bind, shaped]

/-- The page that an answer amounts to. -/
def pageOf (answer : Option (Except String Response)) : Except Error QueryEnvelope := do
  let reply ← Channel.reading answer
  readBody QueryEnvelope.ofJson? reply

/-- A page that goes on is continued by the next answer, or ends with the error of that answer. -/
theorem followPages_of_continuation {channel : Channel} {page : QueryEnvelope} {next : String}
    (alone : channel.synchronous = true) (linked : page.continuation? = some next) :
    followPages false channel page =
      match pageOf channel.answers.head? with
      | .error error => (.error error, channel.passed (pageRequest next))
      | .ok more => followPages false (channel.passed (pageRequest next)) (page.extended more) := by
  obtain ⟨unfinished, link⟩ := QueryEnvelope.continuation?_eq_some_iff.mp linked
  -- Of the next page there is an answer, and then a body to be read.
  rw [followPages, if_neg (by simp [unfinished]), link]
  simp only [alone, Bool.not_true, Bool.or_false, Bool.false_eq_true, if_false]
  split
  · rename_i error after answered
    -- The exchange fails, and so does the page.
    rw [Channel.exchange_eq, Prod.mk.injEq] at answered
    obtain ⟨failed, rfl⟩ := answered
    rw [pageOf, failed]
    rfl
  · rename_i reply after answered
    -- The reply is a page or not, by its body.
    rw [Channel.exchange_eq, Prod.mk.injEq] at answered
    obtain ⟨replied, rfl⟩ := answered
    have body : pageOf channel.answers.head? = readBody QueryEnvelope.ofJson? reply := by
      rw [pageOf, replied]
      rfl
    rw [body]
    cases readBody QueryEnvelope.ofJson? reply with
    | error error => rfl
    | ok more => rfl

/-- A query whose next page cannot be had ends with the error of that page. -/
theorem finish_of_failed_page (registry : Registry) (descriptor : Descriptor) {channel : Channel}
    {reply : Reply} {page : QueryEnvelope} {next : String} {error : Error}
    (read : readBody QueryEnvelope.ofJson? reply = .ok page) (unfinished : page.done = false)
    (linked : page.nextRecordsUrl = some next) (alone : channel.synchronous = true)
    (failed : Channel.reading channel.answers.head? = .error error) :
    (queried descriptor).finish registry false channel reply =
      (.error error, channel.passed (pageRequest next)) := by
  -- The first page goes on, so the next answer decides, which is a failure.
  have ended := followPages_of_continuation alone
    (QueryEnvelope.continuation?_eq_some_iff.mpr ⟨unfinished, linked⟩)
  rw [pageOf, failed] at ended
  simp only [finish, read, ended]
  rfl

/-- A completion takes nothing from the channel but the pages of a query. -/
theorem follows_finish (registry : Registry) (batched : Bool) (channel : Channel) (reply : Reply)
    (completion : Completion) :
    Follows channel (completion.finish registry batched channel reply) := by
  -- Only a query follows links, and it does so before its rows are read.
  cases completion with
  | created | fetched | written | upserted => exact follows_nothing _ _
  | queried descriptor =>
    simp only [finish]
    split
    · exact follows_nothing _ _
    · rename_i first read
      -- The rows are read when all pages are there, and an error among the pages stands.
      obtain ⟨links, left, failures⟩ := follows_followPages batched channel first
      split
      · rename_i error after failed
        -- The error of a page is the outcome.
        rw [failed] at left failures
        refine ⟨links, left, ?_⟩
        intro index other within found
        obtain ⟨last, same⟩ := failures index other within found
        cases same
        exact ⟨last, rfl⟩
      · rename_i envelope after whole
        -- All pages came in, so none of the links failed.
        rw [whole] at left failures
        refine ⟨links, left, ?_⟩
        intro index other within found
        cases (failures index other within found).2

end Completion

namespace Execution

variable {registry : Registry}

/-- Operations whose own requests were answered, one after the other, with what their completions
made of the replies and the channel that they left. -/
inductive Replied (registry : Registry) : Channel → List Plan → Outcomes → Channel → Prop where
  | nil (channel : Channel) : Replied registry channel [] [] channel
  | cons {channel next after : Channel} {plan : Plan} {rest : List Plan} {reply : Reply}
      {outcome : Except Error Outcome} {outcomes : Outcomes}
      (answered : Channel.reading channel.answers.head? = .ok reply)
      (completed : plan.completion.finish registry false (channel.passed plan.request) reply =
        (outcome, next))
      (others : Replied registry next rest outcomes after) :
      Replied registry channel (plan :: rest) (outcome :: outcomes) after

/-- Operations that were reached one after the other, with their outcomes and the channel that they
left. Each was answered, or it failed where errors do not halt. -/
inductive Served (registry : Registry) (haltOnError : Bool) :
    Channel → List Plan → Outcomes → Channel → Prop where
  | nil (channel : Channel) : Served registry haltOnError channel [] [] channel
  | replied {channel next after : Channel} {plan : Plan} {rest : List Plan} {reply : Reply}
      {outcome : Except Error Outcome} {outcomes : Outcomes}
      (answered : Channel.reading channel.answers.head? = .ok reply)
      (completed : plan.completion.finish registry false (channel.passed plan.request) reply =
        (outcome, next))
      (others : Served registry haltOnError next rest outcomes after) :
      Served registry haltOnError channel (plan :: rest) (outcome :: outcomes) after
  | failed {channel after : Channel} {plan : Plan} {rest : List Plan} {error : Error}
      {outcomes : Outcomes} (goesOn : haltOnError = false)
      (failed : Channel.reading channel.answers.head? = .error error)
      (others : Served registry haltOnError (channel.passed plan.request) rest outcomes after) :
      Served registry haltOnError channel (plan :: rest) (.error error :: outcomes) after

/-- Operations that were all answered were all reached. -/
theorem Replied.served {channel next : Channel} {plans : List Plan} {outcomes : Outcomes}
    (replied : Replied registry channel plans outcomes next) (haltOnError : Bool) :
    Served registry haltOnError channel plans outcomes next := by
  -- An answer is one of the two ways to be reached.
  induction replied with
  | nil channel => exact .nil channel
  | cons answered completed _ ih => exact .replied answered completed ih

/-- There is an outcome for each operation that was reached. -/
theorem Served.length_eq {haltOnError : Bool} {channel next : Channel} {plans : List Plan}
    {outcomes : Outcomes} (served : Served registry haltOnError channel plans outcomes next) :
    outcomes.length = plans.length := by
  -- Each step adds one operation and one outcome.
  induction served with
  | nil => rfl
  | replied _ _ _ ih | failed _ _ _ ih => simp [ih]

/-- Operations that are reached come to their outcomes, and the others follow on the channel that they
left. -/
theorem direct_of_served {haltOnError : Bool} {channel next : Channel} {ahead : List Plan}
    {outcomes : Outcomes} (served : Served registry haltOnError channel ahead outcomes next)
    (behind : List Plan) :
    direct registry haltOnError none channel (ahead ++ behind) =
      (outcomes ++ (direct registry haltOnError none next behind).1,
        (direct registry haltOnError none next behind).2) := by
  -- The operations are taken one by one, and each hands on the channel that it left.
  induction served with
  | nil => rfl
  | replied answered completed others ih =>
    -- The reply is completed, and the next operation is sent.
    rw [List.cons_append, direct, Channel.exchange_eq, answered]
    simp only [completed, ih]
    rfl
  | failed goesOn failed others ih =>
    -- The error stays with its operation, and the next one is sent.
    rw [List.cons_append, direct, Channel.exchange_eq, failed]
    simp only [goesOn, Bool.false_eq_true, if_false] at ih ⊢
    rw [ih]
    rfl

/-- Operations that are answered come to their outcomes, and the others follow on the channel that
they left. -/
theorem direct_of_replied (haltOnError : Bool) {channel next : Channel} {ahead : List Plan}
    {outcomes : Outcomes} (replied : Replied registry channel ahead outcomes next) (behind : List Plan) :
    direct registry haltOnError none channel (ahead ++ behind) =
      (outcomes ++ (direct registry haltOnError none next behind).1,
        (direct registry haltOnError none next behind).2) :=
  -- Operations that are answered are among those that are reached.
  direct_of_served (replied.served haltOnError) behind

/-- Once execution is halted, every operation fails unsent. -/
theorem direct_of_halted (registry : Registry) (haltOnError : Bool) (error : Error)
    (channel : Channel) (plans : List Plan) :
    direct registry haltOnError (some error) channel plans =
      (plans.map fun _ => .error error, channel) := by
  -- Once there is an error, it is the outcome of one operation after the other.
  induction plans with
  | nil => rfl
  | cons plan rest ih =>
    rw [direct, ih]
    rfl

/-- An operation whose own request fails halts all that are behind it. -/
theorem direct_of_failure {channel : Channel} {error : Error}
    (failed : Channel.reading channel.answers.head? = .error error) (plan : Plan)
    (rest : List Plan) :
    direct registry true none channel (plan :: rest) =
      ((plan :: rest).map fun _ => .error error, channel.passed plan.request) := by
  -- The error of the first request is kept for all that are behind it.
  rw [direct, Channel.exchange_eq, failed]
  simp only [if_true, direct_of_halted, List.map_cons]

/-- Either all operations are answered or there is a first one that is not. -/
theorem replied_or_failed (registry : Registry) (channel : Channel) (plans : List Plan) :
    (∃ outcomes next, Replied registry channel plans outcomes next) ∨
      ∃ ahead plan behind outcomes next error, plans = ahead ++ plan :: behind ∧
        Replied registry channel ahead outcomes next ∧
        Channel.reading next.answers.head? = .error error := by
  -- The operations are asked for one by one, each on the channel that the last one left.
  induction plans generalizing channel with
  | nil => exact .inl ⟨[], channel, .nil channel⟩
  | cons plan rest ih =>
    cases answered : Channel.reading channel.answers.head? with
    | error error => exact .inr ⟨[], plan, rest, [], channel, error, rfl, .nil channel, answered⟩
    | ok reply =>
      -- The first operation is answered, and the others are sent on the channel that it left.
      cases completed : plan.completion.finish registry false (channel.passed plan.request) reply with
      | mk outcome next =>
        rcases ih next with ⟨outcomes, after, others⟩ |
          ⟨ahead, failing, behind, outcomes, after, error, rfl, others, failed⟩
        · exact .inl ⟨_, after, .cons answered completed others⟩
        · exact .inr ⟨plan :: ahead, failing, behind, _, after, error, rfl,
            .cons answered completed others, failed⟩

/-- The first round trip to fail is the last one to go out. -/
theorem dispatched_of_first_failure {α : Type} {verdicts : List (Except Error α)} {index : Nat}
    {error : Error} (before : ∀ earlier < index, ∃ results, verdicts[earlier]? = some (.ok results))
    (failed : verdicts[index]? = some (.error error)) : dispatched true verdicts = index + 1 := by
  have within : index < verdicts.length := (List.getElem?_eq_some_iff.mp failed).1
  -- Nothing halts the round trip itself, and its own error halts whatever is behind it.
  have reached : index < dispatched true verdicts := by
    refine lt_dispatched_iff.mpr ⟨within, ?_⟩
    rintro other ⟨-, earlier, sooner, unfavourable, -⟩
    obtain ⟨results, favourable⟩ := before earlier sooner
    cases favourable.symm.trans unfavourable
  -- One round trip more would have been halted by the failure.
  have stopped : ¬ index + 1 < dispatched true verdicts := by
    intro further
    exact (lt_dispatched_iff.mp further).2 error ⟨rfl, index, by omega, failed, before⟩
  omega

/-- Either all round trips succeed or there is a first one that fails. -/
theorem favourable_or_first_failure {α : Type} (verdicts : List (Except Error α)) :
    (∀ index < verdicts.length, ∃ results, verdicts[index]? = some (.ok results)) ∨
      ∃ (index : Nat) (error : Error),
        (∀ earlier < index, ∃ results, verdicts[earlier]? = some (.ok results)) ∧
          verdicts[index]? = some (.error error) := by
  -- The first verdict is an error, or else it is passed over and the others decide.
  induction verdicts with
  | nil => exact .inl (by simp)
  | cons verdict rest ih =>
    cases verdict with
    | error error => exact .inr ⟨0, error, by simp, rfl⟩
    | ok results =>
      -- Places behind the first one count on by one.
      have shifted : ∀ {count : Nat},
          (∀ index < count, ∃ results, rest[index]? = some (.ok results)) →
          ∀ index < count + 1, ∃ others, (.ok results :: rest)[index]? = some (.ok others) := by
        intro count others index within
        cases index with
        | zero => exact ⟨results, rfl⟩
        | succ index => simpa using others index (by omega)
      rcases ih with favourable | ⟨index, error, before, failed⟩
      · exact .inl (shifted favourable)
      · exact .inr ⟨index + 1, error, shifted before, by simpa using failed⟩

/-- Round trips that all succeed all go out. -/
theorem length_le_dispatched {α : Type} {haltOnError : Bool} {verdicts : List (Except Error α)}
    (favourable : ∀ index < verdicts.length, ∃ results, verdicts[index]? = some (.ok results)) :
    verdicts.length ≤ dispatched haltOnError verdicts := by
  -- If fewer went out than there are, one of them would be the first to stay behind.
  by_contra fewer
  have within : dispatched haltOnError verdicts < verdicts.length := Nat.lt_of_not_le fewer
  -- The first round trip that stays behind would have been halted by one that failed.
  refine absurd (lt_dispatched_iff.mpr ⟨within, ?_⟩) (Nat.lt_irrefl _)
  rintro error ⟨-, earlier, sooner, unfavourable, -⟩
  obtain ⟨results, same⟩ := favourable earlier (Nat.lt_trans sooner within)
  cases same.symm.trans unfavourable

/-- From the first round trip that fails on, every operation is settled by its error. -/
theorem Settled.eq_of_first_failure {verdicts : List (Except Error (List BatchResult))}
    {index trip place : Nat} {plan : Plan} {outcome : Except Error Outcome} {error : Error}
    (settled : Settled registry true verdicts trip place plan outcome)
    (before : ∀ earlier < index, ∃ results, verdicts[earlier]? = some (.ok results))
    (failed : verdicts[index]? = some (.error error)) (beyond : index ≤ trip) :
    outcome = .error error := by
  -- A trip that nothing halts is the failing one itself.
  have own : (∀ error, ¬Halted true verdicts trip error) → index = trip := by
    intro reached
    rcases Nat.lt_or_eq_of_le beyond with sooner | same
    · exact absurd ⟨rfl, index, sooner, failed, before⟩ (reached error)
    · exact same
  cases settled with
  | answered reached favourable =>
    -- The failing round trip has no results.
    rw [own reached] at failed
    cases favourable.symm.trans failed
  | failed reached unfavourable =>
    -- A round trip has one verdict.
    rw [own reached] at failed
    cases unfavourable.symm.trans failed
    rfl
  | halted stopped =>
    obtain ⟨-, earlier, -, unfavourable, first⟩ := stopped
    -- The first failure is one and the same.
    rcases Nat.lt_trichotomy earlier index with sooner | rfl | later
    · obtain ⟨results, favourable⟩ := before earlier sooner
      cases favourable.symm.trans unfavourable
    · cases unfavourable.symm.trans failed
      rfl
    · obtain ⟨results, favourable⟩ := first index later
      cases favourable.symm.trans failed

end Execution

namespace Session

open Execution

/-- Where errors halt, the first request of an operation or round trip that fails is the last one to
go out: in a batch the first round trip that fails as a whole, and otherwise the first operation whose
own request is not answered. All operations from there on get its error. What goes out besides are the
pages of queries; one that fails ends its query with its error, and the operations behind it go on. -/
theorem execute_halts_after_failed_request (session : Session) (batch : Batch)
    (halts : session.config.haltOnError = true) :
    let operations := (session.execute batch).1
    let after := (session.execute batch).2
    let limit := session.config.effectiveBatchLimit
    let trips := roundTrips limit batch
    let verdicts := verdicts session.channel.answers trips
    (2 ≤ batch.length → session.config.supportsBatching = true →
      ((∀ index < trips.length, ∃ results, verdicts[index]? = some (.ok results)) ∧
          after.channel.sent = session.channel.sent ++ trips.map (tripRequest session.paths true)) ∨
        ∃ index error, (∀ earlier < index, ∃ results, verdicts[earlier]? = some (.ok results)) ∧
          verdicts[index]? = some (.error error) ∧
          after.channel.sent = session.channel.sent ++
            (trips.take (index + 1)).map (tripRequest session.paths true) ∧
          ∀ place, index * limit ≤ place → place < batch.length →
            operations[place]? = some (.completed (.error error))) ∧
    (batch.length ≤ 1 ∨ session.config.supportsBatching = false →
      (∃ outcomes channel, Replied session.mapper.registry session.channel batch outcomes channel ∧
          operations = outcomes.map .completed ∧ after.channel.sent = channel.sent) ∨
        ∃ ahead plan behind outcomes channel error, batch = ahead ++ plan :: behind ∧
          Replied session.mapper.registry session.channel ahead outcomes channel ∧
          Channel.reading channel.answers.head? = .error error ∧
          operations = outcomes.map .completed ++
            (plan :: behind).map (fun _ => .completed (.error error)) ∧
          after.channel.sent = channel.sent ++ [plan.request]) ∧
    ∀ plan ∈ batch, ∀ channel reply, Completion.Follows channel
      (plan.completion.finish session.mapper.registry false channel reply) := by
  -- In round trips the first verdict that fails decides, and otherwise the first exchange.
  intro operations after limit trips verdicts
  have ran : operations = (run session.config session.mapper.registry session.channel batch).1.map
      .completed := rfl
  have left : after.channel =
      (run session.config session.mapper.registry session.channel batch).2 := rfl
  refine ⟨fun several supported => ?_, fun unbatched => ?_,
    fun plan _ channel reply => Completion.follows_finish _ _ channel reply plan.completion⟩
  · -- What goes out are the round trips that nothing halts.
    have sent : after.channel.sent = session.channel.sent ++
        (trips.take (dispatched true verdicts)).map (tripRequest session.paths true) := by
      rw [left, run_batched several supported, halts]
      rfl
    rcases favourable_or_first_failure verdicts with favourable | ⟨index, error, before, failed⟩
    · -- All round trips went out.
      have all : verdicts.length ≤ dispatched true verdicts := length_le_dispatched favourable
      rw [length_verdicts] at all favourable
      refine .inl ⟨favourable, ?_⟩
      rw [sent, List.take_of_length_le all]
    · -- The failing round trip is the last one.
      refine .inr ⟨index, error, before, failed, ?_, ?_⟩
      · rw [sent, dispatched_of_first_failure before failed]
      · intro place beyond within
        obtain ⟨_, outcome, -, -, completed, settled⟩ := run_settles several supported
          session.mapper.registry session.channel (List.getElem?_eq_getElem within)
        -- The operation's round trip is the one that failed or comes behind it.
        have behind : index ≤ place / limit :=
          (Nat.le_div_iff_mul_le (effectiveBatchLimit_pos session.config)).mpr beyond
        rw [halts] at settled
        rw [ran, List.getElem?_map, completed, settled.eq_of_first_failure before failed behind]
        rfl
  · by_cases filled : batch = []
    · -- Without operations nothing goes out.
      subst filled
      exact .inl ⟨[], session.channel, .nil _, rfl, rfl⟩
    -- The operations go out by themselves.
    rw [ran, left, run_direct filled unbatched, halts]
    rcases replied_or_failed session.mapper.registry session.channel batch with
      ⟨outcomes, channel, replied⟩ |
      ⟨ahead, plan, behind, outcomes, channel, error, rfl, replied, failed⟩
    · -- All operations were answered, and nothing is behind them.
      have served := direct_of_replied true replied []
      rw [List.append_nil] at served
      refine .inl ⟨outcomes, channel, replied, ?_, ?_⟩
      · simp [served, direct]
      · simp [served, direct, Channel.wait]
    · -- The failing operation is reached on the channel that the others left.
      have served := direct_of_replied true replied (plan :: behind)
      rw [direct_of_failure failed] at served
      refine .inr ⟨ahead, plan, behind, outcomes, channel, error, rfl, replied, failed, ?_, ?_⟩
      · simp [served]
      · simp [served, Channel.wait, Channel.passed]

/-- Three deletions go out in round trips of two, of which the first fails, so the last deletion is
never sent and all three get the error. -/
theorem execute_halts_after_failed_request_deletions :
    let delete (path : String) : Plan := ⟨⟨.delete, path, none⟩, .written⟩
    let session : Session :=
      ⟨{ haltOnError := true, batchLimit := 2 }, .ofConfig {},
        { answers := [.error "connection reset", .ok twoDeleted] }⟩
    let executed := session.execute [delete "a", delete "b", delete "c"]
    executed.2.channel.sent = [tripRequest session.paths true [delete "a", delete "b"]] ∧
      ∀ place < 3, executed.1[place]? =
        some (.completed (.error (.transport (.failed "connection reset")))) := by
  intro delete session executed
  obtain ⟨grouped, -⟩ := execute_halts_after_failed_request session
    [delete "a", delete "b", delete "c"] rfl
  have supported : session.config.supportsBatching = true := by decide +kernel
  have trips : roundTrips session.config.effectiveBatchLimit
      [delete "a", delete "b", delete "c"] = [[delete "a", delete "b"], [delete "c"]] := by
    have limit : session.config.effectiveBatchLimit = 2 := by decide
    simp [limit, roundTrips]
  -- The first answer is a failure of the connection.
  have broken : (verdicts session.channel.answers
      [[delete "a", delete "b"], [delete "c"]])[0]? =
        some (.error (.transport (.failed "connection reset"))) := rfl
  -- So the first round trip is the first to fail, whatever else is said of it.
  rw [trips] at grouped
  rcases grouped (by simp) supported with ⟨favourable, -⟩ | ⟨index, error, before, failed, sent, rest⟩
  · obtain ⟨results, same⟩ := favourable 0 (by simp)
    cases broken.symm.trans same
  · have first : index = 0 := by
      by_contra later
      obtain ⟨results, same⟩ := before 0 (Nat.pos_of_ne_zero later)
      cases broken.symm.trans same
    subst first
    cases broken.symm.trans failed
    exact ⟨sent, fun place within => rest place (by simp) within⟩

/-- A page of a query that goes on elsewhere. -/
def unfinishedPage : Response :=
  ⟨200, "\x7b\"done\":false,\"nextRecordsUrl\":\"/next\",\"records\":[]\x7d".toUTF8⟩

/-- The second page of a query cannot be had, which ends the query, but the deletion behind it is sent
and done although errors halt. -/
theorem failed_page_does_not_halt :
    let query : Plan := ⟨⟨.get, "query", none⟩, .queried default⟩
    let delete : Plan := ⟨⟨.delete, "a", none⟩, .written⟩
    let session : Session :=
      ⟨{ haltOnError := true, batching := false }, .ofConfig {},
        { answers := [.ok unfinishedPage, .error "connection reset", .ok ⟨204, .empty⟩] }⟩
    let executed := session.execute [query, delete]
    executed.2.channel.sent = [query.request, pageRequest "/next", delete.request] ∧
      executed.1 = [.completed (.error (.transport (.failed "connection reset"))),
        .completed (.ok .done)] := by
  intro query delete session executed
  let body := Json.ofMembers
    [("done", .bool false), ("nextRecordsUrl", .string "/next"), ("records", .array [])]
  have parsed : Json.parseBytes unfinishedPage.body = some body := by decide +kernel
  have shaped : QueryEnvelope.ofJson? body = some { nextRecordsUrl := some "/next" } := by
    decide +kernel
  -- The first answer is a page, the second a failure, and the third the end of a deletion.
  have first : Channel.reading (some (.ok unfinishedPage)) = .ok ⟨200, some body⟩ :=
    Channel.reading_of_parseBytes parsed 200
  have last : Channel.reading (some (.ok ⟨204, .empty⟩)) = .ok ⟨204, none⟩ :=
    Channel.reading_empty 204
  clear_value body
  have read : Completion.readBody QueryEnvelope.ofJson? ⟨200, some body⟩ =
      .ok { nextRecordsUrl := some "/next" } := Completion.readBody_of_shape rfl shaped
  -- Both requests are answered, and the failure belongs to a page that is asked for in between.
  let paged := (session.channel.passed query.request).passed (pageRequest "/next")
  have ended : query.completion.finish session.mapper.registry false
      (session.channel.passed query.request) ⟨200, some body⟩ =
        (.error (.transport (.failed "connection reset")), paged) :=
    Completion.finish_of_failed_page _ _ read rfl rfl rfl rfl
  have replied : Replied session.mapper.registry session.channel [query, delete]
      [.error (.transport (.failed "connection reset")), .ok .done] (paged.passed delete.request) :=
    .cons first ended (.cons last rfl (.nil _))
  have served := direct_of_replied true replied []
  have off : session.config.supportsBatching = false := rfl
  -- What is executed is a run of requests by themselves.
  have ran : run session.config session.mapper.registry session.channel [query, delete] =
      ([.error (.transport (.failed "connection reset")), .ok .done],
        (paged.passed delete.request).wait) := by
    rw [run_direct (by simp) (.inr off)]
    exact congrArg (fun ran => (ran.1, ran.2.wait)) served
  exact ⟨congrArg (fun ran => ran.2.sent) ran,
    congrArg (fun ran => ran.1.map Operation.completed) ran⟩

end Session

end RemoteRecords
