import RemoteRecords.Proofs.Batch.Halting

/-! Pages: where the links of a query are followed, nothing of it is lost, repeated or cut off. -/

namespace RemoteRecords

/-- Pages as one: the rows of all in order, the total of the first, and the end of the last. -/
def QueryEnvelope.joined (first : QueryEnvelope) (more : List QueryEnvelope) : QueryEnvelope where
  totalSize := first.totalSize
  done := (more.getLastD first).done
  records := first.records ++ more.flatMap (·.records)
  nextRecordsUrl := (more.getLastD first).nextRecordsUrl

/-- Pages are joined by extending the first one again and again. -/
theorem QueryEnvelope.joined_cons (first page : QueryEnvelope) (more : List QueryEnvelope) :
    first.joined (page :: more) = (first.extended page).joined more := by
  -- Where the extended page goes on and how it ends is that of the page behind it.
  cases more with
  | nil => simp [joined, extended]
  | cons next rest =>
    simp only [joined, extended, List.getLastD_cons, List.flatMap_cons, List.append_assoc]

/-- A page of records ends as the page of its rows does. -/
theorem QueryPage.ends_of_ofEnvelope {registry : Registry} {descriptor : Descriptor}
    {envelope : QueryEnvelope} {page : QueryPage}
    (read : ofEnvelope registry descriptor envelope = .ok page) :
    page.done = envelope.done ∧ page.nextRecordsUrl = envelope.nextRecordsUrl := by
  -- Reading the rows leaves everything else of the envelope as it is.
  obtain ⟨records, -, rest⟩ := exists_of_bind_eq_ok read
  cases rest
  exact ⟨rfl, rfl⟩

namespace Completion

/-- The pages behind a first one, and the links that lead to them: each page goes on at its link, and
the next answer is the page that comes after it. -/
inductive Paged : List (Except String Response) → QueryEnvelope → List String →
    List QueryEnvelope → Prop where
  | nil (answers : List (Except String Response)) (page : QueryEnvelope) : Paged answers page [] []
  | cons {answers : List (Except String Response)} {page next : QueryEnvelope} {link : String}
      {links : List String} {more : List QueryEnvelope}
      (linked : page.continuation? = some link) (answered : pageOf answers.head? = .ok next)
      (others : Paged answers.tail next links more) :
      Paged answers page (link :: links) (next :: more)

variable {answers : List (Except String Response)} {channel : Channel} {first : QueryEnvelope}
  {links : List String} {more : List QueryEnvelope}

/-- Whether there is an answer, a page that was read took one. -/
theorem lt_length_of_pageOf {place : Nat} {page : QueryEnvelope}
    (read : pageOf answers[place]? = .ok page) : place < answers.length := by
  -- Behind the last answer there is nothing to be read.
  by_contra beyond
  rw [List.getElem?_eq_none (Nat.le_of_not_lt beyond)] at read
  cases read

/-- Each page has its own link and its own answer. -/
theorem Paged.lengths (paged : Paged answers first links more) :
    links.length = more.length ∧ more.length ≤ answers.length := by
  -- Each step takes one link, one page and one answer.
  induction paged with
  | nil => simp
  | cons _ answered _ ih =>
    rw [List.head?_eq_getElem?] at answered
    have some := lt_length_of_pageOf answered
    simp only [List.length_tail] at ih
    simp only [List.length_cons]
    omega

/-- Only where a page goes on matters to what comes behind it. -/
theorem Paged.congr {page other : QueryEnvelope} (paged : Paged answers page links more)
    (alike : other.continuation? = page.continuation?) : Paged answers other links more := by
  -- The first page is asked for its continuation and for nothing else.
  cases paged with
  | nil => exact .nil _ _
  | cons linked answered others => exact .cons (alike.trans linked) answered others

/-- Pages that come in are joined to the first one, and following goes on from the last. -/
theorem Paged.followPages_eq (paged : Paged channel.answers first links more)
    (alone : channel.synchronous = true) :
    followPages false channel first =
      followPages false (channel.followed links) (first.joined more) := by
  -- The induction takes the pages in the order of their coming.
  induction more generalizing channel first links with
  | nil =>
    -- Without further pages nothing is followed.
    cases paged
    simp [Channel.followed, QueryEnvelope.joined]
  | cons page rest ih =>
    cases paged with
    | @cons _ _ _ link links _ linked answered others =>
      -- The page behind is found where the extended one goes on.
      have behind : Paged (channel.passed (pageRequest link)).answers (first.extended page) links
          rest := others.congr rfl
      rw [followPages_of_continuation alone linked, answered]
      show followPages false (channel.passed (pageRequest link)) (first.extended page) = _
      rw [ih behind alone, ← QueryEnvelope.joined_cons]
      simp [Channel.followed, Channel.passed]

/-- Where the last page comes in, the pages are collected. -/
theorem Paged.collects (paged : Paged channel.answers first links more)
    (alone : channel.synchronous = true) (ends : (more.getLastD first).continuation? = none) :
    followPages false channel first = (.ok (first.joined more), channel.followed links) := by
  -- The pages together go on where the last one does.
  have last : (first.joined more).continuation? = none := ends
  rw [paged.followPages_eq alone]
  exact followPages_of_last (QueryEnvelope.continuation?_eq_none_iff.mp last) false _

/-- Where a page cannot be had, its error is all that comes of the pages. -/
theorem Paged.breaks (paged : Paged channel.answers first links more)
    (alone : channel.synchronous = true) {next : String} {error : Error}
    (linked : (more.getLastD first).continuation? = some next)
    (failed : pageOf channel.answers[links.length]? = .error error) :
    followPages false channel first = (.error error, channel.followed (links ++ [next])) := by
  -- Following arrives at the last page that came in, and its link takes the answer that fails.
  have goesOn : (first.joined more).continuation? = some next := linked
  have answer : (channel.followed links).answers.head? = channel.answers[links.length]? := by
    simp [Channel.followed]
  have waits : (channel.followed links).synchronous = true := alone
  rw [paged.followPages_eq alone, followPages_of_continuation waits goesOn, answer, failed]
  simp [Channel.followed, Channel.passed]

/-- Pages come in until one is the last or cannot be had. -/
theorem exists_paged (answers : List (Except String Response)) (first : QueryEnvelope) :
    ∃ links more, Paged answers first links more ∧
      ((more.getLastD first).continuation? = none ∨ ∃ next error,
        (more.getLastD first).continuation? = some next ∧
          pageOf answers[links.length]? = .error error) := by
  -- Each page uses up an answer, so the induction is on the answers that are left.
  induction answers generalizing first with
  | nil =>
    -- Without an answer there is no page behind the first one.
    refine ⟨[], [], .nil _ _, ?_⟩
    cases linked : first.continuation? with
    | none => exact .inl linked
    | some next => exact .inr ⟨next, _, linked, rfl⟩
  | cons answer rest ih =>
    cases linked : first.continuation? with
    | none => exact ⟨[], [], .nil _ _, .inl linked⟩
    | some next =>
      cases read : pageOf (some answer) with
      | error error =>
        -- The page behind cannot be had.
        exact ⟨[], [], .nil _ _, .inr ⟨next, error, linked, read⟩⟩
      | ok page =>
        -- The page behind came in, and what is behind that is told from it.
        obtain ⟨links, more, paged, ends⟩ := ih page
        refine ⟨next :: links, page :: more, .cons linked read paged, ?_⟩
        simpa only [List.getLastD_cons, List.length_cons, List.getElem?_cons_succ] using ends

/-- Pages that were collected go on nowhere. -/
theorem continuation_of_followPages {batched : Bool} {envelope : QueryEnvelope}
    (collected : (followPages batched channel first).1 = .ok envelope) :
    envelope.continuation? = none := by
  -- The induction follows the pages as they are asked for.
  fun_induction followPages batched channel first with
  | case1 channel page finished =>
    cases collected
    exact QueryEnvelope.continuation?_eq_none_iff.mpr (.inl finished)
  | case2 channel page unfinished linked =>
    cases collected
    exact QueryEnvelope.continuation?_eq_none_iff.mpr (.inr linked)
  | case3 | case4 | case5 =>
    -- Following that fails collects nothing.
    cases collected
  | case6 channel page unfinished next linked alone reply after answered more read ih =>
    exact ih collected

/-- The rows of a query are read when its pages are there, and an error among the pages stands. -/
theorem finish_of_followPages (registry : Registry) (descriptor : Descriptor) {batched : Bool}
    {reply : Reply} {result : Except Error QueryEnvelope} {after : Channel}
    (read : readBody QueryEnvelope.ofJson? reply = .ok first)
    (followed : followPages batched channel first = (result, after)) :
    (queried descriptor).finish registry batched channel reply =
      ((result.bind (QueryPage.ofEnvelope registry descriptor)).map .page, after) := by
  -- A query reads its first page, follows the others and then reads the rows.
  simp only [finish, read, followed]
  cases result with
  | error error => rfl
  | ok envelope => rfl

/-- What a query in a batch makes of a first page that goes on. -/
theorem finish_of_linked (registry : Registry) (descriptor : Descriptor) {reply : Reply}
    {next : String} (read : readBody QueryEnvelope.ofJson? reply = .ok first)
    (linked : first.continuation? = some next) :
    ((queried descriptor).finish registry true {} reply).1 =
      .error (.tooManyRows (.resultContinues next)) := by
  -- In a batch the pages of a query are refused, whatever the channel.
  obtain ⟨unfinished, link⟩ := QueryEnvelope.continuation?_eq_some_iff.mp linked
  have refused : followPages true {} first =
      (.error (.tooManyRows (.resultContinues next)), {}) :=
    followPages_of_linked (by simp [unfinished]) link rfl
  rw [finish_of_followPages registry descriptor read refused]
  rfl

/-- A page that is the outcome of an operation goes on nowhere. -/
theorem nextRecordsUrl_of_finish {registry : Registry} {batched : Bool} {reply : Reply}
    {completion : Completion} {page : QueryPage}
    (finished : (completion.finish registry batched channel reply).1 = .ok (.page page))
    (unfinished : page.done = false) : page.nextRecordsUrl = none := by
  -- Of all outcomes only that of a query is a page.
  cases completion with
  | queried descriptor =>
    simp only [finish] at finished
    split at finished
    · cases finished
    · rename_i first read
      split at finished
      · cases finished
      · rename_i envelope after followed
        -- The page ends as the pages do of which it was made.
        have last := continuation_of_followPages (congrArg Prod.fst followed)
        obtain ⟨page, read, same⟩ := map_eq_ok_iff.mp finished
        cases same
        obtain ⟨done, next⟩ := QueryPage.ends_of_ofEnvelope read
        rw [next]
        refine (QueryEnvelope.continuation?_eq_none_iff.mp last).resolve_left ?_
        rw [← done, unfinished]
        exact Bool.false_ne_true
  | created | fetched | written | upserted =>
    -- None of these outcomes is a page.
    obtain ⟨_, -, same⟩ := map_eq_ok_iff.mp finished
    cases same

end Completion

namespace Execution

variable {registry : Registry} {haltOnError : Bool} {channel next : Channel} {ahead : List Plan}
  {outcomes : Outcomes}

/-- Operations change nothing about how a channel answers. -/
theorem Served.synchronous (served : Served registry haltOnError channel ahead outcomes next) :
    next.synchronous = channel.synchronous := by
  -- Whether answers are waited for is settled when a channel is made.
  induction served with
  | nil => rfl
  | @replied channel next _ plan _ reply outcome _ answered completed _ ih =>
    -- A completion only follows links.
    obtain ⟨links, left, -⟩ := Completion.follows_finish registry false
      (channel.passed plan.request) reply plan.completion
    rw [completed] at left
    rw [ih, show next = _ from left]
    rfl
  | failed _ _ _ ih => exact ih

/-- An operation of a round trip that was answered is completed with the result at its place. -/
theorem Settled.eq_of_answered {verdicts : List (Except Error (List BatchResult))}
    {trip place : Nat} {plan : Plan} {outcome : Except Error Outcome}
    (settled : Settled registry haltOnError verdicts trip place plan outcome)
    {results : List BatchResult} {result : BatchResult}
    (reached : ∀ error, ¬Halted haltOnError verdicts trip error)
    (favourable : verdicts[trip]? = some (.ok results)) (held : results[place]? = some result) :
    outcome = (plan.completion.finish registry true {} ⟨result.status, result.result⟩).1 := by
  -- The round trip is neither halted nor failed, so the operation is settled by a result.
  cases settled with
  | answered _ favourable' held' =>
    -- There is one verdict on the round trip and one result at the place.
    cases favourable.symm.trans favourable'
    cases held.symm.trans held'
    rfl
  | failed _ unfavourable => cases favourable.symm.trans unfavourable
  | halted stopped => exact absurd stopped (reached _)

/-- An operation is reached unless an error of one ahead of it halts. -/
theorem served_or_halted (registry : Registry) (haltOnError : Bool) (channel : Channel)
    (ahead : List Plan) (plan : Plan) (behind : List Plan) :
    (∃ outcomes next, Served registry haltOnError channel ahead outcomes next) ∨
      ∃ error, haltOnError = true ∧
        (direct registry haltOnError none channel (ahead ++ plan :: behind)).1[ahead.length]? =
          some (.error error) := by
  -- The operations ahead are taken one by one, each on the channel that the last one left.
  induction ahead generalizing channel with
  | nil => exact .inl ⟨[], channel, .nil channel⟩
  | cons first rest ih =>
    cases answered : Channel.reading channel.answers.head? with
    | ok reply =>
      -- An operation that is answered is reached, and it never halts anything.
      cases completed : first.completion.finish registry false (channel.passed first.request)
          reply with
      | mk outcome next =>
        rcases ih next with ⟨outcomes, after, served⟩ | ⟨error, halts, failed⟩
        · exact .inl ⟨_, after, .replied answered completed served⟩
        · refine .inr ⟨error, halts, ?_⟩
          rw [List.cons_append, direct, Channel.exchange_eq, answered]
          simpa [completed] using failed
    | error error =>
      cases haltOnError with
      | true =>
        -- The error is that of everything from here on.
        refine .inr ⟨error, rfl, ?_⟩
        rw [List.cons_append, direct_of_failure answered]
        simp
      | false =>
        -- Where errors do not halt, the operation fails by itself.
        rcases ih (channel.passed first.request) with ⟨outcomes, after, served⟩ | ⟨_, halts, -⟩
        · exact .inl ⟨_, after, .failed rfl answered served⟩
        · cases halts

/-- Where no request can wait for its answer, those of the operations are the only ones. -/
theorem sent_direct_of_asynchronous (registry : Registry) (haltOnError : Bool)
    (halted : Option Error) {channel : Channel} (detached : channel.synchronous = false)
    (plans : List Plan) :
    ∃ count, (direct registry haltOnError halted channel plans).2.sent =
      channel.sent ++ (plans.take count).map (·.request) := by
  -- Every operation sends its own request, and its completion sends nothing.
  induction plans generalizing halted channel with
  | nil => exact ⟨0, by simp [direct]⟩
  | cons plan rest ih =>
    have passed : (channel.passed plan.request).synchronous = false := detached
    cases halted with
    | some error =>
      -- Once halted, nothing is sent.
      exact ⟨0, by rw [direct_of_halted]; simp⟩
    | none =>
      rw [direct, Channel.exchange_eq]
      cases answered : Channel.reading channel.answers.head? with
      | ok reply =>
        have refused : (false || !(channel.passed plan.request).synchronous) = true := by
          rw [passed]
          rfl
        have alone := Completion.finish_snd_of_refused registry refused reply plan.completion
        obtain ⟨count, sent⟩ := ih none passed
        refine ⟨count + 1, ?_⟩
        simp only [alone, sent]
        simp [Channel.passed]
      | error error =>
        -- The request has gone out, whatever became of it.
        obtain ⟨count, sent⟩ := ih (if haltOnError then some error else none) passed
        refine ⟨count + 1, ?_⟩
        simp only [sent]
        simp [Channel.passed]

end Execution

namespace Session

open Execution Completion

/-- A batch comes to outcomes for some of its operations and leaves a channel, on which those behind
are executed. -/
def Resumes (session : Session) (batch : Batch) (outcomes : Outcomes) (channel : Channel)
    (behind : List Plan) : Prop :=
  let rest := direct session.mapper.registry session.config.haltOnError none channel behind
  (session.execute batch).1 = (outcomes ++ rest.1).map .completed ∧
    (session.execute batch).2.channel = rest.2.wait

variable {session : Session} {ahead behind : List Plan} {plan : Plan} {outcomes : Outcomes}
  {channel : Channel}

/-- An operation that is sent by itself is reached, or it fails with an error ahead of it that
halts. -/
theorem served_or_failed
    (unbatched : (ahead ++ plan :: behind).length ≤ 1 ∨ session.config.supportsBatching = false) :
    (∃ outcomes channel, Served session.mapper.registry session.config.haltOnError session.channel
        ahead outcomes channel) ∨
      ∃ error, session.config.haltOnError = true ∧
        (session.execute (ahead ++ plan :: behind)).1[ahead.length]? =
          some (.completed (.error error)) := by
  -- Execution is a run of requests by themselves, of which the same is said.
  refine (served_or_halted session.mapper.registry session.config.haltOnError session.channel ahead
    plan behind).imp_right ?_
  rintro ⟨error, halting, failed⟩
  refine ⟨error, halting, ?_⟩
  simp only [execute, run_direct (by simp) unbatched, List.getElem?_map, failed]
  rfl

/-- What goes out of a session without an answer to wait for are requests of its operations. -/
theorem sent_execute_of_asynchronous {batch : Batch}
    (unbatched : batch.length ≤ 1 ∨ session.config.supportsBatching = false)
    (detached : session.channel.synchronous = false) :
    ∃ count, (session.execute batch).2.channel.sent =
      session.channel.sent ++ (batch.take count).map (·.request) := by
  -- The operations go out by themselves, or there are none.
  by_cases filled : batch = []
  · subst filled
    exact ⟨0, by simp [execute, run]⟩
  · obtain ⟨count, sent⟩ := sent_direct_of_asynchronous session.mapper.registry
      session.config.haltOnError none detached batch
    refine ⟨count, ?_⟩
    simp only [execute, run_direct filled unbatched]
    exact sent

/-- An operation of a round trip that is reached and answered comes to what its completion makes of
the result at its place. -/
theorem getElem?_execute_of_result {batch : Batch} (several : 2 ≤ batch.length)
    (supported : session.config.supportsBatching = true) {place : Nat}
    (held : batch[place]? = some plan) {results : List BatchResult} {result : BatchResult}
    (reached : ∀ error, ¬Halted session.config.haltOnError (verdicts session.channel.answers
      (roundTrips session.config.effectiveBatchLimit batch))
      (place / session.config.effectiveBatchLimit) error)
    (favourable : (verdicts session.channel.answers
      (roundTrips session.config.effectiveBatchLimit batch))[
        place / session.config.effectiveBatchLimit]? = some (.ok results))
    (own : results[place % session.config.effectiveBatchLimit]? = some result) :
    (session.execute batch).1[place]? = some (.completed
      (plan.completion.finish session.mapper.registry true {}
        ⟨result.status, result.result⟩).1) := by
  -- The operation is settled at its own place, and there is one way left in which it can be.
  obtain ⟨-, outcome, -, -, completed, settled⟩ := run_settles several supported
    session.mapper.registry session.channel held
  have same := settled.eq_of_answered reached favourable own
  simp only [execute, List.getElem?_map, completed, same]
  rfl

/-- A page that is an outcome goes on nowhere. -/
theorem nextRecordsUrl_of_execute {batch : Batch} {place : Nat} {page : QueryPage}
    (completed : (session.execute batch).1[place]? = some (.completed (.ok (.page page))))
    (unfinished : page.done = false) : page.nextRecordsUrl = none := by
  -- An outcome that is a page was made by a completion.
  have each := run_completes session.config session.mapper.registry session.channel batch
  have found : .ok (.page page) ∈
      (run session.config session.mapper.registry session.channel batch).1 := by
    obtain ⟨outcome, among, same⟩ := List.mem_map.mp (List.mem_of_getElem? completed)
    cases same
    exact among
  -- It belongs to an operation, whose outcome is a failure or made of a reply.
  obtain ⟨plan, -, -, ⟨error, failed⟩ | ⟨batched, channel, reply, finished⟩⟩ :=
    exists_left_of_forall₂ each found
  · cases failed
  · exact nextRecordsUrl_of_finish finished.symm unfinished

/-- A query is reached: the operations ahead of it have outcomes, and the answer to its request on the
channel that they leave is its first page. -/
structure Opens (session : Session) (ahead : List Plan) (query : Plan) (descriptor : Descriptor)
    (outcomes : Outcomes) (channel : Channel) (first : QueryEnvelope) : Prop where
  queried : query.completion = .queried descriptor
  served : Served session.mapper.registry session.config.haltOnError session.channel ahead outcomes
    channel
  page : pageOf channel.answers.head? = .ok first

/-- A query asks for the pages behind its first one at their links, one after the other and for nothing
else, and the operations behind it are executed on the channel that is left. -/
structure Collects (session : Session) (batch : Batch) (descriptor : Descriptor)
    (outcomes : Outcomes) (channel : Channel) (first : QueryEnvelope) (behind : List Plan) :
    Prop where
  /-- The outcome has the rows of all pages in order, the total of the first and the end of the
  last. -/
  whole : ∀ links more, Paged channel.answers first links more →
    (more.getLastD first).continuation? = none →
    session.Resumes batch
      (outcomes ++ [(QueryPage.ofEnvelope session.mapper.registry descriptor
        (first.joined more)).map .page])
      (channel.followed links) behind
  /-- If a page cannot be had, its error is the outcome. -/
  broken : ∀ links more next error, Paged channel.answers first links more →
    (more.getLastD first).continuation? = some next →
    pageOf channel.answers[links.length]? = .error error →
    session.Resumes batch (outcomes ++ [.error error]) (channel.followed (links ++ [next])) behind
  /-- It comes to one or the other, with at most one more page asked for than there are answers. -/
  ends : ∃ links more, Paged channel.answers first links more ∧
    links.length ≤ channel.answers.length ∧
    ((more.getLastD first).continuation? = none ∨ ∃ next error,
      (more.getLastD first).continuation? = some next ∧
        pageOf channel.answers[links.length]? = .error error)

/-- A first page that goes on is too much, and no page behind it is asked for. -/
def Refuses (session : Session) (batch : Batch) (outcomes : Outcomes) (channel : Channel)
    (first : QueryEnvelope) (behind : List Plan) : Prop :=
  ∀ next, first.continuation? = some next →
    session.Resumes batch (outcomes ++ [.error (.tooManyRows (.resultContinues next))]) channel
      behind

/-- The pages of queries that are sent by themselves. -/
structure DirectPages (session : Session) (batch : Batch) : Prop where
  /-- Every operation is reached, unless an error of one ahead of it halts. -/
  reached : ∀ ahead plan behind, batch = ahead ++ plan :: behind →
    (∃ outcomes channel, Served session.mapper.registry session.config.haltOnError session.channel
        ahead outcomes channel) ∨
      ∃ error, session.config.haltOnError = true ∧
        (session.execute batch).1[ahead.length]? = some (.completed (.error error))
  /-- Where answers can be waited for, the pages are collected. -/
  collected : session.channel.synchronous = true →
    ∀ ahead query behind descriptor outcomes channel first, batch = ahead ++ query :: behind →
      session.Opens ahead query descriptor outcomes channel first →
      session.Collects batch descriptor outcomes (channel.passed query.request) first behind
  /-- Elsewhere a first page that goes on is refused. -/
  refused : session.channel.synchronous = false →
    ∀ ahead query behind descriptor outcomes channel first, batch = ahead ++ query :: behind →
      session.Opens ahead query descriptor outcomes channel first →
      session.Refuses batch outcomes (channel.passed query.request) first behind
  /-- There the requests of the operations are all that is sent. -/
  sent : session.channel.synchronous = false → ∃ count,
    (session.execute batch).2.channel.sent =
      session.channel.sent ++ (batch.take count).map (·.request)

/-- An operation of a round trip is reached and answered by the result at its place. -/
structure Replies (session : Session) (batch : Batch) (place : Nat) (plan : Plan)
    (result : BatchResult) : Prop where
  held : batch[place]? = some plan
  reached : ∀ error, ¬Halted session.config.haltOnError
    (verdicts session.channel.answers (roundTrips session.config.effectiveBatchLimit batch))
    (place / session.config.effectiveBatchLimit) error
  answered : ∃ results,
    (verdicts session.channel.answers (roundTrips session.config.effectiveBatchLimit batch))[
      place / session.config.effectiveBatchLimit]? = some (.ok results) ∧
    results[place % session.config.effectiveBatchLimit]? = some result

/-- The pages of queries that are sent in round trips. -/
structure BatchedPages (session : Session) (batch : Batch) : Prop where
  /-- The requests of the round trips are all that is sent. -/
  sent : ∃ count, (session.execute batch).2.channel.sent = session.channel.sent ++
    ((roundTrips session.config.effectiveBatchLimit batch).take count).map
      (tripRequest session.paths session.config.haltOnError)
  /-- A first page that goes on is too much. -/
  refused : ∀ place query descriptor result first next,
    session.Replies batch place query result → query.completion = .queried descriptor →
    readBody QueryEnvelope.ofJson? ⟨result.status, result.result⟩ = .ok first →
    first.continuation? = some next →
    (session.execute batch).1[place]? =
      some (.completed (.error (.tooManyRows (.resultContinues next))))

/-- A query that is reached has the outcome that its pages come to, and the operations behind it are
executed on the channel that is left. -/
theorem Opens.resumes {first : QueryEnvelope} {descriptor : Descriptor}
    (unbatched : (ahead ++ plan :: behind).length ≤ 1 ∨ session.config.supportsBatching = false)
    (opens : session.Opens ahead plan descriptor outcomes channel first)
    {result : Except Error QueryEnvelope} {after : Channel}
    (followed : followPages false (channel.passed plan.request) first = (result, after)) :
    session.Resumes (ahead ++ plan :: behind)
      (outcomes ++ [(result.bind (QueryPage.ofEnvelope session.mapper.registry descriptor)).map
        .page]) after behind := by
  -- A page was read of a reply, so the request was answered with one.
  obtain ⟨reply, answered, read⟩ := exists_of_bind_eq_ok opens.page
  have completed := finish_of_followPages session.mapper.registry descriptor read followed
  -- The operations ahead are settled, the query comes to its pages, and the others follow.
  have ran : run session.config session.mapper.registry session.channel (ahead ++ plan :: behind) =
      let rest := direct session.mapper.registry session.config.haltOnError none after behind
      (outcomes ++ ((result.bind (QueryPage.ofEnvelope session.mapper.registry descriptor)).map
        .page) :: rest.1, rest.2.wait) := by
    rw [run_direct (by simp) unbatched]
    simp only [direct_of_served opens.served, direct, Channel.exchange_eq, answered,
      opens.queried, completed]
  simp only [Resumes, execute, ran, List.append_assoc, List.singleton_append]
  trivial

/-- Where answers can be waited for, a query that is reached collects its pages. -/
theorem Opens.collects {first : QueryEnvelope} {descriptor : Descriptor}
    (unbatched : (ahead ++ plan :: behind).length ≤ 1 ∨ session.config.supportsBatching = false)
    (alone : session.channel.synchronous = true)
    (opens : session.Opens ahead plan descriptor outcomes channel first) :
    session.Collects (ahead ++ plan :: behind) descriptor outcomes (channel.passed plan.request)
      first behind := by
  -- A channel that waits for answers does so for each of its operations.
  have waits : (channel.passed plan.request).synchronous = true :=
    opens.served.synchronous.trans alone
  refine ⟨?_, ?_, ?_⟩
  · intro links more paged finished
    exact opens.resumes unbatched (paged.collects waits finished)
  · intro links more next error paged linked failed
    exact opens.resumes unbatched (paged.breaks waits linked failed)
  · -- Each link has taken an answer, and the page that ends it all takes one more at most.
    obtain ⟨links, more, paged, stops⟩ := exists_paged (channel.passed plan.request).answers first
    obtain ⟨own, within⟩ := paged.lengths
    exact ⟨links, more, paged, own ▸ within, stops⟩

/-- Where no answer can be waited for, a query that is reached refuses a first page that goes on. -/
theorem Opens.refuses {first : QueryEnvelope} {descriptor : Descriptor}
    (unbatched : (ahead ++ plan :: behind).length ≤ 1 ∨ session.config.supportsBatching = false)
    (detached : session.channel.synchronous = false)
    (opens : session.Opens ahead plan descriptor outcomes channel first) :
    session.Refuses (ahead ++ plan :: behind) outcomes (channel.passed plan.request) first
      behind := by
  intro next linked
  -- The link is looked at and refused before anything is asked for.
  have refused : (false || !(channel.passed plan.request).synchronous) = true := by
    rw [show (channel.passed plan.request).synchronous = false from
      opens.served.synchronous.trans detached]
    rfl
  obtain ⟨unfinished, link⟩ := QueryEnvelope.continuation?_eq_some_iff.mp linked
  exact opens.resumes unbatched (followPages_of_linked (by simp [unfinished]) link refused)

/-- What the completion of an operation makes of its result in a round trip is its outcome. -/
theorem Replies.getElem?_execute {batch : Batch} {place : Nat} {result : BatchResult}
    (replies : session.Replies batch place plan result) (several : 2 ≤ batch.length)
    (supported : session.config.supportsBatching = true) :
    (session.execute batch).1[place]? = some (.completed
      (plan.completion.finish session.mapper.registry true {}
        ⟨result.status, result.result⟩).1) := by
  -- The verdict on the round trip and the result in it are those that the reply names.
  obtain ⟨results, favourable, own⟩ := replies.answered
  exact getElem?_execute_of_result several supported replies.held replies.reached favourable own

/-- Following the pages of a query loses, repeats and cuts off nothing where its requests go out by
themselves, and nothing is followed in round trips. So no page that is an outcome goes on. -/
theorem queries_collect_pages (session : Session) (batch : Batch) :
    (batch.length ≤ 1 ∨ session.config.supportsBatching = false → session.DirectPages batch) ∧
    (2 ≤ batch.length → session.config.supportsBatching = true → session.BatchedPages batch) ∧
    ∀ (place : Nat) (page : QueryPage),
      (session.execute batch).1[place]? = some (.completed (.ok (.page page))) →
      page.done = false → page.nextRecordsUrl = none := by
  -- Both ways of sending are laws of their own, and the last one holds whichever was taken.
  refine ⟨fun unbatched => ?_, fun several supported => ?_,
    fun place page => nextRecordsUrl_of_execute⟩
  · -- Each law of the direct way is about one query at a place of the batch.
    refine ⟨?_, ?_, ?_, sent_execute_of_asynchronous unbatched⟩
    · rintro ahead plan behind rfl
      exact served_or_failed unbatched
    · rintro alone ahead query behind descriptor outcomes channel first rfl opens
      exact opens.collects unbatched alone
    · rintro detached ahead query behind descriptor outcomes channel first rfl opens
      exact opens.refuses unbatched detached
  · -- Round trips go out until one halts, and each completion sees a channel that never waits.
    refine ⟨⟨dispatched session.config.haltOnError (verdicts session.channel.answers
      (roundTrips session.config.effectiveBatchLimit batch)), ?_⟩, ?_⟩
    · simp only [execute, run_batched several supported]
      rfl
    · intro place query descriptor result first next replies queried read linked
      rw [replies.getElem?_execute several supported, queried,
        finish_of_linked session.mapper.registry descriptor read linked]

/-- A response of success whose body has the shape of a page is that page. -/
theorem page_of_parseBytes {bytes : ByteArray} {body : Json} {page : QueryEnvelope}
    (parsed : Json.parseBytes bytes = some body) (shaped : QueryEnvelope.ofJson? body = some page) :
    pageOf (some (.ok ⟨200, bytes⟩)) = .ok page := by
  -- The response is read as a reply of success, whose body then has to have the shape.
  rw [pageOf, Channel.reading_of_parseBytes parsed 200]
  show readBody QueryEnvelope.ofJson? ⟨200, some body⟩ = .ok page
  exact readBody_of_shape rfl shaped

/-- The first of two pages of a query, with a row and a link to the other page. -/
def pageThatGoesOn : Response :=
  ⟨200, ("\x7b\"done\":false,\"nextRecordsUrl\":\"/services/data/v58.0/query/2\"," ++
    "\"records\":[\x7b\x7d]\x7d").toUTF8⟩

/-- The other page, with another row. -/
def pageThatEnds : Response := ⟨200, "\x7b\"done\":true,\"records\":[\x7b\x7d]\x7d".toUTF8⟩

/-- Both rows of a query in two pages are found, and the second page is asked for at its link. -/
theorem queries_collect_pages_two :
    let query : Plan := ⟨⟨.get, "query", none⟩, .queried default⟩
    let session : Session :=
      ⟨{ batching := false }, .ofConfig {},
        { answers := [.ok pageThatGoesOn, .ok pageThatEnds] }⟩
    let executed := session.execute [query]
    executed.2.channel.sent = [query.request, ⟨.get, "v58.0/query/2", none⟩] ∧
      executed.1 = [.completed (.ok (.page
        { totalSize := 0, done := true, records := [.object [], .object []]
          nextRecordsUrl := none }))] := by
  intro query session executed
  -- Each of the two bodies is read as the page that it spells.
  have read := @page_of_parseBytes pageThatGoesOn.body
    (Json.ofMembers [("done", .bool false),
      ("nextRecordsUrl", .string "/services/data/v58.0/query/2"), ("records", .array [.object []])])
    { records := [.object []], nextRecordsUrl := some "/services/data/v58.0/query/2" }
    (by decide +kernel) (by decide +kernel)
  have read' := @page_of_parseBytes pageThatEnds.body
    (Json.ofMembers [("done", .bool true), ("records", .array [.object []])])
    { done := true, records := [.object []] } (by decide +kernel) (by decide +kernel)
  -- The query is the only operation, so it is reached at once.
  obtain ⟨unbatched, -⟩ := queries_collect_pages session [query]
  have opens : session.Opens [] query default [] session.channel
      { records := [.object []], nextRecordsUrl := some "/services/data/v58.0/query/2" } :=
    ⟨rfl, .nil _, read⟩
  -- The first page goes on to the second, which is the last.
  have collects := (unbatched (.inl (by simp))).collected rfl [] query [] default [] session.channel _
    rfl opens
  have resumed := collects.whole _ _ (.cons rfl read' (.nil _ _)) rfl
  -- A row without fields is a record without members.
  have row : Payload.decode session.mapper.registry default (.object []) = .ok (.object []) := by
    rw [Payload.decode, Payload.read]
    rfl
  simp only [QueryPage.ofEnvelope, QueryEnvelope.joined, List.flatMap_cons, List.flatMap_nil,
    List.append_nil, List.singleton_append, List.mapM_cons, List.mapM_nil, row, Resumes,
    direct] at resumed
  obtain ⟨operations, channel⟩ := resumed
  refine ⟨?_, operations⟩
  show (session.execute [query]).2.channel.sent = _
  rw [channel]
  -- The request for the second page goes to the link, below the root of the session.
  have path : Paths.relative "/services/data/v58.0/query/2" = "v58.0/query/2" := by decide +kernel
  simp [session, query, Channel.followed, Channel.passed, Channel.wait, pageRequest, path]

end Session

end RemoteRecords
