import RemoteRecords.Proofs.Batch.Halting
import RemoteRecords.Proofs.Batch.Plans
import RemoteRecords.Proofs.Query.Listing

/-! Versions: how an API version is written does not show in paths, but it decides what goes out in
batches. -/

namespace RemoteRecords

/-- A text that begins with a `v` writes no number. -/
theorem VersionNumber.ofText?_letter (text : String) : ofText? ("v" ++ text) = none := by
  have letters : ("v" ++ text).toList = 'v' :: text.toList := by simp
  -- Neither a digit nor a point comes first, and no word for a number begins with the letter.
  have digits : ofDigits? false ('v' :: text.toList) = none := by
    simp [ofDigits?, Literal.digits]
  have words (word : String) (other : word.toList.head? ≠ some 'v') :
      String.ofList (('v' :: text.toList).map Char.toLower) ≠ word := by
    rintro rfl
    simp at other
  have word : ofWord? false ('v' :: text.toList) = none := by
    rw [ofWord?, if_neg, if_neg (words "nan" (by decide))]
    rintro (same | same)
    · exact words "inf" (by decide) same
    · exact words "infinity" (by decide) same
  -- The letter is no sign either, so it is read as the first of the number itself.
  rw [ofText?, letters]
  simp [digits, word]

/-- A leading `v` makes no difference to paths. -/
theorem Paths.ofVersion_letter (version : String) :
    ofVersion ("v" ++ version) = ofVersion version := by
  -- Leading letters are dropped before one is put in front.
  simp [ofVersion]

namespace ClientConfig

/-- The same options with a `v` before the version. -/
def lettered (config : ClientConfig) : ClientConfig :=
  { config with apiVersion := "v" ++ config.apiVersion }

/-- The same options with batches off. -/
def unbatched (config : ClientConfig) : ClientConfig :=
  { config with batching := false }

/-- Options that lead to the same paths and stop alike at an error. -/
structure SendsAlike (config other : ClientConfig) : Prop where
  paths : Paths.ofVersion config.apiVersion = Paths.ofVersion other.apiVersion
  haltOnError : config.haltOnError = other.haltOnError

/-- A version with a `v` accepts no batches. -/
theorem supportsBatching_lettered (config : ClientConfig) :
    config.lettered.supportsBatching = false := by
  -- What is no number cannot be large enough.
  simp [supportsBatching, lettered, VersionNumber.ofText?_letter]

/-- With batches off none is accepted. -/
theorem supportsBatching_unbatched (config : ClientConfig) :
    config.unbatched.supportsBatching = false := by
  -- The option is asked before the version.
  simp [supportsBatching, unbatched]

/-- A leading `v` changes neither the paths nor the halting. -/
theorem sendsAlike_lettered (config : ClientConfig) : config.lettered.SendsAlike config where
  paths := Paths.ofVersion_letter config.apiVersion
  haltOnError := rfl

end ClientConfig

namespace Execution

open List

variable {config other : ClientConfig} {plans : List Plan}

/-- What went out stays on record when an operation is completed. -/
theorem sent_prefix_finish (registry : Registry) (batched : Bool) (channel : Channel)
    (reply : Reply) (completion : Completion) :
    channel.sent <+: (completion.finish registry batched channel reply).2.sent := by
  -- Only following pages sends anything, and it adds to what is there.
  obtain ⟨links, left, -⟩ := Completion.follows_finish registry batched channel reply completion
  rw [left]
  exact prefix_append _ _

/-- What went out stays on record when operations are sent one by one. -/
theorem sent_prefix_direct (registry : Registry) (haltOnError : Bool) (halted : Option Error)
    (channel : Channel) (plans : List Plan) :
    channel.sent <+: (direct registry haltOnError halted channel plans).2.sent := by
  -- Each operation hands on a channel with more on record, or the same one once errors have halted.
  induction plans generalizing halted channel with
  | nil => exact prefix_rfl
  | cons plan rest ih =>
    cases halted with
    | some error =>
      -- Once halted, nothing is sent any more.
      simp only [direct_of_halted, prefix_rfl]
    | none =>
      -- Whatever is answered, the request is on record first.
      have noted : channel.sent <+: (channel.passed plan.request).sent := prefix_append _ _
      rw [direct, Channel.exchange_eq]
      cases Channel.reading channel.answers.head? with
      | ok reply =>
        exact noted.trans ((sent_prefix_finish _ _ _ _ _).trans (ih none _))
      | error error => exact noted.trans (ih _ _)

/-- The first operation that is sent by itself goes out before anything else. -/
theorem sent_prefix_direct_cons (registry : Registry) (haltOnError : Bool) (channel : Channel)
    (plan : Plan) (rest : List Plan) :
    channel.sent ++ [plan.request] <+:
      (direct registry haltOnError none channel (plan :: rest)).2.sent := by
  -- With no error so far the request goes out, and the rest only adds to it.
  rw [direct, Channel.exchange_eq]
  cases Channel.reading channel.answers.head? with
  | ok reply =>
    exact (sent_prefix_finish registry false (channel.passed plan.request) reply
      plan.completion).trans (sent_prefix_direct ..)
  | error error =>
    exact sent_prefix_direct registry haltOnError _ (channel.passed plan.request) rest

/-- The first round trip goes out before anything else, whatever becomes of it. -/
theorem sent_prefix_trips_cons (paths : Paths) (haltOnError : Bool)
    (answers : List (Except String Response)) (sent : List SubRequest) (trip : List Plan)
    (trips : List (List Plan)) :
    sent ++ [tripRequest paths haltOnError trip] <+:
      sent ++ ((trip :: trips).take (dispatched haltOnError (verdicts answers (trip :: trips)))).map
        (tripRequest paths haltOnError) := by
  -- Nothing can halt the first round trip, so at least one goes out.
  obtain ⟨count, going⟩ : ∃ count,
      dispatched haltOnError (verdicts answers (trip :: trips)) = count + 1 := by
    rw [verdicts]
    cases verdict trip.length answers.head? with
    | ok results => exact ⟨_, rfl⟩
    | error error => cases haltOnError <;> exact ⟨_, rfl⟩
  -- So the first request is the first of those that went out.
  rw [going, take_succ_cons, map_cons]
  exact ⟨_, (append_cons _ _ _).symm⟩

/-- Several operations go out in a first batch where these are accepted, before anything else. -/
theorem sent_prefix_run_batched (several : 2 ≤ plans.length)
    (supported : config.supportsBatching = true) (registry : Registry) (channel : Channel) :
    ∃ trip, channel.sent ++
        [tripRequest (Paths.ofVersion config.apiVersion) config.haltOnError trip] <+:
      (run config registry channel plans).2.sent := by
  -- Several operations make at least one round trip.
  rw [run_batched several supported]
  cases plans with
  | nil => simp at several
  | cons first rest =>
    simp only [roundTrips]
    exact ⟨_, sent_prefix_trips_cons ..⟩

/-- The first operation goes out by itself where batches are not accepted, before anything else. -/
theorem sent_prefix_run_direct (single : config.supportsBatching = false) (registry : Registry)
    (channel : Channel) (plan : Plan) (rest : List Plan) :
    channel.sent ++ [plan.request] <+: (run config registry channel (plan :: rest)).2.sent := by
  -- Where batches are not accepted, a list with an operation in it is sent one by one.
  rw [run_direct (cons_ne_nil _ _) (.inr single)]
  exact sent_prefix_direct_cons ..

/-- What went out stays on record when operations are executed. -/
theorem sent_prefix_run (config : ClientConfig) (registry : Registry) (channel : Channel)
    (plans : List Plan) : channel.sent <+: (run config registry channel plans).2.sent := by
  -- Operations go out in batches, by themselves, or there are none.
  by_cases grouped : 2 ≤ plans.length ∧ config.supportsBatching = true
  · obtain ⟨trip, ahead⟩ := sent_prefix_run_batched grouped.1 grouped.2 registry channel
    exact (prefix_append _ _).trans ahead
  · by_cases filled : plans = []
    · subst filled
      exact prefix_rfl
    · rw [run_direct filled (by grind)]
      exact sent_prefix_direct ..

/-- Where no batch is made of them, operations are executed alike under options that send alike. -/
theorem run_eq_of_sendsAlike (alike : config.SendsAlike other)
    (alone : plans.length ≤ 1 ∨
      (config.supportsBatching = false ∧ other.supportsBatching = false))
    (registry : Registry) (channel : Channel) :
    run config registry channel plans = run other registry channel plans := by
  -- One by one, of all the options only that for halting is asked.
  by_cases filled : plans = []
  · subst filled
    rfl
  · rw [run_direct filled (alone.imp_right And.left), run_direct filled (alone.imp_right And.right),
      alike.haltOnError]

end Execution

namespace Session

variable {session : Session} {config : ClientConfig}

/-- The same session with other options. -/
def withConfig (session : Session) (config : ClientConfig) : Session :=
  { session with config }

/-- An operation that can be planned is the last one of its batch, and another one is not in it.
Either way nothing of the session changes but its mapper. -/
theorem submit_cases (session : Session) (catalog : Catalog) (typeName : String) (call : Call)
    (batch : Batch) :
    ∃ mapper : Mapper,
      (∃ plan,
        ((Plan.ofCall session.paths catalog typeName call).run.run session.mapper).1 = .ok plan ∧
        session.submit catalog typeName call batch =
          (.ok (batch ++ [plan]), { session with mapper })) ∨
      ∃ error, session.submit catalog typeName call batch =
        (.error error, { session with mapper }) := by
  -- Planning works on the mapper alone, and its answer decides what becomes of the batch.
  simp only [submit, onMapper]
  obtain ⟨answer, mapper⟩ :=
    (Plan.ofCall session.paths catalog typeName call).run.run session.mapper
  refine ⟨mapper, ?_⟩
  cases answer with
  | ok plan => exact .inl ⟨plan, rfl, rfl⟩
  | error error => exact .inr ⟨error, rfl⟩

/-- Submission depends on no option but the version, and on that only through the paths. -/
theorem submit_withConfig (alike : config.SendsAlike session.config) (catalog : Catalog)
    (typeName : String) (call : Call) (batch : Batch) :
    (session.withConfig config).submit catalog typeName call batch =
      ((session.submit catalog typeName call batch).1,
        (session.submit catalog typeName call batch).2.withConfig config) := by
  -- The paths and the mapper are all that planning is given, and both are the same.
  have paths : (session.withConfig config).paths = session.paths := alike.paths
  have mapper : (session.withConfig config).mapper = session.mapper := rfl
  simp only [submit, onMapper, paths, mapper]
  obtain ⟨answer, mapper⟩ :=
    (Plan.ofCall session.paths catalog typeName call).run.run session.mapper
  cases answer <;> rfl

/-- Where no batch is made of them, operations are executed alike under options that send alike. -/
theorem execute_withConfig (alike : config.SendsAlike session.config) (batch : Batch)
    (alone : batch.length ≤ 1 ∨
      (config.supportsBatching = false ∧ session.config.supportsBatching = false)) :
    (session.withConfig config).execute batch =
      ((session.execute batch).1, (session.execute batch).2.withConfig config) := by
  -- Execution runs on the registry and the channel, which the options are no part of.
  have ran := Execution.run_eq_of_sendsAlike alike alone session.mapper.registry session.channel
  simp only [execute, withConfig, ran]

/-- A single call is made alike under options that send alike. -/
theorem call_withConfig (alike : config.SendsAlike session.config) (catalog : Catalog)
    (typeName : String) (call : Call) :
    (session.withConfig config).call catalog typeName call =
      ((session.call catalog typeName call).1,
        (session.call catalog typeName call).2.withConfig config) := by
  -- A call is submitted to an empty batch, which is then executed.
  simp only [Session.call, submit_withConfig alike]
  obtain ⟨mapper, ⟨plan, -, submitted⟩ | ⟨error, submitted⟩⟩ :=
    session.submit_cases catalog typeName call []
  · -- The batch of a single call holds one operation.
    have same : config.SendsAlike ({ session with mapper } : Session).config := alike
    have executed := execute_withConfig same [plan] (.inl (Nat.le_refl 1))
    simp only [submitted, List.nil_append, executed]
  · -- A call that cannot be planned executes nothing.
    simp only [submitted]

/-- Execution changes no option, and what went out stays on record. -/
theorem execute_keeps (session : Session) (batch : Batch) :
    (session.execute batch).2.config = session.config ∧
      session.channel.sent <+: (session.execute batch).2.channel.sent :=
  -- The options are carried along, and the record of the channel is only added to.
  ⟨rfl, Execution.sent_prefix_run ..⟩

/-- A single call changes no option, and what went out stays on record. -/
theorem call_keeps (session : Session) (catalog : Catalog) (typeName : String) (call : Call) :
    (session.call catalog typeName call).2.config = session.config ∧
      session.channel.sent <+: (session.call catalog typeName call).2.channel.sent := by
  -- If the call can be planned, it is executed alone; otherwise nothing goes out.
  obtain ⟨mapper, ⟨plan, -, submitted⟩ | ⟨error, submitted⟩⟩ :=
    session.submit_cases catalog typeName call []
  · rw [Session.call, submitted]
    exact execute_keeps { session with mapper } [plan]
  · rw [Session.call, submitted]
    exact ⟨rfl, List.prefix_rfl⟩

end Session

/-- A session with the batch that operations are submitted to. -/
structure Client where
  session : Session
  batch : Batch := []

namespace Client

open List

/-- What can be asked of a client. -/
inductive Ask where
  | call (catalog : Catalog) (typeName : String) (call : Call)
  | compile (catalog : Catalog) (typeName template : String) (options : CompileOptions)
  | submit (catalog : Catalog) (typeName : String) (call : Call)
  | execute

/-- What is answered to it. -/
inductive Answer where
  | outcome (result : Except Error Outcome)
  | text (result : Except Error String)
  | submitted (refusal : Option Error)
  | executed (operations : List Operation)

/-- Answers what is asked of a client. A batch that was executed is empty again. -/
def ask (client : Client) : Ask → Answer × Client
  | .call catalog typeName call =>
    let (result, session) := client.session.call catalog typeName call
    (.outcome result, { client with session })
  | .compile catalog typeName template options =>
    let (result, session) := client.session.compile catalog typeName template options
    (.text result, { client with session })
  | .submit catalog typeName call =>
    match client.session.submit catalog typeName call client.batch with
    | (.ok batch, session) => (.submitted none, ⟨session, batch⟩)
    | (.error error, session) => (.submitted (some error), { client with session })
  | .execute =>
    let (operations, session) := client.session.execute client.batch
    (.executed operations, ⟨session, []⟩)

/-- Answers one thing after the other. -/
def run (client : Client) : List Ask → List Answer × Client
  | [] => ([], client)
  | first :: rest =>
    let (answer, next) := client.ask first
    let (answers, last) := next.run rest
    (answer :: answers, last)

/-- At some time several operations are executed together. -/
def Groups (client : Client) : List Ask → Prop
  | [] => False
  | first :: rest =>
    (first = .execute ∧ 2 ≤ client.batch.length) ∨ (client.ask first).2.Groups rest

/-- The same client with other options. -/
def withConfig (client : Client) (config : ClientConfig) : Client :=
  { client with session := client.session.withConfig config }

/-- The requests that have gone out. -/
def sent (client : Client) : List SubRequest :=
  client.session.channel.sent

variable {client : Client} {config : ClientConfig}

/-- Nothing that is asked changes the options, and what went out stays on record. -/
theorem ask_keeps (client : Client) (asked : Ask) :
    (client.ask asked).2.session.config = client.session.config ∧
      client.sent <+: (client.ask asked).2.sent := by
  -- Whatever is asked, the session does it, and only calls and execution reach the channel.
  cases asked with
  | call catalog typeName call => exact client.session.call_keeps catalog typeName call
  | compile => exact ⟨rfl, prefix_rfl⟩
  | submit catalog typeName call =>
    obtain ⟨mapper, ⟨plan, -, submitted⟩ | ⟨error, submitted⟩⟩ :=
      client.session.submit_cases catalog typeName call client.batch
    all_goals
      rw [ask, submitted]
      exact ⟨rfl, prefix_rfl⟩
  | execute => exact client.session.execute_keeps client.batch

/-- Whatever is asked, what went out stays on record. -/
theorem sent_prefix_run (client : Client) (asks : List Ask) :
    client.sent <+: (client.run asks).2.sent := by
  -- Each thing asked adds to the record that the next one starts with.
  induction asks generalizing client with
  | nil => exact prefix_rfl
  | cons first rest ih => exact (client.ask_keeps first).2.trans (ih _)

/-- Where no batch is made, a client answers alike under options that send alike. -/
theorem ask_withConfig (alike : config.SendsAlike client.session.config) (asked : Ask)
    (alone : asked = .execute → client.batch.length ≤ 1 ∨
      (config.supportsBatching = false ∧ client.session.config.supportsBatching = false)) :
    (client.withConfig config).ask asked =
      ((client.ask asked).1, (client.ask asked).2.withConfig config) := by
  -- Each thing asked is handed to the session, for which the same holds.
  cases asked with
  | call catalog typeName call =>
    simp only [ask, withConfig, Session.call_withConfig alike]
  | compile => rfl
  | submit catalog typeName call =>
    simp only [ask, withConfig, Session.submit_withConfig alike]
    obtain ⟨mapper, ⟨plan, -, submitted⟩ | ⟨error, submitted⟩⟩ :=
      client.session.submit_cases catalog typeName call client.batch
    all_goals simp only [submitted]
  | execute =>
    simp only [ask, withConfig, Session.execute_withConfig alike _ (alone rfl)]

/-- Where no batches are made, a client answers alike under options that send alike. -/
theorem run_withConfig (alike : config.SendsAlike client.session.config) (asks : List Ask)
    (alone : ¬client.Groups asks ∨
      (config.supportsBatching = false ∧ client.session.config.supportsBatching = false)) :
    (client.withConfig config).run asks =
      ((client.run asks).1, (client.run asks).2.withConfig config) := by
  -- The two clients stay the same but for their options, which nothing changes.
  induction asks generalizing client with
  | nil => rfl
  | cons first rest ih =>
    have kept := (client.ask_keeps first).1
    -- What is asked first is answered alike, unless it makes a batch.
    have here := ask_withConfig alike first fun executes =>
      alone.imp_left fun ungrouped => by
        by_contra several
        exact ungrouped (.inl ⟨executes, by omega⟩)
    have alike' : config.SendsAlike (client.ask first).2.session.config := by rwa [kept]
    -- The two go on alike, for a later batch would be one of the whole run.
    have later := ih alike' <| by
      rw [kept]
      exact alone.imp_left fun ungrouped grouped => ungrouped (.inr grouped)
    simp only [run, here, later]

/-- All that waits in a batch is requested differently from a batch. -/
def Planned (client : Client) : Prop :=
  ∀ plan ∈ client.batch, ∀ body, plan.request ≠ ⟨.post, client.session.paths.batch, body⟩

/-- Only operations get into a batch. -/
theorem Planned.ask (planned : client.Planned) (asked : Ask) : (client.ask asked).2.Planned := by
  -- The paths stay the same, so only what is added to the batch has to be looked at.
  have paths : (client.ask asked).2.session.paths = client.session.paths := by
    rw [Session.paths, (client.ask_keeps asked).1]
    rfl
  rw [Planned, paths]
  cases asked with
  | call | compile => exact planned
  | submit catalog typeName call =>
    obtain ⟨mapper, ⟨plan, made, submitted⟩ | ⟨error, submitted⟩⟩ :=
      client.session.submit_cases catalog typeName call client.batch
    · -- The new operation comes last, and its request is that of a call.
      simp only [Client.ask, submitted]
      intro other listed body
      rcases mem_append.mp listed with before | new
      · exact planned other before body
      · cases mem_singleton.mp new
        exact Plan.request_ne_of_ofCall made body
    · simp only [Client.ask, submitted]
      exact planned
  | execute =>
    -- The batch is empty again.
    exact fun plan listed => absurd listed not_mem_nil

/-- Where one client makes a batch and another one does not, different requests go out. -/
theorem sent_ne_of_groups (alike : config.SendsAlike client.session.config)
    (single : config.supportsBatching = false)
    (supported : client.session.config.supportsBatching = true) (planned : client.Planned)
    {asks : List Ask} (grouped : client.Groups asks) :
    ((client.withConfig config).run asks).2.sent ≠ (client.run asks).2.sent := by
  -- Up to the first batch both go alike, and its request is one that no operation has.
  induction asks generalizing client with
  | nil => exact absurd grouped id
  | cons first rest ih =>
    by_cases here : first = .execute ∧ 2 ≤ client.batch.length
    · obtain ⟨rfl, several⟩ := here
      obtain ⟨plan, others, filled⟩ := exists_cons_of_length_pos (Nat.zero_lt_of_lt several)
      -- One client sends the first operation next, and the other one a batch.
      have direct := Execution.sent_prefix_run_direct single client.session.mapper.registry
        client.session.channel plan others
      obtain ⟨trip, batch⟩ := Execution.sent_prefix_run_batched several supported
        client.session.mapper.registry client.session.channel
      rw [← filled] at direct
      have left := direct.trans (sent_prefix_run ((client.withConfig config).ask .execute).2 rest)
      have right := batch.trans (sent_prefix_run (client.ask .execute).2 rest)
      intro same
      -- Of what is sent in the end, both are the beginning, of the same length.
      change _ <+: ((client.withConfig config).run (.execute :: rest)).2.sent at left
      change _ <+: (client.run (.execute :: rest)).2.sent at right
      rw [same] at left
      have requests := (prefix_of_prefix_length_le left right (by simp)).eq_of_length (by simp)
      exact planned plan (by simp [filled]) _
        (singleton_injective (append_cancel_left requests))
    · -- No batch is made here, so both answer alike and differ later.
      have later := grouped.resolve_left here
      have kept := (client.ask_keeps first).1
      have answered := ask_withConfig alike first fun executes => by
        refine .inl ?_
        by_contra several
        exact here ⟨executes, by omega⟩
      simp only [run, answered]
      exact ih (by rwa [kept]) (by rwa [kept]) (planned.ask first) later

/-- Answers and what a client is left with, but for its options. -/
structure Alike (ran other : List Answer × Client) : Prop where
  answers : ran.1 = other.1
  mapper : ran.2.session.mapper = other.2.session.mapper
  channel : ran.2.session.channel = other.2.session.channel
  batch : ran.2.batch = other.2.batch

/-- Where no batches are made, options that send alike make no difference. -/
theorem alike_run_withConfig (alike : config.SendsAlike client.session.config) (asks : List Ask)
    (alone : ¬client.Groups asks ∨
      (config.supportsBatching = false ∧ client.session.config.supportsBatching = false)) :
    Alike ((client.withConfig config).run asks) (client.run asks) := by
  -- The two runs are equal but for the options, which this does not look at.
  rw [run_withConfig alike asks alone]
  exact ⟨rfl, rfl, rfl, rfl⟩

/--
A version with a `v` before it leads to the same paths, but it turns batches off.

Whatever is asked and whatever the server answers, a client with such a version sends the same
requests and comes to the same outcomes as one without it whose batches are off.
So it is as good as one without it exactly if that client accepts no batches or never executes
several operations together; otherwise even the requests differ.
-/
theorem leading_v_turns_batches_off (session : Session) (asks : List Ask) :
    let config := session.config
    let client : Client := ⟨session, []⟩
    let ran (config : ClientConfig) := (client.withConfig config).run asks
    let batches := config.supportsBatching = true ∧ client.Groups asks
    Paths.ofVersion config.lettered.apiVersion = Paths.ofVersion config.apiVersion ∧
      Alike (ran config.lettered) (ran config.unbatched) ∧
      (Alike (ran config.lettered) (ran config) ↔ ¬batches) ∧
      ((ran config.lettered).2.sent = (ran config).2.sent ↔ ¬batches) := by
  -- Without batches the two versions send alike, and with one they cannot.
  intro config client ran batches
  have off := config.supportsBatching_lettered
  have alike : config.lettered.SendsAlike client.session.config := config.sendsAlike_lettered
  have same : config.lettered.SendsAlike (client.withConfig config.unbatched).session.config :=
    ⟨alike.paths, rfl⟩
  -- Either no batch is accepted or none is made, and both make the two runs alike.
  have agree (single : ¬batches) : Alike (ran config.lettered) (ran config) := by
    refine alike_run_withConfig alike asks ?_
    rcases not_and_or.mp single with refused | ungrouped
    · exact .inr ⟨off, by simpa using refused⟩
    · exact .inl ungrouped
  -- Nothing is in the batch at first.
  have differ (grouped : batches) : (ran config.lettered).2.sent ≠ (ran config).2.sent :=
    sent_ne_of_groups alike off grouped.1 (fun plan listed => absurd listed not_mem_nil) grouped.2
  refine ⟨alike.paths,
    alike_run_withConfig same asks (.inr ⟨off, config.supportsBatching_unbatched⟩),
    ⟨fun same grouped => ?_, agree⟩, ⟨fun same grouped => differ grouped same, fun single => ?_⟩⟩
  · exact differ grouped (congrArg Channel.sent same.channel)
  · exact congrArg Channel.sent (agree single).channel

/-- A session whose registry knows accounts and whose requests are answered without content. -/
def accountSession (version : String) : Session :=
  ⟨{ apiVersion := version }, Mapper.ofDirectory,
    { answers := [.ok ⟨204, .empty⟩, .ok ⟨204, .empty⟩] }⟩

/-- The deletion of an account is planned by its identifier. -/
theorem submit_deletion (version id : String) (batch : Batch) :
    (accountSession version).submit Registry.directory "Account" (.delete id) batch =
      (.ok (batch ++ [⟨⟨.delete, (Paths.ofVersion version).record "Account" id, none⟩, .written⟩]),
        accountSession version) := by
  -- The type is found in the directory, so the plan is made from its name.
  have held : ∃ account, Mapper.ofDirectory.registry.descriptorOf Registry.directory "Account" =
      (.ok account, Mapper.ofDirectory.registry) ∧ account.name = "Account" := by
    rw [Mapper.registry_ofDirectory, Registry.after_directory]
    exact ⟨_, rfl, rfl⟩
  obtain ⟨account, described, name⟩ := held
  have planned : (Plan.ofCall (accountSession version).paths Registry.directory "Account"
      (.delete id)).run.run Mapper.ofDirectory =
        (.ok ⟨⟨.delete, (Paths.ofVersion version).record "Account" id, none⟩, .written⟩,
          Mapper.ofDirectory) := by
    rw [Plan.ofCall, Plan.delete, run_bind, Mapper.run_descriptorOf, described]
    simp only [name]
    rfl
  have mapper : (accountSession version).mapper = Mapper.ofDirectory := rfl
  simp only [Session.submit, Session.onMapper, mapper, planned]
  rfl

/-- Two deletions that are executed together. -/
def twoDeletions : List Ask :=
  [.submit Registry.directory "Account" (.delete "001A"),
    .submit Registry.directory "Account" (.delete "001B"), .execute]

/-- Under version 58.0 two deletions go out as one batch, and with a `v` before it as two
requests. -/
theorem deletions_of_lettered_version_go_out_alone :
    let sent (version : String) : List SubRequest :=
      ((⟨accountSession version, []⟩ : Client).run twoDeletions).2.sent
    let delete (path : String) : SubRequest := ⟨.delete, path, none⟩
    let deletions := [delete "v58.0/sobjects/Account/001A", delete "v58.0/sobjects/Account/001B"]
    sent "58.0" =
        [⟨.post, "v58.0/composite/batch", some (BatchEnvelope.toJson ⟨false, deletions⟩)⟩] ∧
      sent "v58.0" = deletions := by
  -- The paths are those of the plain version, and so are the plans that are executed.
  intro sent delete deletions
  have executed (version : String) (same : Paths.ofVersion version = Paths.ofVersion "58.0") :
      sent version = (Execution.run (accountSession version).config Mapper.ofDirectory.registry
        (accountSession version).channel (deletions.map (⟨·, .written⟩))).2.sent := by
    have places : (Paths.ofVersion "58.0").record "Account" "001A" =
          "v58.0/sobjects/Account/001A" ∧
        (Paths.ofVersion "58.0").record "Account" "001B" = "v58.0/sobjects/Account/001B" := by
      decide +kernel
    simp only [sent, twoDeletions, run, ask, submit_deletion, same, places]
    rfl
  constructor
  · -- The plain version accepts batches, and both deletions fit into one.
    rw [executed "58.0" rfl, Execution.run_batched (by decide) (by decide +kernel)]
    have trips : Execution.roundTrips (accountSession "58.0").config.effectiveBatchLimit
        (deletions.map (⟨·, .written⟩ : SubRequest → Plan)) = [deletions.map (⟨·, .written⟩)] := by
      have limit : (accountSession "58.0").config.effectiveBatchLimit = 25 := by decide
      simp [limit, deletions, Execution.roundTrips]
    simp only [trips]
    decide +kernel
  · -- With the letter it accepts none.
    rw [executed "v58.0" (by decide +kernel),
      Execution.run_direct (by decide) (.inr (by decide +kernel))]
    decide +kernel

end Client

end RemoteRecords
