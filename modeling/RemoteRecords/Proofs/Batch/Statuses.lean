import RemoteRecords.Proofs.Batch.Isolation
import RemoteRecords.Proofs.Batch.Pages
import RemoteRecords.Proofs.Batch.Plans
import RemoteRecords.Proofs.Query.Listing

/-! Statuses: a status of failure decides the error of an operation, and no body makes it another. -/

namespace RemoteRecords

/-- An error with other entries of the server, if it has a place for any. -/
def Error.withEntries (entries : List ServerError) : Error → Error
  | .remoteRequest status _ => .remoteRequest status entries
  | .unauthorized _ => .unauthorized entries
  | other => other

/-- A status leaves nothing of its error open but the entries. -/
theorem Error.withEntries_ofStatus (sought : Option String) (status : UInt16)
    (entries others : List ServerError) :
    (ofStatus sought status entries).withEntries others = ofStatus sought status others := by
  -- Each of the three kinds of error is met in turn, and none looks at the entries to be chosen.
  unfold ofStatus
  split
  · rfl
  · -- A missing record replaces the request only where one is sought.
    cases sought with
    | none => rfl
    | some record =>
      simp only
      split <;> rfl

/-- Any other failure than missing authority or a missing record is told by its status. -/
theorem Error.ofStatus_of_other {sought : Option String} {status : UInt16}
    (authorized : status ≠ 401) (unsought : status = 404 → sought = none)
    (entries : List ServerError) :
    ofStatus sought status entries = .remoteRequest status entries := by
  -- With the two special statuses excluded, the general case is what remains.
  cases sought with
  | none => simp [ofStatus, authorized]
  | some record =>
    -- A record is sought, so the status cannot be the one for a missing record.
    have found : status ≠ 404 := by
      intro missing
      cases unsought missing
    simp [ofStatus, authorized, found]

/-- The record that a completion asks for by itself. -/
def Completion.sought? : Completion → Option String
  | .fetched _ record => some record
  | _ => none

/-- The record that a call asks for by itself, given the name of its type. -/
def Call.sought? (typeName : String) : Call → Option String
  | .get id => some (typeName ++ " '" ++ id ++ "'")
  | _ => none

/-- Only a call for one record asks for it by itself. -/
theorem Call.sought?_eq_none {call : Call} (other : ∀ id, call ≠ .get id) (typeName : String) :
    call.sought? typeName = none := by
  -- Of the eight calls, that for one record is excluded and the others seek none.
  cases call with
  | get id => exact absurd rfl (other id)
  | create | update | patch | upsert | delete | query | queryAll => rfl

namespace Plan

variable {paths : Paths} {catalog : Catalog} {typeName : String} {mapper : Mapper} {plan : Plan}

/-- A plan asks for a record by itself if its call does, and for the same one. -/
theorem sought?_of_ofCall {call : Call}
    (planned : ((ofCall paths catalog typeName call).run.run mapper).1 = .ok plan) :
    ∃ name, plan.completion.sought? = call.sought? name := by
  -- A plan is made last, behind all that can fail, so its completion is the one written there.
  cases call with
  | create record =>
    -- A create asks for no record.
    obtain ⟨descriptor, -, rest⟩ := exists_of_run_bind planned
    obtain ⟨body, -, made⟩ := exists_of_run_bind rest
    cases made
    exact ⟨descriptor.name, rfl⟩
  | get id =>
    -- Only a get asks for one, by the identifier that it is given.
    obtain ⟨descriptor, -, rest⟩ := exists_of_run_bind planned
    obtain ⟨fields, -, made⟩ := exists_of_run_bind rest
    cases made
    exact ⟨descriptor.name, rfl⟩
  | update record | patch record =>
    obtain ⟨descriptor, id, body, rfl⟩ := exists_of_write planned
    exact ⟨descriptor.name, rfl⟩
  | upsert field record =>
    obtain ⟨descriptor, declared, key, body, -, -, -, -, rfl⟩ := run_upsert_eq_ok_iff.mp planned
    exact ⟨descriptor.name, rfl⟩
  | delete id =>
    obtain ⟨descriptor, -, made⟩ := exists_of_run_bind planned
    cases made
    exact ⟨descriptor.name, rfl⟩
  | query template options | queryAll template options =>
    obtain ⟨descriptor, text, rfl⟩ := exists_of_query planned
    exact ⟨descriptor.name, rfl⟩

end Plan

namespace Completion

/-- No body is read from a reply that failed. -/
theorem readBody_of_failed {α : Type} (read : Json → Option α) {reply : Reply}
    (failed : isSuccess reply.status = false) :
    readBody read reply =
      .error (.ofStatus none reply.status (ServerError.inBody reply.body)) := by
  -- The content of such a reply is an error already, so the reader is never called.
  rw [readBody, reply.content_of_failed failed]
  rfl

/-- A reply that failed completes an operation with the error of its status, whatever else it would
have been read for. -/
theorem finish_of_failed (registry : Registry) (batched : Bool) (channel : Channel) (reply : Reply)
    (failed : isSuccess reply.status = false) (completion : Completion) :
    completion.finish registry batched channel reply =
      (.error (.ofStatus completion.sought? reply.status (ServerError.inBody reply.body)),
        channel) := by
  -- Every completion asks for the body first, and only one of them names a record for it.
  cases completion with
  | created =>
    rw [finish, readBody_of_failed _ failed]
    rfl
  | fetched descriptor record =>
    rw [finish, reply.content_of_failed failed]
    rfl
  | written =>
    rw [finish, reply.content_of_failed failed]
    rfl
  | upserted =>
    rw [finish, upsertResult, reply.content_of_failed failed]
    rfl
  | queried descriptor =>
    simp only [finish, readBody_of_failed _ failed]
    rfl

/-- A page that comes with a status of failure has the error of the status. -/
theorem pageOf_of_failed {response : Response} (failed : isSuccess response.status = false) :
    pageOf (some (.ok response)) =
      .error (.ofStatus none response.status
        (ServerError.inBody (Json.parseBytes response.body))) := by
  -- The answer is a reply all the same, and its body is what a page would be read from.
  rw [pageOf, Channel.reading_of_failed failed]
  exact readBody_of_failed _ failed

/-- A page of success that is neither blank nor a value is a fault of the transport. -/
theorem pageOf_of_illegible {response : Response} (successful : isSuccess response.status = true)
    (filled : response.isBlank = false) (illegible : Json.parseBytes response.body = none) :
    pageOf (some (.ok response)) = .error (.transport .notJson) := by
  -- The fault arises before there is a reply that a page could be read from.
  rw [pageOf, Channel.reading_of_illegible successful filled illegible]
  rfl

end Completion

namespace Session

open Execution Completion

/-- The responses that an operation gets when it is sent by itself: one to its own request and, if it
is a query, one to each request for a further page. -/
inductive Receives (session : Session) (ahead : List Plan) (plan : Plan) : Response → Prop where
  | own {outcomes : Outcomes} {channel : Channel} {response : Response}
      (served : Served session.mapper.registry session.config.haltOnError session.channel ahead
        outcomes channel)
      (answered : channel.answers.head? = some (.ok response)) :
      Receives session ahead plan response
  | page {outcomes : Outcomes} {channel : Channel} {descriptor : Descriptor} {reply : Reply}
      {first : QueryEnvelope} {links : List String} {more : List QueryEnvelope} {next : String}
      {response : Response}
      (served : Served session.mapper.registry session.config.haltOnError session.channel ahead
        outcomes channel)
      (query : plan.completion = .queried descriptor)
      (alone : session.channel.synchronous = true)
      (replied : Channel.reading channel.answers.head? = .ok reply)
      (read : readBody QueryEnvelope.ofJson? reply = .ok first)
      (paged : Paged (channel.passed plan.request).answers first links more)
      (linked : (more.getLastD first).continuation? = some next)
      (answered : (channel.passed plan.request).answers[links.length]? = some (.ok response)) :
      Receives session ahead plan response

variable {session : Session} {ahead behind : List Plan} {plan : Plan}

/-- An operation that is reached by itself comes to what its completion makes of the next answer. -/
theorem getElem?_execute_of_served
    (unbatched : (ahead ++ plan :: behind).length ≤ 1 ∨ session.config.supportsBatching = false)
    {outcomes : Outcomes} {channel : Channel}
    (served : Served session.mapper.registry session.config.haltOnError session.channel ahead
      outcomes channel) :
    (session.execute (ahead ++ plan :: behind)).1[ahead.length]? =
      some (.completed ((Channel.reading channel.answers.head?).bind fun reply =>
        (plan.completion.finish session.mapper.registry false (channel.passed plan.request)
          reply).1)) := by
  -- The outcomes of the operations ahead fill the places before this one.
  have place : ahead.length = outcomes.length := served.length_eq.symm
  simp only [execute, run_direct (by simp) unbatched, direct_of_served served, List.getElem?_map]
  -- So the place in question is the first of what the remaining operations come to.
  rw [place, List.getElem?_append_right (Nat.le_refl _), Nat.sub_self, direct, Channel.exchange_eq]
  cases Channel.reading channel.answers.head? with
  | ok reply => rfl
  | error error => rfl

/-- A response that is an error to an operation, as the answer to its own request and as a further
page, ends the operation with that error. -/
theorem getElem?_execute_of_receives
    (unbatched : (ahead ++ plan :: behind).length ≤ 1 ∨ session.config.supportsBatching = false)
    {response : Response} (received : session.Receives ahead plan response) {error : Error}
    (own : ∀ channel, ((Channel.reading (some (.ok response))).bind fun reply =>
      (plan.completion.finish session.mapper.registry false channel reply).1) = .error error)
    (page : ∀ descriptor, plan.completion = .queried descriptor →
      pageOf (some (.ok response)) = .error error) :
    (session.execute (ahead ++ plan :: behind)).1[ahead.length]? =
      some (.completed (.error error)) := by
  -- The response answers either the request of the operation or one for a further page.
  cases received with
  | own served answered => rw [getElem?_execute_of_served unbatched served, answered, own]
  | @page outcomes channel descriptor reply first links more next _ served query alone replied read
      paged linked answered =>
    -- The pages end with the error of this one, and so does the query.
    have waits : (channel.passed plan.request).synchronous = true := served.synchronous.trans alone
    have broken := paged.breaks waits linked (answered ▸ page descriptor query)
    have finished :=
      finish_of_followPages session.mapper.registry descriptor read broken
    rw [getElem?_execute_of_served unbatched served, replied, query]
    simp only [Except.bind, finished]
    rfl

/-- An operation that is sent by itself ends with the error of a response that failed. -/
theorem getElem?_execute_of_failed
    (unbatched : (ahead ++ plan :: behind).length ≤ 1 ∨ session.config.supportsBatching = false)
    {response : Response} (received : session.Receives ahead plan response)
    (failed : isSuccess response.status = false) :
    (session.execute (ahead ++ plan :: behind)).1[ahead.length]? =
      some (.completed (.error (.ofStatus plan.completion.sought? response.status
        (ServerError.inBody (Json.parseBytes response.body))))) := by
  -- As an answer of its own it goes to the completion, and as a page it ends the following.
  refine getElem?_execute_of_receives unbatched received (fun channel => ?_)
    fun descriptor query => ?_
  · rw [Channel.reading_of_failed failed]
    exact congrArg Prod.fst (finish_of_failed _ _ _ ⟨_, _⟩ failed _)
  · -- A query asks for no record by itself.
    rw [query]
    exact pageOf_of_failed failed

/-- An operation that is sent by itself ends with a fault of the transport if a response of success
cannot be read. -/
theorem getElem?_execute_of_illegible
    (unbatched : (ahead ++ plan :: behind).length ≤ 1 ∨ session.config.supportsBatching = false)
    {response : Response} (received : session.Receives ahead plan response)
    (successful : isSuccess response.status = true) (filled : response.isBlank = false)
    (illegible : Json.parseBytes response.body = none) :
    (session.execute (ahead ++ plan :: behind)).1[ahead.length]? =
      some (.completed (.error (.transport .notJson))) := by
  -- Neither the completion nor the following of pages gets to see such a response.
  refine getElem?_execute_of_receives unbatched received (fun channel => ?_)
    fun descriptor query => pageOf_of_illegible successful filled illegible
  rw [Channel.reading_of_illegible successful filled illegible]
  rfl

/--
A status of failure decides the error of an operation, whatever the body.

It is missing authority for 401, a missing record for 404 if the call is for one record, and otherwise
a failed request with just that status.
Only the entries of the server come from the body: from the bytes of a response as far as they can be
read, or from the result in a batch.
A response of success that is neither blank nor a value is a fault of the transport.
-/
theorem failing_status_decides_error {paths : Paths} {catalog : Catalog} {typeName : String}
    {call : Call} {mapper : Mapper} {plan : Plan}
    (planned : ((Plan.ofCall paths catalog typeName call).run.run mapper).1 = .ok plan) :
    let failure := Error.ofStatus plan.completion.sought?
    ((∀ entries, failure 401 entries = .unauthorized entries) ∧
      (∀ id, call = .get id →
        ∃ name, ∀ entries, failure 404 entries = .recordNotFound (name ++ " '" ++ id ++ "'")) ∧
      (∀ status entries, status ≠ 401 → (status = 404 → ∀ id, call ≠ .get id) →
        failure status entries = .remoteRequest status entries) ∧
      ∀ status entries others,
        failure status others = (failure status entries).withEntries others) ∧
    ∀ (session : Session) (ahead behind : List Plan),
      let batch := ahead ++ plan :: behind
      let operation := (session.execute batch).1[ahead.length]?
      let limit := session.config.effectiveBatchLimit
      let verdicts := verdicts session.channel.answers (roundTrips limit batch)
      (batch.length ≤ 1 ∨ session.config.supportsBatching = false →
        ∀ response, session.Receives ahead plan response →
          (isSuccess response.status = false → operation = some (.completed (.error
            (failure response.status (ServerError.inBody (Json.parseBytes response.body)))))) ∧
          (isSuccess response.status = true → response.isBlank = false →
            Json.parseBytes response.body = none →
            operation = some (.completed (.error (.transport .notJson))))) ∧
      (2 ≤ batch.length → session.config.supportsBatching = true →
        ∀ results result,
          (∀ error, ¬Halted session.config.haltOnError verdicts (ahead.length / limit) error) →
          verdicts[ahead.length / limit]? = some (.ok results) →
          results[ahead.length % limit]? = some result → isSuccess result.status = false →
          operation = some (.completed (.error
            (failure result.status (ServerError.inBody result.result))))) := by
  intro failure
  obtain ⟨name, sought⟩ := Plan.sought?_of_ofCall planned
  refine ⟨⟨fun entries => rfl, ?_, ?_, fun status entries others =>
    (Error.withEntries_ofStatus _ status entries others).symm⟩, ?_⟩
  · -- A call for one record seeks that record, under the name of its type.
    rintro id rfl
    refine ⟨name, fun entries => ?_⟩
    simp only [failure, sought]
    rfl
  · -- Any other call seeks none, so a missing record is not among its errors.
    intro status entries authorized other
    refine Error.ofStatus_of_other authorized (fun missing => ?_) entries
    rw [sought]
    exact Call.sought?_eq_none (other missing) name
  · intro session ahead behind batch operation limit verdicts
    -- By itself an operation meets responses, and in a batch the result at its place.
    refine ⟨fun unbatched response received => ⟨getElem?_execute_of_failed unbatched received,
      getElem?_execute_of_illegible unbatched received⟩, ?_⟩
    intro several supported results result reached favourable own failed
    -- The operation itself stands at the place that follows those ahead of it.
    have held : batch[ahead.length]? = some plan := by simp [batch]
    simp only [operation]
    rw [getElem?_execute_of_result several supported held reached favourable own,
      finish_of_failed _ _ _ ⟨_, _⟩ failed]

/-- The plan of a call for the account with the identifier 001. -/
theorem exists_planned_fetch :
    ∃ plan : Plan,
      ((Plan.ofCall (Paths.ofVersion "58.0") Registry.directory "Account" (.get "001")).run.run
        Mapper.ofDirectory).1 = .ok plan ∧ plan.completion.sought? = some "Account '001'" := by
  -- The type is looked up, its fields are listed, and both succeed.
  have held : ∃ account, Mapper.ofDirectory.registry.arena[0]? = some account ∧
      Mapper.ofDirectory.registry.descriptorOf Registry.directory "Account" =
        (.ok account, Mapper.ofDirectory.registry) ∧ account.name = "Account" := by
    rw [Mapper.registry_ofDirectory, Registry.after_directory]
    exact ⟨_, rfl, rfl, rfl⟩
  obtain ⟨account, atPlace, described, name⟩ := held
  -- The accounts are published, so their fields are listed.
  have listed := (Mapper.run_fieldList_of_used Mapper.used_ofDirectory
    (List.mem_of_getElem? atPlace) "" 0).2
  rw [Plan.ofCall, Plan.fetch, run_bind, Mapper.run_descriptorOf, described]
  simp only
  rw [run_bind, listed]
  exact ⟨_, rfl, by rw [name]; rfl⟩

/-- The page of a proxy, which is neither blank nor a value. -/
def proxyPage (status : UInt16) : Response :=
  ⟨status, "<html>".toUTF8⟩

/-- A call for an account is answered by a proxy, or in a batch by a result of 404. Each status makes
its own error of the call, and success makes it a fault of the transport. -/
theorem failing_status_decides_error_account :
    ∃ plan : Plan,
      ((Plan.ofCall (Paths.ofVersion "58.0") Registry.directory "Account" (.get "001")).run.run
        Mapper.ofDirectory).1 = .ok plan ∧
      let delete : Plan := ⟨⟨.delete, "a", none⟩, .written⟩
      let session (response : Response) : Session :=
        ⟨{}, Mapper.ofDirectory, { answers := [.ok response] }⟩
      let fetched (status : UInt16) := ((session (proxyPage status)).execute [plan]).1[0]?
      fetched 401 = some (.completed (.error (.unauthorized []))) ∧
      fetched 404 = some (.completed (.error (.recordNotFound "Account '001'"))) ∧
      fetched 502 = some (.completed (.error (.remoteRequest 502 []))) ∧
      fetched 200 = some (.completed (.error (.transport .notJson))) ∧
      ((session oneDeleted).execute [delete, plan]).1[1]? =
        some (.completed (.error (.recordNotFound "Account '001'"))) := by
  obtain ⟨plan, planned, sought⟩ := exists_planned_fetch
  refine ⟨plan, planned, ?_⟩
  intro delete session fetched
  obtain ⟨-, decided⟩ := failing_status_decides_error planned
  rw [sought] at decided
  -- The page of the proxy starts with a bracket that opens no value.
  have illegible (status : UInt16) : Json.parseBytes (proxyPage status).body = none := by
    rw [proxyPage, Json.parseBytes_toUTF8]
    decide +kernel
  -- Alone, the call is sent by itself.
  have alone (response : Response) := (decided (session response) [] []).1 (.inl (Nat.le_refl 1))
    response (.own (.nil _) rfl)
  -- The theorem names the error up to the entries, and an illegible body holds none.
  have failing (status : UInt16) (failed : isSuccess status = false) : fetched status =
      some (.completed (.error (.ofStatus (some "Account '001'") status []))) := by
    have ended := (alone (proxyPage status)).1 failed
    rwa [illegible] at ended
  refine ⟨failing 401 rfl, failing 404 rfl, failing 502 rfl, ?_, ?_⟩
  · exact (alone (proxyPage 200)).2 rfl (by decide +kernel) (illegible 200)
  · -- Together with the deletion, it goes out in a batch.
    have supported : (session oneDeleted).config.supportsBatching = true := by decide +kernel
    have limit : (session oneDeleted).config.effectiveBatchLimit = 25 := by decide
    obtain ⟨-, grouped⟩ := decided (session oneDeleted) [delete] []
    have trips : roundTrips 25 [delete, plan] = [[delete, plan]] := by simp [roundTrips]
    have favourable : (verdicts (session oneDeleted).channel.answers [[delete, plan]])[0]? =
        some (.ok [⟨204, none⟩, ⟨404, none⟩]) := by
      rw [getElem?_verdicts]
      exact congrArg some (reads_oneDeleted.verdict_eq 2)
    have ended := grouped (by simp) supported [⟨204, none⟩, ⟨404, none⟩] ⟨404, none⟩
    simp only [List.singleton_append, limit, trips, List.length_singleton, Nat.reduceDiv] at ended
    exact ended (not_halted_zero _ _) favourable rfl rfl

end Session

end RemoteRecords
