import RemoteRecords.Proofs.Batch.Positions

/-! Isolation: where errors do not halt, an answer matters to nothing beyond its own round trip. -/

namespace RemoteRecords

namespace Execution

/-- Where errors do not halt, every verdict takes effect as it is. -/
@[simp] theorem fates_false {α : Type} (verdicts : List (Except Error α)) :
    fates false verdicts = verdicts := by
  -- An error changes nothing about the verdicts behind it.
  induction verdicts with
  | nil => rfl
  | cons verdict rest ih =>
    cases verdict with
    | ok results => simp only [fates, ih]
    | error error => simp only [fates, ih, Bool.false_eq_true, if_false]

/-- Where errors do not halt, every round trip goes out. -/
@[simp] theorem dispatched_false {α : Type} (verdicts : List (Except Error α)) :
    dispatched false verdicts = verdicts.length := by
  -- Each verdict counts for one round trip, favourable or not.
  induction verdicts with
  | nil => rfl
  | cons verdict rest ih =>
    cases verdict with
    | ok results => simp only [dispatched, ih, List.length_cons]
    | error error => simp only [dispatched, ih, List.length_cons, Bool.false_eq_true, if_false]

section Batched

variable {config : ClientConfig} {plans : List Plan}

/-- Where errors do not halt, all round trips are sent, whatever they are answered. -/
theorem sent_run_of_not_halting (several : 2 ≤ plans.length)
    (supported : config.supportsBatching = true) (goesOn : config.haltOnError = false)
    (registry : Registry) (channel : Channel) :
    (run config registry channel plans).2.sent = channel.sent ++
      (roundTrips config.effectiveBatchLimit plans).map
        (tripRequest (Paths.ofVersion config.apiVersion) false) := by
  rw [run_batched several supported]
  -- As many round trips are taken as there are verdicts, which is all of them.
  simp only [goesOn, dispatched_false, length_verdicts, List.take_length]

/-- Where errors do not halt, an operation is settled by the answer to its own round trip. -/
theorem getElem?_run_of_not_halting (several : 2 ≤ plans.length)
    (supported : config.supportsBatching = true) (goesOn : config.haltOnError = false)
    (registry : Registry) (channel : Channel) (place : Nat) :
    let limit := config.effectiveBatchLimit
    (run config registry channel plans).1[place]? =
      (roundTrips limit plans)[place / limit]?.bind fun trip =>
        (settle registry trip
          (verdict trip.length channel.answers[place / limit]?))[place % limit]? := by
  intro limit
  have positive : 0 < limit := effectiveBatchLimit_pos config
  rw [run_batched several supported, goesOn]
  show (settlements registry false channel.answers (roundTrips limit plans)).flatten[place]? = _
  rw [getElem?_settlements registry false positive _ (packed_roundTrips positive plans)]
  -- The settlement of a round trip is that of its verdict, which rests on its own answer.
  simp only [settlements, fates_false, List.getElem?_zipWith, getElem?_verdicts]
  cases (roundTrips limit plans)[place / limit]? <;> rfl

end Batched

/-- An answer is a success whose body lists results. -/
def ReadsAs (answer : Option (Except String Response)) (results : List BatchResult) : Prop :=
  ∃ reply body, Channel.reading answer = .ok reply ∧ reply.content none = .ok body ∧
    BatchResponse.ofJson? (body.getD .null) = some ⟨results⟩

/-- A response of success whose body has the shape of results is such an answer. -/
theorem readsAs_of_parseBytes {status : UInt16} {body : ByteArray} {value : Json}
    {results : List BatchResult} (successful : isSuccess status = true)
    (parsed : Json.parseBytes body = some value)
    (shaped : BatchResponse.ofJson? value = some ⟨results⟩) :
    ReadsAs (some (.ok ⟨status, body⟩)) results := by
  -- The response is read as a reply of success with the parsed body.
  have read := Channel.reading_of_parseBytes parsed status
  exact ⟨_, some value, read, by simp [Reply.content, successful], shaped⟩

/-- Of listed results only the number can be wrong. -/
theorem ReadsAs.verdict_eq {answer : Option (Except String Response)} {results : List BatchResult}
    (reads : ReadsAs answer results) (sent : Nat) :
    verdict sent answer = if results.length = sent then .ok results
      else .error (.batchProtocolViolation sent results.length) := by
  -- All that comes before the count has succeeded.
  obtain ⟨reply, body, read, successful, shaped⟩ := reads
  split
  · rename_i counted
    exact verdict_of_counted read successful shaped counted
  · rename_i miscounted
    exact verdict_of_miscounted read successful shaped miscounted

/-- Another result at one position makes no difference to the operations at the others. -/
theorem getElem?_completeEach_set (registry : Registry) (channel : Channel) (plans : List Plan)
    (results : List BatchResult) {position place : Nat} (elsewhere : place ≠ position)
    (changed : BatchResult) :
    (completeEach registry channel plans (results.set position changed))[place]? =
      (completeEach registry channel plans results)[place]? := by
  -- Operations and results are paired place by place.
  simp only [completeEach, List.getElem?_zipWith, List.getElem?_set_ne elsewhere.symm]

/-- A change of one listed result makes no difference to the operations at other positions. -/
theorem getElem?_settle_of_reads_set (registry : Registry) (plans : List Plan)
    {answer answer' : Option (Except String Response)} {results : List BatchResult}
    {position place : Nat} {changed : BatchResult} (reads : ReadsAs answer results)
    (reads' : ReadsAs answer' (results.set position changed)) (elsewhere : place ≠ position) :
    (settle registry plans (verdict plans.length answer'))[place]? =
      (settle registry plans (verdict plans.length answer))[place]? := by
  rw [reads.verdict_eq, reads'.verdict_eq, List.length_set]
  -- The number of results is the same, so both are counted right or both are not.
  split
  · exact getElem?_completeEach_set registry {} plans results elsewhere changed
  · rfl

end Execution

namespace Session

open Execution

/--
Where errors do not halt, the answers to round trips are isolated from each other.

Take two scripts of answers that differ only in the answer to one round trip, in whatever way.
Both times the same requests go out in the same order.
Every operation of another round trip has the same outcome.
So has every operation but one if both answers list results that differ at one position.
-/
theorem execute_isolates_round_trips (session : Session) (batch : Batch)
    (several : 2 ≤ batch.length) (supported : session.config.supportsBatching = true)
    (goesOn : session.config.haltOnError = false) (answers : List (Except String Response))
    (index : Nat)
    (alike : ∀ other, other ≠ index → answers[other]? = session.channel.answers[other]?) :
    let limit := session.config.effectiveBatchLimit
    let first := session.execute batch
    let second := { session with channel := { session.channel with answers } }.execute batch
    (first.2.channel.sent = session.channel.sent ++
        (roundTrips limit batch).map (tripRequest session.paths false) ∧
      second.2.channel.sent = first.2.channel.sent) ∧
    (∀ place, place / limit ≠ index → second.1[place]? = first.1[place]?) ∧
    ∀ results position changed, ReadsAs session.channel.answers[index]? results →
      ReadsAs answers[index]? (results.set position changed) →
      ∀ place, place ≠ index * limit + position → second.1[place]? = first.1[place]? := by
  -- Outcomes and requests are those of two runs with the same operations.
  intro limit first second
  have ran : first.1 = (run session.config session.mapper.registry session.channel batch).1.map
      .completed := rfl
  have ran' : second.1 = (run session.config session.mapper.registry
      { session.channel with answers } batch).1.map .completed := rfl
  have sent : first.2.channel.sent = session.channel.sent ++
      (roundTrips limit batch).map (tripRequest session.paths false) :=
    sent_run_of_not_halting several supported goesOn session.mapper.registry session.channel
  have sent' : second.2.channel.sent = session.channel.sent ++
      (roundTrips limit batch).map (tripRequest session.paths false) :=
    sent_run_of_not_halting several supported goesOn session.mapper.registry _
  -- Outcomes are the same wherever the round trip is settled alike.
  have same_of_settled : ∀ place, (∀ trip,
      (settle session.mapper.registry trip
        (verdict trip.length answers[place / limit]?))[place % limit]? =
      (settle session.mapper.registry trip
        (verdict trip.length session.channel.answers[place / limit]?))[place % limit]?) →
      second.1[place]? = first.1[place]? := by
    intro place settled
    rw [ran, ran', List.getElem?_map, List.getElem?_map,
      getElem?_run_of_not_halting several supported goesOn,
      getElem?_run_of_not_halting several supported goesOn]
    simp only [limit] at settled
    simp only [settled]
  refine ⟨⟨sent, sent'.trans sent.symm⟩, fun place outside => ?_, ?_⟩
  · -- The answer to the operation's round trip is the same both times.
    refine same_of_settled place fun trip => ?_
    rw [alike (place / limit) outside]
  · intro results position changed reads reads' place elsewhere
    refine same_of_settled place fun trip => ?_
    by_cases inside : place / limit = index
    · -- In the round trip itself the operation stands at another position.
      have apart : place % limit ≠ position := by
        rintro rfl
        have whole := Nat.div_add_mod place limit
        rw [inside, Nat.mul_comm] at whole
        exact elsewhere whole.symm
      rw [inside]
      exact getElem?_settle_of_reads_set _ trip reads reads' apart
    · rw [alike (place / limit) inside]

/-- The answer to a round trip of two deletions of which the second one fails. -/
def oneDeleted : Response :=
  ⟨200, "\x7b\"results\":[\x7b\"statusCode\":204\x7d,\x7b\"statusCode\":404\x7d]\x7d".toUTF8⟩

/-- It lists one result of each kind. -/
theorem reads_oneDeleted : ReadsAs (some (.ok oneDeleted)) [⟨204, none⟩, ⟨404, none⟩] :=
  -- Its text is read as the two results.
  @readsAs_of_parseBytes _ _ (Json.ofMembers [("results", .array
    [.ofMembers [("statusCode", .ofNat 204)], .ofMembers [("statusCode", .ofNat 404)]])]) _
    (by decide) (by decide +kernel) (by decide +kernel)

/-- Three deletions go out in round trips of two. The last one is the same if the first round trip
is lost, and the first one is the same if the second one fails. -/
theorem execute_isolates_round_trips_deletions :
    let delete (path : String) : Plan := ⟨⟨.delete, path, none⟩, .written⟩
    let batch : Batch := [delete "a", delete "b", delete "c"]
    let session (first : Except String Response) : Session :=
      ⟨{ batchLimit := 2 }, .ofConfig {}, { answers := [first, .ok ⟨200, .empty⟩] }⟩
    ((session (.error "connection reset")).execute batch).1[2]? =
        ((session (.ok twoDeleted)).execute batch).1[2]? ∧
      ((session (.ok oneDeleted)).execute batch).1[0]? =
        ((session (.ok twoDeleted)).execute batch).1[0]? := by
  intro delete batch session
  have supported : (session (.ok twoDeleted)).config.supportsBatching = true := by decide +kernel
  have limit : (session (.ok twoDeleted)).config.effectiveBatchLimit = 2 := by decide
  -- The scripts have their second answer in common.
  have isolated (first : Except String Response) :=
    execute_isolates_round_trips (session (.ok twoDeleted)) batch (by simp [batch]) supported rfl
      [first, .ok ⟨200, .empty⟩] 0 (by
        intro other apart
        obtain ⟨place, rfl⟩ := Nat.exists_eq_succ_of_ne_zero apart
        rfl)
  obtain ⟨-, outside, -⟩ := isolated (.error "connection reset")
  obtain ⟨-, -, inside⟩ := isolated (.ok oneDeleted)
  let deleted := Json.ofMembers [("statusCode", Json.ofNat 204)]
  have both : ReadsAs (some (.ok twoDeleted)) [⟨204, none⟩, ⟨204, none⟩] :=
    @readsAs_of_parseBytes _ _ (Json.ofMembers [("results", .array [deleted, deleted])]) _
      (by decide) (by decide +kernel) (by decide +kernel)
  exact ⟨outside 2 (by rw [limit]; decide), inside _ 1 ⟨404, none⟩ both reads_oneDeleted 0 (by decide)⟩

end Session

end RemoteRecords
