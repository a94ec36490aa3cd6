import RemoteRecords.Batch.Completion
import RemoteRecords.Proofs.Faults
import RemoteRecords.Proofs.Rest.Channel

/-! Completion: whatever the reply, no outcome is the error of an operation read too early. -/

namespace RemoteRecords

/-- An answer that is not the error of an operation read before its completion. -/
def Timely {α : Type} (answer : Except Error α) : Prop :=
  ∀ error, answer = .error error → error ≠ .incomplete

namespace Timely

variable {α β : Type}

/-- A value is no error at all. -/
@[simp] theorem ok (value : α) : Timely (.ok value : Except Error α) := by
  -- There is no error to compare.
  simp [Timely]

/-- An error is timely unless it is the one of an early reading. -/
@[simp] theorem error_iff (error : Error) :
    Timely (.error error : Except Error α) ↔ error ≠ .incomplete := by
  -- The given error is the only one.
  simp [Timely]

/-- Steps in sequence are timely if each of them is. -/
theorem bind {answer : Except Error α} {next : α → Except Error β} (first : Timely answer)
    (rest : ∀ value, Timely (next value)) : Timely (answer >>= next) :=
  -- Being timely is avoiding one kind of fault.
  Avoids.bind first fun value _ => rest value

/-- What becomes of a value does not matter. -/
theorem map {answer : Except Error α} (first : Timely answer) (next : α → β) :
    Timely (answer.map next) :=
  -- As for faults in general, with the error of an early reading as the only one of its kind.
  Avoids.map first next

/-- Faults of another kind are no error of this one. -/
theorem mapError {ε : Type} (answer : Except ε α) {kind : ε → Error}
    (other : ∀ fault, kind fault ≠ .incomplete) : Timely (answer.mapError kind) := by
  -- Of the faults before nothing is required, since none becomes this error.
  have anything : Avoids (fun _ => False) answer := fun _ _ => id
  exact anything.mapError other

/-- A list is read in time if each of its items is. -/
theorem mapM {step : α → Except Error β} {items : List α} (each : ∀ item, Timely (step item)) :
    Timely (items.mapM step) :=
  -- Every item of the list is among all items.
  Avoids.mapM fun item _ => each item

end Timely

/-- The error of a failed reply says that the operation has come to its end. -/
theorem Reply.timely_content (reply : Reply) (missing : Option String) :
    Timely (reply.content missing) := by
  unfold content
  -- A failed reply has one of three errors, by its status.
  split
  · exact Timely.ok _
  · -- Without its authorization the reply says nothing else.
    simp only
    split
    · simp
    · split
      · split <;> simp
      · simp

namespace Payload

/-- Rows are found or refused. -/
theorem timely_childRows (field : FieldDescriptor) (held : Option Json) :
    Timely (childRows field held) := by
  -- Each kind of value gives rows or an error of its own.
  unfold childRows
  split
  · simp
  · simp
  · simp
  · -- An envelope is misshapen, goes on elsewhere, or ends with its rows.
    split
    · simp
    · split <;> simp
  · simp

/-- The reading of the records inside a record, as far as they are read in time. -/
def Inside.Timely {record : Object} (inside : Inside record) : Prop :=
  ∀ target inner smaller, RemoteRecords.Timely (inside target inner smaller)

/-- A row is read as the record that it is, or refused. -/
theorem timely_readRow {record : Object} {inside : Inside record} (timely : inside.Timely)
    (element : Descriptor) (row : Json) (smaller : sizeOf row < sizeOf record) :
    Timely (readRow inside element row smaller) := by
  -- Only an object is read, and the others are refused as rows.
  cases row with
  | object members => exact (timely element members _).map _
  | null | bool | number | string | array => simp [readRow]

/-- Child rows are read in time if the records inside are. -/
theorem timely_readChildren (registry : Registry) {record : Object} {inside : Inside record}
    (timely : inside.Timely) (field : FieldDescriptor) :
    Timely (readChildren registry record inside field) := by
  -- Rows are looked for first, then the type that they have, and then each is read.
  unfold readChildren
  split
  · -- The rows themselves are at fault.
    rename_i error found
    have rows := timely_childRows field (record.get? field.name)
    rw [found] at rows
    simpa using rows
  · split
    · simp
    · simp
    · split
      · simp
      · -- Every row is one of the records inside.
        exact Timely.mapM fun row => timely_readRow timely _ _ _

/-- A related record is read in time if the records inside are. -/
theorem timely_readRelated (registry : Registry) (owner : Descriptor) {record : Object}
    {inside : Inside record} (timely : inside.Timely) (field : FieldDescriptor) :
    Timely (readRelated registry owner record inside field) := by
  -- Only an object is read as a record, after its type was found.
  unfold readRelated
  split
  · refine (Timely.mapError _ (by simp)).bind fun target => ?_
    exact (timely target _ _).bind fun members => Timely.ok _
  · simp
  · simp
  · simp

/-- A field is read in time if the records inside are. -/
theorem timely_readField (registry : Registry) (owner : Descriptor) {record : Object}
    {inside : Inside record} (timely : inside.Timely) (field : FieldDescriptor) :
    Timely (readField registry owner record inside field) := by
  -- Each kind of field has its own way of being read.
  unfold readField
  split
  · simp
  · split
    · exact (timely_readChildren registry timely field).map _
    · split
      · exact timely_readRelated registry owner timely field
      · simp

/-- However deep records lie inside each other, they are read in time. -/
theorem timely_read (registry : Registry) (descriptor : Descriptor) (record : Object) :
    Timely (read registry descriptor record) := by
  rw [read]
  -- The records inside are smaller, so the statement holds of them by recursion.
  have timely : Inside.Timely fun target inner (_smaller : sizeOf inner < sizeOf record) =>
      read registry target inner := fun target inner smaller => timely_read registry target inner
  -- The fields are read one by one, and the record is put together from them.
  refine (Timely.mapM fun field => ?_).bind fun held => Timely.ok _
  exact (timely_readField registry descriptor timely field).bind fun value => Timely.ok _
termination_by sizeOf record

/-- A record as read, or the error that stands for it, comes in time. -/
theorem timely_decode (registry : Registry) (descriptor : Descriptor) (value : Json) :
    Timely (decode registry descriptor value) := by
  -- An object is read as a record, and any other value is refused by an error of its own.
  cases value with
  | object members => exact (timely_read registry descriptor members).map _
  | null | bool | number | string | array => simp [decode]

end Payload

/-- A page of rows is read in time. -/
theorem QueryPage.timely_ofEnvelope (registry : Registry) (descriptor : Descriptor)
    (envelope : QueryEnvelope) : Timely (QueryPage.ofEnvelope registry descriptor envelope) :=
  -- The rows are decoded one by one.
  (Timely.mapM fun row => Payload.timely_decode registry descriptor row).bind fun _ =>
    Timely.ok _

/-- An answer that amounts to no reply is a fault of the transport. -/
theorem Channel.timely_reading (answer : Option (Except String Response)) :
    Timely (reading answer) := by
  -- There is no answer, or it is a failure, or its bytes are read.
  unfold reading
  split
  · simp
  · simp
  · exact Timely.mapError _ (by simp)

/-- An exchange that fails does so by a fault of the transport. -/
theorem Channel.timely_exchange (channel : Channel) (request : SubRequest) :
    Timely (channel.exchange request).1 := by
  -- What an exchange brings is its answer as it is read.
  rw [exchange_eq]
  exact timely_reading _

namespace Completion

/-- A body is read in time. -/
theorem timely_readBody {α : Type} (read : Json → Option α) (reply : Reply) :
    Timely (readBody read reply) := by
  -- A reply of success has a body, which has the shape that is asked for or not.
  refine (reply.timely_content none).bind fun body => ?_
  split <;> simp

/-- Pages are followed to their end or to a fault on the way. -/
theorem timely_followPages (batched : Bool) (channel : Channel) (page : QueryEnvelope) :
    Timely (followPages batched channel page).1 := by
  -- The induction follows the pages as they are asked for.
  fun_induction followPages batched channel page with
  | case1 | case2 | case3 => simp
  | case4 channel page unfinished next linked alone error after answered =>
    -- The link could not be followed.
    have timely := channel.timely_exchange ⟨.get, Paths.relative next, none⟩
    rw [answered] at timely
    simpa using timely
  | case5 channel page unfinished next linked alone reply after answered error unread =>
    -- The reply is no page.
    have timely := timely_readBody QueryEnvelope.ofJson? reply
    rw [unread] at timely
    simpa using timely
  | case6 channel page unfinished next linked alone reply after answered more read ih => exact ih

/-- An upsert is answered in time. -/
theorem timely_upsertResult (reply : Reply) : Timely (upsertResult reply) := by
  -- The status is looked at first, and then the body.
  refine (reply.timely_content none).bind fun body => ?_
  -- Only a body that cannot be read is an error.
  cases body with
  | none => exact Timely.ok _
  | some body =>
    simp only
    split
    · exact Timely.ok _
    · exact (Timely.error_iff _).mpr (by simp)

/-- No reply makes an operation look as if it were read too early. -/
theorem timely_finish (registry : Registry) (batched : Bool) (channel : Channel) (reply : Reply)
    (completion : Completion) : Timely (completion.finish registry batched channel reply).1 := by
  -- Each kind of completion reads the body first and works on what was read.
  cases completion with
  | created => exact (timely_readBody _ reply).map _
  | fetched descriptor record =>
    refine Timely.map ?_ _
    exact (reply.timely_content _).bind fun body => Payload.timely_decode registry descriptor _
  | written => exact (reply.timely_content none).map _
  | upserted => exact (timely_upsertResult reply).map _
  | queried descriptor =>
    -- The first page is read, the others are followed, and then come the rows.
    simp only [finish]
    split
    · rename_i error unread
      have timely := timely_readBody QueryEnvelope.ofJson? reply
      rw [unread] at timely
      simpa using timely
    · rename_i first read
      split
      · rename_i error after failed
        have timely := timely_followPages batched channel first
        rw [failed] at timely
        simpa using timely
      · exact (QueryPage.timely_ofEnvelope registry descriptor _).map _

/-- A page without a link, or with nothing left behind it, is all that there is. -/
theorem followPages_of_last {page : QueryEnvelope}
    (last : page.done = true ∨ page.nextRecordsUrl = none) (batched : Bool) (channel : Channel) :
    followPages batched channel page = (.ok page, channel) := by
  -- Following stops where the page says so or where there is no link.
  rw [followPages]
  split
  · rfl
  · rename_i unfinished
    rw [last.resolve_left unfinished]

/-- Where no request can wait for its answer, a link to further rows is refused at once. -/
theorem followPages_of_linked {batched : Bool} {channel : Channel} {page : QueryEnvelope}
    {next : String} (unfinished : page.done ≠ true) (linked : page.nextRecordsUrl = some next)
    (refused : (batched || !channel.synchronous) = true) :
    followPages batched channel page = (.error (.tooManyRows (.resultContinues next)), channel) := by
  -- The page is not finished and has a link, so the refusal decides.
  rw [followPages, if_neg unfinished, linked]
  simp only [refused, if_true]

/-- Where no request can wait for its answer, nothing is sent for further rows. -/
theorem followPages_snd_of_refused {batched : Bool} {channel : Channel}
    (refused : (batched || !channel.synchronous) = true) (page : QueryEnvelope) :
    (followPages batched channel page).2 = channel := by
  -- In all three cases the channel is the one that was there.
  by_cases finished : page.done = true
  · rw [followPages_of_last (.inl finished)]
  · cases linked : page.nextRecordsUrl with
    | none => rw [followPages_of_last (.inr linked)]
    | some next => rw [followPages_of_linked finished linked refused]

/-- Where no request can wait for its answer, a completion sends none. -/
theorem finish_snd_of_refused (registry : Registry) {batched : Bool} {channel : Channel}
    (refused : (batched || !channel.synchronous) = true) (reply : Reply) (completion : Completion) :
    (completion.finish registry batched channel reply).2 = channel := by
  -- Only queries send anything for their completion.
  cases completion with
  | created | fetched | written | upserted => rfl
  | queried descriptor =>
    simp only [finish]
    split
    · rfl
    · -- Whether further rows are refused or there are none, the channel is that of the first.
      rename_i page read
      have alone := followPages_snd_of_refused refused page
      split
      · rename_i followed
        rwa [followed] at alone
      · rename_i followed
        rwa [followed] at alone

/-- In a batch a completion leaves the connection alone and depends on the reply only. -/
theorem finish_batched (registry : Registry) (channel other : Channel) (reply : Reply)
    (completion : Completion) :
    completion.finish registry true channel reply =
      ((completion.finish registry true other reply).1, channel) := by
  -- Only queries look at the channel at all.
  cases completion with
  | created | fetched | written | upserted => rfl
  | queried descriptor =>
    simp only [finish]
    split
    · rfl
    · -- A link that would be followed alone is refused in a batch.
      rename_i page read
      by_cases finished : page.done = true
      · simp only [followPages_of_last (.inl finished)]
      · cases linked : page.nextRecordsUrl with
        | none => simp only [followPages_of_last (.inr linked)]
        | some next => simp only [followPages_of_linked finished linked (Bool.true_or _)]

end Completion

end RemoteRecords
