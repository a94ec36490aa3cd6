import RemoteRecords.Wire.Shape

/-! Query envelopes: the rows of a result page and the link to the next page. -/

namespace RemoteRecords

/-- One page of raw rows. -/
structure QueryEnvelope where
  totalSize : UInt64 := 0
  done : Bool := false
  records : List Json := []
  nextRecordsUrl : Option String := none
deriving DecidableEq, Repr, Inhabited

namespace QueryEnvelope

/-- The keys of an envelope, in order. -/
def keys : List String := ["totalSize", "done", "records", "nextRecordsUrl"]

def ofJson? (value : Json) : Option QueryEnvelope := do
  match ← Shape.members? keys value with
  | [totalSize, done, records, next] =>
    let totalSize ← Shape.withDefault 0 Shape.word totalSize
    let done ← Shape.withDefault false Json.asBool? done
    let records ← Shape.withDefault [] Json.asArray? records
    let nextRecordsUrl ← Shape.optional Json.asString? next
    pure { totalSize, done, records, nextRecordsUrl }
  | _ => none

/-- A link that is absent is left out. -/
def toJson (envelope : QueryEnvelope) : Json :=
  Json.ofMembers
    ([("totalSize", Json.ofNat envelope.totalSize.toNat), ("done", .bool envelope.done),
      ("records", .array envelope.records)] ++
     (envelope.nextRecordsUrl.map ("nextRecordsUrl", Json.string ·)).toList)

/-- The rows of an envelope that is an object are its member `records`. -/
theorem records_of_object {members : Object} {envelope : QueryEnvelope}
    (read : ofJson? (.object members) = some envelope) :
    envelope.records = [] ∨ members.get? "records" = some (.array envelope.records) := by
  -- Reading succeeded, so each of the four members was read.
  simp only [ofJson?, Shape.members?, keys, List.map_cons, List.map_nil, Option.bind_eq_bind,
    Option.bind_some, Option.bind_eq_some_iff, Option.pure_def, Option.some.injEq] at read
  -- Four members are read one after another; only the third decides the rows.
  obtain ⟨_, _, _, _, rows, third, _, _, rfl⟩ := read
  cases found : members.get? "records" with
  | none => simp_all [Shape.withDefault]
  | some held => cases held <;> simp_all [Shape.withDefault, Json.asArray?]

/-- A row is smaller than the envelope that holds it. -/
theorem sizeOf_lt_of_mem_records {members : Object} {envelope : QueryEnvelope}
    (read : ofJson? (.object members) = some envelope) {row : Json} (held : row ∈ envelope.records) :
    sizeOf row < sizeOf members := by
  -- The rows are either absent or items of a member of the envelope.
  rcases records_of_object read with none | found
  · simp [none] at held
  · have outer := Json.sizeOf_lt_of_get? found
    have inner := List.sizeOf_lt_of_mem held
    simp only [Json.array.sizeOf_spec] at outer
    omega

end QueryEnvelope

end RemoteRecords
