import RemoteRecords.Payload.Decode

/-! Rows: what holds child records, how its rows are told, and how they are replaced one by one. -/

namespace RemoteRecords

/-- A member that may be missing has no value exactly if it is missing or null. -/
theorem Shape.optional_eq_none_iff {α : Type} {read : Json → Option α} {member : Option Json} :
    Shape.optional read member = some none ↔ member = none ∨ member = some .null := by
  -- Of the values that are there, null alone is read as none.
  cases member with
  | none => simp [Shape.optional]
  | some value => cases value <;> simp [Shape.optional]

namespace QueryEnvelope

/-- An envelope is an object whose four members are what they have to be, or missing. -/
theorem ofJson?_object_eq_some_iff {members : Object} {envelope : QueryEnvelope} :
    ofJson? (.object members) = some envelope ↔
      Shape.withDefault 0 Shape.word (members.get? "totalSize") = some envelope.totalSize ∧
      Shape.withDefault false Json.asBool? (members.get? "done") = some envelope.done ∧
      Shape.withDefault [] Json.asArray? (members.get? "records") = some envelope.records ∧
      Shape.optional Json.asString? (members.get? "nextRecordsUrl") =
        some envelope.nextRecordsUrl := by
  -- The four members are read one after the other, and each of them has to succeed.
  simp only [ofJson?, Shape.members?, keys, List.map_cons, List.map_nil, Option.bind_eq_bind,
    Option.bind_some, Option.bind_eq_some_iff, Option.pure_def, Option.some.injEq]
  constructor
  · rintro ⟨totalSize, first, done, second, records, third, next, fourth, rfl⟩
    exact ⟨first, second, third, fourth⟩
  · rintro ⟨first, second, third, fourth⟩
    exact ⟨_, first, _, second, _, third, _, fourth, rfl⟩

/-- Objects with the same members of an envelope are read as the same envelope. -/
theorem ofJson?_congr {members members' : Object}
    (agree : ∀ key ∈ keys, members.get? key = members'.get? key) :
    ofJson? (.object members) = ofJson? (.object members') := by
  -- Nothing of an object is looked at but the members of an envelope.
  have same : keys.map (fun key => members.get? key) = keys.map fun key => members'.get? key :=
    List.map_congr_left agree
  simp only [ofJson?, Shape.members?, same]

/-- An envelope with other rows is read as before but for the rows. -/
theorem ofJson?_insert_records {members : Object} {rows : List Json}
    (held : members.get? "records" = some (.array rows)) (rows' : List Json) :
    ofJson? (.object (members.insert "records" (.array rows'))) =
      (ofJson? (.object members)).map fun envelope => { envelope with records := rows' } := by
  -- The rows are the one member that differs, and they are read as they are.
  simp only [ofJson?, Shape.members?, Dict.get?_insert, keys, List.map_cons, String.reduceEq,
    ↓reduceIte, List.map_nil, Shape.withDefault, Json.asArray?, Option.pure_def,
    Option.bind_eq_bind, Option.bind_some, held, Option.map_bind, Function.comp_def,
    Option.map_some]

/-- An envelope with a link is read as before but for the link. -/
theorem ofJson?_insert_nextRecordsUrl {members : Object} {envelope : QueryEnvelope}
    (shaped : ofJson? (.object members) = some envelope) (next : String) :
    ofJson? (.object (members.insert "nextRecordsUrl" (.string next))) =
      some { envelope with nextRecordsUrl := some next } := by
  -- The other three members are read as before, and the link is a text.
  rw [ofJson?_object_eq_some_iff] at shaped ⊢
  obtain ⟨first, second, third, -⟩ := shaped
  simp [Dict.get?_insert, first, second, third, Shape.optional, Json.asString?]

end QueryEnvelope

namespace Payload

variable {row row' container container' : Json} {field : FieldDescriptor}

/-- The rows of a child relationship: none without a value, the items of an array, or those of an
envelope that is not continued. -/
inductive Rows : Option Json → List Json → Prop where
  | missing : Rows none []
  | null : Rows (some .null) []
  | array (rows : List Json) : Rows (some (.array rows)) rows
  | envelope {members : Object} {rows : List Json}
      (held : members.get? "records" = some (.array rows))
      (last : members.get? "nextRecordsUrl" = none ∨ members.get? "nextRecordsUrl" = some .null) :
      Rows (some (.object members)) rows
  | bare {members : Object} (empty : members.get? "records" = none)
      (last : members.get? "nextRecordsUrl" = none ∨ members.get? "nextRecordsUrl" = some .null) :
      Rows (some (.object members)) []

/-- The rows of a child relationship are told from its value. -/
theorem Rows.unique {held : Option Json} {rows rows' : List Json} (first : Rows held rows)
    (second : Rows held rows') : rows = rows' := by
  -- The kind of the value fixes how its rows are told, but for the two kinds of envelopes.
  cases first with
  | missing => cases second; rfl
  | null => cases second; rfl
  | array => cases second; rfl
  | envelope held =>
    cases second with
    | envelope held' => simpa using held.symm.trans held'
    | bare empty => simp [empty] at held
  | bare empty =>
    cases second with
    | envelope held => simp [empty] at held
    | bare => rfl

/-- Rows that are taken are all of the rows that are there. -/
theorem rows_of_childRows {held : Option Json} {rows : List Json}
    (taken : childRows field held = .ok rows) : Rows held rows := by
  -- Each value that rows are taken from is one of the cases, and only envelopes have conditions.
  unfold childRows at taken
  -- A missing value and null have no rows, and an array has its items.
  split at taken
  · cases taken
    exact .missing
  · cases taken
    exact .null
  · cases taken
    exact .array rows
  · -- Of an envelope its records are taken, provided that it has no link.
    rename_i members
    split at taken
    · cases taken
    · rename_i envelope shaped
      split at taken
      · cases taken
      · rename_i link
        cases taken
        obtain ⟨-, -, records, next⟩ := QueryEnvelope.ofJson?_object_eq_some_iff.mp shaped
        have last := Shape.optional_eq_none_iff.mp (link ▸ next)
        cases found : Dict.get? members "records" with
        | none =>
          -- Without records in the envelope there are no rows.
          have empty : envelope.records = [] := by
            simpa [found, Shape.withDefault] using records.symm
          exact empty ▸ .bare found last
        | some value =>
          -- The records of an envelope are read off its own array.
          cases value <;> simp_all [Shape.withDefault, Json.asArray?]
          exact .envelope found last
  · cases taken

/-- A value that can hold records. -/
inductive Container : Json → Prop where
  | array (items : List Json) : Container (.array items)
  | object (members : Object) : Container (.object members)

/-- Rows are held as they are or in an envelope, and one of them is replaced. -/
inductive Replaces (row row' : Json) : Json → Json → Prop where
  | array (ahead behind : List Json) :
      Replaces row row' (.array (ahead ++ row :: behind)) (.array (ahead ++ row' :: behind))
  | envelope {members : Object} {ahead behind : List Json}
      (held : members.get? "records" = some (.array (ahead ++ row :: behind))) :
      Replaces row row' (.object members)
        (.object (members.insert "records" (.array (ahead ++ row' :: behind))))

namespace Replaces

/-- Rows are replaced in values that can hold records. -/
theorem containers (replaced : Replaces row row' container container') :
    Container container ∧ Container container' := by
  -- Rows are replaced in an array or in an envelope, and both stay what they are.
  cases replaced with
  | array => exact ⟨.array _, .array _⟩
  | envelope => exact ⟨.object _, .object _⟩

/-- Replacing a row leaves the type alone that a value states if it is metadata. -/
theorem type_eq (replaced : Replaces row row' container container') :
    container.member? "type" = container'.member? "type" := by
  -- An array states no type, and of an envelope other members are left alone.
  cases replaced with
  | array => rfl
  | envelope => simp [Json.member?, Dict.get?_insert]

/-- Of values that differ in one row, the rows are refused alike or differ in that row. -/
theorem childRows_cases (replaced : Replaces row row' container container')
    (field : FieldDescriptor) :
    (∃ fault, childRows field (some container) = .error fault ∧
      childRows field (some container') = .error fault) ∨
    ∃ ahead behind, childRows field (some container) = .ok (ahead ++ row :: behind) ∧
      childRows field (some container') = .ok (ahead ++ row' :: behind) := by
  -- An array gives its rows, and an envelope is read with other rows but otherwise alike.
  cases replaced with
  | array ahead behind => exact .inr ⟨ahead, behind, rfl, rfl⟩
  | @envelope members ahead behind held =>
    have shaped' := QueryEnvelope.ofJson?_insert_records held (ahead ++ row' :: behind)
    cases shaped : QueryEnvelope.ofJson? (.object members) with
    | none =>
      refine .inl ⟨.codec .misshapen, ?_, ?_⟩ <;> simp [childRows, shaped', shaped]
    | some envelope =>
      obtain ⟨-, -, records, -⟩ := QueryEnvelope.ofJson?_object_eq_some_iff.mp shaped
      have rows : envelope.records = ahead ++ row :: behind := by
        simpa [held, Shape.withDefault, Json.asArray?] using records.symm
      -- A link is in both envelopes or in neither.
      cases link : envelope.nextRecordsUrl with
      | some next =>
        refine .inl ⟨.tooManyRows (.childContinues field.name next), ?_, ?_⟩ <;>
          simp [childRows, shaped', shaped, link]
      | none =>
        exact .inr ⟨ahead, behind, by simp [childRows, shaped, link, rows],
          by simp [childRows, shaped', shaped, link]⟩

end Replaces

end Payload

end RemoteRecords
