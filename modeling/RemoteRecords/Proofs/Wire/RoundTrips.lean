import RemoteRecords.Config.Client
import RemoteRecords.Config.Mapping
import RemoteRecords.Proofs.Dict
import RemoteRecords.Wire.Attributes
import RemoteRecords.Wire.QueryEnvelope
import RemoteRecords.Wire.WriteResult

/-! Round trips of wire records: what is written is read back, whatever was left out of it. -/

namespace RemoteRecords

/-- The member of a written object is the last one that was written under its key. -/
theorem Json.member?_ofMembers (entries : List (String × Json)) (key : String) :
    (Json.ofMembers entries).member? key =
      entries.foldl (fun held entry => if entry.1 = key then some entry.2 else held) none :=
  -- An object is written into an empty table, member by member.
  Dict.get?_insertAll entries [] key

namespace Shape

/-- Of a written record, each member that is asked for is the last one that was written under its
key. -/
theorem members?_ofMembers (keys : List String) (entries : List (String × Json)) :
    members? keys (.ofMembers entries) = some (keys.map fun key =>
      entries.foldl (fun held entry => if entry.1 = key then some entry.2 else held) none) := by
  -- Each key is asked for by itself.
  exact congrArg some (List.map_congr_left fun key _ => Json.member?_ofMembers entries key)

/-- A natural number of 64 bits is read as it was written. -/
theorem word_ofNat (value : UInt64) : word (.ofNat value.toNat) = some value := by
  -- Every such number is below the bound.
  have small : value.toNat < UInt64.size := value.toNat_lt
  simp [word, Json.ofNat, Json.asNatBelow?, small]

/-- A list is read as it was written if each of its items is. -/
theorem list_map {α : Type} {read : Json → Option α} {write : α → Json}
    (each : ∀ value, read (write value) = some value) (values : List α) :
    list read (.array (values.map write)) = some values := by
  -- The induction is on the values, and one that could not be read would spoil the list.
  have items : (values.map write).mapM read = some values := by
    induction values with
    | nil => rfl
    | cons first rest ih => simp [each, ih]
  exact items

end Shape

namespace Attributes

/-- Metadata is read as it was written, with an address or without. -/
theorem ofJson?_toJson (attributes : Attributes) : ofJson? attributes.toJson = some attributes := by
  obtain ⟨typeName, url⟩ := attributes
  -- Without an address its key is not written, and a missing one is read as none.
  cases url <;>
    simp [ofJson?, toJson, Shape.members?_ofMembers, Shape.required, Shape.optional, Json.asString?]

/-- Metadata that is put together member by member is metadata as it is written. -/
theorem toValue_eq_toJson (attributes : Attributes) : attributes.toValue = attributes.toJson := by
  -- With or without an address, the members are inserted in the same order.
  obtain ⟨typeName, url⟩ := attributes
  cases url <;> simp [toValue, toJson, Json.ofMembers, Dict.ofEntries, Dict.insertAll]

/-- An object states the type of the metadata that it holds. -/
theorem typeOf?_of_held {attributes : Attributes} {record : Object}
    (held : record.get? key = some attributes.toJson) :
    typeOf? record = some attributes.typeName := by
  -- The metadata is an object with the type among its members.
  have stated : attributes.toJson.member? "type" = some (.string attributes.typeName) := by
    obtain ⟨typeName, url⟩ := attributes
    cases url <;> simp [toJson, Json.member?_ofMembers]
  rw [typeOf?, held]
  exact congrArg (·.bind Json.asString?) stated

end Attributes

/-- A page of rows is read as it was written, whatever its rows are. -/
theorem QueryEnvelope.ofJson?_toJson (envelope : QueryEnvelope) :
    ofJson? envelope.toJson = some envelope := by
  obtain ⟨totalSize, done, records, next⟩ := envelope
  -- Without a link its key is not written, and a missing one is read as none.
  cases next <;>
    simp [ofJson?, toJson, keys, Shape.members?_ofMembers, Shape.withDefault, Shape.optional,
      Shape.word_ofNat, Json.asBool?, Json.asArray?, Json.asString?]

namespace ServerError

/-- The code of an error is written under one of its two keys only. -/
theorem codeOf?_toJson (error : ServerError) (code : Option Json) :
    codeOf? error.toJson code = some code := by
  -- The other key is written by no error, so it is not there to be read.
  have unwritten : error.toJson.member? "statusCode" = none := by
    simp [toJson, Json.member?_ofMembers]
  cases written : error.toJson with
  | object members =>
    rw [written] at unwritten
    have other : Dict.get? members "statusCode" = none := unwritten
    cases code <;> simp [codeOf?, other]
  | null | bool | number | string | array => rfl

/-- An error of the server is read as it was written. -/
theorem ofJson?_toJson (error : ServerError) : ofJson? error.toJson = some error := by
  -- Each of the three keys was written once, and its value is read back.
  have text (value : String) : Json.asString? (.string value) = some value := rfl
  have fields := Shape.list_map text error.fields
  have members := Shape.members?_ofMembers ["errorCode", "message", "fields"]
    [("errorCode", .string error.code), ("message", .string error.message),
      ("fields", .array (error.fields.map .string))]
  rw [← toJson] at members
  simp [ofJson?, members, codeOf?_toJson, Shape.withDefault, Json.asString?, fields]

/-- A list of errors is read as it was written, in its order. -/
theorem listOf_map_toJson (errors : List ServerError) :
    listOf (.array (errors.map toJson)) = errors := by
  -- Each error is read back, so none is dropped.
  have each : ofJson? ∘ toJson = some := funext ofJson?_toJson
  rw [listOf, List.filterMap_map, each, List.filterMap_some]

end ServerError

/-- The answer to a create is read as it was written. -/
theorem CreateResult.ofJson?_toJson (result : CreateResult) :
    ofJson? result.toJson = some result := by
  -- All keys are written, and the list of errors is read back item by item.
  have errors := Shape.list_map ServerError.ofJson?_toJson result.errors
  simp [ofJson?, toJson, Shape.members?_ofMembers, Shape.withDefault, Json.asString?, Json.asBool?,
    errors]

/-- The answer to an upsert is read as it was written, with an identifier or with null. -/
theorem UpsertResult.ofJson?_toJson (result : UpsertResult) :
    ofJson? result.toJson = some result := by
  -- A missing identifier is written as null, which is read as none.
  obtain ⟨id, created⟩ := result
  cases id <;>
    simp [ofJson?, toJson, Shape.members?_ofMembers, Shape.withDefault, Shape.optional,
      Json.asString?, Json.asBool?]

/-- A naming is read as it was written, whatever its suffix is. -/
theorem Naming.ofJson?_toJson (naming : Naming) : ofJson? naming.toJson = some naming := by
  -- Each kind of naming is written as a text or an object of its own.
  cases naming <;> rfl

/-- Mapping options are read as they were written. -/
theorem MappingConfig.ofJson?_toJson (config : MappingConfig) :
    ofJson? config.toJson = some config := by
  -- All keys are written, so no default is read.
  simp [ofJson?, toJson, Shape.members?_ofMembers, Shape.withDefault, Json.asBool?,
    Naming.ofJson?_toJson]

/-- Client options are read as they were written. -/
theorem ClientConfig.ofJson?_toJson (config : ClientConfig) :
    ofJson? config.toJson = some config := by
  -- All keys are written, so no default is read, and the limit fits in 64 bits.
  simp [ofJson?, toJson, keys, Shape.members?_ofMembers, Shape.withDefault, Shape.word_ofNat,
    Json.asString?, Json.asBool?]

/--
What is written for the wire is read back as it was.

This holds of metadata, pages of rows, answers to writes, errors of the server and options, whatever
texts, numbers and rows they hold, and although absent values are left out or written as null.
Metadata comes out the same when it is put together member by member, and an object that holds it
states its type.
A list of errors in a body is read in its order.
-/
theorem written_values_are_read_back :
    (∀ attributes : Attributes, Attributes.ofJson? attributes.toJson = some attributes ∧
      attributes.toValue = attributes.toJson ∧
      ∀ record : Object, record.get? Attributes.key = some attributes.toJson →
        Attributes.typeOf? record = some attributes.typeName) ∧
    (∀ envelope : QueryEnvelope, QueryEnvelope.ofJson? envelope.toJson = some envelope) ∧
    (∀ result : CreateResult, CreateResult.ofJson? result.toJson = some result) ∧
    (∀ result : UpsertResult, UpsertResult.ofJson? result.toJson = some result) ∧
    (∀ error : ServerError, ServerError.ofJson? error.toJson = some error) ∧
    (∀ errors : List ServerError,
      ServerError.listOf (.array (errors.map ServerError.toJson)) = errors) ∧
    (∀ naming : Naming, Naming.ofJson? naming.toJson = some naming) ∧
    (∀ config : MappingConfig, MappingConfig.ofJson? config.toJson = some config) ∧
    ∀ config : ClientConfig, ClientConfig.ofJson? config.toJson = some config :=
  -- The parts are the round trips of the several kinds of values.
  ⟨fun attributes => ⟨attributes.ofJson?_toJson, attributes.toValue_eq_toJson,
      fun _ => Attributes.typeOf?_of_held⟩,
    QueryEnvelope.ofJson?_toJson, CreateResult.ofJson?_toJson, UpsertResult.ofJson?_toJson,
    ServerError.ofJson?_toJson, ServerError.listOf_map_toJson, Naming.ofJson?_toJson,
    MappingConfig.ofJson?_toJson, ClientConfig.ofJson?_toJson⟩

/-- An account with its address states its type, and its metadata is read back with the address. -/
theorem written_values_are_read_back_account :
    let metadata : Attributes := ⟨"Account", some "/sobjects/Account/001"⟩
    let account : Object := [("Name", .string "Acme"), ("attributes", metadata.toJson)]
    Attributes.ofJson? metadata.toJson = some metadata ∧
      Attributes.typeOf? account = some "Account" := by
  -- This is the first part of the law, for one value and one object that holds it.
  intro metadata account
  obtain ⟨each, -⟩ := written_values_are_read_back
  obtain ⟨read, -, states⟩ := each metadata
  exact ⟨read, states account rfl⟩

end RemoteRecords
