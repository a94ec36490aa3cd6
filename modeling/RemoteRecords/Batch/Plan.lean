import RemoteRecords.Config.Client
import RemoteRecords.Mapper
import RemoteRecords.Rest.Path
import RemoteRecords.Wire.Batch

/-! Plans: operations on records as requests, with what is to become of the replies. -/

namespace RemoteRecords

/-- What becomes of the reply to a request. -/
inductive Completion where
  | created
  /-- One record, which is named in the error if it is missing. -/
  | fetched (descriptor : Descriptor) (record : String)
  | written
  | upserted
  | queried (descriptor : Descriptor)
deriving DecidableEq, Repr

/-- A request that is ready to be sent, and its completion. -/
structure Plan where
  request : SubRequest
  completion : Completion
deriving DecidableEq, Repr

/-- An operation on the records of one type. -/
inductive Call where
  | create (record : Json)
  | get (id : String)
  | update (record : Json)
  | patch (record : Json)
  | upsert (field : String) (record : Json)
  | delete (id : String)
  | query (template : String) (options : CompileOptions)
  | queryAll (template : String) (options : CompileOptions)
deriving DecidableEq, Repr

namespace Plan

/-- The error for a record that cannot be written. -/
def refuse (fault : CodecFault) : MapperM α :=
  throw (.codec fault)

def create (paths : Paths) (catalog : Catalog) (typeName : String) (record : Json) :
    MapperM Plan := do
  let descriptor ← Mapper.descriptorOf catalog typeName
  let body ← Mapper.encodeAs descriptor record .create
  pure ⟨⟨.post, paths.records descriptor.name, some body⟩, .created⟩

/-- Asks for the record's own fields. -/
def fetch (paths : Paths) (catalog : Catalog) (typeName id : String) : MapperM Plan := do
  let descriptor ← Mapper.descriptorOf catalog typeName
  let fields ← Mapper.fieldList descriptor "" 0
  let path := Paths.withParam (paths.record descriptor.name id) "fields" fields
  pure ⟨⟨.get, path, none⟩, .fetched descriptor (descriptor.name ++ " '" ++ id ++ "'")⟩

/-- An update or patch, addressed by the record's identifier. -/
def write (paths : Paths) (catalog : Catalog) (typeName : String) (record : Json)
    (intent : WriteIntent) : MapperM Plan := do
  let descriptor ← Mapper.descriptorOf catalog typeName
  -- Without an identifier there is no path to write to.
  match record.asObject?.bind descriptor.idOf? with
  | none => refuse (.missingId intent descriptor.name)
  | some id => do
    let body ← Mapper.encodeAs descriptor record intent
    pure ⟨⟨.patch, paths.record descriptor.name id, some body⟩, .written⟩

/-- The text of a key: a text that is not empty, or a number. -/
def keyText? : Option Json → Option String
  | some (.string text) => if text.isEmpty then none else some text
  | some (.number value) => some value.text
  | _ => none

/-- A payload without one of its members. -/
def without (body : Json) (key : String) : Json :=
  match body with
  | .object members => .object (Dict.erase members key)
  | other => other

/-- An upsert, addressed by the value of a field, which then does not go into the body. -/
def upsert (paths : Paths) (catalog : Catalog) (typeName field : String) (record : Json) :
    MapperM Plan := do
  let descriptor ← Mapper.descriptorOf catalog typeName
  match descriptor.field? field with
  | none => refuse (.unknownField descriptor.name field)
  | some declared =>
    match keyText? (record.member? declared.name) with
    | none => refuse (.missingKey descriptor.name declared.name)
    | some key => do
      let body ← Mapper.encodeAs descriptor record .create
      -- The key stands in the path and not also in the body.
      let path := paths.external descriptor.name declared.name key
      pure ⟨⟨.patch, path, some (without body declared.name)⟩, .upserted⟩

def delete (paths : Paths) (catalog : Catalog) (typeName id : String) : MapperM Plan := do
  let descriptor ← Mapper.descriptorOf catalog typeName
  pure ⟨⟨.delete, paths.record descriptor.name id, none⟩, .written⟩

/-- A query; the path of its text says whether deleted records are taken in. -/
def query (path : String → String) (catalog : Catalog) (typeName template : String)
    (options : CompileOptions) : MapperM Plan := do
  let descriptor ← Mapper.descriptorOf catalog typeName
  let text ← Mapper.compile descriptor template options
  pure ⟨⟨.get, path text, none⟩, .queried descriptor⟩

/-- The plan of an operation. -/
def ofCall (paths : Paths) (catalog : Catalog) (typeName : String) : Call → MapperM Plan
  | .create record => create paths catalog typeName record
  | .get id => fetch paths catalog typeName id
  | .update record => write paths catalog typeName record .update
  | .patch record => write paths catalog typeName record .patch
  | .upsert field record => upsert paths catalog typeName field record
  | .delete id => delete paths catalog typeName id
  | .query template options => query paths.query catalog typeName template options
  | .queryAll template options => query paths.queryAll catalog typeName template options

end Plan

end RemoteRecords
