import RemoteRecords.Payload.Decode
import RemoteRecords.Payload.Encode
import RemoteRecords.Query.Compile
import RemoteRecords.Registry.Publication

/-! Mappers: a registry with its cache of select lists, and the record operations that use them. -/

namespace RemoteRecords

/-- A registry and the select lists expanded from it. -/
structure Mapper where
  registry : Registry
  expansions : ExpansionCache := {}
deriving Inhabited

/-- One page of a query's result, with its records as read. -/
structure QueryPage where
  totalSize : UInt64
  done : Bool
  records : List Json
  nextRecordsUrl : Option String
deriving DecidableEq, Repr, Inhabited

/-- A page of rows of one type. -/
def QueryPage.ofEnvelope (registry : Registry) (descriptor : Descriptor)
    (envelope : QueryEnvelope) : Except Error QueryPage := do
  let records ← envelope.records.mapM (Payload.decode registry descriptor)
  pure { totalSize := envelope.totalSize, done := envelope.done, records
         nextRecordsUrl := envelope.nextRecordsUrl }

/-- A step that can fail and, failed or not, can leave the mapper with more published types. -/
abbrev MapperM := ExceptT Error (StateM Mapper)

namespace Mapper

/-- A mapper without any published type. -/
def ofConfig (config : MappingConfig) : Mapper :=
  { registry := { config } }

/-- The descriptor of a type, or none for a type without one. -/
def descriptor (catalog : Catalog) (token : TypeRef) : MapperM (Option Descriptor) := do
  let mapper ← get
  let (answer, registry) := mapper.registry.descriptor catalog token
  set { mapper with registry }
  ExceptT.mk (pure answer)

/-- The descriptor of a record type. -/
def descriptorOf (catalog : Catalog) (typeName : String) : MapperM Descriptor := do
  let mapper ← get
  let (answer, registry) := mapper.registry.descriptorOf catalog typeName
  -- Types found to be without descriptor stay known, even if the caller gives up.
  set { mapper with registry }
  ExceptT.mk (pure answer)

/-- Runs a step of query compilation over the cache. -/
def cached (step : Registry → Expansion.Cached α) : MapperM α := do
  let mapper ← get
  let (answer, expansions) := (step mapper.registry).run.run mapper.expansions
  -- The lists expanded before a failure stay valid.
  set { mapper with expansions }
  ExceptT.mk (pure (answer.mapError .queryCompile))

/-- The query text of a template. -/
def compile (root : Descriptor) (template : String) (options : CompileOptions) : MapperM String :=
  cached fun registry => Query.compileCached registry root template options

/-- The field list of a descriptor below a path. -/
def fieldList (descriptor : Descriptor) (path : String) (depth : Nat) : MapperM String := do
  let items ← cached fun registry => Expansion.cachedList registry depth descriptor path
  pure (SelectItem.listText items)

/-- The payload of a record of a given descriptor. -/
def encodeAs (descriptor : Descriptor) (record : Json) (intent : WriteIntent) : MapperM Json := do
  let mapper ← get
  ExceptT.mk (pure ((Payload.encode mapper.registry descriptor record intent).mapError .codec))

/-- The payload of a record. -/
def encode (catalog : Catalog) (typeName : String) (record : Json) (intent : WriteIntent) :
    MapperM Json := do
  let descriptor ← descriptorOf catalog typeName
  encodeAs descriptor record intent

/-- A record of a given descriptor, as read. -/
def decodeAs (descriptor : Descriptor) (value : Json) : MapperM Json := do
  let mapper ← get
  ExceptT.mk (pure (Payload.decode mapper.registry descriptor value))

/-- A record as read. -/
def decode (catalog : Catalog) (typeName : String) (value : Json) : MapperM Json := do
  let descriptor ← descriptorOf catalog typeName
  decodeAs descriptor value

/-- A page of records as read; a page without rows asks for no descriptor. -/
def decodeQuery (catalog : Catalog) (typeName : String) (envelope : QueryEnvelope) :
    MapperM QueryPage := do
  -- Every row asks for the descriptor anew and finds it published.
  let records ← envelope.records.mapM (decode catalog typeName)
  pure { totalSize := envelope.totalSize, done := envelope.done, records
         nextRecordsUrl := envelope.nextRecordsUrl }

/-- The identifier of a record, unless it is empty. -/
def recordId? (catalog : Catalog) (typeName : String) (record : Json) : MapperM (Option String) := do
  let descriptor ← descriptorOf catalog typeName
  pure (record.asObject?.bind descriptor.idOf?)

end Mapper

end RemoteRecords
