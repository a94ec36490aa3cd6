import RemoteRecords.Config.ApiVersion
import RemoteRecords.Wire.Shape

/-! Client options: how requests are versioned, batched and expanded. -/

namespace RemoteRecords

/-- The most requests that a batch can hold. -/
def maxBatchRequests : Nat := 25

/-- The options of one session. -/
structure ClientConfig where
  apiVersion : String := "58.0"
  /-- Once a round trip fails, the later ones fail unsent. -/
  haltOnError : Bool := false
  /-- The requests per round trip, before it is brought into range. -/
  batchLimit : UInt64 := 25
  /-- Several operations go out in batches. -/
  batching : Bool := true
  /-- The relationship depth of wildcards. -/
  defaultDepth : UInt64 := 5
deriving DecidableEq, Repr, Inhabited

namespace ClientConfig

/-- The requests per round trip: at least one and at most what a batch can hold. -/
def effectiveBatchLimit (config : ClientConfig) : Nat :=
  -- A limit of zero would never send anything.
  min (max config.batchLimit.toNat 1) maxBatchRequests

/-- Batches are on and the API version accepts them. -/
def supportsBatching (config : ClientConfig) : Bool :=
  config.batching && ((VersionNumber.ofText? config.apiVersion).map (·.acceptsBatches)).getD false

/-- The keys of the options, in order. -/
def keys : List String :=
  ["api_version", "halt_on_error", "batch_limit", "batching", "default_depth"]

def ofJson? (value : Json) : Option ClientConfig := do
  match ← Shape.members? keys value with
  | [version, halt, limit, batching, depth] =>
    let apiVersion ← Shape.withDefault "58.0" Json.asString? version
    let haltOnError ← Shape.withDefault false Json.asBool? halt
    let batchLimit ← Shape.withDefault 25 Shape.word limit
    let batching ← Shape.withDefault true Json.asBool? batching
    let defaultDepth ← Shape.withDefault 5 Shape.word depth
    pure { apiVersion, haltOnError, batchLimit, batching, defaultDepth }
  | _ => none

def toJson (config : ClientConfig) : Json :=
  Json.ofMembers [("api_version", .string config.apiVersion),
    ("halt_on_error", .bool config.haltOnError),
    ("batch_limit", Json.ofNat config.batchLimit.toNat), ("batching", .bool config.batching),
    ("default_depth", Json.ofNat config.defaultDepth.toNat)]

end ClientConfig

end RemoteRecords
