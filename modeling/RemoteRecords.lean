import RemoteRecords.Batch.Completion
import RemoteRecords.Batch.Execution
import RemoteRecords.Batch.Plan
import RemoteRecords.Config.ApiVersion
import RemoteRecords.Config.Client
import RemoteRecords.Config.Mapping
import RemoteRecords.Descriptor.Basic
import RemoteRecords.Dict
import RemoteRecords.Error
import RemoteRecords.Json.Basic
import RemoteRecords.Json.Reader
import RemoteRecords.Json.Token
import RemoteRecords.Json.Writer
import RemoteRecords.Mapper
import RemoteRecords.Number.Binary64
import RemoteRecords.Number.Literal
import RemoteRecords.Number.Shortest
import RemoteRecords.Payload.Decode
import RemoteRecords.Payload.Encode
import RemoteRecords.Payload.Target
import RemoteRecords.Query.Compile
import RemoteRecords.Query.Expansion
import RemoteRecords.Query.Select
import RemoteRecords.Query.Template
import RemoteRecords.Registry.Basic
import RemoteRecords.Registry.Exploration
import RemoteRecords.Registry.Pool
import RemoteRecords.Registry.Publication
import RemoteRecords.Rest.Channel
import RemoteRecords.Rest.FormText
import RemoteRecords.Rest.Method
import RemoteRecords.Rest.Path
import RemoteRecords.Rest.Reply
import RemoteRecords.Schema.Basic
import RemoteRecords.Schema.Catalog
import RemoteRecords.Schema.Findings
import RemoteRecords.Schema.TypeRef
import RemoteRecords.Schema.Validation
import RemoteRecords.Session
import RemoteRecords.Version
import RemoteRecords.Wire.Attributes
import RemoteRecords.Wire.Batch
import RemoteRecords.Wire.QueryEnvelope
import RemoteRecords.Wire.ServerError
import RemoteRecords.Wire.Shape
import RemoteRecords.Wire.WriteResult
import RemoteRecords.Proofs.Registry.Exploration
import RemoteRecords.Proofs.Registry.Publication
import RemoteRecords.Proofs.Registry.History
import RemoteRecords.Proofs.Query.Cache
import RemoteRecords.Proofs.Query.Interleaving
import RemoteRecords.Proofs.Batch.Completion
import RemoteRecords.Proofs.Batch.RoundTrips
import RemoteRecords.Proofs.Batch.Settlement
import RemoteRecords.Proofs.Batch.Positions
import RemoteRecords.Proofs.Rest.Reply
import RemoteRecords.Proofs.Batch.Agreement
import RemoteRecords.Proofs.Payload.Targets
import RemoteRecords.Proofs.Payload.Members
import RemoteRecords.Proofs.Payload.Columns
import RemoteRecords.Proofs.Schema.Validation
import RemoteRecords.Proofs.Payload.RoundTrip
import RemoteRecords.Proofs.Registry.Defects
import RemoteRecords.Proofs.Registry.Alike
import RemoteRecords.Proofs.Registry.Twins
import RemoteRecords.Proofs.Query.LookupOrder
import RemoteRecords.Proofs.Registry.Closure
import RemoteRecords.Proofs.Config.Naming
import RemoteRecords.Proofs.Payload.Reading
import RemoteRecords.Proofs.Payload.ForeignKeys
import RemoteRecords.Proofs.Payload.Audit
import RemoteRecords.Proofs.Batch.Halting
import RemoteRecords.Proofs.Registry.Failures
import RemoteRecords.Proofs.Batch.Isolation
import RemoteRecords.Proofs.Schema.Identifier
import RemoteRecords.Proofs.Registry.Published
import RemoteRecords.Proofs.Query.Listing
import RemoteRecords.Proofs.Query.Chains
import RemoteRecords.Proofs.Query.Grammar
import RemoteRecords.Proofs.Dict
import RemoteRecords.Proofs.Payload.Keys
import RemoteRecords.Proofs.Payload.Updates
import RemoteRecords.Proofs.Batch.Pages
import RemoteRecords.Proofs.Query.Clauses
import RemoteRecords.Proofs.Query.Wildcards
import RemoteRecords.Proofs.Payload.Influence
import RemoteRecords.Proofs.Payload.Values
import RemoteRecords.Proofs.Payload.Rows
import RemoteRecords.Proofs.Payload.Edits
import RemoteRecords.Proofs.Payload.Places
import RemoteRecords.Proofs.Payload.Envelopes
import RemoteRecords.Proofs.Payload.Undeclared
import RemoteRecords.Proofs.Query.Compilation
import RemoteRecords.Proofs.Query.Recompilation
import RemoteRecords.Proofs.Query.Routes
import RemoteRecords.Proofs.Query.LetterCase
import RemoteRecords.Proofs.Dangling
import RemoteRecords.Proofs.Registry.Builds
import RemoteRecords.Proofs.Letters
import RemoteRecords.Proofs.Schema.WellFormed
import RemoteRecords.Proofs.Rest.FormText
import RemoteRecords.Proofs.Rest.Path
import RemoteRecords.Proofs.Batch.Statuses
import RemoteRecords.Proofs.Schema.Recordings
import RemoteRecords.Proofs.Wire.RoundTrips
import RemoteRecords.Proofs.Batch.Plans
import RemoteRecords.Proofs.Batch.Upserts
import RemoteRecords.Proofs.Batch.Versions
