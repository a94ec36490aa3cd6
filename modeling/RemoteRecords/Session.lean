import RemoteRecords.Batch.Execution

/-! Sessions: single calls that return their outcome, and batches of calls that run together. -/

namespace RemoteRecords

/-- A handle on an operation: not yet completed, or completed with its outcome. -/
inductive Operation where
  | pending
  | completed (outcome : Except Error Outcome)

namespace Operation

def isDone : Operation → Bool
  | .pending => false
  | .completed _ => true

/-- The outcome; before completion there is none to be read. -/
def get : Operation → Except Error Outcome
  | .pending => .error .incomplete
  | .completed outcome => outcome

/-- The error that an operation was completed with. -/
def error? : Operation → Option Error
  | .completed (.error error) => some error
  | _ => none

end Operation

/-- A client's options, its mapper and its connection. -/
structure Session where
  config : ClientConfig
  mapper : Mapper
  channel : Channel

/-- The planned operations of a batch, in order of submission. -/
abbrev Batch := List Plan

namespace Session

def paths (session : Session) : Paths :=
  Paths.ofVersion session.config.apiVersion

/-- The options for queries that bring none of their own. -/
def compileOptions (session : Session) : CompileOptions :=
  { depth := session.config.defaultDepth.toNat }

/-- Runs a step on the session's mapper. -/
def onMapper (session : Session) (step : MapperM α) : Except Error α × Session :=
  let (answer, mapper) := step.run.run session.mapper
  (answer, { session with mapper })

/-- Adds an operation to a batch. One that cannot be planned is not added. -/
def submit (session : Session) (catalog : Catalog) (typeName : String) (call : Call)
    (batch : Batch) : Except Error Batch × Session :=
  match session.onMapper (Plan.ofCall session.paths catalog typeName call) with
  | (.ok plan, session) => (.ok (batch ++ [plan]), session)
  -- What cannot be planned leaves the batch as it was.
  | (.error error, session) => (.error error, session)

/-- Executes a batch: each operation is completed. -/
def execute (session : Session) (batch : Batch) : List Operation × Session :=
  let (outcomes, channel) :=
    Execution.run session.config session.mapper.registry session.channel batch
  (outcomes.map .completed, { session with channel })

/-- Executes one operation by itself. -/
def call (session : Session) (catalog : Catalog) (typeName : String) (call : Call) :
    Except Error Outcome × Session :=
  match session.submit catalog typeName call [] with
  | (.error error, session) => (.error error, session)
  | (.ok batch, session) =>
    let (operations, session) := session.execute batch
    -- The batch holds one operation, so execution completes one.
    ((operations.head?.getD .pending).get, session)

/-- The query text of a template. -/
def compile (session : Session) (catalog : Catalog) (typeName template : String)
    (options : CompileOptions) : Except Error String × Session :=
  session.onMapper do
    let root ← Mapper.descriptorOf catalog typeName
    Mapper.compile root template options

end Session

end RemoteRecords
