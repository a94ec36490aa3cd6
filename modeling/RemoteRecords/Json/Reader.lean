import RemoteRecords.Json.Token

/-! Reading JSON text: tokens build one value on a stack of open arrays and objects. -/

namespace RemoteRecords.Json

/-- An array or object that is still open. -/
inductive Frame where
  /-- The items so far, newest first. -/
  | items (held : List Json)
  /-- The members so far and the key of the member at hand. -/
  | members (held : Object) (key : String)

/-- What a reader expects next. -/
inductive Phase where
  /-- A value, or the end of an array that was just opened. -/
  | value (mayClose : Bool)
  /-- A key, or the end of an object that was just opened. -/
  | key (mayClose : Bool) (held : Object)
  | colon (held : Object) (key : String)
  /-- A comma or the end of the innermost open array or object. -/
  | separator
  | finished (value : Json)

/-- A stack of open arrays and objects, innermost first, and what is expected. -/
structure Progress where
  stack : List Frame
  phase : Phase

/-- Arrays and objects nest less deep than this. -/
def nestingLimit : Nat := 128

/-- Puts a complete value in its place. -/
def deliver (stack : List Frame) (value : Json) : Progress :=
  match stack with
  -- With nothing open around it, the value is all of the text.
  | [] => ⟨[], .finished value⟩
  | .items held :: rest => ⟨.items (value :: held) :: rest, .separator⟩
  -- A key that occurs again replaces the earlier member.
  | .members held key :: rest => ⟨.members (held.insert key value) key :: rest, .separator⟩

/-- Reads one token where a value may stand. -/
def beginValue (stack : List Frame) (mayClose : Bool) : Token → Option Progress
  | .literal value => some (deliver stack value)
  | .text content => some (deliver stack (.string content))
  | .openArray =>
    if stack.length + 1 < nestingLimit then some ⟨.items [] :: stack, .value true⟩ else none
  | .openObject =>
    if stack.length + 1 < nestingLimit then some ⟨stack, .key true []⟩ else none
  -- Only an array that was just opened can close in place of a value.
  | .closeArray =>
    match mayClose, stack with
    | true, .items held :: rest => some (deliver rest (.array held.reverse))
    | _, _ => none
  | _ => none

/-- Reads one token. -/
def advance (progress : Progress) (token : Token) : Option Progress :=
  let stack := progress.stack
  match progress.phase, token with
  | .value mayClose, token => beginValue stack mayClose token
  | .key _ held, .text key => some ⟨stack, .colon held key⟩
  -- An object that was just opened can close in place of a key.
  | .key true held, .closeObject => some (deliver stack (.object held))
  | .colon held key, .colon => some ⟨.members held key :: stack, .value false⟩
  | .separator, token =>
    match stack, token with
    | .items held :: rest, .comma => some ⟨.items held :: rest, .value false⟩
    | .items held :: rest, .closeArray => some (deliver rest (.array held.reverse))
    -- The frame is taken off until the next key is known.
    | .members held _ :: rest, .comma => some ⟨rest, .key false held⟩
    | .members held _ :: rest, .closeObject => some (deliver rest (.object held))
    | _, _ => none
  | _, _ => none

/-- Reads a text that holds exactly one value. -/
def parse (text : String) : Option Json := do
  let tokens ← Token.ofText? text
  let progress ← tokens.foldlM advance ⟨[], .value false⟩
  -- Anything still open or expected at the end is a fault.
  match progress.phase with
  | .finished value => some value
  | _ => none

/-- Reads bytes that hold exactly one value as UTF-8 text. -/
def parseBytes (bytes : ByteArray) : Option Json :=
  (String.fromUTF8? bytes).bind parse

end RemoteRecords.Json
