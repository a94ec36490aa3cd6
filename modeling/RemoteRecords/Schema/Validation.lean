import RemoteRecords.Schema.Basic
import RemoteRecords.Schema.Findings

/-! Validation of record schemas: names, roles of fields and shapes of relationships. -/

namespace RemoteRecords

/-- What is wrong with a name. -/
inductive NameFault where
  | empty
  | tooLong
  | leadingDigit
  | foreignCharacter
deriving DecidableEq, Repr

namespace NameFault

/-- The greatest number of bytes of a name. -/
def limit : Nat := 80

/-- Names consist of ASCII letters, digits and underscores. -/
def isNameChar (c : Char) : Bool :=
  c.isAlphanum || c == '_'

/-- The first fault of a name. -/
def of? (name : String) : Option NameFault :=
  -- Of several faults the first in this order is reported.
  if name.isEmpty then some .empty
  else if name.utf8ByteSize > limit then some .tooLong
  else if (name.toList.head?.map Char.isDigit).getD false then some .leadingDigit
  else if !name.toList.all isNameChar then some .foreignCharacter
  else none

def text : NameFault → String
  | .empty => "is empty"
  | .tooLong => "exceeds " ++ toString limit ++ " characters"
  | .leadingDigit => "starts with a digit"
  | .foreignCharacter => "contains characters outside [A-Za-z0-9_]"

end NameFault

/-- What is wrong with a schema or with one of its fields. -/
inductive SchemaFault where
  | typeName (name : String) (fault : NameFault)
  | fieldName (fault : NameFault)
  | duplicateField (name : String)
  | manyIds (count : Nat)
  | manyAttributes (count : Nat)
  | idAndAttributes
  | roleNotSimple
  | writableAttributes
  | noAlternatives
  | repeatedAlternative (typeName : String)
  | unmappedFallback (typeName : String)
deriving DecidableEq, Repr

def SchemaFault.message : SchemaFault → String
  | .typeName name fault => "type name '" ++ name ++ "' " ++ fault.text
  | .fieldName fault => "field name " ++ fault.text
  | .duplicateField name => "duplicate field '" ++ name ++ "'"
  | .manyIds count => toString count ++ " id fields declared, at most one allowed"
  | .manyAttributes count => toString count ++ " attributes fields declared, at most one allowed"
  | .idAndAttributes => "field cannot be both id and attributes"
  | .roleNotSimple => "id and attributes fields must be simple values"
  | .writableAttributes => "attributes field cannot be written"
  | .noAlternatives => "polymorphic field declares no alternatives"
  | .repeatedAlternative name => "alternative '" ++ name ++ "' listed twice"
  | .unmappedFallback name => "default '" ++ name ++ "' is not a mapped type"

/-- The names of a list that stand there a second time or more, in order. -/
def repeats (names : List String) : List String :=
  after [] names
where
  after (seen : List String) : List String → List String
    | [] => []
    | name :: rest => if name ∈ seen then name :: after seen rest else after (name :: seen) rest

namespace FieldSchema

def nameFaults (field : FieldSchema) : List SchemaFault :=
  (NameFault.of? field.name).toList.map .fieldName

/-- Identifier and metadata are two different simple values, and metadata is never written. -/
def roleFaults (field : FieldSchema) : List SchemaFault :=
  (if field.isId && field.isAttributes then [.idAndAttributes] else []) ++
  (if (field.isId || field.isAttributes) && field.shape != .simple then [.roleNotSimple] else []) ++
  (if field.isAttributes && (field.insertable || field.updatable) then [.writableAttributes] else [])

/-- A polymorphic field has alternatives, each once, and a mapped fallback if any. -/
def shapeFaults (field : FieldSchema) : List SchemaFault :=
  match field.shape with
  | .polymorphic alternatives fallback =>
    (if alternatives.isEmpty then [.noAlternatives] else []) ++
    (repeats (alternatives.map (·.typeName))).map .repeatedAlternative ++
    (fallback.toList.filter (·.kind != .mapped)).map fun token => .unmappedFallback token.typeName
  | _ => []

/-- All faults of one field. -/
def faults (field : FieldSchema) : List SchemaFault :=
  field.nameFaults ++ field.roleFaults ++ field.shapeFaults

end FieldSchema

namespace RecordSchema

/-- The faults of the schema as a whole. -/
def ownFaults (schema : RecordSchema) : List SchemaFault :=
  -- Roles are counted over all fields, since no single field is at fault.
  let ids := schema.fields.countP (·.isId)
  let attributes := schema.fields.countP (·.isAttributes)
  (NameFault.of? schema.name).toList.map (.typeName schema.name) ++
  (repeats (schema.fields.map (·.name))).map .duplicateField ++
  (if ids > 1 then [.manyIds ids] else []) ++
  (if attributes > 1 then [.manyAttributes attributes] else [])

/-- All faults: those of the schema on the root, those of a field under the field's name. -/
def findings (schema : RecordSchema) : Findings :=
  let root := schema.ownFaults.foldl (fun held fault => held.add fault.message) Findings.empty
  let phase (part : FieldSchema → List SchemaFault) (held : Findings) : Findings :=
    -- Each phase passes over all fields before the next phase begins.
    schema.fields.foldl (fun held field =>
      (part field).foldl (fun held fault => held.addFor field.name fault.message) held) held
  phase (·.shapeFaults) (phase (·.roleFaults) (phase (·.nameFaults) root))

/-- Accepts a schema without faults. -/
def validate (schema : RecordSchema) : Except Findings Unit :=
  schema.findings.result

/-- The message for a schema that is not accepted. -/
def rejection (schema : RecordSchema) (findings : Findings) : String :=
  "schema validation failed for '" ++ schema.name ++ "': " ++ findings.text

end RecordSchema

end RemoteRecords
