import RemoteRecords.Wire.Shape

/-! Mapping options: how relationships name their foreign keys, and which columns stay unwritten. -/

namespace RemoteRecords

/-- How the name of a relationship becomes the name of its foreign-key column. -/
inductive Naming where
  /-- `Id` is appended. -/
  | standard
  /-- A final `__r` becomes `__c`; other names are as in the standard. -/
  | custom
  /-- The given text is appended. -/
  | suffix (text : String)
deriving DecidableEq, Repr, Inhabited

namespace Naming

/-- The stem of a name that ends in `__r`. -/
def customStem? (name : String) : Option String :=
  match name.toList.reverse with
  | 'r' :: '_' :: '_' :: stem => some (String.ofList stem.reverse)
  | _ => none

/-- The foreign-key column of a relationship. -/
def referenceKey (naming : Naming) (name : String) : String :=
  match naming with
  | .standard => name ++ "Id"
  | .custom =>
    match customStem? name with
    -- The relationship and its column differ in one letter.
    | some stem => stem ++ "__c"
    | none => name ++ "Id"
  | .suffix text => name ++ text

def ofJson? (value : Json) : Option Naming := do
  match ← Shape.choice? value with
  | ("standard", content) => if Shape.noContent content then some .standard else none
  | ("custom", content) => if Shape.noContent content then some .custom else none
  | ("suffix", some (.string text)) => some (.suffix text)
  | _ => none

def toJson : Naming → Json
  | .standard => .string "standard"
  | .custom => .string "custom"
  | .suffix text => Json.ofMembers [("suffix", .string text)]

end Naming

/-- The options that descriptors depend on. -/
structure MappingConfig where
  naming : Naming := .standard
  /-- Columns that the server maintains are left out of every write. -/
  protectAuditFields : Bool := false
deriving DecidableEq, Repr, Inhabited

namespace MappingConfig

/-- The same options with audit columns protected. -/
def protectingAuditFields (config : MappingConfig) : MappingConfig :=
  { config with protectAuditFields := true }

def ofJson? (value : Json) : Option MappingConfig := do
  match ← Shape.members? ["naming", "protect_audit_fields"] value with
  | [naming, protect] =>
    let naming ← Shape.withDefault .standard Naming.ofJson? naming
    let protectAuditFields ← Shape.withDefault false Json.asBool? protect
    pure { naming, protectAuditFields }
  | _ => none

def toJson (config : MappingConfig) : Json :=
  Json.ofMembers [("naming", config.naming.toJson),
    ("protect_audit_fields", .bool config.protectAuditFields)]

end MappingConfig

end RemoteRecords
