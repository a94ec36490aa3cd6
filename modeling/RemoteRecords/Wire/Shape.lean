import RemoteRecords.Json.Basic

/-! Fixed record shapes on the wire: members by key in an object or by position in an array. -/

namespace RemoteRecords.Shape

/-- The members of a record with given keys, in the order of the keys. Other keys are ignored. An
array gives the members by position, the last ones may be missing, and no further item may follow. -/
def members? (keys : List String) : Json → Option (List (Option Json))
  | .object members => some (keys.map fun key => Dict.get? members key)
  | .array items =>
    -- Positions beyond the last item count as missing members.
    if items.length ≤ keys.length then
      some (items.map some ++ List.replicate (keys.length - items.length) none)
    else none
  | _ => none

/-- A member that has to be there. -/
def required (read : Json → Option α) (member : Option Json) : Option α :=
  member.bind read

/-- A member with a value of its own where it is missing. -/
def withDefault (value : α) (read : Json → Option α) : Option Json → Option α
  | none => some value
  | some member => read member

/-- A member that may be missing or null. -/
def optional (read : Json → Option α) : Option Json → Option (Option α)
  | none => some none
  | some .null => some none
  | some member => (read member).map some

/-- Every item of an array, read one by one. -/
def list (read : Json → Option α) (value : Json) : Option (List α) :=
  value.asArray?.bind fun items => items.mapM read

/-- A natural number of 64 bits. -/
def word (value : Json) : Option UInt64 :=
  (value.asNatBelow? UInt64.size).map UInt64.ofNat

/-- A natural number of 16 bits. -/
def shortWord (value : Json) : Option UInt16 :=
  (value.asNatBelow? UInt16.size).map UInt16.ofNat

/-- The name and content of a choice: a bare name, or an object whose only member it is. -/
def choice? : Json → Option (String × Option Json)
  | .string name => some (name, none)
  | .object [(name, content)] => some (name, some content)
  | _ => none

/-- A choice without content, which may be written as null. -/
def noContent (content : Option Json) : Bool :=
  content.all Json.isNull

end RemoteRecords.Shape
