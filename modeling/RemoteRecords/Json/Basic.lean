import RemoteRecords.Dict
import RemoteRecords.Number.Literal

/-! JSON values: what records, request bodies and answers are made of. -/

namespace RemoteRecords

/-- A JSON value; the members of an object stand in key order. -/
inductive Json where
  | null
  | bool (value : Bool)
  | number (value : Number)
  | string (text : String)
  | array (items : List Json)
  | object (members : List (String × Json))
deriving Repr, Inhabited

/-- The members of a JSON object. -/
abbrev Object := Dict Json

namespace Json

mutual

/-- Equality of JSON values is decidable. -/
def decEq : (left right : Json) → Decidable (left = right)
  | .null, .null => isTrue rfl
  | .bool a, .bool b => if same : a = b then isTrue (by rw [same]) else isFalse (by simpa using same)
  | .number a, .number b =>
    if same : a = b then isTrue (by rw [same]) else isFalse (by simpa using same)
  | .string a, .string b =>
    if same : a = b then isTrue (by rw [same]) else isFalse (by simpa using same)
  | .array a, .array b =>
    match decEqItems a b with
    | isTrue same => isTrue (by rw [same])
    | isFalse apart => isFalse (by simpa using apart)
  | .object a, .object b =>
    match decEqMembers a b with
    | isTrue same => isTrue (by rw [same])
    | isFalse apart => isFalse (by simpa using apart)
  -- Values of different kinds differ.
  | .null, .bool _ | .null, .number _ | .null, .string _ | .null, .array _ | .null, .object _
  | .bool _, .null | .bool _, .number _ | .bool _, .string _ | .bool _, .array _ | .bool _, .object _
  | .number _, .null | .number _, .bool _ | .number _, .string _ | .number _, .array _
  | .number _, .object _ | .string _, .null | .string _, .bool _ | .string _, .number _
  | .string _, .array _ | .string _, .object _ | .array _, .null | .array _, .bool _
  | .array _, .number _ | .array _, .string _ | .array _, .object _ | .object _, .null
  | .object _, .bool _ | .object _, .number _ | .object _, .string _ | .object _, .array _ =>
    isFalse (by simp)

def decEqItems : (left right : List Json) → Decidable (left = right)
  | [], [] => isTrue rfl
  | [], _ :: _ => isFalse (by simp)
  | _ :: _, [] => isFalse (by simp)
  | a :: as, b :: bs =>
    match decEq a b, decEqItems as bs with
    | isTrue head, isTrue tail => isTrue (by rw [head, tail])
    | isFalse apart, _ => isFalse (by simp [apart])
    | _, isFalse apart => isFalse (by simp [apart])

def decEqMembers : (left right : List (String × Json)) → Decidable (left = right)
  | [], [] => isTrue rfl
  | [], _ :: _ => isFalse (by simp)
  | _ :: _, [] => isFalse (by simp)
  | (name, a) :: as, (other, b) :: bs =>
    if key : name = other then
      match decEq a b, decEqMembers as bs with
      | isTrue head, isTrue tail => isTrue (by rw [key, head, tail])
      | isFalse apart, _ => isFalse (by simp [apart])
      | _, isFalse apart => isFalse (by simp [apart])
    else isFalse (by simp [key])

end

instance : DecidableEq Json := decEq

/-- An object of a list of members; the last member of a key stands. -/
def ofMembers (members : List (String × Json)) : Json :=
  .object (Dict.ofEntries members)

def ofNat (value : Nat) : Json :=
  .number (.integer value)

def isNull : Json → Bool
  | .null => true
  | _ => false

def asString? : Json → Option String
  | .string text => some text
  | _ => none

def asBool? : Json → Option Bool
  | .bool value => some value
  | _ => none

def asArray? : Json → Option (List Json)
  | .array items => some items
  | _ => none

def asObject? : Json → Option Object
  | .object members => some members
  | _ => none

/-- A natural number below a bound; doubles are none, even whole ones. -/
def asNatBelow? (bound : Nat) : Json → Option Nat
  | .number (.integer (.ofNat value)) => if value < bound then some value else none
  | _ => none

/-- The member of an object; other values have none. -/
def member? (value : Json) (key : String) : Option Json :=
  match value with
  | .object members => Dict.get? members key
  | _ => none

/-- A member of an object is smaller than the table that holds it. -/
theorem sizeOf_lt_of_get? {members : Object} {key : String} {value : Json}
    (found : members.get? key = some value) : sizeOf value < sizeOf members := by
  -- The member is a part of its entry, and the entry is a part of the table.
  have size := List.sizeOf_lt_of_mem (Dict.mem_of_get? found)
  have part : sizeOf (key, value) = 1 + sizeOf key + sizeOf value := rfl
  omega

end Json

end RemoteRecords
