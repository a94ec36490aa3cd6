import RemoteRecords.Number.Literal

/-! API versions: decimal numbers, of which those from 34 on accept batches. -/

namespace RemoteRecords

/-- The number that an API version writes. -/
inductive VersionNumber where
  /-- The value `digits * 10 ^ exponent`, negated or not. -/
  | finite (negative : Bool) (digits : List Char) (exponent : Int)
  | infinite (negative : Bool)
  | undefined
deriving DecidableEq, Repr

namespace VersionNumber

/-- Words that stand for a number, in lower case. -/
def ofWord? (negative : Bool) (text : List Char) : Option VersionNumber :=
  let word := String.ofList (text.map Char.toLower)
  if word = "inf" ∨ word = "infinity" then some (.infinite negative)
  else if word = "nan" then some .undefined
  else none

/-- Digits with an optional point among them or at an end, and an optional exponent. -/
def ofDigits? (negative : Bool) (text : List Char) : Option VersionNumber := do
  let (whole, rest) := Literal.digits text
  let (fraction, rest) := match rest with
    | '.' :: rest => Literal.digits rest
    | rest => ([], rest)
  -- A point alone writes no number.
  if whole.isEmpty && fraction.isEmpty then none else do
    let exponent ← Literal.readExponent rest
    pure (.finite negative (whole ++ fraction) (exponent.getD 0 - fraction.length))

/-- Reads a version: an optional sign, then digits or a word. -/
def ofText? (text : String) : Option VersionNumber :=
  let read (negative : Bool) (text : List Char) : Option VersionNumber :=
    -- No word begins with a digit or a point, so the order of the two readings is free.
    (ofDigits? negative text).orElse fun _ => ofWord? negative text
  match text.toList with
  | '-' :: rest => read true rest
  | '+' :: rest => read false rest
  | rest => read false rest

/-- A positive decimal is at least 34 once it is rounded to 24 bits: it lies at or above the
midpoint between 34 and the number before it, which is `2 ^ -19` below 34. -/
def reaches34 (digits : List Char) (exponent : Int) : Bool :=
  let significant := digits.dropWhile (· == '0')
  let value := Literal.natOf significant
  -- The value lies between `10 ^ (magnitude - 1)` and `10 ^ magnitude`.
  let magnitude : Int := significant.length + exponent
  if value = 0 ∨ magnitude < 2 then false
  else if 2 < magnitude then true
  else if exponent < 0 then
    value * Nat.pow 2 19 ≥ (34 * Nat.pow 2 19 - 1) * Nat.pow 10 (-exponent).toNat
  else value * Nat.pow 10 exponent.toNat * Nat.pow 2 19 ≥ 34 * Nat.pow 2 19 - 1

/-- Versions from 34 on, in single precision, accept batches. -/
def acceptsBatches : VersionNumber → Bool
  | .finite negative digits exponent => !negative && reaches34 digits exponent
  | .infinite negative => !negative
  | .undefined => false

end VersionNumber

end RemoteRecords
