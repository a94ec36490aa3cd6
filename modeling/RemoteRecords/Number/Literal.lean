import RemoteRecords.Number.Binary64

/-! Number literals: their grammar and the numbers that they denote. -/

namespace RemoteRecords

/-- A number: an integer of 64 bits, signed or not, or a finite double. -/
inductive Number where
  | integer (value : Int)
  | real (value : Binary64)
deriving DecidableEq, Repr, Inhabited

/-- The parts of a number literal. -/
structure Literal where
  negative : Bool
  whole : List Char
  fraction : Option (List Char)
  exponent : Option Int
deriving DecidableEq, Repr

namespace Literal

/-- Splits the leading ASCII digits off. -/
def digits (text : List Char) : List Char × List Char :=
  (text.takeWhile Char.isDigit, text.dropWhile Char.isDigit)

def digitValue (digit : Char) : Nat :=
  digit.toNat - 48

/-- The number written by decimal digits. -/
def natOf (text : List Char) : Nat :=
  text.foldl (fun value digit => value * 10 + digitValue digit) 0

/-- The digits before the point: a zero stands alone. -/
def readWhole (text : List Char) : Option (List Char × List Char) :=
  match digits text with
  | ([], _) => none
  -- A leading zero admits no further digit.
  | ('0' :: _ :: _, _) => none
  | (whole, rest) => some (whole, rest)

/-- A point needs a digit after it. -/
def readFraction (text : List Char) : Option (Option (List Char) × List Char) :=
  match text with
  | '.' :: rest =>
    match digits rest with
    | ([], _) => none
    | (fraction, rest) => some (some fraction, rest)
  | rest => some (none, rest)

/-- An exponent ends the literal and needs a digit. -/
def readExponent (text : List Char) : Option (Option Int) :=
  -- The sign is taken off first, and nothing may follow the digits.
  let read (sign : Int) (text : List Char) : Option (Option Int) :=
    match digits text with
    | ([], _) => none
    | (power, []) => some (some (sign * natOf power))
    | (_, _ :: _) => none
  match text with
  | [] => some none
  | 'e' :: '+' :: rest => read 1 rest
  | 'e' :: '-' :: rest => read (-1) rest
  | 'e' :: rest => read 1 rest
  | 'E' :: '+' :: rest => read 1 rest
  | 'E' :: '-' :: rest => read (-1) rest
  | 'E' :: rest => read 1 rest
  | _ => none

/-- Reads a whole text as one literal. -/
def ofChars? (text : List Char) : Option Literal := do
  let (negative, unsigned) := match text with
    | '-' :: rest => (true, rest)
    | rest => (false, rest)
  -- Each part takes its characters off the front of what is left.
  let (whole, rest) ← readWhole unsigned
  let (fraction, rest) ← readFraction rest
  let exponent ← readExponent rest
  pure ⟨negative, whole, fraction, exponent⟩

/-- One more than the largest unsigned integer of 64 bits. -/
def wordLimit : Nat := Nat.pow 2 64

/-- Takes digits into a significand while it stays within 64 bits and returns the digits left. -/
def accumulate (significand : Nat) : List Char → Nat × List Char
  | [] => (significand, [])
  | digit :: rest =>
    -- The first digit that does not fit ends the significand.
    let next := significand * 10 + digitValue digit
    if next < wordLimit then accumulate next rest else (significand, digit :: rest)

/-- The significand of 64 bits and the power of ten that stand for a literal's digits. Digits of the
whole part that do not fit count as zeros, and digits of the fraction are taken until one does not
fit. -/
def scaled (literal : Literal) : Nat × Int :=
  let (whole, dropped) := accumulate 0 literal.whole
  match literal.fraction with
  | none => (whole, dropped.length)
  | some fraction =>
    let (significand, unread) := accumulate whole fraction
    -- Every digit taken behind the point lowers the power of ten by one.
    (significand, (dropped.length : Int) - (fraction.length - unread.length))

/-- Multiplies or divides a double by a power of ten, in steps of at most 308 places. -/
def timesPowerOfTen (number : Binary64) (exponent : Int) : Option Binary64 :=
  if exponent.natAbs ≤ 308 then do
    let power ← Binary64.powerOfTen exponent.natAbs
    if 0 ≤ exponent then number.mul power else number.div power
  -- Zero stays zero under every power, and all else overflows beyond the largest power.
  else if number.isZero then some number
  else if 0 ≤ exponent then none
  else do
    -- Smaller numbers are divided step by step until the rest of the power is in reach.
    let power ← Binary64.powerOfTen 308
    let number ← number.div power
    timesPowerOfTen number (exponent + 308)
termination_by exponent.natAbs
decreasing_by omega

/-- The double of a literal: its significand, rounded, times its rounded power of ten. -/
def real (literal : Literal) : Option Binary64 := do
  let (significand, exponent) := literal.scaled
  let start ← Binary64.ofRatio false significand 1
  let size ← timesPowerOfTen start (exponent + literal.exponent.getD 0)
  pure (if literal.negative then size.negate else size)

/-- The number of a literal. Without point and exponent it is an integer if it fits one, except that
minus zero is a double; a double must be finite. -/
def number (literal : Literal) : Option Number :=
  let value := natOf literal.whole
  let integral := literal.fraction.isNone && literal.exponent.isNone
  -- Whole numbers stay exact while a word of 64 bits, signed or not, holds them.
  if integral && !literal.negative && value < wordLimit then some (.integer value)
  else if integral && literal.negative && 0 < value && value ≤ Nat.pow 2 63 then some (.integer (-value))
  else literal.real.map .real

end Literal

end RemoteRecords
