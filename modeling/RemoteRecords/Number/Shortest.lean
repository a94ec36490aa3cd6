import RemoteRecords.Number.Binary64

/-! The shortest decimal that reads back as a double, the nearest one where several are shortest. -/

namespace RemoteRecords

/-- A positive decimal: its value is `digits * 10 ^ exponent`. -/
structure Decimal where
  digits : Nat
  exponent : Int
deriving DecidableEq, Repr, Inhabited

namespace Decimal

/-- Drops trailing zero digits, at most as many as told. -/
def strip : Nat → Decimal → Decimal
  | 0, decimal => decimal
  | limit + 1, decimal =>
    if decimal.digits % 10 = 0 then strip limit ⟨decimal.digits / 10, decimal.exponent + 1⟩
    else decimal

end Decimal

namespace Binary64

/-- The reals that round to a double, as ratios over one denominator. -/
structure Span where
  low : Nat
  value : Nat
  high : Nat
  den : Nat
  /-- Both ends round to the double too. -/
  closed : Bool

/-- The span of a nonzero double. -/
def span (number : Binary64) : Span :=
  -- Below a power of two the doubles lie twice as close, except at the least exponent.
  let narrow := number.significand == Nat.pow 2 52 && number.exponent > leastExponent
  let low := 4 * number.significand - (if narrow then 1 else 2)
  let value := 4 * number.significand
  let high := 4 * number.significand + 2
  -- Quarter units hold both midpoints to the neighbours as whole numbers.
  let shift := number.exponent - 2
  let closed := number.significand % 2 == 0
  if shift < 0 then ⟨low, value, high, Nat.pow 2 (-shift).toNat, closed⟩
  else
    let scale := Nat.pow 2 shift.toNat
    ⟨low * scale, value * scale, high * scale, 1, closed⟩

/-- The exponent of the leading decimal digit of a positive ratio. -/
def leadingExponent (num den : Nat) : Int :=
  if den ≤ num then ((Nat.toDigits 10 (num / den)).length : Int) - 1
  else
    let places := (Nat.toDigits 10 (den / num)).length
    -- An exact power of ten below one leads at its own exponent.
    if num * Nat.pow 10 (places - 1) = den then -((places : Int) - 1) else -(places : Int)

/-- The multiple of a power of ten that lies in a span, the nearer of two and the even on a tie. -/
def Span.onGrid (span : Span) (exponent : Int) : Option Nat :=
  -- Scaling by the power of ten makes the points of the grid multiples of one unit.
  let up := Nat.pow 10 (-exponent).toNat
  let unit := Nat.pow 10 exponent.toNat * span.den
  let value := span.value * up
  let below := value / unit
  let inside (count : Nat) : Bool :=
    let point := count * unit
    if span.closed then span.low * up ≤ point && point ≤ span.high * up
    else span.low * up < point && point < span.high * up
  let twice := 2 * (value % unit)
  -- Only the two points around the value can be the nearest ones.
  match inside below, inside (below + 1) with
  | true, true =>
    if twice < unit || (twice == unit && below % 2 == 0) then some below else some (below + 1)
  | true, false => some below
  | false, true => some (below + 1)
  | false, false => none

/-- The first grid of decimals that meets a span, from coarse to fine. -/
def Span.search (span : Span) (leading : Int) (places : Nat) : Nat → Decimal
  -- The seventeenth digit always meets the span, so the tries never run out.
  | 0 => ⟨span.value / span.den, 0⟩
  | tries + 1 =>
    let exponent := leading - places
    -- No coarser grid met the span, so the first hit has the fewest digits.
    match span.onGrid exponent with
    | some digits => Decimal.strip (places + 1) ⟨digits, exponent⟩
    | none => span.search leading (places + 1) tries

/-- The shortest decimal that reads back as a nonzero double; seventeen digits always do. -/
def shortest (number : Binary64) : Decimal :=
  let span := number.span
  span.search (leadingExponent span.value span.den) 0 18

/-- An exponent with its sign, which is written in either direction. -/
def exponentText (exponent : Int) : List Char :=
  if exponent < 0 then '-' :: Nat.toDigits 10 exponent.natAbs
  else '+' :: Nat.toDigits 10 exponent.natAbs

/-- Decimals with a leading digit from the fifth place after the point up to the sixteenth before
it are written positionally, all others with an exponent. -/
def textOf (decimal : Decimal) : String :=
  let digits := Nat.toDigits 10 decimal.digits
  let count : Int := digits.length
  -- The decimal point stands behind this many digits.
  let point := count + decimal.exponent
  let body :=
    if 0 ≤ decimal.exponent ∧ point ≤ 16 then
      -- A whole number keeps one zero behind its point.
      digits ++ List.replicate decimal.exponent.toNat '0' ++ ['.', '0']
    else if 0 < point ∧ point ≤ 16 then
      -- The point falls among the digits.
      digits.take point.toNat ++ '.' :: digits.drop point.toNat
    else if -5 < point ∧ point ≤ 0 then
      -- Zeros fill the places between the point and the digits.
      '0' :: '.' :: List.replicate (-point).toNat '0' ++ digits
    else
      -- One digit stands before the point, and a single digit needs no point.
      let mantissa := match digits with
        | [] => []
        | [only] => [only]
        | first :: rest => first :: '.' :: rest
      mantissa ++ 'e' :: exponentText (point - 1)
  String.ofList body

/-- The text of a double: the fewest digits that read back, always with a point or an exponent. -/
def text (number : Binary64) : String :=
  let size := if number.isZero then "0.0" else textOf number.shortest
  if number.negative then "-" ++ size else size

end Binary64

end RemoteRecords
