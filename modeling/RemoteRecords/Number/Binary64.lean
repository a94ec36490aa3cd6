/-! Finite double-precision numbers, held exactly and rounded to the nearest, ties to even. -/

namespace RemoteRecords

/-- A finite double: its size is `significand * 2 ^ exponent`. -/
structure Binary64 where
  negative : Bool
  significand : Nat
  exponent : Int
deriving DecidableEq, Repr, Inhabited

namespace Binary64

/-- The exponent of the smallest doubles. -/
def leastExponent : Int := -1074

/-- The exponent of the largest doubles. -/
def greatestExponent : Int := 971

/-- Zero of either sign. -/
def zero (negative : Bool) : Binary64 :=
  ⟨negative, 0, leastExponent⟩

def isZero (number : Binary64) : Bool :=
  number.significand == 0

def negate (number : Binary64) : Binary64 :=
  { number with negative := !number.negative }

/-- The natural number nearest to a quotient, the even one on a tie. -/
def roundDiv (num den : Nat) : Nat :=
  let quotient := num / den
  let twice := 2 * (num % den)
  -- Twice the remainder tells on which side of one half the fraction lies.
  if twice > den || (twice == den && quotient % 2 == 1) then quotient + 1 else quotient

/-- A ratio measured in units of `2 ^ exponent`. -/
def inUnits (num den : Nat) (exponent : Int) : Nat × Nat :=
  -- A negative power scales the numerator, so that no digit is lost.
  if exponent < 0 then (num * Nat.pow 2 (-exponent).toNat, den)
  else (num, den * Nat.pow 2 exponent.toNat)

/-- The exponent at which a ratio takes 53 bits, or the least exponent if that is greater. -/
def unitOf (num den : Nat) : Int :=
  let guess := max ((num.log2 : Int) - den.log2 - 53) leastExponent
  let (top, bottom) := inUnits num den guess
  -- The guess from the bit lengths is at most one too small.
  if top / bottom ≥ Nat.pow 2 53 then guess + 1 else guess

/-- The double nearest to a ratio; a ratio beyond the largest double has none. -/
def ofRatio (negative : Bool) (num den : Nat) : Option Binary64 :=
  if num = 0 then some (zero negative) else
    let exponent := unitOf num den
    let (top, bottom) := inUnits num den exponent
    let rounded := roundDiv top bottom
    -- Rounding up can reach the next power of two, which starts the next binade.
    let number : Binary64 :=
      if rounded = Nat.pow 2 53 then ⟨negative, Nat.pow 2 52, exponent + 1⟩
      else ⟨negative, rounded, exponent⟩
    if number.exponent > greatestExponent then none else some number

/-- The double nearest to a ratio times a power of two. -/
def ofScaled (negative : Bool) (num den : Nat) (exponent : Int) : Option Binary64 :=
  -- The power of two goes to one side of the ratio, so rounding happens once.
  if exponent < 0 then ofRatio negative num (den * Nat.pow 2 (-exponent).toNat)
  else ofRatio negative (num * Nat.pow 2 exponent.toNat) den

/-- The rounded product of two doubles, unless it is too large. -/
def mul (left right : Binary64) : Option Binary64 :=
  ofScaled (left.negative != right.negative) (left.significand * right.significand) 1
    (left.exponent + right.exponent)

/-- The rounded quotient of two doubles, unless it is too large. -/
def div (left right : Binary64) : Option Binary64 :=
  ofScaled (left.negative != right.negative) left.significand right.significand
    (left.exponent - right.exponent)

/-- The double nearest to a power of ten. -/
def powerOfTen (exponent : Nat) : Option Binary64 :=
  ofRatio false (Nat.pow 10 exponent) 1

end Binary64

end RemoteRecords
