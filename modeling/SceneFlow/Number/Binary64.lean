import SceneFlow.Number.Rounding

/-!
Binary floating-point numbers of 64 bits (binary64), held exactly: a finite number is a mantissa of
at most 53 bits times a power of two.
-/

namespace SceneFlow.Number

/-- The number `finite negative mantissa exponent` has the magnitude `mantissa * 2 ^ exponent`. -/
inductive Binary64
  | nan
  | infinite (negative : Bool)
  | finite (negative : Bool) (mantissa : Nat) (exponent : Int)
  deriving DecidableEq

namespace Binary64

def leastExponent : Int := -1074

def greatestExponent : Int := 971

def leadingBit : Nat := 0x10000000000000

def zero (negative : Bool) : Binary64 := .finite negative 0 leastExponent

def inUnits (num den : Nat) (exponent : Int) : Nat × Nat :=
  if exponent < 0 then (num * Nat.pow 2 (-exponent).toNat, den)
  else (num, den * Nat.pow 2 exponent.toNat)

def lastPlace (num den : Nat) : Int :=
  let guess : Int := (num.log2 : Int) - den.log2 - 52
  let (n, d) := inUnits num den guess
  max leastExponent (if n < leadingBit * d then guess - 1 else guess)

/-- The number nearest to `num / den`, a tie going to the even mantissa. Numbers that round past the
largest finite one are infinite. -/
def ofRatio (negative : Bool) (num den : Nat) : Binary64 :=
  if num = 0 then zero negative
  else
    let exponent := lastPlace num den
    let (n, d) := inUnits num den exponent
    let mantissa := roundDiv n d .even
    let (mantissa, exponent) :=
      if mantissa = 2 * leadingBit then (leadingBit, exponent + 1) else (mantissa, exponent)
    if greatestExponent < exponent then .infinite negative else .finite negative mantissa exponent

/-- The number nearest to `digits * 10 ^ exponent`. Exponents far out of range are settled without
their power of ten: from `10 ^ 400` on all is infinite, and below `10 ^ (-400)` all is zero. -/
def ofDecimal (negative : Bool) (digits : Nat) (exponent : Int) : Binary64 :=
  if digits = 0 then zero negative
  else if 400 ≤ exponent then .infinite negative
  else if exponent + digits.log2 + 401 ≤ 0 then zero negative
  else if exponent < 0 then ofRatio negative digits (Nat.pow 10 (-exponent).toNat)
  else ofRatio negative (digits * Nat.pow 10 exponent.toNat) 1

def isFiniteNonNegative : Binary64 → Bool
  | nan | infinite _ => false
  | finite negative mantissa _ => !negative || mantissa == 0

def signBit : Nat := 0x8000000000000000

/-- Sign bit, eleven bits of biased exponent, fifty-two bits of fraction. All that is not a number
has one and the same pattern. -/
def bits : Binary64 → Nat
  | nan => 0x7FF8000000000000
  | infinite negative => negative.toNat * signBit + 0x7FF0000000000000
  | finite negative mantissa exponent =>
    negative.toNat * signBit +
      if mantissa < leadingBit then mantissa
      else (exponent - leastExponent).toNat * leadingBit + mantissa

example : ofDecimal false 1 (-1) = .finite false 0x1999999999999A (-56) := by decide +kernel
example : (ofDecimal false 5 (-324)).bits = 1 := by decide +kernel
example : ofDecimal false 18 307 = .infinite false := by decide +kernel
example : (ofDecimal true 1 0).bits = 0xBFF0000000000000 := by decide +kernel

end Binary64

end SceneFlow.Number
