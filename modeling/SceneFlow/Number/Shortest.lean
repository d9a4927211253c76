import SceneFlow.Number.Binary64

/-!
The shortest decimal number that reads back as a given binary64 number: a multiple of the highest
power of ten that has a multiple in the interval of the reals which round to that number, and of
those multiples the nearest one.
-/

namespace SceneFlow.Number

structure Decimal where
  digits : Nat
  exponent : Int
  deriving DecidableEq

namespace Decimal

def exact (mantissa : Nat) (exponent : Int) : Decimal :=
  if exponent < 0 then ⟨mantissa * Nat.pow 5 (-exponent).toNat, exponent⟩
  else ⟨mantissa * Nat.pow 2 exponent.toNat, 0⟩

/-- The multiple of `10 ^ place` nearest to `m * 2 ^ exponent`, if one reads back. All is
counted in quarters of the last place of the mantissa, scaled to whole numbers; below a power of two
the interval ends after one quarter, else after two. -/
def atPlace? (m : Nat) (exponent place : Int) (tie : Tie) : Option Nat :=
  let scale := Nat.pow 2 exponent.toNat * Nat.pow 10 (-place).toNat
  let unit := 4 * Nat.pow 2 (-exponent).toNat * Nat.pow 10 place.toNat
  let value := 4 * m * scale
  let margin := if m = Binary64.leadingBit ∧ Binary64.leastExponent < exponent then 1 else 2
  let low := (4 * m - margin) * scale
  let high := (4 * m + 2) * scale
  let readsBack (n : Nat) : Bool :=
    if m % 2 = 0 then decide (low ≤ n * unit ∧ n * unit ≤ high)
    else decide (low < n * unit ∧ n * unit < high)
  let below := value / unit
  match readsBack below, readsBack (below + 1) with
  | true, true => some (roundDiv value unit tie)
  | true, false => some below
  | false, true => some (below + 1)
  | false, false => none

def search (mantissa : Nat) (exponent : Int) (tie : Tie) : Nat → Int → Decimal
  | 0, _ => exact mantissa exponent
  | steps + 1, place =>
    match atPlace? mantissa exponent place tie with
    | some digits => ⟨digits, place⟩
    | none => search mantissa exponent tie steps (place - 1)

/-- A place with no multiple in the interval below it: `2 < 10 ^ 0.30103`. -/
def topPlace (mantissa : Nat) (exponent : Int) : Int :=
  (exponent + mantissa.log2 + 1) * 30103 / 100000 + 1

/-- The search ends at the latest at the place where the exact value itself is a multiple. -/
def shortest (mantissa : Nat) (exponent : Int) (tie : Tie) : Decimal :=
  if mantissa = 0 then ⟨0, 0⟩
  else
    let top := topPlace mantissa exponent
    search mantissa exponent tie (top - min exponent 0 + 1).toNat top

end Decimal

end SceneFlow.Number
