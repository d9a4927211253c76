import SceneFlow.Number.Literal

/-!
Delays. Seconds are written as number literals; the clock counts whole nanoseconds.
-/

namespace SceneFlow

def second : Nat := 1000000000

/-- The longest delay, in nanoseconds: one nanosecond short of `2 ^ 64` seconds. -/
def longestDelay : Nat := 0x10000000000000000 * second - 1

/-- A finite number of seconds in nanoseconds, rounded to the nearest with ties going to the even
one. -/
def nanoseconds (mantissa : Nat) (exponent : Int) : Nat :=
  if exponent < 0 then Number.roundDiv (mantissa * second) (Nat.pow 2 (-exponent).toNat) .even
  else mantissa * Nat.pow 2 exponent.toNat * second

/-- A number of seconds as a delay. There is none for a negative number, for `2 ^ 64` seconds or
more, and for what is no number. -/
def Number.Binary64.delay? : Number.Binary64 → Option Nat
  | nan | infinite _ => none
  | finite negative mantissa exponent =>
    if negative ∧ mantissa ≠ 0 then none
    else (some (nanoseconds mantissa exponent)).filter (· ≤ longestDelay)

theorem Number.Binary64.le_longestDelay {x : Number.Binary64} {delay : Nat}
    (h : x.delay? = some delay) : delay ≤ longestDelay := by
  cases x with
  | nan => simp [delay?] at h
  | infinite _ => simp [delay?] at h
  | finite negative mantissa exponent =>
    simp only [delay?] at h
    split at h
    · cases h
    · simpa using (Option.filter_eq_some_iff.1 h).2

end SceneFlow
