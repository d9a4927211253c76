namespace SceneFlow.Number

inductive Tie
  | up
  | even
  deriving DecidableEq

def roundDiv (num den : Nat) (tie : Tie) : Nat :=
  let below := num / den
  let twice := 2 * (num % den)
  if twice < den then below
  else if den < twice then below + 1
  else match tie with
    | .up => below + 1
    | .even => below + below % 2

theorem div_le_roundDiv (num den : Nat) (tie : Tie) : num / den ≤ roundDiv num den tie := by
  unfold roundDiv
  cases tie <;> simp only <;> repeat' split
  all_goals omega

theorem roundDiv_le (num den : Nat) (tie : Tie) : roundDiv num den tie ≤ num / den + 1 := by
  unfold roundDiv
  cases tie <;> simp only <;> repeat' split
  all_goals omega

theorem roundDiv_mul (n : Nat) {den : Nat} (h : 0 < den) (tie : Tie) :
    roundDiv (n * den) den tie = n := by
  simp [roundDiv, h, Nat.mul_div_cancel n h]

end SceneFlow.Number
