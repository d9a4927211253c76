import SceneFlow.Number.Binary64

/-!
Number literals: an optional sign before `inf`, `infinity` or `nan` in any case of the letters, or
before a decimal number. That one has at least one digit, before or after its point, and may end in
an exponent of at least one digit.
-/

namespace SceneFlow.Number

def digitsValue (digits : List Char) : Nat :=
  digits.foldl (fun value c => 10 * value + (c.toNat - '0'.toNat)) 0

def splitSign : List Char → Bool × List Char
  | '-' :: rest => (true, rest)
  | '+' :: rest => (false, rest)
  | cs => (false, cs)

def exponent? : List Char → Option Int
  | [] => some 0
  | mark :: rest =>
    if mark = 'e' ∨ mark = 'E' then
      let (negative, digits) := splitSign rest
      if digits ≠ [] ∧ digits.all Char.isDigit then
        some (if negative then -(digitsValue digits : Int) else digitsValue digits)
      else none
    else none

def splitFraction : List Char → List Char × List Char
  | '.' :: rest => (rest.takeWhile Char.isDigit, rest.dropWhile Char.isDigit)
  | cs => ([], cs)

/-- The digits of an unsigned decimal number and the power of ten they are to be scaled by. -/
def decimal? (cs : List Char) : Option (Nat × Int) :=
  let whole := cs.takeWhile Char.isDigit
  let (fraction, rest) := splitFraction (cs.dropWhile Char.isDigit)
  if whole = [] ∧ fraction = [] then none
  else (exponent? rest).map fun e => (digitsValue (whole ++ fraction), e - fraction.length)

def Binary64.ofLiteralChars? (cs : List Char) : Option Binary64 :=
  let (negative, rest) := splitSign cs
  match decimal? rest with
  | some (digits, exponent) => some (.ofDecimal negative digits exponent)
  | none =>
    match String.ofList (rest.map Char.toLower) with
    | "inf" | "infinity" => some (.infinite negative)
    | "nan" => some .nan
    | _ => none

def Binary64.ofLiteral? (text : String) : Option Binary64 := ofLiteralChars? text.toList

end SceneFlow.Number
