import SceneFlow.Number.Shortest

/-!
The written form of a binary64 number: its shortest digits, laid out by a style that says where the
point may stand and when an exponent is used.
-/

namespace SceneFlow.Number

structure Style where
  tie : Tie
  wholeMark : String
  positional : Int → Bool
  nan : String
  infinity : String
  negativeInfinity : String

/-- Plain text: never an exponent, nothing after a whole number, a tie goes up. -/
def Style.plain : Style where
  tie := .up
  wholeMark := ""
  positional := fun _ => true
  nan := "NaN"
  infinity := "inf"
  negativeInfinity := "-inf"

/-- JSON: a fraction or an exponent always, an exponent from `1e+16` on and below `1e-5`; what JSON
has no number for is null. -/
def Style.json : Style where
  tie := .even
  wholeMark := ".0"
  positional := fun e => decide (-5 ≤ e ∧ e ≤ 15)
  nan := "null"
  infinity := "null"
  negativeInfinity := "null"

namespace Decimal

def zeros (count : Int) : String := String.ofList (List.replicate count.toNat '0')

def positionalText (wholeMark : String) (d : Decimal) : String :=
  let digits := d.digits.repr.toList
  let point := digits.length + d.exponent
  if 0 ≤ d.exponent then String.ofList digits ++ zeros d.exponent ++ wholeMark
  else if 0 < point then
    String.ofList (digits.take point.toNat) ++ "." ++ String.ofList (digits.drop point.toNat)
  else "0." ++ zeros (-point) ++ String.ofList digits

def scientificText (d : Decimal) : String :=
  let digits := d.digits.repr.toList
  let exponent := digits.length + d.exponent - 1
  let others := digits.drop 1
  String.ofList (digits.take 1) ++ (if others = [] then "" else "." ++ String.ofList others) ++ "e"
    ++ (if exponent < 0 then "-" else "+") ++ exponent.natAbs.repr

def text (style : Style) (d : Decimal) : String :=
  if style.positional (d.digits.repr.length + d.exponent - 1) then
    positionalText style.wholeMark d
  else scientificText d

end Decimal

def Binary64.text (style : Style) : Binary64 → String
  | nan => style.nan
  | infinite negative => if negative then style.negativeInfinity else style.infinity
  | finite negative mantissa exponent =>
    (if negative then "-" else "") ++ (Decimal.shortest mantissa exponent style.tie).text style

end SceneFlow.Number
