import SceneFlow.Number.Literal
import SceneFlow.Yaml.Scalar

namespace SceneFlow.Yaml

def bool? (text : String) : Option Bool :=
  if ["true", "True", "TRUE"].contains text then some true
  else if ["false", "False", "FALSE"].contains text then some false
  else none

def isNull (text : String) : Bool := ["", "null", "Null", "NULL", "~"].contains text

def withoutFirst (c : Char) : List Char → List Char
  | [] => []
  | first :: rest => if first = c then rest else first :: rest

def isZeroLed (cs : List Char) : Bool :=
  match cs with
  | '-' :: '0' :: rest | '+' :: '0' :: rest | '0' :: rest =>
    !rest.isEmpty && rest.all Char.isDigit
  | _ => false

def natural? (text : String) : Option Nat :=
  let cs := text.toList
  match withoutFirst '+' cs with
  | '0' :: 'x' :: digits => digits? 16 digits
  | '0' :: 'o' :: digits => digits? 8 digits
  | '0' :: 'b' :: digits => digits? 2 digits
  | digits => if isZeroLed cs then none else digits? 10 digits

def negative? (text : String) : Option Nat :=
  match text.toList with
  | '-' :: '+' :: _ => none
  | '-' :: digits => if isZeroLed ('-' :: digits) then none else natural? (.ofList digits)
  | _ => none

/-- Whole numbers are told from other texts if 128 bits hold them. -/
def isWhole (text : String) : Bool :=
  (natural? text).any (· < Nat.pow 2 128) || (negative? text).any (· ≤ Nat.pow 2 127)

def isFloat (text : String) : Bool :=
  let isFinite :=
    match Number.Binary64.ofLiteral? text with
    | some (.finite _ _ _) => true
    | _ => false
  [".inf", ".Inf", ".INF", "+.inf", "+.Inf", "+.INF", "-.inf", "-.Inf", "-.INF", ".nan", ".NaN",
      ".NAN"].contains text
    || (!isZeroLed text.toList && isFinite)

def isAmbiguous (text : String) : Bool :=
  isNull text || (bool? text).isSome || isWhole text || isFloat text || isZeroLed text.toList

end SceneFlow.Yaml
