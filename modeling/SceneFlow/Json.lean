/-!
JSON values and their text with one item a line, each level indented by two spaces. Numbers are
held as they are written, and the fields of an object keep their order.
-/

namespace SceneFlow

inductive Json
  | null
  | bool (value : Bool)
  | number (text : String)
  | string (value : String)
  | list (items : List Json)
  | object (fields : List (String × Json))

namespace Json

def hexDigit (n : Nat) : Char := (Nat.toDigits 16 n).headD '0'

def escape (c : Char) : List Char :=
  if c = '"' then ['\\', '"']
  else if c = '\\' then ['\\', '\\']
  else if c = '\n' then ['\\', 'n']
  else if c = '\r' then ['\\', 'r']
  else if c = '\t' then ['\\', 't']
  else if c.toNat = 8 then ['\\', 'b']
  else if c.toNat = 12 then ['\\', 'f']
  else if c.toNat < 32 then
    ['\\', 'u', '0', '0', hexDigit (c.toNat / 16), hexDigit (c.toNat % 16)]
  else [c]

def quote (text : String) : String :=
  String.ofList ('"' :: text.toList.flatMap escape ++ ['"'])

def margin (level : Nat) : String := String.ofList (List.replicate (2 * level) ' ')

def bracket (level : Nat) (opening closing : String) (lines : List String) : String :=
  if lines.isEmpty then opening ++ closing
  else
    opening ++ "\n" ++ ",\n".intercalate (lines.map (margin (level + 1) ++ ·)) ++ "\n"
      ++ margin level ++ closing

mutual

def textAt (level : Nat) : Json → String
  | null => "null"
  | bool value => if value then "true" else "false"
  | number text => text
  | string value => quote value
  | list items => bracket level "[" "]" (itemTexts (level + 1) items)
  | object fields => bracket level "\x7b" "\x7d" (fieldTexts (level + 1) fields)

def itemTexts (level : Nat) : List Json → List String
  | [] => []
  | item :: rest => textAt level item :: itemTexts level rest

def fieldTexts (level : Nat) : List (String × Json) → List String
  | [] => []
  | (name, value) :: rest => (quote name ++ ": " ++ textAt level value) :: fieldTexts level rest

end

def text (value : Json) : String := textAt 0 value

end Json

end SceneFlow
