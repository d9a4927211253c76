/-!
The characters of a YAML text, each with its place. Line ends are read alike: a carriage return, a
line feed, both in this order, and U+0085 all count as one line feed, while U+2028 and U+2029 are
line ends that stay themselves.
-/

namespace SceneFlow.Yaml

structure Glyph where
  char : Char
  index : Nat
  line : Nat
  column : Nat

def isAllowed (c : Char) : Bool :=
  let code := c.toNat
  c == '\t' || c == '\n' || c == '\r' || (32 ≤ code && code ≤ 126) || code == 0x85
    || (0xA0 ≤ code && code ≠ 0xFFFE && code ≠ 0xFFFF)

def isBreak (c : Char) : Bool := c == '\n' || c == '\u2028' || c == '\u2029'

def isBlank (c : Char) : Bool := c == ' ' || c == '\t'

namespace Glyph

def place (index line column : Nat) : List Char → List Glyph
  | [] => []
  | '\r' :: '\n' :: rest => ⟨'\n', index, line, column⟩ :: place (index + 2) (line + 1) 0 rest
  | c :: rest =>
    if c = '\r' ∨ c = '\u0085' then
      ⟨'\n', index, line, column⟩ :: place (index + 1) (line + 1) 0 rest
    else if isBreak c then ⟨c, index, line, column⟩ :: place (index + 1) (line + 1) 0 rest
    else ⟨c, index, line, column⟩ :: place (index + 1) line (column + 1) rest

def isBreak (glyph : Glyph) : Bool := Yaml.isBreak glyph.char

def isBlank (glyph : Glyph) : Bool := Yaml.isBlank glyph.char

end Glyph

def glyphs? (text : String) : Option (List Glyph) :=
  if text.toList.all isAllowed then some (Glyph.place 0 0 0 text.toList) else none

def startsWith (glyphs : List Glyph) (c : Char) : Bool := glyphs.head?.any (·.char == c)

def endsWord (glyphs : List Glyph) : Bool := glyphs.head?.all fun g => g.isBlank || g.isBreak

def startsMark (c : Char) : List Glyph → Bool
  | first :: second :: third :: rest =>
    first.column == 0 && [first, second, third].all (·.char == c) && endsWord rest
  | _ => false

def startsDocumentMark (glyphs : List Glyph) : Bool :=
  startsMark '-' glyphs || startsMark '.' glyphs

def skipBlanks (glyphs : List Glyph) : List Glyph := glyphs.dropWhile Glyph.isBlank

/-- What follows a line of which nothing but blanks and a comment is left. -/
def nextLine? (glyphs : List Glyph) : Option (List Glyph) :=
  let after := skipBlanks glyphs
  let after := if startsWith after '#' then after.dropWhile (!·.isBreak) else after
  match after with
  | [] => some []
  | g :: rest => if g.isBreak then some rest else none

def isNameChar (glyph : Glyph) : Bool :=
  glyph.char.isAlphanum || glyph.char == '-' || glyph.char == '_'

def takeChars (p : Glyph → Bool) (glyphs : List Glyph) : List Char × List Glyph :=
  ((glyphs.takeWhile p).map Glyph.char, glyphs.dropWhile p)

end SceneFlow.Yaml
