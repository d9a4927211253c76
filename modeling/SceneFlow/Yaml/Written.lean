import SceneFlow.Yaml.Lexeme
import SceneFlow.Yaml.Value

/-!
The written form of texts as values of a block mapping, from which they are read back. A text with a
line feed is written as a block, and another one plain or between single quotes, if what it
consists of allows for that; else it is written between double quotes.
-/

namespace SceneFlow.Yaml

def isPrintable (c : Char) : Bool :=
  let code := c.toNat
  c == '\n' || (32 ≤ code && code ≤ 126)
    || (0xA0 ≤ code && code ≠ 0xFEFF && code ≠ 0xFFFE && code ≠ 0xFFFF)

def hasPair (first second : Char → Bool) (cs : List Char) : Bool :=
  (cs.zip (cs.drop 1)).any fun (c, d) => first c && second d

def isSpace (c : Char) : Bool := c == ' '

/-- Spaces next to line ends, and characters that are not printable, call for double quotes. -/
def needsEscapes (cs : List Char) : Bool := hasPair isSpace isBreak cs || !cs.all isPrintable

def canBeSingleQuoted (cs : List Char) : Bool := !needsEscapes cs && !hasPair isBreak isSpace cs

def canBeLiteral (cs : List Char) : Bool := !needsEscapes cs && !cs.getLast?.any isSpace

def startsWithMark : List Char → Bool
  | [] => true
  | c :: rest =>
    let isWordEnd := rest.head?.all fun d => isBlank d || isBreak d
    if c == '-' || c == '?' || c == ':' then isWordEnd else Scan.isMark c

def canBePlain (cs : List Char) : Bool :=
  let isOuter (c : Option Char) : Bool := c.any fun c => isSpace c || isBreak c
  canBeSingleQuoted cs && !cs.any isBreak && !isOuter cs.head? && !isOuter cs.getLast?
    && !startsWithMark cs && cs.take 3 != ['-', '-', '-'] && cs.take 3 != ['.', '.', '.']
    && !hasPair (· == ':') isBlank cs && cs.getLast? != some ':' && !hasPair isBlank (· == '#') cs

def numericEscape (mark : Char) (width code : Nat) : List Char :=
  let digits := (Nat.toDigits 16 code).map Char.toUpper
  '\\' :: mark :: List.replicate (width - digits.length) '0' ++ digits

def escape (c : Char) : List Char :=
  match c with
  | '"' => ['\\', '"']
  | '\\' => ['\\', '\\']
  | '\x07' => ['\\', 'a']
  | '\x08' => ['\\', 'b']
  | '\t' => ['\\', 't']
  | '\n' => ['\\', 'n']
  | '\x0b' => ['\\', 'v']
  | '\x0c' => ['\\', 'f']
  | '\r' => ['\\', 'r']
  | '\x1b' => ['\\', 'e']
  | '\u0085' => ['\\', 'N']
  | '\u2028' => ['\\', 'L']
  | '\u2029' => ['\\', 'P']
  | _ =>
    if isPrintable c then [c]
    else if c.toNat = 0 then ['\\', '0']
    else if c.toNat < 0x100 then numericEscape 'x' 2 c.toNat
    else if c.toNat < 0x10000 then numericEscape 'u' 4 c.toNat
    else numericEscape 'U' 8 c.toNat

def inDoubleQuotes (cs : List Char) : List Char := '"' :: cs.flatMap escape ++ ['"']

def indentation (width : Nat) : List Char := List.replicate width ' '

/-- The rest of a text between single quotes. A quote is written twice, and so is the first of
several line feeds; a line starts with its indentation. -/
def singleQuotedRest (width : Nat) (afterBreak : Bool) : List Char → List Char
  | [] => if afterBreak then indentation width ++ ['\''] else ['\'']
  | c :: rest =>
    if isBreak c then
      (if !afterBreak && c == '\n' then ['\n', c] else [c]) ++ singleQuotedRest width true rest
    else
      (if afterBreak then indentation width else []) ++ (if c == '\'' then ['\'', '\''] else [c])
        ++ singleQuotedRest width false rest

def inSingleQuotes (width : Nat) (cs : List Char) : List Char :=
  '\'' :: singleQuotedRest width false cs

def blockLines (width : Nat) (afterBreak : Bool) : List Char → List Char
  | [] => []
  | c :: rest =>
    if isBreak c then c :: blockLines width true rest
    else (if afterBreak then indentation width else []) ++ c :: blockLines width false rest

def indentStep : Nat := 2

/-- A text as a block. The first line tells the indentation if the text does not show it, and what
line ends the text ends with: none, one, or all of several. -/
def asBlock (width : Nat) (cs : List Char) : List Char :=
  let indent := if cs.head?.any fun c => isSpace c || isBreak c then indentStep.repr.toList else []
  let chomp := match cs.reverse with
    | last :: before =>
      if !isBreak last then ['-'] else if before.head?.all isBreak then ['+'] else []
    | [] => ['-']
  '|' :: indent ++ chomp ++ '\n' :: blockLines width true cs

/-- The value of an entry, with the end of its line. The width is that of the indentation of lines
within the value. -/
def writtenText (width : Nat) (text : String) : String :=
  let cs := text.toList
  let quoted := if canBeSingleQuoted cs then inSingleQuotes width cs else inDoubleQuotes cs
  let written :=
    if cs.contains '\n' then if canBeLiteral cs then asBlock width cs else inDoubleQuotes cs
    else if isAmbiguous text || !canBePlain cs then quoted
    else cs
  .ofList (if written.getLast?.any isBreak then written else written ++ ['\n'])

end SceneFlow.Yaml
