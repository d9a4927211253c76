import SceneFlow.Yaml.Glyph

/-!
The texts of scalars: plain, between quotes, and in blocks. In plain and quoted ones a single line
feed stands for a space, and of several line feeds in a row the first is dropped.
-/

namespace SceneFlow.Yaml

inductive Style
  | plain
  | singleQuoted
  | doubleQuoted
  | literal
  | folded
  deriving DecidableEq

/-- The blanks and line ends between two words. Both lists have their latest character first. -/
structure Gap where
  spaces : List Char
  isBroken : Bool
  first : Option Char
  others : List Char

namespace Gap

def none : Gap := ⟨[], false, Option.none, []⟩

def continued : Gap := ⟨[], true, Option.none, []⟩

def isNone (gap : Gap) : Bool := gap.spaces.isEmpty && !gap.isBroken

def add (gap : Gap) (glyph : Glyph) : Gap :=
  if glyph.isBreak then
    if gap.isBroken then { gap with others := glyph.char :: gap.others }
    else ⟨[], true, some glyph.char, []⟩
  else if gap.isBroken then gap
  else { gap with spaces := glyph.char :: gap.spaces }

def folded (gap : Gap) : List Char :=
  if gap.isBroken then
    if gap.first = some '\n' then if gap.others.isEmpty then [' '] else gap.others
    else gap.others ++ gap.first.toList
  else gap.spaces

end Gap

structure PlainText where
  text : String
  isBroken : Bool
  rest : List Glyph

def isFlowMark (c : Char) : Bool :=
  c == ',' || c == '[' || c == ']' || c == '\x7b' || c == '\x7d'

/-- Whether a plain scalar ends before these glyphs, which are no gap. It does at a colon that ends
a word, at a comment, at the mark of a document, at a mark within a flow collection, and outside of
those on a line that is indented less than the floor. -/
def endsPlain (inFlow : Bool) (floor : Nat) (gap : Gap) (glyph : Glyph) (rest : List Glyph) :
    Bool :=
  (gap.isBroken && !inFlow && glyph.column < floor)
    || startsDocumentMark (glyph :: rest)
    || (!gap.isNone && glyph.char == '#')
    || (glyph.char == ':' && endsWord rest)
    || (inFlow && isFlowMark glyph.char)

def breaksColon (rest : List Glyph) : Bool :=
  rest.head?.any fun g => g.char == '?' || isFlowMark g.char

def plainFrom (inFlow : Bool) (floor : Nat) (gap : Gap) (passed : List Char) :
    List Glyph → Option PlainText
  | [] => some ⟨.ofList passed.reverse, gap.isBroken, []⟩
  | g :: rest =>
    if g.isBlank || g.isBreak then
      if gap.isBroken && g.column < floor && g.char == '\t' then none
      else plainFrom inFlow floor (gap.add g) passed rest
    else if endsPlain inFlow floor gap g rest then
      some ⟨.ofList passed.reverse, gap.isBroken, g :: rest⟩
    else if inFlow && g.char == ':' && breaksColon rest then none
    else plainFrom inFlow floor .none (g.char :: gap.folded ++ passed) rest

def singleQuotedFrom (gap : Gap) (passed : List Char) : List Glyph → Option (String × List Glyph)
  | [] => none
  | g :: rest =>
    if g.isBlank || g.isBreak then singleQuotedFrom (gap.add g) passed rest
    else if startsDocumentMark (g :: rest) then none
    else if g.char == '\'' then
      match rest with
      | [] => some (.ofList (gap.folded ++ passed).reverse, [])
      | h :: more =>
        if h.char == '\'' then singleQuotedFrom .none ('\'' :: gap.folded ++ passed) more
        else some (.ofList (gap.folded ++ passed).reverse, h :: more)
    else singleQuotedFrom .none (g.char :: gap.folded ++ passed) rest

def escaped? : Char → Option Char
  | '0' => some '\x00'
  | 'a' => some '\x07'
  | 'b' => some '\x08'
  | 't' | '\t' => some '\t'
  | 'n' => some '\n'
  | 'v' => some '\x0b'
  | 'f' => some '\x0c'
  | 'r' => some '\r'
  | 'e' => some '\x1b'
  | ' ' => some ' '
  | '"' => some '"'
  | '/' => some '/'
  | '\\' => some '\\'
  | 'N' => some '\u0085'
  | '_' => some '\u00a0'
  | 'L' => some '\u2028'
  | 'P' => some '\u2029'
  | _ => none

def hexValue? (c : Char) : Option Nat :=
  if '0' ≤ c ∧ c ≤ '9' then some (c.toNat - '0'.toNat)
  else if 'a' ≤ c ∧ c ≤ 'f' then some (c.toNat - 'a'.toNat + 10)
  else if 'A' ≤ c ∧ c ≤ 'F' then some (c.toNat - 'A'.toNat + 10)
  else none

def digits? (base : Nat) (digits : List Char) : Option Nat :=
  if digits = [] then none
  else digits.foldlM (fun value c => do
    let digit ← hexValue? c
    if digit < base then some (base * value + digit) else none) 0

def charOf? (digits : List Glyph) : Option Char := do
  let code ← digits? 16 (digits.map Glyph.char)
  if code.isValidChar then some (Char.ofNat code) else none

def doubleQuotedFrom (gap : Gap) (passed : List Char) : List Glyph → Option (String × List Glyph)
  | [] => none
  | g :: rest =>
    if g.isBlank || g.isBreak then doubleQuotedFrom (gap.add g) passed rest
    else if startsDocumentMark (g :: rest) then none
    else if g.char == '"' then some (.ofList (gap.folded ++ passed).reverse, rest)
    else if g.char == '\\' then
      let passed := gap.folded ++ passed
      match rest with
      | [] => none
      | h :: more =>
        if h.isBreak then doubleQuotedFrom .continued passed more
        else if h.char == 'x' then
          match more with
          | a :: b :: more => do
            let c ← charOf? [a, b]
            doubleQuotedFrom .none (c :: passed) more
          | _ => none
        else if h.char == 'u' then
          match more with
          | a :: b :: c :: d :: more => do
            let c ← charOf? [a, b, c, d]
            doubleQuotedFrom .none (c :: passed) more
          | _ => none
        else if h.char == 'U' then
          match more with
          | a :: b :: c :: d :: e :: f :: g :: h :: more => do
            let c ← charOf? [a, b, c, d, e, f, g, h]
            doubleQuotedFrom .none (c :: passed) more
          | _ => none
        else do
          let c ← escaped? h.char
          doubleQuotedFrom .none (c :: passed) more
    else doubleQuotedFrom .none (g.char :: gap.folded ++ passed) rest

inductive Chomp
  | strip
  | clip
  | keep
  deriving DecidableEq

def chompMark? : List Glyph → Option (Chomp × List Glyph)
  | [] => none
  | g :: rest =>
    if g.char == '-' then some (.strip, rest)
    else if g.char == '+' then some (.keep, rest)
    else none

def indentMark? : List Glyph → Option (Option Nat × List Glyph)
  | [] => some (none, [])
  | g :: rest =>
    if g.char == '0' then none
    else if g.char.isDigit then some (some (g.char.toNat - '0'.toNat), rest)
    else some (none, g :: rest)

structure BlockHeader where
  chomp : Chomp
  indent : Option Nat
  rest : List Glyph

def blockHeader? (glyphs : List Glyph) : Option BlockHeader :=
  match chompMark? glyphs with
  | some (chomp, rest) => do
    let (indent, rest) ← indentMark? rest
    return ⟨chomp, indent, ← nextLine? rest⟩
  | none => do
    let (indent, rest) ← indentMark? glyphs
    match indent, chompMark? rest with
    | some indent, some (chomp, rest) => return ⟨chomp, some indent, ← nextLine? rest⟩
    | _, _ => return ⟨.clip, indent, ← nextLine? rest⟩

/-- The widest indentation up to the first line that holds anything, that one included. There is
none if a tab is met. -/
def widestIndent? (widest : Nat) : List Glyph → Option Nat
  | [] => some widest
  | g :: rest =>
    if g.char == ' ' then widestIndent? widest rest
    else if g.char == '\t' then none
    else if g.isBreak then widestIndent? (max widest g.column) rest
    else some (max widest g.column)

structure Block where
  isFolded : Bool
  chomp : Chomp
  indent : Nat

namespace Block

/-- What comes before a new line of text: the line end before it, and those of the empty lines
between, latest first. Folding joins two lines neither of which starts with a blank. -/
def joint (block : Block) (afterBlank : Bool) (first : Option Char) (others : List Char)
    (glyph : Glyph) : List Char :=
  if block.isFolded && first == some '\n' && !afterBlank && !glyph.isBlank then
    if others.isEmpty then [' '] else others
  else others ++ first.toList

def ending (block : Block) (first : Option Char) (others : List Char) : List Char :=
  match block.chomp with
  | .strip => []
  | .clip => first.toList
  | .keep => others ++ first.toList

/-- Reads on within a line of text, or else between two of them. There `first` is the line end of
the latest line of text and `others` are those of the empty lines since, latest first. -/
def textFrom (block : Block) (inLine afterBlank : Bool) (first : Option Char)
    (others passed : List Char) : List Glyph → Option (String × List Glyph)
  | [] => some (.ofList (block.ending first others ++ passed).reverse, [])
  | g :: rest =>
    if inLine then
      if g.isBreak then block.textFrom false afterBlank (some g.char) [] passed rest
      else block.textFrom true afterBlank none [] (g.char :: passed) rest
    else if g.column < block.indent && g.char == ' ' then
      block.textFrom false afterBlank first others passed rest
    else if g.column < block.indent && g.char == '\t' then none
    else if g.isBreak then block.textFrom false afterBlank first (g.char :: others) passed rest
    else if g.column == block.indent then
      block.textFrom true g.isBlank none []
        (g.char :: block.joint afterBlank first others g ++ passed) rest
    else some (.ofList (block.ending first others ++ passed).reverse, g :: rest)

end Block

/-- The text of a block after its `|` or `>`. `outer` is the indentation of the collection around
it, plus one. -/
def blockText? (isFolded : Bool) (outer : Nat) (glyphs : List Glyph) :
    Option (String × List Glyph) := do
  let header ← blockHeader? glyphs
  let indent ← match header.indent with
    | some indent => some (outer - 1 + indent)
    | none => (widestIndent? 0 header.rest).map fun widest => max 1 (max outer widest)
  (⟨isFolded, header.chomp, indent⟩ : Block).textFrom false false none [] [] header.rest

end SceneFlow.Yaml
