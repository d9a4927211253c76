import SceneFlow.Yaml.Scalar

/-!
The lexemes of a YAML text: scalars and what goes with them, and the marks of documents and
collections. A block collection has no marks of its own. It starts where an entry of it stands
further right than the collections around it, and ends where a lexeme stands further left. That
a lexeme is the key of a mapping shows only at the colon behind it, so the places of possible keys
are kept until the colon comes or can come no more.
-/

namespace SceneFlow.Yaml

inductive Lexeme
  | version (major minor : Nat)
  | handle (handle uri : String)
  | documentStart
  | documentEnd
  | blockListStart
  | blockMapStart
  | blockEnd
  | flowListStart
  | flowListEnd
  | flowMapStart
  | flowMapEnd
  | item
  | comma
  | key
  | value
  | reference (name : String)
  | anchor (name : String)
  | tag (handle suffix : String)
  | scalar (style : Style) (text : String)
  deriving DecidableEq

def isUriChar (verbatim : Bool) (glyph : Glyph) : Bool :=
  isNameChar glyph
    || [';', '/', '?', ':', '@', '&', '=', '+', '$', '.', '!', '~', '*', '\'', '(', ')'].contains
        glyph.char
    || (verbatim && [',', '[', ']'].contains glyph.char)

def octetsAfter? (octet : Nat) : Option Nat :=
  if octet < 0x80 then some 0
  else if 0xC0 ≤ octet ∧ octet < 0xE0 then some 1
  else if 0xE0 ≤ octet ∧ octet < 0xF0 then some 2
  else if 0xF0 ≤ octet ∧ octet < 0xF8 then some 3
  else none

/-- Takes a URI, in which octets may be written as `%` with two digits. `pending` octets of a
character are still to come. -/
def uriFrom (verbatim : Bool) (pending : Nat) (passed : List Char) :
    List Glyph → Option (String × List Glyph)
  | [] => if pending = 0 then some (.ofList passed.reverse, []) else none
  | g :: rest =>
    if g.char == '%' then
      match rest with
      | a :: b :: rest => do
        let octet ← digits? 16 [a.char, b.char]
        let pending ←
          if pending = 0 then octetsAfter? octet
          else if 0x80 ≤ octet ∧ octet < 0xC0 then some (pending - 1)
          else none
        uriFrom verbatim pending (Char.ofNat octet :: passed) rest
      | _ => none
    else if 0 < pending then none
    else if isUriChar verbatim g then uriFrom verbatim 0 (g.char :: passed) rest
    else some (.ofList passed.reverse, g :: rest)

def uri? (verbatim : Bool) (glyphs : List Glyph) : Option (String × List Glyph) :=
  (uriFrom verbatim 0 [] glyphs).filter fun (uri, _) => !uri.isEmpty

def anchorName? (glyphs : List Glyph) : Option (String × List Glyph) :=
  let (name, rest) := takeChars isNameChar glyphs
  let ends := ['?', ':', ',', ']', '\x7d', '%', '@', '\x60']
  let isEnded := endsWord rest || ends.any (startsWith rest)
  if name.isEmpty || !isEnded then none else some (.ofList name, rest)

/-- A tag after its `!`: one that is written out between `<` and `>`, one with the handle of a
directive, or one with the handle `!`. The lone `!` is a tag by itself. -/
def tagParts? (glyphs : List Glyph) : Option (Lexeme × List Glyph) :=
  if startsWith glyphs '<' then do
    let (uri, rest) ← uri? true (glyphs.drop 1)
    if startsWith rest '>' then some (.tag "" uri, rest.drop 1) else none
  else
    let (name, rest) := takeChars isNameChar glyphs
    if startsWith rest '!' then do
      let (suffix, rest) ← uri? false (rest.drop 1)
      return (.tag ("!" ++ .ofList name ++ "!") suffix, rest)
    else do
      let (suffix, rest) ← uriFrom false 0 name.reverse rest
      return (if suffix.isEmpty then .tag "" "!" else .tag "!" suffix, rest)

def tag? (inFlow : Bool) (glyphs : List Glyph) : Option (Lexeme × List Glyph) :=
  (tagParts? glyphs).filter fun (_, rest) => endsWord rest || (inFlow && startsWith rest ',')

def versionNumber? (glyphs : List Glyph) : Option (Nat × List Glyph) :=
  let (digits, rest) := takeChars (·.char.isDigit) glyphs
  if digits.length ≤ 9 then (digits? 10 digits).map (·, rest) else none

def version? (glyphs : List Glyph) : Option (Lexeme × List Glyph) := do
  let (major, rest) ← versionNumber? (skipBlanks glyphs)
  let (minor, rest) ← if startsWith rest '.' then versionNumber? (rest.drop 1) else none
  return (.version major minor, rest)

def handle? (glyphs : List Glyph) : Option (Lexeme × List Glyph) := do
  let opening := skipBlanks glyphs
  let (name, rest) := takeChars isNameChar (opening.drop 1)
  let (closing, rest) :=
    if startsWith rest '!' then ("!", rest.drop 1) else ("", rest)
  let isHandle := startsWith opening '!' && (name.isEmpty || closing == "!")
  if !isHandle || !rest.head?.any Glyph.isBlank then none
  else
    let (uri, rest) ← uri? true (skipBlanks rest)
    if endsWord rest then some (.handle ("!" ++ .ofList name ++ closing) uri, rest) else none

def directive? (glyphs : List Glyph) : Option (Lexeme × List Glyph) := do
  let (name, rest) := takeChars isNameChar glyphs
  if !endsWord rest then none
  else
    let (lexeme, rest) ← match String.ofList name with
      | "YAML" => version? rest
      | "TAG" => handle? rest
      | _ => none
    return (lexeme, ← nextLine? rest)

structure Place where
  number : Nat
  isRequired : Bool
  glyph : Glyph

/-- A key and its colon stand on one line, with no more than this many characters between. -/
def longestKey : Nat := 1024

def Place.isPast (place : Place) (glyph : Glyph) : Bool :=
  place.glyph.line < glyph.line || place.glyph.index + longestKey < glyph.index

def giveUp? (place : Option Place) : Option (Option Place) :=
  if place.any Place.isRequired then none else some none

structure Scan where
  lexemes : List Lexeme
  count : Nat
  /-- The columns of the block collections that are open, the innermost first. -/
  indents : List Nat
  place : Option Place
  outer : List (Option Place)
  allowsKey : Bool

namespace Scan

def start : Scan := ⟨[], 0, [], none, [], true⟩

def inFlow (scan : Scan) : Bool := !scan.outer.isEmpty

def push (lexeme : Lexeme) (scan : Scan) : Scan :=
  { scan with lexemes := lexeme :: scan.lexemes, count := scan.count + 1 }

def insert (number : Nat) (lexeme : Lexeme) (scan : Scan) : Scan :=
  let later := scan.count - number
  { scan with
    lexemes := scan.lexemes.take later ++ lexeme :: scan.lexemes.drop later
    count := scan.count + 1 }

/-- The column from which on a scalar may go on over its lines. -/
def floor (scan : Scan) : Nat := scan.indents.head?.elim 0 (· + 1)

def closeTo (column : Nat) (scan : Scan) : Scan :=
  let closed := scan.indents.takeWhile (column < ·)
  { scan with
    lexemes := closed.map (fun _ => .blockEnd) ++ scan.lexemes
    count := scan.count + closed.length
    indents := scan.indents.drop closed.length }

def closeAll (scan : Scan) : Scan :=
  { scan with
    lexemes := scan.indents.map (fun _ => .blockEnd) ++ scan.lexemes
    count := scan.count + scan.indents.length
    indents := [] }

def openAt (column number : Nat) (lexeme : Lexeme) (scan : Scan) : Scan :=
  if !scan.inFlow && scan.floor ≤ column then
    { scan.insert number lexeme with indents := column :: scan.indents }
  else scan

def expire? (glyph : Glyph) (scan : Scan) : Option Scan := do
  let expired (place : Option Place) : Option (Option Place) :=
    if place.any (·.isPast glyph) then giveUp? place else some place
  return { scan with place := ← expired scan.place, outer := ← scan.outer.mapM expired }

def giveUpKey? (scan : Scan) : Option Scan := do
  return { scan with place := ← giveUp? scan.place }

def keepPlace? (glyph : Glyph) (scan : Scan) : Option Scan :=
  if scan.allowsKey then do
    let scan ← scan.giveUpKey?
    let isRequired := !scan.inFlow && scan.indents.head? == some glyph.column
    return { scan with place := some ⟨scan.count, isRequired, glyph⟩ }
  else some scan

def betweenDocuments? (scan : Scan) : Option Scan := do
  let scan ← (if scan.inFlow then scan else scan.closeAll).giveUpKey?
  return { scan with allowsKey := false }

def openFlow? (lexeme : Lexeme) (glyph : Glyph) (scan : Scan) : Option Scan := do
  let scan ← scan.keepPlace? glyph
  return { scan with
    place := none
    outer := scan.place :: scan.outer
    allowsKey := true }.push lexeme

def closeFlow? (lexeme : Lexeme) (scan : Scan) : Option Scan := do
  let scan ← scan.giveUpKey?
  return { scan with
    place := if scan.inFlow then scan.outer.head?.join else scan.place
    outer := scan.outer.drop 1
    allowsKey := false }.push lexeme

def openEntry? (lexeme : Lexeme) (glyph : Glyph) (scan : Scan) : Option Scan :=
  if scan.inFlow then some scan
  else if scan.allowsKey then some (scan.openAt glyph.column scan.count lexeme)
  else none

def item? (glyph : Glyph) (scan : Scan) : Option Scan := do
  let scan ← (← scan.openEntry? .blockListStart glyph).giveUpKey?
  return { scan with allowsKey := true }.push .item

def key? (glyph : Glyph) (scan : Scan) : Option Scan := do
  let scan ← (← scan.openEntry? .blockMapStart glyph).giveUpKey?
  return { scan with allowsKey := !scan.inFlow }.push .key

/-- At a colon, the lexeme at the place that was kept becomes a key. -/
def value? (glyph : Glyph) (scan : Scan) : Option Scan :=
  match scan.place with
  | some place =>
    let scan := scan.insert place.number .key
    let scan := scan.openAt place.glyph.column place.number .blockMapStart
    some ({ scan with place := none, allowsKey := false }.push .value)
  | none => do
    let scan ← scan.openEntry? .blockMapStart glyph
    return { scan with allowsKey := !scan.inFlow }.push .value

def scalar? (glyph : Glyph) (lexeme : Lexeme) (scan : Scan) : Option Scan := do
  let scan ← scan.keepPlace? glyph
  return { scan with allowsKey := false }.push lexeme

/-- Skips what stands between lexemes: blanks, comments, line ends, and a byte order mark at the
start of a line. Where a key may start, a tab is no blank, and outside of flow collections one may
start on every new line. -/
def skip (inFlow allowsKey inComment : Bool) : List Glyph → Bool × List Glyph
  | [] => (allowsKey, [])
  | g :: rest =>
    if g.isBreak then skip inFlow (allowsKey || !inFlow) false rest
    else if inComment then skip inFlow allowsKey true rest
    else if g.column == 0 && g.char == '\uFEFF' then skip inFlow allowsKey false rest
    else if g.char == ' ' || (g.char == '\t' && (inFlow || !allowsKey)) then
      skip inFlow allowsKey false rest
    else if g.char == '#' then skip inFlow allowsKey true rest
    else (allowsKey, g :: rest)

def isMark (c : Char) : Bool :=
  isFlowMark c
    || ['-', '?', ':', '#', '&', '*', '!', '|', '>', '\'', '"', '%', '@', '\x60'].contains c

/-- No mark starts a plain scalar, save that `-` does before any but a blank, and `?` and `:` do
outside of flow collections where a word goes on behind them. -/
def startsPlain (inFlow : Bool) (glyph : Glyph) (rest : List Glyph) : Bool :=
  !(isMark glyph.char || glyph.isBlank || glyph.isBreak)
    || (glyph.char == '-' && !rest.head?.any Glyph.isBlank)
    || (!inFlow && (glyph.char == '?' || glyph.char == ':') && !endsWord rest)

def take? (glyph : Glyph) (rest : List Glyph) (scan : Scan) : Option (Scan × List Glyph) := do
  let inFlow := scan.inFlow
  let c := glyph.char
  if glyph.column == 0 && c == '%' then
    let (lexeme, rest) ← directive? rest
    return ((← scan.betweenDocuments?).push lexeme, rest)
  else if startsMark '-' (glyph :: rest) then
    return ((← scan.betweenDocuments?).push .documentStart, rest.drop 2)
  else if startsMark '.' (glyph :: rest) then
    return ((← scan.betweenDocuments?).push .documentEnd, rest.drop 2)
  else if c == '[' then return (← scan.openFlow? .flowListStart glyph, rest)
  else if c == '\x7b' then return (← scan.openFlow? .flowMapStart glyph, rest)
  else if c == ']' then return (← scan.closeFlow? .flowListEnd, rest)
  else if c == '\x7d' then return (← scan.closeFlow? .flowMapEnd, rest)
  else if c == ',' then
    return ({ ← scan.giveUpKey? with allowsKey := true }.push .comma, rest)
  else if c == '-' && endsWord rest then return (← scan.item? glyph, rest)
  else if c == '?' && (inFlow || endsWord rest) then return (← scan.key? glyph, rest)
  else if c == ':' && (inFlow || endsWord rest) then return (← scan.value? glyph, rest)
  else if c == '*' then
    let (name, rest) ← anchorName? rest
    return (← scan.scalar? glyph (.reference name), rest)
  else if c == '&' then
    let (name, rest) ← anchorName? rest
    return (← scan.scalar? glyph (.anchor name), rest)
  else if c == '!' then
    let (lexeme, rest) ← tag? inFlow rest
    return (← scan.scalar? glyph lexeme, rest)
  else if (c == '|' || c == '>') && !inFlow then
    let (text, rest) ← blockText? (c == '>') scan.floor rest
    let style : Style := if c == '>' then .folded else .literal
    return ({ ← scan.giveUpKey? with allowsKey := true }.push (.scalar style text), rest)
  else if c == '\'' then
    let (text, rest) ← singleQuotedFrom .none [] rest
    return (← scan.scalar? glyph (.scalar .singleQuoted text), rest)
  else if c == '"' then
    let (text, rest) ← doubleQuotedFrom .none [] rest
    return (← scan.scalar? glyph (.scalar .doubleQuoted text), rest)
  else if startsPlain inFlow glyph rest then
    let plain ← plainFrom inFlow scan.floor .none [] (glyph :: rest)
    let scan ← scan.scalar? glyph (.scalar .plain plain.text)
    return ({ scan with allowsKey := plain.isBroken }, plain.rest)
  else none

/-- Every lexeme takes at least one glyph, so that one step more than there are glyphs is enough. -/
def run? : Nat → Scan → List Glyph → Option (List Lexeme)
  | 0, _, _ => none
  | steps + 1, scan, glyphs => do
    let (allowsKey, glyphs) := skip scan.inFlow scan.allowsKey false glyphs
    let scan := { scan with allowsKey }
    match glyphs with
    | [] => return (← scan.betweenDocuments?).lexemes.reverse
    | g :: rest =>
      let scan ← scan.expire? g
      let scan := if scan.inFlow then scan else scan.closeTo g.column
      let (scan, rest) ← scan.take? g rest
      run? steps scan rest

end Scan

def lexemes? (glyphs : List Glyph) : Option (List Lexeme) :=
  Scan.run? (glyphs.length + 1) .start glyphs

end SceneFlow.Yaml
