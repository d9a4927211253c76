import SceneFlow.Yaml.Lexeme

/-!
The nodes of a YAML document. A node may be given an anchor, to which other places can then refer.
Anchors are known by numbers: an anchor's number is how many names of anchors there are before it.
So a name that is used anew makes no new number, and of several nodes with one number the last is
meant.
-/

namespace SceneFlow.Yaml

inductive Node
  | reference (number : Nat)
  | scalar (anchor : Option Nat) (tag : Option String) (style : Style) (text : String)
  | list (anchor : Option Nat) (items : List Node)
  | map (anchor : Option Nat) (entries : List (Node × Node))

namespace Node

def empty : Node := .scalar none none .plain ""

mutual

def anchored : Node → List (Nat × Node)
  | reference _ => []
  | scalar anchor tag style text =>
    (anchor.map (·, scalar anchor tag style text)).toList
  | list anchor items => (anchor.map (·, list anchor items)).toList ++ itemsAnchored items
  | map anchor entries => (anchor.map (·, map anchor entries)).toList ++ entriesAnchored entries

def itemsAnchored : List Node → List (Nat × Node)
  | [] => []
  | item :: rest => item.anchored ++ itemsAnchored rest

def entriesAnchored : List (Node × Node) → List (Nat × Node)
  | [] => []
  | (key, value) :: rest => key.anchored ++ value.anchored ++ entriesAnchored rest

end

end Node

abbrev Handles := List (String × String)

def Handles.default : Handles := [("!", "!"), ("!!", "tag:yaml.org,2002:")]

structure Reader where
  lexemes : List Lexeme
  anchors : List (String × Nat)

structure Properties where
  anchor : Option Nat
  tag : Option String

namespace Reader

def drop (reader : Reader) : Reader := { reader with lexemes := reader.lexemes.drop 1 }

def startsWith (expected : List Lexeme) (reader : Reader) : Bool :=
  reader.lexemes.head?.any expected.contains

def anchor (name : String) (reader : Reader) : Nat × Reader :=
  let number := reader.anchors.length
  (number,
    { lexemes := reader.lexemes.drop 1
      anchors := (name, number) :: reader.anchors.filter fun other => other.1 ≠ name })

def wholeTag? (handles : Handles) (handle suffix : String) : Option (Option String) :=
  if handle = "" then some (if suffix = "!" then none else some suffix)
  else (handles.lookup handle).map fun uri => some (uri ++ suffix)

def properties? (handles : Handles) (reader : Reader) : Option (Properties × Reader) :=
  match reader.lexemes with
  | .anchor name :: .tag handle suffix :: _ => do
    let tag ← wholeTag? handles handle suffix
    let (number, reader) := reader.anchor name
    return (⟨some number, tag⟩, reader.drop)
  | .tag handle suffix :: .anchor name :: _ => do
    let tag ← wholeTag? handles handle suffix
    let (number, reader) := reader.drop.anchor name
    return (⟨some number, tag⟩, reader)
  | .anchor name :: _ =>
    let (number, reader) := reader.anchor name
    some (⟨some number, none⟩, reader)
  | .tag handle suffix :: _ => do
    let tag ← wholeTag? handles handle suffix
    return (⟨none, tag⟩, reader.drop)
  | _ => some (⟨none, none⟩, reader)

mutual

/-- Reads a node, given what the collection around it allows: block collections, and lists whose
items are not indented. The steps bound the nesting and the number of entries. -/
def node? (handles : Handles) (inBlock indentless : Bool) : Nat → Reader → Option (Node × Reader)
  | 0, _ => none
  | steps + 1, reader =>
    match reader.lexemes with
    | .reference name :: _ => do return (.reference (← reader.anchors.lookup name), reader.drop)
    | first :: _ => do
      let (properties, reader) ← reader.properties? handles
      let list (items : List Node × Reader) : Node × Reader :=
        (.list properties.anchor items.1, items.2)
      let map (entries : List (Node × Node) × Reader) : Node × Reader :=
        (.map properties.anchor entries.1, entries.2)
      match reader.lexemes with
      | .scalar style text :: _ =>
        return (.scalar properties.anchor properties.tag style text, reader.drop)
      | .flowListStart :: _ => (flowItems? handles true steps reader.drop).map list
      | .flowMapStart :: _ => (flowEntries? handles true steps reader.drop).map map
      | next :: _ =>
        if next = .item ∧ indentless then (items? handles true steps reader).map list
        else if next = .blockListStart ∧ inBlock then
          (items? handles false steps reader.drop).map list
        else if next = .blockMapStart ∧ inBlock then (entries? handles steps reader.drop).map map
        else if next = first then none
        else return (.scalar properties.anchor properties.tag .plain "", reader)
      | [] => return (.scalar properties.anchor properties.tag .plain "", reader)
    | [] => none

def nodeOrEmpty? (handles : Handles) (inBlock indentless : Bool) (stops : List Lexeme) :
    Nat → Reader → Option (Node × Reader)
  | 0, _ => none
  | steps + 1, reader =>
    if reader.startsWith stops then some (.empty, reader)
    else node? handles inBlock indentless steps reader

def items? (handles : Handles) (indentless : Bool) : Nat → Reader → Option (List Node × Reader)
  | 0, _ => none
  | steps + 1, reader =>
    if reader.startsWith [.item] then do
      let stops := if indentless then [.item, .key, .value, .blockEnd] else [.item, .blockEnd]
      let (item, reader) ← nodeOrEmpty? handles true false stops steps reader.drop
      let (items, reader) ← items? handles indentless steps reader
      return (item :: items, reader)
    else if indentless then some ([], reader)
    else if reader.startsWith [.blockEnd] then some ([], reader.drop)
    else none

def entries? (handles : Handles) : Nat → Reader → Option (List (Node × Node) × Reader)
  | 0, _ => none
  | steps + 1, reader =>
    if reader.startsWith [.key] then do
      let stops := [.key, .value, .blockEnd]
      let (key, reader) ← nodeOrEmpty? handles true true stops steps reader.drop
      let (value, reader) ←
        if reader.startsWith [.value] then
          nodeOrEmpty? handles true true stops steps reader.drop
        else some (.empty, reader)
      let (entries, reader) ← entries? handles steps reader
      return ((key, value) :: entries, reader)
    else if reader.startsWith [.blockEnd] then some ([], reader.drop)
    else none

/-- Reads the items of a flow list. One with a key mark is a mapping with a single entry; where the
key is left out, the lexeme in its place is lost. -/
def flowItems? (handles : Handles) (isFirst : Bool) : Nat → Reader → Option (List Node × Reader)
  | 0, _ => none
  | steps + 1, reader => do
    if reader.startsWith [.flowListEnd] then return ([], reader.drop)
    let reader ←
      if isFirst then some reader
      else if reader.startsWith [.comma] then some reader.drop
      else none
    if reader.startsWith [.flowListEnd] then return ([], reader.drop)
    let (item, reader) ←
      if reader.startsWith [.key] then do
        let reader := reader.drop
        let (key, reader) ←
          if reader.startsWith [.value, .comma, .flowListEnd] then some (.empty, reader.drop)
          else node? handles false false steps reader
        let (value, reader) ←
          if reader.startsWith [.value] then
            nodeOrEmpty? handles false false [.comma, .flowListEnd] steps reader.drop
          else some (.empty, reader)
        pure (Node.map none [(key, value)], reader)
      else node? handles false false steps reader
    let (items, reader) ← flowItems? handles false steps reader
    return (item :: items, reader)

def flowEntries? (handles : Handles) (isFirst : Bool) :
    Nat → Reader → Option (List (Node × Node) × Reader)
  | 0, _ => none
  | steps + 1, reader => do
    if reader.startsWith [.flowMapEnd] then return ([], reader.drop)
    let reader ←
      if isFirst then some reader
      else if reader.startsWith [.comma] then some reader.drop
      else none
    if reader.startsWith [.flowMapEnd] then return ([], reader.drop)
    let (entry, reader) ←
      if reader.startsWith [.key] then do
        let (key, reader) ←
          nodeOrEmpty? handles false false [.value, .comma, .flowMapEnd] steps reader.drop
        let (value, reader) ←
          if reader.startsWith [.value] then
            nodeOrEmpty? handles false false [.comma, .flowMapEnd] steps reader.drop
          else some (.empty, reader)
        pure ((key, value), reader)
      else do
        let (key, reader) ← node? handles false false steps reader
        pure ((key, Node.empty), reader)
    let (entries, reader) ← flowEntries? handles false steps reader
    return (entry :: entries, reader)

end

end Reader

def isDirective : Lexeme → Bool
  | .version _ _ | .handle _ _ => true
  | _ => false

def startsDocument (next : Lexeme) : Bool := isDirective next || next == .documentStart

/-- The handles that directives define. There is one directive for the version at most, which has
to be 1.1 or 1.2, and one for each handle. -/
def handles? (directives : List Lexeme) : Option Handles :=
  let versions := directives.filterMap fun
    | .version major minor => some (major, minor)
    | _ => none
  let handles : Handles := directives.filterMap fun
    | .handle handle uri => some (handle, uri)
    | _ => none
  let isKnown := versions.all fun version => version = (1, 1) ∨ version = (1, 2)
  if isKnown ∧ versions.length ≤ 1 ∧ (handles.map Prod.fst).Nodup then some (handles ++ .default)
  else none

structure Document where
  root : Option Node
  anchored : List (Nat × Node)

namespace Document

def resolve? (document : Document) : Node → Option Node
  | .reference number =>
    (document.anchored.filter fun anchored => anchored.1 = number).getLast?.map Prod.snd
  | node => some node

def ofRoot (root : Node) : Document := ⟨some root, root.anchored⟩

def ofLexemes? (lexemes : List Lexeme) : Option Document := do
  let directives := lexemes.takeWhile isDirective
  let content := lexemes.dropWhile isDirective
  let steps := 2 * lexemes.length + 2
  if directives = [] ∧ content = [] then return ⟨none, []⟩
  let (root, reader) ←
    match content with
    | .documentStart :: content => do
      let handles ← handles? directives
      if content.head?.all startsDocument || content.head? == some .documentEnd then
        some (.empty, ⟨content, []⟩)
      else Reader.node? handles true false steps ⟨content, []⟩
    | content =>
      if directives = [] then Reader.node? .default true false steps ⟨content, []⟩ else none
  if reader.lexemes.all (· == .documentEnd) then some (.ofRoot root) else none

def ofText? (text : String) : Option Document := do
  ofLexemes? (← lexemes? (← glyphs? text))

end Document

end SceneFlow.Yaml
