import SceneFlow.Text.Letter
import SceneFlow.Number.Literal

/-!
Tokens of program text. A comment runs from `#` to the end of its line. Outside comments each of
`(`, `)`, `,` and `;` is a token of its own, and so is each maximal run of other characters between
spaces, tabs and line ends. Every text has a token list; what is malformed shows up later.
-/

namespace SceneFlow

def isPunctuation (c : Char) : Bool := c == '(' || c == ')' || c == ',' || c == ';'

def isSeparator (c : Char) : Bool := c == ' ' || c == '\t' || c == '\r' || c == '\n'

def isLineEnd (c : Char) : Bool := c == '\r' || c == '\n'

def isWordChar (c : Char) : Bool := !isPunctuation c && !isSeparator c

def dropComments (inComment : Bool) : List Char → List Char
  | [] => []
  | c :: rest =>
    let inComment := if c = '#' then true else if isLineEnd c then false else inComment
    if inComment then dropComments inComment rest else c :: dropComments inComment rest

def stripComments (source : String) : String := String.ofList (dropComments false source.toList)

/-- A piece of program text and the line it starts on, counted from one. The count has no end, and
fits 32 bits in texts with fewer than `2 ^ 32 - 1` line feeds. -/
structure Token where
  text : String
  line : Nat
  deriving DecidableEq

namespace Token

def isMark (token : Token) (mark : Char) : Bool := token.text.toList == [mark]

end Token

theorem length_dropWhile_le (p : Char → Bool) (cs : List Char) :
    (cs.dropWhile p).length ≤ cs.length :=
  (List.dropWhile_sublist p).length_le

def scanFrom (line : Nat) : List Char → List Token
  | [] => []
  | c :: rest =>
    if isPunctuation c then ⟨String.singleton c, line⟩ :: scanFrom line rest
    else if isSeparator c then scanFrom (if c = '\n' then line + 1 else line) rest
    else
      ⟨String.ofList (c :: rest.takeWhile isWordChar), line⟩
        :: scanFrom line (rest.dropWhile isWordChar)
termination_by cs => cs.length
decreasing_by
  all_goals simp only [List.length_cons]
  · omega
  · omega
  · have := length_dropWhile_le isWordChar rest
    omega

def tokens (source : String) : List Token := scanFrom 1 (dropComments false source.toList)

def isIdentifier (text : String) : Bool :=
  match text.toList with
  | [] => false
  | c :: rest => Text.startsName c && rest.all Text.continuesName

def isNumber (text : String) : Bool := (Number.Binary64.ofLiteral? text).isSome

def isArgument (text : String) : Bool := isIdentifier text || isNumber text

end SceneFlow
