import SceneFlow.Text.Table

/-!
Blank characters in the sense of Unicode 17 (the property `White_Space`), and the two things that
texts are asked about them: their words, and what is left without the blanks at their ends.
-/

namespace SceneFlow.Text

def blankTable : List (Nat × Nat) :=
  [(0x9, 0xD), (0x20, 0x20), (0x85, 0x85), (0xA0, 0xA0), (0x1680, 0x1680), (0x2000, 0x200A),
   (0x2028, 0x2029), (0x202F, 0x202F), (0x205F, 0x205F), (0x3000, 0x3000)]

def isBlank (c : Char) : Bool := inTable c.toNat blankTable

def trimLeft (cs : List Char) : List Char := cs.dropWhile isBlank

def trimRight (cs : List Char) : List Char := (trimLeft cs.reverse).reverse

def trimEnd (text : String) : String := String.ofList (trimRight text.toList)

def trim (text : String) : String := String.ofList (trimRight (trimLeft text.toList))

/-- `word` is the part of the current word already passed, its latest character first. -/
def wordsAfter (word : List Char) : List Char → List (List Char)
  | [] => if word.isEmpty then [] else [word.reverse]
  | c :: rest =>
    if isBlank c then
      if word.isEmpty then wordsAfter [] rest else word.reverse :: wordsAfter [] rest
    else wordsAfter (c :: word) rest

def words (text : String) : List String := (wordsAfter [] text.toList).map String.ofList

end SceneFlow.Text
