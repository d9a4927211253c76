import SceneFlow.Vocabulary

namespace SceneFlow

structure Command where
  /-- The keyword as the program spells it. -/
  name : String
  arguments : List String
  keyword : Keyword
  line : Nat
  deriving DecidableEq

namespace Command

def make (keyword : Keyword) (arguments : List String) : Command :=
  ⟨keyword.spelling, arguments, keyword, 0⟩

def statement (name : String) (arguments : List String) : String :=
  name ++ "(" ++ ", ".intercalate arguments ++ ");"

def text (command : Command) : String := statement command.name command.arguments

def canonical (command : Command) : String :=
  statement command.keyword.spelling command.arguments

end Command

def listing (commands : List Command) : String :=
  "\n".intercalate (commands.map Command.canonical)

end SceneFlow
