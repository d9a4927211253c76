namespace SceneFlow

inductive Call
  /-- An additive load keeps what is loaded already; another one replaces it. -/
  | load (resource : String) (additive : Bool)
  | unload (resource : String)
  deriving DecidableEq

def eraseLast (resource : String) (loaded : List String) : List String :=
  (loaded.reverse.erase resource).reverse

def Call.perform (loaded : List String) : Call → List String
  | load resource true => loaded ++ [resource]
  | load resource false => [resource]
  | unload resource => eraseLast resource loaded

@[simp] theorem eraseLast_append_self (loaded : List String) (resource : String) :
    eraseLast resource (loaded ++ [resource]) = loaded := by
  simp [eraseLast]

end SceneFlow
