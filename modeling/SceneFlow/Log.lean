namespace SceneFlow

inductive Level
  | error
  | warn
  | info
  | debug
  deriving DecidableEq

def Level.label : Level → String
  | error => "ERROR"
  | warn => "WARN"
  | info => "INFO"
  | debug => "DEBUG"

structure LogLine where
  level : Level
  message : String
  deriving DecidableEq

def LogLine.text (line : LogLine) : String := line.level.label ++ " " ++ line.message

end SceneFlow
