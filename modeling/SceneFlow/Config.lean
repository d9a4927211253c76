import SceneFlow.Failure
import SceneFlow.Text.Case
import SceneFlow.Yaml.Node
import SceneFlow.Yaml.Written

/-!
Configuration: which program to run, and how. Settings come from their defaults, then from a YAML
document, then from the environment, and each of these has the word over those before it.
-/

namespace SceneFlow

structure Config where
  path : String
  /-- Milliseconds between two ticks. -/
  tickInterval : Nat
  /-- Milliseconds that loading or unloading a resource takes. -/
  activationLatency : Nat
  echoTransitions : Bool
  transitionBuffer : Nat
  deriving DecidableEq

inductive ConfigFailure
  | unreadable (path : String) (reason : FileFailure)
  | malformed
  | zeroTickInterval
  | zeroTransitionBuffer
  deriving DecidableEq

def ConfigFailure.message : ConfigFailure → String
  | unreadable path reason => "failed to read config file '" ++ path ++ "': " ++ reason.message
  | malformed => "failed to parse config file"
  | zeroTickInterval =>
    "configuration validation failed: tick_interval_ms must be greater than zero"
  | zeroTransitionBuffer =>
    "configuration validation failed: transition_buffer must be greater than zero"

namespace Config

def default : Config := ⟨"./machine.fsm", 16, 0, true, 64⟩

def maxNumber : Nat := 0xFFFFFFFFFFFFFFFF

def field? (name : String) (entries : List (String × Yaml.Node)) :
    Except ConfigFailure (Option Yaml.Node) :=
  match entries.filter fun entry => entry.1 = name with
  | [] => .ok none
  | [(_, value)] => .ok (some value)
  | _ => .error .malformed

def readField {α : Type} (name : String) (read : Yaml.Node → Option α) (default : α)
    (entries : List (String × Yaml.Node)) : Except ConfigFailure α :=
  match field? name entries with
  | .error failure => .error failure
  | .ok none => .ok default
  | .ok (some value) =>
    match read value with
    | some value => .ok value
    | none => .error .malformed

def readText (document : Yaml.Document) (node : Yaml.Node) : Option String :=
  match document.resolve? node with
  | some (.scalar _ _ _ text) => some text
  | _ => none

/-- The text of a scalar that may mean something else than a text: one that is plain, or a literal
block with a tag that says so. -/
def meaningful (tag : String) (document : Yaml.Document) (node : Yaml.Node) : Option String :=
  match document.resolve? node with
  | some (.scalar _ _ .plain text) => some text
  | some (.scalar _ (some given) .literal text) => if given = tag then some text else none
  | _ => none

def readNumber (document : Yaml.Document) (node : Yaml.Node) : Option Nat := do
  let text ← meaningful "tag:yaml.org,2002:int" document node
  (Yaml.natural? text).filter (· ≤ maxNumber)

def readSwitch (document : Yaml.Document) (node : Yaml.Node) : Option Bool := do
  Yaml.bool? (← meaningful "tag:yaml.org,2002:bool" document node)

def readSection (document : Yaml.Document) (node : Yaml.Node) :
    Option (List (String × Yaml.Node)) :=
  match document.resolve? node with
  | some (.map _ entries) =>
    entries.mapM fun (key, value) => (readText document key).map (·, value)
  | some (.scalar _ _ .plain "") => some []
  | _ => none

def ofDocument (document : Yaml.Document) : Except ConfigFailure Config := do
  match readSection document (document.root.getD .empty) with
  | none => .error .malformed
  | some entries =>
    let program ← readField "program" (readSection document) [] entries
    let path ← readField "path" (readText document) default.path program
    let runtime ← readField "runtime" (readSection document) [] entries
    let number (name : String) (default : Nat) : Except ConfigFailure Nat :=
      readField name (readNumber document) default runtime
    let tickInterval ← number "tick_interval_ms" default.tickInterval
    let activationLatency ← number "activation_latency_ms" default.activationLatency
    let echoTransitions ←
      readField "echo_transitions" (readSwitch document) default.echoTransitions runtime
    let transitionBuffer ← number "transition_buffer" default.transitionBuffer
    return ⟨path, tickInterval, activationLatency, echoTransitions, transitionBuffer⟩

def ofFile (path : String) (bytes : Option ByteArray) : Except ConfigFailure Config :=
  match fileText bytes with
  | .error reason => .error (.unreadable path reason)
  | .ok text =>
    match Yaml.Document.ofText? text with
    | some document => ofDocument document
    | none => .error .malformed

structure Environment where
  config : Option String
  program : Option String
  tickInterval : Option String
  activationLatency : Option String
  echoTransitions : Option String

def Environment.ofVariables (value? : String → Option String) : Environment where
  config := value? "SCENEFSM_CONFIG"
  program := value? "SCENEFSM_PROGRAM"
  tickInterval := value? "SCENEFSM_TICK_MS"
  activationLatency := value? "SCENEFSM_ACTIVATION_LATENCY_MS"
  echoTransitions := value? "SCENEFSM_ECHO_TRANSITIONS"

def environmentNumber? (text : String) : Option Nat :=
  let digits := Yaml.withoutFirst '+' text.toList
  (Yaml.digits? 10 digits).filter (· ≤ maxNumber)

/-- Numbers that cannot be read are passed over, and any text is a switch. -/
def override (environment : Environment) (config : Config) : Config where
  path := environment.program.getD config.path
  tickInterval := (environment.tickInterval.bind environmentNumber?).getD config.tickInterval
  activationLatency :=
    (environment.activationLatency.bind environmentNumber?).getD config.activationLatency
  echoTransitions :=
    environment.echoTransitions.elim config.echoTransitions fun text =>
      text == "1" || Text.lowerCase text == "true"
  transitionBuffer := config.transitionBuffer

def invalid? (config : Config) : Option ConfigFailure :=
  if config.tickInterval = 0 then some .zeroTickInterval
  else if config.transitionBuffer = 0 then some .zeroTransitionBuffer
  else none

def ofEnvironment (environment : Environment) : Config := default.override environment

def load (environment : Environment) (read : String → Option ByteArray) :
    Except ConfigFailure Config := do
  let config ← match environment.config with
    | some path => ofFile path (read path)
    | none => .ok default
  let config := config.override environment
  match config.invalid? with
  | some failure => .error failure
  | none => .ok config

def document (config : Config) : String :=
  "program:\n  path: " ++ Yaml.writtenText (2 * Yaml.indentStep) config.path
    ++ "runtime:\n  tick_interval_ms: " ++ config.tickInterval.repr
    ++ "\n  activation_latency_ms: " ++ config.activationLatency.repr
    ++ "\n  echo_transitions: " ++ (if config.echoTransitions then "true" else "false")
    ++ "\n  transition_buffer: " ++ config.transitionBuffer.repr ++ "\n"

end Config

end SceneFlow
