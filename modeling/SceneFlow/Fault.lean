import SceneFlow.Command
import SceneFlow.Name
import SceneFlow.Token

/-!
What can be wrong with a program: a token that the grammar has no place for, a keyword outside the
vocabulary, a command whose arguments do not fit it, and a command that fills again what may be
filled only once. No fault stops the work; all of them are collected.
-/

namespace SceneFlow

structure Excerpt where
  index : Nat
  before : List String
  here : Option String
  after : List String
  /-- The line of the place, or of the last token at the end of the list. -/
  line : Option Nat
  deriving DecidableEq

namespace Excerpt

def width : Nat := 3

def around (tokens : List Token) (index : Nat) : Excerpt where
  index := index
  before := ((tokens.take index).drop (index - width)).map Token.text
  here := tokens[index]?.map Token.text
  after := ((tokens.drop (index + 1)).take width).map Token.text
  line := (tokens[index]?.or tokens.getLast?).map Token.line

def text (excerpt : Excerpt) : String :=
  let here := "[" ++ excerpt.here.getD "<end of input>" ++ "]"
  " ".intercalate (excerpt.before ++ here :: excerpt.after)

end Excerpt

inductive Misfit
  | count
  | notIdentifier (argument : String)
  | notState (argument : String)
  | notEvent (argument : String)
  | notSeconds (argument : String)
  | tooLong (argument : String)
  deriving DecidableEq

inductive Slot
  | state (state : Name)
  | event (event : Name)
  | start
  | error
  | resource (state : Name)
  | timed (state : Name)
  | named (state event : Name)
  | back (state event : Name)
  | flag (flag : LogFlag)
  deriving DecidableEq

inductive Fault
  | unexpected (place : Excerpt) (expected : String)
  | unknownKeyword (place : Excerpt) (name : String)
  | misfit (command : Command) (reason : Misfit)
  | refilled (command : Command) (slot : Slot)
  deriving DecidableEq

inductive FaultKind
  | grammar
  | vocabulary
  | signature
  | repetition
  deriving DecidableEq

def Keyword.usage (keyword : Keyword) : String :=
  let kinds := keyword.signature.map fun kind => "<" ++ kind.label ++ ">"
  keyword.spelling ++ " command takes " ++ kinds.length.repr ++ " argument(s) of type(s): "
    ++ ", ".intercalate kinds

def Misfit.text : Misfit → String
  | count => ""
  | notIdentifier argument => "; '" ++ argument ++ "' is not an identifier"
  | notState argument => "; '" ++ argument ++ "' is not a declared state"
  | notEvent argument => "; '" ++ argument ++ "' is not a declared event"
  | notSeconds argument => "; '" ++ argument ++ "' is not a non-negative number of seconds"
  | tooLong argument => "; '" ++ argument ++ "' seconds is too long a delay"

/-- A declaration is told by the spelling that the command gives. -/
def Slot.text (command : Command) : Slot → String
  | state _ => "State " ++ command.arguments.headD "" ++ " defined more than once"
  | event _ => "Event " ++ command.arguments.headD "" ++ " defined more than once"
  | start => Keyword.defineStart.spelling ++ " command called more than once"
  | error => Keyword.defineError.spelling ++ " command called more than once"
  | resource _ => "LoadScene or LoadSceneAdditive command called more than once on the same state"
  | timed _ => "TimedTransition command called more than once on the same state"
  | named _ _ =>
    "NamedTransition command called more than once for the same event on the same state"
  | back _ _ => "BackTransition command called more than once for the same event on the same state"
  | flag which => which.keyword.spelling ++ " command called more than once"

namespace FaultKind

def all : List FaultKind := [grammar, vocabulary, signature, repetition]

def label : FaultKind → String
  | grammar => "syntax error"
  | vocabulary => "unrecognized command"
  | signature => "validation error"
  | repetition => "duplication error"

end FaultKind

namespace Fault

def kind : Fault → FaultKind
  | unexpected _ _ => .grammar
  | unknownKeyword _ _ => .vocabulary
  | misfit _ _ => .signature
  | refilled _ _ => .repetition

def line : Fault → Option Nat
  | unexpected place _ | unknownKeyword place _ => place.line
  | misfit command _ | refilled command _ => some command.line

def message : Fault → String
  | unexpected place expected => "at: " ++ place.text ++ "; expected: " ++ expected
  | unknownKeyword place name => "at: " ++ place.text ++ "; not a command: " ++ name
  | misfit command reason => "at: " ++ command.text ++ " " ++ command.keyword.usage ++ reason.text
  | refilled command slot => slot.text command ++ "; last call: " ++ command.text

def text (fault : Fault) : String :=
  let told := fault.kind.label ++ ": " ++ fault.message
  match fault.line with
  | some line => "line " ++ line.repr ++ ": " ++ told
  | none => told

def count (kind : FaultKind) (faults : List Fault) : Nat :=
  faults.countP fun fault => fault.kind = kind

end Fault

end SceneFlow
