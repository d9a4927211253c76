namespace SceneFlow

inductive FileFailure
  | missing
  | notUtf8
  deriving DecidableEq

def FileFailure.message : FileFailure → String
  | missing => "No such file or directory (os error 2)"
  | notUtf8 => "stream did not contain valid UTF-8"

def fileText (bytes : Option ByteArray) : Except FileFailure String :=
  match bytes with
  | none => .error .missing
  | some bytes =>
    match String.fromUTF8? bytes with
    | some text => .ok text
    | none => .error .notUtf8

inductive Failure
  | unknownEvent (name : String)
  | invalidProgram (errors : Nat)
  | noStartState
  | unreadable (reason : FileFailure)
  deriving DecidableEq

namespace Failure

def code : Failure → String
  | unknownEvent _ => "UNKNOWN_EVENT"
  | invalidProgram _ => "INVALID_PROGRAM"
  | noStartState => "NO_START_STATE"
  | unreadable _ => "IO_ERROR"

def message : Failure → String
  | unknownEvent name => "unknown event: " ++ name
  | invalidProgram errors => "invalid program: " ++ errors.repr ++ " error(s)"
  | noStartState => "program has no start state"
  | unreadable reason => "I/O error: " ++ reason.message

end Failure

end SceneFlow
