import SceneFlow.Binding
import SceneFlow.Failure
import SceneFlow.Log
import SceneFlow.Statement

/-!
Programs: from source text to commands, faults and a graph. Every text makes a program. One with
faults is invalid, and its graph is there to be looked at only.
-/

namespace SceneFlow

structure Program where
  commands : List Command
  faults : List Fault
  graph : Graph
  deriving DecidableEq

namespace Program

def compile [Checksum] (source : String) : Program :=
  let reading := readTokens (tokens source)
  let (graph, faults) := bindCommands reading.commands reading.faults
  ⟨reading.commands, faults, graph⟩

def load [Checksum] (bytes : Option ByteArray) : Except Failure Program :=
  match fileText bytes with
  | .ok source => .ok (compile source)
  | .error reason => .error (.unreadable reason)

def listing (program : Program) : String := SceneFlow.listing program.commands

def isValid (program : Program) : Bool := program.graph.isValid

def validGraph (program : Program) : Except Failure Graph :=
  if program.isValid then .ok program.graph else .error (.invalidProgram program.graph.errors)

/-- "2 states, 1 events, checksum 0badcafe" -/
def summary (program : Program) : String :=
  program.graph.states.length.repr ++ " states, " ++ program.graph.events.length.repr
    ++ " events, checksum " ++ program.graph.checksum

def log (program : Program) : List LogLine :=
  let outcome : LogLine :=
    if program.isValid then
      ⟨.debug, "compiled " ++ program.commands.length.repr ++ " commands into "
        ++ program.graph.states.length.repr ++ " states, " ++ program.graph.events.length.repr
        ++ " events (checksum " ++ program.graph.checksum ++ ")"⟩
    else ⟨.warn, "program has " ++ program.faults.length.repr ++ " error(s)"⟩
  program.faults.map (⟨.error, ·.text⟩) ++ [outcome]

end Program

end SceneFlow
