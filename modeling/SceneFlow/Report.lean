import SceneFlow.Json
import SceneFlow.Program
import SceneFlow.Graph.Table
import SceneFlow.Text.Blank

namespace SceneFlow

structure Report where
  text : String
  success : Bool
  deriving DecidableEq

namespace Report

def numbered (line : Nat) (text : String) : String :=
  let digits := line.repr
  String.ofList (List.replicate (4 - digits.length) ' ') ++ digits ++ "  " ++ text

def check (path : String) (program : Program) : Report :=
  if program.isValid then ⟨"OK " ++ path ++ " (" ++ program.summary ++ ")", true⟩
  else
    let heading :=
      "INVALID " ++ path ++ ": " ++ program.faults.length.repr ++ " error(s)\n"
    let faults := program.faults.map fun fault => "  " ++ fault.text ++ "\n"
    ⟨Text.trimEnd (heading ++ String.join faults), false⟩

def tokens (source : String) : Report :=
  let lines := (SceneFlow.tokens source).map fun token => numbered token.line token.text
  ⟨"\n".intercalate lines, true⟩

def commands (program : Program) : Report :=
  let commands := program.commands.map fun command =>
    numbered command.line command.canonical ++ "\n"
  let faults := program.faults.map fun fault => fault.text ++ "\n"
  ⟨Text.trimEnd (String.join (commands ++ faults)), true⟩

def graph (program : Program) : Report :=
  let graph := program.graph
  let rows := graph.table.map fun row => "  " ++ graph.rowText row ++ "\n"
  let table := if rows.isEmpty then "" else "\nTransitions:\n" ++ String.join rows
  ⟨Text.trimEnd (graph.text ++ table), program.isValid⟩

def optional (text : Option String) : Json := text.elim .null .string

def seconds (seconds : Number.Binary64) : Json := .number (seconds.text .json)

def timedJson (timed : Timed) : Json :=
  .object [("target", .string timed.target.key), ("seconds", seconds timed.seconds)]

def stateJson (state : State) : Json :=
  let named := state.named.map fun (event, target) => (event.key, Json.string target.key)
  .object
    ([("name", .string state.name)]
      ++ (state.resource.map fun resource => ("resource", .string resource)).toList
      ++ [("additive", .bool state.additive)]
      ++ (state.timed.map fun timed => ("timed", timedJson timed)).toList
      ++ [("named", .object named),
        ("back", .list (state.back.map fun event => .string event.key))])

def rowJson (diagram : Diagram) (row : Row) : Json :=
  .object
    [("from", .string (diagram.stateName row.source)),
      ("to", optional (row.target.map diagram.stateName)),
      ("trigger", .object (match row.trigger with
        | .timed time => [("kind", .string "timed"), ("seconds", seconds time)]
        | .named event => [("kind", .string "named"), ("event", .string (diagram.eventName event))]
        | .back event => [("kind", .string "back"), ("event", .string (diagram.eventName event))]))]

def flagName : LogFlag → String
  | .stateEntry => "state_entry"
  | .stateExit => "state_exit"
  | .sceneLoaded => "scene_loaded"
  | .timedTransitions => "timed_transitions"
  | .namedTransitions => "named_transitions"
  | .backTransitions => "back_transitions"

def graphJson (graph : Graph) : Json :=
  .object
    [("valid", .bool graph.isValid),
      ("checksum", .string graph.checksum),
      ("start", optional (graph.startState?.map State.name)),
      ("error", optional (graph.errorState?.map State.name)),
      ("states", .list (graph.states.map stateJson)),
      ("events", .list (graph.events.map fun event => .string event.name)),
      ("transitions", .list (graph.table.map (rowJson graph.toDiagram))),
      ("log_flags",
        .object (LogFlag.all.map fun flag => (flagName flag, .bool (graph.flags.get flag))))]

def json (program : Program) : Report := ⟨(graphJson program.graph).text, program.isValid⟩

end Report

end SceneFlow
