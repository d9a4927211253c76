import SceneFlow.Graph
import SceneFlow.Number.Layout

namespace SceneFlow

inductive Trigger
  | timed (seconds : Number.Binary64)
  | named (event : Name)
  | back (event : Name)
  deriving DecidableEq

structure Row where
  source : Name
  target : Option Name
  trigger : Trigger
  deriving DecidableEq

def State.rows (state : State) : List Row :=
  (state.timed.map fun timed => ⟨state.key, some timed.target, .timed timed.seconds⟩).toList
    ++ state.named.map (fun (event, target) => ⟨state.key, some target, .named event⟩)
    ++ state.back.map fun event => ⟨state.key, none, .back event⟩

namespace Diagram

def table (diagram : Diagram) : List Row := diagram.states.flatMap State.rows

def targetName (diagram : Diagram) (target : Option Name) : String :=
  target.elim "<go back>" diagram.stateName

def rowText (diagram : Diagram) (row : Row) : String :=
  let trigger := match row.trigger with
    | .timed seconds => "after " ++ seconds.text .plain ++ "s"
    | .named event | .back event => diagram.eventName event
  diagram.stateName row.source ++ " -> " ++ diagram.targetName row.target ++ " [" ++ trigger ++ "]"

def stateText (diagram : Diagram) (state : State) : String :=
  let start := if diagram.start = some state.key then "<start> " else ""
  let error := if diagram.error = some state.key then "<error> " else ""
  let resource := match state.resource with
    | some resource => "[" ++ (if state.additive then "+" else "") ++ resource ++ "]"
    | none => ""
  let transitions := state.rows.map fun row =>
    let trigger := match row.trigger with
      | .timed seconds => seconds.text .plain
      | .named event | .back event => diagram.eventName event
    " " ++ diagram.targetName row.target ++ "[" ++ trigger ++ "]"
  start ++ error ++ state.name ++ resource ++ ":" ++ String.join transitions ++ "\n"

def text (diagram : Diagram) : String := String.join (diagram.states.map diagram.stateText)

end Diagram

end SceneFlow
