import SceneFlow.Log
import SceneFlow.Machine
import SceneFlow.Resource

namespace SceneFlow

def Notice.level : Notice → Level
  | notAccepted _ _ | noWayBack _ _ | noTransition _ _ | discarded _ => .warn
  | unloaded _ => .debug
  | _ => .info

def Notice.message (diagram : Diagram) : Notice → String
  | entering state => "Entering state " ++ diagram.stateName state
  | exiting state => "Exiting state " ++ diagram.stateName state
  | loaded resource => "Loaded " ++ resource
  | unloaded resource => "Unloaded " ++ resource
  | timed source target seconds =>
    "Timed transition " ++ diagram.stateName source ++ " -> " ++ diagram.stateName target
      ++ " after " ++ seconds.text .plain ++ "s"
  | named source target event =>
    "Named transition " ++ diagram.stateName source ++ " -> " ++ diagram.stateName target
      ++ " on " ++ diagram.eventName event
  | back source target event =>
    "Back transition " ++ diagram.stateName source ++ " -> " ++ diagram.stateName target
      ++ " on " ++ diagram.eventName event
  | notAccepted event state =>
    "Event " ++ diagram.eventName event ++ " not accepted in state " ++ diagram.stateName state
      ++ "; dropped"
  | noWayBack event state =>
    "Back event " ++ diagram.eventName event ++ " in state " ++ diagram.stateName state
      ++ " with empty history; dropped"
  | noTransition event state =>
    "Event " ++ diagram.eventName event ++ " has no transition from state "
      ++ diagram.stateName state ++ "; dropped"
  | discarded event =>
    "Possible race condition: transition dropped pending event " ++ diagram.eventName event

def Notice.line (diagram : Diagram) (notice : Notice) : LogLine :=
  ⟨notice.level, notice.message diagram⟩

def Call.line : Call → LogLine
  | load resource additive =>
    ⟨.debug, "Activating " ++ resource ++ if additive then " (additive)" else " (exclusive)"⟩
  | unload resource => ⟨.debug, "Deactivating " ++ resource⟩

end SceneFlow
