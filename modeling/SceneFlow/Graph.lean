import SceneFlow.Delay
import SceneFlow.Name
import SceneFlow.Vocabulary

/-!
State graphs. A diagram holds states and events in the order of their declaration; whatever refers
to one of them does so by name. A graph is a diagram together with what is known of the program it
comes from.
-/

namespace SceneFlow

structure Timed where
  target : Name
  seconds : Number.Binary64
  deriving DecidableEq

def Timed.delay (timed : Timed) : Nat := timed.seconds.delay?.getD longestDelay

structure State where
  name : String
  key : Name
  resource : Option String
  additive : Bool
  timed : Option Timed
  /-- The targets of events, by ascending event. -/
  named : List (Name × Name)
  back : List Name
  deriving DecidableEq

namespace State

def declare (name : String) : State := ⟨name, .of name, none, false, none, [], []⟩

def accepted (state : State) : List Name := state.named.map Prod.fst ++ state.back

def unloadsOnBack (state : State) : Bool := state.additive && state.resource.isSome

end State

structure Event where
  name : String
  key : Name
  deriving DecidableEq

def Event.declare (name : String) : Event := ⟨name, .of name⟩

structure LogFlags where
  stateEntry : Bool
  stateExit : Bool
  sceneLoaded : Bool
  timedTransitions : Bool
  namedTransitions : Bool
  backTransitions : Bool
  deriving DecidableEq

namespace LogFlags

def none : LogFlags := ⟨false, false, false, false, false, false⟩

def all : LogFlags := ⟨true, true, true, true, true, true⟩

def get (flags : LogFlags) : LogFlag → Bool
  | .stateEntry => flags.stateEntry
  | .stateExit => flags.stateExit
  | .sceneLoaded => flags.sceneLoaded
  | .timedTransitions => flags.timedTransitions
  | .namedTransitions => flags.namedTransitions
  | .backTransitions => flags.backTransitions

def set (flags : LogFlags) : LogFlag → LogFlags
  | .stateEntry => { flags with stateEntry := true }
  | .stateExit => { flags with stateExit := true }
  | .sceneLoaded => { flags with sceneLoaded := true }
  | .timedTransitions => { flags with timedTransitions := true }
  | .namedTransitions => { flags with namedTransitions := true }
  | .backTransitions => { flags with backTransitions := true }

@[simp] theorem get_none (flag : LogFlag) : none.get flag = false := by
  cases flag <;> rfl

@[simp] theorem get_all (flag : LogFlag) : all.get flag = true := by
  cases flag <;> rfl

theorem get_set (flags : LogFlags) (flag other : LogFlag) :
    (flags.set flag).get other = (decide (other = flag) || flags.get other) := by
  cases flag <;> cases other <;> simp [set, get]

end LogFlags

structure Diagram where
  states : List State
  events : List Event
  start : Option Name
  error : Option Name
  flags : LogFlags
  deriving DecidableEq

namespace Diagram

def empty : Diagram := ⟨[], [], none, none, .none⟩

def state? (diagram : Diagram) (key : Name) : Option State :=
  diagram.states.find? fun state => state.key = key

def event? (diagram : Diagram) (key : Name) : Option Event :=
  diagram.events.find? fun event => event.key = key

def startState? (diagram : Diagram) : Option State := diagram.start.bind diagram.state?

def errorState? (diagram : Diagram) : Option State := diagram.error.bind diagram.state?

/-- The spelling of a state's declaration, or the key of a state that has none. -/
def stateName (diagram : Diagram) (key : Name) : String :=
  (diagram.state? key).elim key.key State.name

def eventName (diagram : Diagram) (key : Name) : String :=
  (diagram.event? key).elim key.key Event.name

end Diagram

structure Graph extends Diagram where
  checksum : String
  errors : Nat
  deriving DecidableEq

def Graph.isValid (graph : Graph) : Bool := graph.errors == 0

end SceneFlow
