import SceneFlow.Failure
import SceneFlow.Graph.Table

/-!
Machines: where a run of a graph stands. For every state that it enters, a machine goes through
three phases: it enters the state, waits for the state's resource, and waits for a transition.
-/

namespace SceneFlow

inductive Phase
  | entering
  | activating (resource : String) (unloading : Bool)
  /-- Waiting for a transition since a moment of the clock, in nanoseconds. -/
  | waiting (since : Nat)
  deriving DecidableEq

/-- The side of a machine that submitted events meet. -/
structure Mailbox where
  current : Name
  accepted : List Name
  /-- Events accepted and not yet looked at, oldest first. -/
  pending : List Name
  deriving DecidableEq

def Mailbox.enter (mailbox : Mailbox) (state : State) : Mailbox :=
  { mailbox with current := state.key, accepted := state.accepted }

structure Machine where
  current : Name
  phase : Phase
  /-- The states visited before, the latest first and none twice in a row. -/
  history : List Name
  mailbox : Mailbox
  /-- What the next entry unloads, in place of loading the state's own resource. -/
  unload : Option String
  deriving DecidableEq

structure Transition where
  source : Name
  target : Name
  trigger : Trigger
  discarded : List Name
  deriving DecidableEq

inductive Outcome
  | idle
  | activating
  | transitioned (transition : Transition)
  deriving DecidableEq

inductive Submission
  | accepted
  | dropped
  deriving DecidableEq

inductive Notice
  | entering (state : Name)
  | exiting (state : Name)
  | loaded (resource : String)
  | unloaded (resource : String)
  | timed (source target : Name) (seconds : Number.Binary64)
  | named (source target event : Name)
  | back (source target event : Name)
  | notAccepted (event state : Name)
  | noWayBack (event state : Name)
  | noTransition (event state : Name)
  | discarded (event : Name)
  deriving DecidableEq

namespace Machine

structure Making where
  machine : Machine
  notices : List Notice

def make (graph : Graph) : Except Failure Making :=
  if graph.isValid then
    match graph.startState? with
    | some state =>
      let mailbox := Mailbox.enter ⟨state.key, [], []⟩ state
      let notices := if graph.flags.stateEntry then [.entering state.key] else []
      .ok ⟨⟨state.key, .entering, [], mailbox, none⟩, notices⟩
    | none => .error .noStartState
  else .error (.invalidProgram graph.errors)

def create (graph : Graph) : Except Failure Machine := (make graph).map Making.machine

def currentState? (graph : Graph) (machine : Machine) : Option State :=
  graph.state? machine.current

structure Receipt where
  submission : Submission
  machine : Machine
  notices : List Notice

def submit (graph : Graph) (name : String) (machine : Machine) : Except Failure Receipt :=
  match graph.event? (.of name) with
  | none => .error (.unknownEvent name)
  | some event =>
    let mailbox := machine.mailbox
    if event.key ∈ mailbox.accepted then
      let mailbox := { mailbox with pending := mailbox.pending ++ [event.key] }
      .ok ⟨.accepted, { machine with mailbox }, []⟩
    else
      .ok ⟨.dropped, machine, [.notAccepted event.key mailbox.current]⟩

end Machine

end SceneFlow
