import SceneFlow.Machine
import SceneFlow.Resource

/-!
Ticks: all that a machine does by itself. A tick begins with the activation that an entered state
calls for, goes on once that is complete, and then looks for a transition: the timed one comes
before the pending events, those are looked at in the order of their arrival, and at most one
transition happens in a tick. A timed transition happens when the time spent waiting exceeds its
delay, so not even a delay of nothing lets it happen in the tick that starts the wait.
-/

namespace SceneFlow

structure Choice where
  trigger : Trigger
  target : Name
  history : List Name

structure Drain where
  dropped : List (Name × Notice)
  choice : Option Choice
  left : List Name

/-- The latest state of a history that is not the current one, with the history before it. -/
def wayBack? (current : Name) (history : List Name) : Option (Name × List Name) :=
  match history.dropWhile (· = current) with
  | [] => none
  | target :: older => some (target, older)

def State.choose? (state : State) (current : Name) (history : List Name) (event : Name) :
    Option Choice :=
  match state.named.lookup event with
  | some target => some ⟨.named event, target, history⟩
  | none =>
    if event ∈ state.back then
      (wayBack? current history).map fun (target, older) => ⟨.back event, target, older⟩
    else none

def State.drain (state : State) (current : Name) (history : List Name) : List Name → Drain
  | [] => ⟨[], none, []⟩
  | event :: rest =>
    match state.choose? current history event with
    | some choice => ⟨[], some choice, rest⟩
    | none =>
      let notice : Notice :=
        if event ∈ state.back then .noWayBack event state.key else .noTransition event state.key
      let others := state.drain current history rest
      { others with dropped := (event, notice) :: others.dropped }

namespace Machine

structure Step where
  machine : Machine
  outcome : Outcome
  dropped : List Name
  notices : List Notice

/-- Begins the activation of a state that is being entered: an unload that was asked for, else a
load of the state's resource. Without either the wait begins at once. -/
def begin (graph : Graph) (now : Nat) (machine : Machine) : Machine × Option Call :=
  match machine.phase with
  | .entering =>
    match machine.unload with
    | some resource =>
      ({ machine with phase := .activating resource true, unload := none },
        some (.unload resource))
    | none =>
      match machine.currentState? graph with
      | some ⟨_, _, some resource, additive, _, _, _⟩ =>
        ({ machine with phase := .activating resource false }, some (.load resource additive))
      | _ => ({ machine with phase := .waiting now }, none)
  | _ => (machine, none)

def settle (graph : Graph) (now : Nat) (ready : Bool) (machine : Machine) :
    Machine × List Notice :=
  match machine.phase with
  | .activating resource unloading =>
    if ready then
      let notices :=
        if unloading then [.unloaded resource]
        else if graph.flags.sceneLoaded then [.loaded resource]
        else []
      ({ machine with phase := .waiting now }, notices)
    else (machine, [])
  | _ => (machine, [])

structure Fired where
  machine : Machine
  transition : Transition
  notices : List Notice

def fire (graph : Graph) (state : State) (choice : Choice) (left : List Name) (machine : Machine) :
    Fired :=
  let source := machine.current
  let target := choice.target
  let machine :=
    { machine with
      unload :=
        match choice.trigger with
        | .back _ => if state.unloadsOnBack then state.resource else machine.unload
        | _ => machine.unload
      history :=
        if choice.history.head? = some source then choice.history else source :: choice.history
      mailbox := { machine.mailbox with pending := [] } }
  let races := left.map .discarded
  let exit := if graph.flags.stateExit then [.exiting source] else []
  let change :=
    match choice.trigger with
    | .timed seconds =>
      if graph.flags.timedTransitions then [.timed source target seconds] else []
    | .named event => if graph.flags.namedTransitions then [.named source target event] else []
    | .back event => if graph.flags.backTransitions then [.back source target event] else []
  let machine :=
    { machine with
      mailbox := (graph.state? target).elim machine.mailbox machine.mailbox.enter
      current := target
      phase := .entering }
  let entry := if graph.flags.stateEntry then [.entering target] else []
  ⟨machine, ⟨source, target, choice.trigger, left⟩, races ++ exit ++ change ++ entry⟩

/-- What a state waiting since a moment has to do: the choice it makes, the pending events that it
drops before, and those that are left over. -/
def examine (state : State) (now since : Nat) (machine : Machine) : Drain :=
  let pending := machine.mailbox.pending
  match state.timed with
  | some timed =>
    if timed.delay < now - since then
      ⟨[], some ⟨.timed timed.seconds, timed.target, machine.history⟩, pending⟩
    else state.drain machine.current machine.history pending
  | none => state.drain machine.current machine.history pending

def poll (graph : Graph) (now since : Nat) (machine : Machine) : Step :=
  match machine.currentState? graph with
  | none => ⟨machine, .idle, [], []⟩
  | some state =>
    let drain := examine state now since machine
    let dropped := drain.dropped.map Prod.fst
    let notices := drain.dropped.map Prod.snd
    match drain.choice with
    | some choice =>
      let fired := fire graph state choice drain.left machine
      ⟨fired.machine, .transitioned fired.transition, dropped, notices ++ fired.notices⟩
    | none =>
      ⟨{ machine with mailbox := { machine.mailbox with pending := [] } }, .idle, dropped, notices⟩

/-- Goes on after the activation has begun; `ready` tells whether it is complete. -/
def advance (graph : Graph) (now : Nat) (ready : Bool) (machine : Machine) : Step :=
  let (machine, settled) := settle graph now ready machine
  match machine.phase with
  | .waiting since =>
    let step := poll graph now since machine
    { step with notices := settled ++ step.notices }
  | _ => ⟨machine, .activating, [], settled⟩

def tick (graph : Graph) (now : Nat) (ready : Bool) (machine : Machine) : Option Call × Step :=
  let (machine, call) := begin graph now machine
  (call, advance graph now ready machine)

end Machine

end SceneFlow
