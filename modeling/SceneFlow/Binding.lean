import SceneFlow.Checksum
import SceneFlow.Fault
import SceneFlow.Graph

/-!
Binding: from commands to a graph. The commands are taken in passes, each of which relies on what
the passes before it have filled: states, events, the two distinguished states, resources, timed,
named and back transitions, log switches. A command that does not fit its signature is told as a
fault and has no effect. What is declared twice keeps its first declaration, and all else that is
filled twice keeps the last filling; both are faults.
-/

namespace SceneFlow

namespace Keyword

def passes : List (Keyword → Bool) :=
  [(· = state), (· = event), (· = defineStart), (· = defineError),
    fun keyword => keyword = loadScene ∨ keyword = loadSceneAdditive,
    (· = timedTransition), (· = namedTransition), (· = backTransition), (!·.flags.isEmpty)]

end Keyword

def schedule (commands : List Command) : List Command :=
  Keyword.passes.flatMap fun takes => commands.filter fun command => takes command.keyword

/-- What a command is held against when its turn comes. -/
structure Lookup where
  state? : Name → Option State
  event? : Name → Option Event
  start : Option Name
  error : Option Name
  flags : LogFlags

namespace Lookup

def argumentMisfit? (lookup : Lookup) (kind : ArgumentKind) (argument : String) :
    Option Misfit :=
  match kind with
  | .identifier => if isIdentifier argument then none else some (.notIdentifier argument)
  | .state =>
    if isIdentifier argument ∧ (lookup.state? (.of argument)).isSome then none
    else some (.notState argument)
  | .event =>
    if isIdentifier argument ∧ (lookup.event? (.of argument)).isSome then none
    else some (.notEvent argument)
  | .time =>
    match Number.Binary64.ofLiteral? argument with
    | none => some (.notSeconds argument)
    | some seconds =>
      if !seconds.isFiniteNonNegative then some (.notSeconds argument)
      else if seconds.delay?.isNone then some (.tooLong argument)
      else none

def misfit? (lookup : Lookup) (command : Command) : Option Misfit :=
  let signature := command.keyword.signature
  if command.arguments.length ≠ signature.length then some .count
  else (signature.zip command.arguments).findSome? fun (kind, argument) =>
    lookup.argumentMisfit? kind argument

def isFilled (lookup : Lookup) : Slot → Bool
  | .state key => (lookup.state? key).isSome
  | .event key => (lookup.event? key).isSome
  | .start => lookup.start.isSome
  | .error => lookup.error.isSome
  | .resource key => (lookup.state? key).any (·.resource.isSome)
  | .timed key => (lookup.state? key).any (·.timed.isSome)
  | .named key event => (lookup.state? key).any (·.named.any (·.1 = event))
  | .back key event => (lookup.state? key).any (·.back.contains event)
  | .flag flag => lookup.flags.get flag

end Lookup

/-- The tables that are filled while commands are bound: states and events by ascending name, and
their names in the order of declaration. -/
structure Tables where
  states : List (Name × State)
  stateOrder : List Name
  events : List (Name × Event)
  eventOrder : List Name
  start : Option Name
  error : Option Name
  flags : LogFlags

namespace Tables

def empty : Tables := ⟨[], [], [], [], none, none, .none⟩

def state? (tables : Tables) (key : Name) : Option State := tables.states.lookup key

def event? (tables : Tables) (key : Name) : Option Event := tables.events.lookup key

def lookup (tables : Tables) : Lookup :=
  ⟨tables.state?, tables.event?, tables.start, tables.error, tables.flags⟩

def declareState (tables : Tables) (name : String) : Tables :=
  let state := State.declare name
  if (tables.state? state.key).isSome then tables
  else { tables with
    stateOrder := tables.stateOrder ++ [state.key]
    states := Name.insertEntry state.key state tables.states }

def declareEvent (tables : Tables) (name : String) : Tables :=
  let event := Event.declare name
  if (tables.event? event.key).isSome then tables
  else { tables with
    eventOrder := tables.eventOrder ++ [event.key]
    events := Name.insertEntry event.key event tables.events }

def modifyState (tables : Tables) (key : Name) (change : State → State) : Tables :=
  { tables with states := Name.modifyEntry key change tables.states }

def assign (tables : Tables) (command : Command) : Tables :=
  match command.keyword, command.arguments with
  | .state, [name] => tables.declareState name
  | .event, [name] => tables.declareEvent name
  | .defineStart, [state] => { tables with start := some (.of state) }
  | .defineError, [state] => { tables with error := some (.of state) }
  | .loadScene, [state, resource] =>
    tables.modifyState (.of state) fun s => { s with resource, additive := false }
  | .loadSceneAdditive, [state, resource] =>
    tables.modifyState (.of state) fun s => { s with resource, additive := true }
  | .timedTransition, [state, target, time] =>
    match Number.Binary64.ofLiteral? time with
    | some seconds =>
      tables.modifyState (.of state) fun s => { s with timed := some ⟨.of target, seconds⟩ }
    | none => tables
  | .namedTransition, [state, target, event] =>
    tables.modifyState (.of state) fun s =>
      { s with named := Name.insertEntry (.of event) (.of target) s.named }
  | .backTransition, [state, event] =>
    tables.modifyState (.of state) fun s => { s with back := Name.insert (.of event) s.back }
  | keyword, _ => { tables with flags := keyword.flags.foldl LogFlags.set tables.flags }

def diagram (tables : Tables) : Diagram where
  states := tables.stateOrder.filterMap tables.state?
  events := tables.eventOrder.filterMap tables.event?
  start := tables.start
  error := tables.error
  flags := tables.flags

end Tables

def Command.slots (command : Command) : List Slot :=
  match command.keyword, command.arguments with
  | .state, [name] => [.state (.of name)]
  | .event, [name] => [.event (.of name)]
  | .defineStart, _ => [.start]
  | .defineError, _ => [.error]
  | .loadScene, state :: _ | .loadSceneAdditive, state :: _ => [.resource (.of state)]
  | .timedTransition, state :: _ => [.timed (.of state)]
  | .namedTransition, [state, _, event] => [.named (.of state) (.of event)]
  | .backTransition, [state, event] => [.back (.of state) (.of event)]
  | keyword, _ => keyword.flags.map .flag

structure Binder where
  tables : Tables
  faults : List Fault

def Binder.bindNext (binder : Binder) (command : Command) : Binder :=
  match binder.tables.lookup.misfit? command with
  | some reason => { binder with faults := binder.faults ++ [.misfit command reason] }
  | none =>
    let refilled := command.slots.filter binder.tables.lookup.isFilled
    ⟨binder.tables.assign command, binder.faults ++ refilled.map (.refilled command)⟩

def bindAll (commands : List Command) (earlier : List Fault) : Binder :=
  (schedule commands).foldl Binder.bindNext ⟨.empty, earlier⟩

/-- Binds all commands. The faults found before come first, and count as the graph's as well. -/
def bindCommands [Checksum] (commands : List Command) (earlier : List Fault) :
    Graph × List Fault :=
  let binder := bindAll commands earlier
  (⟨binder.tables.diagram, Checksum.ofText (listing commands), binder.faults.length⟩,
    binder.faults)

end SceneFlow
