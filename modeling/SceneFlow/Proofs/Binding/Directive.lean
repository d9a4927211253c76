import Mathlib.Data.List.Basic
import SceneFlow.Program

/-!
Directives: what commands say, apart from how they are written. A diagram is drafted by performing
the directives of the commands that fit it.
-/

namespace SceneFlow

variable {diagram : Diagram} {command : Command}

inductive Directive
  | state (name : String)
  | event (name : String)
  | start (state : Name)
  | error (state : Name)
  | resource (state : Name) (resource : String) (additive : Bool)
  | timed (state : Name) (timed : Timed)
  | named (state target event : Name)
  | back (state event : Name)
  | switches (flags : List LogFlag)

/-- The keywords that turn a log switch on, by itself or with others. -/
def LogFlag.keywords : LogFlag → List Keyword
  | stateEntry => [.logStateEntry, .logAll]
  | stateExit => [.logStateExit, .logAll]
  | sceneLoaded => [.logSceneLoaded, .logAll]
  | timedTransitions => [.logTimedTransitions, .logAllTransitions, .logAll]
  | namedTransitions => [.logNamedTransitions, .logAllTransitions, .logAll]
  | backTransitions => [.logBackTransitions, .logAllTransitions, .logAll]

def Keyword.switches (keyword : Keyword) : List LogFlag :=
  LogFlag.all.filter (keyword ∈ ·.keywords)

theorem Keyword.flags_eq_switches (keyword : Keyword) : keyword.flags = keyword.switches := by
  cases keyword <;> rfl

def Command.directive? (command : Command) : Option Directive :=
  match command.keyword, command.arguments with
  | .state, [name] => some (.state name)
  | .event, [name] => some (.event name)
  | .defineStart, [state] => some (.start (.of state))
  | .defineError, [state] => some (.error (.of state))
  | .loadScene, [state, resource] => some (.resource (.of state) resource false)
  | .loadSceneAdditive, [state, resource] => some (.resource (.of state) resource true)
  | .timedTransition, [state, target, time] =>
    (Number.Binary64.ofLiteral? time).map fun seconds => .timed (.of state) ⟨.of target, seconds⟩
  | .namedTransition, [state, target, event] => some (.named (.of state) (.of target) (.of event))
  | .backTransition, [state, event] => some (.back (.of state) (.of event))
  | keyword, _ => some (.switches keyword.switches)

namespace Directive

def slots : Directive → List Slot
  | .state name => [.state (.of name)]
  | .event name => [.event (.of name)]
  | .start _ => [.start]
  | .error _ => [.error]
  | .resource key _ _ => [.resource key]
  | .timed key _ => [.timed key]
  | .named key _ trigger => [.named key trigger]
  | .back key trigger => [.back key trigger]
  | .switches flags => flags.map .flag

def SaidBy (keyword : Keyword) : Directive → Prop
  | .state _ => keyword = .state
  | .event _ => keyword = .event
  | .start _ => keyword = .defineStart
  | .error _ => keyword = .defineError
  | .resource _ _ _ => keyword = .loadScene ∨ keyword = .loadSceneAdditive
  | .timed _ _ => keyword = .timedTransition
  | .named _ _ _ => keyword = .namedTransition
  | .back _ _ => keyword = .backTransition
  | .switches flags => flags = keyword.switches

end Directive

theorem Command.saidBy_of_directive? {directive : Directive}
    (h : command.directive? = some directive) : directive.SaidBy command.keyword := by
  rw [directive?] at h
  split at h
  case h_5 hkeyword _ =>
    cases h
    exact .inl hkeyword
  case h_6 hkeyword _ =>
    cases h
    exact .inr hkeyword
  case h_7 hkeyword _ =>
    obtain ⟨seconds, _, rfl⟩ := Option.map_eq_some_iff.1 h
    exact hkeyword
  case h_10 =>
    cases h
    rfl
  all_goals
    cases h
    assumption

def State.attach (state : State) : Directive → State
  | .resource key resource additive =>
    if state.key = key then { state with resource, additive } else state
  | .timed key timed => if state.key = key then { state with timed := some timed } else state
  | .named key target event =>
    if state.key = key then { state with named := Name.insertEntry event target state.named }
    else state
  | .back key event =>
    if state.key = key then { state with back := Name.insert event state.back } else state
  | _ => state

def declareAmong {α : Type} (declare : String → α) (key : α → Name) (items : List α)
    (name : String) : List α :=
  if (items.find? fun item => key item = .of name).isSome then items else items ++ [declare name]

theorem Lookup.argumentMisfit?_state_eq_none_iff {lookup : Lookup} {argument : String} :
    lookup.argumentMisfit? .state argument = none ↔
      isIdentifier argument ∧ (lookup.state? (.of argument)).isSome := by
  simp [argumentMisfit?, Option.isSome_iff_ne_none]

theorem Lookup.argumentMisfit?_event_eq_none_iff {lookup : Lookup} {argument : String} :
    lookup.argumentMisfit? .event argument = none ↔
      isIdentifier argument ∧ (lookup.event? (.of argument)).isSome := by
  simp [argumentMisfit?, Option.isSome_iff_ne_none]

namespace Diagram

def perform (diagram : Diagram) (directive : Directive) : Diagram :=
  match directive with
  | .state name =>
    { diagram with states := declareAmong State.declare State.key diagram.states name }
  | .event name =>
    { diagram with events := declareAmong Event.declare Event.key diagram.events name }
  | .start state => { diagram with start := some state }
  | .error state => { diagram with error := some state }
  | .switches flags => { diagram with flags := flags.foldl LogFlags.set diagram.flags }
  | .resource _ _ _ | .timed _ _ | .named _ _ _ | .back _ _ =>
    { diagram with states := diagram.states.map (·.attach directive) }

theorem perform_state (diagram : Diagram) (name : String) :
    diagram.perform (.state name) =
      if (diagram.state? (.of name)).isSome then diagram
      else { diagram with states := diagram.states ++ [.declare name] } := by
  by_cases h : (diagram.state? (.of name)).isSome
  · rw [if_pos h]
    exact congrArg (fun states => { diagram with states }) (if_pos h)
  · rw [if_neg h]
    exact congrArg (fun states => { diagram with states }) (if_neg h)

theorem perform_event (diagram : Diagram) (name : String) :
    diagram.perform (.event name) =
      if (diagram.event? (.of name)).isSome then diagram
      else { diagram with events := diagram.events ++ [.declare name] } := by
  by_cases h : (diagram.event? (.of name)).isSome
  · rw [if_pos h]
    exact congrArg (fun events => { diagram with events }) (if_pos h)
  · rw [if_neg h]
    exact congrArg (fun events => { diagram with events }) (if_neg h)

def modifyState (diagram : Diagram) (key : Name) (change : State → State) : Diagram :=
  { diagram with
    states := diagram.states.map fun state => if state.key = key then change state else state }

def assign (diagram : Diagram) (command : Command) : Diagram :=
  command.directive?.elim diagram diagram.perform

def lookup (diagram : Diagram) : Lookup :=
  ⟨diagram.state?, diagram.event?, diagram.start, diagram.error, diagram.flags⟩

@[simp] theorem lookup_state? (diagram : Diagram) : diagram.lookup.state? = diagram.state? := rfl

@[simp] theorem lookup_event? (diagram : Diagram) : diagram.lookup.event? = diagram.event? := rfl

def misfit? (diagram : Diagram) (command : Command) : Option Misfit :=
  diagram.lookup.misfit? command

def isFilled (diagram : Diagram) (slot : Slot) : Bool := diagram.lookup.isFilled slot

end Diagram

@[simp] theorem State.attach_key (state : State) (directive : Directive) :
    (state.attach directive).key = state.key := by
  cases directive <;> simp [attach, apply_ite State.key]

@[simp] theorem State.attach_name (state : State) (directive : Directive) :
    (state.attach directive).name = state.name := by
  cases directive <;> simp [attach, apply_ite State.name]

/-- What is bound without the tables of the binder. -/
structure Draft where
  diagram : Diagram
  faults : List Fault

def Draft.bindNext (draft : Draft) (command : Command) : Draft :=
  match draft.diagram.misfit? command with
  | some reason => { draft with faults := draft.faults ++ [.misfit command reason] }
  | none =>
    let refilled := command.slots.filter draft.diagram.isFilled
    ⟨draft.diagram.assign command, draft.faults ++ refilled.map (.refilled command)⟩

end SceneFlow
