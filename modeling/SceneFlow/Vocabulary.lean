import SceneFlow.Text.Case

namespace SceneFlow

inductive ArgumentKind
  | identifier
  | state
  | event
  /-- A finite number of seconds, not negative. -/
  | time
  deriving DecidableEq

def ArgumentKind.label : ArgumentKind → String
  | identifier => "Identifier"
  | state => "State"
  | event => "Event"
  | time => "Time"

inductive LogFlag
  | stateEntry
  | stateExit
  | sceneLoaded
  | timedTransitions
  | namedTransitions
  | backTransitions
  deriving DecidableEq

def LogFlag.all : List LogFlag :=
  [.stateEntry, .stateExit, .sceneLoaded, .timedTransitions, .namedTransitions, .backTransitions]

theorem LogFlag.mem_all (flag : LogFlag) : flag ∈ all := by
  cases flag <;> decide

inductive Keyword
  | defineStart
  | defineError
  | state
  | loadScene
  | loadSceneAdditive
  | timedTransition
  | event
  | namedTransition
  | backTransition
  | logStateEntry
  | logStateExit
  | logSceneLoaded
  | logTimedTransitions
  | logNamedTransitions
  | logBackTransitions
  | logAllTransitions
  | logAll
  deriving DecidableEq

namespace Keyword

def all : List Keyword :=
  [defineStart, defineError, state, loadScene, loadSceneAdditive, timedTransition, event,
    namedTransition, backTransition, logStateEntry, logStateExit, logSceneLoaded,
    logTimedTransitions, logNamedTransitions, logBackTransitions, logAllTransitions, logAll]

theorem mem_all (keyword : Keyword) : keyword ∈ all := by
  cases keyword <;> decide

def index (keyword : Keyword) : Nat := all.idxOf keyword

def spelling : Keyword → String
  | defineStart => "DefineStart"
  | defineError => "DefineError"
  | state => "State"
  | loadScene => "LoadScene"
  | loadSceneAdditive => "LoadSceneAdditive"
  | timedTransition => "TimedTransition"
  | event => "Event"
  | namedTransition => "NamedTransition"
  | backTransition => "BackTransition"
  | logStateEntry => "LogStateEntry"
  | logStateExit => "LogStateExit"
  | logSceneLoaded => "LogSceneLoaded"
  | logTimedTransitions => "LogTimedTransitions"
  | logNamedTransitions => "LogNamedTransitions"
  | logBackTransitions => "LogBackTransitions"
  | logAllTransitions => "LogAllTransitions"
  | logAll => "LogAll"

def ofWord? (word : String) : Option Keyword :=
  all.find? fun keyword => Text.equalIgnoringCase keyword.spelling word

def signature : Keyword → List ArgumentKind
  | state | event => [.identifier]
  | defineStart | defineError => [.state]
  | loadScene | loadSceneAdditive => [.state, .identifier]
  | timedTransition => [.state, .state, .time]
  | namedTransition => [.state, .state, .event]
  | backTransition => [.state, .event]
  | logStateEntry | logStateExit | logSceneLoaded | logTimedTransitions | logNamedTransitions
  | logBackTransitions | logAllTransitions | logAll => []

def flags : Keyword → List LogFlag
  | logStateEntry => [.stateEntry]
  | logStateExit => [.stateExit]
  | logSceneLoaded => [.sceneLoaded]
  | logTimedTransitions => [.timedTransitions]
  | logNamedTransitions => [.namedTransitions]
  | logBackTransitions => [.backTransitions]
  | logAllTransitions => [.timedTransitions, .namedTransitions, .backTransitions]
  | logAll => LogFlag.all
  | _ => []

end Keyword

def LogFlag.keyword : LogFlag → Keyword
  | stateEntry => .logStateEntry
  | stateExit => .logStateExit
  | sceneLoaded => .logSceneLoaded
  | timedTransitions => .logTimedTransitions
  | namedTransitions => .logNamedTransitions
  | backTransitions => .logBackTransitions

@[simp] theorem LogFlag.flags_keyword (flag : LogFlag) : flag.keyword.flags = [flag] := by
  cases flag <;> rfl

end SceneFlow
