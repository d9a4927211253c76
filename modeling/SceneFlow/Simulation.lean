import SceneFlow.Resource

namespace SceneFlow

structure Simulation where
  /-- The time that a call takes, in nanoseconds. -/
  latency : Nat
  loaded : List String
  readyAt : Nat
  deriving DecidableEq

namespace Simulation

def create (latency : Nat) : Simulation := ⟨latency, [], 0⟩

def perform (now : Nat) (call : Call) (simulation : Simulation) : Simulation :=
  { simulation with
    loaded := call.perform simulation.loaded
    readyAt := now + simulation.latency }

def isComplete (now : Nat) (simulation : Simulation) : Bool := decide (simulation.readyAt ≤ now)

end Simulation

end SceneFlow
