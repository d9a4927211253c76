import SceneFlow.Machine.Tick

namespace SceneFlow

structure Stage where
  machine : Machine
  loaded : List String
  deriving DecidableEq

namespace Stage

def create (graph : Graph) : Except Failure (Stage × List Notice) :=
  match Machine.make graph with
  | .ok ⟨machine, notices⟩ => .ok (⟨machine, []⟩, notices)
  | .error failure => .error failure

def tick (graph : Graph) (now : Nat) (ready : Bool) (stage : Stage) :
    Stage × Option Call × Machine.Step :=
  let (call, step) := stage.machine.tick graph now ready
  (⟨step.machine, call.elim stage.loaded (Call.perform stage.loaded)⟩, call, step)

end Stage

end SceneFlow
