import SceneFlow.Graph

namespace SceneFlow

def State.bare (state : State) : State := { state with name := state.key.key }

def Event.bare (event : Event) : Event := { event with name := event.key.key }

namespace Diagram

def bare (diagram : Diagram) : Diagram :=
  { diagram with
    states := diagram.states.map State.bare
    events := diagram.events.map Event.bare }

variable {diagram other : Diagram}

theorem state?_bare (diagram : Diagram) (key : Name) :
    diagram.bare.state? key = (diagram.state? key).map State.bare :=
  List.find?_map ..

theorem event?_bare (diagram : Diagram) (key : Name) :
    diagram.bare.event? key = (diagram.event? key).map Event.bare :=
  List.find?_map ..

theorem startState?_bare (diagram : Diagram) :
    diagram.bare.startState? = diagram.startState?.map State.bare := by
  rw [startState?, startState?, Option.map_bind]
  exact congrArg diagram.start.bind (funext diagram.state?_bare)

theorem isSome_state?_of_bare_eq (h : other.bare = diagram.bare) (key : Name) :
    (other.state? key).isSome = (diagram.state? key).isSome := by
  have hstate := diagram.state?_bare key
  rw [← h, other.state?_bare] at hstate
  simpa using congrArg Option.isSome hstate

theorem isSome_event?_of_bare_eq (h : other.bare = diagram.bare) (key : Name) :
    (other.event? key).isSome = (diagram.event? key).isSome := by
  have hevent := diagram.event?_bare key
  rw [← h, other.event?_bare] at hevent
  simpa using congrArg Option.isSome hevent

end Diagram

def Graph.bare (graph : Graph) : Graph :=
  { graph.toDiagram.bare with checksum := "", errors := graph.errors }

end SceneFlow
