import SceneFlow.Log
import SceneFlow.Proofs.Graph.Bare
import SceneFlow.Proofs.Machine.Course

/-!
Runs side by side. How the states and events of a graph are spelled does not show in what happens to
a machine. So machines of graphs that differ in nothing else go through a run in step with each
other, whatever loads their resources.
-/

namespace SceneFlow

variable {graph : Graph} {machine : Machine} {name : String}

theorem State.drain_bare (state : State) (current : Name) (history pending : List Name) :
    state.bare.drain current history pending = state.drain current history pending := by
  induction pending with
  | nil => rfl
  | cons event rest ih =>
    rw [drain, ih]
    rfl

namespace Machine

theorem currentState?_bare (graph : Graph) (machine : Machine) :
    machine.currentState? graph.bare = (machine.currentState? graph).map State.bare :=
  graph.toDiagram.state?_bare machine.current

theorem create_bare (graph : Graph) : create graph.bare = create graph := by
  have hstart : graph.bare.startState? = graph.startState?.map State.bare :=
    graph.toDiagram.startState?_bare
  have hmake : make graph.bare = make graph := by
    rw [make, make, hstart]
    cases graph.startState? <;> rfl
  rw [create, create, hmake]

theorem begin_bare (graph : Graph) (now : Nat) (machine : Machine) :
    machine.begin graph.bare now = machine.begin graph now := by
  simp only [begin, currentState?_bare]
  cases machine.currentState? graph with
  | none => rfl
  | some state =>
    obtain ⟨_, _, resource, _, _, _, _⟩ := state
    cases resource <;> rfl

theorem examine_bare (state : State) (now since : Nat) (machine : Machine) :
    examine state.bare now since machine = examine state now since machine := by
  simp only [examine, State.drain_bare]
  rfl

theorem fire_bare (graph : Graph) (state : State) (choice : Choice) (left : List Name)
    (machine : Machine) :
    machine.fire graph.bare state.bare choice left = machine.fire graph state choice left := by
  simp only [fire]
  have h : graph.bare.state? choice.target = (graph.state? choice.target).map State.bare :=
    graph.toDiagram.state?_bare _
  rw [h]
  cases graph.state? choice.target <;> rfl

theorem poll_bare (graph : Graph) (now since : Nat) (machine : Machine) :
    poll graph.bare now since machine = poll graph now since machine := by
  simp only [poll, currentState?_bare]
  cases machine.currentState? graph with
  | none => rfl
  | some state => simp only [Option.map_some, examine_bare, fire_bare]

theorem tick_bare (graph : Graph) (now : Nat) (ready : Bool) (machine : Machine) :
    machine.tick graph.bare now ready = machine.tick graph now ready := by
  simp only [tick, advance, begin_bare, poll_bare]
  rfl

theorem submit_bare (graph : Graph) (name : String) (machine : Machine) :
    machine.submit graph.bare name = machine.submit graph name := by
  have h : graph.bare.event? (.of name) = (graph.event? (.of name)).map Event.bare :=
    graph.toDiagram.event?_bare _
  simp only [submit]
  rw [h]
  cases graph.event? (.of name) <;> rfl

theorem submit_of_name_eq (graph : Graph) (machine : Machine) {name other : String}
    (h : Name.of other = .of name) :
    machine.submit graph other = machine.submit graph name ∨
      machine.submit graph name = .error (.unknownEvent name) ∧
        machine.submit graph other = .error (.unknownEvent other) := by
  cases hevent : graph.event? (.of name) with
  | none => exact .inr ⟨submit_of_unknown hevent, submit_of_unknown (h ▸ hevent)⟩
  | some event =>
    left
    by_cases haccepted : .of name ∈ machine.mailbox.accepted
    · rw [submit_of_accepted hevent haccepted, submit_of_accepted (h ▸ hevent) (h ▸ haccepted), h]
    · rw [submit_of_dropped hevent haccepted, submit_of_dropped (h ▸ hevent) (h ▸ haccepted), h]

end Machine

/-- Whatever loads the resources. At any turn of a run it tells whether the latest of the calls made
to it is complete, and it may log lines of its own when a call is made. -/
structure Activator where
  isReady : Nat → List Call → Bool
  lines : Call → List LogLine

inductive Move
  | tick (now : Nat)
  | submit (name : String)

namespace Move

inductive Same : Move → Move → Prop
  | tick (now : Nat) : Same (.tick now) (.tick now)
  | submit {name other : String} : Name.of other = .of name → Same (.submit name) (.submit other)

end Move

namespace Course

/-- The action that a move comes to. What is asked of the activator is asked after the call that the
tick makes. -/
def action (graph : Graph) (activator : Activator) (turn : Nat) (course : Course) : Move → Action
  | .tick now =>
    .tick now (activator.isReady turn
      (course.calls ++ (course.machine.begin graph now).2.toList))
  | .submit name => .submit name

def play (graph : Graph) (activator : Activator) : Nat → List Move → Course → List Moment
  | _, [], _ => []
  | turn, move :: moves, course =>
    let moment := course.react graph (course.action graph activator turn move)
    moment :: moment.after.play graph activator (turn + 1) moves

theorem action_bare (graph : Graph) (activator : Activator) (turn : Nat) (course : Course)
    (move : Move) :
    course.action graph.bare activator turn move = course.action graph activator turn move := by
  cases move with
  | tick now => rw [action, action, Machine.begin_bare]
  | submit name => rfl

theorem react_bare (graph : Graph) (course : Course) (action : Action) :
    course.react graph.bare action = course.react graph action := by
  cases action with
  | tick now ready => rw [react_tick, react_tick, Machine.tick_bare]
  | submit name => rw [react, react, Machine.submit_bare]

theorem play_bare (graph : Graph) (activator : Activator) (turn : Nat) (moves : List Move)
    (course : Course) :
    course.play graph.bare activator turn moves = course.play graph activator turn moves := by
  induction moves generalizing turn course with
  | nil => rfl
  | cons move moves ih => rw [play, play, action_bare, react_bare, ih]

end Course

end SceneFlow
