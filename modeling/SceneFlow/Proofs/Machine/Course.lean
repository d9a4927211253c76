import SceneFlow.Proofs.Machine.Tick

/-!
Courses: machines on their way. What happens to a machine is a list of actions, in any order: ticks,
each with a reading of the clock and an answer of whatever loads the resources, and submissions of
events. A course is a machine with an account of the states that it has entered and of the calls
that it has made, and every action on it makes a moment.

A tick takes the pending events at one point, after its phase is settled. A submission from
elsewhere that comes in before that point is as good as one before the tick (`tick_of_submit`), and
one that comes in later is one after the tick, so an action is taken as a whole.
-/

namespace SceneFlow

variable {graph : Graph} {machine : Machine} {now : Nat} {ready : Bool} {name : String}

theorem Diagram.key_of_event? {diagram : Diagram} {key : Name} {event : Event}
    (h : diagram.event? key = some event) : event.key = key := by
  simpa using List.find?_some h

theorem Diagram.key_of_state? {diagram : Diagram} {key : Name} {state : State}
    (h : diagram.state? key = some state) : state.key = key := by
  simpa using List.find?_some h

namespace Machine

theorem begin_mailbox_update (graph : Graph) (now : Nat) (machine : Machine) (mailbox : Mailbox) :
    { machine with mailbox }.begin graph now =
      ({ (machine.begin graph now).1 with mailbox }, (machine.begin graph now).2) := by
  simp only [begin, currentState?]
  split
  · split
    · rfl
    · split <;> rfl
  · rfl

theorem settled_mailbox_update (graph : Graph) (now : Nat) (ready : Bool) (machine : Machine)
    (mailbox : Mailbox) :
    { machine with mailbox }.settled graph now ready =
      { machine.settled graph now ready with mailbox } := by
  simp only [settled, begin_mailbox_update, settle]
  split
  · split <;> rfl
  · rfl

theorem arrival_mailbox_update (graph : Graph) (now : Nat) (ready : Bool) (machine : Machine)
    (mailbox : Mailbox) :
    { machine with mailbox }.arrival graph now ready = machine.arrival graph now ready := by
  simp only [arrival, begin_mailbox_update, settle]
  split
  · split <;> rfl
  · rfl

theorem submit_of_unknown (h : graph.event? (.of name) = none) :
    machine.submit graph name = .error (.unknownEvent name) := by
  simp [submit, h]

theorem submit_of_accepted {event : Event} (h : graph.event? (.of name) = some event)
    (haccepted : .of name ∈ machine.mailbox.accepted) :
    machine.submit graph name =
      .ok ⟨.accepted,
        { machine with
          mailbox := { machine.mailbox with pending := machine.mailbox.pending ++ [.of name] } },
        []⟩ := by
  simp [submit, h, Diagram.key_of_event? h, haccepted]

theorem submit_of_dropped {event : Event} (h : graph.event? (.of name) = some event)
    (haccepted : .of name ∉ machine.mailbox.accepted) :
    machine.submit graph name =
      .ok ⟨.dropped, machine, [.notAccepted (.of name) machine.mailbox.current]⟩ := by
  simp [submit, h, Diagram.key_of_event? h, haccepted]

theorem settled_withPending (pending : List Name) :
    (machine.withPending pending).settled graph now ready =
      (machine.settled graph now ready).withPending pending := by
  rw [withPending, settled_mailbox_update, withPending, settled_mailbox]

theorem submit_of_mailbox_eq {other : Machine} (graph : Graph) (name : String)
    (h : other.mailbox = machine.mailbox) :
    other.submit graph name =
      (machine.submit graph name).map fun receipt =>
        { receipt with machine := { other with mailbox := receipt.machine.mailbox } } := by
  cases hevent : graph.event? (.of name) with
  | none => rw [submit_of_unknown hevent, submit_of_unknown hevent, Except.map]
  | some event =>
    by_cases haccepted : .of name ∈ machine.mailbox.accepted
    · rw [submit_of_accepted hevent haccepted, submit_of_accepted hevent (h ▸ haccepted), h,
        Except.map]
    · rw [submit_of_dropped hevent haccepted, submit_of_dropped hevent (h ▸ haccepted)]
      simp only [Except.map, ← h]

theorem submit_machine {receipt : Receipt} (h : machine.submit graph name = .ok receipt) :
    receipt.machine = { machine with mailbox := receipt.machine.mailbox } := by
  have hmap := submit_of_mailbox_eq graph name (Eq.refl machine.mailbox)
  rw [h] at hmap
  exact congrArg Receipt.machine (Except.ok.inj hmap)

theorem submit_current {receipt : Receipt}
    (h : machine.submit graph name = .ok receipt) : receipt.machine.current = machine.current := by
  rw [submit_machine h]

theorem submit_history {receipt : Receipt}
    (h : machine.submit graph name = .ok receipt) : receipt.machine.history = machine.history := by
  rw [submit_machine h]

theorem begin_of_submit {receipt : Receipt} (h : machine.submit graph name = .ok receipt) :
    receipt.machine.begin graph now =
      ({ (machine.begin graph now).1 with mailbox := receipt.machine.mailbox },
        (machine.begin graph now).2) := by
  have hbegin := begin_mailbox_update graph now machine receipt.machine.mailbox
  rwa [← submit_machine h] at hbegin

theorem submit_settled (graph : Graph) (now : Nat) (ready : Bool) (machine : Machine)
    (name : String) :
    (machine.settled graph now ready).submit graph name =
      (machine.submit graph name).map fun receipt =>
        { receipt with machine := receipt.machine.settled graph now ready } := by
  rw [submit_of_mailbox_eq graph name settled_mailbox]
  cases h : machine.submit graph name with
  | error failure => rfl
  | ok receipt =>
    have hsettled := settled_mailbox_update graph now ready machine receipt.machine.mailbox
    rw [← submit_machine h] at hsettled
    rw [Except.map, Except.map, hsettled]

/-- A tick after a submission is the tick without it, with the submission made in its midst: when
the phase is settled, and the pending events are not yet looked at. -/
theorem tick_of_submit {since : Nat} {receipt : Receipt}
    (h : machine.submit graph name = .ok receipt)
    (hphase : (machine.settled graph now ready).phase = .waiting since) :
    ∃ amid, (machine.settled graph now ready).submit graph name = .ok amid ∧
      amid.submission = receipt.submission ∧ amid.notices = receipt.notices ∧
      receipt.machine.tick graph now ready =
        ((machine.tick graph now ready).1,
          { poll graph now since amid.machine with
            notices := machine.arrival graph now ready
              ++ (poll graph now since amid.machine).notices }) := by
  have hamid := submit_settled graph now ready machine name
  rw [h] at hamid
  refine ⟨_, hamid, rfl, rfl, ?_⟩
  have hsettled := settled_mailbox_update graph now ready machine receipt.machine.mailbox
  have harrival := arrival_mailbox_update graph now ready machine receipt.machine.mailbox
  rw [← submit_machine h] at hsettled harrival
  have hwaiting : (receipt.machine.settled graph now ready).phase = .waiting since := by
    rw [hsettled]
    exact hphase
  apply Prod.ext
  · show (receipt.machine.begin graph now).2 = (machine.begin graph now).2
    rw [begin_of_submit h]
  · rw [tick_of_waiting hwaiting, harrival]

end Machine

inductive Action
  /-- A tick at a reading of the clock, in nanoseconds. `ready` tells whether the activation under
  way, if there is one, is complete when the tick asks. -/
  | tick (now : Nat) (ready : Bool)
  | submit (name : String)

inductive Reaction
  | ticked (call : Option Call) (outcome : Outcome)
  | submitted (result : Except Failure Submission)

structure Course where
  machine : Machine
  /-- The states entered so far, in this order. The last one is the current one. -/
  visits : List Name
  calls : List Call

structure Moment where
  before : Course
  action : Action
  reaction : Reaction
  notices : List Notice
  after : Course

def Outcome.target? : Outcome → Option Name
  | transitioned transition => some transition.target
  | _ => none

namespace Course

def start (machine : Machine) : Course := ⟨machine, [machine.current], []⟩

def react (graph : Graph) (action : Action) (course : Course) : Moment :=
  match action with
  | .tick now ready =>
    let (call, step) := course.machine.tick graph now ready
    ⟨course, action, .ticked call step.outcome, step.notices,
      ⟨step.machine, course.visits ++ step.outcome.target?.toList,
        course.calls ++ call.toList⟩⟩
  | .submit name =>
    match course.machine.submit graph name with
    | .error failure => ⟨course, action, .submitted (.error failure), [], course⟩
    | .ok receipt =>
      ⟨course, action, .submitted (.ok receipt.submission), receipt.notices,
        { course with machine := receipt.machine }⟩

def run (graph : Graph) : List Action → Course → List Moment
  | [], _ => []
  | action :: actions, course =>
    let moment := course.react graph action
    moment :: moment.after.run graph actions

def finish (graph : Graph) : List Action → Course → Course
  | [], course => course
  | action :: actions, course => (course.react graph action).after.finish graph actions

inductive Reachable (graph : Graph) : Course → Prop
  | start {machine : Machine} :
      Machine.create graph = .ok machine → Reachable graph (.start machine)
  | next {course : Course} (action : Action) :
      Reachable graph course → Reachable graph (course.react graph action).after

variable {course : Course} {action : Action}

theorem react_tick (graph : Graph) (now : Nat) (ready : Bool) (course : Course) :
    course.react graph (.tick now ready) =
      let step := (course.machine.tick graph now ready).2
      let call := (course.machine.tick graph now ready).1
      ⟨course, .tick now ready, .ticked call step.outcome, step.notices,
        ⟨step.machine, course.visits ++ step.outcome.target?.toList,
          course.calls ++ call.toList⟩⟩ := rfl

theorem react_of_error {failure : Failure} (h : course.machine.submit graph name = .error failure) :
    course.react graph (.submit name) =
      ⟨course, .submit name, .submitted (.error failure), [], course⟩ := by
  simp [react, h]

theorem react_of_ok {receipt : Machine.Receipt}
    (h : course.machine.submit graph name = .ok receipt) :
    course.react graph (.submit name) =
      ⟨course, .submit name, .submitted (.ok receipt.submission), receipt.notices,
        { course with machine := receipt.machine }⟩ := by
  simp [react, h]

@[simp] theorem react_action : (course.react graph action).action = action := by
  cases action with
  | tick now ready => rfl
  | submit name =>
    cases hresult : course.machine.submit graph name with
    | error failure => rw [react_of_error hresult]
    | ok receipt => rw [react_of_ok hresult]

theorem Reachable.machine_induction {P : Machine → Prop}
    (hcreate : ∀ machine, Machine.create graph = .ok machine → P machine)
    (htick : ∀ machine now ready, P machine → P (machine.tick graph now ready).2.machine)
    (hsubmit : ∀ machine name receipt, P machine → machine.submit graph name = .ok receipt →
      P receipt.machine)
    (h : course.Reachable graph) : P course.machine := by
  induction h with
  | start hmachine => exact hcreate _ hmachine
  | @next course action _ ih =>
    cases action with
    | tick now ready => exact htick _ _ _ ih
    | submit name =>
      cases hresult : course.machine.submit graph name with
      | error failure => rwa [react_of_error hresult]
      | ok receipt =>
        rw [react_of_ok hresult]
        exact hsubmit _ _ _ ih hresult

theorem Reachable.finish (h : course.Reachable graph) (actions : List Action) :
    (course.finish graph actions).Reachable graph := by
  induction actions generalizing course with
  | nil => exact h
  | cons action actions ih => exact ih (h.next action)

end Course

def Graph.house : Graph where
  states := [⟨"Hall", ⟨"hall"⟩, none, false, none, [(⟨"enter"⟩, ⟨"attic"⟩)], [⟨"leave"⟩]⟩,
    ⟨"Attic", ⟨"attic"⟩, some "Lamp", true, none, [], [⟨"leave"⟩]⟩]
  events := [⟨"Enter", ⟨"enter"⟩⟩, ⟨"Leave", ⟨"leave"⟩⟩]
  start := some ⟨"hall"⟩
  error := none
  flags := .none
  checksum := ""
  errors := 0

def Machine.inHouse : Machine :=
  ⟨⟨"hall"⟩, .entering, [], ⟨⟨"hall"⟩, [⟨"enter"⟩, ⟨"leave"⟩], []⟩, none⟩

end SceneFlow
