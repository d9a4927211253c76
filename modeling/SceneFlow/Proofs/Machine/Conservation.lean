import SceneFlow.Proofs.Machine.Mailbox

namespace SceneFlow

/-- An accepted event and the visit that it is accepted in, by its number and its state. -/
structure Ticket where
  visit : Nat
  state : Name
  event : Name
  deriving DecidableEq

def Trigger.event? : Trigger → Option Name
  | timed _ => none
  | named event | back event => some event

/-- The event that is dropped, if a notice tells of one that leads back to nowhere. -/
def Notice.strayed? : Notice → Option Name
  | noWayBack event _ => some event
  | _ => none

namespace Outcome

def events : Outcome → List Name
  | transitioned transition => transition.trigger.event?.toList ++ transition.discarded
  | _ => []

end Outcome

namespace Course

def ticket (course : Course) (event : Name) : Ticket :=
  ⟨course.visits.length, course.machine.current, event⟩

def tickets (course : Course) : List Ticket := course.machine.mailbox.pending.map course.ticket

end Course

namespace Moment

def accepted (moment : Moment) : List Ticket :=
  match moment.action, moment.reaction with
  | .submit name, .submitted (.ok .accepted) => [moment.before.ticket (.of name)]
  | _, _ => []

/-- The events that a tick consumes: first those with no way back, then those of the transition. -/
def consumed (moment : Moment) : List Ticket :=
  match moment.reaction with
  | .ticked _ outcome =>
    (moment.notices.filterMap Notice.strayed? ++ outcome.events).map moment.before.ticket
  | _ => []

end Moment

variable {graph : Graph} {state : State} {machine : Machine} {now : Nat} {ready : Bool}
  {current event : Name} {history events : List Name} {choice : Choice} {course : Course}

theorem Notice.filterMap_strayed?_of_no_refusal {notices : List Notice}
    (h : ∀ notice ∈ notices, notice.isRefusal = false) :
    notices.filterMap Notice.strayed? = [] := by
  refine List.filterMap_eq_nil_iff.2 fun notice hnotice => ?_
  cases notice with
  | noWayBack _ _ => exact absurd (h _ hnotice) (by simp [isRefusal])
  | _ => rfl

theorem Machine.filterMap_strayed?_fire (graph : Graph) (state : State) (choice : Choice)
    (left : List Name) (machine : Machine) :
    (machine.fire graph state choice left).notices.filterMap Notice.strayed? = [] :=
  Notice.filterMap_strayed?_of_no_refusal fun _ => isRefusal_of_mem_fire

theorem State.strayed?_refusal (h : event ∈ state.back) :
    (state.refusal event).strayed? = some event := by
  simp [refusal, h, Notice.strayed?]

theorem State.filterMap_strayed?_refusal (h : ∀ event ∈ events, event ∈ state.back) :
    (events.map state.refusal).filterMap Notice.strayed? = events := by
  induction events with
  | nil => rfl
  | cons event others ih =>
    have hothers := ih fun other hother => h other (List.mem_cons_of_mem event hother)
    rw [List.map_cons, List.filterMap_cons_some (strayed?_refusal (h event List.mem_cons_self)),
      hothers]

theorem State.event?_of_choose? (h : state.choose? current history event = some choice) :
    choice.trigger.event? = some event := by
  cases choose?_eq_some h with
  | inl hnamed =>
    obtain ⟨target, _, rfl⟩ := hnamed
    rfl
  | inr hback =>
    obtain ⟨target, older, _, _, rfl⟩ := hback
    rfl

theorem Machine.pending_tick (now : Nat) (ready : Bool) (h : machine.Agrees graph) :
    let step := (machine.tick graph now ready).2
    machine.mailbox.pending =
        step.notices.filterMap Notice.strayed? ++ step.outcome.events
          ++ step.machine.mailbox.pending ∧
      (step.machine.mailbox.pending = [] ∨
        step.machine.current = machine.current ∧ step.outcome.target? = none) := by
  have harrival : (machine.arrival graph now ready).filterMap Notice.strayed? = [] :=
    Notice.filterMap_strayed?_of_no_refusal fun _ => isRefusal_of_mem_arrival
  have htick := tick_ticked graph now ready machine
  generalize (machine.tick graph now ready).2 = step at htick ⊢
  dsimp only
  cases htick with
  | activating _ =>
    rw [harrival, settled_mailbox, settled_current]
    exact ⟨rfl, .inr ⟨rfl, rfl⟩⟩
  | lost _ _ =>
    rw [harrival, settled_mailbox, settled_current]
    exact ⟨rfl, .inr ⟨rfl, rfl⟩⟩
  | idle _ hstate _ hrefused =>
    have hback := h.mem_back_of_refused hstate (fun _ => id) hrefused
    rw [List.filterMap_append, harrival, State.filterMap_strayed?_refusal hback]
    simp [Outcome.events, withPending]
  | timed _ _ _ _ hfired =>
    rw [List.filterMap_append, harrival, hfired, filterMap_strayed?_fire]
    simp [Outcome.events, Trigger.event?]
  | chosen _ hstate _ hqueued hearlier hevent hfired =>
    have hback := h.mem_back_of_refused hstate
      (fun _ hother => hqueued ▸ List.mem_append_left _ hother) hearlier
    rw [List.filterMap_append, List.filterMap_append, harrival,
      State.filterMap_strayed?_refusal hback, hqueued, hfired, filterMap_strayed?_fire]
    simp [Outcome.events, State.event?_of_choose? hevent]

namespace Course

theorem tickets_tick (now : Nat) (ready : Bool) (h : course.machine.Agrees graph) :
    course.tickets =
      (course.react graph (.tick now ready)).consumed
        ++ (course.react graph (.tick now ready)).after.tickets := by
  obtain ⟨hpending, hafter⟩ := course.machine.pending_tick now ready h
  rw [react_tick, tickets, hpending, List.map_append]
  congr 1
  cases hafter with
  | inl hempty => simp [tickets, hempty]
  | inr hsame =>
    obtain ⟨hcurrent, htarget⟩ := hsame
    simp [tickets, ticket, hcurrent, htarget]

theorem tickets_submit (name : String) :
    course.tickets ++ (course.react graph (.submit name)).accepted =
      (course.react graph (.submit name)).after.tickets := by
  cases hevent : graph.event? (.of name) with
  | none =>
    rw [react_of_error (Machine.submit_of_unknown hevent)]
    simp [Moment.accepted]
  | some event =>
    by_cases haccepted : .of name ∈ course.machine.mailbox.accepted
    · rw [react_of_ok (Machine.submit_of_accepted hevent haccepted)]
      simp [Moment.accepted, tickets, ticket]
    · rw [react_of_ok (Machine.submit_of_dropped hevent haccepted)]
      simp [Moment.accepted, tickets]

theorem consumed_submit (name : String) : (course.react graph (.submit name)).consumed = [] := by
  cases hresult : course.machine.submit graph name with
  | error failure => rw [react_of_error hresult, Moment.consumed]
  | ok receipt => rw [react_of_ok hresult, Moment.consumed]

theorem tickets_react (action : Action) (h : course.machine.Agrees graph) :
    course.tickets ++ (course.react graph action).accepted =
      (course.react graph action).consumed ++ (course.react graph action).after.tickets := by
  cases action with
  | tick now ready =>
    have haccepted : (course.react graph (.tick now ready)).accepted = [] := rfl
    rw [haccepted, List.append_nil, tickets_tick now ready h]
  | submit name => rw [tickets_submit, consumed_submit, List.nil_append]

theorem tickets_run (actions : List Action) (h : course.Reachable graph) :
    course.tickets ++ (course.run graph actions).flatMap Moment.accepted =
      (course.run graph actions).flatMap Moment.consumed
        ++ (course.finish graph actions).tickets := by
  -- What is pending is all that one action leaves to those after it.
  induction actions generalizing course with
  | nil => simp [run, finish]
  | cons action actions ih =>
    have hstep := tickets_react action h.agrees
    have hrest := ih (h.next action)
    calc
      course.tickets ++ (course.run graph (action :: actions)).flatMap Moment.accepted =
          (course.tickets ++ (course.react graph action).accepted)
            ++ ((course.react graph action).after.run graph actions).flatMap Moment.accepted := by
        simp [run]
      _ = (course.react graph action).consumed
            ++ ((course.react graph action).after.tickets
              ++ ((course.react graph action).after.run graph actions).flatMap
                Moment.accepted) := by
        rw [hstep, List.append_assoc]
      _ = _ := by
        rw [hrest]
        simp [run, finish]

/-- Over a whole run the events accepted are those consumed, tick by tick, followed by those still
pending, with the order and the visit of each. -/
theorem accepted_eq_consumed_append_pending (h : Machine.create graph = .ok machine)
    (actions : List Action) :
    ((start machine).run graph actions).flatMap Moment.accepted =
      ((start machine).run graph actions).flatMap Moment.consumed
        ++ ((start machine).finish graph actions).tickets := by
  have hpending : (start machine).tickets = [] := by
    obtain ⟨_, state, _, rfl⟩ := Machine.create_eq_ok h
    rfl
  simpa [hpending] using tickets_run actions (.start h)

theorem accepted_eq_consumed_append_pending_house :
    let actions : List Action := [.submit "leave", .submit "Enter", .submit "enter", .tick 0 true,
      .submit "leave", .tick 1 false]
    let moments := (start .inHouse).run .house actions
    moments.flatMap Moment.consumed =
        [⟨1, ⟨"hall"⟩, ⟨"leave"⟩⟩, ⟨1, ⟨"hall"⟩, ⟨"enter"⟩⟩, ⟨1, ⟨"hall"⟩, ⟨"enter"⟩⟩] ∧
      ((start .inHouse).finish .house actions).tickets = [⟨2, ⟨"attic"⟩, ⟨"leave"⟩⟩] ∧
      moments.flatMap Moment.accepted =
        moments.flatMap Moment.consumed ++ ((start .inHouse).finish .house actions).tickets := by
  intro actions moments
  have hcreate : Machine.create .house = .ok .inHouse := rfl
  exact ⟨by decide, by decide, accepted_eq_consumed_append_pending hcreate actions⟩

end Course

end SceneFlow
