import SceneFlow.Proofs.Machine.Mailbox

/-!
Returns. A machine goes back by its history, which forgets, and in which no state stands twice in a
row. Still an event that leads back leads to where a full record of the visits would lead: to the
latest visited state that is not the current one.
-/

namespace SceneFlow

variable {graph : Graph} {state : State} {machine : Machine} {now since : Nat} {ready : Bool}
  {current target event : Name} {history visits earlier rest : List Name} {choice : Choice}
  {course : Course}

/-- A state that was visited and is not the current one, though all visits after it were of the
current one. -/
def LatestOther (visits : List Name) (current target : Name) : Prop :=
  target ≠ current ∧
    ∃ before after, visits = before ++ target :: after ∧ ∀ visited ∈ after, visited = current

theorem find?_reverse_eq_some_iff :
    visits.reverse.find? (· ≠ current) = some target ↔ LatestOther visits current target := by
  rw [List.find?_eq_some_iff_append, LatestOther, decide_eq_true_iff]
  apply and_congr_right
  intro _
  constructor
  · rintro ⟨after, before, hvisits, hafter⟩
    refine ⟨before.reverse, after.reverse, ?_, by simpa using hafter⟩
    simpa using congrArg List.reverse hvisits
  · rintro ⟨before, after, rfl, hafter⟩
    exact ⟨after.reverse, before.reverse, by simp, by simpa using hafter⟩

theorem exists_latestOther_iff (h : visits.getLast? = some current) :
    (∃ target, LatestOther visits current target) ↔
      ∃ visited ∈ visits.dropLast, visited ≠ current := by
  obtain ⟨before, rfl⟩ := List.getLast?_eq_some_iff.1 h
  simp only [← find?_reverse_eq_some_iff, ← Option.isSome_iff_exists, List.find?_isSome]
  simp

namespace State

theorem history_of_choose? (h : state.choose? current history event = some choice)
    (hstay : choice.target = current) : choice.history = history := by
  cases choose?_eq_some h with
  | inl hnamed =>
    obtain ⟨target, _, rfl⟩ := hnamed
    rfl
  | inr hback =>
    obtain ⟨target, older, _, hway, rfl⟩ := hback
    exact absurd hstay (ne_of_wayBack? hway)

end State

namespace Machine

theorem fire_history :
    (machine.fire graph state choice rest).machine.history =
      if choice.history.head? = some machine.current then choice.history
      else machine.current :: choice.history := rfl

theorem find?_fire_history_of_ne (h : choice.target ≠ machine.current) :
    (machine.fire graph state choice rest).machine.history.find? (· ≠ choice.target) =
      some machine.current := by
  rw [fire_history]
  split
  · next hhead =>
    obtain ⟨older, hhistory⟩ := List.head?_eq_some_iff.1 hhead
    simp [hhistory, h.symm]
  · simp [h.symm]

theorem find?_fire_history_of_eq (h : choice.target = machine.current) :
    (machine.fire graph state choice rest).machine.history.find? (· ≠ choice.target) =
      choice.history.find? (· ≠ machine.current) := by
  rw [fire_history, h]
  split
  · rfl
  · simp

end Machine

namespace Course

structure Remembers (course : Course) : Prop where
  current : course.visits.getLast? = some course.machine.current
  history : course.machine.history.find? (· ≠ course.machine.current) =
    course.visits.reverse.find? (· ≠ course.machine.current)

theorem remembers_start (machine : Machine) (h : machine.history = []) :
    (start machine).Remembers := by
  constructor
  · rfl
  · simp [start, h]

theorem Remembers.fire {settled : Machine} {fired : Machine.Fired} {calls : List Call}
    (h : course.Remembers) (hfired : fired = settled.fire graph state choice rest)
    (hcurrent : settled.current = course.machine.current)
    (hstay : choice.target = course.machine.current → choice.history = course.machine.history) :
    Remembers ⟨fired.machine, course.visits ++ [fired.transition.target], calls⟩ := by
  rw [hfired, Machine.fire_transition]
  constructor
  · simp
  · rw [Machine.fire_current, List.reverse_append, List.reverse_singleton, List.singleton_append,
      List.find?_cons_of_neg (by simp)]
    -- A transition to the state itself is skipped in the history and in the visits alike; one to
    -- another state makes the state that is left the latest other one in both.
    by_cases htarget : choice.target = settled.current
    · rw [Machine.find?_fire_history_of_eq htarget, htarget, hcurrent,
        hstay (htarget.trans hcurrent)]
      exact h.history
    · obtain ⟨visited, hvisits⟩ := List.getLast?_eq_some_iff.1 h.current
      rw [Machine.find?_fire_history_of_ne htarget, hvisits, hcurrent]
      rw [hcurrent] at htarget
      simp [Ne.symm htarget]

theorem Remembers.tick (now : Nat) (ready : Bool) (h : course.Remembers) :
    (course.react graph (.tick now ready)).after.Remembers := by
  have hcurrent : (course.machine.settled graph now ready).current = course.machine.current :=
    Machine.settled_current
  have hhistory : (course.machine.settled graph now ready).history = course.machine.history :=
    Machine.settled_history
  have hstill : ∀ {machine : Machine} {calls : List Call},
      machine.current = course.machine.current → machine.history = course.machine.history →
        Remembers ⟨machine, course.visits ++ [], calls⟩ := by
    intro machine calls hcurrent hhistory
    constructor
    · simpa [hcurrent] using h.current
    · simpa [hcurrent, hhistory] using h.history
  have htick := Machine.tick_ticked graph now ready course.machine
  rw [react_tick]
  dsimp only
  generalize (course.machine.tick graph now ready).2 = step at htick ⊢
  cases htick with
  | activating _ => exact hstill hcurrent hhistory
  | lost _ _ => exact hstill hcurrent hhistory
  | idle _ _ _ _ => exact hstill hcurrent hhistory
  | timed _ _ _ _ hfired => exact h.fire hfired hcurrent fun _ => rfl
  | chosen _ _ _ _ _ hevent hfired =>
    exact h.fire hfired hcurrent (State.history_of_choose? hevent)

theorem Remembers.submit (name : String) (h : course.Remembers) :
    (course.react graph (.submit name)).after.Remembers := by
  cases hresult : course.machine.submit graph name with
  | error failure => rwa [react_of_error hresult]
  | ok receipt =>
    rw [react_of_ok hresult]
    constructor
    · simpa [Machine.submit_current hresult] using h.current
    · simpa [Machine.submit_current hresult, Machine.submit_history hresult] using h.history

theorem Reachable.remembers (h : course.Reachable graph) : course.Remembers := by
  induction h with
  | start hcreate =>
    obtain ⟨_, state, _, rfl⟩ := Machine.create_eq_ok hcreate
    exact remembers_start _ rfl
  | next action _ ih =>
    cases action with
    | tick now ready => exact ih.tick now ready
    | submit name => exact ih.submit name

theorem Remembers.wayBack?_map_fst (h : course.Remembers) :
    (wayBack? course.machine.current course.machine.history).map Prod.fst = some target ↔
      LatestOther course.visits course.machine.current target := by
  rw [SceneFlow.wayBack?_map_fst, h.history, find?_reverse_eq_some_iff]

end Course

namespace Machine

/-- At a tick an event comes to be looked at: the state waits, its timed transition is not due, and
the events pending before it lead nowhere. -/
structure Reaches (graph : Graph) (now : Nat) (ready : Bool) (machine : Machine) (state : State)
    (earlier : List Name) (event : Name) (rest : List Name) : Prop where
  declared : machine.currentState? graph = some state
  waits : ∃ since, (machine.settled graph now ready).phase = .waiting since ∧ ¬ state.Due now since
  queued : machine.mailbox.pending = earlier ++ event :: rest
  refused : ∀ other ∈ earlier, state.choose? machine.current machine.history other = none

theorem wayBack?_of_tick {source : Name} {discarded : List Name}
    (h : (machine.tick graph now ready).2.outcome =
      .transitioned ⟨source, target, .back event, discarded⟩) :
    (wayBack? machine.current machine.history).map Prod.fst = some target := by
  have htick := tick_ticked graph now ready machine
  generalize (machine.tick graph now ready).2 = step at htick h
  cases htick with
  | activating _ => cases h
  | lost _ _ => cases h
  | idle _ _ _ _ => cases h
  | timed _ _ _ _ hfired =>
    rw [hfired, fire_transition] at h
    cases h
  | chosen _ _ _ _ _ hevent hfired =>
    rw [hfired, fire_transition] at h
    cases State.choose?_eq_some hevent with
    | inl hnamed =>
      obtain ⟨_, _, rfl⟩ := hnamed
      cases h
    | inr hback =>
      obtain ⟨_, _, _, hway, rfl⟩ := hback
      cases h
      rw [hway]
      rfl

theorem history_of_no_target (h : (machine.tick graph now ready).2.outcome.target? = none) :
    (machine.tick graph now ready).2.machine.history = machine.history := by
  have hsettled : (machine.settled graph now ready).history = machine.history := settled_history
  have htick := tick_ticked graph now ready machine
  generalize (machine.tick graph now ready).2 = step at htick h ⊢
  cases htick with
  | activating _ => exact hsettled
  | lost _ _ => exact hsettled
  | idle _ _ _ _ => exact hsettled
  | timed _ _ _ _ _ => cases h
  | chosen _ _ _ _ _ _ _ => cases h

theorem history_of_idle (h : (machine.tick graph now ready).2.outcome = .idle) :
    (machine.tick graph now ready).2.machine.history = machine.history :=
  history_of_no_target (congrArg Outcome.target? h)

theorem Reaches.tick_of_some (h : machine.Reaches graph now ready state earlier event rest)
    (hevent : state.choose? machine.current machine.history event = some choice) :
    (machine.tick graph now ready).2.outcome =
      .transitioned ⟨machine.current, choice.target, choice.trigger, rest⟩ := by
  obtain ⟨hstate, ⟨since, hphase, hdue⟩, hqueued, hrefused⟩ := h
  rw [tick_of_waiting hphase, poll_of_chosen (settled_currentState?.trans hstate) hdue
    (by rwa [settled_mailbox]) (by rwa [settled_current, settled_history])
    (by rwa [settled_current, settled_history])]
  dsimp only
  rw [fire_transition, settled_current]

theorem Reaches.tick_of_none (h : machine.Reaches graph now ready state earlier event rest)
    (hevent : state.choose? machine.current machine.history event = none) :
    let step := (machine.tick graph now ready).2
    let others := ((machine.withPending rest).tick graph now ready).2
    step.machine = others.machine ∧ step.outcome = others.outcome ∧
      step.dropped = earlier ++ event :: others.dropped ∧ state.refusal event ∈ step.notices := by
  obtain ⟨hstate, ⟨since, hphase, hdue⟩, hqueued, hrefused⟩ := h
  have hothers : ((machine.withPending rest).settled graph now ready).phase = .waiting since := by
    rwa [settled_withPending]
  have hall := List.forall_mem_append.2 ⟨hrefused, List.forall_mem_singleton.2 hevent⟩
  rw [List.append_cons] at hqueued
  rw [tick_of_waiting hphase, tick_of_waiting hothers, settled_withPending,
    poll_of_append (settled_currentState?.trans hstate) hdue (by rwa [settled_mailbox])
      (by rwa [settled_current, settled_history])]
  exact ⟨rfl, rfl, by simp, by simp⟩

end Machine

namespace Course

/-- An event that leads back, and has no target of its own, makes a transition exactly if another
state was visited before, and then to the latest such state. Else it is dropped, and the tick goes
on with the events after it and the same history. -/
theorem back_leads_to_latest_other (h : course.Reachable graph)
    (hreach : course.machine.Reaches graph now ready state earlier event rest)
    (hback : event ∈ state.back) (hnamed : event ∉ state.named.map Prod.fst) :
    let machine := course.machine
    let step := (machine.tick graph now ready).2
    let others := ((machine.withPending rest).tick graph now ready).2
    course.visits.getLast? = some machine.current ∧
      ((∃ target, step.outcome = .transitioned ⟨machine.current, target, .back event, rest⟩) ↔
        ∃ visited ∈ course.visits.dropLast, visited ≠ machine.current) ∧
      (∀ target, step.outcome = .transitioned ⟨machine.current, target, .back event, rest⟩ →
        LatestOther course.visits machine.current target) ∧
      ((∀ visited ∈ course.visits, visited = machine.current) →
        .noWayBack event state.key ∈ step.notices ∧
          step.dropped = earlier ++ event :: others.dropped ∧
          step.outcome = others.outcome ∧ step.machine = others.machine ∧
          (step.outcome = .idle → step.machine.history = machine.history)) := by
  intro machine step others
  have hremembers := h.remembers
  have hleads : ∀ target,
      step.outcome = .transitioned ⟨machine.current, target, .back event, rest⟩ →
        LatestOther course.visits machine.current target := by
    intro target houtcome
    exact hremembers.wayBack?_map_fst.1 (Machine.wayBack?_of_tick houtcome)
  refine ⟨hremembers.current, ⟨?fires, ?goes⟩, hleads, ?strays⟩
  case fires =>
    rintro ⟨target, houtcome⟩
    exact (exists_latestOther_iff hremembers.current).1 ⟨target, hleads target houtcome⟩
  case goes =>
    intro hother
    obtain ⟨target, htarget⟩ := (exists_latestOther_iff hremembers.current).2 hother
    obtain ⟨way, hway, _⟩ := Option.map_eq_some_iff.1 (hremembers.wayBack?_map_fst.2 htarget)
    have hchoice : state.choose? machine.current machine.history event =
        some ⟨.back event, way.1, way.2⟩ := by
      rw [State.choose?_of_back hnamed hback, hway]
      rfl
    exact ⟨way.1, hreach.tick_of_some hchoice⟩
  case strays =>
    intro hall
    have hnone : state.choose? machine.current machine.history event = none := by
      rw [State.choose?_of_back hnamed hback, Option.map_eq_none_iff,
        ← Option.map_eq_none_iff (f := Prod.fst), SceneFlow.wayBack?_map_fst, hremembers.history]
      simpa using hall
    obtain ⟨hmachine, houtcome, hdropped, htold⟩ := hreach.tick_of_none hnone
    rw [State.refusal, if_pos hback] at htold
    exact ⟨htold, hdropped, houtcome, hmachine, Machine.history_of_idle⟩

theorem back_leads_to_latest_other_house :
    let course := (start .inHouse).finish .house [.submit "enter", .tick 0 true, .submit "leave"]
    let step := (course.machine.tick .house 1 true).2
    course.visits = [⟨"hall"⟩, ⟨"attic"⟩] ∧
      (∃ target, step.outcome = .transitioned ⟨⟨"attic"⟩, target, .back ⟨"leave"⟩, []⟩) ∧
      ∀ target, step.outcome = .transitioned ⟨⟨"attic"⟩, target, .back ⟨"leave"⟩, []⟩ →
        LatestOther course.visits ⟨"attic"⟩ target := by
  intro course step
  have hcreate : Machine.create .house = .ok .inHouse := rfl
  have hcourse : course.Reachable .house := Reachable.finish (.start hcreate) _
  have hreaches : course.machine.Reaches .house 1 true
      ⟨"Attic", ⟨"attic"⟩, some "Lamp", true, none, [], [⟨"leave"⟩]⟩ [] ⟨"leave"⟩ [] := by
    refine ⟨rfl, ⟨1, rfl, ?_⟩, rfl, List.forall_mem_nil _⟩
    rintro ⟨timed, htimed, _⟩
    cases htimed
  obtain ⟨_, hfires, hleads, _⟩ :=
    back_leads_to_latest_other hcourse hreaches (by decide) (by decide)
  exact ⟨rfl, hfires.2 ⟨⟨"hall"⟩, by decide, by decide⟩, hleads⟩

end Course

end SceneFlow
