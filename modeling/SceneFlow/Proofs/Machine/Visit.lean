import SceneFlow.Proofs.Machine.Timer

/-!
Visits and the calls that they make. A visit makes its call at its first tick, and what it calls for
is settled by how the machine came into the state: after a way back out of an overlay that overlay
is unloaded, else the state's own resource is loaded, if it has any. No other tick makes a call.
-/

namespace SceneFlow

variable {graph : Graph} {state : State} {machine : Machine} {now : Nat} {ready : Bool}
  {name : String} {choice : Choice} {left : List Name} {transition : Transition} {moment : Moment}
  {course : Course}

theorem filterMap_singleton {α β : Type} (f : α → Option β) (a : α) :
    [a].filterMap f = (f a).toList := by
  cases h : f a <;> simp [h]

/-- The resource that a transition leaves behind to be unloaded: that of an additive state which is
left on a way back. -/
def Transition.unload? (graph : Graph) (transition : Transition) : Option String :=
  match transition.trigger with
  | .back _ =>
    (graph.state? transition.source).bind fun state =>
      if state.additive then state.resource else none
  | _ => none

structure Entry where
  state : Name
  transition : Option Transition

def Entry.via (transition : Transition) : Entry := ⟨transition.target, some transition⟩

def Entry.call? (graph : Graph) (entry : Entry) : Option Call :=
  match entry.transition.bind (·.unload? graph) with
  | some resource => some (.unload resource)
  | none =>
    (graph.state? entry.state).bind fun state =>
      state.resource.map fun resource => .load resource state.additive

structure Visit extends Entry where
  moments : List Moment

def Outcome.transition? : Outcome → Option Transition
  | transitioned transition => some transition
  | _ => none

theorem Outcome.target?_eq (outcome : Outcome) :
    outcome.target? = outcome.transition?.map (·.target) := by
  cases outcome <;> rfl

def Action.isTick : Action → Bool
  | tick _ _ => true
  | submit _ => false

namespace Moment

def transition? (moment : Moment) : Option Transition :=
  match moment.reaction with
  | .ticked _ outcome => outcome.transition?
  | .submitted _ => none

def isTick (moment : Moment) : Bool := moment.action.isTick

end Moment

theorem Course.transition?_submit (graph : Graph) (name : String) (course : Course) :
    (course.react graph (.submit name)).transition? = none := by
  cases hresult : course.machine.submit graph name with
  | error failure =>
    rw [react_of_error hresult]
    rfl
  | ok receipt =>
    rw [react_of_ok hresult]
    rfl

namespace Visit

def isBegun (visit : Visit) : Bool := visit.moments.any Moment.isTick

/-- The first tick makes the call that the entry asks for, and no other moment makes one. -/
def CallsAtFirstTick (graph : Graph) (visit : Visit) : Prop :=
  ∀ earlier moment later, visit.moments = earlier ++ moment :: later →
    moment.call? =
      if moment.isTick ∧ ¬ earlier.any Moment.isTick then visit.call? graph else none

end Visit

structure Journey where
  past : List Visit
  present : Visit

namespace Journey

def start (state : Name) : Journey := ⟨[], ⟨⟨state, none⟩, []⟩⟩

def visits (journey : Journey) : List Visit := journey.past ++ [journey.present]

def entries (journey : Journey) : List Entry := journey.visits.map Visit.toEntry

def next (journey : Journey) (moment : Moment) : Journey :=
  let present := { journey.present with moments := journey.present.moments ++ [moment] }
  match moment.transition? with
  | some transition =>
    ⟨journey.past ++ [present], ⟨.via transition, []⟩⟩
  | none => ⟨journey.past, present⟩

def ofMoments (state : Name) (moments : List Moment) : Journey :=
  moments.foldl next (start state)

variable {journey : Journey}

theorem next_of_some (h : moment.transition? = some transition) :
    journey.next moment =
      ⟨journey.past ++ [{ journey.present with moments := journey.present.moments ++ [moment] }],
        ⟨.via transition, []⟩⟩ := by
  rw [next, h]

theorem next_of_none (h : moment.transition? = none) :
    journey.next moment =
      ⟨journey.past,
        { journey.present with moments := journey.present.moments ++ [moment] }⟩ := by
  rw [next, h]

theorem ofMoments_concat (state : Name) (moments : List Moment) (moment : Moment) :
    ofMoments state (moments ++ [moment]) = (ofMoments state moments).next moment :=
  List.foldl_concat ..

theorem flatMap_moments_next (journey : Journey) (moment : Moment) :
    (journey.next moment).visits.flatMap Visit.moments =
      journey.visits.flatMap Visit.moments ++ [moment] := by
  cases h : moment.transition? with
  | some transition => simp [next_of_some h, visits]
  | none => simp [next_of_none h, visits]

theorem entries_next (journey : Journey) (moment : Moment) :
    (journey.next moment).entries = journey.entries ++ (moment.transition?.map .via).toList := by
  cases h : moment.transition? with
  | some transition => simp [next_of_some h, entries, visits]
  | none => simp [next_of_none h, entries, visits]

theorem map_state_entries_next (journey : Journey) (moment : Moment) :
    (journey.next moment).entries.map Entry.state =
      journey.entries.map Entry.state ++ (moment.transition?.map (·.target)).toList := by
  rw [entries_next, List.map_append]
  cases moment.transition? <;> rfl

theorem entries_ofMoments (state : Name) (moments : List Moment) :
    (ofMoments state moments).entries =
      ⟨state, none⟩ :: (moments.filterMap Moment.transition?).map .via := by
  induction moments using List.reverseRecOn with
  | nil => rfl
  | append_singleton moments moment ih =>
    rw [ofMoments_concat, entries_next, ih, List.filterMap_append, List.map_append,
      List.cons_append]
    cases h : moment.transition? <;> simp [h]

theorem flatMap_moments_ofMoments (state : Name) (moments : List Moment) :
    (ofMoments state moments).visits.flatMap Visit.moments = moments := by
  induction moments using List.reverseRecOn with
  | nil => rfl
  | append_singleton moments moment ih => rw [ofMoments_concat, flatMap_moments_next, ih]

end Journey

namespace Machine

theorem settled_unload (ready : Bool) :
    (machine.settled graph now ready).unload = (machine.begin graph now).1.unload := by
  rw [settled, settle_eq]

theorem fire_unload (hstate : machine.currentState? graph = some state)
    (hunload : machine.unload = none) :
    (machine.fire graph state choice left).machine.unload =
      (machine.fire graph state choice left).transition.unload? graph := by
  have hsource : graph.state? machine.current = some state := hstate
  simp only [fire, Transition.unload?, hunload]
  cases choice.trigger with
  | timed _ => rfl
  | named _ => rfl
  | back _ =>
    rw [hsource]
    obtain ⟨_, _, resource, additive, _, _, _⟩ := state
    cases additive <;> cases resource <;> rfl

theorem tick_of_transition (hunload : (machine.begin graph now).1.unload = none)
    (h : (machine.tick graph now ready).2.outcome.transition? = some transition) :
    transition.source = machine.current ∧
      let after := (machine.tick graph now ready).2.machine
      after.current = transition.target ∧ after.phase = .entering ∧
        after.unload = transition.unload? graph := by
  rw [← settled_unload ready] at hunload
  have htick := tick_ticked graph now ready machine
  generalize (machine.tick graph now ready).2 = step at htick h ⊢
  cases htick with
  | activating _ => cases h
  | lost _ _ => cases h
  | idle _ _ _ _ => cases h
  | timed _ hstate _ _ hfired =>
    cases h
    rw [hfired]
    exact ⟨settled_current, rfl, rfl, fire_unload (settled_currentState?.trans hstate) hunload⟩
  | chosen _ hstate _ _ _ _ hfired =>
    cases h
    rw [hfired]
    exact ⟨settled_current, rfl, rfl, fire_unload (settled_currentState?.trans hstate) hunload⟩

theorem tick_of_no_transition (hunload : (machine.begin graph now).1.unload = none)
    (h : (machine.tick graph now ready).2.outcome.transition? = none) :
    let after := (machine.tick graph now ready).2.machine
    after.current = machine.current ∧ after.phase ≠ .entering ∧ after.unload = none := by
  rw [← settled_unload ready] at hunload
  have hcurrent : (machine.settled graph now ready).current = machine.current := settled_current
  have hphase : (machine.settled graph now ready).phase ≠ .entering := settled_phase_ne_entering
  have htick := tick_ticked graph now ready machine
  generalize (machine.tick graph now ready).2 = step at htick h ⊢
  cases htick with
  | activating _ => exact ⟨hcurrent, hphase, hunload⟩
  | lost _ _ => exact ⟨hcurrent, hphase, hunload⟩
  | idle _ _ _ _ => exact ⟨hcurrent, hphase, hunload⟩
  | timed _ _ _ _ _ => cases h
  | chosen _ _ _ _ _ _ _ => cases h

end Machine

/-- Where a machine stands in a visit. An unload is asked for at most until the visit begins. -/
structure Visit.Stands (graph : Graph) (visit : Visit) (machine : Machine) : Prop where
  current : machine.current = visit.state
  unload : machine.unload =
    if visit.isBegun then none else visit.transition.bind (·.unload? graph)
  phase : machine.phase = .entering ↔ ¬ visit.isBegun

namespace Visit

variable {visit : Visit}

theorem isBegun_concat (visit : Visit) (moment : Moment) :
    isBegun { visit with moments := visit.moments ++ [moment] } =
      (visit.isBegun || moment.isTick) := by
  simp [isBegun]

theorem callsAtFirstTick_nil (entry : Entry) : CallsAtFirstTick graph ⟨entry, []⟩ := by
  intro earlier moment later h
  simp at h

theorem CallsAtFirstTick.concat (h : visit.CallsAtFirstTick graph)
    (hcall : moment.call? =
      if moment.isTick ∧ ¬ visit.isBegun then visit.call? graph else none) :
    CallsAtFirstTick graph { visit with moments := visit.moments ++ [moment] } := by
  intro earlier other later hsplit
  cases later using List.reverseRecOn with
  | nil =>
    obtain ⟨rfl, hlast⟩ := List.append_inj' hsplit rfl
    cases hlast
    exact hcall
  | append_singleton later last =>
    rw [← List.cons_append, ← List.append_assoc] at hsplit
    exact h earlier other later (List.append_inj_left' hsplit rfl)

namespace Stands

theorem begin (h : visit.Stands graph machine) (now : Nat) :
    (machine.begin graph now).2 = (if visit.isBegun then none else visit.call? graph) ∧
      (machine.begin graph now).1.unload = none := by
  have hunload := h.unload
  by_cases hbegun : visit.isBegun
  · rw [if_pos hbegun] at hunload ⊢
    have hphase : machine.phase ≠ .entering := mt h.phase.1 (not_not.2 hbegun)
    rw [Machine.begin_of_not_entering hphase]
    exact ⟨rfl, hunload⟩
  · rw [if_neg hbegun] at hunload ⊢
    have hphase : machine.phase = .entering := h.phase.2 hbegun
    have hstate : machine.currentState? graph = graph.state? visit.state := by
      rw [Machine.currentState?, h.current]
    rw [Machine.begin, hphase, Entry.call?, ← hunload, ← hstate]
    dsimp only
    cases hasked : machine.unload with
    | some resource => exact ⟨rfl, rfl⟩
    | none =>
      cases machine.currentState? graph with
      | none => exact ⟨rfl, rfl⟩
      | some state =>
        obtain ⟨_, _, resource, _, _, _, _⟩ := state
        cases resource with
        | none => exact ⟨rfl, rfl⟩
        | some resource => exact ⟨rfl, rfl⟩

theorem stay (h : visit.Stands graph machine) (hmoment : moment.isTick)
    (hnone : (machine.tick graph now ready).2.outcome.transition? = none) :
    Stands graph { visit with moments := visit.moments ++ [moment] }
      (machine.tick graph now ready).2.machine := by
  obtain ⟨hcurrent, hphase, hunload⟩ := Machine.tick_of_no_transition (h.begin now).2 hnone
  have hbegun : isBegun { visit with moments := visit.moments ++ [moment] } := by
    simp [isBegun_concat, hmoment]
  constructor
  · exact hcurrent.trans h.current
  · rw [if_pos hbegun, hunload]
  · exact iff_of_false hphase (not_not.2 hbegun)

theorem leave (h : visit.Stands graph machine)
    (hsome : (machine.tick graph now ready).2.outcome.transition? = some transition) :
    Stands graph ⟨.via transition, []⟩
      (machine.tick graph now ready).2.machine := by
  obtain ⟨_, hcurrent, hphase, hunload⟩ := Machine.tick_of_transition (h.begin now).2 hsome
  exact ⟨hcurrent, hunload, iff_of_true hphase (by simp [isBegun])⟩

theorem pass (h : visit.Stands graph machine) (hmoment : moment.isTick = false) :
    Stands graph { visit with moments := visit.moments ++ [moment] } machine := by
  have hbegun : isBegun { visit with moments := visit.moments ++ [moment] } = visit.isBegun := by
    simp [isBegun_concat, hmoment]
  constructor
  · exact h.current
  · rw [hbegun]
    exact h.unload
  · rw [hbegun]
    exact h.phase

theorem mailbox (h : visit.Stands graph machine) (mailbox : Mailbox) :
    visit.Stands graph { machine with mailbox } := ⟨h.current, h.unload, h.phase⟩

end Stands

end Visit

namespace Journey

variable {journey : Journey}

def calls (graph : Graph) (journey : Journey) : List Call :=
  (journey.visits.filter Visit.isBegun).filterMap (·.call? graph)

theorem calls_next (journey : Journey) (moment : Moment) :
    (journey.next moment).calls graph =
      journey.calls graph ++
        (if moment.isTick ∧ ¬ journey.present.isBegun then journey.present.call? graph
          else none).toList := by
  have hunbegun : ∀ entry : Entry, [Visit.mk entry []].filter Visit.isBegun = [] := fun _ => rfl
  have hstep : ([{ journey.present with
        moments := journey.present.moments ++ [moment] }].filter Visit.isBegun).filterMap
          (·.call? graph) =
      ([journey.present].filter Visit.isBegun).filterMap (·.call? graph) ++
        (if moment.isTick ∧ ¬ journey.present.isBegun then journey.present.call? graph
          else none).toList := by
    rw [List.filter_singleton, List.filter_singleton, Visit.isBegun_concat]
    cases journey.present.isBegun <;> cases moment.isTick <;> simp [filterMap_singleton]
  cases h : moment.transition? with
  | some transition =>
    rw [next_of_some h, calls, calls, visits, visits, List.filter_append, hunbegun,
      List.append_nil, List.filter_append, List.filter_append, List.filterMap_append,
      List.filterMap_append, hstep, List.append_assoc]
  | none =>
    rw [next_of_none h, calls, calls, visits, visits, List.filter_append, List.filter_append,
      List.filterMap_append, List.filterMap_append, hstep, List.append_assoc]

structure Tells (graph : Graph) (journey : Journey) (course : Course) : Prop where
  stands : journey.present.Stands graph course.machine
  states : journey.entries.map Entry.state = course.visits
  begun : ∀ visit ∈ journey.past, visit.isBegun
  calls : course.calls = journey.calls graph
  timely : ∀ visit ∈ journey.visits, visit.CallsAtFirstTick graph

theorem Tells.calls_of_begun (h : journey.Tells graph course) (hbegun : journey.present.isBegun) :
    course.calls = journey.entries.filterMap (·.call? graph) := by
  have hall : ∀ visit ∈ journey.visits, visit.isBegun :=
    List.forall_mem_append.2 ⟨h.begun, List.forall_mem_singleton.2 hbegun⟩
  rw [h.calls, Journey.calls, List.filter_eq_self.2 hall, entries, List.filterMap_map]
  rfl

theorem tells_start (h : Machine.create graph = .ok machine) :
    (start machine.current).Tells graph (.start machine) := by
  obtain ⟨_, state, _, rfl⟩ := Machine.create_eq_ok h
  constructor
  · exact ⟨rfl, rfl, iff_of_true rfl (by simp [start, Visit.isBegun])⟩
  · rfl
  · exact List.forall_mem_nil _
  · rfl
  · exact List.forall_mem_singleton.2 (Visit.callsAtFirstTick_nil _)

theorem begun_next (h : ∀ visit ∈ journey.past, visit.isBegun)
    (hleaves : moment.transition?.isSome → moment.isTick) :
    ∀ visit ∈ (journey.next moment).past, visit.isBegun := by
  cases htransition : moment.transition? with
  | some transition =>
    have htick : moment.isTick := hleaves (by rw [htransition]; rfl)
    rw [next_of_some htransition]
    refine List.forall_mem_append.2 ⟨h, List.forall_mem_singleton.2 ?_⟩
    simp [Visit.isBegun_concat, htick]
  | none =>
    rw [next_of_none htransition]
    exact h

theorem timely_next (h : ∀ visit ∈ journey.visits, visit.CallsAtFirstTick graph)
    (hcall : moment.call? =
      if moment.isTick ∧ ¬ journey.present.isBegun then journey.present.call? graph else none) :
    ∀ visit ∈ (journey.next moment).visits, visit.CallsAtFirstTick graph := by
  obtain ⟨hpast, hpresent⟩ := List.forall_mem_append.1 h
  have hpresent := (List.forall_mem_singleton.1 hpresent).concat hcall
  have hboth := List.forall_mem_append.2 ⟨hpast, List.forall_mem_singleton.2 hpresent⟩
  cases htransition : moment.transition? with
  | some transition =>
    rw [next_of_some htransition]
    exact List.forall_mem_append.2
      ⟨hboth, List.forall_mem_singleton.2 (Visit.callsAtFirstTick_nil _)⟩
  | none =>
    rw [next_of_none htransition]
    exact hboth

theorem Tells.tick (h : journey.Tells graph course) (now : Nat) (ready : Bool) :
    let moment := course.react graph (.tick now ready)
    (journey.next moment).Tells graph moment.after := by
  intro moment
  have hcall : moment.call? =
      if moment.isTick ∧ ¬ journey.present.isBegun then journey.present.call? graph else none := by
    have hbegin : moment.call? = _ := (h.stands.begin now).1
    rw [hbegin]
    cases journey.present.isBegun <;> rfl
  constructor
  case stands =>
    cases htransition : moment.transition? with
    | some transition =>
      rw [next_of_some htransition]
      exact h.stands.leave htransition
    | none =>
      rw [next_of_none htransition]
      exact h.stands.stay rfl htransition
  case states =>
    have htarget : moment.transition?.map (·.target) =
        (course.machine.tick graph now ready).2.outcome.target? := (Outcome.target?_eq _).symm
    rw [map_state_entries_next, h.states, htarget]
    rfl
  case begun => exact begun_next h.begun fun _ => rfl
  case calls =>
    rw [calls_next, ← h.calls, ← hcall]
    rfl
  case timely => exact timely_next h.timely hcall

theorem Tells.submit (h : journey.Tells graph course) (name : String) :
    let moment := course.react graph (.submit name)
    (journey.next moment).Tells graph moment.after := by
  intro moment
  have hquiet : moment.isTick = false ∧ moment.transition? = none ∧ moment.call? = none ∧
      moment.after.visits = course.visits ∧ moment.after.calls = course.calls := by
    cases hresult : course.machine.submit graph name with
    | error failure => simp [moment, Course.react_of_error hresult, Moment.isTick, Action.isTick,
        Moment.transition?, Moment.call?]
    | ok receipt => simp [moment, Course.react_of_ok hresult, Moment.isTick, Action.isTick,
        Moment.transition?, Moment.call?]
  obtain ⟨htick, htransition, hnone, hvisits, hcalls⟩ := hquiet
  have hcall : moment.call? =
      if moment.isTick ∧ ¬ journey.present.isBegun then journey.present.call? graph else none := by
    simp [hnone, htick]
  constructor
  case stands =>
    rw [next_of_none htransition]
    cases hresult : course.machine.submit graph name with
    | error failure =>
      have hafter : moment.after = course := by
        simp only [moment, Course.react_of_error hresult]
      rw [hafter]
      exact h.stands.pass htick
    | ok receipt =>
      have hafter : moment.after.machine = receipt.machine := by
        simp only [moment, Course.react_of_ok hresult]
      rw [hafter, Machine.submit_machine hresult]
      exact (h.stands.pass htick).mailbox _
  case states => rw [map_state_entries_next, h.states, htransition, hvisits, Option.map_none,
    Option.toList_none, List.append_nil]
  case begun => exact begun_next h.begun (by simp [htransition])
  case calls => rw [calls_next, ← h.calls, ← hcall, hnone, hcalls, Option.toList_none,
    List.append_nil]
  case timely => exact timely_next h.timely hcall

end Journey

namespace Course

def journey (graph : Graph) (machine : Machine) (actions : List Action) : Journey :=
  .ofMoments machine.current ((start machine).run graph actions)

theorem tells_journey (h : Machine.create graph = .ok machine) (actions : List Action) :
    (journey graph machine actions).Tells graph ((start machine).finish graph actions) := by
  induction actions using List.reverseRecOn with
  | nil => exact Journey.tells_start h
  | append_singleton actions action ih =>
    rw [journey, run_concat, finish_concat, Journey.ofMoments_concat]
    cases action with
    | tick now ready => exact ih.tick now ready
    | submit name => exact ih.submit name

/-- The calls of a run are those of its visits, in order: each visit makes the call that its entry
asks for, at its first tick and at no other moment. The first visit is entered by no transition, the
others by those of the run, one after the other. -/
theorem calls_by_visits (h : Machine.create graph = .ok machine) (actions : List Action) :
    let moments := (start machine).run graph actions
    let course := (start machine).finish graph actions
    let visits := (journey graph machine actions).visits
    let entries := (journey graph machine actions).entries
    visits.flatMap Visit.moments = moments ∧
      entries = ⟨machine.current, none⟩ :: (moments.filterMap Moment.transition?).map .via ∧
      entries.map Entry.state = course.visits ∧
      (∀ visit ∈ visits, visit.CallsAtFirstTick graph) ∧
      course.calls = (visits.filter Visit.isBegun).filterMap (·.call? graph) := by
  have htells := tells_journey h actions
  exact ⟨Journey.flatMap_moments_ofMoments _ _, Journey.entries_ofMoments _ _, htells.states,
    htells.timely, htells.calls⟩

theorem calls_by_visits_house :
    let actions : List Action := [.submit "enter", .tick 0 true, .tick 1 false, .submit "leave",
      .tick 2 true, .tick 3 false, .tick 4 false]
    let course := (start .inHouse).finish .house actions
    let visits := (journey .house .inHouse actions).visits
    course.calls = [.load "Lamp" true, .unload "Lamp"] ∧
      course.calls = (visits.filter Visit.isBegun).filterMap (·.call? .house) ∧
      ∀ visit ∈ visits, visit.CallsAtFirstTick .house := by
  intro actions course visits
  have hcreate : Machine.create .house = .ok .inHouse := rfl
  obtain ⟨_, _, _, htimely, hcalls⟩ := calls_by_visits hcreate actions
  exact ⟨by decide, hcalls, htimely⟩

end Course

end SceneFlow
