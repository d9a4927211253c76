import Mathlib.Data.List.Chain
import SceneFlow.Proofs.Machine.Return
import SceneFlow.Proofs.Machine.Visit

/-!
Histories. Every transition puts the state that it leaves onto the history, unless that state is on
top of it already, and a way back first takes off the state that it leads to and all above it. The
top of a history is therefore the state that was left last, no state stands on itself, and all that
can stand above the state to go back to is one entry of the current state.
-/

namespace SceneFlow

variable {graph : Graph} {state : State} {machine : Machine} {now : Nat} {ready : Bool}
  {current target event : Name} {history older after earlier rest : List Name} {choice : Choice}
  {transition : Transition} {transitions : List Transition} {course : Course}

def Name.onto (current : Name) (history : List Name) : List Name :=
  if history.head? = some current then history else current :: history

theorem Name.onto_eq_or (current : Name) (history : List Name) :
    current.onto history = history ∨ current.onto history = current :: history := by
  rw [onto]
  split
  · exact .inl rfl
  · exact .inr rfl

@[simp] theorem Name.head?_onto (current : Name) (history : List Name) :
    (current.onto history).head? = some current := by
  rw [onto]
  split
  · assumption
  · rfl

theorem Name.length_onto_le (current : Name) (history : List Name) :
    (current.onto history).length ≤ history.length + 1 := by
  cases current.onto_eq_or history with
  | inl h => simp [h]
  | inr h => simp [h]

theorem Name.isChain_onto (current : Name) (h : history.IsChain (· ≠ ·)) :
    (current.onto history).IsChain (· ≠ ·) := by
  rw [onto]
  split
  · exact h
  · next hhead =>
    refine h.cons fun latest hlatest => ?_
    rintro rfl
    exact hhead hlatest

theorem eq_or_eq_of_wayBack? (h : history.IsChain (· ≠ ·))
    (hway : wayBack? current history = some (target, older)) :
    history = target :: older ∨ history = current :: target :: older := by
  cases history with
  | nil => cases hway
  | cons latest others =>
    by_cases hlatest : latest = current
    · obtain rfl := hlatest
      cases others with
      | nil => simp [wayBack?] at hway
      | cons second others =>
        have hsecond : second ≠ latest := (List.isChain_cons_cons.1 h).1.symm
        simp only [wayBack?, List.dropWhile_cons, decide_true, hsecond] at hway
        cases hway
        exact .inr rfl
    · simp only [wayBack?, List.dropWhile_cons, hlatest] at hway
      cases hway
      exact .inl rfl

namespace Transition

/-- The state that is left comes onto the history, and after a way back onto what stood below the
state that this one leads to. -/
inductive Rewrites (transition : Transition) (history : List Name) : List Name → Prop
  | forth : (∀ event, transition.trigger ≠ .back event) →
      Rewrites transition history (transition.source.onto history)
  | back {event : Name} {older : List Name} : transition.trigger = .back event →
      wayBack? transition.source history = some (transition.target, older) →
      Rewrites transition history (transition.source.onto older)

namespace Rewrites

theorem head? (h : transition.Rewrites history after) : after.head? = some transition.source := by
  cases h with
  | forth _ => exact transition.source.head?_onto _
  | back _ _ => exact transition.source.head?_onto _

theorem isChain (h : transition.Rewrites history after) (hhistory : history.IsChain (· ≠ ·)) :
    after.IsChain (· ≠ ·) := by
  cases h with
  | forth _ => exact transition.source.isChain_onto hhistory
  | back _ hway =>
    exact transition.source.isChain_onto (hhistory.suffix (suffix_of_wayBack? hway)).tail

theorem length_le_of_back (h : transition.Rewrites history after)
    (hback : transition.trigger = .back event) : after.length ≤ history.length := by
  cases h with
  | forth hforth => exact absurd hback (hforth event)
  | @back _ older _ hway =>
    calc (transition.source.onto older).length
      _ ≤ older.length + 1 := transition.source.length_onto_le older
      _ ≤ history.length := (suffix_of_wayBack? hway).length_le

theorem length_le (h : transition.Rewrites history after) : after.length ≤ history.length + 1 := by
  cases h with
  | forth _ => exact transition.source.length_onto_le history
  | back htrigger hway =>
    exact (length_le_of_back (.back htrigger hway) htrigger).trans (Nat.le_succ _)

end Rewrites

end Transition

namespace State

theorem rewrites_of_choose? (h : state.choose? current history event = some choice) :
    Transition.Rewrites ⟨current, choice.target, choice.trigger, rest⟩ history
      (current.onto choice.history) := by
  cases choose?_eq_some h with
  | inl hnamed =>
    obtain ⟨target, _, rfl⟩ := hnamed
    exact .forth nofun
  | inr hback =>
    obtain ⟨target, older, _, hway, rfl⟩ := hback
    exact .back rfl hway

end State

namespace Machine

theorem rewrites_of_tick
    (h : (machine.tick graph now ready).2.outcome.transition? = some transition) :
    transition.source = machine.current ∧
      transition.Rewrites machine.history (machine.tick graph now ready).2.machine.history := by
  have hcurrent : (machine.settled graph now ready).current = machine.current := settled_current
  have htick := tick_ticked graph now ready machine
  generalize (machine.tick graph now ready).2 = step at htick h ⊢
  cases htick with
  | activating _ => cases h
  | lost _ _ => cases h
  | idle _ _ _ _ => cases h
  | timed _ _ _ _ hfired =>
    cases h
    rw [hfired, fire_transition, fire_history, hcurrent]
    exact ⟨rfl, .forth nofun⟩
  | chosen _ _ _ _ _ hevent hfired =>
    cases h
    rw [hfired, fire_transition, fire_history, hcurrent]
    exact ⟨rfl, State.rewrites_of_choose? hevent⟩

theorem history_of_no_transition
    (h : (machine.tick graph now ready).2.outcome.transition? = none) :
    (machine.tick graph now ready).2.machine.history = machine.history :=
  history_of_no_target (by rw [Outcome.target?_eq, h, Option.map_none])

end Machine

namespace Course

theorem history_submit (graph : Graph) (name : String) (course : Course) :
    (course.react graph (.submit name)).after.machine.history = course.machine.history := by
  cases hresult : course.machine.submit graph name with
  | error failure => rw [react_of_error hresult]
  | ok receipt =>
    rw [react_of_ok hresult]
    exact Machine.submit_history hresult

theorem history_react_of_none {action : Action}
    (h : (course.react graph action).transition? = none) :
    (course.react graph action).after.machine.history = course.machine.history := by
  cases action with
  | tick now ready => exact Machine.history_of_no_transition h
  | submit name => exact history_submit graph name course

theorem rewrites_react_of_some {action : Action}
    (h : (course.react graph action).transition? = some transition) :
    transition.source = course.machine.current ∧
      transition.Rewrites course.machine.history
        (course.react graph action).after.machine.history := by
  cases action with
  | tick now ready => exact Machine.rewrites_of_tick h
  | submit name =>
    rw [transition?_submit] at h
    cases h

end Course

structure Records (transitions : List Transition) (history : List Name) : Prop where
  isChain : history.IsChain (· ≠ ·)
  head? : history.head? = transitions.getLast?.map Transition.source

namespace Records

theorem nil : Records [] [] := ⟨.nil, rfl⟩

theorem concat (h : Records transitions history) (hrewrites : transition.Rewrites history after) :
    Records (transitions ++ [transition]) after := by
  constructor
  · exact hrewrites.isChain h.isChain
  · rw [hrewrites.head?, List.getLast?_concat, Option.map_some]

theorem eq_nil_iff (h : Records transitions history) : history = [] ↔ transitions = [] := by
  rw [← List.head?_eq_none_iff, h.head?, Option.map_eq_none_iff, List.getLast?_eq_none_iff]

theorem react (graph : Graph) (h : Records transitions course.machine.history) (action : Action) :
    let moment := course.react graph action
    Records (transitions ++ moment.transition?.toList) moment.after.machine.history := by
  intro moment
  cases htransition : moment.transition? with
  | none =>
    rw [Course.history_react_of_none htransition, Option.toList_none, List.append_nil]
    exact h
  | some transition => exact h.concat (Course.rewrites_react_of_some htransition).2

end Records

namespace Course

theorem records_finish (h : Machine.create graph = .ok machine) (actions : List Action) :
    Records (((start machine).run graph actions).filterMap Moment.transition?)
      ((start machine).finish graph actions).machine.history := by
  induction actions using List.reverseRecOn with
  | nil =>
    obtain ⟨_, state, _, rfl⟩ := Machine.create_eq_ok h
    exact .nil
  | append_singleton actions action ih =>
    rw [run_concat, finish_concat, List.filterMap_append, filterMap_singleton]
    exact ih.react graph action

/-- No state stands twice in a row in a history. It is empty as long as no transition has happened,
and then has the state on top that was left last. It grows by one state at most, and by none on a
way back, which takes off two at most. What looks for a way back in vain takes off nothing: the tick
goes on with the events after it as if they had come first. -/
theorem history_records_transitions (h : Machine.create graph = .ok machine)
    (actions : List Action) :
    let transitions := ((start machine).run graph actions).filterMap Moment.transition?
    let course := (start machine).finish graph actions
    let current := course.machine.current
    let history := course.machine.history
    history.IsChain (· ≠ ·) ∧
      (history = [] ↔ transitions = []) ∧
      (∀ transition, transitions.getLast? = some transition →
        history.head? = some transition.source) ∧
      (∀ action,
        let moment := course.react graph action
        let after := moment.after.machine.history
        (moment.transition? = none → after = history) ∧
          ∀ transition, moment.transition? = some transition →
            transition.source = current ∧ transition.Rewrites history after ∧
              after.length ≤ history.length + 1 ∧
              ∀ event, transition.trigger = .back event → after.length ≤ history.length) ∧
      (∀ target older, wayBack? current history = some (target, older) →
        history = target :: older ∨ history = current :: target :: older) ∧
      ∀ now ready state earlier event rest,
        course.machine.Reaches graph now ready state earlier event rest →
          event ∈ state.back → event ∉ state.named.map Prod.fst →
            wayBack? current history = none →
              let step := (course.machine.tick graph now ready).2
              let others := ((course.machine.withPending rest).tick graph now ready).2
              step.machine = others.machine ∧ step.outcome = others.outcome := by
  intro transitions course current history
  have hrecords : Records transitions history := records_finish h actions
  refine ⟨hrecords.isChain, hrecords.eq_nil_iff, ?last, ?next,
    fun _ _ => eq_or_eq_of_wayBack? hrecords.isChain, ?vain⟩
  case last =>
    intro transition hlast
    rw [hrecords.head?, hlast, Option.map_some]
  case next =>
    intro action moment after
    refine ⟨history_react_of_none, fun transition htransition => ?_⟩
    obtain ⟨hsource, hrewrites⟩ := rewrites_react_of_some htransition
    exact ⟨hsource, hrewrites, hrewrites.length_le, fun _ => hrewrites.length_le_of_back⟩
  case vain =>
    intro now ready state earlier event rest hreaches hback hnamed hway step others
    have hnone : state.choose? current history event = none := by
      rw [State.choose?_of_back hnamed hback, hway, Option.map_none]
    obtain ⟨hmachine, houtcome, _⟩ := hreaches.tick_of_none hnone
    exact ⟨hmachine, houtcome⟩

end Course

def Graph.stairs : Graph where
  states := [
    ⟨"Hall", ⟨"hall"⟩, none, false, none, [(⟨"around"⟩, ⟨"hall"⟩), (⟨"up"⟩, ⟨"attic"⟩)],
      [⟨"back"⟩]⟩,
    ⟨"Attic", ⟨"attic"⟩, none, false, none, [(⟨"down"⟩, ⟨"hall"⟩)], []⟩]
  events := [⟨"up", ⟨"up"⟩⟩, ⟨"down", ⟨"down"⟩⟩, ⟨"around", ⟨"around"⟩⟩, ⟨"back", ⟨"back"⟩⟩]
  start := some ⟨"hall"⟩
  error := none
  flags := .none
  checksum := ""
  errors := 0

def Machine.atStairs : Machine :=
  ⟨⟨"hall"⟩, .entering, [], ⟨⟨"hall"⟩, [⟨"around"⟩, ⟨"up"⟩, ⟨"back"⟩], []⟩, none⟩

theorem Course.history_records_transitions_stairs :
    let actions : List Action := [.submit "up", .tick 0 true, .submit "down", .tick 1 true,
      .submit "around", .tick 2 true, .submit "back"]
    let course := (start .atStairs).finish .stairs actions
    let moment := course.react .stairs (.tick 3 true)
    course.machine.history = [⟨"hall"⟩, ⟨"attic"⟩, ⟨"hall"⟩] ∧
      course.machine.history.IsChain (· ≠ ·) ∧
      moment.after.machine.history = [⟨"hall"⟩] ∧
      Transition.Rewrites ⟨⟨"hall"⟩, ⟨"attic"⟩, .back ⟨"back"⟩, []⟩ course.machine.history
        moment.after.machine.history := by
  intro actions course moment
  have hcreate : Machine.create .stairs = .ok .atStairs := rfl
  have hhistory : course.machine.history = [⟨"hall"⟩, ⟨"attic"⟩, ⟨"hall"⟩] := by decide +kernel
  have hafter : moment.after.machine.history = [⟨"hall"⟩] := by decide +kernel
  have htransition : moment.transition? =
      some ⟨⟨"hall"⟩, ⟨"attic"⟩, .back ⟨"back"⟩, []⟩ := by decide +kernel
  obtain ⟨hchain, _, _, hnext, _⟩ := history_records_transitions hcreate actions
  obtain ⟨_, hrewrites⟩ := hnext (.tick 3 true)
  exact ⟨hhistory, hchain, hafter, (hrewrites _ htransition).2.1⟩

end SceneFlow
