import SceneFlow.Proofs.Machine.Declared
import SceneFlow.Proofs.Machine.Timer

namespace SceneFlow

variable {graph : Graph} {state : State} {machine : Machine} {course : Course} {now since : Nat}
  {ready : Bool} {current event target : Name} {history pending earlier rest : List Name}
  {trigger : Trigger} {commands : List Command} {faults : List Fault}

namespace State

def Leads (state : State) (current : Name) (history : List Name) (event : Name) : Prop :=
  event ∈ state.named.map Prod.fst ∨
    event ∈ state.back ∧ ∃ previous ∈ history, previous ≠ current

instance : Decidable (state.Leads current history event) :=
  inferInstanceAs (Decidable (_ ∨ _ ∧ ∃ previous ∈ history, _))

/-- Where an event leads. A target of its own comes before the way back, which goes to the latest
other state of the history. -/
inductive LeadsTo (state : State) (current : Name) (history : List Name) (event : Name) :
    Trigger → Name → Prop
  | named {target : Name} : state.named.lookup event = some target →
      LeadsTo state current history event (.named event) target
  | back {target : Name} : event ∉ state.named.map Prod.fst → event ∈ state.back →
      history.find? (· ≠ current) = some target →
      LeadsTo state current history event (.back event) target

theorem choose?_eq_none_iff_not_leads :
    state.choose? current history event = none ↔ ¬ state.Leads current history event := by
  rw [choose?_eq_none_iff, Leads, not_or, not_and]
  simp only [not_exists, not_and, not_not]

theorem exists_choice_of_leads (h : state.Leads current history event) :
    ∃ choice, state.choose? current history event = some choice ∧
      state.LeadsTo current history event choice.trigger choice.target := by
  cases hnamed : state.named.lookup event with
  | some target => exact ⟨_, choose?_of_named hnamed, .named hnamed⟩
  | none =>
    have hnamed := Name.lookup_eq_none_iff.1 hnamed
    obtain ⟨hback, hother⟩ := h.resolve_left hnamed
    obtain ⟨target, htarget⟩ := Option.isSome_iff_exists.1
      (by simpa using hother : (history.find? (· ≠ current)).isSome)
    obtain ⟨⟨_, older⟩, hway, rfl⟩ :=
      Option.map_eq_some_iff.1 ((wayBack?_map_fst current history).trans htarget)
    refine ⟨⟨.back event, _, older⟩, ?_, .back hnamed hback htarget⟩
    rw [choose?_of_back hnamed hback, hway]
    rfl

end State

namespace Machine

def Awaits (state : State) (machine : Machine) : Prop :=
  match machine.phase with
  | .entering => machine.unload.isSome ∨ state.resource.isSome
  | .activating _ _ => True
  | .waiting _ => False

instance : Decidable (machine.Awaits state) :=
  match machine with
  | ⟨_, .entering, _, _, unload⟩ =>
    inferInstanceAs (Decidable (unload.isSome ∨ state.resource.isSome))
  | ⟨_, .activating _ _, _, _, _⟩ => .isTrue trivial
  | ⟨_, .waiting _, _, _, _⟩ => .isFalse id

/-- When the wait began, if it goes on or begins now. -/
def waitsSince (now : Nat) (machine : Machine) : Nat :=
  match machine.phase with
  | .waiting since => since
  | _ => now

theorem waitsSince_of_not_waiting (h : ∀ since, machine.phase ≠ .waiting since) :
    machine.waitsSince now = now := by
  cases hphase : machine.phase with
  | waiting since => exact absurd hphase (h since)
  | _ => rw [waitsSince, hphase]

theorem begin_phase_of_awaits (now : Nat) (hstate : machine.currentState? graph = some state)
    (h : machine.Awaits state) :
    ∃ resource unloading, (machine.begin graph now).1.phase = .activating resource unloading := by
  cases hphase : machine.phase with
  | waiting since => simp [Awaits, hphase] at h
  | activating resource unloading =>
    rw [begin_of_not_entering (by simp [hphase])]
    exact ⟨resource, unloading, hphase⟩
  | entering =>
    simp only [Awaits, hphase] at h
    simp only [begin, hphase, hstate]
    cases hunload : machine.unload with
    | some resource => exact ⟨resource, true, rfl⟩
    | none =>
      obtain ⟨resource, hresource⟩ :=
        Option.isSome_iff_exists.1 (h.resolve_left (by simp [hunload]))
      obtain ⟨_, _, _, _, _, _, _⟩ := state
      cases hresource
      exact ⟨resource, false, rfl⟩

theorem begin_phase_of_not_awaits (hstate : machine.currentState? graph = some state)
    (h : ¬ machine.Awaits state) :
    (machine.begin graph now).1.phase = .waiting (machine.waitsSince now) := by
  cases hphase : machine.phase with
  | waiting since =>
    rw [begin_of_not_entering (by simp [hphase]), waitsSince, hphase]
  | activating resource unloading => simp [Awaits, hphase] at h
  | entering =>
    simp only [Awaits, hphase, not_or, Option.not_isSome_iff_eq_none] at h
    obtain ⟨hunload, hresource⟩ := h
    obtain ⟨_, _, _, _, _, _, _⟩ := state
    cases hresource
    simp only [begin, waitsSince, hphase, hunload, hstate]

theorem settled_phase_of_stalled (now : Nat) (hstate : machine.currentState? graph = some state)
    (h : machine.Awaits state) :
    ∃ resource unloading,
      (machine.settled graph now false).phase = .activating resource unloading := by
  obtain ⟨resource, unloading, hbegin⟩ := begin_phase_of_awaits now hstate h
  exact ⟨resource, unloading, settled_phase_of_activating hbegin⟩

theorem settled_phase_of_ready (graph : Graph) (now : Nat) (machine : Machine) :
    (machine.settled graph now true).phase = .waiting (machine.waitsSince now) := by
  cases hphase : machine.phase with
  | waiting since =>
    have hbegin : machine.begin graph now = (machine, none) :=
      begin_of_not_entering (by simp [hphase])
    rw [waitsSince, hphase]
    exact settled_phase_of_waiting (by rw [hbegin, hphase])
  | activating resource unloading =>
    have hbegin : machine.begin graph now = (machine, none) :=
      begin_of_not_entering (by simp [hphase])
    rw [waitsSince, hphase]
    exact settled_phase_of_activating (by rw [hbegin, hphase])
  | entering =>
    rw [waitsSince, hphase]
    cases begin_of_entering now hphase with
    | inl hactivating =>
      obtain ⟨_, resource, unloading, hbegin⟩ := hactivating
      exact settled_phase_of_activating hbegin
    | inr hwaiting => exact settled_phase_of_waiting hwaiting.2

theorem settled_phase_of_not_stalled (now : Nat) (hstate : machine.currentState? graph = some state)
    (h : ¬ (machine.Awaits state ∧ ready = false)) :
    (machine.settled graph now ready).phase = .waiting (machine.waitsSince now) := by
  by_cases hawaits : machine.Awaits state
  · obtain rfl : ready = true := by simpa [hawaits] using h
    exact settled_phase_of_ready graph now machine
  · exact settled_phase_of_waiting (begin_phase_of_not_awaits hstate hawaits)

theorem poll_pending (hstate : machine.currentState? graph = some state) :
    (poll graph now since machine).machine.mailbox.pending = [] := by
  simp only [poll, hstate]
  cases (examine state now since machine).choice with
  | some choice => simp
  | none => rfl

end Machine

namespace Course

/-- A tick goes on activating as long as a resource is awaited and not there. Else the state waits,
and the tick makes the timed transition if that is due, else the transition of the first pending
event that leads anywhere, else none. The events after that event, or all if the time is up, are
discarded, and none is left pending. -/
theorem tick_comes_to [Checksum] (h : course.Reachable (bindCommands commands faults).1) (now : Nat)
    (ready : Bool) :
    let graph := (bindCommands commands faults).1
    let machine := course.machine
    let pending := machine.mailbox.pending
    let since := machine.waitsSince now
    let step := (machine.tick graph now ready).2
    ∃ state, graph.state? machine.current = some state ∧
      (machine.Awaits state ∧ ready = false →
        step.outcome = .activating ∧ step.machine.current = machine.current ∧
          step.machine.history = machine.history ∧ step.machine.mailbox = machine.mailbox ∧
          ∃ resource unloading, step.machine.phase = .activating resource unloading) ∧
      (¬ (machine.Awaits state ∧ ready = false) →
        step.machine.mailbox.pending = [] ∧
        (∀ timed, state.timed = some timed → timed.delay < now - since →
          step.outcome =
              .transitioned ⟨machine.current, timed.target, .timed timed.seconds, pending⟩ ∧
            step.machine.current = timed.target ∧ step.machine.phase = .entering) ∧
        (¬ state.Due now since → ∀ earlier event rest, pending = earlier ++ event :: rest →
          (∀ other ∈ earlier, ¬ state.Leads machine.current machine.history other) →
          state.Leads machine.current machine.history event →
          ∃ trigger target, state.LeadsTo machine.current machine.history event trigger target ∧
            step.outcome = .transitioned ⟨machine.current, target, trigger, rest⟩ ∧
            step.machine.current = target ∧ step.machine.phase = .entering) ∧
        (¬ state.Due now since →
          (∀ event ∈ pending, ¬ state.Leads machine.current machine.history event) →
          step.outcome = .idle ∧ step.machine.current = machine.current ∧
            step.machine.history = machine.history ∧ step.machine.phase = .waiting since ∧
            step.machine.mailbox = { machine.mailbox with pending := [] })) := by
  intro graph machine pending since step
  obtain ⟨state, hstate⟩ :=
    Option.isSome_iff_exists.1 (h.declared (resolved_bindCommands commands faults)).current
  have hdeclared : (machine.settled graph now ready).currentState? graph = some state :=
    Machine.settled_currentState?.trans hstate
  refine ⟨state, hstate, ?stalled, fun hsettles => ?_⟩
  case stalled =>
    rintro ⟨hawaits, rfl⟩
    obtain ⟨resource, unloading, hphase⟩ := Machine.settled_phase_of_stalled now hstate hawaits
    have hstep : step = _ := Machine.tick_of_activating hphase
    rw [hstep]
    exact ⟨rfl, Machine.settled_current, Machine.settled_history, Machine.settled_mailbox,
      resource, unloading, hphase⟩
  have hphase := Machine.settled_phase_of_not_stalled now hstate hsettles
  have hstep : step = _ := Machine.tick_of_waiting hphase
  rw [hstep]
  refine ⟨Machine.poll_pending hdeclared, ?timed, ?event, ?idle⟩
  case timed =>
    intro timed htimed hdelay
    rw [Machine.poll_of_due hdeclared htimed hdelay]
    refine ⟨?_, rfl, rfl⟩
    simp [pending, machine]
  case event =>
    intro hdue earlier event rest hqueued hearlier hleads
    obtain ⟨choice, hchoice, hleadsTo⟩ := State.exists_choice_of_leads hleads
    rw [Machine.poll_of_chosen hdeclared hdue (by simpa using hqueued)
      (by simpa [State.choose?_eq_none_iff_not_leads] using hearlier) (by simpa using hchoice)]
    refine ⟨choice.trigger, choice.target, hleadsTo, ?_, rfl, rfl⟩
    simp [machine]
  case idle =>
    intro hdue hrefused
    rw [Machine.poll_of_refused hdeclared hdue
      (by simpa [State.choose?_eq_none_iff_not_leads] using hrefused)]
    refine ⟨rfl, Machine.settled_current, Machine.settled_history, hphase, ?_⟩
    simp [Machine.withPending, machine]

theorem tick_comes_to_hall :
    let commands : List Command := [.make .state ["Hall"], .make .state ["Attic"],
      .make .event ["Go"], .make .event ["Up"], .make .defineStart ["Hall"],
      .make .timedTransition ["Hall", "Attic", "1"], .make .namedTransition ["Hall", "Attic", "Go"],
      .make .backTransition ["Hall", "Go"], .make .backTransition ["Hall", "Up"]]
    let graph := (bindCommands commands []).1
    ∃ machine, Machine.create graph = .ok machine ∧
      let course := (start machine).finish graph [.submit "up", .submit "GO", .submit "up"]
      course.machine.mailbox.pending = [⟨"up"⟩, ⟨"go"⟩, ⟨"up"⟩] ∧
        (course.machine.tick graph 7 false).2.outcome =
          .transitioned ⟨⟨"hall"⟩, ⟨"attic"⟩, .named ⟨"go"⟩, [⟨"up"⟩]⟩ ∧
        (course.machine.tick graph 7 false).2.machine.mailbox.pending = [] := by
  intro commands graph
  have hcreate : Machine.create graph =
      .ok ⟨⟨"hall"⟩, .entering, [], ⟨⟨"hall"⟩, [⟨"go"⟩, ⟨"go"⟩, ⟨"up"⟩], []⟩, none⟩ := by
    decide
  refine ⟨_, hcreate, ?_⟩
  intro course
  have hcourse : course.Reachable graph := (Reachable.start hcreate).finish _
  have hpending : course.machine.mailbox.pending = [⟨"up"⟩, ⟨"go"⟩, ⟨"up"⟩] := by decide
  obtain ⟨state, hstate, _, hsettles⟩ := tick_comes_to hcourse 7 false
  have hhall : graph.state? course.machine.current = some ⟨"Hall", ⟨"hall"⟩, none, false,
      some ⟨⟨"attic"⟩, .finite false 0x10000000000000 (-52)⟩,
      [(⟨"go"⟩, ⟨"attic"⟩)], [⟨"go"⟩, ⟨"up"⟩]⟩ := by
    decide +kernel
  obtain rfl := Option.some.inj (hstate.symm.trans hhall)
  have hsince : course.machine.waitsSince 7 = 7 := by decide
  have hdue (state : State) : ¬ state.Due 7 (course.machine.waitsSince 7) := by
    rintro ⟨timed, _, hdelay⟩
    omega
  obtain ⟨hempty, _, hevent, _⟩ := hsettles (by decide)
  obtain ⟨trigger, target, hleads, houtcome, _⟩ :=
    hevent (hdue _) [⟨"up"⟩] ⟨"go"⟩ [⟨"up"⟩] hpending (by decide) (by decide)
  have hgraph : graph = (bindCommands commands []).1 := rfl
  rw [hgraph]
  refine ⟨hpending, ?_, hempty⟩
  cases hleads with
  | named hnamed =>
    cases hnamed
    exact houtcome
  | back hnamed _ _ => exact absurd (by decide) hnamed

end Course

end SceneFlow
