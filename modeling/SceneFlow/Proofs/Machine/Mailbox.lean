import SceneFlow.Proofs.Machine.Course

/-!
Mailboxes and machines. What the current state is, a machine notes twice: for itself, and in the
mailbox that submitted events meet. The two agree all the time.
-/

namespace SceneFlow

variable {graph : Graph} {state : State} {machine : Machine} {now : Nat} {ready : Bool}
  {name : String} {choice : Choice} {left : List Name}

namespace Machine

def Agrees (graph : Graph) (machine : Machine) : Prop :=
  ∀ state, machine.currentState? graph = some state →
    machine.mailbox.current = machine.current ∧
    machine.mailbox.accepted = state.accepted ∧
    ∀ event ∈ machine.mailbox.pending, event ∈ state.accepted

theorem Agrees.mem_back_of_refused {current : Name} {history events : List Name}
    (h : machine.Agrees graph) (hstate : machine.currentState? graph = some state)
    (hpending : ∀ event ∈ events, event ∈ machine.mailbox.pending)
    (hrefused : ∀ event ∈ events, state.choose? current history event = none) :
    ∀ event ∈ events, event ∈ state.back := by
  intro event hevent
  obtain ⟨_, _, haccepted⟩ := h state hstate
  exact State.mem_back_of_refused (haccepted event (hpending event hevent)) (hrefused event hevent)

theorem create_eq_ok (h : create graph = .ok machine) :
    graph.isValid ∧ ∃ state, graph.startState? = some state ∧
      machine = ⟨state.key, .entering, [], ⟨state.key, state.accepted, []⟩, none⟩ := by
  rw [create, make] at h
  split at h
  · next hvalid =>
    split at h
    · next state hstart =>
      cases h
      exact ⟨hvalid, state, hstart, rfl⟩
    · cases h
  · cases h

theorem create_agrees (h : create graph = .ok machine) : machine.Agrees graph := by
  obtain ⟨_, start, hstart, rfl⟩ := create_eq_ok h
  obtain ⟨key, _, hkey⟩ := Option.bind_eq_some_iff.1 hstart
  intro state hstate
  have hsame : state = start := by
    obtain rfl := Diagram.key_of_state? hkey
    exact Option.some.inj (hstate.symm.trans hkey)
  simp [hsame]

theorem fire_agrees {fired : Fired}
    (h : fired = machine.fire graph state choice left) : fired.machine.Agrees graph := by
  intro target htarget
  rw [h] at htarget ⊢
  have htarget : graph.state? choice.target = some target := htarget
  simp [fire, htarget, Mailbox.enter, Diagram.key_of_state? htarget]

theorem settled_agrees (now : Nat) (ready : Bool) (h : machine.Agrees graph) :
    (machine.settled graph now ready).Agrees graph := by
  simpa [Agrees] using h

theorem tick_agrees (h : machine.Agrees graph) :
    (machine.tick graph now ready).2.machine.Agrees graph := by
  have hsettled := settled_agrees now ready h
  have htick := tick_ticked graph now ready machine
  generalize (machine.tick graph now ready).2 = step at htick ⊢
  cases htick with
  | activating _ => exact hsettled
  | lost _ _ => exact hsettled
  | idle _ _ _ _ =>
    intro state hstate
    obtain ⟨hcurrent, haccepted, _⟩ := hsettled state hstate
    exact ⟨hcurrent, haccepted, List.forall_mem_nil _⟩
  | timed _ _ _ _ hfired => exact fire_agrees hfired
  | chosen _ _ _ _ _ _ hfired => exact fire_agrees hfired

theorem submit_agrees {receipt : Receipt} (h : machine.Agrees graph)
    (hsubmit : machine.submit graph name = .ok receipt) : receipt.machine.Agrees graph := by
  cases hevent : graph.event? (.of name) with
  | none =>
    rw [submit_of_unknown hevent] at hsubmit
    cases hsubmit
  | some event =>
    by_cases haccepted : .of name ∈ machine.mailbox.accepted
    · rw [submit_of_accepted hevent haccepted] at hsubmit
      cases hsubmit
      intro state hstate
      obtain ⟨hcurrent, hsame, hpending⟩ := h state hstate
      refine ⟨hcurrent, hsame, ?_⟩
      rw [hsame] at haccepted
      simpa [or_imp, forall_and, haccepted] using hpending
    · rw [submit_of_dropped hevent haccepted] at hsubmit
      cases hsubmit
      exact h

end Machine

theorem Course.Reachable.agrees {course : Course} (h : course.Reachable graph) :
    course.machine.Agrees graph :=
  h.machine_induction (fun _ => Machine.create_agrees) (fun _ _ _ => Machine.tick_agrees)
    fun _ _ _ => Machine.submit_agrees

end SceneFlow
