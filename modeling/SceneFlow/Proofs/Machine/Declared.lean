import SceneFlow.Proofs.Binding.Resolved
import SceneFlow.Proofs.Machine.Mailbox

/-!
Machines of programs without faults. Such a program refers to declared states only, so its machine
is always in one, with a mailbox that takes exactly the events of that state. No event that was
taken turns out to have no transition.
-/

namespace SceneFlow

variable {diagram : Diagram} {graph : Graph} {state : State} {machine : Machine} {now : Nat}
  {ready : Bool} {key current event source : Name} {history events rest : List Name}
  {choice : Choice} {notice : Notice} {name : String}

theorem Diagram.Resolved.of_state? (h : diagram.Resolved)
    (hstate : diagram.state? key = some state) : state.Resolved diagram :=
  h.states state (List.mem_of_find?_eq_some hstate)

theorem State.Resolved.of_choose? (h : state.Resolved diagram)
    (hhistory : ∀ previous ∈ history, diagram.HasState previous)
    (hchoice : state.choose? current history event = some choice) :
    diagram.HasState choice.target ∧ ∀ previous ∈ choice.history, diagram.HasState previous := by
  cases choose?_eq_some hchoice with
  | inl hnamed =>
    obtain ⟨target, hlookup, rfl⟩ := hnamed
    obtain ⟨earlier, later, hentries, _⟩ := List.lookup_eq_some_iff.1 hlookup
    have hentry : (event, target) ∈ state.named := by simp [hentries]
    exact ⟨(h.named _ hentry).2, hhistory⟩
  | inr hback =>
    obtain ⟨target, older, _, hway, rfl⟩ := hback
    have hsuffix := suffix_of_wayBack? hway
    have hdeclared := fun previous hprevious =>
      hhistory previous (hsuffix.mem hprevious)
    exact List.forall_mem_cons.1 hdeclared

namespace Machine

structure Declared (graph : Graph) (machine : Machine) : Prop where
  current : graph.HasState machine.current
  history : ∀ previous ∈ machine.history, graph.HasState previous

theorem create_declared (h : create graph = .ok machine) : machine.Declared graph := by
  obtain ⟨_, start, hstart, rfl⟩ := create_eq_ok h
  obtain ⟨key, _, hkey⟩ := Option.bind_eq_some_iff.1 hstart
  constructor
  · obtain rfl := Diagram.key_of_state? hkey
    exact Option.isSome_of_eq_some hkey
  · exact List.forall_mem_nil _

theorem Declared.settled (now : Nat) (ready : Bool) (h : machine.Declared graph) :
    (machine.settled graph now ready).Declared graph := by
  constructor
  · rw [settled_current]
    exact h.current
  · rw [settled_history]
    exact h.history

theorem Declared.fire {fired : Fired} (h : machine.Declared graph)
    (htarget : graph.HasState choice.target)
    (hhistory : ∀ previous ∈ choice.history, graph.HasState previous)
    (hfired : fired = machine.fire graph state choice rest) : fired.machine.Declared graph := by
  rw [hfired]
  constructor
  · exact htarget
  · simp only [Machine.fire]
    split
    · exact hhistory
    · exact List.forall_mem_cons.2 ⟨h.current, hhistory⟩

theorem Declared.tick (hgraph : graph.Resolved) (now : Nat) (ready : Bool)
    (h : machine.Declared graph) : (machine.tick graph now ready).2.machine.Declared graph := by
  have hsettled := h.settled now ready
  have htick := tick_ticked graph now ready machine
  generalize (machine.tick graph now ready).2 = step at htick ⊢
  cases htick with
  | activating _ => exact hsettled
  | lost _ _ => exact hsettled
  | idle _ _ _ _ => exact ⟨hsettled.current, hsettled.history⟩
  | timed _ hstate htimed _ hfired =>
    exact hsettled.fire ((hgraph.of_state? hstate).timed _ htimed) h.history hfired
  | chosen _ hstate _ _ _ hevent hfired =>
    have hchoice := (hgraph.of_state? hstate).of_choose? h.history hevent
    exact hsettled.fire hchoice.1 hchoice.2 hfired

theorem Declared.submit {receipt : Receipt} (h : machine.Declared graph)
    (hsubmit : machine.submit graph name = .ok receipt) : receipt.machine.Declared graph := by
  constructor
  · rw [submit_current hsubmit]
    exact h.current
  · rw [submit_history hsubmit]
    exact h.history

end Machine

theorem Course.Reachable.declared {course : Course} (hgraph : graph.Resolved)
    (h : course.Reachable graph) : course.machine.Declared graph :=
  h.machine_induction (fun _ => Machine.create_declared) (fun _ => Machine.Declared.tick hgraph)
    fun _ _ _ => Machine.Declared.submit

theorem State.eq_noWayBack_of_mem_refusals (h : ∀ event ∈ events, event ∈ state.back)
    (hnotice : notice ∈ events.map state.refusal) :
    ∃ event state, notice = .noWayBack event state := by
  obtain ⟨refused, hrefused, rfl⟩ := List.mem_map.1 hnotice
  exact ⟨refused, state.key, if_pos (h refused hrefused)⟩

theorem Machine.ne_noTransition_of_mem_tick (h : machine.Agrees graph)
    (hnotice : notice ∈ (machine.tick graph now ready).2.notices) :
    notice ≠ .noTransition event source := by
  have hquiet : notice.isRefusal = false → notice ≠ .noTransition event source := by
    rintro hrefusal rfl
    cases hrefusal
  have hback : (∃ event state, notice = .noWayBack event state) →
      notice ≠ .noTransition event source := by
    rintro ⟨_, _, rfl⟩
    simp
  have htick := tick_ticked graph now ready machine
  generalize (machine.tick graph now ready).2 = step at htick hnotice
  cases htick with
  | activating _ => exact hquiet (isRefusal_of_mem_arrival hnotice)
  | lost _ _ => exact hquiet (isRefusal_of_mem_arrival hnotice)
  | idle _ hstate _ hrefused =>
    have hevents := h.mem_back_of_refused hstate (fun _ => id) hrefused
    cases List.mem_append.1 hnotice with
    | inl harrival => exact hquiet (isRefusal_of_mem_arrival harrival)
    | inr hrefusal => exact hback (State.eq_noWayBack_of_mem_refusals hevents hrefusal)
  | timed _ _ _ _ hfired =>
    cases List.mem_append.1 hnotice with
    | inl harrival => exact hquiet (isRefusal_of_mem_arrival harrival)
    | inr htold => exact hquiet (isRefusal_of_mem_fire (hfired ▸ htold))
  | chosen _ hstate _ hqueued hearlier _ hfired =>
    have hevents := h.mem_back_of_refused hstate
      (fun _ hother => hqueued ▸ List.mem_append_left _ hother) hearlier
    rcases List.mem_append.1 hnotice with harrival | hrest
    · exact hquiet (isRefusal_of_mem_arrival harrival)
    · rcases List.mem_append.1 hrest with hrefusal | htold
      · exact hback (State.eq_noWayBack_of_mem_refusals hevents hrefusal)
      · exact hquiet (isRefusal_of_mem_fire (hfired ▸ htold))

theorem State.Resolved.hasEvent (h : state.Resolved diagram)
    (hevent : event ∈ state.named.map Prod.fst ∨ event ∈ state.back) : diagram.HasEvent event := by
  cases hevent with
  | inl hnamed =>
    obtain ⟨entry, hentry, rfl⟩ := List.mem_map.1 hnamed
    exact (h.named entry hentry).1
  | inr hback => exact h.back event hback

namespace Machine

/-- A machine in a declared state, and a mailbox that tells the same of this state. -/
structure InStep (graph : Graph) (state : State) (machine : Machine) : Prop where
  declared : machine.currentState? graph = some state
  current : machine.mailbox.current = machine.current
  accepted : ∀ event, event ∈ machine.mailbox.accepted ↔
    event ∈ state.named.map Prod.fst ∨ event ∈ state.back
  pending : ∀ event ∈ machine.mailbox.pending, event ∈ machine.mailbox.accepted
  history : ∀ previous ∈ machine.history, (graph.state? previous).isSome

theorem Declared.inStep (h : machine.Declared graph) (hagrees : machine.Agrees graph) :
    ∃ state, machine.InStep graph state := by
  obtain ⟨state, hstate⟩ := Option.isSome_iff_exists.1 h.current
  obtain ⟨hcurrent, haccepted, hpending⟩ := hagrees state hstate
  refine ⟨state, hstate, hcurrent, ?_, ?_, h.history⟩
  · intro event
    rw [haccepted, State.mem_accepted]
  · rwa [haccepted]

theorem InStep.submission (h : machine.InStep graph state)
    (hresolved : state.Resolved graph.toDiagram) (name : String) :
    let result := (machine.submit graph name).map Receipt.submission
    let taken := .of name ∈ state.named.map Prod.fst ∨ .of name ∈ state.back
    (result = .error (.unknownEvent name) ↔ graph.event? (.of name) = none) ∧
      (result = .ok .accepted ↔ taken) ∧
      (result = .ok .dropped ↔ (graph.event? (.of name)).isSome ∧ ¬ taken) := by
  intro result taken
  have htaken : .of name ∈ machine.mailbox.accepted ↔ taken := h.accepted (.of name)
  have hdeclared : taken → graph.HasEvent (.of name) := hresolved.hasEvent
  cases hevent : graph.event? (.of name) with
  | none =>
    have hresult : result = .error (.unknownEvent name) := by
      simp only [result, submit_of_unknown hevent, Except.map]
    have hnot : ¬ taken := by
      intro htaken
      simpa [Diagram.HasEvent, hevent] using hdeclared htaken
    simp [hresult, hnot]
  | some event =>
    by_cases haccepted : .of name ∈ machine.mailbox.accepted
    · have hresult : result = .ok .accepted := by
        simp only [result, submit_of_accepted hevent haccepted, Except.map]
      simp [hresult, htaken.1 haccepted]
    · have hresult : result = .ok .dropped := by
        simp only [result, submit_of_dropped hevent haccepted, Except.map]
      rw [htaken] at haccepted
      simp [hresult, haccepted]

end Machine

namespace Program

theorem create_of_no_faults [Checksum] {source : String} (hfaults : (compile source).faults = [])
    (hstart : (compile source).graph.start.isSome) :
    ∃ machine, Machine.create (compile source).graph = .ok machine := by
  have hvalid : (compile source).graph.isValid = true := by
    simp [Graph.isValid, errors_compile, hfaults]
  obtain ⟨key, hkey⟩ := Option.isSome_iff_exists.1 hstart
  obtain ⟨state, hstate⟩ :=
    Option.isSome_iff_exists.1 ((resolved_compile source).start key hkey)
  have hfound : (compile source).graph.startState? = some state := by
    rw [Diagram.startState?, hkey]
    exact hstate
  simp [Machine.create, Machine.make, hvalid, hfound, Except.map]

/-- The machine of a program without faults is in a declared state all the time, in step with its
mailbox. No tick meets an event without a transition, and whether a submitted event is unknown,
accepted or dropped is settled by the declarations and the current state. -/
theorem machine_in_step [Checksum] {source : String} (hfaults : (compile source).faults = [])
    (hstart : (compile source).graph.start.isSome) :
    let graph := (compile source).graph
    (∃ machine, Machine.create graph = .ok machine) ∧
      ∀ course : Course, course.Reachable graph → ∃ state, course.machine.InStep graph state ∧
        (∀ now ready event place,
          .noTransition event place ∉ (course.machine.tick graph now ready).2.notices) ∧
        ∀ name,
          let result := (course.machine.submit graph name).map Machine.Receipt.submission
          let taken := .of name ∈ state.named.map Prod.fst ∨ .of name ∈ state.back
          (result = .error (.unknownEvent name) ↔ graph.event? (.of name) = none) ∧
            (result = .ok .accepted ↔ taken) ∧
            (result = .ok .dropped ↔ (graph.event? (.of name)).isSome ∧ ¬ taken) := by
  intro graph
  refine ⟨create_of_no_faults hfaults hstart, ?_⟩
  intro course hcourse
  have hresolved : graph.toDiagram.Resolved := resolved_compile source
  obtain ⟨state, hstate⟩ := (hcourse.declared hresolved).inStep hcourse.agrees
  refine ⟨state, hstate, ?_, hstate.submission (hresolved.of_state? hstate.declared)⟩
  intro now ready event place hnotice
  exact Machine.ne_noTransition_of_mem_tick hcourse.agrees hnotice rfl

def house : String :=
  "State(Hall); State(Yard); Event(Go); DefineStart(Hall); NamedTransition(Hall, Yard, go);"

theorem machine_in_step_house :
    let graph := (compile house).graph
    (compile house).faults = [] ∧ graph.start.isSome ∧
      ∃ machine, Machine.create graph = .ok machine ∧
        let course := (Course.start machine).finish graph [.submit "GO", .tick 0 true]
        machine.mailbox.current = ⟨"hall"⟩ ∧ course.machine.mailbox.current = ⟨"yard"⟩ ∧
          ∃ state, course.machine.InStep graph state ∧ state.key = ⟨"yard"⟩ ∧
            (course.machine.submit graph "go").map Machine.Receipt.submission =
              .ok .dropped := by
  let machine : Machine := ⟨⟨"hall"⟩, .entering, [], ⟨⟨"hall"⟩, [⟨"go"⟩], []⟩, none⟩
  have hcreate : Machine.create (compile house).graph = .ok machine ∧
      (compile house).faults = [] ∧ (compile house).graph.start.isSome := by
    decide +kernel
  have hyard :
      let course := (Course.start machine).finish (compile house).graph [.submit "GO", .tick 0 true]
      course.machine.mailbox.current = ⟨"yard"⟩ ∧
        course.machine.currentState? (compile house).graph =
          some ⟨"Yard", ⟨"yard"⟩, none, false, none, [], []⟩ ∧
        ((compile house).graph.event? (.of "go")).isSome := by
    decide +kernel
  obtain ⟨hcreate, hfaults, hstart⟩ := hcreate
  obtain ⟨_, hcourses⟩ := machine_in_step hfaults hstart
  generalize (compile house).graph = graph at *
  obtain ⟨hcurrent, hstate, hevent⟩ := hyard
  obtain ⟨state, hstep, _, hsubmission⟩ := hcourses _ ((Course.Reachable.start hcreate).finish _)
  obtain rfl := Option.some.inj (hstep.declared.symm.trans hstate)
  obtain ⟨_, _, hdropped⟩ := hsubmission "go"
  exact ⟨hfaults, hstart, machine, hcreate, rfl, hcurrent, _, hstep, rfl,
    hdropped.2 ⟨hevent, by simp⟩⟩

end Program

end SceneFlow
