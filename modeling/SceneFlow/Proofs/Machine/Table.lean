import SceneFlow.Graph.Table
import SceneFlow.Proofs.Binding.Meaning
import SceneFlow.Proofs.Machine.Declared
import SceneFlow.Proofs.Machine.Return
import SceneFlow.Proofs.Machine.Timer

namespace SceneFlow

variable {diagram : Diagram} {graph : Graph} {state : State} {machine : Machine} {now : Nat}
  {ready : Bool} {current key other event : Name} {history : List Name} {choice : Choice}
  {transition : Transition} {commands : List Command} {course : Course}

inductive Label
  | timed (seconds : Number.Binary64)
  | named (event : String)
  | back (event : String)
  deriving DecidableEq

def Trigger.label (diagram : Diagram) : Trigger → Label
  | timed seconds => .timed seconds
  | named event => .named (diagram.eventName event)
  | back event => .back (diagram.eventName event)

theorem Trigger.eq_back_of_label {trigger : Trigger} {name : String}
    (h : trigger.label diagram = .back name) : ∃ event, trigger = .back event := by
  cases trigger with
  | timed _ => cases h
  | named _ => cases h
  | back event => exact ⟨event, rfl⟩

structure Line where
  source : String
  target : Option String
  label : Label
  deriving DecidableEq

def Row.line (diagram : Diagram) (row : Row) : Line :=
  ⟨diagram.stateName row.source, row.target.map diagram.stateName, row.trigger.label diagram⟩

structure Record where
  source : String
  target : String
  label : Label
  discarded : List String
  deriving DecidableEq

def Record.line (record : Record) : Line :=
  match record.label with
  | .back _ => ⟨record.source, none, record.label⟩
  | _ => ⟨record.source, some record.target, record.label⟩

namespace Transition

def record (diagram : Diagram) (transition : Transition) : Record :=
  ⟨diagram.stateName transition.source, diagram.stateName transition.target,
    transition.trigger.label diagram, transition.discarded.map diagram.eventName⟩

def row (transition : Transition) : Row :=
  match transition.trigger with
  | .back _ => ⟨transition.source, none, transition.trigger⟩
  | _ => ⟨transition.source, some transition.target, transition.trigger⟩

theorem source_row (transition : Transition) : transition.row.source = transition.source := by
  obtain ⟨source, target, trigger, discarded⟩ := transition
  cases trigger <;> rfl

theorem line_record (diagram : Diagram) (transition : Transition) :
    (transition.record diagram).line = transition.row.line diagram := by
  obtain ⟨source, target, trigger, discarded⟩ := transition
  cases trigger <;> rfl

end Transition

namespace State

theorem mem_rows {row : Row} :
    row ∈ state.rows ↔
      (∃ timed, state.timed = some timed ∧
        row = ⟨state.key, some timed.target, .timed timed.seconds⟩) ∨
      (∃ entry ∈ state.named, row = ⟨state.key, some entry.2, .named entry.1⟩) ∨
      ∃ event ∈ state.back, row = ⟨state.key, none, .back event⟩ := by
  simp only [rows, List.mem_append, Option.mem_toList, Option.map_eq_some_iff, List.mem_map,
    or_assoc, @eq_comm _ _ row]

theorem source_of_mem_rows {row : Row} (h : row ∈ state.rows) : row.source = state.key := by
  rcases mem_rows.1 h with ⟨_, _, rfl⟩ | ⟨_, _, rfl⟩ | ⟨_, _, rfl⟩ <;> rfl

theorem row_of_choose? (h : state.choose? state.key history event = some choice)
    (discarded : List Name) :
    Transition.row ⟨state.key, choice.target, choice.trigger, discarded⟩ ∈ state.rows := by
  rw [mem_rows]
  cases choose?_eq_some h with
  | inl hnamed =>
    obtain ⟨target, hlookup, rfl⟩ := hnamed
    obtain ⟨earlier, later, hentries, _⟩ := List.lookup_eq_some_iff.1 hlookup
    have hentry : (event, target) ∈ state.named := by simp [hentries]
    exact .inr (.inl ⟨_, hentry, rfl⟩)
  | inr hback =>
    obtain ⟨target, older, hevent, _, rfl⟩ := hback
    exact .inr (.inr ⟨event, hevent, rfl⟩)

end State

theorem Diagram.mem_table {row : Row} (hstate : diagram.state? key = some state)
    (h : row ∈ state.rows) : row ∈ diagram.table :=
  List.mem_flatMap.2 ⟨state, List.mem_of_find?_eq_some hstate, h⟩

namespace Machine

theorem tick_transition (h : (machine.tick graph now ready).2.outcome = .transitioned transition) :
    transition.source = machine.current ∧ transition.row ∈ graph.table ∧
      ∀ event ∈ transition.discarded, event ∈ machine.mailbox.pending := by
  have hsettled : (machine.settled graph now ready).current = machine.current := settled_current
  have htick := tick_ticked graph now ready machine
  generalize (machine.tick graph now ready).2 = step at htick h
  cases htick with
  | activating _ => cases h
  | lost _ _ => cases h
  | idle _ _ _ _ => cases h
  | timed _ hstate htimed _ hfired =>
    rw [hfired, fire_transition, hsettled, ← Diagram.key_of_state? hstate] at h
    cases h
    have hrow := State.mem_rows.2 (.inl ⟨_, htimed, rfl⟩)
    exact ⟨Diagram.key_of_state? hstate, Diagram.mem_table hstate hrow, fun _ => id⟩
  | chosen _ hstate _ hqueued _ hevent hfired =>
    rw [hfired, fire_transition, hsettled, ← Diagram.key_of_state? hstate] at h
    rw [← Diagram.key_of_state? hstate] at hevent
    cases h
    refine ⟨Diagram.key_of_state? hstate,
      Diagram.mem_table hstate (State.row_of_choose? hevent _), ?_⟩
    intro event hrest
    rw [hqueued]
    exact List.mem_append_right _ (List.mem_cons_of_mem _ hrest)

end Machine

theorem LatestOther.mem {visits : List Name} (h : LatestOther visits current key) :
    key ∈ visits := by
  obtain ⟨_, before, after, rfl, _⟩ := h
  exact List.mem_append_right _ List.mem_cons_self

namespace Diagram

theorem Means.of_stateName (h : diagram.Means commands) (hkey : diagram.HasState key) :
    .of (diagram.stateName key) = key := by
  obtain ⟨state, hstate⟩ := Option.isSome_iff_exists.1 hkey
  rw [stateName, hstate, Option.elim_some, ← (h.state state (List.mem_of_find?_eq_some hstate)).key]
  exact key_of_state? hstate

theorem Means.of_eventName (h : diagram.Means commands) (hkey : diagram.HasEvent key) :
    .of (diagram.eventName key) = key := by
  obtain ⟨event, hevent⟩ := Option.isSome_iff_exists.1 hkey
  have hmem := List.mem_of_find?_eq_some hevent
  rw [h.events] at hmem
  obtain ⟨name, _, rfl⟩ := List.mem_map.1 hmem
  rw [eventName, hevent]
  exact key_of_event? hevent

theorem Means.stateName_inj (h : diagram.Means commands) (hkey : diagram.HasState key)
    (hother : diagram.HasState other) (hname : diagram.stateName key = diagram.stateName other) :
    key = other := by
  rw [← h.of_stateName hkey, ← h.of_stateName hother, hname]

theorem Means.eventName_inj (h : diagram.Means commands) (hkey : diagram.HasEvent key)
    (hother : diagram.HasEvent other) (hname : diagram.eventName key = diagram.eventName other) :
    key = other := by
  rw [← h.of_eventName hkey, ← h.of_eventName hother, hname]

end Diagram

structure Row.Declared (diagram : Diagram) (row : Row) : Prop where
  source : diagram.HasState row.source
  target : ∀ target, row.target = some target → diagram.HasState target
  event : ∀ event, row.trigger = .named event ∨ row.trigger = .back event → diagram.HasEvent event

theorem Diagram.Resolved.row {row : Row} (h : diagram.Resolved) (hrow : row ∈ diagram.table) :
    row.Declared diagram := by
  obtain ⟨state, hstate, hrow⟩ := List.mem_flatMap.1 hrow
  have hresolved := h.states state hstate
  constructor
  case source =>
    rw [State.source_of_mem_rows hrow]
    exact List.find?_isSome.2 ⟨state, hstate, by simp⟩
  case target =>
    intro target htarget
    rcases State.mem_rows.1 hrow with ⟨timed, htimed, rfl⟩ | ⟨entry, hentry, rfl⟩ | ⟨_, _, rfl⟩
    · cases htarget
      exact hresolved.timed timed htimed
    · cases htarget
      exact (hresolved.named entry hentry).2
    · cases htarget
  case event =>
    intro event hevent
    rcases State.mem_rows.1 hrow with ⟨_, _, rfl⟩ | ⟨entry, hentry, rfl⟩ | ⟨back, hback, rfl⟩
    · simp at hevent
    · obtain rfl : entry.1 = event := by simpa using hevent
      exact (hresolved.named entry hentry).1
    · obtain rfl : back = event := by simpa using hevent
      exact hresolved.back back hback

structure Transition.Declared (diagram : Diagram) (transition : Transition) : Prop where
  row : transition.row.Declared diagram
  target : diagram.HasState transition.target
  discarded : ∀ event ∈ transition.discarded, diagram.HasEvent event

namespace Course

theorem Reachable.declared_of_tick (hgraph : graph.Resolved) (h : course.Reachable graph)
    (htick : (course.machine.tick graph now ready).2.outcome = .transitioned transition) :
    transition.Declared graph.toDiagram := by
  obtain ⟨_, hrow, hdiscarded⟩ := Machine.tick_transition htick
  constructor
  case row => exact hgraph.row hrow
  case target =>
    have hafter := (h.declared hgraph).tick hgraph now ready
    have hcurrent :
        (course.machine.tick graph now ready).2.machine.current = transition.target := by
      have hlast := (h.next (.tick now ready)).remembers.current
      simpa [react_tick, htick, Outcome.target?] using hlast.symm
    rw [← hcurrent]
    exact hafter.current
  case discarded =>
    intro event hevent
    obtain ⟨state, hstate⟩ := (h.declared hgraph).inStep h.agrees
    apply (hgraph.of_state? hstate.declared).hasEvent
    exact (hstate.accepted event).1 (hstate.pending event (hdiscarded event hevent))

theorem Reachable.visited_of_tick (h : course.Reachable graph)
    (htick : (course.machine.tick graph now ready).2.outcome = .transitioned transition)
    (htrigger : transition.trigger = .back event) :
    transition.target ∈ course.visits.dropLast ∧ transition.target ≠ transition.source := by
  obtain ⟨hsource, _, _⟩ := Machine.tick_transition htick
  obtain ⟨source, target, _, discarded⟩ := transition
  obtain rfl : _ = Trigger.back event := htrigger
  obtain rfl : source = course.machine.current := hsource
  have hlatest := h.remembers.wayBack?_map_fst.1 (Machine.wayBack?_of_tick htick)
  obtain ⟨earlier, hvisits⟩ := List.getLast?_eq_some_iff.1 h.remembers.current
  have htarget := hlatest.mem
  rw [hvisits] at htarget
  rw [hvisits, List.dropLast_concat]
  exact ⟨by simpa [hlatest.1] using htarget, hlatest.1⟩

theorem Reachable.visits_finish_of_no_rows (h : course.Reachable graph)
    (hrows : ∀ row ∈ graph.table, row.source ≠ course.machine.current) (actions : List Action) :
    (course.finish graph actions).visits = course.visits := by
  induction actions using List.reverseRecOn with
  | nil => rfl
  | append_singleton actions action ih =>
    have hreachable := h.finish actions
    have hcurrent : (course.finish graph actions).machine.current = course.machine.current := by
      have hlast := hreachable.remembers.current
      rw [ih, h.remembers.current] at hlast
      exact (Option.some.inj hlast).symm
    rw [finish_concat, ← ih]
    generalize course.finish graph actions = course at hcurrent
    cases action with
    | submit name =>
      cases hresult : course.machine.submit graph name with
      | error failure => rw [react_of_error hresult]
      | ok receipt => rw [react_of_ok hresult]
    | tick now ready =>
      rw [react_tick]
      dsimp only
      cases houtcome : (course.machine.tick graph now ready).2.outcome with
      | idle => exact List.append_nil _
      | activating => exact List.append_nil _
      | transitioned transition =>
        obtain ⟨hsource, hrow, _⟩ := Machine.tick_transition houtcome
        have hrowSource : transition.row.source = transition.source := transition.source_row
        rw [← hcurrent, ← hsource, ← hrowSource] at hrows
        exact absurd rfl (hrows transition.row hrow)

/-- Every transition matches a line of the table, and a way back leads to another state visited
before. All names in lines and records are those of declared states and events, of which no two
share one. So a state from which no line leads is never left. -/
theorem transitions_in_table [Checksum] {earlier : List Fault}
    (h : course.Reachable (bindCommands commands earlier).1) :
    let graph := (bindCommands commands earlier).1
    (∀ now ready transition,
      (course.machine.tick graph now ready).2.outcome = .transitioned transition →
        let record := transition.record graph.toDiagram
        transition.source = course.machine.current ∧ transition.Declared graph.toDiagram ∧
          record.line ∈ graph.table.map (Row.line graph.toDiagram) ∧
          ∀ event, record.label = .back event →
            transition.target ∈ course.visits.dropLast ∧ record.target ≠ record.source) ∧
      (∀ row ∈ graph.table, row.Declared graph.toDiagram) ∧
      (∀ key other, graph.HasState key → graph.HasState other →
        graph.stateName key = graph.stateName other → key = other) ∧
      (∀ key other, graph.HasEvent key → graph.HasEvent other →
        graph.eventName key = graph.eventName other → key = other) ∧
      ((∀ line ∈ graph.table.map (Row.line graph.toDiagram),
          line.source ≠ graph.stateName course.machine.current) →
        ∀ actions, (course.finish graph actions).visits = course.visits) := by
  intro graph
  have hperformed : graph.toDiagram = performed commands := toDiagram_bindCommands commands earlier
  have hmeans : graph.Means commands := hperformed ▸ means_performed commands
  have hresolved : graph.Resolved := resolved_bindCommands commands earlier
  refine ⟨?ticks, fun _ => hresolved.row, fun _ _ => hmeans.stateName_inj,
    fun _ _ => hmeans.eventName_inj, ?stays⟩
  case ticks =>
    intro now ready transition htick record
    obtain ⟨hsource, hrow, _⟩ := Machine.tick_transition htick
    have hdeclared := h.declared_of_tick hresolved htick
    refine ⟨hsource, hdeclared, ?_, ?_⟩
    · rw [transition.line_record]
      exact List.mem_map_of_mem hrow
    · intro event hlabel
      obtain ⟨event, htrigger⟩ := Trigger.eq_back_of_label hlabel
      obtain ⟨hvisited, hne⟩ := h.visited_of_tick htick htrigger
      have hstate : graph.HasState transition.source :=
        transition.source_row ▸ hdeclared.row.source
      exact ⟨hvisited, mt (hmeans.stateName_inj hdeclared.target hstate) hne⟩
  case stays =>
    intro hlines
    apply h.visits_finish_of_no_rows
    intro row hrow hsource
    exact hlines _ (List.mem_map_of_mem hrow) (congrArg graph.stateName hsource)

theorem transitions_in_table_hall :
    let commands : List Command := [.make .state ["Hall"], .make .state ["Attic"],
      .make .event ["Go"], .make .defineStart ["hall"],
      .make .namedTransition ["Hall", "ATTIC", "go"], .make .backTransition ["attic", "Go"]]
    let graph := (bindCommands commands []).1
    ∃ machine, Machine.create graph = .ok machine ∧
      let course := (start machine).finish graph [.submit "go", .tick 0 true, .submit "go"]
      ∃ transition,
        (course.machine.tick graph 1 true).2.outcome = .transitioned transition ∧
          transition.record graph.toDiagram = ⟨"Attic", "Hall", .back "Go", []⟩ ∧
          (transition.record graph.toDiagram).line ∈ graph.table.map (Row.line graph.toDiagram) ∧
          transition.target ∈ course.visits.dropLast := by
  intro commands graph
  subst graph
  have hcreate : Machine.create (bindCommands commands []).1 =
      .ok ⟨⟨"hall"⟩, .entering, [], ⟨⟨"hall"⟩, [⟨"go"⟩], []⟩, none⟩ := by
    decide
  refine ⟨_, hcreate, ?_⟩
  intro course
  have hcourse : course.Reachable (bindCommands commands []).1 :=
    (Reachable.start hcreate).finish _
  have htick : (course.machine.tick (bindCommands commands []).1 1 true).2.outcome =
      .transitioned ⟨⟨"attic"⟩, ⟨"hall"⟩, .back ⟨"go"⟩, []⟩ := by
    decide
  have htable := (transitions_in_table hcourse).1 1 true _ htick
  exact ⟨_, htick, by decide, htable.2.2.1, (htable.2.2.2 "Go" (by decide)).1⟩

end Course

end SceneFlow
