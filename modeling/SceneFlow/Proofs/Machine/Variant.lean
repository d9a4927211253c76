import SceneFlow.Proofs.Binding.Variant
import SceneFlow.Proofs.Machine.Lockstep
import SceneFlow.Proofs.Machine.Table
import SceneFlow.Proofs.Machine.Timer

namespace SceneFlow

inductive Reply
  | idle
  | activating
  | transitioned (record : Record)
  | accepted
  | dropped
  | unknown
  deriving DecidableEq

structure Glimpse where
  reply : Reply
  call : Option Call
  state : String
  history : List String
  phase : Phase
  pending : Nat
  deriving DecidableEq

def Reaction.reply (diagram : Diagram) : Reaction → Reply
  | ticked _ .idle => .idle
  | ticked _ .activating => .activating
  | ticked _ (.transitioned transition) => .transitioned (transition.record diagram)
  | submitted (.ok .accepted) => .accepted
  | submitted (.ok .dropped) => .dropped
  | submitted (.error _) => .unknown

def Moment.glimpse (diagram : Diagram) (moment : Moment) : Glimpse where
  reply := moment.reaction.reply diagram
  call := moment.call?
  state := diagram.stateName moment.after.machine.current
  history := moment.after.machine.history.map diagram.stateName
  phase := moment.after.machine.phase
  pending := moment.after.machine.mailbox.pending.length

def Label.folded : Label → Label
  | timed seconds => .timed seconds
  | named event => .named (Text.lowerCase event)
  | back event => .back (Text.lowerCase event)

def Record.folded (record : Record) : Record where
  source := Text.lowerCase record.source
  target := Text.lowerCase record.target
  label := record.label.folded
  discarded := record.discarded.map Text.lowerCase

def Reply.folded : Reply → Reply
  | transitioned record => .transitioned record.folded
  | reply => reply

def Glimpse.folded (glimpse : Glimpse) : Glimpse :=
  { glimpse with
    reply := glimpse.reply.folded
    state := Text.lowerCase glimpse.state
    history := glimpse.history.map Text.lowerCase }

structure Diagram.Chimes (diagram other : Diagram) : Prop where
  state : ∀ key, Text.lowerCase (other.stateName key) = Text.lowerCase (diagram.stateName key)
  event : ∀ key, Text.lowerCase (other.eventName key) = Text.lowerCase (diagram.eventName key)

namespace Diagram

variable {diagram other : Diagram} {commands others : List Command}

theorem Means.lowerCase_stateName (h : diagram.Means commands) (key : Name) :
    Text.lowerCase (diagram.stateName key) =
      if (diagram.state? key).isSome then key.key else Text.lowerCase key.key := by
  split
  · next hstate => exact congrArg Name.key (h.of_stateName hstate)
  · next hstate =>
    rw [stateName, Option.not_isSome_iff_eq_none.1 hstate]
    rfl

theorem Means.lowerCase_eventName (h : diagram.Means commands) (key : Name) :
    Text.lowerCase (diagram.eventName key) =
      if (diagram.event? key).isSome then key.key else Text.lowerCase key.key := by
  split
  · next hevent => exact congrArg Name.key (h.of_eventName hevent)
  · next hevent =>
    rw [eventName, Option.not_isSome_iff_eq_none.1 hevent]
    rfl

theorem Means.chimes (h : diagram.Means commands) (hother : other.Means others)
    (hbare : other.bare = diagram.bare) : diagram.Chimes other where
  state key := by
    rw [hother.lowerCase_stateName, h.lowerCase_stateName, isSome_state?_of_bare_eq hbare]
  event key := by
    rw [hother.lowerCase_eventName, h.lowerCase_eventName, isSome_event?_of_bare_eq hbare]

theorem Chimes.record (h : diagram.Chimes other) (transition : Transition) :
    (transition.record other).folded = (transition.record diagram).folded := by
  obtain ⟨source, target, trigger, discarded⟩ := transition
  cases trigger <;>
    simp [Transition.record, Record.folded, Trigger.label, Label.folded, h.state, h.event]

theorem Chimes.glimpse (h : diagram.Chimes other) (moment : Moment) :
    (moment.glimpse other).folded = (moment.glimpse diagram).folded := by
  have hreply : (moment.reaction.reply other).folded = (moment.reaction.reply diagram).folded := by
    rcases moment.reaction with ⟨call, _ | _ | transition⟩ | ⟨_ | _ | _⟩
    case ticked.transitioned => exact congrArg Reply.transitioned (h.record transition)
    all_goals rfl
  simp [Moment.glimpse, Glimpse.folded, hreply, h.state]

end Diagram

namespace Course

theorem react_of_same {move other : Move} (h : move.Same other) (graph : Graph)
    (activator : Activator) (turn : Nat) (course : Course) (diagram : Diagram) :
    let moment := course.react graph (course.action graph activator turn move)
    let again := course.react graph (course.action graph activator turn other)
    again.after = moment.after ∧ again.glimpse diagram = moment.glimpse diagram := by
  cases h with
  | tick now => exact ⟨rfl, rfl⟩
  | @submit name other hname =>
    rcases Machine.submit_of_name_eq graph course.machine hname with hsame | ⟨hname, hother⟩
    · cases hresult : course.machine.submit graph name with
      | error failure =>
        rw [action, action, react_of_error hresult, react_of_error (hsame.trans hresult)]
        exact ⟨rfl, rfl⟩
      | ok receipt =>
        rw [action, action, react_of_ok hresult, react_of_ok (hsame.trans hresult)]
        exact ⟨rfl, rfl⟩
    · rw [action, action, react_of_error hname, react_of_error hother]
      exact ⟨rfl, rfl⟩

theorem play_of_same {moves others : List Move} (h : List.Forall₂ Move.Same moves others)
    (graph : Graph) (activator : Activator) (turn : Nat) (course : Course) (diagram : Diagram) :
    (course.play graph activator turn others).map (Moment.glimpse diagram) =
      (course.play graph activator turn moves).map (Moment.glimpse diagram) := by
  induction h generalizing turn course with
  | nil => rfl
  | cons hmove _ ih =>
    obtain ⟨hafter, hglimpse⟩ := react_of_same hmove graph activator turn course diagram
    simp only [play, List.map_cons, hglimpse, hafter, ih]

/-- Programs that differ in the case of names have graphs that differ in spellings and checksum, and
faults of the same kinds. If there is nothing wrong with them, their machines run in step: whatever
is done to them, by events that may differ in case as well, looks the same but for the case of
names. -/
theorem case_never_matters [Checksum] {commands others : List Command} {moves again : List Move}
    (h : List.Forall₂ Command.Variant commands others)
    (hmoves : List.Forall₂ Move.Same moves again) (earlier : List Fault) (activator : Activator) :
    let graph := (bindCommands commands earlier).1
    let variant := (bindCommands others earlier).1
    (bindCommands others earlier).2.map Fault.kind =
        (bindCommands commands earlier).2.map Fault.kind ∧
      variant.bare = graph.bare ∧
      Machine.create variant = Machine.create graph ∧
      ∀ machine, Machine.create graph = .ok machine →
        ((start machine).play variant activator 0 again).map (fun moment =>
            (moment.glimpse variant.toDiagram).folded) =
          ((start machine).play graph activator 0 moves).map fun moment =>
            (moment.glimpse graph.toDiagram).folded := by
  intro graph variant
  obtain ⟨hbare, hkinds⟩ := bindCommands_of_variants h earlier
  have hperformed : graph.toDiagram = performed commands := toDiagram_bindCommands commands earlier
  have hmeans : graph.Means commands := hperformed ▸ means_performed commands
  have hrespelled : variant.toDiagram = performed others := toDiagram_bindCommands others earlier
  have hother : variant.Means others := hrespelled ▸ means_performed others
  have hchimes : graph.Chimes variant.toDiagram :=
    hmeans.chimes hother (congrArg Graph.toDiagram hbare)
  refine ⟨hkinds, hbare, ?_, fun machine _ => ?_⟩
  · rw [← Machine.create_bare variant, hbare, Machine.create_bare]
  · have hplay := play_of_same hmoves graph activator 0 (start machine) graph.toDiagram
    have hfolded : (fun moment => (Moment.glimpse variant.toDiagram moment).folded) =
        fun moment => (Moment.glimpse graph.toDiagram moment).folded := funext hchimes.glimpse
    rw [← play_bare variant, hbare, play_bare, hfolded]
    simpa [Function.comp_def] using congrArg (List.map Glimpse.folded) hplay

theorem case_never_matters_hall :
    let commands : List Command := [.make .state ["Hall"], .make .state ["Attic"],
      .make .event ["Go"], .make .defineStart ["hall"],
      .make .namedTransition ["Hall", "ATTIC", "go"], .make .backTransition ["attic", "Go"]]
    let others : List Command := [.make .state ["HALL"], .make .state ["attic"],
      .make .event ["gO"], .make .defineStart ["Hall"],
      .make .namedTransition ["hall", "Attic", "GO"], .make .backTransition ["ATTIC", "go"]]
    let moves : List Move := [.submit "Go", .tick 0, .submit "go", .tick 1, .submit "Stay"]
    let again : List Move := [.submit "GO", .tick 0, .submit "gO", .tick 1, .submit "STAY"]
    let activator : Activator := ⟨fun _ _ => true, fun _ => []⟩
    let graph := (bindCommands commands []).1
    let variant := (bindCommands others []).1
    graph.isValid ∧ variant ≠ graph ∧
      ∃ machine, Machine.create graph = .ok machine ∧ Machine.create variant = .ok machine ∧
        ((start machine).play variant activator 0 again).map (fun moment =>
            (moment.glimpse variant.toDiagram).folded) =
          ((start machine).play graph activator 0 moves).map fun moment =>
            (moment.glimpse graph.toDiagram).folded := by
  intro commands others moves again activator graph variant
  have hcommands : List.Forall₂ Command.Variant commands others := by decide +kernel
  have hgo : Name.of "GO" = .of "Go" := by decide
  have hback : Name.of "gO" = .of "go" := by decide
  have hstay : Name.of "STAY" = .of "Stay" := by decide
  have hmoves : List.Forall₂ Move.Same moves again :=
    .cons (.submit hgo) (.cons (.tick 0) (.cons (.submit hback) (.cons (.tick 1)
      (.cons (.submit hstay) .nil))))
  have hcreate : Machine.create graph =
      .ok ⟨⟨"hall"⟩, .entering, [], ⟨⟨"hall"⟩, [⟨"go"⟩], []⟩, none⟩ := by
    decide
  obtain ⟨_, _, hvariant, hplay⟩ := case_never_matters hcommands hmoves [] activator
  exact ⟨by decide, by decide, _, hcreate, hvariant.trans hcreate, hplay _ hcreate⟩

end Course

end SceneFlow
