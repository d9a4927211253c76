import SceneFlow.Proofs.Binding.Meaning

namespace SceneFlow

variable {α : Type} {diagram : Diagram} {commands : List Command} {command : Command} {key : Name}
  {tables : Tables}

/-- Entries by name and an order of the names, with the items that are listed and found by them:
each entry is filed under the name that its spelling gives, each name is there once, and the items
are what the names lead to, with none of them skipped. -/
structure Indexed (spelling : α → String) (entries : List (Name × α)) (order : List Name)
    (items : List α) (find? : Name → Option α) : Prop where
  spelled : ∀ entry ∈ entries, entry.1 = .of (spelling entry.2)
  distinct : (entries.map Prod.fst).Nodup
  once : order.Nodup
  listed : ∀ name, name ∈ order ↔ (entries.lookup name).isSome
  unskipped : order.map (fun name => entries.lookup name) = items.map some
  found : ∀ name, find? name = entries.lookup name

/-- A delay that is not cut off. -/
structure Timed.Exact (timed : Timed) : Prop where
  finite : timed.seconds.isFiniteNonNegative
  delay : timed.seconds.delay? = some timed.delay

namespace Filed

variable {key : α → Name} {spelling : α → String} {entries : List (Name × α)} {order : List Name}

theorem mem_listed (h : Filed key entries order) {entry : Name × α} (hentry : entry ∈ entries) :
    entry.2 ∈ order.filterMap fun name => entries.lookup name := by
  have hlookup := (Name.lookup_eq_some_iff h.distinct).2 hentry
  exact List.mem_filterMap.2
    ⟨entry.1, (h.mem_order_iff entry.1).2 (Option.isSome_of_eq_some hlookup), hlookup⟩

theorem indexed (h : Filed key entries order)
    (hkey : ∀ item ∈ order.filterMap fun name => entries.lookup name,
      key item = .of (spelling item)) :
    Indexed spelling entries order (order.filterMap fun name => entries.lookup name) fun name =>
      (order.filterMap fun name => entries.lookup name).find? fun item => key item = name where
  spelled entry hentry := by rw [← h.keyed entry hentry, hkey _ (h.mem_listed hentry)]
  distinct := h.distinct
  once := h.once
  listed := h.mem_order_iff
  unskipped := h.map_lookup
  found := h.find?_filterMap

end Filed

namespace Tables

def stateReferences (tables : Tables) : List Name :=
  tables.start.toList ++ tables.error.toList ++ tables.states.flatMap fun (_, state) =>
    (state.timed.map Timed.target).toList ++ state.named.map Prod.snd

def eventReferences (tables : Tables) : List Name :=
  tables.states.flatMap fun (_, state) => state.accepted

namespace Shows

theorem mem_states (h : tables.Shows diagram) {entry : Name × State}
    (hentry : entry ∈ tables.states) : entry.2 ∈ diagram.states := by
  rw [← h.diagram]
  exact h.states.mem_listed hentry

theorem hasState (h : tables.Shows diagram) (hresolved : diagram.Resolved)
    (hkey : key ∈ tables.stateReferences) : diagram.HasState key := by
  rcases List.mem_append.1 hkey with hmarked | hheld
  · rcases List.mem_append.1 hmarked with hstart | herror
    · exact hresolved.start key (h.diagram ▸ Option.mem_toList.1 hstart)
    · exact hresolved.error key (h.diagram ▸ Option.mem_toList.1 herror)
  · obtain ⟨entry, hentry, hkey⟩ := List.mem_flatMap.1 hheld
    have hstate := hresolved.states entry.2 (h.mem_states hentry)
    rcases List.mem_append.1 hkey with htarget | hnamed
    · obtain ⟨timed, htimed, rfl⟩ := Option.map_eq_some_iff.1 (Option.mem_toList.1 htarget)
      exact hstate.timed timed htimed
    · obtain ⟨entry, hentry, rfl⟩ := List.mem_map.1 hnamed
      exact (hstate.named entry hentry).2

theorem hasEvent (h : tables.Shows diagram) (hresolved : diagram.Resolved)
    (hkey : key ∈ tables.eventReferences) : diagram.HasEvent key := by
  obtain ⟨entry, hentry, hkey⟩ := List.mem_flatMap.1 hkey
  have hstate := hresolved.states entry.2 (h.mem_states hentry)
  rcases List.mem_append.1 hkey with hnamed | hback
  · obtain ⟨entry, hentry, rfl⟩ := List.mem_map.1 hnamed
    exact (hstate.named entry hentry).1
  · exact hstate.back key hback

theorem nodup_states (h : tables.Shows diagram) : (diagram.states.map State.key).Nodup := by
  rw [← h.diagram]
  exact h.states.map_key.symm ▸ h.states.once

theorem nodup_events (h : tables.Shows diagram) : (diagram.events.map Event.key).Nodup := by
  rw [← h.diagram]
  exact h.events.map_key.symm ▸ h.events.once

end Shows

end Tables

theorem shows_bindCommands [Checksum] (commands : List Command) (earlier : List Fault) :
    (bindAll commands earlier).tables.Shows (bindCommands commands earlier).1.toDiagram := by
  rw [bindCommands_eq]
  exact (shows_bindAll commands earlier).tables

theorem firstSpellings_subset (names : List String) : firstSpellings names ⊆ names :=
  match names with
  | [] => by simp [firstSpellings]
  | name :: names => by
    rw [firstSpellings_cons]
    exact List.cons_subset_cons name
      (List.Subset.trans (firstSpellings_subset _) List.filter_sublist.subset)
termination_by names.length
decreasing_by exact Nat.lt_succ_of_le (List.length_filter_le _ _)

theorem isIdentifier_of_mem_states [Checksum] {state : State} {earlier : List Fault}
    (h : state ∈ (bindCommands commands earlier).1.states) : isIdentifier state.name := by
  have hnames : (performed commands).states.map State.name =
      firstSpellings (declarations .state commands) := (means_performed commands).states
  have hname : state.name ∈ (performed commands).states.map State.name := by
    rw [← toDiagram_bindCommands commands earlier]
    exact List.mem_map_of_mem h
  rw [hnames] at hname
  obtain ⟨command, _, hdeclared⟩ := List.mem_filterMap.1 (firstSpellings_subset _ hname)
  exact (Command.declared?_eq_some_iff.1 hdeclared).2.2

namespace Diagram

theorem Means.key_of_mem_events (h : diagram.Means commands) :
    ∀ event ∈ diagram.events, event.key = .of event.name := by
  rw [h.events]
  exact List.forall_mem_map.2 fun _ _ => rfl

end Diagram

theorem mem_directives {directive : Directive} :
    directive ∈ directives commands ↔
      ∃ command ∈ commands, command.fits commands ∧ command.directive? = some directive := by
  simp [directives, and_assoc]

theorem mem_of_latest {value? : Directive → Option α} {directives : List Directive} {value : α}
    (h : latest value? directives = some value) :
    ∃ directive ∈ directives, value? directive = some value :=
  List.mem_filterMap.1 (List.mem_of_getLast? h)

namespace Command

theorem length_of_fits (h : command.fits commands) :
    command.arguments.length = command.keyword.signature.length :=
  of_decide_eq_true (Bool.and_eq_true_iff.1 h).1

theorem exact_of_fits {timed : Timed} (hfits : command.fits commands)
    (h : command.directive? = some (.timed key timed)) : timed.Exact := by
  have hkeyword : command.keyword = .timedTransition := saidBy_of_directive? h
  have hlength := length_of_fits hfits
  obtain ⟨word, arguments, keyword, line⟩ := command
  obtain rfl : keyword = .timedTransition := hkeyword
  obtain ⟨state, target, time, rfl⟩ := List.length_eq_three.1 hlength
  obtain ⟨seconds, hseconds, hdirective⟩ := Option.map_eq_some_iff.1 h
  cases hdirective
  have hplaces := List.all_eq_true.1 (Bool.and_eq_true_iff.1 hfits).2
  have htime : ArgumentKind.time.fits commands time := hplaces _ (List.mem_of_getLast? rfl)
  simp only [ArgumentKind.fits, hseconds, Option.any_some, Bool.and_eq_true] at htime
  obtain ⟨delay, hdelay⟩ := Option.isSome_iff_exists.1 htime.2
  exact ⟨htime.1, by rw [Timed.delay, hdelay, Option.getD_some]⟩

theorem start_of_fits (hfits : command.fits commands) (hkeyword : command.keyword = .defineStart) :
    ∃ key, command.directive? = some (.start key) := by
  have hlength := length_of_fits hfits
  rw [hkeyword] at hlength
  obtain ⟨state, harguments⟩ := List.length_eq_one_iff.1 hlength
  exact ⟨.of state, by simp [directive?, hkeyword, harguments]⟩

end Command

namespace Diagram

theorem Means.exact (h : diagram.Means commands) {state : State} {timed : Timed}
    (hstate : state ∈ diagram.states) (htimed : state.timed = some timed) : timed.Exact := by
  rw [(h.state state hstate).timed] at htimed
  obtain ⟨directive, hmem, hvalue⟩ := mem_of_latest htimed
  obtain ⟨command, _, hfits, hdirective⟩ := mem_directives.1 hmem
  cases directive with
  | timed other transition =>
    obtain ⟨_, hsame⟩ := Option.ite_none_right_eq_some.1 hvalue
    cases hsame
    exact Command.exact_of_fits hfits hdirective
  | state _ | event _ | start _ | error _ | switches _ | resource _ _ _ | named _ _ _
  | back _ _ => cases hvalue

theorem Means.isSome_start (h : diagram.Means commands) :
    diagram.start.isSome ↔
      ∃ command ∈ commands, command.keyword = .defineStart ∧ command.fits commands := by
  rw [h.start]
  constructor
  · intro hsome
    obtain ⟨key, hlatest⟩ := Option.isSome_iff_exists.1 hsome
    obtain ⟨directive, hmem, hvalue⟩ := mem_of_latest hlatest
    obtain ⟨command, hcommand, hfits, hdirective⟩ := mem_directives.1 hmem
    cases directive with
    | start other => exact ⟨command, hcommand, Command.saidBy_of_directive? hdirective, hfits⟩
    | state _ | event _ | error _ | switches _ | resource _ _ _ | timed _ _ | named _ _ _
    | back _ _ => cases hvalue
  · rintro ⟨command, hcommand, hkeyword, hfits⟩
    obtain ⟨key, hdirective⟩ := Command.start_of_fits hfits hkeyword
    have hmem := mem_directives.2 ⟨command, hcommand, hfits, hdirective⟩
    have hvalue : key ∈ (directives commands).filterMap Directive.start? :=
      List.mem_filterMap.2 ⟨_, hmem, rfl⟩
    exact List.getLast?_isSome.2 (List.ne_nil_of_mem hvalue)

theorem Resolved.isSome_startState? (h : diagram.Resolved) :
    diagram.startState?.isSome ↔ diagram.start.isSome := by
  rw [startState?]
  cases hstart : diagram.start with
  | none => rfl
  | some key =>
    have hfound : (diagram.state? key).isSome := h.start key hstart
    rw [Option.bind_some, hfound, Option.isSome_some]

end Diagram

/-- Whatever the commands are, the states and events that are bound are indexed by name, all that
the tables refer to is found in them and shown as it was declared, no delay is cut off, and there is
a start state unless no command that would set one fits. -/
theorem references_resolved [Checksum] (commands : List Command) (earlier : List Fault) :
    let tables := (bindAll commands earlier).tables
    let diagram := (bindCommands commands earlier).1.toDiagram
    Indexed State.name tables.states tables.stateOrder diagram.states diagram.state? ∧
      Indexed Event.name tables.events tables.eventOrder diagram.events diagram.event? ∧
      (∀ key ∈ tables.stateReferences,
        ∃ state, tables.state? key = some state ∧ diagram.stateName key = state.name) ∧
      (∀ key ∈ tables.eventReferences,
        ∃ event, tables.event? key = some event ∧ diagram.eventName key = event.name) ∧
      (∀ entry ∈ tables.states, ∀ timed, entry.2.timed = some timed → timed.Exact) ∧
      (diagram.startState? = none ↔
        ∀ command ∈ commands, command.keyword = .defineStart → ¬ command.fits commands) := by
  intro tables diagram
  have hshows : tables.Shows diagram := shows_bindCommands commands earlier
  have hperformed : diagram = performed commands := toDiagram_bindCommands commands earlier
  have hmeans : diagram.Means commands := hperformed ▸ means_performed commands
  have hresolved : diagram.Resolved := resolved_bindCommands commands earlier
  refine ⟨?_, ?_, ?_, ?_, ?_, ?_⟩
  · exact hshows.states.indexed fun state hstate => (hmeans.state state hstate).key
  · exact hshows.events.indexed hmeans.key_of_mem_events
  · intro key hkey
    obtain ⟨state, hstate⟩ := Option.isSome_iff_exists.1 (hshows.hasState hresolved hkey)
    refine ⟨state, (hshows.state? key).symm.trans hstate, ?_⟩
    rw [Diagram.stateName, hstate, Option.elim_some]
  · intro key hkey
    obtain ⟨event, hevent⟩ := Option.isSome_iff_exists.1 (hshows.hasEvent hresolved hkey)
    refine ⟨event, (hshows.event? key).symm.trans hevent, ?_⟩
    rw [Diagram.eventName, hevent, Option.elim_some]
  · intro entry hentry timed
    exact hmeans.exact (hshows.mem_states hentry)
  · rw [← Option.not_isSome_iff_eq_none, hresolved.isSome_startState?, hmeans.isSome_start]
    simp only [not_exists, not_and]

theorem references_resolved_hall :
    let commands : List Command := [.make .state ["Hall"], .make .state ["Attic"],
      .make .state ["HALL"], .make .event ["Go"], .make .defineStart ["hall", "attic"],
      .make .timedTransition ["hall", "ATTIC", "1.5"],
      .make .namedTransition ["Attic", "Cellar", "go"], .make .backTransition ["attic", "GO"]]
    let tables := (bindAll commands []).tables
    let diagram := (bindCommands commands []).1.toDiagram
    tables.stateOrder = [⟨"hall"⟩, ⟨"attic"⟩] ∧
      tables.states.map Prod.fst = [⟨"attic"⟩, ⟨"hall"⟩] ∧
      tables.stateReferences = [⟨"attic"⟩] ∧ tables.eventReferences = [⟨"go"⟩] ∧
      (∃ state, tables.state? ⟨"attic"⟩ = some state ∧
        diagram.stateName ⟨"attic"⟩ = state.name) ∧
      (∃ event, tables.event? ⟨"go"⟩ = some event ∧ diagram.eventName ⟨"go"⟩ = event.name) ∧
      diagram.startState? = none := by
  intro commands tables diagram
  have hfacts : (tables.stateOrder = [⟨"hall"⟩, ⟨"attic"⟩] ∧
      tables.states.map Prod.fst = [⟨"attic"⟩, ⟨"hall"⟩]) ∧
      tables.stateReferences = [⟨"attic"⟩] ∧ tables.eventReferences = [⟨"go"⟩] ∧
      ∀ command ∈ commands, command.keyword = .defineStart → ¬ command.fits commands := by
    decide +kernel
  obtain ⟨⟨horder, hkeys⟩, hstates, hevents, hstart⟩ := hfacts
  obtain ⟨_, _, hstate, hevent, _, hnone⟩ := references_resolved commands []
  exact ⟨horder, hkeys, hstates, hevents, hstate _ (hstates ▸ List.mem_singleton_self _),
    hevent _ (hevents ▸ List.mem_singleton_self _), hnone.2 hstart⟩

end SceneFlow
