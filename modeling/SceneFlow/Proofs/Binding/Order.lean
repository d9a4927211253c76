import Mathlib.Data.List.Sort
import SceneFlow.Proofs.Binding.Faults
import SceneFlow.Proofs.Binding.References

/-!
Order. Commands that are bound without faults are judged by all declarations, wherever these stand,
and no two of them fill the same slot, so none overwrites what another fills. In another order they
are bound without faults as well, and to the same graph, except that its states and events are
listed as they are declared then.
-/

namespace SceneFlow

variable {α : Type} {commands others : List Command} {command : Command} {keyword : Keyword}
  {state other : State} {several again : List Directive} {value? : Directive → Option α}
  {items : List α} {slot : Slot} {name : Name}

/-- Commands that fit, no two of which fill the same slot. -/
structure Faultless (commands : List Command) : Prop where
  fits : ∀ command ∈ commands, command.fits commands
  once : ∀ slot, (fillers commands slot commands).length ≤ 1

theorem faultless_iff [Checksum] (commands : List Command) :
    (bindCommands commands []).2 = [] ↔ Faultless commands := by
  obtain ⟨told, hfaults, htold⟩ := areFaultsOf_bindCommands commands []
  rw [hfaults, List.nil_append, htold.eq_nil_iff]
  exact ⟨fun ⟨hfits, honce⟩ => ⟨hfits, honce⟩, fun h => ⟨h.fits, h.once⟩⟩

section

variable (hperm : others.Perm commands)
include hperm

theorem declarations_of_perm (keyword : Keyword) :
    (declarations keyword others).Perm (declarations keyword commands) :=
  hperm.filterMap _

theorem ArgumentKind.fits_of_perm (kind : ArgumentKind) (argument : String) :
    kind.fits others argument = kind.fits commands argument := by
  cases kind with
  | identifier | time => rfl
  | state => rw [fits, fits, (declarations_of_perm hperm .state).any_eq]
  | event => rw [fits, fits, (declarations_of_perm hperm .event).any_eq]

theorem Command.fits_of_perm (command : Command) :
    command.fits others = command.fits commands := by
  simp only [fits, ArgumentKind.fits_of_perm hperm]

theorem fillers_of_perm (slot : Slot) :
    (fillers others slot others).Perm (fillers commands slot commands) := by
  simp only [fillers, Command.fits_of_perm hperm]
  exact hperm.filter _

theorem directives_of_perm : (directives others).Perm (directives commands) := by
  simp only [directives, Command.fits_of_perm hperm]
  exact (hperm.filter _).filterMap _

theorem Faultless.of_perm (h : Faultless commands) : Faultless others where
  fits command hcommand := by
    rw [Command.fits_of_perm hperm]
    exact h.fits command (hperm.mem_iff.1 hcommand)
  once slot := by
    rw [(fillers_of_perm hperm slot).length_eq]
    exact h.once slot

end

theorem Command.isSome_directive?_bind (command : Command)
    (hvalue : ∀ directive, (value? directive).isSome ↔ slot ∈ directive.slots) :
    (command.directive?.bind value?).isSome ↔ slot ∈ command.filled := by
  rw [filled]
  cases command.directive? with
  | none => simp
  | some directive => exact hvalue directive

theorem length_filterMap_directives
    (hvalue : ∀ directive, (value? directive).isSome ↔ slot ∈ directive.slots) :
    ((directives commands).filterMap value?).length = (fillers commands slot commands).length := by
  rw [directives, List.filterMap_filterMap, List.length_filterMap_eq_countP, List.countP_filter,
    fillers, ← List.countP_eq_length_filter]
  apply List.countP_congr
  intro command _
  rw [Bool.and_comm, Bool.and_eq_true, Bool.and_eq_true, decide_eq_true_eq]
  exact and_congr_right fun _ => command.isSome_directive?_bind hvalue

theorem latest_of_perm (hperm : again.Perm several)
    (honce : (several.filterMap value?).length ≤ 1) :
    latest value? again = latest value? several := by
  have hvalues := hperm.filterMap value?
  have hsame : again.filterMap value? = several.filterMap value? := by
    generalize again.filterMap value? = values, several.filterMap value? = given at hvalues honce
    match given, honce with
    | [], _ => exact hvalues.eq_nil
    | [_], _ => exact List.perm_singleton.1 hvalues
  rw [latest, latest, hsame]

theorem Faultless.latest_of_perm (h : Faultless commands) (hperm : others.Perm commands)
    (hvalue : ∀ directive, (value? directive).isSome ↔ slot ∈ directive.slots) :
    latest value? (directives others) = latest value? (directives commands) := by
  apply SceneFlow.latest_of_perm (directives_of_perm hperm)
  rw [length_filterMap_directives hvalue]
  exact h.once slot

theorem State.Means.of_perm (hstate : state.Means (directives others)) (h : Faultless commands)
    (hperm : others.Perm commands) : state.Means (directives commands) := by
  have hresource : latest (Directive.resource? state.key) (directives others) =
      latest (Directive.resource? state.key) (directives commands) :=
    h.latest_of_perm hperm Directive.isSome_resource?
  exact
    { hstate with
      resource := hresource ▸ hstate.resource
      additive := hresource ▸ hstate.additive
      timed := h.latest_of_perm hperm Directive.isSome_timed? ▸ hstate.timed
      named := fun event =>
        h.latest_of_perm hperm Directive.isSome_target? ▸ hstate.named event
      back := fun event => (hstate.back event).trans (directives_of_perm hperm).mem_iff }

namespace Name

theorem not_before_self (name : Name) : ¬ name.before name := by
  simp [before]

theorem nodup_of_ascending {key : α → Name}
    (h : items.Pairwise fun item other => (key item).before (key other)) :
    (items.map key).Nodup := by
  rw [List.Nodup, List.pairwise_map]
  refine h.imp fun hbefore hsame => ?_
  rw [hsame] at hbefore
  exact not_before_self _ hbefore

theorem eq_of_ascending {key : α → Name} {given : List α}
    (h : items.Pairwise fun item other => (key item).before (key other))
    (hgiven : given.Pairwise fun item other => (key item).before (key other))
    (hmem : ∀ item, item ∈ items ↔ item ∈ given) : items = given := by
  have hperm : items.Perm given :=
    (List.perm_ext_iff_of_nodup (nodup_of_ascending h).of_map (nodup_of_ascending hgiven).of_map).2
      hmem
  refine hperm.eq_of_pairwise (fun _ _ _ _ hbefore hafter => ?_) h hgiven
  exact absurd (before_trans hbefore hafter) (not_before_self _)

theorem mem_iff_lookup {entries : List (Name × α)} {value : α}
    (h : (entries.map Prod.fst).Nodup) :
    (name, value) ∈ entries ↔ entries.lookup name = some value := by
  induction entries with
  | nil => simp
  | cons first rest ih =>
    obtain ⟨key, held⟩ := first
    obtain ⟨hkey, hrest⟩ := List.nodup_cons.1 h
    by_cases hname : name = key
    · subst hname
      have hnot : (name, value) ∉ rest := fun hmem =>
        hkey (List.mem_map.2 ⟨(name, value), hmem, rfl⟩)
      simp [hnot, eq_comm]
    · have hother : (name == key) = false := beq_false_of_ne hname
      simp [List.lookup_cons, hname, hother, ih hrest]

theorem eq_of_lookup_eq {entries given : List (Name × α)}
    (h : (entries.map Prod.fst).Pairwise fun name other => name.before other)
    (hgiven : (given.map Prod.fst).Pairwise fun name other => name.before other)
    (hlookup : ∀ name, entries.lookup name = given.lookup name) : entries = given := by
  rw [List.pairwise_map] at h hgiven
  refine eq_of_ascending h hgiven fun entry => ?_
  rw [mem_iff_lookup (nodup_of_ascending h), mem_iff_lookup (nodup_of_ascending hgiven), hlookup]

end Name

theorem State.Means.unique (h : state.Means several) (hother : other.Means several)
    (hname : other.name = state.name) : other = state := by
  have hkey : other.key = state.key := by rw [h.key, hother.key, hname]
  have hnamed : other.named = state.named :=
    Name.eq_of_lookup_eq hother.namedAscend h.namedAscend fun event => by
      rw [h.named, hother.named, hkey]
  have hback : other.back = state.back :=
    @Name.eq_of_ascending _ _ id _ hother.backAscend h.backAscend fun event => by
      rw [h.back, hother.back, hkey]
  have hresource : other.resource = state.resource := by rw [h.resource, hother.resource, hkey]
  have hadditive : other.additive = state.additive := by rw [h.additive, hother.additive, hkey]
  have htimed : other.timed = state.timed := by rw [h.timed, hother.timed, hkey]
  cases state
  cases other
  simp_all

theorem Faultless.attachAll_of_perm (h : Faultless commands) (hperm : others.Perm commands)
    (name : String) :
    (State.declare name).attachAll (attached others) =
      (State.declare name).attachAll (attached commands) := by
  -- The directives are attached in another order, so what they mean is compared, not the steps.
  have hmeans := (State.means_attachAll (attached commands) name).of_attached
  have hagain := (State.means_attachAll (attached others) name).of_attached.of_perm h hperm
  apply hmeans.unique hagain
  rw [State.attachAll_name, State.attachAll_name]

theorem firstSpellings_of_nodup {names : List String} (h : (names.map Name.of).Nodup) :
    firstSpellings names = names := by
  induction names with
  | nil => rfl
  | cons name names ih =>
    obtain ⟨hname, hnames⟩ := List.nodup_cons.1 h
    have hall : ∀ other ∈ names, Name.of other ≠ .of name := fun other hother hsame =>
      hname (hsame ▸ List.mem_map_of_mem hother)
    rw [firstSpellings_cons, List.filter_eq_self.2 (by simpa using hall), ih hnames]

theorem Faultless.nodup_declarations (make : Name → Slot) (h : Faultless commands)
    (hsignature : keyword.signature = [.identifier])
    (hslots : ∀ (command : Command) (name : String), command.keyword = keyword →
      command.arguments = [name] → command.filled = [make (.of name)]) :
    ((declarations keyword commands).map Name.of).Nodup := by
  rw [List.nodup_iff_count_le_one]
  intro key
  refine le_trans ?_ (h.once (make key))
  rw [List.count_eq_countP, List.countP_map, declarations, List.countP_filterMap, fillers,
    ← List.countP_eq_length_filter]
  -- Every declaration of a name fills the one slot of that name.
  apply List.countP_mono_left
  intro command _ hdeclared
  cases hname : command.declared? keyword with
  | none => simp [hname] at hdeclared
  | some name =>
    have hkey : Name.of name = key := by simpa [hname] using hdeclared
    obtain ⟨hkeyword, harguments, _⟩ := Command.declared?_eq_some_iff.1 hname
    have hfits : command.fits commands :=
      (Command.fits_iff_of_signature hsignature hkeyword).2 ⟨name, hname⟩
    simp [hfits, hslots command name hkeyword harguments, hkey]

theorem Faultless.firstSpellings_state (h : Faultless commands) :
    firstSpellings (declarations .state commands) = declarations .state commands :=
  firstSpellings_of_nodup <| h.nodup_declarations .state rfl fun _ _ hkeyword harguments => by
    simp [Command.filled, Command.directive?, Directive.slots, hkeyword, harguments]

theorem Faultless.firstSpellings_event (h : Faultless commands) :
    firstSpellings (declarations .event commands) = declarations .event commands :=
  firstSpellings_of_nodup <| h.nodup_declarations .event rfl fun _ _ hkeyword harguments => by
    simp [Command.filled, Command.directive?, Directive.slots, hkeyword, harguments]

theorem find?_eq_some_iff_of_nodup {key : α → Name} {item : α} (h : (items.map key).Nodup) :
    (items.find? fun other => key other = name) = some item ↔ item ∈ items ∧ key item = name := by
  constructor
  · intro hfound
    have hname := List.find?_some hfound
    exact ⟨List.mem_of_find?_eq_some hfound, of_decide_eq_true hname⟩
  · rintro ⟨hitem, rfl⟩
    exact find?_of_nodup h hitem

theorem find?_of_perm {key : α → Name} {listed : List α} (h : (items.map key).Nodup)
    (hperm : listed.Perm items) (name : Name) :
    (listed.find? fun item => key item = name) = items.find? fun item => key item = name := by
  have hlisted : (listed.map key).Nodup := (hperm.map key).nodup_iff.2 h
  ext item
  rw [find?_eq_some_iff_of_nodup h, find?_eq_some_iff_of_nodup hlisted, hperm.mem_iff]

theorem LogFlags.eq_of_get {flags given : LogFlags} (h : ∀ flag, flags.get flag = given.get flag) :
    flags = given := by
  have hentry := h .stateEntry
  have hexit := h .stateExit
  have hloaded := h .sceneLoaded
  have htimed := h .timedTransitions
  have hnamed := h .namedTransitions
  have hback := h .backTransitions
  cases flags
  cases given
  simp_all [get]

namespace Faultless

variable (h : Faultless commands) (hperm : others.Perm commands)
include h hperm

theorem states_performed_of_perm : (performed others).states.Perm (performed commands).states := by
  rw [states_performed, states_performed, h.firstSpellings_state,
    (h.of_perm hperm).firstSpellings_state]
  simp only [h.attachAll_of_perm hperm]
  exact (declarations_of_perm hperm .state).map _

theorem events_performed_of_perm : (performed others).events.Perm (performed commands).events := by
  rw [(means_performed others).events, (means_performed commands).events, h.firstSpellings_event,
    (h.of_perm hperm).firstSpellings_event]
  exact (declarations_of_perm hperm .event).map _

theorem start_performed_of_perm : (performed others).start = (performed commands).start := by
  rw [(means_performed others).start, (means_performed commands).start,
    h.latest_of_perm hperm Directive.isSome_start?]

theorem error_performed_of_perm : (performed others).error = (performed commands).error := by
  rw [(means_performed others).error, (means_performed commands).error,
    h.latest_of_perm hperm Directive.isSome_error?]

end Faultless

theorem flags_performed_of_perm (hperm : others.Perm commands) :
    (performed others).flags = (performed commands).flags := by
  refine LogFlags.eq_of_get fun flag => ?_
  rw [Bool.eq_iff_iff, flag_performed, flag_performed]
  simp only [(directives_of_perm hperm).mem_iff]

/-- Commands that are bound without faults are so in any other order, wherever they refer to what is
declared later: to the same states and events by name, the same start, error and log switches. Only
the order in which states and events are listed follows that of their declarations. -/
theorem order_never_matters [Checksum] (hperm : others.Perm commands)
    (h : (bindCommands commands []).2 = []) :
    let bound := (bindCommands commands []).1
    let again := (bindCommands others []).1
    (bindCommands others []).2 = [] ∧
      (∀ key, again.state? key = bound.state? key) ∧
      (∀ key, again.event? key = bound.event? key) ∧
      again.states.Perm bound.states ∧ again.states.map State.name = declarations .state others ∧
      again.events.Perm bound.events ∧ again.events.map Event.name = declarations .event others ∧
      again.start = bound.start ∧ again.error = bound.error ∧ again.flags = bound.flags ∧
      again.errors = bound.errors := by
  intro bound again
  have hfaultless := (faultless_iff commands).1 h
  have hother := hfaultless.of_perm hperm
  have hnone : (bindCommands others []).2 = [] := (faultless_iff others).2 hother
  have hbound : bound.toDiagram = performed commands := toDiagram_bindCommands commands []
  have hagain : again.toDiagram = performed others := toDiagram_bindCommands others []
  have hmeans := means_performed others
  have hstates : again.states.Perm bound.states := by
    rw [hbound, hagain]
    exact hfaultless.states_performed_of_perm hperm
  have hevents : again.events.Perm bound.events := by
    rw [hbound, hagain]
    exact hfaultless.events_performed_of_perm hperm
  refine ⟨hnone, fun key => ?_, fun key => ?_, hstates, ?_, hevents, ?_, ?_, ?_, ?_, ?_⟩
  · exact find?_of_perm (shows_bindCommands commands []).nodup_states hstates key
  · exact find?_of_perm (shows_bindCommands commands []).nodup_events hevents key
  · rw [hagain, hmeans.states, hother.firstSpellings_state]
  · rw [hagain, hmeans.events, List.map_map, hother.firstSpellings_event]
    exact List.map_id _
  · rw [hagain, hbound, hfaultless.start_performed_of_perm hperm]
  · rw [hagain, hbound, hfaultless.error_performed_of_perm hperm]
  · rw [hagain, hbound, flags_performed_of_perm hperm]
  · rw [errors_bindCommands, errors_bindCommands, h, hnone]

theorem order_never_matters_forward :
    let commands : List Command := [.make .state ["Hall"], .make .state ["Attic"],
      .make .event ["Go"], .make .defineStart ["Hall"], .make .loadSceneAdditive ["Attic", "Lamp"],
      .make .namedTransition ["Hall", "Attic", "Go"], .make .backTransition ["Attic", "Go"],
      .make .logSceneLoaded []]
    (bindCommands commands []).2 = [] ∧ (bindCommands commands.reverse []).2 = [] ∧
      (bindCommands commands.reverse []).1.states.map State.name = ["Attic", "Hall"] ∧
      ∀ key, (bindCommands commands.reverse []).1.state? key =
        (bindCommands commands []).1.state? key := by
  intro commands
  have hvalid : (bindCommands commands []).2 = [] := by decide +kernel
  obtain ⟨hnone, hstate, _, _, hnames, _⟩ := order_never_matters commands.reverse_perm hvalid
  exact ⟨hvalid, hnone, hnames, hstate⟩

end SceneFlow
