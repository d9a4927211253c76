import SceneFlow.Proofs.Binding.Tables

/-!
Resolved references. Whatever a bound diagram refers to by name is declared in it: commands that
refer to anything else do not fit, and declarations are never taken back.
-/

namespace SceneFlow

variable {diagram other : Diagram} {state : State} {key : Name} {command : Command}
  {argument : String}

theorem Name.mem_of_mem_insertEntry {α : Type} {name : Name} {value : α} {entry : Name × α}
    {entries : List (Name × α)} (h : entry ∈ insertEntry name value entries) :
    entry = (name, value) ∨ entry ∈ entries := by
  induction entries with
  | nil => exact .inl (List.mem_singleton.1 h)
  | cons other rest ih =>
    rw [insertEntry] at h
    split at h
    · exact List.mem_cons.1 h
    · split at h
      · exact (List.mem_cons.1 h).imp_right (List.mem_cons_of_mem other)
      · cases List.mem_cons.1 h with
        | inl hother => exact .inr (hother ▸ List.mem_cons_self)
        | inr hrest => exact (ih hrest).imp_right (List.mem_cons_of_mem other)

namespace Diagram

def HasState (diagram : Diagram) (key : Name) : Prop := (diagram.state? key).isSome

def HasEvent (diagram : Diagram) (key : Name) : Prop := (diagram.event? key).isSome

end Diagram

structure State.Resolved (diagram : Diagram) (state : State) : Prop where
  timed : ∀ timed, state.timed = some timed → diagram.HasState timed.target
  named : ∀ entry ∈ state.named, diagram.HasEvent entry.1 ∧ diagram.HasState entry.2
  back : ∀ event ∈ state.back, diagram.HasEvent event

structure Diagram.Resolved (diagram : Diagram) : Prop where
  start : ∀ key, diagram.start = some key → diagram.HasState key
  error : ∀ key, diagram.error = some key → diagram.HasState key
  states : ∀ state ∈ diagram.states, state.Resolved diagram

structure Diagram.Declares (diagram other : Diagram) : Prop where
  states : ∀ key, diagram.HasState key → other.HasState key
  events : ∀ key, diagram.HasEvent key → other.HasEvent key

namespace State

theorem resolved_declare (name : String) : (declare name).Resolved diagram where
  timed _ h := by cases h
  named _ h := by cases h
  back _ h := by cases h

theorem Resolved.mono (h : state.Resolved diagram) (hother : diagram.Declares other) :
    state.Resolved other where
  timed timed htimed := hother.states _ (h.timed timed htimed)
  named entry hentry := ⟨hother.events _ (h.named entry hentry).1,
    hother.states _ (h.named entry hentry).2⟩
  back event hevent := hother.events _ (h.back event hevent)

theorem Resolved.setResource (h : state.Resolved diagram) (resource : String) (additive : Bool) :
    { state with resource, additive }.Resolved diagram := ⟨h.timed, h.named, h.back⟩

theorem Resolved.setTimed (h : state.Resolved diagram) {timed : Timed}
    (htarget : diagram.HasState timed.target) :
    { state with timed := some timed }.Resolved diagram := by
  refine ⟨?_, h.named, h.back⟩
  intro other hother
  cases hother
  exact htarget

theorem Resolved.insertNamed (h : state.Resolved diagram) {event target : Name}
    (hevent : diagram.HasEvent event) (htarget : diagram.HasState target) :
    { state with named := Name.insertEntry event target state.named }.Resolved diagram := by
  refine ⟨h.timed, ?_, h.back⟩
  intro entry hentry
  cases Name.mem_of_mem_insertEntry hentry with
  | inl hnew =>
    rw [hnew]
    exact ⟨hevent, htarget⟩
  | inr hold => exact h.named entry hold

theorem Resolved.insertBack (h : state.Resolved diagram) {event : Name}
    (hevent : diagram.HasEvent event) :
    { state with back := Name.insert event state.back }.Resolved diagram := by
  refine ⟨h.timed, h.named, ?_⟩
  intro back hback
  cases Name.mem_insert.1 hback with
  | inl hnew => exact hnew ▸ hevent
  | inr hold => exact h.back back hold

end State

namespace Diagram

theorem state?_modifyState (diagram : Diagram) (key other : Name) {change : State → State}
    (h : ∀ state, (change state).key = state.key) :
    (diagram.modifyState key change).state? other
      = if other = key then (diagram.state? other).map change else diagram.state? other := by
  have hkey : ((fun state => decide (state.key = other)) ∘
      fun state => if state.key = key then change state else state)
        = fun state => decide (state.key = other) := by
    funext state
    by_cases hk : state.key = key
    · simp [hk, h]
    · simp [hk]
  simp only [state?, modifyState, List.find?_map, hkey]
  cases hf : diagram.states.find? fun state => decide (state.key = other) with
  | none => simp
  | some state =>
    have hfound := List.find?_some hf
    obtain rfl : state.key = other := of_decide_eq_true hfound
    by_cases hk : state.key = key
    · simp [hk]
    · simp [hk]

theorem declares_modifyState (diagram : Diagram) (key : Name) {change : State → State}
    (h : ∀ state, (change state).key = state.key) :
    diagram.Declares (diagram.modifyState key change) where
  states other hother := by
    rw [HasState, state?_modifyState diagram key other h]
    split
    · rwa [Option.isSome_map]
    · exact hother
  events _ hother := hother

theorem declares_addState (diagram : Diagram) (state : State) :
    diagram.Declares { diagram with states := diagram.states ++ [state] } where
  states key hkey := by
    simp only [HasState, state?, List.find?_append, Option.isSome_or] at hkey ⊢
    simp [hkey]
  events _ hkey := hkey

theorem declares_addEvent (diagram : Diagram) (event : Event) :
    diagram.Declares { diagram with events := diagram.events ++ [event] } where
  states _ hkey := hkey
  events key hkey := by
    simp only [HasEvent, event?, List.find?_append, Option.isSome_or] at hkey ⊢
    simp [hkey]

theorem declares_of_eq (hstates : other.states = diagram.states)
    (hevents : other.events = diagram.events) : diagram.Declares other where
  states key hkey := by rwa [HasState, state?, hstates]
  events key hkey := by rwa [HasEvent, event?, hevents]

theorem resolved_empty : empty.Resolved where
  start _ h := by cases h
  error _ h := by cases h
  states _ h := by cases h

theorem Resolved.modifyState (h : diagram.Resolved) {change : State → State}
    (hkey : ∀ state, (change state).key = state.key)
    (hchange : ∀ state, state.Resolved diagram → (change state).Resolved diagram) :
    (diagram.modifyState key change).Resolved := by
  have hdeclares := declares_modifyState diagram key hkey
  constructor
  · intro start hstart
    exact hdeclares.states _ (h.start start hstart)
  · intro error herror
    exact hdeclares.states _ (h.error error herror)
  · intro state hstate
    obtain ⟨before, hbefore, rfl⟩ := List.mem_map.1 hstate
    have hresolved := h.states before hbefore
    apply State.Resolved.mono _ hdeclares
    split
    · exact hchange before hresolved
    · exact hresolved

theorem Resolved.mono (h : diagram.Resolved) (hdeclares : diagram.Declares other)
    (hstart : ∀ key, other.start = some key → other.HasState key)
    (herror : ∀ key, other.error = some key → other.HasState key)
    (hstates : ∀ state ∈ other.states, state ∈ diagram.states ∨ state.Resolved other) :
    other.Resolved := by
  refine ⟨hstart, herror, ?_⟩
  intro state hstate
  cases hstates state hstate with
  | inl hold => exact (h.states state hold).mono hdeclares
  | inr hnew => exact hnew

theorem Resolved.addState (h : diagram.Resolved) (name : String) :
    { diagram with states := diagram.states ++ [State.declare name] }.Resolved := by
  have hdeclares := declares_addState diagram (.declare name)
  refine h.mono hdeclares ?_ ?_ ?_
  · exact fun key hkey => hdeclares.states key (h.start key hkey)
  · exact fun key hkey => hdeclares.states key (h.error key hkey)
  · intro state hstate
    apply (List.mem_append.1 hstate).imp_right
    intro hnew
    rw [List.mem_singleton.1 hnew]
    exact State.resolved_declare name

theorem Resolved.addEvent (h : diagram.Resolved) (name : String) :
    { diagram with events := diagram.events ++ [Event.declare name] }.Resolved :=
  h.mono (declares_addEvent diagram (.declare name)) h.start h.error fun _ => .inl

theorem Resolved.setStart (h : diagram.Resolved) (hkey : diagram.HasState key) :
    { diagram with start := some key }.Resolved := by
  refine h.mono (declares_of_eq rfl rfl) ?_ h.error fun _ => .inl
  intro start hstart
  cases hstart
  exact hkey

theorem Resolved.setError (h : diagram.Resolved) (hkey : diagram.HasState key) :
    { diagram with error := some key }.Resolved := by
  refine h.mono (declares_of_eq rfl rfl) h.start ?_ fun _ => .inl
  intro error herror
  cases herror
  exact hkey

theorem Resolved.setFlags (h : diagram.Resolved) (flags : LogFlags) :
    { diagram with flags }.Resolved :=
  h.mono (declares_of_eq rfl rfl) h.start h.error fun _ => .inl

theorem length_of_misfit? (h : diagram.misfit? command = none) :
    command.arguments.length = command.keyword.signature.length := by
  simp only [misfit?, Lookup.misfit?] at h
  split at h
  · cases h
  · next hlength => exact not_not.1 hlength

theorem fits_of_misfit? {kind : ArgumentKind} (h : diagram.misfit? command = none)
    (hplace : (kind, argument) ∈ command.keyword.signature.zip command.arguments) :
    diagram.lookup.argumentMisfit? kind argument = none := by
  simp only [misfit?, Lookup.misfit?] at h
  split at h
  · cases h
  · exact List.findSome?_eq_none_iff.1 h _ hplace

theorem hasState_of_fits (h : diagram.misfit? command = none)
    (hplace : (.state, argument) ∈ command.keyword.signature.zip command.arguments) :
    diagram.HasState (.of argument) :=
  (Lookup.argumentMisfit?_state_eq_none_iff.1 (fits_of_misfit? h hplace)).2

theorem hasEvent_of_fits (h : diagram.misfit? command = none)
    (hplace : (.event, argument) ∈ command.keyword.signature.zip command.arguments) :
    diagram.HasEvent (.of argument) :=
  (Lookup.argumentMisfit?_event_eq_none_iff.1 (fits_of_misfit? h hplace)).2

theorem Resolved.assign (h : diagram.Resolved) (hfits : diagram.misfit? command = none) :
    (diagram.assign command).Resolved := by
  rw [Diagram.assign, Command.directive?]
  -- One case for each form of a command; what is left over sets log switches.
  split
  case h_1 name _ _ =>
    rw [Option.elim_some, perform_state]
    split
    · exact h
    · exact h.addState name
  case h_2 name _ _ =>
    rw [Option.elim_some, perform_event]
    split
    · exact h
    · exact h.addEvent name
  case h_3 name hkeyword harguments =>
    exact h.setStart (hasState_of_fits hfits (by simp [hkeyword, harguments, Keyword.signature]))
  case h_4 name hkeyword harguments =>
    exact h.setError (hasState_of_fits hfits (by simp [hkeyword, harguments, Keyword.signature]))
  case h_5 name resource _ _ =>
    exact h.modifyState (fun _ => rfl) fun _ hstate => hstate.setResource resource false
  case h_6 name resource _ _ =>
    exact h.modifyState (fun _ => rfl) fun _ hstate => hstate.setResource resource true
  case h_7 name target time hkeyword harguments =>
    have htarget : diagram.HasState (.of target) :=
      hasState_of_fits hfits (by simp [hkeyword, harguments, Keyword.signature])
    cases Number.Binary64.ofLiteral? time with
    | some seconds => exact h.modifyState (fun _ => rfl) fun _ hstate => hstate.setTimed htarget
    | none => exact h
  case h_8 name target event hkeyword harguments =>
    have htarget : diagram.HasState (.of target) :=
      hasState_of_fits hfits (by simp [hkeyword, harguments, Keyword.signature])
    have hevent : diagram.HasEvent (.of event) :=
      hasEvent_of_fits hfits (by simp [hkeyword, harguments, Keyword.signature])
    exact h.modifyState (fun _ => rfl) fun _ hstate => hstate.insertNamed hevent htarget
  case h_9 name event hkeyword harguments =>
    have hevent : diagram.HasEvent (.of event) :=
      hasEvent_of_fits hfits (by simp [hkeyword, harguments, Keyword.signature])
    exact h.modifyState (fun _ => rfl) fun _ hstate => hstate.insertBack hevent
  case h_10 => exact h.setFlags _

end Diagram

theorem Draft.resolved_bindNext {draft : Draft} (command : Command)
    (h : draft.diagram.Resolved) : (draft.bindNext command).diagram.Resolved := by
  rw [bindNext]
  split
  · exact h
  · next hfits => exact h.assign hfits

theorem Draft.resolved_bindAll {draft : Draft} (commands : List Command)
    (h : draft.diagram.Resolved) : (commands.foldl bindNext draft).diagram.Resolved := by
  induction commands generalizing draft with
  | nil => exact h
  | cons command commands ih => exact ih (resolved_bindNext command h)

namespace Directive

def Grounded (diagram : Diagram) : Directive → Prop
  | .resource key _ _ | .timed key _ | .named key _ _ | .back key _ => diagram.HasState key
  | _ => True

end Directive

/-- A fitting command has a directive, which fills the same slots and is about a declared state. -/
theorem Command.directive?_of_misfit? (h : diagram.misfit? command = none) :
    ∃ directive, command.directive? = some directive ∧ command.slots = directive.slots ∧
      directive.Grounded diagram := by
  have hlength := Diagram.length_of_misfit? h
  obtain ⟨word, arguments, keyword, line⟩ := command
  cases keyword
  case state =>
    obtain ⟨name, rfl⟩ := List.length_eq_one_iff.1 hlength
    exact ⟨.state name, rfl, rfl, trivial⟩
  case event =>
    obtain ⟨name, rfl⟩ := List.length_eq_one_iff.1 hlength
    exact ⟨.event name, rfl, rfl, trivial⟩
  case defineStart =>
    obtain ⟨state, rfl⟩ := List.length_eq_one_iff.1 hlength
    exact ⟨.start (.of state), rfl, rfl, trivial⟩
  case defineError =>
    obtain ⟨state, rfl⟩ := List.length_eq_one_iff.1 hlength
    exact ⟨.error (.of state), rfl, rfl, trivial⟩
  case loadScene =>
    obtain ⟨state, resource, rfl⟩ := List.length_eq_two.1 hlength
    have hstate : diagram.HasState (.of state) := Diagram.hasState_of_fits h List.mem_cons_self
    exact ⟨.resource (.of state) resource false, rfl, rfl, hstate⟩
  case loadSceneAdditive =>
    obtain ⟨state, resource, rfl⟩ := List.length_eq_two.1 hlength
    have hstate : diagram.HasState (.of state) := Diagram.hasState_of_fits h List.mem_cons_self
    exact ⟨.resource (.of state) resource true, rfl, rfl, hstate⟩
  case timedTransition =>
    obtain ⟨state, target, time, rfl⟩ := List.length_eq_three.1 hlength
    have hstate : diagram.HasState (.of state) := Diagram.hasState_of_fits h List.mem_cons_self
    have htime := Diagram.fits_of_misfit? h (List.mem_of_getLast? rfl)
    cases hseconds : Number.Binary64.ofLiteral? time with
    | none => simp [Lookup.argumentMisfit?, hseconds] at htime
    | some seconds =>
      exact ⟨.timed (.of state) ⟨.of target, seconds⟩, by simp [directive?, hseconds], rfl, hstate⟩
  case namedTransition =>
    obtain ⟨state, target, event, rfl⟩ := List.length_eq_three.1 hlength
    have hstate : diagram.HasState (.of state) := Diagram.hasState_of_fits h List.mem_cons_self
    exact ⟨.named (.of state) (.of target) (.of event), rfl, rfl, hstate⟩
  case backTransition =>
    obtain ⟨state, event, rfl⟩ := List.length_eq_two.1 hlength
    have hstate : diagram.HasState (.of state) := Diagram.hasState_of_fits h List.mem_cons_self
    exact ⟨.back (.of state) (.of event), rfl, rfl, hstate⟩
  all_goals exact ⟨.switches _, rfl, rfl, trivial⟩

theorem resolved_bindCommands [Checksum] (commands : List Command) (earlier : List Fault) :
    (bindCommands commands earlier).1.toDiagram.Resolved := by
  rw [bindCommands_eq]
  exact Draft.resolved_bindAll (schedule commands) Diagram.resolved_empty

namespace Program

theorem resolved_compile [Checksum] (source : String) : (compile source).graph.toDiagram.Resolved :=
  resolved_bindCommands _ _

theorem errors_compile [Checksum] (source : String) :
    (compile source).graph.errors = (compile source).faults.length := rfl

end Program

end SceneFlow
