import SceneFlow.Proofs.Binding.Resolved
import SceneFlow.Proofs.Binding.Schedule

/-!
Fitting commands. Which commands fit their signatures is settled by the declarations among all of
them, in whatever order they stand, for all declarations are bound before anything that refers to
them. So to bind commands is to perform the directives of those that fit.
-/

namespace SceneFlow

variable {commands more : List Command} {diagram : Diagram} {command : Command} {keyword : Keyword}
  {names : List String} {draft : Draft}

def Command.declared? (keyword : Keyword) (command : Command) : Option String :=
  match command.arguments with
  | [name] => if command.keyword = keyword ∧ isIdentifier name then some name else none
  | _ => none

def declarations (keyword : Keyword) (commands : List Command) : List String :=
  commands.filterMap (·.declared? keyword)

def firstSpellings (names : List String) : List String :=
  names.eraseDupsBy fun name other => Name.of name = Name.of other

def ArgumentKind.fits (commands : List Command) (argument : String) : ArgumentKind → Bool
  | identifier => isIdentifier argument
  | state =>
    isIdentifier argument && (declarations .state commands).any (Name.of · = Name.of argument)
  | event =>
    isIdentifier argument && (declarations .event commands).any (Name.of · = Name.of argument)
  | time =>
    (Number.Binary64.ofLiteral? argument).any fun seconds =>
      seconds.isFiniteNonNegative && seconds.delay?.isSome

def Command.fits (commands : List Command) (command : Command) : Bool :=
  decide (command.arguments.length = command.keyword.signature.length) &&
    (command.keyword.signature.zip command.arguments).all fun (kind, argument) =>
      kind.fits commands argument

def directives (commands : List Command) : List Directive :=
  (commands.filter (·.fits commands)).filterMap Command.directive?

/-- All that is declared anywhere among the commands is declared in the diagram. -/
structure Diagram.Sees (commands : List Command) (diagram : Diagram) : Prop where
  state : ∀ key, diagram.HasState key ↔ ∃ name ∈ declarations .state commands, .of name = key
  event : ∀ key, diagram.HasEvent key ↔ ∃ name ∈ declarations .event commands, .of name = key

namespace Diagram

theorem argumentMisfit?_eq_none_iff {kind : ArgumentKind} {argument : String}
    (h : kind = .state ∨ kind = .event → diagram.Sees commands) :
    diagram.lookup.argumentMisfit? kind argument = none ↔ kind.fits commands argument := by
  cases kind with
  | identifier => simp [Lookup.argumentMisfit?, ArgumentKind.fits]
  | state =>
    have hstate := (h (.inl rfl)).state (.of argument)
    rw [HasState] at hstate
    simp [Lookup.argumentMisfit?_state_eq_none_iff, ArgumentKind.fits, hstate]
  | event =>
    have hevent := (h (.inr rfl)).event (.of argument)
    rw [HasEvent] at hevent
    simp [Lookup.argumentMisfit?_event_eq_none_iff, ArgumentKind.fits, hevent]
  | time =>
    simp only [Lookup.argumentMisfit?, ArgumentKind.fits]
    cases Number.Binary64.ofLiteral? argument with
    | none => simp
    | some seconds =>
      cases hfinite : seconds.isFiniteNonNegative <;> cases hdelay : seconds.delay? <;>
        simp [hfinite, hdelay]

theorem misfit?_eq_none_iff
    (h : ∀ kind ∈ command.keyword.signature,
      kind = .state ∨ kind = .event → diagram.Sees commands) :
    diagram.misfit? command = none ↔ command.fits commands := by
  simp only [misfit?, Lookup.misfit?, Command.fits]
  by_cases hlength : command.arguments.length = command.keyword.signature.length
  · simp only [hlength, ne_eq, not_true_eq_false, if_false, decide_true, Bool.true_and,
      List.findSome?_eq_none_iff, List.all_eq_true]
    apply forall₂_congr
    rintro ⟨kind, argument⟩ hplace
    exact argumentMisfit?_eq_none_iff (h kind (List.of_mem_zip hplace).1)
  · simp [hlength]

def next (commands : List Command) (diagram : Diagram) (command : Command) : Diagram :=
  if command.fits commands then diagram.assign command else diagram

theorem foldl_next_eq_foldl_perform (commands : List Command) (several : List Command)
    (diagram : Diagram) :
    several.foldl (next commands) diagram =
      ((several.filter (·.fits commands)).filterMap Command.directive?).foldl perform diagram := by
  induction several generalizing diagram with
  | nil => rfl
  | cons command several ih =>
    rw [List.foldl_cons, ih, next]
    split
    · next hfits =>
      rw [List.filter_cons_of_pos (by simpa using hfits), assign]
      cases hdirective : command.directive? with
      | none => simp [hdirective]
      | some directive => simp [hdirective]
    · next hfits => rw [List.filter_cons_of_neg (by simpa using hfits)]

end Diagram

/-- Each command is found to fit, in its turn, exactly if it does. -/
inductive Judged (commands : List Command) : Diagram → List Command → Prop
  | nil {diagram : Diagram} : Judged commands diagram []
  | cons {diagram : Diagram} {command : Command} {rest : List Command} :
      (diagram.misfit? command = none ↔ command.fits commands) →
      Judged commands (diagram.next commands command) rest →
      Judged commands diagram (command :: rest)

theorem Judged.append {several : List Command} (h : Judged commands diagram several)
    (hmore : Judged commands (several.foldl (Diagram.next commands) diagram) more) :
    Judged commands diagram (several ++ more) := by
  induction h with
  | nil => exact hmore
  | cons hjudged _ ih => exact .cons hjudged (ih hmore)

theorem Draft.diagram_bindNext
    (hjudged : draft.diagram.misfit? command = none ↔ command.fits commands) :
    (draft.bindNext command).diagram = draft.diagram.next commands command := by
  rw [bindNext, Diagram.next]
  split
  · next reason hmisfit =>
    rw [hmisfit] at hjudged
    simp [← hjudged]
  · next hmisfit => rw [if_pos (hjudged.1 hmisfit)]

theorem Judged.diagram_foldl_bindNext {several : List Command}
    (h : Judged commands draft.diagram several) :
    (several.foldl Draft.bindNext draft).diagram =
      several.foldl (Diagram.next commands) draft.diagram := by
  generalize hdiagram : draft.diagram = diagram at h ⊢
  induction h generalizing draft with
  | nil => exact hdiagram
  | cons hjudged _ ih =>
    subst hdiagram
    exact ih (Draft.diagram_bindNext hjudged)

theorem exists_mem_foldl_declareAmong {α : Type} {declare : String → α} {key : α → Name}
    (hkey : ∀ name, key (declare name) = .of name) (names : List String) (items : List α)
    (wanted : Name) :
    (∃ item ∈ names.foldl (declareAmong declare key) items, key item = wanted) ↔
      (∃ item ∈ items, key item = wanted) ∨ ∃ name ∈ names, .of name = wanted := by
  induction names generalizing items with
  | nil => simp
  | cons name names ih =>
    rw [List.foldl_cons, ih, declareAmong]
    split
    · next hfound =>
      obtain ⟨item, hitem, hname⟩ := List.find?_isSome.1 hfound
      have hname : key item = .of name := of_decide_eq_true hname
      constructor
      · rintro (hold | ⟨other, hother, rfl⟩)
        · exact .inl hold
        · exact .inr ⟨other, List.mem_cons_of_mem name hother, rfl⟩
      · rintro (hold | ⟨other, hother, rfl⟩)
        · exact .inl hold
        · cases List.mem_cons.1 hother with
          | inl hsame => exact .inl ⟨item, hitem, hsame ▸ hname⟩
          | inr hlater => exact .inr ⟨other, hlater, rfl⟩
    · simp [hkey, or_and_right, exists_or, or_assoc]

theorem Diagram.hasState_iff {key : Name} :
    diagram.HasState key ↔ ∃ state ∈ diagram.states, state.key = key := by
  simp [HasState, state?, List.find?_isSome]

theorem Diagram.hasEvent_iff {key : Name} :
    diagram.HasEvent key ↔ ∃ event ∈ diagram.events, event.key = key := by
  simp [HasEvent, event?, List.find?_isSome]

theorem Diagram.foldl_perform_state (names : List String) (diagram : Diagram) :
    (names.map Directive.state).foldl perform diagram =
      { diagram with
        states := names.foldl (declareAmong State.declare State.key) diagram.states } := by
  induction names generalizing diagram with
  | nil => rfl
  | cons name names ih => exact ih _

theorem Diagram.foldl_perform_event (names : List String) (diagram : Diagram) :
    (names.map Directive.event).foldl perform diagram =
      { diagram with
        events := names.foldl (declareAmong Event.declare Event.key) diagram.events } := by
  induction names generalizing diagram with
  | nil => rfl
  | cons name names ih => exact ih _

theorem Command.declared?_eq_some_iff {name : String} :
    command.declared? keyword = some name ↔
      command.keyword = keyword ∧ command.arguments = [name] ∧ isIdentifier name := by
  rw [declared?]
  split
  · next other harguments =>
    simp only [harguments, Option.ite_none_right_eq_some, Option.some.injEq, List.cons.injEq,
      and_true]
    constructor
    · rintro ⟨⟨hkeyword, hidentifier⟩, rfl⟩
      exact ⟨hkeyword, rfl, hidentifier⟩
    · rintro ⟨hkeyword, rfl, hidentifier⟩
      exact ⟨⟨hkeyword, hidentifier⟩, rfl⟩
  · next harguments => simpa using fun _ hother => absurd hother (harguments name)

theorem Command.fits_iff_of_signature (hsignature : keyword.signature = [.identifier])
    (hkeyword : command.keyword = keyword) :
    command.fits commands ↔ ∃ name, command.declared? keyword = some name := by
  simp only [declared?_eq_some_iff, hkeyword, true_and]
  rw [fits, hkeyword, hsignature]
  constructor
  · intro h
    obtain ⟨hlength, hall⟩ := Bool.and_eq_true_iff.1 h
    obtain ⟨name, harguments⟩ := List.length_eq_one_iff.1 (of_decide_eq_true hlength)
    rw [harguments] at hall
    exact ⟨name, harguments, by simpa [ArgumentKind.fits] using hall⟩
  · rintro ⟨name, harguments, hidentifier⟩
    simp [harguments, ArgumentKind.fits, hidentifier]

theorem filterMap_directive?_declarations {make : String → Directive}
    (hsignature : keyword.signature = [.identifier])
    (hmake : ∀ (command : Command) (name : String), command.keyword = keyword →
      command.arguments = [name] → command.directive? = some (make name))
    (commands several : List Command) :
    ((several.filter (·.keyword = keyword)).filter (·.fits commands)).filterMap Command.directive? =
      (declarations keyword several).map make := by
  induction several with
  | nil => rfl
  | cons command several ih =>
    rw [declarations, List.filterMap_cons, ← declarations]
    cases hdeclared : command.declared? keyword with
    | some name =>
      obtain ⟨hkeyword, harguments, _⟩ := Command.declared?_eq_some_iff.1 hdeclared
      have hfits : command.fits commands :=
        (Command.fits_iff_of_signature hsignature hkeyword).2 ⟨name, hdeclared⟩
      rw [List.filter_cons_of_pos (by simpa using hkeyword), List.filter_cons_of_pos hfits,
        List.filterMap_cons_some (hmake command name hkeyword harguments), ih, List.map_cons]
    | none =>
      by_cases hkeyword : command.keyword = keyword
      · have hfits : ¬ command.fits commands := by
          rw [Command.fits_iff_of_signature hsignature hkeyword, hdeclared]
          simp
        rw [List.filter_cons_of_pos (by simpa using hkeyword), List.filter_cons_of_neg hfits, ih]
      · rw [List.filter_cons_of_neg (by simpa using hkeyword), ih]

def declared (commands : List Command) : Diagram :=
  ((declarations .state commands).map Directive.state
    ++ (declarations .event commands).map Directive.event).foldl Diagram.perform .empty

theorem declared_eq (commands : List Command) :
    declared commands =
      { Diagram.empty with
        states := (declarations .state commands).foldl (declareAmong .declare State.key) []
        events := (declarations .event commands).foldl (declareAmong .declare Event.key) [] } := by
  rw [declared, List.foldl_append, Diagram.foldl_perform_state, Diagram.foldl_perform_event]
  rfl

theorem sees_declared (commands : List Command) : (declared commands).Sees commands := by
  have hstate : ∀ name, State.key (State.declare name) = .of name := fun _ => rfl
  have hevent : ∀ name, Event.key (Event.declare name) = .of name := fun _ => rfl
  rw [declared_eq]
  constructor
  · intro key
    rw [Diagram.hasState_iff]
    simpa using exists_mem_foldl_declareAmong hstate (declarations .state commands) [] key
  · intro key
    rw [Diagram.hasEvent_iff]
    simpa using exists_mem_foldl_declareAmong hevent (declarations .event commands) [] key

namespace Diagram

theorem states_perform {directive : Directive} (h : ∀ name, directive ≠ .state name) :
    (diagram.perform directive).states = diagram.states.map (·.attach directive) := by
  cases directive with
  | state name => exact absurd rfl (h name)
  | event _ | start _ | error _ | switches _ => exact (List.map_id _).symm
  | resource _ _ _ | timed _ _ | named _ _ _ | back _ _ => rfl

theorem events_perform {directive : Directive} (h : ∀ name, directive ≠ .event name) :
    (diagram.perform directive).events = diagram.events := by
  cases directive with
  | event name => exact absurd rfl (h name)
  | state _ | start _ | error _ | switches _ | resource _ _ _ | timed _ _ | named _ _ _
  | back _ _ => rfl

theorem hasState_perform {directive : Directive} (key : Name)
    (h : ∀ name, directive ≠ .state name) :
    (diagram.perform directive).HasState key ↔ diagram.HasState key := by
  simp [hasState_iff, states_perform h]

theorem hasEvent_perform {directive : Directive} (key : Name)
    (h : ∀ name, directive ≠ .event name) :
    (diagram.perform directive).HasEvent key ↔ diagram.HasEvent key := by
  simp [hasEvent_iff, events_perform h]

theorem Sees.next (h : diagram.Sees commands) (hstate : command.keyword ≠ .state)
    (hevent : command.keyword ≠ .event) : (diagram.next commands command).Sees commands := by
  rw [Diagram.next]
  split
  · rw [assign]
    cases hdirective : command.directive? with
    | none => exact h
    | some directive =>
      have hsaid := Command.saidBy_of_directive? hdirective
      have hnoState : ∀ name, directive ≠ .state name := by
        rintro name rfl
        exact hstate hsaid
      have hnoEvent : ∀ name, directive ≠ .event name := by
        rintro name rfl
        exact hevent hsaid
      exact ⟨fun key => (hasState_perform key hnoState).trans (h.state key),
        fun key => (hasEvent_perform key hnoEvent).trans (h.event key)⟩
  · exact h

end Diagram

theorem judged_declarations {several : List Command} (diagram : Diagram)
    (h : ∀ command ∈ several, command.keyword.signature = [.identifier]) :
    Judged commands diagram several := by
  induction several generalizing diagram with
  | nil => exact .nil
  | cons command several ih =>
    obtain ⟨hcommand, hseveral⟩ := List.forall_mem_cons.1 h
    apply Judged.cons (Diagram.misfit?_eq_none_iff _) (ih _ hseveral)
    rw [hcommand]
    simp

theorem Diagram.Sees.judged {several : List Command} (h : diagram.Sees commands)
    (hseveral : ∀ command ∈ several, command.keyword ≠ .state ∧ command.keyword ≠ .event) :
    Judged commands diagram several := by
  induction several generalizing diagram with
  | nil => exact .nil
  | cons command several ih =>
    obtain ⟨hcommand, hothers⟩ := List.forall_mem_cons.1 hseveral
    exact .cons (misfit?_eq_none_iff fun _ _ _ => h) (ih (h.next hcommand.1 hcommand.2) hothers)

def attachments (commands : List Command) : List Command :=
  takenIn (Keyword.passes.drop 2) commands

theorem schedule_eq (commands : List Command) :
    schedule commands =
      (commands.filter (·.keyword = .state) ++ commands.filter (·.keyword = .event))
        ++ attachments commands := by
  rw [List.append_assoc]
  rfl

theorem keyword_of_mem_attachments (h : command ∈ attachments commands) :
    command.keyword ≠ .state ∧ command.keyword ≠ .event := by
  obtain ⟨takes, htakes, hmem⟩ := List.mem_flatMap.1 h
  have hnone : ∀ takes ∈ Keyword.passes.drop 2, takes .state = false ∧ takes .event = false := by
    decide
  obtain ⟨hstate, hevent⟩ := hnone takes htakes
  have htaken := (List.mem_filter.1 hmem).2
  constructor
  · intro hkeyword
    simp [hkeyword, hstate] at htaken
  · intro hkeyword
    simp [hkeyword, hevent] at htaken

theorem foldl_next_declarations (commands : List Command) :
    (commands.filter (·.keyword = .state) ++ commands.filter (·.keyword = .event)).foldl
      (Diagram.next commands) .empty = declared commands := by
  have hstate : ∀ (command : Command) (name : String), command.keyword = .state →
      command.arguments = [name] → command.directive? = some (.state name) := by
    intro command name hkeyword harguments
    simp [Command.directive?, hkeyword, harguments]
  have hevent : ∀ (command : Command) (name : String), command.keyword = .event →
      command.arguments = [name] → command.directive? = some (.event name) := by
    intro command name hkeyword harguments
    simp [Command.directive?, hkeyword, harguments]
  rw [Diagram.foldl_next_eq_foldl_perform, List.filter_append, List.filterMap_append,
    filterMap_directive?_declarations (by rfl) hstate,
    filterMap_directive?_declarations (by rfl) hevent, declared]

theorem judged_schedule (commands : List Command) : Judged commands .empty (schedule commands) := by
  rw [schedule_eq]
  apply Judged.append
  · apply judged_declarations
    intro command hcommand
    rcases List.mem_append.1 hcommand with hstate | hevent
    · simp [of_decide_eq_true (List.mem_filter.1 hstate).2, Keyword.signature]
    · simp [of_decide_eq_true (List.mem_filter.1 hevent).2, Keyword.signature]
  · rw [foldl_next_declarations]
    exact (sees_declared commands).judged fun _ => keyword_of_mem_attachments

def attached (commands : List Command) : List Directive :=
  (attachments (commands.filter (·.fits commands))).filterMap Command.directive?

/-- To bind commands is to declare what fitting declarations declare, and then to perform the other
directives in the order of the schedule. -/
theorem diagram_bindCommands [Checksum] (commands : List Command) (earlier : List Fault) :
    (bindCommands commands earlier).1.toDiagram =
      (attached commands).foldl Diagram.perform (declared commands) := by
  have hjudged := judged_schedule commands
  have hdiagram : (bindCommands commands earlier).1.toDiagram =
      (draftAll commands earlier).diagram := by
    rw [bindCommands_eq]
  rw [hdiagram, draftAll, Judged.diagram_foldl_bindNext hjudged, schedule_eq, List.foldl_append,
    foldl_next_declarations, Diagram.foldl_next_eq_foldl_perform]
  simp only [attached, attachments, takenIn, List.filter_flatMap, List.filter_filter, Bool.and_comm]

end SceneFlow
