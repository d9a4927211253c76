import SceneFlow.Proofs.Binding.Respelling
import SceneFlow.Proofs.Graph.Bare

/-!
Variants. How commands spell the names of states and events shows in the spellings of the graph that
they are bound to, and in the texts of faults. The graph without its spellings and the kinds of the
faults depend on the lower-case forms of the names alone.
-/

namespace SceneFlow

variable {diagram variant : Diagram} {command other : Command} {directive : Directive}
  {kind : ArgumentKind} {kind? : Option ArgumentKind} {keyword : Keyword}
  {argument spelling : String} {draft again : Draft}

def Keyword.names (keyword : Keyword) : ArgumentKind → Bool
  | .state | .event => true
  | .identifier => keyword = .state ∨ keyword = .event
  | .time => false

/-- How an argument at a place of some kind may be spelled as well: if it names a state or an event,
by another identifier with the same lower-case form. -/
def Keyword.Varies (keyword : Keyword) (kind? : Option ArgumentKind) (argument spelling : String) :
    Prop :=
  spelling = argument ∨
    (kind?.any keyword.names ∧ isIdentifier argument ∧ isIdentifier spelling ∧
      Name.of spelling = .of argument)

instance : Decidable (keyword.Varies kind? argument spelling) :=
  inferInstanceAs (Decidable (_ ∨ _))

structure Command.Variant (command other : Command) : Prop where
  keyword : other.keyword = command.keyword
  length : other.arguments.length = command.arguments.length
  argument : ∀ i : Nat, ∀ argument ∈ command.arguments[i]?, ∀ spelling ∈ other.arguments[i]?,
    command.keyword.Varies command.keyword.signature[i]? argument spelling

namespace Keyword.Varies

theorem symm (h : keyword.Varies kind? argument spelling) :
    keyword.Varies kind? spelling argument := by
  rcases h with rfl | ⟨hnames, hargument, hspelling, hname⟩
  · exact .inl rfl
  · exact .inr ⟨hnames, hspelling, hargument, hname.symm⟩

theorem name (h : keyword.Varies kind? argument spelling) : Name.of spelling = .of argument := by
  rcases h with rfl | ⟨_, _, _, hname⟩
  · rfl
  · exact hname

theorem isIdentifier (h : keyword.Varies kind? argument spelling) :
    isIdentifier spelling = SceneFlow.isIdentifier argument := by
  rcases h with rfl | ⟨_, hargument, hspelling, _⟩
  · rfl
  · rw [hargument, hspelling]

theorem eq (h : keyword.Varies kind? argument spelling) (hnames : kind?.any keyword.names = false) :
    spelling = argument := by
  rcases h with rfl | ⟨htrue, _⟩
  · rfl
  · rw [hnames] at htrue
    cases htrue

end Keyword.Varies

namespace Diagram

theorem argumentMisfit?_of_varies (hbare : variant.bare = diagram.bare)
    (h : keyword.Varies (some kind) argument spelling)
    (hfits : diagram.lookup.argumentMisfit? kind argument = none) :
    variant.lookup.argumentMisfit? kind spelling = none := by
  cases kind with
  | identifier => simpa [Lookup.argumentMisfit?, h.isIdentifier] using hfits
  | state =>
    rw [Lookup.argumentMisfit?_state_eq_none_iff, lookup_state?] at hfits ⊢
    rwa [h.isIdentifier, h.name, isSome_state?_of_bare_eq hbare]
  | event =>
    rw [Lookup.argumentMisfit?_event_eq_none_iff, lookup_event?] at hfits ⊢
    rwa [h.isIdentifier, h.name, isSome_event?_of_bare_eq hbare]
  | time => rwa [h.eq rfl]

theorem misfit?_of_variant (hbare : variant.bare = diagram.bare) (h : command.Variant other)
    (hfits : diagram.misfit? command = none) : variant.misfit? other = none := by
  have hlength := length_of_misfit? hfits
  have hother : other.arguments.length = other.keyword.signature.length := by
    rw [h.length, h.keyword, hlength]
  simp only [misfit?, Lookup.misfit?, hother, ne_eq, not_true_eq_false, if_false,
    List.findSome?_eq_none_iff]
  rintro ⟨kind, spelling⟩ hplace
  obtain ⟨i, hi⟩ := List.mem_iff_getElem?.1 hplace
  obtain ⟨hkind, hspelling⟩ := List.getElem?_zip_eq_some.1 hi
  dsimp only at hkind hspelling
  obtain ⟨hindex, _⟩ := List.getElem?_eq_some_iff.1 hspelling
  have hargument := List.getElem?_eq_getElem (h.length ▸ hindex)
  rw [h.keyword] at hkind
  have hvaries := h.argument i _ hargument spelling hspelling
  rw [hkind] at hvaries
  have hzip := List.getElem?_zip_eq_some (z := (kind, _)).2 ⟨hkind, hargument⟩
  exact argumentMisfit?_of_varies hbare hvaries
    (fits_of_misfit? hfits (List.mem_of_getElem? hzip))

end Diagram

namespace Command

instance : Decidable (command.Variant other) :=
  decidable_of_iff
    (other.keyword = command.keyword ∧ other.arguments.length = command.arguments.length ∧
      ∀ i < command.arguments.length, ∀ argument ∈ command.arguments[i]?,
        ∀ spelling ∈ other.arguments[i]?,
          command.keyword.Varies command.keyword.signature[i]? argument spelling)
    ⟨fun h => ⟨h.1, h.2.1, fun i argument hargument =>
        h.2.2 i (List.getElem?_eq_some_iff.1 hargument).1 argument hargument⟩,
      fun h => ⟨h.keyword, h.length, fun i _ => h.argument i⟩⟩

namespace Variant

theorem symm (h : command.Variant other) : other.Variant command where
  keyword := h.keyword.symm
  length := h.length.symm
  argument i spelling hspelling argument hargument :=
    h.keyword ▸ (h.argument i argument hargument spelling hspelling).symm

theorem name (h : command.Variant other) {i : Nat}
    (hargument : command.arguments[i]? = some argument)
    (hspelling : other.arguments[i]? = some spelling) : Name.of spelling = .of argument :=
  (h.argument i argument hargument spelling hspelling).name

end Variant

end Command

namespace Directive

inductive Variant : Directive → Directive → Prop
  | state {name other : String} : Name.of other = .of name → Variant (.state name) (.state other)
  | event {name other : String} : Name.of other = .of name → Variant (.event name) (.event other)
  | refl (directive : Directive) : Variant directive directive

theorem Variant.slots {directive other : Directive} (h : directive.Variant other) :
    other.slots = directive.slots := by
  cases h with
  | state hname => rw [Directive.slots, Directive.slots, hname]
  | event hname => rw [Directive.slots, Directive.slots, hname]
  | refl => rfl

end Directive

theorem Command.Variant.directive? (h : command.Variant other)
    (hlength : command.arguments.length = command.keyword.signature.length) :
    Option.Rel Directive.Variant command.directive? other.directive? := by
  have hother := h.length.trans hlength
  obtain ⟨word, arguments, keyword, line⟩ := command
  obtain ⟨word', arguments', keyword', line'⟩ := other
  obtain rfl : keyword' = keyword := h.keyword
  cases keyword'
  case state =>
    obtain ⟨name, rfl⟩ := List.length_eq_one_iff.1 hlength
    obtain ⟨name', rfl⟩ := List.length_eq_one_iff.1 hother
    exact .some (.state (h.name (i := 0) rfl rfl))
  case event =>
    obtain ⟨name, rfl⟩ := List.length_eq_one_iff.1 hlength
    obtain ⟨name', rfl⟩ := List.length_eq_one_iff.1 hother
    exact .some (.event (h.name (i := 0) rfl rfl))
  case defineStart | defineError =>
    obtain ⟨state, rfl⟩ := List.length_eq_one_iff.1 hlength
    obtain ⟨state', rfl⟩ := List.length_eq_one_iff.1 hother
    simp only [Command.directive?, h.name (i := 0) rfl rfl]
    exact .some (.refl _)
  case loadScene | loadSceneAdditive =>
    obtain ⟨state, resource, rfl⟩ := List.length_eq_two.1 hlength
    obtain ⟨state', resource', rfl⟩ := List.length_eq_two.1 hother
    obtain rfl : resource' = resource := (h.argument 1 _ rfl _ rfl).eq rfl
    simp only [Command.directive?, h.name (i := 0) rfl rfl]
    exact .some (.refl _)
  case timedTransition =>
    obtain ⟨state, target, time, rfl⟩ := List.length_eq_three.1 hlength
    obtain ⟨state', target', time', rfl⟩ := List.length_eq_three.1 hother
    obtain rfl : time' = time := (h.argument 2 _ rfl _ rfl).eq rfl
    simp only [Command.directive?, h.name (i := 0) rfl rfl, h.name (i := 1) rfl rfl]
    cases Number.Binary64.ofLiteral? time' with
    | none => exact .none
    | some seconds => exact .some (.refl _)
  case namedTransition =>
    obtain ⟨state, target, event, rfl⟩ := List.length_eq_three.1 hlength
    obtain ⟨state', target', event', rfl⟩ := List.length_eq_three.1 hother
    simp only [Command.directive?, h.name (i := 0) rfl rfl, h.name (i := 1) rfl rfl,
      h.name (i := 2) rfl rfl]
    exact .some (.refl _)
  case backTransition =>
    obtain ⟨state, event, rfl⟩ := List.length_eq_two.1 hlength
    obtain ⟨state', event', rfl⟩ := List.length_eq_two.1 hother
    simp only [Command.directive?, h.name (i := 0) rfl rfl, h.name (i := 1) rfl rfl]
    exact .some (.refl _)
  all_goals exact .some (.refl _)

namespace State

theorem bare_attach (state : State) (directive : Directive) :
    (state.attach directive).bare = state.bare.attach directive := by
  cases directive with
  | state _ | event _ | start _ | error _ | switches _ => rfl
  | resource _ _ _ | timed _ _ | named _ _ _ | back _ _ => exact apply_ite ..

theorem bare_declare {name other : String} (h : Name.of other = .of name) :
    (declare other).bare = (declare name).bare := by
  simp [bare, declare, h]

end State

theorem Event.bare_declare {name other : String} (h : Name.of other = .of name) :
    (declare other).bare = (declare name).bare := by
  simp [bare, declare, h]

namespace Diagram

theorem isFilled_bare (diagram : Diagram) (slot : Slot) :
    diagram.bare.isFilled slot = diagram.isFilled slot := by
  cases slot with
  | state key => simp only [isFilled, Lookup.isFilled, lookup, state?_bare, Option.isSome_map]
  | event key => simp only [isFilled, Lookup.isFilled, lookup, event?_bare, Option.isSome_map]
  | start | error | flag _ => rfl
  | resource key | timed key | named key _ | back key _ =>
    simp only [isFilled, Lookup.isFilled, lookup, state?_bare, Option.any_map]
    rfl

theorem bare_addState (diagram : Diagram) (state : State) :
    { diagram with states := diagram.states ++ [state] }.bare =
      { diagram.bare with states := diagram.bare.states ++ [state.bare] } := by
  simp [bare]

theorem bare_addEvent (diagram : Diagram) (event : Event) :
    { diagram with events := diagram.events ++ [event] }.bare =
      { diagram.bare with events := diagram.bare.events ++ [event.bare] } := by
  simp [bare]

theorem bare_attachStates (diagram : Diagram) (directive : Directive) :
    { diagram with states := diagram.states.map (State.attach · directive) }.bare =
      { diagram.bare with
        states := diagram.bare.states.map (State.attach · directive) } := by
  simp [bare, State.bare_attach, Function.comp_def]

theorem bare_perform_state {name other : String} (hbare : variant.bare = diagram.bare)
    (h : Name.of other = .of name) :
    (variant.perform (.state other)).bare = (diagram.perform (.state name)).bare := by
  rw [perform_state, perform_state, h, isSome_state?_of_bare_eq hbare]
  split
  · exact hbare
  · rw [bare_addState, bare_addState, hbare, State.bare_declare h]

theorem bare_perform_event {name other : String} (hbare : variant.bare = diagram.bare)
    (h : Name.of other = .of name) :
    (variant.perform (.event other)).bare = (diagram.perform (.event name)).bare := by
  rw [perform_event, perform_event, h, isSome_event?_of_bare_eq hbare]
  split
  · exact hbare
  · rw [bare_addEvent, bare_addEvent, hbare, Event.bare_declare h]

theorem bare_perform {spelled : Directive} (hbare : variant.bare = diagram.bare)
    (h : directive.Variant spelled) :
    (variant.perform spelled).bare = (diagram.perform directive).bare := by
  cases h with
  | state hname => exact bare_perform_state hbare hname
  | event hname => exact bare_perform_event hbare hname
  | refl =>
    cases directive with
    | state name => exact bare_perform_state hbare rfl
    | event name => exact bare_perform_event hbare rfl
    | start key => exact congrArg (·.perform (.start key)) hbare
    | error key => exact congrArg (·.perform (.error key)) hbare
    | switches flags => exact congrArg (·.perform (.switches flags)) hbare
    | resource _ _ _ | timed _ _ | named _ _ _ | back _ _ =>
      simp only [perform, bare_attachStates, hbare]

theorem assign_of_variant (hbare : variant.bare = diagram.bare) (h : command.Variant other)
    (hfits : diagram.misfit? command = none) :
    (variant.assign other).bare = (diagram.assign command).bare := by
  have hdirective := h.directive? (length_of_misfit? hfits)
  rw [assign, assign]
  generalize command.directive? = directive?, other.directive? = spelled? at hdirective ⊢
  cases hdirective with
  | none => exact hbare
  | some hsame => exact bare_perform hbare hsame

theorem slots_of_variant (hbare : variant.bare = diagram.bare) (h : command.Variant other)
    (hfits : diagram.misfit? command = none) : other.slots = command.slots := by
  have hsame := h.directive? (length_of_misfit? hfits)
  obtain ⟨directive, hdirective, hslots, _⟩ := Command.directive?_of_misfit? hfits
  obtain ⟨spelled, hspelled, hslots', _⟩ :=
    Command.directive?_of_misfit? (misfit?_of_variant hbare h hfits)
  rw [hdirective, hspelled] at hsame
  cases hsame with
  | some hsame => rw [hslots, hslots', hsame.slots]

theorem isFilled_of_bare_eq (hbare : variant.bare = diagram.bare) :
    variant.isFilled = diagram.isFilled := by
  funext slot
  rw [← isFilled_bare, hbare, isFilled_bare]

theorem map_kind_told (diagram : Diagram) (command : Command) :
    (diagram.told command).map Fault.kind =
      if (diagram.misfit? command).isSome then [.signature]
      else (command.slots.filter diagram.isFilled).map fun _ => .repetition := by
  rw [told]
  cases diagram.misfit? command with
  | some reason => rfl
  | none => simp [Function.comp_def, Fault.kind]

end Diagram

structure Draft.Alike (draft again : Draft) : Prop where
  diagram : again.diagram.bare = draft.diagram.bare
  kinds : again.faults.map Fault.kind = draft.faults.map Fault.kind

theorem Draft.Alike.bindNext (h : draft.Alike again) (hvariant : command.Variant other) :
    (draft.bindNext command).Alike (again.bindNext other) := by
  rw [bindNext_eq, bindNext_eq]
  cases hfits : draft.diagram.misfit? command with
  | none =>
    have hother := Diagram.misfit?_of_variant h.diagram hvariant hfits
    constructor
    · simpa [hother] using Diagram.assign_of_variant h.diagram hvariant hfits
    · simp [h.kinds, Diagram.map_kind_told, hfits, hother,
        Diagram.slots_of_variant h.diagram hvariant hfits, Diagram.isFilled_of_bare_eq h.diagram]
  | some reason =>
    have hother : (again.diagram.misfit? other).isSome := by
      rw [Option.isSome_iff_ne_none]
      intro hnone
      rw [Diagram.misfit?_of_variant h.diagram.symm hvariant.symm hnone] at hfits
      cases hfits
    constructor
    · simpa [hother] using h.diagram
    · simp [h.kinds, Diagram.map_kind_told, hfits, hother]

theorem Draft.Alike.bindAll {several others : List Command} (h : draft.Alike again)
    (hvariants : List.Forall₂ Command.Variant several others) :
    (several.foldl Draft.bindNext draft).Alike (others.foldl Draft.bindNext again) :=
  List.rel_foldl (fun _ _ h _ _ hvariant => h.bindNext hvariant) h hvariants

theorem bindCommands_of_variants [Checksum] {commands others : List Command}
    (h : List.Forall₂ Command.Variant commands others) (earlier : List Fault) :
    (bindCommands others earlier).1.bare = (bindCommands commands earlier).1.bare ∧
      (bindCommands others earlier).2.map Fault.kind =
        (bindCommands commands earlier).2.map Fault.kind := by
  have hstart : (Draft.mk .empty earlier).Alike ⟨.empty, earlier⟩ := ⟨rfl, rfl⟩
  have hschedule := forall₂_schedule (fun _ _ => Command.Variant.keyword) h
  obtain ⟨hdiagram, hkinds⟩ := hstart.bindAll hschedule
  rw [bindCommands_eq, bindCommands_eq]
  refine ⟨?_, hkinds⟩
  have herrors := congrArg List.length hkinds
  rw [List.length_map, List.length_map] at herrors
  simp only [Graph.bare, draftAll, hdiagram, herrors]

end SceneFlow
