import SceneFlow.Proofs.Binding.Meaning

namespace SceneFlow

variable {commands several : List Command} {command : Command} {diagram : Diagram} {draft : Draft}
  {state : State} {directive : Directive} {key event : Name} {slot : Slot} {faults : List Fault}

/-- The slots that a command fills by what it says. -/
def Command.filled (command : Command) : List Slot := command.directive?.elim [] Directive.slots

def fillers (commands : List Command) (slot : Slot) (several : List Command) : List Command :=
  several.filter fun command => command.fits commands && decide (slot ∈ command.filled)

theorem fillers_cons_of_fills (h : command.fits commands ∧ slot ∈ command.filled) :
    fillers commands slot (command :: several) = command :: fillers commands slot several :=
  List.filter_cons_of_pos (by simp [h])

theorem fillers_cons_of_not_fills (h : ¬ (command.fits commands ∧ slot ∈ command.filled)) :
    fillers commands slot (command :: several) = fillers commands slot several :=
  List.filter_cons_of_neg (by simpa using h)

namespace Fault

def misfitted? : Fault → Option Command
  | .misfit command _ => some command
  | _ => none

def refiller? (slot : Slot) : Fault → Option Command
  | .refilled command other => if slot = other then some command else none
  | _ => none

end Fault

def Slot.owner? : Slot → Option Name
  | .resource key | .timed key | .named key _ | .back key _ => some key
  | _ => none

theorem Directive.Grounded.hasState (h : directive.Grounded diagram)
    (hslot : slot ∈ directive.slots) (howner : slot.owner? = some key) : diagram.HasState key := by
  cases directive with
  | resource _ _ _ | timed _ _ | named _ _ _ | back _ _ =>
    rw [List.mem_singleton.1 hslot] at howner
    cases howner
    exact h
  | state _ | event _ | start _ | error _ =>
    rw [List.mem_singleton.1 hslot] at howner
    cases howner
  | switches _ =>
    obtain ⟨_, _, rfl⟩ := List.mem_map.1 hslot
    cases howner

namespace Directive

theorem state_mem_slots_iff :
    .state key ∈ directive.slots ↔ ∃ name, directive = .state name ∧ .of name = key := by
  cases directive <;> simp [slots, eq_comm]

theorem event_mem_slots_iff :
    .event key ∈ directive.slots ↔ ∃ name, directive = .event name ∧ .of name = key := by
  cases directive <;> simp [slots, eq_comm]

theorem back_mem_slots_iff : .back key event ∈ directive.slots ↔ directive = .back key event := by
  cases directive <;> simp [slots, eq_comm]

theorem flag_mem_slots_iff {flag : LogFlag} :
    .flag flag ∈ directive.slots ↔ ∃ flags, directive = .switches flags ∧ flag ∈ flags := by
  cases directive <;> simp [slots]

end Directive

namespace State

def fills (state : State) : Slot → Bool
  | .resource _ => state.resource.isSome
  | .timed _ => state.timed.isSome
  | .named _ event => state.named.any (·.1 = event)
  | .back _ event => state.back.contains event
  | _ => false

theorem fills_declare (name : String) (slot : Slot) : (declare name).fills slot = false := by
  cases slot <;> rfl

theorem any_named_iff :
    (state.named.any fun entry => entry.1 = event) ↔ (state.named.lookup event).isSome := by
  simp [List.lookup_isSome_iff]

theorem fills_attach (h : state.key = key) (howner : slot.owner? = some key) :
    (state.attach directive).fills slot ↔ slot ∈ directive.slots ∨ state.fills slot := by
  cases slot with
  | resource _ =>
    cases howner
    have hload : (state.attach directive).load?.isSome = _ :=
      congrArg Option.isSome (load?_attach h)
    simp only [load?, Option.isSome_map, Option.isSome_or] at hload
    rw [fills, fills, hload, Bool.or_eq_true, Directive.isSome_resource?]
  | timed _ =>
    cases howner
    rw [fills, fills, timed_attach h, Option.isSome_or, Bool.or_eq_true, Directive.isSome_timed?]
  | named _ event =>
    cases howner
    rw [fills, fills, any_named_iff, any_named_iff, lookup_attach h, Option.isSome_or,
      Bool.or_eq_true, Directive.isSome_target?]
  | back _ event =>
    cases howner
    rw [fills, fills, List.contains_iff_mem, List.contains_iff_mem, mem_back_attach h,
      Directive.back_mem_slots_iff, or_comm]
  | state _ | event _ | start | error | flag _ => cases howner

end State

namespace Diagram

theorem isFilled_of_owner (howner : slot.owner? = some key) :
    diagram.isFilled slot = (diagram.state? key).any (·.fills slot) := by
  cases slot with
  | resource _ | timed _ | named _ _ | back _ _ =>
    cases howner
    rfl
  | state _ | event _ | start | error | flag _ => cases howner

theorem state?_perform (key : Name) (h : ∀ name, directive ≠ .state name) :
    (diagram.perform directive).state? key = (diagram.state? key).map (·.attach directive) := by
  have hkey : ((fun state => decide (state.key = key)) ∘ (State.attach · directive)) =
      fun state : State => decide (state.key = key) := by
    funext state
    rw [Function.comp_apply, State.attach_key]
  rw [state?, states_perform h, List.find?_map, hkey, state?]

theorem isFilled_perform_of_owner (h : directive.Grounded diagram)
    (howner : slot.owner? = some key) :
    (diagram.perform directive).isFilled slot ↔
      slot ∈ directive.slots ∨ diagram.isFilled slot := by
  rw [isFilled_of_owner howner, isFilled_of_owner howner]
  by_cases hstate : ∃ name, directive = .state name
  · obtain ⟨name, rfl⟩ := hstate
    have hslot : slot ∉ (Directive.state name).slots := by
      intro hmem
      rw [List.mem_singleton.1 hmem] at howner
      cases howner
    rw [or_iff_right hslot, perform_state]
    split
    · rfl
    · simp only [state?, List.find?_append, List.find?_singleton]
      cases diagram.states.find? fun state => decide (state.key = key) with
      | some state => rfl
      | none =>
        split
        · simp [State.fills_declare]
        · rfl
  · rw [state?_perform key fun name hname => hstate ⟨name, hname⟩, Option.any_map]
    cases hfound : diagram.state? key with
    | none =>
      have hslot : slot ∉ directive.slots := by
        intro hmem
        have hkey := h.hasState hmem howner
        rw [HasState, hfound] at hkey
        cases hkey
      simp [hslot]
    | some state =>
      have hkey : state.key = key := by simpa using List.find?_some hfound
      exact State.fills_attach hkey howner

theorem hasState_perform_iff :
    (diagram.perform directive).HasState key ↔
      .state key ∈ directive.slots ∨ diagram.HasState key := by
  rw [Directive.state_mem_slots_iff]
  by_cases hstate : ∃ name, directive = .state name
  · obtain ⟨name, rfl⟩ := hstate
    have hkey : ∀ name, State.key (State.declare name) = .of name := fun _ => rfl
    rw [hasState_iff, hasState_iff, or_comm]
    simpa [perform] using exists_mem_foldl_declareAmong hkey [name] diagram.states key
  · have hslot : ¬ ∃ name, directive = .state name ∧ .of name = key := by
      rintro ⟨name, hname, _⟩
      exact hstate ⟨name, hname⟩
    rw [or_iff_right hslot]
    exact hasState_perform key fun name hname => hstate ⟨name, hname⟩

theorem hasEvent_perform_iff :
    (diagram.perform directive).HasEvent key ↔
      .event key ∈ directive.slots ∨ diagram.HasEvent key := by
  rw [Directive.event_mem_slots_iff]
  by_cases hevent : ∃ name, directive = .event name
  · obtain ⟨name, rfl⟩ := hevent
    have hkey : ∀ name, Event.key (Event.declare name) = .of name := fun _ => rfl
    rw [hasEvent_iff, hasEvent_iff, or_comm]
    simpa [perform] using exists_mem_foldl_declareAmong hkey [name] diagram.events key
  · have hslot : ¬ ∃ name, directive = .event name ∧ .of name = key := by
      rintro ⟨name, hname, _⟩
      exact hevent ⟨name, hname⟩
    rw [or_iff_right hslot]
    exact hasEvent_perform key fun name hname => hevent ⟨name, hname⟩

theorem isFilled_perform (h : directive.Grounded diagram) (slot : Slot) :
    (diagram.perform directive).isFilled slot ↔
      slot ∈ directive.slots ∨ diagram.isFilled slot := by
  cases slot with
  | state key => exact hasState_perform_iff
  | event key => exact hasEvent_perform_iff
  | start =>
    change (diagram.perform directive).start.isSome ↔ _ ∨ diagram.start.isSome
    rw [start_perform, Option.isSome_or, Bool.or_eq_true,
      Directive.isSome_start?]
  | error =>
    change (diagram.perform directive).error.isSome ↔ _ ∨ diagram.error.isSome
    rw [error_perform, Option.isSome_or, Bool.or_eq_true,
      Directive.isSome_error?]
  | flag flag =>
    change (diagram.perform directive).flags.get flag ↔ _ ∨ diagram.flags.get flag
    rw [flag_perform, Directive.flag_mem_slots_iff, or_comm]
  | resource _ | timed _ | named _ _ | back _ _ => exact isFilled_perform_of_owner h rfl

end Diagram

theorem Command.slots_nodup (command : Command) : command.slots.Nodup := by
  have hflags : ∀ keyword : Keyword, (keyword.flags.map Slot.flag).Nodup := by
    intro keyword
    cases keyword <;> decide
  rw [slots]
  split <;> simp [hflags]

namespace Diagram

def told (diagram : Diagram) (command : Command) : List Fault :=
  match diagram.misfit? command with
  | some reason => [.misfit command reason]
  | none => (command.slots.filter diagram.isFilled).map (.refilled command)

theorem told_of_not_fits (hjudged : diagram.misfit? command = none ↔ command.fits commands)
    (h : ¬ command.fits commands) : ∃ reason, diagram.told command = [.misfit command reason] := by
  rw [← hjudged] at h
  obtain ⟨reason, hreason⟩ := Option.ne_none_iff_exists'.1 h
  exact ⟨reason, by simp only [told, hreason]⟩

theorem told_of_fits (hjudged : diagram.misfit? command = none ↔ command.fits commands)
    (h : command.fits commands) :
    diagram.told command = (command.slots.filter diagram.isFilled).map (.refilled command) := by
  simp only [told, hjudged.2 h]

theorem slots_eq_filled (h : diagram.misfit? command = none) : command.slots = command.filled := by
  obtain ⟨directive, hdirective, hslots, _⟩ := Command.directive?_of_misfit? h
  rw [Command.filled, hdirective, hslots, Option.elim_some]

theorem isFilled_next (hjudged : diagram.misfit? command = none ↔ command.fits commands) :
    (diagram.next commands command).isFilled slot ↔
      (command.fits commands ∧ slot ∈ command.filled) ∨ diagram.isFilled slot := by
  rw [next]
  by_cases hfits : command.fits commands
  · obtain ⟨directive, hdirective, _, hgrounded⟩ :=
      Command.directive?_of_misfit? (hjudged.2 hfits)
    rw [if_pos hfits, assign, Command.filled, hdirective, Option.elim_some, Option.elim_some,
      isFilled_perform hgrounded, and_iff_right hfits]
  · rw [if_neg hfits, or_iff_right fun h => hfits h.1]

end Diagram

theorem Draft.faults_bindNext (draft : Draft) (command : Command) :
    (draft.bindNext command).faults = draft.faults ++ draft.diagram.told command := by
  simp only [bindNext, Diagram.told]
  cases draft.diagram.misfit? command <;> rfl

namespace Fault

theorem filterMap_refiller?_map {slots : List Slot} (hslots : slots.Nodup) (command : Command)
    (slot : Slot) :
    (slots.map (refilled command)).filterMap (refiller? slot) =
      if slot ∈ slots then [command] else [] := by
  induction slots with
  | nil => rfl
  | cons other slots ih =>
    obtain ⟨hother, hslots⟩ := List.nodup_cons.1 hslots
    rw [List.map_cons, List.filterMap_cons, ih hslots, refiller?]
    by_cases hslot : slot = other
    · subst hslot
      simp [hother]
    · simp [hslot]

theorem filterMap_misfitted?_map (slots : List Slot) (command : Command) :
    (slots.map (refilled command)).filterMap misfitted? = [] := by
  rw [List.filterMap_map]
  exact List.filterMap_eq_nil_iff.2 fun _ _ => rfl

end Fault

namespace Diagram

theorem filterMap_misfitted?_told
    (hjudged : diagram.misfit? command = none ↔ command.fits commands) :
    (diagram.told command).filterMap Fault.misfitted? =
      [command].filter (!·.fits commands) := by
  by_cases hfits : command.fits commands
  · rw [told_of_fits hjudged hfits, Fault.filterMap_misfitted?_map]
    simp [hfits]
  · obtain ⟨reason, htold⟩ := told_of_not_fits hjudged hfits
    rw [htold]
    simp [hfits, Fault.misfitted?]

theorem filterMap_refiller?_told
    (hjudged : diagram.misfit? command = none ↔ command.fits commands) (slot : Slot) :
    (diagram.told command).filterMap (Fault.refiller? slot) =
      if diagram.isFilled slot then fillers commands slot [command] else [] := by
  by_cases hfits : command.fits commands
  · rw [told_of_fits hjudged hfits,
      Fault.filterMap_refiller?_map (command.slots_nodup.filter diagram.isFilled)]
    rw [slots_eq_filled (hjudged.2 hfits)]
    by_cases hslot : slot ∈ command.filled <;> simp [fillers, hfits, hslot]
  · obtain ⟨reason, htold⟩ := told_of_not_fits hjudged hfits
    rw [htold]
    simp [fillers, hfits, Fault.refiller?]

/-- Faults are what is to be told of commands that come up after a diagram is bound. -/
structure Tells (commands : List Command) (diagram : Diagram) (several : List Command)
    (faults : List Fault) : Prop where
  misfits : faults.filterMap Fault.misfitted? = several.filter (!·.fits commands)
  refills : ∀ slot, faults.filterMap (Fault.refiller? slot) =
    if diagram.isFilled slot then fillers commands slot several
    else (fillers commands slot several).tail
  told : ∀ fault ∈ faults, ∃ command ∈ several,
    (∃ reason, fault = .misfit command reason) ∨ ∃ slot, fault = .refilled command slot

theorem tells_nil : diagram.Tells commands [] [] where
  misfits := rfl
  refills slot := by simp [fillers]
  told := nofun

theorem told_of_mem {fault : Fault} (h : fault ∈ diagram.told command) :
    (∃ reason, fault = .misfit command reason) ∨ ∃ slot, fault = .refilled command slot := by
  rw [told] at h
  split at h
  · next reason _ => exact .inl ⟨reason, List.mem_singleton.1 h⟩
  · obtain ⟨slot, _, rfl⟩ := List.mem_map.1 h
    exact .inr ⟨slot, rfl⟩

theorem Tells.cons (hjudged : diagram.misfit? command = none ↔ command.fits commands)
    (h : (diagram.next commands command).Tells commands several faults) :
    diagram.Tells commands (command :: several) (diagram.told command ++ faults) := by
  constructor
  case misfits =>
    rw [List.filterMap_append, filterMap_misfitted?_told hjudged, h.misfits, ← List.filter_append,
      List.singleton_append]
  case refills =>
    -- The first filler of a slot is spared, unless the slot is filled by then.
    intro slot
    have hnext : (diagram.next commands command).isFilled slot ↔ _ := isFilled_next hjudged
    rw [List.filterMap_append, filterMap_refiller?_told hjudged, h.refills]
    by_cases hfills : command.fits commands ∧ slot ∈ command.filled
    · rw [fillers_cons_of_fills hfills, fillers_cons_of_fills hfills,
        if_pos (hnext.2 (.inl hfills))]
      cases diagram.isFilled slot <;> rfl
    · rw [fillers_cons_of_not_fills hfills, fillers_cons_of_not_fills hfills]
      rw [or_iff_right hfills] at hnext
      simp [hnext, fillers]
  case told =>
    intro fault hfault
    cases List.mem_append.1 hfault with
    | inl hnow => exact ⟨command, List.mem_cons_self, told_of_mem hnow⟩
    | inr hlater =>
      obtain ⟨other, hother, hfault⟩ := h.told fault hlater
      exact ⟨other, List.mem_cons_of_mem command hother, hfault⟩

end Diagram

theorem Judged.tells (h : Judged commands draft.diagram several) :
    ∃ told, (several.foldl Draft.bindNext draft).faults = draft.faults ++ told ∧
      draft.diagram.Tells commands several told := by
  generalize hdiagram : draft.diagram = diagram at h ⊢
  induction h generalizing draft with
  | nil => exact ⟨[], (List.append_nil _).symm, Diagram.tells_nil⟩
  | @cons diagram command rest hjudged _ ih =>
    subst hdiagram
    obtain ⟨told, hfaults, htells⟩ := ih (Draft.diagram_bindNext hjudged)
    refine ⟨draft.diagram.told command ++ told, ?_, htells.cons hjudged⟩
    rw [List.foldl_cons, hfaults, Draft.faults_bindNext, List.append_assoc]

theorem Command.pass_of_filled (hslot : slot ∈ command.filled) : slot.pass command.keyword := by
  rw [filled] at hslot
  cases hdirective : command.directive? with
  | none =>
    rw [hdirective] at hslot
    cases hslot
  | some directive =>
    rw [hdirective] at hslot
    exact (saidBy_of_directive? hdirective).pass hslot

theorem fillers_schedule (commands : List Command) (slot : Slot) :
    fillers commands slot (schedule commands) = fillers commands slot commands := by
  apply filter_schedule slot.pass_mem
  intro command _ h
  obtain ⟨_, hslot⟩ := Bool.and_eq_true_iff.1 h
  exact Command.pass_of_filled (of_decide_eq_true hslot)

/-- Faults are exactly those of commands: one for each command that does not fit, and one for each
fitting command that fills a slot after the first one that does. -/
structure AreFaultsOf (commands : List Command) (faults : List Fault) : Prop where
  misfits : (faults.filterMap Fault.misfitted?).Perm (commands.filter (!·.fits commands))
  refills : ∀ slot, faults.filterMap (Fault.refiller? slot) = (fillers commands slot commands).tail
  told : ∀ fault ∈ faults, ∃ command ∈ commands, fault.line = some command.line ∧
    ((∃ reason, fault = .misfit command reason) ∨ ∃ slot, fault = .refilled command slot)

theorem Diagram.isFilled_empty (slot : Slot) : empty.isFilled slot = false := by
  cases slot with
  | flag flag => exact LogFlags.get_none flag
  | _ => rfl

theorem areFaultsOf_of_tells (h : Diagram.empty.Tells commands (schedule commands) faults) :
    AreFaultsOf commands faults where
  misfits := h.misfits ▸ (schedule_perm commands).filter _
  refills slot := by
    rw [h.refills, Diagram.isFilled_empty, fillers_schedule]
    rfl
  told fault hfault := by
    obtain ⟨command, hcommand, htold⟩ := h.told fault hfault
    refine ⟨command, mem_schedule.1 hcommand, ?_, htold⟩
    obtain ⟨reason, rfl⟩ | ⟨slot, rfl⟩ := htold <;> rfl

theorem AreFaultsOf.eq_nil_iff (h : AreFaultsOf commands faults) :
    faults = [] ↔ (∀ command ∈ commands, command.fits commands) ∧
      ∀ slot, (fillers commands slot commands).length ≤ 1 := by
  constructor
  · rintro rfl
    constructor
    · have hnone := List.filter_eq_nil_iff.1 (List.nil_perm.1 h.misfits)
      intro command hcommand
      simpa using hnone command hcommand
    · intro slot
      rw [← Nat.sub_eq_zero_iff_le, ← List.length_tail, ← h.refills slot]
      rfl
  · rintro ⟨hfits, honce⟩
    rw [List.eq_nil_iff_forall_not_mem]
    intro fault hfault
    obtain ⟨command, hcommand, _, ⟨reason, rfl⟩ | ⟨slot, rfl⟩⟩ := h.told fault hfault
    · have hmem : command ∈ faults.filterMap Fault.misfitted? :=
        List.mem_filterMap.2 ⟨_, hfault, rfl⟩
      have hnot := (List.mem_filter.1 (h.misfits.mem_iff.1 hmem)).2
      simp [hfits command hcommand] at hnot
    · have hmem : command ∈ faults.filterMap (Fault.refiller? slot) :=
        List.mem_filterMap.2 ⟨_, hfault, if_pos rfl⟩
      have hnone : (fillers commands slot commands).tail = [] := by
        rw [← List.length_eq_zero_iff, List.length_tail, Nat.sub_eq_zero_of_le (honce slot)]
      rw [h.refills, hnone] at hmem
      cases hmem

theorem areFaultsOf_bindCommands [Checksum] (commands : List Command) (earlier : List Fault) :
    ∃ told, (bindCommands commands earlier).2 = earlier ++ told ∧ AreFaultsOf commands told := by
  have h : Judged commands (Draft.mk .empty earlier).diagram (schedule commands) :=
    judged_schedule commands
  obtain ⟨told, hfaults, htells⟩ := h.tells
  refine ⟨told, ?_, areFaultsOf_of_tells htells⟩
  rw [bindCommands_eq]
  exact hfaults

theorem errors_bindCommands [Checksum] (commands : List Command) (earlier : List Fault) :
    (bindCommands commands earlier).1.errors = (bindCommands commands earlier).2.length := rfl

theorem isValid_bindCommands_iff [Checksum] (commands : List Command) (earlier : List Fault) :
    (bindCommands commands earlier).1.isValid ↔
      earlier = [] ∧ (∀ command ∈ commands, command.fits commands) ∧
        ∀ slot, (fillers commands slot commands).length ≤ 1 := by
  obtain ⟨told, hfaults, htold⟩ := areFaultsOf_bindCommands commands earlier
  rw [Graph.isValid, errors_bindCommands, hfaults, beq_iff_eq, List.length_eq_zero_iff,
    List.append_eq_nil_iff, htold.eq_nil_iff]

/-- The faults found before stay, and exactly those of the commands are told after them. So a graph
is valid exactly if there were none before, every command fits, and no slot is filled twice. -/
theorem bindCommands_tells_faults [Checksum] (commands : List Command) (earlier : List Fault) :
    (∃ told, (bindCommands commands earlier).2 = earlier ++ told ∧ AreFaultsOf commands told) ∧
      ((bindCommands commands earlier).1.isValid ↔
        earlier = [] ∧ (∀ command ∈ commands, command.fits commands) ∧
          ∀ slot, (fillers commands slot commands).length ≤ 1) ∧
      (bindCommands commands earlier).1.errors = (bindCommands commands earlier).2.length :=
  ⟨areFaultsOf_bindCommands commands earlier, isValid_bindCommands_iff commands earlier,
    errors_bindCommands commands earlier⟩

example :
    (bindCommands [.make .logSceneLoaded [], .make .logAll [], .make .logSceneLoaded []] []).2 =
      [.refilled (.make .logAll []) (.flag .sceneLoaded),
        .refilled (.make .logSceneLoaded []) (.flag .sceneLoaded)] := by
  decide

theorem Program.isValid_compile_iff [Checksum] (source : String) :
    (compile source).isValid ↔
      (readTokens (tokens source)).faults = [] ∧
        (∀ command ∈ (compile source).commands, command.fits (compile source).commands) ∧
        ∀ slot, (fillers (compile source).commands slot (compile source).commands).length ≤ 1 :=
  isValid_bindCommands_iff _ _

end SceneFlow
