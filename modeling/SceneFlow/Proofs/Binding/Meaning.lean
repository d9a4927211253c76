import SceneFlow.Proofs.Binding.Fitting

/-!
The meaning of commands. A bound diagram is what its fitting commands say, told without passes: the
first declaration of each name counts, the latest of all other directives about the same thing, and
every way back and log switch that is asked for is there.
-/

namespace SceneFlow

variable {commands : List Command} {state : State} {diagram : Diagram} {directive : Directive}
  {key event name : Name} {names : List Name}

namespace Directive

def start? : Directive → Option Name
  | .start key => some key
  | _ => none

def error? : Directive → Option Name
  | .error key => some key
  | _ => none

def resource? (key : Name) : Directive → Option (String × Bool)
  | .resource other scene additive => if key = other then some (scene, additive) else none
  | _ => none

def timed? (key : Name) : Directive → Option Timed
  | .timed other transition => if key = other then some transition else none
  | _ => none

def target? (key event : Name) : Directive → Option Name
  | .named other target trigger => if key = other ∧ event = trigger then some target else none
  | _ => none

theorem isSome_start? (directive : Directive) :
    directive.start?.isSome ↔ .start ∈ directive.slots := by
  cases directive <;> simp [start?, slots]

theorem isSome_error? (directive : Directive) :
    directive.error?.isSome ↔ .error ∈ directive.slots := by
  cases directive <;> simp [error?, slots]

theorem isSome_resource? (directive : Directive) :
    (directive.resource? key).isSome ↔ .resource key ∈ directive.slots := by
  cases directive <;> simp [resource?, slots]

theorem isSome_timed? (directive : Directive) :
    (directive.timed? key).isSome ↔ .timed key ∈ directive.slots := by
  cases directive <;> simp [timed?, slots]

theorem isSome_target? (directive : Directive) :
    (directive.target? key event).isSome ↔ .named key event ∈ directive.slots := by
  cases directive <;> simp [target?, slots]

end Directive

/-- What the latest directive says that says anything. -/
def latest {α : Type} (value? : Directive → Option α) (directives : List Directive) : Option α :=
  (directives.filterMap value?).getLast?

structure State.Means (directives : List Directive) (state : State) : Prop where
  key : state.key = .of state.name
  resource : state.resource = (latest (Directive.resource? state.key) directives).map Prod.fst
  additive : state.additive = (latest (Directive.resource? state.key) directives).any Prod.snd
  timed : state.timed = latest (Directive.timed? state.key) directives
  named : ∀ event, state.named.lookup event = latest (Directive.target? state.key event) directives
  namedAscend : (state.named.map Prod.fst).Pairwise fun event other => event.before other
  back : ∀ event, event ∈ state.back ↔ .back state.key event ∈ directives
  backAscend : state.back.Pairwise fun event other => event.before other

/-- A diagram is what the fitting ones among commands say. -/
structure Diagram.Means (commands : List Command) (diagram : Diagram) : Prop where
  states : diagram.states.map State.name = firstSpellings (declarations .state commands)
  state : ∀ state ∈ diagram.states, state.Means (directives commands)
  events : diagram.events = (firstSpellings (declarations .event commands)).map Event.declare
  start : diagram.start = latest Directive.start? (directives commands)
  error : diagram.error = latest Directive.error? (directives commands)
  flags : ∀ flag, diagram.flags.get flag ↔
    ∃ flags, .switches flags ∈ directives commands ∧ flag ∈ flags

namespace Name

theorem before_trans {first second third : Name} (h : first.before second)
    (h' : second.before third) : first.before third := by
  simp only [before, decide_eq_true_eq] at *
  exact String.lt_trans h h'

theorem before_of_not_before {first second : Name} (h : ¬ first.before second)
    (hne : first ≠ second) : second.before first := by
  obtain ⟨key⟩ := first
  obtain ⟨other⟩ := second
  simp only [before, decide_eq_true_eq, String.not_lt] at *
  by_cases hlt : other < key
  · exact hlt
  · exact absurd (congrArg mk (String.le_antisymm (String.not_lt.1 hlt) h)) hne

theorem pairwise_insert (h : names.Pairwise fun event other => event.before other) :
    (insert name names).Pairwise fun event other => event.before other := by
  induction names with
  | nil => exact List.pairwise_singleton _ _
  | cons first rest ih =>
    obtain ⟨hfirst, hrest⟩ := List.pairwise_cons.1 h
    rw [insert]
    split
    · next hbefore =>
      refine List.pairwise_cons.2 ⟨?_, h⟩
      exact List.forall_mem_cons.2 ⟨hbefore, fun other hother =>
        before_trans hbefore (hfirst other hother)⟩
    · next hnot =>
      split
      · exact h
      · next hne =>
        refine List.pairwise_cons.2 ⟨?_, ih hrest⟩
        intro other hother
        cases mem_insert.1 hother with
        | inl hsame => exact hsame ▸ before_of_not_before hnot hne
        | inr hold => exact hfirst other hold

theorem map_fst_insertEntry {α : Type} (name : Name) (value : α) (entries : List (Name × α)) :
    (insertEntry name value entries).map Prod.fst = insert name (entries.map Prod.fst) := by
  induction entries with
  | nil => rfl
  | cons first rest ih =>
    rw [insertEntry, List.map_cons, insert]
    split
    · rfl
    · split
      · next hsame =>
        rw [List.map_cons, hsame]
      · rw [List.map_cons, ih]

end Name

section

variable {σ δ α : Type} {step : σ → δ → σ} {keeps : σ → Prop}

/-- What steps that give a value overwrite is, at the end, what the latest of them gives. -/
theorem foldl_overwrites (view : σ → Option α) {value? : δ → Option α}
    (hkeeps : ∀ s d, keeps s → keeps (step s d))
    (hstep : ∀ s d, keeps s → view (step s d) = (value? d).or (view s))
    (ds : List δ) {s : σ} (h : keeps s) :
    view (ds.foldl step s) = (ds.filterMap value?).getLast?.or (view s) := by
  induction ds generalizing s with
  | nil => rfl
  | cons d ds ih =>
    rw [List.foldl_cons, ih (hkeeps s d h), hstep s d h, ← Option.or_assoc]
    congr 1
    cases hvalue : value? d with
    | none => rw [List.filterMap_cons_none hvalue, Option.or_none]
    | some value =>
      rw [List.filterMap_cons_some hvalue, List.getLast?_cons, Option.or_some]

/-- What each step may add is there, at the end, if it was there or any of them adds it. -/
theorem foldl_adds (view : σ → Prop) {adds : δ → Prop}
    (hkeeps : ∀ s d, keeps s → keeps (step s d))
    (hstep : ∀ s d, keeps s → (view (step s d) ↔ view s ∨ adds d))
    (ds : List δ) {s : σ} (h : keeps s) :
    view (ds.foldl step s) ↔ view s ∨ ∃ d ∈ ds, adds d := by
  induction ds generalizing s with
  | nil => simp
  | cons d ds ih =>
    rw [List.foldl_cons, ih (hkeeps s d h), hstep s d h, or_assoc]
    simp

end

namespace State

def load? (state : State) : Option (String × Bool) :=
  state.resource.map fun resource => (resource, state.additive)

theorem load?_attach (h : state.key = key) :
    (state.attach directive).load? = (directive.resource? key).or state.load? := by
  cases directive with
  | resource other _ _ =>
    by_cases hother : key = other <;> simp [load?, attach, Directive.resource?, h, hother]
  | timed _ _ | named _ _ _ | back _ _ =>
    simp only [attach, Directive.resource?, Option.none_or]
    split <;> rfl
  | state _ | event _ | start _ | error _ | switches _ => rfl

theorem timed_attach (h : state.key = key) :
    (state.attach directive).timed = (directive.timed? key).or state.timed := by
  cases directive with
  | timed other _ =>
    by_cases hother : key = other <;> simp [attach, Directive.timed?, h, hother]
  | resource _ _ _ | named _ _ _ | back _ _ => simp [attach, Directive.timed?, apply_ite timed]
  | state _ | event _ | start _ | error _ | switches _ => rfl

theorem lookup_attach (h : state.key = key) :
    (state.attach directive).named.lookup event =
      (directive.target? key event).or (state.named.lookup event) := by
  cases directive with
  | named other _ trigger =>
    by_cases hother : key = other
    · by_cases htrigger : event = trigger <;>
        simp [attach, Directive.target?, h, hother, htrigger, Name.lookup_insertEntry]
    · simp [attach, Directive.target?, h, hother]
  | resource _ _ _ | timed _ _ | back _ _ => simp [attach, Directive.target?, apply_ite named]
  | state _ | event _ | start _ | error _ | switches _ => rfl

theorem mem_back_attach (h : state.key = key) :
    event ∈ (state.attach directive).back ↔ event ∈ state.back ∨ directive = .back key event := by
  cases directive with
  | back other trigger =>
    by_cases hother : key = other
    · simp [attach, h, hother, Name.mem_insert, or_comm, eq_comm]
    · simp [attach, h, hother, Ne.symm hother]
  | resource _ _ _ | timed _ _ | named _ _ _ => simp [attach, apply_ite back]
  | state _ | event _ | start _ | error _ | switches _ => simp [attach]

structure Orderly (state : State) : Prop where
  additive : state.resource = none → state.additive = false
  named : (state.named.map Prod.fst).Pairwise fun event other => event.before other
  back : state.back.Pairwise fun event other => event.before other

theorem orderly_declare (name : String) : (declare name).Orderly :=
  ⟨fun _ => rfl, .nil, .nil⟩

theorem Orderly.attach (h : state.Orderly) (directive : Directive) :
    (state.attach directive).Orderly := by
  cases directive with
  | resource _ _ _ =>
    rw [State.attach]
    split
    · refine ⟨?_, h.named, h.back⟩
      intro hnone
      cases hnone
    · exact h
  | timed _ _ =>
    rw [State.attach]
    split
    · exact ⟨h.additive, h.named, h.back⟩
    · exact h
  | named _ _ _ =>
    rw [State.attach]
    split
    · refine ⟨h.additive, ?_, h.back⟩
      rw [Name.map_fst_insertEntry]
      exact Name.pairwise_insert h.named
    · exact h
  | back _ _ =>
    rw [State.attach]
    split
    · exact ⟨h.additive, h.named, Name.pairwise_insert h.back⟩
    · exact h
  | state _ | event _ | start _ | error _ | switches _ => exact h

def attachAll (directives : List Directive) (state : State) : State :=
  directives.foldl attach state

theorem attachAll_key (directives : List Directive) (state : State) :
    (state.attachAll directives).key = state.key := by
  induction directives generalizing state with
  | nil => rfl
  | cons directive directives ih => exact (ih _).trans (attach_key state directive)

theorem attachAll_name (directives : List Directive) (state : State) :
    (state.attachAll directives).name = state.name := by
  induction directives generalizing state with
  | nil => rfl
  | cons directive directives ih => exact (ih _).trans (attach_name state directive)

theorem Orderly.attachAll (h : state.Orderly) (directives : List Directive) :
    (state.attachAll directives).Orderly := by
  induction directives generalizing state with
  | nil => exact h
  | cons directive directives ih => exact ih (h.attach directive)

theorem key_attach (state : State) (directive : Directive) (h : state.key = key) :
    (state.attach directive).key = key :=
  (attach_key state directive).trans h

theorem attachAll_overwrites {α : Type} (view : State → Option α) {value? : Directive → Option α}
    (hstep : ∀ state directive, state.key = key →
      view (state.attach directive) = (value? directive).or (view state))
    (directives : List Directive) (h : state.key = key) (hview : view state = none) :
    view (state.attachAll directives) = latest value? directives := by
  rw [attachAll, foldl_overwrites view key_attach hstep directives h, hview, Option.or_none, latest]

theorem mem_back_attachAll (directives : List Directive) (h : state.key = key) :
    event ∈ (state.attachAll directives).back ↔
      event ∈ state.back ∨ .back key event ∈ directives := by
  have hadds := foldl_adds (fun state => event ∈ state.back) key_attach (fun _ _ => mem_back_attach)
    directives h
  simpa [attachAll] using hadds

theorem means_attachAll (directives : List Directive) (name : String) :
    ((declare name).attachAll directives).Means directives := by
  have hkey := attachAll_key directives (declare name)
  have hname := attachAll_name directives (declare name)
  have horderly := (orderly_declare name).attachAll directives
  have hload : ((declare name).attachAll directives).load? =
      latest (Directive.resource? (.of name)) directives :=
    attachAll_overwrites load? (fun _ _ => load?_attach) directives rfl rfl
  constructor
  case key =>
    rw [hkey, hname]
    rfl
  case resource =>
    rw [hkey]
    refine Eq.trans ?_ (congrArg (Option.map Prod.fst) hload)
    rw [load?, Option.map_map]
    exact Option.map_id'.symm
  case additive =>
    rw [hkey]
    refine Eq.trans ?_ (congrArg (Option.any Prod.snd) hload)
    cases hresource : ((declare name).attachAll directives).resource with
    | none => simp [load?, hresource, horderly.additive hresource]
    | some _ => simp [load?, hresource]
  case timed =>
    rw [hkey]
    exact attachAll_overwrites State.timed (fun _ _ => timed_attach) directives rfl rfl
  case named =>
    intro event
    rw [hkey]
    exact attachAll_overwrites (fun state => state.named.lookup event)
      (fun _ _ => lookup_attach) directives rfl rfl
  case namedAscend => exact horderly.named
  case back =>
    intro event
    rw [hkey, mem_back_attachAll directives rfl]
    simp [declare]
  case backAscend => exact horderly.back

end State

theorem firstSpellings_cons (name : String) (names : List String) :
    firstSpellings (name :: names) =
      name :: firstSpellings (names.filter fun other => Name.of other ≠ Name.of name) := by
  simp [firstSpellings, List.eraseDupsBy_cons]

theorem foldl_declareAmong {α : Type} {declare : String → α} {key : α → Name}
    (hkey : ∀ name, key (declare name) = .of name) (names : List String) (items : List α) :
    names.foldl (declareAmong declare key) items =
      items ++ (firstSpellings (names.filter fun name =>
        !items.any fun item => key item = .of name)).map declare := by
  induction names generalizing items with
  | nil => simp [firstSpellings]
  | cons name names ih =>
    rw [List.foldl_cons, ih, declareAmong, List.isSome_find?]
    by_cases hfound : items.any fun item => key item = .of name
    · rw [if_pos hfound, List.filter_cons_of_neg (by simp only [hfound]; decide)]
    · rw [if_neg hfound, List.filter_cons_of_pos (by simp only [hfound]; decide),
        firstSpellings_cons, List.filter_filter, List.map_cons, ← List.append_cons]
      congr 5
      funext other
      simp [hkey, Bool.and_comm, eq_comm]

theorem declared_eq_map (commands : List Command) :
    declared commands =
      { Diagram.empty with
        states := (firstSpellings (declarations .state commands)).map State.declare
        events := (firstSpellings (declarations .event commands)).map Event.declare } := by
  have hstate : ∀ name, State.key (State.declare name) = .of name := fun _ => rfl
  have hevent : ∀ name, Event.key (Event.declare name) = .of name := fun _ => rfl
  rw [declared_eq, foldl_declareAmong hstate, foldl_declareAmong hevent]
  simp

theorem LogFlags.get_foldl_set (several : List LogFlag) (flags : LogFlags) (flag : LogFlag) :
    (several.foldl set flags).get flag ↔ flags.get flag ∨ flag ∈ several := by
  induction several generalizing flags with
  | nil => simp
  | cons other several ih => simp [ih, get_set, or_left_comm, or_assoc]

namespace Diagram

theorem start_perform (diagram : Diagram) (directive : Directive) :
    (diagram.perform directive).start = directive.start?.or diagram.start := by
  cases directive <;> rfl

theorem error_perform (diagram : Diagram) (directive : Directive) :
    (diagram.perform directive).error = directive.error?.or diagram.error := by
  cases directive <;> rfl

theorem flag_perform (diagram : Diagram) (directive : Directive) (flag : LogFlag) :
    (diagram.perform directive).flags.get flag ↔
      diagram.flags.get flag ∨ ∃ flags, directive = .switches flags ∧ flag ∈ flags := by
  cases directive with
  | switches flags => simp [perform, LogFlags.get_foldl_set]
  | state _ | event _ | start _ | error _ | resource _ _ _ | timed _ _ | named _ _ _ | back _ _ =>
    simp [perform]

theorem start_foldl_perform (directives : List Directive) (diagram : Diagram) :
    (directives.foldl perform diagram).start =
      (latest Directive.start? directives).or diagram.start :=
  foldl_overwrites start (fun _ _ _ => trivial) (fun diagram directive (_ : True) =>
    start_perform diagram directive) directives trivial

theorem error_foldl_perform (directives : List Directive) (diagram : Diagram) :
    (directives.foldl perform diagram).error =
      (latest Directive.error? directives).or diagram.error :=
  foldl_overwrites error (fun _ _ _ => trivial) (fun diagram directive (_ : True) =>
    error_perform diagram directive) directives trivial

theorem flag_foldl_perform (directives : List Directive) (diagram : Diagram) (flag : LogFlag) :
    (directives.foldl perform diagram).flags.get flag ↔
      diagram.flags.get flag ∨ ∃ flags, .switches flags ∈ directives ∧ flag ∈ flags := by
  have hadds := foldl_adds (fun diagram => (flags diagram).get flag) (fun _ _ _ => trivial)
    (fun diagram directive (_ : True) => flag_perform diagram directive flag) directives
    (s := diagram) trivial
  rw [hadds]
  apply or_congr_right
  constructor
  · rintro ⟨_, hmem, flags, rfl, hflag⟩
    exact ⟨flags, hmem, hflag⟩
  · rintro ⟨flags, hmem, hflag⟩
    exact ⟨_, hmem, flags, rfl, hflag⟩

theorem states_foldl_perform {directives : List Directive}
    (h : ∀ directive ∈ directives, ∀ name, directive ≠ .state name) :
    (directives.foldl perform diagram).states = diagram.states.map (·.attachAll directives) := by
  induction directives generalizing diagram with
  | nil => exact (List.map_id _).symm
  | cons directive directives ih =>
    obtain ⟨hdirective, hdirectives⟩ := List.forall_mem_cons.1 h
    rw [List.foldl_cons, ih hdirectives, states_perform hdirective, List.map_map]
    rfl

theorem events_foldl_perform {directives : List Directive}
    (h : ∀ directive ∈ directives, ∀ name, directive ≠ .event name) :
    (directives.foldl perform diagram).events = diagram.events := by
  induction directives generalizing diagram with
  | nil => rfl
  | cons directive directives ih =>
    obtain ⟨hdirective, hdirectives⟩ := List.forall_mem_cons.1 h
    rw [List.foldl_cons, ih hdirectives, events_perform hdirective]

end Diagram

theorem saidBy_of_mem_attached (h : directive ∈ attached commands) :
    ∃ keyword, directive.SaidBy keyword ∧ keyword ≠ .state ∧ keyword ≠ .event := by
  obtain ⟨command, hcommand, hdirective⟩ := List.mem_filterMap.1 h
  exact ⟨command.keyword, Command.saidBy_of_directive? hdirective,
    keyword_of_mem_attachments hcommand⟩

theorem mem_attachments {command : Command} :
    command ∈ attachments commands ↔
      command ∈ commands ∧ command.keyword ≠ .state ∧ command.keyword ≠ .event := by
  constructor
  · intro h
    have hmem : command ∈ schedule commands := by
      rw [schedule_eq]
      exact List.mem_append_right _ h
    exact ⟨mem_schedule.1 hmem, keyword_of_mem_attachments h⟩
  · rintro ⟨hmem, hstate, hevent⟩
    have hmem := mem_schedule.2 hmem
    rw [schedule_eq] at hmem
    simpa [hstate, hevent] using hmem

theorem mem_attached
    (h : ∀ keyword, directive.SaidBy keyword → keyword ≠ .state ∧ keyword ≠ .event) :
    directive ∈ attached commands ↔ directive ∈ directives commands := by
  simp only [attached, directives, List.mem_filterMap, mem_attachments]
  apply exists_congr
  intro command
  constructor
  · rintro ⟨⟨hcommand, _⟩, hdirective⟩
    exact ⟨hcommand, hdirective⟩
  · rintro ⟨hcommand, hdirective⟩
    exact ⟨⟨hcommand, h _ (Command.saidBy_of_directive? hdirective)⟩, hdirective⟩

theorem latest_attached {α : Type} {value? : Directive → Option α} {slot : Slot}
    (hslot : slot.pass ∈ Keyword.passes.drop 2)
    (hvalue : ∀ directive, (value? directive).isSome ↔ slot ∈ directive.slots) :
    latest value? (attached commands) = latest value? (directives commands) := by
  have hdisjoint := fun keyword => (Keyword.passes_disjoint keyword).drop (i := 2)
  have hpass : ∀ command : Command, (command.directive?.bind value?).isSome →
      slot.pass command.keyword := by
    intro command hsome
    obtain ⟨value, hbind⟩ := Option.isSome_iff_exists.1 hsome
    obtain ⟨directive, hdirective, hread⟩ := Option.bind_eq_some_iff.1 hbind
    exact (Command.saidBy_of_directive? hdirective).pass
      ((hvalue directive).1 (Option.isSome_of_eq_some hread))
  rw [latest, latest, attached, directives, List.filterMap_filterMap, List.filterMap_filterMap,
    attachments, filterMap_takenIn hdisjoint hslot fun command _ => hpass command]

theorem State.Means.of_attached (h : state.Means (attached commands)) :
    state.Means (directives commands) := by
  have hresource : latest (Directive.resource? state.key) (attached commands) =
      latest (Directive.resource? state.key) (directives commands) :=
    latest_attached (by simp [Slot.pass, Keyword.passes]) Directive.isSome_resource?
  have htimed : latest (Directive.timed? state.key) (attached commands) =
      latest (Directive.timed? state.key) (directives commands) :=
    latest_attached (by simp [Slot.pass, Keyword.passes]) Directive.isSome_timed?
  have hnamed : ∀ event, latest (Directive.target? state.key event) (attached commands) =
      latest (Directive.target? state.key event) (directives commands) := fun event =>
    latest_attached (by simp [Slot.pass, Keyword.passes]) Directive.isSome_target?
  have hback : ∀ event, .back state.key event ∈ attached commands ↔
      .back state.key event ∈ directives commands := by
    intro event
    apply mem_attached
    rintro keyword rfl
    decide
  exact
    { h with
      resource := hresource ▸ h.resource
      additive := hresource ▸ h.additive
      timed := htimed ▸ h.timed
      named := fun event => hnamed event ▸ h.named event
      back := fun event => (h.back event).trans (hback event) }

theorem not_state_of_mem_attached (h : directive ∈ attached commands) (name : String) :
    directive ≠ .state name := by
  rintro rfl
  obtain ⟨keyword, hsaid, hstate, _⟩ := saidBy_of_mem_attached h
  exact hstate hsaid

theorem not_event_of_mem_attached (h : directive ∈ attached commands) (name : String) :
    directive ≠ .event name := by
  rintro rfl
  obtain ⟨keyword, hsaid, _, hevent⟩ := saidBy_of_mem_attached h
  exact hevent hsaid

def performed (commands : List Command) : Diagram :=
  (attached commands).foldl Diagram.perform (declared commands)

theorem states_performed (commands : List Command) :
    (performed commands).states =
      (firstSpellings (declarations .state commands)).map fun name =>
        (State.declare name).attachAll (attached commands) := by
  rw [performed, Diagram.states_foldl_perform fun _ => not_state_of_mem_attached, declared_eq_map,
    List.map_map]
  rfl

theorem flag_performed (commands : List Command) (flag : LogFlag) :
    (performed commands).flags.get flag ↔
      ∃ flags, .switches flags ∈ directives commands ∧ flag ∈ flags := by
  have hnone : ¬ (declared commands).flags.get flag := by
    simp [declared_eq_map, Diagram.empty]
  have hswitches : ∀ flags, flag ∈ flags →
      (.switches flags ∈ attached commands ↔ .switches flags ∈ directives commands) := by
    intro flags hflag
    apply mem_attached
    rintro keyword rfl
    constructor <;> rintro rfl <;> cases hflag
  rw [performed, Diagram.flag_foldl_perform, or_iff_right hnone]
  apply exists_congr
  intro flags
  exact and_congr_left (hswitches flags)

theorem means_performed (commands : List Command) : (performed commands).Means commands := by
  constructor
  case states =>
    rw [states_performed, List.map_map]
    exact List.map_id'' (fun name => State.attachAll_name (attached commands) (.declare name)) _
  case state =>
    intro state hstate
    rw [states_performed] at hstate
    obtain ⟨name, _, rfl⟩ := List.mem_map.1 hstate
    exact (State.means_attachAll (attached commands) name).of_attached
  case events =>
    rw [performed, Diagram.events_foldl_perform fun _ => not_event_of_mem_attached, declared_eq_map]
  case start =>
    rw [performed, Diagram.start_foldl_perform, declared_eq_map, Diagram.empty, Option.or_none,
      latest_attached (by simp [Slot.pass, Keyword.passes]) Directive.isSome_start?]
  case error =>
    rw [performed, Diagram.error_foldl_perform, declared_eq_map, Diagram.empty, Option.or_none,
      latest_attached (by simp [Slot.pass, Keyword.passes]) Directive.isSome_error?]
  case flags => exact flag_performed commands

theorem toDiagram_bindCommands [Checksum] (commands : List Command) (earlier : List Fault) :
    (bindCommands commands earlier).1.toDiagram = performed commands :=
  diagram_bindCommands commands earlier

/-- A bound diagram is what the fitting ones among its commands say. -/
theorem means_bindCommands [Checksum] (commands : List Command) (earlier : List Fault) :
    (bindCommands commands earlier).1.toDiagram.Means commands := by
  rw [toDiagram_bindCommands]
  exact means_performed commands

end SceneFlow
