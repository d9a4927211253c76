import SceneFlow.Proofs.Machine.Return
import SceneFlow.Proofs.Machine.Visit
import SceneFlow.Stage

/-!
What is loaded. An additive state is an overlay: its resource comes on top of what is loaded
already, and a way back takes it off again in place of a load, so that the state below finds its own
resource where it was. Unless that one was taken off before: of two overlays that lead back, the
lower one is released on the first way back and returned to on the second.
-/

namespace SceneFlow

variable {graph : Graph} {state : State} {machine : Machine} {now : Nat} {ready : Bool}
  {current key other : Name} {resource : String} {loaded : List String} {transition : Transition}
  {entry : Entry} {entries : List Entry} {visits : List Name} {moment : Moment} {course : Course}
  {action : Action}

/-- The stage of a course whose calls take effect as soon as they are made. -/
def Course.stage (course : Course) : Stage := ⟨course.machine, course.calls.foldl Call.perform []⟩

theorem Course.stage_tick (graph : Graph) (now : Nat) (ready : Bool) (course : Course) :
    course.stage.tick graph now ready =
      ((course.react graph (.tick now ready)).after.stage,
        course.machine.tick graph now ready) := by
  rw [react_tick]
  simp only [Stage.tick, stage, List.foldl_append]
  generalize course.machine.tick graph now ready = ticked
  obtain ⟨call, step⟩ := ticked
  cases call <;> rfl

theorem latestOther_concat :
    LatestOther (visits ++ [current]) current other ↔ LatestOther visits current other := by
  simp [← find?_reverse_eq_some_iff]

theorem not_latestOther_singleton : ¬ LatestOther [current] current other := by
  simp [← find?_reverse_eq_some_iff]

theorem LatestOther.eq_of_ne (h : LatestOther visits current other)
    (hlast : visits.getLast? = some key) (hne : key ≠ current) : other = key := by
  obtain ⟨before, rfl⟩ := List.getLast?_eq_some_iff.1 hlast
  rw [← find?_reverse_eq_some_iff, List.reverse_append, List.reverse_singleton,
    List.singleton_append, List.find?_cons_of_pos (by simpa using hne)] at h
  exact (Option.some.inj h).symm

namespace Entry

def Loads (graph : Graph) (key : Name) (entry : Entry) : Prop :=
  entry.state = key ∧ entry.transition.bind (·.unload? graph) = none

def Releases (graph : Graph) (key : Name) (entry : Entry) : Prop :=
  ∃ transition, entry.transition = some transition ∧ transition.source = key ∧
    (transition.unload? graph).isSome

end Entry

/-- A state whose resource was unloaded by an entry, and loaded by none after it. -/
def Released (graph : Graph) (key : Name) (entries : List Entry) : Prop :=
  ∃ before entry after, entries = before ++ entry :: after ∧ entry.Releases graph key ∧
    ∀ later ∈ after, ¬ later.Loads graph key

theorem released_concat (h : entry.Releases graph key) :
    Released graph key (entries ++ [entry]) :=
  ⟨entries, entry, [], rfl, h, List.forall_mem_nil _⟩

theorem Released.concat (h : Released graph key entries) (hentry : ¬ entry.Loads graph key) :
    Released graph key (entries ++ [entry]) := by
  obtain ⟨before, released, after, rfl, hreleased, hafter⟩ := h
  refine ⟨before, released, after ++ [entry], by simp, hreleased, ?_⟩
  exact List.forall_mem_append.2 ⟨hafter, List.forall_mem_singleton.2 hentry⟩

def loadedBy (graph : Graph) (entries : List Entry) : List String :=
  (entries.filterMap (·.call? graph)).foldl Call.perform []

theorem loadedBy_concat (graph : Graph) (entries : List Entry) (entry : Entry) :
    loadedBy graph (entries ++ [entry]) =
      (entry.call? graph).elim (loadedBy graph entries)
        (Call.perform (loadedBy graph entries)) := by
  rw [loadedBy, List.filterMap_append, List.foldl_append]
  cases h : entry.call? graph <;> simp [h, loadedBy]

theorem loadedBy_of_unload (h : entry.transition.bind (·.unload? graph) = some resource) :
    loadedBy graph (entries ++ [entry]) = eraseLast resource (loadedBy graph entries) := by
  rw [loadedBy_concat, Entry.call?, h]
  rfl

theorem loadedBy_of_load (h : entry.transition.bind (·.unload? graph) = none)
    (hstate : graph.state? entry.state = some state) (hresource : state.resource = some resource) :
    loadedBy graph (entries ++ [entry]) =
      (if state.additive then loadedBy graph entries else []) ++ [resource] := by
  rw [loadedBy_concat, Entry.call?, h, hstate]
  simp only [Option.bind_some, hresource, Option.map_some, Option.elim_some]
  cases state.additive <;> rfl

theorem Transition.state?_of_unload? (h : transition.unload? graph = some resource) :
    ∃ state, graph.state? transition.source = some state ∧ state.additive ∧
      state.resource = some resource ∧ ∃ event, transition.trigger = .back event := by
  obtain ⟨source, target, trigger, discarded⟩ := transition
  cases trigger with
  | timed _ => cases h
  | named _ => cases h
  | back event =>
    obtain ⟨state, hstate, hresource⟩ := Option.bind_eq_some_iff.1 h
    split at hresource
    · next hadditive => exact ⟨state, hstate, hadditive, hresource, event, rfl⟩
    · cases hresource

def Holds (graph : Graph) (entries : List Entry) (loaded : List String) (key : Name) : Prop :=
  ∀ state resource, graph.state? key = some state → state.resource = some resource →
    resource ∈ loaded ∨ Released graph key entries

/-- Under the copies of an overlay's resource lies what was loaded for the state before it. -/
def Covers (graph : Graph) (entries : List Entry) (resource : String) (other : Name) : Prop :=
  ∃ base copies, loadedBy graph entries = base ++ List.replicate (copies + 1) resource ∧
    Holds graph entries base other

structure Keeps (graph : Graph) (entries : List Entry) (current : Name) : Prop where
  own : Holds graph entries (loadedBy graph entries) current
  under : ∀ state resource other, graph.state? current = some state → state.additive →
    state.resource = some resource → LatestOther (entries.map Entry.state) current other →
      Covers graph entries resource other ∨ Released graph other entries

theorem Holds.concat (h : Holds graph entries loaded key) (hentry : ¬ entry.Loads graph key) :
    Holds graph (entries ++ [entry]) loaded key := by
  intro state resource hstate hresource
  exact (h state resource hstate hresource).imp_right fun hreleased => hreleased.concat hentry

theorem holds_of_load (entries : List Entry)
    (h : entry.transition.bind (·.unload? graph) = none) :
    Holds graph (entries ++ [entry]) (loadedBy graph (entries ++ [entry])) entry.state := by
  intro state resource hstate hresource
  left
  rw [loadedBy_of_load h hstate hresource]
  exact List.mem_concat_self

theorem Covers.holds (h : Covers graph entries resource other) :
    Holds graph entries (eraseLast resource (loadedBy graph entries)) other := by
  obtain ⟨base, copies, hloaded, hbase⟩ := h
  rw [hloaded, List.replicate_succ', ← List.append_assoc, eraseLast_append_self]
  intro state own hstate hown
  exact (hbase state own hstate hown).imp_left (List.mem_append_left _)

inductive Leads : List Entry → Name → Prop
  | start (state : Name) : Leads [⟨state, none⟩] state
  | next {entries : List Entry} {transition : Transition} :
      Leads entries transition.source →
      (∀ event, transition.trigger = .back event →
        LatestOther (entries.map Entry.state) transition.source transition.target) →
      Leads (entries ++ [.via transition]) transition.target

theorem Leads.getLast? (h : Leads entries current) :
    (entries.map Entry.state).getLast? = some current := by
  cases h with
  | start => rfl
  | next => simp [Entry.via]

theorem Keeps.unload (h : Keeps graph entries transition.source)
    (hlast : (entries.map Entry.state).getLast? = some transition.source)
    (hunload : transition.unload? graph = some resource)
    (hother : LatestOther (entries.map Entry.state) transition.source transition.target) :
    Keeps graph (entries ++ [.via transition]) transition.target := by
  obtain ⟨overlay, hoverlay, hadditive, hresource, _⟩ := Transition.state?_of_unload? hunload
  have hnot : ¬ (Entry.via transition).Loads graph transition.target := by
    simp [Entry.Loads, Entry.via, hunload]
  constructor
  case own =>
    have hasked : (Entry.via transition).transition.bind (·.unload? graph) = some resource :=
      hunload
    rw [loadedBy_of_unload hasked]
    cases h.under overlay resource transition.target hoverlay hadditive hresource hother with
    | inl hcovers => exact hcovers.holds.concat hnot
    | inr hreleased => exact fun _ _ _ _ => .inr (hreleased.concat hnot)
  case under =>
    intro state own other _ _ _ hlatest
    rw [List.map_append] at hlatest
    obtain rfl := (latestOther_concat.1 hlatest).eq_of_ne hlast hother.1.symm
    exact .inr (released_concat ⟨transition, rfl, rfl, by simp [hunload]⟩)

theorem Keeps.load (h : Keeps graph entries transition.source)
    (hlast : (entries.map Entry.state).getLast? = some transition.source)
    (hunload : transition.unload? graph = none) :
    Keeps graph (entries ++ [.via transition]) transition.target := by
  have hasked : (Entry.via transition).transition.bind (·.unload? graph) = none := hunload
  constructor
  case own => exact holds_of_load entries hasked
  case under =>
    intro state resource other hstate hadditive hresource hlatest
    have hloaded : loadedBy graph (entries ++ [.via transition]) =
        loadedBy graph entries ++ [resource] := by
      rw [loadedBy_of_load hasked hstate hresource, if_pos hadditive]
    rw [List.map_append] at hlatest
    have hlatest := latestOther_concat.1 hlatest
    have hnot : ¬ (Entry.via transition).Loads graph other := fun hloads => hlatest.1 hloads.1.symm
    by_cases hself : transition.source = transition.target
    · rw [hself] at h
      apply (h.under state resource other hstate hadditive hresource hlatest).imp
      · rintro ⟨base, copies, hbase, hholds⟩
        refine ⟨base, copies + 1, ?_, hholds.concat hnot⟩
        rw [hloaded, hbase, List.append_assoc, ← List.replicate_succ']
      · exact fun hreleased => hreleased.concat hnot
    · obtain rfl := hlatest.eq_of_ne hlast hself
      exact .inl ⟨loadedBy graph entries, 0, hloaded, h.own.concat hnot⟩

theorem Leads.keeps (graph : Graph) (h : Leads entries current) : Keeps graph entries current := by
  induction h with
  | start state =>
    constructor
    case own =>
      have hasked : (Entry.mk state none).transition.bind (·.unload? graph) = none := rfl
      exact holds_of_load [] hasked
    case under =>
      intro _ _ _ _ _ _ hlatest
      exact absurd hlatest not_latestOther_singleton
  | @next entries transition h hback ih =>
    cases hunload : transition.unload? graph with
    | none => exact ih.load h.getLast? hunload
    | some resource =>
      obtain ⟨_, _, _, _, event, htrigger⟩ := Transition.state?_of_unload? hunload
      exact ih.unload h.getLast? hunload (hback event htrigger)

theorem Outcome.transition?_eq_some_iff {outcome : Outcome} :
    outcome.transition? = some transition ↔ outcome = .transitioned transition := by
  cases outcome <;> simp [transition?]

namespace Course

theorem leads_next {journey : Journey} (h : Leads journey.entries journey.present.state)
    (htells : journey.Tells graph course) (hremembers : course.Remembers) (action : Action) :
    let moment := course.react graph action
    Leads (journey.next moment).entries (journey.next moment).present.state := by
  intro moment
  rw [Journey.entries_next]
  cases htransition : moment.transition? with
  | none =>
    rw [Journey.next_of_none htransition]
    simpa using h
  | some transition =>
    rw [Journey.next_of_some htransition]
    cases action with
    | submit name => cases (transition?_submit graph name course).symm.trans htransition
    | tick now ready =>
      have htick : (course.machine.tick graph now ready).2.outcome.transition? = some transition :=
        htransition
      have hsource :=
        (Machine.tick_of_transition (htells.stands.begin now).2 htick).1
      rw [← htells.stands.current, ← hsource] at h
      refine .next h ?_
      intro event htrigger
      obtain ⟨source, target, _, discarded⟩ := transition
      obtain rfl : _ = Trigger.back event := htrigger
      have hway := Machine.wayBack?_of_tick (Outcome.transition?_eq_some_iff.1 htick)
      have hlatest := hremembers.wayBack?_map_fst.1 hway
      rwa [← htells.states, ← hsource] at hlatest

theorem leads_journey (h : Machine.create graph = .ok machine) (actions : List Action) :
    let journey := journey graph machine actions
    Leads journey.entries journey.present.state := by
  induction actions using List.reverseRecOn with
  | nil => exact .start machine.current
  | append_singleton actions action ih =>
    rw [journey, run_concat, Journey.ofMoments_concat]
    exact leads_next ih (tells_journey h actions)
      ((Reachable.start h).finish actions).remembers action

theorem stage_loaded_of_begun {journey : Journey} (h : journey.Tells graph course)
    (hbegun : journey.present.isBegun) : course.stage.loaded = loadedBy graph journey.entries := by
  rw [stage, h.calls_of_begun hbegun, loadedBy]

/-- While a state waits for a transition its resource is loaded, unless a way back out of the state
has unloaded it and no entry since then has loaded it again. -/
theorem loaded_or_released (h : Machine.create graph = .ok machine) (actions : List Action) :
    let course := (start machine).finish graph actions
    let entries := (journey graph machine actions).entries
    ∀ since state resource, course.machine.phase = .waiting since →
      course.machine.currentState? graph = some state → state.resource = some resource →
        resource ∈ course.stage.loaded ∨ Released graph course.machine.current entries := by
  intro course entries since state resource hphase hstate hresource
  have htells := tells_journey h actions
  have hbegun : (journey graph machine actions).present.isBegun := by
    by_contra hnot
    rw [htells.stands.phase.2 hnot] at hphase
    cases hphase
  have hkeeps := (leads_journey h actions).keeps graph
  rw [stage_loaded_of_begun htells hbegun]
  rw [Machine.currentState?] at hstate
  rw [htells.stands.current] at hstate ⊢
  exact hkeeps.own state resource hstate hresource

end Course

def Graph.panels : Graph where
  states := [
    ⟨"Menu", ⟨"menu"⟩, some "MenuScene", true, none, [(⟨"open"⟩, ⟨"help"⟩)], [⟨"close"⟩]⟩,
    ⟨"Help", ⟨"help"⟩, some "HelpScene", true, none, [], [⟨"close"⟩]⟩]
  events := [⟨"open", ⟨"open"⟩⟩, ⟨"close", ⟨"close"⟩⟩]
  start := some ⟨"menu"⟩
  error := none
  flags := .none
  checksum := ""
  errors := 0

def Machine.inMenu : Machine :=
  ⟨⟨"menu"⟩, .entering, [], ⟨⟨"menu"⟩, [⟨"open"⟩, ⟨"close"⟩], []⟩, none⟩

def Action.openAndCloseTwice : List Action :=
  [.submit "open", .tick 0 true, .submit "close", .tick 0 true, .submit "close", .tick 0 true,
    .tick 0 true]

theorem Course.loaded_or_released_panels :
    let actions := Action.openAndCloseTwice
    let course := (start .inMenu).finish .panels actions
    course.machine.phase = .waiting 0 ∧ course.stage.loaded = [] ∧
      Released .panels ⟨"help"⟩ (journey .panels .inMenu actions).entries := by
  intro actions course
  have hcreate : Machine.create .panels = .ok .inMenu := rfl
  have hphase : course.machine.phase = .waiting 0 := rfl
  have hloaded : course.stage.loaded = [] := rfl
  have hor := loaded_or_released hcreate actions 0 _ "HelpScene" hphase rfl rfl
  refine ⟨hphase, hloaded, hor.resolve_left ?_⟩
  show "HelpScene" ∉ course.stage.loaded
  rw [hloaded]
  exact List.not_mem_nil

/-- The lower panel was released on the first way back and is returned to on the second, which
unloads the upper one and loads nothing. -/
theorem Course.waits_unloaded_panels :
    let course := (start .inMenu).finish .panels Action.openAndCloseTwice
    Machine.create .panels = .ok .inMenu ∧ course.machine.phase = .waiting 0 ∧
      (course.machine.currentState? .panels).bind (·.resource) = some "HelpScene" ∧
      "HelpScene" ∉ course.stage.loaded := by
  decide

end SceneFlow
